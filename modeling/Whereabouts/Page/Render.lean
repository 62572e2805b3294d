import Whereabouts.Board
import Whereabouts.Page.Cell
import Whereabouts.Page.Placeholder
import Whereabouts.Page.Template
/-!
# Pages

A page is its template with a header below the line that opens the body and two coloured cells in
place of each name and slot line. The live page and the backup page show where people are and
differ in their links; the absence page lists the notices. Every line of a page ends in a carriage
return and a line feed.
-/
namespace Whereabouts.Page

open Whereabouts.Text Whereabouts.Calendar

inductive Kind where
  /-- The page of the day, with a link to yesterday's backup. -/
  | live
  /-- Yesterday's page as it was in the end, with links to the days beside it. -/
  | backup
deriving DecidableEq

structure Context where
  now : Instant
  manualUrl : String
  /-- How often the page is made anew. -/
  intervalMinutes : Nat
deriving DecidableEq

/-- The file name of the backup page of a date. -/
def backupName (date : Date) : String := String.ofList (date.compact ++ ".html".toList)

def endLine : List Char := ['\r', '\n']

/-! ### Headers -/

def lastUpdated (context : Context) : List Char :=
  "<table border=\"0\" width=\"100%\"><tbody><tr><td align=\"right\">最終更新日時(".toList ++
    digits context.intervalMinutes ++ "分毎更新)：".toList ++ context.now.onPage ++
    "</td></tr></tbody></table>".toList ++ endLine

def links (kind : Kind) (today : Date) : List Char :=
  match kind with
  | .live => "bk/".toList ++ (backupName today.previous).toList ++ "\">←前日</a>".toList
  | .backup =>
    (backupName today.previous.previous).toList ++ "\">←前日</a>◆<a href=\"".toList ++
      (backupName today).toList ++ "\">翌日→</a>".toList

def navigation (kind : Kind) (context : Context) : List Char :=
  "<table border=\"0\" width=\"100%\"><tbody><tr><td align=\"left\"><a href=\"".toList ++
    links kind context.now.date ++ "</td><td align=\"right\"><a href=\"".toList ++
    context.manualUrl.toList ++ "\" target=\"_blank\">マニュアル</a></td></tr></tbody></table>".toList ++
    endLine

/-- One entry for each colour, in the order of the legend. -/
def legendEntries : List Shown :=
  [.declared .office, .declared .remote, .home, .declared .vacation, .declared .contact, .unknown]

def legend : List Char :=
  ("<table cellspacing=\"3\" width=\"40%\" align=\"right\"><tbody>" ++
    "<tr align=\"center\"><td width=\"10%\" align=\"right\">凡例</td>").toList ++
    legendEntries.flatMap (fun shown =>
      "<td width=\"15%\" ".toList ++ shown.style.toList ++ ['>'] ++ shown.label.toList ++
        "</td>".toList) ++
    "</tr></tbody></table>".toList ++ endLine

/-! ### Cells -/

/-- Both cells of a person in one style. -/
def cells (slot : Slot) (style : String) (content : List Char) : List Char :=
  "      <td ".toList ++ style.toList ++ ['>'] ++ slot.name ++ "</td>".toList ++ endLine ++
    (if slot.wide then "      <td colspan=\"2\" " else "      <td ").toList ++
    style.toList ++ ['>'] ++ content ++ endLine

/-- The text of a slot with the contact number and, if somebody reported the absence, with who did. -/
def filled (rest : List Char) (cell : Cell) : List Char :=
  let tel := cell.tel.map fun tel => escape tel.toList
  match cell.reportedBy with
  | some reporter =>
    if reporter = "" then embed rest tel
    else embedPair rest tel (escape ("不在連絡：".toList ++ reporter.toList))
  | none => embed rest tel

def statusCells (board : Board) (now : Instant) (slot : Slot) : List Char :=
  let address := slot.holder.onBoard board.domain
  let cell := resolve (board.roster.find? address) (board.notices.forSubject address) now
  cells slot cell.shown.style (cell.text ++ filled slot.rest cell)

/-- All notices about a person on one line; a text of its own if there are none. -/
def absenceCells (board : Board) (slot : Slot) : List Char :=
  match board.notices.forSubject (slot.holder.onBoard board.domain) with
  | [] => cells slot "style='background:white;'" (embed slot.rest (some (escape "不在予定なし".toList)))
  | notices =>
    let summaries := joinWith ", ".toList (notices.map fun notice => notice.summary.toList)
    cells slot "style='background:gainsboro;'" (embed slot.rest (some (escape summaries)))

/-! ### Whole pages -/

def renderPiece (header : List Char) (fill : Slot → List Char) : Piece → List Char
  | .line text => text ++ endLine
  | .bodyLine text => text ++ endLine ++ header
  | .slot slot => fill slot

def render (template header : List Char) (fill : Slot → List Char) : List Char :=
  (pieces template).flatMap (renderPiece header fill)

def statusPage (template : String) (board : Board) (context : Context) (kind : Kind) : String :=
  String.ofList <| render template.toList
    (navigation kind context ++ lastUpdated context ++ legend) (statusCells board context.now)

def absencePage (template : String) (board : Board) (context : Context) : String :=
  String.ofList <| render template.toList (lastUpdated context) (absenceCells board)

end Whereabouts.Page
