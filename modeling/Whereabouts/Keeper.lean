import Whereabouts.Settings
import Whereabouts.Spool
import Whereabouts.Archive.Store
import Whereabouts.Mail.Interpretation
import Whereabouts.Page.Source
/-!
# The keeper of the board

The keeper holds the board and runs a cycle again and again: it takes the mail that waits, applies
it, writes the tables that changed and publishes the pages. In one hour of the day, and once on each
date, it first keeps yesterday's page and roster and begins a new day.

A cycle stops at its first failure and keeps what it did before. Mail leaves the spool before it is
applied, so no later cycle applies it again; a table that could not be written stays marked and is
written by a later cycle.

A cycle knows the time when it began, and the time when it fetched the mail. How the mail is read is
left to a reader.
-/
namespace Whereabouts

open Whereabouts.Calendar Whereabouts.Mail

inductive KeeperError where
  | template (error : Page.TemplateError)
  | store (error : ArchiveError)
  | mailbox (error : SpoolError)
deriving DecidableEq

def KeeperError.message : KeeperError → String
  | template error => error.message
  | store error => "store error: " ++ error.message
  | mailbox error => "mailbox error: " ++ error.message

/-- What the keeper notes of its work. -/
inductive Event where
  | letter (path : String) (outcome : Outcome)
  /-- The file was no letter, and it was removed. -/
  | notLetter (path : String)
  | rejectionNotLogged (error : ArchiveError)
  /-- The day before this date was kept. -/
  | rollover (today : Date)
deriving DecidableEq

def Event.message : Event → String
  | letter path (.applied sender _ _) => path ++ ": applied for " ++ sender
  | letter path .ignored => path ++ ": ignored, it names no sender"
  | letter path (.rejected sender returnPath) =>
    path ++ ": rejected, " ++ sender ++ " by " ++ returnPath
  | notLetter path => path ++ ": no letter"
  | rejectionNotLogged error => "rejection not logged: " ++ error.message
  | rollover today => "rollover of " ++ String.ofList today.slashed

structure Keeper where
  settings : Settings
  board : Board
  /-- The date of the last rollover. -/
  lastRollover : Option Date
  /-- The tables that changed and are not written yet. -/
  unsaved : Changes
  /-- All events since the start. -/
  journal : List Event
deriving DecidableEq

/-- Work of the keeper, which may stop with an error; the keeper is what it is at that point. -/
abbrev Work (m : Type → Type) (α : Type) : Type := ExceptT KeeperError (StateT Keeper m) α

namespace Keeper

def layout (keeper : Keeper) : Archive.Layout := keeper.settings.layout

def note (event : Event) (keeper : Keeper) : Keeper :=
  { keeper with journal := keeper.journal ++ [event] }

variable {m : Type → Type} [Monad m] [Disk m]

/-! ### The start -/

/-- What was loaded, or a value in its place. -/
def loadedOr {α : Type} (instead : α) (request : ExceptT ArchiveError m α) : m α :=
  (fun loaded => loaded.toOption.getD instead) <$> request.run

/-- The board with the managers and the presets as their files are now. If a file cannot be loaded
the managers stay and no preset applies. -/
def reload (layout : Archive.Layout) (now : Instant) (board : Board) : m Board := do
  let managers ← loadedOr board.managers (Archive.loadManagers layout board.domain)
  let presets ← loadedOr .empty (Archive.loadPresets layout)
  return { board with managers, roster := (board.roster.seed presets now).1 }

/-- The board as it was saved; a table that cannot be loaded is empty. -/
def loadBoard (settings : Settings) : m Board := do
  let roster ← loadedOr .empty (Archive.loadRoster settings.layout)
  let grouped ← loadedOr .empty (Archive.loadNotices settings.layout)
  let listed ← loadedOr .empty (Archive.loadAlternates settings.layout)
  return {
    Board.new settings.domain with
    roster, notices := (NoticeIndex.load grouped).1, alternates := Alternates.ofListed listed }

def start (settings : Settings) (now : Instant) : m Keeper := do
  let saved ← loadBoard settings
  let board ← reload settings.layout now saved
  return { settings, board, lastRollover := none, unsaved := .none, journal := [] }

/-! ### Steps of a cycle -/

/-- Work on the disk that does not stop the keeper's. -/
def onDisk {α : Type} (work : m α) : Work m α := ExceptT.lift (StateT.lift work)

/-- A request that stops the work if it fails. -/
def request {ε α : Type} (cause : ε → KeeperError) (asked : ExceptT ε m α) : Work m α :=
  ExceptT.mk (StateT.lift (Except.mapError cause <$> asked.run))

def archived {α : Type} (asked : ExceptT ArchiveError m α) : Work m α := request .store asked

def readTemplate : Work m String := do
  let keeper ← get
  request .template (Page.readTemplate keeper.settings.template)

def saveNotices : Work m Unit := do
  let keeper ← get
  archived (Archive.saveNotices keeper.layout keeper.board.notices.grouped)
  set { keeper with unsaved := { keeper.unsaved with notices := false } }

def saveAlternates : Work m Unit := do
  let keeper ← get
  archived (Archive.saveAlternates keeper.layout keeper.board.alternates.listed)
  set { keeper with unsaved := { keeper.unsaved with alternates := false } }

/-- Does the work if the keeper asks for it. -/
def whenever (asks : Keeper → Bool) (work : Work m Unit) : Work m Unit := do
  if asks (← get) then work else return

/-- Writes the tables that are marked, and takes each mark away. -/
def flush : Work m Unit := do
  whenever (·.unsaved.notices) saveNotices
  whenever (·.unsaved.alternates) saveAlternates

/-- Publishes both pages, and saves the roster between them. -/
def publish (now : Instant) : Work m Unit := do
  let template ← readTemplate
  let keeper ← get
  let context := keeper.settings.context now
  let live := Page.statusPage template keeper.board context .live
  let absence := Page.absencePage template keeper.board context
  archived (Archive.publish keeper.layout .live live)
  archived (Archive.saveRoster keeper.layout keeper.board.roster)
  archived (Archive.publish keeper.layout .absence absence)

/-! ### Mail -/

/-- The tables of both. -/
def marked (one two : Changes) : Changes :=
  ⟨one.notices || two.notices, one.alternates || two.alternates⟩

/-- Notes the outcome of a letter and marks the tables that it changed. -/
def record (path : String) (outcome : Outcome) (keeper : Keeper) : Keeper :=
  let noted := keeper.note (.letter path outcome)
  match outcome with
  | .applied _ _ changes => { noted with unsaved := marked keeper.unsaved changes }
  | .ignored | .rejected _ _ => noted

/-- Logs a letter that was turned down. That the log cannot be written does not stop the work. -/
def logOutcome (today : Date) (outcome : Outcome) : Work m Unit := do
  match outcome with
  | .rejected sender returnPath =>
    let logged ← onDisk (Archive.logRejection (← get).layout ⟨today, sender, returnPath⟩).run
    match logged with
    | .ok () => return
    | .error error => modify (note (.rejectionNotLogged error))
  | .applied _ _ _ | .ignored => return

/-- Takes a letter from the spool and applies it. -/
def accept (today : Date) (letter : String × Message) : Work m Unit := do
  request .mailbox (Spool.take letter.1)
  let keeper ← get
  let (board, outcome) := interpret keeper.board letter.2
  set (record letter.1 outcome { keeper with board })
  logOutcome today outcome

/-- Removes a file that is no letter. -/
def discard (path : String) : Work m Unit := do
  request .mailbox (Spool.take path)
  modify (note (.notLetter path))

/-- Takes all mail that waits; what is no letter goes first. -/
def takeMail (reader : Letter.Reader) (now received : Instant) : Work m Unit := do
  let keeper ← get
  let waiting ← request .mailbox (Spool.fetch reader keeper.settings.spoolDirectory received)
  waiting.others.forM discard
  waiting.letters.forM (accept now.date)

/-! ### The new day -/

def rolloverDue (keeper : Keeper) (now : Instant) : Bool :=
  now.time.hour = keeper.settings.rolloverHour && keeper.lastRollover ≠ some now.date

/-- The board without yesterday's records and without the notices that have ended. -/
def forNewDay (now : Instant) (board : Board) : Board :=
  { board with roster := .empty, notices := (board.notices.collectGarbage now).1 }

/-- Keeps yesterday's page and roster, and begins a new day. -/
def rollover (now : Instant) : Work m Unit := do
  let template ← readTemplate
  let keeper ← get
  let page := Page.statusPage template keeper.board (keeper.settings.context now) .backup
  archived (Archive.publish keeper.layout (.backup now.date.previous) page)
  archived (Archive.saveSnapshot keeper.layout now.date.previous keeper.board.roster)
  let board ← onDisk (reload keeper.layout now (forNewDay now keeper.board))
  let unsaved := { keeper.unsaved with notices := true }
  set (note (.rollover now.date) { keeper with board, unsaved, lastRollover := some now.date })
  flush

/-! ### Cycles -/

def cycle (reader : Letter.Reader) (now received : Instant) : Work m Unit := do
  whenever (·.rolloverDue now) (rollover now)
  takeMail reader now received
  flush
  publish now

/-- One cycle: how it ended, and the keeper after it. -/
def runCycle (reader : Letter.Reader) (keeper : Keeper) (now received : Instant) :
    m (Except KeeperError Unit × Keeper) :=
  (cycle reader now received).run.run keeper

end Keeper

end Whereabouts
