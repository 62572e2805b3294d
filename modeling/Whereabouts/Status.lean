/-!
# Statuses

What a person declares for half a day, and what the board shows. The board shows two things nobody
can declare: that the day is over, and that nothing is known.
-/
namespace Whereabouts

/-! ### Declared -/

inductive Status where
  | office
  | remote
  | offduty
  | vacation
  | leave
  /-- The person wrote in, but nothing known was declared. -/
  | contact
deriving DecidableEq, Repr, Inhabited

namespace Status

def name : Status → String
  | office => "office"
  | remote => "remote"
  | offduty => "offduty"
  | vacation => "vacation"
  | leave => "leave"
  | contact => "contact"

def all : List Status := [office, remote, offduty, vacation, leave, contact]

def ofName? (text : String) : Option Status := all.find? (·.name == text)

/-- The answer to a text that names no status. -/
def unknownName : String := "Matching variant not found"

theorem ofName?_name (status : Status) : ofName? status.name = some status := by
  cases status <;> rfl

end Status

/-! ### Shown -/

inductive Shown where
  | declared (status : Status)
  /-- The day is over. -/
  | home
  /-- Nothing is known. -/
  | unknown
deriving DecidableEq, Repr

namespace Shown

def name : Shown → String
  | declared status => status.name
  | home => "home"
  | unknown => "unknown"

/-- The background of the cell. -/
def color : Shown → String
  | declared .office => "lime"
  | declared .remote => "aqua"
  | home => "yellow"
  | declared .offduty | declared .vacation | declared .leave => "gainsboro"
  | declared .contact => "lightcyan"
  | unknown => "darkgray"

/-- The attribute that gives a cell its background. -/
def style (shown : Shown) : String := "style='background:" ++ shown.color ++ ";'"

/-- The text of the legend. The three kinds of absence share one. -/
def label : Shown → String
  | declared .office => "会社"
  | declared .remote => "在宅/外出/出張"
  | declared .offduty | declared .vacation | declared .leave => "休暇/非番/休職"
  | declared .contact => "不明（更新あり）"
  | home => "勤務終了"
  | unknown => "不明（更新なし）"

end Shown

end Whereabouts
