import Whereabouts.Notice
/-!
# The index of notices

Notices are kept in two views. `grouped` holds them by reporter and then by subject, each list in
the order of filing; this is the view that is stored. `bySubject` holds them by subject alone, the
newest report first and equally old ones in the order of their reporters and of filing. Every
change works on the grouped view and then makes the other anew, so the two always agree.
-/
namespace Whereabouts

open Whereabouts.Calendar

/-- Notices by reporter and subject. -/
abbrev Grouped := Table (Table (List Notice))

namespace Grouped

/-! ### Keeping and dropping -/

/-- The list of notices that `keeps` holds of; no list if there are none. -/
def keptNotices (keeps : Notice → Bool) (notices : List Notice) : Option (List Notice) :=
  match notices.filter keeps with
  | [] => none
  | first :: rest => some (first :: rest)

def keptSubjects (keeps : Notice → Bool) (subjects : Table (List Notice)) :
    Option (Table (List Notice)) :=
  let kept := subjects.filterMap fun _ notices => keptNotices keeps notices
  if kept.isEmpty then none else some kept

/-- The notices that `keeps` holds of, without empty lists and tables. -/
def keep (keeps : Notice → Bool) (grouped : Grouped) : Grouped :=
  grouped.filterMap fun _ subjects => keptSubjects keeps subjects

/-- All notices with the keys they are filed under, in the order of the tables. -/
def filed (grouped : Grouped) : List (String × String × List Notice) :=
  grouped.entries.flatMap fun byReporter =>
    byReporter.2.entries.map fun bySubject => (byReporter.1, bySubject.1, bySubject.2)

def size (grouped : Grouped) : Nat := (grouped.filed.flatMap fun entry => entry.2.2).length

/-! ### Adding and withdrawing -/

def add (grouped : Grouped) (notice : Notice) : Grouped :=
  grouped.alter notice.reporter fun subjects? =>
    some <| (subjects?.getD .empty).alter notice.subject fun notices? =>
      some (notices?.getD [] ++ [notice])

/-- The grouped view without what `reporter` filed about `subject`, if there is such a list. -/
def withdraw? (grouped : Grouped) (reporter subject : String) : Option Grouped := do
  let subjects ← grouped.find? reporter
  let _ ← subjects.find? subject
  let rest := subjects.erase subject
  some (grouped.alter reporter fun _ => if rest.isEmpty then none else some rest)

/-! ### The view by subject -/

/-- Puts a notice before the first that was not reported later. -/
def insertNewest (notice : Notice) : List Notice → List Notice
  | [] => [notice]
  | other :: rest =>
    if notice.reportedAt < other.reportedAt then other :: insertNewest notice rest
    else notice :: other :: rest

/-- The newest report first; equal times keep their order. -/
def newestFirst (notices : List Notice) : List Notice := notices.foldr insertNewest []

/-- The lists of all reporters, one after the other, by subject. -/
def collected (grouped : Grouped) : Table (List Notice) :=
  grouped.filed.foldl (fun collected entry =>
    collected.alter entry.2.1 fun notices? => some (notices?.getD [] ++ entry.2.2)) .empty

def bySubject (grouped : Grouped) : Table (List Notice) := grouped.collected.map newestFirst

end Grouped

structure NoticeIndex where
  grouped : Grouped
  bySubject : Table (List Notice)
deriving DecidableEq

namespace NoticeIndex

def empty : NoticeIndex := ⟨.empty, .empty⟩

instance : Inhabited NoticeIndex := ⟨empty⟩

/-- The index with both views of these notices. -/
def ofGrouped (grouped : Grouped) : NoticeIndex := ⟨grouped, grouped.bySubject⟩

/-! ### Changes -/

/-- The index of the valid notices, and how many others there were. -/
def load (grouped : Grouped) : NoticeIndex × Nat :=
  let kept := grouped.keep Notice.isValid
  (ofGrouped kept, grouped.size - kept.size)

/-- Files a notice; one that is not valid is refused. -/
def register (index : NoticeIndex) (notice : Notice) : NoticeIndex × Bool :=
  if notice.isValid then (ofGrouped (index.grouped.add notice), true) else (index, false)

/-- Withdraws all that `reporter` filed about `subject`; tells whether there was anything. -/
def reset (index : NoticeIndex) (reporter subject : String) : NoticeIndex × Bool :=
  match index.grouped.withdraw? reporter subject with
  | none => (index, false)
  | some grouped => (ofGrouped grouped, true)

/-- Drops the notices whose period ended before `reference`, and counts them. -/
def collectGarbage (index : NoticeIndex) (reference : Instant) : NoticeIndex × Nat :=
  let kept := index.grouped.keep (·.lastsTo reference)
  (ofGrouped kept, index.grouped.size - kept.size)

/-! ### Questions -/

def forSubject (index : NoticeIndex) (subject : String) : List Notice :=
  (index.bySubject.find? subject).getD []

/-- The newest notice about `subject` that covers the moment. -/
def active (index : NoticeIndex) (subject : String) (moment : Instant) : Option Notice :=
  (index.forSubject subject).find? (·.covers moment)

def size (index : NoticeIndex) : Nat := index.bySubject.values.flatten.length

def isEmpty (index : NoticeIndex) : Bool := index.bySubject.isEmpty

end NoticeIndex

end Whereabouts
