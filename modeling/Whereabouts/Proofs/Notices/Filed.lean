import Whereabouts.NoticeIndex
import Whereabouts.Proofs.Table
/-!
# What is filed

The grouped view is looked at through one question: what did a reporter file about a subject? Each
change answers it anew for the keys it is about and leaves all other answers alone. A property of
single notices holds of a whole view if it holds under every pair of keys, and a view is pruned if
it keeps neither an empty list nor an empty table.
-/
namespace Whereabouts.Notice

open Whereabouts.Calendar

variable {notice : Notice} {reference moment : Instant}

/-! ### The period of a notice -/

theorem covers_iff :
    notice.covers moment = true ↔
      ∃ period, Period.parse notice.period = .ok period ∧
        period.first ≤ moment ∧ moment ≤ period.last := by
  rw [covers, interval]
  cases Period.parse notice.period with
  | error _ => simp
  | ok period => simp [Period.contains]

theorem lastsTo_iff :
    notice.lastsTo reference = true ↔
      ∃ period, Period.parse notice.period = .ok period ∧ reference ≤ period.last := by
  rw [lastsTo, interval]
  cases Period.parse notice.period <;> simp

end Whereabouts.Notice

namespace Whereabouts.Grouped

/-- The notices that a reporter filed about a subject, if there are any. -/
def filedBy? (grouped : Grouped) (reporter subject : String) : Option (List Notice) :=
  (grouped.find? reporter).bind (·.find? subject)

theorem mem_filed {grouped : Grouped} {reporter subject : String} {notices : List Notice} :
    (reporter, subject, notices) ∈ grouped.filed ↔
      grouped.filedBy? reporter subject = some notices := by
  simp only [filed, filedBy?, List.mem_flatMap, List.mem_map, Option.bind_eq_some_iff,
    Table.find?_eq_some, Prod.exists, Prod.mk.injEq]
  constructor
  · rintro ⟨_, subjects, byReporter, _, _, bySubject, rfl, rfl, rfl⟩
    exact ⟨subjects, byReporter, bySubject⟩
  · rintro ⟨subjects, byReporter, bySubject⟩
    exact ⟨reporter, subjects, byReporter, subject, notices, bySubject, rfl, rfl, rfl⟩

/-! ### Lookups after a change -/

theorem filedBy?_add (grouped : Grouped) (notice : Notice) (reporter subject : String) :
    (grouped.add notice).filedBy? reporter subject =
      if reporter = notice.reporter ∧ subject = notice.subject then
        some ((grouped.filedBy? reporter subject).getD [] ++ [notice])
      else grouped.filedBy? reporter subject := by
  simp only [filedBy?, add, Table.find?_alter]
  -- Only the table of the reporter changes, and in it only the list about the subject.
  by_cases sameReporter : reporter = notice.reporter
  · subst sameReporter
    cases found : grouped.find? notice.reporter with
    | none => by_cases sameSubject : subject = notice.subject <;>
        simp [Table.find?_alter, sameSubject]
    | some subjects => by_cases sameSubject : subject = notice.subject <;>
        simp [Table.find?_alter, sameSubject]
  · simp [sameReporter]

private theorem keptNotices_eq_some {keeps : Notice → Bool} {notices kept : List Notice} :
    keptNotices keeps notices = some kept ↔ kept = notices.filter keeps ∧ kept ≠ [] := by
  unfold keptNotices
  split
  next empty => simp [empty]
  next first rest nonempty =>
    rw [nonempty, Option.some.injEq, eq_comm]
    exact ⟨fun same => ⟨same, same ▸ List.cons_ne_nil first rest⟩, And.left⟩

theorem getD_keptNotices (keeps : Notice → Bool) (notices : List Notice) :
    (keptNotices keeps notices).getD [] = notices.filter keeps := by
  unfold keptNotices
  split
  next empty => exact empty.symm
  next nonempty => exact nonempty.symm

private theorem keptSubjects_eq_some {keeps : Notice → Bool} {subjects kept : Table (List Notice)} :
    keptSubjects keeps subjects = some kept ↔
      kept = subjects.filterMap (fun _ notices => keptNotices keeps notices) ∧
        kept.isEmpty = false := by
  unfold keptSubjects
  dsimp only
  split
  next empty =>
    refine ⟨nofun, ?_⟩
    rintro ⟨rfl, nonempty⟩
    simp [empty] at nonempty
  next nonempty =>
    rw [Option.some.injEq, eq_comm]
    exact ⟨fun same => ⟨same, same ▸ Bool.not_eq_true _ ▸ nonempty⟩, And.left⟩

private theorem filedBy?_keep (keeps : Notice → Bool) (grouped : Grouped)
    (reporter subject : String) :
    (grouped.keep keeps).filedBy? reporter subject =
      (grouped.filedBy? reporter subject).bind (keptNotices keeps) := by
  simp only [filedBy?, keep, Table.find?_filterMap]
  cases grouped.find? reporter with
  | none => rfl
  | some subjects =>
    -- A table that is dropped because it became empty has no list left to find.
    simp only [Option.bind_some, keptSubjects]
    split
    next empty =>
      have nothing := Table.isEmpty_iff.mp empty subject
      rw [Table.find?_filterMap] at nothing
      exact nothing.symm
    · simp

theorem filedBy?_keep_getD (keeps : Notice → Bool) (grouped : Grouped) (reporter subject : String) :
    ((grouped.keep keeps).filedBy? reporter subject).getD [] =
      ((grouped.filedBy? reporter subject).getD []).filter keeps := by
  rw [filedBy?_keep]
  cases grouped.filedBy? reporter subject with
  | none => rfl
  | some notices => exact getD_keptNotices keeps notices

theorem filedBy?_withdraw {grouped rest : Grouped} {reporter subject : String}
    (withdrawn : grouped.withdraw? reporter subject = some rest) (reporter' subject' : String) :
    rest.filedBy? reporter' subject' =
      if reporter' = reporter ∧ subject' = subject then none
      else grouped.filedBy? reporter' subject' := by
  simp only [withdraw?, Option.bind_eq_bind, Option.bind_eq_some_iff, Option.some.injEq]
    at withdrawn
  obtain ⟨subjects, found, _, _, rfl⟩ := withdrawn
  simp only [filedBy?, Table.find?_alter]
  by_cases sameReporter : reporter' = reporter
  · subst sameReporter
    have erased : (subjects.erase subject).find? subject' =
        if subject' = subject then none else subjects.find? subject' := Table.find?_erase ..
    -- The table may go with its last list; then nothing is found in it either way.
    simp only [if_true, true_and, found, Option.bind_some]
    rw [← erased]
    split
    next empty => exact (Table.isEmpty_iff.mp empty subject').symm
    · rfl
  · simp [sameReporter]

/-! ### Properties of all notices -/

/-- Whether something holds of every notice under its keys. -/
def Everywhere (holds : String → String → Notice → Prop) (grouped : Grouped) : Prop :=
  ∀ reporter subject notices, grouped.filedBy? reporter subject = some notices →
    ∀ notice ∈ notices, holds reporter subject notice

namespace Everywhere

variable {holds : String → String → Notice → Prop} {grouped : Grouped}

theorem empty : Everywhere holds .empty := by
  intro _ _ _ found
  cases found

theorem add (all : Everywhere holds grouped) {notice : Notice}
    (new : holds notice.reporter notice.subject notice) :
    Everywhere holds (grouped.add notice) := by
  intro reporter subject notices found other member
  rw [filedBy?_add] at found
  split at found
  next here =>
    obtain ⟨rfl, rfl⟩ := here
    cases found
    -- The list is the old one with the new notice at its end.
    rcases List.mem_append.mp member with old | last
    · cases before : grouped.filedBy? notice.reporter notice.subject with
      | none => simp [before] at old
      | some notices => exact all _ _ notices before other (by simpa [before] using old)
    · rw [List.mem_singleton.mp last]
      exact new
  next elsewhere => exact all reporter subject notices found other member

/-- What is kept was there, and was kept for a reason. -/
theorem keep {keeps : Notice → Bool} {holds' : String → String → Notice → Prop}
    (all : Everywhere holds grouped)
    (stronger : ∀ reporter subject notice, holds reporter subject notice → keeps notice = true →
      holds' reporter subject notice) :
    Everywhere holds' (grouped.keep keeps) := by
  intro reporter subject notices found notice member
  rw [filedBy?_keep, Option.bind_eq_some_iff] at found
  obtain ⟨before, foundBefore, kept⟩ := found
  obtain ⟨rfl, _⟩ := keptNotices_eq_some.mp kept
  obtain ⟨old, keeps⟩ := List.mem_filter.mp member
  exact stronger _ _ _ (all reporter subject before foundBefore notice old) keeps

theorem withdraw (all : Everywhere holds grouped) {rest : Grouped} {reporter subject : String}
    (withdrawn : grouped.withdraw? reporter subject = some rest) : Everywhere holds rest := by
  intro reporter' subject' notices found
  rw [filedBy?_withdraw withdrawn] at found
  split at found
  · cases found
  · exact all reporter' subject' notices found

end Everywhere

/-! ### Pruned views -/

/-- No table and no list in the view is empty. -/
structure Pruned (grouped : Grouped) : Prop where
  tables : ∀ reporter subjects, grouped.find? reporter = some subjects → subjects.isEmpty = false
  lists : ∀ reporter subject, grouped.filedBy? reporter subject ≠ some []

namespace Pruned

variable {grouped : Grouped}

theorem empty : Pruned .empty := ⟨nofun, nofun⟩

theorem keep (keeps : Notice → Bool) (grouped : Grouped) : Pruned (grouped.keep keeps) where
  tables := by
    intro reporter subjects found
    rw [Grouped.keep, Table.find?_filterMap, Option.bind_eq_some_iff] at found
    obtain ⟨_, _, kept⟩ := found
    exact (keptSubjects_eq_some.mp kept).2
  lists := by
    intro reporter subject found
    rw [filedBy?_keep, Option.bind_eq_some_iff] at found
    obtain ⟨_, _, kept⟩ := found
    exact (keptNotices_eq_some.mp kept).2 rfl

theorem add (pruned : Pruned grouped) (notice : Notice) : Pruned (grouped.add notice) where
  tables := by
    intro reporter subjects found
    rw [Grouped.add, Table.find?_alter] at found
    split at found
    · cases found
      by_contra nonempty
      have nothing := Table.isEmpty_iff.mp (Bool.not_eq_false _ ▸ nonempty) notice.subject
      simp [Table.find?_alter] at nothing
    · exact pruned.tables reporter subjects found
  lists := by
    intro reporter subject found
    rw [filedBy?_add] at found
    split at found
    · simp at found
    · exact pruned.lists reporter subject found

theorem withdraw (pruned : Pruned grouped) {rest : Grouped} {reporter subject : String}
    (withdrawn : grouped.withdraw? reporter subject = some rest) : Pruned rest where
  tables := by
    intro reporter' subjects found
    simp only [withdraw?, Option.bind_eq_bind, Option.bind_eq_some_iff, Option.some.injEq]
      at withdrawn
    obtain ⟨_, _, _, _, rfl⟩ := withdrawn
    rw [Table.find?_alter] at found
    split at found
    · split at found
      · cases found
      next nonempty =>
        cases found
        exact Bool.not_eq_true _ ▸ nonempty
    · exact pruned.tables reporter' subjects found
  lists := by
    intro reporter' subject' found
    rw [filedBy?_withdraw withdrawn] at found
    split at found
    · cases found
    · exact pruned.lists reporter' subject' found

private theorem find?_eq_none (pruned : Pruned grouped) {reporter : String} :
    grouped.find? reporter = none ↔ ∀ subject, grouped.filedBy? reporter subject = none := by
  constructor
  · intro absent subject
    rw [filedBy?, absent]
    rfl
  · intro nothing
    by_contra present
    obtain ⟨subjects, found⟩ := Option.ne_none_iff_exists'.mp present
    have empty : subjects.isEmpty = true := Table.isEmpty_iff.mpr fun subject => by
      simpa [filedBy?, found] using nothing subject
    rw [pruned.tables reporter subjects found] at empty
    cases empty

/-- A pruned view without notices has no entries at all. -/
theorem filed_eq_nil (pruned : Pruned grouped) : grouped.filed = [] ↔ grouped.isEmpty = true := by
  constructor
  · intro nothing
    rw [Table.isEmpty_iff]
    intro reporter
    refine pruned.find?_eq_none.mpr fun subject => ?_
    by_contra listed
    obtain ⟨notices, inside⟩ := Option.ne_none_iff_exists'.mp listed
    simpa [nothing] using mem_filed.mpr inside
  · intro empty
    simp [filed, List.isEmpty_iff.mp (show grouped.entries.isEmpty = true from empty)]

/-- A pruned view is determined by what is filed under each pair of keys. -/
theorem eq_of_filed {one two : Grouped} (pruned : Pruned one) (pruned' : Pruned two)
    (same : ∀ reporter subject,
      (one.filedBy? reporter subject).getD [] = (two.filedBy? reporter subject).getD []) :
    one = two := by
  -- No list is empty, so an absent one is told from all others; and so it is with tables.
  have lists (reporter subject : String) :
      one.filedBy? reporter subject = two.filedBy? reporter subject := by
    have filed := same reporter subject
    have nonempty := pruned.lists reporter subject
    have nonempty' := pruned'.lists reporter subject
    generalize one.filedBy? reporter subject = one?, two.filedBy? reporter subject = two?
      at filed nonempty nonempty' ⊢
    clear same
    cases one? <;> cases two? <;> simp_all
  apply Table.eq_of_find?
  intro reporter
  cases found : one.find? reporter with
  | none =>
    refine (pruned'.find?_eq_none.mpr fun subject => ?_).symm
    rw [← lists, pruned.find?_eq_none.mp found subject]
  | some subjects =>
    cases found' : two.find? reporter with
    | none =>
      have absent : one.find? reporter = none := pruned.find?_eq_none.mpr fun subject => by
        rw [lists, pruned'.find?_eq_none.mp found' subject]
      rw [found] at absent
      cases absent
    | some subjects' =>
      refine congrArg some (Table.eq_of_find? fun subject => ?_)
      simpa [filedBy?, found, found'] using lists reporter subject

end Pruned

end Whereabouts.Grouped

namespace Whereabouts.NoticeIndex

open Whereabouts.Calendar

/-! ### Changes of an index -/

inductive Change where
  | register (notice : Notice)
  | reset (reporter subject : String)
  | collectGarbage (reference : Instant)

def change (index : NoticeIndex) : Change → NoticeIndex
  | .register notice => (index.register notice).1
  | .reset reporter subject => (index.reset reporter subject).1
  | .collectGarbage reference => (index.collectGarbage reference).1

/-- What a change comes to: the index stays, or both views are made anew after one change of the
grouped view. -/
inductive Changed (index : NoticeIndex) : Change → NoticeIndex → Prop
  | refused (step : Change) : Changed index step index
  | registered {notice : Notice} (valid : notice.isValid = true) :
      Changed index (.register notice) (ofGrouped (index.grouped.add notice))
  | withdrawn {reporter subject : String} {rest : Grouped}
      (withdrawn : index.grouped.withdraw? reporter subject = some rest) :
      Changed index (.reset reporter subject) (ofGrouped rest)
  | collected (reference : Instant) :
      Changed index (.collectGarbage reference)
        (ofGrouped (index.grouped.keep (·.lastsTo reference)))

theorem changed_change (index : NoticeIndex) (step : Change) :
    Changed index step (index.change step) := by
  cases step with
  | register notice =>
    rw [change, register]
    split
    next valid => exact .registered valid
    · exact .refused _
  | reset reporter subject =>
    rw [change, reset]
    split
    · exact .refused _
    next rest withdrawn => exact .withdrawn withdrawn
  | collectGarbage reference => exact .collected reference

end Whereabouts.NoticeIndex
