import Whereabouts.Proofs.Notices.Order
/-!
# Dropping what has elapsed

## Main result

`collects_elapsed`: a collection drops the notices whose period ended before its reference and
nothing else, so that nobody who asks about the reference or later can tell. Two collections are one
at the later of their references.

## Strategy

1. Dropping notices takes them out of every list of the grouped view and leaves the others where
   they are (`filedBy?_keep_getD`, `allNotices_keep`).
2. Sorting by time commutes with dropping (`newestFirst_filter`), so the view by subject loses the
   same notices and is otherwise unchanged (`forSubject_keep`).
3. A notice that is in force has not elapsed, so looking for the newest one in force passes over the
   dropped ones anyway (`lastsTo_of_covers`).
-/
namespace Whereabouts

open Whereabouts.Calendar

/-! ### Notices that last -/

namespace Calendar.Instant

/-- The later one of two moments. -/
def later (one two : Instant) : Instant := if one ≤ two then two else one

private theorem later_le_iff {one two moment : Instant} :
    one.later two ≤ moment ↔ one ≤ moment ∧ two ≤ moment := by
  rw [later]
  split <;> simp only [le_def] at * <;> omega

end Calendar.Instant

namespace Notice

variable {notice : Notice} {reference moment : Instant}

/-- What is in force at the reference or later has not elapsed. -/
private theorem lastsTo_of_covers (covered : notice.covers moment = true)
    (after : reference ≤ moment) :
    notice.lastsTo reference = true := by
  obtain ⟨period, read, _, before⟩ := covers_iff.mp covered
  exact lastsTo_iff.mpr ⟨period, read, Int.le_trans after before⟩

private theorem lastsTo_later (notice : Notice) (one two : Instant) :
    notice.lastsTo (one.later two) = (notice.lastsTo one && notice.lastsTo two) := by
  rw [lastsTo, lastsTo, lastsTo]
  cases notice.interval with
  | error _ => rfl
  | ok period => simp only [Instant.later_le_iff, Bool.decide_and]

end Notice

/-! ### Dropping notices of the grouped view -/

namespace Grouped

variable {keeps : Notice → Bool}

/-- All notices, one reporter after the other. -/
def allNotices (grouped : Grouped) : List Notice :=
  grouped.values.flatMap fun subjects => subjects.values.flatten

private theorem size_eq (grouped : Grouped) : grouped.size = grouped.allNotices.length := by
  simp only [size, filed, allNotices, Table.values, List.flatMap_assoc, List.flatMap_map,
    List.flatten_eq_flatMap, id_eq]

private theorem map_notice_filingsAbout (grouped : Grouped) (subject : String) :
    (grouped.filingsAbout subject).map (·.notice) =
      grouped.values.flatMap fun subjects => (subjects.find? subject).getD [] := by
  simp only [filingsAbout, Table.values, List.map_flatMap, List.flatMap_map, map_notice_filings]

/-- A table that is dropped has nothing left. -/
private theorem getD_keptSubjects {α : Type} (subjects : Table (List Notice))
    (list : Table (List Notice) → List α)
    (empty : ∀ table, table.isEmpty = true → list table = []) :
    ((keptSubjects keeps subjects).map list).getD [] =
      list (subjects.filterMap fun _ notices => keptNotices keeps notices) := by
  unfold keptSubjects
  dsimp only
  split
  next isEmpty => exact (empty _ isEmpty).symm
  · rfl

private theorem allNotices_keep (keeps : Notice → Bool) (grouped : Grouped) :
    (grouped.keep keeps).allNotices = grouped.allNotices.filter keeps := by
  rw [allNotices, allNotices, List.filter_flatMap]
  -- Once for the tables of the reporters, and once for the lists in each of them.
  refine Table.flatMap_filterMap grouped fun _ subjects => ?_
  rw [getD_keptSubjects subjects _ fun table empty => ?_]
  · simp only [List.flatten_eq_flatMap, List.filter_flatMap, id_eq]
    exact Table.flatMap_filterMap subjects fun _ notices => by
      simpa using getD_keptNotices keeps notices
  · rw [Table.values, List.isEmpty_iff.mp empty]
    rfl

private theorem map_notice_filingsAbout_keep (keeps : Notice → Bool) (grouped : Grouped)
    (subject : String) :
    ((grouped.keep keeps).filingsAbout subject).map (·.notice) =
      ((grouped.filingsAbout subject).map (·.notice)).filter keeps := by
  rw [map_notice_filingsAbout, map_notice_filingsAbout, List.filter_flatMap]
  refine Table.flatMap_filterMap grouped fun _ subjects => ?_
  rw [getD_keptSubjects subjects _ fun table empty => by
    rw [Table.isEmpty_iff.mp empty subject, Option.getD_none]]
  rw [Table.find?_filterMap]
  cases subjects.find? subject with
  | none => rfl
  | some notices => exact getD_keptNotices keeps notices

/-- Dropping twice is dropping once for either reason. -/
private theorem keep_keep (keeps keeps' : Notice → Bool) (grouped : Grouped) :
    (grouped.keep keeps).keep keeps' =
      grouped.keep fun notice => keeps notice && keeps' notice := by
  refine (Pruned.keep _ _).eq_of_filed (.keep _ _) fun reporter subject => ?_
  simp only [filedBy?_keep_getD, List.filter_filter, Bool.and_comm]

/-! ### Sorting what is left -/

private theorem pairwise_newestFirst (notices : List Notice) :
    (newestFirst notices).Pairwise fun one two => two.reportedAt ≤ one.reportedAt := by
  -- Whoever they are filed under, the notices are the list of some reporter.
  obtain ⟨order, _, sorted, same⟩ := exists_newestFirst (filings_pairwise "" notices)
  rw [map_notice_filings] at same
  rw [← same, List.pairwise_map]
  exact sorted.imp Filing.Precedes.reportedAt_le

private theorem insertNewest_of_newest {notice : Notice} {notices : List Notice}
    (newest : ∀ other ∈ notices, other.reportedAt ≤ notice.reportedAt) :
    insertNewest notice notices = notice :: notices := by
  cases notices with
  | nil => rfl
  | cons other rest =>
    exact if_neg (Int.not_lt.mpr (newest other List.mem_cons_self))

private theorem insertNewest_filter {notice : Notice} {notices : List Notice}
    (sorted : notices.Pairwise fun one two => two.reportedAt ≤ one.reportedAt) :
    (insertNewest notice notices).filter keeps =
      if keeps notice then insertNewest notice (notices.filter keeps)
      else notices.filter keeps := by
  -- By induction on the list, as the notice passes each head that was reported later.
  induction notices with
  | nil => simp [insertNewest, List.filter_singleton]
  | cons other rest ih =>
    obtain ⟨headFirst, later⟩ := List.pairwise_cons.mp sorted
    rw [insertNewest]
    split
    next older =>
      rw [List.filter_cons, ih later]
      by_cases kept : keeps notice <;> by_cases keptOther : keeps other <;>
        simp [kept, keptOther, insertNewest, older]
    next notOlder =>
      -- Nothing behind is newer than the head, so the notice stays in front of what is left.
      rw [List.filter_cons]
      split
      · refine (insertNewest_of_newest fun other' member => ?_).symm
        rcases List.mem_cons.mp (List.mem_filter.mp member).1 with rfl | old
        · exact Int.not_lt.mp notOlder
        · exact Int.le_trans (headFirst other' old) (Int.not_lt.mp notOlder)
      · rfl

private theorem newestFirst_filter (keeps : Notice → Bool) (notices : List Notice) :
    newestFirst (notices.filter keeps) = (newestFirst notices).filter keeps := by
  induction notices with
  | nil => rfl
  | cons notice rest ih =>
    rw [newestFirst_cons, insertNewest_filter (pairwise_newestFirst rest), ← ih, List.filter_cons]
    split <;> rfl

end Grouped

namespace NoticeIndex

open Grouped

private theorem forSubject_keep (keeps : Notice → Bool) (grouped : Grouped) (subject : String) :
    (ofGrouped (grouped.keep keeps)).forSubject subject =
      ((ofGrouped grouped).forSubject subject).filter keeps := by
  simp only [forSubject, ofGrouped, getD_find?_bySubject, map_notice_filingsAbout_keep,
    newestFirst_filter]

/-! ### Collections -/

variable {index : NoticeIndex}

/-- How a collection at `reference` that dropped so many notices leaves an index. -/
structure CollectedAt (reference : Instant) (before after : NoticeIndex) (dropped : Nat) :
    Prop where
  grouped : ∀ reporter subject, (after.grouped.filedBy? reporter subject).getD [] =
    ((before.grouped.filedBy? reporter subject).getD []).filter (·.lastsTo reference)
  pruned : after.grouped.Pruned
  forSubject : ∀ subject,
    after.forSubject subject = (before.forSubject subject).filter (·.lastsTo reference)
  dropped : dropped = (before.grouped.allNotices.filter (!·.lastsTo reference)).length
  active : ∀ subject moment, reference ≤ moment →
    after.active subject moment = before.active subject moment

private theorem collectGarbage_snd (index : NoticeIndex) (reference : Instant) :
    (index.collectGarbage reference).2 =
      (index.grouped.allNotices.filter (!·.lastsTo reference)).length := by
  have parted := List.length_eq_length_filter_add (l := index.grouped.allNotices)
    (Notice.lastsTo · reference)
  rw [collectGarbage]
  dsimp only
  rw [size_eq, size_eq, allNotices_keep, parted, Nat.add_sub_cancel_left]

private theorem Reachable.collectedAt (reachable : index.Reachable) (reference : Instant) :
    CollectedAt reference index (index.collectGarbage reference).1
      (index.collectGarbage reference).2 := by
  have forSubject (subject : String) : (index.collectGarbage reference).1.forSubject subject =
      (index.forSubject subject).filter (·.lastsTo reference) := by
    rw [collectGarbage, forSubject_keep, ← reachable.eq_ofGrouped]
  refine ⟨filedBy?_keep_getD _ _, .keep _ _, forSubject, collectGarbage_snd index reference, ?_⟩
  intro subject moment after
  rw [active, forSubject, List.find?_filter, active]
  refine congrArg (List.find? · _) (funext fun notice => ?_)
  -- Elapsed notices are not found anyway.
  rw [Bool.decide_and, Bool.decide_eq_true, Bool.decide_eq_true, Bool.and_eq_right_iff_imp]
  exact fun covered => Notice.lastsTo_of_covers covered after

private theorem collectGarbage_twice (index : NoticeIndex) (one two : Instant) :
    ((index.collectGarbage one).1.collectGarbage two).1 =
        (index.collectGarbage (one.later two)).1 ∧
      (index.collectGarbage one).2 + ((index.collectGarbage one).1.collectGarbage two).2 =
        (index.collectGarbage (one.later two)).2 := by
  have kept : (index.grouped.keep (·.lastsTo one)).keep (·.lastsTo two) =
      index.grouped.keep (·.lastsTo (one.later two)) := by
    simp only [keep_keep, Notice.lastsTo_later]
  have fewer (keeps : Notice → Bool) (grouped : Grouped) :
      (grouped.keep keeps).size ≤ grouped.size := by
    rw [size_eq, size_eq, allNotices_keep]
    exact List.length_filter_le ..
  refine ⟨congrArg ofGrouped kept, ?_⟩
  -- The counts are differences of sizes, and no collection adds anything.
  have first := fewer (·.lastsTo one) index.grouped
  have second := fewer (·.lastsTo two) (index.grouped.keep (·.lastsTo one))
  simp only [collectGarbage, ofGrouped, kept] at second ⊢
  omega

/-- A collection drops what has elapsed, counts it, and is not noticed by anyone who asks about its
reference or later. Two of them are one at the later reference, so doing it again at the same
reference does nothing. -/
theorem collects_elapsed (reachable : index.Reachable) (reference : Instant) :
    ∃ kept dropped, index.collectGarbage reference = (kept, dropped) ∧
      (∀ notice : Notice, notice.lastsTo reference = true ↔
        ∃ period, Period.parse notice.period = .ok period ∧ reference ≤ period.last) ∧
      CollectedAt reference index kept dropped ∧
      (∀ other, (kept.collectGarbage other).1 = (index.collectGarbage (reference.later other)).1 ∧
        dropped + (kept.collectGarbage other).2 =
          (index.collectGarbage (reference.later other)).2) ∧
      kept.collectGarbage reference = (kept, 0) := by
  refine ⟨_, _, rfl, fun _ => Notice.lastsTo_iff, reachable.collectedAt reference,
    collectGarbage_twice index reference, ?_⟩
  have again := collectGarbage_twice index reference reference
  rw [show reference.later reference = reference from ite_self reference] at again
  exact Prod.ext again.1 (Nat.add_eq_left.mp again.2)

/-- At the end of its last minute a notice is still kept; on the next day it has elapsed. -/
theorem collects_elapsed_of_two :
    let index := (twoAboutBob.map Change.register).foldl change empty
    let second : Date := ⟨1970, 1, 2, by decide⟩
    index.Reachable ∧ (index.collectGarbage (.endOfDay second)) = (index, 0) ∧
      ∃ kept, index.collectGarbage (.startOfDay second.next) = (kept, 1) ∧
        kept.forSubject "bob@example.com" = twoAboutBob.tail ∧
        kept.collectGarbage (.startOfDay second.next) = (kept, 0) := by
  intro index second
  have reachable : index.Reachable := .foldl .new _
  obtain ⟨kept, dropped, run, _, collected, _, again⟩ :=
    collects_elapsed reachable (.startOfDay second.next)
  have counted : dropped = 1 := by
    rw [collected.dropped]
    decide
  refine ⟨reachable, by decide, kept, counted ▸ run, ?_, again⟩
  rw [collected.forSubject]
  decide

end NoticeIndex

end Whereabouts
