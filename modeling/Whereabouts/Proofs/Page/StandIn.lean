import Whereabouts.Page.Cell
import Whereabouts.Proofs.Notices.Order
/-!
# Notices that stand in for a record

## Main result

`newest_stands_in`: for a person without a record the board shows the newest notice in force,
whoever filed it, and says that nothing is known just when no notice is in force. Notices do not
count for a person with a record.

## Strategy

1. `InForce` says what a notice in force is from the grouped view and the text of the period, without
   the list that is searched.
2. The view by subject has the same notices, none of them before one that was reported later, so the
   first that covers the moment is the newest of all that do.
3. The record made from a notice has the same status in both halves of the day and is not finished.
-/
namespace Whereabouts

open Whereabouts.Calendar

/-! ### Notices in force -/

namespace NoticeIndex

/-- Somebody filed the notice about the subject, and its period includes the moment. -/
def InForce (index : NoticeIndex) (subject : String) (moment : Instant) (notice : Notice) : Prop :=
  (∃ reporter notices, index.grouped.filedBy? reporter subject = some notices ∧ notice ∈ notices) ∧
    ∃ period, Period.parse notice.period = .ok period ∧
      period.first ≤ moment ∧ moment ≤ period.last

namespace Consistent

variable {index : NoticeIndex} (consistent : Consistent index) {subject : String} {moment : Instant}
  {notice : Notice}

include consistent

private theorem inForce_iff :
    index.InForce subject moment notice ↔
      notice ∈ index.forSubject subject ∧ notice.covers moment = true := by
  rw [InForce, consistent.mem_forSubject, Notice.covers_iff]

private theorem active_eq_none :
    index.active subject moment = none ↔ ∀ notice, ¬ index.InForce subject moment notice := by
  simp only [active, List.find?_eq_none, consistent.inForce_iff, not_and]

private theorem newest_of_active (active : index.active subject moment = some notice) :
    index.InForce subject moment notice ∧
      ∀ other, index.InForce subject moment other → other.reportedAt ≤ notice.reportedAt := by
  obtain ⟨covers, earlier, later, listed, passed⟩ := List.find?_eq_some_iff_append.mp active
  have sorted := consistent.pairwise_forSubject subject
  rw [listed] at sorted
  obtain ⟨older, _⟩ := List.pairwise_cons.mp (List.pairwise_append.mp sorted).2.1
  refine ⟨consistent.inForce_iff.mpr ⟨by simp [listed], covers⟩, fun other inForce => ?_⟩
  obtain ⟨member, coversToo⟩ := consistent.inForce_iff.mp inForce
  rw [listed, List.mem_append, List.mem_cons] at member
  -- What stands before the notice does not cover the moment, so the other is it or comes after it.
  rcases member with before | rfl | after
  · have uncovered := passed other before
    simp [coversToo] at uncovered
  · exact Int.le_refl _
  · exact older other after

end Consistent

end NoticeIndex

/-! ### What is shown -/

namespace Page

private theorem shownAt_project (notice : Notice) (moment : Instant) :
    shownAt notice.project moment = .declared notice.status := by
  rw [shownAt, if_neg (by simp [Notice.project, Person.blank])]
  split
  · rfl
  · rfl

private theorem resolve_none_forSubject (index : NoticeIndex) (subject : String) (now : Instant) :
    resolve none (index.forSubject subject) now =
      ((index.active subject now).map fun notice => Cell.ofPerson notice.project now).getD
        .unknown := by
  rw [resolve, NoticeIndex.active]
  cases (index.forSubject subject).find? (·.covers now) with
  | none => rfl
  | some notice => rfl

/-- Without a record the cell is made of the active notice, or says that nothing is known. It says so
just when no notice is in force; otherwise it is made of a notice in force that none in force is newer
than, has its status at any hour and names its reporter. With a record no notice counts. -/
theorem newest_stands_in {index : NoticeIndex} (reachable : index.Reachable) (subject : String)
    (now : Instant) :
    let cell := resolve none (index.forSubject subject) now
    cell = ((index.active subject now).map fun notice => Cell.ofPerson notice.project now).getD
      .unknown ∧
    (cell.shown = .unknown ↔ ∀ notice, ¬ index.InForce subject now notice) ∧
    (cell.shown ≠ .unknown → ∃ notice, index.InForce subject now notice ∧
      (∀ other, index.InForce subject now other → other.reportedAt ≤ notice.reportedAt) ∧
      cell = .ofPerson notice.project now ∧
      cell.shown = .declared notice.status ∧
      (∀ moment, shownAt notice.project moment = .declared notice.status) ∧
      cell.reportedBy = some notice.reporter) ∧
    ∀ person notices, resolve (some person) notices now = .ofPerson person now := by
  have consistent := reachable.consistent
  intro cell
  have projected : cell = _ := resolve_none_forSubject index subject now
  refine ⟨projected, ?_, ?_, fun _ _ => rfl⟩
  · rw [← consistent.active_eq_none, projected]
    cases index.active subject now with
    | none => simp [Cell.unknown]
    | some notice => simp [Cell.ofPerson, shownAt_project]
  · intro known
    cases active : index.active subject now with
    | none => simp [projected, active, Cell.unknown] at known
    | some notice =>
      have made : cell = .ofPerson notice.project now := by rw [projected, active]; rfl
      obtain ⟨inForce, newest⟩ := consistent.newest_of_active active
      refine ⟨notice, inForce, newest, made, ?_, shownAt_project notice, ?_⟩
      · rw [made]
        exact shownAt_project notice now
      · rw [made]
        rfl

/-- Carol's notice is newer than Alice's; Dave's is newer still, but not in force yet. -/
theorem newest_stands_in_of_carol :
    let reports := [NoticeIndex.aboutBob "alice" 9 (by decide) "1970/01/02",
      NoticeIndex.aboutBob "carol" 10 (by decide) "1970/01/01~1970/01/03",
      NoticeIndex.aboutBob "dave" 11 (by decide) "1970/01/03"]
    let index := (reports.map .register).foldl NoticeIndex.change .empty
    let now : Instant := .endOfDay ⟨1970, 1, 2, by decide⟩
    let cell := resolve none (index.forSubject "bob@example.com") now
    index.Reachable ∧ cell.reportedBy = some "carol" ∧
      ∃ notice, index.InForce "bob@example.com" now notice ∧
        (∀ other, index.InForce "bob@example.com" now other →
          other.reportedAt ≤ notice.reportedAt) ∧
        notice.reporter = "carol" := by
  intro reports index now cell
  have reachable : index.Reachable := NoticeIndex.Reachable.new.foldl _
  have reported : cell.reportedBy = some "carol" := by decide +kernel
  have known : cell.shown ≠ .unknown := by decide +kernel
  obtain ⟨notice, inForce, newest, _, _, _, reporter⟩ :=
    (newest_stands_in reachable "bob@example.com" now).2.2.1 known
  refine ⟨reachable, reported, notice, inForce, newest, ?_⟩
  exact Option.some.inj (reporter.symm.trans reported)

end Page

end Whereabouts
