import Whereabouts.Proofs.Notices.Order
/-!
# Where a notice goes

## Main result

`moves_nothing_else`: a notice that is filed goes to one place in the list about its subject, and a
withdrawal takes out what was filed under one reporter. Nothing else moves, though both views are
made anew.

## Strategy

Both lists about the subject are in the order of `Filing.Precedes`, and the filings differ in the
new one alone. So the list after the change is the list before it with the new filing somewhere
between (`Consistent.exists_placed`). The new filing is the last of its reporter, which tells who
stands ahead of it: all that were reported later, and of the equally old ones those whose reporter
is not greater.
-/
namespace Whereabouts

open Whereabouts.Calendar Whereabouts.Text

/-! ### Who stays ahead -/

/-- The filing of a notice under its own reporter. -/
def Notice.filedAt (notice : Notice) (position : Nat) : Filing :=
  ⟨notice.reporter, position, notice⟩

namespace Filing

/-- Whether the filing keeps its place ahead of a notice that is filed after it. -/
def StaysAhead (filing : Filing) (notice : Notice) : Prop :=
  notice.reportedAt < filing.notice.reportedAt ∨
    filing.notice.reportedAt = notice.reportedAt ∧
      octets filing.reporter ≤ octets notice.reporter

variable {filing : Filing} {notice : Notice} {position : Nat}

private theorem Precedes.staysAhead (before : filing.Precedes (notice.filedAt position)) :
    filing.StaysAhead notice := by
  rcases before with later | ⟨sameTime, less | ⟨own, _⟩⟩
  · exact .inl later
  · exact .inr ⟨sameTime, List.le_of_lt less⟩
  · exact .inr ⟨sameTime, own ▸ List.le_refl _⟩

private theorem Precedes.not_staysAhead (after : (notice.filedAt position).Precedes filing)
    (place : filing.FiledBefore (notice.filedAt position) ∨ notice.reporter < filing.reporter) :
    ¬ filing.StaysAhead notice := by
  rintro (newer | ⟨same, le⟩)
  · rcases after with older | ⟨same, _⟩
    · exact Int.lt_asymm newer older
    · exact Int.lt_irrefl _ (same ▸ newer)
  · rcases after with older | ⟨_, filedAfter⟩
    · exact Int.lt_irrefl _ (same ▸ older)
    -- Of equally old filings only one of a greater reporter comes after the new one.
    · rcases place with filedBefore | greater
      · exact filedAfter.asymm filedBefore
      · exact le (lt_iff_octets_lt.mp greater)

end Filing

/-! ### The filings after a notice was added -/

namespace Grouped

private theorem filings_append (reporter : String) (notices : List Notice) (notice : Notice) :
    filings reporter (notices ++ [notice]) =
      filings reporter notices ++ [⟨reporter, notices.length, notice⟩] := by
  simp [filings, List.zipIdx_append]

/-- The new filing is the last one of its reporter. -/
private theorem exists_filingsAbout_add (grouped : Grouped) (notice : Notice) :
    ∃ front above : List Filing, ∃ position : Nat,
      grouped.filingsAbout notice.subject = front ++ above ∧
      (grouped.add notice).filingsAbout notice.subject =
        front ++ notice.filedAt position :: above ∧
      (∀ filing ∈ front, filing.FiledBefore (notice.filedAt position)) ∧
      ∀ filing ∈ above, notice.reporter < filing.reporter := by
  obtain ⟨below, above, _, greater, before, after⟩ :=
    exists_filingsAbout_alter (show grouped.add notice = grouped.alter _ _ from rfl) notice.subject
  rw [filedBy?_add, if_pos ⟨rfl, rfl⟩, Option.getD_some, filings_append, ← List.append_assoc,
    List.append_assoc _ _ above] at after
  -- What stands before the new filing in the new list was filed before it.
  have filed := filingsAbout_pairwise (grouped.add notice) notice.subject
  rw [after] at filed
  refine ⟨_, above, _, before, after, fun filing member => ?_, greater⟩
  exact (List.pairwise_append.mp filed).2.2 filing member _ List.mem_cons_self

private theorem filingsAbout_add_of_ne (grouped : Grouped) {notice : Notice} {subject : String}
    (different : subject ≠ notice.subject) :
    (grouped.add notice).filingsAbout subject = grouped.filingsAbout subject := by
  obtain ⟨below, above, _, _, before, after⟩ :=
    exists_filingsAbout_alter (show grouped.add notice = grouped.alter _ _ from rfl) subject
  rw [after, before, filedBy?_add, if_neg fun both => different both.2]

end Grouped

namespace NoticeIndex

open Grouped

variable {index : NoticeIndex} {notice : Notice}

/-! ### The view by subject -/

namespace Consistent

private theorem add (consistent : Consistent index) (valid : notice.isValid = true) :
    Consistent (ofGrouped (index.grouped.add notice)) :=
  consistent_ofGrouped (consistent.valid.add valid) (consistent.pruned.add notice)

private theorem forSubject_add_of_ne (consistent : Consistent index) (valid : notice.isValid = true)
    {subject : String} (different : subject ≠ notice.subject) :
    (ofGrouped (index.grouped.add notice)).forSubject subject = index.forSubject subject := by
  obtain ⟨order, perm, sorted, same⟩ := consistent.forSubject subject
  rw [← same]
  refine (consistent.add valid).forSubject_eq ?_ sorted
  rwa [ofGrouped, filingsAbout_add_of_ne _ different]

/-- The list about the subject with the new notice in its place. -/
private theorem exists_placed (consistent : Consistent index) (valid : notice.isValid = true) :
    ∃ ahead behind : List Filing,
      (ahead ++ behind).Perm (index.grouped.filingsAbout notice.subject) ∧
      (ahead ++ behind).Pairwise Filing.Precedes ∧
      index.forSubject notice.subject = (ahead ++ behind).map (·.notice) ∧
      (ofGrouped (index.grouped.add notice)).forSubject notice.subject =
        ahead.map (·.notice) ++ notice :: behind.map (·.notice) ∧
      (∀ filing ∈ ahead, filing.StaysAhead notice) ∧
      ∀ filing ∈ behind, ¬ filing.StaysAhead notice := by
  obtain ⟨front, above, position, before, after, frontFirst, aboveLast⟩ :=
    index.grouped.exists_filingsAbout_add notice
  obtain ⟨order, perm, sorted, same⟩ := (consistent.add valid).forSubject notice.subject
  rw [ofGrouped, after] at perm
  -- The new list parts at the new filing, and without it it is the old list.
  obtain ⟨ahead, behind, rfl⟩ :
      ∃ ahead behind, order = ahead ++ notice.filedAt position :: behind :=
    List.append_of_mem (perm.mem_iff.mpr (by simp))
  have rest : (ahead ++ behind).Perm (front ++ above) :=
    (List.perm_middle.symm.trans (perm.trans List.perm_middle)).cons_inv
  obtain ⟨_, sortedBehind, aheadFirst⟩ := List.pairwise_append.mp sorted
  have sortedRest : (ahead ++ behind).Pairwise Filing.Precedes :=
    sorted.sublist ((List.sublist_cons_self _ _).append_left _)
  refine ⟨ahead, behind, before ▸ rest, sortedRest,
    consistent.forSubject_eq (before ▸ rest) sortedRest, ?_, ?_, ?_⟩
  · rw [← same, List.map_append, List.map_cons]
    rfl
  · intro filing member
    exact (aheadFirst filing member _ List.mem_cons_self).staysAhead
  · intro filing member
    have place := List.mem_append.mp (rest.mem_iff.mp (List.mem_append_right ahead member))
    exact ((List.pairwise_cons.mp sortedBehind).1 filing member).not_staysAhead
      (place.imp (frontFirst filing) (aboveLast filing))

end Consistent

/-! ### Who is found -/

/-- An element found in front of a new one is found as before. -/
private theorem find?_inserted {α : Type} (p : α → Bool) (ahead behind : List α) (new : α) :
    (ahead ++ new :: behind).find? p =
      if p new = true ∧ ∀ other ∈ ahead, p other = false then some new
      else (ahead ++ behind).find? p := by
  rw [List.find?_append, List.find?_append]
  cases found : ahead.find? p with
  | some other =>
    have member := List.mem_of_find?_eq_some found
    have holds := List.find?_some found
    rw [if_neg fun both => by simp [both.2 other member] at holds, Option.some_or, Option.some_or]
  | none =>
    have none_ := List.find?_eq_none.mp found
    by_cases holds : p new
    · rw [if_pos ⟨holds, fun other member => Bool.not_eq_true _ ▸ none_ other member⟩,
        List.find?_cons_of_pos holds, Option.none_or]
    · rw [if_neg fun both => holds both.1, List.find?_cons_of_neg holds]

/-! ### Changes in their place -/

/-- What filing a notice makes of an index, with the filings that stay ahead of it and those behind
it in the order of the view. -/
structure Placed (notice : Notice) (ahead behind : List Filing) (before after : NoticeIndex) :
    Prop where
  filings : (ahead ++ behind).Perm (before.grouped.filingsAbout notice.subject)
  sorted : (ahead ++ behind).Pairwise Filing.Precedes
  listed : before.forSubject notice.subject = (ahead ++ behind).map (·.notice)
  inserted : after.forSubject notice.subject =
    ahead.map (·.notice) ++ notice :: behind.map (·.notice)
  stay : ∀ filing ∈ ahead, filing.StaysAhead notice
  yield : ∀ filing ∈ behind, ¬ filing.StaysAhead notice
  active : ∀ moment, after.active notice.subject moment =
    if notice.covers moment = true ∧ ∀ filing ∈ ahead, filing.notice.covers moment = false then
      some notice
    else before.active notice.subject moment
  others : ∀ subject ≠ notice.subject, after.forSubject subject = before.forSubject subject
  filed : ∀ reporter subject, after.grouped.filedBy? reporter subject =
    if reporter = notice.reporter ∧ subject = notice.subject then
      some ((before.grouped.filedBy? reporter subject).getD [] ++ [notice])
    else before.grouped.filedBy? reporter subject
  pruned : after.grouped.Pruned

/-- What withdrawing all that a reporter filed about a subject makes of an index, with the filings
about the subject in the order of the view. -/
structure TakenOut (reporter subject : String) (order : List Filing) (before after : NoticeIndex) :
    Prop where
  filings : order.Perm (before.grouped.filingsAbout subject)
  sorted : order.Pairwise Filing.Precedes
  listed : before.forSubject subject = order.map (·.notice)
  left : after.forSubject subject = (order.filter (·.reporter ≠ reporter)).map (·.notice)
  others : ∀ other ≠ subject, after.forSubject other = before.forSubject other
  filed : ∀ reporter' subject', after.grouped.filedBy? reporter' subject' =
    if reporter' = reporter ∧ subject' = subject then none
    else before.grouped.filedBy? reporter' subject'
  pruned : after.grouped.Pruned

private theorem Consistent.exists_register (consistent : Consistent index)
    (valid : notice.isValid = true) :
    ∃ ahead behind, Placed notice ahead behind index (ofGrouped (index.grouped.add notice)) := by
  obtain ⟨ahead, behind, filings, sorted, listed, inserted, staysAhead, notAhead⟩ :=
    consistent.exists_placed valid
  refine ⟨ahead, behind, filings, sorted, listed, inserted, staysAhead, notAhead, ?_,
    fun _ => consistent.forSubject_add_of_ne valid, filedBy?_add index.grouped notice,
    consistent.pruned.add notice⟩
  intro moment
  rw [active, inserted, find?_inserted]
  simp only [List.forall_mem_map, active, listed, List.map_append]

theorem withdraw?_eq_none {grouped : Grouped} {reporter subject : String} :
    grouped.withdraw? reporter subject = none ↔ grouped.filedBy? reporter subject = none := by
  rw [withdraw?, filedBy?]
  cases grouped.find? reporter with
  | none => simp
  | some subjects => cases found : subjects.find? subject <;> simp [found]

/-- Where nothing was filed, nothing is taken out. -/
private theorem Consistent.takenOut_of_nothing (consistent : Consistent index)
    {reporter subject : String} (nothing : index.grouped.filedBy? reporter subject = none) :
    ∃ order, TakenOut reporter subject order index index := by
  obtain ⟨order, filings, sorted, same⟩ := consistent.forSubject subject
  have all : order.filter (·.reporter ≠ reporter) = order := by
    refine List.filter_eq_self.mpr fun filing member => decide_eq_true ?_
    rintro rfl
    obtain ⟨notices, filed, _⟩ := exists_filedBy?_of_mem_filingsAbout (filings.mem_iff.mp member)
    rw [nothing] at filed
    cases filed
  refine ⟨order, filings, sorted, same.symm, by rw [all, same], fun _ _ => rfl, ?_,
    consistent.pruned⟩
  intro reporter' subject'
  split
  next here => rw [here.1, here.2, nothing]
  · rfl

private theorem Consistent.takenOut_of_withdraw (consistent : Consistent index) {rest : Grouped}
    {reporter subject : String} (withdrawn : index.grouped.withdraw? reporter subject = some rest) :
    ∃ order, TakenOut reporter subject order index (ofGrouped rest) := by
  obtain ⟨order, filings, sorted, listed, left⟩ :=
    consistent.exists_order_withdraw withdrawn subject
  rw [if_pos rfl] at left
  refine ⟨order, filings, sorted, listed, left, fun other different => ?_,
    filedBy?_withdraw withdrawn,
    consistent.pruned.withdraw withdrawn⟩
  obtain ⟨order', _, _, before, after⟩ := consistent.exists_order_withdraw withdrawn other
  rw [after, before, if_neg different]

/-- A valid notice goes to its place and an invalid one nowhere; a withdrawal takes out what was
filed under the reporter's key, if there was anything. All else stays where it was. -/
theorem moves_nothing_else (reachable : index.Reachable) :
    (∀ notice : Notice, notice.isValid = true →
      ∃ after, index.register notice = (after, true) ∧
        ∃ ahead behind, Placed notice ahead behind index after) ∧
    (∀ notice : Notice, notice.isValid = false → index.register notice = (index, false)) ∧
    ∀ reporter subject, ∃ after found, index.reset reporter subject = (after, found) ∧
      (∃ order, TakenOut reporter subject order index after) ∧
      (found = false → after = index) ∧
      (found = true ↔ index.grouped.filedBy? reporter subject ≠ none) := by
  have consistent := reachable.consistent
  refine ⟨fun notice valid => ?_, fun notice invalid => ?_, fun reporter subject => ?_⟩
  · exact ⟨_, if_pos valid, consistent.exists_register valid⟩
  · exact if_neg (invalid ▸ Bool.false_ne_true)
  · rw [reset, ne_eq, ← withdraw?_eq_none]
    cases withdrawn : index.grouped.withdraw? reporter subject with
    | none =>
      have nothing := withdraw?_eq_none.mp withdrawn
      exact ⟨index, false, rfl, consistent.takenOut_of_nothing nothing, fun _ => rfl, by simp⟩
    | some rest =>
      exact ⟨ofGrouped rest, true, rfl, consistent.takenOut_of_withdraw withdrawn, by simp, by simp⟩

/-- A notice of the same time goes between those of lesser and of greater reporters, and is found
where the first of them is not in force. -/
theorem moves_nothing_else_of_three :
    let index := (twoAboutBob.map Change.register).foldl change empty
    let added := aboutBob "bob" 9 (by decide) "1970/01/02 ~ 1970/01/03"
    let noon : Instant := ⟨⟨1970, 1, 3, by decide⟩, 12, 0, 0, 0, by decide⟩
    index.Reachable ∧ added.isValid = true ∧
      ∃ after ahead behind, index.register added = (after, true) ∧
        Placed added ahead behind index after ∧
        after.forSubject "bob@example.com" = twoAboutBob.take 1 ++ added :: twoAboutBob.drop 1 ∧
        after.active "bob@example.com" noon = some added ∧
        ∃ order, TakenOut "carol" "bob@example.com" order index
          (index.reset "carol" "bob@example.com").1 := by
  intro index added noon
  have reachable : index.Reachable := .foldl .new _
  have valid : added.isValid = true := by decide
  obtain ⟨registers, _, resets⟩ := moves_nothing_else reachable
  obtain ⟨after, run, ahead, behind, placed⟩ := registers added valid
  obtain ⟨left, found, run', taken, _⟩ := resets "carol" "bob@example.com"
  have isAfter : after = (index.register added).1 := by rw [run]
  refine ⟨reachable, valid, after, ahead, behind, run, placed, ?_, ?_, by rw [run']; exact taken⟩
  · rw [isAfter]
    decide
  · rw [isAfter]
    decide

end NoticeIndex

end Whereabouts
