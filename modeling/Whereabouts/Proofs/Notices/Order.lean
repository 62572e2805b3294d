import Whereabouts.Proofs.Notices.Views
/-!
# The order of the notices about a person

## Main results

`Consistent.forSubject_eq`: the view by subject is determined by the grouped view, since only one
list of the filings is in the order of `Filing.Precedes`. `Consistent.exists_order_withdraw` and
`Consistent.forSubject_withdraw`: what a withdrawal leaves of the view is what others filed, in the
same order.

## Strategy

`Filing.Precedes` goes in one direction only, so two lists of the same filings in that order are
one list. The filings of a reporter stand between those of the reporters before and after, and a
change of the reporter's table replaces them there and touches nothing around them.
-/
namespace Whereabouts

open Whereabouts.Calendar Whereabouts.Text

/-! ### One order -/

namespace Filing

theorem FiledBefore.asymm {one two : Filing} (before : one.FiledBefore two) :
    ¬ two.FiledBefore one := by
  rintro (less | ⟨same, less⟩)
  · rcases before with less' | ⟨same', _⟩
    · exact List.lt_asymm less less'
    · exact List.lt_irrefl _ (same' ▸ less)
  · rcases before with less' | ⟨_, less'⟩
    · exact List.lt_irrefl _ (same ▸ less')
    · omega

private theorem Precedes.asymm {one two : Filing} (before : one.Precedes two) :
    ¬ two.Precedes one := by
  rintro (newer | ⟨same, filed⟩)
  · rcases before with newer' | ⟨same', _⟩
    · exact Int.lt_asymm newer newer'
    · exact Int.lt_irrefl _ (same' ▸ newer)
  · rcases before with newer' | ⟨_, filed'⟩
    · exact Int.lt_irrefl _ (same ▸ newer')
    · exact filed.asymm filed'

theorem Precedes.reportedAt_le {one two : Filing} (before : one.Precedes two) :
    two.notice.reportedAt ≤ one.notice.reportedAt := by
  rcases before with newer | ⟨same, _⟩
  · exact Int.le_of_lt newer
  · exact Int.le_of_eq (congrArg Instant.rank same.symm)

private theorem eq_of_precedes {order order' : List Filing} (perm : order.Perm order')
    (sorted : order.Pairwise Precedes) (sorted' : order'.Pairwise Precedes) : order = order' :=
  perm.eq_of_pairwise (fun _ _ _ _ before after => absurd after before.asymm) sorted sorted'

end Filing

/-! ### Filings around a reporter -/

namespace Grouped

private theorem mem_map_filingsAbout {grouped : Grouped} {subject : String} {notice : Notice} :
    notice ∈ (grouped.filingsAbout subject).map (·.notice) ↔
      ∃ reporter notices, grouped.filedBy? reporter subject = some notices ∧ notice ∈ notices := by
  simp only [← flatMap_filed, List.mem_flatMap, Prod.exists, mem_filed]
  constructor
  · rintro ⟨reporter, about, notices, filed, member⟩
    split at member
    next same => exact ⟨reporter, notices, same ▸ filed, member⟩
    · cases member
  · rintro ⟨reporter, notices, filed, member⟩
    exact ⟨reporter, subject, notices, filed, by rwa [if_pos rfl]⟩

/-- The filings about a subject in the table of one reporter. -/
def filingsIn (subject : String) (byReporter : String × Table (List Notice)) : List Filing :=
  filings byReporter.1 ((byReporter.2.find? subject).getD [])

private theorem filingsAbout_eq (grouped : Grouped) (subject : String) :
    grouped.filingsAbout subject = grouped.entries.flatMap (filingsIn subject) := rfl

theorem exists_filedBy?_of_mem_filingsAbout {grouped : Grouped} {subject : String}
    {filing : Filing} (member : filing ∈ grouped.filingsAbout subject) :
    ∃ notices, grouped.filedBy? filing.reporter subject = some notices ∧
      filing.notice ∈ notices := by
  obtain ⟨byReporter, listed, inside⟩ := List.mem_flatMap.mp member
  have there : filing.notice ∈ (byReporter.2.find? subject).getD [] := by
    rw [← map_notice_filings byReporter.1 ((byReporter.2.find? subject).getD [])]
    exact List.mem_map_of_mem inside
  have found : grouped.find? byReporter.1 = some byReporter.2 := Table.find?_eq_some.mpr listed
  cases about : byReporter.2.find? subject with
  | none => simp [about] at there
  | some notices =>
    rw [about, Option.getD_some] at there
    have filed : grouped.filedBy? filing.reporter subject = some notices := by
      rw [reporter_of_mem_filings inside, filedBy?, found, Option.bind_some, about]
    exact ⟨notices, filed, there⟩

/-- A change of a reporter's table replaces the filings of the reporter. They stand between those of
lesser reporters and those of greater ones, which stay. -/
theorem exists_filingsAbout_alter {grouped changed : Grouped} {reporter : String}
    {change : Option (Table (List Notice)) → Option (Table (List Notice))}
    (altered : changed = grouped.alter reporter change) (subject : String) :
    ∃ below above : List Filing,
      (∀ filing ∈ below, filing.reporter < reporter) ∧
      (∀ filing ∈ above, reporter < filing.reporter) ∧
      grouped.filingsAbout subject =
        below ++ filings reporter ((grouped.filedBy? reporter subject).getD []) ++ above ∧
      changed.filingsAbout subject =
        below ++ filings reporter ((changed.filedBy? reporter subject).getD []) ++ above := by
  obtain ⟨below, above, lesser, greater, entries⟩ := grouped.exists_entries_alter reporter
  have filed (subjects? : Option (Table (List Notice))) :
      filingsAbout (grouped.alter reporter fun _ => subjects?) subject =
        below.flatMap (filingsIn subject) ++
          filings reporter ((subjects?.bind (·.find? subject)).getD []) ++
            above.flatMap (filingsIn subject) := by
    rw [filingsAbout_eq, entries, List.flatMap_append, List.flatMap_append]
    cases subjects? with
    | none => rfl
    | some subjects =>
      rw [Table.entryOf, List.flatMap_singleton]
      rfl
  refine ⟨below.flatMap (filingsIn subject), above.flatMap (filingsIn subject), ?_, ?_, ?_, ?_⟩
  · intro filing member
    obtain ⟨byReporter, old, inside⟩ := List.mem_flatMap.mp member
    exact reporter_of_mem_filings inside ▸ lesser byReporter old
  · intro filing member
    obtain ⟨byReporter, old, inside⟩ := List.mem_flatMap.mp member
    exact reporter_of_mem_filings inside ▸ greater byReporter old
  · -- Putting the reporter's own table back changes nothing, so the list before is of this form.
    have before := filed (grouped.find? reporter)
    rwa [Table.alter_find?] at before
  · rw [altered, Table.alter_eq, filed, filedBy?, Table.find?_alter, if_pos rfl]

/-- A withdrawal takes the filings of the reporter about the subject out of their list. -/
private theorem filingsAbout_withdraw {grouped rest : Grouped} {reporter subject : String}
    (withdrawn : grouped.withdraw? reporter subject = some rest) (about : String) :
    rest.filingsAbout about =
      if about = subject then (grouped.filingsAbout about).filter (·.reporter ≠ reporter)
      else grouped.filingsAbout about := by
  have filedAfter := filedBy?_withdraw withdrawn reporter about
  simp only [withdraw?, Option.bind_eq_bind, Option.bind_eq_some_iff, Option.some.injEq]
    at withdrawn
  obtain ⟨subjects, _, _, _, altered⟩ := withdrawn
  obtain ⟨below, above, lesser, greater, before, after⟩ :=
    exists_filingsAbout_alter altered.symm about
  rw [after, before, filedAfter]
  by_cases same : about = subject
  · -- No filing around the reporter's is the reporter's, and the reporter has none left.
    have others {around : List Filing} (other : ∀ filing ∈ around, filing.reporter ≠ reporter) :
        around.filter (·.reporter ≠ reporter) = around :=
      List.filter_eq_self.mpr fun filing member => decide_eq_true (other filing member)
    have own (notices : List Notice) :
        (filings reporter notices).filter (·.reporter ≠ reporter) = [] :=
      List.filter_eq_nil_iff.mpr fun filing member => by simp [reporter_of_mem_filings member]
    rw [if_pos ⟨rfl, same⟩, if_pos same, List.filter_append, List.filter_append, own,
      others fun filing member => String.ne_of_lt (lesser filing member),
      others fun filing member => (String.ne_of_lt (greater filing member)).symm]
    rfl
  · rw [if_neg (fun both => same both.2), if_neg same]

end Grouped

/-! ### The view by subject -/

namespace NoticeIndex

open Grouped

private theorem reporter_of_mem_filingsAbout {grouped : Grouped} (own : UnderOwnKeys grouped)
    {subject : String} {filing : Filing} (member : filing ∈ grouped.filingsAbout subject) :
    filing.notice.reporter = filing.reporter := by
  obtain ⟨notices, filed, there⟩ := exists_filedBy?_of_mem_filingsAbout member
  exact (own filing.reporter subject notices filed filing.notice there).1

namespace Consistent

variable {index : NoticeIndex} (consistent : Consistent index)

include consistent

theorem forSubject_eq {subject : String} {order : List Filing}
    (perm : order.Perm (index.grouped.filingsAbout subject))
    (sorted : order.Pairwise Filing.Precedes) :
    index.forSubject subject = order.map (·.notice) := by
  obtain ⟨order', perm', sorted', same⟩ := consistent.forSubject subject
  rw [← same, Filing.eq_of_precedes (perm.trans perm'.symm) sorted sorted']

theorem mem_forSubject {subject : String} {notice : Notice} :
    notice ∈ index.forSubject subject ↔
      ∃ reporter notices, index.grouped.filedBy? reporter subject = some notices ∧
        notice ∈ notices := by
  obtain ⟨order, perm, _, same⟩ := consistent.forSubject subject
  rw [← same, (perm.map _).mem_iff, mem_map_filingsAbout]

/-- No notice is followed by one that was reported later. -/
theorem pairwise_forSubject (subject : String) :
    (index.forSubject subject).Pairwise fun one two => two.reportedAt ≤ one.reportedAt := by
  obtain ⟨order, _, sorted, same⟩ := consistent.forSubject subject
  rw [← same, List.pairwise_map]
  exact sorted.imp Filing.Precedes.reportedAt_le

/-- A withdrawal takes what the reporter filed about the subject out of the view, under whatever
name the notices themselves have. -/
theorem exists_order_withdraw {rest : Grouped} {reporter subject : String}
    (withdrawn : index.grouped.withdraw? reporter subject = some rest) (about : String) :
    ∃ order : List Filing, order.Perm (index.grouped.filingsAbout about) ∧
      order.Pairwise Filing.Precedes ∧ index.forSubject about = order.map (·.notice) ∧
      (ofGrouped rest).forSubject about =
        (if about = subject then order.filter (·.reporter ≠ reporter) else order).map
          (·.notice) := by
  have after : Consistent (ofGrouped rest) :=
    consistent_ofGrouped (consistent.valid.withdraw withdrawn)
      (consistent.pruned.withdraw withdrawn)
  have filed : (ofGrouped rest).grouped.filingsAbout about = _ :=
    filingsAbout_withdraw withdrawn about
  obtain ⟨order, perm, sorted, same⟩ := consistent.forSubject about
  refine ⟨order, perm, sorted, same.symm, after.forSubject_eq ?_ ?_⟩
  · rw [filed]
    split
    · exact perm.filter _
    · exact perm
  · split
    · exact sorted.filter _
    · exact sorted

theorem forSubject_withdraw (own : UnderOwnKeys index.grouped) {rest : Grouped}
    {reporter subject : String}
    (withdrawn : index.grouped.withdraw? reporter subject = some rest) (about : String) :
    (ofGrouped rest).forSubject about =
      if about = subject then (index.forSubject about).filter (·.reporter ≠ reporter)
      else index.forSubject about := by
  obtain ⟨order, perm, _, before, after⟩ := consistent.exists_order_withdraw withdrawn about
  rw [after, before]
  split
  · rw [List.filter_map]
    -- On the filings of this list the key and the name in the notice are the same.
    refine congrArg _ (List.filter_congr fun filing member => ?_)
    have name := reporter_of_mem_filingsAbout own (perm.mem_iff.mp member)
    rw [Function.comp_apply, name]
  · rfl

end Consistent

end NoticeIndex

end Whereabouts
