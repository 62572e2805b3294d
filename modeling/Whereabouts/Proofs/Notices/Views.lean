import Whereabouts.Proofs.Notices.Filed
import Whereabouts.Proofs.Text.Octets
/-!
# Both views of the notices

## Main result

`consistent_after_changes`: after any changes to an index that was loaded or new, the view by
subject lists exactly the notices of the grouped view, in the order that is wanted of it.

## Strategy

The order is stated on filings: notices with the reporter they are filed under and their place in
the list. On filings it is a strict order, so it says where equally old notices stand. The grouped
view gives the filings about a subject in the order of reporters and places, and sorting by time
moves a notice only past those that were reported earlier.
-/
namespace Whereabouts

open Whereabouts.Calendar Whereabouts.Text

/-! ### Filings -/

/-- A notice, the reporter it is filed under and its place in that list. -/
structure Filing where
  reporter : String
  position : Nat
  notice : Notice

namespace Filing

/-- By the octets of the reporters, and then by the places in the list. -/
def FiledBefore (one two : Filing) : Prop :=
  octets one.reporter < octets two.reporter ∨
    (one.reporter = two.reporter ∧ one.position < two.position)

/-- The later report comes first; of equally old ones the one filed before. -/
def Precedes (one two : Filing) : Prop :=
  two.notice.reportedAt < one.notice.reportedAt ∨
    (one.notice.reportedAt = two.notice.reportedAt ∧ one.FiledBefore two)

end Filing

namespace Grouped

/-- The list of one reporter as filings. -/
def filings (reporter : String) (notices : List Notice) : List Filing :=
  notices.zipIdx.map fun placed => ⟨reporter, placed.2, placed.1⟩

/-- All that is filed about a subject, one reporter after the other. -/
def filingsAbout (grouped : Grouped) (subject : String) : List Filing :=
  grouped.entries.flatMap fun byReporter =>
    filings byReporter.1 ((byReporter.2.find? subject).getD [])

theorem map_notice_filings (reporter : String) (notices : List Notice) :
    (filings reporter notices).map (·.notice) = notices := by
  rw [filings, List.map_map]
  exact List.zipIdx_map_fst 0 notices

theorem filings_pairwise (reporter : String) (notices : List Notice) :
    (filings reporter notices).Pairwise Filing.FiledBefore := by
  rw [filings, List.pairwise_map, List.pairwise_iff_getElem]
  intro i j _ _ less
  right
  simpa using less

theorem reporter_of_mem_filings {reporter : String} {notices : List Notice} {filing : Filing}
    (member : filing ∈ filings reporter notices) : filing.reporter = reporter := by
  obtain ⟨_, _, rfl⟩ := List.mem_map.mp member
  rfl

/-- Reporters come in the order of their octets, since tables list their keys in order. -/
theorem filingsAbout_pairwise (grouped : Grouped) (subject : String) :
    (grouped.filingsAbout subject).Pairwise Filing.FiledBefore := by
  rw [filingsAbout, List.pairwise_flatMap]
  refine ⟨fun byReporter _ => filings_pairwise byReporter.1 _, ?_⟩
  refine grouped.ordered.imp ?_
  intro earlier later less one memberOne two memberTwo
  left
  rw [reporter_of_mem_filings memberOne, reporter_of_mem_filings memberTwo]
  exact lt_iff_octets_lt.mp less

/-! ### Sorting -/

/-- Sorting filings by time and forgetting where they were filed is sorting their notices. -/
private theorem exists_inserted (filing : Filing) {filings : List Filing}
    (first : ∀ other ∈ filings, filing.FiledBefore other)
    (sorted : filings.Pairwise Filing.Precedes) :
    ∃ inserted : List Filing, inserted.Perm (filing :: filings) ∧
      inserted.Pairwise Filing.Precedes ∧
      inserted.map (·.notice) = insertNewest filing.notice (filings.map (·.notice)) := by
  -- By induction on the sorted list: the filing moves past each head that was reported later.
  induction filings with
  | nil => exact ⟨[filing], .refl _, List.pairwise_singleton _ _, rfl⟩
  | cons head rest ih =>
    obtain ⟨headFirst, restSorted⟩ := List.pairwise_cons.mp sorted
    by_cases older : filing.notice.reportedAt < head.notice.reportedAt
    · obtain ⟨inserted, perm, ordered, same⟩ :=
        ih (fun other member => first other (List.mem_cons_of_mem _ member)) restSorted
      refine ⟨head :: inserted, (perm.cons head).trans (.swap filing head rest), ?_, ?_⟩
      · refine List.pairwise_cons.mpr ⟨fun other member => ?_, ordered⟩
        rcases List.mem_cons.mp (perm.mem_iff.mp member) with rfl | old
        · exact .inl older
        · exact headFirst other old
      · simp [insertNewest, older, same]
    · refine ⟨filing :: head :: rest, .refl _, ?_, by simp [insertNewest, older]⟩
      refine List.pairwise_cons.mpr ⟨fun other member => ?_, sorted⟩
      rw [Instant.lt_def] at older
      have notNewer : other.notice.reportedAt.rank ≤ filing.notice.reportedAt.rank := by
        rcases List.mem_cons.mp member with rfl | old
        · omega
        · rcases headFirst other old with less | ⟨same, _⟩
          · have := Instant.lt_def.mp less
            omega
          · rw [← same]
            omega
      -- Among equally old notices the one that was filed before stays in front.
      rcases Int.lt_or_eq_of_le notNewer with less | same
      · exact .inl less
      · exact .inr ⟨Instant.eq_of_rank same.symm, first other member⟩

theorem newestFirst_cons (notice : Notice) (notices : List Notice) :
    newestFirst (notice :: notices) = insertNewest notice (newestFirst notices) := rfl

theorem exists_newestFirst {filings : List Filing}
    (filed : filings.Pairwise Filing.FiledBefore) :
    ∃ order : List Filing, order.Perm filings ∧ order.Pairwise Filing.Precedes ∧
      order.map (·.notice) = newestFirst (filings.map (·.notice)) := by
  -- The sort inserts from the end, so each filing is inserted before all that are filed after it.
  induction filings with
  | nil => exact ⟨[], .refl _, .nil, rfl⟩
  | cons filing rest ih =>
    obtain ⟨first, later⟩ := List.pairwise_cons.mp filed
    obtain ⟨order, perm, sorted, same⟩ := ih later
    obtain ⟨inserted, permInserted, ordered, sameInserted⟩ :=
      exists_inserted filing (fun other member => first other (perm.mem_iff.mp member)) sorted
    exact ⟨inserted, permInserted.trans (perm.cons filing), ordered, by
      rw [sameInserted, same, List.map_cons, newestFirst_cons]⟩

private theorem length_newestFirst (notices : List Notice) :
    (newestFirst notices).length = notices.length := by
  have length_insertNewest (notice : Notice) (notices : List Notice) :
      (insertNewest notice notices).length = notices.length + 1 := by
    induction notices with
    | nil => rfl
    | cons other rest ih =>
      rw [insertNewest]
      split <;> simp [ih]
  induction notices with
  | nil => rfl
  | cons notice rest ih => rw [newestFirst_cons, length_insertNewest, ih, List.length_cons]

/-! ### The view by subject -/

/-- Adds a list to what is there under its subject, as `collected` does. -/
def collect (collected : Table (List Notice)) (entry : String × String × List Notice) :
    Table (List Notice) :=
  collected.alter entry.2.1 fun notices? => some (notices?.getD [] ++ entry.2.2)

private theorem find?_foldl_collect (filed : List (String × String × List Notice))
    (collected : Table (List Notice)) (subject : String) :
    ((filed.foldl collect collected).find? subject).getD [] =
      (collected.find? subject).getD [] ++
        filed.flatMap fun entry => if entry.2.1 = subject then entry.2.2 else [] := by
  -- By induction on what is still to be collected, for any table collected so far.
  induction filed generalizing collected with
  | nil => simp
  | cons entry rest ih =>
    rw [List.foldl_cons, ih, collect, Table.find?_alter, List.flatMap_cons, ← List.append_assoc]
    by_cases same : subject = entry.2.1
    · simp [same]
    · simp [same, Ne.symm same]

theorem flatMap_filed (grouped : Grouped) (subject : String) :
    (grouped.filed.flatMap fun entry => if entry.2.1 = subject then entry.2.2 else []) =
      (grouped.filingsAbout subject).map (·.notice) := by
  have oneTable (subjects : Table (List Notice)) :
      (subjects.entries.flatMap fun entry => if entry.1 = subject then entry.2 else []) =
        (subjects.find? subject).getD [] := by
    have ordered := subjects.ordered
    rw [Table.find?]
    generalize subjects.entries = entries at ordered
    -- A key occurs once, so at most one entry contributes.
    induction entries with
    | nil => rfl
    | cons first rest ih =>
      obtain ⟨above, later⟩ := List.pairwise_cons.mp ordered
      rw [List.flatMap_cons, ih later, Table.findEntry]
      by_cases same : subject = first.1
      · have absent : Table.findEntry subject rest = none :=
          Table.findEntry_eq_none fun entry member => same ▸ (String.ne_of_lt (above entry member)).symm
        simp [← same, absent]
      · simp [same, Ne.symm same]
  simp only [filed, filingsAbout, List.flatMap_assoc, List.map_flatMap, map_notice_filings,
    List.flatMap_map, oneTable]

theorem getD_find?_bySubject (grouped : Grouped) (subject : String) :
    (grouped.bySubject.find? subject).getD [] =
      newestFirst ((grouped.filingsAbout subject).map (·.notice)) := by
  have collected : (grouped.collected.find? subject).getD [] =
      (grouped.filingsAbout subject).map (·.notice) := by
    rw [← flatMap_filed]
    exact find?_foldl_collect grouped.filed .empty subject
  rw [bySubject, Table.find?_map, ← collected]
  cases grouped.collected.find? subject <;> rfl

private theorem find?_foldl_collect_eq_none (filed : List (String × String × List Notice))
    (collected : Table (List Notice)) (subject : String) :
    (filed.foldl collect collected).find? subject = none ↔
      collected.find? subject = none ∧ ∀ entry ∈ filed, subject ≠ entry.2.1 := by
  induction filed generalizing collected with
  | nil => simp
  | cons entry rest ih =>
    rw [List.foldl_cons, ih, collect, Table.find?_alter, List.forall_mem_cons]
    by_cases same : subject = entry.2.1 <;> simp [same]

private theorem isEmpty_bySubject (grouped : Grouped) :
    grouped.bySubject.isEmpty = true ↔ grouped.filed = [] := by
  have lookup (subject : String) : grouped.bySubject.find? subject = none ↔
      ∀ entry ∈ grouped.filed, subject ≠ entry.2.1 := by
    rw [bySubject, Table.find?_map, Option.map_eq_none_iff]
    exact (find?_foldl_collect_eq_none grouped.filed .empty subject).trans (by simp)
  rw [Table.isEmpty_iff, List.eq_nil_iff_forall_not_mem]
  constructor
  · intro empty entry member
    exact (lookup entry.2.1).mp (empty entry.2.1) entry member rfl
  · intro nothing subject
    exact (lookup subject).mpr fun entry member => absurd member (nothing entry)

private theorem length_alter_append (table : Table (List Notice)) (subject : String)
    (more : List Notice) :
    (table.alter subject fun notices? => some (notices?.getD [] ++ more)).values.flatten.length =
      table.values.flatten.length + more.length := by
  simp only [Table.values, Table.alter]
  induction table.entries with
  | nil => simp [Table.alterEntries, Table.entryOf]
  | cons first rest ih =>
    rw [Table.alterEntries]
    split
    · simp [Table.entryOf]
      omega
    · split
      · simp [Table.entryOf]
        omega
      · simp only [List.map_cons, List.flatten_cons, List.length_append, ih]
        omega

private theorem length_values_bySubject (grouped : Grouped) :
    grouped.bySubject.values.flatten.length = grouped.size := by
  have collecting (filed : List (String × String × List Notice))
      (collected : Table (List Notice)) :
      (filed.foldl collect collected).values.flatten.length =
        collected.values.flatten.length + (filed.flatMap fun entry => entry.2.2).length := by
    induction filed generalizing collected with
    | nil => simp
    | cons entry rest ih =>
      rw [List.foldl_cons, ih, collect, length_alter_append, List.flatMap_cons, List.length_append]
      omega
  have sorting : grouped.bySubject.values.flatten.length =
      grouped.collected.values.flatten.length := by
    simp only [bySubject, Table.values, Table.entries_map, List.map_map, List.length_flatten]
    congr 1
    exact List.map_congr_left fun entry _ => length_newestFirst entry.2
  rw [sorting]
  exact (collecting grouped.filed .empty).trans (Nat.zero_add _)

end Grouped

/-! ### Consistent indexes -/

namespace NoticeIndex

open Grouped

/-- Only sound notices are stored, nothing empty is kept, and the view by subject is the grouped
view in the order of `Filing.Precedes`. -/
structure Consistent (index : NoticeIndex) : Prop where
  valid : index.grouped.Everywhere fun _ _ notice => notice.isValid = true
  pruned : index.grouped.Pruned
  forSubject : ∀ subject, ∃ order : List Filing,
    order.Perm (index.grouped.filingsAbout subject) ∧ order.Pairwise Filing.Precedes ∧
      order.map (·.notice) = index.forSubject subject
  size : index.size = index.grouped.size
  isEmpty : index.isEmpty = true ↔ index.grouped.isEmpty = true

theorem consistent_ofGrouped {grouped : Grouped}
    (valid : grouped.Everywhere fun _ _ notice => notice.isValid = true)
    (pruned : grouped.Pruned) : Consistent (ofGrouped grouped) where
  valid := valid
  pruned := pruned
  forSubject subject := by
    obtain ⟨order, perm, sorted, same⟩ :=
      exists_newestFirst (filingsAbout_pairwise grouped subject)
    exact ⟨order, perm, sorted, same.trans (getD_find?_bySubject grouped subject).symm⟩
  size := length_values_bySubject grouped
  isEmpty := (isEmpty_bySubject grouped).trans pruned.filed_eq_nil

/-! ### Runs of changes -/

/-- Whether every notice lies under its own reporter and its own subject. -/
def UnderOwnKeys (grouped : Grouped) : Prop :=
  grouped.Everywhere fun reporter subject notice =>
    notice.reporter = reporter ∧ notice.subject = subject

theorem consistent_load (stored : Grouped) : Consistent (load stored).1 := by
  have nothing : stored.Everywhere fun _ _ _ => True := fun _ _ _ _ _ _ => trivial
  exact consistent_ofGrouped (nothing.keep fun _ _ _ _ valid => valid) (.keep Notice.isValid stored)

theorem consistent_change {index : NoticeIndex} (consistent : Consistent index) (step : Change) :
    Consistent (index.change step) := by
  have changed := index.changed_change step
  generalize index.change step = index' at changed ⊢
  have valid := consistent.valid
  have pruned := consistent.pruned
  cases changed with
  | refused => exact consistent
  | registered isValid => exact consistent_ofGrouped (valid.add isValid) (pruned.add _)
  | withdrawn found => exact consistent_ofGrouped (valid.withdraw found) (pruned.withdraw found)
  | collected reference =>
    exact consistent_ofGrouped (valid.keep fun _ _ _ valid _ => valid) (.keep _ _)

theorem underOwnKeys_change {index : NoticeIndex} (own : UnderOwnKeys index.grouped)
    (step : Change) : UnderOwnKeys (index.change step).grouped := by
  have changed := index.changed_change step
  generalize index.change step = index' at changed ⊢
  cases changed with
  | refused => exact own
  | registered _ => exact own.add ⟨rfl, rfl⟩
  | withdrawn found => exact own.withdraw found
  | collected reference => exact own.keep fun _ _ _ own _ => own

theorem consistent_foldl {index : NoticeIndex} (consistent : Consistent index)
    (steps : List Change) : Consistent (steps.foldl change index) := by
  induction steps generalizing index with
  | nil => exact consistent
  | cons step steps ih => exact ih (consistent_change consistent step)

theorem underOwnKeys_foldl {index : NoticeIndex} (own : UnderOwnKeys index.grouped)
    (steps : List Change) : UnderOwnKeys (steps.foldl change index).grouped := by
  induction steps generalizing index with
  | nil => exact own
  | cons step steps ih => exact ih (underOwnKeys_change own step)

/-- The indexes a board can have: loaded or new, and changed any number of times since. -/
inductive Reachable : NoticeIndex → Prop
  | loaded (stored : Grouped) : Reachable (load stored).1
  | new : Reachable empty
  | changed {index : NoticeIndex} (reachable : Reachable index) (step : Change) :
      Reachable (index.change step)

theorem Reachable.consistent {index : NoticeIndex} (reachable : Reachable index) :
    Consistent index := by
  induction reachable with
  | loaded stored => exact consistent_load stored
  | new => exact consistent_ofGrouped .empty .empty
  | changed _ step consistent => exact consistent_change consistent step

/-- The view by subject is made anew with every change. -/
theorem Reachable.eq_ofGrouped {index : NoticeIndex} (reachable : Reachable index) :
    index = ofGrouped index.grouped := by
  induction reachable with
  | loaded stored => rfl
  | new => rfl
  | @changed index _ step same =>
    have changed := index.changed_change step
    generalize index.change step = index' at changed ⊢
    cases changed with
    | refused => exact same
    | registered => rfl
    | withdrawn => rfl
    | collected => rfl

theorem Reachable.foldl {index : NoticeIndex} (reachable : index.Reachable) (steps : List Change) :
    (steps.foldl change index).Reachable := by
  induction steps generalizing index with
  | nil => exact reachable
  | cons step steps ih => exact ih (.changed reachable step)

/-- Whatever was stored and however the index is changed, its views agree; and notices that were
stored under their own keys, or filed since, are under their own keys. -/
theorem consistent_after_changes (stored : Grouped) (steps : List Change) :
    Consistent (steps.foldl change (load stored).1) ∧
    Consistent (steps.foldl change empty) ∧
    (UnderOwnKeys stored → UnderOwnKeys (steps.foldl change (load stored).1).grouped) ∧
    UnderOwnKeys (steps.foldl change empty).grouped := by
  refine ⟨consistent_foldl (consistent_load stored) steps, ?_, ?_, ?_⟩
  · exact consistent_foldl (consistent_ofGrouped .empty .empty) steps
  · intro own
    have loaded : UnderOwnKeys (load stored).1.grouped := own.keep fun _ _ _ own _ => own
    exact underOwnKeys_foldl loaded steps
  · have own : UnderOwnKeys empty.grouped := Everywhere.empty
    exact underOwnKeys_foldl own steps

/-- A notice by `reporter` about Bob, sent at that hour of a day. -/
def aboutBob (reporter : String) (hour : Nat) (inDay : hour < 24) (period : String) : Notice where
  reportedAt := ⟨.epoch, hour, 0, 0, 0, by omega⟩
  reporter := reporter
  subject := "bob@example.com"
  period := period
  status := .vacation
  statusText := none
  tel := none

/-- Two notices of one time, which end on the second and the third of January. -/
def twoAboutBob : List Notice :=
  [aboutBob "alice" 9 (by decide) "1970/01/02", aboutBob "carol" 9 (by decide) "1970/01/03"]

theorem consistent_after_two_reports :
    let stored := Grouped.add .empty (aboutBob "alice" 9 (by decide) "1970/01/02")
    let steps := [Change.register (aboutBob "carol" 9 (by decide) "1970/01/03"),
      .register (aboutBob "alice" 10 (by decide) "someday"), .reset "alice" "bob@example.com",
      .collectGarbage (.startOfDay .epoch)]
    UnderOwnKeys stored ∧ Consistent (steps.foldl change (load stored).1) ∧
      UnderOwnKeys (steps.foldl change (load stored).1).grouped := by
  intro stored steps
  have own : UnderOwnKeys stored := Everywhere.empty.add ⟨rfl, rfl⟩
  have after := consistent_after_changes stored steps
  exact ⟨own, after.1, after.2.2.1 own⟩

end NoticeIndex

end Whereabouts
