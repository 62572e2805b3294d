import Mathlib.Data.List.Basic
import Whereabouts.Table
/-!
# Tables as finite maps

A table is determined by its lookups: an entry is listed under a key exactly if looking the key up
finds it. What the changes do is said through lookups, so that nothing else needs to know how the
entries are kept in order.
-/
universe u v

namespace Whereabouts.Table

variable {α : Type u} {β : Type v}

/-! ### Entries and lookups -/

private theorem findEntry_eq_some {key : String} {value : α} {entries : List (String × α)}
    (ordered : entries.Pairwise fun earlier later => earlier.1 < later.1) :
    findEntry key entries = some value ↔ (key, value) ∈ entries := by
  induction entries with
  | nil => simp [findEntry]
  | cons first rest ih =>
    obtain ⟨above, later⟩ := List.pairwise_cons.mp ordered
    rw [findEntry, List.mem_cons]
    split
    next same =>
      subst same
      have absent : (first.1, value) ∉ rest := fun member =>
        String.lt_irrefl _ (above (first.1, value) member)
      simp [absent, Prod.ext_iff, eq_comm]
    next different =>
      rw [ih later]
      simp [Prod.ext_iff, different]

theorem find?_eq_some {table : Table α} {key : String} {value : α} :
    table.find? key = some value ↔ (key, value) ∈ table.entries :=
  findEntry_eq_some table.ordered

theorem find?_eq_none {table : Table α} {key : String} :
    table.find? key = none ↔ ∀ value, (key, value) ∉ table.entries := by
  rw [Option.eq_none_iff_forall_ne_some]
  exact forall_congr' fun value => not_congr find?_eq_some

/-- Two lists in order with the same members are the same list. -/
theorem eq_of_find? {one two : Table α} (same : ∀ key, one.find? key = two.find? key) :
    one = two := by
  have members (entry : String × α) : entry ∈ one.entries ↔ entry ∈ two.entries := by
    have lookups := same entry.1
    rw [← find?_eq_some, ← find?_eq_some, lookups]
  -- Keys occur once in either list, so equal members make them permutations of each other.
  have perm : one.entries.Perm two.entries :=
    (List.perm_ext_iff_of_nodup (one.ordered.imp fun less => ne_of_apply_ne _ (String.ne_of_lt less))
      (two.ordered.imp fun less => ne_of_apply_ne _ (String.ne_of_lt less))).mpr members
  refine ext (perm.eq_of_pairwise ?_ one.ordered two.ordered)
  intro _ _ _ _ less greater
  exact absurd (String.lt_trans less greater) (String.lt_irrefl _)

/-- Changes of two entries do not meet. -/
theorem alter_comm (table : Table α) {one two : String} (different : one ≠ two)
    (change change' : Option α → Option α) :
    (table.alter one change).alter two change' = (table.alter two change').alter one change := by
  apply eq_of_find?
  intro key
  simp only [find?_alter, if_neg different, if_neg different.symm]
  split
  next same =>
    subst same
    rw [if_neg different.symm]
  · rfl

/-- A change comes to putting in place what it makes of the entry. -/
theorem alter_eq (table : Table α) (key : String) (change : Option α → Option α) :
    table.alter key change = table.alter key fun _ => change (table.find? key) := by
  apply eq_of_find?
  intro other
  rw [find?_alter, find?_alter]

theorem alter_find? (table : Table α) (key : String) :
    (table.alter key fun _ => table.find? key) = table := by
  apply eq_of_find?
  intro other
  rw [find?_alter]
  split
  next same => rw [same]
  · rfl

/-- The entry that is changed stands between those with lesser keys and those with greater ones. -/
theorem exists_entries_alter (table : Table α) (key : String) :
    ∃ below above : List (String × α),
      (∀ entry ∈ below, entry.1 < key) ∧ (∀ entry ∈ above, key < entry.1) ∧
      ∀ value?, (table.alter key fun _ => value?).entries = below ++ entryOf key value? ++ above := by
  obtain ⟨entries, ordered⟩ := table
  simp only [alter]
  induction entries with
  | nil => exact ⟨[], [], nofun, nofun, fun _ => by rw [alterEntries, List.append_nil, List.nil_append]⟩
  | cons first rest ih =>
    obtain ⟨least, later⟩ := List.pairwise_cons.mp ordered
    simp only [alterEntries]
    split
    next less =>
      refine ⟨[], first :: rest, nofun, ?_, fun _ => rfl⟩
      intro entry member
      rcases List.mem_cons.mp member with rfl | old
      · exact less
      · exact String.lt_trans less (least entry old)
    next notLess =>
      split
      next same => exact ⟨[], rest, nofun, same ▸ least, fun _ => rfl⟩
      next different =>
        obtain ⟨below, above, lesser, greater, entries⟩ := ih later
        refine ⟨first :: below, above, ?_, greater, fun value? => by rw [entries]; rfl⟩
        refine List.forall_mem_cons.mpr ⟨?_, lesser⟩
        rcases String.le_total key first.1 with le | ge
        · exact absurd (String.le_antisymm le (String.not_lt.mp notLess)) different
        · exact String.not_le.mp fun le => different (String.le_antisymm le ge)

theorem isEmpty_iff {table : Table α} : table.isEmpty = true ↔ ∀ key, table.find? key = none := by
  simp [isEmpty, List.isEmpty_iff, find?_eq_none, List.eq_nil_iff_forall_not_mem]

/-! ### Changing every entry -/

private theorem findEntry_mapEntries (change : String → α → Option β) (key : String)
    {entries : List (String × α)}
    (ordered : entries.Pairwise fun earlier later => earlier.1 < later.1) :
    findEntry key (mapEntries change entries) = (findEntry key entries).bind (change key) := by
  induction entries with
  | nil => rfl
  | cons first rest ih =>
    obtain ⟨above, later⟩ := List.pairwise_cons.mp ordered
    have unchanged := ih later
    rw [mapEntries] at unchanged
    -- If the entry of the key is dropped, no later one has the same key.
    by_cases same : key = first.1
    · subst same
      have absent : findEntry first.1 rest = none := findEntry_eq_none fun entry member =>
        (String.ne_of_lt (above entry member)).symm
      rw [absent] at unchanged
      cases image : change first.1 first.2 <;>
        simp [mapEntries, findEntry, image, unchanged]
    · cases image : change first.1 first.2 <;>
        simp [mapEntries, findEntry, image, unchanged, same]

@[simp] theorem find?_filterMap (table : Table α) (change : String → α → Option β) (key : String) :
    (table.filterMap change).find? key = (table.find? key).bind (change key) :=
  findEntry_mapEntries change key table.ordered

@[simp] theorem find?_map (table : Table α) (change : α → β) (key : String) :
    (table.map change).find? key = (table.find? key).map change := by
  rw [map, find?_filterMap, Option.map_eq_bind]
  rfl

/-- What the changed entries hold, one after the other, if each holds what `list'` takes from the
entry it comes from and the dropped ones have nothing there. -/
theorem flatMap_filterMap {γ : Type*} {change : String → α → Option β} {list : β → List γ}
    {list' : α → List γ} (table : Table α)
    (same : ∀ key value, ((change key value).map list).getD [] = list' value) :
    (table.filterMap change).values.flatMap list = table.values.flatMap list' := by
  simp only [values, filterMap, List.flatMap_map]
  induction table.entries with
  | nil => rfl
  | cons first rest ih =>
    rw [List.flatMap_cons, ← ih, ← same first.1 first.2, mapEntries, List.filterMap_cons]
    cases change first.1 first.2 <;> rfl

theorem entries_map (table : Table α) (change : α → β) :
    (table.map change).entries = table.entries.map fun entry => (entry.1, change entry.2) := by
  simp [map, filterMap, mapEntries]

/-! ### Making a table from entries -/

theorem find?_foldl_insert {entries : List (String × α)}
    (ordered : entries.Pairwise fun earlier later => earlier.1 < later.1) (table : Table α)
    (key : String) :
    (entries.foldl (fun table entry => table.insert entry.1 entry.2) table).find? key =
      (findEntry key entries).or (table.find? key) := by
  induction entries generalizing table with
  | nil => rfl
  | cons first rest ih =>
    obtain ⟨above, later⟩ := List.pairwise_cons.mp ordered
    rw [List.foldl_cons, ih later, find?_insert, findEntry]
    split
    next same =>
      have absent : findEntry key rest = none := findEntry_eq_none fun entry member =>
        same ▸ (String.ne_of_lt (above entry member)).symm
      simp [absent]
    · rfl

/-- Entries that are in order already are all kept. -/
theorem ofList_entries (table : Table α) : ofList table.entries = table := by
  apply eq_of_find?
  intro key
  rw [ofList, find?_foldl_insert table.ordered, find?_empty, Option.or_none]
  rfl

private theorem mem_of_find?_foldl_insert {entries : List (String × α)} {table : Table α}
    {key : String} {value : α}
    (found : (entries.foldl (fun table entry => table.insert entry.1 entry.2) table).find? key =
      some value) :
    (key, value) ∈ entries ∨ table.find? key = some value := by
  induction entries generalizing table with
  | nil => exact .inr found
  | cons first rest ih =>
    rcases ih found with later | before
    · exact .inl (List.mem_cons_of_mem _ later)
    · rw [find?_insert] at before
      split at before
      next same =>
        cases before
        exact .inl (same ▸ List.mem_cons_self)
      · exact .inr before

theorem mem_of_find?_ofList {entries : List (String × α)} {key : String} {value : α}
    (found : (ofList entries).find? key = some value) : (key, value) ∈ entries :=
  (mem_of_find?_foldl_insert found).resolve_right (by simp)

end Whereabouts.Table
