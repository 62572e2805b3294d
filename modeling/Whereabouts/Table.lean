/-!
# Tables keyed by text

A table lists its entries in increasing order of their keys, so each key occurs once and two
tables with the same entries are equal. Keys are ordered by code point, which is the order of
their UTF-8 bytes. Every change is an `alter`; `find?_alter` says all there is to know about it.
-/
universe u v

namespace Whereabouts

structure Table (α : Type u) where
  entries : List (String × α)
  ordered : entries.Pairwise fun earlier later => earlier.1 < later.1

namespace Table

variable {α : Type u} {β : Type v}

@[ext] theorem ext {one two : Table α} (same : one.entries = two.entries) : one = two := by
  cases one
  cases two
  cases same
  rfl

instance [DecidableEq α] : DecidableEq (Table α) := fun one two =>
  decidable_of_iff (one.entries = two.entries) ⟨ext, fun same => same ▸ rfl⟩

def empty : Table α := ⟨[], .nil⟩

instance : Inhabited (Table α) := ⟨empty⟩

def isEmpty (table : Table α) : Bool := table.entries.isEmpty

def size (table : Table α) : Nat := table.entries.length

def keys (table : Table α) : List String := table.entries.map (·.1)

def values (table : Table α) : List α := table.entries.map (·.2)

/-! ### Looking up -/

def findEntry (key : String) : List (String × α) → Option α
  | [] => none
  | (other, value) :: rest => if key = other then some value else findEntry key rest

def find? (table : Table α) (key : String) : Option α := findEntry key table.entries

/-! ### Changing one entry -/

/-- The entry a change leaves under its key, if it leaves one. -/
def entryOf (key : String) (value? : Option α) : List (String × α) :=
  match value? with
  | none => []
  | some value => [(key, value)]

def alterEntries (key : String) (change : Option α → Option α) :
    List (String × α) → List (String × α)
  | [] => entryOf key (change none)
  | (other, value) :: rest =>
    if key < other then entryOf key (change none) ++ (other, value) :: rest
    else if key = other then entryOf key (change (some value)) ++ rest
    else (other, value) :: alterEntries key change rest

theorem mem_entryOf {key : String} {value? : Option α} {entry : String × α}
    (member : entry ∈ entryOf key value?) : entry.1 = key := by
  cases value? <;> simp_all [entryOf]

theorem mem_alterEntries {key : String} {change : Option α → Option α}
    {entries : List (String × α)} {entry : String × α}
    (member : entry ∈ alterEntries key change entries) : entry.1 = key ∨ entry ∈ entries := by
  induction entries with
  | nil => exact .inl (mem_entryOf member)
  | cons first rest ih =>
    simp only [alterEntries] at member
    split at member
    · rcases List.mem_append.mp member with new | old
      · exact .inl (mem_entryOf new)
      · exact .inr old
    · split at member
      · rcases List.mem_append.mp member with new | old
        · exact .inl (mem_entryOf new)
        · exact .inr (List.mem_cons_of_mem _ old)
      · rcases List.mem_cons.mp member with same | later
        · exact .inr (same ▸ List.mem_cons_self)
        · rcases ih later with new | old
          · exact .inl new
          · exact .inr (List.mem_cons_of_mem _ old)

theorem pairwise_entryOf_append {key : String} {value? : Option α} {rest : List (String × α)}
    (above : ∀ entry ∈ rest, key < entry.1)
    (ordered : rest.Pairwise fun earlier later => earlier.1 < later.1) :
    (entryOf key value? ++ rest).Pairwise fun earlier later => earlier.1 < later.1 := by
  cases value? with
  | none => exact ordered
  | some value => exact List.pairwise_cons.mpr ⟨above, ordered⟩

theorem pairwise_alterEntries (key : String) (change : Option α → Option α)
    {entries : List (String × α)}
    (ordered : entries.Pairwise fun earlier later => earlier.1 < later.1) :
    (alterEntries key change entries).Pairwise fun earlier later => earlier.1 < later.1 := by
  induction entries with
  | nil =>
    rw [alterEntries, ← List.append_nil (entryOf key (change none))]
    exact pairwise_entryOf_append (fun _ member => nomatch member) .nil
  | cons first rest ih =>
    obtain ⟨above, later⟩ := List.pairwise_cons.mp ordered
    simp only [alterEntries]
    split
    next below =>
      refine pairwise_entryOf_append ?_ ordered
      intro entry member
      rcases List.mem_cons.mp member with same | old
      · exact same ▸ below
      · exact String.lt_trans below (above entry old)
    next notBelow =>
      split
      next same => exact pairwise_entryOf_append (same ▸ above) later
      next different =>
        refine List.pairwise_cons.mpr ⟨?_, ih later⟩
        intro entry member
        rcases mem_alterEntries member with new | old
        · rw [new]
          rcases String.le_total first.1 key with le | ge
          · exact (Classical.em (first.1 < key)).resolve_right fun notLess =>
              different (String.le_antisymm (String.not_lt.mp notLess) le)
          · exact (Classical.em (first.1 < key)).resolve_right fun _ =>
              different (String.le_antisymm ge (String.not_lt.mp notBelow))
        · exact above entry old

def alter (table : Table α) (key : String) (change : Option α → Option α) : Table α :=
  ⟨alterEntries key change table.entries, pairwise_alterEntries key change table.ordered⟩

def insert (table : Table α) (key : String) (value : α) : Table α :=
  table.alter key fun _ => some value

def erase (table : Table α) (key : String) : Table α :=
  table.alter key fun _ => none

/-- The entries are added in turn: of two with one key the later stays. -/
def ofList (entries : List (String × α)) : Table α :=
  entries.foldl (fun table entry => table.insert entry.1 entry.2) empty

/-! ### Changing every entry -/

def mapEntries (change : String → α → Option β) (entries : List (String × α)) :
    List (String × β) :=
  entries.filterMap fun entry => (change entry.1 entry.2).map (entry.1, ·)

theorem pairwise_mapEntries (change : String → α → Option β) {entries : List (String × α)}
    (ordered : entries.Pairwise fun earlier later => earlier.1 < later.1) :
    (mapEntries change entries).Pairwise fun earlier later => earlier.1 < later.1 := by
  refine List.Pairwise.filterMap _ ?_ ordered
  intro one two below image imageEq image' imageEq'
  simp only [Option.map_eq_some_iff] at imageEq imageEq'
  obtain ⟨_, _, rfl⟩ := imageEq
  obtain ⟨_, _, rfl⟩ := imageEq'
  exact below

/-- Each entry is changed or, where `change` gives nothing, dropped. -/
def filterMap (table : Table α) (change : String → α → Option β) : Table β :=
  ⟨mapEntries change table.entries, pairwise_mapEntries change table.ordered⟩

def map (table : Table α) (change : α → β) : Table β :=
  table.filterMap fun _ value => some (change value)

/-! ### What lookups see -/

@[simp] theorem find?_empty (key : String) : (empty : Table α).find? key = none := rfl

theorem findEntry_eq_none {key : String} {entries : List (String × α)}
    (absent : ∀ entry ∈ entries, entry.1 ≠ key) : findEntry key entries = none := by
  induction entries with
  | nil => rfl
  | cons first rest ih =>
    have different : key ≠ first.1 := fun same => absent first List.mem_cons_self same.symm
    simp [findEntry, different, ih fun entry member => absent entry (List.mem_cons_of_mem _ member)]

theorem findEntry_entryOf_append (key wanted : String) (value? : Option α)
    (rest : List (String × α)) (absent : findEntry key rest = none) :
    findEntry wanted (entryOf key value? ++ rest) =
      if wanted = key then value? else findEntry wanted rest := by
  cases value? with
  | none =>
    by_cases same : wanted = key
    · subst same
      simp [entryOf, absent]
    · simp [entryOf, same]
  | some value => simp [entryOf, findEntry]

theorem findEntry_alterEntries (key wanted : String) (change : Option α → Option α)
    {entries : List (String × α)}
    (ordered : entries.Pairwise fun earlier later => earlier.1 < later.1) :
    findEntry wanted (alterEntries key change entries) =
      if wanted = key then change (findEntry key entries) else findEntry wanted entries := by
  induction entries with
  | nil =>
    simpa [alterEntries, findEntry] using
      findEntry_entryOf_append key wanted (change none) [] rfl
  | cons first rest ih =>
    obtain ⟨above, later⟩ := List.pairwise_cons.mp ordered
    have aboveAbsent {least : String} (least_le : ¬ first.1 < least) :
        findEntry least rest = none := findEntry_eq_none fun entry member same =>
      least_le (same ▸ above entry member)
    simp only [alterEntries]
    split
    next below =>
      have absent : findEntry key (first :: rest) = none :=
        findEntry_eq_none fun entry member same => by
          rcases List.mem_cons.mp member with here | old
          · rw [← same, here] at below
            exact String.lt_irrefl _ below
          · rw [← same] at below
            exact String.lt_irrefl _ (String.lt_trans below (above entry old))
      rw [findEntry_entryOf_append _ _ _ _ absent, absent]
    next notBelow =>
      split
      next same =>
        subst same
        rw [findEntry_entryOf_append _ _ _ _ (aboveAbsent (String.lt_irrefl _))]
        by_cases here : wanted = first.1 <;> simp [findEntry, here]
      next different =>
        simp only [findEntry, ih later]
        by_cases here : wanted = first.1
        · simp [here, Ne.symm different]
        · simp [here, different]

theorem find?_alter (table : Table α) (key wanted : String) (change : Option α → Option α) :
    (table.alter key change).find? wanted =
      if wanted = key then change (table.find? key) else table.find? wanted :=
  findEntry_alterEntries key wanted change table.ordered

@[simp] theorem find?_insert (table : Table α) (key wanted : String) (value : α) :
    (table.insert key value).find? wanted =
      if wanted = key then some value else table.find? wanted :=
  find?_alter table key wanted _

@[simp] theorem find?_erase (table : Table α) (key wanted : String) :
    (table.erase key).find? wanted = if wanted = key then none else table.find? wanted :=
  find?_alter table key wanted _

end Table

end Whereabouts
