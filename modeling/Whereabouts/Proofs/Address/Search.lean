import Mathlib.Data.List.Basic
import Mathlib.Order.WellFounded
import Whereabouts.Proofs.Address
import Whereabouts.Proofs.Text.Pattern
/-!
# The first address of a text

## Main result

`finds_first_address`: the address that is found in a text is the leftmost greedy match of
`addressPattern`, and it is what stands around the first `@` that joins two address characters: the
longest run of address characters on each side, in lower case. Nothing is found if no `@` joins two
of them, and a found address is found again as it is.

## Strategy

1. The search over one run after another takes what the pattern takes. A run that no `@` joins to
   another is passed over whole, since none of its ends matches either (`search?_past`).
2. The address that begins first has the first `@` that joins, because two addresses of a text do
   not begin in one order and reach their `@` in the other (`Stands.begins_le_iff`).
3. An address that is found is a text of its own with one `@`, so it is found in itself.
-/
namespace Whereabouts.Address

open Whereabouts.Text

/-! ### The pattern -/

/-- A run of address characters, an `@` and another run. -/
def addressPattern : Pattern :=
  .seq (.run isAddressChar) (.seq (.one (· == '@')) (.run isAddressChar))

section Pattern

variable {run text : List Char} {c : Char}

/-- After its first run the pattern goes on only at an `@`. -/
private theorem ways_of_isAddressChar (c : Char) (left : List Char)
    (belongs : isAddressChar c = true) :
    (Pattern.seq (.one (· == '@')) (.run isAddressChar)).ways (c :: left) = [] := by
  rw [Pattern.ways_seq_one, if_neg]
  intro joins
  obtain rfl : c = '@' := eq_of_beq joins
  cases belongs

/-- A run and the character behind it match just if they begin an address. -/
private theorem match?_run (all : ∀ c ∈ run, isAddressChar c = true)
    (other : isAddressChar c = false) (text : List Char) :
    addressPattern.match? (run ++ c :: text) =
      if c = '@' ∧ run ≠ [] ∧ text.takeWhile isAddressChar ≠ [] then
        some (run ++ '@' :: text.takeWhile isAddressChar)
      else none := by
  have taken : (run ++ c :: text).takeWhile isAddressChar = run := takeWhile_run all (by simpa)
  have dropped : (run ++ c :: text).dropWhile isAddressChar = c :: text := by
    rw [List.dropWhile_append_of_pos all, List.dropWhile_cons_of_neg (by simp [other])]
  rw [Pattern.match?, addressPattern, Pattern.ways_seq_run ways_of_isAddressChar, taken, dropped,
    Pattern.ways_seq_one]
  by_cases empty : run = []
  · simp [empty]
  · by_cases joins : c = '@'
    · subst joins
      rw [if_neg empty, if_pos (beq_self_eq_true _), List.head?_map, List.head?_map,
        Pattern.head?_ways_run]
      by_cases nothing : text.takeWhile isAddressChar = []
      · simp [nothing]
      · simp [nothing, empty]
    · simp [joins]

private theorem match?_all (all : ∀ c ∈ run, isAddressChar c = true) :
    addressPattern.match? run = none := by
  have dropped : run.dropWhile isAddressChar = [] := List.dropWhile_eq_nil_iff.mpr all
  rw [Pattern.match?, addressPattern, Pattern.ways_seq_run ways_of_isAddressChar, dropped]
  simp [Pattern.ways]

private theorem search?_all (all : ∀ c ∈ run, isAddressChar c = true) :
    addressPattern.search? run = none := by
  induction run with
  | nil => exact match?_all all
  | cons c run ih =>
    rw [Pattern.search?, match?_all all, ih (List.forall_mem_cons.mp all).2]
    rfl

/-- Without an address at the end of the run, the match is behind it. -/
private theorem search?_past (all : ∀ c ∈ run, isAddressChar c = true)
    (other : isAddressChar c = false)
    (nothing : ¬ (c = '@' ∧ run ≠ [] ∧ text.takeWhile isAddressChar ≠ [])) :
    addressPattern.search? (run ++ c :: text) = addressPattern.search? text := by
  induction run with
  | nil =>
    have unmatched := match?_run all other text
    rw [if_neg nothing] at unmatched
    rw [List.nil_append, Pattern.search?, ← List.nil_append (c :: text), unmatched]
    rfl
  | cons first run ih =>
    have unmatched := match?_run all other text
    rw [if_neg nothing] at unmatched
    -- A shorter run would not be joined to another either.
    have shorter := ih (List.forall_mem_cons.mp all).2 fun here =>
      nothing ⟨here.1, List.cons_ne_nil _ _, here.2.2⟩
    rw [List.cons_append, Pattern.search?, ← List.cons_append, unmatched, shorter]
    rfl

private theorem scanFrom_eq_search? (all : ∀ c ∈ run, isAddressChar c = true) :
    scanFrom run text = addressPattern.search? (run.reverse ++ text) := by
  -- The run goes along, since the match may have begun before the text that is left.
  induction text generalizing run with
  | nil =>
    rw [List.append_nil, search?_all fun c member => all c (List.mem_reverse.mp member)]
    rfl
  | cons c text ih =>
    have allReversed : ∀ c ∈ run.reverse, isAddressChar c = true :=
      fun c member => all c (List.mem_reverse.mp member)
    rw [scanFrom]
    split
    next belongs =>
      rw [ih (List.forall_mem_cons.mpr ⟨belongs, all⟩), List.reverse_cons, List.append_assoc]
      rfl
    next other =>
      rw [Bool.not_eq_true] at other
      have matched := match?_run allReversed other text
      simp only [ne_eq, List.reverse_eq_nil_iff] at matched
      split
      next here =>
        rw [if_pos here] at matched
        exact (Pattern.search?_of_match? matched).symm
      next nothing =>
        rw [search?_past allReversed other (by simpa using nothing), ih (List.forall_mem_nil _)]
        rfl

end Pattern

/-! ### The rule -/

/-- An `@` with an address character directly before it and directly after it. -/
structure Joint (text before after : List Char) : Prop where
  shape : text = before ++ '@' :: after
  left : ∃ c ∈ before.getLast?, isAddressChar c = true
  right : ∃ c ∈ after.head?, isAddressChar c = true

/-- No `@` before this one is between two address characters. -/
def FirstJoint (text before after : List Char) : Prop :=
  Joint text before after ∧
    ∀ before' after', Joint text before' after' → before.length ≤ before'.length

/-- Of the texts in this place, the longest that is made of address characters. -/
structure Longest (place : List Char → Prop) (run : List Char) : Prop where
  here : place run
  chars : ∀ c ∈ run, isAddressChar c = true
  longest : ∀ other, place other → (∀ c ∈ other, isAddressChar c = true) →
    other.length ≤ run.length

/-- What is written around the first `@` that joins, as far as address characters go. -/
def FirstAddress (text written : List Char) : Prop :=
  ∃ before name domain after, FirstJoint text before after ∧ Longest (· <:+ before) name ∧
    Longest (· <+: after) domain ∧ written = name ++ '@' :: domain

/-! ### Runs on either side -/

section Sides

variable {text before name domain after : List Char}

/-- A run is the longest one if the text does not go on with one more of its characters. -/
private theorem longest_prefix :
    Longest (· <+: domain ++ after) domain ↔
      (∀ c ∈ domain, isAddressChar c = true) ∧ ∀ c ∈ after.head?, isAddressChar c = false := by
  constructor
  · intro longest
    refine ⟨longest.chars, fun c first => ?_⟩
    by_contra belongs
    rw [Bool.not_eq_false] at belongs
    obtain ⟨outside, rfl⟩ := List.head?_eq_some_iff.mp first
    have longer := longest.longest (domain ++ [c]) ⟨outside, by simp⟩
      (List.forall_mem_append.mpr ⟨longest.chars, by simpa using belongs⟩)
    rw [List.length_append, List.length_singleton] at longer
    omega
  · rintro ⟨chars, ends⟩
    refine ⟨List.prefix_append _ _, chars, fun other place all => ?_⟩
    by_contra longer
    rw [Nat.not_le] at longer
    -- The other run goes on where this one ends.
    obtain ⟨more, rfl⟩ :=
      List.prefix_of_prefix_length_le (List.prefix_append domain after) place (Nat.le_of_lt longer)
    obtain ⟨outside, rfl⟩ := (List.prefix_append_right_inj domain).mp place
    cases more with
    | nil => simp at longer
    | cons c more =>
      have belongs := all c (by simp)
      rw [ends c rfl] at belongs
      cases belongs

/-- Read backwards, a run at the end is a run at the start. -/
private theorem longest_reverse :
    Longest (· <:+ text) name ↔ Longest (· <+: text.reverse) name.reverse := by
  constructor
  · intro longest
    refine ⟨List.reverse_prefix.mpr longest.here, by simpa using longest.chars, ?_⟩
    intro other place all
    have shorter := longest.longest other.reverse
      (List.reverse_prefix.mp (by rwa [List.reverse_reverse])) (by simpa using all)
    simpa using shorter
  · intro longest
    refine ⟨List.reverse_prefix.mp longest.here, by simpa using longest.chars, ?_⟩
    intro other place all
    have shorter := longest.longest other.reverse (List.reverse_prefix.mpr place) (by simpa using all)
    simpa using shorter

private theorem longest_suffix :
    Longest (· <:+ before ++ name) name ↔
      (∀ c ∈ name, isAddressChar c = true) ∧ ∀ c ∈ before.getLast?, isAddressChar c = false := by
  rw [longest_reverse, List.reverse_append, longest_prefix]
  simp

private theorem exists_longest_prefix (text : List Char) :
    ∃ domain, Longest (· <+: text) domain := by
  have chars : ∀ c ∈ text.takeWhile isAddressChar, isAddressChar c = true :=
    fun c => List.mem_takeWhile_imp
  have longest := longest_prefix.mpr ⟨chars, ends_takeWhile text⟩
  rw [List.takeWhile_append_dropWhile] at longest
  exact ⟨_, longest⟩

private theorem exists_longest_suffix (text : List Char) : ∃ name, Longest (· <:+ text) name := by
  obtain ⟨name, longest⟩ := exists_longest_prefix text.reverse
  exact ⟨name.reverse, longest_reverse.mpr (by rwa [List.reverse_reverse])⟩

/-- Addresses stand where an `@` joins, and reach as far as they can. -/
private theorem stands_iff :
    Stands text before name domain after ↔
      Joint text (before ++ name) (domain ++ after) ∧
        Longest (· <:+ before ++ name) name ∧ Longest (· <+: domain ++ after) domain := by
  rw [longest_suffix, longest_prefix]
  constructor
  · intro stands
    refine ⟨⟨?_, ?_, ?_⟩, ⟨stands.nameChars, stands.begins⟩, stands.domainChars, stands.ends⟩
    · rw [stands.shape, List.append_assoc]
    · refine ⟨name.getLast stands.named, ?_, stands.nameChars _ (List.getLast_mem _)⟩
      rw [List.getLast?_append_of_ne_nil _ stands.named]
      exact List.getLast?_eq_some_getLast _
    · refine ⟨domain.head stands.inDomain, ?_, stands.domainChars _ (List.head_mem _)⟩
      rw [List.head?_append_of_ne_nil _ stands.inDomain]
      exact List.head?_eq_some_head _
  · rintro ⟨⟨shape, left, right⟩, ⟨nameChars, begins⟩, domainChars, ends⟩
    refine { nameChars, begins, domainChars, ends, shape := ?_, named := ?_, inDomain := ?_ }
    · rw [shape, List.append_assoc]
    -- If a side were empty, its longest run would not reach the character next to the `@`.
    · rintro rfl
      obtain ⟨c, last, belongs⟩ := left
      rw [List.append_nil] at last
      rw [begins c last] at belongs
      cases belongs
    · rintro rfl
      obtain ⟨c, first, belongs⟩ := right
      rw [ends c first] at belongs
      cases belongs

end Sides

/-! ### The first of them -/

section Order

variable {text before name domain after before' name' domain' after' : List Char}

/-- An address that reaches its `@` earlier does so before the other begins. -/
private theorem Stands.length_lt (stands : Stands text before name domain after)
    (stands' : Stands text before' name' domain' after')
    (earlier : (before ++ name).length < (before' ++ name').length) :
    (before ++ name).length < before'.length := by
  by_contra late
  rw [Nat.not_lt] at late
  have joined : before ++ name ++ ['@'] <+: text := ⟨domain ++ after, by simp [stands.shape]⟩
  have named : before' ++ name' <+: text := ⟨'@' :: (domain' ++ after'), by simp [stands'.shape]⟩
  obtain ⟨more, shape⟩ :=
    List.prefix_of_prefix_length_le joined named (by rw [List.length_append]; exact earlier)
  -- Then this one's `@` would belong to the other's name.
  have inName : '@' ∈ name' := by
    have dropped := congrArg (List.drop before'.length) shape
    rw [List.drop_left, List.append_assoc, List.drop_append_of_le_length late] at dropped
    rw [← dropped]
    simp
  have belongs := stands'.nameChars '@' inName
  rw [not_isAddressChar_at] at belongs
  cases belongs

/-- Addresses begin in the order of their `@`. -/
private theorem Stands.begins_le_iff (stands : Stands text before name domain after)
    (stands' : Stands text before' name' domain' after') :
    before.length ≤ before'.length ↔ (before ++ name).length ≤ (before' ++ name').length := by
  constructor
  · intro first
    by_contra later
    have less := stands'.length_lt stands (Nat.not_le.mp later)
    rw [List.length_append] at less
    omega
  · intro first
    rcases Nat.lt_or_eq_of_le first with earlier | same
    · have less := stands.length_lt stands' earlier
      rw [List.length_append] at less
      omega
    · -- The `@` is the same, and so is the run before it.
      have left : before' ++ name' = before ++ name := by
        rw [stands'.shape] at stands
        have shape := stands.shape
        rw [← List.append_assoc, ← List.append_assoc] at shape
        exact (List.append_inj shape same.symm).1
      have longest := (stands_iff.mp stands).2.1
      have shorter := longest.longest name' ⟨before', left⟩ stands'.nameChars
      rw [List.length_append, List.length_append] at same
      omega

/-- Where an `@` joins, an address stands around it. -/
private theorem Joint.exists_stands (joint : Joint text before after) :
    ∃ outside name domain outside', before = outside ++ name ∧
      Stands text outside name domain outside' := by
  obtain ⟨name, left⟩ := exists_longest_suffix before
  obtain ⟨domain, right⟩ := exists_longest_prefix after
  obtain ⟨outside, rfl⟩ := left.here
  obtain ⟨outside', rfl⟩ := right.here
  exact ⟨outside, name, domain, outside', rfl, stands_iff.mpr ⟨joint, left, right⟩⟩

private theorem exists_firstJoint (joint : Joint text before after) :
    ∃ before after, FirstJoint text before after := by
  obtain ⟨⟨before, after⟩, here, first⟩ := WellFounded.has_min
    (measure fun sides : List Char × List Char => sides.1.length).wf
    {sides | Joint text sides.1 sides.2} ⟨(before, after), joint⟩
  exact ⟨before, after, here, fun before' after' joint' =>
    Nat.not_lt.mp (first (before', after') joint')⟩

/-- The address that begins first is the one around the first `@` that joins. -/
private theorem exists_standsFirst_iff {written : List Char} :
    (∃ name domain, StandsFirst text name domain ∧ written = name ++ '@' :: domain) ↔
      FirstAddress text written := by
  constructor
  · rintro ⟨name, domain, ⟨before, after, stands, first⟩, rfl⟩
    obtain ⟨joint, left, right⟩ := stands_iff.mp stands
    refine ⟨_, name, domain, _, ⟨joint, fun before' after' joint' => ?_⟩, left, right, rfl⟩
    obtain ⟨outside, name', domain', outside', rfl, stands'⟩ := joint'.exists_stands
    exact (stands.begins_le_iff stands').mp (first _ _ _ _ stands')
  · rintro ⟨before, name, domain, after, ⟨joint, first⟩, left, right, rfl⟩
    -- What is left outside the two runs is what stands around the address.
    obtain ⟨outside, rfl⟩ := left.here
    obtain ⟨outside', rfl⟩ := right.here
    have stands := stands_iff.mpr ⟨joint, left, right⟩
    refine ⟨name, domain, ⟨outside, outside', stands, ?_⟩, rfl⟩
    intro before' name' domain' after' stands'
    exact (stands.begins_le_iff stands').mpr (first _ _ (stands_iff.mp stands').1)

end Order

/-! ### Found again -/

private theorem map_toLower_map_toLower {run : List Char}
    (all : ∀ c ∈ run, isAddressChar c = true) :
    (run.map Char.toLower).map Char.toLower = run.map Char.toLower := by
  rw [List.map_map]
  refine List.map_congr_left fun c member => ?_
  exact ascii_forall (motive := fun c => c.toLower.toLower = c.toLower) (by decide)
    (lt_of_isAddressChar (all c member))

/-- A found address stands in itself, with nothing around it. -/
private theorem Stands.alone {text before name domain after : List Char}
    (stands : Stands text before name domain after) :
    Stands (lower (name ++ '@' :: domain)) [] (name.map Char.toLower) (domain.map Char.toLower)
      [] := {
  shape := by rw [stands.lower_eq, List.nil_append, List.append_nil]
  named := mt List.map_eq_nil_iff.mp stands.named
  inDomain := mt List.map_eq_nil_iff.mp stands.inDomain
  nameChars := isAddressChar_of_mem_map stands.nameChars
  domainChars := isAddressChar_of_mem_map stands.domainChars
  begins := nofun
  ends := nofun }

private theorem Shows.again {text address : String} (shown : Shows text address) :
    Shows address address := by
  obtain ⟨name, domain, ⟨before, after, stands, _⟩, rfl⟩ := shown
  have alone := stands.alone
  have same := alone.lower_eq
  rw [map_toLower_map_toLower stands.nameChars, map_toLower_map_toLower stands.domainChars] at same
  refine ⟨name.map Char.toLower, domain.map Char.toLower,
    ⟨[], [], ?_, fun _ _ _ _ _ => Nat.zero_le _⟩, ?_⟩
  · rw [String.toList_ofList]
    exact alone
  · rw [same, stands.lower_eq]

/-! ### The address that is found -/

private theorem exists_firstAddress {text : List Char} :
    (∃ written, FirstAddress text written) ↔ ∃ before after, Joint text before after := by
  constructor
  · rintro ⟨_, before, _, _, after, ⟨joint, _⟩, _⟩
    exact ⟨before, after, joint⟩
  · rintro ⟨_, _, joint⟩
    obtain ⟨before, after, first⟩ := exists_firstJoint joint
    obtain ⟨name, left⟩ := exists_longest_suffix before
    obtain ⟨domain, right⟩ := exists_longest_prefix after
    exact ⟨_, before, name, domain, after, first, left, right, rfl⟩

/-- All characters of an address are ASCII, so its lower case is theirs. -/
private theorem shows_iff {text address : String} :
    Shows text address ↔ ∃ written, FirstAddress text.toList written ∧
      address = String.ofList (written.map Char.toLower) := by
  have small {name domain : List Char} (first : StandsFirst text.toList name domain) :
      lower (name ++ '@' :: domain) = (name ++ '@' :: domain).map Char.toLower := by
    obtain ⟨before, after, stands, _⟩ := first
    rw [stands.lower_eq, List.map_append, List.map_cons]
    rfl
  simp only [← exists_standsFirst_iff]
  constructor
  · rintro ⟨name, domain, first, rfl⟩
    exact ⟨_, ⟨name, domain, first, rfl⟩, by rw [small first]⟩
  · rintro ⟨_, ⟨name, domain, first, rfl⟩, rfl⟩
    exact ⟨name, domain, first, by rw [small first]⟩

/-- The search takes what the pattern takes at the first place where it matches. This is what stands
around the first `@` that joins, in lower case; without one nothing is found. What is found is found
again. -/
theorem finds_first_address (text : String) :
    find? text =
      (addressPattern.search? text.toList).map (fun found => String.ofList (lower found)) ∧
    (find? text = none ↔ ¬ ∃ before after, Joint text.toList before after) ∧
    (∀ address, find? text = some address ↔ ∃ written, FirstAddress text.toList written ∧
      address = String.ofList (written.map Char.toLower)) ∧
    ∀ address, find? text = some address → find? address = some address := by
  refine ⟨?_, ?_, fun address => find?_eq_some.trans shows_iff, fun address found => ?_⟩
  · rw [find?, scan?, scanFrom_eq_search? (List.forall_mem_nil _), Option.map_map]
    rfl
  · rw [← exists_firstAddress, Option.eq_none_iff_forall_ne_some]
    simp only [ne_eq, find?_eq_some, shows_iff]
    constructor
    · rintro nothing ⟨written, first⟩
      exact nothing _ ⟨written, first, rfl⟩
    · rintro nothing _ ⟨written, first, _⟩
      exact nothing ⟨written, first⟩
  · exact find?_eq_some.mpr (find?_eq_some.mp found).again

theorem finds_first_address_among_loose_ats :
    find? "a@ @b c@@d: Al.Ice@EXAMPLE.com@late.example" = some "al.ice@example.com" ∧
      find? "al.ice@example.com" = some "al.ice@example.com" := by
  have found : find? "a@ @b c@@d: Al.Ice@EXAMPLE.com@late.example" = some "al.ice@example.com" := by
    decide
  exact ⟨found, (finds_first_address _).2.2.2 _ found⟩

end Whereabouts.Address
