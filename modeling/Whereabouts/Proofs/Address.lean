import Mathlib.Data.List.TakeWhile
import Whereabouts.Address
import Whereabouts.Proofs.Text.Blank
/-!
# Where an address stands

## Main result

`find?_eq_some`: the address found in a text is the one that stands there first, in lower case.

## Strategy

1. `Stands` says where an address is, without a search: a name and a domain around an `@`, each as long
   as it can be.
2. A character that neither belongs to an address nor joins one is passed over, and no address that
   stands in the text begins before it (`stands_past`).
3. So the search stops at the first address. Blanks around the text do not matter to it.
-/
namespace Whereabouts.Address

open Whereabouts.Text

/-- An address stands in the text: a name and a domain of address characters around an `@`, and none
of these characters next to them. -/
structure Stands (text before name domain after : List Char) : Prop where
  shape : text = before ++ (name ++ '@' :: (domain ++ after))
  named : name ≠ []
  inDomain : domain ≠ []
  nameChars : ∀ c ∈ name, isAddressChar c = true
  domainChars : ∀ c ∈ domain, isAddressChar c = true
  begins : ∀ c ∈ before.getLast?, isAddressChar c = false
  ends : ∀ c ∈ after.head?, isAddressChar c = false

/-- No other address begins before this one. -/
def StandsFirst (text name domain : List Char) : Prop :=
  ∃ before after, Stands text before name domain after ∧
    ∀ before' name' domain' after', Stands text before' name' domain' after' →
      before.length ≤ before'.length

/-- The address that a text shows, in lower case. -/
def Shows (text address : String) : Prop :=
  ∃ name domain, StandsFirst text.toList name domain ∧
    address = String.ofList (lower (name ++ '@' :: domain))

/-! ### Runs of characters -/

section Runs

variable {belongs : Char → Bool}

theorem takeWhile_run {run rest : List Char} (all : ∀ c ∈ run, belongs c = true)
    (ends : ∀ c ∈ rest.head?, belongs c = false) : (run ++ rest).takeWhile belongs = run := by
  rw [List.takeWhile_append_of_pos all]
  cases rest with
  | nil => rw [List.takeWhile_nil, List.append_nil]
  | cons c rest => rw [List.takeWhile_cons_of_neg (by simp [ends c rfl]), List.append_nil]

theorem ends_takeWhile (text : List Char) : ∀ c ∈ (text.dropWhile belongs).head?, belongs c = false := by
  intro c first
  have dropped := List.head?_dropWhile_not belongs text
  rw [first] at dropped
  simpa using dropped

/-- Where a run ends is read off the text. -/
private theorem run_unique {one two rest rest' : List Char} {c c' : Char}
    (all : ∀ c ∈ one, belongs c = true) (all' : ∀ c ∈ two, belongs c = true)
    (stop : belongs c = false) (stop' : belongs c' = false)
    (same : one ++ c :: rest = two ++ c' :: rest') : one = two ∧ c = c' ∧ rest = rest' := by
  have runs : one = two := by
    have first : (one ++ c :: rest).takeWhile belongs = one := takeWhile_run all (by simpa)
    have second : (two ++ c' :: rest').takeWhile belongs = two := takeWhile_run all' (by simpa)
    rw [← first, same, second]
  subst runs
  exact ⟨rfl, List.cons.inj (List.append_cancel_left same)⟩

end Runs

/-! ### The search -/

theorem not_isAddressChar_at : isAddressChar '@' = false := rfl

section Search

variable {run text before name domain after : List Char}

private theorem Stands.not_all (stands : Stands text before name domain after) :
    ¬ ∀ c ∈ text, isAddressChar c = true := by
  intro all
  have joined := all '@' (by simp [stands.shape])
  rw [not_isAddressChar_at] at joined
  cases joined

/-- At the end of a run there is an address only if an `@` joins it to another run. -/
private theorem stands_of_run (all : ∀ c ∈ run, isAddressChar c = true) {c : Char}
    (other : isAddressChar c = false) :
    Stands (run ++ c :: text) [] name domain after ↔
      (c = '@' ∧ run ≠ [] ∧ text.takeWhile isAddressChar ≠ []) ∧ name = run ∧
        domain = text.takeWhile isAddressChar ∧ after = text.dropWhile isAddressChar := by
  constructor
  · intro stands
    obtain ⟨rfl, rfl, rfl⟩ :=
      run_unique all stands.nameChars other not_isAddressChar_at stands.shape
    have taken := takeWhile_run stands.domainChars stands.ends
    have dropped : (domain ++ after).dropWhile isAddressChar = after := by
      have whole := List.takeWhile_append_dropWhile (p := isAddressChar) (l := domain ++ after)
      rw [taken] at whole
      exact List.append_cancel_left whole
    rw [taken, dropped]
    exact ⟨⟨rfl, stands.named, stands.inDomain⟩, rfl, rfl, rfl⟩
  · rintro ⟨⟨rfl, named, inDomain⟩, rfl, rfl, rfl⟩
    exact {
      shape := by rw [List.takeWhile_append_dropWhile, List.nil_append]
      named, inDomain
      nameChars := all
      domainChars := fun c => List.mem_takeWhile_imp
      begins := nofun
      ends := ends_takeWhile text }

/-- Without an address at the end of the run, all addresses stand behind it. -/
private theorem stands_past (all : ∀ c ∈ run, isAddressChar c = true) {c : Char}
    (other : isAddressChar c = false)
    (nothing : ¬ (c = '@' ∧ run ≠ [] ∧ text.takeWhile isAddressChar ≠ [])) :
    Stands (run ++ c :: text) before name domain after ↔
      ∃ later, before = run ++ c :: later ∧ Stands text later name domain after := by
  constructor
  · intro stands
    rcases List.append_eq_append_iff.mp stands.shape with ⟨past, rfl, shape⟩ | ⟨past, shape, _⟩
    · cases past with
      | nil =>
        -- A name does not begin with this character.
        obtain ⟨first, others, rfl⟩ := List.exists_cons_of_ne_nil stands.named
        cases shape
        have belongs := stands.nameChars c List.mem_cons_self
        rw [other] at belongs
        cases belongs
      | cons first later =>
        cases shape
        refine ⟨later, rfl, { stands with shape := rfl, begins := fun c' last => ?_ }⟩
        apply stands.begins
        rw [List.getLast?_append, List.getLast?_cons, Option.mem_def.mp last]
        rfl
    · -- What stands before an address does not end inside the run.
      have start : before = [] := by
        by_contra some
        have member : before.getLast some ∈ run := shape ▸ List.mem_append_left _ (List.getLast_mem _)
        have belongs := all _ member
        rw [stands.begins _ (List.getLast?_eq_some_getLast some)] at belongs
        cases belongs
      subst start
      exact absurd ((stands_of_run all other).mp stands).1 nothing
  · rintro ⟨later, rfl, stands⟩
    refine { stands with shape := ?_, begins := fun c' last => ?_ }
    · rw [stands.shape]
      simp
    · rw [List.getLast?_append, List.getLast?_cons, Option.some_or, Option.mem_def,
        Option.some.injEq] at last
      subst last
      cases final : later.getLast? with
      | none => exact other
      | some c' => exact stands.begins c' final

private theorem standsFirst_past (all : ∀ c ∈ run, isAddressChar c = true) {c : Char}
    (other : isAddressChar c = false)
    (nothing : ¬ (c = '@' ∧ run ≠ [] ∧ text.takeWhile isAddressChar ≠ [])) :
    StandsFirst (run ++ c :: text) name domain ↔ StandsFirst text name domain := by
  simp only [StandsFirst, stands_past all other nothing]
  constructor
  · rintro ⟨_, after, ⟨later, rfl, stands⟩, first⟩
    refine ⟨later, after, stands, fun later' name' domain' after' stands' => ?_⟩
    have least := first _ name' domain' after' ⟨later', rfl, stands'⟩
    simpa using least
  · rintro ⟨later, after, stands, first⟩
    refine ⟨_, after, ⟨later, rfl, stands⟩, ?_⟩
    rintro _ name' domain' after' ⟨later', rfl, stands'⟩
    have least := first later' name' domain' after' stands'
    simpa using least

private theorem scanFrom_eq_some (all : ∀ c ∈ run, isAddressChar c = true) {found : List Char} :
    scanFrom run text = some found ↔
      ∃ name domain, StandsFirst (run.reverse ++ text) name domain ∧ found = name ++ '@' :: domain := by
  have allReversed {run : List Char} (all : ∀ c ∈ run, isAddressChar c = true) :
      ∀ c ∈ run.reverse, isAddressChar c = true := fun c member => all c (List.mem_reverse.mp member)
  -- The run goes along, since the name may have begun before the text that is left.
  induction text generalizing run with
  | nil =>
    refine iff_of_false nofun ?_
    rintro ⟨_, _, ⟨_, _, stands, _⟩, _⟩
    exact stands.not_all (by simpa using all)
  | cons c text ih =>
    rw [scanFrom]
    split
    next belongs =>
      refine (ih (List.forall_mem_cons.mpr ⟨belongs, all⟩)).trans ?_
      rw [List.reverse_cons, List.append_assoc]
      rfl
    next other =>
      rw [Bool.not_eq_true] at other
      split
      next here =>
        have here' : c = '@' ∧ run.reverse ≠ [] ∧ text.takeWhile isAddressChar ≠ [] := by
          simpa using here
        have stands := (stands_of_run (allReversed all) other).mpr ⟨here', rfl, rfl, rfl⟩
        constructor
        · intro same
          exact ⟨_, _, ⟨[], _, stands, fun _ _ _ _ _ => Nat.zero_le _⟩,
            (Option.some.inj same).symm⟩
        · rintro ⟨name, domain, ⟨before, after, stands', first⟩, rfl⟩
          have start : before = [] :=
            List.eq_nil_of_length_eq_zero (Nat.le_zero.mp (first [] _ _ _ stands))
          subst start
          obtain ⟨_, rfl, rfl, _⟩ := (stands_of_run (allReversed all) other).mp stands'
          rfl
      next nothing =>
        refine (ih (List.forall_mem_nil _)).trans ?_
        have nothing' : ¬ (c = '@' ∧ run.reverse ≠ [] ∧ text.takeWhile isAddressChar ≠ []) := by
          simpa using nothing
        simp only [standsFirst_past (allReversed all) other nothing']
        rfl

end Search

theorem find?_eq_some {text address : String} : find? text = some address ↔ Shows text address := by
  rw [find?, scan?, Option.map_map, Option.map_eq_some_iff, Shows]
  constructor
  · rintro ⟨found, search, rfl⟩
    obtain ⟨name, domain, first, rfl⟩ := (scanFrom_eq_some (List.forall_mem_nil _)).mp search
    exact ⟨name, domain, first, rfl⟩
  · rintro ⟨name, domain, first, rfl⟩
    exact ⟨_, (scanFrom_eq_some (List.forall_mem_nil _)).mpr ⟨name, domain, first, rfl⟩, rfl⟩

/-! ### Blanks around a text -/

private theorem ascii_of_isAddressChar {c : Char} (belongs : isAddressChar c = true) :
    '-'.toNat ≤ c.toNat ∧ c.toNat ≤ 'z'.toNat := by
  simp only [isAddressChar, isAccountChar, Bool.or_eq_true, Bool.and_eq_true, decide_eq_true_eq,
    beq_iff_eq, Char.le_def, UInt32.le_iff_toNat_le] at belongs
  rcases belongs with ((((small | large) | digit) | rfl) | rfl) | rfl
  · exact ⟨Nat.le_trans (by decide) small.1, small.2⟩
  · exact ⟨Nat.le_trans (by decide) large.1, Nat.le_trans large.2 (by decide)⟩
  · exact ⟨Nat.le_trans (by decide) digit.1, Nat.le_trans digit.2 (by decide)⟩
  · decide
  · decide
  · decide

theorem not_isAddressChar_of_isBlank {c : Char} (blank : isBlank c = true) :
    isAddressChar c = false := by
  by_contra belongs
  obtain ⟨least, most⟩ := ascii_of_isAddressChar (Bool.not_eq_false _ ▸ belongs)
  have least : 45 ≤ c.toNat := least
  have most : c.toNat ≤ 122 := most
  simp only [isBlank, Bool.or_eq_true, Bool.and_eq_true, decide_eq_true_eq, beq_iff_eq] at blank
  omega

section Blanks

variable {blanks : List Char}

private theorem scanFrom_blanks_append (blank : ∀ c ∈ blanks, isBlank c = true) (text : List Char) :
    scanFrom [] (blanks ++ text) = scanFrom [] text := by
  induction blanks with
  | nil => rfl
  | cons c blanks ih =>
    obtain ⟨first, blank⟩ := List.forall_mem_cons.mp blank
    rw [List.cons_append, scanFrom, if_neg (by simp [not_isAddressChar_of_isBlank first]), if_neg]
    · exact ih blank
    · exact fun joins => joins.2.1 rfl

private theorem takeWhile_append_blanks (blank : ∀ c ∈ blanks, isBlank c = true)
    (text : List Char) :
    (text ++ blanks).takeWhile isAddressChar = text.takeWhile isAddressChar := by
  induction text with
  | nil =>
    cases blanks with
    | nil => rfl
    | cons c blanks =>
      have other := not_isAddressChar_of_isBlank (blank c List.mem_cons_self)
      simp [other]
  | cons c text ih => rw [List.cons_append, List.takeWhile_cons, List.takeWhile_cons, ih]

private theorem scanFrom_append_blanks (blank : ∀ c ∈ blanks, isBlank c = true)
    (run text : List Char) :
    scanFrom run (text ++ blanks) = scanFrom run text := by
  induction text generalizing run with
  | nil =>
    cases blanks with
    | nil => rfl
    | cons c blanks =>
      obtain ⟨first, blank⟩ := List.forall_mem_cons.mp blank
      have other := not_isAddressChar_of_isBlank first
      have nothing := takeWhile_append_blanks blank []
      have passed := scanFrom_blanks_append blank []
      rw [List.nil_append] at nothing
      rw [List.append_nil] at passed
      simp [scanFrom, other, nothing, passed]
  | cons c text ih => simp only [List.cons_append, scanFrom, ih, takeWhile_append_blanks blank]

end Blanks

/-- A text that is trimmed shows what it showed before. -/
theorem find?_trim (text : String) : find? (String.ofList (trim text.toList)) = find? text := by
  obtain ⟨before, after, shape, blank, blank'⟩ := exists_trim text.toList
  rw [find?, find?, scan?, scan?, String.toList_ofList]
  conv => rhs; rw [shape, scanFrom_blanks_append blank, scanFrom_append_blanks blank']

/-! ### Lower case -/

private theorem lowerFrom_ascii {text : List Char} (ascii : ∀ c ∈ text, c.toNat < 128)
    (before : List Char) :
    lowerFrom before text = text.map Char.toLower := by
  induction text generalizing before with
  | nil => rfl
  | cons c text ih =>
    obtain ⟨first, later⟩ := List.forall_mem_cons.mp ascii
    have plain : c ≠ 'Σ' := by
      rintro rfl
      exact absurd first (by decide)
    rw [lowerFrom, if_neg plain, lowerOf_ascii first, ih later]
    rfl

theorem lower_ascii {text : List Char} (ascii : ∀ c ∈ text, c.toNat < 128) :
    lower text = text.map Char.toLower := lowerFrom_ascii ascii []

theorem lt_of_isAddressChar {c : Char} (belongs : isAddressChar c = true) : c.toNat < 128 :=
  Nat.lt_of_le_of_lt (ascii_of_isAddressChar belongs).2 (by decide)

/-- What holds of the 128 codes holds of each of these characters. -/
theorem ascii_forall {motive : Char → Prop} (all : ∀ code < 128, motive (Char.ofNat code)) {c : Char}
    (ascii : c.toNat < 128) : motive c := by
  have here := all c.toNat ascii
  rwa [Char.ofNat_toNat] at here

private theorem isAddressChar_toLower {c : Char} (belongs : isAddressChar c = true) :
    isAddressChar c.toLower = true :=
  ascii_forall (motive := fun c => isAddressChar c = true → isAddressChar c.toLower = true)
    (by decide) (lt_of_isAddressChar belongs) belongs

theorem isAddressChar_of_mem_map {run : List Char} (all : ∀ c ∈ run, isAddressChar c = true) :
    ∀ c ∈ run.map Char.toLower, isAddressChar c = true := by
  intro _ member
  obtain ⟨c, written, rfl⟩ := List.mem_map.mp member
  exact isAddressChar_toLower (all c written)

/-- An address is in lower case letter by letter. -/
theorem Stands.lower_eq {text before name domain after : List Char}
    (stands : Stands text before name domain after) :
    lower (name ++ '@' :: domain) = name.map Char.toLower ++ '@' :: domain.map Char.toLower := by
  have nameAscii : ∀ c ∈ name, c.toNat < 128 := fun c member =>
    lt_of_isAddressChar (stands.nameChars c member)
  have domainAscii : ∀ c ∈ domain, c.toNat < 128 := fun c member =>
    lt_of_isAddressChar (stands.domainChars c member)
  have ascii : ∀ c ∈ name ++ '@' :: domain, c.toNat < 128 :=
    List.forall_mem_append.mpr ⟨nameAscii, List.forall_mem_cons.mpr ⟨by decide, domainAscii⟩⟩
  rw [lower_ascii ascii, List.map_append, List.map_cons]
  rfl

/-- An address that is found has nothing but address characters around its `@`. -/
theorem Shows.chars {text address : String} (shown : Shows text address) :
    ∀ c ∈ address.toList, isAddressChar c = true ∨ c = '@' := by
  obtain ⟨name, domain, ⟨before, after, stands, _⟩, rfl⟩ := shown
  intro c member
  rw [String.toList_ofList, stands.lower_eq] at member
  rcases List.mem_append.mp member with inName | inRest
  · exact .inl (isAddressChar_of_mem_map stands.nameChars c inName)
  · rcases List.mem_cons.mp inRest with rfl | inDomain
    · exact .inr rfl
    · exact .inl (isAddressChar_of_mem_map stands.domainChars c inDomain)

/-! ### Completed names -/

theorem complete?_eq_none {domain name : String} :
    complete? domain name = none ↔ ∀ c ∈ name.toList, isBlank c = true := by
  rw [complete?, ← trim_eq_nil]
  split
  next blank => exact iff_of_true rfl blank
  next named => exact iff_of_false nofun named

/-- What a name is completed to is an address, so it is not empty. -/
theorem ne_empty_of_complete? {domain name address : String}
    (completed : complete? domain name = some address) : address ≠ "" := by
  rw [complete?] at completed
  split at completed
  · cases completed
  · have joined : '@' ∈ address.toList := by
      rw [← Option.some.inj completed, String.toList_ofList]
      split
      next mailed => exact mailed
      · simp
    rintro rfl
    cases joined

end Whereabouts.Address
