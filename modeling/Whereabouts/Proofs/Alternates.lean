import Mathlib.Data.List.Induction
import Whereabouts.Alternates
import Whereabouts.Proofs.Table
/-!
# Whose address it is

## Main result

`last_registration_counts`: after any run of registrations an address belongs to the person who
listed it last, unless that person has registered other addresses since; and a person is listed with
what others have left of the latest list.

## Strategy

1. Two tables are kept, and they always tell the same: an address is owned by just those who list it.
2. Given that, a registration is described by two lookups, one in each table.
3. By these lookups a list is what is left of the latest registration after every further step.
-/
namespace Whereabouts.Alternates

/-! ### Both tables tell the same -/

def Lists (table : Alternates) (primary alternate : String) : Prop :=
  ∃ alternates, table.listed.find? primary = some alternates ∧ alternate ∈ alternates

structure Consistent (table : Alternates) : Prop where
  owned : ∀ alternate primary,
    table.owners.find? alternate = some primary ↔ table.Lists primary alternate
  nonempty : ∀ primary, table.listed.find? primary ≠ some []

theorem consistent_none : Consistent none where
  owned := by
    intro alternate primary
    constructor
    · intro owner
      cases owner
    · rintro ⟨alternates, listed, _⟩
      cases listed
  nonempty := nofun

/-- Nobody shares an address with anybody. -/
private theorem Consistent.unique {table : Alternates} (consistent : table.Consistent)
    {one two alternate : String} (lists : table.Lists one alternate)
    (lists' : table.Lists two alternate) : one = two := by
  have owner := (consistent.owned alternate one).mpr lists
  have owner' := (consistent.owned alternate two).mpr lists'
  exact Option.some.inj (owner.symm.trans owner')

/-! ### Many owners at once -/

/-- A change of one owner after another settles the owner of each of these addresses, and of no
other. -/
private theorem owner_foldl {State : Type} (owner : State → Option String)
    {step : State → String → State} {wanted : String} {settled : Option String}
    (one : ∀ state alternate,
      owner (step state alternate) = if wanted = alternate then settled else owner state)
    (alternates : List String) (state : State) :
    owner (alternates.foldl step state) =
      if wanted ∈ alternates then settled else owner state := by
  induction alternates generalizing state with
  | nil => simp
  | cons first rest ih =>
    rw [List.foldl_cons, ih, one]
    -- A later change settles the same as an earlier one.
    by_cases later : wanted ∈ rest
    · simp [later]
    · simp [later]

theorem find?_assign (primary : String) (owners : Table String) (alternates : List String)
    (wanted : String) :
    (assign primary owners alternates).find? wanted =
      if wanted ∈ alternates then some primary else owners.find? wanted := by
  apply owner_foldl (fun owners : Table String => owners.find? wanted)
  intro owners alternate
  exact Table.find?_insert ..

theorem find?_foldl_erase (owners : Table String) (alternates : List String) (wanted : String) :
    (alternates.foldl (fun owners alternate => owners.erase alternate) owners).find? wanted =
      if wanted ∈ alternates then Option.none else owners.find? wanted := by
  apply owner_foldl (fun owners : Table String => owners.find? wanted)
  intro owners alternate
  exact Table.find?_erase ..

/-! ### The steps of a registration -/

section Steps

variable {table : Alternates}

theorem find?_listed_forget (table : Alternates) (primary wanted : String) :
    (table.forget primary).listed.find? wanted =
      if wanted = primary then Option.none else table.listed.find? wanted := by
  rw [forget]
  split
  next unlisted =>
    split
    next same => rw [same, unlisted]
    · rfl
  · exact Table.find?_erase ..

/-- What a person listed before are just the addresses that the person owns. -/
private theorem find?_owners_forget (consistent : table.Consistent) (primary wanted : String) :
    (table.forget primary).owners.find? wanted =
      if table.owners.find? wanted = some primary then Option.none
      else table.owners.find? wanted := by
  rw [forget]
  split
  next unlisted =>
    -- Who lists nothing owns nothing.
    rw [if_neg]
    intro owner
    obtain ⟨alternates, listed, _⟩ := (consistent.owned wanted primary).mp owner
    rw [unlisted] at listed
    cases listed
  next previous listed =>
    have owns : table.owners.find? wanted = some primary ↔ wanted ∈ previous := by
      rw [consistent.owned, Lists, listed]
      simp
    rw [find?_foldl_erase]
    by_cases member : wanted ∈ previous
    · rw [if_pos member, if_pos (owns.mpr member)]
    · rw [if_neg member, if_neg (mt owns.mp member)]

theorem Consistent.forget (consistent : table.Consistent) (primary : String) :
    (table.forget primary).Consistent where
  owned := by
    intro alternate other
    rw [find?_owners_forget consistent, Lists, find?_listed_forget]
    by_cases same : other = primary
    · -- Who is forgotten owns nothing and lists nothing.
      subst same
      rw [if_pos rfl]
      by_cases owner : table.owners.find? alternate = some other
      · simp [owner]
      · simp [owner]
    · rw [if_neg same, ← Lists, ← consistent.owned]
      split
      next owner =>
        rw [owner]
        simp [Ne.symm same]
      · rfl
  nonempty := by
    intro other listed
    rw [find?_listed_forget] at listed
    split at listed
    · cases listed
    · exact consistent.nonempty other listed

theorem find?_owners_release (table : Alternates) (alternate wanted : String) :
    (table.release alternate).owners.find? wanted =
      if wanted = alternate then Option.none else table.owners.find? wanted := by
  rw [release]
  split
  next free =>
    split
    next same => rw [same, free]
    · rfl
  · exact Table.find?_erase ..

theorem nonempty_eq_some {left? : Option (List String)} {rest : List String} :
    (match left? with
      | some (first :: others) => some (first :: others)
      | _ => Option.none) = some rest ↔ rest ≠ [] ∧ left? = some rest := by
  split
  next first others =>
    rw [Option.some.injEq]
    constructor
    · rintro rfl
      exact ⟨List.cons_ne_nil first others, rfl⟩
    · exact And.right
  next nothing =>
    constructor
    · intro listed
      cases listed
    · rintro ⟨nonempty, rfl⟩
      obtain ⟨first, others, rfl⟩ := List.exists_cons_of_ne_nil nonempty
      exact absurd rfl (nothing first others)

/-- Everybody keeps the other addresses, and is not listed any more if there are none. -/
private theorem listed_release (consistent : table.Consistent) {alternate primary : String}
    {rest : List String} :
    (table.release alternate).listed.find? primary = some rest ↔
      rest ≠ [] ∧ ∃ before, table.listed.find? primary = some before ∧
        rest = before.filter (· ≠ alternate) := by
  -- A list without the address stays as it is.
  have untouched (free : ¬ table.Lists primary alternate) :
      table.listed.find? primary = some rest ↔
        rest ≠ [] ∧ ∃ before, table.listed.find? primary = some before ∧
          rest = before.filter (· ≠ alternate) := by
    have same {before : List String} (listed : table.listed.find? primary = some before) :
        before.filter (· ≠ alternate) = before := by
      rw [List.filter_eq_self]
      intro other member
      have different : other ≠ alternate := fun here => free ⟨before, listed, here ▸ member⟩
      exact decide_eq_true different
    constructor
    · intro listed
      exact ⟨fun empty => consistent.nonempty primary (empty ▸ listed), rest, listed,
        (same listed).symm⟩
    · rintro ⟨_, before, listed, rfl⟩
      rw [same listed]
      exact listed
  rw [release]
  split
  next noOwner =>
    apply untouched
    intro lists
    rw [(consistent.owned alternate primary).mpr lists] at noOwner
    cases noOwner
  next owner owns =>
    rw [Table.find?_alter]
    split
    next same =>
      subst same
      refine nonempty_eq_some.trans (and_congr_right fun _ => ?_)
      rw [Option.map_eq_some_iff]
      exact exists_congr fun before => and_congr_right fun _ => eq_comm
    next different =>
      -- Only the owner lists the address.
      apply untouched
      intro lists
      rw [(consistent.owned alternate primary).mpr lists] at owns
      exact different (Option.some.inj owns)

/-- Who is listed with what is kept of a list is listed with just the addresses that are kept. -/
theorem mem_kept {Before : List String → Prop} {kept : String → Prop} [DecidablePred kept]
    {alternate : String} :
    (∃ rest, (rest ≠ [] ∧ ∃ before, Before before ∧ rest = before.filter kept) ∧
      alternate ∈ rest) ↔ kept alternate ∧ ∃ before, Before before ∧ alternate ∈ before := by
  constructor
  · rintro ⟨_, ⟨_, before, listed, rfl⟩, member⟩
    obtain ⟨member, stays⟩ := List.mem_filter.mp member
    exact ⟨of_decide_eq_true stays, before, listed, member⟩
  · rintro ⟨stays, before, listed, member⟩
    have member : alternate ∈ before.filter kept :=
      List.mem_filter.mpr ⟨member, decide_eq_true stays⟩
    exact ⟨_, ⟨List.ne_nil_of_mem member, before, listed, rfl⟩, member⟩

theorem Consistent.release (consistent : table.Consistent) (alternate : String) :
    (table.release alternate).Consistent where
  owned := by
    intro wanted primary
    rw [find?_owners_release, Lists]
    simp only [listed_release consistent, mem_kept]
    rw [← Lists, ← consistent.owned]
    split
    next same => simp [same]
    next different => simp [different]
  nonempty := fun primary listed => ((listed_release consistent).mp listed).1 rfl

/-! ### Releasing a whole list -/

theorem find?_owners_foldl_release (table : Alternates) (alternates : List String)
    (wanted : String) :
    (alternates.foldl Alternates.release table).owners.find? wanted =
      if wanted ∈ alternates then Option.none else table.owners.find? wanted := by
  apply owner_foldl (fun table : Alternates => table.owners.find? wanted)
  intro table alternate
  apply find?_owners_release

private theorem listed_foldl_release (consistent : table.Consistent) (alternates : List String)
    {primary : String} {rest : List String} :
    (alternates.foldl Alternates.release table).listed.find? primary = some rest ↔
      rest ≠ [] ∧ ∃ before, table.listed.find? primary = some before ∧
        rest = before.filter (· ∉ alternates) := by
  induction alternates generalizing table with
  | nil =>
    constructor
    · intro listed
      exact ⟨fun empty => consistent.nonempty primary (empty ▸ listed), rest, listed, by simp⟩
    · rintro ⟨_, before, listed, rfl⟩
      simpa using listed
  | cons first others ih =>
    rw [List.foldl_cons, ih (consistent.release first)]
    apply and_congr_right
    intro nonempty
    simp only [listed_release consistent]
    -- What is left after the first and then after the others is what is left after all of them.
    have twice (before : List String) : (before.filter (· ≠ first)).filter (· ∉ others) =
        before.filter (· ∉ first :: others) := by
      rw [List.filter_filter]
      apply List.filter_congr
      intro alternate _
      simp [Bool.and_comm]
    constructor
    · rintro ⟨_, ⟨_, before, listed, rfl⟩, rfl⟩
      exact ⟨before, listed, twice before⟩
    · rintro ⟨before, listed, rfl⟩
      -- Something is left after all of them, so something is left after the first.
      have kept : before.filter (· ≠ first) ≠ [] := by
        intro empty
        rw [← twice, empty] at nonempty
        exact nonempty rfl
      exact ⟨_, ⟨kept, before, listed, rfl⟩, (twice before).symm⟩

end Steps

/-! ### A registration -/

section Replace

variable {table : Alternates} {primary : String} {alternates : List String}

private theorem listed_replace (consistent : table.Consistent) {other : String}
    {rest : List String} :
    (table.replace primary alternates).listed.find? other = some rest ↔
      if other = primary then rest = alternates
      else rest ≠ [] ∧ ∃ before, table.listed.find? other = some before ∧
        rest = before.filter (· ∉ alternates) := by
  simp only [replace, Table.find?_insert]
  split
  · rw [Option.some.injEq, eq_comm]
  next different =>
    rw [listed_foldl_release (consistent.forget primary), find?_listed_forget, if_neg different]

private theorem owners_replace (consistent : table.Consistent) {wanted other : String} :
    (table.replace primary alternates).owners.find? wanted = some other ↔
      if wanted ∈ alternates then other = primary
      else other ≠ primary ∧ table.owners.find? wanted = some other := by
  simp only [replace, find?_assign, find?_owners_foldl_release, find?_owners_forget consistent]
  split
  · rw [Option.some.injEq, eq_comm]
  · -- What the new list leaves out, its owner gives up.
    split
    next owner =>
      rw [owner]
      simp [eq_comm]
    next owner =>
      constructor
      · intro owner'
        exact ⟨fun same => owner (same ▸ owner'), owner'⟩
      · exact And.right

theorem Consistent.replace (consistent : table.Consistent) (nonempty : alternates ≠ []) :
    (table.replace primary alternates).Consistent where
  owned := by
    intro wanted other
    rw [owners_replace consistent, Lists]
    simp only [listed_replace consistent]
    by_cases same : other = primary
    · -- The new owner owns what the new list says.
      subst same
      by_cases member : wanted ∈ alternates
      · simp [member]
      · simp [member]
    · simp only [if_neg same, mem_kept]
      rw [← Lists, ← consistent.owned]
      by_cases member : wanted ∈ alternates
      · simp [member, same]
      · simp [member, same]
  nonempty := by
    intro other listed
    rw [listed_replace consistent] at listed
    split at listed
    · exact nonempty listed.symm
    · exact listed.1 rfl

end Replace

/-! ### Loading -/

theorem find?_owners_ofListed (listed : Table (List String)) (wanted : String) :
    (ofListed listed).owners.find? wanted =
      (listed.entries.reverse.find? fun entry => decide (wanted ∈ entry.2)).map (·.1) := by
  rw [ofListed]
  generalize listed.entries = entries
  induction entries using List.reverseRecOn with
  | nil => rfl
  | append_singleton entries entry ih =>
    rw [List.foldl_append, List.foldl_cons, List.foldl_nil, find?_assign, ih,
      List.reverse_append, List.reverse_singleton, List.singleton_append, List.find?_cons]
    by_cases member : wanted ∈ entry.2
    · simp [member]
    · simp [member]

/-- The owners are made anew from the lists, and no two lists compete for an address. -/
private theorem Consistent.ofListed_listed {table : Alternates} (consistent : table.Consistent) :
    ofListed table.listed = table := by
  have owners : (ofListed table.listed).owners = table.owners := by
    apply Table.eq_of_find?
    intro wanted
    rw [find?_owners_ofListed]
    cases found : table.listed.entries.reverse.find? fun entry => decide (wanted ∈ entry.2) with
    | none =>
      -- An owner would list the address, and that list would have been found.
      symm
      rw [Option.map_none, Option.eq_none_iff_forall_ne_some]
      intro primary owner
      obtain ⟨alternates, listed, member⟩ := (consistent.owned wanted primary).mp owner
      have entry : (primary, alternates) ∈ table.listed.entries.reverse :=
        List.mem_reverse.mpr (Table.find?_eq_some.mp listed)
      have passed := List.find?_eq_none.mp found _ entry
      exact passed (decide_eq_true member)
    | some entry =>
      symm
      rw [Option.map_some, consistent.owned]
      have listed := List.mem_reverse.mp (List.mem_of_find?_eq_some found)
      have member := List.find?_some found
      exact ⟨entry.2, Table.find?_eq_some.mpr listed, of_decide_eq_true member⟩
  exact congrArg (Alternates.mk table.listed) owners

/-! ### Runs of registrations -/

structure Registration where
  primary : String
  alternates : List String

def register (table : Alternates) (registration : Registration) : Alternates :=
  table.replace registration.primary registration.alternates

/-- The table after these registrations, from the first to the last. -/
def after (registrations : List Registration) : Alternates := registrations.foldl register none

/-- The person's latest registration, and those that came after it. -/
def Latest (registrations : List Registration) (primary : String) (alternates : List String)
    (later : List Registration) : Prop :=
  (∃ earlier, registrations = earlier ++ ⟨primary, alternates⟩ :: later) ∧
    ∀ registration ∈ later, registration.primary ≠ primary

/-- The addresses that none of the later registrations lists, in their order. -/
def unclaimed (later : List Registration) (alternates : List String) : List String :=
  alternates.filter fun alternate => ∀ registration ∈ later, alternate ∉ registration.alternates

/-- The person's latest registration lists the address, and no later one does. -/
def Holds (registrations : List Registration) (primary alternate : String) : Prop :=
  ∃ alternates later, Latest registrations primary alternates later ∧ alternate ∈ alternates ∧
    ∀ registration ∈ later, alternate ∉ registration.alternates

private theorem after_append (registrations : List Registration) (registration : Registration) :
    after (registrations ++ [registration]) = (after registrations).register registration := by
  rw [after, List.foldl_append]
  rfl

theorem consistent_after {registrations : List Registration}
    (proper : ∀ registration ∈ registrations, registration.alternates ≠ []) :
    (after registrations).Consistent := by
  induction registrations using List.reverseRecOn with
  | nil => exact consistent_none
  | append_singleton registrations registration ih =>
    rw [after_append]
    have before := ih fun earlier member => proper earlier (List.mem_append_left _ member)
    exact before.replace (proper registration (by simp))

/-- The last registration is the latest of the person who made it. Everybody else's latest one stays,
with one more after it. -/
private theorem latest_append {registrations later : List Registration} {last : Registration}
    {primary : String} {alternates : List String} :
    Latest (registrations ++ [last]) primary alternates later ↔
      if primary = last.primary then alternates = last.alternates ∧ later = []
      else ∃ later', later = later' ++ [last] ∧
        Latest registrations primary alternates later' := by
  -- A registration has nothing after it just if it is the last one.
  obtain rfl | ⟨later', final, rfl⟩ := later.eq_nil_or_concat
  · simp only [Latest, List.not_mem_nil]
    constructor
    · rintro ⟨⟨earlier, same⟩, _⟩
      obtain ⟨_, here⟩ := List.append_inj' same rfl
      cases here
      simp
    · intro latest
      split at latest
      next own =>
        obtain ⟨rfl, _⟩ := latest
        subst own
        exact ⟨⟨registrations, rfl⟩, nofun⟩
      · obtain ⟨later', nothing, _⟩ := latest
        simp at nothing
  · constructor
    · rintro ⟨⟨earlier, same⟩, others⟩
      rw [List.concat_eq_append, ← List.cons_append, ← List.append_assoc] at same
      obtain ⟨before, here⟩ := List.append_inj' same rfl
      cases here
      have other := others last (by simp)
      rw [if_neg (Ne.symm other)]
      exact ⟨later', List.concat_eq_append, ⟨earlier, before⟩,
        fun registration member => others registration (by simp [member])⟩
    · intro latest
      split at latest
      · simp at latest
      next other =>
        obtain ⟨_, same, ⟨earlier, rfl⟩, others⟩ := latest
        rw [same]
        constructor
        · exact ⟨earlier, by simp⟩
        intro registration member
        rcases List.mem_append.mp member with old | new
        · exact others registration old
        · rw [List.mem_singleton.mp new]
          exact Ne.symm other

private theorem unclaimed_append (later : List Registration) (last : Registration)
    (alternates : List String) :
    unclaimed (later ++ [last]) alternates =
      (unclaimed later alternates).filter (· ∉ last.alternates) := by
  rw [unclaimed, unclaimed, List.filter_filter]
  apply List.filter_congr
  intro alternate _
  simp [or_imp, forall_and, and_comm]

/-- A person is listed with what is left of the latest registration. -/
theorem listed_after {registrations : List Registration}
    (proper : ∀ registration ∈ registrations, registration.alternates ≠ []) {primary : String}
    {rest : List String} :
    (after registrations).listed.find? primary = some rest ↔
      rest ≠ [] ∧ ∃ alternates later, Latest registrations primary alternates later ∧
        rest = unclaimed later alternates := by
  induction registrations using List.reverseRecOn generalizing rest with
  | nil =>
    constructor
    · intro listed
      cases listed
    · rintro ⟨_, alternates, later, ⟨⟨earlier, nothing⟩, _⟩, _⟩
      simp at nothing
  | append_singleton registrations last ih =>
    have earlier : ∀ registration ∈ registrations, registration.alternates ≠ [] :=
      fun registration member => proper registration (List.mem_append_left _ member)
    rw [after_append, register, listed_replace (consistent_after earlier)]
    simp only [latest_append]
    split
    next own =>
      -- The last list stands whole.
      constructor
      · rintro rfl
        exact ⟨proper last (by simp), last.alternates, [], ⟨rfl, rfl⟩, by simp [unclaimed]⟩
      · rintro ⟨_, _, _, ⟨rfl, rfl⟩, rfl⟩
        simp [unclaimed]
    next other =>
      -- The last list is taken out of what was left before.
      apply and_congr_right
      intro nonempty
      simp only [ih earlier]
      constructor
      · rintro ⟨_, ⟨_, alternates, later, latest, rfl⟩, rfl⟩
        exact ⟨alternates, later ++ [last], ⟨later, rfl, latest⟩,
          (unclaimed_append later last alternates).symm⟩
      · rintro ⟨alternates, _, ⟨later, rfl, latest⟩, rfl⟩
        rw [unclaimed_append] at nonempty ⊢
        have kept : unclaimed later alternates ≠ [] := by
          intro empty
          rw [empty] at nonempty
          exact nonempty rfl
        exact ⟨_, ⟨kept, alternates, later, latest, rfl⟩, rfl⟩

/-- An address is listed under the person who holds it. -/
private theorem lists_after_iff {registrations : List Registration}
    (proper : ∀ registration ∈ registrations, registration.alternates ≠ [])
    {primary alternate : String} :
    (after registrations).Lists primary alternate ↔ Holds registrations primary alternate := by
  simp only [Lists, listed_after proper]
  constructor
  · rintro ⟨_, ⟨_, alternates, later, latest, rfl⟩, kept⟩
    obtain ⟨member, free⟩ := List.mem_filter.mp kept
    exact ⟨alternates, later, latest, member, of_decide_eq_true free⟩
  · rintro ⟨alternates, later, latest, member, free⟩
    have kept : alternate ∈ unclaimed later alternates := by
      rw [unclaimed, List.mem_filter]
      exact ⟨member, decide_eq_true free⟩
    exact ⟨_, ⟨List.ne_nil_of_mem kept, alternates, later, latest, rfl⟩, kept⟩

theorem resolve_after {registrations : List Registration}
    (proper : ∀ registration ∈ registrations, registration.alternates ≠ [])
    {sender primary : String} :
    (after registrations).resolve sender = primary ↔
      Holds registrations primary sender ∨
        (primary = sender ∧ ∀ other, ¬ Holds registrations other sender) := by
  have owned (other : String) : (after registrations).owners.find? sender = some other ↔
      Holds registrations other sender :=
    ((consistent_after proper).owned sender other).trans (lists_after_iff proper)
  rw [resolve]
  cases owner : (after registrations).owners.find? sender with
  | none =>
    -- Nobody holds the address, so it counts for itself.
    have free (other : String) : ¬ Holds registrations other sender := by
      rw [← owned, owner]
      exact nofun
    rw [Option.getD_none]
    constructor
    · rintro rfl
      exact .inr ⟨rfl, free⟩
    · rintro (holds | ⟨same, _⟩)
      · exact absurd holds (free primary)
      · exact same.symm
  | some holder =>
    rw [Option.getD_some, ← owned, owner]
    constructor
    · rintro rfl
      exact .inl rfl
    · rintro (same | ⟨_, free⟩)
      · exact Option.some.inj same
      · exact absurd ((owned holder).mp owner) (free holder)

/-- After any run of registrations an address counts for the person whose latest registration lists
it, if none has listed it since, and otherwise for itself. A person is listed with what is left of
the latest registration, and with nothing only if nothing is left; no address is listed twice; and
the table that is loaded from these lists resolves every address alike. -/
theorem last_registration_counts (registrations : List Registration)
    (proper : ∀ registration ∈ registrations, registration.alternates ≠ []) :
    (∀ sender primary, (after registrations).resolve sender = primary ↔
      Holds registrations primary sender ∨
        (primary = sender ∧ ∀ other, ¬ Holds registrations other sender)) ∧
    (∀ primary rest, (after registrations).listed.find? primary = some rest ↔
      rest ≠ [] ∧ ∃ alternates later, Latest registrations primary alternates later ∧
        rest = unclaimed later alternates) ∧
    (∀ primary, (after registrations).listed.find? primary = Option.none ↔
      ∀ alternates later, Latest registrations primary alternates later →
        unclaimed later alternates = []) ∧
    (∀ one two alternate, (after registrations).Lists one alternate →
      (after registrations).Lists two alternate → one = two) ∧
    ∀ sender, (ofListed (after registrations).listed).resolve sender =
      (after registrations).resolve sender := by
  have consistent := consistent_after proper
  refine ⟨fun sender primary => resolve_after proper, fun primary rest => listed_after proper,
    ?_, fun one two alternate => consistent.unique, ?_⟩
  · -- A list of which nothing is left is not kept.
    intro primary
    rw [Option.eq_none_iff_forall_ne_some]
    constructor
    · intro unlisted alternates later latest
      by_contra nonempty
      exact unlisted _ ((listed_after proper).mpr ⟨nonempty, alternates, later, latest, rfl⟩)
    · intro nothing rest listed
      obtain ⟨nonempty, alternates, later, latest, rfl⟩ := (listed_after proper).mp listed
      exact nonempty (nothing alternates later latest)
  · intro sender
    rw [consistent.ofListed_listed]

/-- Alice lists an address twice, one that Bob takes, and Bob's own; Carol takes one of Bob's. -/
theorem last_registration_counts_of_three :
    let alice := Registration.mk "alice" ["home", "shared", "home", "bob"]
    let bob := Registration.mk "bob" ["shared", "bob", "carol"]
    let carol := Registration.mk "carol" ["carol"]
    let registrations := [alice, bob, carol]
    (∀ registration ∈ registrations, registration.alternates ≠ []) ∧
      (after registrations).resolve "shared" = "bob" ∧
      (after registrations).resolve "phone" = "phone" ∧
      (after registrations).listed.find? "alice" = some ["home", "home"] := by
  intro alice bob carol registrations
  have proper : ∀ registration ∈ registrations, registration.alternates ≠ [] := by
    simp [registrations, alice, bob, carol]
  obtain ⟨resolves, listed, _⟩ := last_registration_counts registrations proper
  have bobLatest : Latest registrations "bob" bob.alternates [carol] :=
    ⟨⟨[alice], rfl⟩, by simp [carol]⟩
  have aliceLatest : Latest registrations "alice" alice.alternates [bob, carol] :=
    ⟨⟨[], rfl⟩, by simp [bob, carol]⟩
  refine ⟨proper, ?_, ?_, ?_⟩
  · exact (resolves _ _).mpr (.inl ⟨_, _, bobLatest, by decide, by simp [carol]⟩)
  · have unlisted : ∀ registration ∈ registrations, "phone" ∉ registration.alternates := by
      simp [registrations, alice, bob, carol]
    refine (resolves _ _).mpr (.inr ⟨rfl, ?_⟩)
    rintro other ⟨alternates, later, ⟨⟨earlier, same⟩, _⟩, member, _⟩
    exact unlisted ⟨other, alternates⟩ (by simp [same]) member
  · exact (listed _ _).mpr ⟨by decide, _, _, aliceLatest, by decide⟩

end Whereabouts.Alternates
