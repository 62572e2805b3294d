import Whereabouts.Proofs.Alternates
/-!
# Whose address a registration leaves alone

## Main result

`others_keep_undisputed`: whatever lists were loaded and whoever registered since, a registration
leaves an address that it does not list, and that counts for somebody else, as it was, if the loaded
lists do not dispute the address. A disputed address may be lost: it is so just if the person who
registers is still listed with it (`disputed_address_is_lost`).

## Strategy

1. What a registration does to one address is told by the list of the person who registers, in any
   table (`resolve_replace`).
2. An address may go wrong only if somebody is listed with it who does not own it. No step makes
   this happen to an address that is not disputed when the lists are loaded.
-/
namespace Whereabouts.Alternates

variable {table : Alternates} {primary alternate wanted : String}

/-- What a person is listed with. -/
def listOf (table : Alternates) (primary : String) : List String :=
  (table.listed.find? primary).getD []

theorem mem_listOf : alternate ∈ table.listOf primary ↔ table.Lists primary alternate := by
  rw [listOf, Lists]
  cases table.listed.find? primary <;> simp

/-! ### One registration -/

private theorem owner_forget (table : Alternates) (primary wanted : String) :
    (table.forget primary).owners.find? wanted =
      if wanted ∈ table.listOf primary then Option.none else table.owners.find? wanted := by
  rw [forget, listOf]
  split
  next unlisted => simp [unlisted]
  next previous listed =>
    rw [listed]
    exact find?_foldl_erase ..

/-- The new list decides about the addresses on it, and those of the old list count for themselves,
whoever owned them. -/
theorem resolve_replace (table : Alternates) (primary : String) (alternates : List String)
    (wanted : String) :
    (table.replace primary alternates).resolve wanted =
      if wanted ∈ alternates then primary
      else if wanted ∈ table.listOf primary then wanted
      else table.resolve wanted := by
  simp only [resolve, replace, find?_assign, find?_owners_foldl_release, owner_forget]
  split
  · rfl
  · split
    · rfl
    · rfl

private theorem lists_forget {other : String} :
    (table.forget primary).Lists other wanted ↔ other ≠ primary ∧ table.Lists other wanted := by
  rw [Lists, find?_listed_forget]
  split
  next same => simp [same]
  next different => simp [different, Lists]

/-- Only its owner is not listed with the address any more. -/
private theorem lists_release :
    (table.release alternate).Lists primary wanted ↔
      table.Lists primary wanted ∧
        ¬ (wanted = alternate ∧ table.owners.find? alternate = some primary) := by
  rw [release]
  split
  next free => simp [free]
  next owner owns =>
    rw [Lists, owns, Option.some.injEq]
    simp only [Table.find?_alter]
    split
    next same =>
      subst same
      -- The owner keeps the other addresses, and is listed if there are any.
      have kept (rest : List String) :
          (table.listed.find? primary).map (fun owned => owned.filter (· ≠ alternate)) = some rest ↔
            ∃ before, table.listed.find? primary = some before ∧
              rest = before.filter (· ≠ alternate) := by
        rw [Option.map_eq_some_iff]
        exact exists_congr fun before => and_congr_right fun _ => eq_comm
      refine (exists_congr fun rest => and_congr_left fun _ =>
        nonempty_eq_some.trans (and_congr_right fun _ => kept rest)).trans ?_
      rw [mem_kept, ← Lists]
      simp [and_comm]
    next different => simp [Lists, Ne.symm different]

private theorem lists_replace {alternates : List String} {other : String} :
    (table.replace primary alternates).Lists other wanted ↔
      if other = primary then wanted ∈ alternates
      else (alternates.foldl release (table.forget primary)).Lists other wanted := by
  rw [Lists, replace, Table.find?_insert]
  split
  · simp
  · rfl

/-! ### Addresses that are owned by whoever lists them -/

/-- Whoever is listed with the address owns it. -/
def Owned (table : Alternates) (alternate : String) : Prop :=
  ∀ primary, table.Lists primary alternate → table.owners.find? alternate = some primary

private theorem Owned.forget (owned : table.Owned wanted) (primary : String) :
    (table.forget primary).Owned wanted := by
  intro other lists
  obtain ⟨different, lists⟩ := lists_forget.mp lists
  -- Who is forgotten was not listed with it, or would own it.
  have unlisted : wanted ∉ table.listOf primary := by
    intro member
    have owner := (owned primary (mem_listOf.mp member)).symm.trans (owned other lists)
    exact different (Option.some.inj owner).symm
  rw [owner_forget, if_neg unlisted]
  exact owned other lists

private theorem Owned.release (owned : table.Owned wanted) (alternate : String) :
    (table.release alternate).Owned wanted := by
  intro other lists
  obtain ⟨lists, kept⟩ := lists_release.mp lists
  have owner := owned other lists
  have different : wanted ≠ alternate := fun same => kept ⟨same, same ▸ owner⟩
  rw [find?_owners_release, if_neg different]
  exact owner

private theorem Owned.foldl_release (owned : table.Owned wanted) (alternates : List String) :
    (alternates.foldl Alternates.release table).Owned wanted := by
  induction alternates generalizing table with
  | nil => exact owned
  | cons first others ih => exact ih (owned.release first)

private theorem Owned.replace (owned : table.Owned wanted) (primary : String)
    (alternates : List String) :
    (table.replace primary alternates).Owned wanted := by
  intro other lists
  rw [lists_replace] at lists
  rw [Alternates.replace, find?_assign]
  split at lists
  next same => rw [if_pos lists, same]
  next different =>
    -- What the new list names was released, so nobody else is left with it.
    have owner := (owned.forget primary).foldl_release alternates other lists
    have unnamed : wanted ∉ alternates := by
      intro named
      rw [find?_owners_foldl_release, if_pos named] at owner
      cases owner
    rw [if_neg unnamed]
    exact owner

theorem Owned.foldl_register (owned : table.Owned wanted) (registrations : List Registration) :
    (registrations.foldl register table).Owned wanted := by
  induction registrations generalizing table with
  | nil => exact owned
  | cons first later ih => exact ih (owned.replace first.primary first.alternates)

/-! ### Loaded lists -/

/-- The lists give the address to two people. -/
def Disputed (listed : Table (List String)) (alternate : String) : Prop :=
  ∃ one two, one ≠ two ∧
    (ofListed listed).Lists one alternate ∧ (ofListed listed).Lists two alternate

private theorem exists_owner_ofListed {listed : Table (List String)}
    (lists : (ofListed listed).Lists primary alternate) :
    ∃ owner, (ofListed listed).owners.find? alternate = some owner ∧
      (ofListed listed).Lists owner alternate := by
  rw [find?_owners_ofListed]
  obtain ⟨alternates, entry, member⟩ := lists
  have entry : (primary, alternates) ∈ listed.entries.reverse :=
    List.mem_reverse.mpr (Table.find?_eq_some.mp entry)
  cases found : listed.entries.reverse.find? fun entry => decide (alternate ∈ entry.2) with
  | none => exact absurd (decide_eq_true member) (List.find?_eq_none.mp found _ entry)
  | some last =>
    have there := List.mem_reverse.mp (List.mem_of_find?_eq_some found)
    have member := List.find?_some found
    exact ⟨last.1, rfl, last.2, Table.find?_eq_some.mpr there, of_decide_eq_true member⟩

private theorem owned_ofListed {listed : Table (List String)}
    (undisputed : ¬ Disputed listed alternate) :
    (ofListed listed).Owned alternate := by
  intro primary lists
  obtain ⟨owner, owns, lists'⟩ := exists_owner_ofListed lists
  have same : owner = primary := by
    by_contra different
    exact undisputed ⟨owner, primary, different, lists', lists⟩
  rw [owns, same]

/-! ### What registrations leave alone -/

/-- After any registrations on top of any loaded lists, the next one leaves an address that it does
not list, and that counts for somebody else, as it was, if the loaded lists do not dispute the
address. In any case it does so just if the person who registers is not listed with an address that
counts for another one; such an address counts for itself afterwards. -/
theorem others_keep_undisputed (listed : Table (List String)) (earlier : List Registration)
    (next : Registration) {sender : String} (unnamed : sender ∉ next.alternates)
    (foreign : (earlier.foldl register (ofListed listed)).resolve sender ≠ next.primary) :
    let before := earlier.foldl register (ofListed listed)
    let after := before.register next
    (¬ Disputed listed sender → after.resolve sender = before.resolve sender) ∧
    (after.resolve sender = before.resolve sender ↔
      ¬ (before.Lists next.primary sender ∧ before.resolve sender ≠ sender)) ∧
    (before.Lists next.primary sender → after.resolve sender = sender) := by
  intro before after
  have registered : after.resolve sender =
      if sender ∈ before.listOf next.primary then sender else before.resolve sender :=
    (resolve_replace before next.primary next.alternates sender).trans (if_neg unnamed)
  refine ⟨fun undisputed => ?_, ?_, fun lists => ?_⟩
  · have owned : before.Owned sender := (owned_ofListed undisputed).foldl_register earlier
    have unlisted : sender ∉ before.listOf next.primary := by
      intro member
      have owner := owned next.primary (mem_listOf.mp member)
      exact foreign (by rw [resolve, owner, Option.getD_some])
    rw [registered, if_neg unlisted]
  · rw [registered, ← mem_listOf]
    split
    next member => simp [member, eq_comm]
    next unlisted => simp [unlisted]
  · rw [registered, if_pos (mem_listOf.mpr lists)]

/-- Alice and Bob are loaded with one address, and Carol has taken another one from Alice since. -/
theorem others_keep_undisputed_of_three :
    let listed := Table.ofList
      [("alice", ["shared", "home"]), ("bob", ["shared", "phone"]), ("carol", ["desk"])]
    let earlier := [Registration.mk "carol" ["desk", "home"]]
    let next := Registration.mk "alice" ["office"]
    let before := earlier.foldl register (ofListed listed)
    "home" ∉ next.alternates ∧ before.resolve "home" ≠ next.primary ∧ ¬ Disputed listed "home" ∧
      before.resolve "home" = "carol" ∧ (before.register next).resolve "home" = "carol" := by
  intro listed earlier next before
  have unnamed : "home" ∉ next.alternates := by decide
  have foreign : before.resolve "home" ≠ next.primary := by decide
  have counts : before.resolve "home" = "carol" := by decide
  have only : ∀ entry ∈ listed.entries, "home" ∈ entry.2 → entry.1 = "alice" := by decide
  have undisputed : ¬ Disputed listed "home" := by
    rintro ⟨one, two, different, ⟨_, entry, member⟩, _, entry', member'⟩
    have first := only _ (Table.find?_eq_some.mp entry) member
    have second := only _ (Table.find?_eq_some.mp entry') member'
    exact different (first.trans second.symm)
  have stays := (others_keep_undisputed listed earlier next unnamed foreign).1 undisputed
  exact ⟨unnamed, foreign, undisputed, counts, stays.trans counts⟩

/-- Bob is loaded with an address after Alice, so it is his until Alice registers another one. -/
theorem disputed_address_is_lost :
    let listed := Table.ofList
      [("alice@example.com", ["shared@mobile.jp"]), ("bob@example.com", ["shared@mobile.jp"])]
    let before := ofListed listed
    let after := before.replace "alice@example.com" ["a@y.jp"]
    "shared@mobile.jp" ∉ ["a@y.jp"] ∧ before.resolve "shared@mobile.jp" ≠ "alice@example.com" ∧
      before.resolve "shared@mobile.jp" = "bob@example.com" ∧
      after.resolve "shared@mobile.jp" = "shared@mobile.jp" ∧
      after.listed.find? "bob@example.com" = some ["shared@mobile.jp"] := by
  decide

end Whereabouts.Alternates
