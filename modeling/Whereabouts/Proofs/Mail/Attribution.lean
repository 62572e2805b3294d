import Whereabouts.Proofs.Alternates.Disputes
import Whereabouts.Proofs.Mail.Authority
import Whereabouts.Proofs.Mail.Ownership
/-!
# Whether attribution ends at a primary address

## Main result

`settled_unless_overtaken`: after any run of mail, a person's alternates and the person's own
address count for the same person, unless some message registered, as an alternate of its sender,
the address of somebody else who keeps alternates. Just such a message makes a chain: the alternates
still count for that address, and it counts for the sender (`chain_of_overtaking`).

## Strategy

1. In tables that tell the same, a chain is a listed person who is an alternate of somebody else.
2. A registration by a person who counts for no other leaves chains just if it lists such a person.
3. Mail counts for a person who counts for no other as long as there are no chains.
-/
namespace Whereabouts

/-! ### Chains -/

namespace Alternates

variable {table : Alternates} {primary : String} {alternates : List String}

/-- Nobody that mail counts for counts for another one. -/
def Settled (table : Alternates) : Prop :=
  ∀ sender, table.resolve (table.resolve sender) = table.resolve sender

private theorem settled_none : none.Settled := fun _ => rfl

private theorem Consistent.resolve_eq (consistent : table.Consistent) {alternate : String}
    (lists : table.Lists primary alternate) : table.resolve alternate = primary := by
  rw [resolve, (consistent.owned alternate primary).mpr lists, Option.getD_some]

/-- An address counts for itself or for the one person who lists it. -/
private theorem Consistent.resolve_or (consistent : table.Consistent) (sender : String) :
    table.resolve sender = sender ∨ table.Lists (table.resolve sender) sender := by
  rw [resolve]
  cases owner : table.owners.find? sender with
  | none => exact .inl rfl
  | some primary => exact .inr ((consistent.owned sender primary).mp owner)

/-- There are no chains just if no listed person is listed under another one. -/
private theorem Consistent.settled_iff (consistent : table.Consistent) :
    table.Settled ↔ ∀ primary other, (table.listed.find? primary).isSome = true →
      table.Lists other primary → other = primary := by
  constructor
  · intro settled primary other isListed lists
    obtain ⟨alternates, listed⟩ := Option.isSome_iff_exists.mp isListed
    -- The list is not empty, and what is on it counts for the person.
    have nonempty : alternates ≠ [] := fun empty => consistent.nonempty primary (empty ▸ listed)
    obtain ⟨alternate, rest, rfl⟩ := List.exists_cons_of_ne_nil nonempty
    have counts := consistent.resolve_eq ⟨_, listed, List.mem_cons_self⟩
    have ends := settled alternate
    rw [counts, consistent.resolve_eq lists] at ends
    exact ends
  · intro unlisted sender
    rcases consistent.resolve_or sender with own | lists
    · rw [own, own]
    · rcases consistent.resolve_or (table.resolve sender) with own | lists'
      · exact own
      · obtain ⟨alternates, listed, _⟩ := lists
        exact unlisted _ _ (Option.isSome_iff_exists.mpr ⟨alternates, listed⟩) lists'

/-- A registration by a person who counts for no other makes no chain just if nobody else whom it
lists keeps an alternate. -/
private theorem Settled.replace_iff (settled : table.Settled) (consistent : table.Consistent)
    (own : table.resolve primary = primary) :
    (table.replace primary alternates).Settled ↔
      ∀ other ∈ alternates, other ≠ primary →
        ∀ alternate ∉ alternates, table.resolve alternate ≠ other := by
  have ownAfter : (table.replace primary alternates).resolve primary = primary := by
    rw [resolve_replace, own]
    simp
  constructor
  · intro settled' other named different alternate unnamed counts
    have lists : alternate ∉ table.listOf primary := by
      intro member
      exact different (counts.symm.trans (consistent.resolve_eq (mem_listOf.mp member)))
    have ends := settled' alternate
    rw [resolve_replace _ _ _ alternate, if_neg unnamed, if_neg lists, counts, resolve_replace,
      if_pos named] at ends
    exact different ends.symm
  · intro alone sender
    rw [resolve_replace _ _ _ sender]
    split
    · exact ownAfter
    next unnamed =>
      split
      next member => rw [resolve_replace, if_neg unnamed, if_pos member]
      next unlisted =>
        -- Whom the address counted for before still counts for no other.
        rw [resolve_replace, settled sender]
        split
        next named =>
          by_contra different
          exact alone _ named (Ne.symm different) sender unnamed rfl
        · split
          · rfl
          · rfl

end Alternates

namespace Mail

/-! ### One message -/

/-- The message registers, for its sender, the address of somebody else, who keeps an alternate. -/
structure Overtakes (board : Board) (message : Message) (sender primary : String) : Prop where
  applied : (interpret board message).2.sender? = some sender
  named : primary ∈ registeredBy message
  other : primary ≠ sender
  keeps : ∃ alternate ∉ registeredBy message, board.alternates.resolve alternate = primary

section Step

variable {board : Board} {message : Message}

private theorem sender?_of_countsFor {address : String}
    (counts : CountsFor board.managers message address) :
    (interpret board message).2.sender? = some (board.alternates.resolve address) := by
  rw [interpret, vet_of_countsFor counts]
  rfl

private theorem exists_of_sender? {sender : String}
    (applied : (interpret board message).2.sender? = some sender) :
    ∃ address, board.alternates.resolve address = sender ∧
      (interpret board message).1.alternates = relisted board.alternates sender message := by
  have result : interpret board message =
      ((interpret board message).1, (interpret board message).2) := rfl
  generalize (interpret board message).1 = after, (interpret board message).2 = outcome
    at result applied ⊢
  cases outcome with
  | ignored => cases applied
  | rejected => cases applied
  | applied =>
    cases applied
    obtain ⟨⟨address, _, primary⟩, _, rfl, _⟩ := interpret_eq_applied.mp result
    exact ⟨address, primary, rfl⟩

private theorem consistent_interpret (consistent : board.alternates.Consistent)
    (message : Message) :
    (interpret board message).1.alternates.Consistent := by
  cases applied : (interpret board message).2.sender? with
  | none =>
    rw [interpret_of_nobody board message applied]
    exact consistent
  | some sender =>
    obtain ⟨_, _, changed⟩ := exists_of_sender? applied
    rw [changed, relisted]
    split
    · exact consistent
    next proper => exact consistent.replace proper

private theorem settled_interpret_iff (settled : board.alternates.Settled)
    (consistent : board.alternates.Consistent) (message : Message) :
    (interpret board message).1.alternates.Settled ↔
      ∀ sender primary, ¬ Overtakes board message sender primary := by
  cases applied : (interpret board message).2.sender? with
  | none =>
    rw [interpret_of_nobody board message applied]
    refine iff_of_true settled fun sender primary overtakes => ?_
    cases applied.symm.trans overtakes.applied
  | some sender =>
    obtain ⟨address, primary, changed⟩ := exists_of_sender? applied
    have own : board.alternates.resolve sender = sender := primary ▸ settled address
    rw [changed, relisted]
    split
    next nothing =>
      refine iff_of_true settled fun sender' primary overtakes => ?_
      have named := overtakes.named
      rw [nothing] at named
      cases named
    · rw [settled.replace_iff consistent own]
      constructor
      · intro alone sender' primary overtakes
        cases applied.symm.trans overtakes.applied
        obtain ⟨alternate, unnamed, counts⟩ := overtakes.keeps
        exact alone primary overtakes.named overtakes.other alternate unnamed counts
      · intro nobody other named different alternate unnamed counts
        exact nobody sender other ⟨applied, named, different, alternate, unnamed, counts⟩

end Step

/-! ### Runs of messages -/

/-- One of the messages overtakes somebody when its turn comes. -/
def Overtaken (board : Board) (messages : List Message) : Prop :=
  ∃ earlier message later, messages = earlier ++ message :: later ∧
    ∃ sender primary, Overtakes (interpretAll board earlier).1 message sender primary

section Run

variable {board : Board} (nothing : board.alternates = .none)

include nothing

theorem consistent_interpretAll (messages : List Message) :
    (interpretAll board messages).1.alternates.Consistent := by
  induction messages using List.reverseRecOn with
  | nil => exact nothing ▸ Alternates.consistent_none
  | append_singleton messages message ih =>
    rw [interpretAll_concat]
    exact consistent_interpret ih message

theorem settled_interpretAll (messages : List Message) (alone : ¬ Overtaken board messages) :
    (interpretAll board messages).1.alternates.Settled := by
  induction messages using List.reverseRecOn with
  | nil => exact nothing ▸ Alternates.settled_none
  | append_singleton messages message ih =>
    have before : ¬ Overtaken board messages := by
      rintro ⟨earlier, overtaking, later, rfl, overtakes⟩
      exact alone ⟨earlier, overtaking, later ++ [message], by simp, overtakes⟩
    rw [interpretAll_concat,
      settled_interpret_iff (ih before) (consistent_interpretAll nothing messages)]
    exact fun sender primary overtakes =>
      alone ⟨messages, message, [], rfl, sender, primary, overtakes⟩

end Run

/-- On a board that had no alternates in the beginning, a person whom mail counts for counts for
nobody else, unless some message has overtaken a person who kept alternates; mail of an alternate
and of the person's own address is then applied for the same person. There is a chain just if a
listed person is listed under another one, and just a message that overtakes makes the first one. -/
theorem settled_unless_overtaken {board : Board} (nothing : board.alternates = .none)
    (messages : List Message) :
    let reached := (interpretAll board messages).1
    let primaryOf := reached.alternates.resolve
    (¬ Overtaken board messages →
      (∀ sender, primaryOf (primaryOf sender) = primaryOf sender) ∧
      ∀ address mail own, CountsFor reached.managers mail address →
        CountsFor reached.managers own (primaryOf address) →
        (interpret reached mail).2.sender? = some (primaryOf address) ∧
          (interpret reached own).2.sender? = some (primaryOf address)) ∧
    (reached.alternates.Settled ↔ ∀ primary other,
      (reached.alternates.listed.find? primary).isSome = true →
      reached.alternates.Lists other primary → other = primary) ∧
    (reached.alternates.Settled → ∀ message,
      ((interpret reached message).1.alternates.Settled ↔
        ∀ sender primary, ¬ Overtakes reached message sender primary)) := by
  intro reached primaryOf
  have consistent : reached.alternates.Consistent := consistent_interpretAll nothing messages
  refine ⟨fun alone => ?_, consistent.settled_iff, fun settled message => ?_⟩
  · have settled : reached.alternates.Settled := settled_interpretAll nothing messages alone
    refine ⟨settled, fun address mail own counts counts' => ⟨sender?_of_countsFor counts, ?_⟩⟩
    rw [sender?_of_countsFor counts']
    exact congrArg some (settled address)
  · exact settled_interpret_iff settled consistent message

/-- Somebody registers one alternate address. -/
def registration (sender alternate : String) : Message where
  fromHeader := sender
  returnPath := none
  sentAt := .startOfDay .epoch
  body := "[修正]\nALT[" ++ alternate ++ "]\n"

/-- Alice registers her phone: mail from it counts for her like her own, until Bob registers her. -/
theorem settled_unless_overtaken_of_alice :
    let board := Board.new "example.com"
    let messages := [registration "alice@example.com" "phone@mobile.jp"]
    let reached := (interpretAll board messages).1
    let fromPhone := registration "phone@mobile.jp" "home@mobile.jp"
    let fromAlice := registration "alice@example.com" "home@mobile.jp"
    let fromBob := registration "bob@example.com" "alice@example.com"
    board.alternates = .none ∧ ¬ Overtaken board messages ∧
      (interpret reached fromPhone).2.sender? = some "alice@example.com" ∧
      (interpret reached fromAlice).2.sender? = some "alice@example.com" ∧
      ¬ (interpret reached fromBob).1.alternates.Settled := by
  intro board messages reached fromPhone fromAlice fromBob
  have alone : ¬ Overtaken board messages := by
    rintro ⟨earlier, message, later, split, sender, primary, overtakes⟩
    -- There is only one message, and before it every address counts for itself.
    have first : earlier = [] ∧ message = registration "alice@example.com" "phone@mobile.jp" := by
      cases earlier with
      | nil => simp_all [messages]
      | cons _ _ => simp [messages] at split
    obtain ⟨rfl, rfl⟩ := first
    obtain ⟨alternate, unnamed, counts⟩ := overtakes.keeps
    have same : alternate = primary := counts
    exact unnamed (same ▸ overtakes.named)
  have phone : reached.alternates.resolve "phone@mobile.jp" = "alice@example.com" := by
    decide +kernel
  have counts : CountsFor reached.managers fromPhone "phone@mobile.jp" :=
    vet_eq_accept.mp (by decide +kernel)
  have counts' : CountsFor reached.managers fromAlice "alice@example.com" :=
    vet_eq_accept.mp (by decide +kernel)
  have overtakes : Overtakes reached fromBob "bob@example.com" "alice@example.com" :=
    ⟨by decide +kernel, by decide +kernel, by decide, "phone@mobile.jp", by decide +kernel, phone⟩
  have nothing : board.alternates = .none := rfl
  obtain ⟨same, _, chains⟩ := settled_unless_overtaken nothing messages
  obtain ⟨settled, attributed⟩ := same alone
  obtain ⟨mine, own⟩ := attributed "phone@mobile.jp" fromPhone fromAlice counts (phone ▸ counts')
  rw [phone] at mine own
  exact ⟨nothing, alone, mine, own, fun settled' => (chains settled fromBob).mp settled' _ _ overtakes⟩

/-- Alice registers her phone, then Bob registers Alice: the phone counts for her, she for Bob. -/
theorem chain_of_overtaking :
    let messages := [registration "alice@example.com" "phone@mobile.jp",
      registration "bob@example.com" "alice@example.com"]
    let reached := (interpretAll (Board.new "example.com") messages).1
    reached.alternates.resolve "phone@mobile.jp" = "alice@example.com" ∧
      reached.alternates.resolve "alice@example.com" = "bob@example.com" ∧
      ¬ reached.alternates.Settled := by
  intro messages reached
  have phone : reached.alternates.resolve "phone@mobile.jp" = "alice@example.com" := by
    decide +kernel
  have alice : reached.alternates.resolve "alice@example.com" = "bob@example.com" := by
    decide +kernel
  refine ⟨phone, alice, fun settled => ?_⟩
  have ends := settled "phone@mobile.jp"
  rw [phone, alice] at ends
  exact absurd ends (by decide)

end Mail

end Whereabouts
