import Whereabouts.Page.Render
import Whereabouts.Proofs.Mail.Authority
import Whereabouts.Proofs.Mail.Drafts
/-!
# The keys of an account

## Main result

`keys_of_account`: a slot, an absence notice and a manager's line know an account under one key, which
is the account in lower case with the domain as it was configured. Its own mail is recorded with the
domain in lower case, too, so the keys are the same just if the configured domain has no capitals.

## Strategy

1. Characters of an address are below 128, so lower case goes letter by letter.
2. An account has no `@`, no blank and no bracket, so each part that reads one finds all of it, and
   completes it with the domain.
-/
namespace Whereabouts

open Whereabouts.Text

namespace Address

/-! ### Accounts -/

private theorem isAddressChar_of_isAccountChar {c : Char} (belongs : isAccountChar c = true) :
    isAddressChar c = true := by
  rw [isAddressChar, belongs]
  rfl

/-- No mark of the program's texts is a character of an account. -/
private theorem ne_of_isAccountChar {c mark : Char} (belongs : isAccountChar c = true)
    (other : isAccountChar mark = false) : c ≠ mark := by
  rintro rfl
  rw [belongs] at other
  cases other

private theorem isAccountChar_toLower {c : Char} (belongs : isAccountChar c = true) :
    isAccountChar c.toLower = true :=
  ascii_forall (motive := fun c => isAccountChar c = true → isAccountChar c.toLower = true)
    (by decide) (lt_of_isAddressChar (isAddressChar_of_isAccountChar belongs)) belongs

section Account

variable {account : List Char} (accountChars : ∀ c ∈ account, isAccountChar c = true)

include accountChars

private theorem account_ascii : ∀ c ∈ account, c.toNat < 128 := fun c member =>
  lt_of_isAddressChar (isAddressChar_of_isAccountChar (accountChars c member))

private theorem account_shows : ∀ c ∈ account, isBlank c = false := by
  intro c member
  by_contra blank
  have other := not_isAddressChar_of_isBlank (Bool.not_eq_false _ ▸ blank)
  rw [isAddressChar_of_isAccountChar (accountChars c member)] at other
  cases other

private theorem lower_mailed {domain : List Char}
    (domainChars : ∀ c ∈ domain, isAddressChar c = true) :
    lower (account ++ '@' :: domain) = lower account ++ '@' :: lower domain := by
  have ascii := account_ascii accountChars
  have ascii' : ∀ c ∈ domain, c.toNat < 128 := fun c member => lt_of_isAddressChar (domainChars c member)
  rw [lower_ascii ascii, lower_ascii ascii', lower_ascii, List.map_append, List.map_cons]
  · rfl
  · exact List.forall_mem_append.mpr ⟨ascii, List.forall_mem_cons.mpr ⟨by decide, ascii'⟩⟩

private theorem complete?_account (named : account ≠ []) (domain : String) :
    complete? domain (String.ofList account) =
      some (String.ofList (lower account ++ '@' :: domain.toList)) := by
  have bare : '@' ∉ lower account := by
    rw [lower_ascii (account_ascii accountChars)]
    intro inside
    obtain ⟨c, member, same⟩ := List.mem_map.mp inside
    exact ne_of_isAccountChar (isAccountChar_toLower (accountChars c member)) rfl same
  rw [complete?, String.toList_ofList, trim, trimWhile_of_shows (account_shows accountChars)]
  split
  next => exact absurd rfl named
  · exact congrArg (fun text => some (String.ofList text)) (if_neg bare)

/-- The first account in brackets is the one behind the first bracket. -/
private theorem scanAccount?_append (named : account ≠ []) {before : List Char}
    (unopened : '[' ∉ before) (after : List Char) :
    scanAccount? (before ++ '[' :: (account ++ ']' :: after)) = some account := by
  induction before with
  | nil =>
    have taken : (account ++ ']' :: after).takeWhile isAccountChar = account :=
      takeWhile_run accountChars (by simp; rfl)
    have closed : startsWith [']'] ((account ++ ']' :: after).drop account.length) = true := by
      rw [List.drop_left, startsWith]
      rfl
    rw [List.nil_append, scanAccount?, taken]
    exact if_pos ⟨rfl, named, closed⟩
  | cons c before ih =>
    obtain ⟨plain, unopened⟩ := List.ne_and_not_mem_of_not_mem_cons unopened
    rw [List.cons_append, scanAccount?, if_neg fun opens => plain opens.1.symm]
    exact ih unopened

private theorem lines_account (named : account ≠ []) : lines account = [account] := by
  induction account with
  | nil => exact absurd rfl named
  | cons c rest ih =>
    obtain ⟨first, later⟩ := List.forall_mem_cons.mp accountChars
    have noFeed : c ≠ '\n' := ne_of_isAccountChar first rfl
    have noReturn : c ≠ '\r' := ne_of_isAccountChar first rfl
    rw [lines]
    · cases rest with
      | nil => rfl
      | cons next rest => rw [ih later (List.cons_ne_nil next rest)]
    · exact noFeed
    · exact fun _ same => absurd same noReturn

end Account

end Address

namespace Mail

/-! ### Notices -/

/-- A line that names the account as the person who is away. -/
def personLine (account : List Char) : List Char := "不在者[".toList ++ (account ++ [']'])

private theorem fieldValue_brackets {account : List Char}
    (accountChars : ∀ c ∈ account, Address.isAccountChar c = true) :
    fieldValue ('[' :: (account ++ [']'])) = account := by
  have other {c : Char} (member : c ∈ account) (mark : Char)
      (plain : Address.isAccountChar mark = false) : c ≠ mark :=
    Address.ne_of_isAccountChar (accountChars c member) plain
  have inside : bracketText ('[' :: (account ++ [']'])) = account :=
    bracketText_inBrackets fun closing => other closing ']' rfl rfl
  have uncoloned : ∀ c ∈ account, isColon c = false := by
    intro c member
    simp [isColon, other member ':' rfl, other member '：' rfl]
  have unblank : ∀ c ∈ account, isFieldBlank c = false := by
    intro c member
    simp [isFieldBlank, other member ' ' rfl, other member '\t' rfl, other member '\u3000' rfl]
  rw [fieldValue, inside, dropWhile_of_shows uncoloned, trimWhile_of_shows unblank]

private theorem setField_personLine {account : List Char}
    (accountChars : ∀ c ∈ account, Address.isAccountChar c = true) (draft : Draft) :
    draft.setField (personLine account) = { draft with person := some account } := by
  have read : readField? Label.ofAbsence (personLine account) =
      some (.person, '[' :: (account ++ [']'])) := rfl
  rw [Draft.setField, read]
  dsimp only
  rw [fieldValue_brackets accountChars]

/-! ### Mail -/

/-- Mail that counts is recorded under the address it shows, unless that is somebody's alternate. -/
private theorem recorded_of_countsFor {board : Board} {message : Message} {sender : String}
    (counts : CountsFor board.managers message sender) (primary : board.alternates = .none) :
    (interpret board message).2.sender? = some sender ∧
      ∃ person, (interpret board message).1.roster.find? sender = some person := by
  have own : (interpret board message).2.sender? = some sender := by
    rw [interpret, vet_of_countsFor counts, primary]
    rfl
  refine ⟨own, rewritten message (board.roster.find? sender), ?_⟩
  rw [find?_interpret, if_pos own]

end Mail

/-! ### Managers -/

section Managers

variable {account : List Char} (named : account ≠ [])
  (accountChars : ∀ c ∈ account, Address.isAccountChar c = true) (domain : String)

include named accountChars

private theorem entry_account :
    (if account.head? = some '#' then none else Address.complete? domain (String.ofList account)) =
      some (String.ofList (lower account ++ '@' :: domain.toList)) := by
  have noHash : account.head? ≠ some '#' := by
    intro hash
    exact Address.ne_of_isAccountChar (accountChars '#' (List.mem_of_head? hash)) rfl rfl
  rw [if_neg noHash, Address.complete?_account accountChars named]

private theorem Managers.contains_ofText_account {text : String}
    (line : account ∈ lines text.toList) :
    (ofText domain text).contains (String.ofList (lower account ++ '@' :: domain.toList)) = true := by
  rw [contains, List.contains_iff_mem, ofText]
  exact List.mem_filterMap.mpr ⟨account, line, entry_account named accountChars domain⟩

private theorem Managers.addresses_ofText_account :
    (ofText domain (String.ofList account)).addresses =
      [String.ofList (lower account ++ '@' :: domain.toList)] := by
  rw [ofText, String.toList_ofList, Address.lines_account accountChars named]
  simp only [List.filterMap_cons, List.filterMap_nil, entry_account named accountChars]

end Managers

/-! ### All together -/

/-- The slot, the notice and the manager's line use one key for the account. Its own mail, which may
come with any text around the address, is recorded under the same key if and only if the configured
domain is in lower case. -/
theorem keys_of_account {account domain : List Char} (named : account ≠ [])
    (accountChars : ∀ c ∈ account, Address.isAccountChar c = true)
    (domainChars : ∀ c ∈ domain, Address.isAddressChar c = true) :
    let mailed := String.ofList (lower (account ++ '@' :: domain))
    let completed := String.ofList (lower account ++ '@' :: domain)
    (∀ board message, Address.StandsFirst message.fromHeader.toList account domain →
      (Mail.TellsNoPath message ∨ ∃ returnPath, Mail.ReturnsTo message returnPath ∧
        Mail.Trusted board.managers mailed returnPath) →
      board.alternates = .none →
      (Mail.interpret board message).2.sender? = some mailed ∧
        ∃ person, (Mail.interpret board message).1.roster.find? mailed = some person) ∧
    (∀ before after, '[' ∉ before →
      (Page.holder? (before ++ '[' :: (account ++ ']' :: after))).map
        (Page.Holder.onBoard (String.ofList domain)) = some completed) ∧
    (∀ (draft : Mail.Draft) sender received,
      ((draft.setField (Mail.personLine account)).toNotice (String.ofList domain) sender
        received).subject = completed) ∧
    (∀ text, account ∈ lines text.toList →
      (Managers.ofText (String.ofList domain) text).contains completed = true) ∧
    (Managers.ofText (String.ofList domain) (String.ofList account)).addresses = [completed] ∧
    (mailed = completed ↔ lower domain = domain) := by
  intro mailed completed
  have configured : completed =
      String.ofList (lower account ++ '@' :: (String.ofList domain).toList) := by
    rw [String.toList_ofList]
  have completes : Address.complete? (String.ofList domain) (String.ofList account) =
      some completed := by
    rw [configured, Address.complete?_account accountChars named]
  refine ⟨?_, ?_, ?_, ?_, ?_, ?_⟩
  · intro board message first path primary
    exact Mail.recorded_of_countsFor ⟨⟨account, domain, first, rfl⟩, path⟩ primary
  · intro before after unopened
    rw [Page.holder?, Address.scanAccount?_append accountChars named unopened]
    simp only [Option.map_some, Page.Holder.onBoard, completes, Option.getD_some]
  · intro draft sender received
    rw [Mail.setField_personLine accountChars]
    simp only [Mail.Draft.toNotice, Option.bind_some, completes, Option.getD_some]
  · intro text line
    rw [configured]
    exact Managers.contains_ofText_account named accountChars _ line
  · rw [configured, Managers.addresses_ofText_account named accountChars]
  · rw [String.ofList_inj, Address.lower_mailed accountChars domainChars, List.append_cancel_left_eq,
      List.cons_inj_right]

/-- Alice writes from the domain as it is configured. -/
def mailOfAlice (domain : String) : Mail.Message where
  fromHeader := "alice@" ++ domain
  returnPath := none
  sentAt := .startOfDay .epoch
  body := "[開始]\nAM[東京]\n"

theorem keys_of_account_of_alice :
    let account := "alice".toList
    let domain := "example.com".toList
    account ≠ [] ∧ (∀ c ∈ account, Address.isAccountChar c = true) ∧
      (∀ c ∈ domain, Address.isAddressChar c = true) ∧
      (Mail.interpret (.new "example.com") (mailOfAlice "example.com")).2.sender? =
        some "alice@example.com" ∧
      (Page.holder? "<td>[alice]</td>".toList).map (Page.Holder.onBoard "example.com") =
        some "alice@example.com" ∧
      (Managers.ofText "example.com" "alice").addresses = ["alice@example.com"] := by
  intro account domain
  have named : account ≠ [] := by decide
  have accountChars : ∀ c ∈ account, Address.isAccountChar c = true :=
    List.all_eq_true.mp (by decide)
  have domainChars : ∀ c ∈ domain, Address.isAddressChar c = true :=
    List.all_eq_true.mp (by decide)
  obtain ⟨mailed, slot, _, _, manager, _⟩ := keys_of_account named accountChars domainChars
  have first : Address.StandsFirst (mailOfAlice "example.com").fromHeader.toList account domain :=
    ⟨[], [], ⟨by decide, named, by decide, List.all_eq_true.mp (by decide), domainChars, nofun, nofun⟩,
      fun _ _ _ _ _ => Nat.zero_le _⟩
  have key : String.ofList (lower (account ++ '@' :: domain)) = "alice@example.com" := by decide
  have key' : String.ofList (lower account ++ '@' :: domain) = "alice@example.com" := by decide
  have recorded := mailed (.new "example.com") (mailOfAlice "example.com") first (.inl nofun) rfl
  have shown := slot "<td>".toList "</td>".toList (by decide)
  rw [key] at recorded
  rw [key'] at shown manager
  exact ⟨named, accountChars, domainChars, recorded.1, shown, manager⟩

/-- Under a domain with capitals Alice's own mail is not what her slot looks up. -/
theorem keys_differ_of_capitals :
    let domain := "Example.COM"
    ¬ ∃ key, (Mail.interpret (.new domain) (mailOfAlice domain)).2.sender? = some key ∧
      (Page.holder? "<td>[alice]</td>".toList).map (Page.Holder.onBoard domain) = some key ∧
      ((Mail.Draft.blank.setField (Mail.personLine "alice".toList)).toNotice domain
        "bob@example.com" (.startOfDay .epoch)).subject = key ∧
      (Managers.ofText domain "alice").addresses = [key] := by
  rintro domain ⟨key, mailed, slot, _⟩
  have small : (Mail.interpret (.new domain) (mailOfAlice domain)).2.sender? =
      some "alice@example.com" := by
    decide +kernel
  have configured : (Page.holder? "<td>[alice]</td>".toList).map (Page.Holder.onBoard domain) =
      some "alice@Example.COM" := by
    decide +kernel
  rw [small] at mailed
  rw [configured, ← mailed] at slot
  exact absurd slot (by decide)

end Whereabouts
