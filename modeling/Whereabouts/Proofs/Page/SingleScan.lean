import Mathlib.Data.List.Nodup
import Whereabouts.Proofs.Page.Escape
/-!
# Escaping as one scan

## Main result

`escape_eq_scan`: escaping every character and then giving the four entities for spaces back is one
scan from left to right that copies these entities where they stand and escapes every other
character. So escaped text tells what it was made from, but for one thing: whether a space was
written as a space or as its entity.

## Strategy

1. `scan` copies the entities of any names. Without names it escapes each character (`scan_nil`),
   and giving one more entity back comes to copying it as well (`restore_scan`).
2. Every text is taken apart from left to right (`reads`), and the scan follows this reading. A name
   that stands behind an ampersand in scanned text stood there before (`isPrefix_of_rewritten`).
3. `unescape` reads characters back from their entities, and from scanned text it gets the text in
   which each entity of a plain space is that space (`unescape_scan`).
-/
namespace Whereabouts.Page

open Whereabouts.Text

/-! ### The scan -/

def spaceEntity (name : String) : String := "&" ++ name ++ ";"

/-- The name of the entity that begins the text. -/
def opening? (names : List String) (text : List Char) : Option String :=
  names.find? fun name => startsWith (spaceEntity name).toList text

/-- `copied` counts the characters of an entity found before that are still to be copied. -/
def scanFrom (names : List String) : (copied : Nat) → (text : List Char) → List Char
  | _, [] => []
  | copied + 1, c :: text => c :: scanFrom names copied text
  | 0, c :: text =>
    match opening? names (c :: text) with
    | some name => c :: scanFrom names (name ++ ";").toList.length text
    | none => entityOf c ++ scanFrom names 0 text

/-- Entities of these names are copied, and every other character is escaped. -/
def scan (names : List String) (text : List Char) : List Char := scanFrom names 0 text

example : scan spaceEntities "a&nbsp;<b> &copy;".toList =
    "a&nbsp;&lt;b&gt;&nbsp;&amp;copy;".toList := by decide

private theorem toList_spaceEntity (name : String) :
    (spaceEntity name).toList = '&' :: (name ++ ";").toList := by
  rw [spaceEntity, String.append_assoc, String.toList_append]
  rfl

private theorem spaceEntity_mem : ∀ name ∈ spaceEntities, spaceEntity name ∈ entities := by decide

private theorem spaceEntity_inj : ∀ one ∈ spaceEntities, ∀ two ∈ spaceEntities,
    spaceEntity one = spaceEntity two → one = two := by
  decide

/-- Only one entity begins a text. -/
private theorem eq_of_spaceEntity_isPrefix {one two : String} (member : one ∈ spaceEntities)
    (member' : two ∈ spaceEntities) {rest : List Char}
    (opens : (spaceEntity one).toList <+: (spaceEntity two).toList ++ rest) : one = two :=
  spaceEntity_inj one member two member'
    (eq_of_entity_isPrefix_append (spaceEntity_mem one member) (spaceEntity_mem two member') opens)

private theorem ampersand_ne_spaceEntity :
    ∀ name ∈ spaceEntities, "&amp;" ≠ spaceEntity name := by decide

/-- Behind its ampersand, an entity for a space is made of characters that are not escaped. -/
private theorem plain_name {name : String} (member : name ∈ spaceEntities) :
    ∀ c ∈ (name ++ ";").toList, c ∉ specials := by
  have all : ∀ name ∈ spaceEntities, (name ++ ";").toList.all (· ∉ specials) = true := by decide
  exact List.all_iff_forall_prop.mp (all name member)

section Scan

variable {names : List String} {rest : List Char}

private theorem scanFrom_copied (names : List String) (entity rest : List Char) :
    scanFrom names entity.length (entity ++ rest) = entity ++ scan names rest := by
  induction entity with
  | nil => rfl
  | cons c entity ih => exact congrArg (c :: ·) ih

private theorem opening?_spaceEntity (known : names ⊆ spaceEntities) {name : String}
    (member : name ∈ names) (rest : List Char) :
    opening? names ((spaceEntity name).toList ++ rest) = some name := by
  have here : startsWith (spaceEntity name).toList ((spaceEntity name).toList ++ rest) = true :=
    startsWith_iff.mpr (List.prefix_append _ _)
  cases found : opening? names ((spaceEntity name).toList ++ rest) with
  | none => exact absurd here (List.find?_eq_none.mp found name member)
  | some other =>
    have member' := List.mem_of_find?_eq_some found
    have opens := List.find?_some found
    rw [eq_of_spaceEntity_isPrefix (known member') (known member) (startsWith_iff.mp opens)]

private theorem scan_entity (known : names ⊆ spaceEntities) {name : String} (member : name ∈ names)
    (rest : List Char) :
    scan names ((spaceEntity name).toList ++ rest) =
      (spaceEntity name).toList ++ scan names rest := by
  have found := opening?_spaceEntity known member rest
  rw [toList_spaceEntity, List.cons_append] at found ⊢
  rw [scan, scanFrom, found]
  dsimp only
  rw [scanFrom_copied, List.cons_append]

private theorem scan_single {c : Char}
    (alone : ∀ name ∈ names, ¬ (spaceEntity name).toList <+: c :: rest) :
    scan names (c :: rest) = entityOf c ++ scan names rest := by
  have nothing : opening? names (c :: rest) = none := by
    rw [opening?, List.find?_eq_none]
    exact fun name member => mt startsWith_iff.mp (alone name member)
  rw [scan, scanFrom, nothing]
  rfl

/-- At another character than an ampersand, no entity begins. -/
private theorem not_spaceEntity_isPrefix {c : Char} (noAmpersand : c ≠ '&') (name : String) :
    ¬ (spaceEntity name).toList <+: c :: rest := by
  intro opens
  rw [toList_spaceEntity] at opens
  exact noAmpersand (List.cons_prefix_cons.mp opens).1.symm

private theorem scan_plain {before : List Char} (plain : ∀ c ∈ before, c ∉ specials) :
    scan names (before ++ rest) = before ++ scan names rest := by
  induction before with
  | nil => rfl
  | cons c before ih =>
    obtain ⟨single, others⟩ := List.forall_mem_cons.mp plain
    have noAmpersand : c ≠ '&' := (single <| · ▸ by decide)
    rw [List.cons_append, scan_single fun name _ => not_spaceEntity_isPrefix noAmpersand name,
      entityOf_plain single, ih others]
    rfl

private theorem scan_nil (text : List Char) : scan [] text = text.flatMap entityOf := by
  induction text with
  | nil => rfl
  | cons c text ih =>
    rw [scan_single (fun _ member => absurd member List.not_mem_nil), ih]
    rfl

end Scan

/-! ### How a text is read -/

/-- The text is taken apart, from left to right, into entities of these names and characters at
which none of them begins. -/
inductive Reads (names : List String) : List Char → Prop
  | nil : Reads names []
  | entity {name : String} {rest : List Char} (member : name ∈ names) (reads : Reads names rest) :
    Reads names ((spaceEntity name).toList ++ rest)
  | single {c : Char} {rest : List Char}
    (alone : ∀ name ∈ names, ¬ (spaceEntity name).toList <+: c :: rest)
    (reads : Reads names rest) : Reads names (c :: rest)

/-- By induction on the length, as the reading goes on behind a whole entity. -/
private theorem reads (names : List String) (text : List Char) : Reads names text := by
  induction length : text.length using Nat.strong_induction_on generalizing text with
  | _ length ih =>
    subst length
    by_cases opens : ∃ name ∈ names, (spaceEntity name).toList <+: text
    · obtain ⟨name, member, rest, rfl⟩ := opens
      refine .entity member (ih rest.length ?_ rest rfl)
      rw [toList_spaceEntity, List.length_append, List.length_cons]
      omega
    · cases text with
      | nil => exact .nil
      | cons c rest =>
        refine .single (fun name member opens' => opens ⟨name, member, opens'⟩) ?_
        exact ih rest.length (by simp) rest rfl

/-- What replaces something begins with a character that is escaped. So others stand in the new text
only where they stood in the old one. -/
private theorem isPrefix_of_rewritten {rewrite : List Char → List Char} (nothing : rewrite [] = [])
    (step : ∀ c rest, (∃ special ∈ specials, ∃ out, rewrite (c :: rest) = special :: out) ∨
      rewrite (c :: rest) = c :: rewrite rest)
    {before text : List Char} (plain : ∀ c ∈ before, c ∉ specials)
    (opens : before <+: rewrite text) : before <+: text := by
  induction before generalizing text with
  | nil => exact List.nil_prefix
  | cons first before ih =>
    obtain ⟨single, others⟩ := List.forall_mem_cons.mp plain
    cases text with
    | nil => exact nothing ▸ opens
    | cons c rest =>
      rcases step c rest with ⟨special, member, out, replaced⟩ | kept
      · rw [replaced] at opens
        exact absurd ((List.cons_prefix_cons.mp opens).1 ▸ member) single
      · rw [kept] at opens
        obtain ⟨rfl, behind⟩ := List.cons_prefix_cons.mp opens
        exact List.cons_prefix_cons.mpr ⟨rfl, ih others behind⟩

private theorem scan_cons {names : List String} (known : names ⊆ spaceEntities) (c : Char)
    (rest : List Char) :
    (∃ special ∈ specials, ∃ out, scan names (c :: rest) = special :: out) ∨
      scan names (c :: rest) = c :: scan names rest := by
  generalize shape : c :: rest = text
  cases reads names text with
  | nil => cases shape
  | entity member _ =>
    rw [scan_entity known member, toList_spaceEntity]
    exact .inl ⟨'&', by decide, _, rfl⟩
  | single alone _ =>
    cases shape
    rw [scan_single alone]
    by_cases special : c ∈ specials
    · obtain ⟨entity, member, shape⟩ := entityOf_special c special
      rw [shape, (entity_shape entity member).1]
      exact .inl ⟨'&', by decide, _, rfl⟩
    · rw [entityOf_plain special]
      exact .inr rfl

/-! ### One more entity is given back -/

private theorem restore_eq (text : List Char) (name : String) :
    restore text name =
      replaceFrom ("&amp;".toList ++ (name ++ ";").toList) (spaceEntity name).toList 0 text := by
  rw [restore, String.append_assoc, String.toList_append]
  rfl

/-- What is given back begins where an ampersand was escaped, and at no other entity. -/
private theorem eq_of_mark_isPrefix {entity : String} (member : entity ∈ entities)
    {name rest : List Char} (opens : "&amp;".toList ++ name <+: entity.toList ++ rest) :
    "&amp;" = entity :=
  eq_of_entity_isPrefix_append (by decide) member ((List.prefix_append _ _).trans opens)

private theorem eq_ampersand : ∀ c ∈ specials, entityOf c = "&amp;".toList → c = '&' :=
  List.all_iff_forall_prop.mp (by decide)

private theorem ampersand_of_isPrefix {c : Char} {name rest : List Char}
    (opens : "&amp;".toList ++ name <+: entityOf c ++ rest) : c = '&' ∧ name <+: rest := by
  by_cases special : c ∈ specials
  · obtain ⟨entity, member, shape⟩ := entityOf_special c special
    rw [shape] at opens
    obtain rfl := eq_of_mark_isPrefix member opens
    exact ⟨eq_ampersand c special shape, (List.prefix_append_right_inj _).mp opens⟩
  · rw [entityOf_plain special] at opens
    have same : '&' = c := (List.cons_prefix_cons.mp opens).1
    exact absurd (same ▸ by decide) special

private theorem replaceFrom_keep_entityOf {mark new : List Char} (ampersand : mark.head? = some '&')
    {c : Char} {rest : List Char} (elsewhere : ¬ mark <+: entityOf c ++ rest) :
    replaceFrom mark new 0 (entityOf c ++ rest) = entityOf c ++ replaceFrom mark new 0 rest := by
  by_cases special : c ∈ specials
  · obtain ⟨entity, member, shape⟩ := entityOf_special c special
    rw [shape] at elsewhere ⊢
    exact replaceFrom_keep_entity ampersand member elsewhere
  · rw [entityOf_plain special] at elsewhere ⊢
    exact replaceFrom_keep elsewhere

private theorem restore_scan {names : List String} (known : names ⊆ spaceEntities) {name : String}
    (listed : name ∈ spaceEntities) (text : List Char) :
    restore (scan names text) name = scan (names ++ [name]) text := by
  have known' : names ++ [name] ⊆ spaceEntities := by
    simpa [List.append_subset] using ⟨known, listed⟩
  rw [restore_eq]
  induction reads (names ++ [name]) text with
  | nil => rfl
  | @entity found rest member _ ih =>
    rw [scan_entity known' member, ← ih]
    have entity := spaceEntity_mem found (known' member)
    by_cases earlier : found ∈ names
    · rw [scan_entity known earlier]
      exact replaceFrom_keep_entity rfl entity fun opens =>
        ampersand_ne_spaceEntity found (known' member) (eq_of_mark_isPrefix entity opens)
    · -- This is the entity to give back: its ampersand was escaped, and its name was kept.
      obtain rfl : found = name := by simpa [earlier] using member
      have alone : ∀ other ∈ names,
          ¬ (spaceEntity other).toList <+: '&' :: ((found ++ ";").toList ++ rest) := by
        intro other member opens
        rw [← List.cons_append, ← toList_spaceEntity] at opens
        exact earlier (eq_of_spaceEntity_isPrefix (known member) listed opens ▸ member)
      have escaped : scan names ((spaceEntity found).toList ++ rest) =
          ("&amp;".toList ++ (found ++ ";").toList) ++ scan names rest := by
        rw [toList_spaceEntity, List.cons_append, scan_single alone,
          scan_plain (plain_name listed), List.append_assoc]
        rfl
      rw [escaped, replaceFrom_mark (by simp)]
  | @single c rest alone _ ih =>
    have alone' : ∀ other ∈ names, ¬ (spaceEntity other).toList <+: c :: rest := fun other member =>
      alone other (List.mem_append_left _ member)
    rw [scan_single alone, scan_single alone', ← ih]
    refine replaceFrom_keep_entityOf rfl fun opens => ?_
    -- Behind an ampersand, the name would stand in the text as it stands in the scan.
    obtain ⟨rfl, named⟩ := ampersand_of_isPrefix opens
    refine alone name (List.mem_append_right _ List.mem_cons_self) ?_
    have there := isPrefix_of_rewritten rfl (scan_cons known) (plain_name listed) named
    rw [toList_spaceEntity]
    exact List.cons_prefix_cons.mpr ⟨rfl, there⟩

private theorem foldl_restore_scan {names others : List String}
    (known : names ++ others ⊆ spaceEntities) (text : List Char) :
    others.foldl restore (scan names text) = scan (names ++ others) text := by
  induction others generalizing names with
  | nil => rw [List.append_nil, List.foldl_nil]
  | cons name others ih =>
    obtain ⟨known', behind⟩ := List.append_subset.mp known
    rw [List.foldl_cons, restore_scan known' (behind List.mem_cons_self)]
    rw [List.append_cons names name others] at known ⊢
    exact ih known

private theorem escape_eq (text : List Char) : escape text = scan spaceEntities text := by
  rw [escape, ← scan_nil]
  exact foldl_restore_scan (List.Subset.refl _) text

private theorem space_not_mem : ∀ entity ∈ entities, ' ' ∉ entity.toList := by decide

private theorem space_not_mem_entityOf (c : Char) : ' ' ∉ entityOf c := by
  by_cases special : c ∈ specials
  · obtain ⟨entity, member, shape⟩ := entityOf_special c special
    exact shape ▸ space_not_mem entity member
  · rw [entityOf_plain special, List.mem_singleton]
    exact fun same => special (same ▸ by decide)

private theorem space_not_mem_scan (text : List Char) : ' ' ∉ scan spaceEntities text := by
  induction reads spaceEntities text with
  | nil => exact List.not_mem_nil
  | @entity name rest member _ ih =>
    rw [scan_entity (List.Subset.refl _) member, List.mem_append]
    exact not_or.mpr ⟨space_not_mem _ (spaceEntity_mem name member), ih⟩
  | @single c rest alone _ ih =>
    rw [scan_single alone, List.mem_append]
    exact not_or.mpr ⟨space_not_mem_entityOf c, ih⟩

/-! ### What escaped text says -/

/-- The text with every `&nbsp;` in it written as a space. -/
def spaced (text : List Char) : List Char := replaceAll "&nbsp;".toList [' '] text

/-- The character whose entity begins the text. -/
def escapedAt? (text : List Char) : Option Char :=
  specials.find? fun c => startsWith (entityOf c) text

/-- `passed` counts the characters of an entity read before. -/
def unescapeFrom : (passed : Nat) → (text : List Char) → List Char
  | _, [] => []
  | passed + 1, _ :: text => unescapeFrom passed text
  | 0, c :: text =>
    match escapedAt? (c :: text) with
    | some special => special :: unescapeFrom ((entityOf special).length - 1) text
    | none => c :: unescapeFrom 0 text

/-- Reads back what escaping wrote for a character. -/
def unescape (text : List Char) : List Char := unescapeFrom 0 text

private theorem unescapeFrom_passed (entity rest : List Char) :
    unescapeFrom entity.length (entity ++ rest) = unescape rest := by
  induction entity with
  | nil => rfl
  | cons c entity ih => exact ih

private theorem nodup_map_entityOf : (specials.map entityOf).Nodup := by decide

private theorem eq_of_entityOf_isPrefix {one two : Char} (special : one ∈ specials)
    (special' : two ∈ specials) {rest : List Char}
    (opens : entityOf one <+: entityOf two ++ rest) : one = two := by
  obtain ⟨entity, member, shape⟩ := entityOf_special one special
  obtain ⟨entity', member', shape'⟩ := entityOf_special two special'
  apply List.inj_on_of_nodup_map nodup_map_entityOf special special'
  rw [shape, shape'] at opens ⊢
  rw [eq_of_entity_isPrefix_append member member' opens]

private theorem unescape_single {c : Char} {rest : List Char}
    (nothing : escapedAt? (c :: rest) = none) :
    unescape (c :: rest) = c :: unescape rest := by
  rw [unescape, unescapeFrom, nothing]
  rfl

private theorem escapedAt?_entityOf {c : Char} (special : c ∈ specials) (rest : List Char) :
    escapedAt? (entityOf c ++ rest) = some c := by
  have here : startsWith (entityOf c) (entityOf c ++ rest) = true :=
    startsWith_iff.mpr (List.prefix_append _ _)
  cases found : escapedAt? (entityOf c ++ rest) with
  | none => exact absurd here (List.find?_eq_none.mp found c special)
  | some other =>
    have special' := List.mem_of_find?_eq_some found
    have opens := List.find?_some found
    rw [eq_of_entityOf_isPrefix special' special (startsWith_iff.mp opens)]

/-- Every entity begins with an ampersand. -/
private theorem escapedAt?_plain {c : Char} (plain : c ∉ specials) (rest : List Char) :
    escapedAt? (c :: rest) = none := by
  refine List.find?_eq_none.mpr fun other special opens => plain ?_
  obtain ⟨entity, member, shape⟩ := entityOf_special other special
  rw [startsWith_iff, shape, (entity_shape entity member).1] at opens
  rw [← (List.cons_prefix_cons.mp opens).1]
  decide

private theorem unescape_entityOf (c : Char) (rest : List Char) :
    unescape (entityOf c ++ rest) = c :: unescape rest := by
  by_cases special : c ∈ specials
  · have found := escapedAt?_entityOf special rest
    obtain ⟨entity, member, shape⟩ := entityOf_special c special
    rw [(entity_shape entity member).1] at shape
    rw [shape, List.cons_append] at found ⊢
    rw [unescape, unescapeFrom, found]
    dsimp only
    rw [shape, List.length_cons, Nat.add_sub_cancel, unescapeFrom_passed]
  · rw [entityOf_plain special]
    exact unescape_single (escapedAt?_plain special rest)

private theorem unescape_plain {before rest : List Char} (plain : ∀ c ∈ before, c ∉ specials) :
    unescape (before ++ rest) = before ++ unescape rest := by
  induction before with
  | nil => rfl
  | cons c before ih =>
    obtain ⟨single, others⟩ := List.forall_mem_cons.mp plain
    have step := unescape_entityOf c (before ++ rest)
    rw [entityOf_plain single, ih others] at step
    exact step

/-- Of the four entities for spaces, only one is also written for a character. -/
private theorem eq_nbsp :
    ∀ c ∈ specials, ∀ name ∈ spaceEntities, entityOf c = (spaceEntity name).toList →
    name = "nbsp" :=
  List.all_iff_forall_prop.mp (by decide)

private theorem unescape_spaceEntity {name : String} (member : name ∈ spaceEntities)
    (other : name ≠ "nbsp") (rest : List Char) :
    unescape ((spaceEntity name).toList ++ rest) = (spaceEntity name).toList ++ unescape rest := by
  have nothing : escapedAt? ((spaceEntity name).toList ++ rest) = none := by
    refine List.find?_eq_none.mpr fun c special opens => other (eq_nbsp c special name member ?_)
    obtain ⟨entity, member', shape⟩ := entityOf_special c special
    rw [startsWith_iff, shape] at opens
    rw [shape, eq_of_entity_isPrefix_append member' (spaceEntity_mem name member) opens]
  rw [toList_spaceEntity, List.cons_append] at nothing ⊢
  rw [unescape_single nothing, unescape_plain (plain_name member), List.cons_append]

section Spaced

variable {rest : List Char}

private theorem spaced_nbsp (rest : List Char) :
    spaced ("&nbsp;".toList ++ rest) = ' ' :: spaced rest :=
  replaceFrom_mark (by decide) rest

private theorem spaced_spaceEntity {name : String} (member : name ∈ spaceEntities)
    (other : name ≠ "nbsp") (rest : List Char) :
    spaced ((spaceEntity name).toList ++ rest) = (spaceEntity name).toList ++ spaced rest :=
  replaceFrom_keep_entity rfl (spaceEntity_mem name member) fun opens =>
    other (eq_of_spaceEntity_isPrefix (by decide : "nbsp" ∈ spaceEntities) member opens).symm

private theorem spaced_single {c : Char} (alone : ¬ "&nbsp;".toList <+: c :: rest) :
    spaced (c :: rest) = c :: spaced rest :=
  replaceFrom_keep alone

private theorem spaced_cons (c : Char) (rest : List Char) :
    (∃ special ∈ specials, ∃ out, spaced (c :: rest) = special :: out) ∨
      spaced (c :: rest) = c :: spaced rest := by
  by_cases opens : "&nbsp;".toList <+: c :: rest
  · obtain ⟨behind, shape⟩ := opens
    rw [← shape, spaced_nbsp]
    exact .inl ⟨' ', by decide, _, rfl⟩
  · exact .inr (spaced_single opens)

end Spaced

private theorem unescape_scan (text : List Char) :
    unescape (scan spaceEntities text) = spaced text := by
  induction reads spaceEntities text with
  | nil => rfl
  | @entity name rest member _ ih =>
    rw [scan_entity (List.Subset.refl _) member]
    by_cases blank : name = "nbsp"
    · subst blank
      exact ((unescape_entityOf ' ' _).trans (congrArg _ ih)).trans (spaced_nbsp rest).symm
    · rw [unescape_spaceEntity member blank, spaced_spaceEntity member blank, ih]
  | @single c rest alone _ ih =>
    rw [scan_single alone, unescape_entityOf, spaced_single (alone "nbsp" (by decide)), ih]

private theorem scan_spaced (text : List Char) :
    scan spaceEntities (spaced text) = scan spaceEntities text := by
  induction reads spaceEntities text with
  | nil => rfl
  | @entity name rest member _ ih =>
    rw [scan_entity (List.Subset.refl _) member]
    by_cases blank : name = "nbsp"
    · subst blank
      change scan spaceEntities (spaced ("&nbsp;".toList ++ rest)) = _
      rw [spaced_nbsp, scan_single fun name _ => not_spaceEntity_isPrefix (by decide) name, ih]
      rfl
    · rw [spaced_spaceEntity member blank, scan_entity (List.Subset.refl _) member, ih]
  | @single c rest alone _ ih =>
    rw [scan_single alone, spaced_single (alone "nbsp" (by decide)), scan_single, ih]
    intro name member opens
    rw [toList_spaceEntity] at opens
    obtain ⟨rfl, behind⟩ := List.cons_prefix_cons.mp opens
    have there := isPrefix_of_rewritten rfl spaced_cons (plain_name member) behind
    refine alone name member ?_
    rw [toList_spaceEntity]
    exact List.cons_prefix_cons.mpr ⟨rfl, there⟩

private theorem escape_eq_escape_iff (one other : List Char) :
    escape one = escape other ↔ spaced one = spaced other := by
  rw [escape_eq, escape_eq]
  constructor
  · intro same
    rw [← unescape_scan, same, unescape_scan]
  · intro same
    rw [← scan_spaced, same, scan_spaced]

/-- Escaping is one scan. What it writes holds no markup and no space, and each ampersand in it
begins a known entity. Texts that are escaped alike differ only in how a space was written. -/
theorem escape_eq_scan (text : List Char) :
    escape text = scan spaceEntities text ∧
      (∀ c ∈ escape text, c ∉ markup ∧ c ≠ ' ') ∧
      (∀ before after, escape text = before ++ '&' :: after →
        ∃ entity ∈ entities, entity.toList <+: '&' :: after) ∧
      ∀ other, escape text = escape other ↔ spaced text = spaced other := by
  refine ⟨escape_eq text, fun c member => ⟨fun inside => ?_, ?_⟩, (inert_escape text).ampersands,
    escape_eq_escape_iff text⟩
  · have none : c ∉ markupOf (escape text) := (inert_escape text).noMarkup ▸ List.not_mem_nil
    exact none (List.mem_filter.mpr ⟨member, decide_eq_true inside⟩)
  · rintro rfl
    rw [escape_eq] at member
    exact space_not_mem_scan text member

end Whereabouts.Page
