import Mathlib.Data.List.Basic
import Whereabouts.Json.Printer
import Whereabouts.Json.Reader
/-!
# Reading back what was written

## Main results

`ofText?_compact`, `ofText?_pretty`: a value without numbers is read back from its text, whether it
was written on one line or over several.

## Strategy

Between text and value stand the tokens of the value. The reader of tokens turns them into the value
whatever is open around it, and the reader of characters turns either text into them whatever comes
after it. A string is read character by character, each of them from its own spelling.
-/
namespace Whereabouts.Json

open Whereabouts.Text

/-! ### The tokens of a value -/

mutual

def tokens : Json → List Token
  | array [] => [.openArray, .closeArray]
  | array (item :: items) =>
    .openArray :: (item.tokens ++ (itemTokens items ++ [.closeArray]))
  | object [] => [.openObject, .closeObject]
  | object ((name, value) :: members) =>
    .openObject :: .atom (string name) :: .colon ::
      (value.tokens ++ (memberTokens members ++ [.closeObject]))
  | value => [.atom value]

/-- The tokens of the items after the first. -/
def itemTokens : List Json → List Token
  | [] => []
  | item :: items => .comma :: (item.tokens ++ itemTokens items)

/-- The tokens of the members after the first. -/
def memberTokens : List (Option String × Json) → List Token
  | [] => []
  | (name, value) :: members =>
    .comma :: .atom (string name) :: .colon :: (value.tokens ++ memberTokens members)

end

/-! ### From tokens to values -/

/-- Where an array may end, an item may also begin. -/
private theorem readTokens?_firstItem (json : Json) (stack : List Frame) (rest : List Token) :
    readTokens? (.firstItem stack) (json.tokens ++ rest) =
      readTokens? (.value (.items [] :: stack)) (json.tokens ++ rest) := by
  cases json with
  | array items => cases items <;> rfl
  | object members => cases members <;> rfl
  | null | bool | number | string => rfl

mutual

private theorem readTokens?_value (json : Json) (stack : List Frame) (rest : List Token) :
    readTokens? (.value stack) (json.tokens ++ rest) = readTokens? (.after stack json) rest := by
  match json with
  | .null | .bool _ | .number _ | .string _ | .array [] | .object [] => rfl
  | .array (item :: items) =>
    have first := readTokens?_value item (.items [] :: stack) (itemTokens items ++ .closeArray :: rest)
    have others := readTokens?_items items stack [] item rest
    simp only [tokens, List.cons_append, List.append_assoc, List.nil_append]
    calc readTokens? (.value stack)
          (.openArray :: (item.tokens ++ (itemTokens items ++ .closeArray :: rest)))
      _ = readTokens? (.firstItem stack) (item.tokens ++ (itemTokens items ++ .closeArray :: rest)) :=
        rfl
      _ = readTokens? (.after stack (.array (item :: items))) rest := by
        rw [readTokens?_firstItem, first, others]
        rfl
  | .object ((name, value) :: members) =>
    have first :=
      readTokens?_value value (.member [] name :: stack) (memberTokens members ++ .closeObject :: rest)
    have others := readTokens?_members members stack [] name value rest
    simp only [tokens, List.cons_append, List.append_assoc, List.nil_append]
    calc readTokens? (.value stack) (.openObject :: .atom (.string name) :: .colon ::
          (value.tokens ++ (memberTokens members ++ .closeObject :: rest)))
      _ = readTokens? (.value (.member [] name :: stack))
            (value.tokens ++ (memberTokens members ++ .closeObject :: rest)) := rfl
      _ = readTokens? (.after stack (.object ((name, value) :: members))) rest := by
        rw [first, others]
        rfl

theorem readTokens?_items (items : List Json) (stack : List Frame) (before : List Json) (last : Json)
    (rest : List Token) :
    readTokens? (.after (.items before :: stack) last) (itemTokens items ++ .closeArray :: rest) =
      readTokens? (.after stack (.array (before.reverse ++ last :: items))) rest := by
  match items with
  | [] => simp [itemTokens, readTokens?, readToken?]
  | item :: items =>
    have next := readTokens?_value item (.items (last :: before) :: stack)
      (itemTokens items ++ .closeArray :: rest)
    have others := readTokens?_items items stack (last :: before) item rest
    simp only [itemTokens, List.cons_append, List.append_assoc]
    calc readTokens? (.after (.items before :: stack) last)
          (.comma :: (item.tokens ++ (itemTokens items ++ .closeArray :: rest)))
      _ = readTokens? (.value (.items (last :: before) :: stack))
            (item.tokens ++ (itemTokens items ++ .closeArray :: rest)) := rfl
      _ = readTokens? (.after stack (.array (before.reverse ++ last :: item :: items))) rest := by
        rw [next, others]
        simp

theorem readTokens?_members (members : List (Option String × Json)) (stack : List Frame)
    (before : List (Option String × Json)) (name : Option String) (last : Json) (rest : List Token) :
    readTokens? (.after (.member before name :: stack) last)
        (memberTokens members ++ .closeObject :: rest) =
      readTokens? (.after stack (.object (before.reverse ++ (name, last) :: members))) rest := by
  match members with
  | [] => simp [memberTokens, readTokens?, readToken?]
  | (name', value) :: members =>
    have next := readTokens?_value value (.member ((name, last) :: before) name' :: stack)
      (memberTokens members ++ .closeObject :: rest)
    have others := readTokens?_members members stack ((name, last) :: before) name' value rest
    simp only [memberTokens, List.cons_append, List.append_assoc]
    calc readTokens? (.after (.member before name :: stack) last)
          (.comma :: .atom (.string name') :: .colon ::
            (value.tokens ++ (memberTokens members ++ .closeObject :: rest)))
      _ = readTokens? (.value (.member ((name, last) :: before) name' :: stack))
            (value.tokens ++ (memberTokens members ++ .closeObject :: rest)) := rfl
      _ = readTokens? (.after stack
            (.object (before.reverse ++ (name, last) :: (name', value) :: members))) rest := by
        rw [next, others]
        simp

end

theorem ofTokens?_tokens (json : Json) : ofTokens? json.tokens = some json := by
  have read := readTokens?_value json [] []
  rw [List.append_nil] at read
  rw [ofTokens?, read]
  rfl

/-! ### From characters to tokens -/

private theorem tokensFrom?_cons {mode next : Mode} {c : Char} {found : List Token}
    (read : readChar? mode c = some (found, next)) (text : List Char) :
    tokensFrom? mode (c :: text) = (tokensFrom? next text).map (found ++ ·) := by
  rw [tokensFrom?, read, Option.map_eq_bind]
  rfl

/-- A character that completes no token only changes where the reading stands. -/
private theorem tokensFrom?_within {mode next : Mode} {c : Char}
    (read : readChar? mode c = some ([], next)) (text : List Char) :
    tokensFrom? mode (c :: text) = tokensFrom? next text := by
  rw [tokensFrom?_cons read]
  exact Option.map_id'

private theorem tokensFrom?_space {c : Char} (space : isSpace c = true) (text : List Char) :
    tokensFrom? .between (c :: text) = tokensFrom? .between text := by
  have read : readChar? .between c = some ([], .between) := by simp [readChar?, begin?, space]
  exact tokensFrom?_within read text

/-- The text is read as these tokens if no word goes on after it. -/
def Spells (text : List Char) (tokens : List Token) : Prop :=
  ∀ rest : List Char, (∀ c ∈ rest.head?, isWordChar c = false) →
    tokensFrom? .between (text ++ rest) = (tokensFrom? .between rest).map (tokens ++ ·)

/-- The text is read as these tokens and ends a word before it. -/
def Follows (text : List Char) (tokens : List Token) : Prop :=
  Spells text tokens ∧ ∃ c more, text = c :: more ∧ isWordChar c = false

private theorem Spells.nil : Spells [] [] := by
  intro rest _
  exact Option.map_id'.symm

private theorem Spells.append {text more : List Char} {tokens others : List Token}
    (spells : Spells text tokens) (follows : Follows more others) :
    Spells (text ++ more) (tokens ++ others) := by
  intro rest ends
  obtain ⟨spellsMore, c, tail, rfl, noWord⟩ := follows
  have stops : ∀ first ∈ (c :: tail ++ rest).head?, isWordChar first = false := by
    rintro first ⟨rfl⟩
    exact noWord
  rw [List.append_assoc, spells _ stops, spellsMore rest ends, Option.map_map]
  congr 1
  funext found
  exact (List.append_assoc tokens others found).symm

private theorem Follows.mark {c : Char} {token : Token} {text : List Char} {tokens : List Token}
    (spells : Spells text tokens) (read : begin? c = some ([token], .between))
    (noWord : isWordChar c = false) : Follows (c :: text) (token :: tokens) := by
  refine ⟨?_, c, text, rfl, noWord⟩
  intro rest ends
  have step : readChar? .between c = some ([token], .between) := read
  rw [List.cons_append, tokensFrom?_cons step, spells rest ends, Option.map_map]
  rfl

private theorem Spells.space {text : List Char} {tokens : List Token}
    (spells : Spells text tokens) :
    Spells (' ' :: text) tokens := by
  intro rest ends
  rw [List.cons_append, tokensFrom?_space (by decide), spells rest ends]

private theorem Follows.newLine {text : List Char} {tokens : List Token}
    (spells : Spells text tokens) (depth : Nat) : Follows (newLine depth ++ text) tokens := by
  have blanks (width : Nat) (text : List Char) :
      tokensFrom? .between (List.replicate width ' ' ++ text) = tokensFrom? .between text := by
    induction width with
    | zero => rfl
    | succ width ih =>
      rw [List.replicate_succ, List.cons_append, tokensFrom?_space (by decide), ih]
  refine ⟨?_, '\n', List.replicate (2 * depth) ' ' ++ text, rfl, by decide⟩
  intro rest ends
  rw [Json.newLine, List.cons_append, List.cons_append, tokensFrom?_space (by decide),
    List.append_assoc, blanks, spells rest ends]

/-! ### Words and strings -/

private theorem Spells.word {word : List Char} {value : Json} (present : word ≠ [])
    (chars : word.all isWordChar = true) (means : ofWord? word = some value) :
    Spells word [.atom value] := by
  rw [List.all_eq_true] at chars
  have run (read word rest : List Char) (chars : ∀ c ∈ word, isWordChar c = true) :
      tokensFrom? (.word read) (word ++ rest) = tokensFrom? (.word (word.reverse ++ read)) rest := by
    induction word generalizing read with
    | nil => rfl
    | cons c word ih =>
      have step : readChar? (.word read) c = some ([], .word (c :: read)) := by
        simp [readChar?, chars c List.mem_cons_self]
      rw [List.cons_append, tokensFrom?_within step,
        ih _ fun c member => chars c (List.mem_cons_of_mem _ member)]
      simp
  intro rest ends
  obtain ⟨c, word, rfl⟩ := List.exists_cons_of_ne_nil present
  have isWord := chars c List.mem_cons_self
  have opening : readChar? .between c = some ([], .word [c]) := by
    have noSpace : isSpace c = false := by
      by_contra space
      simp only [Bool.not_eq_false, isSpace, Bool.or_eq_true, beq_iff_eq] at space
      rcases space with ((rfl | rfl) | rfl) | rfl <;> exact absurd isWord (by decide)
    simp [readChar?, begin?, noSpace, isWord]
  rw [List.cons_append, tokensFrom?_within opening,
    run [c] word rest fun c member => chars c (List.mem_cons_of_mem _ member)]
  have same : (word.reverse ++ [c]).reverse = c :: word := by simp
  -- The word ends with the text, or with a character that may begin the next token.
  cases rest with
  | nil => simp [tokensFrom?, finish?, same, means]
  | cons first rest =>
    have ending : readChar? (.word (word.reverse ++ [c])) first =
        (begin? first).map fun step => (.atom value :: step.1, step.2) := by
      simp only [readChar?, ends first rfl, Bool.false_eq_true, if_false, same, means,
        Option.bind_eq_bind, Option.bind_some, Option.map_eq_bind]
      rfl
    rw [tokensFrom?, ending, tokensFrom?, readChar?]
    cases begin? first with
    | none => rfl
    | some step => cases more : tokensFrom? step.2 rest <;> simp [more]

private theorem hexValue?_hexDigit (n : Nat) : hexValue? (hexDigit n) = some (n % 16) := by
  have small : ∀ n < 16, hexValue? (hexDigit n) = some n := by decide
  have same : hexDigit n = hexDigit (n % 16) := by simp [hexDigit]
  rw [same, small _ (Nat.mod_lt _ (by decide))]

/-- A character is read back from its own spelling, whatever was read before. -/
private theorem tokensFrom?_writtenChar (read : List Unit) (c : Char) (rest : List Char) :
    tokensFrom? (.text read) (writtenChar c ++ rest) = tokensFrom? (.text (.char c :: read)) rest := by
  have escape (letter meant : Char) (means : escaped? letter = some meant) (plain : letter ≠ 'u') :
      tokensFrom? (.text read) ('\\' :: letter :: rest) =
        tokensFrom? (.text (.char meant :: read)) rest := by
    have opening : readChar? (.text read) '\\' = some ([], .escape read) := rfl
    have step : readChar? (.escape read) letter = some ([], .text (.char meant :: read)) := by
      simp [readChar?, plain, means]
    rw [tokensFrom?_within opening, tokensFrom?_within step]
  -- Seven characters have a short escape; other control characters are written by their code.
  unfold writtenChar
  split
  · exact escape _ _ rfl (by decide)
  · exact escape _ _ rfl (by decide)
  · exact escape _ _ rfl (by decide)
  · exact escape _ _ rfl (by decide)
  · exact escape _ _ rfl (by decide)
  · exact escape _ _ rfl (by decide)
  · exact escape _ _ rfl (by decide)
  next noQuote noBackslash _ _ _ _ _ =>
    split
    next control =>
      have high : hexValue? (hexDigit (c.toNat / 16)) = some (c.toNat / 16) := by
        rw [hexValue?_hexDigit, Nat.mod_eq_of_lt (by omega)]
      have code : unitOf (c.toNat / 16 * 16 + c.toNat % 16) = .char c := by
        have noHalf : (isHighHalf c.toNat || isLowHalf c.toNat) = false := by
          simp [isHighHalf, isLowHalf]
          omega
        rw [Nat.div_add_mod', unitOf, noHalf, Char.ofNat_toNat]
        rfl
      have opening : readChar? (.text read) '\\' = some ([], .escape read) := rfl
      have escape : readChar? (.escape read) 'u' = some ([], .code read 4 0) := rfl
      have zero : readChar? (.code read 4 0) '0' = some ([], .code read 3 0) := rfl
      have zero' : readChar? (.code read 3 0) '0' = some ([], .code read 2 0) := rfl
      have tens : readChar? (.code read 2 0) (hexDigit (c.toNat / 16)) =
          some ([], .code read 1 (c.toNat / 16)) := by
        simp [readChar?, high]
      have ones : readChar? (.code read 1 (c.toNat / 16)) (hexDigit c.toNat) =
          some ([], .text (.char c :: read)) := by
        simp [readChar?, hexValue?_hexDigit, code]
      simp only [List.cons_append, List.nil_append]
      rw [tokensFrom?_within opening, tokensFrom?_within escape, tokensFrom?_within zero,
        tokensFrom?_within zero', tokensFrom?_within tens, tokensFrom?_within ones]
    next visible =>
      have step : readChar? (.text read) c = some ([], .text (.char c :: read)) := by
        simp only [readChar?]
        rw [if_neg noQuote, if_neg noBackslash, if_neg visible]
      exact tokensFrom?_within step rest

private theorem tokensFrom?_flatMap_writtenChar (read : List Unit) (chars rest : List Char) :
    tokensFrom? (.text read) (chars.flatMap writtenChar ++ rest) =
      tokensFrom? (.text ((chars.map Unit.char).reverse ++ read)) rest := by
  induction chars generalizing read with
  | nil => rfl
  | cons c chars ih =>
    rw [List.flatMap_cons, List.append_assoc, tokensFrom?_writtenChar, ih]
    simp

private theorem joinUnits_map_char (chars : List Char) :
    joinUnits (chars.map Unit.char) = some chars := by
  induction chars with
  | nil => rfl
  | cons c chars ih => rw [List.map_cons, joinUnits, ih, Option.map_some]

private theorem Spells.string (text? : Option String) :
    Spells (writtenString text?) [.atom (.string text?)] := by
  intro rest _
  have opening : readChar? .between '"' = some ([], .text []) := rfl
  cases text? with
  | none =>
    have half : readChar? (.text [.half 0xD800]) '"' = some ([.atom (.string none)], .between) := rfl
    have spelled : writtenString none = ['"', '\\', 'u', 'd', '8', '0', '0', '"'] := rfl
    rw [spelled]
    calc tokensFrom? .between ('"' :: '\\' :: 'u' :: 'd' :: '8' :: '0' :: '0' :: '"' :: rest)
      _ = tokensFrom? (.text []) ('\\' :: 'u' :: 'd' :: '8' :: '0' :: '0' :: '"' :: rest) :=
        tokensFrom?_within opening _
      _ = tokensFrom? (.escape []) ('u' :: 'd' :: '8' :: '0' :: '0' :: '"' :: rest) :=
        tokensFrom?_within rfl _
      _ = tokensFrom? (.code [] 4 0) ('d' :: '8' :: '0' :: '0' :: '"' :: rest) :=
        tokensFrom?_within rfl _
      _ = tokensFrom? (.code [] 3 0xD) ('8' :: '0' :: '0' :: '"' :: rest) :=
        tokensFrom?_within rfl _
      _ = tokensFrom? (.code [] 2 0xD8) ('0' :: '0' :: '"' :: rest) := tokensFrom?_within rfl _
      _ = tokensFrom? (.code [] 1 0xD80) ('0' :: '"' :: rest) := tokensFrom?_within rfl _
      _ = tokensFrom? (.text [.half 0xD800]) ('"' :: rest) := tokensFrom?_within rfl _
      _ = (tokensFrom? .between rest).map ([.atom (.string none)] ++ ·) :=
        tokensFrom?_cons half rest
  | some text =>
    have closing : readChar? (.text (text.toList.map Unit.char).reverse) '"' =
        some ([.atom (.string (some text))], .between) := by
      simp [readChar?, joinUnits_map_char]
    have spelled : writtenString (some text) =
        '"' :: (text.toList.flatMap writtenChar ++ ['"']) := rfl
    rw [spelled, List.cons_append, List.append_assoc, tokensFrom?_within opening,
      tokensFrom?_flatMap_writtenChar, List.append_nil, List.singleton_append,
      tokensFrom?_cons closing]

/-! ### Values without numbers -/

inductive Numberless : Json → Prop where
  | null : Numberless null
  | bool (value : Bool) : Numberless (bool value)
  | string (text? : Option String) : Numberless (string text?)
  | array {items : List Json} (each : ∀ item ∈ items, Numberless item) : Numberless (array items)
  | object {members : List (Option String × Json)} (each : ∀ member ∈ members, Numberless member.2) :
    Numberless (object members)

private theorem Spells.bool (value : Bool) :
    Spells (if value then "true" else "false").toList [.atom (.bool value)] := by
  cases value
  · exact .word (by decide) (by decide) rfl
  · exact .word (by decide) (by decide) rfl

private theorem Spells.null : Spells "null".toList [.atom .null] :=
  .word (by decide) (by decide) rfl

private theorem Spells.member {value : List Char} {found : List Token} (name : Option String)
    (spells : Spells value found) :
    Spells (writtenString name ++ ':' :: value) (.atom (.string name) :: .colon :: found) :=
  (Spells.string name).append (.mark spells rfl rfl)

/-! ### On one line -/

section Compact

variable {text : List Char} {found : List Token}

private theorem Follows.compactItems {items : List Json}
    (each : ∀ item ∈ items, Spells item.compact item.tokens) (follows : Follows text found) :
    Follows (compactItems items ++ text) (itemTokens items ++ found) := by
  induction items with
  | nil => exact follows
  | cons item items ih =>
    have others := ih fun item member => each item (List.mem_cons_of_mem _ member)
    simp only [Json.compactItems, itemTokens, List.append_assoc, List.cons_append, List.nil_append]
    exact .mark ((each item List.mem_cons_self).append others) rfl rfl

private theorem Follows.compactMembers {members : List (Option String × Json)}
    (each : ∀ member ∈ members, Spells member.2.compact member.2.tokens)
    (follows : Follows text found) :
    Follows (compactMembers members ++ text) (memberTokens members ++ found) := by
  induction members with
  | nil => exact follows
  | cons member members ih =>
    have others := ih fun member later => each member (List.mem_cons_of_mem _ later)
    have value := (each member List.mem_cons_self).append others
    simp only [Json.compactMembers, memberTokens, List.append_assoc, List.cons_append,
      List.nil_append]
    exact .mark (.member member.1 value) rfl rfl

end Compact

private theorem Spells.compact {json : Json} (numberless : Numberless json) :
    Spells json.compact json.tokens := by
  induction numberless with
  | null => exact .null
  | bool value => exact .bool value
  | string text? => exact .string text?
  | @array items each ih =>
    have closing : Follows [']'] [.closeArray] := .mark .nil rfl rfl
    match items with
    | [] => exact (Follows.mark closing.1 rfl rfl).1
    | item :: items =>
      have others := closing.compactItems fun item member => ih item (List.mem_cons_of_mem _ member)
      have first := (ih item List.mem_cons_self).append others
      simp only [Json.compact, tokens, List.append_assoc, List.cons_append, List.nil_append]
      exact (Follows.mark first rfl rfl).1
  | @object members each ih =>
    have closing : Follows ['\x7d'] [.closeObject] := .mark .nil rfl rfl
    match members with
    | [] => exact (Follows.mark closing.1 rfl rfl).1
    | (name, value) :: members =>
      have others :=
        closing.compactMembers fun member later => ih member (List.mem_cons_of_mem _ later)
      have first := (ih (name, value) List.mem_cons_self).append others
      simp only [Json.compact, tokens, List.append_assoc, List.cons_append, List.nil_append]
      exact (Follows.mark (.member name first) rfl rfl).1

/-! ### Over several lines -/

section Pretty

variable {text : List Char} {found : List Token} {depth : Nat}

private theorem Follows.prettyItems {items : List Json}
    (each : ∀ item ∈ items, Spells (item.prettyAt depth) item.tokens)
    (follows : Follows text found) :
    Follows (prettyItems depth items ++ text) (itemTokens items ++ found) := by
  induction items with
  | nil => exact follows
  | cons item items ih =>
    have others := ih fun item member => each item (List.mem_cons_of_mem _ member)
    have next := Follows.newLine ((each item List.mem_cons_self).append others) depth
    simp only [Json.prettyItems, itemTokens, List.append_assoc, List.cons_append, List.nil_append]
    exact .mark next.1 rfl rfl

private theorem Follows.prettyMembers {members : List (Option String × Json)}
    (each : ∀ member ∈ members, Spells (member.2.prettyAt depth) member.2.tokens)
    (follows : Follows text found) :
    Follows (prettyMembers depth members ++ text) (memberTokens members ++ found) := by
  induction members with
  | nil => exact follows
  | cons member members ih =>
    have others := ih fun member later => each member (List.mem_cons_of_mem _ later)
    have value := (each member List.mem_cons_self).append others
    have next := Follows.newLine (.member member.1 value.space) depth
    simp only [Json.prettyMembers, memberTokens, List.append_assoc, List.cons_append,
      List.nil_append]
    exact .mark next.1 rfl rfl

end Pretty

private theorem Spells.prettyAt {json : Json} (numberless : Numberless json) (depth : Nat) :
    Spells (json.prettyAt depth) json.tokens := by
  induction numberless generalizing depth with
  | null => exact .null
  | bool value => exact .bool value
  | string text? => exact .string text?
  | @array items each ih =>
    have closing : Follows [']'] [.closeArray] := .mark .nil rfl rfl
    match items with
    | [] => exact (Follows.mark closing.1 rfl rfl).1
    | item :: items =>
      have others := (Follows.newLine closing.1 depth).prettyItems fun item member =>
        ih item (List.mem_cons_of_mem _ member) (depth + 1)
      have first := (ih item List.mem_cons_self (depth + 1)).append others
      have opened := Follows.newLine first (depth + 1)
      simp only [Json.prettyAt, tokens, List.append_assoc, List.cons_append, List.nil_append]
      exact (Follows.mark opened.1 rfl rfl).1
  | @object members each ih =>
    have closing : Follows ['\x7d'] [.closeObject] := .mark .nil rfl rfl
    match members with
    | [] => exact (Follows.mark closing.1 rfl rfl).1
    | (name, value) :: members =>
      have others := (Follows.newLine closing.1 depth).prettyMembers fun member later =>
        ih member (List.mem_cons_of_mem _ later) (depth + 1)
      have first := (ih (name, value) List.mem_cons_self (depth + 1)).append others
      have opened := Follows.newLine (.member name first.space) (depth + 1)
      simp only [Json.prettyAt, tokens, List.append_assoc, List.cons_append, List.nil_append]
      exact (Follows.mark opened.1 rfl rfl).1

/-! ### Documents -/

private theorem ofText?_of_spells {json : Json} {text : List Char}
    (spells : Spells text json.tokens) :
    ofText? text = some json := by
  have read := spells [] (fun _ absent => nomatch absent)
  rw [List.append_nil] at read
  rw [ofText?, tokens?, read]
  simp [tokensFrom?, finish?, ofTokens?_tokens]

theorem ofText?_compact {json : Json} (numberless : Numberless json) :
    ofText? json.compact = some json :=
  ofText?_of_spells (.compact numberless)

theorem ofText?_pretty {json : Json} (numberless : Numberless json) :
    ofText? json.pretty = some json :=
  ofText?_of_spells (.prettyAt numberless 0)

end Whereabouts.Json
