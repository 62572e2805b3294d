import Whereabouts.Proofs.Archive.Calls
import Whereabouts.Proofs.Json.Lines
/-!
# Comments among the presets

## Main result

`run_loadPresets_commented`: comment lines that people put among the presets, wherever a line begins,
change neither what is loaded nor whether it can be loaded.

## Strategy

1. `Commented` says how comment lines get into a text, one at a time.
2. What is read of a text without its comments is read piece by piece between the line feeds, so it
   can be taken apart at any of them (`plainTokens?_feed`).
3. A comment line has no tokens, and neither has the line end that is put before the last one.
-/
namespace Whereabouts.Archive

open Whereabouts.Text Whereabouts.Json

/-! ### Comment lines -/

def isComment (line : List Char) : Bool := line.head? = some '#'

def IsLineEnd (ending : List Char) : Prop := ending = ['\n'] ∨ ending = ['\r', '\n']

/-- What comes next begins a line. -/
def StartsLine (front : List Char) : Prop := front = [] ∨ ∃ before, front = before ++ ['\n']

/-- Comment lines were put into the text, each of them where a line begins or behind the last line. -/
inductive Commented (text : List Char) : (commented : List Char) → Prop
  | bare : Commented text text
  | line {front back : List Char} (remark ending : List Char)
      (before : Commented text (front ++ back)) (starts : StartsLine front)
      (short : '\n' ∉ remark) (ends : IsLineEnd ending) :
      Commented text (front ++ ('#' :: remark ++ ending) ++ back)
  /-- The last line gets an end if it has none; the comment may do without. -/
  | last {front : List Char} (opening remark ending : List Char) (before : Commented text front)
      (opens : StartsLine front ∧ opening = [] ∨ ¬ StartsLine front ∧ IsLineEnd opening)
      (short : '\n' ∉ remark) (ends : ending = [] ∨ IsLineEnd ending) :
      Commented text (front ++ opening ++ ('#' :: remark ++ ending))

/-! ### Reading without comments -/

/-- The tokens of a text whose comments are left out. -/
def plainTokens? (text : List Char) : Option (List Token) :=
  tokensOfLines? ((splitOn isLineFeed text).filter fun line => !isComment line)

private theorem isComment_endsLine {line piece : List Char} (ends : EndsLine line piece) :
    isComment piece = isComment line := by
  rcases ends with rfl | rfl
  · rfl
  · cases line <;> rfl

private theorem tokens?_withoutComments (text : List Char) :
    tokens? (withoutComments text) = plainTokens? text := by
  have kept : (lines text).filter (fun line => line.head? ≠ some '#') =
      (lines text).filter fun line => !isComment line :=
    List.filter_congr fun line _ => decide_not
  -- Whether a line is a comment does not depend on its end, so pieces can be filtered instead.
  rw [withoutComments, tokens?_joinWith, kept, plainTokens?]
  exact tokensOfLines?_filter_lines (fun _ _ ends => congrArg not (isComment_endsLine ends)) rfl text

/-- At a line feed the text can be taken apart. -/
private theorem plainTokens?_feed (before after : List Char) :
    plainTokens? (before ++ '\n' :: after) =
      Option.map₂ (· ++ ·) (plainTokens? before) (plainTokens? after) := by
  rw [plainTokens?, splitOn_append before rfl, List.filter_append, tokensOfLines?_append]
  rfl

private theorem plainTokens?_return (text : List Char) :
    plainTokens? (text ++ ['\r']) = plainTokens? text :=
  tokensOfLines?_filter_ended (fun _ _ ends => congrArg not (isComment_endsLine ends))
    (endsLine_return text)

private theorem plainTokens?_comment {remark : List Char} (short : '\n' ∉ remark) :
    plainTokens? ('#' :: remark) = some [] := by
  have passes : ∀ c ∈ '#' :: remark, isLineFeed c = false := by
    intro c member
    rcases List.mem_cons.mp member with rfl | member
    · rfl
    · exact beq_false_of_ne fun feed => short (feed ▸ member)
  rw [plainTokens?, splitOn_of_passes passes]
  rfl

/-- A line end says nothing beyond taking apart what stands around it. -/
private theorem plainTokens?_lineEnd {ending : List Char} (ends : IsLineEnd ending)
    (before after : List Char) :
    plainTokens? (before ++ ending ++ after) =
      Option.map₂ (· ++ ·) (plainTokens? before) (plainTokens? after) := by
  rcases ends with rfl | rfl
  · rw [List.append_assoc]
    exact plainTokens?_feed before after
  · have shape : before ++ ['\r', '\n'] ++ after = (before ++ ['\r']) ++ '\n' :: after := by simp
    rw [shape, plainTokens?_feed, plainTokens?_return]

/-- A comment line and what stands behind it. -/
private theorem plainTokens?_comment_line {remark ending : List Char} (short : '\n' ∉ remark)
    (ends : IsLineEnd ending) (back : List Char) :
    plainTokens? ('#' :: remark ++ ending ++ back) = plainTokens? back := by
  rw [plainTokens?_lineEnd ends, plainTokens?_comment short]
  exact Option.map₂_left_identity List.nil_append _

/-- Behind the end of a line, a text can be exchanged for one that is read alike. -/
private theorem plainTokens?_congr {front : List Char} (starts : StartsLine front)
    {one two : List Char} (alike : plainTokens? one = plainTokens? two) :
    plainTokens? (front ++ one) = plainTokens? (front ++ two) := by
  rcases starts with rfl | ⟨before, rfl⟩
  · exact alike
  · rw [List.append_assoc, List.append_assoc, List.singleton_append, List.singleton_append,
      plainTokens?_feed, plainTokens?_feed, alike]

/-- A comment line that ends the text. -/
private theorem plainTokens?_last_comment {remark ending : List Char} (short : '\n' ∉ remark)
    (ends : ending = [] ∨ IsLineEnd ending) :
    plainTokens? ('#' :: remark ++ ending) = some [] := by
  rcases ends with rfl | ends
  · rw [List.append_nil, plainTokens?_comment short]
  · have whole := plainTokens?_comment_line short ends []
    rwa [List.append_nil] at whole

private theorem Commented.plainTokens?_eq {text commented : List Char}
    (comments : Commented text commented) : plainTokens? commented = plainTokens? text := by
  -- The comments come in one by one, and none of them changes the tokens.
  induction comments with
  | bare => rfl
  | line remark ending _ starts short ends ih =>
    rw [← ih, List.append_assoc]
    exact plainTokens?_congr starts (plainTokens?_comment_line short ends _)
  | @last front opening remark ending _ opens short ends ih =>
    rw [← ih]
    have none := plainTokens?_last_comment short ends
    -- The comment stands where a line begins, or its own line has to be opened first.
    rcases opens with ⟨starts, rfl⟩ | ⟨_, opens⟩
    · have same := plainTokens?_congr starts (none.trans (rfl : _ = plainTokens? []))
      rwa [List.append_nil] at same ⊢
    · rw [plainTokens?_lineEnd opens, none]
      exact Option.map₂_right_identity List.append_nil _

/-! ### Presets -/

private theorem presetsOfText?_congr {one two : List Char} (alike : tokens? one = tokens? two) :
    presetsOfText? one = presetsOfText? two := by
  rw [presetsOfText?, presetsOfText?, readWith, readWith, Json.ofText?, Json.ofText?, alike]

private theorem withoutComments_of_plain {text : List Char}
    (plain : ∀ line ∈ lines text, line.head? ≠ some '#') :
    withoutComments text = joinWith ['\n'] (lines text) := by
  rw [withoutComments, List.filter_eq_self.mpr]
  simpa using plain

/-- Ending each line with a feed, and the last one with nothing, changes no presets. -/
private theorem presetsOfText?_joinWith_lines (text : List Char) :
    presetsOfText? (joinWith ['\n'] (lines text)) = presetsOfText? text :=
  presetsOfText?_congr ((tokens?_joinWith _).trans (tokens?_eq text).symm)

theorem decodePresets_commented {text commented : List Char}
    (plain : ∀ line ∈ lines text, line.head? ≠ some '#') (comments : Commented text commented) :
    decodePresets commented = decodeJson presetsOfText? text := by
  have alike : tokens? (withoutComments commented) = tokens? (withoutComments text) := by
    rw [tokens?_withoutComments, comments.plainTokens?_eq, tokens?_withoutComments]
  rw [decodePresets, decodeJson, presetsOfText?_congr alike, withoutComments_of_plain plain,
    presetsOfText?_joinWith_lines, decodeJson]

/-- Presets with comment lines among them are loaded as what stands there without the comments, and if
that is no document of presets the comments do not make it one. Without comments, too, it does not
matter how the lines end and whether the last one does. -/
theorem run_loadPresets_commented {layout : Layout} {volume : Volume} {text commented : List Char}
    (plain : ∀ line ∈ lines text, line.head? ≠ some '#') (comments : Commented text commented)
    (reads : volume.Reads layout.presets)
    (there : volume.fileAt? layout.presets = some (contentOf commented)) :
    (loadPresets layout : ExceptT ArchiveError (StateM Volume) (Table Preset)).run.run volume =
        pure ((presetsOfText? text).elim (.error ⟨layout.presets, .json⟩) .ok, volume.counted) ∧
      ∀ text, presetsOfText? (joinWith ['\n'] (lines text)) = presetsOfText? text := by
  refine ⟨?_, presetsOfText?_joinWith_lines⟩
  rw [loadPresets, run_load, Volume.answer_of_fileAt? reads there, contentOf, loadedFrom_toUTF8,
    decodePresets_commented plain comments, decodeJson]
  cases presetsOfText? text <;> rfl

/-- Someone is on leave until the end of June; this is written over two lines. -/
def leaveLines : List Char × List Char :=
  ("\x7b\"long@example.com\": \x7b\"statusAM\": \"leave\",\r\n".toList,
    "\"dateFrom\": \"2024/03/01\", \"dateTo\": \"2024/06/30\"\x7d\x7d".toList)

/-- The leave with a remark before it, one between its lines and one behind it. -/
def remarkedLeave : List Char :=
  "# long-term leave\n".toList ++ leaveLines.1 ++ "# keep until the end of June\r\n".toList ++
    leaveLines.2 ++ "\n# \x7b".toList

private theorem commented_leave : Commented (leaveLines.1 ++ leaveLines.2) remarkedLeave := by
  have first : Commented (leaveLines.1 ++ leaveLines.2)
      (([] ++ "# long-term leave\n".toList ++ leaveLines.1) ++ leaveLines.2) :=
    @Commented.line _ [] (leaveLines.1 ++ leaveLines.2) " long-term leave".toList ['\n']
      .bare (.inl rfl) (by decide) (.inl rfl)
  have second := first.line " keep until the end of June".toList ['\r', '\n']
    (.inr ⟨"# long-term leave\n".toList ++ leaveLines.1.dropLast, rfl⟩) (by decide) (.inr rfl)
  refine second.last ['\n'] " \x7b".toList [] (.inr ⟨?_, .inl rfl⟩) (by decide) (.inl rfl)
  -- The presets end with a bracket, so their last line has no end.
  rintro (empty | ⟨before, shape⟩)
  · cases empty
  · have last := congrArg List.getLast? shape
    rw [List.getLast?_concat] at last
    exact absurd last (by decide)

theorem run_loadPresets_commented_of_leave :
    ∃ volume : Volume, volume.Reads (Layout.below "").presets ∧
      volume.fileAt? (Layout.below "").presets = some (contentOf remarkedLeave) ∧
      (∀ line ∈ lines (leaveLines.1 ++ leaveLines.2), line.head? ≠ some '#') ∧
      Commented (leaveLines.1 ++ leaveLines.2) remarkedLeave ∧
      (loadPresets (.below "") : ExceptT ArchiveError (StateM Volume) (Table Preset)).run.run volume =
        pure (.ok (Table.empty.insert "long@example.com"
          ⟨{ Person.blank with morning := .leave }, "2024/03/01", "2024/06/30"⟩), volume.counted) := by
  let tree : Tree := (Tree.empty.insert "state" .directory).insert (Layout.below "").presets
    (.file (contentOf remarkedLeave))
  have reads : (Volume.ofTree tree).Reads (Layout.below "").presets := fun _ => rfl
  have there : (Volume.ofTree tree).fileAt? (Layout.below "").presets =
      some (contentOf remarkedLeave) := by
    have around : Tree.around (Layout.below "").presets = ["state"] := by decide +kernel
    have apart : "state" ≠ (Layout.below "").presets := by decide +kernel
    refine Tree.fileAt?_eq_some.mpr ⟨?_, by decide +kernel, ?_⟩
    · rw [around, List.forall_mem_singleton]
      change tree.find? "state" = some .directory
      simp [tree, apart]
    · change tree.find? _ = _
      simp [tree]
  have plain : ∀ line ∈ lines (leaveLines.1 ++ leaveLines.2), line.head? ≠ some '#' := by
    decide +kernel
  refine ⟨.ofTree tree, reads, there, plain, commented_leave, ?_⟩
  have presets : presetsOfText? (leaveLines.1 ++ leaveLines.2) = some (Table.empty.insert
      "long@example.com" ⟨{ Person.blank with morning := .leave }, "2024/03/01", "2024/06/30"⟩) := by
    decide +kernel
  have loaded := (run_loadPresets_commented plain commented_leave reads there).1
  rwa [presets] at loaded

end Whereabouts.Archive
