import Whereabouts.Proofs.Mail.LineBreaks
/-!
# Bodies of given lines

A body may have its lines in any layout: each line has line breaks behind it, of whatever kind and
however many, and the last one may have none. All that a body of these lines asks for is told by the
lines, in the code points that are chosen for the charset.

## Strategy

1. Choosing code points makes no line break and takes none away, so it goes line by line.
2. A line without breaks is found where it stands, and a run of breaks opens no line of its own.
3. A marker on the first line that is confirmed by the second one is found at once.
-/
namespace Whereabouts.Mail

open Whereabouts.Text Request

/-! ### Code points -/

private theorem isBlank_unifyChar (c : Char) : isBlank (unifyChar c) = isBlank c := by
  unfold unifyChar
  split <;> rfl

theorem unify_append (text text' : List Char) : unify (text ++ text') = unify text ++ unify text' :=
  List.map_append

private theorem trimStart_unify (line : List Char) :
    trimStart (unify line) = unify (trimStart line) := by
  have same : isBlank ∘ unifyChar = isBlank := funext isBlank_unifyChar
  rw [trimStart, unify, List.dropWhile_map, same]
  rfl

theorem unify_label (label : Label) : unify label.text.toList = label.text.toList := by
  cases label <;> decide

/-- What is a field in either spelling is one in the chosen spelling. -/
private theorem accepts_unify {command : Command} {line : List Char}
    (accepts : command.accepts line = true) :
    command.accepts (unify line) = true := by
  obtain ⟨label, listed, opens⟩ := accepts_iff.mp accepts
  refine accepts_iff.mpr ⟨label, listed, ?_⟩
  rw [trimStart_unify, ← unify_label label]
  exact opens.map unifyChar

/-! ### Layouts -/

/-- A line as it can stand in a body. -/
structure IsLine (line : List Char) : Prop where
  written : line ≠ []
  short : ∀ c ∈ line, isLineBreak c = false

instance (line : List Char) : Decidable (IsLine line) :=
  decidable_of_iff (line ≠ [] ∧ line.any isLineBreak = false)
    ⟨fun ⟨written, short⟩ => ⟨written, by simpa using short⟩,
      fun ⟨written, short⟩ => ⟨written, by simpa using short⟩⟩

private theorem IsLine.unify {line : List Char} (isLine : IsLine line) : IsLine (unify line) where
  written := by simpa [Mail.unify] using isLine.written
  short := by
    intro c member
    obtain ⟨letter, inside, rfl⟩ := List.mem_map.mp member
    rw [isLineBreak_unifyChar]
    exact isLine.short letter inside

/-- The body has these lines, with line breaks between each two and perhaps behind the last. -/
inductive LaidOut : (lines : List (List Char)) → (body : List Char) → Prop
  | last (line : List Char) {breaks : List Char} (all : ∀ c ∈ breaks, isLineBreak c = true) :
      LaidOut [line] (line ++ breaks)
  | line (line : List Char) {breaks : List Char} (some : breaks ≠ [])
      (all : ∀ c ∈ breaks, isLineBreak c = true) {lines : List (List Char)} {body : List Char}
      (more : LaidOut lines body) : LaidOut (line :: lines) (line ++ (breaks ++ body))

section Layout

variable {lines : List (List Char)} {body : List Char}

private theorem LaidOut.unify (laidOut : LaidOut lines body) :
    LaidOut (lines.map unify) (unify body) := by
  have unified {breaks : List Char} (all : ∀ c ∈ breaks, isLineBreak c = true) :
      ∀ c ∈ Mail.unify breaks, isLineBreak c = true := by
    intro c member
    obtain ⟨letter, inside, rfl⟩ := List.mem_map.mp member
    rw [isLineBreak_unifyChar]
    exact all letter inside
  induction laidOut with
  | last line all =>
    rw [unify_append]
    exact .last (Mail.unify line) (unified all)
  | line line some all more ih =>
    rw [unify_append, unify_append]
    exact .line (Mail.unify line) (by simpa [Mail.unify] using some) (unified all) ih

private theorem linesOf_append_keep {line : List Char} (short : ∀ c ∈ line, isLineBreak c = false)
    {first : List Char} {rest : List (List Char)} (lines : linesOf body = first :: rest) :
    linesOf (line ++ body) = (line ++ first) :: rest := by
  induction line with
  | nil => exact lines
  | cons c line ih =>
    obtain ⟨here, short⟩ := List.forall_mem_cons.mp short
    exact linesOf_keep here (ih short)

/-- Breaks before lines that are all written end whatever stands before them and do nothing else. -/
private theorem linesOf_breaks_append {breaks : List Char} (some : breaks ≠ [])
    (all : ∀ c ∈ breaks, isLineBreak c = true)
    (written : ∀ line ∈ linesOf body, isWritten line = true) :
    linesOf (breaks ++ body) = [] :: linesOf body := by
  have kept {breaks : List Char} (all : ∀ c ∈ breaks, isLineBreak c = true) :
      (linesOf (breaks ++ body)).filter isWritten = linesOf body := by
    induction breaks with
    | nil => exact List.filter_eq_self.mpr written
    | cons next breaks ih =>
      obtain ⟨here, later⟩ := List.forall_mem_cons.mp all
      rw [List.cons_append, linesOf_break here, List.filter_cons_of_neg Bool.false_ne_true,
        List.filter_filter]
      simpa only [Bool.and_self] using ih later
  -- The first break ends the line before it; the others would only make empty lines.
  obtain ⟨c, breaks, rfl⟩ := List.exists_cons_of_ne_nil some
  obtain ⟨here, later⟩ := List.forall_mem_cons.mp all
  rw [List.cons_append, linesOf_break here, kept later]

private theorem LaidOut.linesOf_eq (laidOut : LaidOut lines body)
    (isLine : ∀ line ∈ lines, IsLine line) :
    linesOf body = lines := by
  induction laidOut with
  | last line all =>
    have short := (isLine line List.mem_cons_self).short
    rw [linesOf_append_breaks line all, linesOf, splitOn_of_passes short]
    rfl
  | line line some all more ih =>
    obtain ⟨here, isLine⟩ := List.forall_mem_cons.mp isLine
    have lines := ih isLine
    have written : ∀ line ∈ linesOf _, isWritten line = true := fun line member => by
      rw [lines] at member
      simpa [isWritten] using (isLine line member).written
    rw [linesOf_append_keep here.short (linesOf_breaks_append some all written), lines,
      List.append_nil]

private theorem LaidOut.bodyLines_eq (laidOut : LaidOut lines body)
    (isLine : ∀ line ∈ lines, IsLine line) :
    bodyLines body = lines.map Mail.unify := by
  rw [Mail.bodyLines_eq]
  apply laidOut.unify.linesOf_eq
  intro line member
  obtain ⟨spelt, listed, rfl⟩ := List.mem_map.mp member
  exact (isLine spelt listed).unify

end Layout

/-- The body of a marker and these lines, with a feed between each two. -/
def bodyOf (marker : String) (fields : List (List Char)) : String :=
  String.ofList (joinWith ['\n'] (marker.toList :: fields))

theorem laidOut_bodyOf (marker : String) (fields : List (List Char)) :
    LaidOut (marker.toList :: fields) (bodyOf marker fields).toList := by
  rw [bodyOf, String.toList_ofList]
  generalize marker.toList = line
  induction fields generalizing line with
  | nil =>
    have last : LaidOut [line] (line ++ []) := .last line nofun
    rwa [List.append_nil] at last
  | cons next fields ih =>
    have whole := LaidOut.line line (show ['\n'] ≠ [] by decide) (by simp [isLineBreak]) (ih next)
    rwa [← List.append_assoc] at whole

/-! ### Requests -/

/-- Every marker is a line, and by itself it is read as its command. -/
private theorem marker_isLine {marker : String} {command : Command}
    (listed : (marker, command) ∈ Command.markers) :
    IsLine marker.toList ∧ Command.ofLine? (unify marker.toList) = some command := by
  have each : ∀ known ∈ Command.markers, IsLine known.1.toList ∧
      Command.ofLine? (unify known.1.toList) = some known.2 := by decide
  exact each _ listed

/-- A marker that is confirmed at once makes the request, with all lines behind it as its fields. -/
theorem ofBody_of_confirmed {marker : String} {command : Command}
    (listed : (marker, command) ∈ Command.markers) (noClear : command ≠ .clear)
    {first : List Char} {rest : List (List Char)} {body : String}
    (laidOut : LaidOut (marker.toList :: first :: rest) body.toList)
    (isLine : ∀ line ∈ first :: rest, IsLine line) (opens : command.accepts first = true) :
    Request.ofBody body = ⟨command, (first :: rest).map unify⟩ := by
  obtain ⟨markerIsLine, marks⟩ := marker_isLine listed
  have confirmed : isConfirmed command ((first :: rest).map unify) = true := accepts_unify opens
  rw [Request.ofBody, laidOut.bodyLines_eq (List.forall_mem_cons.mpr ⟨markerIsLine, isLine⟩),
    List.map_cons, ofLines, if_neg, seek, marks]
  · cases command with
    | clear => exact absurd rfl noClear
    | start | finish | fix | reportAbsence | withdrawAbsence | nothing => exact if_pos confirmed
  · -- Only a clear would count on the first line by itself.
    rw [List.head?_cons, Option.bind_some, marks]
    simpa using noClear

end Whereabouts.Mail
