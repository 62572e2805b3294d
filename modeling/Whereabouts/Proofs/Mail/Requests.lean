import Mathlib.Data.List.Infix
import Whereabouts.Mail.Request
import Whereabouts.Proofs.Text.Find
/-!
# Which request a body makes

## Main result

`ofBody_eq_iff`: a body asks for what its lines ask for by the rule of the first confirmed marker.
The rule speaks of all lines by their places and knows nothing of a scan.

## Strategy

The scan goes through the lines once and carries the last marker along. What it finds in the rest of
the lines is what the rule says of that rest, with the carried marker in place of nothing; each line
passed moves the places by one. The rule allows one request only, since no marker begins another.
-/
namespace Whereabouts.Mail

open Whereabouts.Text

/-! ### Lines -/

/-- The line begins with a marker of the command, blanks aside. -/
def Marks (command : Command) (line : List Char) : Prop :=
  ∃ mark, (mark, command) ∈ Command.markers ∧ mark.toList <+: trimStart line

/-- The line begins with the label of a field of the command, blanks aside. -/
def Fields (command : Command) (line : List Char) : Prop :=
  ∃ label ∈ command.labels, label.text.toList <+: trimStart line

private theorem eq_of_marker_isPrefix : ∀ one ∈ Command.markers, ∀ two ∈ Command.markers,
    one.1.toList <+: two.1.toList → one = two := by
  decide

/-- Two markers that begin one line begin each other. -/
private theorem Marks.unique {one two : Command} {line : List Char} (marks : Marks one line)
    (marks' : Marks two line) : one = two := by
  obtain ⟨mark, member, opens⟩ := marks
  obtain ⟨mark', member', opens'⟩ := marks'
  -- Of two beginnings of one line one begins the other.
  rcases List.prefix_or_prefix_of_prefix opens opens' with first | second
  · exact congrArg Prod.snd (eq_of_marker_isPrefix _ member _ member' first)
  · exact (congrArg Prod.snd (eq_of_marker_isPrefix _ member' _ member second)).symm

private theorem ofLine?_eq_some {command : Command} {line : List Char} :
    Command.ofLine? line = some command ↔ Marks command line := by
  have sound {command : Command} (found : Command.ofLine? line = some command) :
      Marks command line := by
    obtain ⟨⟨mark, _⟩, first, rfl⟩ := Option.map_eq_some_iff.mp found
    exact ⟨mark, List.mem_of_find?_eq_some first,
      startsWith_iff.mp (by simpa using List.find?_some first)⟩
  refine ⟨sound, fun marks => ?_⟩
  -- The first marker found may be another one, but no line has markers of two commands.
  cases found : Command.ofLine? line with
  | some other => rw [(sound found).unique marks]
  | none =>
    obtain ⟨mark, member, opens⟩ := marks
    have passed := List.find?_eq_none.mp (Option.map_eq_none_iff.mp found) _ member
    exact absurd (startsWith_iff.mpr opens) passed

private theorem readField?_isSome {labels : List Label} {line : List Char} :
    (readField? labels line).isSome = true ↔
      ∃ label ∈ labels, label.text.toList <+: trimStart line := by
  induction labels with
  | nil => simp [readField?]
  | cons label labels ih =>
    rw [readField?, List.exists_mem_cons_iff, ← ih, ← startsWith_iff, startsWith]
    cases afterPrefix? label.text.toList (trimStart line) <;> simp

theorem accepts_iff {command : Command} {line : List Char} :
    command.accepts line = true ↔ Fields command line :=
  readField?_isSome

/-! ### Places -/

/-- There is a line at the place, and it begins with a marker that counts anywhere. -/
def MarkedAt (lines : List (List Char)) (place : Nat) (command : Command) : Prop :=
  command ≠ .clear ∧ ∃ line, lines[place]? = some line ∧ Marks command line

/-- The place is marked, and the line after it is a field of the command. -/
def ConfirmedAt (lines : List (List Char)) (place : Nat) (command : Command) : Prop :=
  MarkedAt lines place command ∧ ∃ line, lines[place + 1]? = some line ∧ Fields command line

/-- The first line begins with the marker of a clear. -/
def ClearsFirst (lines : List (List Char)) : Prop :=
  ∃ line, lines[0]? = some line ∧ Marks .clear line

private theorem MarkedAt.unique {lines : List (List Char)} {place : Nat} {one two : Command}
    (marked : MarkedAt lines place one) (marked' : MarkedAt lines place two) : one = two := by
  obtain ⟨_, line, here, marks⟩ := marked
  obtain ⟨_, line', here', marks'⟩ := marked'
  cases here.symm.trans here'
  exact marks.unique marks'

section Step

variable {line : List Char} {rest : List (List Char)} {command : Command}

private theorem markedAt_zero :
    MarkedAt (line :: rest) 0 command ↔ command ≠ .clear ∧ Marks command line := by
  simp [MarkedAt]

private theorem confirmedAt_zero : ConfirmedAt (line :: rest) 0 command ↔
    (command ≠ .clear ∧ Marks command line) ∧ Request.isConfirmed command rest = true := by
  rw [ConfirmedAt, markedAt_zero]
  refine and_congr_right fun _ => ?_
  cases rest with
  | nil => simp [Request.isConfirmed]
  | cons next _ => simp [Request.isConfirmed, accepts_iff]

private theorem clearsFirst_cons : ClearsFirst (line :: rest) ↔ Marks .clear line := by
  simp [ClearsFirst]

end Step

/-! ### The rule -/

/-- What lines ask for when there is no clear, if `last` stands for a marker before all of them. -/
inductive Finds (last : Command) (lines : List (List Char)) : Request → Prop
  | confirmed (place : Nat) (command : Command) (here : ConfirmedAt lines place command)
      (first : ∀ earlier < place, ∀ other, ¬ ConfirmedAt lines earlier other) :
      Finds last lines ⟨command, lines.drop (place + 1)⟩
  | unconfirmed (place : Nat) (command : Command)
      (none : ∀ place other, ¬ ConfirmedAt lines place other)
      (here : MarkedAt lines place command)
      (final : ∀ later, place < later → ∀ other, ¬ MarkedAt lines later other) :
      Finds last lines ⟨command, []⟩
  | unmarked (none : ∀ place other, ¬ MarkedAt lines place other) : Finds last lines ⟨last, []⟩

/-- The rule: a clear on the first line, or else the first confirmed marker with all lines after it,
or else the last marker without fields, or else nothing. -/
inductive Asks (lines : List (List Char)) : Request → Prop
  | clear (first : ClearsFirst lines) : Asks lines ⟨.clear, []⟩
  | request {request : Request} (noClear : ¬ ClearsFirst lines)
      (finds : Finds .nothing lines request) : Asks lines request

private theorem Finds.unique {last : Command} {lines : List (List Char)} {one two : Request}
    (finds : Finds last lines one) (finds' : Finds last lines two) : one = two := by
  cases finds with
  | confirmed place command here first =>
    cases finds' with
    | confirmed place' command' here' first' =>
      rcases Nat.lt_trichotomy place place' with less | rfl | greater
      · exact absurd here (first' place less command)
      · rw [here.1.unique here'.1]
      · exact absurd here' (first place' greater command')
    | unconfirmed _ _ none _ _ => exact absurd here (none place command)
    | unmarked none => exact absurd here.1 (none place command)
  | unconfirmed place command none here final =>
    cases finds' with
    | confirmed place' command' here' _ => exact absurd here' (none place' command')
    | unconfirmed place' command' _ here' final' =>
      rcases Nat.lt_trichotomy place place' with less | rfl | greater
      · exact absurd here' (final place' less command')
      · rw [here.unique here']
      · exact absurd here (final' place greater command)
    | unmarked none => exact absurd here (none place command)
  | unmarked none =>
    cases finds' with
    | confirmed place command here _ => exact absurd here.1 (none place command)
    | unconfirmed place command _ here _ => exact absurd here (none place command)
    | unmarked _ => rfl

namespace Finds

variable {last command : Command} {line : List Char} {rest : List (List Char)} {request : Request}

/-- A line without a marker changes nothing. -/
private theorem pass (finds : Finds last rest request)
    (plain : ∀ other, ¬ MarkedAt (line :: rest) 0 other) : Finds last (line :: rest) request := by
  cases finds with
  | confirmed place command here first =>
    refine .confirmed (place + 1) command here fun earlier less other confirmed => ?_
    cases earlier with
    | zero => exact plain other confirmed.1
    | succ earlier => exact first earlier (Nat.lt_of_succ_lt_succ less) other confirmed
  | unconfirmed place command none here final =>
    refine .unconfirmed (place + 1) command (fun place other confirmed => ?_) here
      fun later less other marked => ?_
    · cases place with
      | zero => exact plain other confirmed.1
      | succ place => exact none place other confirmed
    · cases later with
      | zero => omega
      | succ later => exact final later (Nat.lt_of_succ_lt_succ less) other marked
  | unmarked none =>
    refine .unmarked fun place other marked => ?_
    cases place with
    | zero => exact plain other marked
    | succ place => exact none place other marked

/-- A marker that is not confirmed takes the place of the one before it. -/
private theorem replace (finds : Finds command rest request)
    (marked : MarkedAt (line :: rest) 0 command)
    (loose : ∀ other, ¬ ConfirmedAt (line :: rest) 0 other) : Finds last (line :: rest) request := by
  have shifted (none : ∀ place other, ¬ ConfirmedAt rest place other) (place : Nat)
      (other : Command) : ¬ ConfirmedAt (line :: rest) place other := by
    cases place with
    | zero => exact loose other
    | succ place => exact none place other
  cases finds with
  | confirmed place command here first =>
    refine .confirmed (place + 1) command here fun earlier less other confirmed => ?_
    cases earlier with
    | zero => exact loose other confirmed
    | succ earlier => exact first earlier (Nat.lt_of_succ_lt_succ less) other confirmed
  | unconfirmed place command none here final =>
    refine .unconfirmed (place + 1) command (shifted none) here fun later less other marked => ?_
    cases later with
    | zero => omega
    | succ later => exact final later (Nat.lt_of_succ_lt_succ less) other marked
  | unmarked none =>
    refine .unconfirmed 0 command (shifted fun place other here => none place other here.1) marked
      fun later less other marked => ?_
    cases later with
    | zero => omega
    | succ later => exact none later other marked

end Finds

private theorem finds_seek (last : Command) (lines : List (List Char)) :
    Finds last lines (Request.seek last lines) := by
  -- By induction on the lines, for any marker that is carried along.
  induction lines generalizing last with
  | nil => exact .unmarked fun _ _ marked => by simp [MarkedAt] at marked
  | cons line rest ih =>
    have atMostOne {command : Command} (found : Command.ofLine? line = some command)
        {other : Command} (marks : Marks other line) : other = command :=
      marks.unique (ofLine?_eq_some.mp found)
    rw [Request.seek]
    split
    next found =>
      refine (ih last).pass fun other marked => ?_
      simp [ofLine?_eq_some.mpr (markedAt_zero.mp marked).2] at found
    next found =>
      refine (ih last).pass fun other marked => ?_
      obtain ⟨noClear, marks⟩ := markedAt_zero.mp marked
      exact noClear (atMostOne found marks)
    next command noClear found =>
      have marked : command ≠ .clear ∧ Marks command line :=
        ⟨noClear, ofLine?_eq_some.mp found⟩
      split
      next confirmed =>
        exact .confirmed 0 command (confirmedAt_zero.mpr ⟨marked, confirmed⟩) fun _ less => by omega
      -- The line after the marker is not passed: it may be a marker itself.
      next loose =>
        refine (ih command).replace (markedAt_zero.mpr marked) fun other here => ?_
        obtain ⟨⟨_, marks⟩, confirmed⟩ := confirmedAt_zero.mp here
        exact loose (atMostOne found marks ▸ confirmed)

private theorem bind_head?_eq_clear {lines : List (List Char)} :
    lines.head?.bind Command.ofLine? = some .clear ↔ ClearsFirst lines := by
  cases lines with
  | nil => simp [ClearsFirst]
  | cons line rest => exact ofLine?_eq_some.trans clearsFirst_cons.symm

private theorem asks_ofLines (lines : List (List Char)) : Asks lines (Request.ofLines lines) := by
  rw [Request.ofLines]
  split
  next clear => exact .clear (bind_head?_eq_clear.mp clear)
  next other =>
    have noClear : ¬ ClearsFirst lines := fun first => other (bind_head?_eq_clear.mpr first)
    exact .request noClear (finds_seek .nothing lines)

private theorem Asks.unique {lines : List (List Char)} {one two : Request} (asks : Asks lines one)
    (asks' : Asks lines two) : one = two := by
  cases asks with
  | clear first =>
    cases asks' with
    | clear _ => rfl
    | request noClear _ => exact absurd first noClear
  | request noClear finds =>
    cases asks' with
    | clear first => exact absurd first noClear
    | request _ finds' => exact finds.unique finds'

/-- Without a clear on the first line nothing is a clear, whatever later lines say. -/
private theorem Finds.command_ne_clear {lines : List (List Char)} {request : Request}
    (finds : Finds .nothing lines request) : request.command ≠ .clear := by
  cases finds with
  | confirmed _ _ here _ => exact here.1.1
  | unconfirmed _ _ _ here _ => exact here.1
  | unmarked _ => exact nofun

/-- A body makes exactly the request that its lines ask for, and it is a clear exactly if the first
line is one. -/
theorem ofBody_eq_iff (body : String) (request : Request) :
    (Request.ofBody body = request ↔ Asks (Request.bodyLines body.toList) request) ∧
    ((Request.ofBody body).command = .clear ↔ ClearsFirst (Request.bodyLines body.toList)) := by
  have asks : Asks (Request.bodyLines body.toList) (Request.ofBody body) := asks_ofLines _
  refine ⟨⟨fun same => same ▸ asks, asks.unique⟩, ?_, ?_⟩
  · intro clear
    cases found : Request.ofBody body with
    | mk command fields =>
      rw [found] at asks clear
      cases asks with
      | clear first => exact first
      | request _ finds => exact absurd clear finds.command_ne_clear
  · intro first
    rw [asks.unique (.clear first)]

end Whereabouts.Mail
