import Whereabouts.Mail.Interpretation
import Whereabouts.Proofs.Archive.Forms
import Whereabouts.Proofs.Notices.Filed
/-!
# What mail changes

## Main result

`interpret_leaves`: a table that a message does not report as changed is the same as before, and the
board can still be stored and loaded as it is.

## Strategy

A board can be stored if all instants in it are of the calendar and loading would drop none of its
notices. Whatever one request does is one change of the roster and at most one of another table.
-/
namespace Whereabouts

open Whereabouts.Calendar

/-! ### Notices that can be stored -/

namespace Grouped

/-- Nothing is dropped of a pruned view if every notice is kept. -/
private theorem keep_eq_self {keeps : Notice → Bool} {grouped : Grouped}
    (all : grouped.Everywhere fun _ _ notice => keeps notice = true) (pruned : grouped.Pruned) :
    grouped.keep keeps = grouped := by
  refine Pruned.eq_of_filed (.keep keeps grouped) pruned fun reporter subject => ?_
  rw [filedBy?_keep_getD]
  cases filed : grouped.filedBy? reporter subject with
  | none => rfl
  | some notices => exact List.filter_eq_self.mpr (all reporter subject notices filed)

end Grouped

namespace NoticeIndex

open Grouped

/-- Whether the index is loaded again from its grouped view. -/
structure Storable (index : NoticeIndex) : Prop where
  views : index = ofGrouped index.grouped
  valid : index.grouped.Everywhere fun _ _ notice => notice.isValid = true
  pruned : index.grouped.Pruned
  inCalendar : index.grouped.InCalendar

variable {index : NoticeIndex}

theorem Storable.load (storable : index.Storable) : (load index.grouped).1 = index := by
  rw [NoticeIndex.load, keep_eq_self storable.valid storable.pruned]
  exact storable.views.symm

theorem storable_load {stored : Grouped} (inside : stored.InCalendar) :
    (NoticeIndex.load stored).1.Storable where
  views := rfl
  valid := inside.keep fun _ _ _ _ valid => valid
  pruned := .keep Notice.isValid stored
  inCalendar := inside.keep fun _ _ _ inside _ => inside

/-- An index stays storable, if what is registered was reported at an instant of the calendar. -/
theorem Storable.change (storable : index.Storable) (step : Change)
    (inside : ∀ notice, step = .register notice → notice.reportedAt.InCalendar) :
    (index.change step).Storable := by
  have changed := index.changed_change step
  generalize index.change step = index' at changed ⊢
  obtain ⟨views, valid, pruned, inCalendar⟩ := storable
  cases changed with
  | refused => exact ⟨views, valid, pruned, inCalendar⟩
  | registered isValid =>
    exact ⟨rfl, valid.add isValid, pruned.add _, inCalendar.add (inside _ rfl)⟩
  | withdrawn found =>
    exact ⟨rfl, valid.withdraw found, pruned.withdraw found, inCalendar.withdraw found⟩
  | collected reference =>
    exact ⟨rfl, valid.keep fun _ _ _ valid _ => valid, .keep _ _,
      inCalendar.keep fun _ _ _ inside _ => inside⟩

/-- A notice that was refused changed nothing, and neither did a withdrawal of nothing. -/
private theorem register_of_refused {notice : Notice}
    (refused : (index.register notice).2 = false) :
    (index.register notice).1 = index := by
  rw [NoticeIndex.register] at refused ⊢
  split at refused <;> simp_all

private theorem reset_of_nothing {reporter subject : String}
    (nothing : (index.reset reporter subject).2 = false) :
    (index.reset reporter subject).1 = index := by
  rw [NoticeIndex.reset] at nothing ⊢
  split at nothing <;> simp_all

end NoticeIndex

/-! ### Rosters -/

namespace Roster

variable {roster : Roster}

private theorem InCalendar.alter (inside : roster.InCalendar) {address : String}
    {change : Option Person → Option Person}
    (changed : ∀ person, change (roster.find? address) = some person → person.InCalendar) :
    Roster.InCalendar (Table.alter roster address change) := by
  intro other person found
  rw [Table.find?_alter] at found
  split at found
  · exact changed person found
  · exact inside other person found

/-- What each preset that holds keeps, seeding keeps. -/
private theorem seed_induction {motive : Roster → Prop} {presets : Table Preset} {now : Instant}
    (start : motive roster)
    (step : ∀ roster account preset, motive roster → presets.find? account = some preset →
      preset.holdsAt now = .ok true → motive (roster.insert account preset.person)) :
    motive (roster.seed presets now).1 := by
  refine List.foldlRecOn (motive := fun seeded : Roster × Seeding => motive seeded.1) presets.entries
    (seedOne now) start ?_
  intro seeded holds entry listed
  rw [seedOne]
  split
  next active => exact step seeded.1 entry.1 entry.2 holds (Table.find?_eq_some.mpr listed) active
  -- A preset that does not hold, or cannot be understood, is passed over.
  · exact holds
  · exact holds

theorem InCalendar.seed (inside : roster.InCalendar) {presets : Table Preset}
    (insidePresets : ∀ account preset, presets.find? account = some preset → preset.person.InCalendar)
    (now : Instant) : Roster.InCalendar (roster.seed presets now).1 := by
  refine seed_induction inside fun roster account preset inside found _ => ?_
  refine inside.alter fun person same => ?_
  cases same
  exact insidePresets account preset found

/-- Presets that do not hold leave the roster as it is. -/
theorem seed_of_inactive {presets : Table Preset} {now : Instant}
    (inactive : ∀ account preset, presets.find? account = some preset →
      preset.holdsAt now ≠ .ok true) : (roster.seed presets now).1 = roster := by
  refine seed_induction (motive := fun seeded => seeded = roster) rfl ?_
  intro seeded account preset _ found holds
  exact absurd holds (inactive account preset found)

/-- The records of the presets that hold. -/
def inForce (presets : Table Preset) (now : Instant) : Roster :=
  presets.filterMap fun _ preset =>
    if preset.holdsAt now = .ok true then some preset.person else none

/-- A preset holds strictly within its window, and only if that can be understood. -/
theorem find?_inForce {presets : Table Preset} {now : Instant} {account : String} {person : Person} :
    (inForce presets now).find? account = some person ↔
      ∃ preset first last, presets.find? account = some preset ∧
        preset.window = .ok (first, last) ∧ first < now ∧ now < last ∧ preset.person = person := by
  have holds (preset : Preset) : preset.holdsAt now = .ok true ↔
      ∃ first last, preset.window = .ok (first, last) ∧ first < now ∧ now < last := by
    rw [Preset.holdsAt]
    cases preset.window with
    | error => simp [bind, Except.bind]
    | ok window => simp [bind, Except.bind, pure, Except.pure, Prod.ext_iff]
  simp only [inForce, Table.find?_filterMap, Option.bind_eq_some_iff, Option.ite_none_right_eq_some,
    holds, Option.some.injEq]
  constructor
  · rintro ⟨preset, found, ⟨first, last, window, after, before⟩, same⟩
    exact ⟨preset, first, last, found, window, after, before, same⟩
  · rintro ⟨preset, first, last, found, window, after, before, same⟩
    exact ⟨preset, found, ⟨first, last, window, after, before⟩, same⟩

/-- Seeding inserts the records of the presets that hold, one after the other. -/
private theorem foldl_seedOne (now : Instant) (entries : List (String × Preset))
    (seeded : Roster × Seeding) :
    (entries.foldl (seedOne now) seeded).1 =
      (Table.mapEntries (fun _ preset =>
          if preset.holdsAt now = .ok true then some preset.person else none) entries).foldl
        (fun table entry => table.insert entry.1 entry.2) seeded.1 := by
  induction entries generalizing seeded with
  | nil => rfl
  | cons entry entries ih =>
    rw [List.foldl_cons, ih, Table.mapEntries, Table.mapEntries, List.filterMap_cons]
    by_cases active : entry.2.holdsAt now = .ok true
    · simp [seedOne, active]
    · have passed : (seedOne now seeded entry).1 = seeded.1 := by
        rw [seedOne]
        split
        next holds => exact absurd holds active
        · rfl
        · rfl
      simp [passed, active]

/-- Without records to begin with, the records are just those of the presets that hold. -/
theorem seed_empty (presets : Table Preset) (now : Instant) :
    (Roster.seed .empty presets now).1 = inForce presets now := by
  rw [seed, foldl_seedOne]
  exact Table.ofList_entries (inForce presets now)

end Roster

private theorem Person.InCalendar.heardFrom {received : Instant} (inside : received.InCalendar)
    {person? : Option Person} (before : ∀ person ∈ person?, person.InCalendar) :
    (Person.heardFrom received person?).InCalendar := by
  cases person? with
  | none => exact ⟨fun moment same => by cases same; exact inside, nofun⟩
  | some person =>
    exact ⟨(before person rfl).first, fun moment same => by cases same; exact inside⟩

/-! ### Boards -/

structure Board.Storable (board : Board) : Prop where
  notices : board.notices.Storable
  roster : board.roster.InCalendar

namespace Mail

/-- The tables that an outcome reports as changed. -/
def Outcome.changes : Outcome → Changes
  | .applied _ _ changes => changes
  | .ignored | .rejected _ _ => .none

/-- The board can still be stored, and a table not reported as changed is the same. -/
structure Leaves (before after : Board) (changes : Changes) : Prop where
  storable : after.Storable
  notices : changes.notices = false → after.notices = before.notices
  alternates : changes.alternates = false → after.alternates = before.alternates

variable {board : Board} {sender : String} {received : Instant}

/-- The fields that a letter can set say nothing of when anything was received. -/
private theorem setField_received (person : Person) (line : List Char) :
    (setField person line).firstReceived = person.firstReceived ∧
      (setField person line).lastReceived = person.lastReceived := by
  rw [setField]
  split <;> exact ⟨rfl, rfl⟩

private theorem foldl_setField_received (fields : List (List Char)) (person : Person) :
    (fields.foldl setField person).firstReceived = person.firstReceived ∧
      (fields.foldl setField person).lastReceived = person.lastReceived := by
  induction fields generalizing person with
  | nil => exact ⟨rfl, rfl⟩
  | cons line fields ih =>
    obtain ⟨first, last⟩ := setField_received person line
    exact ⟨(ih _).1.trans first, (ih _).2.trans last⟩

private theorem setFinished_received (finished? : Option Bool) (person : Person) :
    (setFinished finished? person).firstReceived = person.firstReceived ∧
      (setFinished finished? person).lastReceived = person.lastReceived := by
  cases finished? <;> exact ⟨rfl, rfl⟩

private theorem updateSender_leaves (storable : board.Storable) (inside : received.InCalendar)
    {change : Person → Person}
    (keeps : ∀ person, (change person).firstReceived = person.firstReceived ∧
      (change person).lastReceived = person.lastReceived) :
    Leaves board (updateSender board sender received change) .none where
  storable.notices := storable.notices
  storable.roster := by
    refine storable.roster.alter fun person same => ?_
    cases same
    have heard : (Person.heardFrom received (board.roster.find? sender)).InCalendar :=
      .heardFrom inside fun person found => storable.roster sender person found
    obtain ⟨first, last⟩ := keeps (Person.heardFrom received (board.roster.find? sender))
    constructor
    · rw [first]
      exact heard.first
    · rw [last]
      exact heard.last
  notices _ := rfl
  alternates _ := rfl

private theorem declareDay_leaves (storable : board.Storable) (inside : received.InCalendar)
    (fields : List (List Char)) (finished? : Option Bool) :
    Leaves board (declareDay board sender received fields finished?).1
      (declareDay board sender received fields finished?).2 := by
  have declared : Leaves board (updateSender board sender received fun person =>
      setFinished finished? (fields.foldl setField person)) .none :=
    updateSender_leaves storable inside fun person =>
      ⟨(setFinished_received _ _).1.trans (foldl_setField_received fields person).1,
        (setFinished_received _ _).2.trans (foldl_setField_received fields person).2⟩
  rw [declareDay]
  split
  · exact declared
  · exact ⟨⟨declared.storable.notices, declared.storable.roster⟩, fun _ => rfl, nofun⟩

/-- A notice is reported when the letter that files it was sent. -/
private theorem fileNotice_leaves (storable : board.Storable) (inside : received.InCalendar)
    (fields : List (List Char)) :
    Leaves board (fileNotice board sender received fields).1
      (fileNotice board sender received fields).2 where
  storable := by
    refine ⟨storable.notices.change (.register _) ?_, storable.roster⟩
    rintro _ ⟨rfl⟩
    exact inside
  notices := NoticeIndex.register_of_refused
  alternates _ := rfl

private theorem withdrawNotices_leaves (storable : board.Storable) (fields : List (List Char)) :
    Leaves board (withdrawNotices board sender fields).1 (withdrawNotices board sender fields).2 := by
  rw [withdrawNotices]
  split
  · exact ⟨storable, fun _ => rfl, fun _ => rfl⟩
  · exact ⟨⟨storable.notices.change (.reset _ _) nofun, storable.roster⟩, NoticeIndex.reset_of_nothing, fun _ => rfl⟩

/-- A change of the roster comes before any other change. -/
private theorem Leaves.after {first middle last : Board} {changes : Changes}
    (roster : Leaves first middle .none) (other : Leaves middle last changes) :
    Leaves first last changes :=
  ⟨other.storable, fun unchanged => (other.notices unchanged).trans (roster.notices rfl),
    fun unchanged => (other.alternates unchanged).trans (roster.alternates rfl)⟩

private theorem applyRequest_leaves (storable : board.Storable) (inside : received.InCalendar)
    (request : Request) :
    Leaves board (applyRequest board sender received request).1
      (applyRequest board sender received request).2 := by
  -- Every request is heard first, whatever else it does.
  have heard : Leaves board (updateSender board sender received id) .none :=
    updateSender_leaves storable inside fun _ => ⟨rfl, rfl⟩
  rw [applyRequest]
  cases request.command with
  | start => exact declareDay_leaves storable inside request.fields _
  | finish => exact declareDay_leaves storable inside request.fields _
  | fix => exact declareDay_leaves storable inside request.fields _
  | clear => exact updateSender_leaves storable inside fun _ => ⟨rfl, rfl⟩
  | reportAbsence => exact heard.after (fileNotice_leaves heard.storable inside request.fields)
  | withdrawAbsence => exact heard.after (withdrawNotices_leaves heard.storable request.fields)
  | nothing => exact heard

theorem interpret_leaves (storable : board.Storable) {message : Message}
    (inside : message.sentAt.InCalendar) :
    Leaves board (interpret board message).1 (interpret board message).2.changes := by
  rw [interpret]
  split
  · exact ⟨storable, fun _ => rfl, fun _ => rfl⟩
  · exact ⟨storable, fun _ => rfl, fun _ => rfl⟩
  · exact applyRequest_leaves storable inside _

end Mail

end Whereabouts
