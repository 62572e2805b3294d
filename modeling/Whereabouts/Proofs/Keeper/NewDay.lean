import Whereabouts.Proofs.Archive.Places
import Whereabouts.Proofs.Keeper.Work
import Whereabouts.Proofs.Mail.Changes
import Whereabouts.Proofs.Mail.Records
import Whereabouts.Proofs.Spool
/-!
# The new day

## Main results

* `newDay_rollover`: once the day before is kept, page and roster, a rollover leaves the board of the
  new day, whatever becomes of the save that follows.
* `passed_runCycle`: all that a cycle can come to. It cannot keep the day before and does nothing else; or
  it begins a new day; or none was due, and people keep their records.

## Strategy

1. A rollover has two halves, and the point between them is where there is no way back
   (`endOf_rollover`). The first half writes two files and never changes the keeper.
2. The second half cannot fail. What can fail after it is a save, which takes marks away and nothing
   else.
3. Everything else in a cycle lets people keep their records and the keeper the date of its last
   rollover (`Onward`).
-/
namespace Whereabouts.Keeper

open Whereabouts.Archive Whereabouts.Calendar Whereabouts.Mail

/-! ### The halves of a rollover -/

def keepPage (now : Instant) (template : String) (keeper : Keeper) : Work (StateM Volume) Unit :=
  archived (Archive.publish keeper.layout (.backup now.date.previous)
    (Page.statusPage template keeper.board (keeper.settings.context now) .backup))

def keepRoster (now : Instant) (keeper : Keeper) : Work (StateM Volume) Unit :=
  archived (Archive.saveSnapshot keeper.layout now.date.previous keeper.board.roster)

/-- The day before is kept. -/
def keepDay (now : Instant) : Work (StateM Volume) Unit := do
  let template ← readTemplate
  let keeper ← get
  keepPage now template keeper
  keepRoster now keeper

/-- The board is cleared for the day. -/
def beginDay (now : Instant) : Work (StateM Volume) Unit := do
  let keeper ← get
  let board ← onDisk (reload keeper.layout now (forNewDay now keeper.board))
  let unsaved := { keeper.unsaved with notices := true }
  set (note (.rollover now.date) { keeper with board, unsaved, lastRollover := some now.date })

section Halves

variable (now : Instant) (keeper : Keeper) (volume : Volume)

/-- Reading the template changes nothing, and what is read is the text of its file. -/
theorem exists_endOf_readTemplate :
    ∃ result, endOf readTemplate keeper volume = (result, keeper, volume.counted) ∧
      ∀ template, result = .ok template →
        volume.fileAt? keeper.settings.template = some template.toUTF8 := by
  let found := (volume.answer keeper.settings.template).bind Disk.textOf
  have ends : endOf readTemplate keeper volume =
      ((found.mapError fun error => ⟨keeper.settings.template, error⟩).mapError .template, keeper,
        volume.counted) := by
    change endOf (request .template (Page.readTemplate keeper.settings.template)) keeper volume = _
    rw [endOf_request, run_readTemplate]
    rfl
  refine ⟨_, ends, fun template ok => ?_⟩
  have found : (volume.answer keeper.settings.template).bind Disk.textOf = .ok template :=
    mapError_eq_ok.mp (mapError_eq_ok.mp ok)
  cases answer : volume.answer keeper.settings.template with
  | error => simp [answer, Except.bind] at found
  | ok content =>
    rw [answer, Except.bind, Disk.textOf] at found
    split at found
    next text isText =>
      cases found
      rw [Text.toUTF8_of_fromUTF8? isText]
      exact Volume.fileAt?_of_answer answer
    · cases found

private theorem exists_endOf_archived {α : Type} (asked : ExceptT ArchiveError (StateM Volume) α) :
    ∃ result volume', endOf (archived asked) keeper volume = (result, keeper, volume') :=
  ⟨_, _, rfl⟩

theorem endOf_rollover :
    endOf (rollover now) keeper volume =
      endOf (do keepDay now; beginDay now; flush) keeper volume := by
  -- No step of the first half changes the keeper, so a second look at it finds the same.
  obtain ⟨template, endsRead, _⟩ := exists_endOf_readTemplate keeper volume
  simp only [rollover, keepDay, keepPage, keepRoster, endOf_bind, endsRead]
  cases template with
  | error => rfl
  | ok template =>
    let page := Page.statusPage template keeper.board (keeper.settings.context now) .backup
    obtain ⟨result, written, endsPage⟩ := exists_endOf_archived keeper volume.counted
      (Archive.publish keeper.layout (.backup now.date.previous) page)
    simp only [endOf_get, page] at endsPage ⊢
    rw [endsPage]
    cases result with
    | error => rfl
    | ok =>
      obtain ⟨result, kept, endsRoster⟩ := exists_endOf_archived keeper written
        (Archive.saveSnapshot keeper.layout now.date.previous keeper.board.roster)
      dsimp only
      rw [endsRoster]
      cases result with
      | error => rfl
      | ok =>
        simp only [beginDay, endOf_bind, endOf_get]
        rfl

end Halves

/-! ### The day before -/

/-- How the day before cannot be kept: the template cannot be read, or the page or the roster cannot be
written. -/
inductive KeepingFails (now : Instant) (keeper : Keeper) (volume : Volume) (error : KeeperError) : Prop
  | template {read : Volume} (unread : endOf readTemplate keeper volume = (.error error, keeper, read))
  | page {template : String} {read written : Volume}
      (isRead : endOf readTemplate keeper volume = (.ok template, keeper, read))
      (unwritten : endOf (keepPage now template keeper) keeper read = (.error error, keeper, written))
  | roster {template : String} {read written kept : Volume}
      (isRead : endOf readTemplate keeper volume = (.ok template, keeper, read))
      (isWritten : endOf (keepPage now template keeper) keeper read = (.ok (), keeper, written))
      (unkept : endOf (keepRoster now keeper) keeper written = (.error error, keeper, kept))

/-- The files in which a day is kept that is over when the next one begins. -/
def IsKept (now : Instant) (layout : Layout) (path : String) : Prop :=
  path = layout.backup now.date.previous ∨ path = layout.snapshot now.date.previous

/-- The day before is kept: the page as the template and the board have it, and the very roster. -/
structure Kept (now : Instant) (keeper : Keeper) (volume volume' : Volume) : Prop where
  page : ∃ template : String, volume.fileAt? keeper.settings.template = some template.toUTF8 ∧
    volume'.fileAt? (keeper.layout.backup now.date.previous) = some
      (Page.statusPage template keeper.board (keeper.settings.context now) .backup).toUTF8
  roster : volume'.fileAt? (keeper.layout.snapshot now.date.previous) =
    some (String.ofList (rosterText keeper.board.roster)).toUTF8

private theorem Kept.changedAt {now : Instant} {keeper : Keeper} {volume volume' volume'' : Volume}
    (kept : Kept now keeper volume volume') {touched : String → Prop}
    (changed : volume'.ChangedAt touched volume'')
    (apart : ∀ path, touched path → ¬ IsKept now keeper.layout path) :
    Kept now keeper volume volume'' where
  page := by
    obtain ⟨template, read, written⟩ := kept.page
    refine ⟨template, read, ?_⟩
    rw [changed.files _ fun touches => apart _ touches (.inl rfl), written]
  roster := by rw [changed.files _ fun touches => apart _ touches (.inr rfl), kept.roster]

theorem IsKept.not_isTable {now : Instant} {layout : Layout} {path : String}
    (isKept : IsKept now layout path) : ¬ layout.IsTable path := by
  rcases isKept with rfl | rfl
  · exact layout.not_isTable_backup _
  · exact layout.not_isTable_snapshot _

/-- No file that is kept is a plain text. -/
private theorem IsKept.ne_of_txt {now : Instant} {layout : Layout} {path other : String}
    (isKept : IsKept now layout path) (txt : ".txt".toList <:+ other.toList) : path ≠ other := by
  rcases isKept with rfl | rfl
  · have html := (List.suffix_append _ _).trans (layout.suffix_backup now.date.previous)
    exact (Path.ne_of_suffix txt html (by decide) (by decide)).symm
  · have json := (List.suffix_append _ _).trans (layout.suffix_snapshot now.date.previous)
    exact (Path.ne_of_suffix txt json (by decide) (by decide)).symm

private theorem IsKept.ne_presets {now : Instant} {layout : Layout} {path : String}
    (isKept : IsKept now layout path) : path ≠ layout.presets :=
  isKept.ne_of_txt ((show ".txt".toList <:+ "initialValue.txt".toList by decide).trans
    (Path.suffix_join _ _))

theorem IsKept.ne_managers {now : Instant} {layout : Layout} {path : String}
    (isKept : IsKept now layout path) : path ≠ layout.managers :=
  isKept.ne_of_txt ((show ".txt".toList <:+ "managers.txt".toList by decide).trans
    (Path.suffix_join _ _))

theorem IsKept.not_isMail {now : Instant} {layout : Layout} {path : String}
    (isKept : IsKept now layout path) (directory : String) : ¬ Spool.IsMail directory path := by
  rcases isKept with rfl | rfl
  · exact Spool.not_isMail_backup _ _ _
  · exact Spool.not_isMail_snapshot _ _ _

section Keeping

variable {now : Instant} {keeper : Keeper} {volume : Volume}

private theorem endOf_write (path : String) (text : List Char) (keeper : Keeper) (volume : Volume) :
    ∃ result volume', endOf (archived (Archive.write path text)) keeper volume =
        (result, keeper, volume') ∧ volume.ChangedAt (· = path) volume' ∧
      (result = .ok () → volume'.fileAt? path = some (String.ofList text).toUTF8) := by
  obtain ⟨result, volume', run, changed, written⟩ := Archive.run_write volume path text
  refine ⟨_, volume', by rw [archived, endOf_request, run]; rfl, changed, fun ok => ?_⟩
  exact written (mapError_eq_ok.mp ok)

/-- Keeping the day before never changes the keeper, and of the files at most the two it writes. -/
theorem endOf_keepDay (now : Instant) (keeper : Keeper) (volume : Volume) :
    ∃ result volume', endOf (keepDay now) keeper volume = (result, keeper, volume') ∧
      volume.ChangedAt (IsKept now keeper.layout) volume' ∧
      match result with
      | .error error => KeepingFails now keeper volume error
      | .ok () => Kept now keeper volume volume' := by
  obtain ⟨result, endsRead, isText⟩ := exists_endOf_readTemplate keeper volume
  simp only [keepDay, endOf_bind, endsRead]
  cases result with
  | error => exact ⟨_, _, rfl, .counted _ volume, .template endsRead⟩
  | ok template =>
    simp only [endOf_get]
    let html := Page.statusPage template keeper.board (keeper.settings.context now) .backup
    obtain ⟨result, written, endsPage, changedPage, page⟩ :=
      endOf_write (keeper.layout.backup now.date.previous) html.toList keeper volume.counted
    have endsPage : endOf (keepPage now template keeper) keeper volume.counted =
        (result, keeper, written) := endsPage
    have changed : volume.ChangedAt (IsKept now keeper.layout) written :=
      (Volume.ChangedAt.counted _ volume).trans (changedPage.mono fun _ same => .inl same)
    rw [endsPage]
    cases result with
    | error => exact ⟨_, _, rfl, changed, .page endsRead endsPage⟩
    | ok =>
      obtain ⟨result, kept, endsRoster, changedRoster, roster⟩ :=
        endOf_write (keeper.layout.snapshot now.date.previous) (rosterText keeper.board.roster) keeper
          written
      have endsRoster : endOf (keepRoster now keeper) keeper written = (result, keeper, kept) :=
        endsRoster
      have changed := changed.trans (changedRoster.mono fun _ same => .inr same)
      dsimp only
      rw [endsRoster]
      refine ⟨_, _, rfl, changed, ?_⟩
      cases result with
      | error => exact .roster endsRead endsPage endsRoster
      | ok =>
        refine ⟨⟨template, isText template rfl, ?_⟩, roster rfl⟩
        -- The roster is written to another file than the page.
        rw [changedRoster.files _ (Layout.backup_ne_snapshot _ _ _), page rfl, String.ofList_toList]

/-- A day that cannot be kept is not: the failure is the one that was met. -/
theorem KeepingFails.endOf_keepDay {error : KeeperError}
    (fails : KeepingFails now keeper volume error) :
    ∃ volume', endOf (keepDay now) keeper volume = (.error error, keeper, volume') := by
  cases fails with
  | @template read unread =>
    refine ⟨read, ?_⟩
    simp only [keepDay, endOf_bind, unread]
  | @page _ _ written isRead unwritten =>
    refine ⟨written, ?_⟩
    simp only [keepDay, endOf_bind, isRead, endOf_get, unwritten]
  | @roster _ _ _ kept isRead isWritten unkept =>
    refine ⟨kept, ?_⟩
    simp only [keepDay, endOf_bind, isRead, endOf_get, isWritten, unkept]

end Keeping

/-! ### The board of the new day -/

/-- What a rollover leaves: the day before is kept, people have the records of the presets that hold,
the notices that have not ended are filed as they were, and it is noted that the day has begun. -/
structure NewDay (now : Instant) (before : Keeper) (volume : Volume) (after : Keeper)
    (volume' : Volume) : Prop where
  kept : Kept now before volume volume'
  /-- No record is there but those of presets. The presets are those of their file, or none if the
  second request after the day was kept is refused, which is the one that asks for them. -/
  roster : ∃ archived, endOf (keepDay now) before volume = (.ok (), before, archived) ∧
    storedPresets before.layout archived = storedPresets before.layout volume ∧
    ∀ account person, after.board.roster.find? account = some person ↔
      ∃ preset first last,
        (presetsNext before.layout archived.counted).find? account = some preset ∧
        preset.window = .ok (first, last) ∧ first < now ∧ now < last ∧ preset.person = person
  notices : after.board.notices =
    .ofGrouped (before.board.notices.grouped.keep fun notice => notice.lastsTo now)
  filed : ∀ reporter subject,
    (after.board.notices.grouped.filedBy? reporter subject).getD [] =
      ((before.board.notices.grouped.filedBy? reporter subject).getD []).filter fun notice =>
        notice.lastsTo now
  alternates : after.board.alternates = before.board.alternates
  settings : after.settings = before.settings
  today : after.lastRollover = some now.date

section Beginning

variable {now : Instant} {keeper : Keeper} {volume : Volume}

/-- The keeper that has cleared its board, with these managers and presets. -/
def begun (now : Instant) (managers : Managers) (presets : Table Preset) (keeper : Keeper) : Keeper :=
  note (.rollover now.date) { keeper with
    board := { forNewDay now keeper.board with managers, roster := Roster.inForce presets now }
    unsaved := { keeper.unsaved with notices := true }
    lastRollover := some now.date }

/-- The second half cannot fail. -/
private theorem endOf_beginDay (now : Instant) (keeper : Keeper) (volume : Volume) :
    ∃ managers, endOf (beginDay now) keeper volume =
      (.ok (), begun now managers (presetsNext keeper.layout volume.counted) keeper,
        volume.counted.counted) := by
  obtain ⟨managers, run⟩ := exists_reload keeper.layout now (forNewDay now keeper.board) volume
  let presets := presetsNext keeper.layout volume.counted
  have seeded : (Roster.seed (forNewDay now keeper.board).roster presets now).1 =
      Roster.inForce presets now := Roster.seed_empty presets now
  refine ⟨managers, ?_⟩
  rw [seeded] at run
  simp only [beginDay, endOf_bind, endOf_get, endOf_onDisk, run]
  rfl

/-- A save takes marks away and writes the two tables; all else is left as it is. -/
theorem endOf_flush (keeper : Keeper) (volume : Volume) :
    ∃ result unsaved volume', endOf flush keeper volume = (result, { keeper with unsaved }, volume') ∧
      volume.ChangedAt (fun path => path = keeper.layout.notices ∨ path = keeper.layout.alternates)
        volume' := by
  let touched (path : String) : Prop := path = keeper.layout.notices ∨ path = keeper.layout.alternates
  let held (keeper' : Keeper) (volume' : Volume) : Prop :=
    (∃ unsaved, keeper' = { keeper with unsaved }) ∧ volume.ChangedAt touched volume'
  have saves : Ensures held flush (fun _ => held) held := by
    refine .flush ?_ ?_
    · rintro _ volume' volume'' path ⟨⟨unsaved, rfl⟩, changed⟩ table again
      exact ⟨⟨unsaved, rfl⟩, changed.trans (again.mono fun _ same => same ▸ table)⟩
    · rintro _ volume' unsaved' ⟨⟨unsaved, rfl⟩, changed⟩
      exact ⟨⟨unsaved', rfl⟩, changed⟩
  obtain ⟨result, _, volume', ends, ⟨unsaved, rfl⟩, changed⟩ :=
    saves.exists_endOf ⟨⟨keeper.unsaved, rfl⟩, .refl touched volume⟩
  exact ⟨result, unsaved, volume', ends, changed⟩

/-- Once the day before is kept there is a new day, whatever becomes of the save. -/
theorem newDay_rollover {kept : Volume}
    (keeps : endOf (keepDay now) keeper volume = (.ok (), keeper, kept)) :
    ∃ result begun volume', endOf (rollover now) keeper volume = (result, begun, volume') ∧
      NewDay now keeper volume begun volume' := by
  obtain ⟨result, middle, ends, changed, isKept⟩ := endOf_keepDay now keeper volume
  rw [keeps] at ends
  cases ends
  obtain ⟨managers, begins⟩ := endOf_beginDay now keeper kept
  let presets := presetsNext keeper.layout kept.counted
  obtain ⟨result, unsaved, volume', saves, changedTables⟩ :=
    endOf_flush (begun now managers presets keeper) kept.counted.counted
  refine ⟨result, { begun now managers presets keeper with unsaved }, volume', ?_, ?_⟩
  · simp only [endOf_rollover, endOf_bind, keeps, begins]
    exact saves
  -- The save writes tables, and none of them is a file of the day before.
  have changedLater := ((Volume.ChangedAt.counted _ kept).trans (.counted _ _)).trans changedTables
  have apart (path : String) (table : path = keeper.layout.notices ∨ path = keeper.layout.alternates) :
      ¬ IsKept now keeper.layout path := fun isKept => isKept.not_isTable (.inr table)
  have presetsFile : storedPresets keeper.layout kept = storedPresets keeper.layout volume := by
    rw [storedPresets, changed.files _ fun isKept => isKept.ne_presets rfl, storedPresets]
  exact
    { kept := isKept.changedAt changedLater apart
      roster := ⟨kept, keeps, presetsFile, fun account person => Roster.find?_inForce⟩
      notices := rfl
      filed := Grouped.filedBy?_keep_getD _ _
      alternates := rfl
      settings := rfl
      today := rfl }

end Beginning

/-! ### The rest of a cycle -/

/-- What a cycle does besides a rollover. -/
def serve (reader : Letter.Reader) (now received : Instant) : Work (StateM Volume) Unit := do
  takeMail reader now received
  flush
  publish now

/-- What stays true of a keeper as it takes marks away, notes events and applies letters. -/
structure Carried (kept : Keeper → Prop) : Prop where
  marks : ∀ {keeper} unsaved, kept keeper → kept { keeper with unsaved }
  notes : ∀ {keeper} event, kept keeper → kept (note event keeper)
  letters : ∀ {keeper} message, kept keeper →
    kept { keeper with board := (interpret keeper.board message).1 }

/-- However the work ends, what was true of the keeper before is true after. -/
def Carries {α : Type} (kept : Keeper → Prop) (work : Work (StateM Volume) α) : Prop :=
  Ensures (fun keeper _ => kept keeper) work (fun _ keeper _ => kept keeper) fun keeper _ => kept keeper

section Carried

variable {α β : Type} {kept : Keeper → Prop}

private theorem Carries.bind {first : Work (StateM Volume) α} {next : α → Work (StateM Volume) β}
    (before : Carries kept first) (after : ∀ value, Carries kept (next value)) :
    Carries kept (first >>= next) :=
  Ensures.bind before after

/-- No request changes the keeper. -/
private theorem carries_request {ε : Type} (cause : ε → KeeperError)
    (asked : ExceptT ε (StateM Volume) α) :
    Carries kept (request cause asked) := by
  refine Ensures.request fun keeper volume holds => ⟨_, _, rfl, ?_⟩
  split <;> exact holds

/-- A look at the keeper before the work. -/
private theorem carries_get_bind {next : Keeper → Work (StateM Volume) α}
    (after : ∀ keeper, kept keeper → Ensures (fun keeper' _ => keeper' = keeper) (next keeper)
      (fun _ keeper _ => kept keeper) fun keeper _ => kept keeper) :
    Carries kept (get >>= next) := by
  refine .get_bind fun keeper keeper' volume ⟨same, holds⟩ => ?_
  exact after keeper holds keeper' volume same

private theorem Carried.record (carried : Carried kept) {keeper : Keeper} (path : String)
    (outcome : Outcome) (holds : kept keeper) : kept (record path outcome keeper) := by
  have noted := carried.notes (.letter path outcome) holds
  cases outcome with
  | applied => exact carried.marks _ noted
  | ignored => exact noted
  | rejected => exact noted

private theorem Carried.accept (carried : Carried kept) (today : Date) (letter : String × Message) :
    Carries kept (accept today letter) := by
  refine (carries_request _ _).bind fun _ => carries_get_bind fun keeper holds => ?_
  have logs (outcome : Outcome) : Carries kept (logOutcome today outcome) :=
    .logOutcome today outcome (fun _ _ _ holds _ => holds) fun _ _ error holds =>
      carried.notes (.rejectionNotLogged error) holds
  refine Ensures.bind (.set ?_) fun _ => logs _
  exact fun _ _ _ => carried.record _ _ (carried.letters letter.2 holds)

private theorem Carried.discard (carried : Carried kept) (path : String) :
    Carries kept (discard path) :=
  (carries_request _ _).bind fun _ => .modify fun _ _ holds => carried.notes (.notLetter path) holds

private theorem Carried.takeMail (carried : Carried kept) (reader : Letter.Reader)
    (now received : Instant) :
    Carries kept (takeMail reader now received) := by
  refine carries_get_bind fun keeper holds => ?_
  have begins : Carries (fun keeper' => keeper' = keeper)
      (request .mailbox (Spool.fetch reader keeper.settings.spoolDirectory received)) :=
    carries_request _ _
  have same (keeper' : Keeper) (_ : Volume) (same : keeper' = keeper) : kept keeper' := same ▸ holds
  refine (begins.weaken (fun _ _ => id) (fun _ => same) same).bind fun waiting => ?_
  have others : Carries kept (waiting.others.forM Keeper.discard) :=
    .forM_of_mem fun path _ => carried.discard path
  exact others.bind fun _ => .forM_of_mem fun letter _ => carried.accept now.date letter

private theorem Carried.flush (carried : Carried kept) : Carries kept flush :=
  .flush (fun _ _ _ _ holds _ _ => holds) fun _ _ unsaved holds => carried.marks unsaved holds

private theorem carries_publish (now : Instant) : Carries kept (publish now) :=
  .publish_of_writes now (.readTemplate (fun _ _ => id) fun _ _ holds _ => holds)
    (.writes_of_editedAt fun _ _ _ _ holds _ _ => holds)

private theorem Carried.serve (carried : Carried kept) (reader : Letter.Reader)
    (now received : Instant) : Carries kept (serve reader now received) :=
  (carried.takeMail reader now received).bind fun _ => carried.flush.bind fun _ => carries_publish now

/-- Taking the mail, saving and publishing keep what is carried, wherever they end. -/
theorem Carried.served (carried : Carried kept) {reader : Letter.Reader} {now received : Instant}
    {keeper after : Keeper} {volume volume' : Volume} {result : Except KeeperError Unit}
    (served : endOf (Keeper.serve reader now received) keeper volume = (result, after, volume'))
    (holds : kept keeper) : kept after := by
  obtain ⟨_, _, _, ends, holds⟩ := (carried.serve reader now received).exists_endOf holds
  rw [served] at ends
  cases ends
  exact holds

end Carried

/-! ### One cycle -/

/-- Nobody has lost a record, and there was no other rollover. -/
structure Onward (base keeper : Keeper) : Prop where
  settings : keeper.settings = base.settings
  lastRollover : keeper.lastRollover = base.lastRollover
  records : ∀ address, (base.board.roster.find? address).isSome →
    (keeper.board.roster.find? address).isSome

private theorem Onward.refl (keeper : Keeper) : Onward keeper keeper := ⟨rfl, rfl, fun _ => id⟩

/-- A letter writes a record and removes none. -/
private theorem carried_onward (base : Keeper) : Carried (Onward base) where
  marks _ onward := ⟨onward.settings, onward.lastRollover, onward.records⟩
  notes _ onward := ⟨onward.settings, onward.lastRollover, onward.records⟩
  letters message onward := by
    refine ⟨onward.settings, onward.lastRollover, fun address there => ?_⟩
    rw [find?_interpret]
    split
    · rfl
    · exact onward.records address there

/-- All that a cycle can come to, as far as rollovers go. -/
inductive Passed (reader : Letter.Reader) (now received : Instant) (keeper : Keeper)
    (volume : Volume) : Except KeeperError Unit → Keeper → Volume → Prop
  /-- The day before could not be kept, and nothing else was done. -/
  | retried {error : KeeperError} {volume' : Volume} (due : keeper.rolloverDue now = true)
      (fails : KeepingFails now keeper volume error)
      (changed : volume.ChangedAt (IsKept now keeper.layout) volume') :
      Passed reader now received keeper volume (.error error) keeper volume'
  /-- A new day has begun, and unless the save failed mail was taken. -/
  | renewed {saved result : Except KeeperError Unit} {begun after : Keeper} {middle volume' : Volume}
      (due : keeper.rolloverDue now = true)
      (rest : match saved with
        | .ok () => endOf (serve reader now received) begun middle = (result, after, volume')
        | .error error => (result, after, volume') = (.error error, begun, middle))
      (ends : endOf (rollover now) keeper volume = (saved, begun, middle))
      (newDay : NewDay now keeper volume begun middle)
      (onward : Onward begun after) : Passed reader now received keeper volume result after volume'
  | plain {result : Except KeeperError Unit} {after : Keeper} {volume' : Volume}
      (notDue : keeper.rolloverDue now = false) (onward : Onward keeper after) :
      Passed reader now received keeper volume result after volume'

theorem endOf_cycle (reader : Letter.Reader) (now received : Instant) (keeper : Keeper)
    (volume : Volume) :
    endOf (cycle reader now received) keeper volume =
      match if keeper.rolloverDue now then endOf (rollover now) keeper volume
        else (.ok (), keeper, volume) with
      | (.ok _, keeper', volume') => endOf (serve reader now received) keeper' volume'
      | (.error error, keeper', volume') => (.error error, keeper', volume') := by
  have begins : endOf (whenever (·.rolloverDue now) (rollover now)) keeper volume =
      if keeper.rolloverDue now then endOf (rollover now) keeper volume
      else (.ok (), keeper, volume) := by
    simp only [whenever, endOf_bind, endOf_get]
    split <;> rfl
  rw [← begins, cycle, endOf_bind]
  rcases endOf (whenever (·.rolloverDue now) (rollover now)) keeper volume with ⟨_ | _, _, _⟩ <;> rfl

theorem passed_runCycle {reader : Letter.Reader} {now received : Instant} {keeper after : Keeper}
    {volume volume' : Volume} {result : Except KeeperError Unit}
    (ended : (runCycle reader keeper now received : StateM Volume _).run volume =
      pure ((result, after), volume')) :
    Passed reader now received keeper volume result after volume' := by
  rw [run_runCycle, endOf_cycle] at ended
  by_cases due : keeper.rolloverDue now = true
  · rw [if_pos due] at ended
    obtain ⟨kept?, kept, ends, changed, fate⟩ := endOf_keepDay now keeper volume
    cases kept? with
    | error error =>
      simp only [endOf_rollover, endOf_bind, ends] at ended
      cases ended
      exact .retried due fate changed
    | ok =>
      -- From here on the day has begun; only the save can still stop the cycle.
      obtain ⟨saved, begun, middle, rolled, newDay⟩ := newDay_rollover ends
      rw [rolled] at ended
      cases saved with
      | error =>
        cases ended
        exact .renewed due rfl rolled newDay (.refl _)
      | ok => exact .renewed due ended rolled newDay ((carried_onward _).served ended (.refl _))
  · rw [if_neg due] at ended
    exact .plain (Bool.not_eq_true _ ▸ due) ((carried_onward _).served ended (.refl _))

end Whereabouts.Keeper
