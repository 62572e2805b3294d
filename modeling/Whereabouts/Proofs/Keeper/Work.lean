import Mathlib.Data.List.Basic
import Whereabouts.Keeper
import Whereabouts.Letter.Basic
import Whereabouts.Proofs.Archive.Tables
import Whereabouts.Proofs.Disk.Edits
/-!
# Reasoning about the keeper's work

Work that begins with what `before` tells of the keeper and the volume ends with what `after` tells
of them, or it stops with what `stopped` tells. Each way of putting work together has a rule, so that
proofs about a cycle follow its steps and never look into the monad.
-/
namespace Whereabouts.Keeper

open Whereabouts.Archive Whereabouts.Calendar Whereabouts.Mail

variable {α β : Type}

/-- How the work ends from this keeper and this volume. -/
def endOf (work : Work (StateM Volume) α) (keeper : Keeper) (volume : Volume) :
    Except KeeperError α × Keeper × Volume :=
  let ended := Id.run ((work.run.run keeper).run volume)
  (ended.1.1, ended.1.2, ended.2)

def Ensures (before : Keeper → Volume → Prop) (work : Work (StateM Volume) α)
    (after : α → Keeper → Volume → Prop) (stopped : Keeper → Volume → Prop) : Prop :=
  ∀ keeper volume, before keeper volume →
    match endOf work keeper volume with
    | (.ok value, keeper', volume') => after value keeper' volume'
    | (.error _, keeper', volume') => stopped keeper' volume'

/-- Where no work ends. -/
def never (_ : Keeper) (_ : Volume) : Prop := False

theorem endOf_bind (first : Work (StateM Volume) α) (next : α → Work (StateM Volume) β)
    (keeper : Keeper) (volume : Volume) :
    endOf (first >>= next) keeper volume =
      match endOf first keeper volume with
      | (.ok value, keeper', volume') => endOf (next value) keeper' volume'
      | (.error error, keeper', volume') => (.error error, keeper', volume') := by
  simp only [endOf, ExceptT.run_bind, StateT.run_bind, Id.run_bind]
  rcases Id.run ((first.run.run keeper).run volume) with ⟨⟨_ | _, keeper'⟩, volume'⟩ <;> rfl

theorem endOf_get (keeper : Keeper) (volume : Volume) :
    endOf get keeper volume = (.ok keeper, keeper, volume) := rfl

theorem endOf_request {ε : Type} (cause : ε → KeeperError) (asked : ExceptT ε (StateM Volume) α)
    (keeper : Keeper) (volume : Volume) :
    endOf (request cause asked) keeper volume =
      ((Id.run (asked.run.run volume)).1.mapError cause, keeper,
        (Id.run (asked.run.run volume)).2) := rfl

theorem endOf_onDisk (work : StateM Volume α) (keeper : Keeper) (volume : Volume) :
    endOf (onDisk work) keeper volume =
      (.ok (Id.run (work.run volume)).1, keeper, (Id.run (work.run volume)).2) := rfl

theorem run_runCycle {reader : Letter.Reader} {keeper keeper' : Keeper} {volume volume' : Volume}
    {now received : Calendar.Instant} {result : Except KeeperError Unit} :
    (runCycle reader keeper now received : StateM Volume _).run volume =
        Pure.pure ((result, keeper'), volume') ↔
      endOf (cycle reader now received) keeper volume = (result, keeper', volume') := by
  rw [runCycle, endOf]
  rcases StateT.run ((cycle reader now received : Work (StateM Volume) Unit).run.run keeper) volume with
    ⟨⟨ended, after⟩, left⟩
  change ((ended, after), left) = ((result, keeper'), volume') ↔
    (ended, after, left) = (result, keeper', volume')
  simp only [Prod.mk.injEq, and_assoc]

theorem run_readTemplate (volume : Volume) (path : String) :
    (Page.readTemplate path : ExceptT Page.TemplateError (StateM Volume) String).run.run volume =
      Pure.pure (((volume.answer path).bind Disk.textOf).mapError fun error => ⟨path, error⟩,
        volume.counted) := by
  simp only [Page.readTemplate, Disk.readText, ExceptT.run_adapt, ExceptT.run_bind, ExceptT.run_mk,
    StateT.run_map, StateT.run_bind, volume.run_read, pure_bind]
  cases volume.answer path <;> rfl

namespace Ensures

variable {before before' : Keeper → Volume → Prop} {after after' : α → Keeper → Volume → Prop}
  {stopped stopped' : Keeper → Volume → Prop} {work : Work (StateM Volume) α}

theorem weaken (ensures : Ensures before work after stopped)
    (weaker : ∀ keeper volume, before' keeper volume → before keeper volume)
    (stronger : ∀ value keeper volume, after value keeper volume → after' value keeper volume)
    (stronger' : ∀ keeper volume, stopped keeper volume → stopped' keeper volume) :
    Ensures before' work after' stopped' := by
  intro keeper volume holds
  have ended := ensures keeper volume (weaker keeper volume holds)
  revert ended
  split
  · exact stronger _ _ _
  · exact stronger' _ _

theorem stopped_mono (ensures : Ensures before work after stopped)
    (weaker : ∀ keeper volume, stopped keeper volume → stopped' keeper volume) :
    Ensures before work after stopped' :=
  ensures.weaken (fun _ _ => id) (fun _ _ _ => id) weaker

/-- What two accounts of the same work tell is true together. -/
theorem and {before₂ : Keeper → Volume → Prop} {after₂ : α → Keeper → Volume → Prop}
    {stopped₂ : Keeper → Volume → Prop} (one : Ensures before work after stopped)
    (two : Ensures before₂ work after₂ stopped₂) :
    Ensures (fun keeper volume => before keeper volume ∧ before₂ keeper volume) work
      (fun value keeper volume => after value keeper volume ∧ after₂ value keeper volume)
      (fun keeper volume => stopped keeper volume ∧ stopped₂ keeper volume) := by
  rintro keeper volume ⟨holds, holds₂⟩
  have ended := one keeper volume holds
  have ended₂ := two keeper volume holds₂
  revert ended ended₂
  split <;> exact fun one two => ⟨one, two⟩

theorem pure {value : α} (holds : ∀ keeper volume, before keeper volume → after value keeper volume) :
    Ensures before (pure value) after stopped := holds

theorem bind {middle : α → Keeper → Volume → Prop} {next : α → Work (StateM Volume) β}
    {final : β → Keeper → Volume → Prop} (first : Ensures before work middle stopped)
    (rest : ∀ value, Ensures (middle value) (next value) final stopped) :
    Ensures before (work >>= next) final stopped := by
  intro keeper volume holds
  have ended := first keeper volume holds
  rw [endOf_bind]
  revert ended
  split
  next value keeper' volume' _ => exact rest value keeper' volume'
  next keeper' volume' _ => exact id

/-- What comes after a look at the keeper knows which keeper that was. -/
theorem get_bind {next : Keeper → Work (StateM Volume) α}
    (rest : ∀ keeper, Ensures (fun keeper' volume => keeper' = keeper ∧ before keeper volume)
      (next keeper) after stopped) :
    Ensures before (get >>= next) after stopped := by
  intro keeper volume holds
  rw [endOf_bind, endOf_get]
  exact rest keeper keeper volume ⟨rfl, holds⟩

theorem set {keeper' : Keeper} {after : Unit → Keeper → Volume → Prop}
    (holds : ∀ keeper volume, before keeper volume → after () keeper' volume) :
    Ensures before (set keeper') after stopped := holds

theorem modify {change : Keeper → Keeper} {after : Unit → Keeper → Volume → Prop}
    (holds : ∀ keeper volume, before keeper volume → after () (change keeper) volume) :
    Ensures before (modify change) after stopped := holds

theorem request {ε : Type} {cause : ε → KeeperError} {asked : ExceptT ε (StateM Volume) α}
    (each : ∀ keeper volume, before keeper volume → ∃ result volume',
      asked.run.run volume = Pure.pure (result, volume') ∧
        match result with
        | .ok value => after value keeper volume'
        | .error _ => stopped keeper volume') :
    Ensures before (request cause asked) after stopped := by
  intro keeper volume holds
  obtain ⟨result, volume', run, ended⟩ := each keeper volume holds
  rw [endOf_request, run]
  cases result <;> exact ended

theorem onDisk {work : StateM Volume α}
    (each : ∀ keeper volume, before keeper volume → ∃ value volume',
      work.run volume = Pure.pure (value, volume') ∧ after value keeper volume') :
    Ensures before (onDisk work) after stopped := by
  intro keeper volume holds
  obtain ⟨value, volume', run, ended⟩ := each keeper volume holds
  rw [endOf_onDisk, run]
  exact ended

theorem whenever {asks : Keeper → Bool} {work : Work (StateM Volume) Unit}
    {after : Unit → Keeper → Volume → Prop}
    (asked : Ensures (fun keeper volume => asks keeper = true ∧ before keeper volume) work after
      stopped)
    (otherwise : ∀ keeper volume, asks keeper = false → before keeper volume →
      after () keeper volume) :
    Ensures before (whenever asks work) after stopped := by
  refine get_bind fun keeper => ?_
  by_cases wanted : asks keeper = true
  · rw [if_pos wanted]
    refine asked.weaken ?_ (fun _ _ _ => id) (fun _ _ => id)
    rintro _ volume ⟨rfl, holds⟩
    exact ⟨wanted, holds⟩
  · rw [if_neg wanted]
    refine pure ?_
    rintro _ volume ⟨rfl, holds⟩
    exact otherwise _ volume (Bool.not_eq_true _ ▸ wanted) holds

/-- What the work keeps is kept whether it is asked for or not. -/
theorem whenever_keeps {held : Keeper → Volume → Prop} {asks : Keeper → Bool}
    {work : Work (StateM Volume) Unit} (keeps : Ensures held work (fun _ => held) stopped) :
    Ensures held (Keeper.whenever asks work) (fun _ => held) stopped :=
  whenever (fun keeper volume holds => keeps keeper volume holds.2) fun _ _ _ holds => holds

/-- What every item keeps the whole list keeps, each item leaving its own behind. -/
theorem forM {items : List β} {work : β → Work (StateM Volume) Unit}
    {during : List β → Keeper → Volume → Prop}
    (each : ∀ item rest, Ensures (during (item :: rest)) (work item) (fun _ => during rest) stopped) :
    Ensures (during items) (items.forM work) (fun _ => during []) stopped := by
  induction items with
  | nil => exact pure fun _ _ holds => holds
  | cons item items ih => exact bind (each item items) fun _ => ih

/-- The work on a list comes from one of its beginnings to the next. -/
theorem forM_reached {items : List β} {work : β → Work (StateM Volume) Unit}
    {reached : List β → Keeper → Volume → Prop}
    (each : ∀ done item rest, done ++ item :: rest = items →
      Ensures (reached done) (work item) (fun _ => reached (done ++ [item])) stopped) :
    Ensures (reached []) (items.forM work) (fun _ => reached items) stopped := by
  let during (rest : List β) (keeper : Keeper) (volume : Volume) : Prop :=
    ∃ done, done ++ rest = items ∧ reached done keeper volume
  have next (item : β) (rest : List β) :
      Ensures (during (item :: rest)) (work item) (fun _ => during rest) stopped := by
    rintro keeper volume ⟨done, split, holds⟩
    refine (each done item rest split).weaken (fun _ _ => id) ?_ (fun _ _ => id) keeper volume holds
    exact fun _ _ _ further => ⟨done ++ [item], by simpa using split, further⟩
  refine (forM next).weaken ?_ ?_ fun _ _ => id
  · exact fun _ _ holds => ⟨[], rfl, holds⟩
  · rintro _ keeper volume ⟨done, split, holds⟩
    rw [List.append_nil] at split
    exact split ▸ holds

/-- What every item of the list keeps the whole list keeps. -/
theorem forM_of_mem {items : List β} {work : β → Work (StateM Volume) Unit}
    {kept : Keeper → Volume → Prop}
    (each : ∀ item ∈ items, Ensures kept (work item) (fun _ => kept) stopped) :
    Ensures kept (items.forM work) (fun _ => kept) stopped := by
  induction items with
  | nil => exact pure fun _ _ holds => holds
  | cons item items ih =>
    obtain ⟨first, rest⟩ := List.forall_mem_cons.mp each
    exact bind first fun _ => ih rest

/-- What is known before the work and speaks of neither keeper nor volume. -/
theorem knowing {fact : Prop} (ensures : fact → Ensures before work after stopped) :
    Ensures (fun keeper volume => fact ∧ before keeper volume) work after stopped :=
  fun keeper volume holds => ensures holds.1 keeper volume holds.2

/-- What holds however the work ends holds where it ended. -/
theorem exists_endOf {held : Keeper → Volume → Prop} (ensures : Ensures before work (fun _ => held) held)
    {keeper : Keeper} {volume : Volume} (holds : before keeper volume) :
    ∃ result keeper' volume', endOf work keeper volume = (result, keeper', volume') ∧
      held keeper' volume' := by
  have ended := ensures keeper volume holds
  generalize endOf work keeper volume = final at ended
  obtain ⟨result, keeper', volume'⟩ := final
  refine ⟨result, keeper', volume', rfl, ?_⟩
  cases result <;> exact ended

/-- Work that nothing can stop succeeds. -/
theorem exists_ok (ensures : Ensures before work after never) {keeper : Keeper}
    {volume : Volume} (holds : before keeper volume) :
    ∃ value keeper' volume', endOf work keeper volume = (.ok value, keeper', volume') ∧
      after value keeper' volume' := by
  have ended := ensures keeper volume holds
  generalize endOf work keeper volume = final at ended
  obtain ⟨result, keeper', volume'⟩ := final
  cases result with
  | ok value => exact ⟨value, keeper', volume', rfl, ended⟩
  | error => exact ended.elim

/-- Work that does not come to its end was stopped. -/
theorem exists_error (ensures : Ensures before work (fun _ => never) stopped) {keeper : Keeper}
    {volume : Volume} (holds : before keeper volume) :
    ∃ error keeper' volume', endOf work keeper volume = (.error error, keeper', volume') ∧
      stopped keeper' volume' := by
  have ended := ensures keeper volume holds
  generalize endOf work keeper volume = final at ended
  obtain ⟨result, keeper', volume'⟩ := final
  cases result with
  | ok => exact ended.elim
  | error error => exact ⟨error, keeper', volume', rfl, ended⟩

/-! ### Requests of the keeper -/

section Requests

variable {after : Unit → Keeper → Volume → Prop}

/-- A write changes at most its file, and puts the text there if it succeeds. -/
theorem write {path : String} {text : List Char}
    (failed : ∀ keeper volume volume', before keeper volume → volume.ChangedAt (· = path) volume' →
      stopped keeper volume')
    (written : ∀ keeper volume volume', before keeper volume → volume.ChangedAt (· = path) volume' →
      volume'.fileAt? path = some (String.ofList text).toUTF8 → after () keeper volume') :
    Ensures before (archived (Archive.write path text)) after stopped := by
  refine request fun keeper volume holds => ?_
  obtain ⟨result, volume', run, changed, ok⟩ := Archive.run_write volume path text
  refine ⟨result, volume', run, ?_⟩
  cases result with
  | ok => exact written keeper volume volume' holds changed (ok rfl)
  | error => exact failed keeper volume volume' holds changed

/-- Reading the template changes no file, and it stops the work only if the template is refused or is
no text. -/
theorem readTemplate
    (holds : ∀ keeper volume, before keeper volume → before keeper volume.counted)
    (stops : ∀ keeper volume, before keeper volume →
      (volume.Reads keeper.settings.template →
        ∀ text : String, volume.fileAt? keeper.settings.template ≠ some text.toUTF8) →
      stopped keeper volume.counted) :
    Ensures before readTemplate (fun _ => before) stopped := by
  refine get_bind fun keeper => request ?_
  rintro keeper volume ⟨rfl, known⟩
  have run := run_readTemplate volume keeper.settings.template
  cases found : (volume.answer keeper.settings.template).bind Disk.textOf with
  | ok =>
    rw [found] at run
    exact ⟨_, _, run, holds keeper volume known⟩
  | error =>
    rw [found] at run
    refine ⟨_, _, run, stops keeper volume known fun reads text there => ?_⟩
    -- A file that is served and holds a text would have been read.
    have answer := Volume.answer_of_fileAt? reads there
    have means : Disk.textOf text.toUTF8 = .ok text := by rw [Disk.textOf, Text.fromUTF8?_toUTF8]
    rw [answer, Except.bind, means] at found
    cases found

end Requests

end Ensures

/-! ### Recording and reloading -/

theorem board_record (path : String) (outcome : Outcome) (keeper : Keeper) :
    (record path outcome keeper).board = keeper.board := by
  cases outcome <;> rfl

theorem settings_record (path : String) (outcome : Outcome) (keeper : Keeper) :
    (record path outcome keeper).settings = keeper.settings := by
  cases outcome <;> rfl

/-- The managers that an answer about their file tells of. A missing file names nobody, and one that
cannot be read tells nothing. -/
def managersIn? (domain : String) (answer : Except DiskError ByteArray) : Option Managers :=
  match answer with
  | .ok content => (String.fromUTF8? content).map (.ofText domain)
  | .error .missing => some .none
  | .error _ => none

private theorem toOption_loadedFrom_managers (path domain : String)
    (answer : Except DiskError ByteArray) :
    (loadedFrom path Managers.none (fun text => .ok (.ofText domain (String.ofList text)))
      answer).toOption = managersIn? domain answer := by
  cases answer with
  | error error => cases error <;> rfl
  | ok content =>
    simp only [loadedFrom, managersIn?, Except.bind, Disk.textOf]
    cases String.fromUTF8? content with
    | none => rfl
    | some text =>
      simp only [ifThere, String.ofList_toList, Except.mapError, Option.map_some]
      rfl

theorem run_reload_managers (layout : Layout) (now : Instant) (board : Board) (volume : Volume) :
    (reload layout now board : StateM Volume Board).run volume =
      pure ({ board with
          managers := (managersIn? board.domain (volume.answer layout.managers)).getD board.managers
          roster := (board.roster.seed ((decoded? decodePresets
            (volume.counted.answer layout.presets).toOption).getD .empty) now).1 },
        volume.counted.counted) := by
  simp only [reload, loadManagers, loadPresets, StateT.run_bind, run_loadedOr, getD_loadedFrom,
    toOption_loadedFrom_managers, pure_bind, StateT.run_pure]

/-- The presets that are loaded if they are asked for next: those of their file, or none if this very
request is refused. -/
def presetsNext (layout : Layout) (volume : Volume) : Table Preset :=
  if volume.isRefused (.read layout.presets) then .empty else storedPresets layout volume

/-- A reload changes the managers and what the presets say, and no file. The presets are asked for
after the managers. -/
theorem exists_reload (layout : Layout) (now : Instant) (board : Board) (volume : Volume) :
    ∃ managers, (reload layout now board : StateM Volume Board).run volume =
      pure ({ board with
          managers, roster := (board.roster.seed (presetsNext layout volume.counted) now).1 },
        volume.counted.counted) := by
  have presets : (decoded? decodePresets (volume.counted.answer layout.presets).toOption).getD .empty =
      presetsNext layout volume.counted := by
    rw [Volume.answer, presetsNext]
    split <;> rfl
  rw [← presets]
  exact ⟨_, run_reload_managers layout now board volume⟩

/-- Presets come from their file; if it cannot be read there are none. -/
theorem run_reload (layout : Layout) (now : Instant) (board : Board) (volume : Volume) :
    ∃ managers presets, (reload layout now board : StateM Volume Board).run volume =
        pure ({ board with managers, roster := (board.roster.seed presets now).1 },
          volume.counted.counted) ∧
      ∀ account preset, presets.find? account = some preset →
        (storedPresets layout volume).find? account = some preset := by
  obtain ⟨managers, run⟩ := exists_reload layout now board volume
  refine ⟨managers, _, run, fun account preset found => ?_⟩
  rw [presetsNext] at found
  split at found
  · cases found
  · exact found

namespace Ensures

variable {held stopped : Keeper → Volume → Prop}

/-- Logging an outcome edits at most the log, and all that the keeper notes is that it failed. -/
theorem logOutcome (today : Date) (outcome : Outcome)
    (logs : ∀ keeper volume volume', held keeper volume →
      volume.EditedAt (· = keeper.layout.rejections) volume' → held keeper volume')
    (notes : ∀ keeper volume error, held keeper volume →
      held (note (.rejectionNotLogged error) keeper) volume) :
    Ensures held (logOutcome today outcome) (fun _ => held) stopped := by
  cases outcome with
  | applied => exact pure fun _ _ holds => holds
  | ignored => exact pure fun _ _ holds => holds
  | rejected sender returnPath =>
    refine get_bind fun keeper => ?_
    have logged : Ensures (fun keeper' volume => keeper' = keeper ∧ held keeper volume)
        (Keeper.onDisk (logRejection keeper.layout ⟨today, sender, returnPath⟩).run)
        (fun _ => held) stopped := by
      refine onDisk ?_
      rintro keeper volume ⟨rfl, holds⟩
      obtain ⟨result, volume', run, edited⟩ :=
        run_logRejection volume keeper.layout ⟨today, sender, returnPath⟩
      exact ⟨result, volume', run, logs keeper volume volume' holds edited⟩
    refine logged.bind fun result => ?_
    cases result with
    | ok => exact pure fun _ _ holds => holds
    | error error => exact modify fun keeper volume => notes keeper volume error

/-! ### Work made of writes -/

/-- A write to any of these files keeps the keeper as it is and what is held. -/
def Writes (held stopped : Keeper → Volume → Prop) (stores : Keeper → String → Prop) : Prop :=
  ∀ keeper path text, stores keeper path →
    Ensures (fun keeper' volume => keeper' = keeper ∧ held keeper volume)
      (archived (Archive.write path text))
      (fun _ keeper' volume => keeper' = keeper ∧ held keeper volume) stopped

/-- What is held by a volume whatever becomes of these files is kept by writes to them. -/
theorem writes_of_editedAt {stores : Keeper → String → Prop}
    (keeps : ∀ keeper volume volume' path, held keeper volume → stores keeper path →
      volume.EditedAt (· = path) volume' → held keeper volume') :
    Writes held held stores := by
  intro keeper path text stored
  refine request ?_
  rintro _ volume ⟨rfl, holds⟩
  obtain ⟨result, volume', run, edited, _⟩ := Archive.run_write_edited volume path text
  have kept := keeps _ volume volume' path holds stored edited
  refine ⟨result, volume', run, ?_⟩
  cases result with
  | ok => exact ⟨rfl, kept⟩
  | error => exact kept

/-- A save writes the files of two tables and takes marks away. -/
theorem flush_of_writes
    (writes : Writes held stopped fun keeper path =>
      path = keeper.layout.notices ∨ path = keeper.layout.alternates)
    (marks : ∀ keeper volume unsaved, held keeper volume → held { keeper with unsaved } volume) :
    Ensures held Keeper.flush (fun _ => held) stopped := by
  have unmarked (keeper : Keeper) (unsaved : Changes) :
      Ensures (fun keeper' volume => keeper' = keeper ∧ held keeper volume)
        (MonadStateOf.set { keeper with unsaved }) (fun _ => held) stopped :=
    set fun _ volume holds => marks keeper volume unsaved holds.2
  have notices : Ensures held saveNotices (fun _ => held) stopped :=
    get_bind fun keeper => (writes keeper _ _ (.inl rfl)).bind fun _ => unmarked keeper _
  have alternates : Ensures held saveAlternates (fun _ => held) stopped :=
    get_bind fun keeper => (writes keeper _ _ (.inr rfl)).bind fun _ => unmarked keeper _
  exact (whenever_keeps notices).bind fun _ => whenever_keeps alternates

theorem flush
    (writes : ∀ keeper volume volume' path, held keeper volume →
      path = keeper.layout.notices ∨ path = keeper.layout.alternates →
      volume.ChangedAt (· = path) volume' → held keeper volume')
    (marks : ∀ keeper volume unsaved, held keeper volume → held { keeper with unsaved } volume) :
    Ensures held Keeper.flush (fun _ => held) held :=
  flush_of_writes (writes_of_editedAt fun keeper volume volume' path holds stored edited =>
    writes keeper volume volume' path holds stored edited.changedAt) marks

/-- Publishing reads the template and writes three files. -/
theorem publish_of_writes (now : Instant)
    (template : Ensures held Keeper.readTemplate (fun _ => held) stopped)
    (writes : Writes held stopped fun keeper path => path = keeper.layout.livePage ∨
      path = keeper.layout.roster ∨ path = keeper.layout.absencePage) :
    Ensures held (Keeper.publish now) (fun _ => held) stopped := by
  refine template.bind fun page => get_bind fun keeper => ?_
  refine (writes keeper _ _ (.inl rfl)).bind fun _ => ?_
  refine (writes keeper _ _ (.inr (.inl rfl))).bind fun _ => ?_
  refine (writes keeper _ _ (.inr (.inr rfl))).weaken (fun _ _ => id) ?_ (fun _ _ => id)
  rintro _ _ _ ⟨rfl, holds⟩
  exact holds

/-- A rollover writes two files that it keeps, goes on with the board of the new day and the notices
marked, and saves what is marked. -/
theorem rollover_of_writes (now : Instant)
    (template : Ensures held Keeper.readTemplate (fun _ => held) stopped)
    (reads : ∀ keeper volume, held keeper volume → held keeper volume.counted)
    (writes : Writes held stopped fun keeper path =>
      path = keeper.layout.backup now.date.previous ∨
        path = keeper.layout.snapshot now.date.previous)
    (begins : ∀ keeper volume managers presets, held keeper volume →
      (∀ account preset, presets.find? account = some preset →
        (storedPresets keeper.layout volume).find? account = some preset) →
      held (note (.rollover now.date) { keeper with
        board := { forNewDay now keeper.board with
          managers, roster := ((forNewDay now keeper.board).roster.seed presets now).1 }
        unsaved := { keeper.unsaved with notices := true }
        lastRollover := some now.date }) volume)
    (saves : Ensures held Keeper.flush (fun _ => held) stopped) :
    Ensures held (Keeper.rollover now) (fun _ => held) stopped := by
  refine template.bind fun page => get_bind fun keeper => ?_
  refine (writes keeper _ _ (.inl rfl)).bind fun _ => (writes keeper _ _ (.inr rfl)).bind fun _ => ?_
  -- The board of the new day is loaded without a change to any file.
  have renewed : Ensures (fun keeper' volume => keeper' = keeper ∧ held keeper volume)
      (Keeper.onDisk (reload keeper.layout now (forNewDay now keeper.board)))
      (fun board _ volume => held (note (.rollover now.date) { keeper with
        board, unsaved := { keeper.unsaved with notices := true }, lastRollover := some now.date })
        volume)
      stopped := by
    refine onDisk ?_
    rintro keeper' volume ⟨rfl, holds⟩
    obtain ⟨managers, presets, run, stored⟩ :=
      run_reload keeper'.layout now (forNewDay now keeper'.board) volume
    have counted := reads _ _ (reads _ _ holds)
    exact ⟨_, _, run, begins keeper' _ managers presets counted stored⟩
  exact renewed.bind fun board => (set fun _ _ begun => begun).bind fun _ => saves

theorem rollover (now : Instant)
    (reads : ∀ keeper volume, held keeper volume → held keeper volume.counted)
    (keeps : ∀ keeper volume volume' path, held keeper volume →
      path = keeper.layout.backup now.date.previous ∨
        path = keeper.layout.snapshot now.date.previous →
      volume.ChangedAt (· = path) volume' → held keeper volume')
    (begins : ∀ keeper volume managers presets, held keeper volume →
      (∀ account preset, presets.find? account = some preset →
        (storedPresets keeper.layout volume).find? account = some preset) →
      held (note (.rollover now.date) { keeper with
        board := { forNewDay now keeper.board with
          managers, roster := ((forNewDay now keeper.board).roster.seed presets now).1 }
        unsaved := { keeper.unsaved with notices := true }
        lastRollover := some now.date }) volume)
    (saves : Ensures held Keeper.flush (fun _ => held) held) :
    Ensures held (Keeper.rollover now) (fun _ => held) held :=
  rollover_of_writes now
    (readTemplate reads fun keeper volume holds _ => reads keeper volume holds) reads
    (writes_of_editedAt fun keeper volume volume' path holds stored edited =>
      keeps keeper volume volume' path holds stored edited.changedAt)
    begins saves

end Ensures

/-- A start makes five requests, none of which changes a file, and the keeper begins with nothing done
and nothing marked. -/
theorem run_start_plain (settings : Settings) (now : Instant) (volume : Volume) :
    ∃ board, (Keeper.start settings now : StateM Volume Keeper).run volume =
      Pure.pure (⟨settings, board, none, .none, []⟩, volume.counted.counted.counted.counted.counted) := by
  obtain ⟨saved, load⟩ : ∃ board, (loadBoard settings : StateM Volume Board).run volume =
      Pure.pure (board, volume.counted.counted.counted) := by
    simp only [loadBoard, loadRoster, loadNotices, loadAlternates, StateT.run_bind, run_loadedOr,
      pure_bind, StateT.run_pure]
    exact ⟨_, rfl⟩
  obtain ⟨managers, presets, renew, _⟩ :=
    run_reload settings.layout now saved volume.counted.counted.counted
  simp only [Keeper.start, StateT.run_bind, load, pure_bind, renew, StateT.run_pure]
  exact ⟨_, rfl⟩

/-! ### A plain keeper -/

/-- Settings with everything below the working directory. -/
def plainSettings : Settings where
  spoolDirectory := "spool"
  template := "page.html"
  layout := .below ""
  domain := "example.org"
  manualUrl := ""
  intervalSeconds := 60
  rolloverHour := 4
  listen := none

/-- Reads the mail of a board that is at a place of the common zone. -/
def plainReader : Letter.Reader := Letter.reader .common

end Whereabouts.Keeper
