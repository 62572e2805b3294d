import Mathlib
import Whereabouts.Proofs.Keeper.Work
import Whereabouts.Proofs.Letter.SentDate
import Whereabouts.Proofs.Mail.Changes
import Whereabouts.Proofs.Spool
/-!
# What is on the disk

## Main result

`saved_as_marked`: at every point between cycles, a table that is not marked would be loaded as the
keeper has it; and after a cycle that succeeded nothing is marked and a start would load the whole
board.

## Strategy

Every step of the work, whether it ends or stops, leaves the keeper faithful to its disk: what is not
marked is stored. Mail marks what it changes, a mark goes only after its table was written, and
nothing else that is written is the file of a table.
-/
namespace Whereabouts.Keeper

open Whereabouts.Calendar Whereabouts.Mail Whereabouts.Archive

/-! ### Loading -/

/-- The board that a start would load from these files. -/
def savedBoard (settings : Settings) (tree : Tree) : Board :=
  (Id.run ((loadBoard settings : StateM Volume Board).run (.ofTree tree))).1

/-- The volume refuses to read no table. -/
def ReadsTables (layout : Layout) (volume : Volume) : Prop :=
  ∀ path, layout.IsTable path → volume.Reads path

private theorem run_loadBoard {settings : Settings} {volume : Volume}
    (reads : ReadsTables settings.layout volume) :
    (loadBoard settings : StateM Volume Board).run volume =
      pure ({ Board.new settings.domain with
          roster := storedRoster settings.layout volume
          notices := (NoticeIndex.load (storedNotices settings.layout volume)).1
          alternates := .ofListed (storedAlternates settings.layout volume) },
        volume.counted.counted.counted) := by
  have roster : (volume.answer _).toOption = _ := Volume.answer_of_reads (reads _ (.inl rfl))
  have notices : (volume.counted.answer _).toOption = _ :=
    Volume.answer_of_reads (reads _ (.inr (.inl rfl)))
  have alternates : (volume.counted.counted.answer _).toOption = _ :=
    Volume.answer_of_reads (reads _ (.inr (.inr rfl)))
  simp only [loadBoard, loadRoster, loadNotices, loadAlternates, StateT.run_bind, run_loadedOr,
    getD_loadedFrom, pure_bind, roster, notices, alternates, StateT.run_pure]
  rfl

private theorem savedBoard_tree (settings : Settings) (volume : Volume) :
    savedBoard settings volume.tree =
      { Board.new settings.domain with
        roster := storedRoster settings.layout volume
        notices := (NoticeIndex.load (storedNotices settings.layout volume)).1
        alternates := .ofListed (storedAlternates settings.layout volume) } := by
  have reads : ReadsTables settings.layout (.ofTree volume.tree) := fun _ _ _ => rfl
  rw [savedBoard, run_loadBoard reads]
  rfl

private theorem savedBoard_roster (settings : Settings) (volume : Volume) :
    (savedBoard settings volume.tree).roster = storedRoster settings.layout volume :=
  congrArg Board.roster (savedBoard_tree settings volume)

private theorem savedBoard_notices (settings : Settings) (volume : Volume) :
    (savedBoard settings volume.tree).notices =
      (NoticeIndex.load (storedNotices settings.layout volume)).1 :=
  congrArg Board.notices (savedBoard_tree settings volume)

private theorem savedBoard_listed (settings : Settings) (volume : Volume) :
    (savedBoard settings volume.tree).alternates.listed =
      storedAlternates settings.layout volume := by
  rw [savedBoard_tree]
  rfl

/-! ### Keepers that are faithful to their disk -/

/-- What is not marked is stored, and all that the board has can be. -/
structure Faithful (settings : Settings) (keeper : Keeper) (volume : Volume) : Prop where
  own : keeper.settings = settings
  storable : keeper.board.Storable
  notices : keeper.unsaved.notices = false →
    (NoticeIndex.load (storedNotices settings.layout volume)).1 = keeper.board.notices
  alternates : keeper.unsaved.alternates = false →
    storedAlternates settings.layout volume = keeper.board.alternates.listed

variable {settings : Settings} {reader : Letter.Reader} {keeper : Keeper} {volume volume' : Volume}

/-- Only the two files count. -/
private theorem Faithful.changedAt {touched : String → Prop}
    (faithful : Faithful settings keeper volume) (changed : volume.ChangedAt touched volume')
    (apart : ∀ path, touched path → path ≠ settings.layout.notices ∧ path ≠ settings.layout.alternates) :
    Faithful settings keeper volume' where
  own := faithful.own
  storable := faithful.storable
  notices clean := by
    rw [storedNotices, changed.files _ fun touches => (apart _ touches).1 rfl]
    exact faithful.notices clean
  alternates clean := by
    rw [storedAlternates, changed.files _ fun touches => (apart _ touches).2 rfl]
    exact faithful.alternates clean

private theorem Faithful.of_not_isTable {path : String} (faithful : Faithful settings keeper volume)
    (noTable : ¬ settings.layout.IsTable path) (changed : volume.ChangedAt (· = path) volume') :
    Faithful settings keeper volume' :=
  faithful.changedAt changed fun _ same =>
    ⟨fun notices => noTable (.inr (.inl (same.symm.trans notices))),
      fun alternates => noTable (.inr (.inr (same.symm.trans alternates)))⟩

private theorem Faithful.counted (faithful : Faithful settings keeper volume) :
    Faithful settings keeper volume.counted :=
  faithful.changedAt (.counted (fun _ => False) volume) fun _ => False.elim

/-- Work that leaves the keeper faithful however it ends. -/
def Keeps {α : Type} (settings : Settings) (work : Work (StateM Volume) α) : Prop :=
  Ensures (Faithful settings) work (fun _ => Faithful settings) (Faithful settings)

/-! ### Saving -/

/-- A write to the notices leaves the alternates alone. -/
private theorem Faithful.writeNotices (faithful : Faithful settings keeper volume)
    (changed : volume.ChangedAt (· = settings.layout.notices) volume') (mark : Bool)
    (stored : mark = false →
      (NoticeIndex.load (storedNotices settings.layout volume')).1 = keeper.board.notices) :
    Faithful settings { keeper with unsaved := { keeper.unsaved with notices := mark } } volume' where
  own := faithful.own
  storable := faithful.storable
  notices := stored
  alternates clean := by
    rw [storedAlternates, changed.files _ (settings.layout.notices_ne_alternates ·.symm)]
    exact faithful.alternates clean

/-- A write to the alternates leaves the notices alone. -/
private theorem Faithful.writeAlternates (faithful : Faithful settings keeper volume)
    (changed : volume.ChangedAt (· = settings.layout.alternates) volume') (mark : Bool)
    (stored : mark = false →
      storedAlternates settings.layout volume' = keeper.board.alternates.listed) :
    Faithful settings { keeper with unsaved := { keeper.unsaved with alternates := mark } }
      volume' where
  own := faithful.own
  storable := faithful.storable
  notices clean := by
    rw [storedNotices, changed.files _ settings.layout.notices_ne_alternates]
    exact faithful.notices clean
  alternates := stored

private theorem saveNotices_clears :
    Ensures (fun keeper volume => keeper.unsaved.notices = true ∧ Faithful settings keeper volume)
      saveNotices
      (fun _ keeper volume => Faithful settings keeper volume ∧ keeper.unsaved.notices = false)
      (Faithful settings) := by
  refine .get_bind fun keeper => ?_
  have saved : Ensures
      (fun keeper' volume => keeper' = keeper ∧ keeper.unsaved.notices = true ∧
        Faithful settings keeper volume)
      (archived (Archive.saveNotices keeper.layout keeper.board.notices.grouped))
      (fun _ _ volume => Faithful settings
        { keeper with unsaved := { keeper.unsaved with notices := false } } volume)
      (Faithful settings) := by
    refine .write ?_ ?_
    · -- A failed write may have spoiled the file, but the mark is still there.
      rintro _ volume volume' ⟨rfl, marked, rfl, storable, notices, alternates⟩ changed
      have faithful : Faithful _ _ volume := ⟨rfl, storable, notices, alternates⟩
      have kept := faithful.writeNotices changed true nofun
      rw [← marked] at kept
      exact kept
    · rintro _ volume volume' ⟨_, _, rfl, storable, notices, alternates⟩ changed written
      have faithful : Faithful _ _ volume := ⟨rfl, storable, notices, alternates⟩
      have stored : storedNotices keeper.settings.layout volume' = keeper.board.notices.grouped :=
        storedNotices_of_saved storable.notices.inCalendar written
      exact faithful.writeNotices changed false fun _ => stored.symm ▸ storable.notices.load
  refine saved.bind fun _ => .set ?_
  intro _ volume faithful
  exact ⟨faithful, rfl⟩

private theorem saveAlternates_clears :
    Ensures
      (fun keeper volume => keeper.unsaved.alternates = true ∧ Faithful settings keeper volume ∧
        keeper.unsaved.notices = false)
      saveAlternates (fun _ keeper volume => Faithful settings keeper volume ∧ keeper.unsaved = .none)
      (Faithful settings) := by
  refine .get_bind fun keeper => ?_
  have saved : Ensures
      (fun keeper' volume => keeper' = keeper ∧ keeper.unsaved.alternates = true ∧
        Faithful settings keeper volume ∧ keeper.unsaved.notices = false)
      (archived (Archive.saveAlternates keeper.layout keeper.board.alternates.listed))
      (fun _ _ volume => keeper.unsaved.notices = false ∧ Faithful settings
        { keeper with unsaved := { keeper.unsaved with alternates := false } } volume)
      (Faithful settings) := by
    refine .write ?_ ?_
    · rintro _ volume volume' ⟨rfl, marked, ⟨rfl, storable, notices, alternates⟩, _⟩ changed
      have faithful : Faithful _ _ volume := ⟨rfl, storable, notices, alternates⟩
      have kept := faithful.writeAlternates changed true nofun
      rw [← marked] at kept
      exact kept
    · rintro _ volume volume' ⟨_, _, ⟨rfl, storable, notices, alternates⟩, clean⟩ changed written
      have faithful : Faithful _ _ volume := ⟨rfl, storable, notices, alternates⟩
      exact ⟨clean, faithful.writeAlternates changed false fun _ => storedAlternates_of_saved written⟩
  refine saved.bind fun _ => .set ?_
  rintro _ volume ⟨clean, faithful⟩
  exact ⟨faithful, by simp [clean, Changes.none]⟩

private theorem flush_clears :
    Ensures (Faithful settings) flush
      (fun _ keeper volume => Faithful settings keeper volume ∧ keeper.unsaved = .none)
      (Faithful settings) := by
  have first : Ensures (Faithful settings) (whenever (·.unsaved.notices) saveNotices)
      (fun _ keeper volume => Faithful settings keeper volume ∧ keeper.unsaved.notices = false)
      (Faithful settings) :=
    .whenever saveNotices_clears fun _ _ clean faithful => ⟨faithful, clean⟩
  refine first.bind fun _ => .whenever saveAlternates_clears ?_
  rintro keeper volume clean ⟨faithful, clean'⟩
  exact ⟨faithful, congrArg₂ Changes.mk clean' clean⟩

/-! ### Publishing -/

/-- Whether the pages lie elsewhere than the tables. -/
def PagesApart (layout : Layout) : Prop :=
  ¬ layout.IsTable layout.livePage ∧ ¬ layout.IsTable layout.absencePage

private theorem publish_saves (apart : PagesApart settings.layout) (now : Instant) :
    Ensures (fun keeper volume => Faithful settings keeper volume ∧ keeper.unsaved = .none)
      (publish now)
      (fun _ keeper volume => Faithful settings keeper volume ∧ keeper.unsaved = .none ∧
        storedRoster settings.layout volume = keeper.board.roster)
      (Faithful settings) := by
  have template : Ensures
      (fun keeper volume => Faithful settings keeper volume ∧ keeper.unsaved = .none) readTemplate
      (fun _ keeper volume => Faithful settings keeper volume ∧ keeper.unsaved = .none)
      (Faithful settings) :=
    .readTemplate (fun _ _ holds => ⟨holds.1.counted, holds.2⟩) fun _ _ holds _ => holds.1.counted
  refine template.bind fun page => .get_bind fun keeper => ?_
  let holds (volume : Volume) : Prop := Faithful settings keeper volume ∧ keeper.unsaved = .none
  have live (text : List Char) : Ensures (fun keeper' volume => keeper' = keeper ∧ holds volume)
      (archived (Archive.write keeper.layout.livePage text))
      (fun _ keeper' volume => keeper' = keeper ∧ holds volume) (Faithful settings) := by
    refine .write ?_ ?_
    · rintro _ volume volume' ⟨rfl, faithful, _⟩ changed
      exact faithful.of_not_isTable (faithful.own ▸ apart.1) changed
    · rintro _ volume volume' ⟨rfl, faithful, clean⟩ changed _
      exact ⟨rfl, faithful.of_not_isTable (faithful.own ▸ apart.1) changed, clean⟩
  have roster : Ensures (fun keeper' volume => keeper' = keeper ∧ holds volume)
      (archived (Archive.saveRoster keeper.layout keeper.board.roster))
      (fun _ keeper' volume => keeper' = keeper ∧ holds volume ∧
        storedRoster settings.layout volume = keeper.board.roster) (Faithful settings) := by
    have untouched (path : String) (same : path = settings.layout.roster) :
        path ≠ settings.layout.notices ∧ path ≠ settings.layout.alternates :=
      same ▸ ⟨settings.layout.roster_ne_notices, settings.layout.roster_ne_alternates⟩
    refine .write ?_ ?_
    · rintro _ volume volume' ⟨rfl, ⟨rfl, storable, notices, alternates⟩, _⟩ changed
      have faithful : Faithful _ _ volume := ⟨rfl, storable, notices, alternates⟩
      exact faithful.changedAt changed untouched
    · rintro _ volume volume' ⟨rfl, ⟨rfl, storable, notices, alternates⟩, clean⟩ changed written
      have faithful : Faithful _ _ volume := ⟨rfl, storable, notices, alternates⟩
      exact ⟨rfl, ⟨faithful.changedAt changed untouched, clean⟩,
        storedRoster_of_saved storable.roster written⟩
  have absence (text : List Char) : Ensures
      (fun keeper' volume => keeper' = keeper ∧ holds volume ∧
        storedRoster settings.layout volume = keeper.board.roster)
      (archived (Archive.write keeper.layout.absencePage text))
      (fun _ keeper volume => Faithful settings keeper volume ∧ keeper.unsaved = .none ∧
        storedRoster settings.layout volume = keeper.board.roster) (Faithful settings) := by
    refine .write ?_ ?_
    · rintro _ volume volume' ⟨rfl, ⟨faithful, _⟩, _⟩ changed
      exact faithful.of_not_isTable (faithful.own ▸ apart.2) changed
    · rintro keeper' volume volume' ⟨rfl, ⟨faithful, clean⟩, same⟩ changed _
      -- The page that is written last is not the roster that was saved before it.
      have elsewhere : settings.layout.roster ≠ keeper'.layout.absencePage := fun same =>
        apart.2 (.inl (faithful.own ▸ same.symm))
      refine ⟨faithful.of_not_isTable (faithful.own ▸ apart.2) changed, clean, ?_⟩
      rw [storedRoster, changed.files _ elsewhere]
      exact same
  exact (live _).bind fun _ => roster.bind fun _ => absence _

/-! ### Mail -/

private theorem unsaved_record (path : String) (outcome : Outcome) (keeper : Keeper) :
    (record path outcome keeper).unsaved = marked keeper.unsaved outcome.changes := by
  cases outcome <;> simp [record, note, Outcome.changes, marked, Changes.none]

/-- A letter marks every table that it changes. -/
private theorem Faithful.record (faithful : Faithful settings keeper volume) {board : Board}
    {outcome : Outcome} (leaves : Leaves keeper.board board outcome.changes) (path : String) :
    Faithful settings (record path outcome { keeper with board }) volume where
  own := (settings_record path outcome _).trans faithful.own
  storable := (board_record path outcome _).symm ▸ leaves.storable
  notices clean := by
    rw [unsaved_record] at clean
    -- Without a mark there was none before, and the letter did not set one.
    obtain ⟨before, unchanged⟩ := Bool.or_eq_false_iff.mp clean
    rw [board_record, leaves.notices unchanged]
    exact faithful.notices before
  alternates clean := by
    rw [unsaved_record] at clean
    obtain ⟨before, unchanged⟩ := Bool.or_eq_false_iff.mp clean
    rw [board_record, leaves.alternates unchanged]
    exact faithful.alternates before

private theorem logOutcome_keeps (today : Date) (outcome : Outcome) :
    Keeps settings (logOutcome today outcome) := by
  refine .logOutcome today outcome ?_ ?_
  · intro keeper volume volume' faithful edited
    rw [Keeper.layout, faithful.own] at edited
    exact faithful.of_not_isTable settings.layout.not_isTable_rejections edited.changedAt
  · intro keeper volume error faithful
    exact ⟨faithful.own, faithful.storable, faithful.notices, faithful.alternates⟩

/-- Mail that is taken is no table. -/
private theorem take_keeps {path : String} (mail : Spool.IsMail settings.spoolDirectory path) :
    Keeps settings (request .mailbox (Spool.take path)) := by
  -- Mail and tables differ in their extensions.
  have noTable : ¬ settings.layout.IsTable path := by
    obtain ⟨name, named, rfl⟩ := mail
    exact settings.layout.not_isTable_mail named
  refine .request fun keeper volume faithful => ?_
  obtain ⟨result, volume', run, changed, _⟩ := Spool.run_take volume path
  refine ⟨result, volume', run, ?_⟩
  cases result <;> exact faithful.of_not_isTable noTable changed

private theorem accept_keeps {letter : String × Message} (today : Date)
    (mail : Spool.IsMail settings.spoolDirectory letter.1) (inside : letter.2.sentAt.InCalendar) :
    Keeps settings (accept today letter) := by
  refine (take_keeps mail).bind fun _ => .get_bind fun keeper => ?_
  have applied : Ensures (fun keeper' volume => keeper' = keeper ∧ Faithful settings keeper volume)
      (set (record letter.1 (interpret keeper.board letter.2).2
        { keeper with board := (interpret keeper.board letter.2).1 }))
      (fun _ => Faithful settings) (Faithful settings) := by
    refine .set ?_
    rintro _ volume ⟨rfl, faithful⟩
    exact faithful.record (interpret_leaves faithful.storable inside) _
  exact applied.bind fun _ => logOutcome_keeps today _

private theorem discard_keeps {path : String} (mail : Spool.IsMail settings.spoolDirectory path) :
    Keeps settings (discard path) :=
  (take_keeps mail).bind fun _ => .modify fun _ _ faithful =>
    ⟨faithful.own, faithful.storable, faithful.notices, faithful.alternates⟩

private theorem takeMail_keeps (dated : reader.Dated) (now : Instant) {received : Instant}
    (inside : received.InCalendar) : Keeps settings (takeMail reader now received) := by
  let Sound (waiting : Spool.Waiting) : Prop :=
    (∀ letter ∈ waiting.letters,
      Spool.IsMail settings.spoolDirectory letter.1 ∧ letter.2.sentAt.InCalendar) ∧
    ∀ path ∈ waiting.others, Spool.IsMail settings.spoolDirectory path
  refine .get_bind fun keeper => ?_
  have fetched : Ensures (fun keeper' volume => keeper' = keeper ∧ Faithful settings keeper volume)
      (request .mailbox (Spool.fetch reader keeper.settings.spoolDirectory received))
      (fun waiting keeper volume => Sound waiting ∧ Faithful settings keeper volume)
      (Faithful settings) := by
    refine .request ?_
    rintro keeper' volume ⟨rfl, faithful⟩
    obtain ⟨result, volume', run, tree, refuses, found⟩ :=
      Spool.run_fetch volume reader keeper'.settings.spoolDirectory received
    have unchanged : volume.ChangedAt (fun _ => False) volume' :=
      ⟨fun path _ => congrArg (·.fileAt? path) tree, refuses⟩
    have kept := faithful.changedAt unchanged nofun
    refine ⟨result, volume', run, ?_⟩
    cases result with
    | error => exact kept
    | ok waiting =>
      obtain ⟨names, deliveries, _, rfl, paths, answered⟩ := found waiting rfl
      rw [faithful.own] at paths
      refine ⟨⟨fun letter member => ?_, fun path member => ?_⟩, kept⟩
      · have delivered := Spool.mem_letters.mp member
        refine ⟨Spool.isMail_of_mem paths delivered, ?_⟩
        exact (answered _ delivered).stems.inCalendar dated inside rfl
      · exact Spool.isMail_of_mem paths (Spool.mem_others.mp member)
  refine fetched.bind fun waiting => .knowing fun sound => ?_
  have discarded : Keeps settings (waiting.others.forM discard) :=
    .forM_of_mem fun path member => discard_keeps (sound.2 path member)
  refine discarded.bind fun _ => .forM_of_mem fun letter member => ?_
  obtain ⟨mail, sent⟩ := sound.1 letter member
  exact accept_keeps now.date mail sent

/-! ### The new day -/

/-- Presets that are those of their file, as far as there are any, lie in the calendar. -/
private theorem inCalendar_of_stored {layout : Layout} {volume : Volume} {presets : Table Preset}
    (stored : ∀ account preset, presets.find? account = some preset →
      (storedPresets layout volume).find? account = some preset) :
    ∀ account preset, presets.find? account = some preset → preset.person.InCalendar :=
  fun account preset found =>
    inCalendar_storedPresets layout volume account preset (stored account preset found)

/-- The board of the new day can be stored, and its notices are marked. -/
private theorem rollover_keeps (now : Instant) : Keeps settings (rollover now) := by
  refine .rollover now (fun _ _ faithful => faithful.counted) ?_ ?_ ?_
  · rintro keeper volume volume' path faithful aside changed
    rw [Keeper.layout, faithful.own] at aside
    refine faithful.of_not_isTable ?_ changed
    rcases aside with rfl | rfl
    · exact settings.layout.not_isTable_backup _
    · exact settings.layout.not_isTable_snapshot _
  · intro keeper volume managers presets faithful stored
    have inside := inCalendar_of_stored stored
    -- The mark makes a save due, so the ended notices leave the disk as well.
    exact ⟨faithful.own, ⟨faithful.storable.notices.change (.collectGarbage now) nofun,
      Roster.inCalendar_empty.seed inside now⟩, nofun, faithful.alternates⟩
  · exact flush_clears.weaken (fun _ _ => id) (fun _ _ _ cleared => cleared.1) fun _ _ => id

/-! ### Cycles -/

theorem cycle_saves (apart : PagesApart settings.layout) (dated : reader.Dated) (now : Instant)
    {received : Instant} (inside : received.InCalendar) :
    Ensures (Faithful settings) (cycle reader now received)
      (fun _ keeper volume => Faithful settings keeper volume ∧ keeper.unsaved = .none ∧
        storedRoster settings.layout volume = keeper.board.roster)
      (Faithful settings) := by
  have begun : Keeps settings (whenever (·.rolloverDue now) (rollover now)) :=
    .whenever_keeps (rollover_keeps now)
  exact begun.bind fun _ => (takeMail_keeps dated now inside).bind fun _ => flush_clears.bind fun _ =>
    publish_saves apart now

/-! ### Runs -/

/-- Nobody has edited a table. -/
def SameTables (layout : Layout) (before after : Volume) : Prop :=
  ∀ path, layout.IsTable path → after.fileAt? path = before.fileAt? path

private theorem Faithful.sameTables (faithful : Faithful settings keeper volume)
    (same : SameTables settings.layout volume volume') : Faithful settings keeper volume' where
  own := faithful.own
  storable := faithful.storable
  notices clean := by
    rw [storedNotices, same _ (.inr (.inl rfl))]
    exact faithful.notices clean
  alternates clean := by
    rw [storedAlternates, same _ (.inr (.inr rfl))]
    exact faithful.alternates clean

/-- The keepers of a run and the volumes they work on, at the points between cycles. What is not a
table may change between cycles in any way, and so may what the volume refuses. -/
inductive Reached (settings : Settings) (reader : Letter.Reader) : Keeper → Volume → Prop
  | start {now : Instant} {volume volume' : Volume} {keeper : Keeper}
    (reads : ReadsTables settings.layout volume)
    (started : (Keeper.start settings now : StateM Volume Keeper).run volume =
      pure (keeper, volume')) : Reached settings reader keeper volume'
  | meanwhile {keeper : Keeper} {volume volume' : Volume}
    (reached : Reached settings reader keeper volume)
    (same : SameTables settings.layout volume volume') : Reached settings reader keeper volume'
  | cycle {keeper keeper' : Keeper} {volume volume' : Volume} {now received : Instant}
    {result : Except KeeperError Unit} (reached : Reached settings reader keeper volume)
    (inside : received.InCalendar)
    (ended : (runCycle reader keeper now received : StateM Volume _).run volume =
      pure ((result, keeper'), volume')) :
    Reached settings reader keeper' volume'

/-- Mail that arrives is something that happens meanwhile. -/
private theorem Reached.delivered (reached : Reached settings reader keeper volume) {path : String}
    (mail : Spool.IsMail settings.spoolDirectory path) {content : ByteArray} {tree : Tree}
    (put : volume.tree.changeFile path (fun _ => content) = .ok tree) :
    Reached settings reader keeper { volume with tree } := by
  refine reached.meanwhile fun table isTable => ?_
  obtain ⟨name, named, rfl⟩ := mail
  have other : table ≠ Path.join settings.spoolDirectory name := fun same =>
    settings.layout.not_isTable_mail named (same ▸ isTable)
  exact (Tree.fileAt?_changeFile put table).trans (if_neg other)

private theorem run_start (now : Instant) (reads : ReadsTables settings.layout volume) :
    ∃ managers presets, (Keeper.start settings now : StateM Volume Keeper).run volume =
        pure ({
          settings
          board := { savedBoard settings volume.tree with
            managers
            roster := ((savedBoard settings volume.tree).roster.seed presets now).1 }
          lastRollover := none, unsaved := .none, journal := [] },
          volume.counted.counted.counted.counted.counted) ∧
      ∀ account preset, presets.find? account = some preset →
        (storedPresets settings.layout volume).find? account = some preset := by
  obtain ⟨managers, presets, run, stored⟩ := run_reload settings.layout now
    (savedBoard settings volume.tree) volume.counted.counted.counted
  refine ⟨managers, presets, ?_, stored⟩
  have load := run_loadBoard reads
  rw [← savedBoard_tree] at load
  simp only [Keeper.start, StateT.run_bind, load, pure_bind, run, StateT.run_pure]

theorem Reached.faithful (apart : PagesApart settings.layout) (dated : reader.Dated)
    (reached : Reached settings reader keeper volume) : Faithful settings keeper volume := by
  induction reached with
  | @start now volume _ _ reads started =>
    obtain ⟨managers, presets, run, stored⟩ := run_start _ reads
    have inside := inCalendar_of_stored stored
    have roster := savedBoard_roster settings volume
    have notices := savedBoard_notices settings volume
    have listed := savedBoard_listed settings volume
    generalize savedBoard settings volume.tree = saved at run roster notices listed
    cases run.symm.trans started
    refine ⟨rfl, ⟨?_, ?_⟩, fun _ => notices.symm, fun _ => listed.symm⟩
    · exact notices ▸ NoticeIndex.storable_load (inCalendar_storedNotices settings.layout volume)
    · exact (roster ▸ inCalendar_storedRoster settings.layout volume).seed inside now
  | meanwhile _ same faithful => exact faithful.sameTables same
  | @cycle keeper _ volume _ now received result _ inside ended faithful =>
    have kept := cycle_saves apart dated now inside keeper volume faithful
    rw [run_runCycle.mp ended] at kept
    cases result with
    | ok => exact kept.1
    | error => exact kept

/-- What a start would load is what the keeper has, table by table, unless the table is marked. A
cycle that succeeded leaves no mark; it saved the roster too, so that a new start, if no preset applies
then, brings back what the keeper had. -/
theorem saved_as_marked {root : String} (usual : settings.layout = .below root) (dated : reader.Dated)
    (reached : Reached settings reader keeper volume) :
    (keeper.unsaved.notices = false →
      (savedBoard settings volume.tree).notices = keeper.board.notices) ∧
    (keeper.unsaved.alternates = false →
      (savedBoard settings volume.tree).alternates.listed = keeper.board.alternates.listed) ∧
    ∀ now received keeper' volume', received.InCalendar →
      (runCycle reader keeper now received : StateM Volume _).run volume =
        pure ((.ok (), keeper'), volume') →
      keeper'.unsaved = .none ∧
        (savedBoard settings volume'.tree).roster = keeper'.board.roster ∧
        ∀ later volumeLater, SameTables settings.layout volume' volumeLater →
          ReadsTables settings.layout volumeLater →
          (∀ account preset, (storedPresets settings.layout volumeLater).find? account = some preset →
            preset.holdsAt later ≠ .ok true) →
          ∃ restarted volume'', (Keeper.start settings later : StateM Volume Keeper).run volumeLater =
              pure (restarted, volume'') ∧
            restarted.board.roster = keeper'.board.roster ∧
            restarted.board.notices = keeper'.board.notices ∧
            restarted.board.alternates.listed = keeper'.board.alternates.listed := by
  -- In the usual layout the pages end in another way than the tables.
  have apart : PagesApart settings.layout := by
    rw [usual]
    exact ⟨Layout.not_isTable_livePage root, Layout.not_isTable_absencePage root⟩
  have faithful := reached.faithful apart dated
  refine ⟨fun clean => ?_, fun clean => ?_, ?_⟩
  · rw [savedBoard_notices]
    exact faithful.notices clean
  · rw [savedBoard_listed]
    exact faithful.alternates clean
  intro now received keeper' volume' inside ended
  have saved := cycle_saves apart dated now inside keeper volume faithful
  rw [run_runCycle.mp ended] at saved
  obtain ⟨faithful', clean, roster⟩ := saved
  refine ⟨clean, (savedBoard_roster settings volume').trans roster, ?_⟩
  -- A start later finds the same tables, and its presets change nothing.
  intro later volumeLater same reads inactive
  obtain ⟨managers, presets, run, stored⟩ := run_start later reads
  have faithfulLater := faithful'.sameTables same
  have rosterLater : storedRoster settings.layout volumeLater = keeper'.board.roster := by
    rw [storedRoster, same _ (.inl rfl)]
    exact roster
  have sameRoster := (savedBoard_roster settings volumeLater).trans rosterLater
  have sameNotices := (savedBoard_notices settings volumeLater).trans
    (faithfulLater.notices (congrArg Changes.notices clean))
  have sameListed := (savedBoard_listed settings volumeLater).trans
    (faithfulLater.alternates (congrArg Changes.alternates clean))
  generalize savedBoard settings volumeLater.tree = saved at run sameRoster sameNotices sameListed
  refine ⟨_, _, run, Eq.trans (Roster.seed_of_inactive ?_) sameRoster, sameNotices, sameListed⟩
  exact fun account preset found => inactive account preset (stored account preset found)

/-! ### A save that fails

A morning's mail in a run that the result above is seen at: the notices cannot be written at first, and
what is on the disk is spoiled. -/

/-- Alice reports that Bob is away. -/
def absenceLetter : ByteArray :=
  "From: alice@example.org\n\n[不在連絡]\n不在者[bob]\n不在期間[2024/05/13]\n".toUTF8

/-- Alice registers an address of her phone. -/
def phoneLetter : ByteArray := "From: alice@example.org\n\n[修正]\nALT[phone@mobile.jp]\n".toUTF8

/-- A disk with the first letter. It refuses to write the notices, and leaves half a table in their
file. -/
def stuckVolume : Volume :=
  { Volume.ofTree (Table.ofList [("output", .directory), ("page.html", .file "page".toUTF8),
      ("spool", .directory), ("spool/a.eml", .file absenceLetter), ("state", .directory)]) with
    refuses := fun _ access => access = .write "state/absence.json"
    leaves := fun _ => some "\x7b".toUTF8 }

def pastNine (minute : Nat) : Instant := .atSecond ⟨2024, 5, 3, by decide⟩ ((540 + minute) * 60)

def opened : Keeper × Volume :=
  Id.run ((Keeper.start plainSettings (pastNine 0) : StateM Volume _).run stuckVolume)

/-- The cycle that takes the first letter, and fails to save the notice. -/
def failedCycle : Except KeeperError Unit × Keeper × Volume :=
  endOf (cycle plainReader (pastNine 0) (pastNine 1)) opened.1 opened.2

/-- The files once the second letter is delivered. -/
def phonedTree : Tree :=
  (failedCycle.2.2.tree.changeFile "spool/b.eml" fun _ => phoneLetter).toOption.getD .empty

/-- The disk refuses nothing any more. -/
def freedVolume : Volume :=
  { failedCycle.2.2 with tree := phonedTree, refuses := fun _ _ => false }

/-- The cycle that takes the second letter, and saves both tables. -/
def nextCycle : Except KeeperError Unit × Keeper × Volume :=
  endOf (cycle plainReader (pastNine 10) (pastNine 11)) failedCycle.2.1 freedVolume

private theorem reached_freedVolume :
    Reached plainSettings plainReader failedCycle.2.1 freedVolume := by
  have reads : ReadsTables plainSettings.layout stuckVolume := fun _ _ _ => rfl
  have started : (Keeper.start plainSettings (pastNine 0) : StateM Volume _).run stuckVolume =
      pure (opened.1, opened.2) := rfl
  have begun : Reached plainSettings plainReader opened.1 opened.2 := .start reads started
  have failed : Reached plainSettings plainReader failedCycle.2.1 failedCycle.2.2 :=
    begun.cycle ⟨by decide, by decide⟩ (run_runCycle.mpr rfl)
  have mail : Spool.IsMail plainSettings.spoolDirectory "spool/b.eml" :=
    ⟨"b.eml", by decide, by decide⟩
  have put : failedCycle.2.2.tree.changeFile "spool/b.eml" (fun _ => phoneLetter) =
      .ok phonedTree := by
    have fits : (failedCycle.2.2.tree.changeFile "spool/b.eml" fun _ => phoneLetter).isOk = true := by
      decide +kernel
    rw [phonedTree]
    generalize failedCycle.2.2.tree.changeFile "spool/b.eml" (fun _ => phoneLetter) = changed at fits ⊢
    cases changed with
    | ok tree => rfl
    | error error => cases fits
  exact (failed.delivered mail put).meanwhile fun _ _ => rfl

/-- After the save that failed the disk does not have the notice, and its mark tells so. The next save
that succeeds brings the disk up to the board, and a keeper that starts then has the notice and the
address. -/
theorem saved_as_marked_after_failed_save :
    plainReader.Dated ∧ Reached plainSettings plainReader failedCycle.2.1 freedVolume ∧
    failedCycle.2.1.unsaved = ⟨true, false⟩ ∧
    (failedCycle.2.1.board.notices.forSubject "bob@example.org").length = 1 ∧
    (savedBoard plainSettings freedVolume.tree).notices.forSubject "bob@example.org" = [] ∧
    (savedBoard plainSettings freedVolume.tree).alternates.listed =
      failedCycle.2.1.board.alternates.listed ∧
    (runCycle plainReader failedCycle.2.1 (pastNine 10) (pastNine 11) : StateM Volume _).run
      freedVolume = pure ((.ok (), nextCycle.2.1), nextCycle.2.2) ∧
    nextCycle.2.1.unsaved = .none ∧
    (nextCycle.2.1.board.notices.forSubject "bob@example.org").length = 1 ∧
    nextCycle.2.1.board.alternates.listed.find? "alice@example.org" = some ["phone@mobile.jp"] ∧
    (savedBoard plainSettings nextCycle.2.2.tree).notices = nextCycle.2.1.board.notices ∧
    ∃ restarted volume', (Keeper.start plainSettings (pastNine 20) : StateM Volume Keeper).run
        { nextCycle.2.2 with refuses := fun _ _ => false } = pure (restarted, volume') ∧
      restarted.board.roster = nextCycle.2.1.board.roster ∧
      restarted.board.notices = nextCycle.2.1.board.notices ∧
      restarted.board.alternates.listed = nextCycle.2.1.board.alternates.listed := by
  have dated : plainReader.Dated := Letter.dated_reader .common
  have inside : (pastNine 11).InCalendar := ⟨by decide, by decide⟩
  have marked : failedCycle.2.1.unsaved = ⟨true, false⟩ ∧
      (failedCycle.2.1.board.notices.forSubject "bob@example.org").length = 1 ∧
      (savedBoard plainSettings freedVolume.tree).notices.forSubject "bob@example.org" = [] := by
    decide +kernel
  have succeeds : nextCycle.1 = .ok () ∧
      (nextCycle.2.1.board.notices.forSubject "bob@example.org").length = 1 ∧
      nextCycle.2.1.board.alternates.listed.find? "alice@example.org" = some ["phone@mobile.jp"] ∧
      (storedPresets plainSettings.layout nextCycle.2.2).keys = [] := by
    decide +kernel
  obtain ⟨ends, filed, listed, noPresets⟩ := succeeds
  have ended : (runCycle plainReader failedCycle.2.1 (pastNine 10) (pastNine 11) :
      StateM Volume _).run freedVolume = pure ((.ok (), nextCycle.2.1), nextCycle.2.2) := by
    rw [run_runCycle, ← ends]
    rfl
  -- Once for the cycle after the failure, and once for the point that it comes to.
  obtain ⟨_, alternates, saves⟩ := saved_as_marked rfl dated reached_freedVolume
  obtain ⟨clean, _, restarts⟩ := saves _ _ _ _ inside ended
  obtain ⟨notices, _⟩ := saved_as_marked rfl dated (reached_freedVolume.cycle inside ended)
  have inactive (account : String) (preset : Preset)
      (found : (storedPresets plainSettings.layout nextCycle.2.2).find? account = some preset) :
      preset.holdsAt (pastNine 20) ≠ .ok true := by
    have known := Table.find?_eq_some.mp found
    have listed : account ∈ (storedPresets plainSettings.layout nextCycle.2.2).keys :=
      List.mem_map_of_mem known
    rw [noPresets] at listed
    cases listed
  exact ⟨dated, reached_freedVolume, marked.1, marked.2.1, marked.2.2,
    alternates (congrArg Changes.alternates marked.1), ended, clean, filed, listed,
    notices (congrArg Changes.notices clean),
    restarts (pastNine 20) _ (fun _ _ => rfl) (fun _ _ _ => rfl) inactive⟩

end Whereabouts.Keeper
