import Whereabouts.Proofs.Keeper.Deliveries
/-!
# All mail is taken up

## Main result

`drains_unless_jammed`: on a disk that serves the keeper a cycle succeeds, applies every letter that
can be read and leaves no mail behind, whatever files there are under names of mail. A directory under
such a name stops every cycle before the first letter is applied, and no cycle takes it away. There
are no entries of another kind on a volume.

## Strategy

A cycle on a disk that serves it is followed twice. One account, in `Progress`, tells what it took and
applied, wherever it stops; the other, in `Clear`, tells that it does not stop. For a directory there
is a third account: no removal takes the directory away, so what is no letter cannot all be removed,
and letters come after that.
-/
namespace Whereabouts.Keeper

open Whereabouts.Archive Whereabouts.Calendar Whereabouts.Mail

/-! ### A disk that serves the keeper -/

/-- The files that a cycle writes in place of those that were there. -/
def Stores (layout : Layout) (now : Instant) (path : String) : Prop :=
  path ∈ [layout.backup now.date.previous, layout.snapshot now.date.previous, layout.notices,
    layout.alternates, layout.livePage, layout.roster, layout.absencePage]

/-- What a cycle needs of its disk: the spool is listed and holds mail under these names, a file of it
can be removed, the template is there to be read and stays so, and the tables and pages can be
written. Nothing is asked of the files of mail, nor that they can be read. -/
structure Workable (settings : Settings) (now : Instant) (names : List String) (volume : Volume) :
    Prop where
  holds : Spool.Holds volume settings.spoolDirectory names
  lists : ∀ request, volume.refuses request (.list settings.spoolDirectory) = false
  removes : ∀ path, Spool.IsMail settings.spoolDirectory path →
    ∀ request, volume.refuses request (.remove path) = false
  template : ∃ text : String, volume.fileAt? settings.template = some text.toUTF8
  reads : volume.Reads settings.template
  noMail : ¬ Spool.IsMail settings.spoolDirectory settings.template
  noLog : settings.template ≠ settings.layout.rejections
  outside : PagesOutside settings
  writes : ∀ path, Stores settings.layout now path → volume.Writable path

/-- How a cycle leaves the disk that it began with: of the mail it edited only what it took, and there
is a template still. -/
structure Clear (settings : Settings) (base : Volume) (taken : List String) (keeper : Keeper)
    (volume : Volume) : Prop where
  own : keeper.settings = settings
  edited : base.EditedAt
    (fun path => ¬ Spool.IsMail settings.spoolDirectory path ∨ path ∈ taken) volume
  template : ∃ text : String, volume.fileAt? settings.template = some text.toUTF8

private theorem not_isMail_of_stores {settings : Settings} (outside : PagesOutside settings)
    {now : Instant} {path : String} (stored : Stores settings.layout now path) :
    ¬ Spool.IsMail settings.spoolDirectory path := by
  simp only [Stores, List.mem_cons, List.not_mem_nil, or_false] at stored
  rcases stored with rfl | rfl | rfl | rfl | rfl | rfl | rfl
  · exact Spool.not_isMail_backup _ _ _
  · exact Spool.not_isMail_snapshot _ _ _
  · exact Spool.not_isMail_state (by decide) (by decide)
  · exact Spool.not_isMail_state (by decide) (by decide)
  · exact outside.1
  · exact Spool.not_isMail_state (by decide) (by decide)
  · exact outside.2

section Clear

variable {settings : Settings} {now : Instant} {names : List String} {base volume volume' : Volume}
  {taken : List String} {keeper keeper' : Keeper}

/-- An edit keeps the disk clear if it is of no mail but what was taken, and if it leaves a text where
it edits the template. -/
private theorem Clear.edit (clear : Clear settings base taken keeper volume) {taken' : List String}
    {path : String} (more : ∀ other ∈ taken, other ∈ taken')
    (edited : volume.EditedAt (· = path) volume')
    (mail : Spool.IsMail settings.spoolDirectory path → path ∈ taken')
    (template : settings.template = path → ∃ text : String, volume'.fileAt? path = some text.toUTF8) :
    Clear settings base taken' keeper volume' where
  own := clear.own
  edited := by
    have wider (other : String) (same : other = path) :
        ¬ Spool.IsMail settings.spoolDirectory other ∨ other ∈ taken' :=
      same ▸ not_or_of_imp mail
    exact (clear.edited.mono fun _ => Or.imp_right (more _)).trans (edited.mono wider)
  template := by
    by_cases same : settings.template = path
    · exact same ▸ template same
    · rw [edited.changedAt.files _ same]
      exact clear.template

private theorem Clear.asked (clear : Clear settings base taken keeper volume)
    (tree : volume'.tree = volume.tree) (refuses : volume'.refuses = volume.refuses) :
    Clear settings base taken keeper volume' where
  own := clear.own
  edited := clear.edited.trans (.of_tree _ tree refuses)
  template := by
    rw [Volume.fileAt?, tree]
    exact clear.template

private theorem clear_writes (workable : Workable settings now names base) :
    Ensures.Writes (Clear settings base taken) never fun keeper => Stores keeper.layout now := by
  intro keeper path text stored
  refine .request ?_
  rintro keeper volume ⟨rfl, clear⟩
  rw [Keeper.layout, clear.own] at stored
  obtain ⟨result, volume', run, edited, written, ok⟩ := run_write_edited volume path text
  cases ok ((workable.writes path stored).editedAt clear.edited)
  refine ⟨_, volume', run, rfl, clear.edit (fun _ => id) edited ?_ fun _ => ⟨_, written rfl⟩⟩
  exact fun mail => absurd mail (not_isMail_of_stores workable.outside stored)

private theorem clear_readTemplate (workable : Workable settings now names base) :
    Ensures (Clear settings base taken) readTemplate (fun _ => Clear settings base taken) never := by
  refine .readTemplate (fun _ _ clear => clear.asked rfl rfl) fun keeper volume clear unread => ?_
  obtain ⟨text, there⟩ := clear.template
  rw [← clear.own] at there
  refine unread ?_ text there
  rw [Volume.Reads, clear.edited.refuses, clear.own]
  exact workable.reads

private theorem clear_flush (workable : Workable settings now names base) :
    Ensures (Clear settings base taken) flush (fun _ => Clear settings base taken) never := by
  refine .flush_of_writes (fun keeper path text stored => clear_writes workable keeper path text ?_) ?_
  · rcases stored with rfl | rfl <;> simp [Stores]
  · exact fun _ _ _ clear => { clear with own := clear.own }

private theorem clear_publish (workable : Workable settings now names base) :
    Ensures (Clear settings base taken) (publish now) (fun _ => Clear settings base taken) never := by
  refine .publish_of_writes now (clear_readTemplate workable)
    fun keeper path text stored => clear_writes workable keeper path text ?_
  rcases stored with rfl | rfl | rfl <;> simp [Stores]

private theorem clear_rollover (workable : Workable settings now names base) :
    Ensures (Clear settings base taken) (rollover now) (fun _ => Clear settings base taken) never := by
  refine .rollover_of_writes now (clear_readTemplate workable) (fun _ _ clear => clear.asked rfl rfl)
    (fun keeper path text stored => clear_writes workable keeper path text ?_) ?_
    (clear_flush workable)
  · rcases stored with rfl | rfl <;> simp [Stores]
  · exact fun _ _ _ _ clear _ => { clear with own := clear.own }

/-- A file of mail that is there is taken. -/
private theorem clear_take (workable : Workable settings now names base) {path : String}
    (mail : Spool.IsMail settings.spoolDirectory path) :
    Ensures (fun keeper volume => Clear settings base taken keeper volume ∧
        (volume.fileAt? path).isSome)
      (request .mailbox (Spool.take path)) (fun _ => Clear settings base (taken ++ [path])) never := by
  refine .request ?_
  rintro keeper volume ⟨clear, there⟩
  obtain ⟨result, volume', run, edited, _, _, ok, _⟩ := Spool.run_take_edited volume path
  have served (number : Nat) : volume.refuses number (.remove path) = false := by
    rw [clear.edited.refuses]
    exact workable.removes path mail number
  cases ok served there
  refine ⟨_, volume', run, clear.edit ?_ edited ?_ fun same => ?_⟩
  · exact fun _ => List.mem_append_left _
  · exact fun _ => List.mem_append_right _ List.mem_cons_self
  · exact absurd (same ▸ mail) workable.noMail

private theorem clear_discard (workable : Workable settings now names base) {path : String}
    (mail : Spool.IsMail settings.spoolDirectory path) :
    Ensures (fun keeper volume => Clear settings base taken keeper volume ∧
        (volume.fileAt? path).isSome)
      (discard path) (fun _ => Clear settings base (taken ++ [path])) never :=
  (clear_take workable mail).bind fun _ => .modify fun _ _ clear => { clear with own := clear.own }

private theorem clear_accept (workable : Workable settings now names base) (today : Date)
    {letter : String × Message} (mail : Spool.IsMail settings.spoolDirectory letter.1) :
    Ensures (fun keeper volume => Clear settings base taken keeper volume ∧
        (volume.fileAt? letter.1).isSome)
      (accept today letter) (fun _ => Clear settings base (taken ++ [letter.1])) never := by
  refine (clear_take workable mail).bind fun _ => .get_bind fun keeper => ?_
  have interpreted : Ensures
      (fun keeper' volume => keeper' = keeper ∧ Clear settings base (taken ++ [letter.1]) keeper volume)
      (set (record letter.1 (interpret keeper.board letter.2).2
        { keeper with board := (interpret keeper.board letter.2).1 }))
      (fun _ => Clear settings base (taken ++ [letter.1])) never := by
    refine .set ?_
    rintro keeper volume ⟨rfl, clear⟩
    exact { clear with own := (settings_record _ _ _).trans clear.own }
  refine interpreted.bind fun _ => .logOutcome today _ ?_ ?_
  · intro keeper volume volume' clear edited
    rw [Keeper.layout, clear.own] at edited
    refine clear.edit (fun _ => id) edited ?_ fun same => absurd same workable.noLog
    exact fun mail => absurd mail (Spool.not_isMail_state (by decide) (by decide))
  · exact fun _ _ _ clear => { clear with own := clear.own }

end Clear

/-! ### Emptying the spool -/

/-- Both accounts of a cycle. -/
def Draining (settings : Settings) (base : Volume) (past : List (String × Outcome)) (start : Board)
    (taken : List String) (letters : List (String × Message)) (keeper : Keeper) (volume : Volume) :
    Prop :=
  Progress settings base past start taken letters keeper volume ∧
    Clear settings base taken keeper volume

/-- A file of mail that was there when the cycle began. -/
def Waited (settings : Settings) (base : Volume) (path : String) : Prop :=
  Spool.IsMail settings.spoolDirectory path ∧ (base.fileAt? path).isSome

section Draining

variable {settings : Settings} {reader : Letter.Reader} {now received : Instant} {names : List String}
  {base volume : Volume} {past : List (String × Outcome)} {start : Board} {taken : List String}
  {letters : List (String × Message)} {keeper : Keeper}

/-- Mail that was not taken is there as it was. -/
private theorem Draining.isSome
    (draining : Draining settings base past start taken letters keeper volume)
    {path : String} (file : Waited settings base path) (fresh : path ∉ taken) :
    (volume.fileAt? path).isSome := by
  rw [draining.1.files path file.1, if_neg fresh]
  exact file.2

/-- Work that takes mail which is there goes on, and both accounts with it. -/
private theorem drains {work : Work (StateM Volume) Unit} {taken' : List String}
    {letters' : List (String × Message)} {stopped : Keeper → Volume → Prop} {path : String}
    (file : Waited settings base path) (fresh : path ∉ taken)
    (progress : Ensures (Progress settings base past start taken letters) work
      (fun _ => Progress settings base past start taken' letters') stopped)
    (clear : Ensures (fun keeper volume => Clear settings base taken keeper volume ∧
        (volume.fileAt? path).isSome) work (fun _ => Clear settings base taken') never) :
    Ensures (Draining settings base past start taken letters) work
      (fun _ => Draining settings base past start taken' letters') never :=
  (progress.and clear).weaken
    (fun _ _ draining => ⟨draining.1, draining.2, draining.isSome file fresh⟩) (fun _ _ _ => id)
    fun _ _ ended => ended.2

private theorem discards_drain (workable : Workable settings now names base) {paths : List String}
    (once : paths.Nodup) (files : ∀ path ∈ paths, Waited settings base path) :
    Ensures (Draining settings base past start [] []) (paths.forM discard)
      (fun _ => Draining settings base past start paths []) never := by
  let reached (done : List String) : Keeper → Volume → Prop :=
    Draining settings base past start done []
  have each (done : List String) (path : String) (rest : List String)
      (split : done ++ path :: rest = paths) :
      Ensures (reached done) (discard path) (fun _ => reached (done ++ [path])) never := by
    subst split
    have file := files path (List.mem_append_right _ List.mem_cons_self)
    -- No path comes twice, so what is next has not been taken.
    have fresh : path ∉ done := fun member =>
      List.disjoint_of_nodup_append once member List.mem_cons_self
    exact drains file fresh (discard_progress path) (clear_discard workable file.1)
  exact .forM_reached each

private theorem accepts_drain (workable : Workable settings now names base) {others : List String}
    (once : (others ++ letters.map (·.1)).Nodup)
    (files : ∀ path ∈ letters.map (·.1), Waited settings base path) :
    Ensures (Draining settings base past start others []) (letters.forM (accept now.date))
      (fun _ => Draining settings base past start (others ++ letters.map (·.1)) letters) never := by
  let reached (done : List (String × Message)) : Keeper → Volume → Prop :=
    Draining settings base past start (others ++ done.map (·.1)) done
  have each (done : List (String × Message)) (letter : String × Message)
      (rest : List (String × Message)) (split : done ++ letter :: rest = letters) :
      Ensures (reached done) (accept now.date letter) (fun _ => reached (done ++ [letter])) never := by
    subst split
    have file := files letter.1 (by simp)
    have fresh : letter.1 ∉ others ++ done.map (·.1) := by
      rw [List.map_append, ← List.append_assoc] at once
      exact fun member => List.disjoint_of_nodup_append once member List.mem_cons_self
    simp only [reached, List.map_append, ← List.append_assoc]
    exact drains file fresh (accept_progress now.date letter) (clear_accept workable now.date file.1)
  refine (Ensures.forM_reached each).weaken ?_ (fun _ _ _ => id) fun _ _ => id
  exact fun _ _ draining => by simpa [reached] using draining

/-- The paths of the mail that a cycle finds. -/
def mailPaths (settings : Settings) (names : List String) : List String :=
  names.map (Path.join settings.spoolDirectory)

private theorem fetch_gathered (workable : Workable settings now names base) (keeper : Keeper) :
    Ensures
      (fun keeper' volume => keeper' = keeper ∧ Draining settings base past start [] [] keeper volume)
      (request .mailbox (Spool.fetch reader keeper.settings.spoolDirectory received))
      (fun waiting keeper volume => waiting.Gathered base reader received (mailPaths settings names) ∧
        Draining settings base past start [] [] keeper volume)
      never := by
  refine .request ?_
  rintro keeper volume ⟨rfl, progress, clear⟩
  rw [progress.own]
  have holds := workable.holds.of_editedAt (clear.edited.mono fun _ => (·.resolve_right List.not_mem_nil))
  obtain ⟨_, all, listed, rfl⟩ := holds
  have served (number : Nat) : volume.refuses number (.list settings.spoolDirectory) = false := by
    rw [progress.refuses]
    exact workable.lists number
  obtain ⟨deliveries, volume', run, tree, refuses, paths, answered⟩ :=
    Spool.run_fetch_served served listed reader received
  have gathered := Spool.gathered_ofDeliveries answered
  rw [paths] at gathered
  -- Work before the fetch changed no mail.
  have same (path : String) (member : path ∈ mailPaths settings (Spool.mailNames all)) :
      base.fileAt? path = volume.fileAt? path := by
    obtain ⟨name, listed, rfl⟩ := List.mem_map.mp member
    exact (progress.files _ (workable.holds.isMail listed)).symm
  have untouched : volume.ChangedAt (fun path => ¬ Spool.IsMail settings.spoolDirectory path) volume' :=
    ⟨fun path _ => congrArg (·.fileAt? path) tree, refuses⟩
  exact ⟨_, volume', run, gathered.congr same progress.refuses.symm,
    steady_progress.moves progress rfl rfl rfl untouched, clear.asked tree refuses⟩

/-- All mail was taken and all letters were applied. -/
def Drained (settings : Settings) (base : Volume) (past : List (String × Outcome))
    (starts : Board → Prop) (reader : Letter.Reader) (received : Instant) (names : List String)
    (keeper : Keeper) (volume : Volume) : Prop :=
  ∃ start, ∃ waiting : Spool.Waiting, starts start ∧
    waiting.Gathered base reader received (mailPaths settings names) ∧
    Draining settings base past start (waiting.others ++ waiting.letters.map (·.1)) waiting.letters
      keeper volume

variable {starts : Board → Prop}

private theorem takeMail_drained (workable : Workable settings now names base)
    (free : ∀ name, ¬ Spool.Jams base settings.spoolDirectory name) (begins : starts start) :
    Ensures (Draining settings base past start [] []) (takeMail reader now received)
      (fun _ => Drained settings base past starts reader received names) never := by
  refine .get_bind fun keeper => (fetch_gathered workable keeper).bind fun waiting =>
    .knowing fun gathered => ?_
  have once : (waiting.others ++ waiting.letters.map (·.1)).Nodup :=
    gathered.perm.nodup_iff.mpr workable.holds.ordered.nodup
  -- With no directory among the mail all that is listed is a file, and so it can be removed.
  have files (path : String) (member : path ∈ waiting.others ++ waiting.letters.map (·.1)) :
      Waited settings base path := by
    obtain ⟨name, listed, rfl⟩ := List.mem_map.mp (gathered.perm.mem_iff.mp member)
    exact ⟨workable.holds.isMail listed, workable.holds.file listed (free name)⟩
  refine (discards_drain workable (List.nodup_append.mp once).1 fun path member =>
    files path (List.mem_append_left _ member)).bind fun _ => ?_
  refine (accepts_drain workable once fun path member =>
    files path (List.mem_append_right _ member)).weaken (fun _ _ => id) ?_ fun _ _ => id
  exact fun _ _ _ draining => ⟨start, waiting, begins, gathered, draining⟩

/-- What follows the mail in a cycle keeps it drained. -/
private theorem drained_of_steady {work : Work (StateM Volume) Unit}
    (steady : ∀ {held}, Steady settings held → Ensures held work (fun _ => held) held)
    (clear : ∀ taken, Ensures (Clear settings base taken) work (fun _ => Clear settings base taken)
      never) :
    Ensures (Drained settings base past starts reader received names) work
      (fun _ => Drained settings base past starts reader received names) never := by
  rintro keeper volume ⟨start, waiting, begins, gathered, draining⟩
  let taken := waiting.others ++ waiting.letters.map (·.1)
  have same : Steady settings (Progress settings base past start taken waiting.letters) :=
    steady_progress
  refine ((steady same).and (clear taken)).weaken (fun _ _ => id) ?_ ?_ keeper volume draining
  · exact fun _ _ _ draining => ⟨start, waiting, begins, gathered, draining⟩
  · exact fun _ _ ended => ended.2

theorem cycle_drained (reader : Letter.Reader) (received : Instant)
    (workable : Workable settings now names base)
    (free : ∀ name, ¬ Spool.Jams base settings.spoolDirectory name) {before : Keeper}
    (own : before.settings = settings) :
    Ensures (fun keeper volume => keeper = before ∧ volume = base) (cycle reader now received)
      (fun _ => Drained settings base before.applied (StartsFrom before now) reader received names)
      never := by
  have renewed : Ensures (Clear settings base []) (whenever (·.rolloverDue now) (rollover now))
      (fun _ => Clear settings base []) never :=
    .whenever_keeps (clear_rollover workable)
  have initial : Clear settings base [] before base := ⟨own, .refl _ base, workable.template⟩
  have begun : Ensures (fun keeper volume => keeper = before ∧ volume = base)
      (whenever (·.rolloverDue now) (rollover now))
      (fun _ keeper volume => ∃ start, StartsFrom before now start ∧
        Draining settings base before.applied start [] [] keeper volume) never := by
    have both := Ensures.and (begins_progress base now own) renewed
    refine both.weaken ?_ ?_ fun _ _ ended => ended.2
    · rintro _ _ ⟨rfl, rfl⟩
      exact ⟨⟨rfl, rfl⟩, initial⟩
    · rintro _ _ _ ⟨⟨start, begins, progress⟩, clear⟩
      exact ⟨start, begins, progress, clear⟩
  -- The last two steps write no mail and apply none.
  refine begun.bind fun _ => ?_
  refine Ensures.bind ?_ fun _ => (drained_of_steady (·.flush) fun _ => clear_flush workable).bind
    fun _ => drained_of_steady (·.publish workable.outside now) fun _ => clear_publish workable
  rintro keeper volume ⟨start, begins, draining⟩
  exact takeMail_drained workable free begins keeper volume draining

end Draining

/-! ### A directory under a name of mail -/

/-- A directory lies in the spool, and nothing was applied since this. -/
structure Jammed (settings : Settings) (past : List (String × Outcome)) (name : String)
    (keeper : Keeper) (volume : Volume) : Prop where
  own : keeper.settings = settings
  applied : keeper.applied = past
  jams : Spool.Jams volume settings.spoolDirectory name

section Jammed

variable {settings : Settings} {past : List (String × Outcome)} {name : String}

private theorem Jammed.editedAt {keeper : Keeper} {volume volume' : Volume}
    {touched : String → Prop} (jammed : Jammed settings past name keeper volume)
    (edited : volume.EditedAt touched volume') :
    Jammed settings past name keeper volume' :=
  { jammed with jams := jammed.jams.editedAt edited }

/-- What is noted besides letters does not change what was applied. -/
private theorem Jammed.note {keeper : Keeper} {volume : Volume} {event : Event}
    (jammed : Jammed settings past name keeper volume) (noLetter : letterOf? event = none) :
    Jammed settings past name (keeper.note event) volume :=
  { jammed with
    applied := by
      rw [applied_note, noLetter]
      exact (List.append_nil _).trans jammed.applied }

private theorem jammed_rollover (now : Instant) :
    Ensures (Jammed settings past name) (rollover now) (fun _ => Jammed settings past name)
      (Jammed settings past name) := by
  have asked (keeper : Keeper) (volume : Volume) (jammed : Jammed settings past name keeper volume) :
      Jammed settings past name keeper volume.counted :=
    jammed.editedAt (.of_tree (fun _ => False) rfl rfl)
  have writes {stores : Keeper → String → Prop} :
      Ensures.Writes (Jammed settings past name) (Jammed settings past name) stores :=
    .writes_of_editedAt fun _ _ _ _ jammed _ edited => jammed.editedAt edited
  refine .rollover_of_writes now (.readTemplate asked fun keeper volume jammed _ => ?_) asked writes ?_
    (.flush_of_writes writes fun _ _ _ jammed => { jammed with own := jammed.own })
  · exact asked keeper volume jammed
  · exact fun _ _ _ _ jammed _ => .note { jammed with own := jammed.own } rfl

/-- A directory is not removed, so only something else can be. -/
private theorem jammed_discard (path : String) :
    Ensures (Jammed settings past name) (discard path)
      (fun _ keeper volume => path ≠ Path.join settings.spoolDirectory name ∧
        Jammed settings past name keeper volume)
      (Jammed settings past name) := by
  have takes : Ensures (Jammed settings past name) (request .mailbox (Spool.take path))
      (fun _ keeper volume => path ≠ Path.join settings.spoolDirectory name ∧
        Jammed settings past name keeper volume)
      (Jammed settings past name) := by
    refine .request fun keeper volume jammed => ?_
    obtain ⟨result, volume', run, edited, _, _, _, fails⟩ := Spool.run_take_edited volume path
    refine ⟨result, volume', run, ?_⟩
    cases result with
    | ok =>
      refine ⟨?_, jammed.editedAt edited⟩
      rintro rfl
      exact fails jammed.jams.look rfl
    | error => exact jammed.editedAt edited
  exact takes.bind fun _ => .modify fun _ _ taken => ⟨taken.1, taken.2.note rfl⟩

private theorem jammed_discards {paths : List String}
    (member : Path.join settings.spoolDirectory name ∈ paths) :
    Ensures (Jammed settings past name) (paths.forM discard) (fun _ => never)
      (Jammed settings past name) := by
  -- On what is left to remove: the directory is still among it.
  induction paths with
  | nil => cases member
  | cons path paths ih =>
    refine (jammed_discard path).bind fun _ => .knowing fun different => ih ?_
    exact (List.mem_cons.mp member).resolve_left different.symm

/-- A fetch that succeeds finds the directory to be no letter. -/
private theorem jammed_fetch (reader : Letter.Reader) (received : Instant) (keeper : Keeper) :
    Ensures (fun keeper' volume => keeper' = keeper ∧ Jammed settings past name keeper volume)
      (request .mailbox (Spool.fetch reader keeper.settings.spoolDirectory received))
      (fun waiting keeper volume => Path.join settings.spoolDirectory name ∈ waiting.others ∧
        Jammed settings past name keeper volume)
      (Jammed settings past name) := by
  refine .request ?_
  rintro keeper volume ⟨rfl, jammed⟩
  obtain ⟨result, volume', run, tree, refuses, found⟩ :=
    Spool.run_fetch volume reader keeper.settings.spoolDirectory received
  have jammed' := jammed.editedAt (.of_tree (fun _ => False) tree refuses)
  refine ⟨result, volume', run, ?_⟩
  cases result with
  | error => exact jammed'
  | ok waiting =>
    obtain ⟨names, deliveries, listed, rfl, paths, answered⟩ := found waiting rfl
    refine ⟨?_, jammed'⟩
    rw [jammed.own] at listed paths
    obtain ⟨_, ⟨_, all, listed', rfl⟩, member, _⟩ := jammed.jams
    cases listed.symm.trans listed'
    have delivered : Path.join settings.spoolDirectory name ∈ deliveries.map (·.path) :=
      paths ▸ List.mem_map_of_mem member
    obtain ⟨⟨path, message?⟩, delivery, rfl⟩ := List.mem_map.mp delivered
    cases message? with
    | none => exact Spool.mem_others.mpr delivery
    | some message =>
      -- A message comes from a file, and here is none.
      obtain ⟨content, there, _⟩ := (answered _ delivery).exists_content rfl
      rw [jammed.jams.fileAt?] at there
      cases there

theorem jammed_cycle (reader : Letter.Reader) (now received : Instant) :
    Ensures (Jammed settings past name) (cycle reader now received) (fun _ => never)
      (Jammed settings past name) := by
  have takes : Ensures (Jammed settings past name) (takeMail reader now received) (fun _ => never)
      (Jammed settings past name) :=
    .get_bind fun keeper => (jammed_fetch reader received keeper).bind fun waiting =>
      .knowing fun member => (jammed_discards member).bind fun _ _ _ stopped => stopped.elim
  exact (Ensures.whenever_keeps (jammed_rollover now)).bind fun _ =>
    takes.bind fun _ _ _ stopped => stopped.elim

/-- The keeper and the disk after cycles that began at these times, each time with the time when the
mail was fetched. -/
def afterCycles (reader : Letter.Reader) (keeper : Keeper) (volume : Volume)
    (times : List (Instant × Instant)) : Keeper × Volume :=
  times.foldl (fun state time => (endOf (cycle reader time.1 time.2) state.1 state.2).2)
    (keeper, volume)

theorem Jammed.afterCycles {keeper : Keeper} {volume : Volume}
    (jammed : Jammed settings past name keeper volume) (reader : Letter.Reader)
    (times : List (Instant × Instant)) :
    Jammed settings past name (afterCycles reader keeper volume times).1
      (afterCycles reader keeper volume times).2 := by
  induction times generalizing keeper volume with
  | nil => exact jammed
  | cons time times ih =>
    obtain ⟨error, keeper', volume', ended, jammed'⟩ :=
      (jammed_cycle reader time.1 time.2).exists_error jammed
    rw [Keeper.afterCycles, List.foldl_cons, ended]
    exact ih jammed'

end Jammed

/-! ### Whether the mail is taken up -/

/-- The spool holds no mail any more. These letters were applied: they are in the order of their
names, each says what its file said, and every file that could be read and said something is among
them. -/
structure Emptied (reader : Letter.Reader) (before : Keeper) (now received : Instant)
    (names : List String) (volume : Volume) (start : Board) (letters : List (String × Message))
    (after : Keeper) (volume' : Volume) : Prop where
  starts : StartsFrom before now start
  board : after.board = (interpretAll start (messagesIn letters)).1
  applied : after.applied = before.applied ++ outcomesOf start letters
  ordered : Spool.Ordered before.settings.spoolDirectory (letters.map (·.1))
  sound : ∀ letter ∈ letters, letter.1 ∈ mailPaths before.settings names ∧
    ∃ content, volume.fileAt? letter.1 = some content ∧
      reader.read? (Letter.octetsOf content) received = some letter.2
  complete : ∀ path ∈ mailPaths before.settings names, volume.Reads path → ∀ content message,
    volume.fileAt? path = some content →
    reader.read? (Letter.octetsOf content) received = some message → (path, message) ∈ letters
  empty : Spool.Holds volume' before.settings.spoolDirectory []

/-- On a disk that serves it, with no directory among its mail, a cycle succeeds, takes all mail and
applies every letter that can be read. With a directory among the mail every cycle stops: however many
have run, nothing was applied and the directory is where it was. -/
theorem drains_unless_jammed (reader : Letter.Reader) (before : Keeper) (now received : Instant)
    (volume : Volume) :
    (∀ names, Workable before.settings now names volume →
      (∀ name, ¬ Spool.Jams volume before.settings.spoolDirectory name) →
      ∃ after volume' start letters,
        (runCycle reader before now received : StateM Volume _).run volume =
          pure ((.ok (), after), volume') ∧
        Emptied reader before now received names volume start letters after volume') ∧
    ∀ name, Spool.Jams volume before.settings.spoolDirectory name → ∀ times,
      let (keeper, volume') := afterCycles reader before volume times
      keeper.applied = before.applied ∧ Spool.Jams volume' before.settings.spoolDirectory name ∧
        ∃ error after left,
          (runCycle reader keeper now received : StateM Volume _).run volume' =
            pure ((.error error, after), left) := by
  refine ⟨fun names workable free => ?_, fun name jams times => ?_⟩
  · obtain ⟨⟨⟩, after, volume', ended, start, waiting, begins, gathered, progress, clear⟩ :=
      (cycle_drained reader received workable free rfl).exists_ok ⟨rfl, rfl⟩
    have taken {path : String} : path ∈ waiting.others ++ waiting.letters.map (·.1) ↔
        path ∈ mailPaths before.settings names := gathered.perm.mem_iff
    refine ⟨after, volume', start, waiting.letters, run_runCycle.mpr ended, begins, progress.board,
      progress.applied, workable.holds.ordered.sublist gathered.ordered, fun letter member => ?_,
      gathered.complete, workable.holds.emptied free ?_ fun path member => ?_⟩
    · exact ⟨gathered.ordered.subset (List.mem_map_of_mem member), gathered.sound letter member⟩
    · exact clear.edited.mono fun path => Or.imp_right taken.mp
    · obtain ⟨name, listed, rfl⟩ := List.mem_map.mp member
      rw [progress.files _ (workable.holds.isMail listed), if_pos (taken.mpr member)]
  · have begun : Jammed before.settings before.applied name before volume := ⟨rfl, rfl, jams⟩
    have jammed := begun.afterCycles reader times
    obtain ⟨error, after, left, ended, _⟩ := (jammed_cycle reader now received).exists_error jammed
    exact ⟨jammed.applied, jammed.jams, error, after, left, run_runCycle.mpr ended⟩

/-! ### Spools with all kinds of mail -/

def noon : Instant := ⟨⟨2024, 6, 15, by decide⟩, ⟨12, 0, 0, 0, by decide⟩⟩

def plainKeeper : Keeper := ⟨plainSettings, .new plainSettings.domain, none, .none, []⟩

/-- The files that a plain keeper writes. -/
def plainStores : List String :=
  ["output/bk/20240614.html", "state/bk/20240614.json", "state/absence.json", "state/alternate.bin",
    "output/index.html", "state/status.json", "output/absence.html"]

private theorem mem_plainStores {path : String} (stored : Stores plainSettings.layout noon path) :
    path ∈ plainStores := by
  have same : [plainSettings.layout.backup noon.date.previous,
      plainSettings.layout.snapshot noon.date.previous, plainSettings.layout.notices,
      plainSettings.layout.alternates, plainSettings.layout.livePage, plainSettings.layout.roster,
      plainSettings.layout.absencePage] = plainStores := by decide
  exact same ▸ stored

/-- A disk serves a plain keeper if it has the directories and the template, and refuses at most to
read other files. -/
private theorem workable_plain {volume : Volume} {names : List String}
    (holds : Spool.Holds volume "spool" names)
    (serves : ∀ number access, (∀ path ≠ "page.html", access ≠ .read path) →
      volume.refuses number access = false)
    (template : volume.fileAt? "page.html" = some "page".toUTF8)
    (open_ : ∀ path ∈ ["output", "output/bk", "state", "state/bk"],
      volume.tree.find? path = some .directory)
    (vacant : ∀ path ∈ plainStores, volume.tree.find? path = none) :
    Workable plainSettings noon names volume where
  holds := holds
  lists number := serves number _ nofun
  removes _ _ number := serves number _ nofun
  template := ⟨"page", template⟩
  reads number := serves number _ fun path different same => different (Access.read.inj same).symm
  noMail := Spool.not_isMail_of_suffix (List.suffix_append "page".toList ".html".toList) (by decide)
    (by decide)
  noLog := by decide
  outside := pagesOutside_plainSettings
  writes path stored := by
    have places : ∀ path ∈ plainStores, path ≠ "" ∧ Path.hasLongName path = false ∧
        ∀ outer ∈ Tree.around path, outer ∈ ["output", "output/bk", "state", "state/bk"] := by decide
    have listed := mem_plainStores stored
    obtain ⟨named, short, around⟩ := places path listed
    refine ⟨fun number => serves number _ nofun, fun outer member => open_ outer (around outer member),
      named, ?_, short⟩
    rw [vacant path listed]
    exact nofun

/-- A disk with all that a plain keeper needs and with these entries in its spool, of which some cannot
be read. -/
def spoolVolume (mail : List (String × Entry)) (unreadable : List String) : Volume :=
  { Volume.ofTree (Table.ofList ([("output", .directory), ("output/bk", .directory),
      ("page.html", .file "page".toUTF8), ("spool", .directory), ("state", .directory),
      ("state/bk", .directory)] ++ mail)) with
    refuses := fun _ access => unreadable.any fun path => access = .read path }

/-- A letter, a file that is no letter, and a letter that cannot be read. -/
def mixedVolume : Volume :=
  spoolVolume [("spool/a.eml", .file shortLetter), ("spool/b.eml", .file .empty),
    ("spool/c.eml", .file shortLetter)] ["spool/c.eml"]

/-- A directory under a name of mail, and a letter after it. -/
def jammedVolume : Volume :=
  spoolVolume [("spool/0.eml", .directory), ("spool/1.eml", .file shortLetter)] []

private theorem workable_mixedVolume :
    Workable plainSettings noon ["a.eml", "b.eml", "c.eml"] mixedVolume := by
  refine workable_plain ⟨by decide, ["a.eml", "b.eml", "c.eml"], by cbv, by cbv⟩ ?_ (by cbv) ?_ ?_
  · intro number access others
    simpa [mixedVolume, spoolVolume] using others "spool/c.eml" (by decide)
  · simp only [List.forall_mem_cons]
    exact ⟨by cbv, by cbv, by cbv, by cbv, by simp⟩
  · simp only [plainStores, List.forall_mem_cons]
    exact ⟨by cbv, by cbv, by cbv, by cbv, by cbv, by cbv, by cbv, by simp⟩

private theorem workable_jammedVolume :
    Workable plainSettings noon ["0.eml", "1.eml"] jammedVolume := by
  refine workable_plain ⟨by decide, ["0.eml", "1.eml"], by cbv, by cbv⟩ ?_ (by cbv) ?_ ?_
  · exact fun _ _ _ => rfl
  · simp only [List.forall_mem_cons]
    exact ⟨by cbv, by cbv, by cbv, by cbv, by simp⟩
  · simp only [plainStores, List.forall_mem_cons]
    exact ⟨by cbv, by cbv, by cbv, by cbv, by cbv, by cbv, by cbv, by simp⟩

private theorem free_mixedVolume (name : String) : ¬ Spool.Jams mixedVolume "spool" name := by
  rintro ⟨names, holds, member, found⟩
  obtain rfl := workable_mixedVolume.holds.unique holds
  have a : mixedVolume.tree.find? "spool/a.eml" = some (.file shortLetter) := by cbv
  have b : mixedVolume.tree.find? "spool/b.eml" = some (.file .empty) := by cbv
  have c : mixedVolume.tree.find? "spool/c.eml" = some (.file shortLetter) := by cbv
  simp only [List.mem_cons, List.not_mem_nil, or_false] at member
  rcases member with rfl | rfl | rfl
  · cases found.symm.trans a
  · cases found.symm.trans b
  · cases found.symm.trans c

private theorem jams_jammedVolume : Spool.Jams jammedVolume "spool" "0.eml" := by
  have there : jammedVolume.tree.find? "spool/0.eml" = some .directory := by cbv
  exact ⟨_, workable_jammedVolume.holds, List.mem_cons_self, there⟩

private theorem read_shortLetter :
    plainReader.read? (Letter.octetsOf shortLetter) noon = some ⟨"", none, noon, ""⟩ := by cbv

theorem drains_unless_jammed_of_plain :
    (Workable plainSettings noon ["a.eml", "b.eml", "c.eml"] mixedVolume ∧
      ∃ after volume' start letters,
        (runCycle plainReader plainKeeper noon noon : StateM Volume _).run mixedVolume =
          pure ((.ok (), after), volume') ∧
        Emptied plainReader plainKeeper noon noon ["a.eml", "b.eml", "c.eml"] mixedVolume start
          letters after volume' ∧
        ("spool/a.eml", ⟨"", none, noon, ""⟩) ∈ letters) ∧
    Spool.Jams jammedVolume "spool" "0.eml" ∧
      let (keeper, volume) :=
        afterCycles plainReader plainKeeper jammedVolume [(noon, noon), (noon, noon)]
      keeper.applied = plainKeeper.applied ∧ Spool.Jams volume "spool" "0.eml" ∧
        ∃ error after left,
          (runCycle plainReader keeper noon noon : StateM Volume _).run volume =
            pure ((.error error, after), left) := by
  have there : mixedVolume.fileAt? "spool/a.eml" = some shortLetter := by cbv
  have reads : mixedVolume.Reads "spool/a.eml" := fun _ => by simp [mixedVolume, spoolVolume]
  obtain ⟨after, volume', start, letters, ended, emptied⟩ :=
    (drains_unless_jammed plainReader plainKeeper noon noon mixedVolume).1 _ workable_mixedVolume
      free_mixedVolume
  have first : "spool/a.eml" ∈ mailPaths plainSettings ["a.eml", "b.eml", "c.eml"] :=
    List.mem_cons_self
  exact ⟨⟨workable_mixedVolume, after, volume', start, letters, ended, emptied,
    emptied.complete _ first reads _ _ there read_shortLetter⟩, jams_jammedVolume,
    (drains_unless_jammed plainReader plainKeeper noon noon jammedVolume).2 _ jams_jammedVolume
      [(noon, noon), (noon, noon)]⟩

/-- A letter that can be read is not applied if a directory comes before it, though the disk serves the
keeper. -/
theorem letter_waits_behind_directory :
    Workable plainSettings noon ["0.eml", "1.eml"] jammedVolume ∧
    jammedVolume.fileAt? "spool/1.eml" = some shortLetter ∧
    plainReader.read? (Letter.octetsOf shortLetter) noon = some ⟨"", none, noon, ""⟩ ∧
    ∃ volume', (runCycle plainReader plainKeeper noon noon : StateM Volume _).run jammedVolume =
        pure ((.error (.mailbox ⟨"spool/0.eml", .isDirectory⟩), plainKeeper), volume') ∧
      plainKeeper.applied = [] ∧ volume'.fileAt? "spool/1.eml" = some shortLetter := by
  have there : jammedVolume.fileAt? "spool/1.eml" = some shortLetter := by cbv
  have ended : (runCycle plainReader plainKeeper noon noon : StateM Volume _).run jammedVolume =
      pure ((.error (.mailbox ⟨"spool/0.eml", .isDirectory⟩), plainKeeper),
        jammedVolume.counted.counted.counted.counted) := by cbv
  exact ⟨workable_jammedVolume, there, read_shortLetter, _, ended, rfl, there⟩

end Whereabouts.Keeper
