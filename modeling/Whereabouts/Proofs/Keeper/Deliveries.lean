import Mathlib
import Whereabouts.Proofs.Keeper.Work
import Whereabouts.Proofs.Spool
/-!
# Mail is applied once

## Main result

`applied_once`: over a whole run no mail is applied twice, mail that is still in the spool was not
applied, a letter that is gone from it was applied, and what is no letter never is.

## Strategy

A cycle takes files from the spool one by one, first what is no letter and then the letters in order,
and it applies a letter right after its file is gone. Wherever it stops, the letters that it applied
are just the ones it took. So a run keeps an account of every mail that was ever delivered: it is in
the spool and was not applied, or it is gone and was applied once if it is a letter.
-/
namespace Whereabouts.Keeper

open Whereabouts.Calendar Whereabouts.Mail

/-! ### What was applied -/

def letterOf? : Event → Option (String × Outcome)
  | .letter path outcome => some (path, outcome)
  | .notLetter _ | .rejectionNotLogged _ | .rollover _ => none

/-- The letters that the keeper has applied so far, with their outcomes. -/
def applied (keeper : Keeper) : List (String × Outcome) := keeper.journal.filterMap letterOf?

def timesApplied (path : String) (keeper : Keeper) : Nat :=
  (keeper.applied.map (·.1)).count path

theorem applied_note (event : Event) (keeper : Keeper) :
    (keeper.note event).applied = keeper.applied ++ (letterOf? event).toList := by
  cases event <;> simp [applied, note, letterOf?]

private theorem applied_record (path : String) (outcome : Outcome) (keeper : Keeper) :
    (record path outcome keeper).applied = keeper.applied ++ [(path, outcome)] := by
  cases outcome <;> exact applied_note (.letter path _) keeper

/-- The messages of these letters. -/
def messagesIn (letters : List (String × Message)) : List Message := letters.map (·.2)

/-- The outcomes of letters that are interpreted in turn, each with the path of its file. -/
def outcomesOf (board : Board) (letters : List (String × Message)) : List (String × Outcome) :=
  (letters.map (·.1)).zip (interpretAll board (messagesIn letters)).2

/-- The last letter meets the board that the others left. -/
private theorem interpretAll_messagesIn_concat (board : Board) (letters : List (String × Message))
    (letter : String × Message) :
    (interpretAll board (messagesIn (letters ++ [letter]))).1 =
      (interpret (interpretAll board (messagesIn letters)).1 letter.2).1 := by
  rw [messagesIn, List.map_append]
  exact congrArg Prod.fst (interpretAll_concat board (messagesIn letters) letter.2)

private theorem outcomesOf_concat (board : Board) (letters : List (String × Message))
    (letter : String × Message) :
    outcomesOf board (letters ++ [letter]) = outcomesOf board letters ++
      [(letter.1, (interpret (interpretAll board (messagesIn letters)).1 letter.2).2)] := by
  have each : (letters.map (·.1)).length = (interpretAll board (messagesIn letters)).2.length := by
    rw [length_interpretAll, messagesIn, List.length_map, List.length_map]
  have last := congrArg Prod.snd (interpretAll_concat board (messagesIn letters) letter.2)
  simp only [outcomesOf, messagesIn, List.map_append, List.map_cons, List.map_nil] at last ⊢
  rw [last]
  exact List.zip_append each

private theorem paths_outcomesOf (board : Board) (letters : List (String × Message)) :
    (outcomesOf board letters).map (·.1) = letters.map (·.1) := by
  apply List.map_fst_zip
  rw [length_interpretAll, messagesIn, List.length_map, List.length_map]

/-! ### Work that leaves mail alone -/

/-- What holds wherever the board, the letters applied and the files of mail are the same. -/
structure Steady (settings : Settings) (held : Keeper → Volume → Prop) : Prop where
  own : ∀ {keeper volume}, held keeper volume → keeper.settings = settings
  moves : ∀ {keeper keeper' volume volume'}, held keeper volume →
    keeper'.settings = keeper.settings → keeper'.board = keeper.board →
    keeper'.applied = keeper.applied →
    volume.ChangedAt (fun path => ¬ Spool.IsMail settings.spoolDirectory path) volume' →
    held keeper' volume'

/-- Whether the pages lie elsewhere than mail. -/
def PagesOutside (settings : Settings) : Prop :=
  ¬ Spool.IsMail settings.spoolDirectory settings.layout.livePage ∧
    ¬ Spool.IsMail settings.spoolDirectory settings.layout.absencePage

section Steady

variable {settings : Settings} {held : Keeper → Volume → Prop}

private theorem Steady.disk (steady : Steady settings held) {keeper : Keeper}
    {volume volume' : Volume} {path : String} (holds : held keeper volume)
    (noMail : ¬ Spool.IsMail settings.spoolDirectory path)
    (changed : volume.ChangedAt (· = path) volume') : held keeper volume' :=
  steady.moves holds rfl rfl rfl (changed.mono fun _ same mail => noMail (same ▸ mail))

private theorem Steady.readTemplate (steady : Steady settings held) :
    Ensures held readTemplate (fun _ => held) held := by
  have read {keeper : Keeper} {volume : Volume} (holds : held keeper volume) :
      held keeper volume.counted := steady.moves holds rfl rfl rfl (.counted _ volume)
  exact .readTemplate (fun _ _ => read) fun _ _ holds _ => read holds

theorem Steady.flush (steady : Steady settings held) :
    Ensures held flush (fun _ => held) held := by
  refine .flush ?_ ?_
  · rintro keeper volume volume' _ holds (rfl | rfl) changed
    · exact steady.disk holds (Spool.not_isMail_state (by decide) (by decide)) changed
    · exact steady.disk holds (Spool.not_isMail_state (by decide) (by decide)) changed
  · exact fun keeper volume unsaved holds => steady.moves holds rfl rfl rfl (.refl _ volume)

theorem Steady.publish (steady : Steady settings held) (outside : PagesOutside settings)
    (now : Instant) : Ensures held (publish now) (fun _ => held) held := by
  refine .publish_of_writes now steady.readTemplate (.writes_of_editedAt ?_)
  intro keeper volume volume' path holds stored edited
  obtain rfl := steady.own holds
  refine steady.disk holds ?_ edited.changedAt
  rcases stored with rfl | rfl | rfl
  · exact outside.1
  · exact Spool.not_isMail_state (by decide) (by decide)
  · exact outside.2

private theorem Steady.logOutcome (steady : Steady settings held) (today : Date)
    (outcome : Outcome) :
    Ensures held (logOutcome today outcome) (fun _ => held) held := by
  refine .logOutcome today outcome ?_ ?_
  · intro keeper volume volume' holds edited
    exact steady.disk holds (Spool.not_isMail_state (by decide) (by decide)) edited.changedAt
  · intro keeper volume error holds
    refine steady.moves holds rfl rfl ?_ (.refl _ volume)
    rw [applied_note]
    exact List.append_nil _

/-- A rollover changes the board, and leaves mail and what was applied alone. -/
private theorem Steady.rollover (steady : Steady settings held) (now : Instant)
    (anyBoard : ∀ {keeper volume} board, held keeper volume → held { keeper with board } volume) :
    Ensures held (rollover now) (fun _ => held) held := by
  refine .rollover now ?_ ?_ ?_ steady.flush
  · intro keeper volume holds
    exact steady.moves holds rfl rfl rfl (.counted _ volume)
  · rintro keeper volume volume' _ holds (rfl | rfl) changed
    · exact steady.disk holds (Spool.not_isMail_backup _ _ _) changed
    · exact steady.disk holds (Spool.not_isMail_snapshot _ _ _) changed
  · intro keeper volume managers presets holds _
    refine steady.moves (anyBoard _ holds) rfl rfl ?_ (.refl _ volume)
    rw [applied_note]
    exact List.append_nil _

end Steady

/-! ### Progress within a cycle -/

/-- How far a cycle has come that began with the files of `base`: which mail it took, and which letters
it applied to the board it had then. -/
structure Progress (settings : Settings) (base : Volume) (past : List (String × Outcome))
    (start : Board) (taken : List String) (letters : List (String × Message)) (keeper : Keeper)
    (volume : Volume) : Prop where
  own : keeper.settings = settings
  board : keeper.board = (interpretAll start (messagesIn letters)).1
  applied : keeper.applied = past ++ outcomesOf start letters
  refuses : volume.refuses = base.refuses
  files : ∀ path, Spool.IsMail settings.spoolDirectory path →
    volume.fileAt? path = if path ∈ taken then none else base.fileAt? path

section Progress

variable {settings : Settings} {base : Volume} {past : List (String × Outcome)} {start : Board}
  {taken : List String} {letters : List (String × Message)}

theorem steady_progress : Steady settings (Progress settings base past start taken letters) where
  own progress := progress.own
  moves progress own board applied changed :=
    { own := own.trans progress.own
      board := board.trans progress.board
      applied := applied.trans progress.applied
      refuses := changed.refuses.trans progress.refuses
      files := fun path mail =>
        (changed.files path (not_not_intro mail)).trans (progress.files path mail) }

/-- A file that was taken is gone; if it could not be taken nothing has happened. -/
private theorem take_progress (path : String) :
    Ensures (Progress settings base past start taken letters) (request .mailbox (Spool.take path))
      (fun _ => Progress settings base past start (taken ++ [path]) letters)
      (Progress settings base past start taken letters) := by
  refine .request fun keeper volume progress => ?_
  obtain ⟨result, volume', run, changed, gone, kept⟩ := Spool.run_take volume path
  refine ⟨result, volume', run, ?_⟩
  cases result with
  | ok =>
    refine { progress with refuses := changed.refuses.trans progress.refuses, files := ?_ }
    intro other mail
    by_cases same : other = path
    · simp [same, gone rfl]
    · simp [same, changed.files other same, progress.files other mail]
  | error =>
    refine { progress with refuses := changed.refuses.trans progress.refuses, files := ?_ }
    intro other mail
    by_cases same : other = path
    · rw [same, kept nofun, ← same, progress.files other mail]
    · rw [changed.files other same, progress.files other mail]

theorem discard_progress (path : String) :
    Ensures (Progress settings base past start taken letters) (discard path)
      (fun _ => Progress settings base past start (taken ++ [path]) letters)
      (Progress settings base past start taken letters) := by
  refine (take_progress path).bind fun _ => .modify fun keeper volume progress => ?_
  refine steady_progress.moves progress rfl rfl ?_ (.refl _ volume)
  rw [applied_note]
  exact List.append_nil _

/-- A letter is applied only after its file is gone. -/
theorem accept_progress (today : Date) (letter : String × Message) :
    Ensures (Progress settings base past start taken letters) (accept today letter)
      (fun _ => Progress settings base past start (taken ++ [letter.1]) (letters ++ [letter]))
      (fun keeper volume => Progress settings base past start taken letters keeper volume ∨
        Progress settings base past start (taken ++ [letter.1]) (letters ++ [letter]) keeper volume) := by
  let stops (keeper : Keeper) (volume : Volume) : Prop :=
    Progress settings base past start taken letters keeper volume ∨
      Progress settings base past start (taken ++ [letter.1]) (letters ++ [letter]) keeper volume
  have taking := (take_progress letter.1).stopped_mono fun keeper volume kept =>
    (.inl kept : stops keeper volume)
  have interpreted (keeper : Keeper) : Ensures
      (fun keeper' volume => keeper' = keeper ∧
        Progress settings base past start (taken ++ [letter.1]) letters keeper volume)
      (set (record letter.1 (interpret keeper.board letter.2).2
        { keeper with board := (interpret keeper.board letter.2).1 }))
      (fun _ => Progress settings base past start (taken ++ [letter.1]) (letters ++ [letter]))
      stops := by
    refine .set ?_
    rintro keeper volume ⟨rfl, own, board, applied, refuses, files⟩
    refine ⟨(settings_record _ _ _).trans own, ?_, ?_, refuses, files⟩
    · rw [board_record, interpretAll_messagesIn_concat, board]
    · rw [applied_record, outcomesOf_concat, board]
      exact (congrArg (· ++ _) applied).trans (List.append_assoc _ _ _)
  exact taking.bind fun _ => .get_bind fun keeper => (interpreted keeper).bind fun _ =>
    (steady_progress.logOutcome today _).stopped_mono fun _ _ => .inr

/-- Where a cycle may stop: some of what waited was taken, and of the letters the first ones. -/
def Stopped (settings : Settings) (base : Volume) (past : List (String × Outcome))
    (starts : Board → Prop) (reader : Letter.Reader) (received : Instant) (keeper : Keeper)
    (volume : Volume) : Prop :=
  ∃ start waiting discarded letters, starts start ∧
    Spool.Waiting.Found base settings.spoolDirectory reader received waiting ∧
    (∀ path ∈ discarded, path ∈ waiting.others) ∧ letters <+: waiting.letters ∧
    Progress settings base past start (discarded ++ letters.map (·.1)) letters keeper volume

variable {starts : Board → Prop} {reader : Letter.Reader} {received : Instant}
  {waiting : Spool.Waiting}

private theorem steady_stopped :
    Steady settings (Stopped settings base past starts reader received) where
  own := fun ⟨_, _, _, _, _, _, _, _, progress⟩ => progress.own
  moves := fun ⟨start, waiting, discarded, letters, starts, found, others, first, progress⟩
      own board applied changed =>
    ⟨start, waiting, discarded, letters, starts, found, others, first,
      steady_progress.moves progress own board applied changed⟩

/-- A cycle may stop before it has taken any mail. -/
private theorem Progress.stopped {keeper : Keeper} {volume : Volume} (begins : starts start)
    (progress : Progress settings base past start [] [] keeper volume) :
    Stopped settings base past starts reader received keeper volume :=
  ⟨start, _, [], [], begins,
    Spool.Waiting.found_nothing base settings.spoolDirectory reader received, nofun,
    List.nil_prefix, progress⟩

private theorem fetch_found
    (reads : ∀ path, Spool.IsMail settings.spoolDirectory path → base.Reads path)
    (begins : starts start) (keeper : Keeper) :
    Ensures
      (fun keeper' volume => keeper' = keeper ∧ Progress settings base past start [] [] keeper volume)
      (request .mailbox (Spool.fetch reader keeper.settings.spoolDirectory received))
      (fun waiting keeper volume => waiting.Found base settings.spoolDirectory reader received ∧
        Progress settings base past start [] [] keeper volume)
      (Stopped settings base past starts reader received) := by
  refine .request ?_
  rintro keeper volume ⟨rfl, progress⟩
  obtain ⟨result, volume', run, tree, refuses, found⟩ :=
    Spool.run_fetch volume reader keeper.settings.spoolDirectory received
  have untouched : volume.ChangedAt (fun path => ¬ Spool.IsMail settings.spoolDirectory path) volume' :=
    ⟨fun path _ => congrArg (·.fileAt? path) tree, refuses⟩
  have kept := steady_progress.moves progress rfl rfl rfl untouched
  refine ⟨result, volume', run, ?_⟩
  cases result with
  | error => exact kept.stopped begins
  | ok waiting =>
    obtain ⟨names, deliveries, listed, rfl, paths, answered⟩ := found waiting rfl
    rw [progress.own] at listed paths
    -- Work before the fetch changed no mail, so what is read now was there when the cycle began.
    have reads' (path : String) (mail : Spool.IsMail settings.spoolDirectory path) :
        volume.Reads path := by
      rw [Volume.Reads, progress.refuses]
      exact reads path mail
    have foundHere := Spool.found_ofDeliveries reads' (Tree.nodup_of_listDirectory listed) paths
      fun delivery member => (answered delivery member).stems
    exact ⟨foundHere.congr fun path mail => (progress.files path mail).symm, kept⟩

private theorem discards_progress (begins : starts start)
    (found : waiting.Found base settings.spoolDirectory reader received) :
    Ensures (Progress settings base past start [] []) (waiting.others.forM discard)
      (fun _ => Progress settings base past start waiting.others [])
      (Stopped settings base past starts reader received) := by
  let reached (done : List String) : Keeper → Volume → Prop :=
    Progress settings base past start done []
  have each (done : List String) (path : String) (rest : List String)
      (split : done ++ path :: rest = waiting.others) :
      Ensures (reached done) (discard path) (fun _ => reached (done ++ [path]))
        (Stopped settings base past starts reader received) := by
    refine (discard_progress path).stopped_mono fun keeper volume progress => ?_
    refine ⟨start, waiting, done, [], begins, found, ?_, List.nil_prefix, by simpa using progress⟩
    exact fun path member => split ▸ List.mem_append_left _ member
  exact .forM_reached each

private theorem accepts_progress (today : Date) (begins : starts start)
    (found : waiting.Found base settings.spoolDirectory reader received) :
    Ensures (Progress settings base past start waiting.others [])
      (waiting.letters.forM (accept today)) (fun _ => Stopped settings base past starts reader received)
      (Stopped settings base past starts reader received) := by
  let reached (done : List (String × Message)) : Keeper → Volume → Prop :=
    Progress settings base past start (waiting.others ++ done.map (·.1)) done
  have stops {done rest : List (String × Message)} {keeper : Keeper} {volume : Volume}
      (split : done ++ rest = waiting.letters) (progress : reached done keeper volume) :
      Stopped settings base past starts reader received keeper volume :=
    ⟨start, waiting, waiting.others, done, begins, found, fun _ => id, ⟨rest, split⟩, progress⟩
  have each (done : List (String × Message)) (letter : String × Message)
      (rest : List (String × Message)) (split : done ++ letter :: rest = waiting.letters) :
      Ensures (reached done) (accept today letter) (fun _ => reached (done ++ [letter]))
        (Stopped settings base past starts reader received) := by
    have split' : (done ++ [letter]) ++ rest = waiting.letters := by simpa using split
    have further {keeper : Keeper} {volume : Volume}
        (progress : Progress settings base past start
          ((waiting.others ++ done.map (·.1)) ++ [letter.1]) (done ++ [letter]) keeper volume) :
        reached (done ++ [letter]) keeper volume := by
      simpa [reached] using progress
    refine (accept_progress today letter).weaken (fun _ _ => id) (fun _ _ _ => further) ?_
    rintro keeper volume (progress | progress)
    · exact stops split progress
    · exact stops split' (further progress)
  refine (Ensures.forM_reached each).weaken ?_ ?_ fun _ _ => id
  · exact fun _ _ progress => by simpa [reached] using progress
  · exact fun _ _ _ progress => stops (List.append_nil _) progress

private theorem takeMail_stopped (now : Instant)
    (reads : ∀ path, Spool.IsMail settings.spoolDirectory path → base.Reads path)
    (begins : starts start) :
    Ensures (Progress settings base past start [] []) (takeMail reader now received)
      (fun _ => Stopped settings base past starts reader received)
      (Stopped settings base past starts reader received) :=
  .get_bind fun keeper => (fetch_found reads begins keeper).bind fun _ => .knowing fun found =>
    (discards_progress begins found).bind fun _ => accepts_progress now.date begins found

/-- Without a rollover the letters are applied to the board as it was before the cycle. -/
def StartsFrom (before : Keeper) (now : Instant) (start : Board) : Prop :=
  before.rolloverDue now = false → start = before.board

/-- Until mail is fetched none is taken and none is applied. -/
theorem begins_progress (base : Volume) (now : Instant) {before : Keeper} (own : before.settings = settings) :
    Ensures (fun keeper volume => keeper = before ∧ volume = base)
      (whenever (·.rolloverDue now) (rollover now))
      (fun _ keeper volume => ∃ start, StartsFrom before now start ∧
        Progress settings base before.applied start [] [] keeper volume)
      (fun keeper volume => ∃ start, StartsFrom before now start ∧
        Progress settings base before.applied start [] [] keeper volume) := by
  let idle (start : Board) : Keeper → Volume → Prop :=
    Progress settings base before.applied start [] []
  have initial : idle before.board before base :=
    ⟨own, rfl, (List.append_nil _).symm, rfl, fun _ _ => rfl⟩
  -- During a rollover it is left open which board the letters will meet.
  have anyBoard : Steady settings fun keeper volume => ∃ start, idle start keeper volume :=
    ⟨fun ⟨_, progress⟩ => progress.own, fun ⟨start, progress⟩ own board applied changed =>
      ⟨start, steady_progress.moves progress own board applied changed⟩⟩
  have renewed : Ensures (fun keeper volume => ∃ start, idle start keeper volume) (rollover now)
      (fun _ keeper volume => ∃ start, idle start keeper volume)
      (fun keeper volume => ∃ start, idle start keeper volume) :=
    anyBoard.rollover now fun board ⟨_, progress⟩ => ⟨board, { progress with board := rfl }⟩
  refine .whenever ?_ ?_
  · rintro keeper volume ⟨due, rfl, rfl⟩
    have begins (start : Board) : StartsFrom keeper now start := fun notDue => by
      rw [notDue] at due
      cases due
    refine renewed.weaken (fun _ _ => id) ?_ ?_ keeper volume ⟨_, initial⟩
    · exact fun _ _ _ ⟨start, progress⟩ => ⟨start, begins start, progress⟩
    · exact fun _ _ ⟨start, progress⟩ => ⟨start, begins start, progress⟩
  · rintro _ _ notDue ⟨rfl, rfl⟩
    exact ⟨_, fun _ => rfl, initial⟩

theorem cycle_stopped (reader : Letter.Reader) (now received : Instant)
    (outside : PagesOutside settings)
    (reads : ∀ path, Spool.IsMail settings.spoolDirectory path → base.Reads path) {before : Keeper}
    (own : before.settings = settings) :
    Ensures (fun keeper volume => keeper = before ∧ volume = base) (cycle reader now received)
      (fun _ => Stopped settings base before.applied (StartsFrom before now) reader received)
      (Stopped settings base before.applied (StartsFrom before now) reader received) := by
  have stops (keeper : Keeper) (volume : Volume) : (∃ start, StartsFrom before now start ∧
      Progress settings base before.applied start [] [] keeper volume) →
      Stopped settings base before.applied (StartsFrom before now) reader received keeper volume :=
    fun ⟨_, begins, progress⟩ => progress.stopped begins
  refine ((begins_progress base now own).stopped_mono stops).bind fun _ => ?_
  refine Ensures.bind ?_ fun _ => steady_stopped.flush.bind fun _ => steady_stopped.publish outside now
  rintro keeper volume ⟨start, begins, progress⟩
  exact takeMail_stopped now reads begins keeper volume progress

end Progress

/-! ### What a cycle does to the mail -/

/-- These letters were applied, in the order of the octets of their names, each as its file had it and
with its file gone. All other mail is as it was, or gone because it is no letter. -/
structure Cycled (settings : Settings) (reader : Letter.Reader) (now received : Instant)
    (before : Keeper) (volume : Volume) (start : Board) (letters : List (String × Message))
    (after : Keeper) (volume' : Volume) : Prop where
  own : after.settings = settings
  starts : StartsFrom before now start
  board : after.board = (interpretAll start (messagesIn letters)).1
  applied : after.applied = before.applied ++ outcomesOf start letters
  ordered : Spool.Ordered settings.spoolDirectory (letters.map (·.1))
  refuses : volume'.refuses = volume.refuses
  taken : ∀ letter ∈ letters, Spool.IsMail settings.spoolDirectory letter.1 ∧
    volume'.fileAt? letter.1 = none ∧ ∃ content, volume.fileAt? letter.1 = some content ∧
      reader.read? (Letter.octetsOf content) received = some letter.2
  others : ∀ path, Spool.IsMail settings.spoolDirectory path → path ∉ letters.map (·.1) →
    volume'.fileAt? path = volume.fileAt? path ∨
      volume'.fileAt? path = none ∧ ∀ content, volume.fileAt? path = some content →
        ¬ reader.IsLetter content

private theorem cycled_of_stopped {settings : Settings} {reader : Letter.Reader}
    {now received : Instant} {before after : Keeper} {volume volume' : Volume}
    (stopped : Stopped settings volume before.applied (StartsFrom before now) reader received after
      volume') :
    ∃ start letters,
      Cycled settings reader now received before volume start letters after volume' := by
  obtain ⟨start, waiting, discarded, letters, begins, found, others, first, progress⟩ := stopped
  refine ⟨start, letters, progress.own, begins, progress.board, progress.applied,
    found.ordered.sublist (first.sublist.map _), progress.refuses, ?_, ?_⟩
  · intro letter member
    obtain ⟨mail, read⟩ := found.letters letter (first.subset member)
    refine ⟨mail, ?_, read⟩
    rw [progress.files _ mail, if_pos]
    exact List.mem_append_right _ (List.mem_map_of_mem member)
  · intro path mail notLetter
    rw [progress.files path mail]
    split
    next taken =>
      right
      refine ⟨rfl, fun content there isLetter => ?_⟩
      -- What was taken and not applied was discarded, so it does not read as a letter.
      have discards := (List.mem_append.mp taken).resolve_right notLetter
      have unread := (found.others path (others path discards)).2 content there
      rw [Letter.Reader.IsLetter, Letter.Reader.read?_eq_none_iff.mp unread] at isLetter
      cases isLetter
    · exact .inl rfl

private theorem run_cycled {settings : Settings} (outside : PagesOutside settings)
    {reader : Letter.Reader} {now received : Instant} {before after : Keeper}
    {volume volume' : Volume}
    {result : Except KeeperError Unit}
    (own : before.settings = settings)
    (reads : ∀ path, Spool.IsMail settings.spoolDirectory path → volume.Reads path)
    (ended : (runCycle reader before now received : StateM Volume _).run volume =
      pure ((result, after), volume')) :
    ∃ start letters,
      Cycled settings reader now received before volume start letters after volume' := by
  have stopped := cycle_stopped reader now received outside reads own before volume ⟨rfl, rfl⟩
  rw [run_runCycle.mp ended] at stopped
  cases result <;> exact cycled_of_stopped stopped

/-! ### Runs -/

/-- A run of one keeper, at the points between cycles: the mail that was ever in the spool, the keeper
and the disk. Mail is delivered under names that were never used, and nobody else touches it. Between
cycles all else on the disk may change, and so may what the disk refuses, as long as it lets mail be
read. -/
inductive Run (settings : Settings) (reader : Letter.Reader) :
    (String → Option ByteArray) → Keeper → Volume → Prop
  | start {now : Instant} {volume volume' : Volume} {keeper : Keeper}
    (started : (Keeper.start settings now : StateM Volume Keeper).run volume =
      pure (keeper, volume'))
    (reads : ∀ path, Spool.IsMail settings.spoolDirectory path → volume.Reads path) :
    Run settings reader volume'.fileAt? keeper volume'
  | deliver {delivered : String → Option ByteArray} {keeper : Keeper} {volume : Volume}
    {path : String} {content : ByteArray} {tree : Tree}
    (run : Run settings reader delivered keeper volume)
    (mail : Spool.IsMail settings.spoolDirectory path) (fresh : delivered path = none)
    (put : volume.tree.changeFile path (fun _ => content) = .ok tree) :
    Run settings reader (fun other => if other = path then some content else delivered other) keeper
      { volume with tree }
  | meanwhile {delivered : String → Option ByteArray} {keeper : Keeper} {volume volume' : Volume}
    (run : Run settings reader delivered keeper volume)
    (same : ∀ path, Spool.IsMail settings.spoolDirectory path →
      volume'.fileAt? path = volume.fileAt? path)
    (reads : ∀ path, Spool.IsMail settings.spoolDirectory path → volume'.Reads path) :
    Run settings reader delivered keeper volume'
  | cycle {delivered : String → Option ByteArray} {keeper keeper' : Keeper} {volume volume' : Volume}
    {now received : Instant} {result : Except KeeperError Unit}
    (run : Run settings reader delivered keeper volume)
    (ended : (runCycle reader keeper now received : StateM Volume _).run volume =
      pure ((result, keeper'), volume')) :
    Run settings reader delivered keeper' volume'

/-- What may be known of a file of mail: the content that was delivered, the content that is there,
and how often it was applied. -/
inductive Account (reader : Letter.Reader) :
    (delivered? there? : Option ByteArray) → (times : Nat) → Prop
  | unknown : Account reader none none 0
  | waiting (content : ByteArray) : Account reader (some content) (some content) 0
  | applied {content : ByteArray} (isLetter : reader.IsLetter content) :
    Account reader (some content) none 1
  | discarded {content : ByteArray} (notLetter : ¬ reader.IsLetter content) :
    Account reader (some content) none 0

structure Accounted (settings : Settings) (reader : Letter.Reader)
    (delivered : String → Option ByteArray) (keeper : Keeper) (volume : Volume) : Prop where
  own : keeper.settings = settings
  reads : ∀ path, Spool.IsMail settings.spoolDirectory path → volume.Reads path
  mail : ∀ path, Spool.IsMail settings.spoolDirectory path →
    Account reader (delivered path) (volume.fileAt? path) (keeper.timesApplied path)

section Run

variable {settings : Settings} {reader : Letter.Reader} {delivered : String → Option ByteArray}
  {keeper : Keeper} {volume : Volume}

private theorem Account.start (there? : Option ByteArray) : Account reader there? there? 0 := by
  cases there? with
  | none => exact .unknown
  | some content => exact .waiting content

theorem Accounted.cycle {now received : Instant} {start : Board} {letters : List (String × Message)}
    {keeper' : Keeper} {volume' : Volume}
    (accounted : Accounted settings reader delivered keeper volume)
    (cycled : Cycled settings reader now received keeper volume start letters keeper' volume') :
    Accounted settings reader delivered keeper' volume' := by
  have times (path : String) : keeper'.timesApplied path =
      keeper.timesApplied path + (letters.map (·.1)).count path := by
    rw [timesApplied, cycled.applied, List.map_append, List.count_append, paths_outcomesOf]
    rfl
  refine ⟨cycled.own, fun path mail => ?_, fun path mail => ?_⟩
  · rw [Volume.Reads, cycled.refuses]
    exact accounted.reads path mail
  -- A cycle applies a letter at most once, as no name is listed twice.
  have account := accounted.mail path mail
  rw [times]
  generalize keeper.timesApplied path = before at account ⊢
  generalize delivered path = delivered? at account ⊢
  by_cases among : path ∈ letters.map (·.1)
  · obtain ⟨letter, member, rfl⟩ := List.mem_map.mp among
    obtain ⟨_, gone, content, there, read⟩ := cycled.taken letter member
    rw [gone, List.count_eq_one_of_mem cycled.ordered.nodup among]
    rw [there] at account
    cases account
    apply Account.applied
    rw [Letter.Reader.IsLetter, Option.isSome_iff_ne_none]
    intro nothing
    rw [Letter.Reader.read?_eq_none_iff.mpr nothing] at read
    cases read
  · rw [List.count_eq_zero_of_not_mem among]
    rcases cycled.others path mail among with same | ⟨gone, noLetter⟩
    · exact same ▸ account
    · rw [gone]
      generalize volume.fileAt? path = there? at account noLetter
      cases account with
      | unknown => exact .unknown
      | waiting content => exact .discarded (noLetter content rfl)
      | applied isLetter => exact .applied isLetter
      | discarded notLetter => exact .discarded notLetter

theorem Run.accounted (outside : PagesOutside settings)
    (run : Run settings reader delivered keeper volume) :
    Accounted settings reader delivered keeper volume := by
  induction run with
  | @start now volume _ _ started reads =>
    obtain ⟨board, begun⟩ := run_start_plain settings now volume
    cases begun.symm.trans started
    exact ⟨rfl, reads, fun path _ => .start _⟩
  | @deliver delivered keeper volume path content tree _ mail fresh put accounted =>
    refine ⟨accounted.own, accounted.reads, fun other otherMail => ?_⟩
    have account := accounted.mail other otherMail
    have file : Volume.fileAt? { volume with tree } other =
        if other = path then some content else volume.fileAt? other := Tree.fileAt?_changeFile put other
    rw [file]
    by_cases same : other = path
    · subst same
      -- Nothing was known of the name, so nothing lies there and nothing was applied.
      rw [fresh] at account
      generalize keeper.timesApplied other = times at account ⊢
      simp only [if_true]
      generalize volume.fileAt? other = there? at account
      cases account
      exact .waiting content
    · simp only [if_neg same]
      exact account
  | meanwhile _ same reads accounted =>
    refine ⟨accounted.own, reads, fun path mail => ?_⟩
    rw [same path mail]
    exact accounted.mail path mail
  | cycle _ ended accounted =>
    obtain ⟨start, letters, cycled⟩ := run_cycled outside accounted.own accounted.reads ended
    exact accounted.cycle cycled

/-- A letter that could not be taken is not applied. -/
private theorem accept_of_not_taken {today : Date} {letter : String × Message} {volume' : Volume}
    {error : SpoolError}
    (failed : (Spool.take letter.1 : ExceptT SpoolError (StateM Volume) Unit).run.run volume =
      pure (.error error, volume')) :
    endOf (accept today letter) keeper volume = (.error (.mailbox error), keeper, volume') := by
  rw [accept, endOf_bind, endOf_request, failed]
  rfl

/-- Mail is applied at most once, and never while it is in the spool. Once it is gone it was applied
if it is a letter, and not if it is none. What a cycle applies it applies in the order of the names,
and each letter only after its file was taken. -/
theorem applied_once (outside : PagesOutside settings)
    (run : Run settings reader delivered keeper volume) :
    (∀ path, Spool.IsMail settings.spoolDirectory path →
      keeper.timesApplied path ≤ 1 ∧
      (volume.fileAt? path ≠ none → keeper.timesApplied path = 0) ∧
      ∀ content, delivered path = some content →
        (reader.IsLetter content → volume.fileAt? path = none → keeper.timesApplied path = 1) ∧
        (¬ reader.IsLetter content → keeper.timesApplied path = 0)) ∧
    (∀ now received result keeper' volume',
      (runCycle reader keeper now received : StateM Volume _).run volume =
        pure ((result, keeper'), volume') →
      ∃ start letters,
        Cycled settings reader now received keeper volume start letters keeper' volume') ∧
    ∀ today letter error keeperThen volumeThen volume',
      (Spool.take letter.1 : ExceptT SpoolError (StateM Volume) Unit).run.run volumeThen =
        pure (.error error, volume') →
      endOf (accept today letter) keeperThen volumeThen = (.error (.mailbox error), keeperThen, volume') := by
  have accounted := run.accounted outside
  refine ⟨fun path mail => ?_, ?_, ?_⟩
  · have account := accounted.mail path mail
    generalize delivered path = delivered?, volume.fileAt? path = there?,
      keeper.timesApplied path = times at account ⊢
    cases account with
    | unknown => exact ⟨Nat.zero_le 1, fun _ => rfl, nofun⟩
    | waiting content => exact ⟨Nat.zero_le 1, fun _ => rfl, fun _ _ => ⟨nofun, fun _ => rfl⟩⟩
    | applied isLetter =>
      refine ⟨Nat.le_refl 1, fun there => absurd rfl there, fun content same => ?_⟩
      cases same
      exact ⟨fun _ _ => rfl, fun notLetter => absurd isLetter notLetter⟩
    | discarded notLetter =>
      refine ⟨Nat.zero_le 1, fun _ => rfl, fun content same => ?_⟩
      cases same
      exact ⟨fun isLetter => absurd isLetter notLetter, fun _ => rfl⟩
  · exact fun now received result keeper' volume' ended =>
      run_cycled outside accounted.own accounted.reads ended
  · exact fun today letter error keeperThen volumeThen volume' failed => accept_of_not_taken failed

/-- The shortest letter: the end of a head. -/
def shortLetter : ByteArray := "\n".toUTF8

/-- A disk with a letter, and with a directory where the template should be. -/
def bareTree : Tree :=
  Table.ofList [("page.html", .directory), ("spool", .directory), ("spool/a.eml", .file shortLetter)]

theorem pagesOutside_plainSettings : PagesOutside plainSettings := by
  have html {name : String} (ends : ".html".toList <:+ name.toList) :
      ¬ Spool.IsMail "spool" (Path.join "" name) :=
    Spool.not_isMail_of_suffix (ends.trans (Path.suffix_join _ _)) (by decide) (by decide)
  exact ⟨html (by decide), html (by decide)⟩

theorem applied_once_of_short_letter :
    ∃ delivered keeper volume, PagesOutside plainSettings ∧
      Run plainSettings plainReader delivered keeper volume ∧
      delivered "spool/a.eml" = some shortLetter ∧ plainReader.IsLetter shortLetter ∧
      volume.fileAt? "spool/a.eml" = none ∧ keeper.timesApplied "spool/a.eml" = 1 := by
  let noon : Instant := ⟨⟨2024, 5, 1, by decide⟩, ⟨12, 0, 0, 0, by decide⟩⟩
  let volume := (Volume.ofTree bareTree).counted.counted.counted.counted.counted
  obtain ⟨board, started⟩ := run_start_plain plainSettings noon (.ofTree bareTree)
  let final := endOf (cycle plainReader noon noon) ⟨plainSettings, board, none, .none, []⟩ volume
  have run : Run plainSettings plainReader volume.fileAt? final.2.1 final.2.2 :=
    (Run.start started fun _ _ _ => rfl).cycle (run_runCycle.mpr rfl)
  have delivered : volume.fileAt? "spool/a.eml" = some shortLetter := by cbv
  have isLetter : plainReader.IsLetter shortLetter := by
    rw [Letter.Reader.IsLetter]
    cbv
  have once : final.2.1.timesApplied "spool/a.eml" = 1 := by cbv
  have mail : Spool.IsMail "spool" "spool/a.eml" := ⟨"a.eml", by decide, by decide⟩
  obtain ⟨_, untaken, _⟩ := (applied_once pagesOutside_plainSettings run).1 _ mail
  have gone : final.2.2.fileAt? "spool/a.eml" = none := by
    by_contra there
    rw [untaken there] at once
    cases once
  exact ⟨_, _, _, pagesOutside_plainSettings, run, delivered, isLetter, gone, once⟩

end Run

end Whereabouts.Keeper
