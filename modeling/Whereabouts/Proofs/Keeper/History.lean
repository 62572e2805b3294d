import Whereabouts.Proofs.Keeper.NewDay
/-!
# The history of a board

## Main results

* `archived_before_cleared`: a rollover clears the board only after it kept the day before, page and
  roster, and if it cannot keep them the cycle changes nothing that a later one would miss. No other
  cycle takes a record away, and the day is not begun again.
* `due_again_after_start_only`: a second rollover on a date needs a start on that date, in the hour of
  the rollover. The keeper knows of the last one only as long as it runs.

## Strategy

What one cycle can come to is `Passed`. A history strings cycles and starts together, and two facts
go through it from its first keeper on: records are there until a rollover or a start, and the date of
the last rollover is noted until a rollover on another date or a start.
-/
namespace Whereabouts.Keeper

open Whereabouts.Archive Whereabouts.Calendar Whereabouts.Mail

/-! ### Histories -/

/-- One cycle, as it began, and the time when it fetched the mail. -/
structure Turn where
  now : Instant
  received : Instant
  keeper : Keeper
  volume : Volume

/-- The cycle keeps the day before and begins a new one. -/
def Turn.RollsOver (turn : Turn) : Prop :=
  turn.keeper.rolloverDue turn.now = true ∧
    ∃ saved begun volume', endOf (rollover turn.now) turn.keeper turn.volume = (saved, begun, volume') ∧
      NewDay turn.now turn.keeper turn.volume begun volume'

inductive Entry where
  | start (now : Instant)
  | cycle (turn : Turn)

def Entry.now : Entry → Instant
  | start now => now
  | cycle turn => turn.now

/-- Cycles and starts with the same settings, from a keeper in any state to the last. In between
anything may become of the disk. -/
inductive History (reader : Letter.Reader) : Keeper → List Entry → Keeper → Prop
  | done (keeper : Keeper) : History reader keeper [] keeper
  | start {keeper begun last : Keeper} {now : Instant} {volume volume' : Volume} {entries : List Entry}
      (started : (Keeper.start keeper.settings now : StateM Volume _).run volume = pure (begun, volume'))
      (rest : History reader begun entries last) : History reader keeper (.start now :: entries) last
  | cycle (turn : Turn) {after last : Keeper} {volume' : Volume} {result : Except KeeperError Unit}
      {entries : List Entry}
      (ended : (runCycle reader turn.keeper turn.now turn.received : StateM Volume _).run turn.volume =
        pure ((result, after), volume'))
      (rest : History reader after entries last) :
      History reader turn.keeper (.cycle turn :: entries) last

/-! ### What a cycle leaves -/

section Cycle

variable {reader : Letter.Reader} {now received : Instant} {keeper after : Keeper}
  {volume volume' : Volume} {result : Except KeeperError Unit}

theorem Passed.settings (passed : Passed reader now received keeper volume result after volume') :
    after.settings = keeper.settings := by
  cases passed with
  | retried => rfl
  | plain _ onward => exact onward.settings
  | renewed _ _ _ newDay onward => exact onward.settings.trans newDay.settings

private theorem rolloverDue_eq_true :
    keeper.rolloverDue now = true ↔
      now.time.hour = keeper.settings.rolloverHour ∧ keeper.lastRollover ≠ some now.date := by
  simp [rolloverDue]

/-- What rolls over keeps the day before. -/
theorem Turn.RollsOver.keeps {turn : Turn} (rolls : turn.RollsOver) (error : KeeperError) :
    ¬ KeepingFails turn.now turn.keeper turn.volume error := by
  intro fails
  obtain ⟨due, _, _, _, ends, newDay⟩ := rolls
  obtain ⟨_, failed⟩ := fails.endOf_keepDay
  rw [endOf_rollover, endOf_bind, failed] at ends
  -- The keeper that failed would have to be the one that noted the new day.
  cases ends
  exact (rolloverDue_eq_true.mp due).2 newDay.today

/-- A cycle that rolls over notes its date, which was not noted before; any other keeps the note and
the records. -/
private theorem Passed.rollsOver_or
    (passed : Passed reader now received keeper volume result after volume') :
    (Turn.mk now received keeper volume).RollsOver ∧ after.lastRollover = some now.date ∧
        keeper.lastRollover ≠ some now.date ∨
      ¬ (Turn.mk now received keeper volume).RollsOver ∧ after.lastRollover = keeper.lastRollover ∧
        ∀ address, (keeper.board.roster.find? address).isSome →
          (after.board.roster.find? address).isSome := by
  cases passed with
  | retried _ fails => exact .inr ⟨fun rolls => rolls.keeps _ fails, rfl, fun _ => id⟩
  | plain notDue onward =>
    refine .inr ⟨fun rolls => ?_, onward.lastRollover, onward.records⟩
    exact absurd rolls.1 (Bool.eq_false_iff.mp notDue)
  | renewed due _ ends newDay onward =>
    left
    exact ⟨⟨due, _, _, _, ends, newDay⟩, onward.lastRollover.trans newDay.today,
      (rolloverDue_eq_true.mp due).2⟩

/-- A rollover writes the files of the day before and those of two tables. -/
private theorem endOf_rollover_changedAt (now : Instant) (keeper : Keeper) (volume : Volume) :
    ∃ result after volume', endOf (rollover now) keeper volume = (result, after, volume') ∧
      volume.ChangedAt (fun path => IsKept now keeper.layout path ∨ keeper.layout.IsTable path)
        volume' := by
  let touched (path : String) : Prop := IsKept now keeper.layout path ∨ keeper.layout.IsTable path
  let held (keeper' : Keeper) (volume' : Volume) : Prop :=
    keeper'.settings = keeper.settings ∧ volume.ChangedAt touched volume'
  have writes {keeper' : Keeper} {before after : Volume} {path : String}
      (holds : held keeper' before) (changed : before.ChangedAt (· = path) after)
      (within : touched path) : held keeper' after :=
    ⟨holds.1, holds.2.trans (changed.mono fun _ same => same ▸ within)⟩
  have layout {keeper' : Keeper} {before : Volume} (holds : held keeper' before) :
      keeper'.layout = keeper.layout := congrArg Settings.layout holds.1
  have rolls : Ensures held (rollover now) (fun _ => held) held := by
    refine .rollover now ?_ ?_ ?_ (.flush ?_ ?_)
    · exact fun _ before holds => ⟨holds.1, holds.2.trans (.counted _ before)⟩
    · exact fun _ _ _ _ holds kept changed => writes holds changed (.inl (layout holds ▸ kept))
    · exact fun _ _ _ _ holds _ => holds
    · exact fun _ _ _ _ holds table changed => writes holds changed (.inr (layout holds ▸ .inr table))
    · exact fun _ _ _ holds => holds
  obtain ⟨result, after, volume', ends, holds⟩ := rolls.exists_endOf ⟨rfl, .refl touched volume⟩
  exact ⟨result, after, volume', ends, holds.2⟩

/-- Each date has its own files for the day before it. -/
private theorem IsKept.date_eq {now now' : Instant} {layout : Layout} {path : String}
    (one : IsKept now layout path) (two : IsKept now' layout path) : now.date = now'.date := by
  have day : now.date.previous = now'.date.previous := by
    rcases one with rfl | rfl <;> rcases two with same | same
    · exact layout.backup_injective same
    · exact absurd same (layout.backup_ne_snapshot _ _)
    · exact absurd same.symm (layout.backup_ne_snapshot _ _)
    · exact layout.snapshot_injective same
  rw [← now.date.next_previous, day, now'.date.next_previous]

end Cycle

namespace History

variable {reader : Letter.Reader} {first last : Keeper} {entries : List Entry}

private theorem split {earlier later : List Entry}
    (history : History reader first (earlier ++ later) last) :
    ∃ middle, History reader first earlier middle ∧ History reader middle later last := by
  induction earlier generalizing first with
  | nil => exact ⟨first, .done first, history⟩
  | cons entry earlier ih =>
    cases history with
    | start started rest =>
      obtain ⟨middle, before, after⟩ := ih rest
      exact ⟨middle, .start started before, after⟩
    | cycle _ ended rest =>
      obtain ⟨middle, before, after⟩ := ih rest
      exact ⟨middle, .cycle _ ended before, after⟩

private theorem settings_eq (history : History reader first entries last) :
    last.settings = first.settings := by
  induction history with
  | done => rfl
  | @start keeper _ _ now volume _ _ started _ ih =>
    obtain ⟨board, plain⟩ := run_start_plain keeper.settings now volume
    rw [started] at plain
    rw [ih, (Prod.mk.inj plain).1]
  | cycle _ ended _ ih => rw [ih, (passed_runCycle ended).settings]

/-- What one cycle keeps or loses holds to the end, unless a start or a cycle of the history lost it. -/
private theorem holds_or {fact : Keeper → Prop} {loses : Turn → Prop}
    (history : History reader first entries last)
    (each : ∀ turn result after volume',
      Passed reader turn.now turn.received turn.keeper turn.volume result after volume' →
      fact turn.keeper → fact after ∨ loses turn)
    (holds : fact first) :
    fact last ∨ (∃ now, .start now ∈ entries) ∨ ∃ turn, .cycle turn ∈ entries ∧ loses turn := by
  induction history with
  | done => exact .inl holds
  | start => exact .inr (.inl ⟨_, List.mem_cons_self⟩)
  | cycle turn ended _ ih =>
    rcases each turn _ _ _ (passed_runCycle ended) holds with holds | lost
    · rcases ih holds with still | ⟨now, member⟩ | ⟨turn, member, lost⟩
      · exact .inl still
      · exact .inr (.inl ⟨now, List.mem_cons_of_mem _ member⟩)
      · exact .inr (.inr ⟨turn, List.mem_cons_of_mem _ member, lost⟩)
    · exact .inr (.inr ⟨turn, List.mem_cons_self, lost⟩)

/-- A record is there still, unless the board was loaded again, or it was archived when it went. -/
theorem archived (history : History reader first entries last) (address : String)
    (there : (first.board.roster.find? address).isSome) :
    (last.board.roster.find? address).isSome ∨ (∃ now, .start now ∈ entries) ∨
      ∃ turn, .cycle turn ∈ entries ∧ turn.RollsOver ∧
        (turn.keeper.board.roster.find? address).isSome := by
  apply history.holds_or
  · intro turn result after volume' passed there
    rcases passed.rollsOver_or with ⟨rolls, _⟩ | ⟨_, _, records⟩
    · exact .inr ⟨rolls, there⟩
    · exact .inl (records address there)
  · exact there

/-- The date of the last rollover stays noted until a start or a rollover on another date. -/
theorem lastRollover (history : History reader first entries last) {date : Date}
    (noted : first.lastRollover = some date) :
    last.lastRollover = some date ∨ (∃ now, .start now ∈ entries) ∨
      ∃ turn, .cycle turn ∈ entries ∧ turn.RollsOver ∧ turn.now.date ≠ date := by
  apply history.holds_or
  · intro turn result after volume' passed noted
    rcases passed.rollsOver_or with ⟨rolls, _, other⟩ | ⟨_, same, _⟩
    · refine .inr ⟨rolls, fun today => other ?_⟩
      rw [noted, ← today]
    · exact .inl (same.trans noted)
  · exact noted

end History

/-! ### A morning

One hour of the rollover, in which the results below are seen at work. -/

/-- A disk with a template and with Alice on the roster. -/
def aliceTree : Tree :=
  Table.ofList [("output", .directory), ("output/bk", .directory), ("page.html", .file "page".toUTF8),
    ("spool", .directory), ("state", .directory), ("state/bk", .directory),
    ("state/status.json", .file "\x7b\"alice@example.org\":\x7b\x7d\x7d".toUTF8)]

/-- A minute of the hour of the rollover. -/
def inHour (minute : Fin 60) : Instant :=
  ⟨⟨2024, 5, 2, by decide⟩, 4, minute, 0, 0, by decide, minute.isLt, by decide, by decide⟩

/-- The keeper of a start, and the disk after it. -/
def started (minute : Fin 60) (volume : Volume) : Keeper × Volume :=
  Id.run ((Keeper.start plainSettings (inHour minute) : StateM Volume _).run volume)

def cycled (minute : Fin 60) (before : Keeper × Volume) : Keeper × Volume :=
  let ended := Id.run ((runCycle plainReader before.1 (inHour minute) (inHour minute) :
    StateM Volume _).run before.2)
  (ended.1.2, ended.2)

/-- That cycle as a part of a history. -/
def turnAt (minute : Fin 60) (before : Keeper × Volume) : Turn :=
  ⟨inHour minute, inHour minute, before.1, before.2⟩

section Morning

variable {minute : Fin 60} {before : Keeper × Volume} {entries : List Entry} {last : Keeper}

private theorem settings_started (minute : Fin 60) (volume : Volume) :
    (started minute volume).1.settings = plainSettings := by
  obtain ⟨board, run⟩ := run_start_plain plainSettings (inHour minute) volume
  rw [started, run]
  rfl

private theorem exists_run_cycled (minute : Fin 60) (before : Keeper × Volume) :
    ∃ result, (runCycle plainReader before.1 (inHour minute) (inHour minute) :
        StateM Volume _).run before.2 =
      pure ((result, (cycled minute before).1), (cycled minute before).2) := by
  rw [cycled]
  generalize (runCycle plainReader before.1 (inHour minute) (inHour minute) :
    StateM Volume _).run before.2 = ended
  exact ⟨(Id.run ended).1.1, rfl⟩

private theorem passed_cycled (minute : Fin 60) (before : Keeper × Volume) :
    ∃ result, Passed plainReader (inHour minute) (inHour minute) before.1 before.2 result
      (cycled minute before).1 (cycled minute before).2 := by
  obtain ⟨result, run⟩ := exists_run_cycled minute before
  exact ⟨result, passed_runCycle run⟩

/-- A cycle that changes what is noted of the last rollover was one. -/
theorem rollsOver_of_noted
    (noted : (cycled minute before).1.lastRollover ≠ before.1.lastRollover) :
    (turnAt minute before).RollsOver := by
  obtain ⟨_, passed⟩ := passed_cycled minute before
  rcases passed.rollsOver_or with ⟨rolls, _⟩ | ⟨_, same, _⟩
  · exact rolls
  · exact absurd same noted

private theorem History.cycled (rest : History plainReader (cycled minute before).1 entries last) :
    History plainReader before.1 (.cycle (turnAt minute before) :: entries) last := by
  obtain ⟨result, run⟩ := exists_run_cycled minute before
  exact .cycle (turnAt minute before) run rest

private theorem History.restarted (settings : before.1.settings = plainSettings)
    (rest : History plainReader (started minute before.2).1 entries last) :
    History plainReader before.1 (.start (inHour minute) :: entries) last := by
  have run : (Keeper.start before.1.settings (inHour minute) : StateM Volume _).run before.2 =
      pure ((started minute before.2).1, (started minute before.2).2) := by
    rw [settings]
    rfl
  exact .start run rest

end Morning

/-- The keeper and the disk before a rollover. -/
def early : Keeper × Volume := started 0 (.ofTree aliceTree)

theorem rollsOver_early : (turnAt 10 early).RollsOver :=
  rollsOver_of_noted (by decide +kernel)

private theorem alice_early : (early.1.board.roster.find? "alice@example.org").isSome ∧
    ¬ ((cycled 10 early).1.board.roster.find? "alice@example.org").isSome := by decide +kernel

/-- Without a template the day before cannot be kept. -/
private theorem keepingFails_of_empty (now : Instant) (keeper : Keeper) :
    ∃ error, KeepingFails now keeper (.ofTree .empty) error := by
  obtain ⟨result, ends, isRead⟩ := exists_endOf_readTemplate keeper (.ofTree .empty)
  cases result with
  | error error => exact ⟨error, .template ends⟩
  | ok template =>
    have there := isRead template rfl
    have missing : (Volume.ofTree .empty).fileAt? keeper.settings.template = none :=
      Tree.fileAt?_of_vacant rfl
    rw [missing] at there
    cases there

/-! ### The day before is kept first -/

/-- A cycle that cannot keep the day before stops there, with the keeper as it was. -/
private theorem KeepingFails.stops {now : Instant} {keeper : Keeper} {volume : Volume}
    {error : KeeperError} (fails : KeepingFails now keeper volume error)
    (due : keeper.rolloverDue now = true)
    (reader : Letter.Reader) (received : Instant) :
    ∃ volume', (runCycle reader keeper now received : StateM Volume _).run volume =
        pure ((.error error, keeper), volume') ∧
      volume.ChangedAt (IsKept now keeper.layout) volume' := by
  obtain ⟨result, volume', ends, changed, _⟩ := Keeper.endOf_keepDay now keeper volume
  obtain ⟨_, failed⟩ := fails.endOf_keepDay
  rw [failed] at ends
  cases ends
  refine ⟨volume', run_runCycle.mpr ?_, changed⟩
  rw [endOf_cycle, if_pos due, endOf_rollover, endOf_bind, failed]

/-- After a cycle that began a day the day is not begun again, unless it was another day in between. -/
private theorem not_due_again {reader : Letter.Reader} {turn : Turn} {after last : Keeper}
    {volume' : Volume} {result : Except KeeperError Unit} {entries : List Entry}
    (rolled : turn.RollsOver)
    (ended : (runCycle reader turn.keeper turn.now turn.received : StateM Volume _).run turn.volume =
      pure ((result, after), volume'))
    (history : History reader after entries last) {later : Instant}
    (today : later.date = turn.now.date) :
    last.rolloverDue later = false ∨ (∃ start, .start start ∈ entries) ∨
      ∃ other, .cycle other ∈ entries ∧ other.RollsOver ∧ other.now.date ≠ turn.now.date := by
  rcases (passed_runCycle ended).rollsOver_or with ⟨_, noted, _⟩ | ⟨rests, _⟩
  · refine (history.lastRollover noted).imp_left fun still => ?_
    simp [rolloverDue, still, today]
  · exact absurd rolled rests

/-- A rollover clears the board only after it kept the day before, and else the cycle ends with
everything as it was. No record goes in another way as long as the keeper runs. -/
theorem archived_before_cleared (reader : Letter.Reader) (now received : Instant) (keeper : Keeper)
    (volume : Volume) :
    (keeper.rolloverDue now = true →
      -- The day before cannot be kept, and a later cycle of the hour tries again.
      (∀ error, KeepingFails now keeper volume error →
        ∃ volume', (runCycle reader keeper now received : StateM Volume _).run volume =
            pure ((.error error, keeper), volume') ∧
          volume.ChangedAt (IsKept now keeper.layout) volume' ∧
          (∀ directory path, Spool.IsMail directory path →
            volume'.fileAt? path = volume.fileAt? path) ∧
          ∀ later : Instant, later.date = now.date → later.time.hour = now.time.hour →
            keeper.rolloverDue later = true) ∧
      -- It is kept, and there is a new day, even if the save fails then.
      ((∀ error, ¬ KeepingFails now keeper volume error) →
        ∃ saved begun middle result after volume',
          endOf (rollover now) keeper volume = (saved, begun, middle) ∧
          NewDay now keeper volume begun middle ∧
          (runCycle reader keeper now received : StateM Volume _).run volume =
            pure ((result, after), volume') ∧
          (match saved with
            | .ok () => endOf (serve reader now received) begun middle = (result, after, volume')
            | .error error => (result, after, volume') = (.error error, begun, middle)) ∧
          ∀ entries last, History reader after entries last → (∀ start, .start start ∉ entries) →
            ∀ later : Instant, later.date = now.date → last.rolloverDue later = false ∨
              ∃ turn, .cycle turn ∈ entries ∧ turn.RollsOver ∧ turn.now.date ≠ now.date)) ∧
    ∀ entries last, History reader keeper entries last → (∀ start, .start start ∉ entries) →
      ∀ address, (keeper.board.roster.find? address).isSome →
        (last.board.roster.find? address).isSome ∨
          ∃ turn, .cycle turn ∈ entries ∧ turn.RollsOver ∧
            (turn.keeper.board.roster.find? address).isSome := by
  refine ⟨fun due => ⟨fun error fails => ?_, fun keeps => ?_⟩, ?_⟩
  · obtain ⟨volume', ended, changed⟩ := fails.stops due reader received
    obtain ⟨hour, other⟩ := rolloverDue_eq_true.mp due
    refine ⟨volume', ended, changed, fun directory path mail => ?_, fun later today sameHour => ?_⟩
    · exact changed.files path fun isKept => isKept.not_isMail directory mail
    · exact rolloverDue_eq_true.mpr ⟨sameHour.trans hour, today ▸ other⟩
  · generalize final : endOf (cycle reader now received) keeper volume = ended
    obtain ⟨result, after, volume'⟩ := ended
    have ended := run_runCycle.mpr final
    have passed := passed_runCycle ended
    cases passed with
    | retried _ fails => exact absurd fails (keeps _)
    | plain notDue => exact absurd due (Bool.eq_false_iff.mp notDue)
    | renewed _ rest ends newDay =>
      have rolled : (Turn.mk now received keeper volume).RollsOver := ⟨due, _, _, _, ends, newDay⟩
      refine ⟨_, _, _, result, after, volume', ends, newDay, ended, rest, ?_⟩
      intro entries last history running later today
      have again := not_due_again rolled ended history today
      exact again.imp_right fun other => other.resolve_left fun ⟨start, member⟩ => running start member
  · intro entries last history running address there
    have kept := history.archived address there
    exact kept.imp_right fun other => other.resolve_left fun ⟨start, member⟩ => running start member

/-- Alice's record goes in a rollover that kept it, and stays where the template is missing. -/
theorem archived_before_cleared_of_alice :
    early.1.rolloverDue (inHour 10) = true ∧
    (∃ error volume', KeepingFails (inHour 10) early.1 (.ofTree .empty) error ∧
      (runCycle plainReader early.1 (inHour 10) (inHour 10) : StateM Volume _).run (.ofTree .empty) =
        pure ((.error error, early.1), volume')) ∧
    (∀ error, ¬ KeepingFails (inHour 10) early.1 early.2 error) ∧
    (∃ begun middle, NewDay (inHour 10) early.1 early.2 begun middle) ∧
    ∃ turn, History plainReader early.1 [.cycle turn] (cycled 10 early).1 ∧ turn.RollsOver ∧
      (turn.keeper.board.roster.find? "alice@example.org").isSome := by
  obtain ⟨there, gone⟩ := alice_early
  have due := rollsOver_early.1
  have history : History plainReader early.1 [.cycle (turnAt 10 early)] (cycled 10 early).1 :=
    .cycled (.done _)
  obtain ⟨error, fails⟩ := keepingFails_of_empty (inHour 10) early.1
  obtain ⟨volume', ended, _⟩ :=
    ((archived_before_cleared plainReader (inHour 10) (inHour 10) early.1 (.ofTree .empty)).1 due).1
      error fails
  obtain ⟨begins, keeps⟩ := archived_before_cleared plainReader (inHour 10) (inHour 10) early.1
    early.2
  obtain ⟨_, begun, middle, _, _, _, _, newDay, _⟩ := (begins due).2 rollsOver_early.keeps
  have kept := (keeps _ _ history (by simp) _ there).resolve_left gone
  obtain ⟨turn, member, rolls, kept⟩ := kept
  obtain rfl := Entry.cycle.inj (List.mem_singleton.mp member)
  exact ⟨due, ⟨error, volume', fails, ended⟩, rollsOver_early.keeps, ⟨begun, middle, newDay⟩, _, history,
    rolls, kept⟩

/-! ### One rollover a day, or another start -/

/-- What comes between two cycles leads from the keeper of the first to that of the second. -/
private theorem History.between {reader : Letter.Reader} {first last : Keeper}
    {before between after : List Entry} {one two : Turn}
    (history : History reader first (before ++ .cycle one :: (between ++ .cycle two :: after)) last) :
    one.keeper.settings = first.settings ∧ two.keeper.settings = first.settings ∧
      ∃ result kept volume,
        (runCycle reader one.keeper one.now one.received : StateM Volume _).run one.volume =
          pure ((result, kept), volume) ∧ History reader kept between two.keeper := by
  obtain ⟨_, start, rest⟩ := history.split
  cases rest with
  | @cycle _ _ _ _ _ _ ended rest =>
    obtain ⟨_, later, rest⟩ := rest.split
    cases rest with
    | cycle =>
      have kept := (passed_runCycle ended).settings
      exact ⟨start.settings_eq, (later.settings_eq.trans kept).trans start.settings_eq, _, _, _, ended,
        later⟩

/-- After a rollover no cycle of its date is due again unless there was a start in the hour. -/
private theorem not_due_while_running {reader : Letter.Reader} {one : Turn} {kept last : Keeper}
    {between : List Entry} {left : Volume} {result : Except KeeperError Unit} {now : Instant}
    (rolled : one.RollsOver)
    (ended : (runCycle reader one.keeper one.now one.received : StateM Volume _).run one.volume =
      pure ((result, kept), left))
    (history : History reader kept between last)
    (times : ∀ entry ∈ between, one.now ≤ entry.now ∧ entry.now ≤ now)
    (running : ∀ start, .start start ∈ between → start.date = one.now.date →
      start.time.hour ≠ one.keeper.settings.rolloverHour)
    (today : now.date = one.now.date) : last.rolloverDue now = false := by
  by_contra due
  rw [Bool.not_eq_false] at due
  have settings := history.settings_eq.trans (passed_runCycle ended).settings
  have hourOne := (rolloverDue_eq_true.mp rolled.1).1
  have hourTwo := (rolloverDue_eq_true.mp due).1
  rw [settings] at hourTwo
  rcases not_due_again rolled ended history today with known | ⟨start, member⟩ | ⟨turn, member, _, other⟩
  · rw [known] at due
    cases due
  · -- The start lies between two moments of the hour.
    obtain ⟨notBefore, notAfter⟩ := times (.start start) member
    have day : start.date = one.now.date := Instant.date_eq_of_between notBefore notAfter today
    have low := Instant.hour_le notBefore day.symm
    have high := Instant.hour_le notAfter (day.trans today.symm)
    apply running start member day
    rw [hourOne] at low
    rw [hourTwo] at high
    exact Nat.le_antisymm high low
  · obtain ⟨notBefore, notAfter⟩ := times (.cycle turn) member
    exact other (Instant.date_eq_of_between notBefore notAfter today)

/-- A start forgets the last rollover, so in the hour it makes the next one due. -/
private theorem due_after_start {settings : Settings} {now later : Instant} {begun : Keeper}
    {volume volume' : Volume}
    (started : (Keeper.start settings now : StateM Volume _).run volume = pure (begun, volume'))
    (hour : later.time.hour = settings.rolloverHour) : begun.rolloverDue later = true := by
  obtain ⟨board, plain⟩ := run_start_plain settings now volume
  rw [started] at plain
  obtain ⟨rfl, _⟩ := Prod.mk.inj plain
  exact rolloverDue_eq_true.mpr ⟨hour, nofun⟩

/-- On the date of a rollover no cycle is due again unless a start lies in between, on that date and
in the hour of the rollover. What the rollover kept and what was declared since are left alone then.
Such a start does make the next cycle of the hour due. -/
theorem due_again_after_start_only {reader : Letter.Reader} {first last : Keeper}
    (before between after : List Entry) {one two : Turn}
    (history : History reader first (before ++ .cycle one :: (between ++ .cycle two :: after)) last)
    (forward : (before ++ .cycle one :: (between ++ .cycle two :: after)).Pairwise
      fun earlier later => earlier.now ≤ later.now)
    (rolled : one.RollsOver) :
    ((∀ start, .start start ∈ between → start.date = one.now.date →
        start.time.hour ≠ first.settings.rolloverHour) →
      (two.now.date = one.now.date → two.keeper.rolloverDue two.now = false ∧
        ∀ result keeper volume,
          (runCycle reader two.keeper two.now two.received : StateM Volume _).run two.volume =
            pure ((result, keeper), volume) →
          ∀ address, (two.keeper.board.roster.find? address).isSome →
            (keeper.board.roster.find? address).isSome) ∧
      (two.keeper.rolloverDue two.now = true → ∃ saved begun volume,
        endOf (rollover two.now) two.keeper two.volume = (saved, begun, volume) ∧
          ∀ path, IsKept one.now first.layout path →
            volume.fileAt? path = two.volume.fileAt? path)) ∧
    ∀ start later begun volume volume',
      (Keeper.start first.settings start : StateM Volume _).run volume = pure (begun, volume') →
      later.time.hour = first.settings.rolloverHour → begun.rolloverDue later = true := by
  refine ⟨fun running => ?_, fun _ _ _ _ _ started hour => due_after_start started hour⟩
  obtain ⟨settingsOne, settingsTwo, result, kept, left, ended, later⟩ := history.between
  obtain ⟨_, order, _⟩ := List.pairwise_append.mp forward
  obtain ⟨afterOne, order⟩ := List.pairwise_cons.mp order
  obtain ⟨_, _, beforeTwo⟩ := List.pairwise_append.mp order
  have times (entry : Entry) (member : entry ∈ between) : one.now ≤ entry.now ∧ entry.now ≤ two.now :=
    ⟨afterOne entry (List.mem_append_left _ member),
      beforeTwo entry member (.cycle two) List.mem_cons_self⟩
  rw [← settingsOne] at running
  have notDue := not_due_while_running rolled ended later times running
  refine ⟨fun today => ⟨notDue today, fun result keeper volume ended address there => ?_⟩, fun due => ?_⟩
  · rcases (passed_runCycle ended).rollsOver_or with ⟨rolls, _⟩ | ⟨_, _, records⟩
    · exact absurd rolls.1 (Bool.eq_false_iff.mp (notDue today))
    · exact records address there
  · obtain ⟨saved, begun, volume, ends, changed⟩ :=
      endOf_rollover_changedAt two.now two.keeper two.volume
    refine ⟨saved, begun, volume, ends, fun path isKept => changed.files path ?_⟩
    have layout : two.keeper.layout = first.layout := congrArg Settings.layout settingsTwo
    rw [layout]
    rintro (again | table)
    · rw [notDue (again.date_eq isKept)] at due
      cases due
    · exact isKept.not_isTable table

/-- No second cycle of the hour is due while the keeper runs. -/
theorem due_again_after_start_only_of_alice :
    ∃ last, History plainReader early.1
        [.cycle (turnAt 10 early), .cycle (turnAt 30 (cycled 10 early))] last ∧
      (turnAt 10 early).RollsOver ∧ inHour 10 ≤ inHour 30 ∧
      (cycled 10 early).1.rolloverDue (inHour 30) = false := by
  have history : History plainReader early.1
      [.cycle (turnAt 10 early), .cycle (turnAt 30 (cycled 10 early))]
      (cycled 30 (cycled 10 early)).1 :=
    .cycled (.cycled (.done _))
  have order : inHour 10 ≤ inHour 30 := by decide
  obtain ⟨rests, _⟩ := due_again_after_start_only [] [] [] history
    (List.pairwise_pair.mpr order) rollsOver_early
  obtain ⟨notDue, _⟩ := rests nofun
  exact ⟨_, history, rollsOver_early, order, (notDue rfl).1⟩

/-- The keeper and the disk after a start in the hour of a rollover. -/
def late : Keeper × Volume := started 20 (cycled 10 early).2

/-- A start in the hour, and the cycle after it keeps the day before anew, now without Alice. -/
theorem day_begins_twice :
    History plainReader early.1
      [.cycle (turnAt 10 early), .start (inHour 20), .cycle (turnAt 30 late)] (cycled 30 late).1 ∧
    inHour 10 ≤ inHour 20 ∧ inHour 20 ≤ inHour 30 ∧ (inHour 30).date = (inHour 10).date ∧
    (turnAt 10 early).RollsOver ∧ (turnAt 30 late).RollsOver ∧
    late.2.fileAt? "state/bk/20240501.json" ≠ some "\x7b\x7d".toUTF8 ∧
    (cycled 30 late).2.fileAt? "state/bk/20240501.json" = some "\x7b\x7d".toUTF8 := by
  refine ⟨.cycled (.restarted ?_ (.cycled (.done _))), by decide, by decide, rfl, rollsOver_early,
    rollsOver_of_noted ?_, ?_, ?_⟩
  · obtain ⟨_, passed⟩ := passed_cycled 10 early
    exact passed.settings.trans (settings_started 0 _)
  · decide +kernel
  · decide +kernel
  · decide +kernel

end Whereabouts.Keeper
