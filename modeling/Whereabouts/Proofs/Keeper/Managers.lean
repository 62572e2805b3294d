import Whereabouts.Proofs.Keeper.History
import Whereabouts.Proofs.Mail.Frame
/-!
# The managers that a keeper knows

## Main results

* `managers_as_last_read`: at any point of a run the managers are those that their file named when it
  could last be read since the start. That is the file of the last start or rollover, with nobody in
  one that is missing.
* `managers_outlive_file`: a rollover that meets a file it cannot read goes on with the managers from
  before, where a start would go on with none.

## Strategy

1. `toldIn` lists what a cycle is told about the file of the managers: one answer if it rolls over and
   can keep the day before, and else none.
2. A reload takes what the answer tells, or leaves the managers as they are (`run_reload_managers`).
   Everything else in a cycle leaves them as they are (`carried_knows`).
3. So each cycle goes on from the managers before it with the last answer that told something, and
   over a run these steps put together depend on the whole list of answers alone.
-/
namespace Whereabouts.Keeper

open Whereabouts.Archive Whereabouts.Calendar Whereabouts.Mail

/-! ### What is told about the managers -/

/-- The answers about the file of the managers in a cycle. It is asked for once the day before is kept,
if a rollover is due. -/
def toldIn (now : Instant) (keeper : Keeper) (volume : Volume) : List (Except DiskError ByteArray) :=
  if keeper.rolloverDue now then
    match endOf (keepDay now) keeper volume with
    | (.ok _, _, kept) => [kept.answer keeper.layout.managers]
    | (.error _, _, _) => []
  else []

/-- The keeper in a run of starts and cycles with the same settings, and the answers about the file of
the managers since the last start. In between anything may become of the disk. -/
inductive Informed (reader : Letter.Reader) (settings : Settings) :
    List (Except DiskError ByteArray) → Keeper → Prop
  /-- Three tables are loaded before the managers. -/
  | start {now : Instant} {begun : Keeper} {volume volume' : Volume}
      (started : (Keeper.start settings now : StateM Volume _).run volume = pure (begun, volume')) :
      Informed reader settings [volume.counted.counted.counted.answer settings.layout.managers] begun
  | cycle {told : List (Except DiskError ByteArray)} {keeper after : Keeper} {now received : Instant}
      {volume volume' : Volume} {result : Except KeeperError Unit}
      (before : Informed reader settings told keeper)
      (ended : (runCycle reader keeper now received : StateM Volume _).run volume =
        pure ((result, after), volume')) :
      Informed reader settings (told ++ toldIn now keeper volume) after

/-- The managers of the last answer that tells of any, or those known before. -/
def lastTold (domain : String) (known : Managers) (told : List (Except DiskError ByteArray)) :
    Managers :=
  (told.filterMap (managersIn? domain)).getLastD known

private theorem lastTold_append (domain : String) (known : Managers)
    (earlier later : List (Except DiskError ByteArray)) :
    lastTold domain known (earlier ++ later) =
      lastTold domain (lastTold domain known earlier) later := by
  simp only [lastTold, List.filterMap_append, List.getLastD_eq_getLast?, List.getLast?_append]
  cases (later.filterMap (managersIn? domain)).getLast? <;> rfl

private theorem lastTold_singleton (domain : String) (known : Managers)
    (answer : Except DiskError ByteArray) :
    lastTold domain known [answer] = (managersIn? domain answer).getD known := by
  rw [lastTold, List.filterMap_cons]
  cases managersIn? domain answer <;> rfl

/-! ### What the keeper knows -/

structure Knows (settings : Settings) (managers : Managers) (keeper : Keeper) : Prop where
  managers : keeper.board.managers = managers
  domain : keeper.board.domain = settings.domain
  settings : keeper.settings = settings

private theorem managers_interpret (board : Board) (message : Message) :
    (interpret board message).1.managers = board.managers ∧
      (interpret board message).1.domain = board.domain := by
  have interpreted := interpreted_interpret board message
  generalize (interpret board message).1 = after, (interpret board message).2 = outcome at interpreted
  cases interpreted with
  | ignored => exact ⟨rfl, rfl⟩
  | rejected => exact ⟨rfl, rfl⟩
  | applied alters => exact alters.managers

/-- No mail changes the managers. -/
private theorem carried_knows (settings : Settings) (managers : Managers) :
    Carried (Knows settings managers) where
  marks _ knows := ⟨knows.managers, knows.domain, knows.settings⟩
  notes _ knows := ⟨knows.managers, knows.domain, knows.settings⟩
  letters message knows := by
    obtain ⟨same, domain⟩ := managers_interpret _ message
    exact ⟨same.trans knows.managers, domain.trans knows.domain, knows.settings⟩

private theorem knows_start {settings : Settings} {now : Instant} {begun : Keeper}
    {volume volume' : Volume}
    (started : (Keeper.start settings now : StateM Volume _).run volume = pure (begun, volume')) :
    Knows settings (lastTold settings.domain .none
      [volume.counted.counted.counted.answer settings.layout.managers]) begun := by
  simp only [Keeper.start, loadBoard, loadRoster, loadNotices, loadAlternates, StateT.run_bind,
    run_loadedOr, run_reload_managers, pure_bind, StateT.run_pure] at started
  obtain ⟨rfl, _⟩ := Prod.mk.inj started
  exact ⟨(lastTold_singleton ..).symm, rfl, rfl⟩

section Cycle

variable {reader : Letter.Reader} {settings : Settings} {managers : Managers} {now received : Instant}
  {keeper : Keeper} {volume : Volume}

private theorem knows_rollover (knows : Knows settings managers keeper) {kept : Volume}
    (keeps : endOf (keepDay now) keeper volume = (.ok (), keeper, kept)) :
    ∃ result begun volume', endOf (rollover now) keeper volume = (result, begun, volume') ∧
      Knows settings (lastTold settings.domain managers [kept.answer keeper.layout.managers])
        begun := by
  obtain ⟨begun, left, begins, knows⟩ : ∃ begun left,
      endOf (beginDay now) keeper kept = (.ok (), begun, left) ∧
        Knows settings (lastTold settings.domain managers [kept.answer keeper.layout.managers])
          begun := by
    simp only [beginDay, endOf_bind, endOf_get, endOf_onDisk, run_reload_managers]
    refine ⟨_, _, rfl, ?_, knows.domain, knows.settings⟩
    rw [lastTold_singleton, ← knows.domain, ← knows.managers]
    rfl
  -- Saving what the new day changed may fail, but changes only the marks of the keeper.
  obtain ⟨result, unsaved, volume', saves, _⟩ := endOf_flush begun left
  refine ⟨result, _, volume', ?_, (carried_knows settings _).marks unsaved knows⟩
  simp only [endOf_rollover, endOf_bind, keeps, begins, saves]

/-- A cycle goes on with what it is told. -/
theorem knows_cycle (knows : Knows settings managers keeper) {result : Except KeeperError Unit}
    {after : Keeper} {volume' : Volume}
    (ended : (runCycle reader keeper now received : StateM Volume _).run volume =
      pure ((result, after), volume')) :
    Knows settings (lastTold settings.domain managers (toldIn now keeper volume)) after := by
  rw [run_runCycle, endOf_cycle] at ended
  rw [toldIn]
  by_cases due : keeper.rolloverDue now = true
  · rw [if_pos due] at ended ⊢
    obtain ⟨kept?, kept, ends, _, _⟩ := endOf_keepDay now keeper volume
    rw [ends]
    cases kept? with
    | error error =>
      -- The day before could not be kept, and the cycle stopped.
      simp only [endOf_rollover, endOf_bind, ends] at ended
      cases ended
      exact knows
    | ok =>
      obtain ⟨saved, begun, middle, rolled, knows⟩ := knows_rollover knows ends
      rw [rolled] at ended
      cases saved with
      | error =>
        cases ended
        exact knows
      | ok => exact (carried_knows settings _).served ended knows
  · rw [if_neg due] at ended ⊢
    exact (carried_knows settings _).served ended knows

end Cycle

theorem Informed.knows {reader : Letter.Reader} {settings : Settings}
    {told : List (Except DiskError ByteArray)} {keeper : Keeper}
    (informed : Informed reader settings told keeper) :
    Knows settings (lastTold settings.domain .none told) keeper := by
  -- A start forgets what was known, and a cycle goes on from it.
  induction informed with
  | start started => exact knows_start started
  | cycle _ ended knows =>
    rw [lastTold_append]
    exact knows_cycle knows ended

/-- At any point of a run the managers are those of the last answer since the start that tells of any.
So a start takes them from their file as it is then, or has none if it cannot be read; and so does a
rollover, unless the file cannot be read, which leaves them as they were. Keeping the day before does
not touch the file. -/
theorem managers_as_last_read {reader : Letter.Reader} {settings : Settings}
    {told : List (Except DiskError ByteArray)} {keeper : Keeper}
    (informed : Informed reader settings told keeper) :
    keeper.board.managers = (told.filterMap (managersIn? settings.domain)).getLastD .none ∧
    (∀ now volume, ∃ begun volume',
      (Keeper.start settings now : StateM Volume _).run volume = pure (begun, volume') ∧
        begun.board.managers = (managersIn? settings.domain
          (volume.counted.counted.counted.answer settings.layout.managers)).getD .none) ∧
    ∀ now received volume kept, keeper.rolloverDue now = true →
      endOf (keepDay now) keeper volume = (.ok (), keeper, kept) →
      kept.fileAt? settings.layout.managers = volume.fileAt? settings.layout.managers ∧
      ∃ result after volume',
        (runCycle reader keeper now received : StateM Volume _).run volume =
            pure ((result, after), volume') ∧
          after.board.managers = (managersIn? settings.domain
            (kept.answer settings.layout.managers)).getD keeper.board.managers := by
  have knows := informed.knows
  refine ⟨knows.managers, fun now volume => ?_, fun now received volume kept due keeps => ⟨?_, ?_⟩⟩
  · obtain ⟨board, started⟩ := run_start_plain settings now volume
    refine ⟨_, _, started, ?_⟩
    rw [(knows_start started).managers, lastTold_singleton]
  · obtain ⟨_, _, ends, changed, _⟩ := endOf_keepDay now keeper volume
    rw [keeps] at ends
    cases ends
    rw [← knows.settings]
    exact changed.files _ fun isKept => isKept.ne_managers rfl
  · generalize final : endOf (cycle reader now received) keeper volume = ended
    obtain ⟨result, after, volume'⟩ := ended
    have ended := run_runCycle.mpr final
    refine ⟨result, after, volume', ended, ?_⟩
    have layout : keeper.layout = settings.layout := congrArg Settings.layout knows.settings
    rw [(knows_cycle knows ended).managers, toldIn, if_pos due, keeps, layout, knows.managers]
    exact lastTold_singleton ..

/-- The disk of `aliceTree`, with this file of the managers. -/
def managed (content : ByteArray) : Volume :=
  .ofTree (aliceTree.insert "state/managers.txt" (.file content))

/-- The file names one manager. -/
def ledByBoss : Volume := managed "boss\n".toUTF8

private theorem informed_ledByBoss : Informed plainReader plainSettings
    [ledByBoss.counted.counted.counted.answer plainSettings.layout.managers]
    (started 0 ledByBoss).1 :=
  have begun : (Keeper.start plainSettings (inHour 0) : StateM Volume _).run ledByBoss =
      pure ((started 0 ledByBoss).1, (started 0 ledByBoss).2) := rfl
  .start begun

/-- A rollover takes over the managers that are named since. -/
theorem managers_as_last_read_of_carol :
    let led := (started 0 ledByBoss).1
    led.board.managers = ⟨["boss@example.org"]⟩ ∧
    ∃ result after volume', (runCycle plainReader led (inHour 10) (inHour 10) : StateM Volume _).run
        (managed "carol\n".toUTF8) = pure ((result, after), volume') ∧
      after.board.managers = ⟨["carol@example.org"]⟩ := by
  intro led
  let renewed := managed "carol\n".toUTF8
  obtain ⟨_, _, reads⟩ := managers_as_last_read informed_ledByBoss
  have boss : led.board.managers = ⟨["boss@example.org"]⟩ := by decide +kernel
  have rolls : (turnAt 10 (led, renewed)).RollsOver :=
    rollsOver_of_noted (by decide +kernel)
  obtain ⟨kept?, kept, keeps, _, outcome⟩ := endOf_keepDay (inHour 10) led renewed
  cases kept? with
  | error error => exact absurd outcome (rolls.keeps error)
  | ok =>
    have named : managersIn? plainSettings.domain (kept.answer plainSettings.layout.managers) =
        some ⟨["carol@example.org"]⟩ := by
      rw [show kept = (endOf (keepDay (inHour 10)) led renewed).2.2 by rw [keeps]]
      decide +kernel
    obtain ⟨_, result, after, volume', ended, managers⟩ := reads _ (inHour 10) _ _ rolls.1 keeps
    rw [named, Option.getD_some] at managers
    exact ⟨boss, result, after, volume', ended, managers⟩

/-- The file of the managers is no text any more. -/
def garbled : Volume := managed ⟨#[0xFF]⟩

/-- A rollover that cannot read the file keeps the manager, whom a start does not know then. -/
theorem managers_outlive_file :
    let led := (started 0 ledByBoss).1
    Informed plainReader plainSettings
      [ledByBoss.counted.counted.counted.answer plainSettings.layout.managers] led ∧
    (turnAt 10 (led, garbled)).RollsOver ∧
    garbled.fileAt? plainSettings.layout.managers = some ⟨#[0xFF]⟩ ∧
    String.fromUTF8? ⟨#[0xFF]⟩ = none ∧
    (cycled 10 (led, garbled)).1.board.managers = ⟨["boss@example.org"]⟩ ∧
    (started 20 (cycled 10 (led, garbled)).2).1.board.managers = .none := by
  intro led
  refine ⟨informed_ledByBoss, rollsOver_of_noted ?_, ?_, ?_, ?_, ?_⟩
  all_goals decide +kernel

end Whereabouts.Keeper
