import Std.Http.Server
import Std.Time.Zoned
import Whereabouts.Keeper
import Whereabouts.Letter.Basic
import Whereabouts.Settings.File
import Whereabouts.Site
/-!
# The program

Reads its settings, keeps the board in cycles and, if the settings say so, serves the pages. Given
`--once` it ends after one cycle.
-/
namespace Whereabouts

open Whereabouts.Calendar

/-! ### The disk and the clock -/

def DiskError.ofHost : IO.Error → DiskError
  | .noFileOrDirectory .. => .missing
  | error => .refused (toString error)

/-- What an action on the host gives, or why it failed. -/
def attempt {α : Type} (action : IO α) : IO (Except DiskError α) := do
  match ← action.toBaseIO with
  | .ok value => return .ok value
  | .error error => return .error (.ofHost error)

instance : Disk IO where
  read path := attempt (IO.FS.readBinFile path)
  write path content := attempt (IO.FS.writeBinFile path content)
  append path content := attempt do (← IO.FS.Handle.mk path .append).write content
  remove path := attempt (IO.FS.removeFile path)
  list path := attempt do
    let entries ← ((← IO.currentDir) / path).readDir
    return (entries.map (·.fileName)).toList
  makeDirectories path := attempt (IO.FS.createDirAll path)

def instantOf? (moment : Std.Time.PlainDateTime) : Option Instant := do
  let date ← Date.of? moment.date.year.toInt moment.date.month.val.toNat moment.date.day.val.toNat
  let time ← TimeOfDay.of? moment.time.hour.val.toNat moment.time.minute.val.toNat
    moment.time.second.val.toNat moment.time.nanosecond.val.toNat
  some ⟨date, time⟩

/-- The local time. -/
def currentInstant : IO Instant := do
  return (instantOf? (← Std.Time.PlainDateTime.now)).getD (.startOfDay .epoch)

/-- By how many seconds the rules put local time ahead at a moment of the common zone. -/
def secondsAhead (rules : Std.Time.TimeZone.ZoneRules) (moment : Instant) : Int :=
  have real := moment.date.valid
  have bounds := daysIn_bounds moment.date.year moment.date.month
  let month := Std.Time.Month.Ordinal.ofNat moment.date.month ⟨real.1, real.2.1⟩
  let day := Std.Time.Day.Ordinal.ofNat moment.date.day (by omega)
  let date := Std.Time.PlainDate.ofYearMonthDayClip (.ofInt moment.date.year) month day
  let seconds := date.toEpochDay.val * 86400 + moment.time.secondOfDay
  (rules.timezoneAt (.ofSecondsSinceUnixEpoch (.ofInt seconds))).offset.second.val

/-- The zone with these rules. What would be a day or more counts for nothing. -/
def zoneOf (rules : Std.Time.TimeZone.ZoneRules) : Zone where
  ahead moment := if (secondsAhead rules moment).natAbs < 86400 then secondsAhead rules moment else 0
  withinDay moment := by
    split
    next within => exact within
    · decide

/-- Reads letters at the place of the host. -/
def localReader : IO Letter.Reader := do
  return Letter.reader (zoneOf (← Std.Time.Database.defaultGetLocalZoneRules))

/-! ### Serving -/

/-- The board that the pages are made from. -/
structure Desk where
  settings : Settings
  board : IO.Ref Board

open Std.Http in
instance : Server.Handler Desk where
  onRequest desk request := do
    let now ← currentInstant
    let response : Site.Response ←
      (Site.respond desk.settings (← desk.board.get) now (toString request.line.method)
        (toString request.line.uri) : IO Site.Response)
    let status := (Status.ofCode none response.status.toUInt16).getD .internalServerError
    let headers := [("content-type", response.contentType),
      ("cache-control", response.cacheControl), ("allow", response.allow)]
    let add (head : Response.Builder) (header : String × Option String) : Response.Builder :=
      (header.2.bind (head.header? header.1)).getD head
    let head := headers.foldl add (Response.withStatus status)
    let body ← Body.Full.ofString response.body
    return head.body (Body.Any.ofBody body)

/-- An address and a number with a colon between them. -/
def socketAddress? (text : String) : Option Std.Net.SocketAddress := do
  let host ← Text.beforeLast? (· == ':') text.toList
  let address ← Std.Net.IPv4Addr.ofString (String.ofList host)
  let number ← (String.ofList (text.toList.drop (host.length + 1))).toNat?
  some (.v4 ⟨address, number.toUInt16⟩)

def serve (desk : Desk) (listen : String) : IO Unit := do
  match socketAddress? listen with
  | none => throw (IO.userError ("failed to bind " ++ listen))
  | some address =>
    let _ ← (Std.Http.Server.serve address desk).block

/-! ### Cycles -/

def report (lines : List String) : IO Unit := lines.forM fun line => IO.eprintln line

/-- One cycle and a report on it; the keeper after it, and whether it failed. -/
def oneCycle (reader : Letter.Reader) (keeper : Keeper) : IO (Keeper × Option KeeperError) := do
  let now ← currentInstant
  let (ended, keeper) ← Keeper.runCycle reader keeper now (← currentInstant)
  report (keeper.journal.map Event.message)
  let keeper := { keeper with journal := [] }
  match ended with
  | .ok () => return (keeper, none)
  | .error error => return (keeper, some error)

/-- Waits so many milliseconds, in parts that a single wait can last. -/
def pause (milliseconds : Nat) : IO Unit := do
  for _ in [0 : milliseconds / 3600000] do IO.sleep 3600000
  IO.sleep (milliseconds % 3600000).toUInt32

/-- Cycles without end, each begun an interval after the one before. -/
partial def keepOn (reader : Letter.Reader) (board : IO.Ref Board) (keeper : Keeper) : IO Unit := do
  let begun ← IO.monoMsNow
  let (keeper, failure) ← oneCycle reader keeper
  board.set keeper.board
  report (failure.toList.map fun error => "poll cycle failed: " ++ error.message)
  let spent := (← IO.monoMsNow) - begun
  pause (keeper.settings.intervalSeconds * 1000 - spent)
  keepOn reader board keeper

/-! ### The command line -/

structure Arguments where
  config : String
  once : Bool

def Arguments.usual : Arguments := ⟨"checkin.toml", false⟩

def Arguments.read? (arguments : Arguments) : List String → Option Arguments
  | [] => some arguments
  | "--once" :: rest => { arguments with once := true }.read? rest
  | "-c" :: path :: rest => { arguments with config := path }.read? rest
  | "--config" :: path :: rest => { arguments with config := path }.read? rest
  | _ => none

def usage : String := "Usage: whereabouts [--config <CONFIG>] [--once]"

/-- The settings in a file, which may be missing, and in the environment. -/
def readSettings (path : String) : IO Settings := do
  let text ←
    match ← (Disk.readText path : ExceptT DiskError IO String).run with
    | .ok text => pure text
    | .error .missing => pure ""
    | .error error => throw (IO.userError ("failed to read config file: " ++ error.message))
  let environment ← Settings.fieldNames.mapM fun name => do
    return (Settings.variableName name, ← IO.getEnv (Settings.variableName name))
  match Settings.ofFile? (fun name => (environment.lookup name).join) text with
  | some settings => return settings
  | none => throw (IO.userError "failed to read the settings")

def runProgram (arguments : Arguments) : IO Unit := do
  let settings ← readSettings arguments.config
  match ← (Archive.prepare settings.layout : ExceptT ArchiveError IO Unit).run with
  | .ok () => pure ()
  | .error error => throw (IO.userError ("failed to open state directory: " ++ error.message))
  let keeper ← Keeper.start settings (← currentInstant)
  let reader ← localReader
  if arguments.once then
    match ← oneCycle reader keeper with
    | (_, none) => return
    | (_, some error) => throw (IO.userError ("poll cycle failed: " ++ error.message))
  else
    let board ← IO.mkRef keeper.board
    settings.listen.forM fun address => serve ⟨settings, board⟩ address
    keepOn reader board keeper

end Whereabouts

def main (arguments : List String) : IO UInt32 := do
  match Whereabouts.Arguments.usual.read? arguments with
  | none =>
    IO.eprintln Whereabouts.usage
    return 2
  | some arguments =>
    Whereabouts.runProgram arguments
    return 0
