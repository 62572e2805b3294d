import Whereabouts.Disk.Basic
import Whereabouts.Disk.Path
import Whereabouts.Letter.Reader
import Whereabouts.Letter.Utf8
/-!
# The spool

Mail waits as files of one directory until the board has taken it. Only files with the extension of
mail are looked at, in the order of their names, and read as letters. A file that cannot be read or
is no letter is set apart. Taking mail removes its file; that the file is gone already is no failure.
-/
namespace Whereabouts

open Whereabouts.Calendar Whereabouts.Mail

structure SpoolError where
  path : String
  error : DiskError
deriving DecidableEq

def SpoolError.message (failure : SpoolError) : String :=
  "spool error on " ++ failure.path ++ ": " ++ failure.error.message

namespace Spool

def extension : String := "eml"

/-- The names of mail among the names in a directory, in order. -/
def mailNames (names : List String) : List String :=
  (names.filter (Path.hasExtension extension)).mergeSort fun one two => one ≤ two

/-- A file of the spool and the message in it, if it is a letter that can be read. -/
structure Delivery where
  path : String
  message? : Option Message
deriving DecidableEq

/-- What a file's octets say; nothing if the file could not be read. -/
def messageIn? (reader : Letter.Reader) (received : Instant) :
    Except DiskError ByteArray → Option Message
  | .ok content => reader.read? (Letter.octetsOf content) received
  | .error _ => none

/-- What waits, as files with their messages and files without. -/
structure Waiting where
  letters : List (String × Message)
  others : List String
deriving DecidableEq

def Waiting.ofDeliveries (deliveries : List Delivery) : Waiting where
  letters := deliveries.filterMap fun delivery => delivery.message?.map (delivery.path, ·)
  others := (deliveries.filter (·.message?.isNone)).map (·.path)

variable {m : Type → Type} [Monad m] [Disk m]

def deliver (reader : Letter.Reader) (received : Instant) (path : String) : m Delivery :=
  (fun content => ⟨path, messageIn? reader received content⟩) <$> Disk.read path

/-- Reads all that waits. A letter without a date counts as sent at `received`. -/
def fetch (reader : Letter.Reader) (directory : String) (received : Instant) :
    ExceptT SpoolError m Waiting := do
  let names ← (ExceptT.mk (Disk.list directory)).adapt fun error => SpoolError.mk directory error
  let paths := (mailNames names).map (Path.join directory)
  let deliveries ← ExceptT.lift (paths.mapM (deliver reader received))
  return .ofDeliveries deliveries

/-- Whether a file is gone, as far as its removal tells. -/
def removed (path : String) : Except DiskError Unit → Except SpoolError Unit
  | .ok () | .error .missing => .ok ()
  | .error error => .error ⟨path, error⟩

/-- Removes a file from the spool. -/
def take (path : String) : ExceptT SpoolError m Unit :=
  ExceptT.mk (removed path <$> Disk.remove path)

example : mailNames ["b.eml", "notes.txt", "a.eml", ".eml"] = ["a.eml", "b.eml"] := by cbv

end Spool

end Whereabouts
