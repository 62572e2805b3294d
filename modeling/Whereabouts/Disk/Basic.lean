/-!
# Disks

What the program asks of a disk, in any monad that has one. A request either succeeds or tells why
it did not.
-/
namespace Whereabouts

inductive DiskError where
  | missing
  | notDirectory
  | isDirectory
  | nameTooLong
  /-- The file is not UTF-8. -/
  | notText
  /-- Anything else that keeps a disk from serving a request. -/
  | refused (reason : String)
deriving DecidableEq, Repr

namespace DiskError

def message : DiskError → String
  | missing => "No such file or directory (os error 2)"
  | notDirectory => "Not a directory (os error 20)"
  | isDirectory => "Is a directory (os error 21)"
  | nameTooLong => "File name too long (os error 36)"
  | notText => "stream did not contain valid UTF-8"
  | refused reason => reason

end DiskError

class Disk (m : Type → Type) where
  read : (path : String) → m (Except DiskError ByteArray)
  /-- Puts a file in place of the one that was there. -/
  write : (path : String) → (content : ByteArray) → m (Except DiskError Unit)
  /-- Adds to the end of a file, which is made if it is missing. -/
  append : (path : String) → (content : ByteArray) → m (Except DiskError Unit)
  /-- Removes a file, but no directory. -/
  remove : (path : String) → m (Except DiskError Unit)
  /-- The names in a directory, in any order. -/
  list : (path : String) → m (Except DiskError (List String))
  /-- Makes a directory and those around it, as far as they are missing. -/
  makeDirectories : (path : String) → m (Except DiskError Unit)

namespace Disk

variable {m : Type → Type} [Monad m] [Disk m]

def textOf (content : ByteArray) : Except DiskError String :=
  match String.fromUTF8? content with
  | some text => .ok text
  | none => .error .notText

def readText (path : String) : ExceptT DiskError m String := do
  let content ← ExceptT.mk (read path)
  ExceptT.mk (pure (textOf content))

def writeText (path : String) (text : List Char) : ExceptT DiskError m Unit :=
  ExceptT.mk (write path (String.ofList text).toUTF8)

def appendText (path : String) (text : List Char) : ExceptT DiskError m Unit :=
  ExceptT.mk (append path (String.ofList text).toUTF8)

end Disk

end Whereabouts
