import Whereabouts.Letter.Boundary
import Whereabouts.Letter.FreeText
import Whereabouts.Letter.MediaType
import Whereabouts.Letter.Transfer
import Whereabouts.Letter.Utf8
/-!
# The content of a letter

A letter is one part, or a container of parts with a mark before each and a closing one after the
last. The text of a letter is that of the first part that is shown in place. A part that is
attached is not shown, nor is a letter within the letter; of alternatives only the plain text is. A
part that is broken off or badly encoded stands as it was written. Among alternatives it is shown
like any other, and so is the text of a whole letter that is badly encoded, even of one that is
attached, but no part of another container is.

A letter within the letter can have a letter in place of its content. Then it takes in the part
after it as well, and if that is a letter the next one, and so on. If the container is closed while
it does, nothing more is read. Then an inner letter that holds more letters than there are parts
before it stands for the whole letter, and shows no text.
-/
namespace Whereabouts.Letter

open Whereabouts.Text

/-! ### What lies around a part -/

inductive Container where
  /-- The part is a whole letter. -/
  | letter
  | mixed
  | alternative
  | related
  | digest
deriving DecidableEq

def Container.ofSubtype (subtype : List Char) : Container :=
  if subtype = "alternative".toList then .alternative
  else if subtype = "related".toList then .related
  else if subtype = "digest".toList then .digest
  else .mixed

/-- The letter that a part belongs to. -/
inductive Owner where
  /-- The letter that is read. -/
  | whole
  /-- A letter that is a part of it and comes after so many others. -/
  | inner (before : Nat)
  /-- A letter that is a part of another inner letter. -/
  | deeper
deriving DecidableEq

namespace Owner

/-- The owner of what is in a letter, if that letter is a part with so many before it. -/
def ofContent (owner : Owner) (before : Nat) : Owner :=
  match owner with
  | .whole => .inner before
  | .inner _ | .deeper => .deeper

/-- Whether the letter stands for the whole one if the container is closed after a part of it that
has so many before it. -/
def standsForWhole (owner : Owner) (before : Nat) : Bool :=
  match owner with
  | .inner rank => rank ≤ before
  | .whole | .deeper => false

end Owner

structure Setting where
  container : Container
  /-- The mark that ends the part; empty if only the end of the letter does. -/
  mark : List Char
  /-- The container is one of alternatives, or lies in one. -/
  isAmongAlternatives : Bool
  owner : Owner
deriving DecidableEq

/-- Nothing lies around a letter. -/
def Setting.outermost : Setting := ⟨.letter, [], false, .whole⟩

/-! ### What a part is -/

def mediaOf? (head : Head) : Option MediaType :=
  (head.value? "content-type").bind MediaType.ofText?

def isAttached (head : Head) : Bool :=
  match (head.value? "content-disposition").bind MediaType.ofText? with
  | none => false
  | some media => media.isOf "attachment"

def transferOf (head : Head) : Transfer :=
  match head.value? "content-transfer-encoding" with
  | none => .plain
  | some value => .named (lowerAscii (freeText value))

def isPlain (media : MediaType) : Bool := media.isOf "text" && media.subtype == "plain".toList

def isMarkup (media : MediaType) : Bool := media.isOf "text" && media.subtype == "html".toList

def isPicture (media : MediaType) : Bool :=
  media.isOf "image" || media.isOf "audio" || media.isOf "video"

/-- Whether a part is a letter of its own. In a digest a part without a media type is one. -/
def isLetter (setting : Setting) (media? : Option MediaType) : Bool :=
  match media? with
  | none => setting.container = .digest
  | some media =>
    media.isOf "message" &&
      (media.subtype == "rfc822".toList || media.subtype == "global".toList)

/-- The container that a part is, its mark, and the text after the first mark. -/
def containerOf? (media? : Option MediaType) (text : List Char) :
    Option (Container × List Char × List Char) := do
  let media ← media?.filter (·.isOf "multipart")
  let boundary ← media.parameter? "boundary"
  if boundary.isEmpty then none
  let (_, after) ← cutMark? (markOf boundary) text
  some (.ofSubtype media.subtype, markOf boundary, after)

/-! ### Parts that hold no others -/

structure Leaf where
  octets : List Char
  /-- The part is broken off or badly encoded, and this is how it was written. -/
  isRaw : Bool
  /-- The text after the mark, if one ends the part. -/
  rest? : Option (List Char)
deriving DecidableEq

def readLeaf (mark : List Char) (transfer : Transfer) (text : List Char) : Leaf :=
  let leaf (isMarked : Bool) (inside : List Char) (rest? : Option (List Char)) : Leaf :=
    match transfer.decode? isMarked inside with
    | some octets => ⟨octets, false, rest?⟩
    | none => ⟨if isMarked then dropBreak inside else inside, true, rest?⟩
  if mark.isEmpty then leaf false text none
  else
    match cutMark? mark text with
    | some (inside, after) => leaf true inside (some after)
    | none => ⟨text, true, none⟩

/-- Whether a part counts beside the first: a picture does, and a text that has no file name. -/
def countsLater (media? : Option MediaType) : Bool :=
  media?.all fun media => isPicture media || (media.parameter? "name").isNone

/-- Whether a part stands in its place in the letter. A part without a media type is plain text, and
a badly encoded letter stands in its place even if it is attached. -/
def isInPlace (setting : Setting) (isFirst : Bool) (head : Head) (media? : Option MediaType)
    (leaf : Leaf) : Bool :=
  (media?.all fun media => isPlain media || isMarkup media || isPicture media) &&
    (isFirst || (setting.container ≠ .related && countsLater media?)) &&
      if leaf.isRaw then setting.container = .letter else !isAttached head

/-- The text of a shown part; nothing in place of a picture. -/
def shownText (media? : Option MediaType) (leaf : Leaf) : List Char :=
  if media?.all fun media => media.isOf "text" then decodeUtf8 leaf.octets else []

/-- What the reading of a part gives, or that of some parts that follow each other. -/
structure Part where
  /-- The first text that is shown. -/
  text? : Option (List Char)
  /-- Later parts of the container are shown as well. -/
  showsLater : Bool
  /-- How many parts of its letter these are. A container is one besides those in it. -/
  size : Nat
  /-- The head of the letter that stands for the whole one, if that is an inner letter. -/
  head? : Option Head
  /-- The text after the mark that ends the part, if there is more to read. -/
  rest? : Option (List Char)
deriving DecidableEq

namespace Part

/-- Nothing is shown or left to read. -/
def ended (showsLater : Bool) : Part := ⟨none, showsLater, 0, none, none⟩

def andThen (part later : Part) : Part :=
  { later with text? := part.text?.or later.text?, size := part.size + later.size }

end Part

/-- Reads a part that holds no others; `isShown` tells whether its text may be shown. Markup among
alternatives stands for the plain text that would follow it. -/
def leafPart (setting : Setting) (isFirst isShown : Bool) (head : Head) (text : List Char) : Part :=
  let media? := mediaOf? head
  let leaf := readLeaf setting.mark (transferOf head) text
  let part (shows showsLater : Bool) : Part :=
    ⟨if shows then some (shownText media? leaf) else none, showsLater, 1, none, leaf.rest?⟩
  if isLetter setting media? then part false isShown
  else if setting.container = .alternative then part (media?.all isPlain) isShown
  else if isInPlace setting isFirst head media? leaf then
    let stillShown := isShown && !(setting.isAmongAlternatives && media?.any isMarkup)
    part stillShown stillShown
  else part false isShown

/-! ### Parts within parts -/

mutual

/-- Reads a part that has so many parts of its letter before it; `isShown` tells whether its text
may be shown. Every step passes over some of the text, so the length of the letter bounds the number
of steps. -/
def readPart : (steps : Nat) → Setting → (before : Nat) → (isFirst isShown : Bool) →
    (text : List Char) → Part
  | 0, _, _, _, isShown, _ => .ended isShown
  | steps + 1, setting, before, isFirst, isShown, text =>
    let head := readHead text
    match head.rest with
    | none => .ended isShown
    | some text =>
      match containerOf? (mediaOf? head) text with
      | some (container, mark, text) =>
        let within : Setting :=
          { setting with
            container, mark,
            isAmongAlternatives := setting.isAmongAlternatives || container = .alternative }
        let parts := readParts steps within (before + 1) true isShown text
        let after? :=
          if setting.mark.isEmpty then none else parts.rest?.bind (cutMark? setting.mark)
        { parts with showsLater := isShown, size := parts.size + 1, rest? := after?.map (·.2) }
      | none =>
        if isLetter setting (mediaOf? head) && transferOf head = .plain then
          let within : Setting := ⟨.letter, setting.mark, false, setting.owner.ofContent before⟩
          let content := readPart steps within 0 true true text
          if setting.container ≠ .letter then
            { content with text? := none, showsLater := isShown, size := 1 }
          else
            match content.rest? with
            | none => .ended isShown
            | some ('-' :: '-' :: _) =>
              { Part.ended isShown with
                head? := if setting.owner.standsForWhole before then some head else none }
            | some rest =>
              let later :=
                readPart steps setting (before + 1) false isShown (afterLaterMarkLine rest)
              { later with head? := later.head?.map fun _ => head }
        else leafPart setting isFirst isShown head text

/-- Reads the parts of a container after one of its marks and through its last. -/
def readParts : (steps : Nat) → Setting → (before : Nat) → (isFirst isShown : Bool) →
    (text : List Char) → Part
  | 0, _, _, _, isShown, _ => .ended isShown
  | steps + 1, setting, before, isFirst, isShown, text =>
    let text := if isFirst then afterMarkLine text else afterLaterMarkLine text
    let part := readPart steps setting before isFirst isShown text
    match part.rest? with
    | none => part
    | some ('-' :: '-' :: rest) => { part with rest? := some rest }
    | some rest =>
      part.andThen (readParts steps setting (before + part.size) false part.showsLater rest)

end

/-! ### Whole letters -/

structure Content where
  /-- The head of the letter, or of the one that stands for it. -/
  head : Head
  /-- The text that the letter shows; empty if it shows none. -/
  text : List Char
deriving DecidableEq

def contentOf (letter : List Char) : Content :=
  let part := readPart (2 * letter.length + 2) .outermost 0 true true letter
  match part.head? with
  | some head => ⟨head, []⟩
  | none => ⟨readHead letter, part.text?.getD []⟩

end Whereabouts.Letter
