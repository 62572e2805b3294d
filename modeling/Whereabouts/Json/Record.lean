import Whereabouts.Table
import Whereabouts.Json.Value
/-!
# Records and tables in JSON

A record is written as an object. It is read from an object whose known members occur at most once,
in any order and among others that are passed over; or from an array of its fields in their order.
A table is an object with any names; of equal names the last counts.
-/
namespace Whereabouts.Json

/-! ### Objects -/

/-- The members with their names, if every name is a text. -/
def named? : (members : List (Option String × Json)) → Option (List (String × Json))
  | [] => some []
  | (name?, value) :: members => do
    let name ← name?
    let rest ← named? members
    some ((name, value) :: rest)

/-- The members with one of the known names, if none of these names is repeated. -/
def known? (names : List String) (members : List (String × Json)) : Option (List (String × Json)) :=
  let fields := members.filter fun member => names.contains member.1
  if (fields.map (·.1)).Nodup then some fields else none

/-- The fields of a record. An array has at least `least` of them. -/
def record? (names : List String) (least : Nat) : Json → Option (List (String × Json))
  | object members => (named? members).bind (known? names)
  | array items =>
    if least ≤ items.length ∧ items.length ≤ names.length then some (names.zip items) else none
  | _ => none

/-! ### Fields -/

variable {α : Type}

def required? (read : Json → Option α) (fields : List (String × Json)) (name : String) : Option α :=
  (fields.lookup name).bind read

/-- A field that may be missing. -/
def defaulted? (read : Json → Option α) (missing : α) (fields : List (String × Json))
    (name : String) : Option α :=
  match fields.lookup name with
  | none => some missing
  | some value => read value

/-- A value that may be null. -/
def nullable? (read : Json → Option α) : Json → Option (Option α)
  | null => some none
  | value => (read value).map some

/-- A field that may be missing or null. -/
def optional? (read : Json → Option α) (fields : List (String × Json)) (name : String) :
    Option (Option α) :=
  defaulted? (nullable? read) none fields name

/-! ### Values -/

def text? : Json → Option String
  | string text? => text?
  | _ => none

def bool? : Json → Option Bool
  | bool value => some value
  | _ => none

def natural? (most : Nat) : Json → Option Nat
  | number numeral => numeral.natural? most
  | _ => none

/-- The items read one by one. -/
def list? (read : Json → Option α) : Json → Option (List α)
  | array items => items.mapM read
  | _ => none

def table? (read : Json → Option α) : Json → Option (Table α)
  | object members => do
    let named ← named? members
    let entries ← named.mapM fun member => (read member.2).map (member.1, ·)
    some (Table.ofList entries)
  | _ => none

/-! ### Writing -/

def ofText (text : String) : Json := string (some text)

def ofOption (write : α → Json) : Option α → Json
  | none => null
  | some value => write value

def ofFields (fields : List (String × Json)) : Json :=
  object (fields.map fun field => (some field.1, field.2))

def ofTable (write : α → Json) (table : Table α) : Json :=
  ofFields (table.entries.map fun entry => (entry.1, write entry.2))

end Whereabouts.Json
