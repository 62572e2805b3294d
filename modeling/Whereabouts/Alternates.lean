import Whereabouts.Table
/-!
# Alternate addresses

A person may write from further addresses; mail from them counts as mail from the person's primary
address. `listed` is what people registered, and `owners` answers whose an address is. A new
registration replaces the person's earlier one and takes its addresses from everybody else.
-/
namespace Whereabouts

structure Alternates where
  listed : Table (List String)
  owners : Table String
deriving DecidableEq

namespace Alternates

def none : Alternates := ⟨.empty, .empty⟩

instance : Inhabited Alternates := ⟨none⟩

def assign (primary : String) (owners : Table String) (alternates : List String) : Table String :=
  alternates.foldl (fun owners alternate => owners.insert alternate primary) owners

/-- Where two people list one address, it belongs to the one whose primary address comes last. -/
def ofListed (listed : Table (List String)) : Alternates :=
  ⟨listed, listed.entries.foldl (fun owners entry => assign entry.1 owners entry.2) .empty⟩

/-- The primary address that mail from `sender` counts for. -/
def resolve (table : Alternates) (sender : String) : String :=
  (table.owners.find? sender).getD sender

/-! ### Registering -/

/-- The table without what `primary` registered before. -/
def forget (table : Alternates) (primary : String) : Alternates :=
  match table.listed.find? primary with
  | .none => table
  | some previous =>
    ⟨table.listed.erase primary,
      previous.foldl (fun owners alternate => owners.erase alternate) table.owners⟩

/-- The table with `alternate` taken from its owner; an owner with nothing left is not listed. -/
def release (table : Alternates) (alternate : String) : Alternates :=
  match table.owners.find? alternate with
  | .none => table
  | some owner =>
    ⟨table.listed.alter owner fun owned? =>
        match owned?.map fun owned => owned.filter (· ≠ alternate) with
        | some (first :: rest) => some (first :: rest)
        | _ => .none,
      table.owners.erase alternate⟩

def replace (table : Alternates) (primary : String) (alternates : List String) : Alternates :=
  let freed := alternates.foldl release (table.forget primary)
  ⟨freed.listed.insert primary alternates, assign primary freed.owners alternates⟩

def isEmpty (table : Alternates) : Bool := table.listed.isEmpty

end Alternates

end Whereabouts
