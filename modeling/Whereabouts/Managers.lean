import Whereabouts.Text.Lines
import Whereabouts.Address
/-!
# Managers

The people who may send mail on somebody else's behalf. Their file names one account or address on
a line; blank lines and lines that begin with a hash name nobody.
-/
namespace Whereabouts

structure Managers where
  addresses : List String
deriving DecidableEq

namespace Managers

def none : Managers := ⟨[]⟩

instance : Inhabited Managers := ⟨none⟩

def ofText (domain text : String) : Managers :=
  ⟨(Text.lines text.toList).filterMap fun line =>
    if line.head? = some '#' then .none else Address.complete? domain (String.ofList line)⟩

def contains (managers : Managers) (address : String) : Bool := managers.addresses.contains address

def size (managers : Managers) : Nat := managers.addresses.length

def isEmpty (managers : Managers) : Bool := managers.addresses.isEmpty

end Managers

end Whereabouts
