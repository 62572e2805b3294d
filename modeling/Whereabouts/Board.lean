import Whereabouts.Managers
import Whereabouts.Alternates
import Whereabouts.NoticeIndex
/-!
# The board

All that the board knows: today's records, the notices of absence, the alternate addresses, the
managers, and the domain of the organisation.
-/
namespace Whereabouts

structure Board where
  roster : Roster
  notices : NoticeIndex
  alternates : Alternates
  managers : Managers
  /-- The domain that completes a bare account. -/
  domain : String
deriving DecidableEq

namespace Board

def new (domain : String) : Board := ⟨.empty, .empty, .none, .none, domain⟩

def complete? (board : Board) (name : String) : Option String := Address.complete? board.domain name

end Board

end Whereabouts
