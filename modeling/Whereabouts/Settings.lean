import Whereabouts.Archive.Layout
import Whereabouts.Page.Render
/-!
# Settings

Where the board finds its mail and keeps its files, and when it does what.
-/
namespace Whereabouts

structure Settings where
  /-- The directory in which mail waits. -/
  spoolDirectory : String
  template : String
  layout : Archive.Layout
  domain : String
  manualUrl : String
  /-- The time between two cycles. -/
  intervalSeconds : Nat
  /-- The hour in which a new day begins. -/
  rolloverHour : Nat
  /-- The address at which the pages are served, if they are. -/
  listen : Option String
deriving DecidableEq

namespace Settings

/-- The interval in whole minutes, as pages tell it; never less than one. -/
def intervalMinutes (settings : Settings) : Nat := max (settings.intervalSeconds / 60) 1

def context (settings : Settings) (now : Calendar.Instant) : Page.Context :=
  ⟨now, settings.manualUrl, settings.intervalMinutes⟩

end Settings

end Whereabouts
