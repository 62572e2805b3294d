import Whereabouts.Settings
import Whereabouts.Json.Record
/-!
# The stored form of settings

Only the link to the manual, the interval, the hour and the address to listen at may be missing.
-/
namespace Whereabouts.Settings

def fieldNames : List String :=
  ["spool_dir", "state_dir", "template", "live_page", "absence_page", "backup_dir",
    "backup_json_dir", "default_domain", "manual_url", "interval_secs", "rollover_hour", "listen"]

/-- An array of fields has at least these many of them. -/
def requiredFields : Nat := 8

def intervalLimit : Nat := 18446744073709551615

def hourLimit : Nat := 4294967295

def ofFields? (fields : List (String × Json)) : Option Settings := do
  let spoolDirectory ← Json.required? Json.text? fields "spool_dir"
  let stateDirectory ← Json.required? Json.text? fields "state_dir"
  let template ← Json.required? Json.text? fields "template"
  let livePage ← Json.required? Json.text? fields "live_page"
  let absencePage ← Json.required? Json.text? fields "absence_page"
  let backupDirectory ← Json.required? Json.text? fields "backup_dir"
  let snapshotDirectory ← Json.required? Json.text? fields "backup_json_dir"
  let domain ← Json.required? Json.text? fields "default_domain"
  let manualUrl ← Json.defaulted? Json.text? "" fields "manual_url"
  let intervalSeconds ← Json.defaulted? (Json.natural? intervalLimit) 300 fields "interval_secs"
  let rolloverHour ← Json.defaulted? (Json.natural? hourLimit) 5 fields "rollover_hour"
  let listen ← Json.optional? Json.text? fields "listen"
  some {
    spoolDirectory, template, domain, manualUrl, intervalSeconds, rolloverHour, listen
    layout := { stateDirectory, livePage, absencePage, backupDirectory, snapshotDirectory } }

def ofJson? (json : Json) : Option Settings :=
  (json.record? fieldNames requiredFields).bind ofFields?

end Whereabouts.Settings
