import Mathlib.Data.List.Basic
import Whereabouts.Archive.TableForm
import Whereabouts.Proofs.Calendar.ReadBack
import Whereabouts.Proofs.Json.ReadBack
import Whereabouts.Proofs.Notices.Filed
/-!
# Stored tables read back

## Main results

`rosterOfText?_rosterText`, `noticesOfText?_noticesText`, `alternatesOfText?_alternatesText`: a table
is read back from its stored form, if all instants in it are of the calendar. Whatever is read has
only such instants.

## Strategy

A table is an object of records and a record an object of fields. Each level is read back if what
lies in it is; texts and instants lie at the bottom.
-/
namespace Whereabouts

open Whereabouts.Calendar

namespace Json

variable {α : Type}

/-! ### Objects and fields -/

@[simp] private theorem named?_fields (fields : List (String × Json)) :
    named? (fields.map fun field => (some field.1, field.2)) = some fields := by
  induction fields with
  | nil => rfl
  | cons field fields ih => simp [named?, ih]

/-- A record is read from an object of its fields, if none is repeated and all are known. -/
private theorem record?_ofFields {names : List String} {fields : List (String × Json)} (least : Nat)
    (known : ∀ field ∈ fields, field.1 ∈ names) (once : (fields.map (·.1)).Nodup) :
    record? names least (ofFields fields) = some fields := by
  have kept : fields.filter (fun field => names.contains field.1) = fields :=
    List.filter_eq_self.mpr fun field member => by simp [known field member]
  simp only [record?, ofFields, named?_fields, Option.bind_some, known?, kept, once, if_true]

private theorem nullable?_ofOption {read : Json → Option α} {write : α → Json} {value? : Option α}
    (each : ∀ value ∈ value?, read (write value) = some value) (notNull : ∀ value, write value ≠ null) :
    nullable? read (ofOption write value?) = some value? := by
  cases value? with
  | none => rfl
  | some value =>
    rw [ofOption, nullable?, each value rfl]
    · rfl
    · exact notNull value

@[simp] private theorem text?_ofText (text : String) : text? (ofText text) = some text := rfl

@[simp] theorem nullable?_ofText (text : String) :
    nullable? Json.text? (ofText text) = some (some text) := rfl

@[simp] private theorem nullable?_ofOption_ofText (text? : Option String) :
    nullable? Json.text? (ofOption ofText text?) = some text? :=
  nullable?_ofOption (fun _ _ => rfl) fun _ => by simp [ofText]

/-! ### Lists and tables -/

private theorem list?_map {read : Json → Option α} {write : α → Json} {values : List α}
    (each : ∀ value ∈ values, read (write value) = some value) :
    list? read (array (values.map write)) = some values := by
  rw [list?]
  induction values with
  | nil => rfl
  | cons value values ih =>
    have rest := ih fun value member => each value (List.mem_cons_of_mem _ member)
    simp [each value List.mem_cons_self, rest]

private theorem table?_ofTable {read : Json → Option α} {write : α → Json} {table : Table α}
    (each : ∀ entry ∈ table.entries, read (write entry.2) = some entry.2) :
    table? read (ofTable write table) = some table := by
  have entries (entries : List (String × α))
      (each : ∀ entry ∈ entries, read (write entry.2) = some entry.2) :
      (entries.map fun entry => (entry.1, write entry.2)).mapM
        (fun member => (read member.2).map (member.1, ·)) = some entries := by
    induction entries with
    | nil => rfl
    | cons entry entries ih =>
      have rest := ih fun entry member => each entry (List.mem_cons_of_mem _ member)
      simp [each entry List.mem_cons_self, rest]
  have read := entries table.entries each
  simp only [table?, ofTable, ofFields, named?_fields, Option.bind_eq_bind, Option.bind_some, read,
    Table.ofList_entries]

/-! ### Numbers do not occur -/

private theorem Numberless.ofFields {fields : List (String × Json)}
    (each : ∀ field ∈ fields, Numberless field.2) : Numberless (ofFields fields) := by
  refine .object ?_
  intro member listed
  obtain ⟨field, inside, rfl⟩ := List.mem_map.mp listed
  exact each field inside

private theorem Numberless.ofText (text : String) : Numberless (ofText text) := .string _

private theorem Numberless.ofOption {write : α → Json} (each : ∀ value, Numberless (write value))
    (value? : Option α) : Numberless (ofOption write value?) := by
  cases value? with
  | none => exact .null
  | some value => exact each value

private theorem Numberless.list {write : α → Json} (each : ∀ value, Numberless (write value))
    (values : List α) : Numberless (Json.array (values.map write)) := by
  refine .array ?_
  intro item member
  obtain ⟨value, _, rfl⟩ := List.mem_map.mp member
  exact each value

private theorem Numberless.ofTable {write : α → Json} (each : ∀ value, Numberless (write value))
    (table : Table α) : Numberless (ofTable write table) := by
  refine .ofFields ?_
  intro field member
  obtain ⟨entry, _, rfl⟩ := List.mem_map.mp member
  exact each entry.2

end Json

open Json

/-! ### Instants and statuses -/

theorem Calendar.Instant.ofJson?_toJson {moment : Instant} (inside : moment.InCalendar) :
    Instant.ofJson? moment.toJson = some moment := by
  simp [Instant.ofJson?, Instant.toJson, Instant.ofText?_written inside]

private theorem Calendar.Instant.inCalendar_of_ofJson? {json : Json} {moment : Instant}
    (found : Instant.ofJson? json = some moment) : moment.InCalendar := by
  obtain ⟨text, _, read⟩ := Option.bind_eq_some_iff.mp found
  exact Instant.inCalendar_of_ofText? read

theorem Status.ofJson?_toJson (status : Status) : Status.ofJson? status.toJson = some status :=
  Status.ofName?_name status

/-! ### Notices -/

namespace Notice

theorem ofJson?_toJson {notice : Notice} (inside : notice.reportedAt.InCalendar) :
    Notice.ofJson? notice.toJson = some notice := by
  have members : notice.toJson.record? fieldNames fieldNames.length =
      some [("reportedDate", notice.reportedAt.toJson), ("reported", .ofText notice.reporter),
        ("subject", .ofText notice.subject), ("period", .ofText notice.period),
        ("status", notice.status.toJson), ("statusText", .ofOption .ofText notice.statusText),
        ("tel", .ofOption .ofText notice.tel)] :=
    record?_ofFields _ (by simp [fieldNames]) (by simp)
  rw [Notice.ofJson?, members, Option.bind_some]
  simp [ofFields?, required?, optional?, defaulted?, List.lookup_cons, Instant.ofJson?_toJson inside,
    Status.ofJson?_toJson]

private theorem inCalendar_of_ofJson? {json : Json} {notice : Notice}
    (found : Notice.ofJson? json = some notice) : notice.reportedAt.InCalendar := by
  obtain ⟨fields, _, read⟩ := Option.bind_eq_some_iff.mp found
  rw [ofFields?] at read
  obtain ⟨reportedAt, ofField, read⟩ := Option.bind_eq_some_iff.mp read
  -- The other fields say nothing of instants.
  iterate 6 obtain ⟨_, _, read⟩ := Option.bind_eq_some_iff.mp read
  cases read
  obtain ⟨value, _, ofValue⟩ := Option.bind_eq_some_iff.mp ofField
  exact Instant.inCalendar_of_ofJson? ofValue

private theorem numberless_toJson (notice : Notice) : Numberless notice.toJson := by
  refine .ofFields ?_
  simp only [List.forall_mem_cons]
  exact ⟨.ofText _, .ofText _, .ofText _, .ofText _, .ofText _, .ofOption .ofText _,
    .ofOption .ofText _, by simp⟩

end Notice

/-! ### People -/

namespace Person

/-- Whether the instants of a record are of the calendar. -/
structure InCalendar (person : Person) : Prop where
  first : ∀ moment ∈ person.firstReceived, moment.InCalendar
  last : ∀ moment ∈ person.lastReceived, moment.InCalendar

private theorem nullable?_received {received : Option Instant}
    (inside : ∀ moment ∈ received, moment.InCalendar) :
    nullable? Instant.ofJson? (ofOption Instant.toJson received) = some received :=
  nullable?_ofOption (fun moment member => Instant.ofJson?_toJson (inside moment member))
    fun _ => by simp [Instant.toJson, ofText]

theorem ofJson?_toJson {person : Person} (inside : person.InCalendar) :
    Person.ofJson? person.toJson = some person := by
  have first := nullable?_received inside.first
  have last := nullable?_received inside.last
  obtain ⟨_, _, _, _, _, _, _, _, reportedBy⟩ := person
  -- The last field is there only if somebody reported the absence.
  cases reportedBy
  all_goals
    rw [Person.ofJson?, Person.toJson, record?_ofFields _ (by simp [fields, fieldNames])
      (by simp [fields])]
    simp [fields, ofFields?, optional?, defaulted?, List.lookup_cons, Status.ofJson?_toJson, first, last,
      bool?]

private theorem inCalendar_of_optional? {fields : List (String × Json)} {name : String}
    {received : Option Instant}
    (found : optional? Instant.ofJson? fields name = some received) :
    ∀ moment ∈ received, moment.InCalendar := by
  rw [optional?, defaulted?] at found
  split at found
  · cases found
    simp
  · unfold nullable? at found
    split at found
    · cases found
      simp
    · obtain ⟨moment, read, rfl⟩ := Option.map_eq_some_iff.mp found
      rintro _ ⟨rfl⟩
      exact Instant.inCalendar_of_ofJson? read

private theorem inCalendar_of_ofFields? {readStatus : Json → Option Status}
    {fields : List (String × Json)} {person : Person}
    (found : ofFields? readStatus fields = some person) : person.InCalendar := by
  rw [ofFields?] at found
  iterate 6 obtain ⟨_, _, found⟩ := Option.bind_eq_some_iff.mp found
  obtain ⟨firstReceived, first, found⟩ := Option.bind_eq_some_iff.mp found
  obtain ⟨lastReceived, last, found⟩ := Option.bind_eq_some_iff.mp found
  obtain ⟨_, _, found⟩ := Option.bind_eq_some_iff.mp found
  cases found
  exact ⟨inCalendar_of_optional? first, inCalendar_of_optional? last⟩

private theorem inCalendar_of_ofJson? {json : Json} {person : Person}
    (found : Person.ofJson? json = some person) : person.InCalendar := by
  obtain ⟨fields, _, read⟩ := Option.bind_eq_some_iff.mp found
  exact inCalendar_of_ofFields? read

private theorem numberless_toJson (person : Person) : Numberless person.toJson := by
  have instant (moment : Instant) : Numberless moment.toJson := .ofText _
  refine .ofFields ?_
  simp only [fields, List.forall_mem_append, List.forall_mem_cons]
  refine ⟨⟨.ofText _, .ofText _, .ofOption .ofText _, .ofOption .ofText _, .ofOption .ofText _,
    .bool _, .ofOption instant _, .ofOption instant _, by simp⟩, ?_⟩
  cases person.reportedBy with
  | none => simp
  | some reporter => simpa using Numberless.ofText reporter

end Person

/-! ### Presets -/

private theorem Preset.inCalendar_of_ofJson? {around : Nat} {json : Json} {preset : Preset}
    (found : Preset.ofJson? around json = some preset) : preset.person.InCalendar := by
  unfold Preset.ofJson? at found
  split at found
  · obtain ⟨members, _, found⟩ := Option.bind_eq_some_iff.mp found
    rw [Preset.ofMembers?] at found
    iterate 4 obtain ⟨_, _, found⟩ := Option.bind_eq_some_iff.mp found
    split at found
    · obtain ⟨person, read, rfl⟩ := Option.map_eq_some_iff.mp found
      exact Person.inCalendar_of_ofFields? read
    · cases found
  · cases found

/-! ### Tables -/

namespace Json

variable {α β : Type}

private theorem exists_of_mapM {read : α → Option β} {items : List α} {values : List β}
    (found : items.mapM read = some values) : ∀ value ∈ values, ∃ item ∈ items, read item = some value := by
  induction items generalizing values with
  | nil =>
    cases found
    simp
  | cons item items ih =>
    rw [List.mapM_cons] at found
    obtain ⟨first, ofFirst, found⟩ := Option.bind_eq_some_iff.mp found
    obtain ⟨rest, ofRest, found⟩ := Option.bind_eq_some_iff.mp found
    cases found
    intro value member
    rcases List.mem_cons.mp member with rfl | later
    · exact ⟨item, List.mem_cons_self, ofFirst⟩
    · obtain ⟨item, inside, ofItem⟩ := ih ofRest value later
      exact ⟨item, List.mem_cons_of_mem _ inside, ofItem⟩

/-- Every value of a list was read. -/
private theorem exists_of_list? {read : Json → Option α} {json : Json} {values : List α}
    (found : list? read json = some values) : ∀ value ∈ values, ∃ json, read json = some value := by
  unfold list? at found
  split at found
  · intro value member
    obtain ⟨item, _, ofItem⟩ := exists_of_mapM found value member
    exact ⟨item, ofItem⟩
  · cases found

/-- Every value of a table was read. -/
private theorem exists_of_table? {read : Json → Option α} {json : Json} {table : Table α}
    (found : table? read json = some table) {key : String} {value : α}
    (listed : table.find? key = some value) : ∃ json, read json = some value := by
  unfold table? at found
  split at found
  · obtain ⟨named, _, found⟩ := Option.bind_eq_some_iff.mp found
    obtain ⟨entries, ofEntries, found⟩ := Option.bind_eq_some_iff.mp found
    cases found
    obtain ⟨member, _, ofMember⟩ :=
      exists_of_mapM ofEntries _ (Table.mem_of_find?_ofList listed)
    obtain ⟨value', ofValue, same⟩ := Option.map_eq_some_iff.mp ofMember
    cases same
    exact ⟨member.2, ofValue⟩
  · cases found

end Json

/-- Whether all instants of the roster are of the calendar. -/
def Roster.InCalendar (roster : Roster) : Prop :=
  ∀ address person, roster.find? address = some person → person.InCalendar

/-- Whether all notices were reported at an instant of the calendar. -/
def Grouped.InCalendar (grouped : Grouped) : Prop :=
  grouped.Everywhere fun _ _ notice => notice.reportedAt.InCalendar

theorem Roster.inCalendar_empty : Roster.InCalendar .empty := by
  intro address person found
  cases found

theorem Grouped.inCalendar_empty : Grouped.InCalendar .empty := Everywhere.empty

namespace Archive

private theorem readWith_pretty {α : Type} {read : Json → Option α} {json : Json} {value : α}
    (numberless : Numberless json) (found : read json = some value) :
    readWith read json.pretty = some value := by
  rw [readWith, ofText?_pretty numberless, Option.bind_some, found]

theorem rosterOfText?_rosterText {roster : Roster} (inside : roster.InCalendar) :
    rosterOfText? (rosterText roster) = some roster := by
  refine readWith_pretty (.ofTable Person.numberless_toJson roster) (table?_ofTable ?_)
  intro entry listed
  exact Person.ofJson?_toJson (inside entry.1 entry.2 (Table.find?_eq_some.mpr listed))

theorem inCalendar_of_rosterOfText? {text : List Char} {roster : Roster}
    (found : rosterOfText? text = some roster) : roster.InCalendar := by
  obtain ⟨json, _, read⟩ := Option.bind_eq_some_iff.mp found
  intro address person listed
  obtain ⟨_, ofPerson⟩ := exists_of_table? read listed
  exact Person.inCalendar_of_ofJson? ofPerson

theorem noticesOfText?_noticesText {grouped : Grouped} (inside : grouped.InCalendar) :
    noticesOfText? (noticesText grouped) = some grouped := by
  have numberless : Numberless (noticesJson grouped) :=
    .ofTable (fun subjects => .ofTable (fun notices => .list Notice.numberless_toJson notices) subjects)
      grouped
  refine readWith_pretty numberless (table?_ofTable ?_)
  intro byReporter listedReporter
  refine table?_ofTable ?_
  intro bySubject listedSubject
  refine list?_map ?_
  intro notice member
  have filed : grouped.filedBy? byReporter.1 bySubject.1 = some bySubject.2 := by
    -- The keys under which a list is listed are those under which it is found.
    have reporter : grouped.find? byReporter.1 = some byReporter.2 :=
      Table.find?_eq_some.mpr listedReporter
    have subject : byReporter.2.find? bySubject.1 = some bySubject.2 :=
      Table.find?_eq_some.mpr listedSubject
    rw [Grouped.filedBy?, reporter, Option.bind_some, subject]
  exact Notice.ofJson?_toJson (inside _ _ _ filed notice member)

theorem inCalendar_of_noticesOfText? {text : List Char} {grouped : Grouped}
    (found : noticesOfText? text = some grouped) : grouped.InCalendar := by
  obtain ⟨json, _, read⟩ := Option.bind_eq_some_iff.mp found
  intro reporter subject notices filed notice member
  obtain ⟨subjects, ofReporter, ofSubject⟩ := Option.bind_eq_some_iff.mp filed
  obtain ⟨_, ofSubjects⟩ := exists_of_table? read ofReporter
  obtain ⟨_, ofNotices⟩ := exists_of_table? ofSubjects ofSubject
  obtain ⟨_, ofNotice⟩ := exists_of_list? ofNotices notice member
  exact Notice.inCalendar_of_ofJson? ofNotice

theorem alternatesOfText?_alternatesText (listed : Table (List String)) :
    alternatesOfText? (alternatesText listed) = some listed := by
  have numberless : Numberless (alternatesJson listed) :=
    .ofTable (fun addresses => .list Numberless.ofText addresses) listed
  have read : (alternatesJson listed).table? (fun addresses => addresses.list? text?) =
      some listed := table?_ofTable fun entry _ => list?_map fun address _ => text?_ofText address
  rw [alternatesOfText?, alternatesText, readWith, ofText?_compact numberless, Option.bind_some,
    read]

/-- The persons of presets have only instants of the calendar. -/
theorem inCalendar_of_presetsOfText? {text : List Char} {presets : Table Preset}
    (found : presetsOfText? text = some presets) :
    ∀ account preset, presets.find? account = some preset → preset.person.InCalendar := by
  obtain ⟨json, _, read⟩ := Option.bind_eq_some_iff.mp found
  intro account preset listed
  obtain ⟨_, ofPreset⟩ := exists_of_table? read listed
  exact Preset.inCalendar_of_ofJson? ofPreset

end Archive

end Whereabouts
