import Whereabouts.Archive.Store
import Whereabouts.Keeper
import Whereabouts.Proofs.Base64
import Whereabouts.Proofs.Archive.Forms
import Whereabouts.Proofs.Disk.Files
import Whereabouts.Proofs.Text.Octets
/-!
# Tables on a volume

What a table loads as depends on its file alone, and only on what can be decoded of it. A table that
was saved is loaded again as it was.
-/
namespace Whereabouts

/-! ### Reading files -/

namespace Volume

/-- The volume never refuses to read the file. -/
def Reads (volume : Volume) (path : String) : Prop :=
  ∀ request, volume.refuses request (.read path) = false

/-- What the volume answers to a request to read the file. -/
def answer (volume : Volume) (path : String) : Except DiskError ByteArray :=
  if volume.isRefused (.read path) then .error refusal else volume.tree.contentAt path

theorem answer_of_reads {volume : Volume} {path : String} (reads : volume.Reads path) :
    (volume.answer path).toOption = volume.fileAt? path := by
  have served : volume.isRefused (.read path) = false := reads _
  rw [answer, served]
  rfl

theorem answer_of_fileAt? {volume : Volume} {path : String} {content : ByteArray}
    (reads : volume.Reads path) (there : volume.fileAt? path = some content) :
    volume.answer path = .ok content := by
  have same := (answer_of_reads reads).trans there
  cases answer : volume.answer path with
  | error => simp [answer, Except.toOption] at same
  | ok other => simpa [answer, Except.toOption] using same

theorem fileAt?_of_answer {volume : Volume} {path : String} {content : ByteArray}
    (answer : volume.answer path = .ok content) : volume.fileAt? path = some content := by
  rw [Volume.answer] at answer
  split at answer
  · cases answer
  · exact Tree.fileAt?_iff_contentAt.mpr answer

theorem run_read (volume : Volume) (path : String) :
    (Disk.read path : StateM Volume _).run volume = pure (volume.answer path, volume.counted) := by
  simp only [Disk.read, StateT.run, ask, answer]
  split <;> rfl

end Volume

namespace Archive

variable {α : Type}

/-- What a file's content decodes to, if there is a file and it can be decoded. -/
def decoded? (decode : List Char → Except ArchiveFault α) (content? : Option ByteArray) : Option α :=
  (content?.bind String.fromUTF8?).bind fun text => (decode text.toList).toOption

theorem decoded?_toUTF8 (decode : List Char → Except ArchiveFault α) (text : List Char) :
    decoded? decode (some (String.ofList text).toUTF8) = (decode text).toOption := by
  rw [decoded?, Option.bind_some, Text.fromUTF8?_toUTF8, Option.bind_some, String.toList_ofList]

/-- What holds of the value for a missing table and of every value that decodes, holds of what is
stored. -/
private theorem decoded?_induction {motive : α → Prop} {decode : List Char → Except ArchiveFault α}
    {missing : α} (content? : Option ByteArray) (empty : motive missing)
    (decodes : ∀ text value, (decode text).toOption = some value → motive value) :
    motive ((decoded? decode content?).getD missing) := by
  cases stored : decoded? decode content? with
  | none => exact empty
  | some value =>
    obtain ⟨text, _, read⟩ := Option.bind_eq_some_iff.mp stored
    exact decodes text.toList value read

/-- What a load comes to when the volume gave this answer. -/
def loadedFrom (path : String) (missing : α) (decode : List Char → Except ArchiveFault α)
    (answer : Except DiskError ByteArray) : Except ArchiveError α :=
  match ifThere path (answer.bind Disk.textOf) with
  | .error failure => .error failure
  | .ok none => .ok missing
  | .ok (some text) => (decode text.toList).mapError fun fault => ⟨path, fault⟩

theorem loadedFrom_toUTF8 (path : String) (missing : α) (decode : List Char → Except ArchiveFault α)
    (text : List Char) :
    loadedFrom path missing decode (.ok (String.ofList text).toUTF8) =
      (decode text).mapError fun fault => ⟨path, fault⟩ := by
  simp only [loadedFrom, Except.bind, Disk.textOf, Text.fromUTF8?_toUTF8, ifThere,
    String.toList_ofList]

/-- A text that can be decoded is loaded as what it means. -/
theorem loadedFrom_of_text (path : String) (missing : α) {decode : List Char → Except ArchiveFault α}
    {text : List Char} {value : α} (means : decode text = .ok value) :
    loadedFrom path missing decode (.ok (String.ofList text).toUTF8) = .ok value := by
  rw [loadedFrom_toUTF8, means]
  rfl

theorem run_load (volume : Volume) (path : String) (missing : α)
    (decode : List Char → Except ArchiveFault α) :
    (load path missing decode : ExceptT ArchiveError (StateM Volume) α).run.run volume =
      pure (loadedFrom path missing decode (volume.answer path), volume.counted) := by
  have read := volume.run_read path
  simp only [load, readIfThere, Disk.readText, ExceptT.run_bind, ExceptT.run_mk, StateT.run_bind,
    StateT.run_map, read, pure_bind]
  -- A file that is missing is told apart from one that cannot be read.
  cases volume.answer path with
  | error error => cases error <;> rfl
  | ok content =>
    simp only [loadedFrom, Except.bind, StateT.run_pure, map_pure, pure_bind]
    cases Disk.textOf content with
    | error error => cases error <;> rfl
    | ok text =>
      simp only [ifThere]
      cases decode text.toList <;> rfl

theorem run_loadedOr (volume : Volume) (path : String) (instead missing : α)
    (decode : List Char → Except ArchiveFault α) :
    (Keeper.loadedOr instead (load path missing decode) : StateM Volume α).run volume =
      pure ((loadedFrom path missing decode (volume.answer path)).toOption.getD instead,
        volume.counted) := by
  rw [Keeper.loadedOr, StateT.run_map, run_load]
  rfl

/-- A table that cannot be loaded counts as one that is missing. -/
theorem getD_loadedFrom (path : String) (missing : α) (decode : List Char → Except ArchiveFault α)
    (answer : Except DiskError ByteArray) :
    (loadedFrom path missing decode answer).toOption.getD missing =
      (decoded? decode answer.toOption).getD missing := by
  cases answer with
  | error error => cases error <;> rfl
  | ok content =>
    simp only [loadedFrom, Except.bind, Disk.textOf, decoded?, Except.toOption, Option.bind_some]
    cases String.fromUTF8? content with
    | none => rfl
    | some text => cases means : decode text.toList <;> simp [ifThere, means, Except.mapError]

/-! ### Writing files -/

theorem run_onFile (volume : Volume) (path : String) (asked : StateM Volume (Except DiskError α)) :
    (onFile path (ExceptT.mk asked)).run.run volume =
      pure ((asked.run volume).1.mapError fun error => ⟨path, .disk error⟩, (asked.run volume).2) := by
  rw [onFile, ExceptT.run_adapt, ExceptT.run_mk, StateT.run_map]
  rfl

theorem mapError_eq_ok {ε ε' : Type} {change : ε → ε'} {result : Except ε α} {value : α} :
    result.mapError change = .ok value ↔ result = .ok value := by
  cases result <;> simp [Except.mapError]

/-- A write touches its own file only, and if it succeeds the file holds the text. It succeeds if the
file is there already and nothing is refused. -/
theorem run_write (volume : Volume) (path : String) (text : List Char) :
    ∃ result volume', (write path text : ExceptT ArchiveError (StateM Volume) Unit).run.run volume =
        pure (result, volume') ∧ volume.ChangedAt (· = path) volume' ∧
      (result = .ok () → volume'.fileAt? path = some (String.ofList text).toUTF8) := by
  obtain ⟨changed, written⟩ :=
    volume.changedAt_changeFile (.write path) path fun _ => (String.ofList text).toUTF8
  refine ⟨_, _, run_onFile volume path _, changed, fun ok => written ?_⟩
  exact mapError_eq_ok.mp ok

/-! ### Saved tables -/

def storedRoster (layout : Layout) (volume : Volume) : Roster :=
  (decoded? (decodeJson rosterOfText?) (volume.fileAt? layout.roster)).getD .empty

def storedNotices (layout : Layout) (volume : Volume) : Grouped :=
  (decoded? (decodeJson noticesOfText?) (volume.fileAt? layout.notices)).getD .empty

def storedAlternates (layout : Layout) (volume : Volume) : Table (List String) :=
  (decoded? decodeAlternates (volume.fileAt? layout.alternates)).getD .empty

private theorem decodeJson_eq_some {read : List Char → Option α} {text : List Char} {value : α} :
    (decodeJson read text).toOption = some value ↔ read text = some value := by
  rw [decodeJson]
  cases read text <;> simp [Except.toOption]

theorem storedRoster_of_saved {layout : Layout} {volume : Volume} {roster : Roster}
    (inside : roster.InCalendar)
    (saved : volume.fileAt? layout.roster = some (String.ofList (rosterText roster)).toUTF8) :
    storedRoster layout volume = roster := by
  have read := decodeJson_eq_some.mpr (rosterOfText?_rosterText inside)
  rw [storedRoster, saved, decoded?_toUTF8, read, Option.getD_some]

theorem storedNotices_of_saved {layout : Layout} {volume : Volume} {grouped : Grouped}
    (inside : grouped.InCalendar)
    (saved : volume.fileAt? layout.notices = some (String.ofList (noticesText grouped)).toUTF8) :
    storedNotices layout volume = grouped := by
  have read := decodeJson_eq_some.mpr (noticesOfText?_noticesText inside)
  rw [storedNotices, saved, decoded?_toUTF8, read, Option.getD_some]

theorem decodeAlternates_encodeAlternates (listed : Table (List String)) :
    decodeAlternates (encodeAlternates listed) = .ok listed := by
  simp only [decodeAlternates, encodeAlternates, Base64.trim_encode, Base64.decode?_encode,
    Text.mk_toList, Text.fromUTF8?_toUTF8, String.toList_ofList, decodeJson,
    alternatesOfText?_alternatesText]

theorem storedAlternates_of_saved {layout : Layout} {volume : Volume} {listed : Table (List String)}
    (saved : volume.fileAt? layout.alternates =
      some (String.ofList (encodeAlternates listed)).toUTF8) :
    storedAlternates layout volume = listed := by
  rw [storedAlternates, saved, decoded?_toUTF8, decodeAlternates_encodeAlternates]
  rfl

/-- Instants outside the calendar are never loaded. -/
theorem inCalendar_storedRoster (layout : Layout) (volume : Volume) :
    (storedRoster layout volume).InCalendar := by
  refine decoded?_induction _ Roster.inCalendar_empty ?_
  intro text roster read
  exact inCalendar_of_rosterOfText? (decodeJson_eq_some.mp read)

theorem inCalendar_storedNotices (layout : Layout) (volume : Volume) :
    (storedNotices layout volume).InCalendar := by
  refine decoded?_induction _ Grouped.inCalendar_empty ?_
  intro text grouped read
  exact inCalendar_of_noticesOfText? (decodeJson_eq_some.mp read)

/-- The presets in their file. -/
def storedPresets (layout : Layout) (volume : Volume) : Table Preset :=
  (decoded? decodePresets (volume.fileAt? layout.presets)).getD .empty

theorem inCalendar_storedPresets (layout : Layout) (volume : Volume) :
    ∀ account preset, (storedPresets layout volume).find? account = some preset →
      preset.person.InCalendar := by
  refine decoded?_induction (motive := fun presets : Table Preset => ∀ account preset,
    presets.find? account = some preset → preset.person.InCalendar) _ ?_ ?_
  · intro account preset found
    cases found
  intro text presets read
  exact inCalendar_of_presetsOfText? (decodeJson_eq_some.mp read)

end Archive

end Whereabouts
