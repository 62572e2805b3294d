import Whereabouts.Proofs.Archive.Places
import Whereabouts.Proofs.Archive.Tables
/-!
# What an archive holds

## Main result

`loads_last_saved`: whatever succeeded calls are made to a fresh archive and in whatever order, each
table is loaded as it was last saved, each page and each snapshot is the last one of its own date, and
the log of rejections has a line for each rejection in turn.

## Strategy

1. Everything that is kept has a place, and no two places share a file (`Place.file_injective`).
2. A call that succeeds writes the file of its place and no other (`Holds.make`), so by induction over
   the calls each file holds what the calls to its place wrote.
3. What a call wrote decodes to what it was given.
-/
namespace Whereabouts.Archive

open Whereabouts.Calendar

/-! ### Calls -/

/-- A text as it stands in a file. -/
def contentOf (text : List Char) : ByteArray := (String.ofList text).toUTF8

theorem contentOf_append (text text' : List Char) : contentOf (text ++ text') = contentOf text ++ contentOf text' := by
  rw [contentOf, String.ofList_append]
  exact String.toByteArray_append

/-- A call that puts something in the archive. -/
inductive Call where
  | saveRoster (roster : Roster)
  | saveSnapshot (date : Date) (roster : Roster)
  | saveNotices (grouped : Grouped)
  | saveAlternates (listed : Table (List String))
  | logRejection (rejection : Rejection)
  | publish (publication : Publication) (html : String)

namespace Call

def make (layout : Layout) : Call → ExceptT ArchiveError (StateM Volume) Unit
  | saveRoster roster => Archive.saveRoster layout roster
  | saveSnapshot date roster => Archive.saveSnapshot layout date roster
  | saveNotices grouped => Archive.saveNotices layout grouped
  | saveAlternates listed => Archive.saveAlternates layout listed
  | logRejection rejection => Archive.logRejection layout rejection
  | publish publication html => Archive.publish layout publication html

/-- Where the call puts its text. -/
def place : Call → Place
  | saveRoster _ => .roster
  | saveSnapshot date _ => .snapshot date
  | saveNotices _ => .notices
  | saveAlternates _ => .alternates
  | logRejection _ => .rejections
  | publish publication _ => .ofPublication publication

def text : Call → List Char
  | saveRoster roster => rosterText roster
  | saveSnapshot _ roster => rosterText roster
  | saveNotices grouped => noticesText grouped
  | saveAlternates listed => encodeAlternates listed
  | logRejection rejection => rejectionLine rejection
  | publish _ html => html.toList

/-- Whether all instants in what is saved are of the calendar. -/
def InCalendar : Call → Prop
  | saveRoster roster | saveSnapshot _ roster => roster.InCalendar
  | saveNotices grouped => grouped.InCalendar
  | saveAlternates _ | logRejection _ | publish _ _ => True

/-! What a call saved, if it was a call to save that. -/

def roster? : Call → Option Roster
  | saveRoster roster => some roster
  | _ => none

def notices? : Call → Option Grouped
  | saveNotices grouped => some grouped
  | _ => none

def alternates? : Call → Option (Table (List String))
  | saveAlternates listed => some listed
  | _ => none

def snapshot? (date : Date) : Call → Option Roster
  | saveSnapshot date' roster => if date' = date then some roster else none
  | _ => none

def page? (publication : Publication) : Call → Option String
  | publish publication' html => if publication' = publication then some html else none
  | _ => none

def rejection? : Call → Option Rejection
  | logRejection rejection => some rejection
  | _ => none

/-- The text of a call to the place. -/
def textAt? (place : Place) (call : Call) : Option (List Char) :=
  if call.place = place then some call.text else none

/-- What the file of the place holds after the call. -/
def content (call : Call) (old? : Option ByteArray) : ByteArray :=
  match call with
  | logRejection rejection => old?.getD .empty ++ contentOf (rejectionLine rejection)
  | other => contentOf other.text

private theorem content_of_place {call : Call} (other : call.place ≠ .rejections)
    (old? : Option ByteArray) :
    call.content old? = contentOf call.text := by
  cases call with
  | logRejection => exact absurd rfl other
  | saveRoster | saveSnapshot | saveNotices | saveAlternates | publish => rfl

private theorem content_of_rejection {call : Call} (logs : call.place = .rejections)
    (old? : Option ByteArray) : call.content old? = old?.getD .empty ++ contentOf call.text := by
  cases call with
  | logRejection => rfl
  | publish publication => cases publication <;> cases logs
  | saveRoster | saveSnapshot | saveNotices | saveAlternates => cases logs

/-- A call that succeeds changes the file of its place, and not what is refused. -/
theorem changeFile_of_make {layout : Layout} {call : Call} {volume volume' : Volume}
    (done : (call.make layout).run.run volume = pure (.ok (), volume')) :
    volume.tree.changeFile (call.place.file layout) call.content = .ok volume'.tree ∧
      volume'.refuses = volume.refuses := by
  have succeeded {path : String} {request : StateM Volume (Except DiskError Unit)}
      (done : (onFile path (ExceptT.mk request)).run.run volume = pure (.ok (), volume')) :
      request.run volume = pure (.ok (), volume') := by
    rw [run_onFile] at done
    obtain ⟨result, left⟩ := Prod.mk.inj done
    exact Prod.ext (mapError_eq_ok.mp result) left
  cases call with
  | publish publication html =>
    have file := Place.file_ofPublication layout publication
    simp only [place, file]
    exact Volume.tree_of_change (succeeded done)
  | saveRoster | saveSnapshot | saveNotices | saveAlternates | logRejection =>
    exact Volume.tree_of_change (succeeded done)

end Call

/-! ### Opening -/

/-- What each item adds to what is done before it, a run over all items adds up to. -/
theorem run_forM {β : Type} {work : β → ExceptT ArchiveError (StateM Volume) Unit}
    {motive : List β → Volume → Prop}
    (each : ∀ done item volume volume', motive done volume →
      (work item).run.run volume = pure (.ok (), volume') → motive (done ++ [item]) volume')
    {items : List β} {volume volume' : Volume} (begun : motive [] volume)
    (ended : (items.forM work).run.run volume = pure (.ok (), volume')) : motive items volume' := by
  suffices more : ∀ done volume, motive done volume →
      (items.forM work).run.run volume = pure (.ok (), volume') → motive (done ++ items) volume' from
    more [] volume begun ended
  clear begun ended
  induction items with
  | nil =>
    intro done volume holds ended
    cases ended
    simpa using holds
  | cons item items ih =>
    intro done volume holds ended
    change (work item >>= fun _ => items.forM work).run.run volume = _ at ended
    simp only [ExceptT.run_bind, StateT.run_bind] at ended
    cases first : (work item).run.run volume with
    | mk result middle =>
      rw [first] at ended
      cases result with
      | error => cases ended
      | ok =>
        have more := ih _ middle (each done item volume middle holds first) ended
        rwa [List.append_assoc] at more

/-- Opening an archive makes all its directories. -/
private theorem find?_of_prepare {layout : Layout} {volume volume' : Volume}
    (opened : (prepare layout : ExceptT ArchiveError (StateM Volume) Unit).run.run volume =
      pure (.ok (), volume')) :
    (∀ directory ∈ layout.directories, ∀ outer ∈ Path.prefixes directory,
      volume'.tree.find? outer = some .directory) ∧ volume'.refuses = volume.refuses := by
  let Made (directories : List String) (made : Volume) : Prop :=
    (∀ directory ∈ directories, ∀ outer ∈ Path.prefixes directory,
      made.tree.find? outer = some .directory) ∧ made.refuses = volume.refuses
  have none : Made [] volume := ⟨by simp, rfl⟩
  refine run_forM (motive := Made) ?_ none opened
  rintro done directory before after ⟨made, same⟩ ended
  rw [run_onFile] at ended
  obtain ⟨result, left⟩ := Prod.mk.inj ended
  obtain ⟨changed, refuses⟩ := Volume.tree_of_change (Prod.ext (mapError_eq_ok.mp result) left)
  obtain ⟨here, kept⟩ := Tree.find?_makeAll changed
  refine ⟨fun other listed outer around => ?_, refuses.trans same⟩
  rcases List.mem_append.mp listed with before | now
  · exact kept outer (made other before outer around)
  · rw [List.mem_singleton.mp now] at around
    exact here outer around

/-- The archive was just opened, and there is nothing where its files will be. -/
structure Fresh (layout : Layout) (volume : Volume) : Prop where
  opened : ∃ before, (prepare layout : ExceptT ArchiveError (StateM Volume) Unit).run.run before =
    pure (.ok (), volume)
  vacant : ∀ place : Place, volume.tree.find? (place.file layout) = none

/-! ### Histories -/

/-- The texts of the calls to one place, in turn. -/
def textsAt (place : Place) (calls : List Call) : List (List Char) := calls.filterMap (·.textAt? place)

private theorem textsAt_concat (place : Place) (calls : List Call) (call : Call) :
    textsAt place (calls ++ [call]) =
      if call.place = place then textsAt place calls ++ [call.text] else textsAt place calls := by
  simp only [textsAt, List.filterMap_append, Call.textAt?, List.filterMap_cons, List.filterMap_nil]
  split <;> simp_all

/-- The files after these calls: what nothing was put in is not there, the log of rejections has all
that was put in, and any other file has what was put in last. -/
structure Holds (layout : Layout) (calls : List Call) (volume : Volume) : Prop where
  opened : ∀ outer ∈ Path.prefixes layout.stateDirectory,
    volume.tree.find? outer = some .directory
  vacant : ∀ place : Place, textsAt place calls = [] → volume.tree.find? (place.file layout) = none
  last : ∀ place : Place, place ≠ .rejections → ∀ text, (textsAt place calls).getLast? = some text →
    volume.fileAt? (place.file layout) = some (contentOf text)
  log : textsAt .rejections calls ≠ [] →
    volume.fileAt? layout.rejections = some (contentOf (textsAt .rejections calls).flatten)

section Holding

variable {root : String} {calls : List Call} {volume volume' : Volume}

private theorem Fresh.holds (fresh : Fresh (.below root) volume) :
    Holds (.below root) [] volume where
  opened := by
    obtain ⟨before, opened⟩ := fresh.opened
    apply (find?_of_prepare opened).1
    have named : (Layout.below root).stateDirectory ≠ "" := by
      intro empty
      have ends := Path.suffix_join root "state"
      rw [show Path.join root "state" = "" from empty] at ends
      exact absurd ends (by decide)
    simp [Layout.directories, named]
  vacant place _ := fresh.vacant place
  last place _ text found := by simp [textsAt] at found
  log some_ := by simp [textsAt] at some_

private theorem Holds.make {call : Call} (holds : Holds (.below root) calls volume)
    (done : (call.make (.below root)).run.run volume = pure (.ok (), volume')) :
    Holds (.below root) (calls ++ [call]) volume' := by
  have changed := (Call.changeFile_of_make done).1
  have file := Tree.fileAt?_changeFile changed
  obtain ⟨elsewhere, directories⟩ := Tree.find?_changeFile changed
  -- The files of other places are other files.
  have apart (place : Place) (other : call.place ≠ place) :
      place.file (.below root) ≠ call.place.file (.below root) :=
    fun same => other (Place.file_injective root same).symm
  have here : volume'.fileAt? (call.place.file (.below root)) =
      some (call.content (volume.fileAt? (call.place.file (.below root)))) :=
    (file _).trans (if_pos rfl)
  have there (place : Place) (other : call.place ≠ place) :
      volume'.fileAt? (place.file (.below root)) = volume.fileAt? (place.file (.below root)) :=
    (file _).trans (if_neg (apart place other))
  refine ⟨fun outer around => directories outer (holds.opened outer around), ?_, ?_, ?_⟩
  · intro place none
    rw [textsAt_concat] at none
    split at none
    · simp at none
    next other =>
      rw [elsewhere _ (apart place other)]
      exact holds.vacant place none
  · intro place noLog text last
    rw [textsAt_concat] at last
    split at last
    next same =>
      rw [List.getLast?_concat, Option.some.injEq] at last
      rw [← same, here, Call.content_of_place (same ▸ noLog), last]
    next other =>
      rw [there place other]
      exact holds.last place noLog text last
  · intro some_
    rw [textsAt_concat] at some_ ⊢
    split
    next logs =>
      have added := here
      rw [logs, Call.content_of_rejection logs] at added
      refine added.trans (congrArg some ?_)
      -- The line is put behind those that were there, if any were.
      by_cases first : textsAt .rejections calls = []
      · have vacant := Tree.fileAt?_of_vacant (holds.vacant .rejections first)
        change (volume.tree.fileAt? _).getD .empty ++ _ = _
        rw [vacant, first]
        simp [contentOf]
      · have before : volume.fileAt? (Place.rejections.file (.below root)) = _ := holds.log first
        rw [before, Option.getD_some, List.flatten_append, contentOf_append]
        simp
    next other =>
      rw [if_neg other] at some_
      exact (there .rejections other).trans (holds.log some_)

/-- After any succeeded calls to a fresh archive its files hold what the calls put there. -/
theorem Fresh.holds_after (fresh : Fresh (.below root) volume)
    (made : (calls.forM (Call.make (.below root))).run.run volume = pure (.ok (), volume')) :
    Holds (.below root) calls volume' :=
  run_forM (motive := Holds (.below root)) (fun _ _ _ _ holds done => holds.make done) fresh.holds made

/-- No call changes what is refused. -/
private theorem refuses_after {layout : Layout}
    (made : (calls.forM (Call.make layout)).run.run volume = pure (.ok (), volume')) :
    volume'.refuses = volume.refuses :=
  run_forM (motive := fun _ after => after.refuses = volume.refuses)
    (fun _ _ _ _ same done => (Call.changeFile_of_make done).2.trans same) rfl made

/-! ### Files and what was put there -/

section Picked

variable {α : Type} {pick : Call → Option α} {text : α → List Char} {place : Place}

theorem textsAt_eq (picks : ∀ call, call.textAt? place = (pick call).map text) (calls : List Call) :
    textsAt place calls = (calls.filterMap pick).map text := by
  rw [textsAt, List.map_filterMap]
  exact List.filterMap_congr fun call _ => picks call

private theorem Holds.fileAt? (holds : Holds (.below root) calls volume)
    (noLog : place ≠ .rejections) (picks : ∀ call, call.textAt? place = (pick call).map text) :
    volume.fileAt? (place.file (.below root)) =
      (calls.filterMap pick).getLast?.map fun value => contentOf (text value) := by
  have texts := textsAt_eq picks calls
  cases last : (calls.filterMap pick).getLast? with
  | none =>
    rw [List.getLast?_eq_none_iff.mp last] at texts
    exact Tree.fileAt?_of_vacant (holds.vacant place texts)
  | some value =>
    apply holds.last place noLog
    rw [texts, List.getLast?_map, last, Option.map_some]

/-- The places of the tables. -/
def tables : List Place := [.roster, .notices, .alternates]

private theorem around_file (root : String) (table : place ∈ tables) :
    Tree.around (place.file (.below root)) = Path.prefixes (Layout.below root).stateDirectory := by
  have inside (name : String) (plain : '/' ∉ name.toList) :
      Tree.around ((Layout.below root).state name) =
        Path.prefixes (Layout.below root).stateDirectory := by
    rw [Tree.around, Layout.state, Layout.below, Path.join_join root name (by decide) (by decide)]
    exact Path.dropLast_prefixes _ plain
  simp only [tables, List.mem_cons, List.not_mem_nil, or_false] at table
  rcases table with rfl | rfl | rfl
  · exact inside "status.json" (by decide)
  · exact inside "absence.json" (by decide)
  · exact inside "alternate.bin" (by decide)

/-- A table to which nothing was saved is missing. -/
private theorem Holds.contentAt (holds : Holds (.below root) calls volume) (table : place ∈ tables)
    (none : textsAt place calls = []) :
    volume.tree.contentAt (place.file (.below root)) = .error .missing := by
  have short : ∀ place ∈ tables, Path.longestName < place.name.utf8ByteSize → False := by decide
  have name := Path.lastName_of_suffix (Place.suffix_file root place) place.slash_not_mem_name
  apply Tree.contentAt_of_vacant
  · rw [around_file root table]
    exact holds.opened
  · intro empty
    have ends := Place.suffix_file root place
    rw [empty] at ends
    simp at ends
  · exact holds.vacant place none
  · rw [Path.hasLongName, name]
    simpa using short place table

/-- A table is loaded as it was last saved. -/
private theorem Holds.run_load (holds : Holds (.below root) calls volume) (table : place ∈ tables)
    (picks : ∀ call, call.textAt? place = (pick call).map text) (missing : α)
    {decode : List Char → Except ArchiveFault α}
    (decodes : ∀ value ∈ calls.filterMap pick, decode (text value) = .ok value)
    (reads : volume.Reads (place.file (.below root))) :
    (load (place.file (.below root)) missing decode : ExceptT ArchiveError (StateM Volume) α).run.run
        volume =
      pure (.ok ((calls.filterMap pick).getLast?.getD missing), volume.counted) := by
  have noLog : place ≠ .rejections := by
    rintro rfl
    exact absurd table (by decide)
  have file := holds.fileAt? noLog picks
  rw [Archive.run_load]
  cases last : (calls.filterMap pick).getLast? with
  | none =>
    have none := textsAt_eq picks calls
    rw [List.getLast?_eq_none_iff.mp last] at none
    have answer : volume.answer (place.file (.below root)) = .error .missing := by
      rw [Volume.answer, Volume.isRefused, reads]
      exact holds.contentAt table none
    rw [answer]
    rfl
  | some value =>
    rw [last, Option.map_some] at file
    rw [Volume.answer_of_fileAt? reads file]
    have means := decodes value (List.mem_of_getLast? last)
    rw [contentOf, loadedFrom_of_text _ missing means]
    rfl

end Picked

end Holding

/-! ### What each call saved -/

namespace Call

private theorem textAt?_roster (call : Call) :
    call.textAt? .roster = call.roster?.map rosterText := by
  cases call with
  | publish publication => cases publication <;> rfl
  | saveRoster | saveSnapshot | saveNotices | saveAlternates | logRejection => rfl

private theorem textAt?_notices (call : Call) :
    call.textAt? .notices = call.notices?.map noticesText := by
  cases call with
  | publish publication => cases publication <;> rfl
  | saveRoster | saveSnapshot | saveNotices | saveAlternates | logRejection => rfl

private theorem textAt?_alternates (call : Call) :
    call.textAt? .alternates = call.alternates?.map encodeAlternates := by
  cases call with
  | publish publication => cases publication <;> rfl
  | saveRoster | saveSnapshot | saveNotices | saveAlternates | logRejection => rfl

private theorem textAt?_rejections (call : Call) :
    call.textAt? .rejections = call.rejection?.map rejectionLine := by
  cases call with
  | publish publication => cases publication <;> rfl
  | saveRoster | saveSnapshot | saveNotices | saveAlternates | logRejection => rfl

private theorem textAt?_snapshot (date : Date) (call : Call) :
    call.textAt? (.snapshot date) = (call.snapshot? date).map rosterText := by
  cases call with
  | publish publication => cases publication <;> rfl
  | saveSnapshot date' =>
    by_cases same : date' = date <;> simp [textAt?, place, text, snapshot?, same]
  | saveRoster | saveNotices | saveAlternates | logRejection => rfl

private theorem textAt?_ofPublication (publication : Publication) (call : Call) :
    call.textAt? (.ofPublication publication) = (call.page? publication).map (·.toList) := by
  cases call with
  | publish publication' =>
    by_cases same : publication' = publication
    · simp [textAt?, place, text, page?, same]
    · have other : Place.ofPublication publication' ≠ .ofPublication publication :=
        fun placed => same (Place.ofPublication_injective placed)
      simp [textAt?, place, page?, same, other]
  | saveRoster | saveSnapshot | saveNotices | saveAlternates | logRejection =>
    cases publication <;> rfl

variable {call : Call}

private theorem inCalendar_of_roster? {roster : Roster} (inside : call.InCalendar)
    (picked : call.roster? = some roster) : roster.InCalendar := by
  cases call with
  | saveRoster =>
    cases picked
    exact inside
  | saveSnapshot | saveNotices | saveAlternates | logRejection | publish => cases picked

private theorem inCalendar_of_snapshot? {date : Date} {roster : Roster} (inside : call.InCalendar)
    (picked : call.snapshot? date = some roster) : roster.InCalendar := by
  cases call with
  | saveSnapshot date' saved =>
    obtain ⟨_, same⟩ := Option.ite_none_right_eq_some.mp picked
    cases same
    exact inside
  | saveRoster | saveNotices | saveAlternates | logRejection | publish => cases picked

private theorem inCalendar_of_notices? {grouped : Grouped} (inside : call.InCalendar)
    (picked : call.notices? = some grouped) : grouped.InCalendar := by
  cases call with
  | saveNotices =>
    cases picked
    exact inside
  | saveRoster | saveSnapshot | saveAlternates | logRejection | publish => cases picked

end Call

/-! ### What comes out -/

/-- What comes out of an archive is what these calls put in: of each table what was last saved, or an
empty one; of each date its own snapshot and page; of the log every line. -/
structure Recalls (layout : Layout) (calls : List Call) (volume : Volume) : Prop where
  roster : (loadRoster layout : ExceptT ArchiveError (StateM Volume) Roster).run.run volume =
    pure (.ok ((calls.filterMap Call.roster?).getLast?.getD .empty), volume.counted)
  notices : (loadNotices layout : ExceptT ArchiveError (StateM Volume) Grouped).run.run volume =
    pure (.ok ((calls.filterMap Call.notices?).getLast?.getD .empty), volume.counted)
  alternates :
    (loadAlternates layout : ExceptT ArchiveError (StateM Volume) (Table (List String))).run.run
        volume =
      pure (.ok ((calls.filterMap Call.alternates?).getLast?.getD .empty), volume.counted)
  /-- A snapshot has the text of the roster that was last kept for its date, and it can be read. -/
  snapshots : ∀ date, let kept := (calls.filterMap (Call.snapshot? date)).getLast?
    volume.fileAt? (layout.snapshot date) = kept.map (fun roster => contentOf (rosterText roster)) ∧
      decoded? (decodeJson rosterOfText?) (volume.fileAt? (layout.snapshot date)) = kept
  pages : ∀ publication, volume.fileAt? (pagePath layout publication) =
    (calls.filterMap (Call.page? publication)).getLast?.map fun html => html.toUTF8
  rejections : volume.fileAt? layout.rejections =
    if calls.filterMap Call.rejection? = [] then none
    else some (contentOf ((calls.filterMap Call.rejection?).flatMap rejectionLine))

/-- After any succeeded calls to an archive that was fresh, what comes out of it is what they put in,
and no two dates share a file. -/
theorem loads_last_saved {root : String} {calls : List Call} {volume volume' : Volume}
    (fresh : Fresh (.below root) volume)
    (made : (calls.forM (Call.make (.below root))).run.run volume = pure (.ok (), volume'))
    (inside : ∀ call ∈ calls, call.InCalendar)
    (reads : ∀ path, (Layout.below root).IsTable path → volume.Reads path) :
    Recalls (.below root) calls volume' ∧
      Function.Injective (Layout.below root).snapshot ∧
      Function.Injective (Layout.below root).backup := by
  have holds := fresh.holds_after made
  have reads (path : String) (table : (Layout.below root).IsTable path) : volume'.Reads path := by
    intro request
    rw [refuses_after made]
    exact reads path table request
  have rosterMeans {roster : Roster} (inside : roster.InCalendar) :
      decodeJson rosterOfText? (rosterText roster) = .ok roster := by
    rw [decodeJson, rosterOfText?_rosterText inside]
  refine ⟨⟨?_, ?_, ?_, ?_, ?_, ?_⟩, ?_, ?_⟩
  · refine holds.run_load (by decide) Call.textAt?_roster .empty ?_ (reads _ (.inl rfl))
    intro roster member
    obtain ⟨call, listed, picked⟩ := List.mem_filterMap.mp member
    exact rosterMeans (Call.inCalendar_of_roster? (inside call listed) picked)
  · refine holds.run_load (by decide) Call.textAt?_notices .empty ?_ (reads _ (.inr (.inl rfl)))
    intro grouped member
    obtain ⟨call, listed, picked⟩ := List.mem_filterMap.mp member
    have dated := Call.inCalendar_of_notices? (inside call listed) picked
    rw [decodeJson, noticesOfText?_noticesText dated]
  · -- Addresses are texts, so no hypothesis is needed here.
    refine holds.run_load (by decide) Call.textAt?_alternates .empty ?_ (reads _ (.inr (.inr rfl)))
    exact fun listed _ => decodeAlternates_encodeAlternates listed
  · intro date kept
    have file := holds.fileAt? (by simp) (Call.textAt?_snapshot date)
    refine ⟨file, ?_⟩
    rw [Place.file] at file
    rw [file]
    cases last : kept with
    | none => simp only [kept, last]; rfl
    | some roster =>
      have member := List.mem_of_getLast? last
      obtain ⟨call, listed, picked⟩ := List.mem_filterMap.mp member
      have means := rosterMeans (Call.inCalendar_of_snapshot? (inside call listed) picked)
      simp only [kept] at last
      rw [last, Option.map_some, contentOf, decoded?_toUTF8, means]
      rfl
  · intro publication
    have noLog : Place.ofPublication publication ≠ .rejections := by
      cases publication <;> simp [Place.ofPublication]
    have file := holds.fileAt? noLog (Call.textAt?_ofPublication publication)
    simp only [contentOf, String.ofList_toList] at file
    rwa [Place.file_ofPublication] at file
  · have texts := textsAt_eq Call.textAt?_rejections calls
    split
    next none =>
      rw [none] at texts
      exact Tree.fileAt?_of_vacant (holds.vacant .rejections texts)
    next some_ =>
      have log := holds.log (by rwa [texts, Ne, List.map_eq_nil_iff])
      rwa [texts] at log
  · exact (Layout.below root).snapshot_injective
  · exact (Layout.below root).backup_injective

/-! ### An archive below the working directory -/

/-- A run that is known to succeed leaves what it leaves. -/
theorem eq_pure_of_fst {α β : Type} {ended : Id (α × β)} {value : α}
    (first : (Id.run ended).1 = value) : ended = pure (value, (Id.run ended).2) := by
  cases first
  rfl

/-- An empty disk after an archive was opened on it. -/
def opened : Volume :=
  (Id.run ((prepare (.below "") : ExceptT ArchiveError (StateM Volume) Unit).run.run
    (.ofTree .empty))).2

private theorem prepare_opened :
    (prepare (.below "") : ExceptT ArchiveError (StateM Volume) Unit).run.run
    (.ofTree .empty) = pure (.ok (), opened) :=
  eq_pure_of_fst (by decide +kernel)

/-- Every file has an extension. -/
private theorem point_mem_file (root : String) (place : Place) :
    '.' ∈ (place.file (.below root)).toList := by
  have constants : ∀ place ∈ Place.undated, '.' ∈ place.name.toList := by decide
  have named : '.' ∈ place.name.toList := by
    cases place with
    | snapshot | backup => simp [Place.name]
    | roster | notices | alternates | rejections | livePage | absencePage =>
      exact constants _ (by decide)
  exact (Place.suffix_file root place).subset (List.mem_cons_of_mem _ named)

theorem fresh_opened : Fresh (.below "") opened where
  opened := ⟨.ofTree .empty, prepare_opened⟩
  vacant place := by
    have directories : opened.tree.keys = ["output", "output/bk", "state", "state/bk"] := by
      decide +kernel
    have plain : ∀ key ∈ opened.tree.keys, '.' ∉ key.toList := by
      rw [directories]
      decide
    apply Table.find?_eq_none.mpr
    intro entry listed
    exact plain _ (List.mem_map_of_mem listed) (point_mem_file "" place)

/-- Alice wrote in a leap second of a far year. -/
def farRoster : Roster :=
  Table.empty.insert "alice@example.org" { Person.blank with
    firstReceived := some ⟨⟨12024, 6, 30, by decide⟩, ⟨23, 59, 60, 500000000, by decide⟩⟩ }

private theorem inCalendar_farRoster : farRoster.InCalendar := by
  intro address person found
  rw [farRoster, Table.find?_insert] at found
  split at found
  · cases found
    exact ⟨by simp [Instant.InCalendar, Date.InCalendar, Date.firstYear, Date.lastYear],
      by simp [Person.blank]⟩
  · cases found

def day : Date := ⟨2024, 5, 1, by decide⟩

/-- A day in the life of an archive. -/
def dayCalls : List Call :=
  [.saveRoster farRoster, .logRejection ⟨day, "mallory", "eve"⟩, .publish (.backup day) "page",
    .saveSnapshot day farRoster, .saveRoster .empty, .logRejection ⟨day, "eve", "mallory"⟩]

theorem loads_last_saved_of_day :
    ∃ volume volume', Fresh (.below "") volume ∧
      (dayCalls.forM (Call.make (.below ""))).run.run volume = pure (.ok (), volume') ∧
      (loadRoster (.below "") : ExceptT ArchiveError (StateM Volume) Roster).run.run volume' =
        pure (.ok .empty, volume'.counted) ∧
      decoded? (decodeJson rosterOfText?) (volume'.fileAt? ((Layout.below "").snapshot day)) =
        some farRoster ∧
      volume'.fileAt? ((Layout.below "").backup day) = some "page".toUTF8 ∧
      volume'.fileAt? (Layout.below "").rejections =
        some (contentOf "2024/05/01, mallory, eve\n2024/05/01, eve, mallory\n".toList) := by
  have succeeded : (Id.run ((dayCalls.forM (Call.make (.below ""))).run.run opened)).1 = .ok () := by
    decide +kernel
  have made := eq_pure_of_fst succeeded
  have inside : ∀ call ∈ dayCalls, call.InCalendar := by
    simp only [dayCalls, List.forall_mem_cons]
    exact ⟨inCalendar_farRoster, trivial, trivial, inCalendar_farRoster, Roster.inCalendar_empty,
      trivial, by simp⟩
  have reads : ∀ path, (Layout.below "").IsTable path → opened.Reads path := by
    intro path _ request
    rw [(find?_of_prepare prepare_opened).2]
    rfl
  obtain ⟨recalls, _⟩ := loads_last_saved fresh_opened made inside reads
  refine ⟨opened, _, fresh_opened, made, recalls.roster, (recalls.snapshots day).2,
    recalls.pages (.backup day), ?_⟩
  rw [recalls.rejections, if_neg (by simp [dayCalls, Call.rejection?])]
  decide +kernel

end Whereabouts.Archive
