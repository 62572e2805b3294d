import Mathlib.Data.List.Nodup
import Whereabouts.Spool
import Whereabouts.Proofs.Archive.Tables
import Whereabouts.Proofs.Disk.Edits
import Whereabouts.Proofs.Disk.Path
import Whereabouts.Proofs.Letter.Reader
import Whereabouts.Proofs.Text.Octets
/-!
# Mail of the spool

Mail is taken up in the order of the octets of its names, however the directory is listed. Fetching
changes no file, and taking a file changes no other.
-/
namespace Whereabouts

open Whereabouts.Calendar Whereabouts.Mail Whereabouts.Text

/-! ### Names in a directory -/

namespace Tree

/-- The name of an entry leads from the directory to the entry. -/
private theorem join_of_nameIn? {directory path name : String}
    (named : nameIn? directory path = some name) : Path.join directory name = path := by
  rw [nameIn?] at named
  split at named
  next inside =>
    obtain ⟨_, rfl⟩ := inside
    rw [← Option.some.inj named, ← String.toList_inj]
    unfold Path.parent
    split
    next before found =>
      obtain ⟨slash, rest, shape, stop, _⟩ := beforeLast?_eq_some found
      obtain rfl : slash = '/' := by simpa using stop
      by_cases root : before = []
      · simp [Path.join, root]
      · have named : String.ofList before ≠ "" := by simpa using root
        by_cases slashed : before.getLast? = some '/'
        · simp [Path.join, named, slashed, shape]
        · have one : "/".length = 1 := rfl
          simp [Path.join, named, slashed, shape, one]
    · simp [Path.join]
  · cases named

theorem nodup_of_listDirectory {tree : Tree} {directory : String} {names : List String}
    (listed : tree.listDirectory directory = .ok names) : names.Nodup := by
  have same : tree.keys.filterMap (nameIn? directory) = names := by
    rw [listDirectory] at listed
    split at listed
    · cases opened : tree.openDirectories (Path.prefixes directory) with
      | error error => simp [opened, bind, Except.bind] at listed
      | ok => simpa [opened, bind, Except.bind, pure, Except.pure] using listed
    · simpa [bind, Except.bind, pure, Except.pure] using listed
  rw [← same]
  have once : tree.keys.Nodup :=
    List.pairwise_map.mpr (tree.ordered.imp fun less => String.ne_of_lt less)
  refine List.Nodup.filterMap ?_ once
  intro one two name named named'
  rw [← join_of_nameIn? named, ← join_of_nameIn? named']

/-- What is listed are the entries that lie in the directory, which is open. -/
private theorem listDirectory_eq_ok {tree : Tree} {directory : String} {names : List String}
    (named : directory ≠ "") :
    tree.listDirectory directory = .ok names ↔
      (∀ outer ∈ Path.prefixes directory, tree.find? outer = some .directory) ∧
        names = tree.keys.filterMap (nameIn? directory) := by
  rw [listDirectory, if_pos named, ← openDirectories_eq_ok]
  cases tree.openDirectories (Path.prefixes directory) with
  | error error => simp [bind, Except.bind]
  | ok => simp [bind, Except.bind, pure, Except.pure, eq_comm]

private theorem mem_keys {tree : Tree} {path : String} :
    path ∈ tree.keys ↔ (tree.find? path).isSome := by
  rw [Table.keys, List.mem_map, Option.isSome_iff_exists]
  constructor
  · rintro ⟨⟨_, entry⟩, member, rfl⟩
    exact ⟨entry, Table.find?_eq_some.mpr member⟩
  · rintro ⟨entry, found⟩
    exact ⟨(path, entry), Table.find?_eq_some.mp found, rfl⟩

/-- An entry that is listed is there to be seen. -/
private theorem look_of_listed {tree : Tree} {directory : String} {names : List String}
    (named : directory ≠ "") (listed : tree.listDirectory directory = .ok names) {name : String}
    (member : name ∈ names) :
    ∃ entry, tree.look (Path.join directory name) = .ok (some entry) ∧
      tree.find? (Path.join directory name) = some entry := by
  obtain ⟨open_, rfl⟩ := (listDirectory_eq_ok named).mp listed
  obtain ⟨path, there, inside⟩ := List.mem_filterMap.mp member
  obtain ⟨entry, found⟩ := Option.isSome_iff_exists.mp (mem_keys.mp there)
  rw [join_of_nameIn? inside]
  rw [nameIn?] at inside
  split at inside
  next lies =>
    obtain ⟨present, rfl⟩ := lies
    refine ⟨entry, look_eq_ok.mpr ⟨?_, ?_⟩, found⟩
    · rw [around_of_parent named]
      exact open_
    · rw [if_neg present, found]
  · cases inside

end Tree

namespace Spool

/-! ### The order of mail -/

private theorem perm_mailNames (names : List String) :
    (mailNames names).Perm (names.filter (Path.hasExtension extension)) :=
  List.mergeSort_perm _ _

private theorem hasExtension_of_mem_mailNames {names : List String} {name : String}
    (member : name ∈ mailNames names) : Path.hasExtension extension name = true :=
  (List.mem_filter.mp ((perm_mailNames names).mem_iff.mp member)).2

private theorem pairwise_le_mailNames (names : List String) :
    (mailNames names).Pairwise (· ≤ ·) := by
  -- The order of names is total, so sorting leaves them in order.
  have transitive (one two three : String) (less : decide (one ≤ two) = true)
      (less' : decide (two ≤ three) = true) : decide (one ≤ three) = true := by
    simp only [decide_eq_true_eq] at less less' ⊢
    exact String.le_trans less less'
  have total (one two : String) : (decide (one ≤ two) || decide (two ≤ one)) = true := by
    simpa using String.le_total one two
  have sorted := List.pairwise_mergeSort transitive total (names.filter (Path.hasExtension extension))
  exact sorted.imp of_decide_eq_true

/-- Neither the order of the listing matters nor anything in it that is no mail. -/
private theorem mailNames_congr {names others : List String}
    (perm : (names.filter (Path.hasExtension extension)).Perm
      (others.filter (Path.hasExtension extension))) :
    mailNames names = mailNames others := by
  have same : (mailNames names).Perm (mailNames others) :=
    (perm_mailNames names).trans (perm.trans (perm_mailNames others).symm)
  exact same.eq_of_pairwise (fun _ _ _ _ less greater => String.le_antisymm less greater)
    (pairwise_le_mailNames names) (pairwise_le_mailNames others)

private theorem mailNames_of_perm {names others : List String} (perm : names.Perm others) :
    mailNames names = mailNames others :=
  mailNames_congr (perm.filter _)

private theorem pairwise_lt_mailNames {names : List String} (once : names.Nodup) :
    (mailNames names).Pairwise fun one two => octets one < octets two := by
  have onceMail : (mailNames names).Nodup :=
    (perm_mailNames names).nodup_iff.mpr (once.filter _)
  refine (onceMail.and (pairwise_le_mailNames names)).imp ?_
  rintro one two ⟨different, le⟩
  refine lt_iff_octets_lt.mp ?_
  by_contra notLess
  exact different (String.le_antisymm le (String.not_lt.mp notLess))

/-- Paths of one directory, in the order of the octets of their names. -/
def Ordered (directory : String) (paths : List String) : Prop :=
  ∃ names : List String, paths = names.map (Path.join directory) ∧
    names.Pairwise fun one two => octets one < octets two

private theorem ordered_mailNames (directory : String) {names : List String} (once : names.Nodup) :
    Ordered directory ((mailNames names).map (Path.join directory)) :=
  ⟨mailNames names, rfl, pairwise_lt_mailNames once⟩

theorem Ordered.sublist {directory : String} {paths fewer : List String}
    (ordered : Ordered directory paths) (sublist : fewer.Sublist paths) :
    Ordered directory fewer := by
  obtain ⟨names, rfl, increasing⟩ := ordered
  obtain ⟨left, inside, rfl⟩ := List.sublist_map_iff.mp sublist
  exact ⟨left, rfl, increasing.sublist inside⟩

theorem Ordered.nodup {directory : String} {paths : List String}
    (ordered : Ordered directory paths) : paths.Nodup := by
  obtain ⟨names, rfl, increasing⟩ := ordered
  refine List.Nodup.map (Path.join_injective directory) (increasing.imp ?_)
  rintro one _ less rfl
  exact List.lt_irrefl _ less

/-! ### Fetching and taking -/

/-- What is known of a file that was looked at: its message is what some answer says, and what the
file says if the volume does not refuse to read it. -/
structure Delivery.Stems (volume : Volume) (reader : Letter.Reader) (received : Instant)
    (delivery : Delivery) : Prop where
  answered : ∃ answer, delivery.message? = messageIn? reader received answer
  read : volume.Reads delivery.path →
    delivery.message? = messageIn? reader received (volume.tree.contentAt delivery.path)

/-- Whether the path is that of mail in the directory. -/
def IsMail (directory path : String) : Prop :=
  ∃ name, Path.hasExtension extension name = true ∧ path = Path.join directory name

theorem not_isMail_of_suffix {directory path : String} {ending : List Char}
    (ends : ending <:+ path.toList) (long : 4 ≤ ending.length)
    (differs : ¬ ".eml".toList <:+ ending) : ¬ IsMail directory path := by
  rintro ⟨name, named, rfl⟩
  have mail := (Path.suffix_of_hasExtension named).trans (Path.suffix_join directory name)
  exact Path.ne_of_suffix mail ends long differs rfl

/-! ### Files of the archive are no mail -/

theorem not_isMail_state {directory name : String} {layout : Archive.Layout}
    (long : 4 ≤ name.toList.length) (differs : ¬ ".eml".toList <:+ name.toList) :
    ¬ IsMail directory (layout.state name) :=
  not_isMail_of_suffix (Path.suffix_join _ _) long differs

theorem not_isMail_backup (directory : String) (layout : Archive.Layout) (date : Date) :
    ¬ IsMail directory (layout.backup date) :=
  not_isMail_of_suffix ((List.suffix_append _ _).trans (layout.suffix_backup date)) (by decide)
    (by decide)

theorem not_isMail_snapshot (directory : String) (layout : Archive.Layout) (date : Date) :
    ¬ IsMail directory (layout.snapshot date) :=
  not_isMail_of_suffix ((List.suffix_append _ _).trans (layout.suffix_snapshot date)) (by decide)
    (by decide)

/-! ### What waits -/

section Waiting

variable {volume : Volume} {directory : String} {reader : Letter.Reader} {received : Instant}
  {names : List String} {deliveries : List Delivery}

theorem isMail_of_mem (paths : deliveries.map (·.path) = (mailNames names).map (Path.join directory))
    {delivery : Delivery} (member : delivery ∈ deliveries) : IsMail directory delivery.path := by
  have listed : delivery.path ∈ (mailNames names).map (Path.join directory) :=
    paths ▸ List.mem_map_of_mem member
  obtain ⟨name, named, same⟩ := List.mem_map.mp listed
  exact ⟨name, hasExtension_of_mem_mailNames named, same.symm⟩

theorem mem_letters {letter : String × Message} :
    letter ∈ (Waiting.ofDeliveries deliveries).letters ↔ ⟨letter.1, some letter.2⟩ ∈ deliveries := by
  obtain ⟨path, message⟩ := letter
  simp only [Waiting.ofDeliveries, List.mem_filterMap, Option.map_eq_some_iff, Prod.mk.injEq]
  constructor
  · rintro ⟨⟨_, _⟩, member, _, rfl, rfl, rfl⟩
    exact member
  · exact fun member => ⟨_, member, _, rfl, rfl, rfl⟩

theorem mem_others {path : String} :
    path ∈ (Waiting.ofDeliveries deliveries).others ↔ ⟨path, none⟩ ∈ deliveries := by
  simp only [Waiting.ofDeliveries, List.mem_map, List.mem_filter, Option.isNone_iff_eq_none]
  constructor
  · rintro ⟨⟨_, _⟩, ⟨member, rfl⟩, rfl⟩
    exact member
  · exact fun member => ⟨_, ⟨member, rfl⟩, rfl⟩

/-- Every file that was looked at waits as a letter or as what is none. -/
private theorem perm_waiting (deliveries : List Delivery) :
    ((Waiting.ofDeliveries deliveries).others ++
      (Waiting.ofDeliveries deliveries).letters.map (·.1)).Perm (deliveries.map (·.path)) := by
  induction deliveries with
  | nil => exact .nil
  | cons delivery deliveries ih =>
    obtain ⟨path, message?⟩ := delivery
    cases message? with
    | none => exact ih.cons path
    | some message => exact List.perm_middle.trans (ih.cons path)

private theorem sublist_letters (deliveries : List Delivery) :
    ((Waiting.ofDeliveries deliveries).letters.map (·.1)).Sublist (deliveries.map (·.path)) := by
  rw [Waiting.ofDeliveries]
  induction deliveries with
  | nil => exact .slnil
  | cons delivery deliveries ih =>
    cases read : delivery.message? with
    | none => simpa [List.filterMap_cons, read] using ih.cons delivery.path
    | some message => simpa [List.filterMap_cons, read] using ih

private theorem ordered_letters (once : names.Nodup)
    (paths : deliveries.map (·.path) = (mailNames names).map (Path.join directory)) :
    Ordered directory ((Waiting.ofDeliveries deliveries).letters.map (·.1)) :=
  (ordered_mailNames directory once).sublist (paths ▸ sublist_letters deliveries)

/-- A message that was read was sent within the calendar, or it counts as sent when it was read. -/
theorem Delivery.Stems.inCalendar {delivery : Delivery} (stems : delivery.Stems volume reader received)
    (dated : reader.Dated) (inside : received.InCalendar) {message : Message}
    (read : delivery.message? = some message) :
    message.sentAt.InCalendar := by
  obtain ⟨answer, said⟩ := stems.answered
  rw [read] at said
  cases answer with
  | error => cases said
  | ok content => exact Letter.Reader.inCalendar_of_read? dated said.symm inside

/-- What waits, as the files tell: letters in order, each with the message in its file, and other
files that are no letters. -/
structure Waiting.Found (volume : Volume) (directory : String) (reader : Letter.Reader)
    (received : Instant) (waiting : Waiting) : Prop where
  ordered : Ordered directory (waiting.letters.map (·.1))
  letters : ∀ letter ∈ waiting.letters, IsMail directory letter.1 ∧
    ∃ content, volume.fileAt? letter.1 = some content ∧
      reader.read? (Letter.octetsOf content) received = some letter.2
  others : ∀ path ∈ waiting.others, IsMail directory path ∧
    ∀ content, volume.fileAt? path = some content →
      reader.read? (Letter.octetsOf content) received = none

theorem Waiting.found_nothing (volume : Volume) (directory : String) (reader : Letter.Reader)
    (received : Instant) :
    Waiting.Found volume directory reader received ⟨[], []⟩ :=
  ⟨⟨[], rfl, .nil⟩, nofun, nofun⟩

theorem Waiting.Found.congr {volume' : Volume} {waiting : Waiting}
    (found : waiting.Found volume directory reader received)
    (same : ∀ path, IsMail directory path → volume'.fileAt? path = volume.fileAt? path) :
    waiting.Found volume' directory reader received where
  ordered := found.ordered
  letters letter member := by
    obtain ⟨mail, read⟩ := found.letters letter member
    exact ⟨mail, same _ mail ▸ read⟩
  others path member := by
    obtain ⟨mail, unread⟩ := found.others path member
    exact ⟨mail, same _ mail ▸ unread⟩

theorem found_ofDeliveries (reads : ∀ path, IsMail directory path → volume.Reads path)
    (once : names.Nodup)
    (paths : deliveries.map (·.path) = (mailNames names).map (Path.join directory))
    (stems : ∀ delivery ∈ deliveries, delivery.Stems volume reader received) :
    (Waiting.ofDeliveries deliveries).Found volume directory reader received where
  ordered := ordered_letters once paths
  letters letter member := by
    have delivered := mem_letters.mp member
    have mail := isMail_of_mem paths delivered
    refine ⟨mail, ?_⟩
    have said : some letter.2 = messageIn? reader received (volume.tree.contentAt letter.1) :=
      (stems _ delivered).read (reads _ mail)
    cases inside : volume.tree.contentAt letter.1 with
    | error => simp [inside, messageIn?] at said
    | ok content =>
      rw [inside] at said
      exact ⟨content, Tree.fileAt?_iff_contentAt.mpr inside, said.symm⟩
  others path member := by
    have delivered := mem_others.mp member
    have mail := isMail_of_mem paths delivered
    refine ⟨mail, fun content there => ?_⟩
    have said : none = messageIn? reader received (volume.tree.contentAt path) :=
      (stems _ delivered).read (reads _ mail)
    rw [Tree.fileAt?_iff_contentAt.mp there] at said
    exact said.symm

end Waiting

private theorem run_deliver (volume : Volume) (reader : Letter.Reader) (received : Instant)
    (path : String) :
    (deliver reader received path : StateM Volume Delivery).run volume =
      pure (⟨path, messageIn? reader received (volume.answer path)⟩, volume.counted) := by
  rw [deliver, StateT.run_map, volume.run_read]
  rfl

/-- The delivery says what the volume answered at some point while its files were as they are. -/
def Delivery.Answered (volume : Volume) (reader : Letter.Reader) (received : Instant)
    (delivery : Delivery) : Prop :=
  ∃ asked : Volume, asked.tree = volume.tree ∧ asked.refuses = volume.refuses ∧
    delivery.message? = messageIn? reader received (asked.answer delivery.path)

section Answered

variable {volume : Volume} {reader : Letter.Reader} {received : Instant} {delivery : Delivery}

theorem Delivery.Answered.stems (answered : delivery.Answered volume reader received) :
    delivery.Stems volume reader received := by
  obtain ⟨asked, tree, refuses, said⟩ := answered
  refine ⟨⟨_, said⟩, fun reads => ?_⟩
  have served : asked.isRefused (.read delivery.path) = false := by
    rw [Volume.isRefused, refuses]
    exact reads _
  rw [said, Volume.answer, served, tree]
  rfl

/-- A message is what the file says, whether or not the volume refuses to read it at times. -/
theorem Delivery.Answered.exists_content (answered : delivery.Answered volume reader received)
    {message : Message} (read : delivery.message? = some message) :
    ∃ content, volume.fileAt? delivery.path = some content ∧
      reader.read? (Letter.octetsOf content) received = some message := by
  obtain ⟨asked, tree, _, said⟩ := answered
  rw [read] at said
  cases answer : asked.answer delivery.path with
  | error => simp [answer, messageIn?] at said
  | ok content =>
    rw [answer] at said
    have there := Volume.fileAt?_of_answer answer
    rw [Volume.fileAt?, tree] at there
    exact ⟨content, there, said.symm⟩

end Answered

/-- Looking at the files one by one changes nothing but the number of requests. -/
private theorem run_mapM_deliver (volume : Volume) (reader : Letter.Reader) (received : Instant)
    (paths : List String) :
    ∃ deliveries volume',
      (paths.mapM (deliver reader received) : StateM Volume _).run volume = pure (deliveries, volume') ∧
        volume'.tree = volume.tree ∧ volume'.refuses = volume.refuses ∧
        deliveries.map (·.path) = paths ∧
        ∀ delivery ∈ deliveries, delivery.Answered volume reader received := by
  induction paths generalizing volume with
  | nil => exact ⟨[], volume, rfl, rfl, rfl, rfl, by simp⟩
  | cons path paths ih =>
    obtain ⟨deliveries, volume', run, tree, refuses, same, answered⟩ := ih volume.counted
    refine ⟨⟨path, messageIn? reader received (volume.answer path)⟩ :: deliveries, volume', ?_, tree,
      refuses, by rw [List.map_cons, same], ?_⟩
    · rw [List.mapM_cons, StateT.run_bind, run_deliver, pure_bind, StateT.run_bind, run, pure_bind]
      rfl
    · intro delivery member
      rcases List.mem_cons.mp member with rfl | later
      · exact ⟨volume, rfl, rfl, rfl⟩
      · exact answered delivery later

private theorem run_list (volume : Volume) (directory : String) :
    ∃ answer, (Disk.list directory : StateM Volume _).run volume = pure (answer, volume.counted) ∧
      ∀ names, answer = .ok names → volume.listed directory = .ok names := by
  by_cases refused : volume.isRefused (.list directory) = true
  · refine ⟨.error Volume.refusal, ?_, nofun⟩
    simp only [Disk.list, Volume.ask, StateT.run, refused, if_true]
    rfl
  · refine ⟨volume.listed directory, ?_, fun _ same => same⟩
    simp only [Disk.list, Volume.ask, StateT.run, refused, Bool.false_eq_true, if_false]
    rfl

/-- Once the directory is listed, a fetch succeeds. -/
private theorem run_fetch_listed {volume : Volume} {directory : String} {arranged : List String}
    (listed : (Disk.list directory : StateM Volume _).run volume = pure (.ok arranged, volume.counted))
    (reader : Letter.Reader) (received : Instant) :
    ∃ deliveries volume',
      (fetch reader directory received : ExceptT SpoolError (StateM Volume) _).run.run volume =
        pure (.ok (.ofDeliveries deliveries), volume') ∧
      volume'.tree = volume.tree ∧ volume'.refuses = volume.refuses ∧
      deliveries.map (·.path) = (mailNames arranged).map (Path.join directory) ∧
      ∀ delivery ∈ deliveries, delivery.Answered volume reader received := by
  obtain ⟨deliveries, volume', run, tree, refuses, same, answered⟩ :=
    run_mapM_deliver volume.counted reader received ((mailNames arranged).map (Path.join directory))
  refine ⟨deliveries, volume', ?_, tree, refuses, same, answered⟩
  rw [List.mapM_map] at run
  simp [fetch, ExceptT.run_bind, ExceptT.run_adapt, listed, Except.mapError, run, Except.map]

/-- The volume lists the names in an order of its own, which sorting undoes. -/
private theorem mailNames_of_listed {volume : Volume} {directory : String} {arranged : List String}
    (listed : volume.listed directory = .ok arranged) :
    ∃ names, volume.tree.listDirectory directory = .ok names ∧
      mailNames arranged = mailNames names := by
  rw [Volume.listed] at listed
  cases inside : volume.tree.listDirectory directory with
  | error error => simp [inside, Except.map] at listed
  | ok names =>
    have perm : arranged.Perm names := by
      simp only [inside, Except.map, Except.ok.injEq] at listed
      exact listed ▸ volume.arranged _ _
    exact ⟨names, rfl, mailNames_of_perm perm⟩

/-- A fetch finds the mail among the names in the directory, in the order of the names. -/
theorem run_fetch (volume : Volume) (reader : Letter.Reader) (directory : String)
    (received : Instant) :
    ∃ result volume',
      (fetch reader directory received : ExceptT SpoolError (StateM Volume) _).run.run volume =
        pure (result, volume') ∧ volume'.tree = volume.tree ∧ volume'.refuses = volume.refuses ∧
      ∀ waiting, result = .ok waiting → ∃ names deliveries,
        volume.tree.listDirectory directory = .ok names ∧ waiting = .ofDeliveries deliveries ∧
        deliveries.map (·.path) = (mailNames names).map (Path.join directory) ∧
        ∀ delivery ∈ deliveries, delivery.Answered volume reader received := by
  obtain ⟨answer, runList, listed⟩ := run_list volume directory
  cases answer with
  | error error =>
    refine ⟨.error ⟨directory, error⟩, volume.counted, ?_, rfl, rfl, nofun⟩
    simp [fetch, ExceptT.run_bind, ExceptT.run_adapt, runList, Except.mapError]
  | ok arranged =>
    obtain ⟨deliveries, volume', run, tree, refuses, same, answered⟩ :=
      run_fetch_listed runList reader received
    refine ⟨_, volume', run, tree, refuses, ?_⟩
    rintro _ ⟨⟩
    obtain ⟨names, inside, sorted⟩ := mailNames_of_listed (listed arranged rfl)
    exact ⟨names, deliveries, inside, rfl, by rw [same, sorted], answered⟩

/-- A fetch from a directory that can be listed succeeds. -/
theorem run_fetch_served {volume : Volume} {directory : String} {names : List String}
    (served : ∀ request, volume.refuses request (.list directory) = false)
    (inside : volume.tree.listDirectory directory = .ok names) (reader : Letter.Reader)
    (received : Instant) :
    ∃ deliveries volume',
      (fetch reader directory received : ExceptT SpoolError (StateM Volume) _).run.run volume =
        pure (.ok (.ofDeliveries deliveries), volume') ∧
      volume'.tree = volume.tree ∧ volume'.refuses = volume.refuses ∧
      deliveries.map (·.path) = (mailNames names).map (Path.join directory) ∧
      ∀ delivery ∈ deliveries, delivery.Answered volume reader received := by
  have listed : volume.listed directory = .ok (volume.arranges volume.served names) := by
    rw [Volume.listed, inside]
    rfl
  have runList : (Disk.list directory : StateM Volume _).run volume =
      pure (.ok (volume.arranges volume.served names), volume.counted) := by
    have unrefused : volume.isRefused (.list directory) = false := served _
    simp only [Disk.list, Volume.ask, StateT.run, unrefused, listed]
    rfl
  obtain ⟨deliveries, volume', run, tree, refuses, same, answered⟩ :=
    run_fetch_listed runList reader received
  rw [mailNames_of_perm (volume.arranged volume.served names)] at same
  exact ⟨deliveries, volume', run, tree, refuses, same, answered⟩

/-- Taking edits the path at most; once it succeeded no file is there, and if it fails the file is as it
was. A file can be taken unless that is refused; a directory never can. -/
theorem run_take_edited (volume : Volume) (path : String) :
    ∃ result volume', (take path : ExceptT SpoolError (StateM Volume) _).run.run volume =
        pure (result, volume') ∧ volume.EditedAt (· = path) volume' ∧
      (result = .ok () → volume'.fileAt? path = none) ∧
      (result ≠ .ok () → volume'.fileAt? path = volume.fileAt? path) ∧
      ((∀ request, volume.refuses request (.remove path) = false) →
        (volume.fileAt? path).isSome → result = .ok ()) ∧
      (volume.tree.look path = .ok (some .directory) → result ≠ .ok ()) := by
  have run (answer : Except DiskError Unit) (volume' : Volume)
      (asked : (Disk.remove path : StateM Volume _).run volume = pure (answer, volume')) :
      (take path : ExceptT SpoolError (StateM Volume) _).run.run volume =
        pure (removed path answer, volume') := by
    rw [take, ExceptT.run_mk, StateT.run_map, asked]
    rfl
  by_cases refused : volume.isRefused (.remove path) = true
  · have failed : removed path (.error Volume.refusal) ≠ .ok () := by simp [removed, Volume.refusal]
    refine ⟨_, _, run (.error Volume.refusal) volume.counted ?_, .of_tree _ rfl rfl,
      fun ok => absurd ok failed, fun _ => rfl, fun served => ?_, fun _ => failed⟩
    · simp only [Disk.remove, Volume.change, StateT.run, refused, if_true]
      rfl
    · rw [Volume.isRefused, served] at refused
      cases refused
  · cases done : volume.tree.removeFile path with
    | ok tree =>
      obtain ⟨⟨content, there⟩, erased⟩ := Tree.removeFile_eq_ok.mp done
      obtain ⟨_, named, found⟩ := Tree.fileAt?_eq_some.mp there
      have noDirectory : volume.tree.find? path ≠ some .directory := by simp [found]
      have edited : volume.EditedAt (· = path) (volume.withTree tree) := by
        subst erased
        exact ⟨fun other different => (Table.find?_erase ..).trans (if_neg different),
          Tree.directory_erase noDirectory, rfl⟩
      refine ⟨_, _, run (.ok ()) (volume.withTree tree) ?_, edited, fun _ => ?_,
        fun failed => absurd rfl failed, fun _ _ => rfl, fun look => ?_⟩
      · simp only [Disk.remove, Volume.change, StateT.run, refused, done]
        rfl
      · exact (Tree.fileAt?_removeFile done path).trans (if_pos rfl)
      · have same := (Tree.look_eq_ok.mp look).2
        rw [if_neg named] at same
        exact absurd same.symm noDirectory
    | error error =>
      -- A removal that fails shows that there was no file.
      have absent : volume.fileAt? path = none := by
        by_contra present
        obtain ⟨content, there⟩ := Option.ne_none_iff_exists'.mp present
        rw [Tree.removeFile_eq_ok.mpr ⟨⟨content, there⟩, rfl⟩] at done
        cases done
      refine ⟨_, _, run (.error error) volume.counted ?_, .of_tree _ rfl rfl, fun _ => absent,
        fun _ => rfl, fun _ present => ?_, fun look => ?_⟩
      · simp only [Disk.remove, Volume.change, StateT.run, refused, done]
        rfl
      · rw [absent] at present
        cases present
      · rw [Tree.removeFile, look] at done
        cases done
        simp [removed]

/-- Taking a file touches no other; once it succeeded the file is gone, and if it fails the file is
as it was. -/
theorem run_take (volume : Volume) (path : String) :
    ∃ result volume', (take path : ExceptT SpoolError (StateM Volume) _).run.run volume =
        pure (result, volume') ∧ volume.ChangedAt (· = path) volume' ∧
      (result = .ok () → volume'.fileAt? path = none) ∧
      (result ≠ .ok () → volume'.fileAt? path = volume.fileAt? path) := by
  obtain ⟨result, volume', run, edited, gone, kept, _⟩ := run_take_edited volume path
  exact ⟨result, volume', run, edited.changedAt, gone, kept⟩

/-! ### The mail in a directory -/

/-- The directory can be listed, and these are the names of mail in it. No directory has an empty
path. -/
structure Holds (volume : Volume) (directory : String) (names : List String) : Prop where
  named : directory ≠ ""
  listed : ∃ all, volume.tree.listDirectory directory = .ok all ∧ names = mailNames all

/-- There is a directory under a name of mail. -/
def Jams (volume : Volume) (directory name : String) : Prop :=
  ∃ names, Holds volume directory names ∧ name ∈ names ∧
    volume.tree.find? (Path.join directory name) = some .directory

section Holds

variable {volume volume' : Volume} {directory name : String} {names : List String}

private theorem Holds.mem (holds : Holds volume directory names) :
    name ∈ names ↔ Path.hasExtension extension name = true ∧ ∃ path,
      (volume.tree.find? path).isSome ∧ Tree.nameIn? directory path = some name := by
  obtain ⟨named, all, listed, rfl⟩ := holds
  obtain ⟨_, rfl⟩ := (Tree.listDirectory_eq_ok named).mp listed
  rw [(perm_mailNames _).mem_iff, List.mem_filter, and_comm]
  simp only [List.mem_filterMap, Tree.mem_keys]

theorem Holds.unique {names' : List String} (holds : Holds volume directory names)
    (holds' : Holds volume directory names') : names = names' := by
  obtain ⟨_, all, listed, rfl⟩ := holds
  obtain ⟨_, all', listed', rfl⟩ := holds'
  cases listed.symm.trans listed'
  rfl

theorem Holds.isMail (holds : Holds volume directory names) (member : name ∈ names) :
    IsMail directory (Path.join directory name) :=
  ⟨name, (holds.mem.mp member).1, rfl⟩

theorem Holds.ordered (holds : Holds volume directory names) :
    Ordered directory (names.map (Path.join directory)) := by
  obtain ⟨_, all, listed, rfl⟩ := holds
  exact ordered_mailNames directory (Tree.nodup_of_listDirectory listed)

/-- Mail that is listed is a file that can be seen, unless it is a directory. -/
private theorem Holds.look (holds : Holds volume directory names) (member : name ∈ names) :
    ∃ entry, volume.tree.look (Path.join directory name) = .ok (some entry) ∧
      volume.tree.find? (Path.join directory name) = some entry := by
  obtain ⟨named, all, listed, rfl⟩ := holds
  exact Tree.look_of_listed named listed (List.mem_filter.mp ((perm_mailNames all).mem_iff.mp member)).1

theorem Holds.file (holds : Holds volume directory names) (member : name ∈ names)
    (free : ¬ Jams volume directory name) :
    (volume.fileAt? (Path.join directory name)).isSome := by
  obtain ⟨entry, look, found⟩ := holds.look member
  cases entry with
  | directory => exact absurd ⟨names, holds, member, found⟩ free
  | file content =>
    have there : volume.fileAt? (Path.join directory name) = some content :=
      Tree.fileAt?_iff_contentAt.mpr (Tree.contentAt_eq_ok.mpr look)
    rw [there]
    rfl

/-- Edits keep a directory open. -/
private theorem Holds.exists_of_editedAt {touched : String → Prop}
    (holds : Holds volume directory names)
    (edited : volume.EditedAt touched volume') : ∃ names', Holds volume' directory names' := by
  obtain ⟨named, all, listed, rfl⟩ := holds
  obtain ⟨open_, _⟩ := (Tree.listDirectory_eq_ok named).mp listed
  exact ⟨_, named, _, (Tree.listDirectory_eq_ok named).mpr
    ⟨fun outer member => (edited.directories outer).mpr (open_ outer member), rfl⟩, rfl⟩

/-- Edits elsewhere do not change which mail there is. -/
theorem Holds.of_editedAt (holds : Holds volume directory names)
    (edited : volume.EditedAt (fun path => ¬ IsMail directory path) volume') :
    Holds volume' directory names := by
  obtain ⟨names', holds'⟩ := holds.exists_of_editedAt edited
  have same : names' = names := by
    have perm : names'.Perm names := by
      apply (List.perm_ext_iff_of_nodup holds'.ordered.nodup.of_map holds.ordered.nodup.of_map).mpr
      intro name
      rw [holds'.mem, holds.mem]
      refine and_congr_right fun mail => exists_congr fun path => and_congr_left fun inside => ?_
      -- An entry under a name of mail is mail.
      rw [edited.entries path (not_not_intro ⟨name, mail, (Tree.join_of_nameIn? inside).symm⟩)]
    obtain ⟨_, all', _, rfl⟩ := holds'
    obtain ⟨_, all, _, rfl⟩ := holds
    exact mailNames_congr ((perm_mailNames all').symm.trans (perm.trans (perm_mailNames all)))
  exact same ▸ holds'

/-- Edits leave a directory where it is. -/
theorem Jams.editedAt {touched : String → Prop} (jams : Jams volume directory name)
    (edited : volume.EditedAt touched volume') : Jams volume' directory name := by
  obtain ⟨names, holds, member, found⟩ := jams
  obtain ⟨names', holds'⟩ := holds.exists_of_editedAt edited
  obtain ⟨mail, path, _, inside⟩ := holds.mem.mp member
  have same : path = Path.join directory name := (Tree.join_of_nameIn? inside).symm
  have found' := (edited.directories _).mpr found
  refine ⟨names', holds', holds'.mem.mpr ⟨mail, path, ?_, inside⟩, found'⟩
  rw [same, found']
  rfl

/-- Where all the mail is gone, and only that was edited of it, there is no mail left. -/
theorem Holds.emptied (holds : Holds volume directory names) (free : ∀ name, ¬ Jams volume directory name)
    (edited : volume.EditedAt
      (fun path => ¬ IsMail directory path ∨ path ∈ names.map (Path.join directory)) volume')
    (gone : ∀ path ∈ names.map (Path.join directory), volume'.fileAt? path = none) :
    Holds volume' directory [] := by
  obtain ⟨names', holds'⟩ := holds.exists_of_editedAt edited
  suffices none_left : names' = [] from none_left ▸ holds'
  rw [List.eq_nil_iff_forall_not_mem]
  intro name member
  have there := holds'.file member fun jams => free name (jams.editedAt edited.symm)
  have unknown : Path.join directory name ∉ names.map (Path.join directory) := fun known => by
    rw [gone _ known] at there
    cases there
  -- Mail that is there and was not known was there before, so it was known.
  obtain ⟨mail, path, present, inside⟩ := holds'.mem.mp member
  obtain rfl : path = Path.join directory name := (Tree.join_of_nameIn? inside).symm
  rw [edited.entries _ (not_or.mpr ⟨not_not_intro ⟨name, mail, rfl⟩, unknown⟩)] at present
  exact unknown (List.mem_map_of_mem (holds.mem.mpr ⟨mail, _, present, inside⟩))

/-- The directory is there to be seen, and it is no file. -/
theorem Jams.look (jams : Jams volume directory name) :
    volume.tree.look (Path.join directory name) = .ok (some .directory) := by
  obtain ⟨names, holds, member, found⟩ := jams
  obtain ⟨entry, look, same⟩ := holds.look member
  cases found.symm.trans same
  exact look

theorem Jams.fileAt? (jams : Jams volume directory name) :
    volume.fileAt? (Path.join directory name) = none := by
  rw [Option.eq_none_iff_forall_ne_some]
  intro content there
  have look := Tree.contentAt_eq_ok.mp (Tree.fileAt?_iff_contentAt.mp there)
  rw [jams.look] at look
  cases look

end Holds

/-! ### What was gathered -/

/-- What waits was gathered from the files at these paths: each of them waits once, a letter says what
its file says, and every file that says something and may be read is among the letters. -/
structure Waiting.Gathered (volume : Volume) (reader : Letter.Reader) (received : Instant)
    (paths : List String) (waiting : Waiting) : Prop where
  perm : (waiting.others ++ waiting.letters.map (·.1)).Perm paths
  ordered : (waiting.letters.map (·.1)).Sublist paths
  sound : ∀ letter ∈ waiting.letters, ∃ content, volume.fileAt? letter.1 = some content ∧
    reader.read? (Letter.octetsOf content) received = some letter.2
  complete : ∀ path ∈ paths, volume.Reads path → ∀ content message,
    volume.fileAt? path = some content →
    reader.read? (Letter.octetsOf content) received = some message → (path, message) ∈ waiting.letters

section Gathered

variable {volume volume' : Volume} {reader : Letter.Reader} {received : Instant}
  {paths : List String} {waiting : Waiting}

theorem Waiting.Gathered.congr (gathered : waiting.Gathered volume reader received paths)
    (same : ∀ path ∈ paths, volume'.fileAt? path = volume.fileAt? path)
    (refuses : volume'.refuses = volume.refuses) : waiting.Gathered volume' reader received paths where
  perm := gathered.perm
  ordered := gathered.ordered
  sound letter member := by
    rw [same _ (gathered.ordered.subset (List.mem_map_of_mem member))]
    exact gathered.sound letter member
  complete path member reads content message there := by
    rw [same path member] at there
    rw [Volume.Reads, refuses] at reads
    exact gathered.complete path member reads content message there

theorem gathered_ofDeliveries {deliveries : List Delivery}
    (answered : ∀ delivery ∈ deliveries, delivery.Answered volume reader received) :
    (Waiting.ofDeliveries deliveries).Gathered volume reader received (deliveries.map (·.path)) where
  perm := perm_waiting deliveries
  ordered := sublist_letters deliveries
  sound letter member := (answered _ (mem_letters.mp member)).exists_content rfl
  complete path member reads content message there read := by
    obtain ⟨delivery, delivered, rfl⟩ := List.mem_map.mp member
    have said := (answered delivery delivered).stems.read reads
    rw [Tree.fileAt?_iff_contentAt.mp there, messageIn?, read] at said
    exact mem_letters.mpr (said ▸ delivered)

end Gathered

end Spool

end Whereabouts
