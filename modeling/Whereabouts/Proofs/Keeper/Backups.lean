import Whereabouts.Proofs.Calendar.Neighbours
import Whereabouts.Proofs.Keeper.History
import Whereabouts.Proofs.Page.Links
/-!
# Backup pages and the links between them

## Main result

`backups_are_linked`: a rollover writes the backup page of the day before under that day's name, and
the links on it are the names that the rollovers of the days beside it write their pages under. The
live page links to the page that the rollover of its day writes.

## Strategy

1. `previous` undoes `next` and gives the last date before, so the day before the next day is today,
   also over the ends of months and years.
2. The links of a header are known (`Page.anchors_header`), and a page has the header below each line
   that takes it.
3. In the usual layout both kinds of page lie in directories that the links start from.
-/
namespace Whereabouts

/-! ### Where links lead -/

namespace Path

private theorem parent_append {directory name : String} (plain : '/' ∉ name.toList) :
    parent (directory ++ "/" ++ name) = directory := by
  have passes : ∀ c ∈ name.toList, (c == '/') = false :=
    fun c member => by simpa using fun slash : c = '/' => plain (slash ▸ member)
  have shape : (directory ++ "/" ++ name).toList = directory.toList ++ '/' :: name.toList := by simp
  rw [parent, shape, Text.beforeLast?_append _ rfl passes]
  exact String.ofList_toList

private theorem join_append (root inner name : String) :
    join root (inner ++ "/" ++ name) = join root inner ++ "/" ++ name := by
  unfold join
  split
  · rfl
  · split <;> simp [String.append_assoc]

end Path

namespace Archive.Layout

open Calendar

/-- Where a link leads that stands on a page. -/
def follow (page target : String) : String := Path.join (Path.parent page) target

private theorem below_backup (root : String) (date : Date) :
    (below root).backup date = Path.join root "output/bk" ++ "/" ++ Page.backupName date :=
  Path.join_join root (Page.backupName date) (by decide) (by decide)

private theorem follow_livePage (root : String) (date : Date) :
    follow (below root).livePage ("bk/" ++ Page.backupName date) = (below root).backup date := by
  have live : (below root).livePage = Path.join root "output" ++ "/" ++ "index.html" :=
    Path.join_append root "output" "index.html"
  have backups : Path.join root "output/bk" = Path.join root "output" ++ "/" ++ "bk" :=
    Path.join_append root "output" "bk"
  -- The backups lie one directory below the live page.
  have directory : "bk/" = "bk" ++ "/" := by decide
  rw [follow, live, Path.parent_append (by decide), Path.join_join root _ (by decide) (by decide),
    below_backup, backups, directory]
  simp only [String.append_assoc]

private theorem follow_backup (root : String) (date other : Date) :
    follow ((below root).backup date) (Page.backupName other) = (below root).backup other := by
  have plain : '/' ∉ (Page.backupName date).toList := Place.slash_not_mem_name (.backup date)
  rw [follow, below_backup, Path.parent_append plain]
  rfl

end Archive.Layout

namespace Keeper

open Archive Calendar Page

/-! ### Rollovers -/

/-- The name of the page that a rollover at this moment writes. -/
def writtenName (now : Instant) : String := backupName now.date.previous

/-- What can be kept is kept under the name of the day before. -/
private theorem exists_endOf_rollover {now : Instant} {keeper : Keeper} {volume : Volume}
    (keeps : ∀ error, ¬ KeepingFails now keeper volume error) :
    ∃ result after volume', endOf (rollover now) keeper volume = (result, after, volume') ∧
      ∃ template : String, volume.fileAt? keeper.settings.template = some template.toUTF8 ∧
        volume'.fileAt? (Path.join keeper.layout.backupDirectory (writtenName now)) =
          some (statusPage template keeper.board (keeper.settings.context now) .backup).toUTF8 := by
  obtain ⟨result, kept, ends, _, outcome⟩ := endOf_keepDay now keeper volume
  cases result with
  | error error => exact absurd outcome (keeps error)
  | ok =>
    obtain ⟨result, after, volume', rolled, newDay⟩ := newDay_rollover ends
    exact ⟨result, after, volume', rolled, newDay.kept.page⟩

/-- The links of a backup page name what the rollovers of the days beside it write. -/
private theorem dayLinks_backup {now before after : Instant}
    (yesterday : before.date.next = now.date) (tomorrow : now.date.next = after.date) :
    dayLinks .backup now.date =
      [((writtenName before).toList, dayBefore), ((writtenName after).toList, dayAfter)] := by
  rw [dayLinks, writtenName, writtenName, ← tomorrow, Date.previous_next, ← yesterday,
    Date.previous_next]

/-- A rollover that can keep the day before writes its page under the name of the last date before the
rollover's. Below each line of the template that takes it stands the header, and its links to other days
are those: on a backup page to what the rollovers of the days beside it write, on the live page to what
the rollover of its day writes. In the usual layout they lead to these files. -/
theorem backups_are_linked :
    (∀ now keeper volume, (∀ error, ¬ KeepingFails now keeper volume error) →
      ∃ result after volume', endOf (rollover now) keeper volume = (result, after, volume') ∧
        ∃ template : String, volume.fileAt? keeper.settings.template = some template.toUTF8 ∧
          volume'.fileAt? (Path.join keeper.layout.backupDirectory (writtenName now)) =
            some (statusPage template keeper.board (keeper.settings.context now) .backup).toUTF8) ∧
    (∀ now, ∃ day, writtenName now = backupName day ∧ ∀ date, date < now.date ↔ date ≤ day) ∧
    (∀ template board context kind, ∀ line ∈ Text.lines template.toList, TakesHeader line →
      ∃ before after, (statusPage template board context kind).toList =
        before ++ (line ++ endLine ++ header kind context) ++ after) ∧
    (∀ (context : Context) (before after : Instant),
      before.date.next = context.now.date → context.now.date.next = after.date →
      ∃ others, anchors (header .backup context) =
          [((writtenName before).toList, dayBefore), ((writtenName after).toList, dayAfter)] ++
            others ∧
        (Plain context.manualUrl.toList → others = [manualLink context])) ∧
    (∀ (context : Context) (today : Instant), today.date = context.now.date →
      ∃ others, anchors (header .live context) =
          [(("bk/" ++ writtenName today).toList, dayBefore)] ++ others ∧
        (Plain context.manualUrl.toList → others = [manualLink context])) ∧
    (∀ root date other,
      Layout.follow (Layout.below root).livePage ("bk/" ++ backupName date) =
        (Layout.below root).backup date ∧
      Layout.follow ((Layout.below root).backup date) (backupName other) =
        (Layout.below root).backup other) ∧
    Function.Injective backupName := by
  refine ⟨fun now keeper volume keeps => exists_endOf_rollover keeps, fun now => ?_, ?_, ?_, ?_, ?_, ?_⟩
  · exact ⟨now.date.previous, rfl, fun date => Date.lt_iff_le_previous⟩
  · exact fun template board context kind line member takes =>
      header_on_page template board context kind member takes
  · intro context before after yesterday tomorrow
    rw [← dayLinks_backup yesterday tomorrow]
    exact anchors_header .backup context
  · intro context today same
    have target : ("bk/" ++ writtenName today).toList =
        "bk/".toList ++ (backupName context.now.date.previous).toList := by
      rw [String.toList_append, writtenName, same]
    rw [target]
    exact anchors_header .live context
  · exact fun root date other =>
      ⟨Layout.follow_livePage root date, Layout.follow_backup root date other⟩
  · exact fun _ _ same => Place.date_of_name same

/-- On 1 March of a leap year the page of 29 February is written, with links to the days around it. -/
theorem backups_are_linked_of_leap_day :
    let march : Context := ⟨.startOfDay ⟨2024, 3, 1, by decide⟩, "https://wiki.example.com", 5⟩
    (∀ error, ¬ KeepingFails (inHour 10) early.1 early.2 error) ∧
    (∃ volume' page, volume'.fileAt? "output/bk/20240501.html" = some page ∧
      volume' = (endOf (rollover (inHour 10)) early.1 early.2).2.2) ∧
    writtenName march.now = "20240229.html" ∧ Plain march.manualUrl.toList ∧
    anchors (header .backup march) =
      [("20240228.html".toList, dayBefore), ("20240301.html".toList, dayAfter), manualLink march] := by
  intro march
  obtain ⟨rolls, _, _, links, _⟩ := backups_are_linked
  have keeps (error : KeeperError) : ¬ KeepingFails (inHour 10) early.1 early.2 error :=
    rollsOver_early.keeps error
  obtain ⟨_, _, volume', ends, _, _, written⟩ := rolls _ _ _ keeps
  have place : Path.join early.1.layout.backupDirectory (writtenName (inHour 10)) =
      "output/bk/20240501.html" := by decide +kernel
  have plain : Plain march.manualUrl.toList := by decide
  let before : Instant := .startOfDay ⟨2024, 2, 29, by decide⟩
  let after : Instant := .startOfDay ⟨2024, 3, 2, by decide⟩
  obtain ⟨_, read, only⟩ := links march before after (by decide) (by decide)
  have namedBefore : writtenName before = "20240228.html" := by decide
  have namedAfter : writtenName after = "20240301.html" := by decide
  rw [only plain, namedBefore, namedAfter] at read
  rw [place] at written
  exact ⟨keeps, ⟨volume', _, written, by rw [ends]⟩, by decide, plain, read⟩

end Keeper

end Whereabouts
