import Mathlib.Data.List.Infix
import Whereabouts.Archive.Layout
import Whereabouts.Proofs.Text.Decimal
import Whereabouts.Proofs.Text.Find
/-!
# Paths that differ

Two paths differ if one ends in a way the other does not. A joined path ends in the name that was
joined to it, so the files of an archive are told apart by their names, whatever the directories are.
-/
namespace Whereabouts

open Whereabouts.Text

namespace Path

/-! ### Ends of paths -/

theorem suffix_join (directory name : String) : name.toList <:+ (join directory name).toList := by
  rw [join]
  split
  · exact List.suffix_refl _
  · split
    · exact ⟨directory.toList, by simp⟩
    · exact ⟨directory.toList ++ ['/'], by simp⟩

theorem join_injective (directory : String) : Function.Injective (join directory) := by
  intro one two same
  unfold join at same
  split at same
  · exact same
  · split at same
    · exact (String.append_right_inj _).mp same
    · exact (String.append_right_inj _).mp same

/-- A name joined to a directory that was joined itself stands behind a slash. -/
theorem join_join (root name : String) {inner : String} (named : inner ≠ "")
    (open_ : inner.toList.getLast? ≠ some '/') :
    join (join root inner) name = join root inner ++ "/" ++ name := by
  obtain ⟨before, shape⟩ := suffix_join root inner
  have present : inner.toList ≠ [] := fun empty => named (String.toList_eq_nil_iff.mp empty)
  have nonempty : join root inner ≠ "" := by
    intro empty
    rw [empty] at shape
    exact present (List.append_eq_nil_iff.mp shape).2
  have last : (join root inner).toList.getLast? ≠ some '/' := by
    rw [← shape, List.getLast?_append_of_ne_nil _ present]
    exact open_
  rw [join, if_neg nonempty, if_neg last]

theorem ne_of_suffix {one two : String} {ending ending' : List Char} (ofOne : ending <:+ one.toList)
    (ofTwo : ending' <:+ two.toList) (shorter : ending.length ≤ ending'.length)
    (differ : ¬ ending <:+ ending') : one ≠ two := by
  rintro rfl
  exact differ (List.suffix_of_suffix_length_le ofOne ofTwo shorter)

/-! ### Names -/

/-- A name without a slash is one piece. -/
private theorem splitOn_of_plain {name : List Char} (plain : '/' ∉ name) :
    splitOn (· == '/') name = [name] := by
  apply splitOn_of_passes
  intro c member
  simpa using fun slash : c = '/' => plain (slash ▸ member)

theorem lastName_of_suffix {path name : String} (ends : '/' :: name.toList <:+ path.toList)
    (plain : '/' ∉ name.toList) : lastName path = name := by
  obtain ⟨before, shape⟩ := ends
  rw [lastName, ← shape, splitOn_append before (by decide), splitOn_of_plain plain,
    List.getLast?_concat, Option.getD_some, String.ofList_toList]

private theorem prefixes_ne_nil (path : String) : prefixes path ≠ [] := by
  obtain ⟨pieces, piece, shape⟩ :=
    (List.eq_nil_or_concat (splitOn (· == '/') path.toList)).resolve_left (splitOn_ne_nil _)
  rw [prefixes, shape, List.concat_eq_append, List.foldl_append, List.foldl_cons, List.foldl_nil]
  split <;> simp

/-- What lies around an entry of a directory is the directory and what lies around that. -/
theorem dropLast_prefixes (directory : String) {name : String} (plain : '/' ∉ name.toList) :
    (prefixes (directory ++ "/" ++ name)).dropLast = prefixes directory := by
  have pieces : splitOn (· == '/') (directory ++ "/" ++ name).toList =
      splitOn (· == '/') directory.toList ++ [name.toList] := by
    have shape : (directory ++ "/" ++ name).toList = directory.toList ++ '/' :: name.toList := by simp
    rw [shape, splitOn_append _ (by decide), splitOn_of_plain plain]
  rw [prefixes, prefixes, pieces, List.foldl_append, List.foldl_cons, List.foldl_nil]
  -- There is a piece before the name, so the name makes one path more.
  split
  next nothing => exact absurd (List.getLast?_eq_none_iff.mp nothing) (prefixes_ne_nil directory)
  next outer _ => exact List.dropLast_concat

/-! ### Extensions -/

/-- A name with an extension ends in a point and the extension. -/
theorem suffix_of_hasExtension {extension name : String} (has : hasExtension extension name = true) :
    ('.' :: extension.toList) <:+ name.toList := by
  unfold hasExtension at has
  split at has
  · cases has
  · cases has
  next stem _ found =>
    obtain ⟨c, rest, shape, stop, _⟩ := beforeLast?_eq_some found
    -- The extension is what stands behind the last point.
    have point : c = '.' := by simpa using stop
    have same : rest = extension.toList := by simpa [shape] using has
    exact ⟨stem, by rw [shape, point, same]⟩

end Path

/-! ### The files of an archive -/

namespace Archive.Layout

open Calendar

/-- The files in which a table is stored. -/
def IsTable (layout : Layout) (path : String) : Prop :=
  path = layout.roster ∨ path = layout.notices ∨ path = layout.alternates

theorem suffix_compact (date : Date) : [digit date.day] <:+ date.compact := by
  refine ⟨yearText date.year ++ fixed 2 date.month ++ fixed 1 (date.day / 10), ?_⟩
  simp [Date.compact, Date.written, fixed]

/-- No table is a file whose path ends as no table's does. -/
private theorem not_isTable_of_suffix {layout : Layout} {path : String} {ending : List Char}
    (ends : ending <:+ path.toList) (short : ending.length ≤ 11)
    (differs : ∀ name ∈ ["status.json", "absence.json", "alternate.bin"], ¬ ending <:+ name.toList) :
    ¬ layout.IsTable path := by
  -- Of two ends of one path the shorter one ends the longer one.
  have lengths : ∀ name ∈ ["status.json", "absence.json", "alternate.bin"],
      11 ≤ name.toList.length := by decide
  have differ (name : String) (listed : name ∈ ["status.json", "absence.json", "alternate.bin"]) :
      path ≠ layout.state name :=
    Path.ne_of_suffix ends (Path.suffix_join layout.stateDirectory name)
      (Nat.le_trans short (lengths name listed)) (differs name listed)
  rintro (same | same | same)
  · exact differ "status.json" (by decide) same
  · exact differ "absence.json" (by decide) same
  · exact differ "alternate.bin" (by decide) same

variable (layout : Layout)

theorem roster_ne_notices : layout.roster ≠ layout.notices :=
  Path.ne_of_suffix (Path.suffix_join _ _) (Path.suffix_join _ _) (by decide) (by decide)

theorem roster_ne_alternates : layout.roster ≠ layout.alternates :=
  Path.ne_of_suffix (Path.suffix_join _ _) (Path.suffix_join _ _) (by decide) (by decide)

theorem notices_ne_alternates : layout.notices ≠ layout.alternates :=
  Path.ne_of_suffix (Path.suffix_join _ _) (Path.suffix_join _ _) (by decide) (by decide)

theorem not_isTable_rejections : ¬ layout.IsTable layout.rejections :=
  not_isTable_of_suffix ((show ".txt".toList <:+ "rejected.txt".toList by decide).trans
    (Path.suffix_join _ _)) (by decide) (by decide)

theorem suffix_backup (date : Date) :
    date.compact ++ ".html".toList <:+ (layout.backup date).toList := by
  have name : (String.ofList (date.compact ++ ".html".toList)).toList =
      date.compact ++ ".html".toList := String.toList_ofList
  exact name ▸ Path.suffix_join _ _

theorem suffix_snapshot (date : Date) :
    date.compact ++ ".json".toList <:+ (layout.snapshot date).toList := by
  have name : (String.ofList (date.compact ++ ".json".toList)).toList =
      date.compact ++ ".json".toList := String.toList_ofList
  exact name ▸ Path.suffix_join _ _

theorem not_isTable_backup (date : Date) : ¬ layout.IsTable (layout.backup date) :=
  not_isTable_of_suffix ((List.suffix_append _ _).trans (layout.suffix_backup date)) (by decide)
    (by decide)

theorem not_isTable_snapshot (date : Date) : ¬ layout.IsTable (layout.snapshot date) := by
  have ends : digit date.day :: ".json".toList <:+ (layout.snapshot date).toList := by
    obtain ⟨before, shape⟩ := suffix_compact date
    refine List.IsSuffix.trans ⟨before, ?_⟩ (layout.suffix_snapshot date)
    rw [← shape, List.append_assoc, List.singleton_append]
  -- A digit stands where the names of tables have a letter.
  have differ : ∀ n < 10, ∀ name ∈ ["status.json", "absence.json", "alternate.bin"],
      ¬ (digit n :: ".json".toList) <:+ name.toList := by
    decide
  rw [← digit_mod] at ends
  exact not_isTable_of_suffix ends (by simp) (differ _ (Nat.mod_lt _ (by decide)))

theorem not_isTable_mail {directory name : String} (mail : Path.hasExtension "eml" name = true) :
    ¬ layout.IsTable (Path.join directory name) :=
  not_isTable_of_suffix ((Path.suffix_of_hasExtension mail).trans (Path.suffix_join directory name))
    (by decide) (by decide)

theorem not_isTable_livePage (root : String) : ¬ (below root).IsTable (below root).livePage :=
  not_isTable_of_suffix ((show ".html".toList <:+ "output/index.html".toList by decide).trans
    (Path.suffix_join _ _)) (by decide) (by decide)

theorem not_isTable_absencePage (root : String) : ¬ (below root).IsTable (below root).absencePage :=
  not_isTable_of_suffix ((show ".html".toList <:+ "output/absence.html".toList by decide).trans
    (Path.suffix_join _ _)) (by decide) (by decide)

end Archive.Layout

end Whereabouts
