import Whereabouts.Archive.Store
import Whereabouts.Proofs.Calendar.ReadBack
import Whereabouts.Proofs.Disk.Path
/-!
# Places of an archive

Everything that an archive keeps has a place, and each place its own file. In the usual layout the name
of a file tells the place: a name without a digit has no date, and any other is a date and an extension.
-/
namespace Whereabouts.Archive

open Whereabouts.Calendar

/-- What the archive keeps in one file. -/
inductive Place where
  | roster
  | notices
  | alternates
  | rejections
  | livePage
  | absencePage
  | snapshot (date : Date)
  | backup (date : Date)
deriving DecidableEq

namespace Place

def ofPublication : Publication → Place
  | .live => livePage
  | .absence => absencePage
  | .backup date => backup date

theorem ofPublication_injective : Function.Injective ofPublication := by
  intro one two same
  cases one <;> cases two <;> simp_all [ofPublication]

def file (layout : Layout) : Place → String
  | roster => layout.roster
  | notices => layout.notices
  | alternates => layout.alternates
  | rejections => layout.rejections
  | livePage => layout.livePage
  | absencePage => layout.absencePage
  | snapshot date => layout.snapshot date
  | backup date => layout.backup date

theorem file_ofPublication (layout : Layout) (publication : Publication) :
    (ofPublication publication).file layout = pagePath layout publication := by
  cases publication <;> rfl

/-- The name of the file in its directory. -/
def name : Place → String
  | roster => "status.json"
  | notices => "absence.json"
  | alternates => "alternate.bin"
  | rejections => "rejected.txt"
  | livePage => "index.html"
  | absencePage => "absence.html"
  | snapshot date => String.ofList (date.compact ++ ".json".toList)
  | backup date => String.ofList (date.compact ++ ".html".toList)

/-- The places that have no date. -/
def undated : List Place := [roster, notices, alternates, rejections, livePage, absencePage]

theorem slash_not_mem_name (place : Place) : '/' ∉ place.name.toList := by
  have constants : ∀ place ∈ undated, '/' ∉ place.name.toList := by decide
  have dated (date : Date) {extension : List Char} (plain : '/' ∉ extension) :
      '/' ∉ (String.ofList (date.compact ++ extension)).toList := by
    simp [date.slash_not_mem_compact, plain]
  cases place with
  | snapshot date => exact dated date (by decide)
  | backup date => exact dated date (by decide)
  | roster | notices | alternates | rejections | livePage | absencePage =>
    exact constants _ (by decide)

/-- In the usual layout every file stands behind a slash. -/
theorem suffix_file (root : String) (place : Place) :
    '/' :: place.name.toList <:+ (place.file (.below root)).toList := by
  have joined (inner : String) (named : inner ≠ "") (open_ : inner.toList.getLast? ≠ some '/')
      (name : String) : '/' :: name.toList <:+ (Path.join (Path.join root inner) name).toList := by
    rw [Path.join_join root name named open_]
    exact ⟨(Path.join root inner).toList, by simp⟩
  cases place with
  | roster | notices | alternates | rejections => exact joined "state" (by decide) (by decide) _
  | livePage =>
    have named : "/index.html".toList <:+ "output/index.html".toList := by decide
    exact named.trans (Path.suffix_join root _)
  | absencePage =>
    have named : "/absence.html".toList <:+ "output/absence.html".toList := by decide
    exact named.trans (Path.suffix_join root _)
  | snapshot date => exact joined "state/bk" (by decide) (by decide) _
  | backup date => exact joined "output/bk" (by decide) (by decide) _

/-- A place without a date has no digit in its name. -/
private theorem name_ne_of_undated {place : Place} (plain : place ∈ undated) (date : Date)
    (extension : List Char) : place.name ≠ String.ofList (date.compact ++ extension) := by
  have letters : ∀ place ∈ undated, place.name.toList.any Text.isDigit = false := by decide
  intro same
  have inside : Text.digit date.day ∈ place.name.toList := by
    rw [same, String.toList_ofList]
    exact List.mem_append_left _ ((Layout.suffix_compact date).subset List.mem_cons_self)
  simpa using List.any_eq_false.mp (letters place plain) _ inside

/-- Names that are made of the same extension tell their dates. -/
theorem date_of_name {one two : Date} {extension : List Char}
    (same : String.ofList (one.compact ++ extension) = String.ofList (two.compact ++ extension)) :
    one = two :=
  Date.compact_injective (List.append_cancel_right (String.ofList_injective same))

theorem name_injective : Function.Injective name := by
  have constants : ∀ one ∈ undated, ∀ two ∈ undated, one.name = two.name → one = two := by decide
  have extensions (one two : Date) : (snapshot one).name ≠ (backup two).name := by
    intro same
    have last := congrArg List.getLast? (String.ofList_injective same)
    simp at last
  intro one two same
  cases one with
  | snapshot date =>
    cases two with
    | snapshot date' => rw [date_of_name same]
    | backup date' => exact absurd same (extensions date date')
    | roster | notices | alternates | rejections | livePage | absencePage =>
      exact absurd same.symm (name_ne_of_undated (by decide) date _)
  | backup date =>
    cases two with
    | snapshot date' => exact absurd same.symm (extensions date' date)
    | backup date' => rw [date_of_name same]
    | roster | notices | alternates | rejections | livePage | absencePage =>
      exact absurd same.symm (name_ne_of_undated (by decide) date _)
  | roster | notices | alternates | rejections | livePage | absencePage =>
    cases two with
    | snapshot date | backup date => exact absurd same (name_ne_of_undated (by decide) date _)
    | roster | notices | alternates | rejections | livePage | absencePage =>
      exact constants _ (by decide) _ (by decide) same

theorem file_injective (root : String) : Function.Injective (file (.below root)) := by
  intro one two same
  have nameOne := Path.lastName_of_suffix (suffix_file root one) one.slash_not_mem_name
  have nameTwo := Path.lastName_of_suffix (suffix_file root two) two.slash_not_mem_name
  rw [same, nameTwo] at nameOne
  exact name_injective nameOne.symm

end Place

/-! ### Dates in any layout -/

theorem Layout.snapshot_injective (layout : Layout) : Function.Injective layout.snapshot :=
  fun _ _ same => Place.date_of_name (Path.join_injective _ same)

theorem Layout.backup_injective (layout : Layout) : Function.Injective layout.backup :=
  fun _ _ same => Place.date_of_name (Path.join_injective _ same)

theorem Layout.backup_ne_snapshot (layout : Layout) (one two : Date) :
    layout.backup one ≠ layout.snapshot two :=
  Path.ne_of_suffix ((List.suffix_append _ _).trans (layout.suffix_backup one))
    ((List.suffix_append _ _).trans (layout.suffix_snapshot two)) (by decide) (by decide)

end Whereabouts.Archive
