-- Where writers of results put their files: in the folder they were made with, and only for the
-- format that has files. The rows of databases at other places stay as they are.
import CorpusSearch.Proofs.Files.Rows
import CorpusSearch.Proofs.Log.Traced
import CorpusSearch.Report.Writer

namespace CorpusSearch.Report

open Corpus Files

namespace Writer

/-- The folder of the files of a writer, none when it writes no files. -/
def folder? : Writer → Option Path
  | .console => none
  | .file folder _ => some folder

def folders (writers : List Writer) : List Path := writers.filterMap folder?

theorem mem_folders_cons {writer : Writer} {writers : List Writer} {folder : Path} :
    folder ∈ folders (writer :: writers) ↔
      writer.folder? = some folder ∨ folder ∈ folders writers := by
  simp [folders, List.mem_filterMap]

/-- Writers of named formats put files into the given folder, and only when the format with files is
named. -/
theorem mem_folders_ofNames {folder other : Path} {names : List Text} {writers : List Writer}
    (h : ofNames folder names = .ok writers) (hmem : other ∈ folders writers) :
    other = folder ∧ Format.json.name ∈ names := by
  induction names generalizing writers with
  | nil => cases h; simp [folders] at hmem
  | cons name names ih =>
    unfold ofNames at h
    cases hformat : Format.ofName? name with
    | none => rw [hformat] at h; cases h
    | some format =>
      rw [hformat] at h
      cases hrest : ofNames folder names with
      | error fault => rw [hrest] at h; cases h
      | ok rest =>
        rw [hrest] at h
        cases h
        rcases mem_folders_cons.mp hmem with hother | hin
        · cases format with
          | console => cases hother
          | json =>
            cases hother
            have hname : Format.json.name = name := by
              have := List.find?_some hformat
              simpa using this
            exact ⟨rfl, hname ▸ List.mem_cons_self ..⟩
        · obtain ⟨hfolder, hjson⟩ := ih hrest hin
          exact ⟨hfolder, List.mem_cons_of_mem _ hjson⟩

theorem folder?_of_write {result : Result RawText} {writer after : Writer}
    (h : (writer.write result).value = .ok after) : after.folder? = writer.folder? := by
  cases writer with
  | console =>
    unfold write at h
    cases htext : text? (result.map RawText.shown) with
    | error fault => rw [htext] at h; cases h
    | ok text => rw [htext] at h; cases h; rfl
  | file folder results => cases h; rfl

theorem folders_writeAll (result : Result RawText) (writers : List Writer) :
    folders (writeAll result writers).value.1 = folders writers := by
  induction writers with
  | nil => rfl
  | cons writer writers ih =>
    unfold writeAll
    rw [Traced.value_bind]
    cases hwrite : (writer.write result).value with
    | error fault => rfl
    | ok after =>
      change folders (after :: (writeAll result writers).value.1) = folders (writer :: writers)
      simp only [folders, List.filterMap_cons, folder?_of_write hwrite] at ih ⊢
      rw [ih]

/-! ## Files -/

variable {disk : Disk} {place : Place} {action stamp : Text}

/-- Where the folder can be made, the end of an action is the writing of the file. -/
theorem finish_of_makeFolders {folder : Path} {result : Result RawText}
    {results : List (Result RawText)} {made : Disk}
    (h : disk.makeFolders folder = (made, .ok ())) :
    finish action stamp disk (.file folder (result :: results)) =
      Prod.map id (Except.map fun _ => some (filePath folder action stamp))
        (made.writeEncoded (filePath folder action stamp) (fileContent (result :: results))) := by
  unfold finish
  dsimp only
  rw [h]
  dsimp only
  rcases made.writeEncoded (filePath folder action stamp) (fileContent (result :: results)) with
    ⟨after, fault | _⟩
  · rfl
  · rfl

/-- The file of a writer leaves the rows at every place but its own. -/
theorem sameRows_finish {writer : Writer}
    (h : ∀ folder, writer.folder? = some folder →
      (filePath folder action stamp).target disk.here ≠ place) :
    SameRows place disk (writer.finish action stamp disk).1 := by
  rcases writer with _ | ⟨folder, _ | ⟨result, results⟩⟩
  · exact .refl place disk
  · exact .refl place disk
  · have hfolders := SameRows.makeFolders place disk folder
    rcases hmade : disk.makeFolders folder with ⟨made, fault | _⟩
    · rw [hmade] at hfolders
      unfold finish
      dsimp only
      rw [hmade]
      exact hfolders
    · rw [hmade] at hfolders
      rw [finish_of_makeFolders hmade]
      refine hfolders.trans (.writeEncoded _ ?_)
      rw [hfolders.here]
      exact h folder rfl

theorem sameRows_finishAll {writers : List Writer}
    (h : ∀ folder ∈ folders writers, (filePath folder action stamp).target disk.here ≠ place) :
    SameRows place disk (finishAll action stamp disk writers).1 := by
  induction writers generalizing disk with
  | nil => exact .refl place disk
  | cons writer writers ih =>
    have hfirst : SameRows place disk (writer.finish action stamp disk).1 :=
      sameRows_finish fun folder hfolder => h folder (mem_folders_cons.mpr (.inl hfolder))
    unfold finishAll
    split
    · rename_i heq
      rw [heq] at hfirst
      exact hfirst
    · rename_i after _ heq
      rw [heq] at hfirst
      refine hfirst.trans (ih fun folder hfolder => ?_)
      rw [hfirst.here]
      exact h folder (mem_folders_cons.mpr (.inr hfolder))

end Writer

end CorpusSearch.Report
