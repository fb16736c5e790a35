-- The texts of the files on a disk, and what is added to them. Folders that are made leave all
-- texts as they are, and a text that is added to a file goes to the end of that file and of no
-- other.
import CorpusSearch.Proofs.Files.Writable

namespace CorpusSearch.Files

/-! ## Texts -/

/-- The text of a node; only files have one. -/
def Node.text : Node → Text
  | .file content => content
  | .folder | .database _ => []

namespace Disk

/-- The text of the file at a place, nothing where no file stands. -/
def textAt (place : Place) (disk : Disk) : Text := ((disk.node? place).map Node.text).getD []

def HasFile (place : Place) (disk : Disk) : Prop :=
  ∃ content, disk.node? place = some (.file content)

variable {disk : Disk} {place p : Place}

theorem HasFile.node?_ne_folder (h : disk.HasFile place) : disk.node? place ≠ some .folder := by
  obtain ⟨content, hnode⟩ := h
  rw [hnode]
  exact nofun

theorem textAt_of_node? {content : Text} (h : disk.node? place = some (.file content)) :
    disk.textAt place = content := by
  rw [textAt, h]
  rfl

/-! ## Adding to a file -/

/-- What is added to where no folder stands is a file, with what it held before in front. -/
theorem node?_appendAt (hp : disk.node? p ≠ some .folder) (more : Text) :
    (disk.appendAt p more).node? p = some (.file (disk.textAt p ++ more)) := by
  unfold appendAt textAt
  cases hnode : disk.node? p with
  | none => exact node?_put hp _
  | some node =>
    cases node with
    | folder => exact absurd hnode hp
    | file content => exact node?_put hp _
    | database rows => exact node?_put hp _

theorem node?_appendAt_of_ne (h : p ≠ place) (more : Text) :
    (disk.appendAt p more).node? place = disk.node? place := by
  unfold appendAt
  split
  · exact node?_put_of_ne h _
  · rfl
  · exact node?_put_of_ne h _

theorem textAt_appendAt (hp : disk.node? p ≠ some .folder) (more : Text) (place : Place) :
    (disk.appendAt p more).textAt place =
      disk.textAt place ++ if p = place then more else [] := by
  split
  · rename_i heq
    subst heq
    exact textAt_of_node? (node?_appendAt hp more)
  · rename_i hne
    rw [List.append_nil, textAt, node?_appendAt_of_ne hne, textAt]

theorem here_appendAt (disk : Disk) (p : Place) (more : Text) :
    (disk.appendAt p more).here = disk.here := by
  unfold appendAt
  split <;> rfl

theorem HasFile.appendAt (h : disk.HasFile place) (hp : disk.node? p ≠ some .folder) (more : Text) :
    (disk.appendAt p more).HasFile place := by
  by_cases heq : p = place
  · subst heq
    exact ⟨_, node?_appendAt hp more⟩
  · rwa [HasFile, node?_appendAt_of_ne heq]

end Disk

/-! ## Changes that leave the texts -/

/-- A change of a disk that leaves all files with their texts, and at most makes new ones without
any. -/
structure SameTexts (disk after : Disk) : Prop where
  here : after.here = disk.here
  text : ∀ place, after.textAt place = disk.textAt place
  file : ∀ place, disk.HasFile place → after.HasFile place

namespace SameTexts

variable {disk after : Disk} {p : Place}

theorem refl (disk : Disk) : SameTexts disk disk := ⟨rfl, fun _ => rfl, fun _ h => h⟩

theorem trans {last : Disk} (h : SameTexts disk after) (h' : SameTexts after last) :
    SameTexts disk last where
  here := h'.here.trans h.here
  text place := (h'.text place).trans (h.text place)
  file place hfile := h'.file place (h.file place hfile)

/-- Folders that are made where nothing stood leave all texts as they are. -/
theorem of_onlyFolders (h : OnlyFolders disk after) : SameTexts disk after := by
  refine ⟨h.here, fun place => ?_, fun place ⟨content, hnode⟩ => ?_⟩
  · unfold Disk.textAt
    rcases h.node place with hsame | ⟨hnone, hmade⟩
    · rw [hsame]
    · rw [hnone, hmade]
      rfl
  · rcases h.node place with hsame | ⟨hnone, -⟩
    · exact ⟨content, hsame.trans hnode⟩
    · rw [hnone] at hnode
      cases hnode

/-- A file that is opened where no folder stands is there, and nothing is added to it. -/
theorem appendAt_nil (hp : disk.node? p ≠ some .folder) : SameTexts disk (disk.appendAt p []) where
  here := disk.here_appendAt p []
  text place := by rw [Disk.textAt_appendAt hp, ite_self, List.append_nil]
  file _ hfile := hfile.appendAt hp []

end SameTexts

end CorpusSearch.Files
