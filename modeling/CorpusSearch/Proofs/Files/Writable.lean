-- Folders that are made and files that are written into them. Whatever is put where no folder
-- stands leaves the way to every other place open, so what could be written before can still be
-- written after any number of files, and a file holds what was written last.
import CorpusSearch.Proofs.Files.Rows

namespace CorpusSearch.Files.Disk

variable {disk made : Disk} {p q place : Place} {path folder : Path} {node : Node}

/-! ## The way to a place -/

/-- Only folders are passed through, and they stay when a node is put elsewhere. -/
theorem follow_put {names : List Text} (hp : disk.node? p ≠ some .folder)
    (h : disk.follow q names = .ok place) : (disk.put p node).follow q names = .ok place := by
  induction names generalizing q with
  | nil => exact h
  | cons name names ih =>
    unfold follow at h ⊢
    cases hq : disk.node? q with
    | none =>
      rw [hq] at h
      cases h
    | some found =>
      have hpq : p ≠ q := by
        rintro rfl
        rw [hq] at h hp
        cases found with
        | folder => exact hp rfl
        | file => cases h
        | database => cases h
      rw [node?_put_of_ne hpq, hq]
      rw [hq] at h
      cases found with
      | folder =>
        dsimp only at h ⊢
        split at h
        · cases h
        · rename_i hshort
          rw [if_neg hshort]
          exact ih h
      | file => cases h
      | database => cases h

theorem place_put (hp : disk.node? p ≠ some .folder) (h : disk.place path = .ok place) :
    (disk.put p node).place path = .ok place := by
  unfold Disk.place at h ⊢
  split at h
  · cases h
  · split at h
    · cases h
    · rename_i hzero hshort
      rw [if_neg hzero, if_neg hshort]
      exact follow_put hp h

theorem node?_put (hp : disk.node? p ≠ some .folder) (node : Node) :
    (disk.put p node).node? p = some node := by
  refine node?_put_self ?_ node
  rw [Bool.eq_false_iff]
  intro hprefix
  exact hp (node?_of_isPrefixOf hprefix)

/-! ## Folders -/

theorem isFolder_iff :
    disk.isFolder path = true ↔ ∃ place, disk.place path = .ok place ∧
      disk.node? place = some .folder := by
  unfold isFolder at?
  rw [beq_iff_eq]
  cases disk.place path with
  | error => exact ⟨nofun, nofun⟩
  | ok place => exact ⟨fun h => ⟨place, rfl, h⟩, fun ⟨_, hplace, h⟩ => by cases hplace; exact h⟩

theorem isFolder_put (hp : disk.node? p ≠ some .folder) (h : disk.isFolder path = true) :
    (disk.put p node).isFolder path = true := by
  obtain ⟨place, hplace, hnode⟩ := isFolder_iff.mp h
  have hne : p ≠ place := by
    rintro rfl
    exact hp hnode
  exact isFolder_iff.mpr ⟨place, place_put hp hplace, by rw [node?_put_of_ne hne, hnode]⟩

theorem isFolder_of_makeFolder (h : disk.makeFolder path = .ok made) :
    made.isFolder path = true := by
  unfold makeFolder at h
  cases hplace : disk.place path with
  | error cause =>
    rw [hplace] at h
    cases h
  | ok place =>
    rw [hplace] at h
    cases hnode : disk.node? place with
    | some node =>
      simp only [bind, Except.bind, hnode] at h
      cases h
    | none =>
      simp only [bind, Except.bind, hnode] at h
      cases h
      have hp : disk.node? place ≠ some .folder := hnode ▸ nofun
      exact isFolder_iff.mpr ⟨place, place_put hp hplace, node?_put hp .folder⟩

/-- A path without names is the root or the working folder, which are there in any case. -/
def HasFolder (disk : Disk) (path : Path) : Prop := path.names = [] ∨ disk.isFolder path = true

theorem HasFolder.put (h : disk.HasFolder path) (hp : disk.node? p ≠ some .folder) :
    (disk.put p node).HasFolder path := h.imp_right (isFolder_put hp)

theorem isFolder_of_makeFoldersUp {root name : Text} {above : List Text}
    (h : disk.makeFoldersUp root (name :: above) = (made, .ok ())) :
    made.isFolder { root, names := (name :: above).reverse } = true := by
  unfold makeFoldersUp at h
  dsimp only at h
  split at h
  · rename_i hmade
    cases h
    exact isFolder_of_makeFolder hmade
  · split at h
    · cases h
    · split at h
      · rename_i hmade
        cases h
        unfold makeFolderOnce at hmade
        split at hmade
        · split at hmade
          · rename_i hfolder
            cases hmade
            exact hfolder
          · cases hmade
        · exact isFolder_of_makeFolder hmade
      · cases h
  · obtain ⟨rfl, hresult⟩ := Prod.mk.inj h
    split at hresult
    · assumption
    · cases hresult

theorem hasFolder_of_makeFolders (h : disk.makeFolders path = (made, .ok ())) :
    made.HasFolder path := by
  unfold makeFolders at h
  cases hnames : path.names.reverse with
  | nil => exact .inl (List.reverse_eq_nil_iff.mp hnames)
  | cons name above =>
    rw [hnames] at h
    refine .inr ?_
    have hfolder := isFolder_of_makeFoldersUp h
    rw [← hnames, List.reverse_reverse] at hfolder
    exact hfolder

theorem makeFolders_of_hasFolder (h : disk.HasFolder path) :
    disk.makeFolders path = (disk, .ok ()) := by
  unfold makeFolders
  cases hnames : path.names.reverse with
  | nil => rfl
  | cons name above =>
    rcases h with hnone | hfolder
    · rw [hnone] at hnames
      cases hnames
    · have hpath : ({ root := path.root, names := (name :: above).reverse } : Path) = path := by
        rw [← hnames, List.reverse_reverse]
      obtain ⟨place, hplace, hnode⟩ := isFolder_iff.mp hfolder
      have hmake : disk.makeFolder path = .error .exists := by
        unfold makeFolder
        simp only [hplace, bind, Except.bind, hnode]
      unfold makeFoldersUp
      dsimp only
      rw [hpath, hmake]
      dsimp only
      rw [if_pos hfolder]

/-! ## Files -/

theorem place_of_writable (h : disk.writable path = .ok place) :
    disk.place path = .ok place ∧ disk.node? place ≠ some .folder := by
  unfold writable at h
  split at h
  · cases h
  · split at h
    · cases h
    · cases h
      exact ⟨‹_›, ‹_›⟩

theorem writable_of_place (hplace : disk.place path = .ok place)
    (hnode : disk.node? place ≠ some .folder) : disk.writable path = .ok place := by
  unfold writable
  rw [hplace]
  exact if_neg hnode

/-- Where a file can be written, one is written in any case, and it is empty when its text cannot be
encoded. -/
theorem writeEncoded_of_writable (h : disk.writable path = .ok place)
    (content : Except RawText.Fault Text) :
    disk.writeEncoded path content =
      (disk.put place (.file (content.toOption.getD [])),
        (content.mapError .text).map fun _ => ()) := by
  unfold writeEncoded writeText
  rw [h]
  rfl

/-- A file leaves every other file to be written, also at its own place. -/
theorem writable_put {content : Text} (hp : disk.node? p ≠ some .folder)
    (h : disk.writable path = .ok place) :
    (disk.put p (.file content)).writable path = .ok place := by
  obtain ⟨hplace, hnode⟩ := place_of_writable h
  refine writable_of_place (place_put hp hplace) ?_
  by_cases hpp : p = place
  · subst hpp
    rw [node?_put hp]
    exact nofun
  · rwa [node?_put_of_ne hpp]

theorem readText_put {content : Text} (h : disk.writable path = .ok place) :
    (disk.put place (.file content)).readText path = .ok content := by
  obtain ⟨hplace, hnode⟩ := place_of_writable h
  unfold readText
  rw [place_put hnode hplace]
  dsimp only
  rw [node?_put hnode]

/-! ## Files in a folder -/

/-- The folder is there or can be made, and then nothing keeps a file from the path. -/
def CanWrite (disk : Disk) (folder path : Path) : Prop :=
  ∃ made place, disk.makeFolders folder = (made, .ok ()) ∧ made.writable path = .ok place

theorem canWrite_of_hasFolder (hfolder : disk.HasFolder folder)
    (h : disk.writable path = .ok place) : disk.CanWrite folder path :=
  ⟨disk, place, makeFolders_of_hasFolder hfolder, h⟩

/-- In a folder that is there, no file keeps a later one from being written. -/
theorem canWrite_writeEncoded (hfolder : disk.HasFolder folder)
    (h : disk.writable path = .ok place) (other : Path) (content : Except RawText.Fault Text) :
    (disk.writeEncoded other content).1.CanWrite folder path := by
  cases hother : disk.writable other with
  | error fault =>
    unfold writeEncoded writeText
    rw [hother]
    exact canWrite_of_hasFolder hfolder h
  | ok p =>
    rw [writeEncoded_of_writable hother]
    have hnode := (place_of_writable hother).2
    exact canWrite_of_hasFolder (hfolder.put hnode) (writable_put hnode h)

/-- The folder is made once, and later files are written as they would have been at first. -/
theorem CanWrite.makeFolders (h : disk.CanWrite folder path)
    (hmade : disk.makeFolders folder = (made, .ok ())) :
    made.HasFolder folder ∧ ∃ place, made.writable path = .ok place := by
  obtain ⟨made', place, hmade', hwritable⟩ := h
  obtain rfl : made' = made := congrArg Prod.fst (hmade'.symm.trans hmade)
  exact ⟨hasFolder_of_makeFolders hmade, place, hwritable⟩

end CorpusSearch.Files.Disk
