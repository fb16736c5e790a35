-- The rows of a database on a disk, and what leaves them as they are: folders are only made where
-- nothing stands, and a file is only written at the place that its path leads to.
import CorpusSearch.Files.Disk

namespace CorpusSearch.Files

/-! ## Places -/

/-- The place that a path leads to, whatever stands on the way there. -/
def Path.target (here : Place) (path : Path) : Place :=
  path.names.foldl (fun place name => if name = ['.', '.'] then place.dropLast else place ++ [name])
    (if path.root.isEmpty then here else [])

namespace Disk

variable {disk : Disk} {place p : Place}

theorem eq_foldl_of_follow {names : List Text} (h : disk.follow p names = .ok place) :
    place = names.foldl
      (fun place name => if name = ['.', '.'] then place.dropLast else place ++ [name]) p := by
  induction names generalizing p with
  | nil => cases h; rfl
  | cons name names ih =>
    unfold follow at h
    split at h
    · cases h
    · split at h
      · cases h
      · exact ih h
    · cases h

theorem eq_target_of_place {path : Path} (h : disk.place path = .ok place) :
    place = path.target disk.here := by
  unfold Disk.place at h
  split at h
  · cases h
  · split at h
    · cases h
    · exact eq_foldl_of_follow h

theorem eq_target_of_writable {path : Path} (h : disk.writable path = .ok place) :
    place = path.target disk.here := by
  unfold writable at h
  split at h
  · cases h
  · split at h
    · cases h
    · cases h
      exact eq_target_of_place ‹_›

/-! ## Nodes -/

theorem lookup_filter_ne (h : p ≠ place) (nodes : List (Place × Node)) :
    (nodes.filter fun entry => entry.1 ≠ p).lookup place = nodes.lookup place := by
  induction nodes with
  | nil => rfl
  | cons entry nodes ih =>
    obtain ⟨q, node⟩ := entry
    by_cases hq : q = p
    · have hbeq : (place == q) = false := beq_eq_false_iff_ne.mpr (hq ▸ h.symm)
      rw [List.filter_cons_of_neg (by simpa using hq), ih, List.lookup_cons, hbeq]
    · rw [List.filter_cons_of_pos (by simpa using hq), List.lookup_cons, List.lookup_cons, ih]

theorem node?_put_of_ne (h : p ≠ place) (node : Node) :
    (disk.put p node).node? place = disk.node? place := by
  have hbeq : (place == p) = false := beq_eq_false_iff_ne.mpr h.symm
  simp only [node?, put, List.lookup_cons, hbeq, lookup_filter_ne h]

/-- A node stands where it was put, unless the working folder is there or below. -/
theorem node?_put_self (h : place.isPrefixOf disk.here = false) (node : Node) :
    (disk.put place node).node? place = some node := by
  simp only [node?, put, h, List.lookup_cons, beq_self_eq_true]
  rfl

theorem node?_of_isPrefixOf (h : place.isPrefixOf disk.here = true) :
    disk.node? place = some .folder := if_pos h

end Disk

/-! ## Folders -/

/-- A change of a disk that makes folders where nothing stood, and nothing else. -/
structure OnlyFolders (disk after : Disk) : Prop where
  here : after.here = disk.here
  node : ∀ place, after.node? place = disk.node? place ∨
    disk.node? place = none ∧ after.node? place = some .folder

namespace OnlyFolders

variable {disk after : Disk} {path : Path}

theorem refl (disk : Disk) : OnlyFolders disk disk := ⟨rfl, fun _ => .inl rfl⟩

theorem trans {last : Disk} (h : OnlyFolders disk after) (h' : OnlyFolders after last) :
    OnlyFolders disk last := by
  refine ⟨h'.here.trans h.here, fun place => ?_⟩
  rcases h.node place with hsame | ⟨hnone, hmade⟩
  · rw [← hsame]
    exact h'.node place
  · rcases h'.node place with hsame | ⟨hnone', -⟩
    · exact .inr ⟨hnone, hsame.trans hmade⟩
    · rw [hmade] at hnone'
      cases hnone'

theorem makeFolder (h : disk.makeFolder path = .ok after) : OnlyFolders disk after := by
  unfold Disk.makeFolder at h
  cases hp : disk.place path with
  | error cause => rw [hp] at h; cases h
  | ok p =>
    rw [hp] at h
    cases hnode : disk.node? p with
    | some node => simp only [bind, Except.bind, hnode] at h; cases h
    | none =>
      simp only [bind, Except.bind, hnode] at h
      cases h
      refine ⟨rfl, fun place => ?_⟩
      by_cases hplace : p = place
      · subst hplace
        refine .inr ⟨hnode, Disk.node?_put_self (Bool.eq_false_iff.mpr fun hprefix => ?_) _⟩
        rw [Disk.node?_of_isPrefixOf hprefix] at hnode
        cases hnode
      · exact .inl (Disk.node?_put_of_ne hplace _)

theorem makeFolderOnce (h : disk.makeFolderOnce path = .ok after) : OnlyFolders disk after := by
  unfold Disk.makeFolderOnce at h
  split at h
  · split at h
    · cases h
      exact .refl disk
    · cases h
  · exact makeFolder h

theorem makeFoldersUp (disk : Disk) (root : Text) (names : List Text) :
    OnlyFolders disk (disk.makeFoldersUp root names).1 := by
  induction names with
  | nil => exact .refl disk
  | cons name above ih =>
    unfold Disk.makeFoldersUp
    dsimp only
    split
    · exact makeFolder ‹_›
    · split
      · rename_i heq
        rw [heq] at ih
        exact ih
      · rename_i heq
        rw [heq] at ih
        split
        · exact ih.trans (makeFolderOnce ‹_›)
        · exact ih
    · exact .refl disk

/-- To make a folder is to make the folders above it and itself, as far as they are not there. -/
theorem makeFolders (disk : Disk) (path : Path) : OnlyFolders disk (disk.makeFolders path).1 :=
  makeFoldersUp disk path.root path.names.reverse

end OnlyFolders

/-! ## Rows -/

/-- The rows of a node; only databases have some. -/
def Node.rows : Node → List (Text × Text)
  | .database rows => rows
  | .folder | .file _ => []

/-- The rows of the database at a place, none where no database stands. -/
def Disk.rowsAt (place : Place) (disk : Disk) : List (Text × Text) :=
  ((disk.node? place).map Node.rows).getD []

/-- A change of a disk that leaves the rows at a place as they are. -/
structure SameRows (place : Place) (disk after : Disk) : Prop where
  here : after.here = disk.here
  rows : after.rowsAt place = disk.rowsAt place

namespace SameRows

variable {disk after : Disk} {place p : Place}

theorem refl (place : Place) (disk : Disk) : SameRows place disk disk := ⟨rfl, rfl⟩

theorem trans {last : Disk} (h : SameRows place disk after) (h' : SameRows place after last) :
    SameRows place disk last := ⟨h'.here.trans h.here, h'.rows.trans h.rows⟩

/-- A node put anywhere else leaves the rows, and so does one with the same rows. -/
theorem put {node : Node} (h : p = place → node.rows = disk.rowsAt place) :
    SameRows place disk (disk.put p node) := by
  refine ⟨rfl, ?_⟩
  by_cases hp : p = place
  · subst hp
    cases hprefix : p.isPrefixOf disk.here with
    | true =>
      have hafter : (disk.put p node).node? p = some .folder := Disk.node?_of_isPrefixOf hprefix
      rw [Disk.rowsAt, Disk.rowsAt, hafter, Disk.node?_of_isPrefixOf hprefix]
    | false =>
      rw [Disk.rowsAt, Disk.node?_put_self hprefix]
      exact h rfl
  · rw [Disk.rowsAt, Disk.rowsAt, Disk.node?_put_of_ne hp]

theorem put_of_ne (h : p ≠ place) (node : Node) : SameRows place disk (disk.put p node) :=
  put fun he => absurd he h

/-- A node without rows leaves the rows where nothing stood, or nothing but a node without rows. -/
theorem put_bare {node : Node} (hnode : node.rows = []) (h : disk.rowsAt p = []) :
    SameRows place disk (disk.put p node) := by
  refine put fun hp => ?_
  subst hp
  rw [hnode, h]

/-- Folders that are made where nothing stood leave all rows as they are. -/
theorem of_onlyFolders (place : Place) (h : OnlyFolders disk after) :
    SameRows place disk after := by
  refine ⟨h.here, ?_⟩
  unfold Disk.rowsAt
  rcases h.node place with hsame | ⟨hnone, hmade⟩
  · rw [hsame]
  · rw [hnone, hmade]
    rfl

theorem makeFolders (place : Place) (disk : Disk) (path : Path) :
    SameRows place disk (disk.makeFolders path).1 := of_onlyFolders place (.makeFolders disk path)

/-! ## Files -/

theorem appendAt (h : p ≠ place) (more : Text) : SameRows place disk (disk.appendAt p more) := by
  unfold Disk.appendAt
  split
  · exact put_of_ne h _
  · exact .refl place disk
  · exact put_of_ne h _

/-- A file that is written leaves the rows at every place but that of its path. -/
theorem writeText {path : Path} {content : Text} (h : disk.writeText path content = .ok after)
    (hapart : path.target disk.here ≠ place) : SameRows place disk after := by
  unfold Disk.writeText at h
  cases hp : disk.writable path with
  | error fault => rw [hp] at h; cases h
  | ok p =>
    rw [hp] at h
    cases h
    exact put_of_ne (Disk.eq_target_of_writable hp ▸ hapart) _

theorem writeEncoded {path : Path} (content : Except RawText.Fault Text)
    (hapart : path.target disk.here ≠ place) :
    SameRows place disk (disk.writeEncoded path content).1 := by
  unfold Disk.writeEncoded
  split
  · exact .refl place disk
  · rename_i hwrite
    exact writeText hwrite hapart

end SameRows

end CorpusSearch.Files
