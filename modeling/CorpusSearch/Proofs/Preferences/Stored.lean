-- The mode that a database of preferences holds. To open the database changes no row; to ask for
-- the mode gives what the rows say; to store the mode changes the row of the mode, or nothing.
import CorpusSearch.Preferences.Session
import CorpusSearch.Proofs.Files.Rows

namespace CorpusSearch.Preferences

open Corpus Files

/-! ## The stored mode -/

/-- The text that stands for a mode in the row of the mode. -/
def modeText (mode : Mode) : Text :=
  match mode with
  | .fullText => ['1']
  | .simple => ['0']

/-- The mode that rows hold: that of full-text searches only if they say so. -/
def storedMode (rows : Rows) : Mode :=
  if rows.lookup Session.modeKey = some (modeText .fullText) then .fullText else .simple

theorem lookup_put (key value : Text) (rows : Rows) :
    (put key value rows).lookup key = some value := by
  induction rows with
  | nil => simp [put]
  | cons row rows ih =>
    obtain ⟨k, v⟩ := row
    by_cases hk : k = key
    · simp [put, hk]
    · have hbeq : (key == k) = false := beq_eq_false_iff_ne.mpr (Ne.symm hk)
      rw [put, if_neg hk, List.lookup_cons, hbeq, ih]

/-- The rows behind the storing of a mode, or of none. -/
def rowsBehind (stored? : Option Mode) (rows : Rows) : Rows :=
  match stored? with
  | some mode => put Session.modeKey (modeText mode) rows
  | none => rows

theorem storedMode_rowsBehind (stored? : Option Mode) (rows : Rows) :
    storedMode (rowsBehind stored? rows) = stored?.getD (storedMode rows) := by
  cases stored? with
  | none => rfl
  | some mode =>
    unfold storedMode rowsBehind
    rw [lookup_put]
    cases mode <;> rfl

/-! ## Sessions on files -/

/-- The place of the file that a link leads to. -/
def Link.place? : Link → Option Place
  | .file place _ => some place
  | .memory .. | .closed => none

theorem Link.eq_file_of_place? {link : Link} {place : Place} (h : link.place? = some place) :
    ∃ isReadOnly, link = .file place isReadOnly := by
  cases link with
  | file p isReadOnly => cases h; exact ⟨isReadOnly, rfl⟩
  | memory isCommon rows => cases h
  | closed => cases h

namespace Session

variable {session : Session} {disk : Disk} {place : Place} {isReadOnly : Bool}

/-! ## Opening -/

/-- An attempt to open a file: it leaves all rows as they are, and if it succeeds, it leads to a
database. -/
structure Opens (disk : Disk) (attempt : Disk × Except Fault Link) : Prop where
  same : ∀ place, SameRows place disk attempt.1
  found : ∀ link, attempt.2 = .ok link → ∃ place isReadOnly rows,
    link = .file place isReadOnly ∧ attempt.1.node? place = some (.database rows)

theorem Opens.refused {after : Disk} (h : ∀ place, SameRows place disk after) (fault : Fault) :
    Opens disk (after, .error fault) := ⟨h, fun _ hlink => nomatch hlink⟩

theorem Opens.made {after : Disk} (h : ∀ place, SameRows place disk after)
    (hrows : after.rowsAt place = []) (hfree : place.isPrefixOf after.here = false)
    (isReadOnly : Bool) :
    Opens disk (after.put place (.database []), .ok (.file place isReadOnly)) where
  same := fun p => (h p).trans (.put_bare rfl hrows)
  found := by
    rintro link hlink
    cases hlink
    exact ⟨place, isReadOnly, [], rfl, Disk.node?_put_self hfree _⟩

theorem isPrefixOf_here_of_node? (h : disk.node? place ≠ some .folder) :
    place.isPrefixOf disk.here = false :=
  Bool.eq_false_iff.mpr fun hprefix => h (Disk.node?_of_isPrefixOf hprefix)

theorem opens_openFile (disk : Disk) (address : Address) : Opens disk (openFile disk address) := by
  have hsame : ∀ p, SameRows p disk disk := fun p => .refl p disk
  unfold openFile
  split
  · exact .refused hsame _
  · rename_i place _
    dsimp only
    split
    · exact .refused hsame _
    · split
      · rename_i hnone
        have hrows : disk.rowsAt place = [] := by rw [Disk.rowsAt, hnone]; rfl
        have hfree := isPrefixOf_here_of_node? (by rw [hnone]; simp)
        have hempty : ∀ p, SameRows p disk (disk.put place (.file [])) := fun p =>
          .put_bare rfl hrows
        split
        · split
          · exact .refused hempty _
          · split
            · exact .refused hempty _
            · exact .made hempty ((hempty place).rows.trans hrows) hfree _
        · exact .refused hsame _
      · rename_i hfile
        have hrows : disk.rowsAt place = [] := by rw [Disk.rowsAt, hfile]; rfl
        have hfree := isPrefixOf_here_of_node? (by rw [hfile]; simp)
        split
        · exact .refused hsame _
        · split
          · exact .refused hsame _
          · exact .made hsame hrows hfree _
      · exact .refused hsame _
      · rename_i rows _ hdatabase
        refine ⟨hsame, fun link hlink => ?_⟩
        cases hlink
        exact ⟨place, _, _, rfl, hdatabase⟩
      · exact .refused hsame _
      · exact .refused hsame _

theorem sameRows_openLink (disk : Disk) (address : Address) (place : Place) :
    SameRows place disk (openLink disk address).1 := by
  unfold openLink
  split
  · exact (opens_openFile disk address).same place
  · split
    · exact .refl place disk
    · exact .refl place disk

theorem node?_of_openLink {address : Address} {after : Disk}
    (h : openLink disk address = (after, .ok (.file place isReadOnly))) :
    ∃ rows, after.node? place = some (.database rows) := by
  unfold openLink at h
  split at h
  · have hfound := (opens_openFile disk address).found
    rw [h] at hfound
    obtain ⟨p, _, rows, hlink, hnode⟩ := hfound _ rfl
    cases hlink
    exact ⟨rows, hnode⟩
  · split at h <;> cases h

/-- To open a database changes no row, neither there nor at any other place. -/
theorem sameRows_openAt (place : Place) (disk : Disk) (path : Path) :
    SameRows place disk (openAt disk path).1 := by
  have hfolders := SameRows.makeFolders place disk path.parent
  unfold openAt
  split
  · rename_i heq
    rw [heq] at hfolders
    exact hfolders
  · rename_i heq
    rw [heq] at hfolders
    split
    · exact hfolders
    · split
      · exact hfolders
      · exact hfolders.trans (sameRows_openLink _ _ place)

theorem node?_of_openAt {path : Path} {after : Disk}
    (h : openAt disk path = (after, .ok session)) (hlink : session.link = .file place isReadOnly) :
    ∃ rows, after.node? place = some (.database rows) := by
  unfold openAt at h
  split at h
  · cases h
  · split at h
    · cases h
    · split at h
      · cases h
      · rename_i folders _ _ _ address _
        rcases hopen : openLink folders address with ⟨opened, fault | link⟩
        · rw [hopen] at h; cases h
        · rw [hopen] at h
          cases h
          cases hlink
          exact node?_of_openLink hopen

/-! ## Asking and storing -/

theorem rows_of_file (h : session.link = .file place isReadOnly) (disk : Disk) :
    session.rows disk = .ok (disk.rowsAt place) := by
  unfold Session.rows
  rw [h]
  unfold Disk.rowsAt
  dsimp only
  cases disk.node? place with
  | none => rfl
  | some node => cases node <;> rfl

theorem isFullText_of_file (h : session.link = .file place isReadOnly) (disk : Disk) :
    (session.isFullText disk).map (fun isOn => if isOn then Mode.fullText else .simple) =
      .ok (storedMode (disk.rowsAt place)) := by
  have hget : session.get (.text modeKey) disk = .ok ((disk.rowsAt place).lookup modeKey) := by
    unfold Session.get
    rw [rows_of_file h]
    rfl
  unfold isFullText storedMode
  rw [hget]
  by_cases hrow : (disk.rowsAt place).lookup modeKey = some ['1'] <;>
    simp [bind, Except.bind, pure, Except.pure, Except.map, modeText, hrow]

theorem rows_of_change {key value : Text} {rows? : Option Rows}
    (h : session.link = .file place isReadOnly)
    (hchange : session.change (.text key) (.text value) disk = .ok rows?) :
    rows? = some (put key value (disk.rowsAt place)) := by
  have hkey : (cell 1 (.text key)).mapError session.refusal.getD = .ok (some key) := rfl
  have hvalue : cell 2 (.text value) = .ok (some value) := rfl
  unfold change at hchange
  rw [rows_of_file h, hkey, hvalue] at hchange
  simp only [bind, Except.bind] at hchange
  split at hchange
  · cases hchange
  · split at hchange
    · cases hchange
    · cases hchange
      rfl

def switchMode (isOn : Bool) : Mode := if isOn then .fullText else .simple

theorem setFullText_eq (isOn : Bool) (session : Session) (disk : Disk) :
    session.setFullText isOn disk =
      session.set (.text modeKey) (.text (modeText (switchMode isOn))) disk := by
  cases isOn <;> rfl

theorem disk_of_setFullText_error {isOn : Bool} {after : Session} {last : Disk} {fault : Fault}
    (hset : session.setFullText isOn disk = ((after, last), .error fault)) : last = disk := by
  rw [setFullText_eq] at hset
  unfold Session.set at hset
  split at hset
  · cases hset
    rfl
  · dsimp only at hset
    split at hset <;> exact nomatch congrArg Prod.snd hset

theorem of_setFullText_ok {isOn : Bool} {after : Session} {last : Disk}
    (h : session.link = .file place isReadOnly)
    (hset : session.setFullText isOn disk = ((after, last), .ok ())) :
    after.link = session.link ∧ last = disk.put place (.database
      (put modeKey (modeText (switchMode isOn)) (disk.rowsAt place))) := by
  rw [setFullText_eq] at hset
  unfold Session.set at hset
  split at hset
  · cases hset
  · rename_i hchange
    rw [rows_of_change h hchange] at hset
    simp only [withRows, h] at hset
    cases hset
    exact ⟨h.symm, rfl⟩

end Session

end CorpusSearch.Preferences
