-- What the work of a command does to the database of preferences: the command for the mode stores
-- the mode that it is given, a search stores nothing, and a command that fails stores nothing.
import CorpusSearch.Command.Run
import CorpusSearch.Proofs.Log.Targets
import CorpusSearch.Proofs.Preferences.Stored
import CorpusSearch.Proofs.Report.Files

namespace CorpusSearch.Command

open Corpus Files Preferences

variable {around : Surroundings} {settings : Settings} {disk : Disk} {place : Place}

/-! ## Preferences -/

/-- The preferences that settings name are in the database at a place, if they can be opened. -/
def OpensAt (around : Surroundings) (settings : Settings) (disk : Disk) (place : Place) : Prop :=
  ∀ session ∈ (openPreferences around settings disk).2.toOption, session.link.place? = some place

instance instDecidableOpensAt : Decidable (OpensAt around settings disk place) :=
  inferInstanceAs (Decidable (∀ session ∈ _, _))

theorem OpensAt.link {after : Disk} {session : Session} (h : OpensAt around settings disk place)
    (hopen : openPreferences around settings disk = (after, .ok session)) :
    ∃ isReadOnly, session.link = .file place isReadOnly :=
  Link.eq_file_of_place? (h session (by rw [hopen]; rfl))

theorem sameRows_openPreferences (around : Surroundings) (settings : Settings) (disk : Disk)
    (place : Place) : SameRows place disk (openPreferences around settings disk).1 := by
  unfold openPreferences
  split
  · exact .refl place disk
  · exact Session.sameRows_openAt place disk _

/-- A session on a file has a database there, with the rows that were there before. -/
theorem node?_of_openPreferences {after : Disk} {session : Session} {isReadOnly : Bool}
    (h : openPreferences around settings disk = (after, .ok session))
    (hlink : session.link = .file place isReadOnly) :
    ∃ rows, after.node? place = some (.database rows) := by
  unfold openPreferences at h
  split at h
  · cases h
  · rename_i path _
    rcases hopen : Session.openAt disk path with ⟨opened, fault | opened⟩
    · rw [hopen] at h; cases h
    · rw [hopen] at h; cases h
      exact Session.node?_of_openAt hopen hlink

/-! ## Searches -/

/-- The work of a search in a mode, whatever mode is stored. -/
def searchIn (around : Surroundings) (settings : Settings) (words : List Text) (mode : Mode)
    (disk : Disk) : Work :=
  withPreferences around settings disk fun _ disk =>
    match Report.Writer.ofNames (.ofText settings.output.folder) settings.output.formats with
    | .error name => return (disk, .error (Report.Format.noWriter name))
    | .ok writers => do
      let query := Text.join [' '] words
      Traced.log .info ("query=" ++ Text.quoted query ++ " mode=" ++ mode.name)
      let result ← (Service.ofSettings settings).search around.source around.fetch query mode
      writeResult around writers result disk

/-- A search is one in the mode that it is given, and in the stored one when it is given none. -/
theorem search_eq_searchIn (h : OpensAt around settings disk place) (words : List Text)
    (chosen : Option Mode) :
    search around settings words chosen disk =
      searchIn around settings words (chosen.getD (storedMode (disk.rowsAt place))) disk := by
  have hsame := sameRows_openPreferences around settings disk place
  unfold search searchIn withPreferences
  rcases hopen : openPreferences around settings disk with ⟨after, failure | session⟩
  · rfl
  · obtain ⟨isReadOnly, hlink⟩ := h.link hopen
    rw [hopen] at hsame
    have hmode : modeOf chosen session after =
        .ok (chosen.getD (storedMode (disk.rowsAt place))) := by
      cases chosen with
      | some mode => rfl
      | none =>
        rw [← hsame.rows]
        exact Session.isFullText_of_file hlink after
    cases Report.Writer.ofNames (.ofText settings.output.folder) settings.output.formats with
    | error name => rfl
    | ok writers => simp only [hmode]

/-- The path of the file that a search writes its result to. -/
def resultPath (around : Surroundings) (settings : Settings) : Path :=
  Report.Writer.filePath (.ofText settings.output.folder) Name.search.text
    around.clock.resultStamp

/-- The file of results, if there is one, is not the one at a place. -/
def ResultsApart (around : Surroundings) (settings : Settings) (here place : Place) : Prop :=
  Report.Format.json.name ∈ settings.output.formats →
    (resultPath around settings).target here ≠ place

instance instDecidableResultsApart {here : Place} :
    Decidable (ResultsApart around settings here place) :=
  inferInstanceAs (Decidable (_ → _))

theorem sameRows_writeResult {writers : List Report.Writer} (result : Result)
    (h : ∀ folder ∈ Report.Writer.folders writers,
      (Report.Writer.filePath folder Name.search.text around.clock.resultStamp).target disk.here ≠
        place) :
    SameRows place disk (writeResult around writers result disk).value.1 := by
  rw [← Report.Writer.folders_writeAll result] at h
  unfold writeResult
  rw [Traced.value_bind]
  rcases hwrite : (Report.Writer.writeAll result writers).value with ⟨after, _ | fault⟩
  · rw [hwrite] at h
    have hsame := Report.Writer.sameRows_finishAll h
    dsimp only
    split
    · rename_i heq
      rw [heq] at hsame
      exact hsame
    · rename_i heq
      rw [heq] at hsame
      exact hsame
  · exact .refl place disk

theorem sameRows_searchIn (h : ResultsApart around settings disk.here place) (words : List Text)
    (mode : Mode) : SameRows place disk (searchIn around settings words mode disk).value.1 := by
  have hopened := sameRows_openPreferences around settings disk place
  unfold searchIn withPreferences
  rcases hopen : openPreferences around settings disk with ⟨after, failure | session⟩
  · rw [hopen] at hopened
    exact hopened
  · rw [hopen] at hopened
    refine hopened.trans ?_
    rw [Traced.value_bind]
    split
    · exact .refl place after
    · rename_i writers hwriters
      simp only [Traced.value_bind]
      refine sameRows_writeResult _ fun folder hfolder => ?_
      obtain ⟨rfl, hjson⟩ := Report.Writer.mem_folders_ofNames hwriters hfolder
      rw [hopened.here]
      exact h hjson

/-! ## The mode -/

/-- The mode that a command is to store, none for all but `mode` with a value. -/
def Order.switch? : Order → Option Mode
  | .mode (some isOn) => some (Session.switchMode isOn)
  | .mode none | .search _ _ => none

/-- The mode that a command stores: one that fails stores none. -/
def Order.stored? (isDone : Bool) (order : Order) : Option Mode :=
  if isDone then order.switch? else none

theorem Order.stored?_eq_none {order : Order} (h : order.switch? = none) (isDone : Bool) :
    order.stored? isDone = none := by
  cases isDone with
  | false => rfl
  | true => exact h

theorem value_storeMode (isOn : Bool) (session : Session) (disk : Disk) :
    (storeMode (some isOn) session disk).value = session.setFullText isOn disk := by
  unfold storeMode
  dsimp only
  split
  · exact (by assumption : session.setFullText isOn disk = _).symm
  · exact (by assumption : session.setFullText isOn disk = _).symm

theorem isFullText_eq_ok {session : Session} {isReadOnly : Bool}
    (hlink : session.link = .file place isReadOnly) (disk : Disk) :
    ∃ isOn, session.isFullText disk = .ok isOn := by
  have h := Session.isFullText_of_file hlink disk
  cases hask : session.isFullText disk with
  | error fault => rw [hask] at h; cases h
  | ok isOn => exact ⟨isOn, rfl⟩

/-- The command for the mode stores the mode that it is given if it succeeds, and nothing
otherwise. -/
theorem rowsAt_mode (h : OpensAt around settings disk place) (value : Option Bool) :
    (mode around settings value disk).value.1.rowsAt place =
      rowsBehind ((Order.mode value).stored? (mode around settings value disk).value.2.isOk)
        (disk.rowsAt place) := by
  have hsame := sameRows_openPreferences around settings disk place
  unfold mode withPreferences
  rcases hopen : openPreferences around settings disk with ⟨after, failure | session⟩
  · rw [hopen] at hsame
    exact hsame.rows
  · obtain ⟨isReadOnly, hlink⟩ := h.link hopen
    obtain ⟨rows, hnode⟩ := node?_of_openPreferences hopen hlink
    rw [hopen] at hsame
    dsimp only
    simp only [Traced.value_bind]
    cases value with
    | none =>
      obtain ⟨isOn, hask⟩ := isFullText_eq_ok hlink after
      have hstore : (storeMode none session after).value = ((session, after), .ok ()) := rfl
      simp only [hstore, hask]
      exact hsame.rows
    | some isOn =>
      rw [value_storeMode]
      rcases hset : session.setFullText isOn after with ⟨⟨stored, last⟩, fault | _⟩
      · rw [Session.disk_of_setFullText_error hset]
        exact hsame.rows
      · obtain ⟨hstored, hlast⟩ := Session.of_setFullText_ok hlink hset
        obtain ⟨answer, hask⟩ := isFullText_eq_ok (hstored.trans hlink) last
        have hfree := Session.isPrefixOf_here_of_node? (by rw [hnode]; simp)
        simp only [hask]
        change last.rowsAt place = put Session.modeKey (modeText (Session.switchMode isOn)) _
        rw [hlast, Disk.rowsAt, Disk.node?_put_self hfree, ← hsame.rows]
        rfl

/-! ## Commands -/

def Order.isSearch : Order → Bool
  | .search _ _ => true
  | .mode _ => false

/-- A command on the preferences at a place whose file of results, if it has one, is another one. -/
structure Order.IsOn (around : Surroundings) (settings : Settings) (disk : Disk) (place : Place)
    (order : Order) : Prop where
  opens : OpensAt around settings disk place
  results_apart : order.isSearch → ResultsApart around settings disk.here place

instance Order.instDecidableIsOn {order : Order} :
    Decidable (order.IsOn around settings disk place) :=
  decidable_of_iff (OpensAt around settings disk place ∧
      (order.isSearch → ResultsApart around settings disk.here place))
    ⟨fun h => ⟨h.1, h.2⟩, fun h => ⟨h.opens, h.results_apart⟩⟩

/-- A command changes the row of the mode if it stores one, and nothing otherwise. -/
theorem Order.rowsAt_work {order : Order} (h : order.IsOn around settings disk place) :
    (order.work around settings disk).value.1.rowsAt place =
      rowsBehind (order.stored? (order.work around settings disk).value.2.isOk)
        (disk.rowsAt place) := by
  cases order with
  | mode value => exact rowsAt_mode h.opens value
  | search words chosen =>
    rw [Order.stored?_eq_none rfl, Order.work, search_eq_searchIn h.opens]
    exact (sameRows_searchIn (h.results_apart rfl) words _).rows

/-! ## Endings -/

def Ending.isDone : Ending → Bool
  | .done _ => true
  | .misused | .refused _ | .aborted => false

/-- The logger only adds its own lines to what the work of a command has done. -/
theorem rowsAt_perform {name : Name} {order : Order} {logger : Log.Logger}
    (h : order.IsOn around settings disk place) (hlogger : logger.IsApart place) :
    (perform around settings name order logger disk).disk.rowsAt place =
      rowsBehind (order.stored? (perform around settings name order logger disk).ending.isDone)
        (disk.rowsAt place) := by
  have hwork := Order.rowsAt_work h
  have hemit := Log.sameRows_emit hlogger around.clock.lineStamp
  have hlines (written : Log.Written) (entries : List Log.Entry) :
      SameRows place written.disk
        (entries.foldl (logger.emit around.clock.lineStamp) written).disk :=
    Log.sameRows_foldl (fun w entry _ => hemit w entry) written
  unfold perform
  dsimp only
  cases hended : (order.work around settings disk).value.2 with
  | ok answer =>
    rw [hended] at hwork
    exact (hlines _ _).rows.trans hwork
  | error failure =>
    rw [hended] at hwork
    exact ((hlines _ _).trans (hemit _ _)).rows.trans hwork

end CorpusSearch.Command
