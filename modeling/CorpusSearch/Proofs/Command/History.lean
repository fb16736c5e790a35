-- The mode of searches along a history of runs on one database. The law of modes: a search without
-- a mode of its own runs in the one that the latest `mode on` or `mode off` before it has stored,
-- the simple one if there is none; only those two commands change what is stored, and only if they
-- succeed.
import CorpusSearch.Proofs.Command.Work
import Mathlib.Data.List.Chain

namespace CorpusSearch.Command

open Corpus Files Preferences

/-! ## Runs -/

/-- One run of the program on the words of a command line. -/
structure Invocation where
  around : Surroundings
  logger : Log.Logger := {}
  disk : Disk
  words : List Text

/-- What a run leaves behind. -/
def Invocation.after (run : Invocation) : Aftermath :=
  Command.run run.around run.logger run.disk run.words

/-- A command whose words and settings are read and whose logging is set up. -/
structure Start where
  settings : Settings
  name : Name
  order : Order
  logger : Log.Logger
  disk : Disk

/-- What a started command leaves behind. -/
def Start.perform (around : Surroundings) (start : Start) : Aftermath :=
  Command.perform around start.settings start.name start.order start.logger start.disk

/-- The command that a run starts, none if it is misused or refused before. -/
def Invocation.start? (run : Invocation) : Option Start := do
  let call ← (Call.read run.disk run.words).toOption
  let settings ← (call.load run.around.environment run.disk).toOption
  let order ← call.order?
  match Log.configure (logSetup settings call.name) run.around.clock.logStamp run.logger
    run.disk with
  | (_, _, .error _) => none
  | (logger, disk, .ok ()) => some { settings, name := call.name, order, logger, disk }

/-- A started command neither logs into the database at a place nor writes results over it. -/
structure Start.IsOn (around : Surroundings) (place : Place) (start : Start) : Prop where
  order : start.order.IsOn around start.settings start.disk place
  log_apart : start.logger.IsApart place

instance Start.instDecidableIsOn {around : Surroundings} {place : Place} {start : Start} :
    Decidable (start.IsOn around place) :=
  decidable_of_iff (start.order.IsOn around start.settings start.disk place ∧
      start.logger.IsApart place)
    ⟨fun h => ⟨h.1, h.2⟩, fun h => ⟨h.order, h.log_apart⟩⟩

/-- A run either performs the command that it starts, or it ends before that. -/
theorem Invocation.after_cases (run : Invocation) (place : Place) :
    (∃ start, run.start? = some start ∧ run.after = start.perform run.around ∧
        (start.logger.IsApart place → SameRows place run.disk start.disk)) ∨
      run.start? = none ∧ SameRows place run.disk run.after.disk := by
  unfold Invocation.after Invocation.start? Command.run
  cases Call.read run.disk run.words with
  | error misuse =>
    refine .inr ⟨rfl, ?_⟩
    cases misuse <;> exact .refl place _
  | ok call =>
    dsimp only [Except.toOption, Option.bind_eq_bind, Option.bind_some]
    cases call.load run.around.environment run.disk with
    | error fault => exact .inr ⟨rfl, .refl place _⟩
    | ok settings =>
      dsimp only [Option.bind_some]
      cases call.order? with
      | none => exact .inr ⟨rfl, .refl place _⟩
      | some order =>
        dsimp only [Option.bind_some]
        rcases hlog : Log.configure (logSetup settings call.name) run.around.clock.logStamp
          run.logger run.disk with ⟨logger, disk, fault | _⟩
        · exact .inr ⟨rfl, Log.sameRows_configure hlog nofun⟩
        · exact .inl ⟨_, rfl, rfl, fun hlogger => Log.sameRows_configure hlog fun _ => hlogger⟩

/-! ## Stored modes -/

/-- The mode that a run stores, none if it is no `mode on` or `mode off` that has done its work. -/
def Invocation.stored? (run : Invocation) : Option Mode :=
  run.start?.bind fun start => start.order.stored? run.after.ending.isDone

theorem Invocation.stored?_eq_none {run : Invocation}
    (h : ∀ start ∈ run.start?, start.order.switch? = none) : run.stored? = none := by
  unfold stored?
  cases hstart : run.start? with
  | none => rfl
  | some start => exact Order.stored?_eq_none (h start hstart) _

/-- A run changes the row of the mode if it stores one, and nothing otherwise. -/
theorem Invocation.rowsAt_after {run : Invocation} {place : Place}
    (h : ∀ start ∈ run.start?, start.IsOn run.around place) :
    run.after.disk.rowsAt place = rowsBehind run.stored? (run.disk.rowsAt place) := by
  unfold stored?
  rcases run.after_cases place with ⟨start, hstart, hafter, hsame⟩ | ⟨hnone, hsame⟩
  · have hon := h start hstart
    rw [hstart, hafter, Start.perform, rowsAt_perform hon.order hon.log_apart,
      (hsame hon.log_apart).rows]
    rfl
  · rw [hnone]
    exact hsame.rows

/-- The mode that the latest of some runs has stored that stored one, else the given one. -/
def latestMode (mode : Mode) (runs : List Invocation) : Mode :=
  (runs.filterMap Invocation.stored?).getLast?.getD mode

theorem latestMode_cons (mode : Mode) (run : Invocation) (runs : List Invocation) :
    latestMode mode (run :: runs) = latestMode (run.stored?.getD mode) runs := by
  unfold latestMode
  cases hstored : run.stored? with
  | none => rw [List.filterMap_cons_none hstored]; rfl
  | some stored =>
    rw [List.filterMap_cons_some hstored, List.getLast?_cons]
    rfl

theorem latestMode_concat (mode : Mode) (run : Invocation) (runs : List Invocation) :
    latestMode mode (runs ++ [run]) = run.stored?.getD (latestMode mode runs) := by
  unfold latestMode
  rw [List.filterMap_append]
  cases hstored : run.stored? with
  | none => simp [hstored]
  | some stored => simp [hstored]

/-! ## Histories -/

/-- Runs one after another on the database at a place, which keeps its rows: they are the same from
the end of one run to the next one, and no log and no file of results is written over them. -/
structure IsHistory (place : Place) (runs : List Invocation) : Prop where
  /-- No mode is stored before the first run. -/
  fresh : ∀ run ∈ runs.head?, (run.disk.rowsAt place).lookup Session.modeKey = none
  kept : runs.IsChain fun run next => next.disk.rowsAt place = run.after.disk.rowsAt place
  on_place : ∀ run ∈ runs, ∀ start ∈ run.start?, start.IsOn run.around place

instance instDecidableIsHistory {place : Place} {runs : List Invocation} :
    Decidable (IsHistory place runs) :=
  decidable_of_iff
    ((∀ run ∈ runs.head?, (run.disk.rowsAt place).lookup Session.modeKey = none) ∧
      (runs.IsChain fun run next => next.disk.rowsAt place = run.after.disk.rowsAt place) ∧
      ∀ run ∈ runs, ∀ start ∈ run.start?, start.IsOn run.around place)
    ⟨fun h => ⟨h.1, h.2.1, h.2.2⟩, fun h => ⟨h.fresh, h.kept, h.on_place⟩⟩

/-- What the database holds along a history is what the latest of the runs before has stored. -/
theorem storedMode_eq_latestMode {place : Place} {mode : Mode} {before behind : List Invocation}
    {run : Invocation}
    (hfirst : ∀ first ∈ (before ++ run :: behind).head?,
      storedMode (first.disk.rowsAt place) = mode)
    (hkept : (before ++ run :: behind).IsChain fun run next =>
      next.disk.rowsAt place = run.after.disk.rowsAt place)
    (hon : ∀ run ∈ before, ∀ start ∈ run.start?, start.IsOn run.around place) :
    storedMode (run.disk.rowsAt place) = latestMode mode before := by
  induction before generalizing mode with
  | nil => exact hfirst run rfl
  | cons first before ih =>
    rw [List.cons_append, List.isChain_cons] at hkept
    rw [latestMode_cons]
    refine ih (fun next hnext => ?_) hkept.2 fun r hr => hon r (List.mem_cons_of_mem _ hr)
    rw [hkept.1 next hnext, Invocation.rowsAt_after (hon first (List.mem_cons_self ..)),
      storedMode_rowsBehind, hfirst first rfl]

/-! ## The law -/

/-- A search is performed as one with the mode that it takes from the database. -/
theorem perform_search {around : Surroundings} {settings : Settings} {disk : Disk} {place : Place}
    (h : OpensAt around settings disk place) (name : Name) (words : List Text)
    (flag : Option Mode) (logger : Log.Logger) :
    perform around settings name (.search words flag) logger disk =
      perform around settings name
        (.search words (some (flag.getD (storedMode (disk.rowsAt place))))) logger disk := by
  have hwork : (Order.search words flag).work around settings disk =
      (Order.search words (some (flag.getD (storedMode (disk.rowsAt place))))).work around settings
        disk :=
    (search_eq_searchIn h words flag).trans (search_eq_searchIn h words (some _)).symm
  unfold perform
  rw [hwork]

/-- The law of modes: behind every run the mode of the latest run that stored one is stored; a
search runs in its own mode, else in the one that is stored before it, as if it had been given that
one; and no search, no question for the mode and no run that never starts changes a row. -/
theorem modes_along_history {place : Place} {before behind : List Invocation} {run : Invocation}
    (h : IsHistory place (before ++ run :: behind)) :
    storedMode (run.after.disk.rowsAt place) = latestMode .simple (before ++ [run]) ∧
      (run.start? = none → run.after.disk.rowsAt place = run.disk.rowsAt place) ∧
      ∀ start, run.start? = some start →
        (∀ words flag, start.order = .search words flag →
          let mode := flag.getD (latestMode .simple before)
          run.after = { start with order := .search words (some mode) }.perform run.around ∧
          start.order.work run.around start.settings start.disk =
            searchIn run.around start.settings words mode start.disk ∧
          run.after.disk.rowsAt place = run.disk.rowsAt place) ∧
        (start.order = .mode none →
          run.after.disk.rowsAt place = run.disk.rowsAt place) := by
  have hmem : run ∈ before ++ run :: behind := by simp
  have hafter := Invocation.rowsAt_after (h.on_place run hmem)
  have hstored : storedMode (run.disk.rowsAt place) = latestMode .simple before := by
    refine storedMode_eq_latestMode (fun first hfirst => ?_) h.kept fun r hr =>
      h.on_place r (List.mem_append_left _ hr)
    rw [storedMode, h.fresh first hfirst]
    rfl
  have hunchanged (hnone : ∀ start ∈ run.start?, start.order.switch? = none) :
      run.after.disk.rowsAt place = run.disk.rowsAt place := by
    rw [hafter, Invocation.stored?_eq_none hnone]
    rfl
  refine ⟨?_, fun hnone => hunchanged ?_, fun start hstart => ⟨?_, fun horder => hunchanged ?_⟩⟩
  · rw [hafter, storedMode_rowsBehind, hstored, latestMode_concat]
  · simp [hnone]
  · intro words flag horder
    have hon := h.on_place run hmem start hstart
    rcases run.after_cases place with ⟨started, hstarted, hperform, hsame⟩ | ⟨hnone, -⟩
    · cases hstart.symm.trans hstarted
      have hmode : storedMode (start.disk.rowsAt place) = latestMode .simple before := by
        rw [(hsame hon.log_apart).rows, hstored]
      refine ⟨?_, ?_, hunchanged ?_⟩
      · rw [hperform, Start.perform, horder, perform_search hon.order.opens, hmode]
        rfl
      · rw [horder, Order.work, search_eq_searchIn hon.order.opens, hmode]
      · simp [hstart, horder, Order.switch?]
    · rw [hstart] at hnone; cases hnone
  · simp [hstart, horder, Order.switch?]

/-! ## A history -/

/-- A run of `mode on` on a disk without a database, the web being out of reach. -/
def modeOnRun : Invocation where
  around :=
    { environment := [("LAWSEARCH_LOG_LEVEL", "INFO")]
      source := fun _ => .error ("gone" : Text)
      fetch := fun _ => .error ("gone" : Text)
      clock := ⟨2024, 1, 2, 3, 4, 5⟩ }
  disk := { nodes := [(["config"], .folder), (["config", "default.yml"], .file [])] }
  words := ["mode", "on"]

/-- A run of other words on the disk that a run leaves behind. -/
def Invocation.next (run : Invocation) (words : List Text) : Invocation :=
  { run with disk := run.after.disk, words }

def simpleRun : Invocation := modeOnRun.next ["search", "--simple", "trust"]

def trustRun : Invocation := simpleRun.next ["search", "trust"]

/-- A search runs in the mode that `mode on` has stored, also behind a simple search. -/
theorem modes_along_history_mode_on :
    IsHistory ["database", "settings.db"] ([modeOnRun, simpleRun] ++ [trustRun]) ∧
      ∃ start, trustRun.start? = some start ∧ start.order = .search ["trust"] none ∧
        start.order.work trustRun.around start.settings start.disk =
          searchIn trustRun.around start.settings ["trust"] .fullText start.disk := by
  have h : IsHistory ["database", "settings.db"] ([modeOnRun, simpleRun] ++ [trustRun]) := by
    decide +kernel
  have hsearch : trustRun.start?.map Start.order = some (.search ["trust"] none) := by
    decide +kernel
  have hlatest : latestMode .simple [modeOnRun, simpleRun] = .fullText := by decide +kernel
  obtain ⟨-, -, hlaw⟩ := modes_along_history h
  obtain ⟨start, hstart, horder⟩ := Option.map_eq_some_iff.mp hsearch
  obtain ⟨-, hwork, -⟩ := (hlaw start hstart).1 _ _ horder
  rw [hlatest] at hwork
  exact ⟨h, start, hstart, horder, hwork⟩

end CorpusSearch.Command
