-- The lines of the log along a history of calls. Each target gets the entries from its own level on
-- that are logged while a setup with this target stands: each of them once, in their order, and
-- nothing under an earlier setup or a later one. The one exception is the unset level. A logger
-- that is given it falls back on the level of warnings, so what is less serious comes to no target,
-- not even to the file.
import CorpusSearch.Proofs.Files.Texts
import CorpusSearch.Proofs.Log.Targets
import Mathlib.Data.List.Basic

namespace CorpusSearch.Log

open Files

/-! ## Levels -/

/-- The level that a setup names, none when it names something else. -/
def Setup.level? (setup : Setup) : Option Level :=
  (levelOf (if setup.level.isEmpty then "INFO" else setup.level)).toOption

/-- A level that has a name is the unset one, or takes in no more than details. -/
theorem Setup.level?_cases {setup : Setup} {level : Level} (h : setup.level? = some level) :
    level = unset ∨ .debug ≤ level := by
  have hnamed : ∀ named ∈ namedLevels, named.2 = unset ∨ Level.debug ≤ named.2 := by decide
  unfold level? levelOf at h
  dsimp only at h
  split at h
  · cases h
  · cases h
    cases hlookup : namedLevels.lookup _ with
    | none => exact .inr (by decide)
    | some level =>
      obtain ⟨before, behind, heq, -⟩ := List.lookup_eq_some_iff.mp hlookup
      exact hnamed _ (heq ▸ List.mem_append_right _ (List.mem_cons_self ..))

/-! ## Histories -/

/-- A call of the log: it is set up at a time, or an entry is logged at a time. -/
inductive Call where
  | configure (setup : Setup) (stamp : Text)
  | log (stamp : Text) (entry : Entry)

/-- A logger with what it has written. -/
structure State where
  logger : Logger := {}
  written : Written := {}

/-- What comes of a call. Only a setup may be refused. -/
def State.outcome (state : State) : Call → Except Fault Unit
  | .configure setup stamp => (configure setup stamp state.logger state.written.disk).2.2
  | .log .. => .ok ()

/-- What a call leaves, whether it is refused or not. -/
def State.after (state : State) : Call → State
  | .configure setup stamp =>
    let (logger, disk, _) := configure setup stamp state.logger state.written.disk
    { logger, written := { state.written with disk } }
  | .log stamp entry =>
    { state with written := state.logger.emit stamp state.written entry }

/-- What calls leave one after another. -/
def State.afterAll (state : State) (calls : List Call) : State := calls.foldl State.after state

/-- Calls with what came of them. -/
def State.course : State → List Call → List (Call × Except Fault Unit)
  | _, [] => []
  | state, call :: calls => (call, state.outcome call) :: (state.after call).course calls

/-! ## What stands -/

/-- What counts for entries while a setup stands. -/
structure Standing where
  /-- The least level of the entries that come to any target. -/
  least : Level
  /-- The least level of those that the console takes. -/
  console : Level
  /-- The place of the file, which takes all of them. -/
  file : Option Place

/-- Whether an entry goes to a target. -/
def Standing.takes (standing : Standing) (entry : Entry) : Target → Bool
  | .console => standing.least ≤ entry.level && standing.console ≤ entry.level
  | .file place => standing.file = some place && standing.least ≤ entry.level

def Setup.filePath (setup : Setup) (action stamp : Text) : Path :=
  (setup.actionFolder action).join (.ofText (action ++ "_" ++ stamp ++ ".log"))

/-- The place of the file of a setup, none when no file is asked for. -/
def Setup.place? (here : Place) (setup : Setup) (stamp : Text) : Option Place :=
  setup.fileAction?.map fun action => (setup.filePath action stamp).target here

/-- What stands after a call. A setup without a level changes nothing, and one whose file cannot be
opened counts for the console alone. -/
def Standing.after (here : Place) (standing : Standing) : Call × Except Fault Unit → Standing
  | (.log .., _) => standing
  | (.configure setup stamp, outcome) => match setup.level?, outcome with
    | none, _ => standing
    | some level, .error _ => { standing with console := level, file := none }
    | some level, .ok () =>
      { least := if level = unset then .warning else .debug
        console := level
        file := setup.place? here stamp }

/-- The lines of a history for a target: those of the entries that go there by what stands when they
are logged. -/
def linesFor (here : Place) (target : Target) :
    Standing → List (Call × Except Fault Unit) → List Text
  | _, [] => []
  | standing, (.log stamp entry, _) :: course =>
    let behind := linesFor here target standing course
    if standing.takes entry target then line stamp entry :: behind else behind
  | standing, step :: course => linesFor here target (standing.after here step) course

/-! ## What is written -/

/-- More is written: to each target the lines that `lines` has for it. -/
structure Grows (lines : Target → List Text) (written after : Written) : Prop where
  console : after.console = written.console ++ lines .console
  text : ∀ place, after.disk.textAt place =
    written.disk.textAt place ++ (lines (.file place)).flatMap (· ++ ['\n'])
  here : after.disk.here = written.disk.here
  file : ∀ place, written.disk.HasFile place → after.disk.HasFile place

namespace Grows

variable {lines more : Target → List Text} {written after last : Written}

theorem of_sameTexts {disk : Disk} (h : SameTexts written.disk disk) :
    Grows (fun _ => []) written { written with disk } where
  console := (List.append_nil _).symm
  text place := (h.text place).trans (List.append_nil _).symm
  here := h.here
  file := h.file

theorem refl (written : Written) : Grows (fun _ => []) written written :=
  of_sameTexts (.refl written.disk)

theorem trans (h : Grows lines written after) (h' : Grows more after last) :
    Grows (fun target => lines target ++ more target) written last where
  console := by rw [h'.console, h.console, List.append_assoc]
  text place := by rw [h'.text, h.text, List.append_assoc, List.flatMap_append]
  here := h'.here.trans h.here
  file place hfile := h'.file place (h.file place hfile)

theorem congr (h : Grows lines written after) (heq : ∀ target, lines target = more target) :
    Grows more written after := (funext heq : lines = more) ▸ h

theorem add (written : Written) (line : Text) (target : Target)
    (hfile : ∀ place, target = .file place → written.disk.HasFile place) :
    Grows (fun other => if other = target then [line] else []) written
      (written.add line target) := by
  cases target with
  | console => exact ⟨rfl, fun _ => (List.append_nil _).symm, rfl, fun _ h => h⟩
  | file p =>
    have hp := (hfile p rfl).node?_ne_folder
    refine ⟨(List.append_nil _).symm, fun place => ?_, written.disk.here_appendAt p _,
      fun place h => h.appendAt hp _⟩
    change (written.disk.appendAt p (line ++ ['\n'])).textAt place = _
    rw [Disk.textAt_appendAt hp]
    by_cases heq : p = place
    · subst heq
      rw [if_pos rfl, if_pos rfl, List.flatMap_singleton]
    · rw [if_neg heq, if_neg fun h => heq (Target.file.inj h).symm, List.flatMap_nil]

/-- A line that is added to different targets is added once to each of them. -/
theorem addAll {targets : List Target} (hapart : targets.Nodup) {written : Written} (line : Text)
    (hfiles : ∀ place, .file place ∈ targets → written.disk.HasFile place) :
    Grows (fun target => if target ∈ targets then [line] else []) written
      (targets.foldl (fun written target => written.add line target) written) := by
  induction targets generalizing written with
  | nil => exact (refl written).congr fun _ => rfl
  | cons first targets ih =>
    obtain ⟨hfirst, hrest⟩ := List.nodup_cons.mp hapart
    have hadd := add written line first fun place h => hfiles place (h ▸ List.mem_cons_self ..)
    refine (hadd.trans (ih hrest fun place h =>
      hadd.file place (hfiles place (List.mem_cons_of_mem _ h)))).congr fun target => ?_
    by_cases heq : target = first
    · subst heq
      simp [hfirst]
    · simp [heq]

end Grows

/-! ## Entries -/

/-- The targets that an entry is written to. -/
def Logger.targets (logger : Logger) (entry : Entry) : List Target :=
  if entry.level ≤ unset || entry.level < logger.threshold then []
  else (logger.sinks.filter fun sink => sink.level ≤ entry.level).map Sink.target

theorem Logger.emit_eq {logger : Logger} (h : logger.sinks ≠ []) (stamp : Text) (written : Written)
    (entry : Entry) : logger.emit stamp written entry =
      (logger.targets entry).foldl (fun written target => written.add (line stamp entry) target)
        written := by
  unfold emit targets
  split
  · rfl
  · rw [if_neg (by simpa using h), List.foldl_map]

/-- The logger is as the setup that stands has it, and its file is there. -/
structure Stands (here : Place) (standing : Standing) (state : State) : Prop where
  here : state.written.disk.here = here
  sinks : state.logger.sinks =
    ⟨.console, standing.console⟩ :: standing.file.toList.map fun place => ⟨.file place, .debug⟩
  threshold : state.logger.threshold = standing.least
  least : .debug ≤ standing.least
  file : ∀ place ∈ standing.file, state.written.disk.HasFile place

variable {here : Place} {standing : Standing} {state : State}

/-- An entry that is passed on comes to the console from its level on, and to the file. -/
theorem Stands.targets_eq (h : Stands here standing state) (entry : Entry) :
    state.logger.targets entry =
      if standing.least ≤ entry.level then
        (if standing.console ≤ entry.level then [.console] else []) ++
          standing.file.toList.map .file
      else [] := by
  have hunset : unset < standing.least := Int.lt_of_lt_of_le (by decide) h.least
  unfold Logger.targets
  rw [h.threshold, h.sinks]
  simp only [Bool.or_eq_true, decide_eq_true_iff]
  by_cases hpassed : standing.least ≤ entry.level
  · have hfile : (standing.file.toList.map fun place => (⟨.file place, .debug⟩ : Sink)).filter
        (fun sink => sink.level ≤ entry.level) =
          standing.file.toList.map fun place => ⟨.file place, .debug⟩ := by
      refine List.filter_eq_self.mpr fun sink hsink => ?_
      obtain ⟨place, -, rfl⟩ := List.mem_map.mp hsink
      exact decide_eq_true (Int.le_trans h.least hpassed)
    have hin : ¬ (entry.level ≤ unset ∨ entry.level < standing.least) := by
      rw [not_or, Int.not_le, Int.not_lt]
      exact ⟨Int.lt_of_lt_of_le hunset hpassed, hpassed⟩
    rw [if_neg hin, if_pos hpassed, List.filter_cons, hfile]
    by_cases hconsole : standing.console ≤ entry.level <;> simp [hconsole]
  · rw [if_pos (.inr (Int.not_le.mp hpassed)), if_neg hpassed]

theorem Stands.mem_targets (h : Stands here standing state) {entry : Entry} {target : Target} :
    target ∈ state.logger.targets entry ↔ standing.takes entry target = true := by
  rw [h.targets_eq]
  by_cases hpassed : standing.least ≤ entry.level
  · cases target with
    | console => simp [Standing.takes, hpassed]
    | file place =>
      by_cases hconsole : standing.console ≤ entry.level <;>
        simp [Standing.takes, hpassed, hconsole, eq_comm]
  · cases target <;> simp [Standing.takes, hpassed]

theorem Stands.nodup_targets (h : Stands here standing state) (entry : Entry) :
    (state.logger.targets entry).Nodup := by
  rw [h.targets_eq]
  split
  · cases standing.file with
    | none => split <;> simp
    | some place => split <;> simp
  · exact .nil

/-! ## Steps -/

/-- An entry is written to the targets that take it, and nothing else changes. -/
theorem Stands.log (h : Stands here standing state) (stamp : Text) (entry : Entry) :
    Grows (fun target => if standing.takes entry target then [line stamp entry] else [])
      state.written (state.after (.log stamp entry)).written ∧
    Stands here standing (state.after (.log stamp entry)) := by
  have hgrows : Grows (fun target => if standing.takes entry target then [line stamp entry] else [])
      state.written (state.logger.emit stamp state.written entry) := by
    rw [Logger.emit_eq (by rw [h.sinks]; exact nofun)]
    refine (Grows.addAll (h.nodup_targets entry) (line stamp entry) fun place hplace => ?_).congr
      fun target => by simp only [h.mem_targets]
    obtain ⟨hfile, -⟩ := Bool.and_eq_true_iff.mp (h.mem_targets.mp hplace)
    exact h.file place (of_decide_eq_true hfile)
  exact ⟨hgrows, hgrows.here.trans h.here, h.sinks, h.threshold, h.least,
    fun place hplace => hgrows.file place (h.file place hplace)⟩

/-! ## Setups -/

/-- The file of a setup can be opened, if it asks for one. -/
def Setup.CanOpen (setup : Setup) (stamp : Text) (disk : Disk) : Prop :=
  ∀ action ∈ setup.fileAction?,
    disk.CanWrite (setup.actionFolder action) (setup.filePath action stamp)

/-- A setup without a level changes nothing. Every other one puts its console in the place of all
sinks, and its file behind it, unless the file cannot be opened: then the level of the logger stays
as well. -/
theorem configure_cases (setup : Setup) (stamp : Text) (logger : Logger) (disk : Disk) :
    ∃ after, SameTexts disk after ∧
      ((∃ misnomer, setup.level? = none ∧
        configure setup stamp logger disk = (logger, after, .error (.noLevel misnomer))) ∨
      ∃ level, setup.level? = some level ∧
        ((¬ setup.CanOpen stamp disk ∧ ∃ fault, configure setup stamp logger disk =
          ({ logger with sinks := [⟨.console, level⟩] }, after, .error (.disk fault))) ∨
        setup.CanOpen stamp disk ∧ (∀ place ∈ setup.place? disk.here stamp, after.HasFile place) ∧
          configure setup stamp logger disk =
            ({ level := min .debug level
               sinks := ⟨.console, level⟩ ::
                (setup.place? disk.here stamp).toList.map fun place => ⟨.file place, .debug⟩
               isOwn := true }, after, .ok ()))) := by
  unfold configure Setup.level? Setup.CanOpen Setup.place?
  cases levelOf (if setup.level.isEmpty then "INFO" else setup.level) with
  | error misnomer => exact ⟨disk, .refl disk, .inl ⟨misnomer, rfl, rfl⟩⟩
  | ok level =>
    cases setup.fileAction? with
    | none => exact ⟨disk, .refl disk, .inr ⟨level, rfl, .inr ⟨nofun, nofun, rfl⟩⟩⟩
    | some action =>
      obtain ⟨made, hfolders, ⟨hcannot, fault, hopen⟩ | ⟨place, hmade, hwritable, hopen⟩⟩ :=
        openFile_cases (setup.actionFolder action) action stamp disk
      · refine ⟨made, .of_onlyFolders hfolders, .inr ⟨level, rfl, .inl ⟨?_, fault, ?_⟩⟩⟩
        · exact fun hcan => hcannot (hcan action rfl)
        · simp only [hopen]
      · have hnode := (Disk.place_of_writable hwritable).2
        have hplace : place = (setup.filePath action stamp).target disk.here :=
          hfolders.here ▸ Disk.eq_target_of_writable hwritable
        refine ⟨made.appendAt place [],
          (SameTexts.of_onlyFolders hfolders).trans (.appendAt_nil hnode),
          .inr ⟨level, rfl, .inr ⟨fun _ haction => ?_, fun _ hmem => ?_, ?_⟩⟩⟩
        · cases haction
          exact ⟨made, place, hmade, hwritable⟩
        · cases hmem
          change Disk.HasFile ((setup.filePath action stamp).target disk.here) _
          rw [← hplace]
          exact ⟨_, Disk.node?_appendAt hnode []⟩
        · simp only [hopen, Option.map_some, Option.toList_some, List.map_singleton, ← hplace]

/-- A setup is accepted if it has a level, and its file, if it asks for one, can be opened. -/
theorem outcome_configure_iff {state : State} {setup : Setup} {stamp : Text} :
    state.outcome (.configure setup stamp) = .ok () ↔
      setup.level? ≠ none ∧ setup.CanOpen stamp state.written.disk := by
  obtain ⟨_, -, ⟨_, hlevel, heq⟩ | ⟨_, hlevel, ⟨hopen, _, heq⟩ | ⟨hopen, -, heq⟩⟩⟩ :=
    configure_cases setup stamp state.logger state.written.disk
  · simp [State.outcome, heq, hlevel]
  · simp [State.outcome, heq, hlevel, hopen]
  · simp [State.outcome, heq, hlevel, hopen]

theorem grows_configure (state : State) (setup : Setup) (stamp : Text) :
    Grows (fun _ => []) state.written (state.after (.configure setup stamp)).written := by
  obtain ⟨after, hsame, ⟨_, -, heq⟩ | ⟨level, -, ⟨-, _, heq⟩ | ⟨-, -, heq⟩⟩⟩ :=
    configure_cases setup stamp state.logger state.written.disk
  all_goals
    simp only [State.after, heq]
    exact .of_sameTexts hsame

theorem threshold_min {level : Level} (h : level = unset ∨ .debug ≤ level) {logger : Logger}
    (hlogger : logger.level = min .debug level) :
    logger.threshold = if level = unset then .warning else .debug := by
  unfold Logger.threshold
  rw [hlogger]
  rcases h with rfl | hdebug
  · rfl
  · have hne : level ≠ unset := by
      rintro rfl
      exact absurd hdebug (by decide)
    rw [Int.min_eq_left hdebug, if_neg hne]
    rfl

/-- A setup that is accepted stands, whatever stood before. A refused one leaves what stood, or its
own console. -/
theorem stands_configure (standing : Standing) {setup : Setup} {stamp : Text}
    (hhere : state.written.disk.here = here)
    (h : state.outcome (.configure setup stamp) = .ok () ∨ Stands here standing state) :
    Stands here
      (standing.after here (.configure setup stamp, state.outcome (.configure setup stamp)))
      (state.after (.configure setup stamp)) := by
  subst hhere
  obtain ⟨after, hsame, ⟨_, hlevel, heq⟩ | ⟨level, hlevel, ⟨-, _, heq⟩ | ⟨-, hfile, heq⟩⟩⟩ :=
    configure_cases setup stamp state.logger state.written.disk
  · have hstands := h.resolve_left (by simp [State.outcome, heq])
    simp only [State.after, State.outcome, heq, Standing.after, hlevel]
    exact ⟨hsame.here, hstands.sinks, hstands.threshold, hstands.least,
      fun place hplace => hsame.file place (hstands.file place hplace)⟩
  · have hstands := h.resolve_left (by simp [State.outcome, heq])
    simp only [State.after, State.outcome, heq, Standing.after, hlevel]
    exact ⟨hsame.here, rfl, hstands.threshold, hstands.least, nofun⟩
  · simp only [State.after, State.outcome, heq, Standing.after, hlevel]
    refine ⟨hsame.here, rfl, threshold_min (Setup.level?_cases hlevel) rfl, ?_, hfile⟩
    change Level.debug ≤ if level = unset then Level.warning else Level.debug
    split
    · decide
    · exact Int.le_refl _

/-! ## Runs -/

/-- Along all calls each target gets its lines. -/
theorem Stands.afterAll (h : Stands here standing state) (calls : List Call) :
    Grows (fun target => linesFor here target standing (state.course calls))
      state.written (state.afterAll calls).written := by
  induction calls generalizing state standing with
  | nil => exact Grows.refl state.written
  | cons call calls ih =>
    cases call with
    | configure setup stamp =>
      have hgrows := grows_configure state setup stamp
      exact hgrows.trans (ih (stands_configure standing h.here (.inr h)))
    | log stamp entry =>
      obtain ⟨hgrows, hstands⟩ := h.log stamp entry
      refine (hgrows.trans (ih hstands)).congr fun target => ?_
      rw [State.course, linesFor]
      split <;> rfl

/-! ## The law of the log -/

/-- **The law of the log.** From a setup on that is accepted, whatever was written and whichever
sinks there were before it, the console and every file keep what they hold and get exactly their
lines behind it. The lines of the console are the entries from the level on that the setup before
them names, and those of a file are the entries from details on that are logged while a setup with
this file stands: each of them once, in their order, whatever the level of the console. Under a
setup with the unset level the lines of both are the warnings and what is more serious. A setup is
accepted if it names a level and its file, if it asks for one, can be opened. -/
theorem lines_of_calls (start : State) (before : Standing) (setup : Setup) (stamp : Text)
    (calls : List Call) (haccepted : start.outcome (.configure setup stamp) = .ok ()) :
    let here := start.written.disk.here
    let history := .configure setup stamp :: calls
    let last := start.afterAll history
    last.written.console =
      start.written.console ++ linesFor here .console before (start.course history) ∧
    (∀ place, last.written.disk.textAt place = start.written.disk.textAt place ++
      (linesFor here (.file place) before (start.course history)).flatMap (· ++ ['\n'])) ∧
    ∀ (state : State) setup stamp, state.outcome (.configure setup stamp) = .ok () ↔
      setup.level? ≠ none ∧ setup.CanOpen stamp state.written.disk := by
  intro here history last
  have hstands := stands_configure before rfl (.inl haccepted)
  have hgrows := (grows_configure start setup stamp).trans (hstands.afterAll calls)
  exact ⟨hgrows.console, hgrows.text, fun _ _ _ => outcome_configure_iff⟩

/-- The file takes what the console passes over, also behind a setup that is refused, and nothing
behind one that is accepted. -/
theorem lines_of_calls_search :
    let setup : Setup :=
      { level := "WARNING", action := some "search", toFile := true, folder := "logs" }
    let calls : List Call :=
      [.log "03:05" ⟨.debug, "skipped document"⟩, .log "03:06" ⟨.warning, "catalog down"⟩,
        .configure { level := "basic_format" } "0102030407", .log "03:08" ⟨.info, "query"⟩,
        .configure { level := "debug" } "0102030409", .log "03:10" ⟨.debug, "late"⟩]
    let start : State := {}
    let last := start.afterAll (.configure setup "0102030405" :: calls)
    start.outcome (.configure setup "0102030405") = .ok () ∧
      last.written.console = ["03:06 [WARN] catalog down".toList, "03:10 [DEBG] late".toList] ∧
      last.written.disk.textAt ["logs".toList, "search".toList, "search_0102030405.log".toList] =
        ("03:05 [DEBG] skipped document\n03:06 [WARN] catalog down\n" ++
          "03:08 [INFO] query\n").toList := by
  intro setup calls start last
  have haccepted : start.outcome (.configure setup "0102030405") = .ok () := by decide +kernel
  obtain ⟨hconsole, htext, -⟩ :=
    lines_of_calls start ⟨.debug, .debug, none⟩ setup "0102030405" calls haccepted
  refine ⟨haccepted, hconsole.trans ?_, (htext _).trans ?_⟩
  · decide +kernel
  · decide +kernel

/-- Under the unset level details come neither to the console, which is to take everything, nor to
the file, which is to take them at every level. -/
theorem unset_level_loses_details :
    let setup : Setup :=
      { level := "NOTSET", action := some "search", toFile := true, folder := "logs" }
    let place : Place := ["logs", "search", "search_0102030405.log"]
    let start : State := {}
    let opened := start.after (.configure setup "0102030405")
    let last := opened.after (.log "03:05" ⟨.debug, "skipped document"⟩)
    start.outcome (.configure setup "0102030405") = .ok () ∧ setup.level? = some unset ∧
      opened.logger.sinks = [⟨.console, unset⟩, ⟨.file place, .debug⟩] ∧
      last.written.console = [] ∧ last.written.disk.textAt place = [] := by
  decide +kernel

end CorpusSearch.Log
