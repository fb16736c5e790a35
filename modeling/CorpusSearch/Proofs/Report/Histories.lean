-- The file of results along a history of calls. Results are written and actions end in any order,
-- and each time an action ends, the one writer of files writes all results so far, in their order,
-- and nothing while there are none. The console keeps a result from the file if it stands before
-- the file and cannot show it; and half of a surrogate pair in one result leaves the file empty.
import CorpusSearch.Proofs.Files.Writable
import CorpusSearch.Proofs.Report.Encoded
import CorpusSearch.Proofs.Report.Files
import CorpusSearch.Proofs.Report.Recovered
import CorpusSearch.Proofs.Settings.Contract

namespace CorpusSearch.Report

open Corpus Files

/-! ## Formats -/

theorem Format.eq_name_of_ofName? {name : Text} {format : Format}
    (h : Format.ofName? name = some format) : name = format.name := by
  have hfound := List.find?_some h
  exact (of_decide_eq_true hfound).symm

theorem Format.name_injective {format other : Format} (h : format.name = other.name) :
    format = other := by
  cases format <;> cases other <;> first | rfl | exact absurd h (by decide)

namespace Writer

/-- The writers of names are those of the formats that the names stand for. -/
theorem exists_formats_of_ofNames {folder : Path} {names : List Text} {writers : List Writer}
    (h : ofNames folder names = .ok writers) :
    ∃ formats : List Format, names = formats.map Format.name ∧
      writers = formats.map (ofFormat folder) := by
  induction names generalizing writers with
  | nil =>
    cases h
    exact ⟨[], rfl, rfl⟩
  | cons name names ih =>
    unfold ofNames at h
    cases hformat : Format.ofName? name with
    | none =>
      rw [hformat] at h
      cases h
    | some format =>
      rw [hformat] at h
      cases hrest : ofNames folder names with
      | error fault =>
        rw [hrest] at h
        cases h
      | ok rest =>
        rw [hrest] at h
        cases h
        obtain ⟨formats, hnames, hwriters⟩ := ih hrest
        refine ⟨format :: formats, ?_, ?_⟩
        · rw [List.map_cons, hnames, Format.eq_name_of_ofName? hformat]
        · rw [List.map_cons, hwriters]

/-! ## Writers with one file -/

/-- The writers are one of files with the results so far, and consoles around it; `isFirst` says
that none of them stands before it. -/
def Holds (isFirst : Bool) (folder : Path) (results : List (Result RawText))
    (writers : List Writer) : Prop :=
  ∃ before after : Nat, (isFirst = true ↔ before = 0) ∧
    writers =
      List.replicate before .console ++ .file folder results :: List.replicate after .console

theorem map_ofFormat_of_not_mem {folder : Path} {formats : List Format} (h : .json ∉ formats) :
    formats.map (ofFormat folder) = List.replicate formats.length .console := by
  rw [List.eq_replicate_iff, List.length_map]
  refine ⟨rfl, fun writer hwriter => ?_⟩
  obtain ⟨format, hformat, rfl⟩ := List.mem_map.mp hwriter
  cases format with
  | console => rfl
  | json => exact absurd hformat h

/-- Of different names one at most is that of files. -/
theorem holds_of_ofNames {folder : Path} {names : List Text} {writers : List Writer}
    (h : ofNames folder names = .ok writers) (honce : names.Nodup)
    (hjson : Format.json.name ∈ names) :
    Holds (names.head? = some Format.json.name) folder [] writers := by
  obtain ⟨formats, rfl, rfl⟩ := exists_formats_of_ofNames h
  obtain ⟨format, hmem, hname⟩ := List.mem_map.mp hjson
  obtain rfl := Format.name_injective hname
  obtain ⟨before, after, rfl⟩ := List.append_of_mem hmem
  obtain ⟨hapart, hafter⟩ : .json ∉ before ∧ .json ∉ after := by
    have hnodup := List.nodup_middle.mp honce.of_map
    have hout := (List.nodup_cons.mp hnodup).1
    exact ⟨fun hin => hout (List.mem_append_left _ hin),
      fun hin => hout (List.mem_append_right _ hin)⟩
  refine ⟨before.length, after.length, ?_, ?_⟩
  · rw [decide_eq_true_iff, List.length_eq_zero_iff]
    cases before with
    | nil => exact ⟨fun _ => rfl, fun _ => rfl⟩
    | cons first before =>
      refine ⟨fun hhead => ?_, nofun⟩
      have hfirst := Format.name_injective (Option.some.inj hhead)
      exact absurd (hfirst ▸ List.mem_cons_self) hapart
  · rw [List.map_append, List.map_cons, map_ofFormat_of_not_mem hapart,
      map_ofFormat_of_not_mem hafter]
    rfl

/-- Whether the console can show a result. -/
def isShown (result : Result RawText) : Bool := (text? (result.map RawText.shown)).isOk

variable {folder : Path} {results : List (Result RawText)} {result : Result RawText}

theorem writeAll_cons (writer : Writer) (writers : List Writer) :
    (writeAll result (writer :: writers)).value =
      match (write result writer).value with
      | .error fault => (writer :: writers, some fault)
      | .ok writer =>
        (writer :: (writeAll result writers).value.1, (writeAll result writers).value.2) := by
  rw [writeAll, Traced.value_bind]
  cases (write result writer).value <;> rfl

theorem value_write_console :
    (write result .console).value =
      (text? (result.map RawText.shown)).map fun _ => .console := by
  unfold write
  cases text? (result.map RawText.shown) <;> rfl

/-- A console lets the writers behind it have a result that it can show. -/
theorem writeAll_console (writers : List Writer) :
    (writeAll result (.console :: writers)).value.1 =
      .console :: if isShown result then (writeAll result writers).value.1 else writers := by
  rw [writeAll_cons, value_write_console, isShown]
  cases text? (result.map RawText.shown) <;> rfl

theorem writeAll_consoles (result : Result RawText) (count : Nat) (writers : List Writer) :
    (writeAll result (List.replicate count .console ++ writers)).value.1 =
      List.replicate count .console ++
        if count = 0 ∨ isShown result then (writeAll result writers).value.1 else writers := by
  induction count with
  | zero => rw [if_pos (.inl rfl)]; rfl
  | succ count ih =>
    rw [List.replicate_succ, List.cons_append, writeAll_console, ih, List.cons_append]
    by_cases hshown : isShown result = true
    · rw [if_pos hshown, if_pos (.inr hshown), if_pos (.inr hshown)]
    · rw [if_neg hshown, if_neg (not_or.mpr ⟨Nat.succ_ne_zero count, hshown⟩)]

/-- A result comes to the file, unless a console before it cannot show the result. -/
theorem Holds.write {isFirst : Bool} {writers : List Writer}
    (h : Holds isFirst folder results writers) (result : Result RawText) :
    Holds isFirst folder (if isFirst || isShown result then results ++ [result] else results)
      (writeAll result writers).value.1 := by
  obtain ⟨before, after, hfirst, rfl⟩ := h
  have hafter := writeAll_consoles result after []
  have hfile : (writeAll result (.file folder results :: List.replicate after .console)).value.1 =
      .file folder (results ++ [result]) :: List.replicate after .console := by
    rw [writeAll_cons]
    change _ :: (writeAll result (List.replicate after .console)).value.1 = _
    rw [List.append_nil] at hafter
    rw [hafter, show (writeAll result []).value.1 = [] from rfl, ite_self, List.append_nil]
  refine ⟨before, after, hfirst, ?_⟩
  rw [writeAll_consoles, hfile]
  simp only [← hfirst, Bool.or_eq_true]
  split <;> rfl

/-- A result that every writer has taken is in the file. -/
theorem Holds.reaches {isFirst : Bool} {writers : List Writer}
    (h : Holds isFirst folder results writers)
    (htaken : (writeAll result writers).value.2 = none) : (isFirst || isShown result) = true := by
  obtain ⟨before, after, hfirst, rfl⟩ := h
  rw [Bool.or_eq_true, hfirst]
  cases before with
  | zero => exact .inl rfl
  | succ before =>
    refine .inr ?_
    rw [List.replicate_succ, List.cons_append, writeAll_cons, value_write_console] at htaken
    unfold isShown
    cases htext : text? (result.map RawText.shown) with
    | ok => rfl
    | error fault =>
      rw [htext] at htaken
      cases htaken

/-! ## One file -/

variable {action stamp : Text} {disk : Disk}

theorem finishAll_consoles (action stamp : Text) (disk : Disk) (count : Nat)
    (writers : List Writer) :
    finishAll action stamp disk (List.replicate count .console ++ writers) =
      finishAll action stamp disk writers := by
  induction count with
  | zero => rfl
  | succ count ih =>
    rw [List.replicate_succ, List.cons_append, finishAll, finish]
    dsimp only
    rw [ih]
    rcases finishAll action stamp disk writers with ⟨after, fault | paths⟩ <;> rfl

theorem Holds.finishAll {isFirst : Bool} {writers : List Writer}
    (h : Holds isFirst folder results writers) :
    finishAll action stamp disk writers =
      ((finish action stamp disk (.file folder results)).1,
        (finish action stamp disk (.file folder results)).2.map Option.toList) := by
  obtain ⟨before, after, -, rfl⟩ := h
  have hafter : ∀ disk, Writer.finishAll action stamp disk (List.replicate after .console) =
      (disk, .ok []) := by
    intro disk
    have hconsoles := finishAll_consoles action stamp disk after []
    rwa [List.append_nil] at hconsoles
  rw [finishAll_consoles, Writer.finishAll]
  rcases finish action stamp disk (.file folder results) with ⟨made, fault | path?⟩
  · rfl
  · dsimp only
    rw [hafter]
    change (made, Except.ok (path?.toList ++ [])) = _
    rw [List.append_nil]
    rfl

/-- A file that can be written is written with all results, or it is empty when they cannot be
encoded. -/
theorem finish_of_canWrite (hresults : results ≠ [])
    (h : disk.CanWrite folder (filePath folder action stamp)) :
    let path := filePath folder action stamp
    ∃ after, finish action stamp disk (.file folder results) =
        (after, ((fileContent results).mapError Fault.text).map fun _ => some path) ∧
      after.readText path = .ok ((fileContent results).toOption.getD []) := by
  intro path
  obtain ⟨made, place, hmade, hwritable⟩ := h
  refine ⟨made.put place (.file ((fileContent results).toOption.getD [])), ?_,
    Disk.readText_put hwritable⟩
  obtain ⟨result, rest, rfl⟩ := List.exists_cons_of_ne_nil hresults
  rw [finish_of_makeFolders hmade, Disk.writeEncoded_of_writable hwritable]
  cases fileContent (result :: rest) <;> rfl

/-- The end of an action keeps no later file from being written, whether it succeeds or not. -/
theorem canWrite_finish {path : Path} (h : disk.CanWrite folder path) :
    (finish action stamp disk (.file folder results)).1.CanWrite folder path := by
  cases results with
  | nil => exact h
  | cons result rest =>
    obtain ⟨made, -, hmade, -⟩ := id h
    obtain ⟨hfolder, place, hwritable⟩ := h.makeFolders hmade
    rw [finish_of_makeFolders hmade]
    exact Disk.canWrite_writeEncoded hfolder hwritable _ _

end Writer

/-! ## Histories -/

/-- A call of the writers of a command: they are given a result, or an action ends at a time. -/
inductive Call where
  | write (result : Result RawText)
  | finish (action stamp : Text)

/-- The result that a call gives to the writers. -/
def Call.result? : Call → Option (Result RawText)
  | .write result => some result
  | .finish .. => none

/-- Writers at work, and the disk with their files. -/
structure Work where
  writers : List Writer
  disk : Disk

/-- What a call leaves, whether it is refused or not. -/
def Work.after (work : Work) : Call → Work
  | .write result =>
    { work with writers := (Writer.writeAll result work.writers).value.1 }
  | .finish action stamp =>
    { work with disk := (Writer.finishAll action stamp work.disk work.writers).1 }

/-- What calls leave one after another. -/
def Work.afterAll (work : Work) (calls : List Call) : Work := calls.foldl Work.after work

/-- The results that calls write into a file: all that are given, but not those that the console
cannot show if the file is not `isFirst`. -/
def written (isFirst : Bool) (calls : List Call) : List (Result RawText) :=
  (calls.filterMap Call.result?).filter fun result => isFirst || Writer.isShown result

/-- The file writer holds results, and a file can be written at a path in its folder. -/
structure Work.IsAt (isFirst : Bool) (folder path : Path) (results : List (Result RawText))
    (work : Work) : Prop where
  holds : Writer.Holds isFirst folder results work.writers
  canWrite : work.disk.CanWrite folder path

variable {isFirst : Bool} {folder path : Path} {results : List (Result RawText)} {work : Work}

theorem written_append (isFirst : Bool) (calls more : List Call) :
    written isFirst (calls ++ more) = written isFirst calls ++ written isFirst more := by
  rw [written, List.filterMap_append, List.filter_append]
  rfl

theorem written_write (isFirst : Bool) (result : Result RawText) :
    written isFirst [.write result] =
      if isFirst || Writer.isShown result then [result] else [] := by
  change List.filter _ [result] = _
  rw [List.filter_cons, List.filter_nil]

theorem Work.IsAt.after (h : work.IsAt isFirst folder path results) (call : Call) :
    (work.after call).IsAt isFirst folder path (results ++ written isFirst [call]) := by
  cases call with
  | write result =>
    refine ⟨?_, h.canWrite⟩
    have hholds := h.holds.write result
    change Writer.Holds _ _ _ (Writer.writeAll result work.writers).value.1
    rw [written_write]
    split at hholds
    · rwa [if_pos ‹_›]
    · rwa [if_neg ‹_›, List.append_nil]
  | finish action stamp =>
    refine ⟨(List.append_nil results).symm ▸ h.holds, ?_⟩
    change (Writer.finishAll action stamp work.disk work.writers).1.CanWrite folder path
    rw [h.holds.finishAll]
    exact Writer.canWrite_finish h.canWrite

/-- Along all calls: results come to the file in their order, and the file can still be written. -/
theorem Work.IsAt.afterAll (h : work.IsAt isFirst folder path results) (calls : List Call) :
    (work.afterAll calls).IsAt isFirst folder path (results ++ written isFirst calls) := by
  induction calls generalizing work results with
  | nil => exact (List.append_nil results).symm ▸ h
  | cons call calls ih =>
    have hrest := ih (h.after call)
    rwa [List.append_assoc, ← written_append] at hrest

/-! ## The law of the file -/

theorem exists_isAt_of_settings {raw : Entries} {settings : Settings}
    (hsettings : Settings.ofEntries raw = .ok settings)
    (hjson : Format.json.name ∈ settings.output.formats) {disk : Disk}
    (hwritable : disk.CanWrite folder path) :
    ∃ writers, Writer.ofNames folder settings.output.formats = .ok writers ∧
      Work.IsAt (settings.output.formats.head? = some Format.json.name) folder path []
        ⟨writers, disk⟩ := by
  have hgives := Settings.gives_ofEntries raw
  rw [hsettings] at hgives
  have hsound := hgives.1.output
  obtain ⟨writers, hwriters, -⟩ := Settings.exists_writers folder hsound.known
  exact ⟨writers, hwriters, Writer.holds_of_ofNames hwriters hsound.once hjson, hwritable⟩

/-- **The law of the file.** Along every history of calls of the writers of accepted settings with
the format of files, the end of an action writes no file while no result is written, and afterwards
one file each time, if its folder can be made or is there. The text of the file is read back to
exactly the results so far in their order, one standing alone and several in a list, with all that
they say but the kinds of records; so different histories of results whose records have the kinds of
their groups are in different files. But when half of a surrogate pair stands in any of the results,
the end of an action is refused and leaves an empty file. Every write that comes through adds its
result; one that is refused, because the console cannot show its bytes, adds it only if the format
of files is the first. The numbers of the results have no more digits than are read. -/
theorem file_of_calls {raw : Entries} {settings : Settings}
    (hsettings : Settings.ofEntries raw = .ok settings)
    (hjson : Format.json.name ∈ settings.output.formats) (disk : Disk) (calls : List Call)
    (action stamp : Text) :
    let folder := Path.ofText settings.output.folder
    let path := Writer.filePath folder action stamp
    let isFirst : Bool := settings.output.formats.head? = some Format.json.name
    let results := written isFirst calls
    disk.CanWrite folder path → (∀ result ∈ results, HasShortNumbers result) →
    ∃ writers, Writer.ofNames folder settings.output.formats = .ok writers ∧
      let work := Work.afterAll ⟨writers, disk⟩ calls
      let ended := Writer.finishAll action stamp work.disk work.writers
      (results = [] → ended = (work.disk, .ok [])) ∧
      ((∃ result ∈ results, HasHalf result) →
        (∃ fault, ended.2 = .error (.text fault)) ∧ ended.1.readText path = .ok []) ∧
      ((∀ result ∈ results, ¬ HasHalf result) → ∃ wholes : List Result,
        results = wholes.map Result.raw ∧
        (wholes ≠ [] → ended.2 = .ok [path] ∧ ∃ text, ended.1.readText path = .ok text ∧
          Json.read text = .ok (payload (wholes.map data))) ∧
        payload (wholes.map data) = (match wholes with
          | [whole] => data whole
          | wholes => .list (wholes.map data)) ∧
        resultsOf? (payload (wholes.map data)) = some (wholes.map byGroup) ∧
        ∀ others : List Result, (∀ whole ∈ wholes, IsGrouped whole) →
          (∀ other ∈ others, IsGrouped other) →
          payload (wholes.map data) = payload (others.map data) → wholes = others) ∧
      ∀ result, (Writer.writeAll result work.writers).value.2 = none →
        written isFirst (calls ++ [.write result]) = results ++ [result] := by
  intro folder path isFirst results hwritable hshort
  obtain ⟨writers, hwriters, hstart⟩ := exists_isAt_of_settings hsettings hjson hwritable
  refine ⟨writers, hwriters, ?_⟩
  intro work ended
  have hend : work.IsAt isFirst folder path results := hstart.afterAll calls
  have hended : ended = _ := hend.holds.finishAll
  refine ⟨fun hnone => ?_, fun hhalf => ?_, fun hplain => ?_, fun result htaken => ?_⟩
  · rw [hended, hnone]
    rfl
  · obtain ⟨result, hresult, -⟩ := id hhalf
    obtain ⟨fault, hfault⟩ := fileContent_of_hasHalf hhalf
    obtain ⟨after, hfinish, htext⟩ := Writer.finish_of_canWrite
      (List.ne_nil_of_mem hresult) hend.canWrite
    rw [hended, hfinish, htext, hfault]
    exact ⟨⟨fault, rfl⟩, rfl⟩
  · obtain ⟨wholes, hwholes⟩ := exists_raw_of_not_hasHalf hplain
    refine ⟨wholes, hwholes, fun hsome => ?_, ?_, resultsOf?_payload wholes,
      fun others h h' => payload_injective h h'⟩
    · have hwholesShort : ∀ whole ∈ wholes, HasShortNumbers whole := fun whole hwhole =>
        (hshort whole.raw (hwholes ▸ List.mem_map_of_mem hwhole)).of_map
      obtain ⟨after, hfinish, htext⟩ := Writer.finish_of_canWrite
        (hwholes ▸ mt List.map_eq_nil_iff.mp hsome) hend.canWrite
      rw [hwholes, fileContent_raw] at htext
      rw [hended, hfinish, hwholes, fileContent_raw]
      exact ⟨rfl, _, htext, read_indented_payload hwholesShort⟩
    · rcases wholes with - | ⟨whole, - | ⟨next, rest⟩⟩ <;> rfl
  · rw [written_append, written_write, if_pos (hend.holds.reaches htaken)]

/-- Two results in one file; the result between them has more bytes than the console can show. -/
theorem file_of_calls_both :
    let record : Record :=
      { kind := .law, title := "Trusts Law", url := "https://a.ky/1", hash := "ab", size := 2 }
    let first : Result :=
      { query := "trust", needles := ["trust"], laws := [record],
        stats := { documents := 1, bytes := 2, hits := 1 } }
    let huge : Result := { query := "trust", stats := { bytes := 2 ^ 1100 } }
    let last : Result := { query := "deed" }
    let calls : List Call :=
      [.finish "search" "20240102_030405", .write first.raw, .finish "search" "20240102_030405",
        .write huge.raw, .write last.raw]
    ∃ writers, ∃ paths : List Path, ∃ text,
      Writer.ofNames (.ofText "output") ["console", "json"] = .ok writers ∧
      let work := Work.afterAll ⟨writers, {}⟩ calls
      let ended := Writer.finishAll "search" "20240102_030406" work.disk work.writers
      ended.2 = .ok paths ∧ paths.map Path.text = ["output/search_20240102_030406.json".toList] ∧
        paths.map ended.1.readText = [.ok text] ∧
        Json.read text = .ok (.list [data first, data last]) := by
  intro record first huge last calls
  let raw : Entries :=
    [(.text "log", .mapping [(.text "level", .text "INFO")]),
      (.text "output", .mapping [(.text "formats", .list [.text "console", .text "json"])])]
  have houtput : (Settings.ofEntries raw).map (·.output) =
      .ok { folder := "output", formats := ["console", "json"] } := by decide +kernel
  obtain ⟨settings, hsettings, hfolder, hformats⟩ : ∃ settings,
      Settings.ofEntries raw = .ok settings ∧ settings.output.folder = "output".toList ∧
        settings.output.formats = ["console".toList, "json".toList] := by
    cases hread : Settings.ofEntries raw with
    | error fault =>
      rw [hread] at houtput
      cases houtput
    | ok settings =>
      rw [hread] at houtput
      have hsection := Except.ok.inj houtput
      exact ⟨settings, rfl, congrArg (·.folder) hsection, congrArg (·.formats) hsection⟩
  have hjson : Format.json.name ∈ settings.output.formats := by
    rw [hformats]
    decide
  have hwritten : written false calls = [first.raw, last.raw] := by decide +kernel
  have hshort : ∀ result ∈ written false calls, HasShortNumbers result := by
    rw [hwritten]
    refine List.forall_mem_cons.mpr ⟨⟨by decide, by decide, by decide, ?_⟩,
      List.forall_mem_singleton.mpr ⟨by decide, by decide, by decide, ?_⟩⟩
    · intro kind
      cases kind with
      | law => exact List.forall_mem_singleton.mpr (by decide)
      | textbook => exact nofun
      | rule => exact nofun
    · intro kind
      cases kind <;> exact nofun
  have hlaw := file_of_calls hsettings hjson {} calls "search" "20240102_030406"
  rw [hfolder, hformats] at hlaw
  obtain ⟨writers, hwriters, -, -, hplain, -⟩ := hlaw ⟨_, _, rfl, rfl⟩ hshort
  have hresults : written (["console".toList, "json".toList].head? = some Format.json.name) calls =
      [first, last].map Result.raw := hwritten
  rw [hresults] at hplain
  obtain ⟨wholes, hwholes, hsome, -⟩ := hplain fun result hresult => by
    obtain ⟨whole, -, rfl⟩ := List.mem_map.mp hresult
    exact not_hasHalf_raw whole
  obtain rfl := Result.raw_injective.list_map hwholes
  obtain ⟨hended, text, htext, hread⟩ := hsome nofun
  refine ⟨writers, _, text, hwriters, hended, by decide +kernel, ?_, hread⟩
  rw [List.map_singleton, htext]

/-- Results that come to no file: the console has too many bytes to show before the file gets the
one, and the title of the other one is half of a surrogate pair. -/
theorem finishAll_loses_results :
    let half : Half := ⟨0xd800, rfl⟩
    let record : Record RawText :=
      { kind := .law, title := [.half half], url := [], hash := "ab", size := 2 }
    let huge : Result := { query := "trust", stats := { bytes := 2 ^ 1100 } }
    let halved : Result RawText := { query := Text.raw "trust", laws := [record] }
    let path := Writer.filePath (.ofText "output") "search" "20240102_030405"
    let ended (result : Result RawText) :=
      (Writer.ofNames (.ofText "output") ["console", "json"]).map fun writers =>
        let work := Work.afterAll ⟨writers, {}⟩ [.write result]
        let ended := Writer.finishAll "search" "20240102_030405" work.disk work.writers
        (ended.2, ended.1.readText path)
    ended huge.raw = .ok (.ok [], .error (.refused .missing path)) ∧
      ended halved =
        .ok (.error (.text { position := 114, first := half, more := [] }), .ok []) := by
  decide +kernel

end CorpusSearch.Report
