-- Where a logger writes: to the console and to the files of its sinks. The rows of a database at
-- any other place stay as they are.
import CorpusSearch.Log.Sink
import CorpusSearch.Proofs.Files.Writable

namespace CorpusSearch.Log

open Files

variable {logger : Logger} {place : Place}

/-- A logger that does not write to the file at a place. -/
def Logger.IsApart (place : Place) (logger : Logger) : Prop :=
  ∀ sink ∈ logger.sinks, sink.target ≠ .file place

instance Logger.instDecidableIsApart : Decidable (logger.IsApart place) :=
  inferInstanceAs (Decidable (∀ sink ∈ _, _))

theorem sameRows_add (written : Written) (line : Text) {target : Target}
    (h : target ≠ .file place) : SameRows place written.disk (written.add line target).disk := by
  cases target with
  | console => exact .refl place _
  | file p => exact .appendAt (fun hp => h (congrArg Target.file hp)) _

/-- What every step keeps, all steps keep. -/
theorem sameRows_foldl {α : Type} {step : Written → α → Written} {items : List α}
    (h : ∀ written, ∀ item ∈ items, SameRows place written.disk (step written item).disk)
    (written : Written) : SameRows place written.disk (items.foldl step written).disk := by
  induction items generalizing written with
  | nil => exact .refl place _
  | cons item items ih =>
    exact (h written item (List.mem_cons_self ..)).trans
      (ih (fun w i hi => h w i (List.mem_cons_of_mem _ hi)) _)

/-- An entry is written to the sinks of the logger and nowhere else. -/
theorem sameRows_emit (h : logger.IsApart place) (stamp : Text) (written : Written)
    (entry : Entry) : SameRows place written.disk (logger.emit stamp written entry).disk := by
  unfold Logger.emit
  split
  · exact .refl place _
  · split
    · split
      · exact .refl place _
      · exact sameRows_add written entry.message (by simp)
    · exact sameRows_foldl (fun w sink hsink =>
        sameRows_add w _ (h sink (List.mem_filter.mp hsink).1)) written

/-- To open a file is to make its folders and to add nothing to it. It fails only if the file cannot
be written. -/
theorem openFile_cases (folder : Path) (action stamp : Text) (disk : Disk) :
    let path := folder.join (.ofText (action ++ "_" ++ stamp ++ ".log"))
    ∃ made, OnlyFolders disk made ∧
      ((¬ disk.CanWrite folder path ∧
        ∃ fault, openFile folder action stamp disk = (made, .error fault)) ∨
      ∃ place, disk.makeFolders folder = (made, .ok ()) ∧ made.writable path = .ok place ∧
        openFile folder action stamp disk = (made.appendAt place [], .ok place)) := by
  intro path
  have hfolders := OnlyFolders.makeFolders disk folder
  unfold openFile Disk.CanWrite
  rcases hmake : disk.makeFolders folder with ⟨made, fault | _⟩
  · rw [hmake] at hfolders
    refine ⟨made, hfolders, .inl ⟨?_, fault, rfl⟩⟩
    rintro ⟨_, _, hmade, -⟩
    cases hmade
  · rw [hmake] at hfolders
    refine ⟨made, hfolders, ?_⟩
    dsimp only
    cases hwritable : made.writable path with
    | error fault =>
      refine .inl ⟨?_, fault, rfl⟩
      rintro ⟨_, _, hmade, hplace⟩
      cases hmade
      rw [hwritable] at hplace
      cases hplace
    | ok place => exact .inr ⟨place, rfl, rfl, rfl⟩

/-- The file that a logger opens is added to, and only folders are made for it. -/
theorem sameRows_openFile {folder : Path} {action stamp : Text} {disk after : Disk}
    {opened : Except Files.Fault Place}
    (hopen : openFile folder action stamp disk = (after, opened))
    (h : ∀ p, opened = .ok p → p ≠ place) : SameRows place disk after := by
  obtain ⟨made, hfolders, ⟨-, fault, heq⟩ | ⟨p, -, -, heq⟩⟩ :=
    openFile_cases folder action stamp disk
  all_goals
    rw [heq] at hopen
    cases hopen
  · exact .of_onlyFolders place hfolders
  · exact (SameRows.of_onlyFolders place hfolders).trans (.appendAt (h p rfl) _)

theorem sameRows_configure {setup : Setup} {stamp : Text} {disk after : Disk} {next : Logger}
    {outcome : Except Fault Unit}
    (hset : configure setup stamp logger disk = (next, after, outcome))
    (h : outcome = .ok () → next.IsApart place) : SameRows place disk after := by
  unfold configure at hset
  split at hset
  · cases hset
    exact .refl place disk
  · dsimp only at hset
    split at hset
    · cases hset
      exact .refl place disk
    · split at hset
      · cases hset
        exact sameRows_openFile ‹_› fun p hp => by cases hp
      · rename_i opened hopen
        cases hset
        have hsink := h rfl ⟨.file opened, .debug⟩ (by simp)
        refine sameRows_openFile hopen fun p hp he => ?_
        cases hp
        exact hsink (congrArg Target.file he)

end CorpusSearch.Log
