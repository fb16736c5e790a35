-- Workers may finish their tasks in any order. A pool hands out the tasks one by one, so every task
-- is finished once, and the slots then hold the results in the order of the tasks.
import CorpusSearch.Match.Workers
import Mathlib.Data.List.Basic
import Mathlib.Logic.Relation

namespace CorpusSearch.Match

open scoped List

/-! ## Slots -/

theorem filterMap_range_getElem? {α : Type} (results : List α) :
    (List.range results.length).filterMap (fun i => results[i]?) = results := by
  induction results with
  | nil => rfl
  | cons result results ih =>
    rw [List.length_cons, List.range_succ_eq_map, List.filterMap_cons, List.filterMap_map]
    simpa [Function.comp_def] using ih

/-- Once every task has finished, the slots hold the results in the order of the tasks. -/
theorem inSlots_arrivals {α : Type} (results : List α) {schedule : List Nat}
    (h : ∀ task < results.length, task ∈ schedule) :
    inSlots results.length (schedule.filterMap fun number =>
      results[number]?.map fun result => (number, result)) = results := by
  let arrivals := schedule.filterMap fun number =>
    results[number]?.map fun result => (number, result)
  have harrived : ∀ arrival ∈ arrivals, results[arrival.1]? = some arrival.2 := by
    intro arrival harrival
    obtain ⟨number, _, hresult⟩ := List.mem_filterMap.mp harrival
    obtain ⟨result, hsome, rfl⟩ := Option.map_eq_some_iff.mp hresult
    exact hsome
  have hslot : ∀ task ∈ List.range results.length,
      (arrivals.find? fun arrival => arrival.1 == task).map (·.2) = results[task]? := by
    intro task htask
    have hlt : task < results.length := List.mem_range.mp htask
    have hmem : (task, results[task]) ∈ arrivals :=
      List.mem_filterMap.mpr ⟨task, h task hlt, by simp [hlt]⟩
    cases hfind : arrivals.find? fun arrival => arrival.1 == task with
    | none => simpa using List.find?_eq_none.mp hfind _ hmem
    | some arrival =>
      have hnumber : arrival.1 = task := by simpa using List.find?_some hfind
      rw [Option.map_some, ← hnumber, harrived arrival (List.mem_of_find?_eq_some hfind)]
  calc inSlots results.length arrivals
      = (List.range results.length).filterMap (fun task => results[task]?) := by
        unfold inSlots
        exact List.filterMap_congr hslot
    _ = results := filterMap_range_getElem? results

theorem scheduled_perm {α : Type} {tasks : List α} {schedule : List Nat}
    (h : schedule.Perm (List.range tasks.length)) :
    (schedule.filterMap fun number => tasks[number]?).Perm tasks := by
  have hperm := h.filterMap fun number => tasks[number]?
  rwa [filterMap_range_getElem?] at hperm

/-- Tasks that are done in any order leave their results in the order of the tasks. -/
theorem inSlots_map {α β : Type} (f : α → β) {tasks : List α} {schedule : List Nat}
    (h : schedule.Perm (List.range tasks.length)) :
    inSlots tasks.length (schedule.filterMap fun number =>
      tasks[number]?.map fun task => (number, f task)) = tasks.map f := by
  have hall : ∀ task < (tasks.map f).length, task ∈ schedule := by
    intro task htask
    rw [List.length_map] at htask
    rw [h.mem_iff, List.mem_range]
    exact htask
  have hslots := inSlots_arrivals (tasks.map f) hall
  simpa [Function.comp_def] using hslots

/-! ## Pools -/

/-- A pool of workers: the tasks that wait, the one that has waited longest first, the tasks that
workers are at, and the finished ones in the order in which they were finished. -/
structure Pool where
  waiting : List Nat
  busy : List Nat := []
  finished : List Nat := []

namespace Pool

/-- All tasks of a pool, wherever they are. -/
def tasks (pool : Pool) : List Nat := pool.waiting ++ pool.busy ++ pool.finished

/-- What can happen next in a pool with that many workers. -/
inductive Step (workers : Nat) : Pool → Pool → Prop
  /-- A free worker takes the task that has waited longest. -/
  | take {task : Nat} {waiting busy finished : List Nat} (free : busy.length < workers) :
      Step workers ⟨task :: waiting, busy, finished⟩ ⟨waiting, task :: busy, finished⟩
  /-- A worker finishes its task. -/
  | finish {task : Nat} {waiting busy finished : List Nat} (mem : task ∈ busy) :
      Step workers ⟨waiting, busy, finished⟩ ⟨waiting, busy.erase task, finished ++ [task]⟩

abbrev Run (workers : Nat) : Pool → Pool → Prop := Relation.ReflTransGen (Step workers)

variable {workers : Nat} {pool next : Pool}

theorem Step.perm (h : Step workers pool next) : next.tasks.Perm pool.tasks := by
  cases h with
  | @take task waiting busy finished free =>
    have hmiddle : (waiting ++ task :: busy).Perm (task :: waiting ++ busy) := List.perm_middle
    exact hmiddle.append_right finished
  | @finish task waiting busy finished mem =>
    have hbusy : (busy.erase task ++ [task]).Perm busy :=
      (List.perm_append_singleton task _).trans (List.perm_cons_erase mem).symm
    calc waiting ++ busy.erase task ++ (finished ++ [task])
        ~ waiting ++ busy.erase task ++ ([task] ++ finished) :=
          List.perm_append_comm.append_left _
      _ = waiting ++ (busy.erase task ++ [task]) ++ finished := by simp
      _ ~ waiting ++ busy ++ finished := (hbusy.append_left waiting).append_right finished

/-- A run loses no task and does none twice. -/
theorem Run.perm (h : Run workers pool next) : next.tasks.Perm pool.tasks := by
  induction h with
  | refl => exact List.Perm.refl _
  | tail _ hstep ih => exact hstep.perm.trans ih

theorem run_waiting (h : 0 < workers) (waiting finished : List Nat) :
    Run workers ⟨waiting, [], finished⟩ ⟨[], [], finished ++ waiting⟩ := by
  induction waiting generalizing finished with
  | nil => rw [List.append_nil]
  | cons task waiting ih =>
    have htake : Step workers ⟨task :: waiting, [], finished⟩ ⟨waiting, [task], finished⟩ := .take h
    have hfinish : Step workers ⟨waiting, [task], finished⟩
        ⟨waiting, [task].erase task, finished ++ [task]⟩ := .finish (List.mem_singleton.mpr rfl)
    rw [List.erase_cons_head] at hfinish
    have hrest := ih (finished ++ [task])
    rw [List.append_assoc, List.singleton_append] at hrest
    exact .head htake (.head hfinish hrest)

end Pool

/-- Whether that many workers can finish `count` tasks in the order of a schedule. A worker alone
does the tasks one after another, and so is a single task done. -/
def Finishes (workers : Int) (count : Nat) (schedule : List Nat) : Prop :=
  if workers ≤ 1 ∨ count ≤ 1 then schedule = List.range count
  else Pool.Run workers.toNat ⟨List.range count, [], []⟩ ⟨[], [], schedule⟩

/-- Workers finish every task once. -/
theorem Finishes.perm {workers : Int} {count : Nat} {schedule : List Nat}
    (h : Finishes workers count schedule) : schedule.Perm (List.range count) := by
  unfold Finishes at h
  split at h
  · rw [h]
  · simpa [Pool.tasks] using h.perm

/-- Any count of workers can finish tasks one after another. -/
theorem finishes_range (workers : Int) (count : Nat) :
    Finishes workers count (List.range count) := by
  unfold Finishes
  split
  · rfl
  · rename_i hmany
    simpa using Pool.run_waiting (by omega : 0 < workers.toNat) (List.range count) []

/-- Of two tasks, two workers can finish the second one first. -/
theorem finishes_overtaking (count : Nat) :
    Finishes 2 count (if count = 2 then [1, 0] else List.range count) := by
  by_cases htwo : count = 2
  · subst htwo
    exact .head (.take (by decide)) (.head (.take (by decide))
      (.head (.finish (List.mem_cons_self ..)) (.head (.finish (List.mem_cons_self ..)) .refl)))
  · rw [if_neg htwo]
    exact finishes_range 2 count

end CorpusSearch.Match
