-- Workers that finish their tasks in any order: each result goes into the slot of its task.
namespace CorpusSearch.Match

/-- The results of `count` tasks in the order of the tasks, from results that arrive in any order
with the number of their task. Of two results for one task the first one counts. -/
def inSlots {α : Type} (count : Nat) (arrivals : List (Nat × α)) : List α :=
  (List.range count).filterMap fun task =>
    (arrivals.find? fun arrival => arrival.1 == task).map (·.2)

end CorpusSearch.Match
