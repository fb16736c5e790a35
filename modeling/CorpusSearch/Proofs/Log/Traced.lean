-- The value of a traced computation does not depend on its trace: it is what the same computation
-- gives without log entries and requests. The requests are those of its parts, one after another.
import CorpusSearch.Log.Entry

namespace CorpusSearch.Traced

variable {α β : Type}

instance instLawfulMonad : LawfulMonad Traced := LawfulMonad.mk' Traced
  (by intro _ t; cases t; simp [Functor.map])
  (by intro _ _ a f; simp [bind, pure])
  (by intro _ _ _ t f g; simp [bind, List.append_assoc])

/-! ## Values -/

@[simp] theorem value_pure (a : α) : (pure a : Traced α).value = a := rfl

@[simp] theorem value_bind (t : Traced α) (f : α → Traced β) :
    (t >>= f).value = (f t.value).value := rfl

@[simp] theorem value_map (f : α → β) (t : Traced α) : (f <$> t).value = f t.value := rfl

theorem value_mapM (f : α → Traced β) (tasks : List α) :
    (tasks.mapM f).value = tasks.map fun task => (f task).value := by
  induction tasks with
  | nil => rfl
  | cons task tasks ih => simp [ih]

/-- The values of tasks that are done one after another and may give none. -/
theorem value_filterMapM (f : α → Traced (Option β)) (tasks : List α) :
    (tasks.filterMapM f).value = tasks.filterMap fun task => (f task).value := by
  induction tasks with
  | nil => rfl
  | cons task tasks ih =>
    rw [List.filterMapM_cons, value_bind]
    cases h : (f task).value with
    | none => simp [h, ih]
    | some b => simp [h, ih]

/-! ## Requests -/

@[simp] theorem requests_pure (a : α) : (pure a : Traced α).requests = [] := rfl

@[simp] theorem requests_log (level : Log.Level) (message : Text) :
    (log level message).requests = [] := rfl

@[simp] theorem requests_request (url : Text) : (request url).requests = [url] := rfl

@[simp] theorem requests_bind (t : Traced α) (f : α → Traced β) :
    (t >>= f).requests = t.requests ++ (f t.value).requests := List.filterMap_append

@[simp] theorem requests_map (f : α → β) (t : Traced α) : (f <$> t).requests = t.requests := by
  rw [map_eq_pure_bind, requests_bind, requests_pure, List.append_nil]

/-- The requests of tasks that are done one after another and may give nothing. -/
theorem requests_filterMapM (f : α → Traced (Option β)) (tasks : List α) :
    (tasks.filterMapM f).requests = tasks.flatMap fun task => (f task).requests := by
  induction tasks with
  | nil => rfl
  | cons task tasks ih =>
    rw [List.filterMapM_cons, requests_bind, List.flatMap_cons, ← ih]
    cases (f task).value with
    | none => rfl
    | some b => simp

end CorpusSearch.Traced
