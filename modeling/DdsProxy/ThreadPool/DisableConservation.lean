import DdsProxy.ThreadPool.DisableReturns
import DdsProxy.ThreadPool.Order

/-!
The accounting of task ids of `Conservation` over runs with the stepwise `disable()`. The
steps of `disable()` move no id: clearing `enabled_` and disabling a queue keep the queued
ids, and the joins remove only threads that have left `thread_routine_`, which hold none.
So at every point of such a run, in the middle of `disable()` too, each id put on an
enabled queue has been run, dropped as the `0` of queue 1, or is still pending. For the
same reason the ids of each priority are taken in the order they were emitted.
-/

namespace DdsProxy.ThreadPool.DisableSteps

open SlotThreadPool Registration Conservation Order

variable {τ : Type}

def Action.event? : Action τ → Option (Event τ)
  | .slot taskId task => some (.slot taskId task)
  | .emit taskId => some (.emit taskId)
  | .emitByPriority taskId priorityId => some (.emitByPriority taskId priorityId)
  | .thread i => some (.thread i)
  | _ => none

namespace Disabling

def along {α : Type} (f : SlotThreadPool τ → Event τ → List α) :
    Disabling τ → List (Action τ) → List α
  | _, [] => []
  | s, act :: actions =>
      ((act.event?).map (f s.pool)).getD [] ++ along f (s.step act) actions

end Disabling

theorem held_of_stopped {p : SlotThreadPool τ} (h : ∀ w ∈ p.threads, w = .stopped) :
    held p = [] := by
  simp only [held, List.filterMap_eq_nil_iff]
  intro w hw
  rw [h w hw]
  rfl

theorem pending_disablingStep {s : Disabling τ} (hs : Registered s.pool) (act : Action τ) :
    (((act.event?).map (emitted s.pool)).getD [] ++ pending s.pool).Perm
      ((s.ran act).map Prod.fst ++ ((act.event?).map (dropped s.pool)).getD [] ++
        pending (s.step act).pool) := by
  cases act with
  | slot t f => exact pending_step hs (.slot t f)
  | emit t => exact pending_step hs (.emit t)
  | emitByPriority t k => exact pending_step hs (.emitByPriority t k)
  | thread i => exact pending_step hs (.thread i)
  | enable =>
      simp only [Disabling.step]
      split
      · simpa [emitted, dropped, SlotThreadPool.ran] using pending_step hs .enable
      · simp [Action.event?]
  | join =>
      simp only [Disabling.step]
      split
      · next h =>
          have hheld : held s.pool = held { s.pool with threads := [] } := by
            rw [held_of_stopped h.2]; rfl
          simp [Action.event?, pending, hheld]
      · simp [Action.event?]
  | _ =>
      simp only [Disabling.step]
      split <;> simp [Action.event?, pending, held]

theorem pending_disablingRun {s : Disabling τ} (hs : Registered s.pool)
    (actions : List (Action τ)) :
    (Disabling.along emitted s actions ++ pending s.pool).Perm
      ((s.ranDuring actions).map Prod.fst ++ Disabling.along dropped s actions ++
        pending (s.run actions).pool) := by
  induction actions generalizing s with
  | nil => simp [Disabling.along, Disabling.ranDuring, Disabling.run]
  | cons act actions ih =>
      have hS := List.perm_iff_count.mp (pending_disablingStep hs act)
      have hR := List.perm_iff_count.mp (ih (step_registered hs act))
      simp only [Disabling.along, Disabling.ranDuring, Disabling.run, List.foldl_cons,
        List.map_append] at hR ⊢
      refine List.perm_iff_count.mpr fun x => ?_
      have h1 := hS x
      have h2 := hR x
      simp only [List.count_append] at h1 h2 ⊢
      omega

theorem eq_zero_of_mem_disablingAlong_dropped {s : Disabling τ} {actions : List (Action τ)}
    {x : TaskId} (h : x ∈ Disabling.along dropped s actions) : x = 0 := by
  induction actions generalizing s with
  | nil => cases h
  | cons act actions ih =>
      rcases List.mem_append.mp h with h | h
      · cases hact : act.event? with
        | none => simp [hact] at h
        | some e => exact eq_zero_of_mem_dropped (by simpa [hact] using h)
      · exact ih h

/-- With `disable()` taken step by step, at every point of every run of a pool from its
construction, the middle of `disable()` included, no task has run more often than calls
put its id on an enabled queue, and every id other than `0` put on a queue is, as many
times as it was put there, run or still pending. -/
theorem stepwise_no_task_lost_or_run_twice (n : Nat) (actions : List (Action τ)) :
    let s : Disabling τ := ⟨create n, .idle⟩
    (∀ taskId, ((s.ranDuring actions).map Prod.fst).count taskId ≤
        (Disabling.along emitted s actions).count taskId) ∧
      ∀ taskId, taskId ≠ 0 → (Disabling.along emitted s actions).count taskId =
        ((s.ranDuring actions).map Prod.fst).count taskId +
          (pending (s.run actions).pool).count taskId := by
  intro s
  have h := pending_disablingRun (s := s) (registered_create n) actions
  have hcreate : pending s.pool = [] := by simp [s, pending, held, create]
  rw [hcreate, List.append_nil] at h
  refine ⟨fun x => ?_, fun x hx => ?_⟩
  · rw [h.count_eq]; simp only [List.count_append]; omega
  · have h0 : (Disabling.along dropped s actions).count x = 0 :=
      List.count_eq_zero.mpr fun hm => hx (eq_zero_of_mem_disablingAlong_dropped hm)
    rw [h.count_eq]; simp only [List.count_append]; omega

/-! ### Dispatch order -/

theorem queue_disablingStep (s : Disabling τ) (act : Action τ) (k : Fin 2) :
    (queueOf s.pool k).queue ++ ((act.event?).map (emittedOn k s.pool)).getD [] =
      ((act.event?).map (takenOff k s.pool)).getD [] ++ (queueOf (s.step act).pool k).queue := by
  cases act with
  | slot t f => exact queue_step s.pool (.slot t f) k
  | emit t => exact queue_step s.pool (.emit t) k
  | emitByPriority t j => exact queue_step s.pool (.emitByPriority t j) k
  | thread i => exact queue_step s.pool (.thread i) k
  | _ =>
      simp only [Disabling.step]
      split <;> match k with
        | 0 | 1 => simp [Action.event?, queueOf]

theorem queue_disablingRun (s : Disabling τ) (actions : List (Action τ)) (k : Fin 2) :
    (queueOf s.pool k).queue ++ Disabling.along (emittedOn k) s actions =
      Disabling.along (takenOff k) s actions ++ (queueOf (s.run actions).pool k).queue := by
  induction actions generalizing s with
  | nil => simp [Disabling.along, Disabling.run]
  | cons act actions ih =>
      rw [Disabling.along, Disabling.along, ← List.append_assoc, queue_disablingStep s act k,
        List.append_assoc, ih, List.append_assoc]
      rfl

/-- With `disable()` taken step by step, at every point of every run of a pool from its
construction, the middle of `disable()` included, the ids taken off the queue of priority
`k`, in the order they were taken, and then the ids still on it, are the ids emitted on
priority `k` while that queue was enabled, in the order they were emitted. -/
theorem stepwise_dispatch_in_emission_order (n : Nat) (actions : List (Action τ)) (k : Fin 2) :
    let s : Disabling τ := ⟨create n, .idle⟩
    Disabling.along (emittedOn k) s actions =
      Disabling.along (takenOff k) s actions ++ (queueOf (s.run actions).pool k).queue := by
  simpa using queue_disablingRun ⟨create n, .idle⟩ actions k

end DdsProxy.ThreadPool.DisableSteps
