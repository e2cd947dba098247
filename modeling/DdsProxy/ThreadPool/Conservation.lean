import DdsProxy.ThreadPool.Registration

/-!
No task is created, duplicated or lost inside `SlotThreadPool` once a call has put its id
on a queue. Every id that `emit` or `emit_by_priority` puts on an enabled queue is, at
every later point of any run, in exactly one of these places: still on a queue, held by a
thread, run (by a thread's step or by the join inside `disable`), or dropped as the id `0`
that `thread_routine_` takes off queue 1 and reads as the timeout of `consume(1)`.
-/

namespace DdsProxy.ThreadPool.Conservation

open SlotThreadPool Registration

variable {τ : Type}

def held (p : SlotThreadPool τ) : List TaskId :=
  p.threads.filterMap Worker.holding

def pending (p : SlotThreadPool τ) : List TaskId :=
  p.taskQueuePriority0.queue ++ p.taskQueuePriority1.queue ++ held p

def accepted (p : SlotThreadPool τ) (taskId : TaskId) (priorityId : Nat) : List TaskId :=
  if (p.slots.lookup taskId).isSome ∧
      (priorityId = 0 ∧ p.taskQueuePriority0.enabled ∨
        priorityId = 1 ∧ p.taskQueuePriority1.enabled) then [taskId]
  else []

/-- The id a worker's step at `w` takes off queue 1 without running it: the id `0`. -/
def droppedBy (p : SlotThreadPool τ) (w : Worker) : List TaskId :=
  if w = .consuming1 ∧ p.taskQueuePriority1.enabled ∧
      p.taskQueuePriority1.queue.head? = some 0 then [0]
  else []

def emitted (p : SlotThreadPool τ) : Event τ → List TaskId
  | .emit taskId => accepted p taskId 0
  | .emitByPriority taskId priorityId => accepted p taskId priorityId
  | _ => []

def dropped (p : SlotThreadPool τ) : Event τ → List TaskId
  | .thread i =>
      match p.threads[i]? with
      | some w => droppedBy p w
      | none => []
  | _ => []

def along {α : Type} (f : SlotThreadPool τ → Event τ → List α) :
    SlotThreadPool τ → List (Event τ) → List α
  | _, [] => []
  | p, e :: events => f p e ++ along f (p.step e) events

theorem workerStep_perm (p : SlotThreadPool τ) (w : Worker)
    (hw : ∀ taskId, w = .executing taskId → (p.slots.lookup taskId).isSome) :
    (p.taskQueuePriority0.queue ++ p.taskQueuePriority1.queue ++ w.holding.toList).Perm
      ((p.workerStep w).2.2.toList.map Prod.fst ++ droppedBy p w ++
        ((p.workerStep w).2.1.taskQueuePriority0.queue ++
          (p.workerStep w).2.1.taskQueuePriority1.queue ++ (p.workerStep w).1.holding.toList)) := by
  cases w with
  | free => simp only [workerStep]; split <;> simp [droppedBy, Worker.holding]
  | consuming0 =>
      cases hen : p.taskQueuePriority0.enabled
      · simp [workerStep, DBQueueWaitHandler.consume_of_disabled hen, droppedBy, Worker.holding]
      · cases hq : p.taskQueuePriority0.queue with
        | nil =>
            simp [workerStep, DBQueueWaitHandler.consume_of_nil hen hq, droppedBy, Worker.holding,
              hq]
        | cons t rest =>
            simp only [workerStep, DBQueueWaitHandler.consume_of_cons hen hq, droppedBy,
              Worker.holding, hq]
            simpa using (List.perm_append_singleton t (rest ++ p.taskQueuePriority1.queue)).symm
  | consuming1 =>
      cases hen : p.taskQueuePriority1.enabled
      · simp [workerStep, DBQueueWaitHandler.consume_of_disabled hen, droppedBy, Worker.holding,
          hen]
      · cases hq : p.taskQueuePriority1.queue with
        | nil =>
            simp [workerStep, DBQueueWaitHandler.consume_of_nil hen hq, droppedBy, Worker.holding,
              hq, hen]
        | cons t rest =>
            by_cases ht : t = 0
            · subst ht
              simp [workerStep, DBQueueWaitHandler.consume_of_cons hen hq, droppedBy,
                Worker.holding, hq, hen]
            · simp [workerStep, DBQueueWaitHandler.consume_of_cons hen hq, droppedBy,
                Worker.holding, hq, hen, ht]
              exact (List.perm_append_singleton t rest).symm.append_left _
  | executing t =>
      obtain ⟨f, hf⟩ := Option.isSome_iff_exists.mp (hw t rfl)
      simpa [workerStep, hf, droppedBy, Worker.holding] using
        List.perm_append_singleton t (p.taskQueuePriority0.queue ++ p.taskQueuePriority1.queue)
  | stopped => simp [workerStep, droppedBy, Worker.holding]
  | tsnh => simp [workerStep, droppedBy, Worker.holding]

private theorem filterMap_cons_toList {α β : Type} (g : α → Option β) (a : α) (l : List α) :
    (a :: l).filterMap g = (g a).toList ++ l.filterMap g := by
  cases h : g a <;> simp [List.filterMap_cons, h]

theorem filterMap_set_perm {α β : Type} (g : α → Option β) {l : List α} {i : Nat} {x : α}
    (h : l[i]? = some x) (y : α) :
    ((l.set i y).filterMap g ++ (g x).toList).Perm (l.filterMap g ++ (g y).toList) := by
  induction l generalizing i with
  | nil => simp at h
  | cons a l ih =>
      cases i with
      | zero =>
          obtain rfl : a = x := by simpa using h
          simp only [List.set_cons_zero, filterMap_cons_toList]
          classical
          rw [List.perm_iff_count]; intro b; simp only [List.count_append]; omega
      | succ i =>
          simp only [List.set_cons_succ, filterMap_cons_toList, List.append_assoc]
          exact (ih (by simpa using h)).append_left _

private theorem map_fst_filterMap_lookup (slots : List (TaskId × τ)) : ∀ l : List Worker,
    (∀ taskId, Worker.executing taskId ∈ l → (slots.lookup taskId).isSome) →
      (l.filterMap fun w => w.holding.bind fun taskId =>
        (slots.lookup taskId).map (taskId, ·)).map Prod.fst = l.filterMap Worker.holding
  | [], _ => rfl
  | w :: l, h => by
      have ih := map_fst_filterMap_lookup slots l fun t ht => h t (List.mem_cons_of_mem _ ht)
      cases w with
      | executing t =>
          obtain ⟨f, hf⟩ := Option.isSome_iff_exists.mp (h t (List.mem_cons_self _ _))
          simpa [Worker.holding, hf] using ih
      | _ => simpa [Worker.holding] using ih

theorem map_fst_inFlight {p : SlotThreadPool τ}
    (hp : ∀ taskId, Worker.executing taskId ∈ p.threads → (p.slots.lookup taskId).isSome) :
    p.inFlight.map Prod.fst = held p :=
  map_fst_filterMap_lookup p.slots p.threads hp

theorem held_enable (p : SlotThreadPool τ) : held p.enable = held p := by
  simp only [held, enable_threads]
  split
  · rfl
  · simp [List.filterMap_replicate_of_none (show Worker.holding .free = none from rfl)]

theorem pending_emitByPriority (p : SlotThreadPool τ) (taskId : TaskId) (priorityId : Nat) :
    (accepted p taskId priorityId ++ pending p).Perm
      (pending (after (p.emitByPriority taskId priorityId))) := by
  cases hl : p.slots.lookup taskId with
  | none => simp [accepted, emitByPriority, hl, after]
  | some f =>
      by_cases h0 : priorityId = 0
      · subst h0
        cases hen : p.taskQueuePriority0.enabled <;>
          simp [accepted, emitByPriority, hl, after, hen, pending, held]
        exact List.perm_middle.symm
      · by_cases h1 : priorityId = 1
        · subst h1
          cases hen : p.taskQueuePriority1.enabled <;>
            simp [accepted, emitByPriority, hl, after, hen, pending, held]
          simpa only [← List.append_assoc] using List.perm_middle.symm
        · simp [accepted, emitByPriority, hl, after, h0, h1]

theorem pending_step {p : SlotThreadPool τ} (hp : Registered p) (e : Event τ) :
    (emitted p e ++ pending p).Perm
      ((p.ran e).map Prod.fst ++ dropped p e ++ pending (p.step e)) := by
  cases e with
  | slot t f =>
      rcases after_slot p t f with h | h <;> simp [emitted, ran, dropped, step, h, pending, held]
  | emit t =>
      simpa [emitted, ran, dropped, step, emit_eq_emitByPriority] using
        pending_emitByPriority p t 0
  | emitByPriority t k => simpa [emitted, ran, dropped, step] using pending_emitByPriority p t k
  | enable => simp [emitted, ran, dropped, step, pending, held_enable]
  | disable =>
      simp only [emitted, ran, dropped, step, pending, held, disable_threads,
        disable_taskQueuePriority0_queue, disable_taskQueuePriority1_queue]
      split
      · rw [map_fst_inFlight hp.executing]
        simp only [held, List.filterMap_nil, List.append_nil, List.nil_append,
          List.perm_append_comm]
      · simp
  | thread i =>
      cases hi : p.threads[i]? with
      | none => simp [emitted, ran, dropped, step, hi, threadStep_of_getElem?_eq_none hi]
      | some w =>
          have hW := workerStep_perm p w fun t ht => hp.executing t (ht ▸ List.getElem?_mem hi)
          have hL := filterMap_set_perm Worker.holding hi (p.workerStep w).1
          simp only [emitted, ran, dropped, step, hi, threadStep_of_getElem? hi, pending, held,
            List.nil_append]
          refine List.perm_iff_count.mpr fun x => ?_
          have h1 := List.perm_iff_count.mp hW x
          have h2 := List.perm_iff_count.mp hL x
          simp only [List.count_append] at h1 h2 ⊢
          omega

theorem pending_run {p : SlotThreadPool τ} (hp : Registered p) (events : List (Event τ)) :
    (along emitted p events ++ pending p).Perm
      ((p.ranDuring events).map Prod.fst ++ along dropped p events ++ pending (p.run events)) := by
  induction events generalizing p with
  | nil => simp [along, ranDuring]
  | cons e events ih =>
      have hS := List.perm_iff_count.mp (pending_step hp e)
      have hR := List.perm_iff_count.mp (ih (registered_step hp e))
      simp only [along, ranDuring, run_cons, List.map_append]
      refine List.perm_iff_count.mpr fun x => ?_
      have h1 := hS x
      have h2 := hR x
      simp only [List.count_append] at h1 h2 ⊢
      omega

theorem eq_zero_of_mem_dropped {p : SlotThreadPool τ} {e : Event τ} {x : TaskId}
    (h : x ∈ dropped p e) : x = 0 := by
  cases e with
  | thread i =>
      simp only [dropped] at h
      split at h
      · unfold droppedBy at h; split at h <;> simp_all
      · cases h
  | _ => cases h

theorem eq_zero_of_mem_along_dropped {p : SlotThreadPool τ} {events : List (Event τ)}
    {x : TaskId} (h : x ∈ along dropped p events) : x = 0 := by
  induction events generalizing p with
  | nil => cases h
  | cons e events ih =>
      rcases List.mem_append.mp h with h | h
      exacts [eq_zero_of_mem_dropped h, ih h]

theorem tasks_conserved (n : Nat) (events : List (Event τ)) :
    let p : SlotThreadPool τ := create n
    (along emitted p events).Perm
      ((p.ranDuring events).map Prod.fst ++ along dropped p events ++ pending (p.run events)) := by
  simpa [pending, held, create] using pending_run (registered_create n) events

end DdsProxy.ThreadPool.Conservation
