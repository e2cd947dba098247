import DdsProxy.ThreadPool.Conservation

/-!
The order in which `SlotThreadPool` hands out the ids of one priority. Each queue is first
in, first out, and only `emit`, `emit_by_priority` and the `consume` of a thread change
what is on it: `slot`, `enable` and `disable` leave the queued ids where they are. So over
every run of the pool, whatever the interleaving, the threads take the ids of each
priority off its queue in the order in which they were emitted, and the only ids they take
off a queue without running them are the ids `0` of queue 1.
-/

namespace DdsProxy.ThreadPool.Order

open SlotThreadPool Conservation

variable {τ : Type}

def queueOf (p : SlotThreadPool τ) : Fin 2 → DBQueueWaitHandler TaskId
  | 0 => p.taskQueuePriority0
  | 1 => p.taskQueuePriority1

def consuming : Fin 2 → Worker
  | 0 => .consuming0
  | 1 => .consuming1

def emittedOn (k : Fin 2) (p : SlotThreadPool τ) : Event τ → List TaskId
  | .emit taskId => if k = 0 then accepted p taskId 0 else []
  | .emitByPriority taskId priorityId =>
      if priorityId = k.val then accepted p taskId priorityId else []
  | _ => []

def takenBy (k : Fin 2) (p : SlotThreadPool τ) (w : Worker) : List TaskId :=
  if w = consuming k ∧ (queueOf p k).enabled then (queueOf p k).queue.head?.toList else []

def takenOff (k : Fin 2) (p : SlotThreadPool τ) : Event τ → List TaskId
  | .thread i =>
      match p.threads[i]? with
      | some w => takenBy k p w
      | none => []
  | _ => []

@[simp] theorem queueOf_create (n : Nat) (k : Fin 2) :
    (queueOf (create n : SlotThreadPool τ) k).queue = [] := by
  match k with
  | 0 | 1 => rfl

@[simp] theorem queueOf_withThreads (p : SlotThreadPool τ) (threads : List Worker) (k : Fin 2) :
    queueOf { p with threads := threads } k = queueOf p k := by
  match k with
  | 0 | 1 => rfl

@[simp] theorem queue_queueOf_enable (p : SlotThreadPool τ) (k : Fin 2) :
    (queueOf p.enable k).queue = (queueOf p k).queue := by
  match k with
  | 0 | 1 => simp [queueOf]

@[simp] theorem queue_queueOf_disable (p : SlotThreadPool τ) (k : Fin 2) :
    (queueOf p.disable k).queue = (queueOf p k).queue := by
  match k with
  | 0 | 1 => simp [queueOf]

theorem queue_emitByPriority (p : SlotThreadPool τ) (taskId : TaskId) (priorityId : Nat)
    (k : Fin 2) :
    (queueOf p k).queue ++ (if priorityId = k.val then accepted p taskId priorityId else []) =
      (queueOf (after (p.emitByPriority taskId priorityId)) k).queue := by
  cases hl : p.slots.lookup taskId with
  | none => simp [accepted, emitByPriority, hl, after]
  | some f =>
      match k, priorityId with
      | 0, 0 =>
          cases hen : p.taskQueuePriority0.enabled <;>
            simp [queueOf, accepted, emitByPriority, hl, after, hen, DBQueueWaitHandler.produce]
      | 1, 1 =>
          cases hen : p.taskQueuePriority1.enabled <;>
            simp [queueOf, accepted, emitByPriority, hl, after, hen, DBQueueWaitHandler.produce]
      | 0, 1 | 0, _ + 2 | 1, 0 | 1, _ + 2 => simp [queueOf, emitByPriority, hl, after]

theorem queue_workerStep (p : SlotThreadPool τ) (w : Worker) (k : Fin 2) :
    (queueOf p k).queue = takenBy k p w ++ (queueOf (p.workerStep w).2.1 k).queue := by
  cases w with
  | consuming0 =>
      cases hen : p.taskQueuePriority0.enabled <;> cases hq : p.taskQueuePriority0.queue <;>
        match k with
        | 0 | 1 =>
            simp [queueOf, takenBy, consuming, workerStep, DBQueueWaitHandler.consume, hen, hq]
  | consuming1 =>
      cases hen : p.taskQueuePriority1.enabled <;> cases hq : p.taskQueuePriority1.queue <;>
        match k with
        | 0 | 1 =>
            simp [queueOf, takenBy, consuming, workerStep, DBQueueWaitHandler.consume, hen, hq]
  | executing t =>
      cases hl : p.slots.lookup t <;> match k with
      | 0 | 1 => simp [queueOf, takenBy, consuming, workerStep, hl]
  | _ => match k with
    | 0 | 1 => simp [queueOf, takenBy, consuming, workerStep]

theorem queue_step (p : SlotThreadPool τ) (e : Event τ) (k : Fin 2) :
    (queueOf p k).queue ++ emittedOn k p e = takenOff k p e ++ (queueOf (p.step e) k).queue := by
  cases e with
  | slot t f =>
      rcases after_slot p t f with h | h <;> match k with
      | 0 | 1 => simp [emittedOn, takenOff, step, h, queueOf]
  | emit t =>
      have h := queue_emitByPriority p t 0 k
      match k with
      | 0 | 1 => simpa [emittedOn, takenOff, step, emit_eq_emitByPriority] using h
  | emitByPriority t j => simpa [emittedOn, takenOff, step] using queue_emitByPriority p t j k
  | enable => simp [emittedOn, takenOff, step]
  | disable => simp [emittedOn, takenOff, step]
  | thread i =>
      cases hi : p.threads[i]? with
      | none => simp [emittedOn, takenOff, step, hi, threadStep_of_getElem?_eq_none hi]
      | some w =>
          simpa [emittedOn, takenOff, step, hi, threadStep_of_getElem? hi] using
            queue_workerStep p w k

theorem queue_run (p : SlotThreadPool τ) (events : List (Event τ)) (k : Fin 2) :
    (queueOf p k).queue ++ along (emittedOn k) p events =
      along (takenOff k) p events ++ (queueOf (p.run events) k).queue := by
  induction events generalizing p with
  | nil => simp [along]
  | cons e events ih =>
      rw [along, along, run_cons, ← List.append_assoc, queue_step p e k, List.append_assoc, ih,
        List.append_assoc]

/-- The threads take the ids of each priority in the order they were emitted. Over every
run of a pool from its construction, with any interleaving of calls and steps of its
threads, the ids taken off the queue of priority `k`, in the order they were taken, and
then the ids still on it, are the ids emitted on priority `k` while that queue was
enabled, in the order they were emitted. -/
theorem dispatch_in_emission_order (n : Nat) (events : List (Event τ)) (k : Fin 2) :
    along (emittedOn k) (create n) events =
      along (takenOff k) (create n) events ++ (queueOf ((create n).run events) k).queue := by
  simpa using queue_run (create n) events k

/-! ### The ids taken off a queue and not run -/

theorem dropped_eq_filter_takenOff (p : SlotThreadPool τ) (e : Event τ) :
    dropped p e = (takenOff 1 p e).filter (· = 0) := by
  cases e with
  | thread i =>
      cases hi : p.threads[i]? with
      | none => simp [dropped, takenOff, hi]
      | some w =>
          by_cases hw : w = .consuming1
          · subst hw
            cases hq : p.taskQueuePriority1.queue with
            | nil => simp [dropped, takenOff, hi, droppedBy, takenBy, consuming, queueOf, hq]
            | cons t rest =>
                cases hen : p.taskQueuePriority1.enabled <;> by_cases ht : t = 0 <;>
                  simp [dropped, takenOff, hi, droppedBy, takenBy, consuming, queueOf, hq, hen, ht]
          · simp [dropped, takenOff, hi, droppedBy, takenBy, consuming, hw]
  | _ => rfl

theorem along_dropped_eq_filter_takenOff (p : SlotThreadPool τ) (events : List (Event τ)) :
    along dropped p events = (along (takenOff 1) p events).filter (· = 0) := by
  induction events generalizing p with
  | nil => rfl
  | cons e events ih => simp only [along, List.filter_append, dropped_eq_filter_takenOff, ih]

/-- Over every run of a pool from its construction, made of any calls and any steps of its
threads: the ids consumed without being run are exactly the ids `0` the threads take off
queue 1; each id put on an enabled queue is, as many times as it was put there, run,
dropped so, or still pending; hence no task runs more often than its id was put on a
queue, and an id other than `0` is run or still pending as often as it was put there. -/
theorem no_task_lost_or_run_twice (n : Nat) (events : List (Event τ)) :
    let p : SlotThreadPool τ := create n
    along dropped p events = (along (takenOff 1) p events).filter (· = 0) ∧
      (∀ taskId, (along emitted p events).count taskId =
        ((p.ranDuring events).map Prod.fst).count taskId +
          (along dropped p events).count taskId + (pending (p.run events)).count taskId) ∧
      (∀ taskId, ((p.ranDuring events).map Prod.fst).count taskId ≤
        (along emitted p events).count taskId) ∧
      ∀ taskId, taskId ≠ 0 → (along emitted p events).count taskId =
        ((p.ranDuring events).map Prod.fst).count taskId +
          (pending (p.run events)).count taskId := by
  intro p
  have h : (along emitted p events).Perm
      ((p.ranDuring events).map Prod.fst ++ along dropped p events ++ pending (p.run events)) :=
    tasks_conserved n events
  have hcount : ∀ x, (along emitted p events).count x =
      ((p.ranDuring events).map Prod.fst).count x + (along dropped p events).count x +
        (pending (p.run events)).count x := fun x => by
    rw [h.count_eq]; simp only [List.count_append]
  refine ⟨along_dropped_eq_filter_takenOff p events, hcount, fun x => ?_, fun x hx => ?_⟩
  · have := hcount x; omega
  · have h0 : (along dropped p events).count x = 0 :=
      List.count_eq_zero.mpr fun hm => hx (eq_zero_of_mem_along_dropped hm)
    have := hcount x; omega

example : along (takenOff 0) (create 1 : SlotThreadPool Unit)
    [.slot 1 (), .slot 2 (), .enable, .emit 2, .emit 1, .thread 0, .thread 0, .thread 0,
      .thread 0, .thread 0] = [2, 1] := by
  decide

end DdsProxy.ThreadPool.Order
