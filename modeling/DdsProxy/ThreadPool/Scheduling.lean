import DdsProxy.ThreadPool.SlotThreadPool

/-!
The scheduling order of `thread_routine_` for one worker with no other thread on the
pool: a pass takes the head of queue 0 when there is one and the head of queue 1
otherwise, so a lone worker empties queue 0 in order and then queue 1 in order. A task
id `0` taken from queue 1 is not run: the loop reads it as the timeout of
`consume(1)`.
-/

namespace DdsProxy.ThreadPool.Scheduling

open SlotThreadPool

variable {τ : Type}

section iteration

variable {p : SlotThreadPool τ} {taskId : TaskId} {rest : List TaskId}

theorem threadRoutineIteration_of_cons0 (h0 : p.taskQueuePriority0.enabled = true)
    (hq : p.taskQueuePriority0.queue = taskId :: rest) :
    p.threadRoutineIteration = (execute p.slots taskId,
      { p with taskQueuePriority0 := { p.taskQueuePriority0 with queue := rest } }) := by
  simp [threadRoutineIteration, hq, DBQueueWaitHandler.consume_of_cons h0 hq]

theorem threadRoutineIteration_of_cons1 (hq0 : p.taskQueuePriority0.queue = [])
    (h1 : p.taskQueuePriority1.enabled = true)
    (hq : p.taskQueuePriority1.queue = taskId :: rest) :
    p.threadRoutineIteration = (if taskId = 0 then .continued else execute p.slots taskId,
      { p with taskQueuePriority1 := { p.taskQueuePriority1 with queue := rest } }) := by
  simp [threadRoutineIteration, hq0, DBQueueWaitHandler.consume_of_cons h1 hq]

theorem threadRoutineIteration_of_nil (hq0 : p.taskQueuePriority0.queue = [])
    (h1 : p.taskQueuePriority1.enabled = true) (hq1 : p.taskQueuePriority1.queue = []) :
    p.threadRoutineIteration = (.continued, p) := by
  simp [threadRoutineIteration, hq0, DBQueueWaitHandler.consume_of_nil h1 hq1]

end iteration

section loop

variable {p p' : SlotThreadPool τ}

theorem threadRoutine_succ_of_executed {taskId : TaskId} {task : τ} (fuel : Nat)
    (h : p.threadRoutineIteration = (.executed taskId task, p')) :
    p.threadRoutine (fuel + 1) =
      ((taskId, task) :: (p'.threadRoutine fuel).1, (p'.threadRoutine fuel).2) := by
  simp [threadRoutine, h]

theorem threadRoutine_succ_of_continued (fuel : Nat)
    (h : p.threadRoutineIteration = (.continued, p')) :
    p.threadRoutine (fuel + 1) = p'.threadRoutine fuel := by
  simp [threadRoutine, h]

theorem threadRoutine_idle (hq0 : p.taskQueuePriority0.queue = [])
    (h1 : p.taskQueuePriority1.enabled = true) (hq1 : p.taskQueuePriority1.queue = []) :
    ∀ fuel, p.threadRoutine fuel = ([], p)
  | 0 => rfl
  | fuel + 1 => by
      rw [threadRoutine_succ_of_continued fuel (threadRoutineIteration_of_nil hq0 h1 hq1)]
      exact threadRoutine_idle hq0 h1 hq1 fuel

private theorem with_queue_nil {q : DBQueueWaitHandler TaskId} (h : q.queue = []) :
    { q with queue := [] } = q := by
  cases q; simp_all

/-- A lone worker with both queues enabled and every queued id registered, given at
least one pass per queued id, runs all of queue 0 in order and then the non-zero ids of
queue 1 in order, each with the task registered under it, and leaves both queues empty:
every id `0` on queue 1 is consumed without running anything. -/
theorem threadRoutine_drains (p : SlotThreadPool τ)
    (h0 : p.taskQueuePriority0.enabled = true) (h1 : p.taskQueuePriority1.enabled = true)
    (hreg : ∀ t ∈ p.taskQueuePriority0.queue ++ p.taskQueuePriority1.queue,
      (p.slots.lookup t).isSome)
    (fuel : Nat)
    (hfuel : p.taskQueuePriority0.queue.length + p.taskQueuePriority1.queue.length ≤ fuel) :
    (p.threadRoutine fuel).1.map Prod.fst =
        p.taskQueuePriority0.queue ++ p.taskQueuePriority1.queue.filter (· ≠ 0) ∧
      (∀ x ∈ (p.threadRoutine fuel).1, p.slots.lookup x.1 = some x.2) ∧
      (p.threadRoutine fuel).2 =
        { p with taskQueuePriority0 := { p.taskQueuePriority0 with queue := [] },
                 taskQueuePriority1 := { p.taskQueuePriority1 with queue := [] } } := by
  induction fuel generalizing p with
  | zero =>
      have hq0 : p.taskQueuePriority0.queue = [] := List.eq_nil_of_length_eq_zero (by omega)
      have hq1 : p.taskQueuePriority1.queue = [] := List.eq_nil_of_length_eq_zero (by omega)
      simp [threadRoutine, hq0, hq1, with_queue_nil hq0, with_queue_nil hq1]
  | succ fuel ih =>
      rcases hq0 : p.taskQueuePriority0.queue with _ | ⟨t, rest⟩
      · rcases hq1 : p.taskQueuePriority1.queue with _ | ⟨t, rest⟩
        · rw [threadRoutine_idle hq0 h1 hq1]
          simp [hq0, hq1, with_queue_nil hq0, with_queue_nil hq1]
        · have hih := ih
            { p with taskQueuePriority1 := { p.taskQueuePriority1 with queue := rest } }
            h0 h1 (fun x hx => hreg x (by
              rw [hq0, hq1]; exact List.mem_cons_of_mem t (by simpa [hq0] using hx)))
            (by simp only [hq0, hq1, List.length_cons, List.length_nil] at hfuel ⊢; omega)
          by_cases ht : t = 0
          · rw [threadRoutine_succ_of_continued fuel
              (by rw [threadRoutineIteration_of_cons1 hq0 h1 hq1, if_pos ht])]
            subst ht
            simpa [hq0, hq1] using hih
          · obtain ⟨f, hf⟩ := Option.isSome_iff_exists.mp (hreg t (by simp [hq1]))
            have hit : p.threadRoutineIteration = (.executed t f,
                { p with taskQueuePriority1 := { p.taskQueuePriority1 with queue := rest } }) := by
              rw [threadRoutineIteration_of_cons1 hq0 h1 hq1, if_neg ht]; simp [execute, hf]
            rw [threadRoutine_succ_of_executed fuel hit]
            simpa [hq0, hq1, ht, hf] using hih
      · have hih := ih
          { p with taskQueuePriority0 := { p.taskQueuePriority0 with queue := rest } }
          h0 h1 (fun x hx => hreg x (by
            rw [hq0, List.cons_append]; exact List.mem_cons_of_mem t hx))
          (by simp only [hq0, List.length_cons] at hfuel ⊢; omega)
        obtain ⟨f, hf⟩ := Option.isSome_iff_exists.mp (hreg t (by simp [hq0]))
        have hit : p.threadRoutineIteration = (.executed t f,
            { p with taskQueuePriority0 := { p.taskQueuePriority0 with queue := rest } }) := by
          rw [threadRoutineIteration_of_cons0 h0 hq0]; simp [execute, hf]
        rw [threadRoutine_succ_of_executed fuel hit]
        simpa [hq0, hf] using hih

theorem threadRoutine_drains_both_queues :
    let p : SlotThreadPool String :=
      { (create 1 : SlotThreadPool String) with
        slots := [(0, "zero"), (1, "one"), (2, "two")],
        taskQueuePriority0 := ⟨[1, 2], true⟩, taskQueuePriority1 := ⟨[0, 2], true⟩ }
    (p.threadRoutine 4).1.map Prod.fst = [1, 2, 2] ∧
      (∀ x ∈ (p.threadRoutine 4).1, p.slots.lookup x.1 = some x.2) ∧
      (p.threadRoutine 4).2 =
        { p with taskQueuePriority0 := ⟨[], true⟩, taskQueuePriority1 := ⟨[], true⟩ } :=
  threadRoutine_drains _ rfl rfl (by decide) 4 (by decide)

end loop

/-- A task registered under id `0` and emitted on priority 1 is taken off queue 1 by the
next pass of the loop, and by the steps of the pool's thread, without being run. -/
theorem registered_zero_on_queue1_not_run :
    let p : SlotThreadPool String := (create 1).run [.slot 0 "task", .emitByPriority 0 1, .enable]
    p.slots.lookup 0 = some "task" ∧ p.taskQueuePriority1.queue = [0] ∧
      p.threadRoutineIteration = (.continued,
        { p with taskQueuePriority1 := { p.taskQueuePriority1 with queue := [] } }) ∧
      (p.run [.thread 0, .thread 0]).taskQueuePriority1.queue = [] ∧
      p.ranDuring [.thread 0, .thread 0] = [] := by
  decide

/-! ### A pass of the loop as steps of one thread -/

theorem workerSteps_threadRoutineIteration (p : SlotThreadPool τ) :
    ∃ k ≤ 3, p.workerSteps .free k =
      (p.threadRoutineIteration.1.worker, p.threadRoutineIteration.2,
        p.threadRoutineIteration.1.ran) := by
  unfold threadRoutineIteration
  split
  · next hne =>
      split
      · next t q heq =>
          refine ⟨3, by omega, ?_⟩
          simp only [workerSteps, workerStep, hne, ite_true, heq, execute]
          split <;> rfl
      all_goals
        refine ⟨2, by omega, ?_⟩
        simp only [workerSteps, workerStep, hne, ite_true, *]
        rfl
  · next hempty =>
      split
      · next t q heq =>
          split
          · next ht =>
              refine ⟨2, by omega, ?_⟩
              simp only [workerSteps, workerStep, if_neg hempty, heq, ht, ite_true]
              rfl
          · next ht =>
              refine ⟨3, by omega, ?_⟩
              simp only [workerSteps, workerStep, if_neg hempty, heq, ht, execute, ite_false]
              split <;> rfl
      · next heq => exact absurd (DBQueueWaitHandler.consume_eq_waiting heq).2.2 Nat.one_ne_zero
      · next heq =>
          refine ⟨2, by omega, ?_⟩
          simp only [workerSteps, workerStep, if_neg hempty, heq]
          rfl

theorem workerSteps_add {p p' : SlotThreadPool τ} {w w' : Worker} {a : Nat}
    {ran : List (TaskId × τ)} (h : p.workerSteps w a = (w', p', ran)) (b : Nat) :
    p.workerSteps w (a + b) =
      ((p'.workerSteps w' b).1, (p'.workerSteps w' b).2.1, ran ++ (p'.workerSteps w' b).2.2) := by
  induction a generalizing p w ran with
  | zero => cases h; simp [workerSteps]
  | succ a ih =>
      rcases hs : p.workerStep w with ⟨w1, p1, r1⟩
      rcases hs' : p1.workerSteps w1 a with ⟨w2, p2, r2⟩
      simp only [workerSteps, hs, hs', Prod.mk.injEq] at h
      obtain ⟨rfl, rfl, rfl⟩ := h
      rw [Nat.succ_add]
      simp only [workerSteps, hs, ih hs', List.append_assoc]

/-- The loop of `thread_routine_` read sequentially, for any number of passes, is a run of
atomic steps of its thread from the top of the loop while no other thread moves: the
same tasks run in the same order, and the same pool is left. -/
theorem exists_workerSteps_eq_threadRoutine (p : SlotThreadPool τ) (fuel : Nat) :
    ∃ k w, p.workerSteps .free k = (w, (p.threadRoutine fuel).2, (p.threadRoutine fuel).1) := by
  induction fuel generalizing p with
  | zero => exact ⟨0, .free, rfl⟩
  | succ fuel ih =>
      obtain ⟨k, -, hk⟩ := workerSteps_threadRoutineIteration p
      rcases hit : p.threadRoutineIteration with ⟨it, p'⟩
      simp only [hit] at hk
      cases it with
      | executed t f =>
          obtain ⟨k', w, hk'⟩ := ih p'
          refine ⟨k + k', w, ?_⟩
          rw [workerSteps_add hk, Iteration.worker, hk', threadRoutine_succ_of_executed fuel hit]
          rfl
      | continued =>
          obtain ⟨k', w, hk'⟩ := ih p'
          refine ⟨k + k', w, ?_⟩
          rw [workerSteps_add hk, Iteration.worker, hk', threadRoutine_succ_of_continued fuel hit]
          rfl
      | waiting | stopped | tsnh => exact ⟨k, _, by rw [hk]; simp only [threadRoutine, hit]; rfl⟩

end DdsProxy.ThreadPool.Scheduling
