import DdsProxy.ThreadPool.SlotThreadPool

/-!
The slot register of `SlotThreadPool`. Every id on a queue, and every id a thread holds,
names a registered task, and a registered task is never replaced; a call that throws
changes nothing. Hence the "Slot in Queue must be stored in slots register" branch of
`thread_routine_` is never reached, in any run of calls and thread steps.
-/

namespace DdsProxy.ThreadPool.Registration

open SlotThreadPool

variable {τ : Type}

structure Registered (p : SlotThreadPool τ) : Prop where
  queue0 : ∀ taskId ∈ p.taskQueuePriority0.queue, (p.slots.lookup taskId).isSome
  queue1 : ∀ taskId ∈ p.taskQueuePriority1.queue, (p.slots.lookup taskId).isSome
  executing : ∀ taskId, Worker.executing taskId ∈ p.threads → (p.slots.lookup taskId).isSome
  no_tsnh : Worker.tsnh ∉ p.threads

theorem registered_create (n : Nat) : Registered (create n : SlotThreadPool τ) :=
  ⟨by simp [create], by simp [create], by simp [create], by simp [create]⟩

theorem step_slots (p : SlotThreadPool τ) (e : Event τ) :
    (p.step e).slots = p.slots ∨
      ∃ taskId task, p.slots.lookup taskId = none ∧
        (p.step e).slots = (taskId, task) :: p.slots := by
  cases e with
  | slot taskId task =>
      cases hs : p.slot taskId task with
      | ok u p' =>
          obtain ⟨hnone, rfl⟩ := slot_eq_ok.mp hs
          exact .inr ⟨taskId, task, hnone, by simp [step, hs]⟩
      | error e p' => exact .inl (by simp [step, hs, (slot_eq_error.mp hs).2.2])
  | emit taskId =>
      rw [step, emit_eq_emitByPriority]
      cases hs : p.emitByPriority taskId 0 with
      | ok u p' =>
          obtain ⟨-, ⟨-, rfl⟩ | ⟨-, rfl⟩⟩ := emitByPriority_eq_ok.mp hs <;> exact .inl rfl
      | error e p' => exact .inl (by simp [(emitByPriority_eq_error.mp hs).1])
  | emitByPriority taskId priorityId =>
      rw [step]
      cases hs : p.emitByPriority taskId priorityId with
      | ok u p' =>
          obtain ⟨-, ⟨-, rfl⟩ | ⟨-, rfl⟩⟩ := emitByPriority_eq_ok.mp hs <;> exact .inl rfl
      | error e p' => exact .inl (by simp [(emitByPriority_eq_error.mp hs).1])
  | enable => exact .inl (enable_slots p)
  | disable => exact .inl (disable_slots p)
  | thread i =>
      rw [step]
      cases hi : p.threads[i]? with
      | none => exact .inl (by simp [threadStep_of_getElem?_eq_none hi])
      | some w => exact .inl (by simp [threadStep_of_getElem? hi])

theorem lookup_step {p : SlotThreadPool τ} {taskId : TaskId} {task : τ}
    (h : p.slots.lookup taskId = some task) (e : Event τ) :
    (p.step e).slots.lookup taskId = some task := by
  obtain hs | ⟨t, f, hnone, hs⟩ := step_slots p e
  · rw [hs, h]
  · have hne : (taskId == t) = false := by
      rcases Nat.decEq taskId t with hne | rfl
      · simpa using hne
      · simp [h] at hnone
    rw [hs, List.lookup_cons, hne, h]

theorem lookup_run {p : SlotThreadPool τ} {taskId : TaskId} {task : τ}
    (h : p.slots.lookup taskId = some task) (events : List (Event τ)) :
    (p.run events).slots.lookup taskId = some task := by
  induction events generalizing p with
  | nil => exact h
  | cons e events ih => exact ih (lookup_step h e)

theorem isSome_lookup_step {p : SlotThreadPool τ} {taskId : TaskId}
    (h : (p.slots.lookup taskId).isSome) (e : Event τ) :
    ((p.step e).slots.lookup taskId).isSome := by
  obtain ⟨task, htask⟩ := Option.isSome_iff_exists.mp h
  simp [lookup_step htask e]

private theorem registered_step_of {p : SlotThreadPool τ} {e : Event τ}
    (h0 : ∀ taskId ∈ (p.step e).taskQueuePriority0.queue, (p.slots.lookup taskId).isSome)
    (h1 : ∀ taskId ∈ (p.step e).taskQueuePriority1.queue, (p.slots.lookup taskId).isSome)
    (hex : ∀ taskId, Worker.executing taskId ∈ (p.step e).threads →
      (p.slots.lookup taskId).isSome)
    (htsnh : Worker.tsnh ∉ (p.step e).threads) : Registered (p.step e) :=
  ⟨fun t ht => isSome_lookup_step (h0 t ht) e, fun t ht => isSome_lookup_step (h1 t ht) e,
    fun t ht => isSome_lookup_step (hex t ht) e, htsnh⟩

private theorem produce_registered {p : SlotThreadPool τ} {q : DBQueueWaitHandler TaskId}
    {taskId : TaskId} (hq : ∀ t ∈ q.queue, (p.slots.lookup t).isSome)
    (ht : (p.slots.lookup taskId).isSome) :
    ∀ t ∈ (q.produce taskId).queue, (p.slots.lookup t).isSome := by
  intro t hmem
  rcases DBQueueWaitHandler.mem_produce_queue hmem with hmem | rfl
  exacts [hq t hmem, ht]

private theorem registered_emitByPriority {p : SlotThreadPool τ} (hp : Registered p)
    (taskId : TaskId) (priorityId : Nat) :
    Registered (after (p.emitByPriority taskId priorityId)) := by
  cases hs : p.emitByPriority taskId priorityId with
  | ok u p' =>
      obtain ⟨hreg, ⟨-, rfl⟩ | ⟨-, rfl⟩⟩ := emitByPriority_eq_ok.mp hs
      · exact ⟨produce_registered hp.queue0 hreg, hp.queue1, hp.executing, hp.no_tsnh⟩
      · exact ⟨hp.queue0, produce_registered hp.queue1 hreg, hp.executing, hp.no_tsnh⟩
  | error e p' => rwa [after_error, (emitByPriority_eq_error.mp hs).1]

private theorem registered_threadStep {p : SlotThreadPool τ} (hp : Registered p) (i : Nat) :
    Registered (p.threadStep i).1 := by
  cases hi : p.threads[i]? with
  | none => rwa [threadStep_of_getElem?_eq_none hi]
  | some w =>
      rw [threadStep_of_getElem? hi]
      have hw : w ∈ p.threads := List.getElem?_mem hi
      have hqueue0 : ∀ t ∈ (p.workerStep w).2.1.taskQueuePriority0.queue,
          t ∈ p.taskQueuePriority0.queue := by
        rcases workerStep_queue0 p w with h | h <;> rw [h]
        exacts [fun _ ht => ht, fun _ ht => List.mem_of_mem_tail ht]
      have hqueue1 : ∀ t ∈ (p.workerStep w).2.1.taskQueuePriority1.queue,
          t ∈ p.taskQueuePriority1.queue := by
        rcases workerStep_queue1 p w with h | h <;> rw [h]
        exacts [fun _ ht => ht, fun _ ht => List.mem_of_mem_tail ht]
      refine ⟨fun t ht => ?_, fun t ht => ?_, fun t ht => ?_, fun ht => ?_⟩
      · simpa using hp.queue0 t (hqueue0 t ht)
      · simpa using hp.queue1 t (hqueue1 t ht)
      · simp only [workerStep_slots]
        rcases List.mem_or_eq_of_mem_set ht with ht | ht
        · exact hp.executing t ht
        · rcases workerStep_executing p w ht.symm with ⟨-, hmem⟩ | ⟨-, hmem⟩
          exacts [hp.queue0 t hmem, hp.queue1 t hmem]
      · rcases List.mem_or_eq_of_mem_set ht with ht | ht
        · exact hp.no_tsnh ht
        · rcases workerStep_tsnh p w ht.symm with rfl | ⟨t, rfl, hnone⟩
          · exact hp.no_tsnh hw
          · exact absurd (hp.executing t hw) (by simp [hnone])

theorem registered_step {p : SlotThreadPool τ} (hp : Registered p) (e : Event τ) :
    Registered (p.step e) := by
  cases e with
  | slot taskId task =>
      rcases after_slot p taskId task with h | h
      · rw [step, h]; exact hp
      · exact registered_step_of (by simp only [step, h]; exact hp.queue0)
          (by simp only [step, h]; exact hp.queue1) (by simp only [step, h]; exact hp.executing)
          (by simp only [step, h]; exact hp.no_tsnh)
  | emit taskId =>
      simpa [step, emit_eq_emitByPriority] using registered_emitByPriority hp taskId 0
  | emitByPriority taskId priorityId => exact registered_emitByPriority hp taskId priorityId
  | enable =>
      refine ⟨by simpa [step] using hp.queue0, by simpa [step] using hp.queue1,
        fun t ht => ?_, fun ht => ?_⟩ <;> rcases mem_enable_threads ht with h | h
      · simpa [step] using hp.executing t h
      · cases h
      · exact hp.no_tsnh h
      · cases h
  | disable =>
      exact ⟨by simpa [step] using hp.queue0, by simpa [step] using hp.queue1,
        fun t ht => by simpa [step] using hp.executing t (mem_disable_threads ht),
        fun ht => hp.no_tsnh (mem_disable_threads ht)⟩
  | thread i => exact registered_threadStep hp i

theorem registered_run {p : SlotThreadPool τ} (hp : Registered p) (events : List (Event τ)) :
    Registered (p.run events) := by
  induction events generalizing p with
  | nil => exact hp
  | cons e events ih => exact ih (registered_step hp e)

theorem execute_ne_tsnh {slots : List (TaskId × τ)} {taskId : TaskId}
    (h : (slots.lookup taskId).isSome) : execute slots taskId ≠ .tsnh := by
  obtain ⟨task, htask⟩ := Option.isSome_iff_exists.mp h
  simp [execute, htask]

theorem threadRoutineIteration_ne_tsnh {p : SlotThreadPool τ} (hp : Registered p) :
    p.threadRoutineIteration.1 ≠ .tsnh := by
  unfold threadRoutineIteration
  split
  · split
    · next heq =>
        obtain ⟨-, -, hq | ⟨-, h0, -⟩⟩ := DBQueueWaitHandler.consume_eq_value heq
        · exact execute_ne_tsnh (hp.queue0 _ (by simp [hq]))
        · exact absurd rfl h0
    all_goals simp
  · split
    · next t q heq =>
        dsimp only
        split
        · simp
        · obtain ⟨-, -, hq | ⟨-, -, h0⟩⟩ := DBQueueWaitHandler.consume_eq_value heq
          · exact execute_ne_tsnh (hp.queue1 _ (by simp [hq]))
          · contradiction
    all_goals simp

theorem workerStep_ne_tsnh {p : SlotThreadPool τ} (hp : Registered p) {w : Worker}
    (hw : w ∈ p.threads) : (p.workerStep w).1 ≠ .tsnh := by
  intro h
  rcases workerStep_tsnh p w h with rfl | ⟨t, rfl, hnone⟩
  · exact hp.no_tsnh hw
  · simpa [hnone] using hp.executing t hw

/-- The slot register over every run of a pool from its construction, made of any calls
(`slot`, `emit`, `emit_by_priority` with any priority, `enable`, `disable`) and any steps
of its threads: (i) every id on either queue is registered; (ii) a task registered by a
successful `slot` stays bound to its id for the rest of the run; (iii) `slot` of a
registered id, `emit` or `emit_by_priority` of an unregistered id, and `emit_by_priority`
with a priority other than `0` and `1` throw, and every call that throws leaves the pool,
its register and both queues included, as it was; and the missing-slot branch of
`thread_routine_` is never reached, by a thread's next step or by a whole pass of the
loop. -/
theorem slot_register_consistent (n : Nat) (events : List (Event τ)) :
    let p := (create n : SlotThreadPool τ).run events
    (∀ taskId ∈ p.taskQueuePriority0.queue ++ p.taskQueuePriority1.queue,
        (p.slots.lookup taskId).isSome) ∧
      (∀ taskId task u p', p.slot taskId task = .ok u p' →
        ∀ events', (p'.run events').slots.lookup taskId = some task) ∧
      (∀ taskId task, (p.slots.lookup taskId).isSome →
        p.slot taskId task = .error ⟨"Slot " ++ toString taskId ++ " already exists."⟩ p) ∧
      (∀ taskId, p.slots.lookup taskId = none →
        p.emit taskId = .error ⟨"Slot " ++ toString taskId ++ " not registered."⟩ p ∧
          ∀ priorityId, p.emitByPriority taskId priorityId =
            .error ⟨"Slot " ++ toString taskId ++ " not registered."⟩ p) ∧
      (∀ taskId priorityId, (p.slots.lookup taskId).isSome → priorityId ≠ 0 → priorityId ≠ 1 →
        p.emitByPriority taskId priorityId =
          .error ⟨"Slot " ++ toString priorityId ++ " not allowed."⟩ p) ∧
      (∀ e p', ((∃ taskId task, p.slot taskId task = .error e p') ∨
          (∃ taskId, p.emit taskId = .error e p') ∨
          (∃ taskId priorityId, p.emitByPriority taskId priorityId = .error e p')) →
        p' = p) ∧
      (Worker.tsnh ∉ p.threads ∧ ∀ w ∈ p.threads, (p.workerStep w).1 ≠ .tsnh) ∧
      p.threadRoutineIteration.1 ≠ .tsnh := by
  intro p
  have hp : Registered p := registered_run (registered_create n) events
  refine ⟨fun t ht => ?_, fun t task u p' hs events' => ?_,
    fun t task h => slot_eq_error.mpr ⟨h, rfl, rfl⟩, fun t h => ?_,
    fun t k h h0 h1 => emitByPriority_eq_error.mpr ⟨rfl, .inr ⟨h, h0, h1, rfl⟩⟩, ?_,
    ⟨hp.no_tsnh, fun w hw => workerStep_ne_tsnh hp hw⟩, threadRoutineIteration_ne_tsnh hp⟩
  · rcases List.mem_append.mp ht with ht | ht
    exacts [hp.queue0 t ht, hp.queue1 t ht]
  · obtain ⟨-, rfl⟩ := slot_eq_ok.mp hs
    exact lookup_run (by simp) events'
  · have hk : ∀ k, p.emitByPriority t k = .error ⟨"Slot " ++ toString t ++ " not registered."⟩ p :=
      fun k => emitByPriority_eq_error.mpr ⟨rfl, .inl ⟨h, rfl⟩⟩
    exact ⟨emit_eq_emitByPriority.trans (hk 0), hk⟩
  · rintro e p' (⟨t, task, hs⟩ | ⟨t, hs⟩ | ⟨t, k, hs⟩)
    · exact (slot_eq_error.mp hs).2.2
    · rw [emit_eq_emitByPriority] at hs
      exact (emitByPriority_eq_error.mp hs).1
    · exact (emitByPriority_eq_error.mp hs).1

end DdsProxy.ThreadPool.Registration
