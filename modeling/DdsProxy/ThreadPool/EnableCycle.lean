import DdsProxy.ThreadPool.SlotThreadPool

/-!
`enable` and `disable` of `SlotThreadPool` over whole runs. The pool has
`number_of_threads_` threads while enabled and none otherwise. Until the first `disable`
both queues stay enabled and no thread leaves `thread_routine_`. `disable` closes the two
queues and nothing opens them again: a later `enable` spawns threads that leave the loop
at their first `consume`, and the pool never runs a task again. So the destructor, which
calls `disable()` and then joins what is left in `threads_`, finds no thread to join.
-/

namespace DdsProxy.ThreadPool.EnableCycle

open SlotThreadPool

variable {τ : Type}

def ThreadCount (p : SlotThreadPool τ) : Prop :=
  p.threads.length = if p.enabled then p.numberOfThreads else 0

theorem step_frame_of_call {p : SlotThreadPool τ} {e : Event τ}
    (he : (∃ t f, e = .slot t f) ∨ (∃ t, e = .emit t) ∨ (∃ t k, e = .emitByPriority t k)) :
    (p.step e).threads = p.threads ∧ (p.step e).enabled = p.enabled ∧
      (p.step e).numberOfThreads = p.numberOfThreads ∧
      (p.step e).taskQueuePriority0.enabled = p.taskQueuePriority0.enabled ∧
      (p.step e).taskQueuePriority1.enabled = p.taskQueuePriority1.enabled := by
  rcases he with ⟨t, f, rfl⟩ | ⟨t, rfl⟩ | ⟨t, k, rfl⟩
  · rcases after_slot p t f with h | h <;> simp [step, h]
  · rcases after_emitByPriority p t 0 with h | h | h <;>
      simp [step, emit_eq_emitByPriority, h]
  · rcases after_emitByPriority p t k with h | h | h <;> simp [step, h]

theorem threadCount_create (n : Nat) : ThreadCount (create n : SlotThreadPool τ) := by
  simp [ThreadCount, create]

theorem threadCount_step {p : SlotThreadPool τ} (hp : ThreadCount p) (e : Event τ) :
    ThreadCount (p.step e) := by
  unfold ThreadCount at *
  cases e with
  | enable =>
      simp only [step, enable_threads, enable_enabled, enable_numberOfThreads, if_true]
      split <;> simp_all
  | disable =>
      simp only [step, disable_threads, disable_enabled, disable_numberOfThreads]
      split <;> simp_all
  | thread i =>
      simp only [step]
      cases hi : p.threads[i]? with
      | none => simpa [threadStep_of_getElem?_eq_none hi] using hp
      | some w => simpa [threadStep_of_getElem? hi] using hp
  | slot t f =>
      obtain ⟨h1, h2, h3, -⟩ := step_frame_of_call (p := p) (.inl ⟨t, f, rfl⟩)
      rwa [h1, h2, h3]
  | emit t =>
      obtain ⟨h1, h2, h3, -⟩ := step_frame_of_call (p := p) (.inr (.inl ⟨t, rfl⟩))
      rwa [h1, h2, h3]
  | emitByPriority t k =>
      obtain ⟨h1, h2, h3, -⟩ := step_frame_of_call (p := p) (.inr (.inr ⟨t, k, rfl⟩))
      rwa [h1, h2, h3]

theorem threadCount_run {p : SlotThreadPool τ} (hp : ThreadCount p) (events : List (Event τ)) :
    ThreadCount (p.run events) := by
  induction events generalizing p with
  | nil => exact hp
  | cons e events ih => exact ih (threadCount_step hp e)

theorem threadStep_queues_enabled (p : SlotThreadPool τ) (i : Nat) :
    (p.threadStep i).1.taskQueuePriority0.enabled = p.taskQueuePriority0.enabled ∧
      (p.threadStep i).1.taskQueuePriority1.enabled = p.taskQueuePriority1.enabled := by
  cases hi : p.threads[i]? with
  | none => simp [threadStep_of_getElem?_eq_none hi]
  | some w => simp [threadStep_of_getElem? hi]

private theorem mem_threadStep_threads {p : SlotThreadPool τ} {i : Nat} {w' : Worker}
    (h : w' ∈ (p.threadStep i).1.threads) :
    w' ∈ p.threads ∨ ∃ w ∈ p.threads, w' = (p.workerStep w).1 := by
  cases hi : p.threads[i]? with
  | none => rw [threadStep_of_getElem?_eq_none hi] at h; exact .inl h
  | some w =>
      rw [threadStep_of_getElem? hi] at h
      rcases List.mem_or_eq_of_mem_set h with h | h
      exacts [.inl h, .inr ⟨w, List.getElem?_mem hi, h⟩]

/-! ### Before the first `disable` -/

structure Open (p : SlotThreadPool τ) : Prop where
  queue0 : p.taskQueuePriority0.enabled = true
  queue1 : p.taskQueuePriority1.enabled = true
  running : Worker.stopped ∉ p.threads

theorem open_create (n : Nat) : Open (create n : SlotThreadPool τ) :=
  ⟨rfl, rfl, by simp [create]⟩

theorem open_step {p : SlotThreadPool τ} (hp : Open p) {e : Event τ} (he : e ≠ .disable) :
    Open (p.step e) := by
  cases e with
  | enable =>
      refine ⟨by simpa [step] using hp.queue0, by simpa [step] using hp.queue1, fun h => ?_⟩
      rcases mem_enable_threads h with h | h
      exacts [hp.running h, Worker.noConfusion h]
  | disable => exact absurd rfl he
  | thread i =>
      obtain ⟨h0, h1⟩ := threadStep_queues_enabled p i
      refine ⟨h0.trans hp.queue0, h1.trans hp.queue1, fun h => ?_⟩
      rcases mem_threadStep_threads h with h | ⟨w, hw, h⟩
      · exact hp.running h
      · rcases workerStep_stopped p w h.symm with rfl | ⟨-, h⟩ | ⟨-, h⟩
        · exact hp.running hw
        · simp [hp.queue0] at h
        · simp [hp.queue1] at h
  | slot t f =>
      obtain ⟨h1, -, -, h4, h5⟩ := step_frame_of_call (p := p) (.inl ⟨t, f, rfl⟩)
      exact ⟨h4.trans hp.queue0, h5.trans hp.queue1, h1 ▸ hp.running⟩
  | emit t =>
      obtain ⟨h1, -, -, h4, h5⟩ := step_frame_of_call (p := p) (.inr (.inl ⟨t, rfl⟩))
      exact ⟨h4.trans hp.queue0, h5.trans hp.queue1, h1 ▸ hp.running⟩
  | emitByPriority t k =>
      obtain ⟨h1, -, -, h4, h5⟩ := step_frame_of_call (p := p) (.inr (.inr ⟨t, k, rfl⟩))
      exact ⟨h4.trans hp.queue0, h5.trans hp.queue1, h1 ▸ hp.running⟩

theorem open_run {p : SlotThreadPool τ} (hp : Open p) {events : List (Event τ)}
    (he : Event.disable ∉ events) : Open (p.run events) := by
  induction events generalizing p with
  | nil => exact hp
  | cons e events ih =>
      rw [List.mem_cons, not_or] at he
      exact ih (open_step hp (Ne.symm he.1)) he.2

/-- On a run from construction with no `disable`, every state with `enabled_` set has both
queues enabled and `number_of_threads_` threads, none of which has left
`thread_routine_`. -/
theorem enabled_pool_running_of_no_disable (n : Nat) (events : List (Event τ))
    (he : Event.disable ∉ events) :
    let p := (create n : SlotThreadPool τ).run events
    p.enabled = true →
      p.taskQueuePriority0.enabled = true ∧ p.taskQueuePriority1.enabled = true ∧
        p.threads.length = n ∧ Worker.stopped ∉ p.threads := by
  intro p hen
  have hopen : Open p := open_run (open_create n) he
  have hcount : ThreadCount p := threadCount_run (threadCount_create n) events
  refine ⟨hopen.queue0, hopen.queue1, ?_, hopen.running⟩
  rw [hcount, if_pos hen]
  simp [p, create]

theorem enabled_pool_running_after_calls :
    let p := (create 2 : SlotThreadPool String).run
      [.slot 1 "task", .enable, .emit 1, .thread 0, .enable]
    Event.disable ∉ [Event.slot 1 "task", .enable, .emit 1, .thread 0, .enable] ∧
      (p.enabled = true → p.taskQueuePriority0.enabled = true ∧
        p.taskQueuePriority1.enabled = true ∧ p.threads.length = 2 ∧ Worker.stopped ∉ p.threads) :=
  ⟨by decide, enabled_pool_running_of_no_disable 2 _ (by decide)⟩

/-! ### After a `disable` -/

structure Closed (p : SlotThreadPool τ) : Prop where
  queue0 : p.taskQueuePriority0.enabled = false
  queue1 : p.taskQueuePriority1.enabled = false
  idle : ∀ taskId, Worker.executing taskId ∉ p.threads

theorem closed_disable {p : SlotThreadPool τ} (hp : p.enabled = true) : Closed p.disable :=
  ⟨by simp [disable_taskQueuePriority0, hp], by simp [disable_taskQueuePriority1, hp],
    by simp [disable_threads, hp]⟩

theorem closed_step {p : SlotThreadPool τ} (hp : Closed p) (e : Event τ) :
    Closed (p.step e) := by
  cases e with
  | enable =>
      refine ⟨by simpa [step] using hp.queue0, by simpa [step] using hp.queue1, fun t h => ?_⟩
      rcases mem_enable_threads h with h | h
      exacts [hp.idle t h, Worker.noConfusion h]
  | disable =>
      refine ⟨?_, ?_, fun t h => hp.idle t (mem_disable_threads h)⟩ <;>
        simp only [step, disable_taskQueuePriority0, disable_taskQueuePriority1] <;>
        split <;> simp [hp.queue0, hp.queue1]
  | thread i =>
      obtain ⟨h0, h1⟩ := threadStep_queues_enabled p i
      refine ⟨h0.trans hp.queue0, h1.trans hp.queue1, fun t h => ?_⟩
      rcases mem_threadStep_threads h with h | ⟨w, -, h⟩
      · exact hp.idle t h
      · rcases workerStep_executing p w h.symm with ⟨h, -⟩ | ⟨h, -⟩
        · simp [hp.queue0] at h
        · simp [hp.queue1] at h
  | slot t f =>
      obtain ⟨h1, -, -, h4, h5⟩ := step_frame_of_call (p := p) (.inl ⟨t, f, rfl⟩)
      exact ⟨h4.trans hp.queue0, h5.trans hp.queue1, h1 ▸ hp.idle⟩
  | emit t =>
      obtain ⟨h1, -, -, h4, h5⟩ := step_frame_of_call (p := p) (.inr (.inl ⟨t, rfl⟩))
      exact ⟨h4.trans hp.queue0, h5.trans hp.queue1, h1 ▸ hp.idle⟩
  | emitByPriority t k =>
      obtain ⟨h1, -, -, h4, h5⟩ := step_frame_of_call (p := p) (.inr (.inr ⟨t, k, rfl⟩))
      exact ⟨h4.trans hp.queue0, h5.trans hp.queue1, h1 ▸ hp.idle⟩

theorem ran_of_closed {p : SlotThreadPool τ} (hp : Closed p) (e : Event τ) : p.ran e = [] := by
  cases e with
  | thread i =>
      cases hi : p.threads[i]? with
      | none => simp [ran, threadStep_of_getElem?_eq_none hi]
      | some w =>
          simp only [ran, threadStep_of_getElem? hi]
          cases hr : (p.workerStep w).2.2 with
          | none => rfl
          | some x =>
              obtain ⟨hw, -⟩ := workerStep_ran p w hr
              exact absurd (hw ▸ List.getElem?_mem hi) (hp.idle x.1)
  | disable => simp [ran, inFlight_eq_nil p hp.idle]
  | _ => rfl

/-- Once an enabled pool is disabled it never runs a task again, whatever calls and thread
steps follow, `enable` included, and its queues stay disabled. -/
theorem disable_never_runs_again (p : SlotThreadPool τ) (hp : p.enabled = true)
    (events : List (Event τ)) :
    p.disable.ranDuring events = [] ∧
      (p.disable.run events).taskQueuePriority0.enabled = false ∧
      (p.disable.run events).taskQueuePriority1.enabled = false := by
  suffices h : ∀ q : SlotThreadPool τ, Closed q →
      q.ranDuring events = [] ∧ Closed (q.run events) from
    (h _ (closed_disable hp)).imp_right fun hc => ⟨hc.queue0, hc.queue1⟩
  induction events with
  | nil => exact fun q hq => ⟨rfl, hq⟩
  | cons e events ih =>
      intro q hq
      obtain ⟨hran, hrun⟩ := ih _ (closed_step hq e)
      exact ⟨by simp [ranDuring, ran_of_closed hq e, hran], hrun⟩

theorem disable_never_runs_again_after_reenable :
    let p := (create 1 : SlotThreadPool String).enable
    let events : List (Event String) := [.enable, .slot 1 "task", .emit 1, .thread 0, .thread 0]
    p.enabled = true ∧ (p.disable.ranDuring events = [] ∧
      (p.disable.run events).taskQueuePriority0.enabled = false ∧
      (p.disable.run events).taskQueuePriority1.enabled = false) :=
  ⟨rfl, disable_never_runs_again _ rfl _⟩

/-- Enabling a pool again after `disable`: `enabled_` is set and two threads are spawned,
but both queues stay disabled, so a task registered and emitted afterwards is dropped and
each new thread leaves `thread_routine_` at its first `consume`. -/
theorem reenabled_pool_drops_emitted_task :
    let p : SlotThreadPool String := (create 2).run
      [.enable, .disable, .enable, .slot 1 "task", .emit 1]
    p.enabled = true ∧ p.taskQueuePriority0.enabled = false ∧
      p.taskQueuePriority1.enabled = false ∧ p.taskQueuePriority0.queue = [] ∧
      p.threads = [.free, .free] ∧
      (p.run [.thread 0, .thread 0, .thread 1, .thread 1]).threads = [.stopped, .stopped] ∧
      p.ranDuring [.thread 0, .thread 0, .thread 1, .thread 1] = [] := by
  decide

/-! ### The destructor -/

theorem disable_threads_eq_nil {p : SlotThreadPool τ} (hp : ThreadCount p) :
    p.disable.threads = [] := by
  rw [disable_threads]
  split
  · rfl
  · next h => simpa [ThreadCount, h] using hp

/-- The destructor's own loop of joins has nothing to do. Over every run of a pool from its
construction, the `disable()` the destructor starts with leaves `threads_` empty, so the
loop joins no thread, and the pool is left not enabled, with no thread and both queues
disabled. -/
theorem destroy_joins_no_thread (n : Nat) (events : List (Event τ)) :
    let d := ((create n : SlotThreadPool τ).run events).destroy
    d.2 = [] ∧ d.1.threads = [] ∧ d.1.enabled = false ∧
      d.1.taskQueuePriority0.enabled = false ∧ d.1.taskQueuePriority1.enabled = false := by
  have h := disable_threads_eq_nil (threadCount_run (threadCount_create n) events)
  simp [destroy, h]

end DdsProxy.ThreadPool.EnableCycle
