import DdsProxy.ThreadPool.DisableSteps

/-!
`disable()` returns. Once `task_queue_priority_1.disable()` has returned, every thread of
the pool leaves `thread_routine_` within three of its own steps, whatever runs in between:
it finishes the task it holds, picks a queue, and gets the `DisabledException` there. So
the owner's joins are done once each thread has taken three steps. As everywhere in the
model, running a task is one step of its thread.
-/

namespace DdsProxy.ThreadPool.DisableSteps

open SlotThreadPool Registration EnableCycle

variable {τ : Type}

def Action.isStepOf (i : Nat) : Action τ → Bool
  | .thread j => j == i
  | _ => false

/-- The steps a thread still takes in `thread_routine_` once both queues are disabled:
finish its task, pick a queue, and take the `DisabledException`. -/
def stepsToStop : Worker → Nat
  | .executing _ => 3
  | .free => 2
  | .consuming0 | .consuming1 => 1
  | .stopped | .tsnh => 0

def threadStepsToStop (p : SlotThreadPool τ) (i : Nat) : Nat :=
  (p.threads[i]?.map stepsToStop).getD 0

theorem stepsToStop_le_three (w : Worker) : stepsToStop w ≤ 3 := by
  cases w <;> simp [stepsToStop]

theorem eq_stopped_of_stepsToStop {w : Worker} (h : stepsToStop w = 0) (hw : w ≠ .tsnh) :
    w = .stopped := by
  cases w <;> simp_all [stepsToStop]

theorem stepsToStop_workerStep {p : SlotThreadPool τ}
    (h0 : p.taskQueuePriority0.enabled = false) (h1 : p.taskQueuePriority1.enabled = false)
    (w : Worker) : stepsToStop (p.workerStep w).1 ≤ stepsToStop w - 1 := by
  cases w with
  | executing t => cases hl : p.slots.lookup t <;> simp [workerStep, hl, stepsToStop]
  | free => cases h : p.taskQueuePriority0.bothEmpty <;> simp [workerStep, h, stepsToStop]
  | _ => simp [workerStep, h0, h1, stepsToStop]

structure Joining (s : Disabling τ) : Prop where
  stage : s.stage = .queue1Disabled
  queue0 : s.pool.taskQueuePriority0.enabled = false
  queue1 : s.pool.taskQueuePriority1.enabled = false

section joining

variable {p : SlotThreadPool τ} (h0 : p.taskQueuePriority0.enabled = false)
  (h1 : p.taskQueuePriority1.enabled = false)
include h0 h1

theorem joining_step {act : Action τ} (hact : act ≠ .join) :
    Joining ((⟨p, .queue1Disabled⟩ : Disabling τ).step act) := by
  cases act with
  | slot t f =>
      obtain ⟨-, -, -, hq0, hq1⟩ := step_frame_of_call (p := p) (.inl ⟨t, f, rfl⟩)
      exact ⟨rfl, hq0.trans h0, hq1.trans h1⟩
  | emit t =>
      obtain ⟨-, -, -, hq0, hq1⟩ := step_frame_of_call (p := p) (.inr (.inl ⟨t, rfl⟩))
      exact ⟨rfl, hq0.trans h0, hq1.trans h1⟩
  | emitByPriority t k =>
      obtain ⟨-, -, -, hq0, hq1⟩ := step_frame_of_call (p := p) (.inr (.inr ⟨t, k, rfl⟩))
      exact ⟨rfl, hq0.trans h0, hq1.trans h1⟩
  | thread i =>
      obtain ⟨hq0, hq1⟩ := threadStep_queues_enabled p i
      exact ⟨rfl, hq0.trans h0, hq1.trans h1⟩
  | join => exact absurd rfl hact
  | _ => exact ⟨rfl, h0, h1⟩

theorem threadStepsToStop_step {act : Action τ} (hact : act ≠ .join) :
    ((⟨p, .queue1Disabled⟩ : Disabling τ).step act).pool.threads.length = p.threads.length ∧
      ∀ i, threadStepsToStop ((⟨p, .queue1Disabled⟩ : Disabling τ).step act).pool i ≤
        threadStepsToStop p i - if act.isStepOf i then 1 else 0 := by
  have hcall : ∀ e : Event τ,
      ((∃ t f, e = .slot t f) ∨ (∃ t, e = .emit t) ∨ (∃ t k, e = .emitByPriority t k)) →
      (p.step e).threads.length = p.threads.length ∧
        ∀ i, threadStepsToStop (p.step e) i ≤ threadStepsToStop p i - 0 := fun e he => by
    simp [threadStepsToStop, (step_frame_of_call he).1]
  cases act with
  | slot t f => simpa [Action.isStepOf] using hcall _ (.inl ⟨t, f, rfl⟩)
  | emit t => simpa [Action.isStepOf] using hcall _ (.inr (.inl ⟨t, rfl⟩))
  | emitByPriority t k => simpa [Action.isStepOf] using hcall _ (.inr (.inr ⟨t, k, rfl⟩))
  | thread j =>
      cases hj : p.threads[j]? with
      | none =>
          refine ⟨by simp [SlotThreadPool.step, threadStep_of_getElem?_eq_none hj], fun i => ?_⟩
          by_cases hij : j = i
          · subst hij
            simp [SlotThreadPool.step, threadStep_of_getElem?_eq_none hj, threadStepsToStop, hj]
          · simp [SlotThreadPool.step, threadStep_of_getElem?_eq_none hj, Action.isStepOf, hij]
      | some w =>
          refine ⟨by simp [SlotThreadPool.step, threadStep_of_getElem? hj], fun i => ?_⟩
          by_cases hij : j = i
          · subst hij
            have := stepsToStop_workerStep h0 h1 w
            simp [SlotThreadPool.step, threadStep_of_getElem? hj, threadStepsToStop, hj,
              Action.isStepOf, List.getElem?_set_self', this]
          · simp [SlotThreadPool.step, threadStep_of_getElem? hj, threadStepsToStop,
              Action.isStepOf, hij, List.getElem?_set_ne hij]
  | join => exact absurd rfl hact
  | _ => simp [Action.isStepOf]

end joining

theorem threadStepsToStop_run {s : Disabling τ} (hs : Joining s) {actions : List (Action τ)}
    (hactions : Action.join ∉ actions) :
    Joining (s.run actions) ∧ (s.run actions).pool.threads.length = s.pool.threads.length ∧
      ∀ i, threadStepsToStop (s.run actions).pool i ≤
        threadStepsToStop s.pool i - actions.countP (Action.isStepOf i) := by
  induction actions generalizing s with
  | nil => exact ⟨hs, rfl, fun i => by simp [Disabling.run]⟩
  | cons act actions ih =>
      obtain ⟨p, stage⟩ := s
      obtain ⟨rfl, h0, h1⟩ := hs
      have hact : act ≠ .join := fun h => hactions (h ▸ List.mem_cons_self _ _)
      obtain ⟨hj, hlen, hsteps⟩ :=
        ih (joining_step h0 h1 hact) fun h => hactions (List.mem_cons_of_mem _ h)
      obtain ⟨hlen', hsteps'⟩ := threadStepsToStop_step h0 h1 hact
      refine ⟨hj, hlen.trans hlen', fun i => ?_⟩
      have h₁ := hsteps i
      have h₂ := hsteps' i
      dsimp only at h₁ h₂
      simp only [Disabling.run, List.foldl_cons, List.countP_cons] at h₁ ⊢
      omega

theorem run_registered {s : Disabling τ} (hs : Registered s.pool) (actions : List (Action τ)) :
    Registered (s.run actions).pool := by
  induction actions generalizing s with
  | nil => exact hs
  | cons act actions ih => exact ih (step_registered hs act)

theorem all_stopped_of_three_steps {s : Disabling τ} (hs : Joining s)
    (hr : Registered s.pool) {actions : List (Action τ)} (hactions : Action.join ∉ actions)
    (hsteps : ∀ i < s.pool.threads.length, 3 ≤ actions.countP (Action.isStepOf i)) :
    ∀ w ∈ (s.run actions).pool.threads, w = .stopped := by
  obtain ⟨-, hlen, hto⟩ := threadStepsToStop_run hs hactions
  have hr' := run_registered hr actions
  intro w hw
  obtain ⟨i, hi⟩ := List.mem_iff_getElem?.mp hw
  have hlt : i < s.pool.threads.length := hlen ▸ (List.getElem?_eq_some_iff.mp hi).1
  have h0 : threadStepsToStop s.pool i ≤ 3 := by
    unfold threadStepsToStop
    cases s.pool.threads[i]? <;> simp [stepsToStop_le_three]
  have hzero : stepsToStop w = 0 := by
    have := hto i
    have := hsteps i hlt
    simp only [threadStepsToStop, hi, Option.map_some', Option.getD_some] at *
    omega
  exact eq_stopped_of_stepsToStop hzero fun h => hr'.no_tsnh (h ▸ hw)

theorem Sim.joining {s : Disabling τ} {a : SlotThreadPool τ} (hs : Sim s a)
    (h : s.stage = .queue1Disabled) : Joining s := by
  obtain ⟨p, stage⟩ := s
  subst h
  exact ⟨rfl, hs.2.1, hs.2.2.1⟩

/-- `disable()` returns. In every run of a pool from its construction, once the owner has
returned from `task_queue_priority_1.disable()`, any continuation in which each thread of
the pool takes three steps, with any calls and other steps in between, lets the owner's
joins finish: `disable()` has returned. -/
theorem disable_returns (n : Nat) (before after : List (Action τ))
    (hq : (Disabling.run ⟨create n, .idle⟩ before).stage = .queue1Disabled)
    (hjoin : Action.join ∉ after)
    (hsteps : ∀ i < (Disabling.run ⟨create n, .idle⟩ before).pool.threads.length,
      3 ≤ after.countP (Action.isStepOf i)) :
    (Disabling.run ⟨create n, .idle⟩ (before ++ after ++ [.join])).stage = .idle := by
  obtain ⟨events, hs, -⟩ :=
    simulated_run (s := ⟨create n, .idle⟩) rfl (registered_create n) before
  have hj := hs.joining hq
  have hall := all_stopped_of_three_steps hj (run_registered (registered_create n) before)
    hjoin hsteps
  obtain ⟨hj', -, -⟩ := threadStepsToStop_run hj hjoin
  simp only [Disabling.run, List.foldl_append, List.foldl_cons, List.foldl_nil,
    Disabling.step] at hall hj' ⊢
  rw [if_pos ⟨hj'.stage, hall⟩]

def untilJoin : List (Action Unit) :=
  [.slot 1 (), .enable, .emit 1, .thread 0, .thread 0, .disable, .disableQueue0, .disableQueue1]

theorem disable_returns_untilJoin :
    (Disabling.run ⟨create 1, .idle⟩ untilJoin).pool.threads = [.executing 1] ∧
      (Disabling.run ⟨create 1, .idle⟩ untilJoin).stage = .queue1Disabled ∧
      Action.join ∉ ([.thread 0, .thread 0, .thread 0] : List (Action Unit)) ∧
      (∀ i < (Disabling.run ⟨create 1, .idle⟩ untilJoin).pool.threads.length,
        3 ≤ ([.thread 0, .thread 0, .thread 0] : List (Action Unit)).countP (Action.isStepOf i)) ∧
      (Disabling.run ⟨create 1, .idle⟩ (untilJoin ++ [.thread 0, .thread 0, .thread 0] ++
        [.join])).stage = .idle :=
  ⟨by decide, by decide, by decide, by decide,
    disable_returns 1 _ _ (by decide) (by decide) (by decide)⟩

end DdsProxy.ThreadPool.DisableSteps
