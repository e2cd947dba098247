import DdsProxy.ThreadPool.EnableCycle

/-!
When a thread of `SlotThreadPool` waits inside `task_queue_priority_0.consume()`.
`thread_routine_` checks that queue 0 is non-empty and then consumes from it in a second
step. With one thread nothing comes between the two, so it never waits on an empty
queue 0; with two, both can pass the check on one queued id, and the one that loses waits
on the empty queue 0 while queue 1 holds work.
-/

namespace DdsProxy.ThreadPool.Blocking

open SlotThreadPool EnableCycle

variable {τ : Type}

def WaitsOnEmptyQueue0 (p : SlotThreadPool τ) : Prop :=
  Worker.consuming0 ∈ p.threads ∧ p.taskQueuePriority0.queue = [] ∧
    p.taskQueuePriority0.enabled = true

instance (p : SlotThreadPool τ) : Decidable (WaitsOnEmptyQueue0 p) :=
  inferInstanceAs (Decidable (_ ∧ _ ∧ _))

/-- Two threads, one id on each queue: both threads see queue 0 non-empty, the first takes
its id, and the second then waits on the empty queue 0 while queue 1 holds a task. -/
theorem second_thread_waits_on_empty_queue0 :
    let p : SlotThreadPool String := (create 2).run
      [.slot 1 "a", .slot 2 "b", .enable, .emit 1, .emitByPriority 2 1,
        .thread 0, .thread 1, .thread 0, .thread 1]
    p.numberOfThreads = 2 ∧ WaitsOnEmptyQueue0 p ∧ p.taskQueuePriority1.queue = [2] := by
  decide

def NoEmptyWait (p : SlotThreadPool τ) : Prop :=
  Worker.consuming0 ∈ p.threads →
    p.taskQueuePriority0.queue ≠ [] ∨ p.taskQueuePriority0.enabled = false

theorem noEmptyWait_create (n : Nat) : NoEmptyWait (create n : SlotThreadPool τ) := by
  simp [NoEmptyWait, create]

private theorem produce_ne_nil_or {q : DBQueueWaitHandler TaskId} (taskId : TaskId)
    (h : q.queue ≠ [] ∨ q.enabled = false) :
    (q.produce taskId).queue ≠ [] ∨ (q.produce taskId).enabled = false := by
  rw [DBQueueWaitHandler.produce_queue, DBQueueWaitHandler.produce_enabled]
  split <;> simp_all

private theorem eq_singleton_of_getElem? {l : List Worker} {i : Nat} {w : Worker}
    (hlen : l.length ≤ 1) (h : l[i]? = some w) : i = 0 ∧ l = [w] := by
  match l, i, hlen, h with
  | [_], 0, _, h => simp_all
  | [_], _ + 1, _, h => simp at h
  | _ :: _ :: _, _, hlen, _ => simp at hlen

theorem noEmptyWait_step {p : SlotThreadPool τ} (hlen : p.threads.length ≤ 1)
    (hp : NoEmptyWait p) (e : Event τ) : NoEmptyWait (p.step e) := by
  unfold NoEmptyWait at *
  cases e with
  | slot t f => rcases after_slot p t f with h | h <;> simpa [step, h] using hp
  | emit t =>
      rcases after_emitByPriority p t 0 with h | h | h <;>
        simp only [step, emit_eq_emitByPriority, h] <;>
        first | exact hp | exact fun hw => produce_ne_nil_or t (hp hw)
  | emitByPriority t k =>
      rcases after_emitByPriority p t k with h | h | h <;>
        simp only [step, h] <;>
        first | exact hp | exact fun hw => produce_ne_nil_or t (hp hw)
  | enable =>
      intro hw
      rcases mem_enable_threads hw with hw | hw
      · simpa [step] using hp hw
      · cases hw
  | disable =>
      intro hw
      have h := hp (mem_disable_threads hw)
      simp only [step, disable_taskQueuePriority0]
      split <;> simp_all
  | thread i =>
      simp only [step]
      cases hi : p.threads[i]? with
      | none => rwa [threadStep_of_getElem?_eq_none hi]
      | some w =>
          obtain ⟨rfl, hth⟩ := eq_singleton_of_getElem? hlen hi
          rw [threadStep_of_getElem? hi, hth]
          intro hw
          have hw' : (p.workerStep w).1 = .consuming0 := by simpa [eq_comm] using hw
          rcases workerStep_consuming0 p w hw' with ⟨rfl, hne⟩ | ⟨rfl, -, hsame⟩
          · exact .inl (by simpa [workerStep] using hne)
          · rw [hsame]; exact hp (by simp [hth])

theorem noEmptyWait_run {p : SlotThreadPool τ} (hn : p.numberOfThreads ≤ 1)
    (hc : ThreadCount p) (hp : NoEmptyWait p) : ∀ events : List (Event τ),
    NoEmptyWait (p.run events)
  | [] => hp
  | e :: events => by
      have hlen : p.threads.length ≤ 1 := by unfold ThreadCount at hc; split at hc <;> omega
      rw [run_cons]
      exact noEmptyWait_run (by rwa [step_numberOfThreads]) (threadCount_step hc e)
        (noEmptyWait_step hlen hp e) events

/-- A pool of at most one thread never has a thread waiting inside `consume()` on an
empty, enabled queue 0, over any run of calls and thread steps from its construction. -/
theorem single_thread_never_waits_on_empty_queue0 (n : Nat) (hn : n ≤ 1)
    (events : List (Event τ)) : ¬ WaitsOnEmptyQueue0 ((create n : SlotThreadPool τ).run events) := by
  rintro ⟨hw, hq, hen⟩
  rcases noEmptyWait_run hn (threadCount_create n) (noEmptyWait_create n) events hw with h | h
  · exact h hq
  · simp [hen] at h

theorem single_thread_never_waits_after_emits :
    1 ≤ 1 ∧ ¬ WaitsOnEmptyQueue0 ((create 1 : SlotThreadPool String).run
      [.slot 1 "a", .slot 2 "b", .enable, .emit 1, .emitByPriority 2 1, .thread 0, .thread 0]) :=
  ⟨le_refl 1, single_thread_never_waits_on_empty_queue0 1 (le_refl 1) _⟩

end DdsProxy.ThreadPool.Blocking
