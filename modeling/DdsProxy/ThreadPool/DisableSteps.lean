import DdsProxy.ThreadPool.EnableCycle
import DdsProxy.ThreadPool.Conservation

/-!
`disable()` as the steps the source takes: `enabled_.exchange(false)`, then
`task_queue_priority_0.disable()`, then `task_queue_priority_1.disable()`, then the joins
of the threads and `threads_.clear()`. Calls from other threads and steps of the pool's
threads interleave with each of them. The pool model takes `disable` as one step. Every
run with the stepwise `disable()` that ends outside `disable()` runs the same tasks and
leaves the same pool as some run of that model, so what the model's runs guarantee of
the pool they leave and the tasks they run holds of the stepwise runs.
-/

namespace DdsProxy.ThreadPool.DisableSteps

open SlotThreadPool Registration EnableCycle Conservation

variable {τ : Type}

/-- Where the caller of `disable()` is: outside it, past `enabled_.exchange(false)`, past
`task_queue_priority_0.disable()`, or past `task_queue_priority_1.disable()` and joining. -/
inductive Stage where
  | idle
  | flagCleared
  | queue0Disabled
  | queue1Disabled
  deriving DecidableEq, Repr

structure Disabling (τ : Type) where
  pool : SlotThreadPool τ
  stage : Stage

/-- One step of a run with the stepwise `disable()`: a call of another thread, a step of
thread `i`, or one step of the owner of the pool (`enable()`, the three steps of
`disable()` in order, and the joins with `threads_.clear()`). -/
inductive Action (τ : Type) where
  | slot (taskId : TaskId) (task : τ)
  | emit (taskId : TaskId)
  | emitByPriority (taskId : TaskId) (priorityId : Nat)
  | thread (i : Nat)
  | enable
  | disable
  | disableQueue0
  | disableQueue1
  | join
  deriving DecidableEq, Repr

namespace Disabling

/-- One step. A call or a thread step is the pool model's step. The owner is blocked
inside `disable()` until it returns, so it enables the pool only outside it, and each step
of `disable()` happens in its order; `join` waits until every thread has stopped. -/
@[simp] def step (s : Disabling τ) : Action τ → Disabling τ
  | .slot taskId task => { s with pool := s.pool.step (.slot taskId task) }
  | .emit taskId => { s with pool := s.pool.step (.emit taskId) }
  | .emitByPriority taskId priorityId =>
      { s with pool := s.pool.step (.emitByPriority taskId priorityId) }
  | .thread i => { s with pool := s.pool.step (.thread i) }
  | .enable => if s.stage = .idle then { s with pool := s.pool.enable } else s
  | .disable =>
      if s.stage = .idle ∧ s.pool.enabled then ⟨{ s.pool with enabled := false }, .flagCleared⟩
      else s
  | .disableQueue0 =>
      if s.stage = .flagCleared then
        ⟨{ s.pool with taskQueuePriority0 := s.pool.taskQueuePriority0.disable }, .queue0Disabled⟩
      else s
  | .disableQueue1 =>
      if s.stage = .queue0Disabled then
        ⟨{ s.pool with taskQueuePriority1 := s.pool.taskQueuePriority1.disable }, .queue1Disabled⟩
      else s
  | .join =>
      if s.stage = .queue1Disabled ∧ ∀ w ∈ s.pool.threads, w = .stopped then
        ⟨{ s.pool with threads := [] }, .idle⟩
      else s

@[simp] def ran (s : Disabling τ) : Action τ → List (TaskId × τ)
  | .thread i => s.pool.ran (.thread i)
  | _ => []

def run (s : Disabling τ) (actions : List (Action τ)) : Disabling τ :=
  actions.foldl step s

def ranDuring : Disabling τ → List (Action τ) → List (TaskId × τ)
  | _, [] => []
  | s, a :: actions => s.ran a ++ ranDuring (s.step a) actions

end Disabling

/-! ### The pool as the steps of `disable()` leave it -/

theorem workerStep_withEnabled (p : SlotThreadPool τ) (b : Bool) (w : Worker) :
    ({ p with enabled := b }).workerStep w =
      ((p.workerStep w).1, { (p.workerStep w).2.1 with enabled := b }, (p.workerStep w).2.2) := by
  cases w <;> simp only [workerStep] <;> (try split) <;> rfl

theorem threadStep_withEnabled (p : SlotThreadPool τ) (b : Bool) (i : Nat) :
    ({ p with enabled := b }).threadStep i =
      ({ (p.threadStep i).1 with enabled := b }, (p.threadStep i).2) := by
  cases hi : p.threads[i]? with
  | none => simp [threadStep, hi]
  | some w => simp [threadStep, hi, workerStep_withEnabled]

theorem slot_withEnabled (p : SlotThreadPool τ) (b : Bool) (t : TaskId) (f : τ) :
    after (({ p with enabled := b }).slot t f) = { after (p.slot t f) with enabled := b } := by
  cases hl : p.slots.lookup t <;> simp [slot, hl, after]

theorem emitByPriority_withEnabled (p : SlotThreadPool τ) (b : Bool) (t : TaskId) (k : Nat) :
    after (({ p with enabled := b }).emitByPriority t k) =
      { after (p.emitByPriority t k) with enabled := b } := by
  cases hl : p.slots.lookup t <;> simp only [emitByPriority, hl] <;> (try split) <;>
    (try split) <;> rfl

def closed0 (a : SlotThreadPool τ) (ts : List Worker) : SlotThreadPool τ :=
  { a with enabled := false, taskQueuePriority0 := a.taskQueuePriority0.disable, threads := ts }

theorem slot_closed0 (a : SlotThreadPool τ) (ts : List Worker) (t : TaskId) (f : τ) :
    after ((closed0 a ts).slot t f) = closed0 (after (a.slot t f)) ts := by
  cases hl : a.slots.lookup t <;> simp [closed0, slot, hl, after]

theorem emitByPriority_closed0 (a : SlotThreadPool τ) (ts : List Worker) (t : TaskId) {k : Nat}
    (hk : k ≠ 0) :
    after ((closed0 a ts).emitByPriority t k) = closed0 (after (a.emitByPriority t k)) ts := by
  cases hl : a.slots.lookup t <;> by_cases h1 : k = 1 <;>
    simp [closed0, emitByPriority, hl, after, hk, h1]

theorem emitByPriority_zero_closed0 (a : SlotThreadPool τ) (ts : List Worker) (t : TaskId) :
    after ((closed0 a ts).emitByPriority t 0) = closed0 a ts := by
  cases hl : a.slots.lookup t <;>
    simp [closed0, emitByPriority, hl, after, DBQueueWaitHandler.disable]

theorem workerStep_closed0 (a : SlotThreadPool τ) (ts : List Worker) {w : Worker}
    (hw : w ≠ .consuming0) :
    (closed0 a ts).workerStep w =
      ((a.workerStep w).1, closed0 (a.workerStep w).2.1 ts, (a.workerStep w).2.2) := by
  cases w <;> simp only [workerStep, closed0] <;> (try split) <;>
    simp_all [DBQueueWaitHandler.bothEmpty, DBQueueWaitHandler.disable]

theorem workerStep_consuming0_closed0 (a : SlotThreadPool τ) (ts : List Worker) :
    (closed0 a ts).workerStep .consuming0 = (.stopped, closed0 a ts, none) := by
  simp [workerStep, closed0]

theorem slot_withThreads (a : SlotThreadPool τ) (ts : List Worker) (t : TaskId) (f : τ) :
    after (({ a with threads := ts }).slot t f) = { after (a.slot t f) with threads := ts } := by
  cases hl : a.slots.lookup t <;> simp [slot, hl, after]

section closed

variable {p : SlotThreadPool τ} (h0 : p.taskQueuePriority0.enabled = false)
  (h1 : p.taskQueuePriority1.enabled = false)
include h0 h1

theorem emitByPriority_of_closed (t : TaskId) (k : Nat) : after (p.emitByPriority t k) = p := by
  rcases after_emitByPriority p t k with h | h | h <;> rw [h]
  · simp [h0]
  · simp [h1]

theorem workerStep_of_closed (w : Worker) : (p.workerStep w).2.1 = p := by
  cases w <;> simp [workerStep, h0, h1]
  split <;> rfl

end closed

def inFlightOf (slots : List (TaskId × τ)) (w : Worker) : Option (TaskId × τ) :=
  w.holding.bind fun taskId => (slots.lookup taskId).map (taskId, ·)

theorem inFlight_eq (p : SlotThreadPool τ) :
    p.inFlight = p.threads.filterMap (inFlightOf p.slots) :=
  rfl

theorem ran_workerStep_of_closed {p : SlotThreadPool τ}
    (h0 : p.taskQueuePriority0.enabled = false) (h1 : p.taskQueuePriority1.enabled = false)
    (w : Worker) :
    (p.workerStep w).2.2.toList ++ (inFlightOf p.slots (p.workerStep w).1).toList =
      (inFlightOf p.slots w).toList := by
  cases w with
  | executing t =>
      cases hl : p.slots.lookup t <;> simp [workerStep, inFlightOf, Worker.holding, hl]
  | free =>
      cases h : p.taskQueuePriority0.bothEmpty <;>
        simp [workerStep, inFlightOf, Worker.holding, h]
  | _ => simp [workerStep, inFlightOf, Worker.holding, h0, h1]

theorem inFlight_after_slot {p : SlotThreadPool τ}
    (hp : ∀ taskId, Worker.executing taskId ∈ p.threads → (p.slots.lookup taskId).isSome)
    (t : TaskId) (f : τ) : (after (p.slot t f)).inFlight = p.inFlight := by
  cases hl : p.slots.lookup t with
  | some _ => simp [slot, hl, after]
  | none =>
      simp only [slot, hl, after, inFlight_eq]
      refine List.filterMap_congr fun w hw => ?_
      cases w with
      | executing t' =>
          have ht' : (t' == t) = false :=
            beq_eq_false_iff_ne.mpr fun h => by simpa [h, hl] using hp t' hw
          simp [inFlightOf, Worker.holding, List.lookup_cons, ht']
      | _ => rfl

theorem ranDuring_append (p : SlotThreadPool τ) (events events' : List (Event τ)) :
    p.ranDuring (events ++ events') = p.ranDuring events ++ (p.run events).ranDuring events' := by
  induction events generalizing p with
  | nil => rfl
  | cons e events ih => simp [SlotThreadPool.ranDuring, ih]

/-! ### The simulation -/

section forall₂

variable {α β : Type} {R : α → β → Prop}

private theorem forall₂_getElem? : ∀ {l₁ : List α} {l₂ : List β}, List.Forall₂ R l₁ l₂ →
    ∀ i : Nat, Option.Rel R l₁[i]? l₂[i]?
  | _, _, .nil, _ => .none
  | _, _, .cons h _, 0 => by simpa using Option.Rel.some h
  | _, _, .cons _ hl, i + 1 => by simpa using forall₂_getElem? hl i

private theorem forall₂_set : ∀ {l₁ : List α} {l₂ : List β}, List.Forall₂ R l₁ l₂ →
    ∀ (i : Nat) {x : α} {y : β}, R x y → List.Forall₂ R (l₁.set i x) (l₂.set i y)
  | _, _, .nil, _, _, _, _ => .nil
  | _, _, .cons _ hl, 0, _, _, hxy => .cons hxy hl
  | _, _, .cons h hl, i + 1, _, _, hxy => .cons h (forall₂_set hl i hxy)

private theorem forall₂_set_left : ∀ {l₁ : List α} {l₂ : List β} {i : Nat} {y : β},
    List.Forall₂ R l₁ l₂ → l₂[i]? = some y → ∀ {x : α}, R x y → List.Forall₂ R (l₁.set i x) l₂
  | _, _, _, _, .nil, hy, _, _ => by simp at hy
  | _, _, 0, _, .cons _ hl, hy, _, hxy =>
      .cons (by simp only [List.getElem?_cons_zero, Option.some.injEq] at hy; exact hy ▸ hxy) hl
  | _, _, i + 1, _, .cons h hl, hy, _, hxy =>
      .cons h (forall₂_set_left hl (by simpa using hy) hxy)

end forall₂

/-- Thread `w` of the stepwise run against thread `u` of the model's run: at the same
point, or a thread that `task_queue_priority_0.disable()` woke out of `consume(0)` while
the model's thread still waits there, to be joined by the model's `disable`. -/
def Lag (w u : Worker) : Prop :=
  w = u ∨ (w = .stopped ∧ u = .consuming0)

private theorem forall₂_lag_refl : ∀ l : List Worker, List.Forall₂ Lag l l
  | [] => .nil
  | _ :: l => .cons (.inl rfl) (forall₂_lag_refl l)

theorem filterMap_inFlightOf_of_lag (slots : List (TaskId × τ)) {ts us : List Worker}
    (h : List.Forall₂ Lag ts us) :
    ts.filterMap (inFlightOf slots) = us.filterMap (inFlightOf slots) := by
  induction h with
  | nil => rfl
  | cons hwu _ ih =>
      rcases hwu with rfl | ⟨rfl, rfl⟩ <;>
        simp only [List.filterMap_cons, ih, inFlightOf, Worker.holding, Option.none_bind]

def owed (s : Disabling τ) : List (TaskId × τ) :=
  if s.stage = .queue1Disabled then s.pool.inFlight else []

/-- How a state of the stepwise run stands to the pool of the model's run. Outside
`disable()` the two pools are the same. Inside it the stepwise pool is the model's with
what `disable()` has done so far; once queue 1 is disabled the model's `disable` has
already joined the threads the owner is still joining. -/
def Sim (s : Disabling τ) (a : SlotThreadPool τ) : Prop :=
  match s.stage with
  | .idle => s.pool = a
  | .flagCleared => a.enabled = true ∧ s.pool = { a with enabled := false }
  | .queue0Disabled =>
      a.enabled = true ∧ List.Forall₂ Lag s.pool.threads a.threads ∧
        s.pool = closed0 a s.pool.threads
  | .queue1Disabled =>
      s.pool.enabled = false ∧ s.pool.taskQueuePriority0.enabled = false ∧
        s.pool.taskQueuePriority1.enabled = false ∧ a = { s.pool with threads := [] }

/-- One step of the stepwise run from `s` is matched by a few steps of the model's run
from `a`: the states are related again, and the tasks both ran agree once what is owed is
counted. -/
def StepSimulated (s : Disabling τ) (a : SlotThreadPool τ) (act : Action τ) : Prop :=
  ∃ events : List (Event τ), Sim (s.step act) (a.run events) ∧
    (s.ran act ++ owed (s.step act)).Perm (owed s ++ a.ranDuring events)

theorem stepSimulated_stutter {s : Disabling τ} {a : SlotThreadPool τ} {act : Action τ}
    (hs : Sim (s.step act) a) (hr : (s.ran act ++ owed (s.step act)).Perm (owed s)) :
    StepSimulated s a act :=
  ⟨[], hs, by simpa only [SlotThreadPool.ranDuring, List.append_nil] using hr⟩

theorem stepSimulated_mirror {s : Disabling τ} {a : SlotThreadPool τ} {act : Action τ}
    (e : Event τ) (hs : Sim (s.step act) (a.step e))
    (hr : (s.ran act ++ owed (s.step act)).Perm (owed s ++ a.ran e)) :
    StepSimulated s a act :=
  ⟨[e], hs, by simpa only [SlotThreadPool.ranDuring, List.append_nil] using hr⟩

theorem stepSimulated_of_step_eq {s : Disabling τ} {a : SlotThreadPool τ} {act : Action τ}
    (hs : Sim s a) (h : s.step act = s) (hran : s.ran act = []) : StepSimulated s a act :=
  stepSimulated_stutter (by rw [h]; exact hs) (by rw [h, hran]; rfl)

theorem stepSimulated_idle (a : SlotThreadPool τ) (act : Action τ) :
    StepSimulated ⟨a, .idle⟩ a act := by
  cases act with
  | slot t f => exact stepSimulated_mirror (.slot t f) rfl (by simp [owed, SlotThreadPool.ran])
  | emit t => exact stepSimulated_mirror (.emit t) rfl (by simp [owed, SlotThreadPool.ran])
  | emitByPriority t k =>
      exact stepSimulated_mirror (.emitByPriority t k) rfl (by simp [owed, SlotThreadPool.ran])
  | thread i => exact stepSimulated_mirror (.thread i) rfl (by simp [owed])
  | enable => exact stepSimulated_mirror .enable rfl (by simp [owed, SlotThreadPool.ran])
  | disable =>
      by_cases h : a.enabled
      · exact stepSimulated_stutter (by simp [h, Sim]) (by simp [owed, h])
      · exact stepSimulated_of_step_eq rfl (by simp [h]) rfl
  | _ => exact stepSimulated_of_step_eq rfl (by simp) rfl

theorem stepSimulated_flagCleared {a : SlotThreadPool τ} (ha : a.enabled = true)
    (act : Action τ) : StepSimulated ⟨{ a with enabled := false }, .flagCleared⟩ a act := by
  have hsim : Sim ⟨{ a with enabled := false }, .flagCleared⟩ a := ⟨ha, rfl⟩
  cases act with
  | slot t f =>
      have hen := (step_frame_of_call (p := a) (.inl ⟨t, f, rfl⟩)).2.1
      exact stepSimulated_mirror (.slot t f) ⟨hen.trans ha, slot_withEnabled a false t f⟩
        (by simp [owed, SlotThreadPool.ran])
  | emit t =>
      have hen := (step_frame_of_call (p := a) (.inr (.inl ⟨t, rfl⟩))).2.1
      refine stepSimulated_mirror (.emit t) ⟨hen.trans ha, ?_⟩ (by simp [owed, SlotThreadPool.ran])
      simp only [Disabling.step, SlotThreadPool.step, emit_eq_emitByPriority,
        emitByPriority_withEnabled]
  | emitByPriority t k =>
      have hen := (step_frame_of_call (p := a) (.inr (.inr ⟨t, k, rfl⟩))).2.1
      exact stepSimulated_mirror (.emitByPriority t k)
        ⟨hen.trans ha, emitByPriority_withEnabled a false t k⟩ (by simp [owed, SlotThreadPool.ran])
  | thread i =>
      refine stepSimulated_mirror (.thread i) ⟨?_, ?_⟩
        (by simp [owed, SlotThreadPool.ran, threadStep_withEnabled])
      · cases hi : a.threads[i]? <;>
          simp [SlotThreadPool.step, threadStep_of_getElem?, threadStep_of_getElem?_eq_none, hi, ha]
      · simp only [Disabling.step, SlotThreadPool.step, threadStep_withEnabled]
  | disableQueue0 =>
      exact stepSimulated_stutter ⟨ha, forall₂_lag_refl a.threads, rfl⟩ (by simp [owed])
  | _ => exact stepSimulated_of_step_eq hsim (by simp) rfl

private theorem stepSimulated_queue0Disabled_stop {a : SlotThreadPool τ} {ts : List Worker}
    (ha : a.enabled = true) (hts : List.Forall₂ Lag ts a.threads) {i : Nat} {w : Worker}
    (hw : ts[i]? = some w) (hu : a.threads[i]? = some .consuming0)
    (hs : (closed0 a ts).workerStep w = (.stopped, closed0 a ts, none)) :
    StepSimulated ⟨closed0 a ts, .queue0Disabled⟩ a (.thread i) := by
  have h := threadStep_of_getElem? (p := closed0 a ts) hw
  rw [hs] at h
  refine stepSimulated_stutter ?_ (by simp [owed, SlotThreadPool.ran, h])
  simp only [Disabling.step, SlotThreadPool.step, h]
  exact ⟨ha, forall₂_set_left hts hu (.inr ⟨rfl, rfl⟩), rfl⟩

theorem stepSimulated_queue0Disabled_thread {a : SlotThreadPool τ} {ts : List Worker}
    (ha : a.enabled = true) (hts : List.Forall₂ Lag ts a.threads) (i : Nat) :
    StepSimulated ⟨closed0 a ts, .queue0Disabled⟩ a (.thread i) := by
  have hrel := forall₂_getElem? hts i
  cases hw : ts[i]? with
  | none =>
      have h := threadStep_of_getElem?_eq_none (p := closed0 a ts) hw
      exact stepSimulated_of_step_eq ⟨ha, hts, rfl⟩ (by simp [SlotThreadPool.step, h])
        (by simp [SlotThreadPool.ran, h])
  | some w =>
      cases hu : a.threads[i]? with
      | none => rw [hw, hu] at hrel; cases hrel
      | some u =>
          have hwu : Lag w u := by rw [hw, hu] at hrel; cases hrel; assumption
          rcases hwu with rfl | ⟨rfl, rfl⟩
          · by_cases hc : w = .consuming0
            · subst hc
              exact stepSimulated_queue0Disabled_stop ha hts hw hu
                (workerStep_consuming0_closed0 a ts)
            have h := threadStep_of_getElem? (p := closed0 a ts) hw
            rw [workerStep_closed0 a ts hc] at h
            have h' := threadStep_of_getElem? hu
            refine stepSimulated_mirror (.thread i) ?_ (by simp [owed, SlotThreadPool.ran, h, h'])
            simp only [Disabling.step, SlotThreadPool.step, h, h']
            exact ⟨by simpa using ha, forall₂_set hts i (.inl rfl), rfl⟩
          · exact stepSimulated_queue0Disabled_stop ha hts hw hu rfl

theorem stepSimulated_queue0Disabled {a : SlotThreadPool τ} {ts : List Worker}
    (ha : a.enabled = true) (hts : List.Forall₂ Lag ts a.threads) (act : Action τ) :
    StepSimulated ⟨closed0 a ts, .queue0Disabled⟩ a act := by
  have hsim : Sim ⟨closed0 a ts, .queue0Disabled⟩ a := ⟨ha, hts, rfl⟩
  cases act with
  | slot t f =>
      obtain ⟨hth, hen, -⟩ := step_frame_of_call (p := a) (.inl ⟨t, f, rfl⟩)
      refine stepSimulated_mirror (.slot t f) ?_ (by simp [owed, SlotThreadPool.ran])
      simp only [Disabling.step, SlotThreadPool.step, slot_closed0] at hth hen ⊢
      exact ⟨hen.trans ha, hth ▸ hts, rfl⟩
  | emit t =>
      exact stepSimulated_of_step_eq hsim (by simp only [Disabling.step, SlotThreadPool.step,
        emit_eq_emitByPriority, emitByPriority_zero_closed0]) rfl
  | emitByPriority t k =>
      by_cases hk : k = 0
      · subst hk
        exact stepSimulated_of_step_eq hsim
          (by simp only [Disabling.step, SlotThreadPool.step, emitByPriority_zero_closed0]) rfl
      obtain ⟨hth, hen, -⟩ := step_frame_of_call (p := a) (.inr (.inr ⟨t, k, rfl⟩))
      refine stepSimulated_mirror (.emitByPriority t k) ?_ (by simp [owed, SlotThreadPool.ran])
      simp only [Disabling.step, SlotThreadPool.step, emitByPriority_closed0 a ts t hk] at hth hen ⊢
      exact ⟨hen.trans ha, hth ▸ hts, rfl⟩
  | thread i => exact stepSimulated_queue0Disabled_thread ha hts i
  | disableQueue1 =>
      have hlag := filterMap_inFlightOf_of_lag a.slots hts
      refine stepSimulated_mirror .disable ?_ ?_
      · simp [Sim, closed0, SlotThreadPool.step, SlotThreadPool.disable, ha]
      · simp [owed, SlotThreadPool.ran, ha, inFlight_eq, closed0, hlag]
  | _ => exact stepSimulated_of_step_eq hsim (by simp) rfl

theorem stepSimulated_queue1Disabled {p : SlotThreadPool τ} (h : p.enabled = false)
    (h0 : p.taskQueuePriority0.enabled = false) (h1 : p.taskQueuePriority1.enabled = false)
    (hp : Registered p) (act : Action τ) :
    StepSimulated ⟨p, .queue1Disabled⟩ { p with threads := [] } act := by
  have hsim : Sim ⟨p, .queue1Disabled⟩ { p with threads := [] } := ⟨h, h0, h1, rfl⟩
  cases act with
  | slot t f =>
      obtain ⟨-, hen, -, hen0, hen1⟩ := step_frame_of_call (p := p) (.inl ⟨t, f, rfl⟩)
      refine stepSimulated_mirror (.slot t f) ?_ ?_
      · simp only [Disabling.step, SlotThreadPool.step, slot_withThreads] at hen hen0 hen1 ⊢
        exact ⟨hen.trans h, hen0.trans h0, hen1.trans h1, rfl⟩
      · simp [owed, SlotThreadPool.ran, SlotThreadPool.step, inFlight_after_slot hp.executing]
  | emit t =>
      exact stepSimulated_of_step_eq hsim (by simp only [Disabling.step, SlotThreadPool.step,
        emit_eq_emitByPriority, emitByPriority_of_closed h0 h1]) rfl
  | emitByPriority t k =>
      exact stepSimulated_of_step_eq hsim
        (by simp only [Disabling.step, SlotThreadPool.step, emitByPriority_of_closed h0 h1]) rfl
  | thread i =>
      cases hi : p.threads[i]? with
      | none =>
          have ht := threadStep_of_getElem?_eq_none hi
          exact stepSimulated_of_step_eq hsim (by simp [SlotThreadPool.step, ht])
            (by simp [SlotThreadPool.ran, ht])
      | some w =>
          have ht := threadStep_of_getElem? hi
          rw [workerStep_of_closed h0 h1] at ht
          have hset := filterMap_set_perm (inFlightOf p.slots) hi (p.workerStep w).1
          rw [← ran_workerStep_of_closed h0 h1 w, ← List.append_assoc] at hset
          refine stepSimulated_stutter ?_ ?_
          · simp only [Disabling.step, SlotThreadPool.step, ht]
            exact ⟨h, h0, h1, rfl⟩
          · simp only [owed, Disabling.step, Disabling.ran, SlotThreadPool.ran,
              SlotThreadPool.step, ht, if_pos, inFlight_eq]
            exact List.perm_append_comm.trans ((List.perm_append_right_iff _).mp hset)
  | join =>
      by_cases hall : ∀ w ∈ p.threads, w = .stopped
      · have hstep : Disabling.step ⟨p, .queue1Disabled⟩ .join =
            ⟨{ p with threads := [] }, .idle⟩ := if_pos ⟨rfl, hall⟩
        have hnil := inFlight_eq_nil p fun t ht => by cases hall _ ht
        exact stepSimulated_stutter (by rw [hstep]; rfl) (by rw [hstep]; simp [owed, hnil])
      · exact stepSimulated_of_step_eq hsim (if_neg fun h => hall h.2) rfl
  | _ => exact stepSimulated_of_step_eq hsim (by simp) rfl

theorem stepSimulated_of_sim {s : Disabling τ} {a : SlotThreadPool τ} (hs : Sim s a)
    (hr : Registered s.pool) (act : Action τ) : StepSimulated s a act := by
  obtain ⟨p, stage⟩ := s
  cases stage with
  | idle =>
      obtain rfl : p = a := hs
      exact stepSimulated_idle p act
  | flagCleared =>
      obtain ⟨ha, rfl⟩ := hs
      exact stepSimulated_flagCleared ha act
  | queue0Disabled =>
      obtain ⟨ha, hts, hp⟩ : a.enabled = true ∧ List.Forall₂ Lag p.threads a.threads ∧
          p = closed0 a p.threads := hs
      rw [hp]
      exact stepSimulated_queue0Disabled ha hts act
  | queue1Disabled =>
      obtain ⟨h, h0, h1, rfl⟩ := hs
      exact stepSimulated_queue1Disabled h h0 h1 hr act

theorem step_registered {s : Disabling τ} (hs : Registered s.pool) (act : Action τ) :
    Registered (s.step act).pool := by
  cases act with
  | slot t f => exact registered_step hs (.slot t f)
  | emit t => exact registered_step hs (.emit t)
  | emitByPriority t k => exact registered_step hs (.emitByPriority t k)
  | thread i => exact registered_step hs (.thread i)
  | enable => simp only [Disabling.step]; split; exacts [registered_step hs .enable, hs]
  | join => simp only [Disabling.step]; split; exacts [⟨hs.1, hs.2, by simp, by simp⟩, hs]
  | _ => simp only [Disabling.step]; split; exacts [⟨hs.1, hs.2, hs.3, hs.4⟩, hs]

theorem simulated_run {s : Disabling τ} {a : SlotThreadPool τ} (hs : Sim s a)
    (hr : Registered s.pool) (actions : List (Action τ)) :
    ∃ events : List (Event τ), Sim (s.run actions) (a.run events) ∧
      (s.ranDuring actions ++ owed (s.run actions)).Perm (owed s ++ a.ranDuring events) := by
  induction actions generalizing s a with
  | nil => exact ⟨[], hs, by simp [Disabling.ranDuring, Disabling.run, SlotThreadPool.ranDuring]⟩
  | cons act actions ih =>
      obtain ⟨es, hs', hp⟩ := stepSimulated_of_sim hs hr act
      obtain ⟨es', hs'', hp'⟩ := ih hs' (step_registered hr act)
      refine ⟨es ++ es', by simpa [run_append] using hs'', ?_⟩
      have h1 := hp'.append_left (s.ran act)
      have h2 := hp.append_right ((a.run es).ranDuring es')
      simp only [List.append_assoc] at h2
      simpa only [Disabling.ranDuring, Disabling.run, List.foldl_cons, ranDuring_append,
        List.append_assoc] using h1.trans h2

theorem Sim.pool_eq {s : Disabling τ} {a : SlotThreadPool τ} (hs : Sim s a)
    (h : s.stage = .idle) : s.pool = a := by
  obtain ⟨p, stage⟩ := s
  subst h
  exact hs

/-- Every run of a pool with the stepwise `disable()` that ends outside `disable()` is
matched by a run of the pool model: it leaves the same pool and runs the same tasks. -/
theorem stepwise_disable_refines (n : Nat) (actions : List (Action τ))
    (hidle : (Disabling.run ⟨create n, .idle⟩ actions).stage = .idle) :
    ∃ events : List (Event τ),
      (create n).run events = (Disabling.run ⟨create n, .idle⟩ actions).pool ∧
        ((create n).ranDuring events).Perm (Disabling.ranDuring ⟨create n, .idle⟩ actions) := by
  obtain ⟨events, hs, hp⟩ :=
    simulated_run (s := ⟨create n, .idle⟩) rfl (registered_create n) actions
  refine ⟨events, (hs.pool_eq hidle).symm, ?_⟩
  simpa [owed, hidle] using hp.symm

def disableWhileRunning : List (Action Unit) :=
  [.slot 1 (), .enable, .emit 1, .thread 0, .thread 0, .disable, .disableQueue0, .disableQueue1,
    .thread 0, .thread 0, .thread 0, .join]

theorem stepwise_disable_refines_disableWhileRunning :
    (Disabling.run ⟨create 1, .idle⟩ disableWhileRunning).stage = .idle ∧
      ∃ events : List (Event Unit),
        (create 1).run events = (Disabling.run ⟨create 1, .idle⟩ disableWhileRunning).pool ∧
          ((create 1).ranDuring events).Perm
            (Disabling.ranDuring ⟨create 1, .idle⟩ disableWhileRunning) :=
  ⟨by decide, stepwise_disable_refines 1 disableWhileRunning (by decide)⟩

example : Disabling.ranDuring ⟨create 1, .idle⟩ disableWhileRunning = [(1, ())] := by decide

end DdsProxy.ThreadPool.DisableSteps
