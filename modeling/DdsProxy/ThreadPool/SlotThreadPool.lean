import DdsProxy.ThreadPool.DBQueueWaitHandler

/-!
`SlotThreadPool` (`SlotThreadPool.hpp`, `SlotThreadPool.cpp`): a pool of worker threads
that run tasks registered under a `TaskId`. The calls `slot`, `emit`, `emit_by_priority`,
`enable` and `disable` are functions on the pool's state. A worker thread is a point of
the loop of `thread_routine_`, and `workerStep` is one atomic step of it;
`threadRoutineIteration` is one whole pass of that loop as a lone worker runs it.
-/

namespace DdsProxy.ThreadPool

abbrev TaskId := Nat

structure ValueNotAllowedException where
  msg : String
  deriving DecidableEq, Repr

/-- A worker thread, at one of the points of `thread_routine_` between two atomic steps:
at the top of the loop, inside `consume()` of queue 0 or `consume(1)` of queue 1, holding
an id whose task it runs next, gone on the `DisabledException`, or in the branch "Slot in
Queue must be stored in slots register" (`tsnh`). -/
inductive Worker where
  | free
  | consuming0
  | consuming1
  | executing (taskId : TaskId)
  | stopped
  | tsnh
  deriving DecidableEq, Repr

def Worker.holding : Worker → Option TaskId
  | .executing taskId => some taskId
  | _ => none

/-- The fields of a `SlotThreadPool` whose tasks are values of `τ`; `threads` holds the
point each spawned thread is at. -/
structure SlotThreadPool (τ : Type) where
  numberOfThreads : Nat
  taskQueuePriority0 : DBQueueWaitHandler TaskId
  taskQueuePriority1 : DBQueueWaitHandler TaskId
  threads : List Worker
  slots : List (TaskId × τ)
  enabled : Bool
  deriving DecidableEq, Repr

/-- What one pass of the loop of `thread_routine_` ends in: a task run, a `0` from
`consume(1)` that sends the thread back to the top, a wait inside `consume()` of queue 0,
the `DisabledException`, or the missing-slot branch. -/
inductive Iteration (τ : Type) where
  | executed (taskId : TaskId) (task : τ)
  | continued
  | waiting
  | stopped
  | tsnh
  deriving DecidableEq, Repr

def Iteration.worker {τ : Type} : Iteration τ → Worker
  | .executed _ _ | .continued => .free
  | .waiting => .consuming0
  | .stopped => .stopped
  | .tsnh => .tsnh

def Iteration.ran {τ : Type} : Iteration τ → List (TaskId × τ)
  | .executed taskId task => [(taskId, task)]
  | _ => []

namespace SlotThreadPool

variable {τ : Type}

abbrev Result (τ : Type) := EStateM.Result ValueNotAllowedException (SlotThreadPool τ) Unit

def create (nThreads : Nat) : SlotThreadPool τ :=
  ⟨nThreads, .fresh, .fresh, [], [], false⟩

def enable (p : SlotThreadPool τ) : SlotThreadPool τ :=
  if p.enabled then p
  else { p with enabled := true,
                threads := p.threads ++ List.replicate p.numberOfThreads .free }

/-- `disable`: disables both queues and joins every thread, unless the pool is already
disabled. Once both queues are disabled no thread consumes again, so each one finishes at
most the task it holds (`inFlight`) and leaves. The two `disable()` calls and the join are
folded into this one step. -/
def disable (p : SlotThreadPool τ) : SlotThreadPool τ :=
  if p.enabled then
    { p with enabled := false,
             taskQueuePriority0 := p.taskQueuePriority0.disable,
             taskQueuePriority1 := p.taskQueuePriority1.disable,
             threads := [] }
  else p

def destroy (p : SlotThreadPool τ) : SlotThreadPool τ × List Worker :=
  let p := p.disable
  ({ p with taskQueuePriority0 := p.taskQueuePriority0.disable,
            taskQueuePriority1 := p.taskQueuePriority1.disable }, p.threads)

def inFlight (p : SlotThreadPool τ) : List (TaskId × τ) :=
  p.threads.filterMap fun w => w.holding.bind fun taskId => (p.slots.lookup taskId).map (taskId, ·)

def emit (p : SlotThreadPool τ) (taskId : TaskId) : Result τ :=
  match p.slots.lookup taskId with
  | none => .error ⟨"Slot " ++ toString taskId ++ " not registered."⟩ p
  | some _ => .ok () { p with taskQueuePriority0 := p.taskQueuePriority0.produce taskId }

def emitByPriority (p : SlotThreadPool τ) (taskId : TaskId) (priorityId : Nat) : Result τ :=
  match p.slots.lookup taskId with
  | none => .error ⟨"Slot " ++ toString taskId ++ " not registered."⟩ p
  | some _ =>
      if priorityId = 0 then
        .ok () { p with taskQueuePriority0 := p.taskQueuePriority0.produce taskId }
      else if priorityId = 1 then
        .ok () { p with taskQueuePriority1 := p.taskQueuePriority1.produce taskId }
      else .error ⟨"Slot " ++ toString priorityId ++ " not allowed."⟩ p

def slot (p : SlotThreadPool τ) (taskId : TaskId) (task : τ) : Result τ :=
  match p.slots.lookup taskId with
  | some _ => .error ⟨"Slot " ++ toString taskId ++ " already exists."⟩ p
  | none => .ok () { p with slots := (taskId, task) :: p.slots }

/-- One atomic step of a worker at `w`: the point it moves to, the pool after the step,
and the task it ran, if any. A worker waiting inside `consume()` on an empty queue 0
stays where it is, and so does one that has left the loop. -/
def workerStep (p : SlotThreadPool τ) : Worker → Worker × SlotThreadPool τ × Option (TaskId × τ)
  | .free =>
      (if !p.taskQueuePriority0.bothEmpty then .consuming0 else .consuming1, p, none)
  | .consuming0 =>
      match p.taskQueuePriority0.consume 0 with
      | .value taskId q => (.executing taskId, { p with taskQueuePriority0 := q }, none)
      | .waiting => (.consuming0, p, none)
      | .disabled => (.stopped, p, none)
  | .consuming1 =>
      match p.taskQueuePriority1.consume 1 with
      | .value taskId q =>
          (if taskId = 0 then .free else .executing taskId,
            { p with taskQueuePriority1 := q }, none)
      | .waiting => (.consuming1, p, none)
      | .disabled => (.stopped, p, none)
  | .executing taskId =>
      match p.slots.lookup taskId with
      | some task => (.free, p, some (taskId, task))
      | none => (.tsnh, p, none)
  | .stopped => (.stopped, p, none)
  | .tsnh => (.tsnh, p, none)

def threadStep (p : SlotThreadPool τ) (i : Nat) : SlotThreadPool τ × Option (TaskId × τ) :=
  match p.threads[i]? with
  | some w =>
      let (w', p', ran) := p.workerStep w
      ({ p' with threads := p.threads.set i w' }, ran)
  | none => (p, none)

def execute (slots : List (TaskId × τ)) (taskId : TaskId) : Iteration τ :=
  match slots.lookup taskId with
  | some task => .executed taskId task
  | none => .tsnh

/-- One pass of the loop of `thread_routine_`, run by one worker while no other thread
touches the pool. -/
def threadRoutineIteration (p : SlotThreadPool τ) : Iteration τ × SlotThreadPool τ :=
  if !p.taskQueuePriority0.bothEmpty then
    match p.taskQueuePriority0.consume 0 with
    | .value taskId q => (execute p.slots taskId, { p with taskQueuePriority0 := q })
    | .waiting => (.waiting, p)
    | .disabled => (.stopped, p)
  else
    match p.taskQueuePriority1.consume 1 with
    | .value taskId q =>
        (if taskId = 0 then .continued else execute p.slots taskId,
          { p with taskQueuePriority1 := q })
    | .waiting => (.waiting, p)
    | .disabled => (.stopped, p)

/-- The loop of `thread_routine_` for at most `fuel` passes, run by a lone worker: the
tasks it runs, in order, and the pool it leaves. It ends early when the thread waits,
stops or reaches the missing-slot branch. -/
def threadRoutine : Nat → SlotThreadPool τ → List (TaskId × τ) × SlotThreadPool τ
  | 0, p => ([], p)
  | fuel + 1, p =>
      match p.threadRoutineIteration with
      | (.executed taskId task, p') =>
          let (ran, p'') := threadRoutine fuel p'
          ((taskId, task) :: ran, p'')
      | (.continued, p') => threadRoutine fuel p'
      | (_, p') => ([], p')

def workerSteps (p : SlotThreadPool τ) (w : Worker) :
    Nat → Worker × SlotThreadPool τ × List (TaskId × τ)
  | 0 => (w, p, [])
  | k + 1 =>
      let (w', p', ran) := p.workerStep w
      let (w'', p'', ran') := p'.workerSteps w' k
      (w'', p'', ran.toList ++ ran')

/-- One event of a run of the pool: a call made on it, or one atomic step of thread
`i`. -/
inductive Event (τ : Type) where
  | slot (taskId : TaskId) (task : τ)
  | emit (taskId : TaskId)
  | emitByPriority (taskId : TaskId) (priorityId : Nat)
  | enable
  | disable
  | thread (i : Nat)
  deriving DecidableEq, Repr

def after : Result τ → SlotThreadPool τ
  | .ok _ p => p
  | .error _ p => p

def step (p : SlotThreadPool τ) : Event τ → SlotThreadPool τ
  | .slot taskId task => after (p.slot taskId task)
  | .emit taskId => after (p.emit taskId)
  | .emitByPriority taskId priorityId => after (p.emitByPriority taskId priorityId)
  | .enable => p.enable
  | .disable => p.disable
  | .thread i => (p.threadStep i).1

def ran (p : SlotThreadPool τ) : Event τ → List (TaskId × τ)
  | .thread i => (p.threadStep i).2.toList
  | .disable => if p.enabled then p.inFlight else []
  | _ => []

def run (p : SlotThreadPool τ) (events : List (Event τ)) : SlotThreadPool τ :=
  events.foldl step p

def ranDuring : SlotThreadPool τ → List (Event τ) → List (TaskId × τ)
  | _, [] => []
  | p, e :: events => p.ran e ++ ranDuring (p.step e) events

@[simp] theorem run_nil (p : SlotThreadPool τ) : p.run [] = p := rfl

@[simp] theorem run_cons (p : SlotThreadPool τ) (e : Event τ) (events : List (Event τ)) :
    p.run (e :: events) = (p.step e).run events := rfl

theorem run_append (p : SlotThreadPool τ) (events events' : List (Event τ)) :
    p.run (events ++ events') = (p.run events).run events' :=
  List.foldl_append _ _ _ _

@[simp] theorem after_ok (u : Unit) (p : SlotThreadPool τ) : after (.ok u p) = p := rfl

@[simp] theorem after_error (e : ValueNotAllowedException) (p : SlotThreadPool τ) :
    after (.error e p) = p := rfl

/-! ### What `enable` and `disable` change -/

section enableDisable

variable (p : SlotThreadPool τ)

@[simp] theorem enable_slots : p.enable.slots = p.slots := by unfold enable; split <;> rfl

@[simp] theorem enable_numberOfThreads : p.enable.numberOfThreads = p.numberOfThreads := by
  unfold enable; split <;> rfl

@[simp] theorem enable_taskQueuePriority0 :
    p.enable.taskQueuePriority0 = p.taskQueuePriority0 := by
  unfold enable; split <;> rfl

@[simp] theorem enable_taskQueuePriority1 :
    p.enable.taskQueuePriority1 = p.taskQueuePriority1 := by
  unfold enable; split <;> rfl

@[simp] theorem enable_enabled : p.enable.enabled = true := by
  unfold enable; split <;> simp_all

theorem enable_threads : p.enable.threads =
    if p.enabled then p.threads else p.threads ++ List.replicate p.numberOfThreads .free := by
  unfold enable; split <;> rfl

@[simp] theorem disable_slots : p.disable.slots = p.slots := by unfold disable; split <;> rfl

@[simp] theorem disable_numberOfThreads : p.disable.numberOfThreads = p.numberOfThreads := by
  unfold disable; split <;> rfl

@[simp] theorem disable_enabled : p.disable.enabled = false := by
  unfold disable; split <;> simp_all

theorem disable_taskQueuePriority0 : p.disable.taskQueuePriority0 =
    if p.enabled then p.taskQueuePriority0.disable else p.taskQueuePriority0 := by
  unfold disable; split <;> rfl

theorem disable_taskQueuePriority1 : p.disable.taskQueuePriority1 =
    if p.enabled then p.taskQueuePriority1.disable else p.taskQueuePriority1 := by
  unfold disable; split <;> rfl

theorem disable_threads : p.disable.threads = if p.enabled then [] else p.threads := by
  unfold disable; split <;> rfl

theorem mem_enable_threads {p : SlotThreadPool τ} {w : Worker} (h : w ∈ p.enable.threads) :
    w ∈ p.threads ∨ w = .free := by
  rw [enable_threads] at h
  split at h
  · exact .inl h
  · rcases List.mem_append.mp h with h | h
    exacts [.inl h, .inr (List.eq_of_mem_replicate h)]

theorem mem_disable_threads {p : SlotThreadPool τ} {w : Worker} (h : w ∈ p.disable.threads) :
    w ∈ p.threads := by
  rw [disable_threads] at h
  split at h
  · cases h
  · exact h

@[simp] theorem disable_taskQueuePriority0_queue :
    p.disable.taskQueuePriority0.queue = p.taskQueuePriority0.queue := by
  rw [disable_taskQueuePriority0]; split <;> rfl

@[simp] theorem disable_taskQueuePriority1_queue :
    p.disable.taskQueuePriority1.queue = p.taskQueuePriority1.queue := by
  rw [disable_taskQueuePriority1]; split <;> rfl

theorem inFlight_eq_nil (h : ∀ taskId, Worker.executing taskId ∉ p.threads) :
    p.inFlight = [] := by
  simp only [inFlight, List.filterMap_eq_nil_iff]
  intro w hw
  cases w with
  | executing taskId => exact absurd hw (h taskId)
  | _ => rfl

end enableDisable

/-! ### What each call does, and how it fails -/

section calls

variable {p p' : SlotThreadPool τ} {taskId : TaskId} {task : τ} {priorityId : Nat}
  {e : ValueNotAllowedException}

theorem slot_eq_ok {u : Unit} : p.slot taskId task = .ok u p' ↔
    p.slots.lookup taskId = none ∧ p' = { p with slots := (taskId, task) :: p.slots } := by
  cases hl : p.slots.lookup taskId <;> simp [slot, hl, eq_comm]

theorem slot_eq_error : p.slot taskId task = .error e p' ↔
    (p.slots.lookup taskId).isSome ∧
      e = ⟨"Slot " ++ toString taskId ++ " already exists."⟩ ∧ p' = p := by
  cases hl : p.slots.lookup taskId <;> simp [slot, hl, eq_comm]

theorem emitByPriority_eq_ok {u : Unit} : p.emitByPriority taskId priorityId = .ok u p' ↔
    (p.slots.lookup taskId).isSome ∧
      ((priorityId = 0 ∧
          p' = { p with taskQueuePriority0 := p.taskQueuePriority0.produce taskId }) ∨
        (priorityId = 1 ∧
          p' = { p with taskQueuePriority1 := p.taskQueuePriority1.produce taskId })) := by
  cases hl : p.slots.lookup taskId with
  | none => simp [emitByPriority, hl]
  | some =>
      by_cases h0 : priorityId = 0
      · subst h0; simp [emitByPriority, hl]; exact eq_comm
      · by_cases h1 : priorityId = 1
        · subst h1; simp [emitByPriority, hl]; exact eq_comm
        · simp [emitByPriority, hl, h0, h1]

theorem emitByPriority_eq_error : p.emitByPriority taskId priorityId = .error e p' ↔
    p' = p ∧
      ((p.slots.lookup taskId = none ∧ e = ⟨"Slot " ++ toString taskId ++ " not registered."⟩) ∨
        ((p.slots.lookup taskId).isSome ∧ priorityId ≠ 0 ∧ priorityId ≠ 1 ∧
          e = ⟨"Slot " ++ toString priorityId ++ " not allowed."⟩)) := by
  cases hl : p.slots.lookup taskId with
  | none => simp [emitByPriority, hl, eq_comm, and_comm]
  | some =>
      by_cases h0 : priorityId = 0
      · simp [emitByPriority, hl, h0]
      · by_cases h1 : priorityId = 1
        · simp [emitByPriority, hl, h1]
        · simp [emitByPriority, hl, h0, h1]
          constructor <;> (rintro ⟨rfl, rfl⟩; exact ⟨rfl, rfl⟩)

theorem after_slot (p : SlotThreadPool τ) (taskId : TaskId) (task : τ) :
    after (p.slot taskId task) = p ∨
      after (p.slot taskId task) = { p with slots := (taskId, task) :: p.slots } := by
  cases hs : p.slot taskId task with
  | ok u p' => exact .inr (slot_eq_ok.mp hs).2
  | error e p' => exact .inl (slot_eq_error.mp hs).2.2

theorem after_emitByPriority (p : SlotThreadPool τ) (taskId : TaskId) (priorityId : Nat) :
    after (p.emitByPriority taskId priorityId) = p ∨
      after (p.emitByPriority taskId priorityId) =
        { p with taskQueuePriority0 := p.taskQueuePriority0.produce taskId } ∨
      after (p.emitByPriority taskId priorityId) =
        { p with taskQueuePriority1 := p.taskQueuePriority1.produce taskId } := by
  cases hs : p.emitByPriority taskId priorityId with
  | ok u p' =>
      obtain ⟨-, ⟨-, rfl⟩ | ⟨-, rfl⟩⟩ := emitByPriority_eq_ok.mp hs
      exacts [.inr (.inl rfl), .inr (.inr rfl)]
  | error e p' => exact .inl (emitByPriority_eq_error.mp hs).1

theorem emit_eq_emitByPriority : p.emit taskId = p.emitByPriority taskId 0 := by
  simp only [emit, emitByPriority, if_pos]

end calls

/-! ### What one step of a worker can do -/

section workerStep

variable (p : SlotThreadPool τ) (w : Worker)

@[simp] theorem workerStep_slots : (p.workerStep w).2.1.slots = p.slots := by
  cases w <;> simp only [workerStep] <;> (try split) <;> rfl

@[simp] theorem workerStep_threads : (p.workerStep w).2.1.threads = p.threads := by
  cases w <;> simp only [workerStep] <;> (try split) <;> rfl

@[simp] theorem workerStep_enabled : (p.workerStep w).2.1.enabled = p.enabled := by
  cases w <;> simp only [workerStep] <;> (try split) <;> rfl

@[simp] theorem workerStep_numberOfThreads :
    (p.workerStep w).2.1.numberOfThreads = p.numberOfThreads := by
  cases w <;> simp only [workerStep] <;> (try split) <;> rfl

theorem workerStep_queue0 :
    (p.workerStep w).2.1.taskQueuePriority0 = p.taskQueuePriority0 ∨
      (p.workerStep w).2.1.taskQueuePriority0 =
        { p.taskQueuePriority0 with queue := p.taskQueuePriority0.queue.tail } := by
  cases w with
  | consuming0 =>
      simp only [workerStep]
      split
      · next heq => exact .inr (DBQueueWaitHandler.consume_eq_value heq).2.1
      all_goals exact .inl rfl
  | consuming1 => simp only [workerStep]; split <;> exact .inl rfl
  | executing taskId => simp only [workerStep]; split <;> exact .inl rfl
  | _ => exact .inl rfl

theorem workerStep_queue1 :
    (p.workerStep w).2.1.taskQueuePriority1 = p.taskQueuePriority1 ∨
      (p.workerStep w).2.1.taskQueuePriority1 =
        { p.taskQueuePriority1 with queue := p.taskQueuePriority1.queue.tail } := by
  cases w with
  | consuming1 =>
      simp only [workerStep]
      split
      · next heq => exact .inr (DBQueueWaitHandler.consume_eq_value heq).2.1
      all_goals exact .inl rfl
  | consuming0 => simp only [workerStep]; split <;> exact .inl rfl
  | executing taskId => simp only [workerStep]; split <;> exact .inl rfl
  | _ => exact .inl rfl

theorem workerStep_executing {taskId : TaskId} (h : (p.workerStep w).1 = .executing taskId) :
    (p.taskQueuePriority0.enabled = true ∧ taskId ∈ p.taskQueuePriority0.queue) ∨
      (p.taskQueuePriority1.enabled = true ∧ taskId ∈ p.taskQueuePriority1.queue) := by
  cases w with
  | free => simp only [workerStep] at h; split at h <;> cases h
  | consuming0 =>
      simp only [workerStep] at h
      split at h
      · next heq =>
          cases h
          obtain ⟨hen, -, hq | ⟨-, h0, -⟩⟩ := DBQueueWaitHandler.consume_eq_value heq
          · exact .inl ⟨hen, by simp [hq]⟩
          · exact absurd rfl h0
      all_goals cases h
  | consuming1 =>
      simp only [workerStep] at h
      split at h
      · next heq =>
          split at h
          · cases h
          · cases h
            obtain ⟨hen, -, hq | ⟨-, -, h0⟩⟩ := DBQueueWaitHandler.consume_eq_value heq
            · exact .inr ⟨hen, by simp [hq]⟩
            · contradiction
      all_goals cases h
  | executing t => simp only [workerStep] at h; split at h <;> cases h
  | stopped => cases h
  | tsnh => cases h

theorem workerStep_ran {taskId : TaskId} {task : τ}
    (h : (p.workerStep w).2.2 = some (taskId, task)) :
    w = .executing taskId ∧ p.slots.lookup taskId = some task := by
  cases w with
  | executing t =>
      simp only [workerStep] at h
      split at h
      · next hf => cases h; exact ⟨rfl, hf⟩
      · cases h
  | consuming0 => simp only [workerStep] at h; split at h <;> cases h
  | consuming1 => simp only [workerStep] at h; split at h <;> cases h
  | free | stopped | tsnh => simp [workerStep] at h

theorem workerStep_tsnh (h : (p.workerStep w).1 = .tsnh) :
    w = .tsnh ∨ ∃ taskId, w = .executing taskId ∧ p.slots.lookup taskId = none := by
  cases w with
  | executing t =>
      simp only [workerStep] at h
      split at h
      · cases h
      · exact .inr ⟨t, rfl, by assumption⟩
  | free => simp only [workerStep] at h; split at h <;> cases h
  | consuming0 => simp only [workerStep] at h; split at h <;> cases h
  | consuming1 => simp only [workerStep] at h; split at h <;> (try split at h) <;> cases h
  | stopped => cases h
  | tsnh => exact .inl rfl

theorem workerStep_consuming0 (h : (p.workerStep w).1 = .consuming0) :
    (w = .free ∧ p.taskQueuePriority0.queue ≠ []) ∨
      (w = .consuming0 ∧ p.taskQueuePriority0.queue = [] ∧ (p.workerStep w).2.1 = p) := by
  cases w with
  | free =>
      simp only [workerStep] at h
      split at h
      · next hne => exact .inl ⟨rfl, by simpa using hne⟩
      · cases h
  | consuming0 =>
      simp only [workerStep] at h ⊢
      split at h
      · cases h
      · next heq => simp [heq, (DBQueueWaitHandler.consume_eq_waiting heq).2.1]
      · cases h
  | consuming1 => simp only [workerStep] at h; split at h <;> (try split at h) <;> cases h
  | executing t => simp only [workerStep] at h; split at h <;> cases h
  | stopped | tsnh => cases h

theorem workerStep_stopped (h : (p.workerStep w).1 = .stopped) :
    w = .stopped ∨ (w = .consuming0 ∧ p.taskQueuePriority0.enabled = false) ∨
      (w = .consuming1 ∧ p.taskQueuePriority1.enabled = false) := by
  cases w with
  | free => simp only [workerStep] at h; split at h <;> cases h
  | consuming0 =>
      simp only [workerStep] at h
      split at h
      · cases h
      · cases h
      · next heq => exact .inr (.inl ⟨rfl, DBQueueWaitHandler.consume_eq_disabled heq⟩)
  | consuming1 =>
      simp only [workerStep] at h
      split at h
      · split at h <;> cases h
      · cases h
      · next heq => exact .inr (.inr ⟨rfl, DBQueueWaitHandler.consume_eq_disabled heq⟩)
  | executing t => simp only [workerStep] at h; split at h <;> cases h
  | stopped => exact .inl rfl
  | tsnh => cases h

@[simp] theorem workerStep_taskQueuePriority0_enabled :
    (p.workerStep w).2.1.taskQueuePriority0.enabled = p.taskQueuePriority0.enabled := by
  rcases workerStep_queue0 p w with h | h <;> rw [h]

@[simp] theorem workerStep_taskQueuePriority1_enabled :
    (p.workerStep w).2.1.taskQueuePriority1.enabled = p.taskQueuePriority1.enabled := by
  rcases workerStep_queue1 p w with h | h <;> rw [h]

end workerStep

theorem threadStep_of_getElem? {p : SlotThreadPool τ} {i : Nat} {w : Worker}
    (h : p.threads[i]? = some w) :
    p.threadStep i = ({ (p.workerStep w).2.1 with
      threads := p.threads.set i (p.workerStep w).1 }, (p.workerStep w).2.2) := by
  simp [threadStep, h]

theorem threadStep_of_getElem?_eq_none {p : SlotThreadPool τ} {i : Nat}
    (h : p.threads[i]? = none) : p.threadStep i = (p, none) := by
  simp [threadStep, h]

@[simp] theorem step_numberOfThreads (p : SlotThreadPool τ) (e : Event τ) :
    (p.step e).numberOfThreads = p.numberOfThreads := by
  cases e with
  | slot t f => rcases after_slot p t f with h | h <;> simp [step, h]
  | emit t =>
      rcases after_emitByPriority p t 0 with h | h | h <;> simp [step, emit_eq_emitByPriority, h]
  | emitByPriority t k => rcases after_emitByPriority p t k with h | h | h <;> simp [step, h]
  | enable => simp [step]
  | disable => simp [step]
  | thread i =>
      cases hi : p.threads[i]? with
      | none => simp [step, threadStep_of_getElem?_eq_none hi]
      | some w => simp [step, threadStep_of_getElem? hi]

@[simp] theorem run_numberOfThreads (p : SlotThreadPool τ) (events : List (Event τ)) :
    (p.run events).numberOfThreads = p.numberOfThreads := by
  induction events generalizing p with
  | nil => rfl
  | cons e events ih => simp [ih]

end SlotThreadPool

end DdsProxy.ThreadPool
