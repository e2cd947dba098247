import Mathlib.Data.List.Basic

/-!
The double queue wait handler that `SlotThreadPool` keeps one of per priority. Its code
is not part of the sources, so it is modelled from the spec: a FIFO queue of values
(`produce` appends, `consume` takes the head) that `disable` closes. Consuming from a
closed handler raises `DisabledException`, the signal that stops a worker thread.
-/

namespace DdsProxy.ThreadPool

/-- Modelled from the spec, as `DBQueueWaitHandler<T>` is absent from the sources: `queue`
holds the produced values in the order they are retrieved ("It will retrieve tasks in
FIFO order"), `produce` drops a value on a disabled handler, and `disable` keeps the
values already queued. -/
structure DBQueueWaitHandler (α : Type) where
  queue : List α
  enabled : Bool
  deriving DecidableEq, Repr

namespace DBQueueWaitHandler

variable {α : Type}

def fresh : DBQueueWaitHandler α := ⟨[], true⟩

def produce (q : DBQueueWaitHandler α) (value : α) : DBQueueWaitHandler α :=
  if q.enabled then { q with queue := q.queue ++ [value] } else q

def disable (q : DBQueueWaitHandler α) : DBQueueWaitHandler α :=
  { q with enabled := false }

def bothEmpty (q : DBQueueWaitHandler α) : Bool :=
  q.queue.isEmpty

inductive Consumed (α : Type) where
  | value (value : α) (rest : DBQueueWaitHandler α)
  | waiting
  | disabled
  deriving DecidableEq, Repr

/-- Modelled from the spec: `consume(timeout)`. A disabled handler raises
`DisabledException`; otherwise the head of the queue is taken. On an empty queue a call
with no limit (`timeout = 0`) waits, and a timed call returns the default value `T()`
once the time runs out, the value `thread_routine_` tests against `0`. -/
def consume [Inhabited α] (q : DBQueueWaitHandler α) (timeout : Nat) : Consumed α :=
  if q.enabled then
    match q.queue with
    | value :: rest => .value value { q with queue := rest }
    | [] => if timeout = 0 then .waiting else .value default q
  else .disabled

@[simp] theorem fresh_queue : (fresh : DBQueueWaitHandler α).queue = [] := rfl

@[simp] theorem fresh_enabled : (fresh : DBQueueWaitHandler α).enabled = true := rfl

@[simp] theorem disable_queue (q : DBQueueWaitHandler α) : q.disable.queue = q.queue := rfl

@[simp] theorem disable_enabled (q : DBQueueWaitHandler α) : q.disable.enabled = false := rfl

@[simp] theorem produce_enabled (q : DBQueueWaitHandler α) (value : α) :
    (q.produce value).enabled = q.enabled := by
  unfold produce; split <;> rfl

theorem produce_queue (q : DBQueueWaitHandler α) (value : α) :
    (q.produce value).queue = if q.enabled then q.queue ++ [value] else q.queue := by
  unfold produce; split <;> rfl

@[simp] theorem produce_of_enabled {q : DBQueueWaitHandler α} (h : q.enabled = true)
    (value : α) : q.produce value = { q with queue := q.queue ++ [value] } := by
  simp [produce, h]

@[simp] theorem produce_of_disabled {q : DBQueueWaitHandler α} (h : q.enabled = false)
    (value : α) : q.produce value = q := by
  simp [produce, h]

theorem mem_produce_queue {q : DBQueueWaitHandler α} {value x : α}
    (h : x ∈ (q.produce value).queue) : x ∈ q.queue ∨ x = value := by
  rw [produce_queue] at h
  split at h <;> simp_all

@[simp] theorem bothEmpty_iff (q : DBQueueWaitHandler α) : q.bothEmpty = true ↔ q.queue = [] :=
  List.isEmpty_iff

@[simp] theorem bothEmpty_eq_false_iff (q : DBQueueWaitHandler α) :
    q.bothEmpty = false ↔ q.queue ≠ [] := by
  simp [bothEmpty, List.isEmpty_eq_false]

@[simp] theorem consume_of_disabled [Inhabited α] {q : DBQueueWaitHandler α}
    (h : q.enabled = false) (timeout : Nat) : q.consume timeout = .disabled := by
  simp [consume, h]

@[simp] theorem consume_of_cons [Inhabited α] {q : DBQueueWaitHandler α} {value : α}
    {rest : List α} (h : q.enabled = true) (hq : q.queue = value :: rest) (timeout : Nat) :
    q.consume timeout = .value value { q with queue := rest } := by
  simp [consume, h, hq]

@[simp] theorem consume_of_nil [Inhabited α] {q : DBQueueWaitHandler α}
    (h : q.enabled = true) (hq : q.queue = []) (timeout : Nat) :
    q.consume timeout = if timeout = 0 then .waiting else .value default q := by
  simp [consume, h, hq]

theorem consume_eq_value [Inhabited α] {q rest : DBQueueWaitHandler α} {timeout : Nat}
    {value : α} (h : q.consume timeout = .value value rest) :
    q.enabled = true ∧ rest = { q with queue := q.queue.tail } ∧
      (q.queue = value :: rest.queue ∨ (q.queue = [] ∧ timeout ≠ 0 ∧ value = default)) := by
  obtain ⟨queue, enabled⟩ := q
  cases enabled with
  | false => simp [consume] at h
  | true =>
      cases queue with
      | cons head tail =>
          simp only [consume, ite_true, Consumed.value.injEq] at h
          obtain ⟨rfl, rfl⟩ := h
          simp
      | nil =>
          by_cases ht : timeout = 0 <;> simp [consume, ht] at h
          simp [h, ht]

theorem consume_eq_waiting [Inhabited α] {q : DBQueueWaitHandler α} {timeout : Nat}
    (h : q.consume timeout = .waiting) :
    q.enabled = true ∧ q.queue = [] ∧ timeout = 0 := by
  unfold consume at h
  split at h
  · split at h
    · cases h
    · split at h
      · exact ⟨by assumption, by assumption, by assumption⟩
      · cases h
  · cases h

theorem consume_eq_disabled [Inhabited α] {q : DBQueueWaitHandler α} {timeout : Nat}
    (h : q.consume timeout = .disabled) : q.enabled = false := by
  unfold consume at h
  split at h
  · split at h
    · cases h
    · split at h <;> cases h
  · simpa using ‹¬q.enabled = true›

end DBQueueWaitHandler

end DdsProxy.ThreadPool
