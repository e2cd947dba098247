import Mathlib.Data.List.Basic

/-!
The heartbeat monitor of a slave proxy (`ProxyKeepAlivedSubscriber.cpp`). The reader's
listener sets the global `heartbeat_arrived` on every ALIVE sample; `run` wakes once per
`keepalived_interval`, declares the master down (`master_flag`) if no heartbeat has
arrived, and otherwise clears the flag for the next interval. The two threads share only
atomic flags, so a run of the monitor is any interleaving of the listener's deliveries
with the steps of `run`.
-/

namespace DdsProxy.KeepAlived

inductive InstanceState where
  | alive
  | notAliveDisposed
  | notAliveNoWriters
  deriving DecidableEq, Repr

/-- The points of `ProxyKeepAlivedSubscriber::run(uint32_t)` between its atomic steps: about
to test `force_exit` and sleep, about to read `heartbeat_arrived`, in the "Master is down"
branch, about to store `false`, and returned. -/
inductive Monitor where
  | loop
  | check
  | timedOut
  | reset
  | returned
  deriving DecidableEq, Repr

/-- The globals the monitor shares with its listener and `main` (`master_flag`,
`heartbeat_arrived`, `force_exit`), the listener's sample count, and the point `run` is
at. -/
structure ProxyKeepAlivedSubscriber where
  masterFlag : Bool
  heartbeatArrived : Bool
  forceExit : Bool
  samples : Nat
  monitor : Monitor
  deriving DecidableEq, Repr

def ProxyKeepAlivedSubscriber.start (masterFlag heartbeatArrived : Bool) : ProxyKeepAlivedSubscriber :=
  ⟨masterFlag, heartbeatArrived, false, 0, .loop⟩

def onDataAvailable (s : ProxyKeepAlivedSubscriber) : Option InstanceState → ProxyKeepAlivedSubscriber
  | some .alive => { s with samples := s.samples + 1, heartbeatArrived := true }
  | _ => s

def runStep (s : ProxyKeepAlivedSubscriber) : ProxyKeepAlivedSubscriber :=
  match s.monitor with
  | .loop => { s with monitor := if s.forceExit then .returned else .check }
  | .check => { s with monitor := if s.heartbeatArrived then .reset else .timedOut }
  | .timedOut => { s with masterFlag := true, monitor := .returned }
  | .reset => { s with heartbeatArrived := false, monitor := .loop }
  | .returned => s

/-- One event of an interleaving: a delivery to the listener, a step of `run`, or `main`
storing `1` into `force_exit` at shutdown. -/
inductive Event where
  | onDataAvailable (sample : Option InstanceState)
  | run
  | forceExit
  deriving DecidableEq, Repr

def step (s : ProxyKeepAlivedSubscriber) : Event → ProxyKeepAlivedSubscriber
  | .onDataAvailable sample => onDataAvailable s sample
  | .run => runStep s
  | .forceExit => { s with forceExit := true }

def Event.deliversAlive : Event → Bool
  | .onDataAvailable (some .alive) => true
  | _ => false

/-- A state with two history variables: whether an ALIVE sample has been delivered since
`run` last read `heartbeat_arrived`, and since it last cleared it (or since the run
began). -/
structure Observed where
  state : ProxyKeepAlivedSubscriber
  aliveSinceCheck : Bool
  aliveSinceReset : Bool
  deriving DecidableEq, Repr

namespace Observed

def start (s : ProxyKeepAlivedSubscriber) : Observed := ⟨s, false, false⟩

def step (o : Observed) (e : Event) : Observed where
  state := KeepAlived.step o.state e
  aliveSinceCheck :=
    e.deliversAlive || (o.aliveSinceCheck && !(e = .run && o.state.monitor = .check))
  aliveSinceReset :=
    e.deliversAlive || (o.aliveSinceReset && !(e = .run && o.state.monitor = .reset))

def run (o : Observed) (events : List Event) : Observed :=
  events.foldl step o

@[simp] theorem run_nil (o : Observed) : o.run [] = o := rfl

@[simp] theorem run_cons (o : Observed) (e : Event) (events : List Event) :
    o.run (e :: events) = (o.step e).run events := rfl

end Observed

theorem runStep_monitor_eq_timedOut (s : ProxyKeepAlivedSubscriber) :
    (runStep s).monitor = .timedOut ↔ s.monitor = .check ∧ s.heartbeatArrived = false := by
  unfold runStep
  split <;> simp_all
  split <;> simp_all

theorem step_masterFlag {s : ProxyKeepAlivedSubscriber} {e : Event}
    (h : (step s e).masterFlag = true) :
    s.masterFlag = true ∨ (e = .run ∧ s.monitor = .timedOut) := by
  cases e with
  | onDataAvailable sample => rcases sample with _ | _ | _ | _ <;> simp_all [step, onDataAvailable]
  | run =>
      simp only [step, runStep] at h
      split at h <;> simp_all
  | forceExit => exact .inl h

/-- A heartbeat delivered after a check that found one, and before the reset that
follows that check, is erased by the reset: the next check finds no heartbeat although
one was delivered since the previous check, and `run` declares the master down. -/
theorem heartbeat_erased_by_reset :
    let o : Observed := (Observed.start (.start false false)).run
      [.run, .onDataAvailable (some .alive), .run, .onDataAvailable (some .alive), .run, .run]
    o.state.monitor = .check ∧ o.aliveSinceCheck = true ∧ o.state.heartbeatArrived = false ∧
      (o.run [.run, .run]).state.masterFlag = true := by
  decide

def run (s : ProxyKeepAlivedSubscriber) (events : List Event) : ProxyKeepAlivedSubscriber :=
  events.foldl step s

def stepsToReturn : Monitor → Nat
  | .loop => 1
  | .check => 3
  | .timedOut => 1
  | .reset => 2
  | .returned => 0

theorem stepsToReturn_le_three (m : Monitor) : stepsToReturn m ≤ 3 := by
  cases m <;> decide

theorem stepsToReturn_step {s : ProxyKeepAlivedSubscriber} (hs : s.forceExit = true)
    (e : Event) :
    (step s e).forceExit = true ∧
      stepsToReturn (step s e).monitor ≤ stepsToReturn s.monitor - if e = .run then 1 else 0 := by
  cases e with
  | onDataAvailable sample =>
      rcases sample with _ | _ | _ | _ <;> simp [step, onDataAvailable, hs]
  | run =>
      cases hm : s.monitor <;> cases hb : s.heartbeatArrived <;>
        simp [step, runStep, stepsToReturn, hm, hb, hs]
  | forceExit => simp [step]

theorem stepsToReturn_run {s : ProxyKeepAlivedSubscriber} (hs : s.forceExit = true)
    (events : List Event) :
    stepsToReturn (run s events).monitor ≤ stepsToReturn s.monitor - events.count .run := by
  induction events generalizing s with
  | nil => simp [run]
  | cons e events ih =>
      obtain ⟨hs', hle⟩ := stepsToReturn_step hs e
      have := ih hs'
      simp only [run, List.foldl_cons, List.count_cons, beq_iff_eq] at this ⊢
      omega

/-- Shutdown is not held up by the monitor. Once `main` has stored `1` into `force_exit`,
`run` returns within three of its own steps, whatever the listener delivers in between;
so `alive_topic`, which `main` joins, leaves the subscriber branch. -/
theorem run_returns_after_forceExit (s : ProxyKeepAlivedSubscriber) (hs : s.forceExit = true)
    (events : List Event) (hrun : 3 ≤ events.count .run) :
    (run s events).monitor = .returned := by
  have h := stepsToReturn_run hs events
  have h3 := stepsToReturn_le_three s.monitor
  generalize stepsToReturn s.monitor = k at h h3
  cases hm : (run s events).monitor <;> simp only [hm, stepsToReturn] at h ⊢ <;> omega

theorem run_returns_after_forceExit_check :
    (⟨false, true, true, 0, .check⟩ : ProxyKeepAlivedSubscriber).forceExit = true ∧
      3 ≤ [Event.onDataAvailable (some .alive), .run, .run, .run].count .run ∧
      (run ⟨false, true, true, 0, .check⟩
        [.onDataAvailable (some .alive), .run, .run, .run]).monitor = .returned :=
  ⟨rfl, by decide, run_returns_after_forceExit _ rfl _ (by decide)⟩

/-! ### Failover -/

end DdsProxy.KeepAlived
