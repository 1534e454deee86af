import ParkingSystem.Lib.Runs
import ParkingSystem.Lib.Sync

/-!
# The worker threads and their condition variable

TcpServer and Database hand requests from one worker thread to another through
`request_queue_`, under `request_queue_mutex_` and with `request_queue_condition_`.
Here every call on the mutex and the condition variable and every access to the
queue and to `running_` is a step of its own; `System` has the critical sections
as one step. The threads are those of one process; the calls on the mutex and the
condition variable succeed.

The consumers are the same but for the test of their outer loop (`consume`). The
producers signal before and after they unlock, and `run` clears `running_` outside
the mutex. `Steady` is what keeps the consumer from being left parked, with one
rule for each operation of the other threads.
-/

namespace ParkingSystem

open Runs (run)
open Sync (Monitor)

inductive WorkerThread where
  | consumer
  | producer
  | main
  deriving DecidableEq

/-- What they share: the mutex with the condition variable, `running_` and
`request_queue_`. -/
structure Handoff (ρ : Type) where
  monitor : Monitor WorkerThread
  running : Bool
  queue : List ρ

def Handoff.initial (ρ : Type) : Handoff ρ := ⟨.free, true, []⟩

inductive ConsumerPc (ρ : Type) where
  | notCreated
  | loop
  | lock
  /-- The inner loop, `request_queue_.empty() && running_`. -/
  | testEmpty
  | testRunning
  | wait
  /-- In `pthread_cond_wait`, parked or about to lock the mutex again. -/
  | waiting
  /-- After the inner loop, `!running_ && request_queue_.empty()`. -/
  | testStopped
  | testDrained
  | take
  | unlock (request : ρ)
  | forward (request : ρ)
  | unlockStopped
  | stopped

def ConsumerPc.holds {ρ : Type} : ConsumerPc ρ → Bool
  | .testEmpty | .testRunning | .wait | .testStopped | .testDrained | .take | .unlock _
  | .unlockStopped => true
  | .notCreated | .loop | .lock | .waiting | .forward _ | .stopped => false

/-- The consumer has tested both and is before `pthread_cond_wait`. -/
def ConsumerPc.waits {ρ : Type} : ConsumerPc ρ → Bool
  | .wait => true
  | _ => false

theorem ConsumerPc.waits_eq_true {ρ : Type} {pc : ConsumerPc ρ} : pc.waits = true ↔ pc = .wait := by
  cases pc <;> simp [waits]

namespace Handoff

variable {ρ : Type}

/-- One step of `request_writer_loop` or `response_writer_loop`; `tests` says whether
the outer loop tests `running_`. -/
def consume (tests : Bool) (s : Handoff ρ) : ConsumerPc ρ → Option (Handoff ρ × ConsumerPc ρ)
  | .loop => some (s, if tests && !s.running then .stopped else .lock)
  | .lock => (s.monitor.lock .consumer).map fun m => ({ s with monitor := m }, .testEmpty)
  | .testEmpty => some (s, if s.queue.isEmpty then .testRunning else .testStopped)
  | .testRunning => some (s, if s.running then .wait else .testStopped)
  | .wait => (s.monitor.park .consumer).map fun m => ({ s with monitor := m }, .waiting)
  | .waiting => (s.monitor.resume .consumer).map fun m => ({ s with monitor := m }, .testEmpty)
  | .testStopped => some (s, if s.running then .take else .testDrained)
  | .testDrained => some (s, if s.queue.isEmpty then .unlockStopped else .take)
  | .take =>
    match s.queue with
    | request :: rest => some ({ s with queue := rest }, .unlock request)
    -- `front` of an empty queue is undefined.
    | [] => none
  | .unlock request =>
    (s.monitor.unlock .consumer).map fun m => ({ s with monitor := m }, .forward request)
  | .forward _ => some (s, .loop)
  | .unlockStopped =>
    (s.monitor.unlock .consumer).map fun m => ({ s with monitor := m }, .stopped)
  | .notCreated | .stopped => none

def lock (s : Handoff ρ) (t : WorkerThread) : Option (Handoff ρ) :=
  (s.monitor.lock t).map fun m => { s with monitor := m }

def unlock (s : Handoff ρ) (t : WorkerThread) : Option (Handoff ρ) :=
  (s.monitor.unlock t).map fun m => { s with monitor := m }

def push (s : Handoff ρ) (request : ρ) : Handoff ρ := { s with queue := s.queue ++ [request] }

/-- Only the consumer waits. -/
def signal (s : Handoff ρ) : Option (Handoff ρ) :=
  (s.monitor.signal .consumer).map fun m => { s with monitor := m }

def broadcast (s : Handoff ρ) : Handoff ρ := { s with monitor := s.monitor.broadcast }

def stop (s : Handoff ρ) : Handoff ρ := { s with running := false }

def wake (s : Handoff ρ) : Option (Handoff ρ) :=
  (s.monitor.wake .consumer).map fun m => { s with monitor := m }

def Parked (s : Handoff ρ) : Prop := .consumer ∈ s.monitor.parked

instance (s : Handoff ρ) : Decidable s.Parked := inferInstanceAs (Decidable (_ ∈ _))

end Handoff

-- ---------------------------------------------------------------------------
-- What keeps the consumer awake
-- ---------------------------------------------------------------------------

section Steady

variable {ρ : Type}

/-- The consumer parks only on an empty queue that it found while `running_` was
set. `owed` says that the producer has pushed and not yet signalled, `told` that
`running_` was cleared and the consumer woken after that. -/
structure Steady (s : Handoff ρ) (pc : ConsumerPc ρ) (holds : WorkerThread → Bool)
    (owed told : Bool) : Prop where
  owned : s.monitor.Owned holds
  consumer : holds .consumer = pc.holds
  parked : ∀ t ∈ s.monitor.parked, t = .consumer ∧ pc = .waiting
  empty : pc = .testRunning ∨ pc = .wait → s.queue = []
  more : pc = .testStopped → s.running = true → s.queue ≠ []
  take : pc = .take → s.queue ≠ []
  owed : s.Parked → s.queue ≠ [] → owed = true
  told : told = true → s.running = false ∧ pc ≠ .wait ∧ ¬ s.Parked

variable {s s' : Handoff ρ} {pc pc' : ConsumerPc ρ} {holds : WorkerThread → Bool}
  {owed told tests : Bool} {t : WorkerThread}

theorem Steady.initial (h : ∀ t, holds t = false) :
    Steady (.initial ρ) .notCreated holds false false where
  owned t := by simp [h, Handoff.initial, Monitor.free]
  consumer := h _
  parked t ht := absurd ht (Finset.notMem_empty t)
  empty _ := rfl
  more := by simp
  take := by simp
  owed hs := absurd hs (Finset.notMem_empty _)
  told := by simp

theorem Steady.move (v : Steady s pc holds owed told) (hpc : pc ≠ .waiting)
    (hholds : pc'.holds = pc.holds) (empty : pc' = .testRunning ∨ pc' = .wait → s.queue = [])
    (more : pc' = .testStopped → s.running = true → s.queue ≠ [])
    (take : pc' = .take → s.queue ≠ []) (wait : pc' = .wait → s.running = true) :
    Steady s pc' (Function.update holds .consumer pc'.holds) owed told where
  owned := v.owned.move (hholds.trans v.consumer.symm)
  consumer := Function.update_self ..
  parked t ht := absurd (v.parked t ht).2 hpc
  empty := empty
  more := more
  take := take
  owed := v.owed
  told htold := by
    obtain ⟨hrunning, -, hparked⟩ := v.told htold
    exact ⟨hrunning, fun hwait => by simp [wait hwait] at hrunning, hparked⟩

theorem Steady.enter (v : Steady s pc holds owed told) (hparked : ¬ s.Parked)
    (hfree : s.monitor.owner = none) :
    Steady { s with monitor := { s.monitor with owner := some .consumer } } .testEmpty
      (Function.update holds .consumer true) owed told where
  owned := v.owned.acquire hfree _
  consumer := Function.update_self ..
  parked t ht := by
    obtain ⟨rfl, -⟩ := v.parked t ht
    exact absurd ht hparked
  empty := by simp
  more := by simp
  take := by simp
  owed := v.owed
  told htold := ⟨(v.told htold).1, by simp, hparked⟩

theorem Steady.leave (v : Steady s pc holds owed told) (hpc : pc ≠ .waiting)
    (howner : s.monitor.owner = some .consumer) (hholds : pc'.holds = false) :
    Steady { s with monitor := { s.monitor with owner := none } } pc'
      (Function.update holds .consumer pc'.holds) owed told where
  owned := hholds ▸ v.owned.release howner _
  consumer := Function.update_self ..
  parked t ht := absurd (v.parked t ht).2 hpc
  empty := by rintro (rfl | rfl) <;> cases hholds
  more := by rintro rfl; cases hholds
  take := by rintro rfl; cases hholds
  owed := v.owed
  told htold := ⟨(v.told htold).1, (by rintro rfl; cases hholds), (v.told htold).2.2⟩

theorem Steady.consume (v : Steady s pc holds owed told)
    (h : s.consume tests pc = some (s', pc')) :
    Steady s' pc' (Function.update holds .consumer pc'.holds) owed told := by
  have hparked : pc ≠ .waiting → ¬ s.Parked := fun hpc hs => hpc (v.parked _ hs).2
  cases pc with
  | notCreated => cases h
  | loop =>
    obtain ⟨rfl, rfl⟩ := Prod.mk.inj (Option.some.inj h)
    cases tests <;> cases s.running <;>
      exact v.move (by simp) rfl (by simp) (by simp) (by simp) (by simp)
  | lock =>
    obtain ⟨m, hm, he⟩ := Option.map_eq_some_iff.mp h
    cases he
    obtain ⟨hfree, rfl⟩ := Monitor.lock_eq_some.mp hm
    exact v.enter (hparked (by simp)) hfree
  | testEmpty =>
    obtain ⟨rfl, rfl⟩ := Prod.mk.inj (Option.some.inj h)
    by_cases hq : s.queue = []
    · simp only [hq, List.isEmpty_nil, if_true]
      exact v.move (by simp) rfl (fun _ => hq) (by simp) (by simp) (by simp)
    · simp only [List.isEmpty_iff, hq, if_false]
      exact v.move (by simp) rfl (by simp) (fun _ _ => hq) (by simp) (by simp)
  | testRunning =>
    obtain ⟨rfl, rfl⟩ := Prod.mk.inj (Option.some.inj h)
    have hq := v.empty (.inl rfl)
    split
    · exact v.move (by simp) rfl (fun _ => hq) (by simp) (by simp) fun _ => ‹_›
    · exact v.move (by simp) rfl (by simp) (fun _ hrunning => absurd hrunning ‹_›) (by simp)
        (by simp)
  | wait =>
    obtain ⟨m, hm, he⟩ := Option.map_eq_some_iff.mp h
    cases he
    obtain ⟨howner, rfl⟩ := Monitor.park_eq_some.mp hm
    refine ⟨v.owned.release howner _, Function.update_self .., fun t ht => ?_, by simp, by simp,
      by simp, fun _ hq => absurd (v.empty (.inr rfl)) hq, fun htold => absurd rfl (v.told htold).2.1⟩
    rcases Finset.mem_insert.mp ht with rfl | ht
    · exact ⟨rfl, rfl⟩
    · exact ⟨(v.parked t ht).1, rfl⟩
  | waiting =>
    obtain ⟨m, hm, he⟩ := Option.map_eq_some_iff.mp h
    cases he
    obtain ⟨hwoken, hfree, rfl⟩ := Monitor.resume_eq_some.mp hm
    exact v.enter hwoken hfree
  | testStopped =>
    obtain ⟨rfl, rfl⟩ := Prod.mk.inj (Option.some.inj h)
    split
    · exact v.move (by simp) rfl (by simp) (by simp) (fun _ => v.more rfl ‹_›) (by simp)
    · exact v.move (by simp) rfl (by simp) (by simp) (by simp) (by simp)
  | testDrained =>
    obtain ⟨rfl, rfl⟩ := Prod.mk.inj (Option.some.inj h)
    by_cases hq : s.queue = []
    · simp only [hq, List.isEmpty_nil, if_true]
      exact v.move (by simp) rfl (by simp) (by simp) (by simp) (by simp)
    · simp only [List.isEmpty_iff, hq, if_false]
      exact v.move (by simp) rfl (by simp) (by simp) (fun _ => hq) (by simp)
  | take =>
    simp only [Handoff.consume] at h
    split at h
    · cases h
      exact ⟨v.owned.move v.consumer.symm, Function.update_self ..,
        fun t ht => absurd (v.parked t ht).2 (by simp), by simp, by simp, by simp,
        fun hs => absurd hs (hparked (by simp)),
        fun htold => ⟨(v.told htold).1, by simp, hparked (by simp)⟩⟩
    · cases h
  | unlock request =>
    obtain ⟨m, hm, he⟩ := Option.map_eq_some_iff.mp h
    cases he
    obtain ⟨howner, rfl⟩ := Monitor.unlock_eq_some.mp hm
    exact v.leave (by simp) howner rfl
  | forward request =>
    obtain ⟨rfl, rfl⟩ := Prod.mk.inj (Option.some.inj h)
    exact v.move (by simp) rfl (by simp) (by simp) (by simp) (by simp)
  | unlockStopped =>
    obtain ⟨m, hm, he⟩ := Option.map_eq_some_iff.mp h
    cases he
    obtain ⟨howner, rfl⟩ := Monitor.unlock_eq_some.mp hm
    exact v.leave (by simp) howner rfl
  | stopped => cases h

theorem Steady.outside (v : Steady s pc holds owed told) (ht : t ≠ .consumer)
    (howner : s.monitor.owner = some t) : pc.holds = false := by
  rw [← v.consumer, Bool.eq_false_iff]
  intro hholds
  have hconsumer := (v.owned _).mp hholds
  simp [howner, ht] at hconsumer

theorem Steady.lock (v : Steady s pc holds owed told) (ht : t ≠ .consumer)
    (h : s.lock t = some s') : Steady s' pc (Function.update holds t true) owed told := by
  obtain ⟨m, hm, rfl⟩ := Option.map_eq_some_iff.mp h
  obtain ⟨hfree, rfl⟩ := Monitor.lock_eq_some.mp hm
  exact { v with
    owned := v.owned.acquire hfree _
    consumer := by rw [Function.update_of_ne ht.symm, v.consumer] }

theorem Steady.unlock (v : Steady s pc holds owed told) (ht : t ≠ .consumer)
    (h : s.unlock t = some s') : Steady s' pc (Function.update holds t false) owed told := by
  obtain ⟨m, hm, rfl⟩ := Option.map_eq_some_iff.mp h
  obtain ⟨howner, rfl⟩ := Monitor.unlock_eq_some.mp hm
  exact { v with
    owned := v.owned.release howner _
    consumer := by rw [Function.update_of_ne ht.symm, v.consumer] }

theorem Steady.push (v : Steady s pc holds owed told) (ht : t ≠ .consumer)
    (howner : s.monitor.owner = some t) (request : ρ) :
    Steady (s.push request) pc holds true told := by
  have hout := v.outside ht howner
  have hmore : s.queue ++ [request] ≠ [] := List.append_ne_nil_of_right_ne_nil _ (by simp)
  refine { v with empty := ?_, more := fun _ _ => hmore, take := fun _ => hmore,
                  owed := fun _ _ => rfl }
  rintro (rfl | rfl) <;> cases hout

theorem Steady.rouse (v : Steady s pc holds owed told) (owed' : Bool) :
    Steady s.broadcast pc holds owed' told :=
  { v with
    parked := fun t ht => absurd ht (Finset.notMem_empty t)
    owed := fun hs => absurd hs (Finset.notMem_empty _)
    told := fun htold => ⟨(v.told htold).1, (v.told htold).2.1, Finset.notMem_empty _⟩ }

theorem Steady.signal_eq_some (v : Steady s pc holds owed told) :
    s.signal = some s' ↔ s' = s.broadcast := by
  have honly : ∀ t ∈ s.monitor.parked, t = .consumer := fun t ht => (v.parked t ht).1
  simp [Handoff.signal, Monitor.signal_eq_some honly, Handoff.broadcast, eq_comm]

theorem Steady.tell (v : Steady s pc holds owed told) (ht : t ≠ .consumer)
    (howner : s.monitor.owner = some t) (hrunning : s.running = false) :
    Steady s.broadcast pc holds owed true := by
  have hout := v.outside ht howner
  refine { v.rouse owed with told := fun _ => ⟨hrunning, ?_, Finset.notMem_empty _⟩ }
  rintro rfl
  cases hout

theorem Steady.stop (v : Steady s pc holds owed told) : Steady s.stop pc holds owed told :=
  { v with
    more := fun _ hrunning => by cases hrunning
    told := fun htold => ⟨rfl, (v.told htold).2⟩ }

theorem Steady.wake (v : Steady s pc holds owed told) (h : s.wake = some s') :
    Steady s' pc holds owed told := by
  obtain ⟨m, hm, rfl⟩ := Option.map_eq_some_iff.mp h
  obtain ⟨-, rfl⟩ := Monitor.wake_eq_some.mp hm
  have hwoken : ¬ WorkerThread.consumer ∈ s.monitor.parked.erase .consumer :=
    Finset.notMem_erase _ _
  exact { v with
    parked := fun t ht => v.parked t (Finset.mem_of_mem_erase ht)
    owed := fun hs => absurd hs hwoken
    told := fun htold => ⟨(v.told htold).1, (v.told htold).2.1, hwoken⟩ }

theorem Steady.congr (v : Steady s pc holds owed told) {holds' : WorkerThread → Bool}
    (h : ∀ t, holds' t = holds t) : Steady s pc holds' owed told := by
  obtain rfl : holds' = holds := funext h
  exact v

theorem Steady.stay {b : Bool} (v : Steady s pc holds owed told) (hb : b = holds t) :
    Steady s pc (Function.update holds t b) owed told := by
  rwa [hb, Function.update_eq_self]

theorem Steady.told_eq_false (v : Steady s pc holds owed told) (hparked : s.Parked) :
    told = false :=
  Bool.eq_false_iff.mpr fun htold => (v.told htold).2.2 hparked

theorem Steady.mono {told' : Bool} (v : Steady s pc holds owed told)
    (h : told' = true → told = true) : Steady s pc holds owed told' :=
  { v with told := fun htold => v.told (h htold) }

theorem Handoff.lock_running (h : s.lock t = some s') : s'.running = s.running := by
  obtain ⟨m, -, rfl⟩ := Option.map_eq_some_iff.mp h
  rfl

theorem Handoff.unlock_running (h : s.unlock t = some s') : s'.running = s.running := by
  obtain ⟨m, -, rfl⟩ := Option.map_eq_some_iff.mp h
  rfl

theorem Handoff.wake_running (h : s.wake = some s') : s'.running = s.running := by
  obtain ⟨m, -, rfl⟩ := Option.map_eq_some_iff.mp h
  rfl

theorem Handoff.consume_running (h : s.consume tests pc = some (s', pc')) :
    s'.running = s.running := by
  cases pc with
  | lock | wait | waiting | unlock | unlockStopped =>
    obtain ⟨m, -, he⟩ := Option.map_eq_some_iff.mp h
    cases he
    rfl
  | take =>
    simp only [Handoff.consume] at h
    split at h <;> cases h
    rfl
  | notCreated | stopped => cases h
  | _ =>
    cases h
    rfl

end Steady

end ParkingSystem
