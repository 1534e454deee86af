import ParkingSystem.DatabaseThreads

/-!
# The calls on the mutex and the condition variable

`Database::run` initializes `request_queue_mutex_` and `request_queue_condition_`, and
`shutdown` destroys them if a flag says that they are initialized. Four failure exits of
`run` destroy them as well. Every `pthread_*` call whose result decides anything is a step
here that succeeds or fails. The main thread calls `run` and `shutdown` in any order, any
number of times; the worker threads run in between, and a thread that `pthread_join` has
failed to wait for runs on beside those of the next `run`.

`pthread_mutex_unlock`, `pthread_cond_signal` and `pthread_cond_broadcast` are not looked at
for the object they are called on.
-/

namespace ParkingSystem.SyncObjects

open Sync (Monitor)

-- ---------------------------------------------------------------------------
-- State
-- ---------------------------------------------------------------------------

inductive SyncObject where
  | mutex
  | condition
  deriving DecidableEq

inductive SyncCall where
  | destroy
  | lock
  | wait
  deriving DecidableEq

inductive Thread where
  | main
  | worker (id : Nat)
  deriving DecidableEq

inductive WorkerPc (ρ : Type) where
  | requestReader (pc : RequestReaderThreadPc ρ)
  | responseWriter (pc : ConsumerPc ρ)

def WorkerPc.ended {ρ : Type} : WorkerPc ρ → Bool
  | .requestReader .stopped | .responseWriter .stopped => true
  | _ => false

structure Worker (ρ : Type) where
  pc : WorkerPc ρ
  /-- Whether its `pthread_join` has succeeded, once that was called. -/
  joined : Option Bool

inductive Pc where
  | idle
  | mutexInit
  | conditionInit
  | sigmask
  | create (thread : DatabaseCreate)
  | test
  | sigwait
  /-- The stop sequence, on the failure exit of the second `pthread_create` if `failed`. -/
  | lock (failed : Bool)
  | stop (failed : Bool)
  | broadcast (failed : Bool)
  | unlock (failed : Bool)
  | joinRequestReader (failed : Bool)
  | joinResponseWriter
  /-- The calls that the failure exits end with. -/
  | exitConditionDestroy
  | exitMutexDestroy
  /-- In `shutdown`. -/
  | conditionDestroy
  | mutexDestroy
  deriving DecidableEq

structure State (ρ : Type) where
  /-- Initialized and not yet destroyed. -/
  initialized : SyncObject → Bool
  /-- `request_queue_mutex_initialized_` and `request_queue_condition_initialized_`. -/
  flag : SyncObject → Bool
  /-- A call on an object that was not initialized; what follows is undefined. -/
  misuse : Option (SyncCall × SyncObject)
  monitor : Monitor Thread
  running : Bool
  /-- `request_queue_`. -/
  queue : List ρ
  /-- Every thread that was created; its index is its `pthread_t`. -/
  workers : List (Worker ρ)
  /-- `request_reader_thread_` and `response_writer_thread_`. -/
  thread : DatabaseCreate → Nat
  pc : Pc

/-- A constructed `Database`. -/
def State.initial (ρ : Type) : State ρ where
  initialized _ := false
  flag _ := false
  misuse := none
  monitor := .free
  running := false
  queue := []
  workers := []
  thread _ := 0
  pc := .idle

inductive Call where
  | run
  | shutdown
  deriving DecidableEq

inductive MainStep where
  | call (call : Call)
  /-- The next step, and whether the call in it succeeds. -/
  | next (ok : Bool)
  /-- `sigwait` returns with SIGINT; with another signal it is `next true`. -/
  | sigint
  deriving DecidableEq

inductive WorkerStep (ρ : Type) where
  | next (ok : Bool)
  /-- `pop` has returned true. -/
  | popped (request : ρ)
  /-- `pthread_cond_signal` succeeds and wakes the thread, if any is parked. -/
  | signal (woken : Nat)

inductive Action (ρ : Type) where
  | main (step : MainStep)
  | worker (id : Nat) (step : WorkerStep ρ)
  | spuriousWakeup (id : Nat)

namespace State

variable {ρ : Type}

-- ---------------------------------------------------------------------------
-- Calls on the objects
-- ---------------------------------------------------------------------------

section Calls

variable (w : State ρ)

def on (call : SyncCall) (object : SyncObject) (next : Option (State ρ)) : Option (State ρ) :=
  if w.initialized object then next else some { w with misuse := some (call, object) }

def mutexLock (t : Thread) (ok : Bool) (locked failed : State ρ → State ρ) : Option (State ρ) :=
  w.on .lock .mutex <|
    if ok then (w.monitor.lock t).map fun m => locked { w with monitor := m }
    else some (failed w)

def mutexUnlock (t : Thread) (ok : Bool) (unlocked failed : State ρ → State ρ) :
    Option (State ρ) :=
  if ok then (w.monitor.unlock t).map fun m => unlocked { w with monitor := m }
  else some (failed w)

/-- A successful `pthread_*_init` with the assignment to its flag. -/
def init (object : SyncObject) : State ρ :=
  { w with
    initialized := Function.update w.initialized object true
    flag := Function.update w.flag object true }

def destroy (object : SyncObject) : State ρ :=
  { w with initialized := Function.update w.initialized object false }

def clearFlag (object : SyncObject) : State ρ :=
  { w with flag := Function.update w.flag object false }

def setWorker (i : Nat) (pc : WorkerPc ρ) : State ρ :=
  { w with workers := w.workers.modify i fun worker => { worker with pc := pc } }

def create (thread : DatabaseCreate) (pc : WorkerPc ρ) : State ρ :=
  { w with
    workers := w.workers ++ [⟨pc, none⟩]
    thread := Function.update w.thread thread w.workers.length }

/-- `pthread_join`, which succeeds on a thread that has ended. -/
def join (thread : DatabaseCreate) (ok : Bool) (pc : Pc) : Option (State ρ) :=
  (w.workers[w.thread thread]?).bind fun worker =>
    if ok && !worker.pc.ended then none
    else some { w with
      workers := w.workers.modify (w.thread thread) fun worker => { worker with joined := some ok }
      pc := pc }

end Calls

-- ---------------------------------------------------------------------------
-- The threads
-- ---------------------------------------------------------------------------

def shutdownMutex (w : State ρ) : Pc := if w.flag .mutex then .mutexDestroy else .idle

def shutdownCondition (w : State ρ) : Pc :=
  if w.flag .condition then .conditionDestroy else w.shutdownMutex

/-- `Database::run`. It ignores what the `pthread_sigmask` that restores the mask returns. -/
def databaseRun (w : State ρ) : Pc → Bool → Option (State ρ)
  | .mutexInit, true => some { w.init .mutex with
      monitor := { w.monitor with owner := none }, pc := .conditionInit }
  | .mutexInit, false => some { w with pc := .idle }
  | .conditionInit, true => some { w.init .condition with pc := .sigmask }
  | .conditionInit, false => some { w with pc := .exitMutexDestroy }
  | .sigmask, true => some { w with running := true, pc := .create .requestReader }
  | .sigmask, false => some { w with pc := .exitConditionDestroy }
  | .create .requestReader, true =>
    some { w.create .requestReader (.requestReader .test) with pc := .create .responseWriter }
  | .create .requestReader, false =>
    some { w with running := false, pc := .exitConditionDestroy }
  | .create .responseWriter, true =>
    some { w.create .responseWriter (.responseWriter .loop) with pc := .test }
  | .create .responseWriter, false => some { w with pc := .lock true }
  | .test, true => some { w with pc := if w.running then .sigwait else .lock false }
  | .sigwait, true => some { w with pc := .test }
  | .sigwait, false => some { w with pc := .lock false }
  | .lock failed, ok =>
    -- the failure exit goes on whether it has the mutex or not
    w.mutexLock .main ok ({ · with pc := .stop failed })
      ({ · with pc := if failed then .stop true else .joinRequestReader false })
  | .stop failed, true => some { w with running := false, pc := .broadcast failed }
  | .broadcast failed, ok => some { w with
      monitor := if ok then w.monitor.broadcast else w.monitor, pc := .unlock failed }
  | .unlock failed, ok =>
    w.mutexUnlock .main ok ({ · with pc := .joinRequestReader failed })
      ({ · with pc := .joinRequestReader failed })
  | .joinRequestReader failed, ok =>
    w.join .requestReader ok (if failed then .exitConditionDestroy else .joinResponseWriter)
  | .joinResponseWriter, ok => w.join .responseWriter ok .idle
  | .exitConditionDestroy, ok => w.on .destroy .condition <|
      some { (if ok then w.destroy .condition else w) with pc := .exitMutexDestroy }
  | .exitMutexDestroy, ok => w.on .destroy .mutex <|
      some { (if ok then w.destroy .mutex else w) with pc := .idle }
  | _, _ => none

/-- `Database::shutdown`, as far as the two objects are concerned. -/
def databaseShutdown (w : State ρ) : Pc → Bool → Option (State ρ)
  | .conditionDestroy, ok => w.on .destroy .condition <| some <|
      if ok then { (w.destroy .condition).clearFlag .condition with pc := w.shutdownMutex }
      else { w with pc := .idle }
  | .mutexDestroy, ok => w.on .destroy .mutex <| some <|
      if ok then { (w.destroy .mutex).clearFlag .mutex with pc := .idle }
      else { w with pc := .idle }
  | _, _ => none

def main (w : State ρ) : MainStep → Option (State ρ)
  | .call .run => if w.pc = .idle then some { w with pc := .mutexInit } else none
  | .call .shutdown =>
    if w.pc = .idle then some { w with pc := w.shutdownCondition } else none
  | .next ok => (w.databaseRun w.pc ok).or (w.databaseShutdown w.pc ok)
  | .sigint =>
    if w.pc = .sigwait then some { w with running := false, pc := .test } else none

def requestReaderLoop (w : State ρ) (i : Nat) (pc : RequestReaderThreadPc ρ)
    (step : WorkerStep ρ) : Option (State ρ) :=
  let goto (pc : RequestReaderThreadPc ρ) (w : State ρ) := w.setWorker i (.requestReader pc)
  match pc, step with
  | .test, .next true => some (goto (if w.running then .pop else .stopped) w)
  | .pop, .next true => some (goto .test w)
  | .pop, .popped request => some (goto (.lock request) w)
  | .lock request, .next ok => w.mutexLock (.worker i) ok (goto (.push request)) (goto .stopped)
  | .push request, .next true =>
    some (goto .unlock { w with queue := w.queue ++ [request] })
  | .unlock, .next ok => w.mutexUnlock (.worker i) ok (goto .signal) (goto .stopped)
  | .signal, .next false => some (goto .stopped w)
  | .signal, .signal woken =>
    (w.monitor.signal (.worker woken)).map fun m => goto .test { w with monitor := m }
  | _, _ => none

def responseWriterLoop (w : State ρ) (i : Nat) (pc : ConsumerPc ρ) (step : WorkerStep ρ) :
    Option (State ρ) :=
  let goto (pc : ConsumerPc ρ) (w : State ρ) := w.setWorker i (.responseWriter pc)
  match pc, step with
  | .loop, .next true => some (goto (if w.running then .lock else .stopped) w)
  | .lock, .next ok => w.mutexLock (.worker i) ok (goto .testEmpty) (goto .stopped)
  | .testEmpty, .next true =>
    some (goto (if w.queue.isEmpty then .testRunning else .testStopped) w)
  | .testRunning, .next true => some (goto (if w.running then .wait else .testStopped) w)
  | .wait, .next true => w.on .wait .condition <|
      (w.monitor.park (.worker i)).map fun m => goto .waiting { w with monitor := m }
  | .wait, .next false => w.on .wait .condition <| some (goto .unlockStopped w)
  | .waiting, .next true =>
    if .worker i ∈ w.monitor.parked then none
    else w.mutexLock (.worker i) true (goto .testEmpty) (goto .testEmpty)
  | .testStopped, .next true => some (goto (if w.running then .take else .testDrained) w)
  | .testDrained, .next true =>
    some (goto (if w.queue.isEmpty then .unlockStopped else .take) w)
  | .take, .next true =>
    match w.queue with
    | request :: rest => some (goto (.unlock request) { w with queue := rest })
    -- `front` of an empty queue is undefined.
    | [] => none
  | .unlock request, .next ok =>
    w.mutexUnlock (.worker i) ok (goto (.forward request)) (goto .stopped)
  | .forward _, .next true => some (goto .loop w)
  | .unlockStopped, .next ok => w.mutexUnlock (.worker i) ok (goto .stopped) (goto .stopped)
  | _, _ => none

def worker (w : State ρ) (i : Nat) (step : WorkerStep ρ) : Option (State ρ) :=
  (w.workers[i]?).bind fun worker =>
    match worker.pc with
    | .requestReader pc => w.requestReaderLoop i pc step
    | .responseWriter pc => w.responseWriterLoop i pc step

def step (w : State ρ) (a : Action ρ) : Option (State ρ) :=
  if w.misuse.isSome then none
  else
    match a with
    | .main step => w.main step
    | .worker i step => w.worker i step
    | .spuriousWakeup i => (w.monitor.wake (.worker i)).map fun m => { w with monitor := m }

end State

-- ---------------------------------------------------------------------------
-- What one step can do
-- ---------------------------------------------------------------------------

/-- The objects that the main thread uses or leaves to its threads from here on, before it
destroys them. -/
def Pc.needs : Pc → SyncObject → Bool
  | .idle, _ | .mutexInit, _ => false
  | .conditionInit, object | .exitMutexDestroy, object | .mutexDestroy, object => object = .mutex
  | .conditionDestroy, object => object = .condition
  | _, _ => true

def Pc.toJoin : Pc → List DatabaseCreate
  | .create .responseWriter | .lock true | .stop true | .broadcast true | .unlock true
  | .joinRequestReader true => [.requestReader]
  | .test | .sigwait | .lock false | .stop false | .broadcast false | .unlock false
  | .joinRequestReader false => [.requestReader, .responseWriter]
  | .joinResponseWriter => [.responseWriter]
  | _ => []

namespace State

variable {ρ : Type}

inductive Change (w : State ρ) : Action ρ → State ρ → Prop
  | misused (a : Action ρ) (call : SyncCall) (object : SyncObject)
      (use : w.pc.needs object = true ∨ ∃ (i : Nat) (worker : Worker ρ),
        w.workers[i]? = some worker ∧ worker.pc.ended = false)
      (missing : w.initialized object = false) :
      Change w a { w with misuse := some (call, object) }
  /-- A step of the main thread that touches neither the objects nor the threads, or a
  spurious wake-up. -/
  | moved (a : Action ρ) (pc : Pc) (running : Bool) (monitor : Monitor Thread)
      (needs : ∀ object, pc.needs object = true →
        w.pc.needs object = true ∨ w.flag object = true)
      (toJoin : pc.toJoin = w.pc.toJoin) (parked : monitor.parked ⊆ w.monitor.parked) :
      Change w a { w with pc := pc, running := running, monitor := monitor }
  | initialized (a : Action ρ) (object : SyncObject) (pc : Pc) (monitor : Monitor Thread)
      (needs : ∀ other, pc.needs other = true → other = object ∨ w.pc.needs other = true)
      (toJoin : pc.toJoin = w.pc.toJoin) (parked : monitor.parked = w.monitor.parked) :
      Change w a { w.init object with pc := pc, monitor := monitor }
  | created (a : Action ρ) (thread : DatabaseCreate) (start : WorkerPc ρ) (pc : Pc)
      (needs : ∀ object, w.pc.needs object = true)
      (toJoin : pc.toJoin = w.pc.toJoin ++ [thread]) (fresh : thread ∉ w.pc.toJoin) :
      Change w a { w.create thread start with pc := pc }
  | joined (a : Action ρ) (thread : DatabaseCreate) (ok : Bool) (worker : Worker ρ) (pc : Pc)
      (exists_ : w.workers[w.thread thread]? = some worker)
      (ended : ok = true → worker.pc.ended = true) (needs : ∀ object, w.pc.needs object = true)
      (toJoin : w.pc.toJoin = thread :: pc.toJoin) :
      Change w a { w with
        workers := w.workers.modify (w.thread thread) fun worker =>
          { worker with joined := some ok }
        pc := pc }
  | exitDestroyed (object : SyncObject) (pc : Pc)
      (place : w.pc = .exitConditionDestroy ∨ w.pc = .exitMutexDestroy) :
      Change w (.main (.next true)) { w.destroy object with pc := pc }
  | destroyed (object : SyncObject) (pc : Pc)
      (place : w.pc = .conditionDestroy ∨ w.pc = .mutexDestroy)
      (needs : ∀ other, pc.needs other = true → other ≠ object ∧ w.flag other = true)
      (toJoin : pc.toJoin = []) :
      Change w (.main (.next true)) { (w.destroy object).clearFlag object with pc := pc }
  | worked (a : Action ρ) (i : Nat) (worker : Worker ρ) (pc : WorkerPc ρ)
      (monitor : Monitor Thread) (queue : List ρ) (exists_ : w.workers[i]? = some worker)
      (alive : worker.pc.ended = false)
      (woken : worker.pc = .responseWriter .waiting → .worker i ∉ w.monitor.parked)
      (parked : ∀ t ∈ monitor.parked, t ∈ w.monitor.parked ∨
        t = .worker i ∧ pc = .responseWriter .waiting) :
      Change w a (setWorker { w with monitor := monitor, queue := queue } i pc)

variable {w w' : State ρ} {a : Action ρ}

theorem on_eq_some {call : SyncCall} {object : SyncObject} {next : Option (State ρ)} :
    w.on call object next = some w' ↔ w.initialized object = true ∧ next = some w' ∨
      w.initialized object = false ∧ w' = { w with misuse := some (call, object) } := by
  cases hobject : w.initialized object with
  | false => simp [on, hobject, eq_comm]
  | true => simp [on, hobject]

theorem mutexLock_cases {t : Thread} {ok : Bool} {locked failed : State ρ → State ρ}
    (h : w.mutexLock t ok locked failed = some w') :
    (∃ m, m.parked = w.monitor.parked ∧ w' = locked { w with monitor := m }) ∨
      w' = failed w ∨
      w.initialized .mutex = false ∧ w' = { w with misuse := some (.lock, .mutex) } := by
  rcases on_eq_some.mp h with ⟨-, h⟩ | h
  · cases ok with
    | true =>
      obtain ⟨m, hm, rfl⟩ := Option.map_eq_some_iff.mp h
      obtain ⟨-, rfl⟩ := Monitor.lock_eq_some.mp hm
      exact .inl ⟨{ w.monitor with owner := some t }, rfl, rfl⟩
    | false => exact .inr (.inl (Option.some.inj h).symm)
  · exact .inr (.inr h)

theorem mutexUnlock_cases {t : Thread} {ok : Bool} {unlocked failed : State ρ → State ρ}
    (h : w.mutexUnlock t ok unlocked failed = some w') :
    (∃ m, m.parked = w.monitor.parked ∧ w' = unlocked { w with monitor := m }) ∨
      w' = failed w := by
  cases ok with
  | true =>
    obtain ⟨m, hm, rfl⟩ := Option.map_eq_some_iff.mp h
    obtain ⟨-, rfl⟩ := Monitor.unlock_eq_some.mp hm
    exact .inl ⟨{ w.monitor with owner := none }, rfl, rfl⟩
  | false => exact .inr (Option.some.inj h).symm

theorem join_cases {thread : DatabaseCreate} {ok : Bool} {pc : Pc}
    (h : w.join thread ok pc = some w') (needs : ∀ object, w.pc.needs object = true)
    (toJoin : w.pc.toJoin = thread :: pc.toJoin) : Change w a w' := by
  obtain ⟨worker, hworker, h⟩ := Option.bind_eq_some_iff.mp h
  split at h
  · cases h
  · rename_i hended
    cases h
    refine .joined a thread ok worker pc hworker (fun hok => ?_) needs toJoin
    simpa [hok] using hended

theorem Change.goto (a : Action ρ) (pc : Pc)
    (needs : ∀ object, pc.needs object = true → w.pc.needs object = true ∨ w.flag object = true)
    (toJoin : pc.toJoin = w.pc.toJoin) : Change w a { w with pc := pc } :=
  .moved a pc w.running w.monitor needs toJoin (Finset.Subset.refl _)

theorem exitDestroy_cases {object : SyncObject} {ok : Bool} {pc : Pc}
    (h : w.on .destroy object
      (some { (if ok then w.destroy object else w) with pc := pc }) = some w')
    (place : w.pc = .exitConditionDestroy ∨ w.pc = .exitMutexDestroy)
    (use : w.pc.needs object = true)
    (needs : ∀ other, pc.needs other = true → w.pc.needs other = true)
    (toJoin : pc.toJoin = w.pc.toJoin) : Change w (.main (.next ok)) w' := by
  rcases on_eq_some.mp h with ⟨-, h⟩ | ⟨hmissing, rfl⟩
  · cases ok with
    | true =>
      cases h
      exact .exitDestroyed object pc place
    | false =>
      cases h
      exact .goto _ pc (fun other hneeds => .inl (needs other hneeds)) toJoin
  · exact .misused _ _ object (.inl use) hmissing

theorem databaseRun_cases {ok : Bool} (h : w.databaseRun w.pc ok = some w') :
    Change w (.main (.next ok)) w' := by
  obtain ⟨initialized, flag, misuse, m, running, queue, workers, thread, pc⟩ := w
  dsimp only at h
  cases pc with
  | idle | conditionDestroy | mutexDestroy => cases ok <;> cases h
  | mutexInit =>
    cases ok with
    | true =>
      cases h
      exact .initialized _ .mutex .conditionInit _ (by simp [Pc.needs]) rfl rfl
    | false =>
      cases h
      exact .goto _ .idle (by simp [Pc.needs]) rfl
  | conditionInit =>
    cases ok with
    | true =>
      cases h
      exact .initialized _ .condition .sigmask m
        (fun other _ => by cases other <;> simp [Pc.needs]) rfl rfl
    | false =>
      cases h
      exact .goto _ .exitMutexDestroy (by simp [Pc.needs]) rfl
  | sigmask =>
    cases ok with
    | true =>
      cases h
      exact .moved _ _ true m (by simp [Pc.needs]) rfl (Finset.Subset.refl _)
    | false =>
      cases h
      exact .goto _ .exitConditionDestroy (by simp [Pc.needs]) rfl
  | create which =>
    cases which with
    | requestReader =>
      cases ok with
      | true =>
        cases h
        exact .created _ .requestReader _ _ (by simp [Pc.needs]) rfl (by simp [Pc.toJoin])
      | false =>
        cases h
        exact .moved _ _ false m (by simp [Pc.needs]) rfl (Finset.Subset.refl _)
    | responseWriter =>
      cases ok with
      | true =>
        cases h
        exact .created _ .responseWriter _ _ (by simp [Pc.needs]) rfl (by simp [Pc.toJoin])
      | false =>
        cases h
        exact .goto _ (.lock true) (by simp [Pc.needs]) rfl
  | test =>
    cases ok with
    | true =>
      cases h
      exact .goto _ _ (by simp [Pc.needs]) (by cases running <;> rfl)
    | false => cases h
  | sigwait =>
    cases ok with
    | true =>
      cases h
      exact .goto _ .test (by simp [Pc.needs]) rfl
    | false =>
      cases h
      exact .goto _ (.lock false) (by simp [Pc.needs]) rfl
  | lock failed =>
    dsimp only [databaseRun] at h
    rcases mutexLock_cases h with ⟨m', hm, rfl⟩ | rfl | ⟨hmissing, rfl⟩
    · exact .moved _ (.stop failed) running m' (by simp [Pc.needs]) (by cases failed <;> rfl)
        (Finset.subset_of_eq hm)
    · exact .goto _ _ (by simp [Pc.needs]) (by cases failed <;> rfl)
    · exact .misused _ _ _ (.inl (by simp [Pc.needs])) hmissing
  | stop failed =>
    cases ok with
    | true =>
      cases h
      exact .moved _ _ false m (by simp [Pc.needs]) (by cases failed <;> rfl) (Finset.Subset.refl _)
    | false => cases h
  | broadcast failed =>
    cases h
    refine .moved _ _ running _ (by simp [Pc.needs]) (by cases failed <;> rfl) ?_
    cases ok with
    | true => exact Finset.empty_subset _
    | false => exact Finset.Subset.refl _
  | unlock failed =>
    dsimp only [databaseRun] at h
    rcases mutexUnlock_cases h with ⟨m', hm, rfl⟩ | rfl
    · exact .moved _ _ running m' (by simp [Pc.needs]) (by cases failed <;> rfl)
        (Finset.subset_of_eq hm)
    · exact .goto _ _ (by simp [Pc.needs]) (by cases failed <;> rfl)
  | joinRequestReader failed =>
    exact join_cases h (by simp [Pc.needs]) (by cases failed <;> rfl)
  | joinResponseWriter => exact join_cases h (by simp [Pc.needs]) rfl
  | exitConditionDestroy =>
    exact exitDestroy_cases h (.inl rfl) (by simp [Pc.needs]) (by simp [Pc.needs]) rfl
  | exitMutexDestroy =>
    exact exitDestroy_cases h (.inr rfl) (by simp [Pc.needs]) (by simp [Pc.needs]) rfl

theorem shutdownMutex_needs {object : SyncObject} (h : w.shutdownMutex.needs object = true) :
    object = .mutex ∧ w.flag .mutex = true := by
  unfold shutdownMutex at h
  split at h
  · exact ⟨by simpa [Pc.needs] using h, ‹_›⟩
  · cases h

theorem shutdownMutex_toJoin (w : State ρ) : w.shutdownMutex.toJoin = [] := by
  unfold shutdownMutex
  split <;> rfl

theorem shutdownCondition_needs {object : SyncObject}
    (h : w.shutdownCondition.needs object = true) : w.flag object = true := by
  unfold shutdownCondition at h
  split at h
  · obtain rfl : object = .condition := by simpa [Pc.needs] using h
    assumption
  · obtain ⟨rfl, hflag⟩ := shutdownMutex_needs h
    exact hflag

theorem shutdownCondition_toJoin (w : State ρ) : w.shutdownCondition.toJoin = [] := by
  unfold shutdownCondition
  split
  · rfl
  · exact w.shutdownMutex_toJoin

theorem shutdownDestroy_cases {object : SyncObject} {ok : Bool} {pc : Pc}
    (h : w.on .destroy object (some (if ok then { (w.destroy object).clearFlag object with pc := pc }
      else { w with pc := .idle })) = some w')
    (place : w.pc = .conditionDestroy ∨ w.pc = .mutexDestroy) (use : w.pc.needs object = true)
    (needs : ∀ other, pc.needs other = true → other ≠ object ∧ w.flag other = true)
    (toJoin : pc.toJoin = []) : Change w (.main (.next ok)) w' := by
  rcases on_eq_some.mp h with ⟨-, h⟩ | ⟨hmissing, rfl⟩
  · cases ok with
    | true =>
      cases h
      exact .destroyed object pc place needs toJoin
    | false =>
      cases h
      refine .goto _ .idle (by simp [Pc.needs]) ?_
      rcases place with hpc | hpc <;> rw [hpc] <;> rfl
  · exact .misused _ _ object (.inl use) hmissing

theorem databaseShutdown_cases {ok : Bool} (h : w.databaseShutdown w.pc ok = some w') :
    Change w (.main (.next ok)) w' := by
  cases hpc : w.pc with
  | conditionDestroy =>
    rw [hpc] at h
    refine shutdownDestroy_cases h (.inl hpc) (by simp [hpc, Pc.needs]) (fun other hneeds => ?_)
      w.shutdownMutex_toJoin
    obtain ⟨rfl, hflag⟩ := shutdownMutex_needs hneeds
    exact ⟨by simp, hflag⟩
  | mutexDestroy =>
    rw [hpc] at h
    exact shutdownDestroy_cases h (.inr hpc) (by simp [hpc, Pc.needs]) (by simp [Pc.needs]) rfl
  | _ =>
    rw [hpc] at h
    cases h

theorem main_cases {step : MainStep} (h : w.main step = some w') : Change w (.main step) w' := by
  cases step with
  | call call =>
    cases call with
    | run =>
      dsimp only [main] at h
      split at h
      · rename_i hpc
        cases h
        exact .goto _ .mutexInit (by simp [Pc.needs]) (by rw [hpc]; rfl)
      · cases h
    | shutdown =>
      dsimp only [main] at h
      split at h
      · rename_i hpc
        cases h
        refine .goto _ _ (fun object hneeds => .inr (shutdownCondition_needs hneeds)) ?_
        rw [hpc, shutdownCondition_toJoin]
        rfl
      · cases h
  | next ok =>
    rcases Option.or_eq_some_iff.mp h with h | ⟨-, h⟩
    · exact databaseRun_cases h
    · exact databaseShutdown_cases h
  | sigint =>
    dsimp only [main] at h
    split at h
    · rename_i hpc
      cases h
      exact .moved _ .test false w.monitor (by simp [hpc, Pc.needs]) (by rw [hpc]; rfl)
        (Finset.Subset.refl _)
    · cases h

theorem Change.stay (a : Action ρ) {i : Nat} {worker : Worker ρ} (pc : WorkerPc ρ)
    (monitor : Monitor Thread) (queue : List ρ) (exists_ : w.workers[i]? = some worker)
    (alive : worker.pc.ended = false) (waits : worker.pc ≠ .responseWriter .waiting)
    (parked : monitor.parked ⊆ w.monitor.parked) :
    Change w a (setWorker { w with monitor := monitor, queue := queue } i pc) :=
  .worked a i worker pc monitor queue exists_ alive (fun h => absurd h waits)
    fun _ ht => .inl (parked ht)

theorem requestReaderLoop_cases (a : Action ρ) {i : Nat} {worker : Worker ρ}
    {pc : RequestReaderThreadPc ρ} {step : WorkerStep ρ} (exists_ : w.workers[i]? = some worker)
    (place : worker.pc = .requestReader pc) (h : w.requestReaderLoop i pc step = some w') :
    Change w a w' := by
  have alive (hpc : pc ≠ .stopped) : worker.pc.ended = false := by
    rw [place]
    cases pc <;> first | rfl | exact absurd rfl hpc
  have stay (pc' : RequestReaderThreadPc ρ) (m : Monitor Thread) (queue : List ρ)
      (hpc : pc ≠ .stopped) (hm : m.parked ⊆ w.monitor.parked) :
      Change w a (setWorker { w with monitor := m, queue := queue } i (.requestReader pc')) :=
    .stay a _ m queue exists_ (alive hpc) (by simp [place]) hm
  have same := Finset.Subset.refl w.monitor.parked
  cases pc with
  | notCreated | stopped => cases step <;> cases h
  | test =>
    cases step with
    | next ok =>
      cases ok <;> cases h
      exact stay _ w.monitor w.queue (by simp) same
    | _ => cases h
  | pop =>
    cases step with
    | next ok =>
      cases ok <;> cases h
      exact stay .test w.monitor w.queue (by simp) same
    | popped request =>
      cases h
      exact stay (.lock request) w.monitor w.queue (by simp) same
    | signal woken => cases h
  | lock request =>
    cases step with
    | next ok =>
      dsimp only [requestReaderLoop] at h
      rcases mutexLock_cases h with ⟨m, hm, rfl⟩ | rfl | ⟨hmissing, rfl⟩
      · exact stay (.push request) m w.queue (by simp) (Finset.subset_of_eq hm)
      · exact stay .stopped w.monitor w.queue (by simp) same
      · exact .misused a _ _ (.inr ⟨i, worker, exists_, alive (by simp)⟩) hmissing
    | _ => cases h
  | push request =>
    cases step with
    | next ok =>
      cases ok <;> cases h
      exact stay .unlock w.monitor _ (by simp) same
    | _ => cases h
  | unlock =>
    cases step with
    | next ok =>
      dsimp only [requestReaderLoop] at h
      rcases mutexUnlock_cases h with ⟨m, hm, rfl⟩ | rfl
      · exact stay .signal m w.queue (by simp) (Finset.subset_of_eq hm)
      · exact stay .stopped w.monitor w.queue (by simp) same
    | _ => cases h
  | signal =>
    cases step with
    | next ok =>
      cases ok <;> cases h
      exact stay .stopped w.monitor w.queue (by simp) same
    | popped request => cases h
    | signal woken =>
      obtain ⟨m, hm, rfl⟩ := Option.map_eq_some_iff.mp h
      exact stay .test m w.queue (by simp) (Monitor.signal_parked hm)

theorem park_cases (a : Action ρ) {i : Nat} {worker : Worker ρ} {m : Monitor Thread}
    (exists_ : w.workers[i]? = some worker) (place : worker.pc = .responseWriter .wait)
    (h : w.monitor.park (.worker i) = some m) :
    Change w a (setWorker { w with monitor := m } i (.responseWriter .waiting)) := by
  obtain ⟨-, rfl⟩ := Monitor.park_eq_some.mp h
  refine .worked a i worker _ _ w.queue exists_ (by rw [place]; rfl) (by simp [place]) ?_
  intro t ht
  rcases Finset.mem_insert.mp ht with rfl | ht
  · exact .inr ⟨rfl, rfl⟩
  · exact .inl ht

theorem responseWriterLoop_cases (a : Action ρ) {i : Nat} {worker : Worker ρ}
    {pc : ConsumerPc ρ} {step : WorkerStep ρ} (exists_ : w.workers[i]? = some worker)
    (place : worker.pc = .responseWriter pc) (h : w.responseWriterLoop i pc step = some w') :
    Change w a w' := by
  have alive (hpc : pc ≠ .stopped) : worker.pc.ended = false := by
    rw [place]
    cases pc <;> first | rfl | exact absurd rfl hpc
  have missed (hpc : pc ≠ .stopped) {call : SyncCall} {object : SyncObject}
      (hmissing : w.initialized object = false) :
      Change w a { w with misuse := some (call, object) } :=
    .misused a call object (.inr ⟨i, worker, exists_, alive hpc⟩) hmissing
  have stay (pc' : ConsumerPc ρ) (m : Monitor Thread) (queue : List ρ)
      (hpc : pc ≠ .stopped ∧ pc ≠ .waiting) (hm : m.parked ⊆ w.monitor.parked) :
      Change w a (setWorker { w with monitor := m, queue := queue } i (.responseWriter pc')) :=
    .stay a _ m queue exists_ (alive hpc.1) (by simp [place, hpc.2]) hm
  have same := Finset.Subset.refl w.monitor.parked
  cases pc with
  | notCreated | stopped => cases step <;> cases h
  | loop | testEmpty | testRunning | testStopped | testDrained | forward request =>
    cases step with
    | next ok =>
      cases ok <;> cases h
      exact stay _ w.monitor w.queue (by simp) same
    | _ => cases h
  | lock =>
    cases step with
    | next ok =>
      dsimp only [responseWriterLoop] at h
      rcases mutexLock_cases h with ⟨m, hm, rfl⟩ | rfl | ⟨hmissing, rfl⟩
      · exact stay .testEmpty m w.queue (by simp) (Finset.subset_of_eq hm)
      · exact stay .stopped w.monitor w.queue (by simp) same
      · exact missed (by simp) hmissing
    | _ => cases h
  | wait =>
    cases step with
    | next ok =>
      cases ok with
      | true =>
        rcases on_eq_some.mp h with ⟨-, h⟩ | ⟨hmissing, rfl⟩
        · obtain ⟨m, hm, rfl⟩ := Option.map_eq_some_iff.mp h
          exact park_cases a exists_ place hm
        · exact missed (by simp) hmissing
      | false =>
        rcases on_eq_some.mp h with ⟨-, h⟩ | ⟨hmissing, rfl⟩
        · cases h
          exact stay .unlockStopped w.monitor w.queue (by simp) same
        · exact missed (by simp) hmissing
    | _ => cases h
  | waiting =>
    cases step with
    | next ok =>
      cases ok with
      | true =>
        dsimp only [responseWriterLoop] at h
        split at h
        · cases h
        rename_i hwoken
        have resume (m : Monitor Thread) (hm : m.parked = w.monitor.parked) :
            Change w a (setWorker { w with monitor := m } i (.responseWriter .testEmpty)) :=
          .worked a i worker _ m w.queue exists_ (alive (by simp)) (fun _ => hwoken)
            fun t ht => .inl (hm ▸ ht)
        rcases mutexLock_cases h with ⟨m, hm, rfl⟩ | rfl | ⟨hmissing, rfl⟩
        · exact resume m hm
        · exact resume w.monitor rfl
        · exact missed (by simp) hmissing
      | false => cases h
    | _ => cases h
  | take =>
    cases step with
    | next ok =>
      cases ok with
      | true =>
        dsimp only [responseWriterLoop] at h
        split at h
        · cases h
          exact stay (.unlock _) w.monitor _ (by simp) same
        · cases h
      | false => cases h
    | _ => cases h
  | unlock request =>
    cases step with
    | next ok =>
      dsimp only [responseWriterLoop] at h
      rcases mutexUnlock_cases h with ⟨m, hm, rfl⟩ | rfl
      · exact stay (.forward request) m w.queue (by simp) (Finset.subset_of_eq hm)
      · exact stay .stopped w.monitor w.queue (by simp) same
    | _ => cases h
  | unlockStopped =>
    cases step with
    | next ok =>
      dsimp only [responseWriterLoop] at h
      rcases mutexUnlock_cases h with ⟨m, hm, rfl⟩ | rfl
      · exact stay .stopped m w.queue (by simp) (Finset.subset_of_eq hm)
      · exact stay .stopped w.monitor w.queue (by simp) same
    | _ => cases h

theorem step_cases (h : w.step a = some w') : Change w a w' := by
  unfold step at h
  split at h
  · cases h
  cases a with
  | main step => exact main_cases h
  | worker i step =>
    obtain ⟨worker, hworker, h⟩ := Option.bind_eq_some_iff.mp h
    cases hpc : worker.pc with
    | requestReader pc =>
      rw [hpc] at h
      exact requestReaderLoop_cases _ hworker hpc h
    | responseWriter pc =>
      rw [hpc] at h
      exact responseWriterLoop_cases _ hworker hpc h
  | spuriousWakeup i =>
    obtain ⟨m, hm, rfl⟩ := Option.map_eq_some_iff.mp h
    obtain ⟨-, rfl⟩ := Monitor.wake_eq_some.mp hm
    exact .moved _ w.pc w.running _ (fun _ hneeds => .inl hneeds) rfl (Finset.erase_subset _ _)

end State

end ParkingSystem.SyncObjects
