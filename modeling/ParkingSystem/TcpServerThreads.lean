import ParkingSystem.WorkerThreads

/-!
# The threads of TcpServer

`run` from its first `pthread_create` to its return, with the three worker threads
it starts: `tcp_server_loop` puts requests into `request_queue_` and signals inside
the critical section, `request_writer_loop` takes them. Each `pthread_create` may
fail; then `run` clears `running_` and joins the threads that exist, without the
broadcast of its stop sequence.
-/

namespace ParkingSystem

open Runs (run)

inductive TcpServerThreadPc (ρ : Type) where
  | notCreated
  /-- `socket`, `setsockopt`, `bind`, `listen`. -/
  | listen
  | test
  | select
  /-- At the descriptors that `select` reported. -/
  | serve
  | lock (request : ρ)
  | push (request : ρ)
  | signal
  | unlock
  | stopped
  deriving DecidableEq

def TcpServerThreadPc.holds {ρ : Type} : TcpServerThreadPc ρ → Bool
  | .push _ | .signal | .unlock => true
  | .notCreated | .listen | .test | .select | .serve | .lock _ | .stopped => false

/-- Between `request_queue_.push` and `pthread_cond_signal`. -/
def TcpServerThreadPc.owes {ρ : Type} : TcpServerThreadPc ρ → Bool
  | .signal => true
  | _ => false

inductive TcpServerThreadStep (ρ : Type) where
  | next
  /-- `select` fails with EINTR. -/
  | interrupted
  /-- A request was read and its client noted. -/
  | received (request : ρ)
  | failed

/-- `response_reader_loop`, which has nothing to do with the mutex. -/
inductive ResponseReaderThreadPc where
  | notCreated
  | test
  | work
  | stopped
  deriving DecidableEq

inductive TcpServerCreate where
  | requestWriter
  | responseReader
  | tcpServer
  deriving DecidableEq

/-- `TcpServer::run` from its first `pthread_create`; `failed` is the one that failed,
if any did. -/
inductive TcpServerRunPc where
  | create (thread : TcpServerCreate)
  | sigwait
  | stop (failed : Option TcpServerCreate)
  | lock
  | broadcast
  | unlock
  | joinTcpServer
  | joinRequestWriter (failed : Option TcpServerCreate)
  | joinResponseReader (failed : Option TcpServerCreate)
  | returned (failed : Option TcpServerCreate)
  deriving DecidableEq

/-- Where a failure path goes on after `running_ = false`: to the first thread that it
joins, if one exists. -/
def TcpServerCreate.join : TcpServerCreate → TcpServerRunPc
  | .requestWriter => .returned (some .requestWriter)
  | .responseReader => .joinRequestWriter (some .responseReader)
  | .tcpServer => .joinRequestWriter (some .tcpServer)

def TcpServerRunPc.holds : TcpServerRunPc → Bool
  | .broadcast | .unlock => true
  | _ => false

/-- The broadcast of the stop sequence is done. -/
def TcpServerRunPc.told : TcpServerRunPc → Bool
  | .unlock | .joinTcpServer | .joinRequestWriter none | .joinResponseReader none
  | .returned none => true
  | _ => false

structure TcpServerThreads (ρ : Type) where
  handoff : Handoff ρ
  requestWriter : ConsumerPc ρ
  responseReader : ResponseReaderThreadPc
  tcpServer : TcpServerThreadPc ρ
  main : TcpServerRunPc

inductive TcpServerThreadsAction (ρ : Type) where
  | requestWriter
  | responseReader
  | tcpServer (step : TcpServerThreadStep ρ)
  /-- `created` is what `pthread_create` says. -/
  | main (created : Bool)
  | spuriousWakeup

namespace TcpServerThreads

variable {ρ : Type}

def initial (ρ : Type) : TcpServerThreads ρ :=
  ⟨.initial ρ, .notCreated, .notCreated, .notCreated, .create .requestWriter⟩

def requestWriterLoop (w : TcpServerThreads ρ) : Option (TcpServerThreads ρ) :=
  (w.handoff.consume false w.requestWriter).map fun (s, pc) =>
    { w with handoff := s, requestWriter := pc }

def responseReaderLoop (w : TcpServerThreads ρ) : Option (TcpServerThreads ρ) :=
  match w.responseReader with
  | .test => some { w with responseReader := if w.handoff.running then .work else .stopped }
  | .work => some { w with responseReader := .test }
  | .notCreated | .stopped => none

def tcpServerLoop (w : TcpServerThreads ρ) (step : TcpServerThreadStep ρ) :
    Option (TcpServerThreads ρ) :=
  match w.tcpServer, step with
  | .listen, .next => some { w with tcpServer := .test }
  | .listen, .failed => some { w with tcpServer := .stopped, handoff := w.handoff.stop }
  | .test, .next =>
    if w.handoff.running then some { w with tcpServer := .select }
    else some { w with tcpServer := .stopped }
  | .select, .next => some { w with tcpServer := .serve }
  | .select, .interrupted => some { w with tcpServer := .test }
  | .select, .failed => some { w with tcpServer := .stopped, handoff := w.handoff.stop }
  | .serve, .received request => some { w with tcpServer := .lock request }
  | .serve, .next => some { w with tcpServer := .test }
  | .lock request, .next =>
    (w.handoff.lock .producer).map fun s => { w with tcpServer := .push request, handoff := s }
  | .push request, .next =>
    some { w with tcpServer := .signal, handoff := w.handoff.push request }
  | .signal, .next => w.handoff.signal.map fun s => { w with tcpServer := .unlock, handoff := s }
  | .unlock, .next =>
    (w.handoff.unlock .producer).map fun s => { w with tcpServer := .serve, handoff := s }
  | _, _ => none

def runThreads (w : TcpServerThreads ρ) (created : Bool) : Option (TcpServerThreads ρ) :=
  match w.main with
  | .create thread =>
    if !created then some { w with main := .stop (some thread) }
    else
      match thread with
      | .requestWriter => some { w with main := .create .responseReader, requestWriter := .loop }
      | .responseReader => some { w with main := .create .tcpServer, responseReader := .test }
      | .tcpServer => some { w with main := .sigwait, tcpServer := .listen }
  | .sigwait => some { w with main := .stop none }
  | .stop none => some { w with main := .lock, handoff := w.handoff.stop }
  | .stop (some thread) => some { w with main := thread.join, handoff := w.handoff.stop }
  | .lock => (w.handoff.lock .main).map fun s => { w with main := .broadcast, handoff := s }
  | .broadcast => some { w with main := .unlock, handoff := w.handoff.broadcast }
  | .unlock =>
    (w.handoff.unlock .main).map fun s => { w with main := .joinTcpServer, handoff := s }
  | .joinTcpServer =>
    match w.tcpServer with
    | .stopped => some { w with main := .joinRequestWriter none }
    | _ => none
  | .joinRequestWriter failed =>
    match w.requestWriter with
    | .stopped =>
      some { w with
        main := if failed = some .responseReader then .returned failed
          else .joinResponseReader failed }
    | _ => none
  | .joinResponseReader failed =>
    match w.responseReader with
    | .stopped => some { w with main := .returned failed }
    | _ => none
  | .returned _ => none

def step (w : TcpServerThreads ρ) : TcpServerThreadsAction ρ → Option (TcpServerThreads ρ)
  | .requestWriter => w.requestWriterLoop
  | .responseReader => w.responseReaderLoop
  | .tcpServer step => w.tcpServerLoop step
  | .main created => w.runThreads created
  | .spuriousWakeup => w.handoff.wake.map fun s => { w with handoff := s }

def holds (w : TcpServerThreads ρ) : WorkerThread → Bool
  | .consumer => w.requestWriter.holds
  | .producer => w.tcpServer.holds
  | .main => w.main.holds

-- ---------------------------------------------------------------------------
-- What one step can do
-- ---------------------------------------------------------------------------

inductive Change (w : TcpServerThreads ρ) : TcpServerThreadsAction ρ → TcpServerThreads ρ → Prop
  | consumed (consume : w.handoff.consume false w.requestWriter = some (s, pc)) :
      Change w .requestWriter { w with handoff := s, requestWriter := pc }
  | responded (pc : ResponseReaderThreadPc) :
      Change w .responseReader { w with responseReader := pc }
  /-- The tcp thread outside of the critical section. -/
  | served (pc : TcpServerThreadPc ρ) (exists_ : w.tcpServer ≠ .notCreated)
      (holds : pc.holds = w.tcpServer.holds) (owes : pc.owes = w.tcpServer.owes) :
      Change w (.tcpServer move) { w with tcpServer := pc }
  | gaveUp (exists_ : w.tcpServer ≠ .notCreated) (holds : w.tcpServer.holds = false)
      (owes : w.tcpServer.owes = false) :
      Change w (.tcpServer move) { w with tcpServer := .stopped, handoff := w.handoff.stop }
  | locked (place : w.tcpServer = .lock request) (lock : w.handoff.lock .producer = some s) :
      Change w (.tcpServer move) { w with tcpServer := .push request, handoff := s }
  | pushed (place : w.tcpServer = .push request) :
      Change w (.tcpServer move) { w with tcpServer := .signal, handoff := w.handoff.push request }
  | signalled (place : w.tcpServer = .signal) (signal : w.handoff.signal = some s) :
      Change w (.tcpServer move) { w with tcpServer := .unlock, handoff := s }
  | unlocked (place : w.tcpServer = .unlock) (unlock : w.handoff.unlock .producer = some s) :
      Change w (.tcpServer move) { w with tcpServer := .serve, handoff := s }
  | createFailed (thread : TcpServerCreate) (place : w.main = .create thread) :
      Change w (.main ok) { w with main := .stop (some thread) }
  | createdRequestWriter (place : w.main = .create .requestWriter) :
      Change w (.main ok) { w with main := .create .responseReader, requestWriter := .loop }
  | createdResponseReader (place : w.main = .create .responseReader) :
      Change w (.main ok) { w with main := .create .tcpServer, responseReader := .test }
  | createdTcpServer (place : w.main = .create .tcpServer) :
      Change w (.main ok) { w with main := .sigwait, tcpServer := .listen }
  | interrupted (place : w.main = .sigwait) : Change w (.main ok) { w with main := .stop none }
  | stopped (place : w.main = .stop none) :
      Change w (.main ok) { w with main := .lock, handoff := w.handoff.stop }
  | abandoned (thread : TcpServerCreate) (place : w.main = .stop (some thread)) :
      Change w (.main ok) { w with main := thread.join, handoff := w.handoff.stop }
  | mainLocked (place : w.main = .lock) (lock : w.handoff.lock .main = some s) :
      Change w (.main ok) { w with main := .broadcast, handoff := s }
  | broadcast (place : w.main = .broadcast) :
      Change w (.main ok) { w with main := .unlock, handoff := w.handoff.broadcast }
  | mainUnlocked (place : w.main = .unlock) (unlock : w.handoff.unlock .main = some s) :
      Change w (.main ok) { w with main := .joinTcpServer, handoff := s }
  | joinedTcpServer (place : w.main = .joinTcpServer) :
      Change w (.main ok) { w with main := .joinRequestWriter none }
  | joinedRequestWriter (failed : Option TcpServerCreate) (pc : TcpServerRunPc)
      (place : w.main = .joinRequestWriter failed)
      (next : pc = .returned failed ∧ failed ≠ none ∨ pc = .joinResponseReader failed) :
      Change w (.main ok) { w with main := pc }
  | joinedResponseReader (failed : Option TcpServerCreate)
      (place : w.main = .joinResponseReader failed) :
      Change w (.main ok) { w with main := .returned failed }
  | woken (wake : w.handoff.wake = some s) : Change w .spuriousWakeup { w with handoff := s }

variable {w w' : TcpServerThreads ρ} {a : TcpServerThreadsAction ρ} {told : Bool}

theorem tcpServerLoop_cases {step : TcpServerThreadStep ρ} (h : w.tcpServerLoop step = some w') :
    Change w (.tcpServer step) w' := by
  obtain ⟨s, writer, reader, pc, main⟩ := w
  cases pc with
  | notCreated | stopped => cases step <;> cases h
  | listen =>
    cases step with
    | next =>
      cases h
      exact .served _ (by simp) rfl rfl
    | failed =>
      cases h
      exact .gaveUp (by simp) rfl rfl
    | _ => cases h
  | test =>
    cases step with
    | next =>
      dsimp only [tcpServerLoop] at h
      split at h <;> cases h <;> exact .served _ (by simp) rfl rfl
    | _ => cases h
  | select =>
    cases step with
    | next | interrupted =>
      cases h
      exact .served _ (by simp) rfl rfl
    | failed =>
      cases h
      exact .gaveUp (by simp) rfl rfl
    | received request => cases h
  | serve =>
    cases step with
    | next | received request =>
      cases h
      exact .served _ (by simp) rfl rfl
    | _ => cases h
  | lock request =>
    cases step with
    | next =>
      obtain ⟨s', hs, rfl⟩ := Option.map_eq_some_iff.mp h
      exact .locked rfl hs
    | _ => cases h
  | push request =>
    cases step with
    | next =>
      cases h
      exact .pushed rfl
    | _ => cases h
  | signal =>
    cases step with
    | next =>
      obtain ⟨s', hs, rfl⟩ := Option.map_eq_some_iff.mp h
      exact .signalled rfl hs
    | _ => cases h
  | unlock =>
    cases step with
    | next =>
      obtain ⟨s', hs, rfl⟩ := Option.map_eq_some_iff.mp h
      exact .unlocked rfl hs
    | _ => cases h

theorem runThreads_cases {created : Bool} (h : w.runThreads created = some w') :
    Change w (.main created) w' := by
  cases place : w.main with
  | create thread =>
    rw [runThreads, place] at h
    cases created with
    | false =>
      cases h
      exact .createFailed _ place
    | true =>
      cases thread with
      | requestWriter =>
        cases h
        exact .createdRequestWriter place
      | responseReader =>
        cases h
        exact .createdResponseReader place
      | tcpServer =>
        cases h
        exact .createdTcpServer place
  | sigwait =>
    rw [runThreads, place] at h
    cases h
    exact .interrupted place
  | stop failed =>
    rw [runThreads, place] at h
    cases failed with
    | none =>
      cases h
      exact .stopped place
    | some thread =>
      cases h
      exact .abandoned thread place
  | lock =>
    rw [runThreads, place] at h
    obtain ⟨s, hs, rfl⟩ := Option.map_eq_some_iff.mp h
    exact .mainLocked place hs
  | broadcast =>
    rw [runThreads, place] at h
    cases h
    exact .broadcast place
  | unlock =>
    rw [runThreads, place] at h
    obtain ⟨s, hs, rfl⟩ := Option.map_eq_some_iff.mp h
    exact .mainUnlocked place hs
  | joinTcpServer =>
    rw [runThreads, place] at h
    dsimp only at h
    split at h <;> cases h
    exact .joinedTcpServer place
  | joinRequestWriter failed =>
    rw [runThreads, place] at h
    dsimp only at h
    split at h <;> cases h
    refine .joinedRequestWriter failed _ place ?_
    split
    · rename_i hfailed
      exact .inl ⟨rfl, by simp [hfailed]⟩
    · exact .inr rfl
  | joinResponseReader failed =>
    rw [runThreads, place] at h
    dsimp only at h
    split at h <;> cases h
    exact .joinedResponseReader failed place
  | returned failed =>
    rw [runThreads, place] at h
    cases h

theorem step_cases (h : w.step a = some w') : Change w a w' := by
  cases a with
  | requestWriter =>
    obtain ⟨⟨s, pc⟩, hs, rfl⟩ := Option.map_eq_some_iff.mp h
    exact .consumed hs
  | responseReader =>
    dsimp only [step, responseReaderLoop] at h
    split at h <;> cases h <;> exact .responded _
  | tcpServer step => exact tcpServerLoop_cases h
  | main created => exact runThreads_cases h
  | spuriousWakeup =>
    obtain ⟨s, hs, rfl⟩ := Option.map_eq_some_iff.mp h
    exact .woken hs

-- ---------------------------------------------------------------------------
-- The consumer stays awake
-- ---------------------------------------------------------------------------

/-- `Steady`, and where the main thread is while it creates and stops the others. -/
structure Consistent (w : TcpServerThreads ρ) (told : Bool) : Prop where
  steady : Steady w.handoff w.requestWriter w.holds w.tcpServer.owes told
  requestWriter : w.main = .create .requestWriter → w.requestWriter = .notCreated
  tcpServer : ∀ thread, w.main = .create thread → w.tcpServer = .notCreated
  stopped : w.main = .lock ∨ w.main = .broadcast → w.handoff.running = false

namespace Consistent

theorem initial : (initial ρ).Consistent false where
  steady := .initial fun t => by cases t <;> rfl
  requestWriter := fun _ => rfl
  tcpServer := fun _ _ => rfl
  stopped := by simp [TcpServerThreads.initial]

theorem mono {told' : Bool} (v : w.Consistent told) (h : told' = true → told = true) :
    w.Consistent told' :=
  { v with steady := v.steady.mono h }

theorem consumed {s : Handoff ρ} {pc : ConsumerPc ρ} (v : w.Consistent told)
    (h : w.handoff.consume false w.requestWriter = some (s, pc)) :
    Consistent { w with handoff := s, requestWriter := pc } told where
  steady := (v.steady.consume h).congr fun t => by cases t <;> rfl
  requestWriter hmain := by
    rw [v.requestWriter hmain] at h
    cases h
  tcpServer := v.tcpServer
  stopped hmain := (Handoff.consume_running h).trans (v.stopped hmain)

theorem moved (v : w.Consistent told) {s : Handoff ρ} {pc : TcpServerThreadPc ρ}
    (hpc : w.tcpServer ≠ .notCreated)
    (hs : Steady s w.requestWriter (Function.update w.holds .producer pc.holds) pc.owes told)
    (hrunning : w.handoff.running = false → s.running = false) :
    Consistent { w with tcpServer := pc, handoff := s } told where
  steady := hs.congr fun t => by cases t <;> rfl
  requestWriter := v.requestWriter
  tcpServer thread hmain := absurd (v.tcpServer thread hmain) hpc
  stopped hmain := hrunning (v.stopped hmain)

theorem main {s : Handoff ρ} (pc : TcpServerRunPc) (hpc : ∀ thread, pc ≠ .create thread)
    (hs : Steady s w.requestWriter (Function.update w.holds .main pc.holds) w.tcpServer.owes told)
    (hstopped : pc = .lock ∨ pc = .broadcast → s.running = false) :
    Consistent { w with main := pc, handoff := s } told where
  steady := hs.congr fun t => by cases t <;> rfl
  requestWriter hmain := absurd hmain (hpc _)
  tcpServer thread hmain := absurd hmain (hpc thread)
  stopped := hstopped

theorem step (v : w.Consistent told) (h : Change w a w') : w'.Consistent told := by
  obtain ⟨s, writer, reader, pc, main⟩ := w
  have hsteady := v.steady
  cases h with
  | consumed consume => exact v.consumed consume
  | responded => exact ⟨v.steady, v.requestWriter, v.tcpServer, v.stopped⟩
  | served pc exists_ holds owes => exact v.moved exists_ (owes ▸ hsteady.stay holds) id
  | gaveUp exists_ holds owes =>
    have hstop := hsteady.stop.stay (t := .producer) holds.symm
    exact v.moved exists_ (by rwa [owes] at hstop) fun _ => rfl
  | locked place lock =>
    obtain rfl : pc = _ := place
    exact v.moved (by simp) (hsteady.lock (by simp) lock) (Handoff.lock_running lock ▸ id)
  | pushed place =>
    obtain rfl : pc = _ := place
    have howner := (hsteady.owned .producer).mp rfl
    exact v.moved (by simp) ((hsteady.push (by simp) howner _).stay rfl) id
  | signalled place signal =>
    obtain rfl : pc = _ := place
    obtain rfl := hsteady.signal_eq_some.mp signal
    exact v.moved (by simp) ((hsteady.rouse false).stay rfl) id
  | unlocked place unlock =>
    obtain rfl : pc = _ := place
    exact v.moved (by simp) (hsteady.unlock (by simp) unlock) (Handoff.unlock_running unlock ▸ id)
  | createFailed thread place =>
    obtain rfl : main = _ := place
    exact .main _ (by simp) (hsteady.stay rfl) (by simp)
  | createdRequestWriter place =>
    obtain rfl : main = _ := place
    obtain rfl : writer = .notCreated := v.requestWriter rfl
    have hloop : Steady s .loop _ _ told :=
      hsteady.move (by simp) rfl (by simp) (by simp) (by simp) (by simp)
    exact ⟨hloop.congr fun t => by cases t <;> rfl, by simp, fun _ _ => v.tcpServer _ rfl, by simp⟩
  | createdResponseReader place =>
    obtain rfl : main = _ := place
    exact ⟨hsteady.congr fun t => by cases t <;> rfl, by simp, fun _ _ => v.tcpServer _ rfl, by simp⟩
  | createdTcpServer place =>
    obtain rfl : main = _ := place
    obtain rfl : pc = .notCreated := v.tcpServer _ rfl
    exact ⟨hsteady.congr fun t => by cases t <;> rfl, by simp, by simp, by simp⟩
  | interrupted place =>
    obtain rfl : main = _ := place
    exact .main _ (by simp) (hsteady.stay rfl) (by simp)
  | stopped place =>
    obtain rfl : main = _ := place
    exact .main _ (by simp) (hsteady.stop.stay rfl) fun _ => rfl
  | abandoned thread place =>
    obtain rfl : main = _ := place
    cases thread <;>
      exact .main _ (by simp [TcpServerCreate.join]) (hsteady.stop.stay rfl) fun _ => rfl
  | mainLocked place lock =>
    obtain rfl : main = _ := place
    exact .main .broadcast (by simp) (hsteady.lock (by simp) lock) fun _ =>
      (Handoff.lock_running lock).trans (v.stopped (.inl rfl))
  | broadcast place =>
    obtain rfl : main = _ := place
    exact .main _ (by simp) ((hsteady.rouse _).stay rfl) (by simp)
  | mainUnlocked place unlock =>
    obtain rfl : main = _ := place
    exact .main .joinTcpServer (by simp) (hsteady.unlock (by simp) unlock) (by simp)
  | joinedTcpServer place =>
    obtain rfl : main = _ := place
    exact .main _ (by simp) (hsteady.stay rfl) (by simp)
  | joinedRequestWriter failed _ place next =>
    obtain rfl : main = _ := place
    rcases next with ⟨rfl, -⟩ | rfl <;> exact .main _ (by simp) (hsteady.stay rfl) (by simp)
  | joinedResponseReader failed place =>
    obtain rfl : main = _ := place
    exact .main _ (by simp) (hsteady.stay rfl) (by simp)
  | woken wake =>
    exact ⟨hsteady.wake wake, v.requestWriter, v.tcpServer,
      fun hmain => (Handoff.wake_running wake).trans (v.stopped hmain)⟩

theorem broadcast (v : w.Consistent told) (hmain : w.main = .broadcast) :
    Consistent { w with main := .unlock, handoff := w.handoff.broadcast } true := by
  obtain ⟨s, writer, reader, pc, main⟩ := w
  obtain rfl : main = .broadcast := hmain
  have htold := v.steady.tell (t := .main) (by simp) ((v.steady.owned .main).mp rfl)
    (v.stopped (.inr rfl))
  exact .main _ (by simp) (htold.stay rfl) (by simp)

end Consistent

/-- The main thread comes past its broadcast only through it. -/
theorem Change.told_before (h : Change w a w') (htold : w'.main.told = true) :
    w.main.told = true ∨ w.main = .broadcast ∧
      w' = { w with main := .unlock, handoff := w.handoff.broadcast } := by
  cases h with
  | abandoned thread => cases thread <;> cases htold
  | broadcast place => exact .inr ⟨place, rfl⟩
  | mainUnlocked place | joinedTcpServer place => exact .inl (by rw [place]; rfl)
  | joinedRequestWriter failed pc place next =>
    have hfailed : failed = none := by
      rcases next with ⟨rfl, -⟩ | rfl <;> cases failed <;> first | rfl | cases htold
    exact .inl (by rw [place, hfailed]; rfl)
  | joinedResponseReader failed place =>
    cases failed with
    | none => exact .inl (by rw [place]; rfl)
    | some thread => cases htold
  | createFailed | createdRequestWriter | createdResponseReader | createdTcpServer | interrupted
  | stopped | mainLocked => cases htold
  | _ => exact .inl htold

theorem Consistent.step_told (v : w.Consistent w.main.told) (h : Change w a w') :
    w'.Consistent w'.main.told := by
  cases htold : w'.main.told with
  | false => exact (v.step h).mono nofun
  | true =>
    rcases h.told_before htold with hbefore | ⟨hmain, rfl⟩
    · exact (v.step h).mono fun _ => hbefore
    · exact v.broadcast hmain

theorem reached_consistent {actions : List (TcpServerThreadsAction ρ)}
    (hr : run step (.initial ρ) actions = some w) : w.Consistent w.main.told :=
  Runs.invariant (I := fun w => w.Consistent w.main.told)
    (fun _ _ _ v h => v.step_told (step_cases h)) .initial hr

end TcpServerThreads

end ParkingSystem
