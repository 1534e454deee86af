import ParkingSystem.WorkerThreads

/-!
# The threads of Database

`run` from its first `pthread_create` to its return, with the two worker threads it
starts: `request_reader_loop` puts requests into `request_queue_` and signals after
it has left the critical section, `response_writer_loop` takes them. When the second
`pthread_create` fails, `run` goes through the same lock and broadcast as when it
stops.
-/

namespace ParkingSystem

open Runs (run)

inductive RequestReaderThreadPc (ρ : Type) where
  | notCreated
  | test
  | pop
  | lock (request : ρ)
  | push (request : ρ)
  | unlock
  | signal
  | stopped

def RequestReaderThreadPc.holds {ρ : Type} : RequestReaderThreadPc ρ → Bool
  | .push _ | .unlock => true
  | .notCreated | .test | .pop | .lock _ | .signal | .stopped => false

/-- Between `request_queue_.push` and `pthread_cond_signal`. -/
def RequestReaderThreadPc.owes {ρ : Type} : RequestReaderThreadPc ρ → Bool
  | .unlock | .signal => true
  | _ => false

inductive RequestReaderThreadStep (ρ : Type) where
  | next
  /-- `pop` has returned true. -/
  | popped (request : ρ)

inductive DatabaseCreate where
  | requestReader
  | responseWriter
  deriving DecidableEq

/-- `Database::run` from its first `pthread_create`; `failed` is the one that failed,
if any did. -/
inductive DatabaseRunPc where
  | create (thread : DatabaseCreate)
  /-- At `running_ = false` when the first `pthread_create` failed. -/
  | abandon
  | test
  | sigwait
  /-- At `running_ = false` in the case of SIGINT. -/
  | sigint
  | lock (failed : Option DatabaseCreate)
  | stop (failed : Option DatabaseCreate)
  | broadcast (failed : Option DatabaseCreate)
  | unlock (failed : Option DatabaseCreate)
  | joinRequestReader (failed : Option DatabaseCreate)
  | joinResponseWriter
  | returned (failed : Option DatabaseCreate)
  deriving DecidableEq

def DatabaseRunPc.holds : DatabaseRunPc → Bool
  | .stop _ | .broadcast _ | .unlock _ => true
  | _ => false

/-- The broadcast of the stop sequence is done. -/
def DatabaseRunPc.told : DatabaseRunPc → Bool
  | .unlock none | .joinRequestReader none | .joinResponseWriter | .returned none => true
  | _ => false

inductive DatabaseRunStep where
  | next
  /-- `pthread_create` or `sigwait` fails. -/
  | failed
  /-- `sigwait` returns with SIGINT; with another signal it is `next`. -/
  | sigint
  deriving DecidableEq

structure DatabaseThreads (ρ : Type) where
  handoff : Handoff ρ
  responseWriter : ConsumerPc ρ
  requestReader : RequestReaderThreadPc ρ
  main : DatabaseRunPc

inductive DatabaseThreadsAction (ρ : Type) where
  | responseWriter
  | requestReader (step : RequestReaderThreadStep ρ)
  | main (step : DatabaseRunStep)
  | spuriousWakeup

namespace DatabaseThreads

variable {ρ : Type}

def initial (ρ : Type) : DatabaseThreads ρ :=
  ⟨.initial ρ, .notCreated, .notCreated, .create .requestReader⟩

def responseWriterLoop (w : DatabaseThreads ρ) : Option (DatabaseThreads ρ) :=
  (w.handoff.consume true w.responseWriter).map fun (s, pc) =>
    { w with handoff := s, responseWriter := pc }

def requestReaderLoop (w : DatabaseThreads ρ) (step : RequestReaderThreadStep ρ) :
    Option (DatabaseThreads ρ) :=
  match w.requestReader, step with
  | .test, .next =>
    if w.handoff.running then some { w with requestReader := .pop }
    else some { w with requestReader := .stopped }
  | .pop, .next => some { w with requestReader := .test }
  | .pop, .popped request => some { w with requestReader := .lock request }
  | .lock request, .next =>
    (w.handoff.lock .producer).map fun s => { w with requestReader := .push request, handoff := s }
  | .push request, .next =>
    some { w with requestReader := .unlock, handoff := w.handoff.push request }
  | .unlock, .next =>
    (w.handoff.unlock .producer).map fun s => { w with requestReader := .signal, handoff := s }
  | .signal, .next => w.handoff.signal.map fun s => { w with requestReader := .test, handoff := s }
  | _, _ => none

def runThreads (w : DatabaseThreads ρ) (step : DatabaseRunStep) : Option (DatabaseThreads ρ) :=
  match w.main, step with
  | .create .requestReader, .next =>
    some { w with main := .create .responseWriter, requestReader := .test }
  | .create .requestReader, .failed => some { w with main := .abandon }
  | .create .responseWriter, .next => some { w with main := .test, responseWriter := .loop }
  | .create .responseWriter, .failed => some { w with main := .lock (some .responseWriter) }
  | .abandon, .next =>
    some { w with main := .returned (some .requestReader), handoff := w.handoff.stop }
  | .test, .next =>
    if w.handoff.running then some { w with main := .sigwait }
    else some { w with main := .lock none }
  | .sigwait, .next => some { w with main := .test }
  | .sigwait, .failed => some { w with main := .lock none }
  | .sigwait, .sigint => some { w with main := .sigint }
  | .sigint, .next => some { w with main := .test, handoff := w.handoff.stop }
  | .lock failed, .next =>
    (w.handoff.lock .main).map fun s => { w with main := .stop failed, handoff := s }
  | .stop failed, .next => some { w with main := .broadcast failed, handoff := w.handoff.stop }
  | .broadcast failed, .next =>
    some { w with main := .unlock failed, handoff := w.handoff.broadcast }
  | .unlock failed, .next =>
    (w.handoff.unlock .main).map fun s => { w with main := .joinRequestReader failed, handoff := s }
  | .joinRequestReader failed, .next =>
    match w.requestReader, failed with
    | .stopped, none => some { w with main := .joinResponseWriter }
    | .stopped, some thread => some { w with main := .returned (some thread) }
    | _, _ => none
  | .joinResponseWriter, .next =>
    match w.responseWriter with
    | .stopped => some { w with main := .returned none }
    | _ => none
  | _, _ => none

def step (w : DatabaseThreads ρ) : DatabaseThreadsAction ρ → Option (DatabaseThreads ρ)
  | .responseWriter => w.responseWriterLoop
  | .requestReader step => w.requestReaderLoop step
  | .main step => w.runThreads step
  | .spuriousWakeup => w.handoff.wake.map fun s => { w with handoff := s }

def holds (w : DatabaseThreads ρ) : WorkerThread → Bool
  | .consumer => w.responseWriter.holds
  | .producer => w.requestReader.holds
  | .main => w.main.holds

-- ---------------------------------------------------------------------------
-- What one step can do
-- ---------------------------------------------------------------------------

inductive Change (w : DatabaseThreads ρ) : DatabaseThreads ρ → Prop
  | consumed (consume : w.handoff.consume true w.responseWriter = some (s, pc)) :
      Change w { w with handoff := s, responseWriter := pc }
  /-- The request reader outside of the critical section. -/
  | read (pc : RequestReaderThreadPc ρ) (exists_ : w.requestReader ≠ .notCreated)
      (holds : pc.holds = w.requestReader.holds) (owes : pc.owes = w.requestReader.owes) :
      Change w { w with requestReader := pc }
  | locked (place : w.requestReader = .lock request) (lock : w.handoff.lock .producer = some s) :
      Change w { w with requestReader := .push request, handoff := s }
  | pushed (place : w.requestReader = .push request) :
      Change w { w with requestReader := .unlock, handoff := w.handoff.push request }
  | unlocked (place : w.requestReader = .unlock) (unlock : w.handoff.unlock .producer = some s) :
      Change w { w with requestReader := .signal, handoff := s }
  | signalled (place : w.requestReader = .signal) (signal : w.handoff.signal = some s) :
      Change w { w with requestReader := .test, handoff := s }
  | createdRequestReader (place : w.main = .create .requestReader) :
      Change w { w with main := .create .responseWriter, requestReader := .test }
  | createdResponseWriter (place : w.main = .create .responseWriter) :
      Change w { w with main := .test, responseWriter := .loop }
  /-- The main thread before it has the mutex. -/
  | moved (pc : DatabaseRunPc) (holds : w.main.holds = false) (holds' : pc.holds = false)
      (creates : ∀ thread, pc ≠ .create thread) (told : pc.told = true → w.main.told = true) :
      Change w { w with main := pc }
  | cleared (pc : DatabaseRunPc) (holds : w.main.holds = false) (holds' : pc.holds = false)
      (creates : ∀ thread, pc ≠ .create thread) (told : pc.told = false) :
      Change w { w with main := pc, handoff := w.handoff.stop }
  | mainLocked (failed : Option DatabaseCreate) (place : w.main = .lock failed)
      (lock : w.handoff.lock .main = some s) :
      Change w { w with main := .stop failed, handoff := s }
  | stopped (failed : Option DatabaseCreate) (place : w.main = .stop failed) :
      Change w { w with main := .broadcast failed, handoff := w.handoff.stop }
  | broadcast (failed : Option DatabaseCreate) (place : w.main = .broadcast failed) :
      Change w { w with main := .unlock failed, handoff := w.handoff.broadcast }
  | mainUnlocked (failed : Option DatabaseCreate) (place : w.main = .unlock failed)
      (unlock : w.handoff.unlock .main = some s) :
      Change w { w with main := .joinRequestReader failed, handoff := s }
  | woken (wake : w.handoff.wake = some s) : Change w { w with handoff := s }

variable {w w' : DatabaseThreads ρ} {told : Bool}

theorem requestReaderLoop_cases {step : RequestReaderThreadStep ρ}
    (h : w.requestReaderLoop step = some w') : Change w w' := by
  obtain ⟨s, writer, pc, main⟩ := w
  cases pc with
  | notCreated | stopped => cases step <;> cases h
  | test =>
    cases step with
    | next =>
      dsimp only [requestReaderLoop] at h
      split at h <;> cases h <;> exact .read _ (by simp) rfl rfl
    | popped request => cases h
  | pop =>
    cases step <;> cases h <;> exact .read _ (by simp) rfl rfl
  | lock request =>
    cases step with
    | next =>
      obtain ⟨s', hs, rfl⟩ := Option.map_eq_some_iff.mp h
      exact .locked rfl hs
    | popped request => cases h
  | push request =>
    cases step with
    | next =>
      cases h
      exact .pushed rfl
    | popped request => cases h
  | unlock =>
    cases step with
    | next =>
      obtain ⟨s', hs, rfl⟩ := Option.map_eq_some_iff.mp h
      exact .unlocked rfl hs
    | popped request => cases h
  | signal =>
    cases step with
    | next =>
      obtain ⟨s', hs, rfl⟩ := Option.map_eq_some_iff.mp h
      exact .signalled rfl hs
    | popped request => cases h

theorem runThreads_cases {step : DatabaseRunStep} (h : w.runThreads step = some w') :
    Change w w' := by
  obtain ⟨s, writer, pc, main⟩ := w
  cases main with
  | create thread =>
    cases thread with
    | requestReader =>
      cases step with
      | next =>
        cases h
        exact .createdRequestReader rfl
      | failed =>
        cases h
        exact .moved _ rfl rfl (by simp) (by simp [DatabaseRunPc.told])
      | sigint => cases h
    | responseWriter =>
      cases step with
      | next =>
        cases h
        exact .createdResponseWriter rfl
      | failed =>
        cases h
        exact .moved _ rfl rfl (by simp) (by simp [DatabaseRunPc.told])
      | sigint => cases h
  | abandon =>
    cases step with
    | next =>
      cases h
      exact .cleared _ rfl rfl (by simp) rfl
    | _ => cases h
  | test =>
    cases step with
    | next =>
      dsimp only [runThreads] at h
      split at h <;> cases h <;> exact .moved _ rfl rfl (by simp) (by simp [DatabaseRunPc.told])
    | _ => cases h
  | sigwait =>
    cases step <;> cases h <;> exact .moved _ rfl rfl (by simp) (by simp [DatabaseRunPc.told])
  | sigint =>
    cases step with
    | next =>
      cases h
      exact .cleared _ rfl rfl (by simp) rfl
    | _ => cases h
  | lock failed =>
    cases step with
    | next =>
      obtain ⟨s', hs, rfl⟩ := Option.map_eq_some_iff.mp h
      exact .mainLocked _ rfl hs
    | _ => cases h
  | stop failed =>
    cases step with
    | next =>
      cases h
      exact .stopped _ rfl
    | _ => cases h
  | broadcast failed =>
    cases step with
    | next =>
      cases h
      exact .broadcast _ rfl
    | _ => cases h
  | unlock failed =>
    cases step with
    | next =>
      obtain ⟨s', hs, rfl⟩ := Option.map_eq_some_iff.mp h
      exact .mainUnlocked _ rfl hs
    | _ => cases h
  | joinRequestReader failed =>
    cases step with
    | next =>
      dsimp only [runThreads] at h
      split at h <;> cases h <;> exact .moved _ rfl rfl (by simp) (by simp [DatabaseRunPc.told])
    | _ => cases h
  | joinResponseWriter =>
    cases step with
    | next =>
      dsimp only [runThreads] at h
      split at h <;> cases h
      exact .moved _ rfl rfl (by simp) (by simp [DatabaseRunPc.told])
    | _ => cases h
  | returned failed => cases step <;> cases h

theorem step_cases {a : DatabaseThreadsAction ρ} (h : w.step a = some w') : Change w w' := by
  cases a with
  | responseWriter =>
    obtain ⟨⟨s, pc⟩, hs, rfl⟩ := Option.map_eq_some_iff.mp h
    exact .consumed hs
  | requestReader step => exact requestReaderLoop_cases h
  | main step => exact runThreads_cases h
  | spuriousWakeup =>
    obtain ⟨s, hs, rfl⟩ := Option.map_eq_some_iff.mp h
    exact .woken hs

-- ---------------------------------------------------------------------------
-- The consumer stays awake
-- ---------------------------------------------------------------------------

/-- `Steady`, and where the main thread is while it creates and stops the others. -/
structure Consistent (w : DatabaseThreads ρ) (told : Bool) : Prop where
  steady : Steady w.handoff w.responseWriter w.holds w.requestReader.owes told
  responseWriter : ∀ thread, w.main = .create thread → w.responseWriter = .notCreated
  requestReader : w.main = .create .requestReader → w.requestReader = .notCreated
  stopped : ∀ failed, w.main = .broadcast failed → w.handoff.running = false

namespace Consistent

theorem initial : (initial ρ).Consistent false where
  steady := .initial fun t => by cases t <;> rfl
  responseWriter := fun _ _ => rfl
  requestReader := fun _ => rfl
  stopped := by simp [DatabaseThreads.initial]

theorem mono {told' : Bool} (v : w.Consistent told) (h : told' = true → told = true) :
    w.Consistent told' :=
  { v with steady := v.steady.mono h }

theorem consumed {s : Handoff ρ} {pc : ConsumerPc ρ} (v : w.Consistent told)
    (h : w.handoff.consume true w.responseWriter = some (s, pc)) :
    Consistent { w with handoff := s, responseWriter := pc } told where
  steady := (v.steady.consume h).congr fun t => by cases t <;> rfl
  responseWriter thread hmain := by
    rw [v.responseWriter thread hmain] at h
    cases h
  requestReader := v.requestReader
  stopped failed hmain := (Handoff.consume_running h).trans (v.stopped failed hmain)

theorem moved (v : w.Consistent told) {s : Handoff ρ} {pc : RequestReaderThreadPc ρ}
    (hpc : w.requestReader ≠ .notCreated)
    (hs : Steady s w.responseWriter (Function.update w.holds .producer pc.holds) pc.owes told)
    (hrunning : s.running = w.handoff.running) :
    Consistent { w with requestReader := pc, handoff := s } told where
  steady := hs.congr fun t => by cases t <;> rfl
  responseWriter := v.responseWriter
  requestReader hmain := absurd (v.requestReader hmain) hpc
  stopped failed hmain := hrunning.trans (v.stopped failed hmain)

theorem main {s : Handoff ρ} (pc : DatabaseRunPc) (hpc : ∀ thread, pc ≠ .create thread)
    (hs : Steady s w.responseWriter (Function.update w.holds .main pc.holds) w.requestReader.owes
      told)
    (hstopped : ∀ failed, pc = .broadcast failed → s.running = false) :
    Consistent { w with main := pc, handoff := s } told where
  steady := hs.congr fun t => by cases t <;> rfl
  responseWriter thread hmain := absurd hmain (hpc thread)
  requestReader hmain := absurd hmain (hpc _)
  stopped := hstopped

theorem step (v : w.Consistent told) (h : Change w w') : w'.Consistent told := by
  obtain ⟨s, writer, pc, main⟩ := w
  have hsteady := v.steady
  cases h with
  | consumed consume => exact v.consumed consume
  | read pc exists_ holds owes => exact v.moved exists_ (owes ▸ hsteady.stay holds) rfl
  | locked place lock =>
    obtain rfl : pc = _ := place
    exact v.moved (by simp) (hsteady.lock (by simp) lock) (Handoff.lock_running lock)
  | pushed place =>
    obtain rfl : pc = _ := place
    have howner := (hsteady.owned .producer).mp rfl
    exact v.moved (by simp) ((hsteady.push (by simp) howner _).stay rfl) rfl
  | unlocked place unlock =>
    obtain rfl : pc = _ := place
    exact v.moved (by simp) (hsteady.unlock (by simp) unlock) (Handoff.unlock_running unlock)
  | signalled place signal =>
    obtain rfl : pc = _ := place
    obtain rfl := hsteady.signal_eq_some.mp signal
    exact v.moved (by simp) ((hsteady.rouse false).stay rfl) rfl
  | createdRequestReader place =>
    obtain rfl : main = _ := place
    obtain rfl : pc = .notCreated := v.requestReader rfl
    exact ⟨hsteady.congr fun t => by cases t <;> rfl, fun _ _ => v.responseWriter _ rfl, by simp,
      by simp⟩
  | createdResponseWriter place =>
    obtain rfl : main = _ := place
    obtain rfl : writer = .notCreated := v.responseWriter _ rfl
    have hloop : Steady s .loop _ _ told :=
      hsteady.move (by simp) rfl (by simp) (by simp) (by simp) (by simp)
    exact ⟨hloop.congr fun t => by cases t <;> rfl, by simp, by simp, by simp⟩
  | moved pc holds holds' creates =>
    refine .main pc creates (hsteady.stay (holds'.trans holds.symm)) fun failed hpc => ?_
    rw [hpc] at holds'
    cases holds'
  | cleared pc holds holds' creates =>
    exact .main pc creates (hsteady.stop.stay (holds'.trans holds.symm)) fun _ _ => rfl
  | mainLocked failed place lock =>
    obtain rfl : main = _ := place
    exact .main (.stop failed) (by simp) (hsteady.lock (by simp) lock) (by simp)
  | stopped failed place =>
    obtain rfl : main = _ := place
    exact .main _ (by simp) (hsteady.stop.stay rfl) fun _ _ => rfl
  | broadcast failed place =>
    obtain rfl : main = _ := place
    exact .main _ (by simp) ((hsteady.rouse _).stay rfl) (by simp)
  | mainUnlocked failed place unlock =>
    obtain rfl : main = _ := place
    exact .main (.joinRequestReader failed) (by simp) (hsteady.unlock (by simp) unlock) (by simp)
  | woken wake =>
    exact ⟨hsteady.wake wake, v.responseWriter, v.requestReader,
      fun failed hmain => (Handoff.wake_running wake).trans (v.stopped failed hmain)⟩

theorem broadcast {failed : Option DatabaseCreate} (v : w.Consistent told)
    (hmain : w.main = .broadcast failed) :
    Consistent { w with main := .unlock failed, handoff := w.handoff.broadcast } true := by
  obtain ⟨s, writer, pc, main⟩ := w
  obtain rfl : main = .broadcast failed := hmain
  have htold := v.steady.tell (t := .main) (by simp) ((v.steady.owned .main).mp rfl)
    (v.stopped failed rfl)
  exact .main _ (by simp) (htold.stay rfl) (by simp)

end Consistent

/-- The main thread comes past its broadcast only through it. -/
theorem Change.told_before (h : Change w w') (htold : w'.main.told = true) :
    w.main.told = true ∨ ∃ failed, w.main = .broadcast failed ∧
      w' = { w with main := .unlock failed, handoff := w.handoff.broadcast } := by
  cases h with
  | moved pc _ _ _ told => exact .inl (told htold)
  | cleared pc _ _ _ told => exact absurd (told.symm.trans htold) (by simp)
  | broadcast failed place => exact .inr ⟨failed, place, rfl⟩
  | mainUnlocked failed place =>
    cases failed with
    | none => exact .inl (by rw [place]; rfl)
    | some thread => cases htold
  | createdRequestReader | createdResponseWriter | mainLocked | stopped => cases htold
  | _ => exact .inl htold

theorem Consistent.step_told (v : w.Consistent w.main.told) (h : Change w w') :
    w'.Consistent w'.main.told := by
  cases htold : w'.main.told with
  | false => exact (v.step h).mono nofun
  | true =>
    rcases h.told_before htold with hbefore | ⟨failed, hmain, rfl⟩
    · exact (v.step h).mono fun _ => hbefore
    · exact v.broadcast hmain

theorem reached_consistent {actions : List (DatabaseThreadsAction ρ)}
    (hr : run step (.initial ρ) actions = some w) : w.Consistent w.main.told :=
  Runs.invariant (I := fun w => w.Consistent w.main.told)
    (fun _ _ _ v h => v.step_told (step_cases h)) .initial hr

end DatabaseThreads

end ParkingSystem
