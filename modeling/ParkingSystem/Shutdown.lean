import ParkingSystem.Pipeline

/-!
# Shutting Database and TcpServer down

`run` of Database joins the request reader before the response writer, but
nothing makes the response writer wait for the reader: its outer test of
`running_` lets it leave a queue that is not empty, and the reader may hand over
one more request after it left. `drained_iff` says that these are the only ways
in which a request that was taken from the shared queue stays unprocessed.

In TcpServer the request writer leaves only an empty queue. The tcp thread may
still be receiving then: `forwarded_iff` says that a request it queues after the
request writer has left is the only one that stays behind.
-/

namespace ParkingSystem

open Runs (run Along)

namespace State

/-- Every request that Database took was processed and its response offered. -/
structure Drained (s : State) : Prop where
  queue : s.dbQueue = []
  processed : ∀ e ∈ s.taken, e ∈ s.given ∧ ∃ r ∈ s.produced, r.origin = e ∧
    (r ∈ s.toTcp ∨ r ∈ s.popped ∨ r ∈ s.refused.map Prod.fst)

/-- The response writer leaves only an empty queue with no request on its way
there, and once it has left the reader finds nothing to pop. -/
def Drains (s : State) : Action → Prop
  | .responseWriter .test =>
    s.dbRunning = false → s.dbQueue = [] ∧ s.requestReader.held = []
  | .responseWriter .lock =>
    s.dbRunning = false → s.dbQueue = [] → s.requestReader.held = []
  | .requestReader (.pop acquired) =>
    s.responseWriter = .stopped → acquired = true → s.toDatabase = []
  | _ => True

instance (s : State) (a : Action) : Decidable (s.Drains a) := by
  unfold Drains
  split <;> infer_instance

variable {s s' t : State} {a : Action}

-- ---------------------------------------------------------------------------
-- Joins
-- ---------------------------------------------------------------------------

structure Joined (s : State) : Prop where
  reader : s.dbMain = .joinResponseWriter ∨ s.dbMain = .returned → s.requestReader = .stopped
  writer : s.dbMain = .returned → s.responseWriter = .stopped

theorem Joined.step (j : s.Joined) (h : Transition s a s') : s'.Joined := by
  obtain ⟨hr, hw⟩ := j
  cases h with
  | readerTest pc | readerExit pc | readerSignal pc | readerPop _ _ pc | readerNothing _ pc
  | readerEnqueue _ pc =>
    exact ⟨fun hm => absurd (pc.symm.trans (hr hm)) (by simp), hw⟩
  | responderTest pc | responderLeave pc | responderWait pc | responderExit pc
  | responderWake pc | responderTake _ _ pc | process _ _ _ pc | respond _ pc
  | respondRefused _ _ pc =>
    exact ⟨hr, fun hm => absurd (pc.symm.trans (hw hm)) (by simp)⟩
  | databaseSigint pc | databaseSigwaitFailed pc | databaseStop pc =>
    exact ⟨by simp, by simp⟩
  | databaseJoinReader pc stopped => exact ⟨fun _ => stopped, by simp⟩
  | databaseJoinWriter pc stopped => exact ⟨fun _ => hr (.inl pc), fun _ => stopped⟩
  | _ => exact ⟨hr, hw⟩

-- ---------------------------------------------------------------------------
-- With and without a request left behind
-- ---------------------------------------------------------------------------

/-- A request that no thread will process any more. -/
def Stranded (s : State) : Prop :=
  s.responseWriter = .stopped ∧ (s.dbQueue ≠ [] ∨ s.requestReader.held ≠ [])

theorem Stranded.step (hs : s.Stranded) (h : Transition s a s') : s'.Stranded := by
  obtain ⟨hw, hleft⟩ := hs
  cases h with
  | responderTest pc | responderLeave pc | responderWait pc | responderExit pc
  | responderWake pc | responderTake _ _ pc | process _ _ _ pc | respond _ pc
  | respondRefused _ _ pc =>
    rw [pc] at hw
    cases hw
  | readerTest pc | readerExit pc | readerSignal pc | readerNothing _ pc =>
    refine ⟨hw, .inl (hleft.resolve_right ?_)⟩
    simp [pc, RequestReaderPc.held]
  | readerPop e rest pc queue => exact ⟨hw, .inr (by simp [RequestReaderPc.held])⟩
  | readerEnqueue e pc => exact ⟨hw, .inl (by simp)⟩
  | _ => exact ⟨hw, hleft⟩

theorem stranded_of_not_drains (hc : ¬ s.Drains a) (h : Transition s a s') : s'.Stranded := by
  cases h with
  | responderLeave pc running =>
    refine ⟨rfl, ?_⟩
    by_contra hnone
    simp only [not_or, not_not] at hnone
    exact hc fun _ => hnone
  | responderExit pc empty running =>
    refine ⟨rfl, .inr fun hheld => hc fun _ _ => hheld⟩
  | responderTest pc running | responderWait pc empty running =>
    exact absurd (fun hstop => absurd (running.symm.trans hstop) (by simp)) hc
  | responderTake e rest pc queue =>
    exact absurd (fun _ hempty => absurd (queue.symm.trans hempty) (by simp)) hc
  | readerPop e rest pc queue =>
    refine ⟨?_, .inr (by simp [RequestReaderPc.held])⟩
    by_contra hw
    exact hc fun hstopped => absurd hstopped hw
  | readerNothing acquired pc empty => exact absurd (fun _ hacq => empty hacq) hc
  | _ => exact absurd trivial hc

def Swept (s : State) : Prop :=
  s.responseWriter = .stopped → s.dbQueue = [] ∧ s.requestReader.held = []

theorem Swept.step (hs : s.Swept) (hc : s.Drains a) (h : Transition s a s') : s'.Swept := by
  cases h with
  | responderLeave pc running => exact fun _ => hc running
  | responderExit pc empty running => exact fun _ => ⟨empty, hc running empty⟩
  | responderTest | responderWait | responderWake | responderTake | process | respond
  | respondRefused => exact fun hw => by cases hw
  | readerTest pc | readerExit pc | readerSignal pc | readerNothing _ pc =>
    exact fun hw => ⟨(hs hw).1, rfl⟩
  | readerPop e rest pc queue =>
    exact fun hw => absurd (queue.symm.trans (hc hw rfl)) (by simp)
  | readerEnqueue e pc =>
    intro hw
    have hheld := (hs hw).2
    simp [pc, RequestReaderPc.held] at hheld
  | _ => exact hs

theorem drained_of_empty (b : s.Books) (f : s.responseFlow.Accounted)
    (hw : s.responseWriter = .stopped) (hq : s.dbQueue = []) (hh : s.requestReader.held = []) :
    s.Drained := by
  refine ⟨hq, fun e he => ?_⟩
  have hgiven : e ∈ s.given := by simpa [b.taken, hq, hh] using he
  obtain ⟨r, hr, rfl⟩ : ∃ r ∈ s.produced, r.origin = e := by
    simpa [b.given, hw, ResponseWriterPc.held] using hgiven
  refine ⟨hgiven, r, hr, rfl, ?_⟩
  rcases f.mem hr with h | h | h
  · exact .inr (.inl h)
  · simp only [responseFlow, responseLine, hw, ResponseWriterPc.reply, List.append_nil] at h
    exact .inl h
  · exact .inr (.inr h)

end State

-- ---------------------------------------------------------------------------
-- Runs
-- ---------------------------------------------------------------------------

/-- When `run` has returned, Database is drained exactly if the response writer
left nothing behind and was given nothing more. -/
theorem drained_iff (store : Store) (actions : List Action) (t : State)
    (hr : run State.step (State.initial store) actions = some t)
    (hreturned : t.dbMain = .returned) :
    t.Drained ↔ Along State.step State.Drains (State.initial store) actions := by
  have hjoined : t.Joined := Runs.invariant (fun _ _ _ j h => j.step (State.step_cases h))
    ⟨by simp [State.initial], by simp [State.initial]⟩ hr
  constructor
  · intro hd
    by_contra hc
    have hs : t.Stranded := Runs.invariant_of_not_along
      (fun _ _ _ hs h => hs.step (State.step_cases h))
      (fun _ _ _ hc h => State.stranded_of_not_drains hc (State.step_cases h)) hr hc
    rcases hs.2 with hq | hh
    · exact hq hd.queue
    · exact hh (by simp [hjoined.reader (.inr hreturned), RequestReaderPc.held])
  · intro hc
    have hs : t.Swept := Runs.invariant_along (fun _ _ _ hs hc h => hs.step hc (State.step_cases h))
      (by simp [State.Swept, State.initial]) hr hc
    obtain ⟨hq, hh⟩ := hs (hjoined.writer hreturned)
    exact State.drained_of_empty (State.reached_books hr) (State.reached_responseFlow hr).2
      (hjoined.writer hreturned) hq hh

def interrupt : List Action :=
  [.databaseMain .sigint, .databaseMain .stop, .responseWriter .test, .requestReader .test,
   .databaseMain .join, .databaseMain .join]

def drainedActions : List Action := servedActions ++ interrupt

def drained : State :=
  (run State.step (State.initial Store.initial) drainedActions).get (by decide +kernel)

theorem drained_iff_drained : drained.Drained :=
  (drained_iff Store.initial drainedActions drained (Option.some_get _).symm
    (by decide +kernel)).mpr (by decide +kernel)

/-- SIGINT arrives after the reader has handed over a request and before the
response writer has looked. -/
def strandedActions : List Action :=
  .tcpServer .test :: connect 4 ++ submit 4 (startRequest 1) ++ fetch ++ interrupt

theorem not_always_drained :
    ¬ ∀ (store : Store) (actions : List Action) (t : State),
      run State.step (State.initial store) actions = some t → t.dbMain = .returned →
      t.dbQueue = [] := by
  intro h
  have hleft : (run State.step (State.initial Store.initial) strandedActions).any (fun t =>
      t.dbMain = .returned ∧ t.dbQueue ≠ []) = true := by decide +kernel
  obtain ⟨t, hr, ht⟩ := (Option.any_eq_true _ _).mp hleft
  obtain ⟨hreturned, hqueue⟩ := of_decide_eq_true ht
  exact hqueue (h Store.initial strandedActions t hr hreturned)

-- ---------------------------------------------------------------------------
-- TcpServer
-- ---------------------------------------------------------------------------

namespace State

/-- Every request that was accepted was offered to Database. -/
structure Forwarded (s : State) : Prop where
  queue : s.tcpQueue = []
  offered : ∀ e ∈ s.accepted, e ∈ s.toDatabase ∨ e ∈ s.taken ∨ e ∈ s.discarded.map Prod.fst

/-- A request is queued while the request writer is still there to take it. -/
def Forwards (s : State) : Action → Prop
  | .tcpServer .enqueue => s.requestWriter ≠ .stopped
  | _ => True

instance (s : State) (a : Action) : Decidable (s.Forwards a) := by
  unfold Forwards
  split <;> infer_instance

variable {s s' t : State} {a : Action}

structure TcpJoined (s : State) : Prop where
  tcpServer : s.tcpMain ≠ .sigwait → s.tcpMain ≠ .joinTcpServer → s.tcpServer = .stopped
  requestWriter : s.tcpMain = .joinResponseReader ∨ s.tcpMain = .returned →
    s.requestWriter = .stopped

theorem TcpJoined.initial (store : Store) : (State.initial store).TcpJoined :=
  ⟨by simp [State.initial], by simp [State.initial]⟩

theorem TcpJoined.step (j : s.TcpJoined) (h : Transition s a s') : s'.TcpJoined := by
  obtain ⟨ht, hw⟩ := j
  cases h with
  | tcpTest pc | selectFailed pc | accept _ pc | acceptTooLarge _ pc | addClient _ _ pc
  | addClientFailed _ _ pc | receive _ _ _ _ pc | record _ pc | enqueue _ pc | disconnect _ pc
  | removeClient _ pc | close _ pc | scanned pc =>
    exact ⟨fun h₁ h₂ => absurd (pc.symm.trans (ht h₁ h₂)) (by simp), hw⟩
  | tcpExit => exact ⟨fun _ _ => rfl, hw⟩
  | writerWait pc | writerExit pc | writerTake _ _ pc | writerWake pc | writerPush _ pc
  | writerDiscard _ _ pc =>
    exact ⟨ht, fun hm => absurd (pc.symm.trans (hw hm)) (by simp)⟩
  | tcpSigint pc => exact ⟨by simp, by simp⟩
  | tcpJoinTcpServer pc stopped => exact ⟨fun _ _ => stopped, by simp⟩
  | tcpJoinRequestWriter pc stopped =>
    exact ⟨fun _ _ => ht (by simp [pc]) (by simp [pc]), fun _ => stopped⟩
  | tcpJoinResponseReader pc =>
    exact ⟨fun _ _ => ht (by simp [pc]) (by simp [pc]), fun _ => hw (.inl pc)⟩
  | _ => exact ⟨ht, hw⟩

def Unforwarded (s : State) : Prop :=
  s.requestWriter = .stopped ∧ s.tcpQueue ≠ []

theorem Unforwarded.step (hs : s.Unforwarded) (h : Transition s a s') : s'.Unforwarded := by
  obtain ⟨hw, hleft⟩ := hs
  cases h with
  | writerWait pc | writerExit pc | writerTake _ _ pc | writerWake pc | writerPush _ pc
  | writerDiscard _ _ pc =>
    rw [pc] at hw
    cases hw
  | enqueue e pc => exact ⟨hw, by simp⟩
  | _ => exact ⟨hw, hleft⟩

theorem unforwarded_of_not_forwards (hc : ¬ s.Forwards a) (h : Transition s a s') :
    s'.Unforwarded := by
  cases h with
  | enqueue e pc => exact ⟨not_not.mp hc, by simp⟩
  | _ => exact absurd trivial hc

def Emptied (s : State) : Prop := s.requestWriter = .stopped → s.tcpQueue = []

theorem Emptied.step (hs : s.Emptied) (hc : s.Forwards a) (h : Transition s a s') :
    s'.Emptied := by
  cases h with
  | writerExit pc empty running => exact fun _ => empty
  | writerWait | writerTake | writerWake | writerPush | writerDiscard =>
    exact fun hw => by cases hw
  | enqueue e pc => exact fun hw => absurd hw hc
  | _ => exact hs

theorem forwarded_of_empty (b : s.Books) (f : s.requestFlow.Accounted)
    (hw : s.requestWriter = .stopped) (hq : s.tcpQueue = []) : s.Forwarded := by
  refine ⟨hq, fun e he => ?_⟩
  rcases f.mem he with h | h | h
  · right; left
    rw [b.taken]
    simp only [requestFlow] at h
    simp [h]
  · simp only [requestFlow, requestLine, hw, hq, RequestWriterPc.held, List.append_nil,
      List.mem_append] at h
    rcases h with (h | h) | h
    · exact .inr (.inl (by simp [b.taken, h]))
    · exact .inr (.inl (by simp [b.taken, h]))
    · exact .inl h
  · exact .inr (.inr h)

end State

/-- When `run` of TcpServer has returned, every accepted request was offered to
Database exactly if none was queued after the request writer had left. -/
theorem forwarded_iff (store : Store) (actions : List Action) (t : State)
    (hr : run State.step (State.initial store) actions = some t)
    (hreturned : t.tcpMain = .returned) :
    t.Forwarded ↔ Along State.step State.Forwards (State.initial store) actions := by
  have hjoined : t.TcpJoined := Runs.invariant (fun _ _ _ j h => j.step (State.step_cases h))
    (.initial store) hr
  constructor
  · intro hf
    by_contra hc
    have hs : t.Unforwarded := Runs.invariant_of_not_along
      (fun _ _ _ hs h => hs.step (State.step_cases h))
      (fun _ _ _ hc h => State.unforwarded_of_not_forwards hc (State.step_cases h)) hr hc
    exact hs.2 hf.queue
  · intro hc
    have hw := hjoined.requestWriter (.inr hreturned)
    have hs : t.Emptied := Runs.invariant_along
      (fun _ _ _ hs hc h => hs.step hc (State.step_cases h)) (by simp [State.Emptied, State.initial])
      hr hc
    exact State.forwarded_of_empty (State.reached_books hr) (State.reached_requestFlow hr).2 hw
      (hs hw)

def interruptTcpServer : List Action :=
  [.tcpMain .sigint, .tcpServer .scanned, .tcpServer .test, .requestWriter .wake,
   .requestWriter .lock, .responseReader .test, .tcpMain .join, .tcpMain .join, .tcpMain .join]

def forwardedActions : List Action :=
  .tcpServer .test :: connect 4 ++ submit 4 (startRequest 1) ++ .requestWriter .lock ::
    interruptTcpServer

def forwarded : State :=
  (run State.step (State.initial Store.initial) forwardedActions).get (by decide +kernel)

theorem forwarded_iff_forwarded : forwarded.Forwarded :=
  (forwarded_iff Store.initial forwardedActions forwarded (Option.some_get _).symm
    (by decide +kernel)).mpr (by decide +kernel)

/-- SIGINT arrives while the tcp thread is inside `receive_client_request`: the
request writer finds nothing and leaves, then the request is queued. -/
def lateRequestActions : List Action :=
  .tcpServer .test :: connect 4 ++
    [.tcpServer (.receive 4 (startRequest 1)), .tcpServer .record, .tcpMain .sigint,
     .requestWriter .lock, .tcpServer .enqueue, .tcpServer .scanned, .tcpServer .test,
     .responseReader .test, .tcpMain .join, .tcpMain .join, .tcpMain .join]

theorem not_always_forwarded :
    ¬ ∀ (store : Store) (actions : List Action) (t : State),
      run State.step (State.initial store) actions = some t → t.tcpMain = .returned →
      t.tcpQueue = [] := by
  intro h
  have hleft : (run State.step (State.initial Store.initial) lateRequestActions).any (fun t =>
      t.tcpMain = .returned ∧ t.tcpQueue ≠ []) = true := by decide +kernel
  obtain ⟨t, hr, ht⟩ := (Option.any_eq_true _ _).mp hleft
  obtain ⟨hreturned, hqueue⟩ := of_decide_eq_true ht
  exact hqueue (h Store.initial lateRequestActions t hr hreturned)

end ParkingSystem
