import ParkingSystem.Lib.Simulation
import ParkingSystem.System

/-!
# The tcp thread among the others

`State.tcpThread` is the tcp thread with nothing of the other threads but what they do to the
variables that they share with it: `run` clears `running_`, `response_reader_loop` takes
entries out of `pending_requests_`, and `request_writer_loop` takes the first request out of
`request_queue_`. `tcp_thread_projected`: in the system they do no more.
-/

namespace ParkingSystem

open Runs (run trace)

inductive TcpThreadAction where
  | own (a : TcpServerAction)
  | stop
  | answered (requestId : UInt64)
  | taken
  deriving DecidableEq

inductive TcpThreadEvent where
  /-- The thread clears `running_` itself. -/
  | failed
  | stopped
  | recorded (requestId : UInt64) (socket : Nat)
  | answered (requestId : UInt64)
  | queued (request : TcpToDatabaseMessage)
  | taken (request : TcpToDatabaseMessage)
  deriving DecidableEq

namespace State

variable (s : State)

def tcpThread : TcpThreadAction → Option State
  | .own a => s.tcpServerLoop a
  | .stop => some { s with tcpRunning := false }
  | .answered requestId => some { s with pending := s.pending.erase requestId }
  | .taken =>
    match s.tcpQueue with
    | [] => none
    | _ :: rest => some { s with tcpQueue := rest }

-- ---------------------------------------------------------------------------
-- Events
-- ---------------------------------------------------------------------------

def tcpServerEvents (a : TcpServerAction) : List TcpThreadEvent :=
  match a, s.tcpServer with
  | .selectFailed, _ => [.failed]
  | .record, .received e => [.recorded e.id e.socket]
  | .enqueue, .recorded e => [.queued e.request]
  | _, _ => []

def takenEvents : List TcpThreadEvent := s.tcpQueue.head?.toList.map fun e => .taken e.request

def tcpThreadEvents : TcpThreadAction → List TcpThreadEvent
  | .own a => s.tcpServerEvents a
  | .stop => [.stopped]
  | .answered requestId => [.answered requestId]
  | .taken => s.takenEvents

/-- What a step of the system does to the variables that the tcp thread shares. -/
def tcpEvents : Action → List TcpThreadEvent
  | .tcpServer a => s.tcpServerEvents a
  | .requestWriter .lock => s.takenEvents
  | .responseReader .lookup =>
    match s.responseReader with
    | .holding r =>
      if (s.pending.lookup r.response.requestId).isSome then [.answered r.response.requestId]
      else []
    | _ => []
  | .tcpMain .sigint => [.stopped]
  | _ => []

-- ---------------------------------------------------------------------------
-- Projection
-- ---------------------------------------------------------------------------

/-- The variables of the thread, those that it shares included, and the rest as at the start. -/
def tcpPart : State :=
  { State.initial .initial with
    tcpRunning := s.tcpRunning
    tcpServer := s.tcpServer
    tcpQueue := s.tcpQueue
    clients := s.clients
    pending := s.pending
    sockets := s.sockets
    nextConn := s.nextConn
    received := s.received
    accepted := s.accepted }

variable {s} {s' : State} {a : TcpServerAction}

theorem takenEvents_of_empty (h : s.tcpQueue = []) : s.tcpEvents (.requestWriter .lock) = [] := by
  rw [tcpEvents, takenEvents, h]
  rfl

theorem Transition.taken (h : Transition s (.tcpServer a) s') :
    s.tcpThread (.own a) = some s' := by
  cases h <;> simp [tcpThread, tcpServerLoop, *]

theorem Transition.tcpPart (h : Transition s (.tcpServer a) s') :
    s.tcpPart.tcpServerLoop a = some s'.tcpPart := by
  cases h with
  | tcpExit pc running =>
    simp only [tcpServerLoop, State.tcpPart, pc, running]
    rfl
  | _ => simp [tcpServerLoop, State.tcpPart, *]

theorem Transition.matched {a : Action} (h : Transition s a s') :
    Runs.Matched tcpThread tcpThreadEvents s.tcpPart s'.tcpPart (s.tcpEvents a) := by
  cases a with
  | tcpServer a => exact .step (TcpThreadAction.own a) h.tcpPart
  | requestWriter a =>
    cases h with
    | writerWait pc empty running =>
      exact takenEvents_of_empty empty ▸ .stutter rfl
    | writerExit pc empty running =>
      exact takenEvents_of_empty empty ▸ .stutter rfl
    | writerTake e rest pc queue =>
      have htaken : s.tcpPart.tcpThread .taken = some { s.tcpPart with tcpQueue := rest } := by
        simp [tcpThread, State.tcpPart, queue]
      have hmatched : Runs.Matched tcpThread tcpThreadEvents s.tcpPart
          { s.tcpPart with tcpQueue := rest } s.tcpPart.takenEvents :=
        .step TcpThreadAction.taken htaken
      exact hmatched
    | _ => exact .stutter rfl
  | responseReader a =>
    cases h with
    | lookupFailed r pc missing =>
      have hevents : s.tcpEvents (.responseReader .lookup) = [] := by simp [tcpEvents, pc, missing]
      exact hevents ▸ .stutter rfl
    | lookup r socket pc found =>
      have hevents : s.tcpEvents (.responseReader .lookup) = [.answered r.response.requestId] := by
        simp [tcpEvents, pc, found]
      exact hevents ▸ .step (TcpThreadAction.answered r.response.requestId) rfl
    | _ => exact .stutter rfl
  | tcpMain a =>
    cases h with
    | tcpSigint pc => exact .step TcpThreadAction.stop rfl
    | _ => exact .stutter rfl
  | requestReader a => cases h <;> exact .stutter rfl
  | responseWriter a => cases h <;> exact .stutter rfl
  | databaseMain a => cases h <;> exact .stutter rfl
  | priceUpdater call =>
    cases h
    exact .stutter rfl

theorem tcpPart_refines : Runs.Refines step tcpEvents tcpThread tcpThreadEvents tcpPart :=
  fun _ _ _ hs => (step_cases hs).matched

/-- Whatever the threads of both processes do in whatever order, what becomes of the tcp thread
and of the variables that it shares could come of `tcpThread` alone, at every point of the run
and with the same accesses in the same order. -/
theorem tcp_thread_projected (store : Store) {actions : List Action}
    (hr : run step (.initial store) actions = some s) :
    ∃ taken, run tcpThread (.initial .initial) taken = some s.tcpPart ∧
      trace tcpThread tcpThreadEvents (.initial .initial) taken =
        trace step tcpEvents (.initial store) actions ∧
      ∀ before after m, actions = before ++ after → run step (.initial store) before = some m →
        ∃ first rest, taken = first ++ rest ∧
          run tcpThread (.initial .initial) first = some m.tcpPart ∧
          trace tcpThread tcpThreadEvents (.initial .initial) first =
            trace step tcpEvents (.initial store) before :=
  tcpPart_refines.run hr

end State

end ParkingSystem
