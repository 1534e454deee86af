import ParkingSystem.Lib.Simulation
import ParkingSystem.Pipeline

/-!
# What the two processes are for

`Service` is one sequential server: requests wait in the order of their receipt, the
oldest is served in one step, and the replies go out in the order of service. Requests
and replies may get lost on the way, and PriceUpdater may change the cities in between.
TcpServer and Database with their five threads, three queues and two tables of clients
refine it.
-/

namespace ParkingSystem

open Runs (run trace)

/-- What a client or PriceUpdater can see. -/
inductive ServiceEvent where
  | received (e : Envelope)
  | citiesChanged (call : StoreCall)
  | delivered (r : Reply)

-- ---------------------------------------------------------------------------
-- The sequential server
-- ---------------------------------------------------------------------------

structure Service where
  store : Store
  /-- Received and not served, the oldest first. -/
  waiting : List Envelope
  /-- Served and not delivered, the oldest first. -/
  answered : List Reply

inductive ServiceAction where
  | receive (e : Envelope)
  | loseRequest (index : Nat)
  | serve (db : Sqlite)
  | changeCities (call : StoreCall)
  | loseReply (index : Nat)
  | deliver

namespace Service

def initial (store : Store) : Service := ⟨store, [], []⟩

def reply (db : Sqlite) (store : Store) (e : Envelope) : Store × Reply :=
  let (store', response) := processDatabaseRequest db store e.request
  (store', ⟨e, response, committed db store e.request⟩)

def step (s : Service) : ServiceAction → Option Service
  | .receive e => some { s with waiting := s.waiting ++ [e] }
  | .loseRequest index => some { s with waiting := s.waiting.eraseIdx index }
  | .serve db =>
    match s.waiting with
    | [] => none
    | e :: rest =>
      let (store, r) := reply db s.store e
      some ⟨store, rest, s.answered ++ [r]⟩
  | .changeCities call =>
    if call.op.onCities then (s.store.step call).map fun store => { s with store := store }
    else none
  | .loseReply index => some { s with answered := s.answered.eraseIdx index }
  | .deliver =>
    match s.answered with
    | [] => none
    | _ :: rest => some { s with answered := rest }

def shows (s : Service) : ServiceAction → List ServiceEvent
  | .receive e => [.received e]
  | .changeCities call => [.citiesChanged call]
  | .deliver => s.answered.head?.toList.map .delivered
  | _ => []

end Service

-- ---------------------------------------------------------------------------
-- One operation after the other
-- ---------------------------------------------------------------------------

inductive Operation where
  | serve (db : Sqlite) (e : Envelope)
  | changeCities (call : StoreCall)

@[simp] def Operation.request : Operation → Option Envelope
  | .serve _ e => some e
  | .changeCities _ => none

@[simp] def Operation.change : Operation → Option StoreCall
  | .serve .. => none
  | .changeCities call => some call

@[simp] def ServiceEvent.request : ServiceEvent → Option Envelope
  | .received e => some e
  | _ => none

@[simp] def ServiceEvent.change : ServiceEvent → Option StoreCall
  | .citiesChanged call => some call
  | _ => none

@[simp] def ServiceEvent.reply : ServiceEvent → Option Reply
  | .delivered r => some r
  | _ => none

namespace Service

variable {s s' : Service} {a : ServiceAction} {store : Store} {events : List ServiceEvent}
  {ops : List Operation}

end Service

-- ---------------------------------------------------------------------------
-- The system as a service
-- ---------------------------------------------------------------------------

namespace State

/-- A response counts as delivered when its last byte is written. -/
def shows (s : State) : Action → List ServiceEvent
  | .tcpServer (.receive socket request) =>
    match s.sockets socket with
    | some conn => [.received ⟨request, socket, conn, s.received.length⟩]
    | none => []
  | .responseReader (.send bytes) =>
    match s.responseReader with
    | .sending r _ sent =>
      if sent + bytes = sizeofDatabaseToTcpMessage then [.delivered r] else []
    | _ => []
  | .priceUpdater call => [.citiesChanged call]
  | _ => []

variable {s s' : State} {a : Action}

end State

end ParkingSystem
