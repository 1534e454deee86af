import Mathlib.Data.List.AList
import ParkingSystem.RequestProcessing
import ParkingSystem.SharedQueue
import ParkingSystem.StoreInvariant

/-!
# TcpServer and Database as one system

The worker threads and the main threads of both processes, the two shared
queues between them, and PriceUpdater's changes to the cities. A step is one
thread's move between two points where another thread can see the difference:
a test of `running_`, a critical section, one call on a shared queue or a
socket. An action names the thread and what its environment answers.

The shared queues are the bounded queues that `SharedQueue` refines, with
messages in place of their bytes (`sharedPush_refined`, `sharedPop_refined`).
`pthread_*` calls and `sem_post` succeed; `sem_wait` may fail, and so may
`select`, `recv` and `send`. A wait on a condition variable may return at any
time. The tcp thread closes its clients in one step when it stops.

Requests and responses carry where they come from (`Envelope`, `Reply`), and
the state keeps a record of what happened. No step reads either.
-/

namespace ParkingSystem

/-- A request with the descriptor it was read from, the connection behind that
descriptor, and its number in the order of receipt. -/
structure Envelope where
  request : TcpToDatabaseMessage
  socket : Nat
  conn : Nat
  seq : Nat
  deriving DecidableEq

/-- A response with the request it was computed for. -/
structure Reply where
  origin : Envelope
  response : DatabaseToTcpMessage
  /-- The request inserted or closed a session row. -/
  committed : Bool
  deriving DecidableEq

/-- Bytes of a response that one `send` wrote, and to which connection. -/
structure Chunk where
  reply : Reply
  socket : Nat
  conn : Nat
  bytes : Nat
  deriving DecidableEq

def Envelope.id (e : Envelope) : UInt64 := e.request.requestId

def fdSetSize : Nat := 1024

-- ---------------------------------------------------------------------------
-- Where each thread stands
-- ---------------------------------------------------------------------------

inductive TcpServerPc where
  | test
  | scanning
  | registering (socket conn : Nat)
  | received (e : Envelope)
  | recorded (e : Envelope)
  | disconnecting (socket : Nat)
  | closing (socket : Nat)
  | stopped
  deriving DecidableEq

inductive RequestWriterPc where
  | lock
  | waiting
  | holding (e : Envelope)
  | stopped
  deriving DecidableEq

inductive ResponseReaderPc where
  | test
  | popping
  | holding (r : Reply)
  | sending (r : Reply) (socket sent : Nat)
  | stopped
  deriving DecidableEq

inductive RequestReaderPc where
  | test
  | popping
  | holding (e : Envelope)
  | signalling
  | stopped
  deriving DecidableEq

inductive ResponseWriterPc where
  | test
  | lock
  | waiting
  | processing (e : Envelope)
  | responding (r : Reply)
  | stopped
  deriving DecidableEq

inductive TcpMainPc where
  | sigwait
  | joinTcpServer
  | joinRequestWriter
  | joinResponseReader
  | returned
  deriving DecidableEq

inductive DatabaseMainPc where
  | sigwait
  | stopping
  | joinRequestReader
  | joinResponseWriter
  | returned
  deriving DecidableEq

structure State where
  -- TcpServer
  tcpRunning : Bool
  tcpMain : TcpMainPc
  tcpServer : TcpServerPc
  requestWriter : RequestWriterPc
  responseReader : ResponseReaderPc
  /-- `TcpServer::request_queue_`. -/
  tcpQueue : List Envelope
  /-- `clients_`, with the connection that was registered. -/
  clients : AList fun _ : Nat => Nat
  /-- `pending_requests_`. -/
  pending : AList fun _ : UInt64 => Nat
  -- The operating system
  /-- The connection behind each open client descriptor. -/
  sockets : Nat → Option Nat
  toDatabase : List Envelope
  toTcp : List Reply
  -- Database
  dbRunning : Bool
  dbMain : DatabaseMainPc
  requestReader : RequestReaderPc
  responseWriter : ResponseWriterPc
  /-- `Database::request_queue_`. -/
  dbQueue : List Envelope
  store : Store
  -- What happened so far
  nextConn : Nat
  /-- Read completely from a client. -/
  received : List Envelope
  /-- Pushed into TcpServer's queue by `receive_client_request`. -/
  accepted : List Envelope
  /-- Not stored by the shared queue, which held that many records. -/
  discarded : List (Envelope × Nat)
  /-- Popped from the shared queue by Database. -/
  taken : List Envelope
  /-- Taken from Database's queue for `process_database_request`. -/
  given : List Envelope
  /-- Answered by `process_database_request`. -/
  produced : List Reply
  /-- Not stored by the shared queue, which held that many records. -/
  refused : List (Reply × Nat)
  /-- Popped from the shared queue by TcpServer. -/
  popped : List Reply
  /-- Written by `send`. -/
  sent : List Chunk
  /-- Written completely. -/
  delivered : List Reply

/-- Both processes after their threads were created, with empty queues. -/
def State.initial (store : Store) : State where
  tcpRunning := true
  tcpMain := .sigwait
  tcpServer := .test
  requestWriter := .lock
  responseReader := .test
  tcpQueue := []
  clients := ∅
  pending := ∅
  sockets := fun _ => none
  toDatabase := []
  toTcp := []
  dbRunning := true
  dbMain := .sigwait
  requestReader := .test
  responseWriter := .test
  dbQueue := []
  store := store
  nextConn := 0
  received := []
  accepted := []
  discarded := []
  taken := []
  given := []
  produced := []
  refused := []
  popped := []
  sent := []
  delivered := []

-- ---------------------------------------------------------------------------
-- Actions
-- ---------------------------------------------------------------------------

inductive TcpServerAction where
  | test
  | selectFailed
  | accept (socket : Nat)
  | addClient
  | receive (socket : Nat) (request : TcpToDatabaseMessage)
  | record
  | enqueue
  | disconnect (socket : Nat)
  | removeClient
  | close
  | scanned
  deriving DecidableEq

/-- `acquired` says whether `sem_wait` succeeds. -/
inductive RequestWriterAction where
  | lock
  | wake
  | push (acquired : Bool)
  deriving DecidableEq

inductive ResponseReaderAction where
  | test
  | pop (acquired : Bool)
  | lookup
  | send (bytes : Nat)
  | sendFailed
  deriving DecidableEq

inductive RequestReaderAction where
  | test
  | pop (acquired : Bool)
  | enqueue
  | signal
  deriving DecidableEq

inductive ResponseWriterAction where
  | test
  | lock
  | wake
  | process (db : Sqlite)
  | push (acquired : Bool)

inductive TcpMainAction where
  | sigint
  | join
  deriving DecidableEq

inductive DatabaseMainAction where
  | sigint
  | sigusr1
  | sigwaitFailed
  | stop
  | join
  deriving DecidableEq

inductive Action where
  | tcpServer (a : TcpServerAction)
  | requestWriter (a : RequestWriterAction)
  | responseReader (a : ResponseReaderAction)
  | requestReader (a : RequestReaderAction)
  | responseWriter (a : ResponseWriterAction)
  | tcpMain (a : TcpMainAction)
  | databaseMain (a : DatabaseMainAction)
  | priceUpdater (call : StoreCall)

/-- `push` on a shared queue: a `sem_wait` that fails stores nothing. -/
def sharedPush (acquired : Bool) (capacity : Nat) (queue : List α) (item : α) : Bool × List α :=
  if acquired then Fifo.push capacity queue item else (false, queue)

def sharedPop (acquired : Bool) (queue : List α) : Option α × List α :=
  if acquired then Fifo.pop queue else (none, queue)

section SharedQueues

variable {q : SharedQueue} {mem : Memory} {queue : List α} {encode : α → List UInt8}

/-- On the bytes of the messages, `SharedQueue::push` does what `sharedPush`
does on the messages. -/
theorem sharedPush_refined (hp : q.Placed) (hsize : ∀ x, (encode x).length = q.elementSize)
    (h : q.Represents mem (queue.map encode)) (acquired : Bool) (item : α) :
    (q.push ⟨acquired, true⟩ mem (encode item)).1 =
        (sharedPush acquired q.capacity queue item).1 ∧
      q.Represents (q.push ⟨acquired, true⟩ mem (encode item)).2
        ((sharedPush acquired q.capacity queue item).2.map encode) := by
  cases acquired with
  | false =>
    have hpush : q.push ⟨false, true⟩ mem (encode item) = (false, mem) := by
      simp [SharedQueue.push, hp.valid]
    rw [hpush]
    exact ⟨rfl, h⟩
  | true =>
    obtain ⟨hanswer, hnext⟩ := SharedQueue.exec_refines hp h (.push (encode item))
      fun _ hc => by cases hc; exact hsize item
    simp only [SharedQueue.exec, Fifo.exec, Fifo.push_map, Prod.map_fst, Prod.map_snd, id,
      Fifo.Answer.pushed.injEq] at hanswer hnext
    exact ⟨hanswer, hnext⟩

theorem sharedPop_refined (hp : q.Placed) (h : q.Represents mem (queue.map encode))
    (acquired : Bool) :
    (q.pop ⟨acquired, true⟩ mem).1 = (sharedPop acquired queue).1.map encode ∧
      q.Represents (q.pop ⟨acquired, true⟩ mem).2 ((sharedPop acquired queue).2.map encode) := by
  cases acquired with
  | false =>
    have hpop : q.pop ⟨false, true⟩ mem = (none, mem) := by
      simp [SharedQueue.pop, hp.valid]
    rw [hpop]
    exact ⟨rfl, h⟩
  | true =>
    obtain ⟨hanswer, hnext⟩ := SharedQueue.exec_refines hp h .pop fun _ hc => by cases hc
    simp only [SharedQueue.exec, Fifo.exec, Fifo.pop_map, Prod.map_fst, Prod.map_snd, id,
      Fifo.Answer.popped.injEq] at hanswer hnext
    exact ⟨hanswer, hnext⟩

end SharedQueues

-- ---------------------------------------------------------------------------
-- TcpServer
-- ---------------------------------------------------------------------------

namespace State

variable (s : State)

/-- The descriptors after the tcp thread closed every registered client. -/
def closedClients (socket : Nat) : Option Nat :=
  if (s.clients.lookup socket).isSome then none else s.sockets socket

def tcpServerLoop (a : TcpServerAction) : Option State :=
  match s.tcpServer, a with
  | .test, .test =>
    if s.tcpRunning then some { s with tcpServer := .scanning }
    else some { s with tcpServer := .stopped, sockets := s.closedClients }
  | .test, .selectFailed =>
    if s.tcpRunning then some { s with tcpRunning := false } else none
  | .scanning, .accept socket =>
    if s.sockets socket = none then
      some { s with
        sockets := Function.update s.sockets socket (some s.nextConn)
        nextConn := s.nextConn + 1
        tcpServer := if socket < fdSetSize then .registering socket s.nextConn else .closing socket }
    else none
  | .registering socket conn, .addClient =>
    if (s.clients.lookup socket).isSome then some { s with tcpServer := .closing socket }
    else some { s with clients := s.clients.insert socket conn, tcpServer := .scanning }
  | .scanning, .receive socket request =>
    match s.clients.lookup socket, s.sockets socket with
    | some _, some conn =>
      let e : Envelope := ⟨request, socket, conn, s.received.length⟩
      some { s with tcpServer := .received e, received := s.received ++ [e] }
    | _, _ => none
  | .received e, .record =>
    some { s with pending := s.pending.insert e.id e.socket, tcpServer := .recorded e }
  | .recorded e, .enqueue =>
    some { s with
      tcpQueue := s.tcpQueue ++ [e], accepted := s.accepted ++ [e], tcpServer := .scanning }
  | .scanning, .disconnect socket =>
    if (s.clients.lookup socket).isSome then some { s with tcpServer := .disconnecting socket }
    else none
  | .disconnecting socket, .removeClient =>
    some { s with clients := s.clients.erase socket, tcpServer := .closing socket }
  | .closing socket, .close =>
    some { s with sockets := Function.update s.sockets socket none, tcpServer := .scanning }
  | .scanning, .scanned => some { s with tcpServer := .test }
  | _, _ => none

def requestWriterLoop (a : RequestWriterAction) : Option State :=
  match s.requestWriter, a with
  | .lock, .lock =>
    match s.tcpQueue with
    | [] => some { s with requestWriter := if s.tcpRunning then .waiting else .stopped }
    | e :: rest => some { s with tcpQueue := rest, requestWriter := .holding e }
  | .waiting, .wake => some { s with requestWriter := .lock }
  | .holding e, .push acquired =>
    match sharedPush acquired tcpToDatabaseQueueCapacity s.toDatabase e with
    | (true, queue) => some { s with toDatabase := queue, requestWriter := .lock }
    | (false, _) =>
      some { s with
        requestWriter := .lock, discarded := s.discarded ++ [(e, s.toDatabase.length)] }
  | _, _ => none

def responseReaderLoop (a : ResponseReaderAction) : Option State :=
  match s.responseReader, a with
  | .test, .test =>
    some { s with responseReader := if s.tcpRunning then .popping else .stopped }
  | .popping, .pop acquired =>
    match sharedPop acquired s.toTcp with
    | (some r, queue) =>
      some { s with toTcp := queue, responseReader := .holding r, popped := s.popped ++ [r] }
    | (none, _) => some { s with responseReader := .test }
  | .holding r, .lookup =>
    match s.pending.lookup r.response.requestId with
    | none => some { s with responseReader := .test }
    | some socket =>
      some { s with
        pending := s.pending.erase r.response.requestId
        responseReader := .sending r socket 0 }
  | .sending r socket sent, .send bytes =>
    match s.sockets socket with
    | none => none
    | some conn =>
      if bytes = 0 ∨ sizeofDatabaseToTcpMessage < sent + bytes then none
      else if sent + bytes = sizeofDatabaseToTcpMessage then
        some { s with
          responseReader := .test
          sent := s.sent ++ [⟨r, socket, conn, bytes⟩]
          delivered := s.delivered ++ [r] }
      else
        some { s with
          responseReader := .sending r socket (sent + bytes)
          sent := s.sent ++ [⟨r, socket, conn, bytes⟩] }
  | .sending _ _ _, .sendFailed => some { s with responseReader := .test }
  | _, _ => none

/-- `run` clears `running_`, wakes the request writer and joins the threads. -/
def tcpServerRun (a : TcpMainAction) : Option State :=
  match s.tcpMain, a with
  | .sigwait, .sigint => some { s with tcpRunning := false, tcpMain := .joinTcpServer }
  | .joinTcpServer, .join =>
    if s.tcpServer = .stopped then some { s with tcpMain := .joinRequestWriter } else none
  | .joinRequestWriter, .join =>
    if s.requestWriter = .stopped then some { s with tcpMain := .joinResponseReader } else none
  | .joinResponseReader, .join =>
    if s.responseReader = .stopped then some { s with tcpMain := .returned } else none
  | _, _ => none

-- ---------------------------------------------------------------------------
-- Database
-- ---------------------------------------------------------------------------

def requestReaderLoop (a : RequestReaderAction) : Option State :=
  match s.requestReader, a with
  | .test, .test =>
    some { s with requestReader := if s.dbRunning then .popping else .stopped }
  | .popping, .pop acquired =>
    match sharedPop acquired s.toDatabase with
    | (some e, queue) =>
      some { s with toDatabase := queue, requestReader := .holding e, taken := s.taken ++ [e] }
    | (none, _) => some { s with requestReader := .test }
  | .holding e, .enqueue =>
    some { s with dbQueue := s.dbQueue ++ [e], requestReader := .signalling }
  | .signalling, .signal => some { s with requestReader := .test }
  | _, _ => none

def responseWriterLoop (a : ResponseWriterAction) : Option State :=
  match s.responseWriter, a with
  | .test, .test =>
    some { s with responseWriter := if s.dbRunning then .lock else .stopped }
  | .lock, .lock =>
    match s.dbQueue with
    | [] => some { s with responseWriter := if s.dbRunning then .waiting else .stopped }
    | e :: rest =>
      some { s with dbQueue := rest, responseWriter := .processing e, given := s.given ++ [e] }
  | .waiting, .wake => some { s with responseWriter := .lock }
  | .processing e, .process db =>
    let (store, response) := processDatabaseRequest db s.store e.request
    let r : Reply := ⟨e, response, committed db s.store e.request⟩
    some { s with
      store := store, responseWriter := .responding r, produced := s.produced ++ [r] }
  | .responding r, .push acquired =>
    match sharedPush acquired databaseToTcpQueueCapacity s.toTcp r with
    | (true, queue) => some { s with toTcp := queue, responseWriter := .test }
    | (false, _) =>
      some { s with responseWriter := .test, refused := s.refused ++ [(r, s.toTcp.length)] }
  | _, _ => none

def databaseRun (a : DatabaseMainAction) : Option State :=
  match s.dbMain, a with
  | .sigwait, .sigint => some { s with dbRunning := false, dbMain := .stopping }
  | .sigwait, .sigusr1 => some s
  | .sigwait, .sigwaitFailed => some { s with dbMain := .stopping }
  | .stopping, .stop => some { s with dbRunning := false, dbMain := .joinRequestReader }
  | .joinRequestReader, .join =>
    if s.requestReader = .stopped then some { s with dbMain := .joinResponseWriter } else none
  | .joinResponseWriter, .join =>
    if s.responseWriter = .stopped then some { s with dbMain := .returned } else none
  | _, _ => none

-- ---------------------------------------------------------------------------
-- The system
-- ---------------------------------------------------------------------------

def step : Action → Option State
  | .tcpServer a => s.tcpServerLoop a
  | .requestWriter a => s.requestWriterLoop a
  | .responseReader a => s.responseReaderLoop a
  | .requestReader a => s.requestReaderLoop a
  | .responseWriter a => s.responseWriterLoop a
  | .tcpMain a => s.tcpServerRun a
  | .databaseMain a => s.databaseRun a
  | .priceUpdater call =>
    if call.op.onCities then (s.store.step call).map fun store => { s with store := store }
    else none

-- ---------------------------------------------------------------------------
-- What one step can do
-- ---------------------------------------------------------------------------

/-- Everything a step can do, with what it finds. -/
inductive Transition (s : State) : Action → State → Prop
  | tcpTest (pc : s.tcpServer = .test) (running : s.tcpRunning = true) :
      Transition s (.tcpServer .test) { s with tcpServer := .scanning }
  | tcpExit (pc : s.tcpServer = .test) (running : s.tcpRunning = false) :
      Transition s (.tcpServer .test)
        { s with tcpServer := .stopped, sockets := s.closedClients }
  | selectFailed (pc : s.tcpServer = .test) (running : s.tcpRunning = true) :
      Transition s (.tcpServer .selectFailed) { s with tcpRunning := false }
  | accept (socket : Nat) (pc : s.tcpServer = .scanning) (free : s.sockets socket = none)
      (fits : socket < fdSetSize) :
      Transition s (.tcpServer (.accept socket)) { s with
        sockets := Function.update s.sockets socket (some s.nextConn)
        nextConn := s.nextConn + 1
        tcpServer := .registering socket s.nextConn }
  | acceptTooLarge (socket : Nat) (pc : s.tcpServer = .scanning) (free : s.sockets socket = none)
      (large : ¬ socket < fdSetSize) :
      Transition s (.tcpServer (.accept socket)) { s with
        sockets := Function.update s.sockets socket (some s.nextConn)
        nextConn := s.nextConn + 1
        tcpServer := .closing socket }
  | addClient (socket conn : Nat) (pc : s.tcpServer = .registering socket conn)
      (unknown : s.clients.lookup socket = none) :
      Transition s (.tcpServer .addClient)
        { s with clients := s.clients.insert socket conn, tcpServer := .scanning }
  | addClientFailed (socket conn : Nat) (pc : s.tcpServer = .registering socket conn)
      (known : (s.clients.lookup socket).isSome = true) :
      Transition s (.tcpServer .addClient) { s with tcpServer := .closing socket }
  | receive (socket registered conn : Nat) (request : TcpToDatabaseMessage)
      (pc : s.tcpServer = .scanning) (client : s.clients.lookup socket = some registered)
      (isOpen : s.sockets socket = some conn) :
      Transition s (.tcpServer (.receive socket request)) { s with
        tcpServer := .received ⟨request, socket, conn, s.received.length⟩
        received := s.received ++ [⟨request, socket, conn, s.received.length⟩] }
  | record (e : Envelope) (pc : s.tcpServer = .received e) :
      Transition s (.tcpServer .record)
        { s with pending := s.pending.insert e.id e.socket, tcpServer := .recorded e }
  | enqueue (e : Envelope) (pc : s.tcpServer = .recorded e) :
      Transition s (.tcpServer .enqueue) { s with
        tcpQueue := s.tcpQueue ++ [e], accepted := s.accepted ++ [e], tcpServer := .scanning }
  | disconnect (socket : Nat) (pc : s.tcpServer = .scanning)
      (client : (s.clients.lookup socket).isSome = true) :
      Transition s (.tcpServer (.disconnect socket)) { s with tcpServer := .disconnecting socket }
  | removeClient (socket : Nat) (pc : s.tcpServer = .disconnecting socket) :
      Transition s (.tcpServer .removeClient)
        { s with clients := s.clients.erase socket, tcpServer := .closing socket }
  | close (socket : Nat) (pc : s.tcpServer = .closing socket) :
      Transition s (.tcpServer .close)
        { s with sockets := Function.update s.sockets socket none, tcpServer := .scanning }
  | scanned (pc : s.tcpServer = .scanning) :
      Transition s (.tcpServer .scanned) { s with tcpServer := .test }
  | writerWait (pc : s.requestWriter = .lock) (empty : s.tcpQueue = [])
      (running : s.tcpRunning = true) :
      Transition s (.requestWriter .lock) { s with requestWriter := .waiting }
  | writerExit (pc : s.requestWriter = .lock) (empty : s.tcpQueue = [])
      (running : s.tcpRunning = false) :
      Transition s (.requestWriter .lock) { s with requestWriter := .stopped }
  | writerTake (e : Envelope) (rest : List Envelope) (pc : s.requestWriter = .lock)
      (queue : s.tcpQueue = e :: rest) :
      Transition s (.requestWriter .lock) { s with tcpQueue := rest, requestWriter := .holding e }
  | writerWake (pc : s.requestWriter = .waiting) :
      Transition s (.requestWriter .wake) { s with requestWriter := .lock }
  | writerPush (e : Envelope) (pc : s.requestWriter = .holding e)
      (room : s.toDatabase.length < tcpToDatabaseQueueCapacity) :
      Transition s (.requestWriter (.push true))
        { s with toDatabase := s.toDatabase ++ [e], requestWriter := .lock }
  | writerDiscard (e : Envelope) (acquired : Bool) (pc : s.requestWriter = .holding e)
      (full : acquired = true → tcpToDatabaseQueueCapacity ≤ s.toDatabase.length) :
      Transition s (.requestWriter (.push acquired)) { s with
        requestWriter := .lock, discarded := s.discarded ++ [(e, s.toDatabase.length)] }
  | responseTest (pc : s.responseReader = .test) (running : s.tcpRunning = true) :
      Transition s (.responseReader .test) { s with responseReader := .popping }
  | responseExit (pc : s.responseReader = .test) (running : s.tcpRunning = false) :
      Transition s (.responseReader .test) { s with responseReader := .stopped }
  | responsePop (r : Reply) (rest : List Reply) (pc : s.responseReader = .popping)
      (queue : s.toTcp = r :: rest) :
      Transition s (.responseReader (.pop true)) { s with
        toTcp := rest, responseReader := .holding r, popped := s.popped ++ [r] }
  | responseNothing (acquired : Bool) (pc : s.responseReader = .popping)
      (empty : acquired = true → s.toTcp = []) :
      Transition s (.responseReader (.pop acquired)) { s with responseReader := .test }
  | lookupFailed (r : Reply) (pc : s.responseReader = .holding r)
      (missing : s.pending.lookup r.response.requestId = none) :
      Transition s (.responseReader .lookup) { s with responseReader := .test }
  | lookup (r : Reply) (socket : Nat) (pc : s.responseReader = .holding r)
      (found : s.pending.lookup r.response.requestId = some socket) :
      Transition s (.responseReader .lookup) { s with
        pending := s.pending.erase r.response.requestId
        responseReader := .sending r socket 0 }
  | sendRest (r : Reply) (socket sent conn bytes : Nat)
      (pc : s.responseReader = .sending r socket sent) (isOpen : s.sockets socket = some conn)
      (complete : sent + bytes = sizeofDatabaseToTcpMessage) :
      Transition s (.responseReader (.send bytes)) { s with
        responseReader := .test
        sent := s.sent ++ [⟨r, socket, conn, bytes⟩]
        delivered := s.delivered ++ [r] }
  | sendPart (r : Reply) (socket sent conn bytes : Nat)
      (pc : s.responseReader = .sending r socket sent) (isOpen : s.sockets socket = some conn)
      (partly : sent + bytes < sizeofDatabaseToTcpMessage) :
      Transition s (.responseReader (.send bytes)) { s with
        responseReader := .sending r socket (sent + bytes)
        sent := s.sent ++ [⟨r, socket, conn, bytes⟩] }
  | sendFailed (r : Reply) (socket sent : Nat) (pc : s.responseReader = .sending r socket sent) :
      Transition s (.responseReader .sendFailed) { s with responseReader := .test }
  | tcpSigint (pc : s.tcpMain = .sigwait) :
      Transition s (.tcpMain .sigint) { s with tcpRunning := false, tcpMain := .joinTcpServer }
  | tcpJoinTcpServer (pc : s.tcpMain = .joinTcpServer) (stopped : s.tcpServer = .stopped) :
      Transition s (.tcpMain .join) { s with tcpMain := .joinRequestWriter }
  | tcpJoinRequestWriter (pc : s.tcpMain = .joinRequestWriter)
      (stopped : s.requestWriter = .stopped) :
      Transition s (.tcpMain .join) { s with tcpMain := .joinResponseReader }
  | tcpJoinResponseReader (pc : s.tcpMain = .joinResponseReader)
      (stopped : s.responseReader = .stopped) :
      Transition s (.tcpMain .join) { s with tcpMain := .returned }
  | readerTest (pc : s.requestReader = .test) (running : s.dbRunning = true) :
      Transition s (.requestReader .test) { s with requestReader := .popping }
  | readerExit (pc : s.requestReader = .test) (running : s.dbRunning = false) :
      Transition s (.requestReader .test) { s with requestReader := .stopped }
  | readerPop (e : Envelope) (rest : List Envelope) (pc : s.requestReader = .popping)
      (queue : s.toDatabase = e :: rest) :
      Transition s (.requestReader (.pop true)) { s with
        toDatabase := rest, requestReader := .holding e, taken := s.taken ++ [e] }
  | readerNothing (acquired : Bool) (pc : s.requestReader = .popping)
      (empty : acquired = true → s.toDatabase = []) :
      Transition s (.requestReader (.pop acquired)) { s with requestReader := .test }
  | readerEnqueue (e : Envelope) (pc : s.requestReader = .holding e) :
      Transition s (.requestReader .enqueue)
        { s with dbQueue := s.dbQueue ++ [e], requestReader := .signalling }
  | readerSignal (pc : s.requestReader = .signalling) :
      Transition s (.requestReader .signal) { s with requestReader := .test }
  | responderTest (pc : s.responseWriter = .test) (running : s.dbRunning = true) :
      Transition s (.responseWriter .test) { s with responseWriter := .lock }
  | responderLeave (pc : s.responseWriter = .test) (running : s.dbRunning = false) :
      Transition s (.responseWriter .test) { s with responseWriter := .stopped }
  | responderWait (pc : s.responseWriter = .lock) (empty : s.dbQueue = [])
      (running : s.dbRunning = true) :
      Transition s (.responseWriter .lock) { s with responseWriter := .waiting }
  | responderExit (pc : s.responseWriter = .lock) (empty : s.dbQueue = [])
      (running : s.dbRunning = false) :
      Transition s (.responseWriter .lock) { s with responseWriter := .stopped }
  | responderTake (e : Envelope) (rest : List Envelope) (pc : s.responseWriter = .lock)
      (queue : s.dbQueue = e :: rest) :
      Transition s (.responseWriter .lock) { s with
        dbQueue := rest, responseWriter := .processing e, given := s.given ++ [e] }
  | responderWake (pc : s.responseWriter = .waiting) :
      Transition s (.responseWriter .wake) { s with responseWriter := .lock }
  | process (e : Envelope) (db : Sqlite) (r : Reply) (pc : s.responseWriter = .processing e)
      (reply : r = ⟨e, (processDatabaseRequest db s.store e.request).2,
        committed db s.store e.request⟩) :
      Transition s (.responseWriter (.process db)) { s with
        store := (processDatabaseRequest db s.store e.request).1
        responseWriter := .responding r, produced := s.produced ++ [r] }
  | respond (r : Reply) (pc : s.responseWriter = .responding r)
      (room : s.toTcp.length < databaseToTcpQueueCapacity) :
      Transition s (.responseWriter (.push true))
        { s with toTcp := s.toTcp ++ [r], responseWriter := .test }
  | respondRefused (r : Reply) (acquired : Bool) (pc : s.responseWriter = .responding r)
      (full : acquired = true → databaseToTcpQueueCapacity ≤ s.toTcp.length) :
      Transition s (.responseWriter (.push acquired)) { s with
        responseWriter := .test, refused := s.refused ++ [(r, s.toTcp.length)] }
  | databaseSigint (pc : s.dbMain = .sigwait) :
      Transition s (.databaseMain .sigint) { s with dbRunning := false, dbMain := .stopping }
  | databaseSigusr1 (pc : s.dbMain = .sigwait) : Transition s (.databaseMain .sigusr1) s
  | databaseSigwaitFailed (pc : s.dbMain = .sigwait) :
      Transition s (.databaseMain .sigwaitFailed) { s with dbMain := .stopping }
  | databaseStop (pc : s.dbMain = .stopping) :
      Transition s (.databaseMain .stop)
        { s with dbRunning := false, dbMain := .joinRequestReader }
  | databaseJoinReader (pc : s.dbMain = .joinRequestReader)
      (stopped : s.requestReader = .stopped) :
      Transition s (.databaseMain .join) { s with dbMain := .joinResponseWriter }
  | databaseJoinWriter (pc : s.dbMain = .joinResponseWriter)
      (stopped : s.responseWriter = .stopped) :
      Transition s (.databaseMain .join) { s with dbMain := .returned }
  | priceUpdater (call : StoreCall) (store : Store) (onCities : call.op.onCities = true)
      (changed : s.store.step call = some store) :
      Transition s (.priceUpdater call) { s with store := store }

section Cases

variable {s s' : State} {queue rest : List α} {item : α}

theorem sharedPush_stored (h : sharedPush acquired capacity queue item = (true, rest)) :
    acquired = true ∧ queue.length < capacity ∧ rest = queue ++ [item] := by
  simp only [sharedPush] at h
  split at h
  · rename_i hacq
    by_cases hroom : queue.length < capacity
    · rw [Fifo.push_of_lt hroom] at h
      exact ⟨hacq, hroom, (Prod.mk.inj h).2.symm⟩
    · rw [Fifo.push_of_full (by omega)] at h
      cases h
  · cases h

theorem sharedPush_full (h : sharedPush acquired capacity queue item = (false, rest)) :
    acquired = true → capacity ≤ queue.length := by
  rintro rfl
  by_contra hroom
  simp [sharedPush, Fifo.push_of_lt (Nat.lt_of_not_le hroom)] at h

theorem sharedPop_some (h : sharedPop acquired queue = (some item, rest)) :
    acquired = true ∧ queue = item :: rest := by
  cases acquired with
  | false => cases h
  | true =>
    cases queue with
    | nil => cases h
    | cons x xs =>
      cases h
      exact ⟨rfl, rfl⟩

theorem sharedPop_none (h : sharedPop acquired queue = (none, rest)) :
    acquired = true → queue = [] := by
  rintro rfl
  cases queue with
  | nil => rfl
  | cons x xs => cases h

theorem tcpServerLoop_cases (h : s.tcpServerLoop a = some s') :
    Transition s (.tcpServer a) s' := by
  simp only [tcpServerLoop] at h
  split at h
  · rename_i pc
    split at h <;> cases h
    · exact .tcpTest pc ‹_›
    · exact .tcpExit pc (by simpa using ‹¬ s.tcpRunning = true›)
  · rename_i pc
    split at h <;> cases h
    exact .selectFailed pc ‹_›
  · rename_i pc
    split at h <;> cases h
    split
    · exact .accept _ pc ‹_› ‹_›
    · exact .acceptTooLarge _ pc ‹_› ‹_›
  · rename_i pc
    split at h <;> cases h
    · exact .addClientFailed _ _ pc ‹_›
    · exact .addClient _ _ pc (by simpa using ‹¬ (s.clients.lookup _).isSome = true›)
  · rename_i pc
    split at h <;> cases h
    exact .receive _ _ _ _ pc ‹_› ‹_›
  · cases h
    exact .record _ ‹_›
  · cases h
    exact .enqueue _ ‹_›
  · rename_i pc
    split at h <;> cases h
    exact .disconnect _ pc ‹_›
  · cases h
    exact .removeClient _ ‹_›
  · cases h
    exact .close _ ‹_›
  · cases h
    exact .scanned ‹_›
  · cases h

theorem requestWriterLoop_cases (h : s.requestWriterLoop a = some s') :
    Transition s (.requestWriter a) s' := by
  simp only [requestWriterLoop] at h
  split at h
  · rename_i pc
    split at h <;> cases h
    · split
      · exact .writerWait pc ‹_› ‹_›
      · exact .writerExit pc ‹_› (by simpa using ‹¬ s.tcpRunning = true›)
    · exact .writerTake _ _ pc ‹_›
  · cases h
    exact .writerWake ‹_›
  · rename_i pc
    split at h <;> cases h
    · obtain ⟨rfl, hroom, rfl⟩ := sharedPush_stored ‹_›
      exact .writerPush _ pc hroom
    · exact .writerDiscard _ _ pc (sharedPush_full ‹_›)
  · cases h

theorem responseReaderLoop_cases (h : s.responseReaderLoop a = some s') :
    Transition s (.responseReader a) s' := by
  simp only [responseReaderLoop] at h
  split at h
  · rename_i pc
    cases h
    split
    · exact .responseTest pc ‹_›
    · exact .responseExit pc (by simpa using ‹¬ s.tcpRunning = true›)
  · rename_i pc
    split at h <;> cases h
    · obtain ⟨rfl, hqueue⟩ := sharedPop_some ‹_›
      exact .responsePop _ _ pc hqueue
    · exact .responseNothing _ pc (sharedPop_none ‹_›)
  · rename_i pc
    split at h <;> cases h
    · exact .lookupFailed _ pc ‹_›
    · exact .lookup _ _ pc ‹_›
  · rename_i pc
    split at h
    · cases h
    split at h
    · cases h
    rename_i hbytes
    split at h <;> cases h
    · exact .sendRest _ _ _ _ _ pc ‹_› ‹_›
    · exact .sendPart _ _ _ _ _ pc ‹_› (by omega)
  · cases h
    exact .sendFailed _ _ _ ‹_›
  · cases h

theorem tcpServerRun_cases (h : s.tcpServerRun a = some s') : Transition s (.tcpMain a) s' := by
  simp only [tcpServerRun] at h
  split at h
  · cases h
    exact .tcpSigint ‹_›
  · rename_i pc
    split at h <;> cases h
    exact .tcpJoinTcpServer pc ‹_›
  · rename_i pc
    split at h <;> cases h
    exact .tcpJoinRequestWriter pc ‹_›
  · rename_i pc
    split at h <;> cases h
    exact .tcpJoinResponseReader pc ‹_›
  · cases h

theorem requestReaderLoop_cases (h : s.requestReaderLoop a = some s') :
    Transition s (.requestReader a) s' := by
  simp only [requestReaderLoop] at h
  split at h
  · rename_i pc
    cases h
    split
    · exact .readerTest pc ‹_›
    · exact .readerExit pc (by simpa using ‹¬ s.dbRunning = true›)
  · rename_i pc
    split at h <;> cases h
    · obtain ⟨rfl, hqueue⟩ := sharedPop_some ‹_›
      exact .readerPop _ _ pc hqueue
    · exact .readerNothing _ pc (sharedPop_none ‹_›)
  · cases h
    exact .readerEnqueue _ ‹_›
  · cases h
    exact .readerSignal ‹_›
  · cases h

theorem responseWriterLoop_cases (h : s.responseWriterLoop a = some s') :
    Transition s (.responseWriter a) s' := by
  simp only [responseWriterLoop] at h
  split at h
  · rename_i pc
    cases h
    split
    · exact .responderTest pc ‹_›
    · exact .responderLeave pc (by simpa using ‹¬ s.dbRunning = true›)
  · rename_i pc
    split at h <;> cases h
    · split
      · exact .responderWait pc ‹_› ‹_›
      · exact .responderExit pc ‹_› (by simpa using ‹¬ s.dbRunning = true›)
    · exact .responderTake _ _ pc ‹_›
  · cases h
    exact .responderWake ‹_›
  · cases h
    exact .process _ _ _ ‹_› rfl
  · rename_i pc
    split at h <;> cases h
    · obtain ⟨rfl, hroom, rfl⟩ := sharedPush_stored ‹_›
      exact .respond _ pc hroom
    · exact .respondRefused _ _ pc (sharedPush_full ‹_›)
  · cases h

theorem databaseRun_cases (h : s.databaseRun a = some s') : Transition s (.databaseMain a) s' := by
  simp only [databaseRun] at h
  split at h
  · cases h
    exact .databaseSigint ‹_›
  · cases h
    exact .databaseSigusr1 ‹_›
  · cases h
    exact .databaseSigwaitFailed ‹_›
  · cases h
    exact .databaseStop ‹_›
  · rename_i pc
    split at h <;> cases h
    exact .databaseJoinReader pc ‹_›
  · rename_i pc
    split at h <;> cases h
    exact .databaseJoinWriter pc ‹_›
  · cases h

theorem step_cases (h : s.step a = some s') : Transition s a s' := by
  cases a with
  | tcpServer a => exact tcpServerLoop_cases h
  | requestWriter a => exact requestWriterLoop_cases h
  | responseReader a => exact responseReaderLoop_cases h
  | requestReader a => exact requestReaderLoop_cases h
  | responseWriter a => exact responseWriterLoop_cases h
  | tcpMain a => exact tcpServerRun_cases h
  | databaseMain a => exact databaseRun_cases h
  | priceUpdater call =>
    simp only [step] at h
    split at h
    · obtain ⟨store, hs, rfl⟩ := Option.map_eq_some_iff.mp h
      exact .priceUpdater call store ‹_› hs
    · cases h

end Cases

end State
end ParkingSystem
