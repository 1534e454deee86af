import ParkingSystem.Lib.Flow
import ParkingSystem.Lib.Runs
import ParkingSystem.System

/-!
# The way of a request and of its response

A request passes TcpServer's queue, the request writer, the shared queue, the
request reader and Database's queue; its response passes the response writer
and the other shared queue. Each way is a `Fifo.Flow`: the steps of the system pass
items on, and only a full shared queue or a failed `sem_wait` drops one.
-/

namespace ParkingSystem

open Runs (run Along)

def RequestWriterPc.held : RequestWriterPc → List Envelope
  | .holding e => [e]
  | _ => []

def RequestReaderPc.held : RequestReaderPc → List Envelope
  | .holding e => [e]
  | _ => []

theorem RequestWriterPc.mem_held {pc : RequestWriterPc} {e : Envelope} :
    e ∈ pc.held ↔ pc = .holding e := by
  cases pc <;> simp [held, eq_comm]

theorem RequestReaderPc.mem_held {pc : RequestReaderPc} {e : Envelope} :
    e ∈ pc.held ↔ pc = .holding e := by
  cases pc <;> simp [held, eq_comm]

def ResponseWriterPc.held : ResponseWriterPc → List Envelope
  | .processing e => [e]
  | _ => []

def ResponseWriterPc.reply : ResponseWriterPc → List Reply
  | .responding r => [r]
  | _ => []

theorem ResponseWriterPc.mem_reply {pc : ResponseWriterPc} {r : Reply} :
    r ∈ pc.reply ↔ pc = .responding r := by
  cases pc <;> simp [reply, eq_comm]

/-- The request that `receive_client_request` has read and not yet queued. -/
def TcpServerPc.held : TcpServerPc → List Envelope
  | .received e => [e]
  | .recorded e => [e]
  | _ => []

def ResponseReaderPc.held : ResponseReaderPc → List Reply
  | .holding r => [r]
  | .sending r _ _ => [r]
  | _ => []

/-- The response is what `process_database_request` made of the request. -/
def Reply.Computed (r : Reply) : Prop :=
  ∃ db store, r.response = (processDatabaseRequest db store r.origin.request).2 ∧
    r.committed = ParkingSystem.committed db store r.origin.request

theorem Reply.Computed.requestId {r : Reply} (h : r.Computed) :
    r.response.requestId = r.origin.id := by
  obtain ⟨db, store, hresponse, -⟩ := h
  rw [hresponse]
  exact processDatabaseRequest_requestId

theorem Reply.Computed.status {r : Reply} (h : r.Computed) (hc : r.committed = true) :
    r.response.status = .success := by
  obtain ⟨db, store, hresponse, hcommitted⟩ := h
  rw [hresponse]
  exact status_of_committed (hcommitted ▸ hc)

def Action.semaphoresSucceed : Action → Bool
  | .requestWriter (.push acquired) => acquired
  | .responseReader (.pop acquired) => acquired
  | .requestReader (.pop acquired) => acquired
  | .responseWriter (.push acquired) => acquired
  | _ => true

namespace State

variable (s : State)

/-- From Database's queue back to TcpServer's, the oldest request first. -/
def requestLine : List Envelope :=
  s.dbQueue ++ s.requestReader.held ++ s.toDatabase ++ s.requestWriter.held ++ s.tcpQueue

def requestFlow : Fifo.Flow Envelope := ⟨s.accepted, s.requestLine, s.given, s.discarded.map Prod.fst⟩

def responseLine : List Reply := s.toTcp ++ s.responseWriter.reply

def responseFlow : Fifo.Flow Reply := ⟨s.produced, s.responseLine, s.popped, s.refused.map Prod.fst⟩

variable {s} {s' t : State} {a : Action}

theorem requestFlow_step (h : Transition s a s') : s.requestFlow.Step s'.requestFlow := by
  cases h with
  | enqueue e pc =>
    exact .enter e rfl (by simp [requestFlow, requestLine]) rfl rfl
  | responderTake e rest pc queue =>
    exact .leave e rfl (by simp [requestFlow, requestLine, queue]) rfl rfl
  | writerDiscard e acquired pc full =>
    exact .drop e (s.dbQueue ++ s.requestReader.held ++ s.toDatabase) s.tcpQueue rfl
      (by simp [requestFlow, requestLine, pc, RequestWriterPc.held])
      (by simp [requestFlow, requestLine, RequestWriterPc.held]) rfl (by simp [requestFlow])
  | writerWait pc | writerExit pc | writerWake pc | writerPush _ pc | writerTake _ _ pc queue
  | readerTest pc | readerExit pc | readerNothing _ pc | readerSignal pc | readerEnqueue _ pc
  | readerPop _ _ pc queue =>
    exact .idle (by simp [requestFlow, requestLine, RequestWriterPc.held, RequestReaderPc.held, *])
  | _ => exact .idle rfl

theorem responseFlow_step (h : Transition s a s') : s.responseFlow.Step s'.responseFlow := by
  cases h with
  | process e db r pc reply =>
    exact .enter r rfl (by simp [responseFlow, responseLine, ResponseWriterPc.reply, pc]) rfl rfl
  | responsePop r rest pc queue =>
    exact .leave r rfl (by simp [responseFlow, responseLine, queue]) rfl rfl
  | respondRefused r acquired pc full =>
    exact .drop r s.toTcp [] rfl (by simp [responseFlow, responseLine, pc, ResponseWriterPc.reply])
      (by simp [responseFlow, responseLine, ResponseWriterPc.reply]) rfl (by simp [responseFlow])
  | responderTest pc | responderLeave pc | responderWait pc | responderExit pc
  | responderTake _ _ pc | responderWake pc | respond _ pc =>
    exact .idle (by simp [responseFlow, responseLine, ResponseWriterPc.reply, *])
  | _ => exact .idle rfl

-- ---------------------------------------------------------------------------
-- What the records say
-- ---------------------------------------------------------------------------

/-- How the records of what happened fit what the threads hold. -/
structure Books (s : State) : Prop where
  taken : s.taken = s.given ++ s.dbQueue ++ s.requestReader.held
  given : s.given = s.produced.map Reply.origin ++ s.responseWriter.held
  received : s.received = s.accepted ++ s.tcpServer.held
  seq : s.received.map Envelope.seq = List.range s.received.length
  replies : ∀ r ∈ s.produced, r.Computed
  delivered : (s.delivered ++ s.responseReader.held).Sublist s.popped
  toDatabaseRoom : s.toDatabase.length ≤ tcpToDatabaseQueueCapacity
  toTcpRoom : s.toTcp.length ≤ databaseToTcpQueueCapacity

section Steps

variable (h : Transition s a s')
include h

theorem taken_step (b : s.taken = s.given ++ s.dbQueue ++ s.requestReader.held) :
    s'.taken = s'.given ++ s'.dbQueue ++ s'.requestReader.held := by
  cases h with
  | readerPop _ _ pc queue | responderTake _ _ pc queue => simp [b, pc, queue, RequestReaderPc.held]
  | readerEnqueue _ pc | readerNothing _ pc => simp [b, pc, RequestReaderPc.held]
  | readerTest pc | readerExit pc | readerSignal pc => simp [b, pc, RequestReaderPc.held]
  | _ => exact b

theorem given_step (b : s.given = s.produced.map Reply.origin ++ s.responseWriter.held) :
    s'.given = s'.produced.map Reply.origin ++ s'.responseWriter.held := by
  cases h with
  | responderTake _ _ pc queue => simp [b, pc, ResponseWriterPc.held]
  | process _ _ _ pc reply => simp [b, pc, reply, ResponseWriterPc.held]
  | respond _ pc | respondRefused _ _ pc => simp [b, pc, ResponseWriterPc.held]
  | responderTest pc | responderLeave pc | responderWait pc | responderExit pc
  | responderWake pc => simp [b, pc, ResponseWriterPc.held]
  | _ => exact b

theorem received_step (b : s.received = s.accepted ++ s.tcpServer.held) :
    s'.received = s'.accepted ++ s'.tcpServer.held := by
  cases h with
  | receive _ _ _ _ pc | enqueue _ pc | record _ pc => simp [b, pc, TcpServerPc.held]
  | tcpTest pc | tcpExit pc | scanned pc | accept _ pc | acceptTooLarge _ pc | disconnect _ pc
  | removeClient _ pc | close _ pc | addClient _ _ pc | addClientFailed _ _ pc =>
    simp [b, pc, TcpServerPc.held]
  | _ => exact b

theorem seq_step (b : s.received.map Envelope.seq = List.range s.received.length) :
    s'.received.map Envelope.seq = List.range s'.received.length := by
  cases h with
  | receive => simp [b, List.range_succ]
  | _ => exact b

theorem replies_step (b : ∀ r ∈ s.produced, r.Computed) : ∀ r ∈ s'.produced, r.Computed := by
  cases h with
  | process e db r pc reply =>
    intro r' hr'
    rcases List.mem_append.mp hr' with hr' | hr'
    · exact b r' hr'
    · obtain rfl := List.mem_singleton.mp hr'
      subst reply
      exact ⟨db, s.store, rfl, rfl⟩
  | _ => exact b

theorem delivered_step (b : (s.delivered ++ s.responseReader.held).Sublist s.popped) :
    (s'.delivered ++ s'.responseReader.held).Sublist s'.popped := by
  cases h with
  | responsePop r rest pc queue =>
    simp only [pc, ResponseReaderPc.held, List.append_nil] at b
    exact b.append (.refl [r])
  | sendRest _ _ _ _ _ pc | sendPart _ _ _ _ _ pc | lookup _ _ pc =>
    simpa [pc, ResponseReaderPc.held] using b
  | responseTest pc | responseExit pc | responseNothing _ pc | lookupFailed _ pc
  | sendFailed _ _ _ pc =>
    refine .trans ?_ b
    simp [ResponseReaderPc.held]
  | _ => exact b

theorem toDatabaseRoom_step (b : s.toDatabase.length ≤ tcpToDatabaseQueueCapacity) :
    s'.toDatabase.length ≤ tcpToDatabaseQueueCapacity := by
  cases h with
  | writerPush _ _ room => simpa using Nat.succ_le_of_lt room
  | readerPop _ _ _ queue =>
    rw [queue] at b
    exact Nat.le_of_succ_le b
  | _ => exact b

theorem toTcpRoom_step (b : s.toTcp.length ≤ databaseToTcpQueueCapacity) :
    s'.toTcp.length ≤ databaseToTcpQueueCapacity := by
  cases h with
  | respond _ _ room => simpa using Nat.succ_le_of_lt room
  | responsePop _ _ _ queue =>
    rw [queue] at b
    exact Nat.le_of_succ_le b
  | _ => exact b

end Steps

theorem Books.initial (store : Store) : (State.initial store).Books := by
  constructor <;> simp [State.initial, RequestReaderPc.held, ResponseWriterPc.held,
    TcpServerPc.held, ResponseReaderPc.held]

theorem Books.step (b : s.Books) (h : Transition s a s') : s'.Books where
  taken := taken_step h b.taken
  given := given_step h b.given
  received := received_step h b.received
  seq := seq_step h b.seq
  replies := replies_step h b.replies
  delivered := delivered_step h b.delivered
  toDatabaseRoom := toDatabaseRoom_step h b.toDatabaseRoom
  toTcpRoom := toTcpRoom_step h b.toTcpRoom

-- ---------------------------------------------------------------------------
-- Runs
-- ---------------------------------------------------------------------------

section Reached

variable {store : Store} {actions : List Action}
  (hr : run State.step (State.initial store) actions = some t)
include hr

theorem reached_books : t.Books :=
  Runs.invariant (fun _ _ _ b h => b.step (step_cases h)) (.initial store) hr

theorem reached_requestFlow : t.requestFlow.Ordered ∧ t.requestFlow.Accounted := by
  refine Runs.invariant (I := fun s : State => s.requestFlow.Ordered ∧ s.requestFlow.Accounted) ?_
    ⟨?_, ?_⟩ hr
  · rintro s a s' ⟨hord, hacc⟩ h
    have hstep := requestFlow_step (step_cases h)
    exact ⟨hord.step hstep, hacc.step hstep⟩
  · exact .empty
  · exact .empty

theorem reached_responseFlow : t.responseFlow.Ordered ∧ t.responseFlow.Accounted := by
  refine Runs.invariant (I := fun s : State => s.responseFlow.Ordered ∧ s.responseFlow.Accounted) ?_
    ⟨?_, ?_⟩ hr
  · rintro s a s' ⟨hord, hacc⟩ h
    have hstep := responseFlow_step (step_cases h)
    exact ⟨hord.step hstep, hacc.step hstep⟩
  · exact .empty
  · exact .empty

theorem reached_full (hsem : ∀ a ∈ actions, a.semaphoresSucceed = true) :
    (∀ x ∈ t.discarded, x.2 = tcpToDatabaseQueueCapacity) ∧
      ∀ x ∈ t.refused, x.2 = databaseToTcpQueueCapacity := by
  have hinv : t.Books ∧ (∀ x ∈ t.discarded, x.2 = tcpToDatabaseQueueCapacity) ∧
      ∀ x ∈ t.refused, x.2 = databaseToTcpQueueCapacity := by
    refine Runs.invariant_along (C := fun _ a => Action.semaphoresSucceed a = true)
      (I := fun s => s.Books ∧ (∀ x ∈ s.discarded, x.2 = tcpToDatabaseQueueCapacity) ∧
        ∀ x ∈ s.refused, x.2 = databaseToTcpQueueCapacity) ?_
      ⟨.initial store, by simp [State.initial], by simp [State.initial]⟩ hr
      (.of_forall fun _ a ha => hsem a ha)
    rintro s a s' ⟨b, hd, hf⟩ hacq hstep
    have h := step_cases hstep
    refine ⟨b.step h, ?_⟩
    cases h with
    | writerDiscard e acquired pc full =>
      have hlevel := Nat.le_antisymm b.toDatabaseRoom (full hacq)
      exact ⟨by simpa [or_imp, forall_and, hlevel] using hd, hf⟩
    | respondRefused r acquired pc full =>
      have hlevel := Nat.le_antisymm b.toTcpRoom (full hacq)
      exact ⟨hd, by simpa [or_imp, forall_and, hlevel] using hf⟩
    | _ => exact ⟨hd, hf⟩
  exact hinv.2

end Reached

end State

-- ---------------------------------------------------------------------------
-- Sample schedules
-- ---------------------------------------------------------------------------

def connect (socket : Nat) : List Action :=
  [.tcpServer (.accept socket), .tcpServer .addClient]

def submit (socket : Nat) (request : TcpToDatabaseMessage) : List Action :=
  [.tcpServer (.receive socket request), .tcpServer .record, .tcpServer .enqueue,
   .requestWriter .lock, .requestWriter (.push true)]

def fetch : List Action :=
  [.requestReader .test, .requestReader (.pop true), .requestReader .enqueue,
   .requestReader .signal]

def answer (db : Sqlite) : List Action :=
  [.responseWriter .test, .responseWriter .lock, .responseWriter (.process db),
   .responseWriter (.push true)]

def deliver : List Action :=
  [.responseReader .test, .responseReader (.pop true), .responseReader .lookup,
   .responseReader (.send sizeofDatabaseToTcpMessage)]

def startRequest (n : Nat) : TcpToDatabaseMessage :=
  ⟨.ofNat n, .startParking, [.ofNat n], .finite 16, .finite 16, 100, 0⟩

def servedActions : List Action :=
  .tcpServer .test :: connect 4 ++ submit 4 (startRequest 1) ++ fetch ++ answer ⟨.succeed, 1⟩ ++
    deliver

def served : State :=
  (run State.step (State.initial Store.initial) servedActions).get (by decide +kernel)

theorem run_servedActions :
    run State.step (State.initial Store.initial) servedActions = some served :=
  (Option.some_get _).symm

def servedReply : Reply where
  origin := ⟨startRequest 1, 4, 0, 0⟩
  response :=
    { DatabaseToTcpMessage.zero with
      requestId := 1, action := .acknowledge, vehicleNumber := [1], parkingStartTime := 100 }
  committed := true

/-- 33 requests while Database does not look at its queue. -/
def unfetchedActions : List Action :=
  .tcpServer .test :: connect 4 ++
    (List.range 33).flatMap fun n => submit 4 (startRequest n)

/-- 33 requests while TcpServer does not look at its queue. -/
def undeliveredActions : List Action :=
  .tcpServer .test :: connect 4 ++
    (List.range 33).flatMap fun n => submit 4 (startRequest n) ++ fetch ++ answer ⟨.succeed, n⟩

-- ---------------------------------------------------------------------------
-- Order
-- ---------------------------------------------------------------------------

/-- Requests are processed in the order of their receipt and responses popped
in the order of processing, each at most once: the receipt numbers tell equal
requests apart. -/
theorem order_preserved (store : Store) (actions : List Action) (t : State)
    (hr : run State.step (State.initial store) actions = some t) :
    t.given.Sublist t.accepted ∧ t.popped.Sublist t.produced ∧
      (t.accepted.map Envelope.seq).Nodup ∧ (t.given.map Envelope.seq).Nodup ∧
      t.produced.map Reply.origin <+: t.given ∧
      t.delivered.Sublist t.popped ∧ (t.delivered.map (·.origin.seq)).Nodup := by
  have b := State.reached_books hr
  have hgiven : t.given.Sublist t.accepted := (State.reached_requestFlow hr).1.left_sublist
  have hpopped : t.popped.Sublist t.produced := (State.reached_responseFlow hr).1.left_sublist
  have hproduced : t.produced.map Reply.origin <+: t.given := ⟨_, b.given.symm⟩
  have hdelivered : t.delivered.Sublist t.popped :=
    .trans (List.sublist_append_left _ _) b.delivered
  have haccepted : (t.accepted.map Envelope.seq).Nodup := by
    have hreceived : (t.received.map Envelope.seq).Nodup := b.seq ▸ List.nodup_range
    rw [b.received, List.map_append] at hreceived
    exact hreceived.of_append_left
  have horigins : ((t.delivered.map Reply.origin).map Envelope.seq).Nodup := by
    have hsub : (t.delivered.map Reply.origin).Sublist t.accepted :=
      .trans ((hdelivered.trans hpopped).map _) (hproduced.sublist.trans hgiven)
    exact (hsub.map _).nodup haccepted
  rw [List.map_map] at horigins
  exact ⟨hgiven, hpopped, haccepted, (hgiven.map _).nodup haccepted, hproduced, hdelivered,
    horigins⟩

theorem order_preserved_served :
    served.given.Sublist served.accepted ∧ served.delivered.length = 1 :=
  ⟨(order_preserved Store.initial servedActions served run_servedActions).1, by decide +kernel⟩

-- ---------------------------------------------------------------------------
-- Nothing is lost but at a full queue
-- ---------------------------------------------------------------------------

/-- Where an accepted request can be. -/
theorem accepted_accounted (store : Store) (actions : List Action) (t : State)
    (hr : run State.step (State.initial store) actions = some t)
    (hsem : ∀ a ∈ actions, a.semaphoresSucceed = true) :
    ∀ e ∈ t.accepted, e ∈ t.tcpQueue ∨ t.requestWriter = .holding e ∨ e ∈ t.toDatabase ∨
      t.requestReader = .holding e ∨ e ∈ t.dbQueue ∨ e ∈ t.given ∨
      (e, tcpToDatabaseQueueCapacity) ∈ t.discarded := by
  intro e he
  rcases (State.reached_requestFlow hr).2.mem he with h | h | h
  · exact .inr (.inr (.inr (.inr (.inr (.inl h)))))
  · simp only [State.requestFlow, State.requestLine, List.mem_append, RequestWriterPc.mem_held,
      RequestReaderPc.mem_held] at h
    tauto
  · obtain ⟨⟨e', n⟩, hx, rfl⟩ := List.mem_map.mp h
    obtain rfl : n = _ := (State.reached_full hr hsem).1 _ hx
    exact .inr (.inr (.inr (.inr (.inr (.inr hx)))))

theorem accepted_accounted_served : servedReply.origin ∈ served.accepted ∧
    (servedReply.origin ∈ served.tcpQueue ∨ served.requestWriter = .holding servedReply.origin ∨
      servedReply.origin ∈ served.toDatabase ∨
      served.requestReader = .holding servedReply.origin ∨
      servedReply.origin ∈ served.dbQueue ∨ servedReply.origin ∈ served.given ∨
      (servedReply.origin, tcpToDatabaseQueueCapacity) ∈ served.discarded) :=
  ⟨by decide +kernel, accepted_accounted Store.initial servedActions served run_servedActions
    (by decide) _ (by decide +kernel)⟩

theorem accepted_not_always_kept :
    ¬ ∀ (store : Store) (actions : List Action) (t : State),
      run State.step (State.initial store) actions = some t →
      (∀ a ∈ actions, a.semaphoresSucceed = true) → t.tcpRunning = true → t.dbRunning = true →
      ∀ e ∈ t.accepted, e ∈ t.tcpQueue ∨ t.requestWriter = .holding e ∨ e ∈ t.toDatabase ∨
        t.requestReader = .holding e ∨ e ∈ t.dbQueue ∨ e ∈ t.given := by
  intro h
  have hlost : (run State.step (State.initial Store.initial) unfetchedActions).any (fun t =>
      t.tcpRunning ∧ t.dbRunning ∧ ∃ e ∈ t.accepted, ¬ (e ∈ t.tcpQueue ∨
        t.requestWriter = .holding e ∨ e ∈ t.toDatabase ∨ t.requestReader = .holding e ∨
        e ∈ t.dbQueue ∨ e ∈ t.given)) = true := by decide +kernel
  obtain ⟨t, hr, ht⟩ := (Option.any_eq_true _ _).mp hlost
  obtain ⟨htcp, hdb, e, he, hnone⟩ := of_decide_eq_true ht
  exact hnone (h Store.initial unfetchedActions t hr (by decide +kernel) htcp hdb e he)

/-- A committed START or END is answered SUCCESS, and once the response writer
has moved on its response is in the queue, was popped from it, or found it
full. -/
theorem committed_reported (store : Store) (actions : List Action) (t : State)
    (hr : run State.step (State.initial store) actions = some t)
    (hsem : ∀ a ∈ actions, a.semaphoresSucceed = true) :
    ∀ r ∈ t.produced, r.committed = true → r.response.status = .success ∧
      (t.responseWriter ≠ .responding r →
        r ∈ t.toTcp ∨ r ∈ t.popped ∨ (r, databaseToTcpQueueCapacity) ∈ t.refused) := by
  intro r hr' hcommitted
  refine ⟨((State.reached_books hr).replies r hr').status hcommitted, fun hmoved => ?_⟩
  rcases (State.reached_responseFlow hr).2.mem hr' with h | h | h
  · exact .inr (.inl h)
  · simp only [State.responseFlow, State.responseLine, List.mem_append,
      ResponseWriterPc.mem_reply] at h
    exact .inl (h.resolve_right hmoved)
  · obtain ⟨⟨r', n⟩, hx, rfl⟩ := List.mem_map.mp h
    obtain rfl : n = _ := (State.reached_full hr hsem).2 _ hx
    exact .inr (.inr hx)

theorem committed_reported_served : servedReply ∈ served.produced ∧
    servedReply.response.status = .success ∧ (served.responseWriter ≠ .responding servedReply →
      servedReply ∈ served.toTcp ∨ servedReply ∈ served.popped ∨
        (servedReply, databaseToTcpQueueCapacity) ∈ served.refused) :=
  ⟨by decide +kernel, committed_reported Store.initial servedActions served run_servedActions
    (by decide) _ (by decide +kernel) rfl⟩

theorem committed_not_always_reported :
    ¬ ∀ (store : Store) (actions : List Action) (t : State),
      run State.step (State.initial store) actions = some t →
      (∀ a ∈ actions, a.semaphoresSucceed = true) → t.tcpRunning = true → t.dbRunning = true →
      ∀ r ∈ t.produced, r.committed = true → t.responseWriter ≠ .responding r →
        r ∈ t.toTcp ∨ r ∈ t.popped := by
  intro h
  have hlost : (run State.step (State.initial Store.initial) undeliveredActions).any (fun t =>
      t.tcpRunning ∧ t.dbRunning ∧ ∃ r ∈ t.produced, r.committed ∧
        t.responseWriter ≠ .responding r ∧ ¬ (r ∈ t.toTcp ∨ r ∈ t.popped)) = true := by
    decide +kernel
  obtain ⟨t, hr, ht⟩ := (Option.any_eq_true _ _).mp hlost
  obtain ⟨htcp, hdb, r, hmem, hcommitted, hmoved, hnone⟩ := of_decide_eq_true ht
  exact hnone (h Store.initial undeliveredActions t hr (by decide +kernel) htcp hdb r hmem
    hcommitted hmoved)

end ParkingSystem
