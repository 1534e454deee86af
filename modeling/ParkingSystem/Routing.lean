import ParkingSystem.Pipeline

/-!
# Routing responses to clients

`pending_requests_` maps a request id to the descriptor the request was read
from. It is written when a request is received and consumed when its response
is popped, so it must agree with every request that is on its way in between,
wherever it is: in one of the four queues or in a thread's hands (`inFlight`).
It does as long as no two of them have the same id (`Matched`).

A descriptor names the same connection only until it is closed. `Registered`
ties the registered descriptors to the open ones, and `Home` says that a
response goes to the connection of its request as long as its descriptor is
not given to another connection.
-/

namespace ParkingSystem

open Runs (run Along)

def ResponseReaderPc.unmatched : ResponseReaderPc → List Reply
  | .holding r => [r]
  | _ => []

def ResponseReaderPc.socket : ResponseReaderPc → Option Nat
  | .sending _ socket _ => some socket
  | _ => none

def TcpServerPc.unrecorded : TcpServerPc → List Envelope
  | .received e => [e]
  | _ => []

def TcpServerPc.inTable : TcpServerPc → List Envelope
  | .recorded e => [e]
  | _ => []

namespace State

/-- Recorded in `pending_requests_` and still to be looked up, oldest first. -/
def inFlight (s : State) : List Envelope :=
  (s.responseReader.unmatched ++ s.responseLine).map Reply.origin ++ s.responseWriter.held ++
    s.requestLine ++ s.tcpServer.inTable

variable {s s' t : State} {a : Action}

theorem origin_mem_inFlight {r : Reply} (h : s.responseReader = .holding r) :
    r.origin ∈ s.inFlight := by
  simp [inFlight, h, ResponseReaderPc.unmatched]

structure Piped (s : State) : Prop where
  books : s.Books
  requests : s.requestFlow.Ordered
  responses : s.responseFlow.Ordered

theorem Piped.initial (store : Store) : (State.initial store).Piped :=
  ⟨.initial store, .empty, .empty⟩

theorem Piped.step (p : s.Piped) (h : Transition s a s') : s'.Piped :=
  ⟨p.books.step h, p.requests.step (requestFlow_step h), p.responses.step (responseFlow_step h)⟩

theorem Piped.produced (p : s.Piped) {r : Reply} (hr : r ∈ s.responseReader.held) :
    r ∈ s.produced :=
  p.responses.left_sublist.mem (p.books.delivered.mem (List.mem_append_right _ hr))

theorem Piped.holding (p : s.Piped) {r : Reply} (pc : s.responseReader = .holding r) :
    r ∈ s.produced :=
  p.produced (by simp [pc, ResponseReaderPc.held])

theorem Piped.sending (p : s.Piped) {r : Reply} {socket sent : Nat}
    (pc : s.responseReader = .sending r socket sent) : r ∈ s.produced :=
  p.produced (by simp [pc, ResponseReaderPc.held])

theorem Piped.received (p : s.Piped) {r : Reply} (hr : r ∈ s.produced) : r.origin ∈ s.received := by
  have hgiven : r.origin ∈ s.given := by
    rw [p.books.given]
    exact List.mem_append_left _ (List.mem_map_of_mem hr)
  rw [p.books.received]
  exact List.mem_append_left _ (p.requests.left_sublist.mem hgiven)

theorem Piped.inFlight_sublist (p : s.Piped) :
    (s.inFlight ++ s.tcpServer.unrecorded).Sublist s.received := by
  obtain ⟨b, hq, hp⟩ := p
  have hheld : s.responseReader.unmatched.Sublist s.responseReader.held := by
    cases s.responseReader <;> simp [ResponseReaderPc.unmatched, ResponseReaderPc.held]
  have hpopped : s.responseReader.unmatched.Sublist s.popped :=
    hheld.trans (.trans (List.sublist_append_right _ _) b.delivered)
  have hproduced : (s.responseReader.unmatched ++ s.responseLine).Sublist s.produced :=
    .trans (hpopped.append (.refl _)) hp
  have hgiven : ((s.responseReader.unmatched ++ s.responseLine).map Reply.origin ++
      s.responseWriter.held).Sublist s.given :=
    b.given ▸ (hproduced.map _).append (.refl _)
  have haccepted : ((s.responseReader.unmatched ++ s.responseLine).map Reply.origin ++
      s.responseWriter.held ++ s.requestLine).Sublist s.accepted :=
    .trans (hgiven.append (.refl _)) hq
  have hsplit : s.tcpServer.held = s.tcpServer.inTable ++ s.tcpServer.unrecorded := by
    cases s.tcpServer <;> rfl
  rw [b.received, hsplit, inFlight, List.append_assoc _ s.tcpServer.inTable]
  exact haccepted.append (.refl _)

theorem inFlight_step (h : Transition s a s') (ha : a ≠ .tcpServer .record) :
    s'.inFlight.Sublist s.inFlight := by
  cases h with
  | record e pc => exact absurd rfl ha
  | tcpTest pc | tcpExit pc | scanned pc | accept _ pc | acceptTooLarge _ pc | disconnect _ pc
  | removeClient _ pc | close _ pc | addClient _ _ pc | addClientFailed _ _ pc
  | receive _ _ _ _ pc | enqueue _ pc =>
    simp [inFlight, requestLine, responseLine, pc, TcpServerPc.inTable]
  | writerWait pc | writerExit pc | writerWake pc | writerPush _ pc | writerTake _ _ pc
  | writerDiscard _ _ pc =>
    simp [inFlight, requestLine, responseLine, RequestWriterPc.held, *]
  | readerTest pc | readerExit pc | readerSignal pc | readerPop _ _ pc | readerNothing _ pc
  | readerEnqueue _ pc =>
    simp [inFlight, requestLine, responseLine, RequestReaderPc.held, *]
  | responderTest pc | responderLeave pc | responderWait pc | responderExit pc
  | responderWake pc | responderTake _ _ pc | process _ _ _ pc | respond _ pc
  | respondRefused _ _ pc =>
    simp [inFlight, requestLine, responseLine, ResponseWriterPc.held, ResponseWriterPc.reply, *]
  | responseTest pc | responseExit pc | responseNothing _ pc | responsePop _ _ pc
  | lookupFailed _ pc | lookup _ _ pc | sendRest _ _ _ _ _ pc | sendPart _ _ _ _ _ pc
  | sendFailed _ _ _ pc =>
    simp [inFlight, requestLine, responseLine, ResponseReaderPc.unmatched, *]
  | _ => exact .refl _

-- ---------------------------------------------------------------------------
-- The table and what is in flight
-- ---------------------------------------------------------------------------

structure Matched (s : State) : Prop where
  ids : (s.inFlight.map Envelope.id).Nodup
  pending : ∀ e ∈ s.inFlight, s.pending.lookup e.id = some e.socket
  sending : ∀ r socket sent, s.responseReader = .sending r socket sent → socket = r.origin.socket
  sent : ∀ c ∈ s.sent, c.socket = c.reply.origin.socket

/-- No request in flight has the id of the one that is recorded. -/
def FreshId (s : State) : Action → Prop
  | .tcpServer .record => ∀ e ∈ s.tcpServer.unrecorded, ∀ e' ∈ s.inFlight, e'.id ≠ e.id
  | _ => True

theorem Matched.initial (store : Store) : (State.initial store).Matched := by
  constructor <;> simp [State.initial, inFlight, requestLine, responseLine, RequestReaderPc.held,
    RequestWriterPc.held, ResponseWriterPc.held, ResponseWriterPc.reply, ResponseReaderPc.unmatched,
    TcpServerPc.inTable]

theorem Matched.of_sublist (m : s.Matched) (hsub : s'.inFlight.Sublist s.inFlight)
    (hpending : s'.pending = s.pending)
    (hsent : ∀ c ∈ s'.sent, c.socket = c.reply.origin.socket)
    (hsending : ∀ r socket sent, s'.responseReader = .sending r socket sent →
      socket = r.origin.socket) : s'.Matched where
  ids := (hsub.map _).nodup m.ids
  pending := fun e he => hpending ▸ m.pending e (hsub.mem he)
  sending := hsending
  sent := hsent

theorem Matched.record (m : s.Matched) {e : Envelope} (pc : s.tcpServer = .received e)
    (hfresh : ∀ e' ∈ s.inFlight, e'.id ≠ e.id) :
    { s with pending := s.pending.insert e.id e.socket, tcpServer := .recorded e }.Matched := by
  have hin : { s with
      pending := s.pending.insert e.id e.socket, tcpServer := .recorded e }.inFlight =
        s.inFlight ++ [e] := by
    simp [inFlight, requestLine, responseLine, pc, TcpServerPc.inTable]
  refine ⟨?_, ?_, m.sending, m.sent⟩
  · rw [hin, List.map_append]
    refine m.ids.append (by simp) ?_
    simpa [List.disjoint_left] using fun e' he' => hfresh e' he'
  · rw [hin]
    intro e' he'
    rcases List.mem_append.mp he' with he' | he'
    · rw [AList.lookup_insert_ne (hfresh e' he')]
      exact m.pending e' he'
    · obtain rfl := List.mem_singleton.mp he'
      exact AList.lookup_insert _

/-- The response finds the descriptor of its own request. -/
theorem Matched.lookup_holding (m : s.Matched) (p : s.Piped) {r : Reply}
    (pc : s.responseReader = .holding r) :
    s.pending.lookup r.response.requestId = some r.origin.socket := by
  have hr := p.holding pc
  rw [(p.books.replies r hr).requestId]
  exact m.pending _ (origin_mem_inFlight pc)

theorem Matched.lookup (m : s.Matched) (p : s.Piped) {r : Reply}
    (pc : s.responseReader = .holding r) :
    { s with
      pending := s.pending.erase r.response.requestId
      responseReader := .sending r r.origin.socket 0 }.Matched := by
  have hr := p.holding pc
  have hin : s.inFlight = r.origin :: { s with
      pending := s.pending.erase r.response.requestId
      responseReader := .sending r r.origin.socket 0 }.inFlight := by
    simp [inFlight, requestLine, responseLine, pc, ResponseReaderPc.unmatched]
  have hids := m.ids
  rw [hin, List.map_cons, List.nodup_cons] at hids
  refine ⟨hids.2, ?_, ?_, m.sent⟩
  · intro e he
    have hne : e.id ≠ r.response.requestId := by
      rw [(p.books.replies r hr).requestId]
      exact fun heq => hids.1 (heq ▸ List.mem_map_of_mem he)
    refine (AList.lookup_erase_ne hne).trans (m.pending e ?_)
    rw [hin]
    exact List.mem_cons_of_mem _ he
  · rintro r' socket sent ⟨⟩
    rfl

theorem Matched.send (m : s.Matched) {r : Reply} {socket sent conn bytes : Nat}
    (pc : s.responseReader = .sending r socket sent) :
    ∀ c ∈ s.sent ++ [⟨r, socket, conn, bytes⟩], c.socket = c.reply.origin.socket := by
  intro c hc
  rcases List.mem_append.mp hc with hc | hc
  · exact m.sent c hc
  · obtain rfl := List.mem_singleton.mp hc
    exact m.sending r socket sent pc

theorem Matched.step (m : s.Matched) (p : s.Piped) (hfresh : s.FreshId a)
    (h : Transition s a s') : s'.Matched := by
  have hsub := inFlight_step h
  cases h with
  | record e pc =>
    exact m.record pc (hfresh e (by simp [pc, TcpServerPc.unrecorded]))
  | lookup r socket pc found =>
    obtain rfl : r.origin.socket = socket :=
      Option.some.inj ((m.lookup_holding p pc).symm.trans found)
    exact m.lookup p pc
  | sendRest r socket sent conn bytes pc =>
    exact m.of_sublist (hsub nofun) rfl (m.send pc) (fun _ _ _ hpc => nomatch hpc)
  | sendPart r socket sent conn bytes pc =>
    refine m.of_sublist (hsub nofun) rfl (m.send pc) ?_
    rintro r' socket' sent' ⟨⟩
    exact m.sending r socket sent pc
  | responseTest | responseExit | responsePop | responseNothing | lookupFailed | sendFailed =>
    exact m.of_sublist (hsub nofun) rfl m.sent (fun _ _ _ hpc => nomatch hpc)
  | _ => exact m.of_sublist (hsub nofun) rfl m.sent m.sending

-- ---------------------------------------------------------------------------
-- Descriptors and connections
-- ---------------------------------------------------------------------------

def Knows (s : State) : TcpServerPc → Prop
  | .registering socket conn => s.clients.lookup socket = none ∧ s.sockets socket = some conn
  | .closing socket => s.clients.lookup socket = none
  | .received e | .recorded e => s.clients.lookup e.socket = some e.conn
  | _ => True

/-- A registered descriptor is open, until the tcp thread closes them all. -/
structure Registered (s : State) : Prop where
  clients : ∀ socket conn, s.clients.lookup socket = some conn →
    s.sockets socket = some conn ∨ (s.tcpServer = .stopped ∧ s.sockets socket = none)
  thread : s.Knows s.tcpServer

theorem Registered.initial (store : Store) : (State.initial store).Registered :=
  ⟨by simp [State.initial], trivial⟩

theorem Registered.isOpen (g : s.Registered) (hpc : s.tcpServer ≠ .stopped) {socket conn : Nat}
    (h : s.clients.lookup socket = some conn) : s.sockets socket = some conn :=
  (g.clients socket conn h).resolve_right fun hstop => hpc hstop.1

theorem Registered.unknown (g : s.Registered) (hpc : s.tcpServer ≠ .stopped) {socket : Nat}
    (h : s.sockets socket = none) : s.clients.lookup socket = none := by
  cases hc : s.clients.lookup socket with
  | none => rfl
  | some conn =>
    rw [g.isOpen hpc hc] at h
    cases h

theorem Registered.update (g : s.Registered) (hpc : s.tcpServer ≠ .stopped) {socket : Nat}
    (unknown : s.clients.lookup socket = none) {new : Option Nat} {other conn : Nat}
    (h : s.clients.lookup other = some conn) :
    Function.update s.sockets socket new other = some conn := by
  have hne : other ≠ socket := by
    rintro rfl
    rw [unknown] at h
    cases h
  rw [Function.update_of_ne hne]
  exact g.isOpen hpc h

theorem Registered.step (g : s.Registered) (h : Transition s a s') : s'.Registered := by
  obtain ⟨hclients, hthread⟩ := id g
  cases h with
  | tcpTest pc | scanned pc | disconnect _ pc =>
    exact ⟨fun _ _ hc => .inl (g.isOpen (by simp [pc]) hc), trivial⟩
  | tcpExit pc =>
    refine ⟨fun socket conn hc => .inr ⟨rfl, ?_⟩, trivial⟩
    have hc' : s.clients.lookup socket = some conn := hc
    simp [closedClients, hc']
  | accept socket pc free fits =>
    have hunknown := g.unknown (by simp [pc]) free
    exact ⟨fun _ _ hc => .inl (g.update (by simp [pc]) hunknown hc), hunknown,
      Function.update_self ..⟩
  | acceptTooLarge socket pc free large =>
    have hunknown := g.unknown (by simp [pc]) free
    exact ⟨fun _ _ hc => .inl (g.update (by simp [pc]) hunknown hc), hunknown⟩
  | addClient socket conn pc unknown =>
    rw [pc] at hthread
    refine ⟨fun other conn' hc => .inl ?_, trivial⟩
    by_cases hne : other = socket
    · subst hne
      obtain rfl := Option.some.inj ((AList.lookup_insert _).symm.trans hc)
      exact hthread.2
    · exact g.isOpen (by simp [pc]) ((AList.lookup_insert_ne hne).symm.trans hc)
  | addClientFailed socket conn pc known =>
    rw [pc] at hthread
    simp [hthread.1] at known
  | receive socket registered conn request pc client isOpen =>
    have hopen := g.isOpen (by simp [pc]) client
    obtain rfl : registered = conn := Option.some.inj (hopen.symm.trans isOpen)
    exact ⟨fun _ _ hc => .inl (g.isOpen (by simp [pc]) hc), client⟩
  | record e pc =>
    rw [pc] at hthread
    exact ⟨fun _ _ hc => .inl (g.isOpen (by simp [pc]) hc), hthread⟩
  | enqueue e pc => exact ⟨fun _ _ hc => .inl (g.isOpen (by simp [pc]) hc), trivial⟩
  | removeClient socket pc =>
    refine ⟨fun other conn hc => .inl ?_, AList.lookup_erase ..⟩
    have hne : other ≠ socket := by
      rintro rfl
      cases (AList.lookup_erase _ _).symm.trans hc
    exact g.isOpen (by simp [pc]) ((AList.lookup_erase_ne hne).symm.trans hc)
  | close socket pc =>
    rw [pc] at hthread
    exact ⟨fun _ _ hc => .inl (g.update (by simp [pc]) hthread hc), trivial⟩
  | _ => exact ⟨hclients, hthread⟩

-- ---------------------------------------------------------------------------
-- Responses and connections
-- ---------------------------------------------------------------------------

/-- `accept` does not return the descriptor of a response that is being sent. -/
def NoReuse (s : State) : Action → Prop
  | .tcpServer (.accept socket) => s.responseReader.socket ≠ some socket
  | _ => True

/-- `remove_client` finds no entry of its client in `pending_requests_`. -/
def NoTeardown (s : State) : Action → Prop
  | .tcpServer .removeClient =>
    ∀ p ∈ s.pending.entries, s.tcpServer ≠ .disconnecting p.2
  | _ => True

instance (s : State) (a : Action) : Decidable (s.NoReuse a) := by
  unfold NoReuse
  split <;> infer_instance

instance (s : State) (a : Action) : Decidable (s.NoTeardown a) := by
  unfold NoTeardown
  split <;> infer_instance

/-- The descriptor still belongs to the client of the response, or is closed. -/
def SendsHome (s : State) : ResponseReaderPc → Prop
  | .sending r socket _ => s.sockets socket = some r.origin.conn ∨ s.sockets socket = none
  | _ => True

structure Home (s : State) : Prop where
  sending : s.SendsHome s.responseReader
  sent : ∀ c ∈ s.sent, c.conn = c.reply.origin.conn

theorem Home.initial (store : Store) : (State.initial store).Home :=
  ⟨trivial, by simp [State.initial]⟩

theorem Home.send (m : s.Home) {r : Reply} {socket sent conn bytes : Nat}
    (pc : s.responseReader = .sending r socket sent) (isOpen : s.sockets socket = some conn) :
    ∀ c ∈ s.sent ++ [⟨r, socket, conn, bytes⟩], c.conn = c.reply.origin.conn := by
  intro c hc
  rcases List.mem_append.mp hc with hc | hc
  · exact m.sent c hc
  · obtain rfl := List.mem_singleton.mp hc
    have hs := m.sending
    rw [pc] at hs
    rcases hs with hs | hs
    · exact Option.some.inj (isOpen.symm.trans hs)
    · cases isOpen.symm.trans hs

theorem SendsHome.of_sockets {pc : ResponseReaderPc} (m : s.SendsHome pc)
    (h : ∀ socket, pc.socket = some socket →
      s'.sockets socket = s.sockets socket ∨ s'.sockets socket = none) : s'.SendsHome pc := by
  cases pc with
  | sending r socket sent =>
    rcases h socket rfl with h | h
    · exact (show s.sockets socket = _ ∨ s.sockets socket = none from m).imp h.trans h.trans
    · exact .inr h
  | _ => trivial

theorem Home.step (m : s.Home) (g : s.Registered) (hreuse : s.NoReuse a)
    (hfound : ∀ r socket, s.responseReader = .holding r →
      s.pending.lookup r.response.requestId = some socket →
      s.clients.lookup socket = some r.origin.conn)
    (h : Transition s a s') : s'.Home := by
  cases h with
  | tcpExit =>
    refine ⟨m.sending.of_sockets fun socket _ => ?_, m.sent⟩
    simp only [closedClients]
    split <;> simp
  | accept socket | acceptTooLarge socket =>
    refine ⟨m.sending.of_sockets fun other hother => .inl ?_, m.sent⟩
    have hne : other ≠ socket := by
      rintro rfl
      exact hreuse hother
    exact Function.update_of_ne hne ..
  | close socket =>
    refine ⟨m.sending.of_sockets fun other _ => ?_, m.sent⟩
    by_cases hne : other = socket
    · exact .inr (hne ▸ Function.update_self ..)
    · exact .inl (Function.update_of_ne hne ..)
  | lookup r socket pc found =>
    refine ⟨?_, m.sent⟩
    rcases g.clients socket _ (hfound r socket pc found) with hopen | ⟨-, hclosed⟩
    · exact .inl hopen
    · exact .inr hclosed
  | sendRest r socket sent conn bytes pc isOpen => exact ⟨trivial, m.send pc isOpen⟩
  | sendPart r socket sent conn bytes pc isOpen =>
    refine ⟨?_, m.send pc isOpen⟩
    have hs := m.sending
    rw [pc] at hs
    exact hs
  | responseTest | responseExit | responsePop | responseNothing | lookupFailed | sendFailed =>
    exact ⟨trivial, m.sent⟩
  | _ => exact ⟨m.sending, m.sent⟩

theorem received_grows (h : Transition s a s') : s.received <+: s'.received := by
  cases h with
  | receive => exact List.prefix_append _ _
  | _ => exact List.prefix_refl _

end State
end ParkingSystem
