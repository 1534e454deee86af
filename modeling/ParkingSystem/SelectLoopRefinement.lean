import ParkingSystem.SelectLoop
import ParkingSystem.TcpThread

/-!
# The select loop is the tcp thread

`select_loop_refined`: `tcp_server_loop` with `receive_client_request`, `add_client` and
`remove_client`, one call at a time and with the other threads between any two calls, is the
tcp thread of the system. What the thread does in one step the loop does in several: it
receives a request piece by piece, and closes its clients one after the other.
-/

namespace ParkingSystem.SelectLoop

open Runs (run trace Shown)

def Action.Succeeds : Action → Prop
  | .locked outcome => outcome = .done
  | .queued outcome => outcome = .done
  | _ => True

-- ---------------------------------------------------------------------------
-- Events
-- ---------------------------------------------------------------------------

section Events

variable (beyond : List UInt8) (s : State)

def State.failedEvents : List TcpThreadEvent := if s.running then [.failed] else []

def State.takenEvents : List TcpThreadEvent :=
  s.requestQueue.head?.toList.map fun request => .taken (request.message beyond)

/-- What a step does to the shared variables. -/
def State.events (a : Action) : List TcpThreadEvent :=
  match a, s.pc with
  | .stop, _ => [.stopped]
  | .answered requestId, _ => [.answered requestId]
  | .taken, _ => s.takenEvents beyond
  | .socket none, _ | .call false, _ | .select .failed, _ => s.failedEvents
  | .locked .done, .assign descriptor request => [.recorded (request.word64 0) descriptor]
  | .queued .done, .push _ request => [.queued (request.message beyond)]
  | _, _ => []

end Events

-- ---------------------------------------------------------------------------
-- Relation
-- ---------------------------------------------------------------------------

section Relation

variable (beyond : List UInt8)

structure Carries (files : FileTable) (descriptor : Nat) (request : Frame) (e : Envelope) :
    Prop where
  request : e.request = request.message beyond
  socket : e.socket = descriptor
  conn : files.opening descriptor = some e.conn

variable (s : State)

/-- Where the thread stands when the loop is at a place, and which connections it has. -/
def State.StandsAt (t : ParkingSystem.State) : Pc → Prop
  | .socket | .setsockopt | .bind | .listen | .test =>
    t.tcpServer = .test ∧ t.sockets = s.files.opening
  | .select | .scan _ | .accept _ | .receive _ _ =>
    t.tcpServer = .scanning ∧ t.sockets = s.files.opening
  | .addClient _ client =>
    (∃ conn, t.tcpServer = .registering client conn) ∧ t.sockets = s.files.opening
  | .assign descriptor request =>
    (∃ e, t.tcpServer = .received e ∧ Carries beyond s.files descriptor request e) ∧
      t.sockets = s.files.opening
  | .push descriptor request =>
    (∃ e, t.tcpServer = .recorded e ∧ Carries beyond s.files descriptor request e) ∧
      t.sockets = s.files.opening
  | .disconnect descriptor =>
    t.tcpServer = .disconnecting descriptor ∧ t.sockets = s.files.opening
  -- the thread closes its clients when the loop has closed the last one
  | .cleanup _ => t.tcpServer = .test ∧ s.running = false ∧
      (∀ d i, s.files.opening d = some i → t.sockets d = some i) ∧
      ∀ d, (t.sockets d).isSome → d ∈ s.clients
  | .closeServer | .returned => t.tcpServer = .stopped ∧ t.sockets = s.files.opening

structure Implements (t : ParkingSystem.State) : Prop where
  running : t.tcpRunning = s.running
  clients : ∀ d, (t.clients.lookup d).isSome ↔ d ∈ s.clients
  pending : ∀ requestId, t.pending.lookup requestId = s.pendingRequests requestId
  queue : t.tcpQueue.map (·.request) = s.requestQueue.map (·.message beyond)
  accepted : t.accepted.map (fun e => (some e.conn, e.request)) =
    s.pushed.map fun entry => (entry.1, entry.2.message beyond)
  connections : t.nextConn = s.files.openings
  place : s.StandsAt beyond t s.pc

/-- The thread gets there in any number of steps that show the given events. -/
def Follows (t : ParkingSystem.State) (events : List TcpThreadEvent) : Prop :=
  ∃ t', Implements beyond s t' ∧
    Shown ParkingSystem.State.tcpThread ParkingSystem.State.tcpThreadEvents t t' events

end Relation

-- ---------------------------------------------------------------------------
-- The calls
-- ---------------------------------------------------------------------------

section Steps

variable {beyond : List UInt8} {s s' : State} {t m : ParkingSystem.State} {a : Action}
  {b : TcpServerAction} {d client : Nat} {request : Frame} {event : TcpThreadEvent}
  {events : List TcpThreadEvent}

theorem Follows.hidden (h : Implements beyond s t) : Follows beyond s t [] := ⟨t, h, .nil⟩

theorem Follows.shown (hb : t.Transition (.tcpServer b) m) (hevents : t.tcpServerEvents b = [event])
    (h : Follows beyond s m events) : Follows beyond s t (event :: events) := by
  obtain ⟨t', himplements, hshown⟩ := h
  have hone : Shown ParkingSystem.State.tcpThread ParkingSystem.State.tcpThreadEvents t m [event] :=
    .one hb.taken hevents
  exact ⟨t', himplements, hone.append hshown⟩

theorem Follows.silent (hb : t.Transition (.tcpServer b) m) (hevents : t.tcpServerEvents b = [])
    (h : Follows beyond s m events) : Follows beyond s t events := by
  obtain ⟨t', himplements, hshown⟩ := h
  have hone : Shown ParkingSystem.State.tcpThread ParkingSystem.State.tcpThreadEvents t m [] :=
    .one hb.taken hevents
  exact ⟨t', himplements, hone.append hshown⟩

theorem State.standsAt_of_starts {pc : Pc} (h : pc.starts = true) :
    s.StandsAt beyond t pc ↔ t.tcpServer = .test ∧ t.sockets = s.files.opening := by
  cases pc <;> first | exact Iff.rfl | cases h

theorem giveUp_follows (htidy : s.Tidy) (h : Implements beyond s t) (hpc : s.pc.starts = true) :
    Follows beyond s.giveUp t s.failedEvents := by
  obtain ⟨htest, hsockets⟩ := (State.standsAt_of_starts hpc).mp h.place
  have hclosed : ∀ d, s.files.opening d = none := fun d =>
    State.Opens.opening_eq_none ((State.at_of_starts hpc).mp htidy.atPc) id
  have hcleared : t.closedClients = s.files.opening := by
    funext d
    rw [ParkingSystem.State.closedClients, hsockets, hclosed, ite_self]
  rw [State.failedEvents]
  split
  · rename_i hrunning
    refine .shown (.selectFailed htest (h.running.trans hrunning)) rfl ?_
    refine .silent (.tcpExit htest rfl) rfl (.hidden ?_)
    exact { h with running := rfl, place := ⟨rfl, hcleared⟩ }
  · rename_i hrunning
    have hstopped : t.tcpRunning = false := h.running.trans (Bool.not_eq_true _ ▸ hrunning)
    refine .silent (.tcpExit htest hstopped) rfl (.hidden ?_)
    exact { h with running := hstopped, place := ⟨rfl, hcleared⟩ }

theorem start_follows (h : Implements beyond s t) {server : Option Nat} {pc : Pc}
    (hpc : s.pc.starts = true) (hpc' : pc.starts = true) :
    Follows beyond { s with serverSocket := server, pc := pc } t [] := by
  have hplace := (State.standsAt_of_starts hpc).mp h.place
  exact .hidden { h with place := (State.standsAt_of_starts hpc').mpr hplace }

theorem monitor_follows (h : Implements beyond s t) (hpc : s.pc.starts = true)
    (hs : s.monitor = some s') : Follows beyond s' t [] := by
  have hplace := (State.standsAt_of_starts hpc).mp h.place
  obtain ⟨l, -, -, rfl⟩ := monitor_cases hs
  exact .hidden { h with place := hplace }

theorem cleanup_stands (hopen : s.Opens s.IsClient) (hclients : ∀ d, d ∈ s.clients ↔ s.IsClient d)
    (hsockets : t.sockets = s.files.opening) :
    (∀ d i, s.files.opening d = some i → t.sockets d = some i) ∧
      ∀ d, (t.sockets d).isSome → d ∈ s.clients := by
  rw [hsockets]
  exact ⟨fun _ _ => id, fun d hd => (hclients d).mpr ((hopen d).mp hd)⟩

theorem test_follows (htidy : s.Tidy) (hregistered : s.RegisteredAt s.pc)
    (h : Implements beyond s t) (hpc : s.pc = .test) :
    Follows beyond { s with pc := if s.running then .select else .cleanup 0 } t [] := by
  have hat := htidy.atPc
  have hplace := h.place
  rw [hpc] at hat hplace hregistered
  obtain ⟨htest, hsockets⟩ := hplace
  by_cases hrunning : s.running = true
  · rw [if_pos hrunning]
    refine .silent (.tcpTest htest (h.running.trans hrunning)) rfl (.hidden ?_)
    exact { h with place := ⟨rfl, hsockets⟩ }
  · rw [if_neg hrunning]
    have hclean := cleanup_stands hat.2 hregistered hsockets
    exact .hidden { h with place := ⟨htest, Bool.not_eq_true _ ▸ hrunning, hclean⟩ }

theorem select_follows (htidy : s.Tidy) (hregistered : s.RegisteredAt s.pc)
    (h : Implements beyond s t) {result : Selected} (hpc : s.pc = .select)
    (hs : selectCall s result = some s') :
    Follows beyond s' t (s.events beyond (.select result)) := by
  have hat := htidy.atPc
  have hplace := h.place
  rw [hpc] at hat hplace hregistered
  obtain ⟨hscanning, hsockets⟩ := hplace
  cases result with
  | ready set =>
    rw [selectCall] at hs
    split at hs <;> cases hs
    exact .hidden { h with place := ⟨hscanning, hsockets⟩ }
  | interrupted =>
    cases hs
    refine .silent (.scanned hscanning) rfl (.hidden ?_)
    exact { h with place := ⟨rfl, hsockets⟩ }
  | failed =>
    cases hs
    have hclean := cleanup_stands hat.2 hregistered hsockets
    refine .silent (.scanned hscanning) rfl ?_
    change Follows beyond _ _ s.failedEvents
    rw [State.failedEvents]
    split
    · rename_i hrunning
      refine .shown (.selectFailed rfl (h.running.trans hrunning)) rfl (.hidden ?_)
      exact { h with running := rfl, place := ⟨rfl, rfl, hclean⟩ }
    · rename_i hrunning
      have hstopped : t.tcpRunning = false := h.running.trans (Bool.not_eq_true _ ▸ hrunning)
      exact .hidden { h with running := hstopped, place := ⟨rfl, rfl, hclean⟩ }

theorem scan_follows (h : Implements beyond s t) (hpc : s.pc = .scan d) :
    Follows beyond (scanNext s d) t [] := by
  have hplace := h.place
  rw [hpc] at hplace
  obtain ⟨hscanning, hsockets⟩ := hplace
  obtain ⟨pc, hscan, rfl | rfl | rfl | ⟨rfl, -, -⟩⟩ := scanNext_cases s d <;> rw [hscan]
  · exact .hidden { h with place := ⟨hscanning, hsockets⟩ }
  · exact .hidden { h with place := ⟨hscanning, hsockets⟩ }
  · refine .silent (.scanned hscanning) rfl (.hidden ?_)
    exact { h with place := ⟨rfl, hsockets⟩ }
  · exact .hidden { h with place := ⟨hscanning, hsockets⟩ }

theorem accept_follows (htidy : s.Tidy) (h : Implements beyond s t)
    {result : Option (Nat × List UInt8)} (hpc : s.pc = .accept d)
    (hs : acceptCall s d result = some s') : Follows beyond s' t [] := by
  have hfiles := htidy.files
  have hplace := h.place
  rw [hpc] at hplace
  obtain ⟨hscanning, hsockets⟩ := hplace
  rcases acceptCall_cases hs with rfl | ⟨client, stream, -, -, hclosed, hfits⟩
  · exact .hidden { h with place := ⟨hscanning, hsockets⟩ }
  have hfree : t.sockets client = none := by rw [hsockets, hclosed]
  have hopened : Function.update t.sockets client (some t.nextConn) =
      (s.files.allocate client).opening := by
    rw [hsockets, h.connections, hfiles.opening_allocate_eq]
  have hconn : t.nextConn + 1 = (s.files.allocate client).openings :=
    congrArg Nat.succ h.connections
  rcases hfits with ⟨hlarge, rfl⟩ | ⟨hfits, rfl⟩
  · have hopening : (s.files.allocate client).opening client = some s.files.openings := by
      rw [hfiles.opening_allocate, if_pos rfl]
    refine .silent (.acceptTooLarge client hscanning hfree (Nat.not_lt_of_le hlarge)) rfl ?_
    refine .silent (.close client rfl) rfl (.hidden ?_)
    refine { h with connections := hconn.trans FileTable.openings_close.symm, place := ⟨rfl, ?_⟩ }
    exact (congrArg (Function.update · client none) hopened).trans
      ((hfiles.allocate hclosed).opening_close_eq hopening).symm
  · refine .silent (.accept client hscanning hfree hfits) rfl (.hidden ?_)
    exact { h with connections := hconn, place := ⟨⟨_, rfl⟩, hopened⟩ }

theorem register_follows (htidy : s.Tidy) (hregistered : s.RegisteredAt s.pc)
    (h : Implements beyond s t) (hpc : s.pc = .addClient d client)
    (hs : registerClient s d client .done = some s') : Follows beyond s' t [] := by
  have hat := htidy.atPc
  have hplace := h.place
  rw [hpc] at hat hplace hregistered
  obtain ⟨-, -, -, -, hmem⟩ := hat
  obtain ⟨⟨conn, hregistering⟩, hsockets⟩ := hplace
  have hnew : client ∉ s.clients := fun hclient =>
    State.IsClient.of_not_mem hmem ((hregistered client).mp hclient)
  have hunknown : t.clients.lookup client = none := by
    rw [← Option.not_isSome_iff_eq_none, h.clients]
    exact hnew
  rw [registerClient, addClient, if_neg hnew] at hs
  obtain ⟨set, -, rfl⟩ := Option.map_eq_some_iff.mp hs
  refine .silent (.addClient client conn hregistering hunknown) rfl (.hidden ?_)
  refine { h with clients := fun x => ?_, place := ⟨rfl, hsockets⟩ }
  change ((t.clients.insert client conn).lookup x).isSome ↔ x ∈ insert client s.clients
  rw [AList.lookup_isSome, AList.mem_insert, ← AList.lookup_isSome, h.clients, Finset.mem_insert]

/-- The thread receives a request when the loop has all of it. -/
theorem recv_follows (htidy : s.Tidy) (hregistered : s.RegisteredAt s.pc)
    (h : Implements beyond s t) {received : List UInt8} {result : Received}
    (hpc : s.pc = .receive d received) (hs : recvCall s d received result = some s') :
    Follows beyond s' t [] := by
  have hat := htidy.atPc
  have hplace := h.place
  rw [hpc] at hat hplace hregistered
  obtain ⟨-, -, -, hclient⟩ := hat
  obtain ⟨hscanning, hsockets⟩ := hplace
  have hknown : (t.clients.lookup d).isSome := (h.clients d).mpr ((hregistered d).mpr hclient)
  have hdisconnect (connections : Nat → Connection) :
      Follows beyond { s with connections := connections, pc := .disconnect d } t [] := by
    refine .silent (.disconnect d hscanning hknown) rfl (.hidden ?_)
    exact { h with place := ⟨rfl, hsockets⟩ }
  cases result with
  | data first rest =>
    obtain ⟨i, hopen, -, -, rfl⟩ := recvCall_data hs
    by_cases hfull : (received ++ first :: rest).length = sizeofTcpToDatabaseMessage
    · obtain ⟨registered, hlookup⟩ := Option.isSome_iff_exists.mp hknown
      rw [dif_pos hfull]
      refine .silent (.receive d registered i (Frame.message ⟨_, hfull⟩ beyond) hscanning hlookup
        (hsockets ▸ hopen)) rfl (.hidden ?_)
      exact { h with place := ⟨⟨_, rfl, rfl, rfl, hopen⟩, hsockets⟩ }
    · rw [dif_neg hfull]
      exact .hidden { h with place := ⟨hscanning, hsockets⟩ }
  | disconnected =>
    obtain ⟨i, -, -, rfl⟩ := recvCall_disconnected hs
    exact hdisconnect _
  | interrupted =>
    cases hs
    exact .hidden h
  | failed =>
    cases hs
    exact hdisconnect s.connections

theorem assign_follows (h : Implements beyond s t) (hpc : s.pc = .assign d request) :
    Follows beyond (assignCall s d request .done) t [.recorded (request.word64 0) d] := by
  have hplace := h.place
  rw [hpc] at hplace
  obtain ⟨⟨e, hreceived, hcarries⟩, hsockets⟩ := hplace
  have hid : e.id = request.word64 0 := by
    rw [Envelope.id, hcarries.request]
    rfl
  have hevents : t.tcpServerEvents .record = [.recorded (request.word64 0) d] := by
    simp [ParkingSystem.State.tcpServerEvents, hreceived, hid, hcarries.socket]
  refine .shown (.record e hreceived) hevents (.hidden ?_)
  refine { h with
    pending := fun requestId => ?_
    place := ⟨⟨e, rfl, hcarries.request, hcarries.socket, hcarries.conn⟩, hsockets⟩ }
  change (t.pending.insert e.id e.socket).lookup requestId =
    Function.update s.pendingRequests (request.word64 0) (some d) requestId
  rw [hid, hcarries.socket, Function.update_apply]
  split
  · rename_i heq
    rw [heq, AList.lookup_insert]
  · rename_i hne
    rw [AList.lookup_insert_ne hne, h.pending]

theorem push_follows (h : Implements beyond s t) (hpc : s.pc = .push d request) :
    Follows beyond (pushCall s d request .done) t [.queued (request.message beyond)] := by
  have hplace := h.place
  rw [hpc] at hplace
  obtain ⟨⟨e, hrecorded, hcarries⟩, hsockets⟩ := hplace
  have hevents : t.tcpServerEvents .enqueue = [.queued (request.message beyond)] := by
    simp [ParkingSystem.State.tcpServerEvents, hrecorded, hcarries.request]
  refine .shown (.enqueue e hrecorded) hevents (.hidden ?_)
  refine { h with queue := ?_, accepted := ?_, place := ⟨rfl, hsockets⟩ }
  · change (t.tcpQueue ++ [e]).map _ = (s.requestQueue ++ [request]).map _
    rw [List.map_append, List.map_append, h.queue, List.map_singleton, List.map_singleton,
      hcarries.request]
  · change (t.accepted ++ [e]).map _ = (s.pushed ++ [(s.files.opening d, request)]).map _
    rw [List.map_append, List.map_append, h.accepted, List.map_singleton, List.map_singleton,
      hcarries.request, hcarries.conn]

theorem disconnect_follows (htidy : s.Tidy) (h : Implements beyond s t)
    (hpc : s.pc = .disconnect d) : Follows beyond (disconnectClient s d .done) t [] := by
  have hat := htidy.atPc
  have hplace := h.place
  rw [hpc] at hat hplace
  obtain ⟨-, hopen, -, hclient⟩ := hat
  obtain ⟨hdisconnecting, hsockets⟩ := hplace
  obtain ⟨i, hi⟩ := hopen.opening hclient
  refine .silent (.removeClient d hdisconnecting) rfl (.silent (.close d rfl) rfl (.hidden ?_))
  refine { h with clients := fun x => ?_, connections := ?_, place := ⟨rfl, ?_⟩ }
  · change ((t.clients.erase d).lookup x).isSome ↔ x ∈ s.clients.erase d
    rw [AList.lookup_isSome, AList.mem_erase, ← AList.lookup_isSome, h.clients, Finset.mem_erase]
  · exact h.connections.trans FileTable.openings_close.symm
  · change Function.update t.sockets d none = (s.files.close d).opening
    rw [hsockets, htidy.files.opening_close_eq hi]

theorem cleanup_follows (htidy : s.Tidy) (h : Implements beyond s t) (hpc : s.pc = .cleanup d) :
    Follows beyond (cleanupNext s d) t [] := by
  have htidy' : (cleanupNext s d).Tidy := Moves.tidy (a := .next) htidy (.cleanup d hpc)
  have hplace := h.place
  rw [hpc] at hplace
  obtain ⟨htest, hstopped, hsockets, hclients⟩ := hplace
  by_cases hle : (d : Int) ≤ s.maximumSocketDescriptor
  · rw [cleanupNext, if_pos hle]
    refine .hidden { h with
      connections := ?_
      place := ⟨htest, hstopped, fun x i hx => hsockets x i ?_, hclients⟩ }
    · change t.nextConn = FileTable.openings (if _ then _ else _)
      split
      · exact h.connections.trans FileTable.openings_close.symm
      · exact h.connections
    · change FileTable.opening (if _ then _ else _) x = some i at hx
      split at hx
      · exact (FileTable.opening_of_close hx).1
      · exact hx
  · rw [cleanupNext, if_neg hle] at htidy' ⊢
    have hclosed (x : Nat) : s.files.opening x = none := State.Opens.opening_eq_none htidy'.atPc id
    refine .silent (.tcpExit htest (h.running.trans hstopped)) rfl (.hidden ?_)
    refine { h with place := ⟨rfl, funext fun x => ?_⟩ }
    change t.closedClients x = s.files.opening x
    rw [hclosed x, ParkingSystem.State.closedClients]
    split
    · rfl
    · rename_i hunknown
      exact Option.not_isSome_iff_eq_none.mp fun hx => hunknown ((h.clients x).mpr (hclients x hx))

theorem closeServer_follows (h : Implements beyond s t) (hpc : s.pc = .closeServer) :
    Follows beyond { s with serverSocket := none, pc := .returned } t [] := by
  have hplace := h.place
  rw [hpc] at hplace
  exact .hidden { h with place := hplace }

-- ---------------------------------------------------------------------------
-- The other threads
-- ---------------------------------------------------------------------------

theorem State.StandsAt.tables {pc : Pc} (h : s.StandsAt beyond t pc)
    (pendingRequests : UInt64 → Option Nat) (requestQueue taken : List Frame)
    (pending : AList fun _ : UInt64 => Nat) (tcpQueue : List Envelope) :
    State.StandsAt beyond
      { s with pendingRequests := pendingRequests, requestQueue := requestQueue, taken := taken }
      { t with pending := pending, tcpQueue := tcpQueue } pc := by
  cases pc <;> exact h

theorem stop_follows (h : Implements beyond s t) :
    Follows beyond { s with running := false } t [.stopped] := by
  have hplace : State.StandsAt beyond { s with running := false } { t with tcpRunning := false }
      s.pc := by
    have hplace := h.place
    generalize s.pc = pc at hplace
    cases pc with
    | cleanup d => exact ⟨hplace.1, rfl, hplace.2.2⟩
    | _ => exact hplace
  exact ⟨{ t with tcpRunning := false }, { h with running := rfl, place := hplace },
    .one (b := .stop) rfl rfl⟩

theorem answered_follows (h : Implements beyond s t) (requestId : UInt64) :
    Follows beyond
      { s with pendingRequests := Function.update s.pendingRequests requestId none } t
      [.answered requestId] := by
  refine ⟨{ t with pending := t.pending.erase requestId },
    { h with pending := fun other => ?_, place := h.place.tables .. },
    .one (b := .answered requestId) rfl rfl⟩
  change (t.pending.erase requestId).lookup other =
    Function.update s.pendingRequests requestId none other
  rw [Function.update_apply]
  split
  · rename_i heq
    rw [heq, AList.lookup_erase]
  · rename_i hne
    rw [AList.lookup_erase_ne hne, h.pending]

theorem taken_follows (h : Implements beyond s t) {requests : List Frame}
    (hqueue : s.requestQueue = request :: requests) :
    Follows beyond { s with requestQueue := requests, taken := s.taken ++ [request] } t
      (s.takenEvents beyond) := by
  obtain ⟨e, rest, htqueue, hrequest, hrest⟩ : ∃ e rest, t.tcpQueue = e :: rest ∧
      e.request = request.message beyond ∧
      rest.map (·.request) = requests.map (·.message beyond) := by
    have hmap := h.queue
    rw [hqueue, List.map_cons, List.map_eq_cons_iff] at hmap
    exact hmap
  have htaken : t.tcpThread .taken = some { t with tcpQueue := rest } := by
    rw [ParkingSystem.State.tcpThread, htqueue]
  have hevents : t.tcpThreadEvents .taken = s.takenEvents beyond := by
    simp [ParkingSystem.State.tcpThreadEvents, ParkingSystem.State.takenEvents, State.takenEvents,
      htqueue, hqueue, hrequest]
  exact ⟨{ t with tcpQueue := rest }, { h with queue := hrest, place := h.place.tables .. },
    .one htaken hevents⟩

-- ---------------------------------------------------------------------------
-- One step
-- ---------------------------------------------------------------------------

theorem threadStep_follows (htidy : s.Tidy) (hregistered : s.RegisteredAt s.pc)
    (h : Implements beyond s t) (ha : a.Succeeds) (hs : threadStep s a = some s') :
    Follows beyond s' t (s.events beyond a) := by
  have hstarts {pc : Pc} (hpc : s.pc = pc) (h : pc.starts = true) : s.pc.starts = true := hpc ▸ h
  rw [threadStep.eq_def] at hs
  split at hs <;> rename_i hpc <;> first | cases hs | skip
  · exact giveUp_follows htidy h (hstarts hpc rfl)
  · exact start_follows h (hstarts hpc rfl) rfl
  · exact start_follows h (hstarts hpc rfl) rfl
  · exact start_follows h (hstarts hpc rfl) rfl
  · exact monitor_follows h (hstarts hpc rfl) hs
  · exact giveUp_follows htidy h (hstarts hpc rfl)
  · exact giveUp_follows htidy h (hstarts hpc rfl)
  · exact giveUp_follows htidy h (hstarts hpc rfl)
  · exact test_follows htidy hregistered h hpc
  · exact select_follows htidy hregistered h hpc hs
  · exact scan_follows h hpc
  · exact accept_follows htidy h hpc hs
  · obtain rfl := ha
    simp only [State.events, hpc]
    exact register_follows htidy hregistered h hpc hs
  · exact recv_follows htidy hregistered h hpc hs
  · obtain rfl := ha
    simp only [State.events, hpc]
    exact assign_follows h hpc
  · obtain rfl := ha
    simp only [State.events, hpc]
    exact push_follows h hpc
  · obtain rfl := ha
    simp only [State.events, hpc]
    exact disconnect_follows htidy h hpc
  · exact cleanup_follows htidy h hpc
  · exact closeServer_follows h hpc

theorem step_follows (htidy : s.Tidy) (hregistered : s.RegisteredAt s.pc)
    (h : Implements beyond s t) (ha : a.Succeeds) (hs : step s a = some s') :
    Follows beyond s' t (s.events beyond a) := by
  rw [step.eq_def] at hs
  split at hs
  · cases hs
    exact stop_follows h
  · cases hs
    exact answered_follows h _
  · split at hs <;> cases hs
    rename_i hqueue
    exact taken_follows h hqueue
  · exact threadStep_follows htidy hregistered h ha hs

theorem start_implements : Implements beyond start (.initial .initial) where
  running := rfl
  clients d := iff_of_false nofun (Finset.notMem_empty d)
  pending _ := rfl
  queue := rfl
  accepted := rfl
  connections := rfl
  place := ⟨rfl, rfl⟩

end Steps

/-- Whatever the calls return and whatever the other threads do between them, as long as
mutexes are locked and unlocked: the accesses to `running_`, `pending_requests_` and
`request_queue_` are those of the tcp thread of the system in the same order, and so are, at
the end, these variables, `clients_` and the open connections, except that the loop may be
about to close the rest of them. -/
theorem select_loop_refined (beyond : List UInt8) {actions : List Action} {s : State}
    (hr : run step start actions = some s) (hdone : ∀ a ∈ actions, a.Succeeds) :
    ∃ taken t, run ParkingSystem.State.tcpThread (.initial .initial) taken = some t ∧
      trace ParkingSystem.State.tcpThread ParkingSystem.State.tcpThreadEvents (.initial .initial)
        taken = trace step (State.events beyond) start actions ∧
      Implements beyond s t := by
  have hsimulation : ∀ s a s' t, s.Tidy ∧ s.RegisteredAt s.pc ∧ Implements beyond s t →
      a.Succeeds → step s a = some s' →
      ∃ t', (s'.Tidy ∧ s'.RegisteredAt s'.pc ∧ Implements beyond s' t') ∧
        Shown ParkingSystem.State.tcpThread ParkingSystem.State.tcpThreadEvents t t'
          (s.events beyond a) := by
    rintro s a s' t ⟨htidy, hregistered, himplements⟩ ha hs
    obtain ⟨t', himplements', hshown⟩ := step_follows htidy hregistered himplements ha hs
    have hlocked : ∀ outcome, a = .locked outcome → outcome = .done := by
      rintro outcome rfl
      exact ha
    exact ⟨t', ⟨step_tidy htidy hs, step_registered htidy hregistered hlocked hs, himplements'⟩,
      hshown⟩
  obtain ⟨t, ⟨-, -, himplements⟩, taken, htaken, htrace⟩ := Shown.of_simulation hsimulation
    ⟨start_tidy, rfl, start_implements⟩ hr (.of_forall fun _ => hdone)
  exact ⟨taken, t, htaken, htrace, himplements⟩

/-- A client sends a request in two pieces; it is forwarded and answered, and then the server
is stopped. -/
def forwardedActions : List Action :=
  [.socket (some 3), .call true, .call true, .call true, .next,
    .select (.ready {3}), .next, .next, .next, .next, .accept (some (4, List.replicate 64 1)),
    .locked .done, .next, .next, .next,
    .select (.ready {4}), .next, .next, .next, .next, .next,
    .recv (.data 1 (List.replicate 31 1)), .recv (.data 1 (List.replicate 31 1)),
    .locked .done, .queued .done, .taken, .answered 72340172838076673, .next,
    .stop, .next, .next, .next, .next, .next, .next, .next, .next]

theorem select_loop_refined_forwarded : ∃ taken t,
    run ParkingSystem.State.tcpThread (.initial .initial) taken = some t ∧
      (trace ParkingSystem.State.tcpThread ParkingSystem.State.tcpThreadEvents (.initial .initial)
        taken).length = 5 ∧
      t.tcpServer = .stopped ∧ t.accepted.length = 1 := by
  have hrun : (run step start forwardedActions).map
      (fun s => (s.pc matches .returned, s.pushed.length)) = some (true, 1) := by
    decide +kernel
  have hevents : (trace step (State.events []) start forwardedActions).length = 5 := by
    decide +kernel
  obtain ⟨s, hs, hend⟩ := Option.map_eq_some_iff.mp hrun
  obtain ⟨hpc, hpushed⟩ := Prod.mk.inj hend
  obtain ⟨taken, t, htaken, htrace, himplements⟩ := select_loop_refined [] hs (by
    simp [forwardedActions, Action.Succeeds])
  have haccepted := congrArg List.length himplements.accepted
  rw [List.length_map, List.length_map, hpushed] at haccepted
  refine ⟨taken, t, htaken, htrace ▸ hevents, ?_, haccepted⟩
  have hplace := himplements.place
  split at hpc
  · rename_i hreturned
    rw [hreturned] at hplace
    exact hplace.1
  · cases hpc

end ParkingSystem.SelectLoop
