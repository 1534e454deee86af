import ParkingSystem.Routing

/-!
# Who is sent which response

The ids of requests are chosen by the clients, so that they differ within one
client and not across clients: `routed_iff_noClash` says that a second request
with the id of another client's request in flight takes over its response, and
that nothing else misroutes one among clients that stay connected.

`remove_client` leaves the entries of `pending_requests_` behind, so that they
come to name whoever is given the descriptor next: `pending_owned` says that
with distinct ids this, and a descriptor that is reused while a response is
being sent on it, are the only ways to a wrong connection.
-/

namespace ParkingSystem

open Runs (run Along)

def Action.disconnects : Action → Bool
  | .tcpServer (.disconnect _) => true
  | _ => false

namespace State

variable {s s' t : State} {a : Action}

-- ---------------------------------------------------------------------------
-- Clients that stay connected
-- ---------------------------------------------------------------------------

/-- The connection of every request is still registered. -/
structure Connected (s : State) : Prop where
  received : ∀ e ∈ s.received, s.clients.lookup e.socket = some e.conn
  staying : ∀ socket, s.tcpServer ≠ .disconnecting socket

theorem Connected.step (c : s.Connected) (g : s.Registered) (ha : a.disconnects = false)
    (h : Transition s a s') : s'.Connected := by
  cases h with
  | disconnect => cases ha
  | removeClient socket pc => exact absurd pc (c.staying socket)
  | addClient socket conn pc unknown =>
    refine ⟨fun e he => ?_, by simp⟩
    have hne : e.socket ≠ socket := by
      rintro rfl
      cases unknown.symm.trans (c.received e he)
    exact (AList.lookup_insert_ne hne).trans (c.received e he)
  | receive socket registered conn request pc client isOpen =>
    refine ⟨fun e he => ?_, by simp⟩
    rcases List.mem_append.mp he with he | he
    · exact c.received e he
    · obtain rfl := List.mem_singleton.mp he
      exact client.trans ((g.isOpen (by simp [pc]) client).symm.trans isOpen)
  | tcpTest | tcpExit | scanned | accept | acceptTooLarge | addClientFailed | record | enqueue
  | close => exact ⟨c.received, by simp⟩
  | _ => exact ⟨c.received, c.staying⟩

/-- A request is recorded while no request of another client with the same id
is in flight. -/
def NoClash (s : State) : Action → Prop
  | .tcpServer .record =>
    ∀ e ∈ s.tcpServer.unrecorded, ∀ e' ∈ s.inFlight, e'.conn ≠ e.conn → e'.id ≠ e.id
  | _ => True

instance (s : State) (a : Action) : Decidable (s.NoClash a) := by
  unfold NoClash
  split <;> infer_instance

/-- Every client numbers its requests without repetition. -/
def NumberedApart (s : State) : Prop :=
  s.received.Pairwise fun e e' => e.conn = e'.conn → e.id ≠ e'.id

instance (s : State) : Decidable s.NumberedApart := inferInstanceAs (Decidable (List.Pairwise _ _))

theorem freshId_of_noClash (p : s.Piped) (hids : s.NumberedApart) (hclash : s.NoClash a) :
    s.FreshId a := by
  unfold FreshId
  split
  · intro e he e' he'
    have hpair := hids.sublist p.inFlight_sublist
    by_cases hconn : e'.conn = e.conn
    · exact (List.pairwise_append.mp hpair).2.2 e' he' e he hconn
    · exact hclash e he e' he' hconn
  · trivial

/-- The invariant of clients that stay connected. -/
structure Staying (s : State) : Prop where
  piped : s.Piped
  registered : s.Registered
  connected : s.Connected

theorem Staying.initial (store : Store) : (State.initial store).Staying :=
  ⟨.initial store, .initial store, ⟨by simp [State.initial], by simp [State.initial]⟩⟩

theorem Staying.step (v : s.Staying) (ha : a.disconnects = false) (h : Transition s a s') :
    s'.Staying :=
  ⟨v.piped.step h, v.registered.step h, v.connected.step v.registered ha h⟩

theorem Staying.noReuse (v : s.Staying) (m : s.Matched) (h : Transition s a s') :
    s.NoReuse a := by
  obtain ⟨p, g, c⟩ := v
  cases h with
  | accept socket pc free | acceptTooLarge socket pc free =>
    intro hsocket
    cases hpc : s.responseReader with
    | sending r inUse sent =>
      rw [hpc] at hsocket
      obtain rfl := Option.some.inj hsocket
      have hopen := g.isOpen (by simp [pc]) (c.received _ (p.received (p.sending hpc)))
      rw [← m.sending r inUse sent hpc] at hopen
      cases free.symm.trans hopen
    | _ => simp [hpc, ResponseReaderPc.socket] at hsocket
  | _ => trivial

structure Served (s : State) : Prop extends s.Staying where
  routed : s.NumberedApart → s.Matched ∧ s.Home

theorem Served.step (v : s.Served) (hclash : s.NoClash a) (ha : a.disconnects = false)
    (h : Transition s a s') : s'.Served := by
  refine ⟨v.toStaying.step ha h, fun hids' => ?_⟩
  have hids : s.NumberedApart := hids'.sublist (received_grows h).sublist
  obtain ⟨m, home⟩ := v.routed hids
  refine ⟨m.step v.piped (freshId_of_noClash v.piped hids hclash) h,
    home.step v.registered (v.toStaying.noReuse m h) ?_ h⟩
  intro r socket pc found
  obtain rfl : r.origin.socket = socket :=
    Option.some.inj ((m.lookup_holding v.piped pc).symm.trans found)
  exact v.connected.received _ (v.piped.received (v.piped.holding pc))

-- ---------------------------------------------------------------------------
-- Clients that come and go
-- ---------------------------------------------------------------------------

/-- An entry names the registered connection that sent the request. -/
def Owns (s : State) (id : UInt64) (socket : Nat) : Prop :=
  ∃ e ∈ s.received, e.id = id ∧ e.socket = socket ∧ s.clients.lookup socket = some e.conn

def OwnedPending (s : State) : Prop :=
  ∀ id socket, s.pending.lookup id = some socket → s.Owns id socket

theorem Owns.mono {id : UInt64} {socket : Nat} (o : s.Owns id socket)
    (hreceived : s.received <+: s'.received)
    (hclients : ∀ conn, s.clients.lookup socket = some conn →
      s'.clients.lookup socket = some conn) : s'.Owns id socket := by
  obtain ⟨e, he, hid, hsocket, hclient⟩ := o
  exact ⟨e, hreceived.subset he, hid, hsocket, hclients _ hclient⟩

theorem OwnedPending.step (o : s.OwnedPending) (p : s.Piped) (g : s.Registered)
    (hdown : s.NoTeardown a) (h : Transition s a s') : s'.OwnedPending := by
  have hreceived := received_grows h
  cases h with
  | record e pc =>
    intro id socket hid
    by_cases hne : id = e.id
    · subst hne
      obtain rfl := Option.some.inj ((AList.lookup_insert _).symm.trans hid)
      have hthread := g.thread
      rw [pc] at hthread
      refine ⟨e, ?_, rfl, rfl, hthread⟩
      rw [p.books.received]
      simp [pc, TcpServerPc.held]
    · exact o id socket ((AList.lookup_insert_ne hne).symm.trans hid)
  | lookup r found pc =>
    intro id socket hid
    have hne : id ≠ r.response.requestId := by
      rintro rfl
      cases (AList.lookup_erase _ _).symm.trans hid
    exact o id socket ((AList.lookup_erase_ne hne).symm.trans hid)
  | addClient socket' conn pc unknown =>
    intro id socket hid
    refine (o id socket hid).mono hreceived fun conn' hclient => ?_
    have hne : socket ≠ socket' := by
      rintro rfl
      cases unknown.symm.trans hclient
    exact (AList.lookup_insert_ne hne).trans hclient
  | removeClient socket' pc =>
    intro id socket hid
    refine (o id socket hid).mono hreceived fun conn' hclient => ?_
    have hne : socket ≠ socket' := by
      rintro rfl
      exact hdown ⟨id, socket⟩ (AList.mem_lookup_iff.mp hid) pc
    exact (AList.lookup_erase_ne hne).trans hclient
  | receive => exact fun id socket hid => (o id socket hid).mono hreceived fun _ hclient => hclient
  | _ => exact o

theorem OwnedPending.origin (o : s.OwnedPending) (p : s.Piped)
    (hids : (s.received.map Envelope.id).Nodup) {r : Reply} {socket : Nat}
    (hr : r ∈ s.produced) (found : s.pending.lookup r.response.requestId = some socket) :
    socket = r.origin.socket ∧ s.clients.lookup socket = some r.origin.conn := by
  obtain ⟨e, he, hid, hsocket, hclient⟩ := o _ socket found
  obtain rfl : e = r.origin := List.inj_on_of_nodup_map hids he (p.received hr)
    (hid.trans (p.books.replies r hr).requestId)
  exact ⟨hsocket.symm, hclient⟩

theorem freshId_of_nodup (p : s.Piped) (hids : (s.received.map Envelope.id).Nodup) :
    s.FreshId a := by
  unfold FreshId
  split
  · intro e he e' he'
    have hnodup := (p.inFlight_sublist.map Envelope.id).nodup hids
    rw [List.map_append] at hnodup
    exact fun heq => List.disjoint_of_nodup_append hnodup (List.mem_map_of_mem he')
      (heq ▸ List.mem_map_of_mem he)
  · trivial

structure Distinct (s : State) : Prop where
  piped : s.Piped
  matched : (s.received.map Envelope.id).Nodup → s.Matched

theorem Distinct.step (d : s.Distinct) (h : Transition s a s') : s'.Distinct := by
  refine ⟨d.piped.step h, fun hids' => ?_⟩
  have hids := ((received_grows h).sublist.map Envelope.id).nodup hids'
  exact (d.matched hids).step d.piped (freshId_of_nodup d.piped hids) h

/-- With distinct ids, when no client leaves entries behind. -/
structure Owned (s : State) : Prop where
  piped : s.Piped
  registered : s.Registered
  pending : s.OwnedPending

theorem Owned.initial (store : Store) : (State.initial store).Owned :=
  ⟨.initial store, .initial store, fun _ _ h => by simp [State.initial] at h⟩

theorem Owned.step (o : s.Owned) (hdown : s.NoTeardown a) (h : Transition s a s') : s'.Owned :=
  ⟨o.piped.step h, o.registered.step h, o.pending.step o.piped o.registered hdown h⟩

theorem Owned.home_step (o : s.Owned) (home : s.Home) (hreuse : s.NoReuse a)
    (hids : (s.received.map Envelope.id).Nodup) (h : Transition s a s') : s'.Home := by
  refine home.step o.registered hreuse ?_ h
  intro r socket pc found
  exact (o.pending.origin o.piped hids (o.piped.holding pc) found).2

-- ---------------------------------------------------------------------------
-- Runs
-- ---------------------------------------------------------------------------

/-- Every request in flight has its own entry, and every response went to the
socket and the connection that its request came from. -/
structure Routed (s : State) : Prop where
  outstanding : ∀ e ∈ s.inFlight, s.pending.lookup e.id = some e.socket
  sent : ∀ c ∈ s.sent, c.socket = c.reply.origin.socket ∧ c.conn = c.reply.origin.conn

/-- Recording a request under the id of another client's request in flight
redirects the response of that one. -/
theorem not_routed_of_clash (v : s.Staying) (hclash : ¬ s.NoClash a) (h : Transition s a s') :
    ¬ s'.Routed := by
  obtain ⟨p, -, c⟩ := v
  intro hrouted
  cases h with
  | record e pc =>
    simp only [NoClash, pc, TcpServerPc.unrecorded, List.mem_singleton, forall_eq, not_forall,
      not_not] at hclash
    obtain ⟨e', he', hconn, hid⟩ := hclash
    have hin : e' ∈ { s with
        pending := s.pending.insert e.id e.socket, tcpServer := .recorded e }.inFlight := by
      simp only [inFlight, requestLine, responseLine, pc, TcpServerPc.inTable, List.append_nil]
        at he' ⊢
      exact List.mem_append_left _ he'
    have hentry := hrouted.outstanding e' hin
    rw [hid] at hentry
    have hsocket : e.socket = e'.socket :=
      Option.some.inj ((AList.lookup_insert _).symm.trans hentry)
    have hreceived : e' ∈ s.received :=
      p.inFlight_sublist.mem (List.mem_append_left _ he')
    have hcurrent : e ∈ s.received := by
      rw [p.books.received]
      simp [pc, TcpServerPc.held]
    have hsame := c.received e hcurrent
    rw [hsocket, c.received e' hreceived] at hsame
    exact hconn (Option.some.inj hsame)
  | _ => exact hclash trivial

theorem run_received_grows {actions : List Action} (hr : run State.step s actions = some t) :
    s.received <+: t.received :=
  Runs.invariant (I := fun u : State => s.received <+: u.received)
    (fun _ _ _ hp h => hp.trans (received_grows (step_cases h))) (List.prefix_refl _) hr

end State

open State

/-- Among clients that stay connected and number their own requests apart,
responses are routed to their requests in every state of a run exactly if no
request is recorded under the id of another client's request in flight. -/
theorem routed_iff_noClash (store : Store) (actions : List Action) (t : State)
    (hr : run State.step (State.initial store) actions = some t)
    (hstay : ∀ a ∈ actions, a.disconnects = false) (hids : t.NumberedApart) :
    (∀ before after s, actions = before ++ after →
      run State.step (State.initial store) before = some s → s.Routed) ↔
    Along State.step NoClash (State.initial store) actions := by
  have hstays : ∀ before after, actions = before ++ after →
      Along State.step (fun _ a => a.disconnects = false) (State.initial store) before := by
    rintro before after rfl
    exact .of_forall fun _ a ha => hstay a (List.mem_append_left _ ha)
  constructor
  · intro hrouted
    refine .of_steps hr fun before a after s s' hsplit hs hstep => ?_
    by_contra hclash
    have hstaying : s.Staying := Runs.invariant_along
      (fun _ _ _ v ha h => v.step ha (State.step_cases h)) (.initial store) hs
      (hstays before _ hsplit)
    exact not_routed_of_clash hstaying hclash (State.step_cases hstep)
      (hrouted (before ++ [a]) after s' (by simpa using hsplit)
        (Runs.run_concat.mpr ⟨s, hs, hstep⟩))
  · rintro hclash before after s rfl hs
    obtain ⟨hbefore, -⟩ := (Along.append hs).mp hclash
    obtain ⟨m, hm, ht⟩ := Runs.run_append.mp hr
    obtain rfl : m = s := Option.some.inj (hm.symm.trans hs)
    have hserved : m.Served := Runs.invariant_along
      (fun _ _ _ v hc h => v.step hc.1 hc.2 (State.step_cases h))
      ⟨.initial store, fun _ => ⟨.initial store, .initial store⟩⟩ hs
      (hbefore.and (hstays before after rfl))
    obtain ⟨hmatched, home⟩ := hserved.routed (hids.sublist (run_received_grows ht).sublist)
    exact ⟨hmatched.pending, fun c hc => ⟨hmatched.sent c hc, home.sent c hc⟩⟩

def apartActions : List Action :=
  .tcpServer .test :: connect 4 ++ connect 5 ++ submit 4 (startRequest 1) ++
    submit 5 (startRequest 2) ++ fetch ++ answer ⟨.succeed, 1⟩ ++ deliver

def apart : State :=
  (run State.step (State.initial Store.initial) apartActions).get (by decide +kernel)

theorem routed_iff_noClash_apart : apart.Routed ∧ apart.sent.length = 1 :=
  ⟨((routed_iff_noClash Store.initial apartActions apart (Option.some_get _).symm
    (by decide +kernel) (by decide +kernel)).mpr (by decide +kernel)) apartActions [] apart
      (by simp) (Option.some_get _).symm, by decide +kernel⟩

/-- Two clients that both call their first request 1. -/
def clashActions : List Action :=
  .tcpServer .test :: connect 4 ++ connect 5 ++ submit 4 (startRequest 1) ++
    submit 5 { startRequest 2 with requestId := 1 } ++ fetch ++ answer ⟨.succeed, 1⟩ ++ deliver

theorem not_always_routed :
    ¬ ∀ (store : Store) (actions : List Action) (t : State),
      run State.step (State.initial store) actions = some t →
      (∀ a ∈ actions, a.disconnects = false) → t.NumberedApart →
      ∀ c ∈ t.sent, c.socket = c.reply.origin.socket := by
  intro h
  have hwrong : (run State.step (State.initial Store.initial) clashActions).any (fun t =>
      t.NumberedApart ∧ ∃ c ∈ t.sent, c.socket ≠ c.reply.origin.socket) = true := by
    decide +kernel
  obtain ⟨t, hr, ht⟩ := (Option.any_eq_true _ _).mp hwrong
  obtain ⟨hids, c, hc, hne⟩ := of_decide_eq_true ht
  exact hne (h Store.initial clashActions t hr (by decide +kernel) hids c hc)

-- ---------------------------------------------------------------------------
-- Distinct ids
-- ---------------------------------------------------------------------------

/-- If the ids of all requests are distinct, every response that is popped
finds the socket of the request it was computed for, and that is still the
socket of its client unless the client left entries behind. -/
theorem response_matched (store : Store) (actions : List Action) (t : State)
    (hr : run State.step (State.initial store) actions = some t)
    (hids : (t.received.map Envelope.id).Nodup) :
    ∀ r, t.responseReader = .holding r →
      t.pending.lookup r.response.requestId = some r.origin.socket ∧
      r ∈ t.produced ∧ r.Computed ∧ r.origin ∈ t.received ∧
      (Along State.step NoTeardown (State.initial store) actions →
        t.clients.lookup r.origin.socket = some r.origin.conn) := by
  intro r pc
  have hdistinct : t.Distinct := Runs.invariant (fun _ _ _ d h => d.step (State.step_cases h))
    ⟨.initial store, fun _ => .initial store⟩ hr
  have p := hdistinct.piped
  have hproduced := p.holding pc
  have hfound := (hdistinct.matched hids).lookup_holding p pc
  refine ⟨hfound, hproduced, p.books.replies r hproduced, p.received hproduced, fun hdown => ?_⟩
  have howned : t.Owned := Runs.invariant_along
    (fun _ _ _ o hc h => o.step hc (State.step_cases h)) (.initial store) hr hdown
  exact (howned.pending.origin p hids hproduced hfound).2

def poppedActions : List Action :=
  .tcpServer .test :: connect 4 ++ submit 4 (startRequest 1) ++ fetch ++ answer ⟨.succeed, 1⟩ ++
    deliver.take 2

def popped : State :=
  (run State.step (State.initial Store.initial) poppedActions).get (by decide +kernel)

theorem response_matched_popped : ∃ r, popped.responseReader = .holding r ∧
    popped.pending.lookup r.response.requestId = some r.origin.socket := by
  have hpc : popped.responseReader.unmatched.length = 1 := by decide +kernel
  cases h : popped.responseReader with
  | holding r =>
    exact ⟨r, rfl, (response_matched Store.initial poppedActions popped (Option.some_get _).symm
      (by decide +kernel) r h).1⟩
  | _ => simp [h, ResponseReaderPc.unmatched] at hpc

/-- If the ids of all requests are distinct, no client is removed while it has
an entry, and no descriptor is given away while a response is sent on it, then
every entry names the registered connection of its request and every response
went to the connection of its request. -/
theorem pending_owned (store : Store) (actions : List Action) (t : State)
    (hr : run State.step (State.initial store) actions = some t)
    (hids : (t.received.map Envelope.id).Nodup)
    (hdown : Along State.step NoTeardown (State.initial store) actions)
    (hreuse : Along State.step NoReuse (State.initial store) actions) :
    t.OwnedPending ∧ ∀ c ∈ t.sent, c.conn = c.reply.origin.conn := by
  have hinv : t.Owned ∧ ((t.received.map Envelope.id).Nodup → t.Home) := by
    refine Runs.invariant_along
      (I := fun s : State => s.Owned ∧ ((s.received.map Envelope.id).Nodup → s.Home)) ?_
      ⟨.initial store, fun _ => .initial store⟩ hr (hdown.and hreuse)
    rintro s a s' ⟨o, home⟩ ⟨hd, hu⟩ hstep
    have h := State.step_cases hstep
    refine ⟨o.step hd h, fun hids' => ?_⟩
    have hids := ((received_grows h).sublist.map Envelope.id).nodup hids'
    exact o.home_step (home hids) hu hids h
  exact ⟨hinv.1.pending, (hinv.2 hids).sent⟩

def reconnect (socket : Nat) : List Action :=
  [.tcpServer (.disconnect socket), .tcpServer .removeClient, .tcpServer .close] ++ connect socket

def replacedActions : List Action := servedActions ++ reconnect 4

def replaced : State :=
  (run State.step (State.initial Store.initial) replacedActions).get (by decide +kernel)

theorem pending_owned_replaced :
    replaced.OwnedPending ∧ ∀ c ∈ replaced.sent, c.conn = c.reply.origin.conn :=
  pending_owned Store.initial replacedActions replaced (Option.some_get _).symm
    (by decide +kernel) (by decide +kernel) (by decide +kernel)

def lateActions : List Action :=
  .tcpServer .test :: connect 4 ++ submit 4 (startRequest 1) ++ fetch ++ answer ⟨.succeed, 1⟩ ++
    reconnect 4 ++ deliver

theorem not_always_owned :
    ¬ ∀ (store : Store) (actions : List Action) (t : State),
      run State.step (State.initial store) actions = some t →
      (t.received.map Envelope.id).Nodup → ∀ c ∈ t.sent, c.conn = c.reply.origin.conn := by
  intro h
  have hwrong : (run State.step (State.initial Store.initial) lateActions).any (fun t =>
      (t.received.map Envelope.id).Nodup ∧ ∃ c ∈ t.sent, c.conn ≠ c.reply.origin.conn) = true := by
    decide +kernel
  obtain ⟨t, hr, ht⟩ := (Option.any_eq_true _ _).mp hwrong
  obtain ⟨hids, c, hc, hne⟩ := of_decide_eq_true ht
  exact hne (h Store.initial lateActions t hr hids c hc)

end ParkingSystem
