import ParkingSystem.Routing
import ParkingSystem.Shutdown

/-!
# Restarts of TcpServer

One Database serves one TcpServer after the other. A new TcpServer starts with
empty tables and an empty queue of its own, but it attaches to the shared queues
as they are: what the last one left in them, and what Database still holds, is
on its way to the new one. `answered_in_life` says that such a response reaches
a client only if the new server was given a request with the same id before the
response was looked up.
-/

namespace ParkingSystem

open Runs (run Along)

/-- Attaching to a queue writes nothing. -/
theorem SharedQueue.new_attach (mem : Memory) (attached opened : Bool)
    (offset elementSize capacity : Nat) :
    (SharedQueue.new mem attached opened offset elementSize capacity false).2 = mem := by
  simp only [SharedQueue.new]
  split
  · rfl
  · split
    · contradiction
    · split <;> rfl

/-- The system, and how much of what happened was before the present TcpServer. -/
structure Lives where
  state : State
  receivedBefore : Nat
  sentBefore : Nat

inductive LivesAction where
  | step (a : Action)
  | restart

/-- A new TcpServer process: the threads of `run` over empty tables. The shared
queues and Database are as they were. -/
def State.restarted (s : State) : State :=
  { s with
    tcpRunning := true
    tcpMain := .sigwait
    tcpServer := .test
    requestWriter := .lock
    responseReader := .test
    tcpQueue := []
    clients := ∅
    pending := ∅
    sockets := fun _ => none }

namespace Lives

def initial (store : Store) : Lives := ⟨State.initial store, 0, 0⟩

def step (l : Lives) : LivesAction → Option Lives
  | .step a => (l.state.step a).map fun s => { l with state := s }
  | .restart =>
    if l.state.tcpMain = .returned then
      some ⟨l.state.restarted, l.state.received.length, l.state.sent.length⟩
    else none

def Own (l : Lives) : Prop :=
  ∀ c ∈ l.state.sent.drop l.sentBefore,
    c.reply.Computed ∧ c.reply.origin ∈ l.state.received.drop l.receivedBefore

/-- A request is recorded while no request of an earlier TcpServer with the same
id is in flight. -/
def Apart (l : Lives) : LivesAction → Prop
  | .step (.tcpServer .record) =>
    ∀ e ∈ l.state.tcpServer.unrecorded, ∀ e' ∈ l.state.inFlight,
      e'.seq < l.receivedBefore → e'.id ≠ e.id
  | _ => True

instance (l : Lives) (a : LivesAction) : Decidable (l.Apart a) := by
  unfold Apart
  split <;> infer_instance

end Lives

-- ---------------------------------------------------------------------------
-- What a restart keeps
-- ---------------------------------------------------------------------------

namespace State

variable {s s' : State} {a : Action}

theorem Books.restarted (b : s.Books) (hstopped : s.tcpServer = .stopped) :
    s.restarted.Books where
  taken := b.taken
  given := b.given
  received := by simpa [hstopped, TcpServerPc.held, State.restarted] using b.received
  seq := b.seq
  replies := b.replies
  delivered := by
    refine .trans ?_ b.delivered
    simp [State.restarted, ResponseReaderPc.held]
  toDatabaseRoom := b.toDatabaseRoom
  toTcpRoom := b.toTcpRoom

/-- The requests that TcpServer had not forwarded are lost. -/
theorem Piped.restarted (p : s.Piped) (hstopped : s.tcpServer = .stopped) : s.restarted.Piped := by
  refine ⟨p.books.restarted hstopped, .trans ?_ p.requests, p.responses⟩
  have hline : s.restarted.requestLine = s.dbQueue ++ s.requestReader.held ++ s.toDatabase := by
    simp [State.restarted, requestLine, RequestWriterPc.held]
  refine (List.Sublist.refl s.given).append ?_
  simp only [requestFlow, hline]
  simp only [requestLine, List.append_assoc]
  exact (List.Sublist.refl _).append ((List.Sublist.refl _).append (List.sublist_append_left _ _))

theorem pending_step (h : Transition s a s') (hrecord : a ≠ .tcpServer .record) {id : UInt64}
    (hid : s.pending.lookup id = none) : s'.pending.lookup id = none := by
  cases h with
  | record => exact absurd rfl hrecord
  | lookup r socket pc found =>
    by_cases hne : id = r.response.requestId
    · subst hne
      exact AList.lookup_erase _ _
    · exact (AList.lookup_erase_ne hne).trans hid
  | _ => exact hid

theorem received_present (h : Transition s a s') {n : Nat} (hn : n ≤ s.received.length)
    (hheld : ∀ e ∈ s.tcpServer.held, n ≤ e.seq) : ∀ e ∈ s'.tcpServer.held, n ≤ e.seq := by
  cases h with
  | receive => simpa [TcpServerPc.held] using hn
  | record e pc => simpa [TcpServerPc.held, pc] using hheld
  | tcpTest | tcpExit | accept | acceptTooLarge | addClient | addClientFailed | enqueue | disconnect
  | removeClient | close | scanned => simp [TcpServerPc.held]
  | _ => exact hheld

theorem Books.mem_drop (b : s.Books) {e : Envelope} {n : Nat} (he : e ∈ s.received)
    (hn : n ≤ e.seq) : e ∈ s.received.drop n := by
  obtain ⟨i, hi, rfl⟩ := List.getElem_of_mem he
  have hseq : (s.received[i]).seq = i := by
    have h := congrArg (·[i]?) b.seq
    simpa [hi] using h
  rw [hseq] at hn
  refine List.mem_drop_iff_getElem.mpr ⟨i - n, by omega, ?_⟩
  simp only [Nat.add_sub_cancel' hn]

end State

-- ---------------------------------------------------------------------------
-- One life at a time
-- ---------------------------------------------------------------------------

namespace Lives

variable {l l' : Lives} {s' : State} {a : Action}

structure Inv (l : Lives) : Prop where
  piped : l.state.Piped
  joined : l.state.TcpJoined
  received : l.receivedBefore ≤ l.state.received.length
  held : ∀ e ∈ l.state.tcpServer.held, l.receivedBefore ≤ e.seq
  /-- No response of an earlier life would find an entry. -/
  foreign : ∀ e ∈ l.state.inFlight, e.seq < l.receivedBefore → l.state.pending.lookup e.id = none
  sending : ∀ r socket sent, l.state.responseReader = .sending r socket sent →
    l.receivedBefore ≤ r.origin.seq
  sentBefore : l.sentBefore ≤ l.state.sent.length
  sent : ∀ c ∈ l.state.sent.drop l.sentBefore,
    c.reply ∈ l.state.produced ∧ l.receivedBefore ≤ c.reply.origin.seq

theorem Inv.initial (store : Store) : (Lives.initial store).Inv := by
  refine ⟨.initial store, .initial store, ?_, ?_, ?_, ?_, ?_, ?_⟩ <;>
    simp [Lives.initial, State.initial]

theorem Inv.restart (v : l.Inv) (hreturned : l.state.tcpMain = .returned) :
    Inv ⟨l.state.restarted, l.state.received.length, l.state.sent.length⟩ := by
  have hstopped := v.joined.tcpServer (by simp [hreturned]) (by simp [hreturned])
  refine ⟨v.piped.restarted hstopped, ⟨?_, ?_⟩, ?_, ?_, ?_, ?_, ?_, ?_⟩ <;>
    simp [State.restarted, TcpServerPc.held]

theorem foreign_step (v : l.Inv) (hapart : l.Apart (.step a)) (h : State.Transition l.state a s') :
    ∀ e ∈ s'.inFlight, e.seq < l.receivedBefore → s'.pending.lookup e.id = none := by
  by_cases hrecord : a = .tcpServer .record
  · subst hrecord
    cases h with
    | record e pc =>
      intro e' he' hearlier
      have hin : e' ∈ l.state.inFlight ∨ e' = e := by
        simpa [State.inFlight, State.requestLine, State.responseLine, pc, TcpServerPc.inTable,
          or_assoc] using he'
      rcases hin with hin | rfl
      · have hne := hapart e (by simp [pc, TcpServerPc.unrecorded]) e' hin hearlier
        exact (AList.lookup_insert_ne hne).trans (v.foreign e' hin hearlier)
      · exact absurd (v.held e' (by simp [pc, TcpServerPc.held])) (by omega)
  · intro e he hearlier
    exact State.pending_step h hrecord
      (v.foreign e ((State.inFlight_step h hrecord).mem he) hearlier)

theorem Inv.lookup (v : l.Inv) {r : Reply} {socket : Nat}
    (pc : l.state.responseReader = .holding r)
    (found : l.state.pending.lookup r.response.requestId = some socket) :
    l.receivedBefore ≤ r.origin.seq := by
  by_contra hearlier
  have hid := (v.piped.books.replies r (v.piped.holding pc)).requestId
  have hnone := v.foreign r.origin (State.origin_mem_inFlight pc) (by omega)
  rw [← hid, found] at hnone
  cases hnone

theorem sending_step (v : l.Inv) (h : State.Transition l.state a s') :
    ∀ r socket sent, s'.responseReader = .sending r socket sent →
      l.receivedBefore ≤ r.origin.seq := by
  cases h with
  | lookup r socket pc found =>
    rintro r' socket' sent' ⟨⟩
    exact v.lookup pc found
  | sendPart r socket sent conn bytes pc =>
    rintro r' socket' sent' ⟨⟩
    exact v.sending r socket sent pc
  | responseTest | responseExit | responsePop | responseNothing | lookupFailed | sendFailed
  | sendRest => exact fun _ _ _ hpc => nomatch hpc
  | _ => exact v.sending

theorem sent_step (v : l.Inv) (h : State.Transition l.state a s') :
    l.sentBefore ≤ s'.sent.length ∧ ∀ c ∈ s'.sent.drop l.sentBefore,
      c.reply ∈ s'.produced ∧ l.receivedBefore ≤ c.reply.origin.seq := by
  cases h with
  | sendRest r socket sent conn bytes pc | sendPart r socket sent conn bytes pc =>
    refine ⟨Nat.le_trans v.sentBefore (by simp), fun c hc => ?_⟩
    rw [List.drop_append_of_le_length v.sentBefore] at hc
    rcases List.mem_append.mp hc with hc | hc
    · exact v.sent c hc
    · obtain rfl := List.mem_singleton.mp hc
      exact ⟨v.piped.sending pc, v.sending r socket sent pc⟩
  | process e db r pc reply =>
    refine ⟨v.sentBefore, fun c hc => ?_⟩
    obtain ⟨hproduced, hpresent⟩ := v.sent c hc
    exact ⟨List.mem_append_left _ hproduced, hpresent⟩
  | _ => exact ⟨v.sentBefore, v.sent⟩

theorem Inv.step (v : l.Inv) (hapart : l.Apart (.step a)) (h : State.Transition l.state a s') :
    Inv { l with state := s' } where
  piped := v.piped.step h
  joined := v.joined.step h
  received := v.received.trans (State.received_grows h).length_le
  held := State.received_present h v.received v.held
  foreign := foreign_step (l := l) v hapart h
  sending := sending_step (l := l) v h
  sentBefore := (sent_step v h).1
  sent := (sent_step v h).2

theorem Inv.preserved {a : LivesAction} (v : l.Inv) (hapart : l.Apart a)
    (h : l.step a = some l') : l'.Inv := by
  cases a with
  | step a =>
    obtain ⟨s', hs, rfl⟩ := Option.map_eq_some_iff.mp h
    exact v.step hapart (State.step_cases hs)
  | restart =>
    simp only [Lives.step] at h
    split at h
    · cases h
      exact v.restart ‹_›
    · cases h

end Lives

/-- While no request is recorded under the id of an earlier server's request in
flight, every server sends only answers to its own requests. -/
theorem answered_in_life (store : Store) (actions : List LivesAction) (t : Lives)
    (hr : run Lives.step (Lives.initial store) actions = some t)
    (hapart : Along Lives.step Lives.Apart (Lives.initial store) actions) : t.Own := by
  have v : t.Inv := Runs.invariant_along (fun _ _ _ v hc h => v.preserved hc h) (.initial store) hr
    hapart
  intro c hc
  obtain ⟨hproduced, hpresent⟩ := v.sent c hc
  exact ⟨v.piped.books.replies _ hproduced, v.piped.books.mem_drop (v.piped.received hproduced)
    hpresent⟩

/-- A request that TcpServer forwards and does not live to see answered. -/
def leftoverActions : List LivesAction :=
  (.tcpServer .test :: connect 4 ++ submit 4 (startRequest 1) ++ .requestWriter .lock ::
    interruptTcpServer ++ fetch ++ answer ⟨.succeed, 1⟩).map .step ++ [.restart]

/-- The next client numbers its first request differently, so the answer to the
old request is thrown away. -/
def apartLivesActions : List LivesAction :=
  leftoverActions ++ (.tcpServer .test :: connect 4 ++ submit 4 (startRequest 2) ++ fetch ++
    answer ⟨.succeed, 2⟩ ++ deliver.take 3 ++ deliver).map .step

def apartLives : Lives :=
  (run Lives.step (Lives.initial Store.initial) apartLivesActions).get (by decide +kernel)

theorem answered_in_life_apart : apartLives.Own ∧ apartLives.state.sent.length = 1 :=
  ⟨answered_in_life Store.initial apartLivesActions apartLives (Option.some_get _).symm
    (by decide +kernel), by decide +kernel⟩

/-- The next client, too, calls its first request 1: it is sent the answer to
the old request. -/
def staleActions : List LivesAction :=
  leftoverActions ++ (.tcpServer .test :: connect 4 ++
    submit 4 { startRequest 2 with requestId := 1 } ++ deliver).map .step

theorem not_always_own :
    ¬ ∀ (store : Store) (actions : List LivesAction) (t : Lives),
      run Lives.step (Lives.initial store) actions = some t → t.Own := by
  intro h
  have hwrong : (run Lives.step (Lives.initial Store.initial) staleActions).any (fun t =>
      ∃ c ∈ t.state.sent.drop t.sentBefore,
        c.reply.origin ∉ t.state.received.drop t.receivedBefore) = true := by
    decide +kernel
  obtain ⟨t, hr, ht⟩ := (Option.any_eq_true _ _).mp hwrong
  obtain ⟨c, hc, hnot⟩ := of_decide_eq_true ht
  exact hnot (h Store.initial staleActions t hr c hc).2

end ParkingSystem
