import Mathlib.Data.Finset.Erase
import Mathlib.Data.Finset.Insert
import Mathlib.Order.Bounds.Basic
import ParkingSystem.Lib.FileTable
import ParkingSystem.Lib.Runs
import ParkingSystem.RequestFrame

/-!
# The select loop

`tcp_server_loop` with `receive_client_request`, `add_client` and `remove_client`, one call
at a time, between the steps of the threads that answer and forward requests.
`descriptors_kept`: the listening socket, `clients_`, `master_socket_set` and
`maximum_socket_descriptor` agree throughout the loop, and every accepted descriptor is
closed once.
-/

namespace ParkingSystem.SelectLoop

open Runs (run)

def fdSetSize : Nat := 1024

inductive Pc where
  | socket
  | setsockopt
  | bind
  | listen
  /-- At `while (running_)`. -/
  | test
  | select
  /-- At the condition of the inner loop, with its `socket_descriptor`. -/
  | scan (descriptor : Nat)
  | accept (descriptor : Nat)
  | addClient (descriptor client : Nat)
  /-- At the `recv` of `receive_client_request`, which has received so much. -/
  | receive (descriptor : Nat) (received : List UInt8)
  | assign (descriptor : Nat) (request : Frame)
  | push (descriptor : Nat) (request : Frame)
  | disconnect (descriptor : Nat)
  /-- At the condition of the loop that closes the clients. -/
  | cleanup (descriptor : Nat)
  | closeServer
  | returned

def Pc.inLoop : Pc → Bool
  | .socket | .setsockopt | .bind | .listen | .cleanup _ | .closeServer | .returned => false
  | _ => true

inductive Locked where
  | done
  | lockFailed
  | unlockFailed

inductive Queued where
  | done
  | lockFailed
  | signalFailed
  | unlockFailed

inductive Selected where
  | ready (set : Finset Nat)
  | interrupted
  | failed

inductive Action where
  | socket (descriptor : Option Nat)
  /-- `setsockopt`, `bind` or `listen`. -/
  | call (ok : Bool)
  | next
  | select (result : Selected)
  /-- A descriptor with what its client is going to send before it closes. -/
  | accept (client : Option (Nat × List UInt8))
  | recv (result : Received)
  | locked (outcome : Locked)
  | queued (outcome : Queued)
  /-- `run` clears `running_`. -/
  | stop
  /-- `response_reader_loop` takes an entry out of `pending_requests_`. -/
  | answered (requestId : UInt64)
  /-- `request_writer_loop` takes the head of `request_queue_`. -/
  | taken

/-- What an accepted descriptor stands for. -/
structure Connection where
  stream : List UInt8
  /-- What `recv` has returned of it. -/
  received : List UInt8
  /-- `recv` has returned 0. -/
  ended : Bool

structure State where
  pc : Pc
  running : Bool
  serverSocket : Option Nat
  masterSocketSet : Finset Nat
  readySocketSet : Finset Nat
  maximumSocketDescriptor : Int
  /-- The keys of `clients_`; the only member of its values is the key again. -/
  clients : Finset Nat
  pendingRequests : UInt64 → Option Nat
  requestQueue : List Frame
  /-- The openings are the calls of `accept` that succeeded. -/
  files : FileTable
  connections : Nat → Connection
  /-- The requests entered into `pending_requests_`, with the opening they came from. -/
  assigned : List (Option Nat × Frame)
  /-- The same for `request_queue_`. -/
  pushed : List (Option Nat × Frame)
  /-- The requests taken out of `request_queue_`. -/
  taken : List Frame

/-- A thread that starts with empty tables; its locals are not initialized yet. -/
def start : State where
  pc := .socket
  running := true
  serverSocket := none
  masterSocketSet := ∅
  readySocketSet := ∅
  maximumSocketDescriptor := -1
  clients := ∅
  pendingRequests := fun _ => none
  requestQueue := []
  files := .empty
  connections := fun _ => ⟨[], [], false⟩
  assigned := []
  pushed := []
  taken := []

-- ---------------------------------------------------------------------------
-- Descriptor sets
-- ---------------------------------------------------------------------------

/-- `FD_SET`, undefined outside the array. -/
def fdSet (set : Finset Nat) (descriptor : Nat) : Option (Finset Nat) :=
  if descriptor < fdSetSize then some (insert descriptor set) else none

def lowerMaximum (set : Finset Nat) : Nat → Int
  | 0 => if 0 ∈ set then 0 else -1
  | descriptor + 1 =>
    if descriptor + 1 ∈ set then ((descriptor + 1 : Nat) : Int) else lowerMaximum set descriptor

-- ---------------------------------------------------------------------------
-- Calls
-- ---------------------------------------------------------------------------

section Calls

variable (s : State)

/-- `socket` or one of the calls after it has failed. -/
def State.giveUp : State := { s with serverSocket := none, running := false, pc := .returned }

def State.monitor : Option State :=
  s.serverSocket.bind fun server =>
    (fdSet ∅ server).map fun set =>
      { s with masterSocketSet := set, maximumSocketDescriptor := server, pc := .test }

def selectCall : Selected → Option State
  | .ready set =>
    if set ⊆ s.masterSocketSet then some { s with readySocketSet := set, pc := .scan 0 } else none
  | .interrupted => some { s with pc := .test }
  | .failed => some { s with running := false, pc := .cleanup 0 }

def scanNext (descriptor : Nat) : State :=
  if (descriptor : Int) ≤ s.maximumSocketDescriptor then
    if descriptor ∉ s.readySocketSet then { s with pc := .scan (descriptor + 1) }
    else if s.serverSocket = some descriptor then { s with pc := .accept descriptor }
    else { s with pc := .receive descriptor [] }
  else { s with pc := .test }

/-- The system returns a number that is not open. -/
def acceptCall (descriptor : Nat) : Option (Nat × List UInt8) → Option State
  | none => some { s with pc := .scan (descriptor + 1) }
  | some (client, stream) =>
    if s.serverSocket = some client ∨ (s.files.opening client).isSome then none
    else
      let accepted := { s with
        files := s.files.allocate client
        connections := Function.update s.connections s.files.openings ⟨stream, [], false⟩ }
      if fdSetSize ≤ client then
        some { accepted with files := accepted.files.close client, pc := .scan (descriptor + 1) }
      else some { accepted with pc := .addClient descriptor client }

def addClient (client : Nat) : Locked → Bool × State
  | .lockFailed => (false, s)
  | .done =>
    if client ∈ s.clients then (false, s)
    else (true, { s with clients := insert client s.clients })
  | .unlockFailed => (false, { s with clients := insert client s.clients })

def registerClient (descriptor client : Nat) (outcome : Locked) : Option State :=
  let (added, s) := addClient s client outcome
  let s := { s with pc := .scan (descriptor + 1) }
  if !added then some { s with files := s.files.close client }
  else
    (fdSet s.masterSocketSet client).map fun set => { s with
      masterSocketSet := set
      maximumSocketDescriptor :=
        if (client : Int) > s.maximumSocketDescriptor then client
        else s.maximumSocketDescriptor }

/-- `recv` returns at most what is asked for of what the client has sent, and 0 only after
all of it. -/
def recvCall (descriptor : Nat) (received : List UInt8) : Received → Option State
  | .data first rest =>
    match s.files.opening descriptor with
    | none => none
    | some i =>
      let connection := s.connections i
      let chunk := first :: rest
      if chunk.length ≤ sizeofTcpToDatabaseMessage - received.length ∧
          connection.received ++ chunk <+: connection.stream then
        let received := received ++ chunk
        some { s with
          connections := Function.update s.connections i
            { connection with received := connection.received ++ chunk }
          pc := if h : received.length = sizeofTcpToDatabaseMessage then
              .assign descriptor ⟨received, h⟩
            else .receive descriptor received }
      else none
  | .disconnected =>
    match s.files.opening descriptor with
    | none => none
    | some i =>
      let connection := s.connections i
      if connection.received = connection.stream then
        some { s with
          connections := Function.update s.connections i { connection with ended := true }
          pc := .disconnect descriptor }
      else none
  | .interrupted => some s
  | .failed => some { s with pc := .disconnect descriptor }

def State.assign (descriptor : Nat) (request : Frame) : State :=
  { s with
    pendingRequests := Function.update s.pendingRequests (request.word64 0) (some descriptor)
    assigned := s.assigned ++ [(s.files.opening descriptor, request)] }

def assignCall (descriptor : Nat) (request : Frame) : Locked → State
  | .done => { s.assign descriptor request with pc := .push descriptor request }
  | .lockFailed => { s with pc := .disconnect descriptor }
  | .unlockFailed => { s.assign descriptor request with pc := .disconnect descriptor }

def State.push (descriptor : Nat) (request : Frame) : State :=
  { s with
    requestQueue := s.requestQueue ++ [request]
    pushed := s.pushed ++ [(s.files.opening descriptor, request)] }

def pushCall (descriptor : Nat) (request : Frame) : Queued → State
  | .done => { s.push descriptor request with pc := .scan (descriptor + 1) }
  | .lockFailed => { s with pc := .disconnect descriptor }
  | .signalFailed | .unlockFailed => { s.push descriptor request with pc := .disconnect descriptor }

def removeClient (client : Nat) : Locked → State
  | .lockFailed => s
  | .done | .unlockFailed => { s with clients := s.clients.erase client }

/-- `FD_CLR`, `remove_client`, `close`, and the maximum if it was this one. -/
def disconnectClient (descriptor : Nat) (outcome : Locked) : State :=
  let s := removeClient { s with masterSocketSet := s.masterSocketSet.erase descriptor } descriptor
    outcome
  { s with
    files := s.files.close descriptor
    maximumSocketDescriptor :=
      if (descriptor : Int) = s.maximumSocketDescriptor then
        lowerMaximum s.masterSocketSet descriptor
      else s.maximumSocketDescriptor
    pc := .scan (descriptor + 1) }

def cleanupNext (descriptor : Nat) : State :=
  if (descriptor : Int) ≤ s.maximumSocketDescriptor then
    { s with
      files := if s.serverSocket ≠ some descriptor ∧ descriptor ∈ s.masterSocketSet then
          s.files.close descriptor
        else s.files
      pc := .cleanup (descriptor + 1) }
  else { s with pc := .closeServer }

def threadStep (a : Action) : Option State :=
  match s.pc, a with
  | .socket, .socket none => some s.giveUp
  | .socket, .socket (some descriptor) =>
    some { s with serverSocket := some descriptor, pc := .setsockopt }
  | .setsockopt, .call true => some { s with pc := .bind }
  | .bind, .call true => some { s with pc := .listen }
  | .listen, .call true => s.monitor
  | .setsockopt, .call false | .bind, .call false | .listen, .call false => some s.giveUp
  | .test, .next => some { s with pc := if s.running then .select else .cleanup 0 }
  | .select, .select result => selectCall s result
  | .scan descriptor, .next => some (scanNext s descriptor)
  | .accept descriptor, .accept client => acceptCall s descriptor client
  | .addClient descriptor client, .locked outcome => registerClient s descriptor client outcome
  | .receive descriptor received, .recv result => recvCall s descriptor received result
  | .assign descriptor request, .locked outcome => some (assignCall s descriptor request outcome)
  | .push descriptor request, .queued outcome => some (pushCall s descriptor request outcome)
  | .disconnect descriptor, .locked outcome => some (disconnectClient s descriptor outcome)
  | .cleanup descriptor, .next => some (cleanupNext s descriptor)
  | .closeServer, .next => some { s with serverSocket := none, pc := .returned }
  | _, _ => none

def step (a : Action) : Option State :=
  match a with
  | .stop => some { s with running := false }
  | .answered requestId =>
    some { s with pendingRequests := Function.update s.pendingRequests requestId none }
  | .taken =>
    match s.requestQueue with
    | [] => none
    | request :: requests =>
      some { s with requestQueue := requests, taken := s.taken ++ [request] }
  | a => threadStep s a

end Calls

-- ---------------------------------------------------------------------------
-- Steps
-- ---------------------------------------------------------------------------

def Pc.starts : Pc → Bool
  | .socket | .setsockopt | .bind | .listen => true
  | _ => false

inductive Moves (s : State) (a : Action) : State → Prop where
  | giveUp (hpc : s.pc.starts = true) : Moves s a s.giveUp
  | start (server : Option Nat) (pc : Pc) (hpc : s.pc.starts = true) (hpc' : pc.starts = true) :
    Moves s a { s with serverSocket := server, pc := pc }
  | monitor {s' : State} (hpc : s.pc.starts = true) (hs : s.monitor = some s') : Moves s a s'
  | test (hpc : s.pc = .test) :
    Moves s a { s with pc := if s.running then .select else .cleanup 0 }
  | select {s' : State} (result : Selected) (hpc : s.pc = .select) (ha : a = .select result)
    (hs : selectCall s result = some s') : Moves s a s'
  | scan (d : Nat) (hpc : s.pc = .scan d) : Moves s a (scanNext s d)
  | accept {s' : State} (d : Nat) (client : Option (Nat × List UInt8)) (hpc : s.pc = .accept d)
    (ha : a = .accept client) (hs : acceptCall s d client = some s') : Moves s a s'
  | register {s' : State} (d client : Nat) (outcome : Locked) (hpc : s.pc = .addClient d client)
    (ha : a = .locked outcome) (hs : registerClient s d client outcome = some s') : Moves s a s'
  | recv {s' : State} (d : Nat) (received : List UInt8) (result : Received)
    (hpc : s.pc = .receive d received) (ha : a = .recv result)
    (hs : recvCall s d received result = some s') : Moves s a s'
  | assign (d : Nat) (request : Frame) (outcome : Locked) (hpc : s.pc = .assign d request)
    (ha : a = .locked outcome) : Moves s a (assignCall s d request outcome)
  | push (d : Nat) (request : Frame) (outcome : Queued) (hpc : s.pc = .push d request)
    (ha : a = .queued outcome) : Moves s a (pushCall s d request outcome)
  | disconnect (d : Nat) (outcome : Locked) (hpc : s.pc = .disconnect d)
    (ha : a = .locked outcome) : Moves s a (disconnectClient s d outcome)
  | cleanup (d : Nat) (hpc : s.pc = .cleanup d) : Moves s a (cleanupNext s d)
  | closeServer (hpc : s.pc = .closeServer) :
    Moves s a { s with serverSocket := none, pc := .returned }

section Steps

variable {s s' : State} {a : Action}

theorem threadStep_moves (hs : threadStep s a = some s') : Moves s a s' := by
  have hstarts {pc : Pc} (hpc : s.pc = pc) (h : pc.starts = true) : s.pc.starts = true := hpc ▸ h
  rw [threadStep.eq_def] at hs
  split at hs <;> rename_i hpc <;> first | cases hs | skip
  · exact .giveUp (hstarts hpc rfl)
  · exact .start _ _ (hstarts hpc rfl) rfl
  · exact .start _ _ (hstarts hpc rfl) rfl
  · exact .start _ _ (hstarts hpc rfl) rfl
  · exact .monitor (hstarts hpc rfl) hs
  · exact .giveUp (hstarts hpc rfl)
  · exact .giveUp (hstarts hpc rfl)
  · exact .giveUp (hstarts hpc rfl)
  · exact .test hpc
  · exact .select _ hpc rfl hs
  · exact .scan _ hpc
  · exact .accept _ _ hpc rfl hs
  · exact .register _ _ _ hpc rfl hs
  · exact .recv _ _ _ hpc rfl hs
  · exact .assign _ _ _ hpc rfl
  · exact .push _ _ _ hpc rfl
  · exact .disconnect _ _ hpc rfl
  · exact .cleanup _ hpc
  · exact .closeServer hpc

/-- The other threads open and close nothing. -/
theorem step_cases (hs : step s a = some s') : Moves s a s' ∨
    ∃ running pendingRequests requestQueue taken, s' = { s with
      running := running, pendingRequests := pendingRequests, requestQueue := requestQueue
      taken := taken } := by
  rw [step.eq_def] at hs
  split at hs
  · cases hs
    exact .inr ⟨_, _, _, _, rfl⟩
  · cases hs
    exact .inr ⟨_, _, _, _, rfl⟩
  · split at hs
    · cases hs
    · cases hs
      exact .inr ⟨_, _, _, _, rfl⟩
  · exact .inl (threadStep_moves hs)

end Steps

-- ---------------------------------------------------------------------------
-- The monitored set
-- ---------------------------------------------------------------------------

/-- The set has the listening socket, no descriptor outside the array, and its maximum. -/
structure Monitors (server : Option Nat) (set : Finset Nat) (maximum : Int) : Prop where
  server : ∃ d ∈ set, server = some d
  below : ∀ d ∈ set, d < fdSetSize
  greatest : ∃ m : Nat, maximum = m ∧ IsGreatest (set : Set Nat) m

section Monitors

variable {server : Option Nat} {set : Finset Nat} {maximum : Int} {d m : Nat}

theorem fdSet_eq_some {set' : Finset Nat} :
    fdSet set d = some set' ↔ d < fdSetSize ∧ insert d set = set' := by
  rw [fdSet]
  split
  · rename_i hd
    exact ⟨fun h => ⟨hd, Option.some.inj h⟩, fun h => congrArg some h.2⟩
  · rename_i hd
    exact ⟨nofun, fun h => absurd h.1 hd⟩

theorem Monitors.init (hd : d < fdSetSize) : Monitors (some d) {d} d where
  server := ⟨d, Finset.mem_singleton_self d, rfl⟩
  below x hx := by
    rw [Finset.mem_singleton.mp hx]
    exact hd
  greatest := by
    refine ⟨d, rfl, ?_⟩
    rw [Finset.coe_singleton]
    exact isGreatest_singleton

theorem Monitors.insert (h : Monitors server set maximum) (hd : d < fdSetSize) :
    Monitors server (insert d set) (if (d : Int) > maximum then d else maximum) where
  server := by
    obtain ⟨x, hx, hserver⟩ := h.server
    exact ⟨x, Finset.mem_insert_of_mem hx, hserver⟩
  below x hx := by
    rcases Finset.mem_insert.mp hx with rfl | hx
    · exact hd
    · exact h.below x hx
  greatest := by
    obtain ⟨m, rfl, hm⟩ := h.greatest
    rw [Finset.coe_insert]
    refine ⟨max d m, ?_, hm.insert d⟩
    rcases lt_or_ge m d with hlt | hge
    · rw [if_pos (Int.ofNat_lt.mpr hlt), max_eq_left hlt.le]
    · rw [if_neg (not_lt.mpr (Int.ofNat_le.mpr hge)), max_eq_right hge]

theorem lowerMaximum_greatest (hm : m ∈ set) (hle : m ≤ d) :
    ∃ g : Nat, lowerMaximum set d = g ∧ g ∈ set ∧ ∀ x ∈ set, x ≤ d → x ≤ g := by
  induction d with
  | zero =>
    obtain rfl := Nat.le_zero.mp hle
    exact ⟨0, by rw [lowerMaximum, if_pos hm]; rfl, hm, fun x _ hx => hx⟩
  | succ d ih =>
    rw [lowerMaximum]
    by_cases hd : d + 1 ∈ set
    · exact ⟨d + 1, if_pos hd, hd, fun x _ hx => hx⟩
    · have hbelow : ∀ x ∈ set, x ≤ d + 1 → x ≤ d := by
        intro x hx hxd
        rcases Nat.le_succ_iff.mp hxd with hxd | rfl
        · exact hxd
        · exact absurd hx hd
      obtain ⟨g, hg, hmem, hgreatest⟩ := ih (hbelow m hm hle)
      rw [if_neg hd]
      exact ⟨g, hg, hmem, fun x hx hxd => hgreatest x hx (hbelow x hx hxd)⟩

theorem Monitors.erase (h : Monitors server set maximum) (hd : server ≠ some d) :
    Monitors server (set.erase d)
      (if (d : Int) = maximum then lowerMaximum (set.erase d) d else maximum) := by
  obtain ⟨l, hl, rfl⟩ := h.server
  have hl' : l ∈ set.erase d := by
    refine Finset.mem_erase.mpr ⟨?_, hl⟩
    rintro rfl
    exact hd rfl
  refine ⟨⟨l, hl', rfl⟩, fun x hx => h.below x (Finset.mem_of_mem_erase hx), ?_⟩
  obtain ⟨m, rfl, hm, hgreatest⟩ := h.greatest
  split
  · rename_i hmax
    obtain rfl := Int.ofNat_inj.mp hmax
    obtain ⟨g, hg, hmem, hbelow⟩ := lowerMaximum_greatest hl' (hgreatest (Finset.mem_coe.mpr hl))
    refine ⟨g, hg, hmem, fun x hx => hbelow x hx ?_⟩
    exact hgreatest (Finset.mem_of_mem_erase (Finset.mem_coe.mp hx))
  · rename_i hmax
    refine ⟨m, rfl, Finset.mem_coe.mpr (Finset.mem_erase.mpr ⟨?_, hm⟩), fun x hx => ?_⟩
    · rintro rfl
      exact hmax rfl
    · exact hgreatest (Finset.mem_of_mem_erase (Finset.mem_coe.mp hx))

end Monitors

-- ---------------------------------------------------------------------------
-- What is open
-- ---------------------------------------------------------------------------

def State.Monitors (s : State) : Prop :=
  SelectLoop.Monitors s.serverSocket s.masterSocketSet s.maximumSocketDescriptor

def State.IsClient (s : State) (d : Nat) : Prop := d ∈ s.masterSocketSet ∧ s.serverSocket ≠ some d

def State.Opens (s : State) (P : Nat → Prop) : Prop := ∀ d, (s.files.opening d).isSome ↔ P d

def State.Reported (s : State) (d : Nat) : Prop :=
  ∀ x ∈ s.readySocketSet, d ≤ x → x ∈ s.masterSocketSet

/-- The descriptors at each place: the loop has none open but those it monitors and the one
that it has just accepted. -/
def State.At (s : State) : Pc → Prop
  | .test | .select => s.Monitors ∧ s.Opens s.IsClient
  | .scan d => s.Monitors ∧ s.Opens s.IsClient ∧ s.Reported d
  | .accept d => s.Monitors ∧ s.Opens s.IsClient ∧ s.Reported (d + 1)
  | .addClient d client => s.Monitors ∧ s.Opens (fun x => s.IsClient x ∨ x = client) ∧
      s.Reported (d + 1) ∧ client < fdSetSize ∧ client ∉ s.masterSocketSet
  | .receive d _ | .assign d _ | .push d _ | .disconnect d =>
    s.Monitors ∧ s.Opens s.IsClient ∧ s.Reported (d + 1) ∧ s.IsClient d
  | .cleanup d => s.Monitors ∧ s.Opens fun x => s.IsClient x ∧ d ≤ x
  | .socket | .setsockopt | .bind | .listen | .closeServer | .returned => s.Opens fun _ => False

structure State.Tidy (s : State) : Prop where
  files : s.files.Sound
  atPc : s.At s.pc

def Pc.client : Pc → Option Nat
  | .receive d _ | .assign d _ | .push d _ | .disconnect d => some d
  | _ => none

section Tidy

variable {s s' : State} {a : Action} {d client : Nat} {pc : Pc} {P : Nat → Prop}

theorem State.at_of_client (h : pc.client = some d) :
    s.At pc ↔ s.Monitors ∧ s.Opens s.IsClient ∧ s.Reported (d + 1) ∧ s.IsClient d := by
  cases pc <;> cases h <;> exact Iff.rfl

theorem State.Opens.opening (h : s.Opens P) (hd : P d) : ∃ i, s.files.opening d = some i :=
  Option.isSome_iff_exists.mp ((h d).mpr hd)

theorem State.Opens.opening_eq_none (h : s.Opens P) (hd : ¬ P d) : s.files.opening d = none := by
  rw [← Option.not_isSome_iff_eq_none, h d]
  exact hd

theorem State.Reported.weaken (h : s.Reported d) : s.Reported (d + 1) :=
  fun x hx hd => h x hx (Nat.le_of_succ_le hd)

theorem State.IsClient.of_not_mem (h : d ∉ s.masterSocketSet) : ¬ s.IsClient d := fun hd => h hd.1

theorem State.Monitors.server_ne (h : s.Monitors) (hd : d ∉ s.masterSocketSet) :
    s.serverSocket ≠ some d := by
  obtain ⟨l, hl, hserver⟩ := h.server
  rw [hserver]
  rintro ⟨⟩
  exact hd hl

theorem monitor_cases (hs : s.monitor = some s') : ∃ l < fdSetSize, s.serverSocket = some l ∧
    s' = { s with masterSocketSet := {l}, maximumSocketDescriptor := l, pc := .test } := by
  rw [State.monitor] at hs
  obtain ⟨l, hserver, hs⟩ := Option.bind_eq_some_iff.mp hs
  obtain ⟨set, hset, rfl⟩ := Option.map_eq_some_iff.mp hs
  obtain ⟨hl, rfl⟩ := fdSet_eq_some.mp hset
  rw [insert_empty_eq]
  exact ⟨l, hl, hserver, rfl⟩

theorem not_client_of_monitor {l : Nat} (hserver : s.serverSocket = some l) (d : Nat) :
    ¬ (d ∈ ({l} : Finset Nat) ∧ s.serverSocket ≠ some d) := by
  rintro ⟨hd, hne⟩
  obtain rfl := Finset.mem_singleton.mp hd
  exact hne hserver

theorem monitor_tidy (hfiles : s.files.Sound) (h : s.Opens fun _ => False)
    (hs : s.monitor = some s') : s'.Tidy := by
  obtain ⟨l, hl, hserver, rfl⟩ := monitor_cases hs
  refine ⟨hfiles, ?_, fun d => (h d).trans (iff_of_false id (not_client_of_monitor hserver d))⟩
  change SelectLoop.Monitors s.serverSocket _ _
  rw [hserver]
  exact .init hl

theorem selectCall_tidy {result : Selected} (hfiles : s.files.Sound) (hm : s.Monitors)
    (hopen : s.Opens s.IsClient) (hs : selectCall s result = some s') : s'.Tidy := by
  cases result with
  | ready set =>
    rw [selectCall] at hs
    split at hs
    · rename_i hsubset
      cases hs
      exact ⟨hfiles, hm, hopen, fun x hx _ => hsubset hx⟩
    · cases hs
  | interrupted =>
    cases hs
    exact ⟨hfiles, hm, hopen⟩
  | failed =>
    cases hs
    exact ⟨hfiles, hm, fun d => (hopen d).trans (and_iff_left (Nat.zero_le d)).symm⟩

theorem scanNext_cases (s : State) (d : Nat) : ∃ pc, scanNext s d = { s with pc := pc } ∧
    (pc = .scan (d + 1) ∨ pc = .accept d ∨ pc = .test ∨
      pc = .receive d [] ∧ d ∈ s.readySocketSet ∧ s.serverSocket ≠ some d) := by
  rw [scanNext]
  split
  · split
    · exact ⟨_, rfl, .inl rfl⟩
    · rename_i hready
      split
      · exact ⟨_, rfl, .inr (.inl rfl)⟩
      · rename_i hne
        exact ⟨_, rfl, .inr (.inr (.inr ⟨rfl, not_not.mp hready, hne⟩))⟩
  · exact ⟨_, rfl, .inr (.inr (.inl rfl))⟩

theorem scanNext_tidy (hfiles : s.files.Sound) (hm : s.Monitors) (hopen : s.Opens s.IsClient)
    (hreported : s.Reported d) : (scanNext s d).Tidy := by
  obtain ⟨pc, hscan, rfl | rfl | rfl | ⟨rfl, hready, hne⟩⟩ := scanNext_cases s d <;> rw [hscan]
  · exact ⟨hfiles, hm, hopen, hreported.weaken⟩
  · exact ⟨hfiles, hm, hopen, hreported.weaken⟩
  · exact ⟨hfiles, hm, hopen⟩
  · exact ⟨hfiles, hm, hopen, hreported.weaken, hreported d hready (Nat.le_refl d), hne⟩

def State.accepted (s : State) (client : Nat) (stream : List UInt8) : State :=
  { s with
    files := s.files.allocate client
    connections := Function.update s.connections s.files.openings ⟨stream, [], false⟩ }

theorem acceptCall_cases {result : Option (Nat × List UInt8)}
    (hs : acceptCall s d result = some s') : s' = { s with pc := .scan (d + 1) } ∨
      ∃ client stream, result = some (client, stream) ∧ s.serverSocket ≠ some client ∧
        s.files.opening client = none ∧
        (fdSetSize ≤ client ∧ s' = { s.accepted client stream with
            files := (s.files.allocate client).close client, pc := .scan (d + 1) } ∨
          client < fdSetSize ∧
            s' = { s.accepted client stream with pc := .addClient d client }) := by
  rw [acceptCall.eq_def] at hs
  split at hs
  · cases hs
    exact .inl rfl
  · rename_i client stream
    split at hs
    · cases hs
    rename_i hfree
    rw [not_or, Option.not_isSome_iff_eq_none] at hfree
    refine .inr ⟨client, stream, rfl, hfree.1, hfree.2, ?_⟩
    simp only at hs
    split at hs
    · rename_i hbeyond
      cases hs
      exact .inl ⟨hbeyond, rfl⟩
    · rename_i hbelow
      cases hs
      exact .inr ⟨not_le.mp hbelow, rfl⟩

/-- The new descriptor is none of the monitored ones, even if it was one of them before. -/
theorem acceptCall_tidy {result : Option (Nat × List UInt8)} (hfiles : s.files.Sound)
    (hm : s.Monitors) (hopen : s.Opens s.IsClient) (hreported : s.Reported (d + 1))
    (hs : acceptCall s d result = some s') : s'.Tidy := by
  rcases acceptCall_cases hs with rfl | ⟨client, stream, -, hserver, hclosed, hplace⟩
  · exact ⟨hfiles, hm, hopen, hreported⟩
  have hnot : ¬ s.IsClient client := by
    rw [← hopen client, hclosed]
    exact nofun
  have hmem : client ∉ s.masterSocketSet := fun hmem => hnot ⟨hmem, hserver⟩
  have hallocate := hfiles.allocate hclosed
  have hnew : (s.files.allocate client).opening client = some s.files.openings := by
    rw [hfiles.opening_allocate, if_pos rfl]
  rcases hplace with ⟨-, rfl⟩ | ⟨hbelow, rfl⟩
  · -- beyond the descriptor set: closed again
    refine ⟨hallocate.close hnew, hm, fun x => ?_, hreported⟩
    rw [hallocate.opening_close hnew, hfiles.opening_allocate]
    split
    · rename_i hx
      rw [hx]
      exact iff_of_false nofun hnot
    · exact hopen x
  · refine ⟨hallocate, hm, fun x => ?_, hreported, hbelow, hmem⟩
    change ((s.files.allocate client).opening x).isSome ↔ s.IsClient x ∨ x = client
    rw [hfiles.opening_allocate]
    split
    · rename_i hx
      exact iff_of_true rfl (.inr hx)
    · rename_i hx
      rw [hopen x, or_iff_left hx]

theorem addClient_frame (s : State) (client : Nat) (outcome : Locked) :
    ∃ clients, (addClient s client outcome).2 = { s with clients := clients } := by
  cases outcome with
  | lockFailed => exact ⟨_, rfl⟩
  | unlockFailed => exact ⟨_, rfl⟩
  | done =>
    rw [addClient]
    split <;> exact ⟨_, rfl⟩

theorem registerClient_cases {outcome : Locked}
    (hs : registerClient s d client outcome = some s') : ∃ clients,
      s' = { s with
        clients := clients, files := s.files.close client, pc := .scan (d + 1) } ∨
      s' = { s with
        clients := clients, masterSocketSet := insert client s.masterSocketSet
        maximumSocketDescriptor :=
          if (client : Int) > s.maximumSocketDescriptor then client
          else s.maximumSocketDescriptor
        pc := .scan (d + 1) } := by
  obtain ⟨clients, hclients⟩ := addClient_frame s client outcome
  rw [registerClient] at hs
  generalize addClient s client outcome = added at hs hclients
  obtain ⟨added, t⟩ := added
  obtain rfl : t = _ := hclients
  cases added with
  | false =>
    cases hs
    exact ⟨clients, .inl rfl⟩
  | true =>
    obtain ⟨set, hset, rfl⟩ := Option.map_eq_some_iff.mp hs
    obtain ⟨-, rfl⟩ := fdSet_eq_some.mp hset
    exact ⟨clients, .inr rfl⟩

theorem registerClient_tidy {outcome : Locked} (hfiles : s.files.Sound) (hm : s.Monitors)
    (hopen : s.Opens fun x => s.IsClient x ∨ x = client) (hreported : s.Reported (d + 1))
    (hbelow : client < fdSetSize) (hmem : client ∉ s.masterSocketSet)
    (hs : registerClient s d client outcome = some s') : s'.Tidy := by
  obtain ⟨clients, rfl | rfl⟩ := registerClient_cases hs
  · obtain ⟨i, hi⟩ := hopen.opening (.inr rfl)
    refine ⟨hfiles.close hi, hm, fun x => ?_, hreported⟩
    rw [hfiles.opening_close hi]
    split
    · rename_i hx
      rw [hx]
      exact iff_of_false nofun (State.IsClient.of_not_mem hmem)
    · rename_i hx
      exact (hopen x).trans (or_iff_left hx)
  · refine ⟨hfiles, SelectLoop.Monitors.insert hm hbelow, fun x => ?_, fun x hx hd => ?_⟩
    · refine (hopen x).trans ?_
      change (x ∈ s.masterSocketSet ∧ s.serverSocket ≠ some x) ∨ x = client ↔
        x ∈ insert client s.masterSocketSet ∧ s.serverSocket ≠ some x
      rw [Finset.mem_insert, or_and_right, or_comm]
      refine or_congr_left (iff_self_and.mpr ?_)
      rintro rfl
      exact hm.server_ne hmem
    · exact Finset.mem_insert_of_mem (hreported x hx hd)

theorem disconnectClient_frame (s : State) (d : Nat) (outcome : Locked) : ∃ clients,
    disconnectClient s d outcome = { s with
      clients := clients, masterSocketSet := s.masterSocketSet.erase d, files := s.files.close d
      maximumSocketDescriptor :=
        if (d : Int) = s.maximumSocketDescriptor then lowerMaximum (s.masterSocketSet.erase d) d
        else s.maximumSocketDescriptor
      pc := .scan (d + 1) } := by
  cases outcome <;> exact ⟨_, rfl⟩

theorem disconnectClient_tidy (outcome : Locked) (hfiles : s.files.Sound) (hm : s.Monitors)
    (hopen : s.Opens s.IsClient) (hreported : s.Reported (d + 1)) (hd : s.IsClient d) :
    (disconnectClient s d outcome).Tidy := by
  obtain ⟨clients, hclients⟩ := disconnectClient_frame s d outcome
  rw [hclients]
  obtain ⟨i, hi⟩ := hopen.opening hd
  refine ⟨hfiles.close hi, SelectLoop.Monitors.erase hm hd.2, fun x => ?_, fun x hx hle => ?_⟩
  · change ((s.files.close d).opening x).isSome ↔
      x ∈ s.masterSocketSet.erase d ∧ s.serverSocket ≠ some x
    rw [hfiles.opening_close hi, Finset.mem_erase]
    split
    · rename_i hx
      exact iff_of_false nofun fun h => h.1.1 hx
    · rename_i hx
      rw [hopen x, State.IsClient, and_iff_right hx]
  · exact Finset.mem_erase.mpr ⟨Nat.ne_of_gt hle, hreported x hx hle⟩

theorem recvCall_data {received : List UInt8} {first : UInt8} {rest : List UInt8}
    (hs : recvCall s d received (.data first rest) = some s') : ∃ i,
      s.files.opening d = some i ∧
      (first :: rest).length ≤ sizeofTcpToDatabaseMessage - received.length ∧
      (s.connections i).received ++ first :: rest <+: (s.connections i).stream ∧
      s' = { s with
        connections := Function.update s.connections i
          { s.connections i with received := (s.connections i).received ++ first :: rest }
        pc := if h : (received ++ first :: rest).length = sizeofTcpToDatabaseMessage then
            .assign d ⟨received ++ first :: rest, h⟩
          else .receive d (received ++ first :: rest) } := by
  rw [recvCall] at hs
  split at hs
  · cases hs
  rename_i i hopen
  simp only at hs
  split at hs
  · rename_i hdata
    cases hs
    exact ⟨i, hopen, hdata.1, hdata.2, rfl⟩
  · cases hs

theorem recvCall_disconnected {received : List UInt8}
    (hs : recvCall s d received .disconnected = some s') : ∃ i,
      s.files.opening d = some i ∧ (s.connections i).received = (s.connections i).stream ∧
      s' = { s with
        connections := Function.update s.connections i { s.connections i with ended := true }
        pc := .disconnect d } := by
  rw [recvCall] at hs
  split at hs
  · cases hs
  rename_i i hopen
  simp only at hs
  split at hs
  · rename_i hall
    cases hs
    exact ⟨i, hopen, hall, rfl⟩
  · cases hs

theorem recvCall_frame {received : List UInt8} {result : Received}
    (hpc : s.pc = .receive d received) (hs : recvCall s d received result = some s') :
    ∃ connections pc, pc.client = some d ∧
      s' = { s with connections := connections, pc := pc } := by
  cases result with
  | data first rest =>
    obtain ⟨i, -, -, -, rfl⟩ := recvCall_data hs
    refine ⟨_, _, ?_, rfl⟩
    split <;> rfl
  | disconnected =>
    obtain ⟨i, -, -, rfl⟩ := recvCall_disconnected hs
    exact ⟨_, .disconnect d, rfl, rfl⟩
  | interrupted =>
    cases hs
    exact ⟨s.connections, s.pc, by rw [hpc]; rfl, rfl⟩
  | failed =>
    cases hs
    exact ⟨s.connections, .disconnect d, rfl, rfl⟩

theorem cleanupNext_tidy (hfiles : s.files.Sound) (hm : s.Monitors)
    (hopen : s.Opens fun x => s.IsClient x ∧ d ≤ x) : (cleanupNext s d).Tidy := by
  rw [cleanupNext]
  split
  · by_cases hd : s.serverSocket ≠ some d ∧ d ∈ s.masterSocketSet
    · obtain ⟨i, hi⟩ := hopen.opening ⟨hd.symm, Nat.le_refl d⟩
      rw [if_pos hd]
      refine ⟨hfiles.close hi, hm, fun x => ?_⟩
      rw [hfiles.opening_close hi]
      split
      · rename_i hx
        rw [hx]
        exact iff_of_false nofun fun h => Nat.not_succ_le_self d h.2
      · rename_i hx
        refine (hopen x).trans (and_congr_right fun _ => ?_)
        exact ⟨fun h => Nat.lt_of_le_of_ne h (Ne.symm hx), Nat.le_of_succ_le⟩
    · rw [if_neg hd]
      refine ⟨hfiles, hm, fun x => (hopen x).trans (and_congr_right fun hx => ?_)⟩
      refine ⟨fun h => Nat.lt_of_le_of_ne h ?_, Nat.le_of_succ_le⟩
      rintro rfl
      exact hd hx.symm
  · rename_i hmaximum
    obtain ⟨m, hm, -, hgreatest⟩ := hm.greatest
    rw [hm] at hmaximum
    refine ⟨hfiles, fun x => (hopen x).trans (iff_of_false ?_ id)⟩
    rintro ⟨⟨hx, -⟩, hle⟩
    exact hmaximum (Int.ofNat_le.mpr (hle.trans (hgreatest (Finset.mem_coe.mpr hx))))

theorem State.at_of_starts (h : pc.starts = true) : s.At pc ↔ s.Opens fun _ => False := by
  cases pc <;> first | exact Iff.rfl | cases h

theorem Moves.tidy (h : s.Tidy) (hs : Moves s a s') : s'.Tidy := by
  obtain ⟨hfiles, hat⟩ := h
  cases hs with
  | giveUp hpc =>
    have hnone : s.Opens fun _ => False := (State.at_of_starts hpc).mp hat
    exact ⟨hfiles, hnone⟩
  | start server pc hpc hpc' =>
    have hnone : s.Opens fun _ => False := (State.at_of_starts hpc).mp hat
    exact ⟨hfiles, (State.at_of_starts hpc').mpr hnone⟩
  | monitor hpc hs => exact monitor_tidy hfiles ((State.at_of_starts hpc).mp hat) hs
  | test hpc =>
    rw [hpc] at hat
    obtain ⟨hm, hopen⟩ := hat
    refine ⟨hfiles, ?_⟩
    cases s.running with
    | true => exact ⟨hm, hopen⟩
    | false => exact ⟨hm, fun d => (hopen d).trans (and_iff_left (Nat.zero_le d)).symm⟩
  | select result hpc ha hs =>
    rw [hpc] at hat
    exact selectCall_tidy hfiles hat.1 hat.2 hs
  | scan d hpc =>
    rw [hpc] at hat
    exact scanNext_tidy hfiles hat.1 hat.2.1 hat.2.2
  | accept d client hpc ha hs =>
    rw [hpc] at hat
    exact acceptCall_tidy hfiles hat.1 hat.2.1 hat.2.2 hs
  | register d client outcome hpc ha hs =>
    rw [hpc] at hat
    obtain ⟨hm, hopen, hreported, hbelow, hmem⟩ := hat
    exact registerClient_tidy hfiles hm hopen hreported hbelow hmem hs
  | recv d received result hpc ha hs =>
    rw [hpc] at hat
    obtain ⟨connections, pc, hclient, rfl⟩ := recvCall_frame hpc hs
    exact ⟨hfiles, (State.at_of_client hclient).mpr hat⟩
  | assign d request outcome hpc =>
    rw [hpc] at hat
    cases outcome <;> exact ⟨hfiles, hat⟩
  | push d request outcome hpc =>
    rw [hpc] at hat
    cases outcome with
    | done => exact ⟨hfiles, hat.1, hat.2.1, hat.2.2.1⟩
    | lockFailed | signalFailed | unlockFailed => exact ⟨hfiles, hat⟩
  | disconnect d outcome hpc =>
    rw [hpc] at hat
    obtain ⟨hm, hopen, hreported, hclient⟩ := hat
    exact disconnectClient_tidy outcome hfiles hm hopen hreported hclient
  | cleanup d hpc =>
    rw [hpc] at hat
    exact cleanupNext_tidy hfiles hat.1 hat.2
  | closeServer hpc =>
    rw [hpc] at hat
    exact ⟨hfiles, hat⟩

theorem step_tidy (h : s.Tidy) (hs : step s a = some s') : s'.Tidy := by
  rcases step_cases hs with hs | ⟨running, pendingRequests, requestQueue, taken, rfl⟩
  · exact hs.tidy h
  · exact ⟨h.files, h.atPc⟩

theorem start_tidy : start.Tidy where
  files := .empty
  atPc _ := iff_of_false nofun id

end Tidy

-- ---------------------------------------------------------------------------
-- The clients
-- ---------------------------------------------------------------------------

/-- `clients_` has the descriptors that the loop monitors for clients. -/
def State.RegisteredAt (s : State) : Pc → Prop
  | .socket | .setsockopt | .bind | .listen => s.clients = ∅
  | .cleanup _ | .closeServer | .returned => True
  | _ => ∀ d, d ∈ s.clients ↔ s.IsClient d

section Registered

variable {s s' : State} {a : Action} {d client : Nat} {pc : Pc}

theorem State.registeredAt_of_inLoop (h : pc.inLoop = true) :
    s.RegisteredAt pc ↔ ∀ d, d ∈ s.clients ↔ s.IsClient d := by
  cases pc <;> first | exact Iff.rfl | cases h

theorem Pc.inLoop_of_client (h : pc.client = some d) : pc.inLoop = true := by
  cases pc <;> first | rfl | cases h

theorem monitor_registered (h : s.clients = ∅) (hs : s.monitor = some s') :
    s'.RegisteredAt s'.pc := by
  obtain ⟨l, -, hserver, rfl⟩ := monitor_cases hs
  intro x
  refine iff_of_false ?_ (not_client_of_monitor hserver x)
  rw [h]
  exact Finset.notMem_empty x

theorem registerClient_registered (hm : s.Monitors) (hmem : client ∉ s.masterSocketSet)
    (h : ∀ d, d ∈ s.clients ↔ s.IsClient d) (hs : registerClient s d client .done = some s') :
    s'.RegisteredAt s'.pc := by
  have hnew : client ∉ s.clients := fun hclient => State.IsClient.of_not_mem hmem ((h client).mp hclient)
  rw [registerClient, addClient, if_neg hnew] at hs
  obtain ⟨set, hset, rfl⟩ := Option.map_eq_some_iff.mp hs
  obtain ⟨-, rfl⟩ := fdSet_eq_some.mp hset
  intro x
  change x ∈ insert client s.clients ↔
    x ∈ insert client s.masterSocketSet ∧ s.serverSocket ≠ some x
  rw [Finset.mem_insert, Finset.mem_insert, h x, State.IsClient, or_and_right]
  refine or_congr_left (iff_self_and.mpr ?_)
  rintro rfl
  exact hm.server_ne hmem

theorem disconnectClient_registered (h : ∀ d, d ∈ s.clients ↔ s.IsClient d) (d : Nat) :
    (disconnectClient s d .done).RegisteredAt (disconnectClient s d .done).pc := by
  intro x
  change x ∈ s.clients.erase d ↔ x ∈ s.masterSocketSet.erase d ∧ s.serverSocket ≠ some x
  rw [Finset.mem_erase, Finset.mem_erase, h x, State.IsClient, and_assoc]

theorem State.registeredAt_of_starts (h : pc.starts = true) :
    s.RegisteredAt pc ↔ s.clients = ∅ := by
  cases pc <;> first | exact Iff.rfl | cases h

theorem Moves.registered (htidy : s.Tidy) (h : s.RegisteredAt s.pc)
    (hlocked : ∀ outcome, a = .locked outcome → outcome = .done) (hs : Moves s a s') :
    s'.RegisteredAt s'.pc := by
  have hat := htidy.atPc
  cases hs with
  | giveUp => trivial
  | start server pc hpc hpc' =>
    have hempty : s.clients = ∅ := (State.registeredAt_of_starts hpc).mp h
    exact (State.registeredAt_of_starts hpc').mpr hempty
  | monitor hpc hs => exact monitor_registered ((State.registeredAt_of_starts hpc).mp h) hs
  | test hpc =>
    rw [hpc] at h
    cases s.running with
    | true => exact h
    | false => trivial
  | select result hpc ha hs =>
    rw [hpc] at h
    cases result with
    | ready set =>
      rw [selectCall] at hs
      split at hs <;> cases hs
      exact h
    | interrupted =>
      cases hs
      exact h
    | failed =>
      cases hs
      trivial
  | scan d hpc =>
    rw [hpc] at h
    obtain ⟨pc, hscan, rfl | rfl | rfl | ⟨rfl, -, -⟩⟩ := scanNext_cases s d <;>
    · rw [hscan]
      exact h
  | accept d client hpc ha hs =>
    rw [hpc] at h
    rcases acceptCall_cases hs with rfl | ⟨client, stream, -, -, -, ⟨-, rfl⟩ | ⟨-, rfl⟩⟩
    · exact h
    · exact h
    · exact h
  | register d client outcome hpc ha hs =>
    rw [hpc] at h hat
    obtain rfl := hlocked outcome ha
    exact registerClient_registered hat.1 hat.2.2.2.2 h hs
  | recv d received result hpc ha hs =>
    rw [hpc] at h
    obtain ⟨connections, pc, hclient, rfl⟩ := recvCall_frame hpc hs
    exact (State.registeredAt_of_inLoop (Pc.inLoop_of_client hclient)).mpr h
  | assign d request outcome hpc =>
    rw [hpc] at h
    cases outcome <;> exact h
  | push d request outcome hpc =>
    rw [hpc] at h
    cases outcome <;> exact h
  | disconnect d outcome hpc ha =>
    rw [hpc] at h
    obtain rfl := hlocked outcome ha
    exact disconnectClient_registered h d
  | cleanup d hpc =>
    rw [cleanupNext]
    split <;> trivial
  | closeServer => trivial

theorem step_registered (htidy : s.Tidy) (h : s.RegisteredAt s.pc)
    (hlocked : ∀ outcome, a = .locked outcome → outcome = .done) (hs : step s a = some s') :
    s'.RegisteredAt s'.pc := by
  rcases step_cases hs with hs | ⟨running, pendingRequests, requestQueue, taken, rfl⟩
  · exact hs.registered htidy h hlocked
  · change State.RegisteredAt _ s.pc
    revert h
    cases s.pc <;> exact id

end Registered

structure DescriptorsKept (s : State) : Prop where
  master : s.pc.inLoop = true → ∃ server ∉ s.clients, s.serverSocket = some server ∧
    s.masterSocketSet = insert server s.clients
  below : s.pc.inLoop = true → ∀ d ∈ s.masterSocketSet, d < fdSetSize
  maximum : s.pc.inLoop = true → ∃ m : Nat, s.maximumSocketDescriptor = m ∧
    IsGreatest (s.masterSocketSet : Set Nat) m
  /-- `receive_client_request` is given a client that is registered. -/
  registered : ∀ d received, s.pc = .receive d received → d ∈ s.clients
  closed : s.pc = .returned → ∀ i < s.files.openings, s.files.closes i = 1

theorem descriptorsKept {s : State} (htidy : s.Tidy) (h : s.RegisteredAt s.pc) :
    DescriptorsKept s := by
  have hloop : s.pc.inLoop = true → s.Monitors ∧ ∀ d, d ∈ s.clients ↔ s.IsClient d := by
    intro hpc
    refine ⟨?_, (State.registeredAt_of_inLoop hpc).mp h⟩
    have hat := htidy.atPc
    generalize s.pc = pc at hpc hat
    cases pc <;> first | exact hat.1 | cases hpc
  constructor
  · intro hpc
    obtain ⟨hm, hclients⟩ := hloop hpc
    obtain ⟨server, hmem, hserver⟩ := hm.server
    refine ⟨server, fun hclient => ((hclients server).mp hclient).2 hserver, hserver, ?_⟩
    ext x
    rw [Finset.mem_insert, hclients x, State.IsClient, hserver]
    by_cases hx : x = server
    · exact iff_of_true (hx ▸ hmem) (.inl hx)
    · rw [or_iff_right hx, and_iff_left fun heq => hx (Option.some.inj heq).symm]
  · exact fun hpc => (hloop hpc).1.below
  · exact fun hpc => (hloop hpc).1.greatest
  · intro d received hpc
    have hat := htidy.atPc
    rw [hpc] at hat h
    exact (h d).mpr hat.2.2.2
  · intro hpc
    have hat := htidy.atPc
    rw [hpc] at hat
    exact htidy.files.closes_eq_one fun d => State.Opens.opening_eq_none hat id

/-- In every state reached, whatever the calls return and whatever the other threads do,
as long as `clients_mutex_` is locked and unlocked. -/
theorem descriptors_kept {actions : List Action} {s : State} (hr : run step start actions = some s)
    (hlocked : ∀ outcome, .locked outcome ∈ actions → outcome = .done) : DescriptorsKept s := by
  have hkept : s.Tidy ∧ s.RegisteredAt s.pc := by
    refine Runs.invariant_along (I := fun s => s.Tidy ∧ s.RegisteredAt s.pc)
      (C := fun _ a => ∀ outcome, a = .locked outcome → outcome = .done) ?_ ⟨start_tidy, rfl⟩ hr
      (.of_forall ?_)
    · rintro s a s' ⟨htidy, h⟩ ha hs
      exact ⟨step_tidy htidy hs, step_registered htidy h ha hs⟩
    · rintro s a ha outcome rfl
      exact hlocked outcome ha
  exact descriptorsKept hkept.1 hkept.2

/-- A client comes and goes, and the next one gets its number and stays until the server is
stopped. -/
def reusedActions : List Action :=
  [.socket (some 3), .call true, .call true, .call true, .next,
    .select (.ready {3}), .next, .next, .next, .next, .accept (some (4, [])), .locked .done,
    .next, .next, .next,
    .select (.ready {4}), .next, .next, .next, .next, .next, .recv .disconnected, .locked .done,
    .next, .next,
    .select (.ready {3}), .next, .next, .next, .next, .accept (some (4, [])), .locked .done,
    .next, .next,
    .stop, .next, .next, .next, .next, .next, .next, .next, .next]

theorem descriptors_kept_reused : ∃ s, run step start reusedActions = some s ∧
    s.files.openings = 2 ∧ DescriptorsKept s := by
  have hrun : (run step start reusedActions).map (·.files.openings) = some 2 := by decide +kernel
  obtain ⟨s, hs, hopenings⟩ := Option.map_eq_some_iff.mp hrun
  refine ⟨s, hs, hopenings, descriptors_kept hs ?_⟩
  intro outcome hmem
  simpa [reusedActions] using hmem

end ParkingSystem.SelectLoop
