import ParkingSystem.SelectLoop

/-!
# The requests of a stream

`requests_recorded`: what the select loop enters into `pending_requests_` and into
`request_queue_` for a client are the blocks of 64 bytes that the client has sent, in
their order and however `recv` cuts them up, and all of them once `recv` has returned 0.
-/

namespace ParkingSystem.SelectLoop

open Runs (run)

-- ---------------------------------------------------------------------------
-- Blocks
-- ---------------------------------------------------------------------------

/-- The complete messages at the front of a stream. -/
def blocks (stream : List UInt8) : List Frame :=
  if h : sizeofTcpToDatabaseMessage ≤ stream.length then
    ⟨stream.take sizeofTcpToDatabaseMessage, List.length_take_of_le h⟩ ::
      blocks (stream.drop sizeofTcpToDatabaseMessage)
  else []
termination_by stream.length
decreasing_by
  rw [List.length_drop]
  exact Nat.sub_lt (Nat.lt_of_lt_of_le (by decide) h) (by decide)

section Blocks

variable {stream whole rest : List UInt8}

theorem blocks_of_lt (h : stream.length < sizeofTcpToDatabaseMessage) : blocks stream = [] := by
  rw [blocks, dif_neg (Nat.not_le_of_lt h)]

theorem blocks_nil : blocks [] = [] := blocks_of_lt (by decide)

theorem blocks_frame_append (request : Frame) (rest : List UInt8) :
    blocks (request.bytes ++ rest) = request :: blocks rest := by
  obtain ⟨bytes, hlength⟩ := request
  rw [blocks, dif_pos]
  · simp [← hlength]
  · rw [List.length_append, hlength]
    exact Nat.le_add_right _ _

theorem blocks_append (h : sizeofTcpToDatabaseMessage ∣ whole.length) :
    blocks (whole ++ rest) = blocks whole ++ blocks rest := by
  obtain ⟨k, hk⟩ := h
  induction k generalizing whole with
  | zero =>
    obtain rfl := List.eq_nil_of_length_eq_zero hk
    rw [blocks_nil]
    rfl
  | succ k ih =>
    have hle : sizeofTcpToDatabaseMessage ≤ whole.length := by
      rw [hk]
      exact Nat.le_mul_of_pos_right _ (Nat.succ_pos k)
    let request : Frame := ⟨whole.take sizeofTcpToDatabaseMessage, List.length_take_of_le hle⟩
    have hsplit : whole = request.bytes ++ whole.drop sizeofTcpToDatabaseMessage :=
      (List.take_append_drop ..).symm
    have hdrop : (whole.drop sizeofTcpToDatabaseMessage).length =
        sizeofTcpToDatabaseMessage * k := by
      rw [List.length_drop, hk, Nat.mul_succ, Nat.add_sub_cancel]
    rw [hsplit, List.append_assoc, blocks_frame_append, blocks_frame_append, ih hdrop]
    rfl

theorem blocks_concat (h : sizeofTcpToDatabaseMessage ∣ whole.length) (request : Frame) :
    blocks (whole ++ request.bytes) = blocks whole ++ [request] := by
  have hone := blocks_frame_append request []
  rw [List.append_nil, blocks_nil] at hone
  rw [blocks_append h, hone]

theorem blocks_prefix (h : sizeofTcpToDatabaseMessage ∣ whole.length) (hbefore : whole <+: stream) :
    blocks whole <+: blocks stream := by
  obtain ⟨rest, rfl⟩ := hbefore
  exact ⟨blocks rest, (blocks_append h).symm⟩

end Blocks

-- ---------------------------------------------------------------------------
-- Logs
-- ---------------------------------------------------------------------------

def ofOpening (log : List (Option Nat × Frame)) (i : Nat) : List Frame :=
  (log.filter fun entry => entry.1 = some i).map Prod.snd

def State.assignedOf (s : State) (i : Nat) : List Frame := ofOpening s.assigned i

def State.pushedOf (s : State) (i : Nat) : List Frame := ofOpening s.pushed i

theorem ofOpening_append (log : List (Option Nat × Frame)) (opening : Option Nat) (request : Frame)
    (i : Nat) : ofOpening (log ++ [(opening, request)]) i =
      ofOpening log i ++ if opening = some i then [request] else [] := by
  rw [ofOpening, List.filter_append, List.map_append]
  split
  · rename_i h
    rw [List.filter_cons_of_pos (by simpa using h)]
    rfl
  · rename_i h
    rw [List.filter_cons_of_neg (by simpa using h)]
    rfl

-- ---------------------------------------------------------------------------
-- One connection
-- ---------------------------------------------------------------------------

structure Records (connection : Connection) (assigned pushed : List Frame) : Prop where
  received : connection.received <+: connection.stream
  assigned_within : assigned <+: blocks connection.stream
  pushed_within : pushed <+: blocks connection.stream
  ended : connection.ended = true →
    assigned = blocks connection.stream ∧ pushed = blocks connection.stream

structure Settled (connection : Connection) (assigned pushed : List Frame) : Prop where
  ended : connection.ended = false
  whole : sizeofTcpToDatabaseMessage ∣ connection.received.length
  assigned : assigned = blocks connection.received
  pushed : pushed = blocks connection.received

structure Served (connection : Connection) (inHand : List UInt8) (pushed : List Frame) : Prop where
  ended : connection.ended = false
  received : ∃ whole, sizeofTcpToDatabaseMessage ∣ whole.length ∧
    connection.received = whole ++ inHand ∧ pushed = blocks whole

def Progress (connection : Connection) (assigned pushed : List Frame) : Pc → Prop
  | .receive _ received => received.length < sizeofTcpToDatabaseMessage ∧
      assigned = pushed ∧ Served connection received pushed
  | .assign _ request => assigned = pushed ∧ Served connection request.bytes pushed
  | .push _ request => assigned = pushed ++ [request] ∧ Served connection request.bytes pushed
  | .disconnect _ => True
  | _ => Settled connection assigned pushed

section Connection

variable {connection : Connection} {assigned pushed : List Frame} {d : Nat} {request : Frame}
  {received : List UInt8}

theorem Settled.receive (h : Settled connection assigned pushed) :
    Progress connection assigned pushed (.receive d []) :=
  ⟨by decide, h.assigned.trans h.pushed.symm, h.ended, connection.received, h.whole,
    (List.append_nil _).symm, h.pushed⟩

theorem Served.blocks (h : Served connection request.bytes pushed) :
    pushed ++ [request] = blocks connection.received ∧
      sizeofTcpToDatabaseMessage ∣ connection.received.length := by
  obtain ⟨whole, hwhole, hreceived, hpushed⟩ := h.received
  rw [hreceived, blocks_concat hwhole, hpushed, List.length_append, request.length_eq]
  exact ⟨rfl, (Nat.dvd_add_self_right).mpr hwhole⟩

end Connection

-- ---------------------------------------------------------------------------
-- All connections
-- ---------------------------------------------------------------------------

def State.InCall (s : State) (i : Nat) (pc : Pc) : Prop :=
  Progress (s.connections i) (s.assignedOf i) (s.pushedOf i) pc

/-- Every connection is right, the open ones are between two calls or in the one that the
thread is in, and an opening to come has nothing recorded yet. -/
structure State.Framed (s : State) : Prop where
  records : ∀ i, Records (s.connections i) (s.assignedOf i) (s.pushedOf i)
  settled : ∀ d i, s.files.opening d = some i → s.pc.client ≠ some d →
    Settled (s.connections i) (s.assignedOf i) (s.pushedOf i)
  inCall : ∀ d i, s.files.opening d = some i → s.pc.client = some d → s.InCall i s.pc
  unused : ∀ i, s.files.openings ≤ i → s.assignedOf i = [] ∧ s.pushedOf i = []

section Framed

variable {s s' : State} {a : Action} {d client i : Nat} {pc : Pc} {received : List UInt8}
  {request : Frame}

theorem State.Framed.quiet (h : s.Framed) (hpc : s.pc.client = none) (hpc' : s'.pc.client = none)
    (hfiles : ∀ d i, s'.files.opening d = some i → s.files.opening d = some i)
    (hopenings : s'.files.openings = s.files.openings) (hconnections : s'.connections = s.connections)
    (hassigned : s'.assigned = s.assigned) (hpushed : s'.pushed = s.pushed) : s'.Framed := by
  have hassignedOf : s'.assignedOf = s.assignedOf := by
    funext i
    rw [State.assignedOf, State.assignedOf, hassigned]
  have hpushedOf : s'.pushedOf = s.pushedOf := by
    funext i
    rw [State.pushedOf, State.pushedOf, hpushed]
  constructor
  · rw [hconnections, hassignedOf, hpushedOf]
    exact h.records
  · intro d i hd _
    rw [hconnections, hassignedOf, hpushedOf]
    exact h.settled d i (hfiles d i hd) (by rw [hpc]; rintro ⟨⟩)
  · intro d i _ hclient
    rw [hpc'] at hclient
    cases hclient
  · rw [hopenings, hassignedOf, hpushedOf]
    exact h.unused

theorem scanNext_framed (h : s.Framed) (hpc : s.pc.client = none) : (scanNext s d).Framed := by
  have hquiet {pc : Pc} (hpc' : pc.client = none) : State.Framed { s with pc := pc } :=
    h.quiet hpc hpc' (fun _ _ => id) rfl rfl rfl rfl
  obtain ⟨pc, hscan, rfl | rfl | rfl | ⟨rfl, -, -⟩⟩ := scanNext_cases s d <;> rw [hscan]
  · exact hquiet rfl
  · exact hquiet rfl
  · exact hquiet rfl
  · -- the call begins between two messages
    have hsettled : ∀ x i, s.files.opening x = some i →
        Settled (s.connections i) (s.assignedOf i) (s.pushedOf i) :=
      fun x i hx => h.settled x i hx (by rw [hpc]; rintro ⟨⟩)
    exact ⟨h.records, fun x i hx _ => hsettled x i hx, fun x i hx _ => (hsettled x i hx).receive,
      h.unused⟩

theorem accept_framed (h : s.Framed) (hfiles : s.files.Sound) (hpc : s.pc.client = none)
    (hpc' : pc.client = none) (client : Nat) (stream : List UInt8) :
    State.Framed { s.accepted client stream with pc := pc } := by
  obtain ⟨hassigned, hpushed⟩ := h.unused s.files.openings (Nat.le_refl _)
  constructor
  · intro i
    change Records (Function.update s.connections _ _ i) (s.assignedOf i) (s.pushedOf i)
    by_cases hi : i = s.files.openings
    · rw [hi, Function.update_self, hassigned, hpushed]
      exact ⟨List.nil_prefix, List.nil_prefix, List.nil_prefix, by rintro ⟨⟩⟩
    · rw [Function.update_of_ne hi]
      exact h.records i
  · intro d i hd _
    change Settled (Function.update s.connections _ _ i) (s.assignedOf i) (s.pushedOf i)
    change (s.files.allocate client).opening d = some i at hd
    rw [hfiles.opening_allocate] at hd
    split at hd
    · cases hd
      rw [Function.update_self, hassigned, hpushed]
      exact ⟨rfl, Nat.dvd_zero _, blocks_nil.symm, blocks_nil.symm⟩
    · rw [Function.update_of_ne (Nat.ne_of_lt (hfiles.opening_lt hd))]
      exact h.settled d i hd (by rw [hpc]; rintro ⟨⟩)
  · intro d i _ hclient
    rw [hpc'] at hclient
    cases hclient
  · intro i hi
    exact h.unused i (Nat.le_of_succ_le hi)

theorem acceptCall_framed {result : Option (Nat × List UInt8)} (h : s.Framed)
    (hfiles : s.files.Sound) (hpc : s.pc.client = none) (hs : acceptCall s d result = some s') :
    s'.Framed := by
  rcases acceptCall_cases hs with rfl | ⟨client, stream, -, -, -, ⟨-, rfl⟩ | ⟨-, rfl⟩⟩
  · exact h.quiet hpc rfl (fun _ _ => id) rfl rfl rfl rfl
  · have haccepted := accept_framed h hfiles hpc hpc client stream
    exact haccepted.quiet hpc rfl (fun _ _ hx => (FileTable.opening_of_close hx).1)
      FileTable.openings_close rfl rfl rfl
  · exact accept_framed h hfiles hpc rfl client stream

theorem registerClient_framed {outcome : Locked} (h : s.Framed) (hpc : s.pc.client = none)
    (hs : registerClient s d client outcome = some s') : s'.Framed := by
  obtain ⟨clients, rfl | rfl⟩ := registerClient_cases hs
  · exact h.quiet hpc rfl (fun _ _ hx => (FileTable.opening_of_close hx).1)
      FileTable.openings_close rfl rfl rfl
  · exact h.quiet hpc rfl (fun _ _ => id) rfl rfl rfl rfl

theorem cleanupNext_framed (h : s.Framed) (hpc : s.pc.client = none) : (cleanupNext s d).Framed := by
  rw [cleanupNext]
  split
  · split
    · exact h.quiet hpc rfl (fun _ _ hx => (FileTable.opening_of_close hx).1)
        FileTable.openings_close rfl rfl rfl
    · exact h.quiet hpc rfl (fun _ _ => id) rfl rfl rfl rfl
  · exact h.quiet hpc rfl (fun _ _ => id) rfl rfl rfl rfl

theorem disconnectClient_framed (h : s.Framed) (hpc : s.pc = .disconnect d) (outcome : Locked) :
    (disconnectClient s d outcome).Framed := by
  obtain ⟨clients, hclients⟩ := disconnectClient_frame s d outcome
  rw [hclients]
  refine ⟨h.records, fun x i hx _ => ?_, fun x i _ => by rintro ⟨⟩, fun i hi => ?_⟩
  · obtain ⟨hopen, hne⟩ := FileTable.opening_of_close hx
    refine h.settled x i hopen ?_
    rw [hpc]
    rintro ⟨⟩
    exact hne rfl
  · exact h.unused i (FileTable.openings_close ▸ hi)

theorem State.inCall_of_none (hpc : pc.client = none) :
    s.InCall i pc ↔ Settled (s.connections i) (s.assignedOf i) (s.pushedOf i) := by
  cases pc <;> first | exact Iff.rfl | cases hpc

theorem State.Framed.serve (h : s.Framed) (hsound : s.files.Sound) (hpc : s.pc.client = some d)
    (hpc' : s'.pc.client = some d ∨ s'.pc.client = none) (hfiles : s'.files = s.files)
    (hothers : ∀ j, s.files.opening d ≠ some j → s'.connections j = s.connections j ∧
      s'.assignedOf j = s.assignedOf j ∧ s'.pushedOf j = s.pushedOf j)
    (hserved : ∀ i, s.files.opening d = some i →
      Records (s'.connections i) (s'.assignedOf i) (s'.pushedOf i) ∧ s'.InCall i s'.pc) :
    s'.Framed := by
  constructor
  · intro i
    by_cases hi : s.files.opening d = some i
    · exact (hserved i hi).1
    · obtain ⟨hconnection, hassigned, hpushed⟩ := hothers i hi
      rw [hconnection, hassigned, hpushed]
      exact h.records i
  · intro x i hx hclient
    rw [hfiles] at hx
    by_cases hxd : x = d
    · rw [hxd] at hx hclient
      exact (State.inCall_of_none (hpc'.resolve_left hclient)).mp (hserved i hx).2
    · obtain ⟨hconnection, hassigned, hpushed⟩ :=
        hothers i fun hd => hxd (hsound.opening_inj hx hd)
      rw [hconnection, hassigned, hpushed]
      refine h.settled x i hx ?_
      rw [hpc]
      rintro ⟨⟩
      exact hxd rfl
  · intro x i hx hclient
    rw [hfiles] at hx
    rcases hpc' with hd | hnone
    · obtain rfl := Option.some.inj (hd.symm.trans hclient)
      exact (hserved i hx).2
    · rw [hnone] at hclient
      cases hclient
  · intro i hi
    rw [hfiles] at hi
    obtain ⟨-, hassigned, hpushed⟩ :=
      hothers i fun hd => Nat.not_lt_of_le hi (hsound.opening_lt hd)
    rw [hassigned, hpushed]
    exact h.unused i hi

theorem State.Framed.giveUp (h : s.Framed) (hsound : s.files.Sound) (hpc : s.pc.client = some d) :
    State.Framed { s with pc := .disconnect d } :=
  h.serve hsound hpc (.inl rfl) rfl (fun _ _ => ⟨rfl, rfl, rfl⟩) fun i _ => ⟨h.records i, trivial⟩

theorem recvCall_data_framed {first : UInt8} {rest : List UInt8} (h : s.Framed)
    (hsound : s.files.Sound) (hpc : s.pc = .receive d received)
    (hs : recvCall s d received (.data first rest) = some s') : s'.Framed := by
  have hclient : s.pc.client = some d := by rw [hpc]; rfl
  obtain ⟨i, hopen, hroom, hbefore, rfl⟩ := recvCall_data hs
  have hcall := h.inCall d i hopen hclient
  rw [hpc] at hcall
  obtain ⟨hlength, hassigned, hended, whole, hwhole, hreceived, hpushed⟩ := hcall
  refine h.serve hsound hclient (.inl (by simp only; split <;> rfl)) rfl ?_ ?_
  · intro j hj
    have hne : j ≠ i := by
      rintro rfl
      exact hj hopen
    exact ⟨Function.update_of_ne hne .., rfl, rfl⟩
  · intro j hj
    obtain rfl := Option.some.inj (hopen.symm.trans hj)
    have hrecords := h.records i
    change Records (Function.update s.connections i _ i) (s.assignedOf i) (s.pushedOf i) ∧
      Progress (Function.update s.connections i _ i) (s.assignedOf i) (s.pushedOf i) _
    rw [Function.update_self]
    refine ⟨⟨hbefore, hrecords.assigned_within, hrecords.pushed_within, hrecords.ended⟩, ?_⟩
    have hmore : (s.connections i).received ++ first :: rest =
        whole ++ (received ++ first :: rest) := by
      rw [hreceived, List.append_assoc]
    simp only
    split
    · exact ⟨hassigned, hended, whole, hwhole, hmore, hpushed⟩
    · rename_i hnot
      refine ⟨?_, hassigned, hended, whole, hwhole, hmore, hpushed⟩
      rw [List.length_append] at hnot ⊢
      omega

theorem recvCall_disconnected_framed (h : s.Framed) (hsound : s.files.Sound)
    (hpc : s.pc = .receive d received) (hs : recvCall s d received .disconnected = some s') :
    s'.Framed := by
  have hclient : s.pc.client = some d := by rw [hpc]; rfl
  obtain ⟨i, hopen, hall, rfl⟩ := recvCall_disconnected hs
  have hcall := h.inCall d i hopen hclient
  rw [hpc] at hcall
  obtain ⟨hlength, hassigned, hended, whole, hwhole, hreceived, hpushed⟩ := hcall
  refine h.serve hsound hclient (.inl rfl) rfl ?_ ?_
  · intro j hj
    have hne : j ≠ i := by
      rintro rfl
      exact hj hopen
    exact ⟨Function.update_of_ne hne .., rfl, rfl⟩
  · intro j hj
    obtain rfl := Option.some.inj (hopen.symm.trans hj)
    have hrecords := h.records i
    have hblocks : s.pushedOf i = blocks (s.connections i).stream := by
      rw [← hall, hreceived, blocks_append hwhole, blocks_of_lt hlength, List.append_nil, hpushed]
    refine ⟨?_, trivial⟩
    change Records (Function.update s.connections i _ i) (s.assignedOf i) (s.pushedOf i)
    rw [Function.update_self]
    exact ⟨hrecords.received, hrecords.assigned_within, hrecords.pushed_within,
      fun _ => ⟨hassigned.trans hblocks, hblocks⟩⟩

theorem recvCall_framed {result : Received} (h : s.Framed) (hsound : s.files.Sound)
    (hpc : s.pc = .receive d received) (hs : recvCall s d received result = some s') :
    s'.Framed := by
  cases result with
  | data first rest => exact recvCall_data_framed h hsound hpc hs
  | disconnected => exact recvCall_disconnected_framed h hsound hpc hs
  | interrupted =>
    cases hs
    exact h
  | failed =>
    cases hs
    exact h.giveUp hsound (by rw [hpc]; rfl)

theorem State.assign_assignedOf (s : State) (d i : Nat) (request : Frame) :
    (s.assign d request).assignedOf i =
      s.assignedOf i ++ if s.files.opening d = some i then [request] else [] :=
  ofOpening_append ..

theorem State.push_pushedOf (s : State) (d i : Nat) (request : Frame) :
    (s.push d request).pushedOf i =
      s.pushedOf i ++ if s.files.opening d = some i then [request] else [] :=
  ofOpening_append ..

theorem assign_framed (h : s.Framed) (hsound : s.files.Sound) (hpc : s.pc = .assign d request)
    (hpc' : pc = .push d request ∨ pc = .disconnect d) :
    State.Framed { s.assign d request with pc := pc } := by
  have hclient : s.pc.client = some d := by rw [hpc]; rfl
  refine h.serve hsound hclient (.inl (by rcases hpc' with rfl | rfl <;> rfl)) rfl ?_ ?_
  · intro j hj
    refine ⟨rfl, ?_, rfl⟩
    refine (s.assign_assignedOf d j request).trans ?_
    rw [if_neg hj, List.append_nil]
  · intro i hopen
    have hcall := h.inCall d i hopen hclient
    rw [hpc] at hcall
    obtain ⟨hassigned, hserved⟩ := hcall
    obtain ⟨hblocks, hwhole⟩ := hserved.blocks
    have hrecords := h.records i
    have hnew : (s.assign d request).assignedOf i = s.pushedOf i ++ [request] := by
      rw [s.assign_assignedOf, if_pos hopen, hassigned]
    change Records (s.connections i) ((s.assign d request).assignedOf i) (s.pushedOf i) ∧
      Progress (s.connections i) ((s.assign d request).assignedOf i) (s.pushedOf i) pc
    rw [hnew]
    refine ⟨⟨hrecords.received, ?_, hrecords.pushed_within, ?_⟩, ?_⟩
    · rw [hblocks]
      exact blocks_prefix hwhole hrecords.received
    · rw [hserved.ended]
      rintro ⟨⟩
    · rcases hpc' with rfl | rfl
      · exact ⟨rfl, hserved⟩
      · trivial

theorem push_framed (h : s.Framed) (hsound : s.files.Sound) (hpc : s.pc = .push d request)
    (hpc' : pc = .scan (d + 1) ∨ pc = .disconnect d) :
    State.Framed { s.push d request with pc := pc } := by
  have hclient : s.pc.client = some d := by rw [hpc]; rfl
  refine h.serve hsound hclient (by rcases hpc' with rfl | rfl <;> simp [Pc.client]) rfl ?_ ?_
  · intro j hj
    refine ⟨rfl, rfl, ?_⟩
    refine (s.push_pushedOf d j request).trans ?_
    rw [if_neg hj, List.append_nil]
  · intro i hopen
    have hcall := h.inCall d i hopen hclient
    rw [hpc] at hcall
    obtain ⟨hassigned, hserved⟩ := hcall
    obtain ⟨hblocks, hwhole⟩ := hserved.blocks
    have hrecords := h.records i
    have hnew : (s.push d request).pushedOf i = s.pushedOf i ++ [request] := by
      rw [s.push_pushedOf, if_pos hopen]
    change Records (s.connections i) (s.assignedOf i) ((s.push d request).pushedOf i) ∧
      Progress (s.connections i) (s.assignedOf i) ((s.push d request).pushedOf i) pc
    rw [hnew]
    refine ⟨⟨hrecords.received, hrecords.assigned_within, ?_, ?_⟩, ?_⟩
    · rw [hblocks]
      exact blocks_prefix hwhole hrecords.received
    · rw [hserved.ended]
      rintro ⟨⟩
    · rcases hpc' with rfl | rfl
      · exact ⟨hserved.ended, hwhole, hassigned.trans hblocks, hblocks⟩
      · trivial

theorem Pc.client_of_starts (h : pc.starts = true) : pc.client = none := by
  cases pc <;> first | rfl | cases h

theorem Moves.framed (h : s.Framed) (hsound : s.files.Sound) (hs : Moves s a s') : s'.Framed := by
  have hquiet {s' : State} (hpc : s.pc.client = none) (hpc' : s'.pc.client = none)
      (hfiles : s'.files = s.files) (hconnections : s'.connections = s.connections)
      (hassigned : s'.assigned = s.assigned) (hpushed : s'.pushed = s.pushed) : s'.Framed :=
    h.quiet hpc hpc' (by rw [hfiles]; exact fun _ _ => id) (by rw [hfiles]) hconnections hassigned
      hpushed
  cases hs with
  | giveUp hpc => exact hquiet (Pc.client_of_starts hpc) rfl rfl rfl rfl rfl
  | start server pc hpc hpc' =>
    exact hquiet (Pc.client_of_starts hpc) (Pc.client_of_starts hpc') rfl rfl rfl rfl
  | monitor hpc hs =>
    obtain ⟨l, -, -, rfl⟩ := monitor_cases hs
    exact hquiet (Pc.client_of_starts hpc) rfl rfl rfl rfl rfl
  | test hpc => exact hquiet (by rw [hpc]; rfl) (by simp only; split <;> rfl) rfl rfl rfl rfl
  | select result hpc ha hs =>
    have hclient : s.pc.client = none := by rw [hpc]; rfl
    cases result with
    | ready set =>
      rw [selectCall] at hs
      split at hs <;> cases hs
      exact hquiet hclient rfl rfl rfl rfl rfl
    | interrupted | failed =>
      cases hs
      exact hquiet hclient rfl rfl rfl rfl rfl
  | scan d hpc => exact scanNext_framed h (by rw [hpc]; rfl)
  | accept d client hpc ha hs => exact acceptCall_framed h hsound (by rw [hpc]; rfl) hs
  | register d client outcome hpc ha hs => exact registerClient_framed h (by rw [hpc]; rfl) hs
  | recv d received result hpc ha hs => exact recvCall_framed h hsound hpc hs
  | assign d request outcome hpc =>
    cases outcome with
    | done => exact assign_framed h hsound hpc (.inl rfl)
    | lockFailed => exact h.giveUp hsound (by rw [hpc]; rfl)
    | unlockFailed => exact assign_framed h hsound hpc (.inr rfl)
  | push d request outcome hpc =>
    cases outcome with
    | done => exact push_framed h hsound hpc (.inl rfl)
    | lockFailed => exact h.giveUp hsound (by rw [hpc]; rfl)
    | signalFailed | unlockFailed => exact push_framed h hsound hpc (.inr rfl)
  | disconnect d outcome hpc => exact disconnectClient_framed h hpc outcome
  | cleanup d hpc => exact cleanupNext_framed h (by rw [hpc]; rfl)
  | closeServer hpc => exact hquiet (by rw [hpc]; rfl) rfl rfl rfl rfl rfl

theorem step_framed (h : s.Framed) (hsound : s.files.Sound) (hs : step s a = some s') :
    s'.Framed := by
  rcases step_cases hs with hs | ⟨running, pendingRequests, requestQueue, taken, rfl⟩
  · exact hs.framed h hsound
  · exact ⟨h.records, h.settled, h.inCall, h.unused⟩

theorem start_framed : start.Framed where
  records _ := ⟨List.nil_prefix, List.nil_prefix, List.nil_prefix, by rintro ⟨⟩⟩
  settled _ _ := by rintro ⟨⟩
  inCall _ _ := by rintro ⟨⟩
  unused _ _ := ⟨rfl, rfl⟩

end Framed

-- ---------------------------------------------------------------------------
-- The tables
-- ---------------------------------------------------------------------------

/-- The queue is what was pushed and not yet taken, and an entry of `pending_requests_` is
that of a request that came over its descriptor. -/
structure State.Tables (s : State) : Prop where
  queue : s.taken ++ s.requestQueue = s.pushed.map Prod.snd
  pending : ∀ requestId d, s.pendingRequests requestId = some d →
    ∃ i < s.files.openings, s.files.number i = d ∧
      ∃ request, (some i, request) ∈ s.assigned ∧ request.word64 0 = requestId

section Tables

variable {s s' : State} {a : Action} {d : Nat} {pc : Pc} {request : Frame}

structure State.SameTables (s s' : State) : Prop where
  files : s.files.Extends s'.files
  pendingRequests : s'.pendingRequests = s.pendingRequests
  assigned : s'.assigned = s.assigned
  requestQueue : s'.requestQueue = s.requestQueue
  pushed : s'.pushed = s.pushed
  taken : s'.taken = s.taken

theorem State.Tables.same (h : s.Tables) (hs : s.SameTables s') : s'.Tables where
  queue := by
    rw [hs.requestQueue, hs.pushed, hs.taken]
    exact h.queue
  pending requestId d hd := by
    rw [hs.pendingRequests] at hd
    obtain ⟨i, hi, hnumber, hrequest⟩ := h.pending requestId d hd
    rw [hs.assigned]
    exact ⟨i, hi.trans_le hs.files.openings, (hs.files.number i hi).trans hnumber, hrequest⟩

theorem assign_tables (h : s.Tables) (hsound : s.files.Sound) {i : Nat}
    (hopen : s.files.opening d = some i) (request : Frame) (pc : Pc) :
    State.Tables { s.assign d request with pc := pc } where
  queue := h.queue
  pending requestId x hx := by
    change Function.update s.pendingRequests (request.word64 0) (some d) requestId = some x at hx
    change ∃ j < s.files.openings, s.files.number j = x ∧ ∃ r,
      (some j, r) ∈ s.assigned ++ [(s.files.opening d, request)] ∧ r.word64 0 = requestId
    rw [Function.update_apply] at hx
    split at hx
    · rename_i hid
      cases hx
      refine ⟨i, hsound.opening_lt hopen,
        (hsound.number d i (FileTable.opening_eq_some.mp hopen).1).2, request, ?_, hid.symm⟩
      rw [hopen]
      exact List.mem_append_right _ (List.mem_singleton_self _)
    · obtain ⟨j, hj, hnumber, r, hr, hid⟩ := h.pending requestId x hx
      exact ⟨j, hj, hnumber, r, List.mem_append_left _ hr, hid⟩

theorem push_tables (h : s.Tables) (d : Nat) (request : Frame) (pc : Pc) :
    State.Tables { s.push d request with pc := pc } where
  queue := by
    change s.taken ++ (s.requestQueue ++ [request]) =
      (s.pushed ++ [(s.files.opening d, request)]).map Prod.snd
    rw [← List.append_assoc, h.queue, List.map_append]
    rfl
  pending := h.pending

theorem Moves.tables (hs : Moves s a s') : s.SameTables s' ∨
    (∃ d request pc, s.pc = .assign d request ∧ s' = { s.assign d request with pc := pc }) ∨
      ∃ d request pc, s.pc = .push d request ∧ s' = { s.push d request with pc := pc } := by
  have hrefl := FileTable.Extends.refl s.files
  cases hs with
  | giveUp => exact .inl ⟨hrefl, rfl, rfl, rfl, rfl, rfl⟩
  | start => exact .inl ⟨hrefl, rfl, rfl, rfl, rfl, rfl⟩
  | monitor hpc hs =>
    obtain ⟨l, -, -, rfl⟩ := monitor_cases hs
    exact .inl ⟨hrefl, rfl, rfl, rfl, rfl, rfl⟩
  | test => exact .inl ⟨hrefl, rfl, rfl, rfl, rfl, rfl⟩
  | select result hpc ha hs =>
    rw [selectCall.eq_def] at hs
    split at hs
    · split at hs <;> cases hs
      exact .inl ⟨hrefl, rfl, rfl, rfl, rfl, rfl⟩
    · cases hs
      exact .inl ⟨hrefl, rfl, rfl, rfl, rfl, rfl⟩
    · cases hs
      exact .inl ⟨hrefl, rfl, rfl, rfl, rfl, rfl⟩
  | scan d hpc =>
    obtain ⟨pc, hscan, -⟩ := scanNext_cases s d
    rw [hscan]
    exact .inl ⟨hrefl, rfl, rfl, rfl, rfl, rfl⟩
  | accept d result hpc ha hs =>
    rcases acceptCall_cases hs with rfl | ⟨client, stream, -, -, -, ⟨-, rfl⟩ | ⟨-, rfl⟩⟩
    · exact .inl ⟨hrefl, rfl, rfl, rfl, rfl, rfl⟩
    · exact .inl ⟨(FileTable.Extends.allocate s.files client).close client, rfl, rfl, rfl, rfl, rfl⟩
    · exact .inl ⟨FileTable.Extends.allocate s.files client, rfl, rfl, rfl, rfl, rfl⟩
  | register d client outcome hpc ha hs =>
    obtain ⟨clients, rfl | rfl⟩ := registerClient_cases hs
    · exact .inl ⟨hrefl.close client, rfl, rfl, rfl, rfl, rfl⟩
    · exact .inl ⟨hrefl, rfl, rfl, rfl, rfl, rfl⟩
  | recv d received result hpc ha hs =>
    obtain ⟨connections, pc, -, rfl⟩ := recvCall_frame hpc hs
    exact .inl ⟨hrefl, rfl, rfl, rfl, rfl, rfl⟩
  | assign d request outcome hpc =>
    cases outcome with
    | done | unlockFailed => exact .inr (.inl ⟨d, request, _, hpc, rfl⟩)
    | lockFailed => exact .inl ⟨hrefl, rfl, rfl, rfl, rfl, rfl⟩
  | push d request outcome hpc =>
    cases outcome with
    | done | signalFailed | unlockFailed => exact .inr (.inr ⟨d, request, _, hpc, rfl⟩)
    | lockFailed => exact .inl ⟨hrefl, rfl, rfl, rfl, rfl, rfl⟩
  | disconnect d outcome hpc =>
    obtain ⟨clients, hclients⟩ := disconnectClient_frame s d outcome
    rw [hclients]
    exact .inl ⟨hrefl.close d, rfl, rfl, rfl, rfl, rfl⟩
  | cleanup d hpc =>
    rw [cleanupNext]
    split
    · refine .inl ⟨?_, rfl, rfl, rfl, rfl, rfl⟩
      simp only
      split
      · exact hrefl.close d
      · exact hrefl
    · exact .inl ⟨hrefl, rfl, rfl, rfl, rfl, rfl⟩
  | closeServer => exact .inl ⟨hrefl, rfl, rfl, rfl, rfl, rfl⟩

theorem threadStep_tables (h : s.Tables) (htidy : s.Tidy) (hs : threadStep s a = some s') :
    s'.Tables := by
  rcases (threadStep_moves hs).tables with hsame | ⟨d, request, pc, hpc, rfl⟩ |
    ⟨d, request, pc, hpc, rfl⟩
  · exact h.same hsame
  · have hat := htidy.atPc
    rw [hpc] at hat
    obtain ⟨i, hopen⟩ := hat.2.1.opening hat.2.2.2
    exact assign_tables h htidy.files hopen request pc
  · exact push_tables h d request pc

theorem step_tables (h : s.Tables) (htidy : s.Tidy) (hs : step s a = some s') : s'.Tables := by
  rw [step.eq_def] at hs
  split at hs
  · cases hs
    exact ⟨h.queue, h.pending⟩
  · rename_i requestId
    cases hs
    refine ⟨h.queue, fun other d hd => ?_⟩
    change Function.update s.pendingRequests requestId none other = some d at hd
    rw [Function.update_apply] at hd
    split at hd
    · cases hd
    · exact h.pending other d hd
  · split at hs
    · cases hs
    · rename_i request requests hqueue
      cases hs
      refine ⟨?_, h.pending⟩
      rw [← h.queue, hqueue]
      exact List.append_assoc ..
  · exact threadStep_tables h htidy hs

end Tables

-- ---------------------------------------------------------------------------
-- The end of a connection
-- ---------------------------------------------------------------------------

/-- No call fails, the descriptor fits the set, and the server is not stopped. -/
def Action.succeeds : Action → Bool
  | .locked .done | .queued .done => true
  | .locked _ | .queued _ | .recv .failed | .select .failed | .stop => false
  | .accept (some (client, _)) => client < fdSetSize
  | _ => true

def Pc.leaves : Pc → Bool
  | .cleanup _ | .closeServer => true
  | _ => false

def Pc.keeps : Pc → Bool
  | .disconnect _ => false
  | pc => pc.starts || pc.inLoop

/-- A connection is closed only at the end of its stream. -/
structure State.Serving (s : State) : Prop where
  running : s.pc ≠ .returned → s.running = true
  place : s.pc.leaves = false
  closed : ∀ i < s.files.openings, s.files.closes i = 0 ∨ (s.connections i).ended = true
  atEnd : ∀ d i, s.pc = .disconnect d → s.files.opening d = some i →
    (s.connections i).ended = true

section Serving

variable {s s' : State} {a : Action} {d client : Nat} {pc : Pc} {received : List UInt8}

theorem Pc.ne_returned (h : pc.starts = true ∨ pc.inLoop = true) : pc ≠ .returned := by
  rintro rfl
  rcases h with h | h <;> cases h

theorem State.Serving.goto (h : s.Serving) (hpc : s.pc ≠ .returned) (hpc' : s'.pc.keeps = true)
    (hrunning : s'.running = s.running) (hfiles : s'.files = s.files)
    (hconnections : s'.connections = s.connections) : s'.Serving where
  running _ := hrunning.trans (h.running hpc)
  place := by
    revert hpc'
    cases s'.pc <;>
    · intro h
      first | rfl | cases h
  closed := by
    rw [hfiles, hconnections]
    exact h.closed
  atEnd d i hd _ := by
    rw [hd] at hpc'
    cases hpc'

theorem State.Serving.giveUp (h : s.Serving) : State.Serving s.giveUp where
  running hpc := absurd rfl hpc
  place := rfl
  closed := h.closed
  atEnd _ _ := by rintro ⟨⟩

theorem scanNext_serving (h : s.Serving) (hpc : s.pc ≠ .returned) : (scanNext s d).Serving := by
  obtain ⟨pc, hscan, rfl | rfl | rfl | ⟨rfl, -, -⟩⟩ := scanNext_cases s d <;>
  · rw [hscan]
    exact h.goto hpc rfl rfl rfl rfl

theorem acceptCall_serving {result : Option (Nat × List UInt8)} (h : s.Serving)
    (hsound : s.files.Sound) (hpc : s.pc ≠ .returned)
    (hresult : (Action.accept result).succeeds = true) (hs : acceptCall s d result = some s') :
    s'.Serving := by
  rcases acceptCall_cases hs with rfl | ⟨client, stream, rfl, -, -, ⟨hbeyond, rfl⟩ | ⟨-, rfl⟩⟩
  · exact h.goto hpc rfl rfl rfl rfl
  · exact absurd (decide_eq_true_iff.mp hresult) (Nat.not_lt_of_le hbeyond)
  · refine ⟨fun _ => h.running hpc, rfl, fun i hi => ?_, by rintro _ _ ⟨⟩⟩
    rcases Nat.lt_succ_iff_lt_or_eq.mp hi with hlt | rfl
    · change s.files.closes i = 0 ∨ (Function.update s.connections _ _ i).ended = true
      rw [Function.update_of_ne (Nat.ne_of_lt hlt)]
      exact h.closed i hlt
    · exact .inl (hsound.unused _ (Nat.le_refl _))

theorem registerClient_serving (h : s.Serving) (hpc : s.pc ≠ .returned)
    (hmem : client ∉ s.clients) (hs : registerClient s d client .done = some s') : s'.Serving := by
  rw [registerClient, addClient, if_neg hmem] at hs
  obtain ⟨set, -, rfl⟩ := Option.map_eq_some_iff.mp hs
  exact h.goto hpc rfl rfl rfl rfl

theorem recvCall_serving {result : Received} (h : s.Serving) (hpc : s.pc = .receive d received)
    (hresult : (Action.recv result).succeeds = true)
    (hs : recvCall s d received result = some s') : s'.Serving := by
  have hrunning : s.running = true := h.running (by rw [hpc]; rintro ⟨⟩)
  have hended {i j : Nat} {connection : Connection}
      (hconnection : (s.connections i).ended = true → connection.ended = true)
      (hj : s.files.closes j = 0 ∨ (s.connections j).ended = true) :
      s.files.closes j = 0 ∨ (Function.update s.connections i connection j).ended = true := by
    refine hj.imp_right fun hj => ?_
    rw [Function.update_apply]
    split
    · rename_i hji
      exact hconnection (hji ▸ hj)
    · exact hj
  cases result with
  | data first rest =>
    obtain ⟨i, -, -, -, rfl⟩ := recvCall_data hs
    refine ⟨fun _ => hrunning, ?_, fun j hj => hended id (h.closed j hj), fun x j hx => ?_⟩
    · simp only
      split <;> rfl
    · simp only at hx
      split at hx <;> cases hx
  | disconnected =>
    obtain ⟨i, hopen, -, rfl⟩ := recvCall_disconnected hs
    refine ⟨fun _ => hrunning, rfl, fun j hj => hended (fun _ => rfl) (h.closed j hj), ?_⟩
    intro x j hx hj
    cases hx
    obtain rfl := Option.some.inj (hopen.symm.trans hj)
    change (Function.update s.connections i _ i).ended = true
    rw [Function.update_self]
  | interrupted =>
    cases hs
    exact h
  | failed => cases hresult

theorem disconnectClient_serving (h : s.Serving) (hpc : s.pc = .disconnect d) {i : Nat}
    (hopen : s.files.opening d = some i) (outcome : Locked) : (disconnectClient s d outcome).Serving := by
  obtain ⟨clients, hclients⟩ := disconnectClient_frame s d outcome
  rw [hclients]
  refine ⟨fun _ => h.running (by rw [hpc]; rintro ⟨⟩), rfl, fun j hj => ?_, by rintro _ _ ⟨⟩⟩
  change (s.files.close d).closes j = 0 ∨ (s.connections j).ended = true
  rw [FileTable.closes_close hopen, Function.update_apply]
  split
  · rename_i hji
    rw [hji]
    exact .inr (h.atEnd d i hpc hopen)
  · exact h.closed j (FileTable.openings_close ▸ hj)

theorem Moves.serving (h : s.Serving) (htidy : s.Tidy) (hregistered : s.RegisteredAt s.pc)
    (ha : a.succeeds = true) (hs : Moves s a s') : s'.Serving := by
  have hat := htidy.atPc
  have hplace := h.place
  have hreturned {pc : Pc} (hpc : s.pc = pc) (h : pc.inLoop = true) : s.pc ≠ .returned :=
    Pc.ne_returned (.inr (hpc ▸ h))
  cases hs with
  | giveUp => exact h.giveUp
  | start server pc hpc hpc' =>
    refine h.goto (Pc.ne_returned (.inl hpc)) ?_ rfl rfl rfl
    cases pc <;> first | rfl | cases hpc'
  | monitor hpc hs =>
    obtain ⟨l, -, -, rfl⟩ := monitor_cases hs
    exact h.goto (Pc.ne_returned (.inl hpc)) rfl rfl rfl rfl
  | test hpc =>
    -- the loop goes on
    have hne := hreturned hpc rfl
    rw [h.running hne]
    exact h.goto hne rfl (h.running hne).symm rfl rfl
  | select result hpc haction hs =>
    cases result with
    | ready set =>
      rw [selectCall] at hs
      split at hs <;> cases hs
      exact h.goto (hreturned hpc rfl) rfl rfl rfl rfl
    | interrupted =>
      cases hs
      exact h.goto (hreturned hpc rfl) rfl rfl rfl rfl
    | failed =>
      rw [haction] at ha
      cases ha
  | scan d hpc => exact scanNext_serving h (hreturned hpc rfl)
  | accept d client hpc haction hs =>
    exact acceptCall_serving h htidy.files (hreturned hpc rfl) (haction ▸ ha) hs
  | register d client outcome hpc haction hs =>
    rw [hpc] at hat hregistered
    rw [haction] at ha
    cases outcome with
    | done =>
      obtain ⟨-, -, -, -, hmem⟩ := hat
      exact registerClient_serving h (hreturned hpc rfl)
        (fun hclient => hmem ((hregistered client).mp hclient).1) hs
    | lockFailed | unlockFailed => cases ha
  | recv d received result hpc haction hs => exact recvCall_serving h hpc (haction ▸ ha) hs
  | assign d request outcome hpc haction =>
    rw [haction] at ha
    cases outcome with
    | done => exact h.goto (hreturned hpc rfl) rfl rfl rfl rfl
    | lockFailed | unlockFailed => cases ha
  | push d request outcome hpc haction =>
    rw [haction] at ha
    cases outcome with
    | done => exact h.goto (hreturned hpc rfl) rfl rfl rfl rfl
    | lockFailed | signalFailed | unlockFailed => cases ha
  | disconnect d outcome hpc =>
    rw [hpc] at hat
    obtain ⟨i, hopen⟩ := hat.2.1.opening hat.2.2.2
    exact disconnectClient_serving h hpc hopen outcome
  | cleanup d hpc =>
    rw [hpc] at hplace
    cases hplace
  | closeServer hpc =>
    rw [hpc] at hplace
    cases hplace

theorem step_serving (h : s.Serving) (htidy : s.Tidy) (hregistered : s.RegisteredAt s.pc)
    (ha : a.succeeds = true) (hs : step s a = some s') : s'.Serving := by
  rw [step.eq_def] at hs
  split at hs
  · cases ha
  · cases hs
    exact ⟨h.running, h.place, h.closed, h.atEnd⟩
  · split at hs <;> cases hs
    exact ⟨h.running, h.place, h.closed, h.atEnd⟩
  · exact (threadStep_moves hs).serving h htidy hregistered ha

end Serving

-- ---------------------------------------------------------------------------
-- One call
-- ---------------------------------------------------------------------------

section Call

variable {s s' : State} {d : Nat} {received : List UInt8} {request : Frame}

theorem step_recv {result : Received} (hpc : s.pc = .receive d received) :
    step s (.recv result) = recvCall s d received result := by
  rw [step, threadStep.eq_def, hpc]
  · rintro ⟨⟩
  · rintro requestId ⟨⟩
  · rintro ⟨⟩

/-- Outside a call there is no `recv`. -/
theorem eq_of_run_recv {calls : List Received} (hpc : ∀ d received, s.pc ≠ .receive d received)
    (hr : run step s (calls.map .recv) = some s') : s' = s := by
  cases calls with
  | nil => exact (Runs.run_nil.mp hr).symm
  | cons call calls =>
    obtain ⟨t, hs, -⟩ := Runs.run_cons.mp hr
    rw [step.eq_def] at hs
    simp only at hs
    rw [threadStep.eq_def] at hs
    split at hs <;> rename_i hreceive heq <;> first | cases heq | cases hs
    exact absurd hreceive (hpc _ _)

/-- The steps of a call that gets a request are those of `receive_client_request`. -/
theorem receiveClientRequest_of_run {calls : List Received} (hpc : s.pc = .receive d received)
    (hlength : received.length < sizeofTcpToDatabaseMessage)
    (hr : run step s (calls.map .recv) = some s') (hpc' : s'.pc = .assign d request) :
    receiveClientRequest received calls = some request := by
  induction calls generalizing s received with
  | nil =>
    obtain rfl := Runs.run_nil.mp hr
    rw [hpc] at hpc'
    cases hpc'
  | cons call calls ih =>
    obtain ⟨t, hs, hrest⟩ := Runs.run_cons.mp hr
    rw [step_recv hpc] at hs
    rw [receiveClientRequest.eq_def, dif_neg (Nat.ne_of_lt hlength)]
    cases call with
    | data first rest =>
      obtain ⟨i, -, hroom, -, ht⟩ := recvCall_data hs
      have hpc := congrArg State.pc ht
      simp only at hpc ⊢
      rw [List.take_of_length_le hroom]
      split at hpc
      · -- the request is complete
        rename_i hfull
        rw [eq_of_run_recv (by rw [hpc]; rintro _ _ ⟨⟩) hrest, hpc] at hpc'
        cases hpc'
        rw [receiveClientRequest.eq_def, dif_pos hfull]
      · rename_i hnot
        refine ih hpc ?_ hrest
        rw [List.length_append] at hnot ⊢
        omega
    | interrupted =>
      cases hs
      exact ih hpc hlength hrest
    | disconnected =>
      obtain ⟨i, -, -, rfl⟩ := recvCall_disconnected hs
      rw [eq_of_run_recv (by rintro _ _ ⟨⟩) hrest] at hpc'
      cases hpc'
    | failed =>
      cases hs
      rw [eq_of_run_recv (by rintro _ _ ⟨⟩) hrest] at hpc'
      cases hpc'

end Call

/-- What the server has recorded of the streams of its clients. -/
structure RequestsRecorded (actions : List Action) (s : State) : Prop where
  /-- At any time, the first messages of the stream in their order. -/
  assigned : ∀ i, s.assignedOf i <+: blocks (s.connections i).stream
  pushed : ∀ i, s.pushedOf i <+: blocks (s.connections i).stream
  /-- Between two calls, all that has been received. -/
  received : ∀ d i, s.files.opening d = some i → s.pc.client ≠ some d →
    s.assignedOf i = blocks (s.connections i).received ∧
      s.pushedOf i = blocks (s.connections i).received
  /-- At the end, all that was sent. -/
  ended : ∀ i, (s.connections i).ended = true →
    s.assignedOf i = blocks (s.connections i).stream ∧
      s.pushedOf i = blocks (s.connections i).stream
  /-- No connection is given up before, unless a call fails or the server is stopped. -/
  closed : (∀ a ∈ actions, a.succeeds = true) →
    ∀ i < s.files.openings, s.files.closes i = 0 ∨ (s.connections i).ended = true
  tables : s.Tables

theorem requests_recorded {actions : List Action} {s : State}
    (hr : run step start actions = some s) : RequestsRecorded actions s := by
  have hframed : (s.Tidy ∧ s.Framed) ∧ s.Tables := by
    refine Runs.invariant (I := fun s => (s.Tidy ∧ s.Framed) ∧ s.Tables) ?_
      ⟨⟨start_tidy, start_framed⟩, rfl, by rintro _ _ ⟨⟩⟩ hr
    rintro s a s' ⟨⟨htidy, hframed⟩, htables⟩ hs
    exact ⟨⟨step_tidy htidy hs, step_framed hframed htidy.files hs⟩, step_tables htables htidy hs⟩
  obtain ⟨⟨-, hframed⟩, htables⟩ := hframed
  refine ⟨fun i => (hframed.records i).assigned_within, fun i => (hframed.records i).pushed_within,
    fun d i hd hclient => ?_, fun i => (hframed.records i).ended, fun hsucceeds => ?_, htables⟩
  · have hsettled := hframed.settled d i hd hclient
    exact ⟨hsettled.assigned, hsettled.pushed⟩
  · have hserving : (s.Tidy ∧ s.RegisteredAt s.pc) ∧ s.Serving := by
      refine Runs.invariant_along (I := fun s => (s.Tidy ∧ s.RegisteredAt s.pc) ∧ s.Serving)
        (C := fun _ a => a.succeeds = true) ?_
        ⟨⟨start_tidy, rfl⟩, fun _ => rfl, rfl, by rintro _ ⟨⟩, by rintro _ _ ⟨⟩⟩ hr
        (.of_forall fun _ => hsucceeds)
      rintro s a s' ⟨⟨htidy, hregistered⟩, hserving⟩ ha hs
      refine ⟨⟨step_tidy htidy hs, step_registered htidy hregistered ?_ hs⟩,
        step_serving hserving htidy hregistered ha hs⟩
      rintro outcome rfl
      cases outcome with
      | done => rfl
      | lockFailed | unlockFailed => cases ha
    exact hserving.2.closed

/-- Two clients are accepted; the first sends a message in two pieces, with an EINTR between
them, and one byte more, the second a message in one piece. -/
def splitActions : List Action :=
  [.socket (some 3), .call true, .call true, .call true, .next,
    .select (.ready {3}), .next, .next, .next, .next, .accept (some (4, List.replicate 65 1)),
    .locked .done, .next, .next, .next,
    .select (.ready {3}), .next, .next, .next, .next, .accept (some (5, List.replicate 64 2)),
    .locked .done, .next, .next, .next, .next,
    .select (.ready {4, 5}), .next, .next, .next, .next, .next,
    .recv (.data 1 (List.replicate 31 1)), .recv .interrupted,
    .recv (.data 1 (List.replicate 31 1)), .locked .done, .queued .done, .next,
    .recv (.data 2 (List.replicate 63 2)), .locked .done, .queued .done, .next, .next,
    .select (.ready {4}), .next, .next, .next, .next, .next, .recv (.data 1 []),
    .recv .disconnected, .locked .done]

theorem requests_recorded_split : ∃ s, run step start splitActions = some s ∧
    (s.connections 0).ended = true ∧ RequestsRecorded splitActions s := by
  have hrun : (run step start splitActions).map (fun s => (s.connections 0).ended) = some true := by
    decide +kernel
  obtain ⟨s, hs, hended⟩ := Option.map_eq_some_iff.mp hrun
  exact ⟨s, hs, hended, requests_recorded hs⟩

end ParkingSystem.SelectLoop
