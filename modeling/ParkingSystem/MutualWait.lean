import ParkingSystem.SegmentRemoval

/-!
# Start-up against shutdown

`shutdown` of Database takes the readiness flags back and then waits until nobody
else has the segment attached. A TcpServer that has it attached and is still in
`wait_for_queues`, which has no timeout, waits for the same flags: neither of the
two goes on. `no_mutual_wait` says that this does not happen if no TcpServer is
there when the flags are taken back, and none comes before the wait is over.
-/

namespace ParkingSystem

open Runs (run Along)

def DatabasePc.withdrawn : DatabasePc → Bool
  | .markNotReady .tcpToDatabase | .destroySync | .pollAttached | .waitDetach => true
  | _ => false

def TcpProcessPc.awaits (id : Nat) : TcpProcessPc → Bool
  | .readReady _ i => i = id
  | _ => false

namespace World

/-- Database `p` waits in `shutdown` until the TcpServer `q` detaches, and `q`, the
only other process that has the segment, waits for a flag that is NOT_READY. -/
structure MutualWait (w : World) (p q id : Nat) : Prop where
  database : ∃ d, w.databases p = some d ∧ d.pc = .waitDetach ∧ d.segment = some id
  tcpServer : ∃ pc, w.tcpServers q = some pc ∧ pc.awaits id = true
  segment : ∃ seg, w.segments id = some seg ∧ seg.attached = {p, q} ∧
    ∃ queue, seg.ready queue = false

/-- No TcpServer is in `wait_for_queues` when Database begins to take the flags
back, and none attaches from then on until the wait of `shutdown` is over. -/
def AwaitsInTime (w : World) : WorldAction → Prop
  | .database p .ok => ∀ d ∈ w.databases p, d.pc = .markNotReady .databaseToTcp →
      ∀ id ∈ d.segment, ∀ seg ∈ w.segments id, ∀ q ∈ seg.attached, ∀ pc ∈ w.tcpServers q,
        pc.awaits id = false
  | .tcpServer p .ok => ∀ pc ∈ w.tcpServers p, ∀ id ∈ pc.attaching, ∀ seg ∈ w.segments id,
      ∀ d ∈ w.databases seg.creator, d.segment = some id → d.pc.withdrawn = false
  | _ => True

instance (w : World) : (a : WorldAction) → Decidable (w.AwaitsInTime a)
  | .database _ .ok | .tcpServer _ .ok => by dsimp only [AwaitsInTime]; infer_instance
  | .database _ .error | .database _ .sigusr1 | .database _ .sigint | .tcpServer _ .error
  | .tcpServer _ .sigusr1 | .tcpServer _ .sigint | .startDatabase .. | .startTcpServer _
  | .dies _ | .readPid | .signal _ => .isTrue trivial

variable {w w' : World} {p q : Nat} {d e : DatabaseProcess} {new : Option Nat}

-- ---------------------------------------------------------------------------
-- One step
-- ---------------------------------------------------------------------------

theorem shutdown_withdrawn (d : DatabaseProcess) (h : d.shutdown.withdrawn = true) :
    d.segment = none := by
  unfold DatabaseProcess.shutdown at h
  split at h
  · cases h
  · rename_i hnone
    simpa using hnone

theorem Edge.withdrawn {pc pc' : DatabasePc} (h : Edge w d pc pc') (hpc' : pc'.withdrawn = true) :
    pc.withdrawn = true ∨ d.segment = none := by
  cases h with
  | pidFileNotOpened | pidNotWritten | databaseNotOpened | tablesNotInitialized
  | syncNotInitialized | signalsNotBlocked => exact .inr (shutdown_withdrawn d hpc')
  | syncDestroyed => exact .inl rfl
  | polled pc polls =>
    left
    rcases polls with rfl | rfl <;> rfl
  | _ => cases hpc'

theorem Flagging.withdrawn {pc pc' : DatabasePc} (h : Flagging pc queue value pc')
    (hpc' : pc'.withdrawn = true) :
    pc.withdrawn = true ∨ pc = .markNotReady .databaseToTcp := by
  cases h with
  | markedSecond => exact .inr rfl
  | markedFirst => exact .inl rfl
  | _ => cases hpc'

theorem DatabaseChange.withdraws (h : DatabaseChange w p d w') :
    ∃ d', w'.databases = Function.update w.databases p (some d') ∧
      ((d'.segment = d.segment ∧ (d'.pc.withdrawn = true → d.pc.withdrawn = true ∨
          d.pc = .markNotReady .databaseToTcp ∨ d.segment = none)) ∨
        (d'.pc.withdrawn = false ∧ Created w' p d')) := by
  cases h with
  | moved pc edge =>
    refine ⟨_, setDatabase_databases, .inl ⟨rfl, fun hpc => ?_⟩⟩
    exact (edge.withdrawn hpc).imp_right .inr
  | openedPidFile =>
    unfold openPidFile
    split
    · exact ⟨_, setDatabase_databases, .inl ⟨rfl, by simp [DatabasePc.withdrawn]⟩⟩
    · exact ⟨_, setDatabase_databases, .inl ⟨rfl, by simp [DatabasePc.withdrawn]⟩⟩
  | created =>
    exact ⟨_, setDatabase_databases,
      .inr ⟨rfl, .create (w := w) rfl rfl (Function.update_self ..)⟩⟩
  | flagged queue value pc flagging =>
    refine ⟨_, setDatabase_databases, .inl ⟨rfl, fun hpc => ?_⟩⟩
    exact (flagging.withdrawn hpc).imp_right .inl
  | headerWritten queue field =>
    refine ⟨_, setDatabase_databases, .inl ⟨rfl, ?_⟩⟩
    cases field <;> simp [HeaderField.next, DatabasePc.withdrawn]
  | restored =>
    exact ⟨_, setDatabase_databases, .inl ⟨rfl, fun hpc => .inr (.inr (shutdown_withdrawn d hpc))⟩⟩
  | removed => exact ⟨_, setDatabase_databases, .inr ⟨rfl, by simp [Created]⟩⟩
  | _ => exact ⟨_, setDatabase_databases, .inl ⟨rfl, by simp [DatabasePc.withdrawn]⟩⟩

theorem databaseStep_mark (place : d.pc = .markNotReady .databaseToTcp)
    (h : w.databaseStep p d outcome = some w') : outcome = .ok := by
  unfold databaseStep at h
  rw [place] at h
  cases outcome <;> first | rfl | cases h

-- ---------------------------------------------------------------------------
-- Whole runs
-- ---------------------------------------------------------------------------

/-- Once Database takes the flags back, no TcpServer waits for those of its
segment. -/
structure Unawaited (w : World) (p : Nat) (d : DatabaseProcess) : Prop where
  owned : Created w p d
  alone : d.pc.withdrawn = true → ∀ id seg, d.segment = some id → w.segments id = some seg →
    ∀ q ∈ seg.attached, ∀ pc, w.tcpServers q = some pc → pc.awaits id = false

theorem Unawaited.frame {next : Option TcpProcessPc} (v : Unawaited w q e) (h : Touches p new w w')
    (htcpServers : w'.tcpServers = Function.update w.tcpServers p next)
    (hnext : ∀ id, e.segment = some id → ∀ pc, next = some pc → pc.awaits id = true →
      e.pc.withdrawn = false ∨
        (new = none ∧ ∃ before, w.tcpServers p = some before ∧ before.awaits id = true)) :
    Unawaited w' q e := by
  refine ⟨v.owned.frame h, fun hpc id seg' hid hseg' r hr pc hpcr => ?_⟩
  obtain ⟨seg, hseg, -, hsub⟩ := h.back id seg' (v.owned id hid).1 hseg'
  rw [htcpServers, Function.update_apply] at hpcr
  split at hpcr
  · rename_i hrp
    subst hrp
    by_contra hawaits
    rcases hnext id hid pc hpcr (by simpa using hawaits) with hold | ⟨rfl, before, hbefore, hwaited⟩
    · rw [hpc] at hold
      cases hold
    · have hmem : r ∈ seg.attached := by simpa using hsub hr
      rw [v.alone hpc id seg hid hseg r hmem before hbefore] at hwaited
      cases hwaited
  · rename_i hrp
    have hmem : r ∈ seg.attached := by
      have hr := hsub hr
      split at hr
      · exact (Finset.mem_insert.mp hr).resolve_left hrp
      · exact hr
    exact v.alone hpc id seg hid hseg r hmem pc hpcr

theorem Unawaited.withdraw (v : Unawaited w p d) (hsegment : e.segment = d.segment)
    (hpc : e.pc.withdrawn = true → d.pc.withdrawn = true ∨
      d.pc = .markNotReady .databaseToTcp ∨ d.segment = none)
    (hc : d.pc = .markNotReady .databaseToTcp → w.AwaitsInTime (.database p .ok))
    (hd : w.databases p = some d) : Unawaited w p e := by
  refine ⟨fun id hid => v.owned id (hsegment ▸ hid), fun hwithdrawn id seg hid hseg q hq pc hpcq => ?_⟩
  have hid : d.segment = some id := hsegment ▸ hid
  rcases hpc hwithdrawn with hold | hmark | hnone
  · exact v.alone hold id seg hid hseg q hq pc hpcq
  · exact hc hmark d hd hmark id hid seg hseg q hq pc hpcq
  · rw [hnone] at hid
    cases hid

theorem TcpServerEdge.awaits {pc pc' : TcpProcessPc} {id : Nat} (h : TcpServerEdge w pc pc')
    (hawaits : pc'.awaits id = true) : pc.awaits id = true := by
  cases h with
  | firstRead => exact hawaits
  | secondRead =>
    split at hawaits
    · cases hawaits
    · exact hawaits
  | queueOpened =>
    split at hawaits <;> cases hawaits
  | _ => cases hawaits

def Unwaiting (w : World) : Prop := w.Each Unawaited

theorem Unwaiting.tcpServer {next : TcpProcessPc} (v : w.Unwaiting) (h : Touches p new w w')
    (hdatabases : w'.databases = Function.update w.databases p none)
    (htcpServers : w'.tcpServers = Function.update w.tcpServers p (some next))
    (hnext : ∀ id, next.awaits id = true →
      (∀ q e, w.databases q = some e → Created w q e → e.segment = some id →
        e.pc.withdrawn = false) ∨
      (new = none ∧ ∃ before, w.tcpServers p = some before ∧ before.awaits id = true)) :
    w'.Unwaiting := by
  refine Each.update v hdatabases (by simp) fun q e _ he ve => ?_
  refine ve.frame h htcpServers fun id hid pc hpc hawaits => ?_
  cases hpc
  exact (hnext id hawaits).imp_left fun hold => hold q e he ve.owned hid

theorem Unwaiting.stepTcpServer {pc : TcpProcessPc} (v : w.Unwaiting)
    (hpc : w.tcpServers p = some pc) (hstep : w.tcpServerStep p pc outcome = some w')
    (hc : w.AwaitsInTime (.tcpServer p outcome)) (h : TcpServerChange w p pc w') :
    w'.Unwaiting := by
  cases h with
  | moved pc' edge =>
    exact v.tcpServer (.of_same (p := p) rfl rfl) setTcpServer_databases setTcpServer_tcpServers
      fun id hawaits => .inr ⟨rfl, pc, hpc, edge.awaits hawaits⟩
  | attached id place found =>
    subst place
    rcases tcpServerStep_attach hstep with rfl | hw'
    · refine v.tcpServer (Touches.attach (some id)).setTcpServer setTcpServer_databases
        setTcpServer_tcpServers fun i hawaits => .inl fun q e he howned hid => ?_
      obtain rfl : id = i := by simpa [TcpProcessPc.awaits] using hawaits
      obtain ⟨seg, hseg⟩ := Option.isSome_iff_exists.mp found
      have hcreator := (howned id hid).2 seg hseg
      exact hc _ hpc id rfl seg hseg e (hcreator ▸ he) hid
    · rw [hw']
      exact v.tcpServer (.of_same (p := p) rfl rfl) setTcpServer_databases setTcpServer_tcpServers
        (by simp [TcpProcessPc.awaits])
  | exited =>
    exact v.tcpServer (.exitTcpServer (.of_same rfl rfl)) setTcpServer_databases
      setTcpServer_tcpServers (by simp [TcpProcessPc.awaits])

theorem Unwaiting.database {next : DatabaseProcess} (v : w.Unwaiting) (h : Touches p new w w')
    (hdatabases : w'.databases = Function.update w.databases p (some next))
    (htcpServers : w'.tcpServers = Function.update w.tcpServers p none)
    (hnext : next.live = true → Unawaited w' p next) : w'.Unwaiting := by
  refine Each.update v hdatabases ?_ fun q e _ _ ve => ve.frame h htcpServers (by simp)
  rintro _ ⟨⟩
  exact hnext

theorem Unwaiting.stepDatabase (v : w.Unwaiting) (hd : w.databases p = some d)
    (hstep : w.databaseStep p d outcome = some w') (hc : w.AwaitsInTime (.database p outcome))
    (h : DatabaseChange w p d w') : w'.Unwaiting := by
  obtain ⟨d', hdatabases, hd'⟩ := h.withdraws
  have hold := v p d hd h.live
  obtain ⟨new, htouches⟩ : ∃ new, Touches p new w w' := by
    rcases h.touches with htouches | ⟨-, htouches⟩
    · exact ⟨_, htouches⟩
    · exact ⟨_, htouches⟩
  refine v.database htouches hdatabases h.tcpServers fun _ => ?_
  rcases hd' with ⟨hsegment, hpc⟩ | ⟨hpc, howned⟩
  · have hmark (place : d.pc = .markNotReady .databaseToTcp) : w.AwaitsInTime (.database p .ok) :=
      databaseStep_mark place hstep ▸ hc
    exact (hold.withdraw hsegment hpc hmark hd).frame htouches h.tcpServers (by simp)
  · exact ⟨howned, by simp [hpc]⟩

theorem Unwaiting.step {a : WorldAction} (v : w.Unwaiting) (hc : w.AwaitsInTime a)
    (h : Change w a w') : w'.Unwaiting := by
  cases h with
  | startedDatabase p inherited =>
    exact v.database (.of_same (p := p) rfl rfl) setDatabase_databases setDatabase_tcpServers
      fun _ => ⟨by simp [Created, started], by simp [started]⟩
  | database _ p outcome d process step change => exact v.stepDatabase process step hc change
  | startedTcpServer p =>
    exact v.tcpServer (.of_same (p := p) rfl rfl) setTcpServer_databases setTcpServer_tcpServers
      (by simp [TcpProcessPc.awaits])
  | tcpServer _ p outcome pc process step change => exact v.stepTcpServer process step hc change
  | databaseKilled readPids p d =>
    exact v.database (.exitDatabase (.of_same rfl rfl)) setDatabase_databases
      setDatabase_tcpServers (by simp [DatabaseProcess.live])
  | tcpServerKilled readPids p =>
    exact v.tcpServer (.exitTcpServer (.of_same rfl rfl)) setTcpServer_databases
      setTcpServer_tcpServers (by simp [TcpProcessPc.awaits])
  | signalPending readPids p d process live =>
    have hsame : Touches p none w
        ({ w with readPids := readPids }.setDatabase p { d with pending := true }) := .of_same rfl rfl
    have hold := v p d process live
    exact v.database hsame setDatabase_databases setDatabase_tcpServers
      fun _ => (Unawaited.frame ⟨hold.owned, hold.alone⟩ hsame setDatabase_tcpServers (by simp))
  | notified readPids =>
    intro p d hd hlive
    have hold := v p d hd hlive
    exact ⟨hold.owned, hold.alone⟩

end World

/-- In no state of a run do a Database in `shutdown` and a TcpServer in
`wait_for_queues` wait for each other, if no TcpServer waits there when the flags
are taken back and none attaches between that and the end of the wait. -/
theorem no_mutual_wait (store : Store) (actions : List WorldAction) (t : World)
    (hr : run World.step (World.initial store) actions = some t)
    (hc : Along World.step World.AwaitsInTime (World.initial store) actions) (p q id : Nat) :
    ¬ t.MutualWait p q id := by
  rintro ⟨⟨d, hd, hpc, hid⟩, ⟨pc, hpcq, hawaits⟩, ⟨seg, hseg, hattached, -⟩⟩
  have v : t.Unwaiting := Runs.invariant_along
    (fun _ _ _ v hc h => v.step hc (World.step_cases h)) (World.Each.initial store) hr hc
  have hold := v p d hd (d.live_of_pc (by simp [hpc]))
  have halone := hold.alone (by rw [hpc]; rfl) id seg hid hseg q (by simp [hattached]) pc hpcq
  rw [halone] at hawaits
  cases hawaits

def waitingWorld : World :=
  (run World.step (World.initial Store.initial) waitingActions).get (by decide +kernel)

theorem no_mutual_wait_waiting :
    (waitingWorld.databases 1).map DatabaseProcess.pc = some .waitDetach ∧
      ¬ waitingWorld.MutualWait 1 2 0 :=
  ⟨by decide +kernel, no_mutual_wait Store.initial waitingActions waitingWorld
    (Option.some_get _).symm (by decide +kernel) 1 2 0⟩

/-- A TcpServer attaches after Database has taken the flags back, before it counts. -/
def lateWaitActions : List WorldAction :=
  .startDatabase 1 false :: List.replicate 27 (.database 1 .ok) ++
    [.startTcpServer 2, .tcpServer 2 .ok, .database 1 .sigint] ++
    List.replicate 5 (.database 1 .ok) ++ [.tcpServer 2 .ok, .database 1 .ok]

theorem not_always_without_mutual_wait :
    ¬ ∀ (store : Store) (actions : List WorldAction) (t : World),
      run World.step (World.initial store) actions = some t → ∀ p q id, ¬ t.MutualWait p q id := by
  intro h
  have hwrong : (run World.step (World.initial Store.initial) lateWaitActions).any (fun t =>
      (t.databases 1).any (fun d => d.pc = .waitDetach ∧ d.segment = some 0) ∧
      (t.tcpServers 2).any (TcpProcessPc.awaits 0) ∧
      (t.segments 0).any (fun seg => seg.attached = {1, 2} ∧
        seg.ready .tcpToDatabase = false)) = true := by
    decide +kernel
  obtain ⟨t, hr, ht⟩ := (Option.any_eq_true _ _).mp hwrong
  obtain ⟨hdatabase, htcpServer, hsegment⟩ := of_decide_eq_true ht
  obtain ⟨d, hd, hwaits⟩ := (Option.any_eq_true _ _).mp hdatabase
  obtain ⟨pc, hpc, hawaits⟩ := (Option.any_eq_true _ _).mp htcpServer
  obtain ⟨seg, hseg, hflags⟩ := (Option.any_eq_true _ _).mp hsegment
  obtain ⟨hplace, hid⟩ := of_decide_eq_true hwaits
  obtain ⟨hattached, hready⟩ := of_decide_eq_true hflags
  exact h Store.initial lateWaitActions t hr 1 2 0
    ⟨⟨d, hd, hplace, hid⟩, ⟨pc, hpc, hawaits⟩, ⟨seg, hseg, hattached, _, hready⟩⟩

end ParkingSystem
