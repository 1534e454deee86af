import ParkingSystem.SegmentRemoval

/-!
# The start-up handshake

Database initializes two queue headers of five words each and sets a flag after
either; TcpServer reads the two flags one after the other. Only the second flag
says anything: it is set once, when both headers are complete, by the process that
created the segment, and nobody writes a header of that segment afterwards
(`handshake_complete`). The first may have been set and taken back.
-/

namespace ParkingSystem

open Runs (run)

def QueueHeader.zero : QueueHeader := ⟨0, 0, 0, 0, 0⟩

/-- What the constructor of `SharedQueue` leaves. -/
def QueueHeader.initialized (queue : Direction) : QueueHeader :=
  ⟨0, 0, 0, queue.capacity, queue.elementSize⟩

/-- What is there before the constructor writes the field. -/
def QueueHeader.before (queue : Direction) : HeaderField → QueueHeader
  | .elementSize => ⟨0, 0, 0, queue.capacity, 0⟩
  | _ => .zero

def DatabasePc.preparing : DatabasePc → Bool
  | .attachSegment | .resetReady _ | .openQueue _ | .writeHeader .. | .publish _ | .withdraw => true
  | _ => false

def DatabasePc.header : DatabasePc → Direction → QueueHeader
  | .attachSegment, _ | .resetReady _, _ | .openQueue .tcpToDatabase, _ => .zero
  | .writeHeader .tcpToDatabase field, .tcpToDatabase => .before .tcpToDatabase field
  | .writeHeader .databaseToTcp field, .databaseToTcp => .before .databaseToTcp field
  | .writeHeader .tcpToDatabase _, .databaseToTcp | .publish .tcpToDatabase, .databaseToTcp
  | .openQueue .databaseToTcp, .databaseToTcp | .withdraw, .databaseToTcp => .zero
  | _, queue => .initialized queue

theorem DatabasePc.writeHeader_header (queue : Direction) (field : HeaderField) :
    (DatabasePc.writeHeader queue field).header queue = .before queue field := by
  cases queue <;> rfl

theorem DatabasePc.next_header (queue q : Direction) (field : HeaderField) :
    (match field.next with
      | some next => DatabasePc.writeHeader queue next
      | none => .publish queue).header q =
      if q = queue then (QueueHeader.before queue field).set queue field
      else (DatabasePc.writeHeader queue field).header q := by
  cases queue <;> cases q <;> cases field <;> rfl

def TcpProcessPc.attached : TcpProcessPc → Option Nat
  | .readReady _ id | .openQueue _ id | .initializeSync id | .running id => some id
  | .findSegment | .attachSegment _ | .exited => none

def TcpProcessPc.waited : TcpProcessPc → Option Nat
  | .openQueue _ id | .initializeSync id | .running id => some id
  | .findSegment | .attachSegment _ | .readReady .. | .exited => none

namespace World

/-- The TcpServer that waited for the queues of this segment can use them: both
headers are complete and pass the test of its own constructors, and no process is
at a write of either. -/
structure Handshaken (w : World) (p id : Nat) : Prop where
  initialized : ∃ seg, w.segments id = some seg ∧ p ∈ seg.attached ∧
    ∀ queue, seg.header queue = .initialized queue
  accepted : ∀ queue seg, w.segments id = some seg →
    (seg.header queue).capacity = queue.capacity ∧
      (seg.header queue).elementSize = queue.elementSize
  final : ∀ q d, w.databases q = some d → d.segment = some id →
    ∀ queue field, d.pc ≠ .writeHeader queue field

variable {w w' w₁ : World} {p q : Nat} {d e : DatabaseProcess} {own : Option Nat}

-- ---------------------------------------------------------------------------
-- What a step leaves of the flags and headers
-- ---------------------------------------------------------------------------

/-- What `view` shows of the segments is the same but for the segment `own`. -/
def Preserves {α : Type} (view : (Direction → Bool) → (Direction → QueueHeader) → α)
    (own : Option Nat) (w w' : World) : Prop :=
  ∀ id seg', id < w.nextSegment → own ≠ some id → w'.segments id = some seg' →
    ∃ seg, w.segments id = some seg ∧ view seg'.ready seg'.header = view seg.ready seg.header

namespace Preserves

variable {α : Type} {view : (Direction → Bool) → (Direction → QueueHeader) → α}

theorem of_same (h : w'.segments = w.segments) : Preserves view own w w' :=
  fun _ seg' _ _ hseg' => ⟨seg', h ▸ hseg', rfl⟩

theorem update {id : Option Nat} {f : Segment → Segment}
    (h : own = id ∨ ∀ seg, view (f seg).ready (f seg).header = view seg.ready seg.header) :
    Preserves view own w (w.updateSegment id f) := by
  intro i seg' _ hown hseg'
  simp only [updateSegment] at hseg'
  split at hseg'
  · rename_i hid
    obtain ⟨seg, hseg, rfl⟩ := Option.map_eq_some_iff.mp hseg'
    exact ⟨seg, hseg, (h.resolve_left fun he => hown (he.trans hid)) seg⟩
  · exact ⟨seg', hseg', rfl⟩

theorem create (s : Segment) (key : Option Nat) :
    Preserves view own w { w with
      key := key
      segments := Function.update w.segments w.nextSegment (some s)
      nextSegment := w.nextSegment + 1 } := by
  intro i seg' hi _ hseg'
  dsimp only at hseg'
  rw [Function.update_of_ne (Nat.ne_of_lt hi)] at hseg'
  exact ⟨seg', hseg', rfl⟩

theorem remove (id key : Option Nat) :
    Preserves view own w { w with
      key := key
      segments := fun i =>
        if id = some i then
          (w.segments i).bind fun seg =>
            if seg.attached = ∅ then none else some { seg with removed := true }
        else w.segments i } := by
  intro i seg' _ _ hseg'
  dsimp only at hseg'
  split at hseg'
  · obtain ⟨seg, hseg, hremove⟩ := Option.bind_eq_some_iff.mp hseg'
    split at hremove
    · cases hremove
    · cases hremove
      exact ⟨seg, hseg, rfl⟩
  · exact ⟨seg', hseg', rfl⟩

theorem setDatabase (h : Preserves view own w w') : Preserves view own w (w'.setDatabase q e) := h

theorem setTcpServer {pc : TcpProcessPc} (h : Preserves view own w w') :
    Preserves view own w (w'.setTcpServer q pc) := h

theorem detach (h : Preserves view own w w') : Preserves view own w (w'.detach p) := by
  intro i seg₂ hi hown hseg₂
  obtain ⟨seg₁, hseg₁, hdetach⟩ := Option.bind_eq_some_iff.mp hseg₂
  obtain ⟨seg, hseg, hview⟩ := h i seg₁ hi hown hseg₁
  unfold Segment.detach at hdetach
  split at hdetach
  · cases hdetach
  · cases hdetach
    exact ⟨seg, hseg, hview⟩

theorem exitDatabase {cause : ExitCause} (h : Preserves view own w w') :
    Preserves view own w (w'.exitDatabase q e cause) :=
  h.detach.setDatabase

theorem exitTcpServer (h : Preserves view own w w') : Preserves view own w (w'.exitTcpServer q) :=
  h.detach.setTcpServer

end Preserves

theorem DatabaseChange.preserves (h : DatabaseChange w p d w') :
    Preserves Prod.mk d.segment w w' := by
  cases h with
  | exited => exact .exitDatabase (.of_same rfl)
  | openedPidFile =>
    unfold openPidFile
    split <;> exact .of_same rfl
  | created => exact (Preserves.create (Segment.new p) (some w.nextSegment)).setDatabase
  | attached => exact (Preserves.update (.inl rfl)).setDatabase
  | flagged => exact (Preserves.update (.inl rfl)).setDatabase
  | initialized => exact (Preserves.update (.inl rfl)).setDatabase
  | headerWritten => exact (Preserves.update (.inl rfl)).setDatabase
  | withdrawn => exact .exitDatabase (.update (.inl rfl))
  | detached => exact (Preserves.of_same rfl).detach.setDatabase
  | removed => exact (Preserves.remove d.segment _).setDatabase
  | removedPidFile => exact .exitDatabase (.of_same rfl)
  | _ => exact .of_same rfl

theorem DatabaseChange.preserves_header (h : DatabaseChange w p d w')
    (hpc : d.pc.preparing = false) : Preserves (fun _ header => header) none w w' := by
  cases h with
  | exited => exact .exitDatabase (.of_same rfl)
  | openedPidFile =>
    unfold openPidFile
    split <;> exact .of_same rfl
  | created => exact (Preserves.create (Segment.new p) (some w.nextSegment)).setDatabase
  | attached => exact (Preserves.update (.inr fun _ => by rfl)).setDatabase
  | flagged => exact (Preserves.update (.inr fun _ => by rfl)).setDatabase
  | initialized => exact (Preserves.update (.inr fun _ => by rfl)).setDatabase
  | headerWritten queue field place =>
    rw [place] at hpc
    cases hpc
  | withdrawn => exact .exitDatabase (.update (.inr fun _ => by rfl))
  | detached => exact (Preserves.of_same rfl).detach.setDatabase
  | removed => exact (Preserves.remove d.segment _).setDatabase
  | removedPidFile => exact .exitDatabase (.of_same rfl)
  | _ => exact .of_same rfl

theorem TcpServerChange.preserves {pc : TcpProcessPc} (h : TcpServerChange w p pc w') :
    Preserves Prod.mk none w w' := by
  cases h with
  | moved => exact .of_same rfl
  | attached => exact (Preserves.update (.inr fun _ => by rfl)).setTcpServer
  | exited => exact .exitTcpServer (.of_same rfl)

-- ---------------------------------------------------------------------------
-- The process that prepares the segment
-- ---------------------------------------------------------------------------

structure Prepared (w : World) (p : Nat) (d : DatabaseProcess) : Prop where
  owned : Created w p d
  header : ∀ id seg, d.segment = some id → w.segments id = some seg →
    ∀ queue, seg.header queue = d.pc.header queue
  unready : d.pc.preparing = true → ∀ id seg, d.segment = some id → w.segments id = some seg →
    seg.ready .databaseToTcp = false

theorem Prepared.without_segment (h : d.segment = none) : Prepared w p d :=
  ⟨by simp [Created, h], by simp [h], by simp [h]⟩

theorem Prepared.goto (v : Prepared w p d) (howned : Created w' p e)
    (hsegment : e.segment = d.segment) (hheader : e.pc.header = d.pc.header)
    (hpreparing : e.pc.preparing = true → d.pc.preparing = true)
    (h : Preserves Prod.mk none w w') : Prepared w' p e := by
  have hback : ∀ id seg', e.segment = some id → w'.segments id = some seg' →
      ∃ seg, d.segment = some id ∧ w.segments id = some seg ∧ seg'.ready = seg.ready ∧
        seg'.header = seg.header := by
    intro id seg' hid hseg'
    have hid : d.segment = some id := hsegment ▸ hid
    obtain ⟨seg, hseg, hview⟩ := h id seg' (v.owned id hid).1 (by simp) hseg'
    obtain ⟨hready, hheader⟩ := Prod.mk.inj hview
    exact ⟨seg, hid, hseg, hready, hheader⟩
  refine ⟨howned, fun id seg' hid hseg' queue => ?_, fun hpc id seg' hid hseg' => ?_⟩
  · obtain ⟨seg, hid, hseg, -, hsame⟩ := hback id seg' hid hseg'
    rw [hsame, hheader, v.header id seg hid hseg]
  · obtain ⟨seg, hid, hseg, hsame, -⟩ := hback id seg' hid hseg'
    rw [hsame, v.unready (hpreparing hpc) id seg hid hseg]

theorem Prepared.write {f : Segment → Segment} (v : Prepared w p d)
    (hsegment : e.segment = d.segment)
    (hcreator : ∀ seg, (f seg).creator = seg.creator)
    (hattached : ∀ seg, (f seg).attached = seg.attached)
    (hheader : ∀ seg, (∀ queue, seg.header queue = d.pc.header queue) →
      ∀ queue, (f seg).header queue = e.pc.header queue)
    (hready : e.pc.preparing = true → d.pc.preparing = true ∧
      ∀ seg, seg.ready .databaseToTcp = false → (f seg).ready .databaseToTcp = false) :
    Prepared ((w.updateSegment d.segment f).setDatabase p e) p e := by
  have hback : ∀ id seg', e.segment = some id →
      ((w.updateSegment d.segment f).setDatabase p e).segments id = some seg' →
      ∃ seg, d.segment = some id ∧ w.segments id = some seg ∧ f seg = seg' := by
    intro id seg' hid hseg'
    have hid : d.segment = some id := hsegment ▸ hid
    simp only [setDatabase, updateSegment, if_pos hid] at hseg'
    obtain ⟨seg, hseg, hf⟩ := Option.map_eq_some_iff.mp hseg'
    exact ⟨seg, hid, hseg, hf⟩
  refine ⟨?_, fun id seg' hid hseg' => ?_, fun hpc id seg' hid hseg' => ?_⟩
  · have howned : Created w p e := fun id hid => v.owned id (hsegment ▸ hid)
    exact howned.frame (Touches.update (p := p) hcreator hattached).setDatabase
  · obtain ⟨seg, hid, hseg, rfl⟩ := hback id seg' hid hseg'
    exact hheader seg (v.header id seg hid hseg)
  · obtain ⟨seg, hid, hseg, rfl⟩ := hback id seg' hid hseg'
    obtain ⟨hpreparing, hkept⟩ := hready hpc
    exact hkept seg (v.unready hpreparing id seg hid hseg)

theorem shutdown_header (d : DatabaseProcess) :
    d.shutdown.header = QueueHeader.initialized ∧ d.shutdown.preparing = false := by
  unfold DatabaseProcess.shutdown
  split <;> exact ⟨rfl, rfl⟩

theorem Edge.prepares {pc pc' : DatabasePc} (h : Edge w d pc pc') :
    pc'.header = pc.header ∧ (pc'.preparing = true → pc.preparing = true) := by
  obtain ⟨hheader, hpreparing⟩ := shutdown_header d
  cases h with
  | pidFileNotOpened | pidNotWritten | databaseNotOpened | tablesNotInitialized
  | syncNotInitialized | signalsNotBlocked => exact ⟨hheader, by simp [hpreparing]⟩
  | queueOpened queue =>
    refine ⟨funext fun q => ?_, fun _ => rfl⟩
    cases queue <;> cases q <;> rfl
  | queueNotOpened =>
    refine ⟨funext fun q => ?_, fun _ => rfl⟩
    cases q <;> rfl
  | syncDestroyed => split <;> exact ⟨rfl, by simp [DatabasePc.preparing]⟩
  | polled pc polls =>
    rcases polls with rfl | rfl <;> split <;> exact ⟨rfl, by simp [DatabasePc.preparing]⟩
  | _ => exact ⟨rfl, by simp [DatabasePc.preparing]⟩

theorem Flagging.prepares {pc pc' : DatabasePc} {queue : Direction} {value : Bool}
    (h : Flagging pc queue value pc') : pc'.header = pc.header ∧
      (pc'.preparing = true → pc.preparing = true ∧ (queue = .databaseToTcp → value = false)) := by
  cases h with
  | published =>
    refine ⟨funext fun q => ?_, by simp [DatabasePc.preparing]⟩
    cases q <;> rfl
  | _ => exact ⟨rfl, by simp [DatabasePc.preparing]⟩

theorem DatabaseChange.prepares (h : DatabaseChange w p d w') (v : Prepared w p d) :
    ∃ d', w'.databases = Function.update w.databases p (some d') ∧ (d'.live = true →
      Prepared w' p d' ∧ (d'.segment = some w.nextSegment ∨
        ∀ id, d'.segment = some id → d.segment = some id ∧
          (d'.pc.preparing = true → d.pc.preparing = true))) := by
  have hgoto : ∀ {w₁ : World} {e : DatabaseProcess}, Preserves Prod.mk none w w₁ →
      Touches p none w w₁ → e.segment = d.segment → e.pc.header = d.pc.header →
      (e.pc.preparing = true → d.pc.preparing = true) → Prepared (w₁.setDatabase p e) p e ∧
        (e.segment = some w.nextSegment ∨ ∀ id, e.segment = some id → d.segment = some id ∧
          (e.pc.preparing = true → d.pc.preparing = true)) := by
    intro w₁ e hpreserves htouches hsegment hheader hpreparing
    have howned : Created w p e := fun id hid => v.owned id (hsegment ▸ hid)
    exact ⟨v.goto (howned.frame htouches.setDatabase) hsegment hheader hpreparing
      hpreserves.setDatabase, .inr fun id hid => ⟨hsegment ▸ hid, hpreparing⟩⟩
  cases h with
  | moved pc edge =>
    obtain ⟨hheader, hpreparing⟩ := edge.prepares
    exact ⟨_, setDatabase_databases,
      fun _ => hgoto (.of_same rfl) (.of_same rfl rfl) rfl hheader hpreparing⟩
  | exited => exact ⟨_, setDatabase_databases, by simp [DatabaseProcess.live]⟩
  | openedPidFile place =>
    unfold openPidFile
    split
    · exact ⟨_, setDatabase_databases, fun _ => hgoto (.of_same rfl) (.of_same rfl rfl) rfl
        (by rw [place]; rfl) (by simp [DatabasePc.preparing])⟩
    · exact ⟨_, setDatabase_databases, fun _ => hgoto (.of_same rfl) (.of_same rfl rfl) rfl
        (by rw [place]; rfl) (by simp [DatabasePc.preparing])⟩
  | created place =>
    refine ⟨_, setDatabase_databases, fun _ => ⟨⟨.create (w := w) rfl rfl (Function.update_self ..),
      fun id seg hid hseg queue => ?_, fun _ id seg hid hseg => ?_⟩, .inl rfl⟩⟩
    · obtain rfl := Option.some.inj hid
      simp only [setDatabase, Function.update_self, Option.some.injEq] at hseg
      subst hseg
      rfl
    · obtain rfl := Option.some.inj hid
      simp only [setDatabase, Function.update_self, Option.some.injEq] at hseg
      subst hseg
      rfl
  | attached place found =>
    refine ⟨_, setDatabase_databases, fun _ => ⟨v.goto ?_ rfl (by rw [place]; rfl)
      (by rw [place]; exact fun _ => rfl) (Preserves.update (.inr fun _ => by rfl)).setDatabase,
      .inr fun id hid => ⟨hid, by rw [place]; exact fun _ => rfl⟩⟩⟩
    exact Created.frame (e := { d with pc := _ }) v.owned (Touches.attach (p := p) d.segment).setDatabase
  | flagged queue value pc flagging =>
    obtain ⟨hheader, hpreparing⟩ := flagging.prepares
    refine ⟨_, setDatabase_databases, fun _ => ⟨v.write rfl (fun _ => by rfl) (fun _ => by rfl)
      (fun seg hseg q => hheader ▸ hseg q) fun hpc => ⟨(hpreparing hpc).1, fun seg hready => ?_⟩,
      .inr fun id hid => ⟨hid, fun hpc => (hpreparing hpc).1⟩⟩⟩
    by_cases hqueue : queue = .databaseToTcp
    · simp [hqueue, (hpreparing hpc).2 hqueue]
    · simpa [Function.update_of_ne (Ne.symm hqueue)] using hready
  | initialized place =>
    refine ⟨_, setDatabase_databases, fun _ => ⟨v.write rfl (fun _ => by rfl) (fun _ => by rfl)
      (fun seg hseg q => ?_) (by simp [DatabasePc.preparing]),
      .inr fun id hid => ⟨hid, by simp [DatabasePc.preparing]⟩⟩⟩
    rw [place] at hseg
    cases q <;> exact hseg _
  | headerWritten queue field place =>
    have hpreparing : d.pc.preparing = true := by rw [place]; rfl
    refine ⟨_, setDatabase_databases, fun _ => ⟨v.write rfl (fun _ => by rfl) (fun _ => by rfl)
      (fun seg hseg q => ?_) fun _ => ⟨hpreparing, fun _ hready => hready⟩,
      .inr fun id hid => ⟨hid, fun _ => hpreparing⟩⟩⟩
    rw [place] at hseg
    refine Eq.trans ?_ (DatabasePc.next_header queue q field).symm
    dsimp only
    rw [hseg queue, DatabasePc.writeHeader_header]
    by_cases hq : q = queue
    · rw [hq, Function.update_self, if_pos rfl]
    · rw [Function.update_of_ne hq, if_neg hq, hseg q]
  | withdrawn => exact ⟨_, setDatabase_databases, by simp [DatabaseProcess.live]⟩
  | restored place =>
    obtain ⟨hheader, hpreparing⟩ := shutdown_header d
    exact ⟨_, setDatabase_databases, fun _ => hgoto (.of_same rfl) (.of_same rfl rfl) rfl
      (by rw [place]; exact hheader) (by simp [hpreparing])⟩
  | detached place =>
    have hpreserves : Preserves Prod.mk none w (w.detach p) := .detach (.of_same rfl)
    exact ⟨_, setDatabase_databases, fun _ => hgoto hpreserves .detach rfl (by rw [place]; rfl)
      (by simp [DatabasePc.preparing])⟩
  | removed =>
    exact ⟨_, setDatabase_databases, fun _ => ⟨.without_segment rfl, .inr (by simp)⟩⟩
  | removedPidFile => exact ⟨_, setDatabase_databases, by simp [DatabaseProcess.live]⟩
  | consumed place =>
    exact ⟨_, setDatabase_databases, fun _ => hgoto (.of_same rfl) (.of_same rfl rfl) rfl
      (by rw [place]) (by simp [DatabasePc.preparing])⟩
  | flushed place | openedDatabase place | initializedTables place | blockedSignals place
  | closedDatabase place =>
    exact ⟨_, setDatabase_databases, fun _ => hgoto (.of_same rfl) (.of_same rfl rfl) rfl
      (by rw [place]; rfl) (by simp [DatabasePc.preparing])⟩

theorem Prepared.frame {new : Option Nat} (v : Prepared w q e) (ht : Touches p new w w')
    (hw : Preserves Prod.mk own w w')
    (hown : ∀ id seg, e.segment = some id → w.segments id = some seg → own ≠ some id) :
    Prepared w' q e := by
  have hback : ∀ id seg', e.segment = some id → w'.segments id = some seg' →
      ∃ seg, w.segments id = some seg ∧ seg'.ready = seg.ready ∧ seg'.header = seg.header := by
    intro id seg' hid hseg'
    have hlt := (v.owned id hid).1
    obtain ⟨before, hbefore, -⟩ := ht.back id seg' hlt hseg'
    obtain ⟨seg, hseg, hview⟩ := hw id seg' hlt (hown id before hid hbefore) hseg'
    obtain ⟨hready, hheader⟩ := Prod.mk.inj hview
    exact ⟨seg, hseg, hready, hheader⟩
  refine ⟨v.owned.frame ht, fun id seg' hid hseg' => ?_, fun hpc id seg' hid hseg' => ?_⟩
  · obtain ⟨seg, hseg, -, hsame⟩ := hback id seg' hid hseg'
    rw [hsame]
    exact v.header id seg hid hseg
  · obtain ⟨seg, hseg, hsame, -⟩ := hback id seg' hid hseg'
    rw [hsame]
    exact v.unready hpc id seg hid hseg

-- ---------------------------------------------------------------------------
-- Whole runs
-- ---------------------------------------------------------------------------

/-- Both headers are complete, and nobody prepares the segment any more. -/
structure Settled (w : World) (id : Nat) : Prop where
  header : ∀ seg, w.segments id = some seg → ∀ queue, seg.header queue = .initialized queue
  prepared : ∀ q d, w.databases q = some d → d.live = true → d.segment = some id →
    d.pc.preparing = false

structure Waits (w : World) (p : Nat) (pc : TcpProcessPc) : Prop where
  found : ∀ id, pc.attaching = some id → id < w.nextSegment
  mapped : ∀ id, pc.attached = some id → id < w.nextSegment ∧
    ∃ seg, w.segments id = some seg ∧ p ∈ seg.attached
  settled : ∀ id, pc.waited = some id → w.Settled id

structure HandshakeInv (w : World) : Prop where
  key : ∀ id, w.key = some id → id < w.nextSegment
  /-- The second flag stands for both headers. -/
  ready : ∀ id seg, id < w.nextSegment → w.segments id = some seg →
    seg.ready .databaseToTcp = true → ∀ queue, seg.header queue = .initialized queue
  prepared : w.Each Prepared
  waits : ∀ p pc, w.tcpServers p = some pc → Waits w p pc

theorem HandshakeInv.initial (store : Store) : (World.initial store).HandshakeInv where
  key := by simp [World.initial]
  ready := by simp [World.initial]
  prepared := Each.initial store
  waits := by simp [World.initial, tcpServers]

theorem TcpProcessPc.attached_of_waited {pc : TcpProcessPc} {id : Nat}
    (h : pc.waited = some id) : pc.attached = some id := by
  cases pc <;> first | exact h | cases h

theorem Settled.frame {next : Option DatabaseProcess} {id : Nat} (v : w.Settled id)
    (hheader : ∀ seg', w'.segments id = some seg' →
      ∃ seg, w.segments id = some seg ∧ seg'.header = seg.header)
    (hdatabases : w'.databases = Function.update w.databases p next)
    (hnext : ∀ d, next = some d → d.live = true → d.segment = some id → d.pc.preparing = false) :
    w'.Settled id := by
  refine ⟨fun seg' hseg' queue => ?_, fun q d hd hlive hid => ?_⟩
  · obtain ⟨seg, hseg, hsame⟩ := hheader seg' hseg'
    rw [hsame, v.header seg hseg]
  · rw [hdatabases, Function.update_apply] at hd
    split at hd
    · exact hnext d hd hlive hid
    · exact v.prepared q d hd hlive hid

theorem Waits.frame {new : Option Nat} {pc : TcpProcessPc} (v : Waits w q pc)
    (ht : Touches p new w w') (hne : q ≠ p)
    (hsettled : ∀ id, id < w.nextSegment → w.Settled id → w'.Settled id) : Waits w' q pc := by
  refine ⟨fun id hid => Nat.lt_of_lt_of_le (v.found id hid) ht.next, fun id hid => ?_,
    fun id hid => ?_⟩
  · obtain ⟨hlt, seg, hseg, hq⟩ := v.mapped id hid
    exact ⟨Nat.lt_of_lt_of_le hlt ht.next, ht.forth id seg hlt hseg q hq hne⟩
  · obtain ⟨hlt, -⟩ := v.mapped id (TcpProcessPc.attached_of_waited hid)
    exact hsettled id hlt (v.settled id hid)

theorem DatabaseChange.key (h : DatabaseChange w p d w') :
    (w'.nextSegment = w.nextSegment ∧ ∀ id, w'.key = some id → w.key = some id) ∨
      (w'.nextSegment = w.nextSegment + 1 ∧ w'.key = some w.nextSegment ∧
        ∃ d', w'.databases p = some d' ∧ d'.live = true ∧ d'.segment = some w.nextSegment ∧
          d'.pc.preparing = true) := by
  cases h with
  | openedPidFile =>
    left
    unfold openPidFile
    split <;> exact ⟨rfl, fun _ hid => hid⟩
  | created => exact .inr ⟨rfl, rfl, _, setDatabase_self, rfl, rfl, rfl⟩
  | removed =>
    refine .inl ⟨rfl, fun id hid => ?_⟩
    simp only [setDatabase] at hid
    split at hid
    · cases hid
    · exact hid
  | _ => exact .inl ⟨rfl, fun _ hid => hid⟩

theorem Flagging.live_next {pc pc' : DatabasePc} {queue : Direction} {value : Bool}
    (h : Flagging pc queue value pc') (d : DatabaseProcess) : { d with pc := pc' }.live = true := by
  cases h <;> rfl

/-- A step that changes what the second flag stands for is one of the live process
that prepares or serves the segment. -/
theorem DatabaseChange.announces (h : DatabaseChange w p d w') :
    Preserves (fun ready header => (ready .databaseToTcp, header)) none w w' ∨
      ∃ d', w'.databases p = some d' ∧ d'.live = true ∧ d'.segment = d.segment := by
  cases h with
  | exited => exact .inl (.exitDatabase (.of_same rfl))
  | openedPidFile =>
    left
    unfold openPidFile
    split <;> exact .of_same rfl
  | created => exact .inl (Preserves.create (Segment.new p) (some w.nextSegment)).setDatabase
  | attached => exact .inl (Preserves.update (.inr fun _ => by rfl)).setDatabase
  | flagged queue value pc flagging =>
    exact .inr ⟨_, setDatabase_self, flagging.live_next d, rfl⟩
  | initialized => exact .inr ⟨_, setDatabase_self, rfl, rfl⟩
  | headerWritten queue field =>
    refine .inr ⟨_, setDatabase_self, ?_, rfl⟩
    cases field <;> rfl
  | withdrawn => exact .inl (.exitDatabase (.update (.inr fun _ => by rfl)))
  | detached => exact .inl (Preserves.of_same rfl).detach.setDatabase
  | removed => exact .inl (Preserves.remove d.segment _).setDatabase
  | removedPidFile => exact .inl (.exitDatabase (.of_same rfl))
  | _ => exact .inl (.of_same rfl)

theorem DatabasePc.header_of_prepared {pc : DatabasePc} (h : pc.preparing = false) :
    pc.header = QueueHeader.initialized := by
  cases pc <;> first | rfl | cases h

theorem Prepared.ready (v : Prepared w p d) {id : Nat} {seg : Segment} (hid : d.segment = some id)
    (hseg : w.segments id = some seg) (hready : seg.ready .databaseToTcp = true)
    (queue : Direction) : seg.header queue = .initialized queue := by
  cases hpc : d.pc.preparing with
  | true =>
    rw [v.unready hpc id seg hid hseg] at hready
    cases hready
  | false => rw [v.header id seg hid hseg, DatabasePc.header_of_prepared hpc]

theorem HandshakeInv.ready_database (v : w.HandshakeInv) (h : DatabaseChange w p d w')
    (hprepared : w'.Each Prepared) {id : Nat} {seg' : Segment} (hlt : id < w'.nextSegment)
    (hseg' : w'.segments id = some seg') (hready : seg'.ready .databaseToTcp = true)
    (queue : Direction) : seg'.header queue = .initialized queue := by
  by_cases hold : id < w.nextSegment
  · rcases h.announces with hsame | ⟨d', hd', hlive, hsegment⟩
    · obtain ⟨seg, hseg, hview⟩ := hsame id seg' hold (by simp) hseg'
      obtain ⟨hflag, hheader⟩ := Prod.mk.inj hview
      rw [hheader]
      exact v.ready id seg hold hseg (hflag.symm.trans hready) queue
    · by_cases hown : d.segment = some id
      · exact (hprepared p d' hd' hlive).ready (hsegment.trans hown) hseg' hready queue
      · obtain ⟨seg, hseg, hview⟩ := h.preserves id seg' hold hown hseg'
        obtain ⟨hflags, hheader⟩ := Prod.mk.inj hview
        rw [hflags] at hready
        rw [hheader]
        exact v.ready id seg hold hseg hready queue
  · rcases h.key with ⟨hnext, -⟩ | ⟨hnext, -, d', hd', hlive, hsegment, -⟩
    · exact absurd (hnext ▸ hlt) hold
    · obtain rfl : id = w.nextSegment := by omega
      exact (hprepared p d' hd' hlive).ready hsegment hseg' hready queue

theorem HandshakeInv.database (v : w.HandshakeInv) (hd : w.databases p = some d)
    (h : DatabaseChange w p d w') : w'.HandshakeInv := by
  have hold := v.prepared p d hd h.live
  obtain ⟨d', hdatabases, hd'⟩ := h.prepares hold
  obtain ⟨new, htouches⟩ : ∃ new, Touches p new w w' := by
    rcases h.touches with htouches | ⟨-, htouches⟩
    · exact ⟨_, htouches⟩
    · exact ⟨_, htouches⟩
  have hprepared : w'.Each Prepared := by
    refine Each.update v.prepared hdatabases ?_ fun q e hne _ ve =>
      ve.frame htouches h.preserves fun id seg hid hseg hown => ?_
    · rintro _ ⟨⟩ hlive
      exact (hd' hlive).1
    · -- the segment would have two creators
      exact hne (((ve.owned id hid).2 seg hseg).symm.trans ((hold.owned id hown).2 seg hseg))
  have hsettled : ∀ id, id < w.nextSegment → w.Settled id → w'.Settled id := by
    intro id hlt hs
    refine hs.frame (fun seg' hseg' => ?_) hdatabases ?_
    · by_cases hown : d.segment = some id
      · exact h.preserves_header (hs.prepared p d hd h.live hown) id seg' hlt (by simp) hseg'
      · obtain ⟨seg, hseg, hview⟩ := h.preserves id seg' hlt hown hseg'
        exact ⟨seg, hseg, (Prod.mk.inj hview).2⟩
    · rintro _ ⟨⟩ hlive hid
      rcases (hd' hlive).2 with hnew | hsame
      · exact absurd (Option.some.inj (hid.symm.trans hnew)) (Nat.ne_of_lt hlt)
      · obtain ⟨hown, hpreparing⟩ := hsame id hid
        by_contra hpc
        have hpc := hpreparing (by simpa using hpc)
        rw [hs.prepared p d hd h.live hown] at hpc
        cases hpc
  refine ⟨fun id hid => ?_, fun id seg' => v.ready_database h hprepared, hprepared,
    fun q pc hpc => ?_⟩
  · rcases h.key with ⟨hnext, hkey⟩ | ⟨hnext, hkey, -⟩
    · exact hnext ▸ v.key id (hkey id hid)
    · obtain rfl := Option.some.inj (hkey.symm.trans hid)
      exact hnext ▸ Nat.lt_succ_self _
  · rw [h.tcpServers, Function.update_apply] at hpc
    split at hpc
    · cases hpc
    · exact (v.waits q pc hpc).frame htouches ‹_› hsettled

theorem HandshakeInv.quiet {new : Option Nat} {next : Option DatabaseProcess}
    {nextPc : Option TcpProcessPc} (v : w.HandshakeInv) (ht : Touches p new w w')
    (hw : Preserves Prod.mk none w w') (hsegment : w'.nextSegment = w.nextSegment)
    (hkey : w'.key = w.key)
    (hdatabases : w'.databases = Function.update w.databases p next)
    (htcpServers : w'.tcpServers = Function.update w.tcpServers p nextPc)
    (hnext : ∀ d, next = some d → d.live = true → Prepared w' p d ∧
      ∀ id, w.Settled id → d.segment = some id → d.pc.preparing = false)
    (hpc : ∀ pc, nextPc = some pc →
      (∀ id, id < w.nextSegment → w.Settled id → w'.Settled id) → Waits w' p pc) :
    w'.HandshakeInv := by
  have hback : ∀ id seg', id < w.nextSegment → w'.segments id = some seg' →
      ∃ seg, w.segments id = some seg ∧ seg'.ready = seg.ready ∧ seg'.header = seg.header := by
    intro id seg' hlt hseg'
    obtain ⟨seg, hseg, hview⟩ := hw id seg' hlt (by simp) hseg'
    exact ⟨seg, hseg, Prod.mk.inj hview⟩
  have hsettled : ∀ id, id < w.nextSegment → w.Settled id → w'.Settled id := by
    intro id hlt hs
    refine hs.frame (fun seg' hseg' => ?_) hdatabases fun d hd hlive hid =>
      (hnext d hd hlive).2 id hs hid
    obtain ⟨seg, hseg, -, hheader⟩ := hback id seg' hlt hseg'
    exact ⟨seg, hseg, hheader⟩
  refine ⟨fun id hid => ?_, fun id seg' hlt hseg' hready queue => ?_, ?_, fun q pc hq => ?_⟩
  · rw [hsegment]
    exact v.key id (hkey ▸ hid)
  · have hlt := hsegment ▸ hlt
    obtain ⟨seg, hseg, hflags, hheader⟩ := hback id seg' hlt hseg'
    rw [hflags] at hready
    rw [hheader]
    exact v.ready id seg hlt hseg hready queue
  · exact Each.update v.prepared hdatabases (fun d hd hlive => (hnext d hd hlive).1)
      fun q e _ _ ve => ve.frame ht hw (by simp)
  · rw [htcpServers, Function.update_apply] at hq
    split at hq
    · rename_i hqp
      subst hqp
      exact hpc pc hq hsettled
    · exact (v.waits q pc hq).frame ht ‹_› hsettled

theorem HandshakeInv.settle (v : w.HandshakeInv) {id : Nat} {seg : Segment}
    (hlt : id < w.nextSegment) (hseg : w.segments id = some seg)
    (hready : seg.ready .databaseToTcp = true) : w.Settled id where
  header seg' hseg' := by
    obtain rfl := Option.some.inj (hseg.symm.trans hseg')
    exact v.ready id seg hlt hseg hready
  prepared q d hd hlive hid := by
    by_contra hpc
    rw [(v.prepared q d hd hlive).unready (by simpa using hpc) id seg hid hseg] at hready
    cases hready

theorem TcpServerEdge.waits {pc pc' : TcpProcessPc} (h : TcpServerEdge w pc pc') :
    (∀ id, pc'.attaching = some id → w.key = some id) ∧
      (∀ id, pc'.attached = some id → pc.attached = some id) ∧
      (∀ id, pc'.waited = some id → pc.waited = some id ∨ (pc.attached = some id ∧
        ∃ seg, w.segments id = some seg ∧ seg.ready .databaseToTcp = true)) := by
  cases h with
  | found id key =>
    refine ⟨fun i hi => ?_, fun _ hi => (by cases hi), fun _ hi => by cases hi⟩
    cases hi
    exact key
  | notAttached | firstRead =>
    exact ⟨fun _ hi => (by cases hi), fun _ hi => hi, fun _ hi => by cases hi⟩
  | secondRead id seg segment =>
    split
    · rename_i hready
      refine ⟨fun _ hi => (by cases hi), fun _ hi => hi, fun i hi => .inr ⟨hi, ?_⟩⟩
      cases hi
      exact ⟨seg, segment, hready⟩
    · exact ⟨fun _ hi => (by cases hi), fun _ hi => hi, fun _ hi => by cases hi⟩
  | queueOpened =>
    split <;> exact ⟨fun _ hi => (by cases hi), fun _ hi => hi, fun _ hi => .inl hi⟩
  | initialized => exact ⟨fun _ hi => (by cases hi), fun _ hi => hi, fun _ hi => .inl hi⟩

theorem Waits.exited : Waits w p .exited :=
  ⟨fun _ hi => (by cases hi), fun _ hi => (by cases hi), fun _ hi => by cases hi⟩

theorem HandshakeInv.tcpServer {pc : TcpProcessPc} (v : w.HandshakeInv)
    (hpc : w.tcpServers p = some pc) (h : TcpServerChange w p pc w') : w'.HandshakeInv := by
  have hold := v.waits p pc hpc
  cases h with
  | moved pc' edge =>
    obtain ⟨hattaching, hattached, hwaited⟩ := edge.waits
    refine v.quiet (.of_same (p := p) rfl rfl) (.of_same rfl) rfl rfl setTcpServer_databases
      setTcpServer_tcpServers (by simp) ?_
    rintro _ ⟨⟩ hsettled
    refine ⟨fun id hid => v.key id (hattaching id hid), fun id hid => hold.mapped id (hattached id hid),
      fun id hid => ?_⟩
    rcases hwaited id hid with hbefore | ⟨hbefore, seg, hseg, hready⟩
    · exact hsettled id (hold.mapped id (TcpProcessPc.attached_of_waited hbefore)).1
        (hold.settled id hbefore)
    · have hlt := (hold.mapped id hbefore).1
      exact hsettled id hlt (v.settle hlt hseg hready)
  | attached id place found =>
    subst place
    refine v.quiet (Touches.attach (p := p) (some id)).setTcpServer
      (Preserves.update (.inr fun _ => by rfl)).setTcpServer rfl rfl setTcpServer_databases
      setTcpServer_tcpServers (by simp) ?_
    rintro _ ⟨⟩ -
    refine ⟨fun _ hi => (by cases hi), fun i hi => ?_, fun _ hi => by cases hi⟩
    cases hi
    obtain ⟨seg, hseg⟩ := Option.isSome_iff_exists.mp found
    exact ⟨hold.found id rfl, { seg with attached := insert p seg.attached },
      by simp [setTcpServer, updateSegment, hseg], Finset.mem_insert_self _ _⟩
  | exited =>
    refine v.quiet (.exitTcpServer (.of_same rfl rfl)) (.exitTcpServer (.of_same rfl)) rfl rfl
      setTcpServer_databases setTcpServer_tcpServers (by simp) ?_
    rintro _ ⟨⟩ -
    exact .exited

theorem HandshakeInv.step {a : WorldAction} (v : w.HandshakeInv) (h : Change w a w') :
    w'.HandshakeInv := by
  cases h with
  | startedDatabase p inherited =>
    refine v.quiet (.of_same (p := p) rfl rfl) (.of_same rfl) rfl rfl setDatabase_databases
      setDatabase_tcpServers ?_ (by simp)
    rintro _ ⟨⟩ -
    exact ⟨.without_segment rfl, fun _ _ hid => by cases hid⟩
  | database _ p outcome d process step change => exact v.database process change
  | startedTcpServer p =>
    refine v.quiet (.of_same (p := p) rfl rfl) (.of_same rfl) rfl rfl setTcpServer_databases
      setTcpServer_tcpServers (by simp) ?_
    rintro _ ⟨⟩ -
    exact ⟨fun _ hi => (by cases hi), fun _ hi => (by cases hi), fun _ hi => by cases hi⟩
  | tcpServer _ p outcome pc process step change => exact v.tcpServer process change
  | databaseKilled readPids p d =>
    refine v.quiet (.exitDatabase (.of_same rfl rfl)) (.exitDatabase (.of_same rfl)) rfl rfl
      setDatabase_databases setDatabase_tcpServers ?_ (by simp)
    rintro _ ⟨⟩ hlive
    cases hlive
  | tcpServerKilled readPids p =>
    refine v.quiet (.exitTcpServer (.of_same rfl rfl)) (.exitTcpServer (.of_same rfl)) rfl rfl
      setTcpServer_databases setTcpServer_tcpServers (by simp) ?_
    rintro _ ⟨⟩ -
    exact .exited
  | signalPending readPids p d process live =>
    refine v.quiet (.of_same (p := p) rfl rfl) (.of_same rfl) rfl rfl setDatabase_databases
      setDatabase_tcpServers ?_ (by simp)
    rintro _ ⟨⟩ -
    have hold := v.prepared p d process live
    exact ⟨⟨hold.owned, hold.header, hold.unready⟩, fun id hs hid => hs.prepared p d process live hid⟩
  | notified readPids =>
    refine ⟨v.key, v.ready, fun p d hd hlive => ?_, fun p pc hpc => ?_⟩
    · have hold := v.prepared p d hd hlive
      exact ⟨hold.owned, hold.header, hold.unready⟩
    · have hold := v.waits p pc hpc
      exact ⟨hold.found, hold.mapped, fun id hid =>
        ⟨(hold.settled id hid).header, (hold.settled id hid).prepared⟩⟩

theorem HandshakeInv.handshaken (v : w.HandshakeInv) {pc : TcpProcessPc} {id : Nat}
    (hpc : w.tcpServers p = some pc) (hid : pc.waited = some id) : w.Handshaken p id := by
  have hold := v.waits p pc hpc
  obtain ⟨-, seg, hseg, hp⟩ := hold.mapped id (TcpProcessPc.attached_of_waited hid)
  have hsettled := hold.settled id hid
  refine ⟨⟨seg, hseg, hp, hsettled.header seg hseg⟩, fun queue seg' hseg' => ?_,
    fun q d hd hown queue field hplace => ?_⟩
  · rw [hsettled.header seg' hseg']
    exact ⟨rfl, rfl⟩
  · have hpreparing := hsettled.prepared q d hd (d.live_of_pc (by simp [hplace])) hown
    rw [hplace] at hpreparing
    cases hpreparing

end World

/-- A TcpServer for which `wait_for_queues` has returned true finds both queues
complete, and nobody initializes them again as long as it stays attached. -/
theorem handshake_complete (store : Store) (actions : List WorldAction) (t : World)
    (hr : run World.step (World.initial store) actions = some t) (p id : Nat) (pc : TcpProcessPc)
    (hpc : t.tcpServers p = some pc) (hid : pc.waited = some id) : t.Handshaken p id := by
  have v : t.HandshakeInv := Runs.invariant (fun _ _ _ v h => v.step (World.step_cases h))
    (World.HandshakeInv.initial store) hr
  exact v.handshaken hpc hid

def handshakenWorld : World :=
  (run World.step (World.initial Store.initial) servingActions).get (by decide +kernel)

theorem handshake_complete_serving : handshakenWorld.Handshaken 2 0 :=
  handshake_complete Store.initial servingActions handshakenWorld (Option.some_get _).symm 2 0
    (.running 0) (by decide +kernel) rfl

end ParkingSystem
