import ParkingSystem.Lifecycle

/-!
# Removing the shared memory segment

Database counts the attachments of its segment twice, before and after its own
`shmdt`, and lets a count of 1 pass both times. The first time the 1 is Database
itself; the second time it is somebody else. `removed_alone` says that IPC_RMID
still finds the segment unused if no TcpServer attaches between the two counts or
after them.
-/

namespace ParkingSystem

open Runs (run Along)

def DatabasePc.unmapped : DatabasePc → Bool
  | .attachSegment | .countAttached | .removeSegment => true
  | _ => false

/-- `shutdown` has seen the other processes gone and is about to remove the segment. -/
def DatabasePc.departing : DatabasePc → Bool
  | .detach | .countAttached | .removeSegment => true
  | _ => false

def TcpProcessPc.attaching : TcpProcessPc → Option Nat
  | .attachSegment id => some id
  | _ => none

namespace World

/-- No TcpServer attaches a segment that its Database is about to remove. -/
def AttachesInTime (w : World) : WorldAction → Prop
  | .tcpServer p .ok => ∀ pc ∈ w.tcpServers p, ∀ id ∈ pc.attaching, ∀ seg ∈ w.segments id,
      ∀ d ∈ w.databases seg.creator, d.segment = some id → d.pc.departing = false
  | _ => True

/-- IPC_RMID finds no other process attached. -/
def RemovesAlone (w : World) : WorldAction → Prop
  | .database p .ok => ∀ d ∈ w.databases p, d.pc = .removeSegment →
      ∀ id ∈ d.segment, ∀ seg ∈ w.segments id, seg.attached ⊆ {p}
  | _ => True

instance (w : World) : (a : WorldAction) → Decidable (w.AttachesInTime a)
  | .tcpServer _ .ok => by dsimp only [AttachesInTime]; infer_instance
  | .tcpServer _ .error | .tcpServer _ .sigusr1 | .tcpServer _ .sigint | .startDatabase ..
  | .database .. | .startTcpServer _ | .dies _ | .readPid | .signal _ => .isTrue trivial

instance (w : World) : (a : WorldAction) → Decidable (w.RemovesAlone a)
  | .database _ .ok => by dsimp only [RemovesAlone]; infer_instance
  | .database _ .error | .database _ .sigusr1 | .database _ .sigint | .startDatabase ..
  | .startTcpServer _ | .tcpServer .. | .dies _ | .readPid | .signal _ => .isTrue trivial

variable {w w' : World} {p q : Nat} {d e : DatabaseProcess} {new : Option Nat}

-- ---------------------------------------------------------------------------
-- What a step of one process does to the segments
-- ---------------------------------------------------------------------------

structure Touches (p : Nat) (new : Option Nat) (w w' : World) : Prop where
  next : w.nextSegment ≤ w'.nextSegment
  back : ∀ id seg', id < w.nextSegment → w'.segments id = some seg' →
    ∃ seg, w.segments id = some seg ∧ seg'.creator = seg.creator ∧
      seg'.attached ⊆ if new = some id then insert p seg.attached else seg.attached
  forth : ∀ id seg, id < w.nextSegment → w.segments id = some seg → ∀ q ∈ seg.attached, q ≠ p →
    ∃ seg', w'.segments id = some seg' ∧ q ∈ seg'.attached

namespace Touches

theorem of_same (hnext : w'.nextSegment = w.nextSegment) (hsegments : w'.segments = w.segments) :
    Touches p none w w' where
  next := Nat.le_of_eq hnext.symm
  back := fun id seg' _ h => ⟨seg', hsegments ▸ h, rfl, by simp⟩
  forth := fun id seg _ h q hq _ => ⟨seg, hsegments ▸ h, hq⟩

theorem update {f : Segment → Segment} {id : Option Nat} (hcreator : ∀ seg, (f seg).creator = seg.creator)
    (hattached : ∀ seg, (f seg).attached = seg.attached) :
    Touches p none w (w.updateSegment id f) where
  next := Nat.le_refl _
  back := by
    intro i seg' _ h
    simp only [updateSegment] at h
    split at h
    · obtain ⟨seg, hseg, rfl⟩ := Option.map_eq_some_iff.mp h
      exact ⟨seg, hseg, hcreator seg, by simp [hattached]⟩
    · exact ⟨seg', h, rfl, by simp⟩
  forth := by
    intro i seg _ h q hq _
    simp only [updateSegment]
    split
    · exact ⟨f seg, by rw [h]; rfl, (hattached seg).symm ▸ hq⟩
    · exact ⟨seg, h, hq⟩

theorem attach (id : Option Nat) :
    Touches p id w (w.updateSegment id fun seg => { seg with attached := insert p seg.attached }) where
  next := Nat.le_refl _
  back := by
    intro i seg' _ h
    simp only [updateSegment] at h
    split at h
    · rename_i hid
      obtain ⟨seg, hseg, rfl⟩ := Option.map_eq_some_iff.mp h
      exact ⟨seg, hseg, rfl, by simp [hid]⟩
    · rename_i hid
      exact ⟨seg', h, rfl, by simp [hid]⟩
  forth := by
    intro i seg _ h q hq _
    simp only [updateSegment]
    split
    · exact ⟨_, by rw [h]; rfl, Finset.mem_insert_of_mem hq⟩
    · exact ⟨seg, h, hq⟩

theorem detach : Touches p none w (w.detach p) where
  next := Nat.le_refl _
  back := by
    intro i seg' _ h
    obtain ⟨seg, hseg, h⟩ := Option.bind_eq_some_iff.mp h
    unfold Segment.detach at h
    split at h
    · cases h
    · cases h
      exact ⟨seg, hseg, rfl, by simpa using Finset.erase_subset p seg.attached⟩
  forth := by
    intro i seg _ h q hq hne
    have hmem : q ∈ seg.attached.erase p := Finset.mem_erase.mpr ⟨hne, hq⟩
    have hkept : seg.detach p = some { seg with attached := seg.attached.erase p } := by
      unfold Segment.detach
      rw [if_neg]
      simp only [Bool.and_eq_true, decide_eq_true_eq, not_and]
      exact fun _ => Finset.ne_empty_of_mem hmem
    exact ⟨{ seg with attached := seg.attached.erase p },
      by simp only [World.detach, h, Option.bind_some, hkept], hmem⟩

theorem create (s : Segment) (key : Option Nat) :
    Touches p none w { w with
      key := key
      segments := Function.update w.segments w.nextSegment (some s)
      nextSegment := w.nextSegment + 1 } where
  next := Nat.le_succ _
  back := by
    intro i seg' hi h
    dsimp only at h
    rw [Function.update_of_ne (Nat.ne_of_lt hi)] at h
    exact ⟨seg', h, rfl, by simp⟩
  forth := by
    intro i seg hi h q hq _
    refine ⟨seg, ?_, hq⟩
    dsimp only
    rw [Function.update_of_ne (Nat.ne_of_lt hi)]
    exact h

theorem remove (id key : Option Nat) :
    Touches p none w { w with
      key := key
      segments := fun i =>
        if id = some i then
          (w.segments i).bind fun seg =>
            if seg.attached = ∅ then none else some { seg with removed := true }
        else w.segments i } where
  next := Nat.le_refl _
  back := by
    intro i seg' _ h
    dsimp only at h
    split at h
    · obtain ⟨seg, hseg, h⟩ := Option.bind_eq_some_iff.mp h
      split at h
      · cases h
      · cases h
        exact ⟨seg, hseg, rfl, by simp⟩
    · exact ⟨seg', h, rfl, by simp⟩
  forth := by
    intro i seg _ h q hq _
    dsimp only
    split
    · exact ⟨{ seg with removed := true },
        by simp only [h, Option.bind_some, if_neg (Finset.ne_empty_of_mem hq)], hq⟩
    · exact ⟨seg, h, hq⟩

theorem setDatabase (h : Touches p new w w') : Touches p new w (w'.setDatabase q e) :=
  ⟨h.next, h.back, h.forth⟩

theorem setTcpServer {pc : TcpProcessPc} (h : Touches p new w w') :
    Touches p new w (w'.setTcpServer q pc) :=
  ⟨h.next, h.back, h.forth⟩

theorem trans {w₁ : World} (h₁ : Touches p none w w₁) (h₂ : Touches p none w₁ w') :
    Touches p none w w' where
  next := Nat.le_trans h₁.next h₂.next
  back := by
    intro i seg₂ hi h
    obtain ⟨seg₁, hseg₁, hcreator₁, hattached₁⟩ := h₂.back i seg₂ (Nat.lt_of_lt_of_le hi h₁.next) h
    obtain ⟨seg, hseg, hcreator, hattached⟩ := h₁.back i seg₁ hi hseg₁
    simp only [reduceCtorEq, if_false] at hattached hattached₁ ⊢
    exact ⟨seg, hseg, hcreator₁.trans hcreator, hattached₁.trans hattached⟩
  forth := by
    intro i seg hi h q hq hne
    obtain ⟨seg₁, hseg₁, hq₁⟩ := h₁.forth i seg hi h q hq hne
    exact h₂.forth i seg₁ (Nat.lt_of_lt_of_le hi h₁.next) hseg₁ q hq₁ hne

theorem exitDatabase {cause : ExitCause} (h : Touches p none w w') :
    Touches p none w (w'.exitDatabase p d cause) :=
  (h.trans .detach).setDatabase

theorem exitTcpServer (h : Touches p none w w') : Touches p none w (w'.exitTcpServer p) :=
  (h.trans .detach).setTcpServer

end Touches

theorem DatabaseChange.touches (h : DatabaseChange w p d w') :
    Touches p none w w' ∨
      ((d.segment.bind w.segments).isSome = true ∧ Touches p d.segment w w') := by
  cases h with
  | exited => exact .inl (.exitDatabase (.of_same rfl rfl))
  | openedPidFile =>
    left
    unfold openPidFile
    split <;> exact .of_same rfl rfl
  | created => exact .inl (Touches.create (Segment.new p) (some w.nextSegment)).setDatabase
  | attached place found => exact .inr ⟨found, (Touches.attach d.segment).setDatabase⟩
  | flagged => exact .inl (.setDatabase (.update (fun _ => by rfl) fun _ => by rfl))
  | initialized => exact .inl (.setDatabase (.update (fun _ => by rfl) fun _ => by rfl))
  | headerWritten => exact .inl (.setDatabase (.update (fun _ => by rfl) fun _ => by rfl))
  | withdrawn => exact .inl (.exitDatabase (.update (fun _ => by rfl) fun _ => by rfl))
  | detached => exact .inl Touches.detach.setDatabase
  | removed => exact .inl (Touches.remove d.segment _).setDatabase
  | removedPidFile => exact .inl (.exitDatabase (.of_same rfl rfl))
  | _ => exact .inl (.of_same rfl rfl)

theorem DatabaseChange.tcpServers (h : DatabaseChange w p d w') :
    w'.tcpServers = Function.update w.tcpServers p none := by
  cases h with
  | openedPidFile =>
    unfold openPidFile
    split <;> exact setDatabase_tcpServers
  | _ => exact setDatabase_tcpServers

-- ---------------------------------------------------------------------------
-- A Database process and its segment
-- ---------------------------------------------------------------------------

def Created (w : World) (p : Nat) (d : DatabaseProcess) : Prop :=
  ∀ id, d.segment = some id → id < w.nextSegment ∧
    ∀ seg, w.segments id = some seg → seg.creator = p

theorem Created.frame (v : Created w q e) (h : Touches p new w w') : Created w' q e := by
  intro id hid
  obtain ⟨hlt, hcreator⟩ := v id hid
  refine ⟨Nat.lt_of_lt_of_le hlt h.next, fun seg' hseg' => ?_⟩
  obtain ⟨seg, hseg, hsame, -⟩ := h.back id seg' hlt hseg'
  exact hsame.trans (hcreator seg hseg)

theorem Created.create (hsegment : d.segment = some w.nextSegment)
    (hnext : w'.nextSegment = w.nextSegment + 1)
    (hsegments : w'.segments w.nextSegment = some (Segment.new p)) : Created w' p d := by
  intro id hid
  obtain rfl := Option.some.inj (hsegment.symm.trans hid)
  refine ⟨hnext ▸ Nat.lt_succ_self _, fun seg hseg => ?_⟩
  obtain rfl := Option.some.inj (hsegments.symm.trans hseg)
  rfl

/-- What a live Database process knows of its segment. -/
structure Holds (w : World) (p : Nat) (d : DatabaseProcess) : Prop where
  owned : Created w p d
  mapped : ∀ id, d.segment = some id → d.pc.unmapped = false →
    ∃ seg, w.segments id = some seg ∧ p ∈ seg.attached
  last : d.pc = .detach → ∀ id seg, d.segment = some id → w.segments id = some seg →
    seg.attached ⊆ {p}
  empty : d.pc = .countAttached ∨ d.pc = .removeSegment → ∀ id seg, d.segment = some id →
    w.segments id = some seg → seg.attached = ∅

theorem Holds.without_segment (h : d.segment = none) : Holds w p d :=
  ⟨by simp [Created, h], by simp [h], by simp [h], by simp [h]⟩

theorem Holds.frame (v : Holds w q e) (h : Touches p new w w') (hne : q ≠ p)
    (hnew : ∀ id, new = some id → e.segment = some id → e.pc.departing = false) :
    Holds w' q e := by
  have hshrinks : e.pc.departing = true → ∀ id seg', e.segment = some id →
      w'.segments id = some seg' → ∃ seg, w.segments id = some seg ∧
        seg'.attached ⊆ seg.attached := by
    intro hdeparting id seg' hid hseg'
    obtain ⟨seg, hseg, -, hsub⟩ := h.back id seg' (v.owned id hid).1 hseg'
    rw [if_neg fun he => by simp [hnew id he hid] at hdeparting] at hsub
    exact ⟨seg, hseg, hsub⟩
  refine ⟨v.owned.frame h, fun id hid hpc => ?_, fun hpc id seg' hid hseg' => ?_,
    fun hpc id seg' hid hseg' => ?_⟩
  · obtain ⟨seg, hseg, hq⟩ := v.mapped id hid hpc
    exact h.forth id seg (v.owned id hid).1 hseg q hq hne
  · obtain ⟨seg, hseg, hsub⟩ := hshrinks (by rw [hpc]; rfl) id seg' hid hseg'
    exact hsub.trans (v.last hpc id seg hid hseg)
  · have hdeparting : e.pc.departing = true := by rcases hpc with hpc | hpc <;> rw [hpc] <;> rfl
    obtain ⟨seg, hseg, hsub⟩ := hshrinks hdeparting id seg' hid hseg'
    rw [v.empty hpc id seg hid hseg] at hsub
    exact Finset.subset_empty.mp hsub

theorem Holds.quiet (v : Holds w q e) (h : ∀ p, Touches p none w w') : Holds w' q e :=
  v.frame (h (q + 1)) (Nat.succ_ne_self q).symm (by simp)

theorem Holds.goto (v : Holds w p d) (hold : d.pc.unmapped = false)
    (hsegment : e.segment = d.segment) (hdeparting : e.pc.departing = false) :
    Holds w p e := by
  refine ⟨fun id hid => v.owned id (hsegment ▸ hid), fun id hid _ => ?_, fun hpc => ?_,
    fun hpc => ?_⟩
  · exact v.mapped id (hsegment ▸ hid) hold
  · rw [hpc] at hdeparting
    cases hdeparting
  · rcases hpc with hpc | hpc <;> rw [hpc] at hdeparting <;> cases hdeparting

theorem shutdown_departing (d : DatabaseProcess) : d.shutdown.departing = false := by
  unfold DatabaseProcess.shutdown
  split <;> rfl

theorem Edge.departs {pc pc' : DatabasePc} (h : Edge w d pc pc') :
    (pc.unmapped = false ∧ pc'.departing = false) ∨
    (pc.unmapped = false ∧ pc' = .detach ∧ ∃ n, w.attachedCount d.segment = some n ∧ n ≤ 1) ∨
    (pc = .countAttached ∧ pc' = .removeSegment) := by
  have hshutdown := shutdown_departing d
  cases h with
  | pidFileNotOpened | pidNotWritten | databaseNotOpened | tablesNotInitialized
  | syncNotInitialized | signalsNotBlocked => exact .inl ⟨rfl, hshutdown⟩
  | syncDestroyed =>
    left
    split <;> exact ⟨rfl, rfl⟩
  | @polled n pc polls count =>
    have hold : pc.unmapped = false := by rcases polls with rfl | rfl <;> rfl
    split
    · exact .inl ⟨hold, rfl⟩
    · exact .inr (.inl ⟨hold, rfl, n, count, Nat.le_of_not_lt ‹_›⟩)
  | counted => exact .inr (.inr ⟨rfl, rfl⟩)
  | _ => exact .inl ⟨rfl, rfl⟩

/-- A count of at most one, taken by a process that is attached, counts itself. -/
theorem subset_of_attachedCount {id : Nat} {seg : Segment} (hseg : w.segments id = some seg)
    (hp : p ∈ seg.attached) (hcount : w.attachedCount (some id) = some n) (hn : n ≤ 1) :
    seg.attached ⊆ {p} := by
  simp only [attachedCount, Option.bind_some, hseg, Option.map_some, Option.some.injEq] at hcount
  intro q hq
  rw [Finset.mem_singleton]
  exact Finset.card_le_one.mp (hcount ▸ hn) q hq p hp

theorem Flagging.departs {pc pc' : DatabasePc} (h : Flagging pc queue value pc') :
    pc.unmapped = false ∧ pc'.departing = false := by
  cases h <;> exact ⟨rfl, rfl⟩

theorem Holds.moved {pc : DatabasePc} (v : Holds w p d) (h : Edge w d d.pc pc) :
    Holds w p { d with pc := pc } := by
  rcases h.departs with ⟨hold, hnew⟩ | ⟨hold, rfl, n, hcount, hn⟩ | ⟨hold, rfl⟩
  · exact v.goto hold rfl hnew
  · refine ⟨v.owned, fun id hid _ => v.mapped id hid hold, fun _ id seg hid hseg => ?_, by simp⟩
    obtain ⟨seg', hseg', hp⟩ := v.mapped id hid hold
    obtain rfl := Option.some.inj (hseg.symm.trans hseg')
    exact subset_of_attachedCount hseg hp ((congrArg _ hid).symm.trans hcount) hn
  · exact ⟨v.owned, by simp [DatabasePc.unmapped], by simp, fun _ => v.empty (.inl hold)⟩

theorem Holds.attached (v : Holds w p d) (found : (d.segment.bind w.segments).isSome = true) :
    Holds ((w.updateSegment d.segment fun seg =>
      { seg with attached := insert p seg.attached }).setDatabase p e) p
        { d with pc := .resetReady .tcpToDatabase } := by
  refine ⟨v.owned.frame (Touches.attach d.segment).setDatabase, fun id hid _ => ?_, by simp, by simp⟩
  have hid : d.segment = some id := hid
  rw [hid, Option.bind_some] at found
  obtain ⟨seg, hseg⟩ := Option.isSome_iff_exists.mp found
  exact ⟨{ seg with attached := insert p seg.attached },
    by simp [setDatabase, updateSegment, hid, hseg], Finset.mem_insert_self _ _⟩

theorem Holds.detached (v : Holds w p d) (place : d.pc = .detach) :
    Holds ((w.detach p).setDatabase p e) p { d with pc := .countAttached } := by
  refine ⟨v.owned.frame Touches.detach.setDatabase, by simp [DatabasePc.unmapped], by simp,
    fun _ id seg' hid hseg' => ?_⟩
  obtain ⟨seg, hseg, hdetach⟩ := Option.bind_eq_some_iff.mp hseg'
  unfold Segment.detach at hdetach
  split at hdetach
  · cases hdetach
  · cases hdetach
    rw [Finset.erase_eq_empty_iff, ← Finset.subset_singleton_iff]
    exact v.last place id seg hid hseg

theorem DatabaseChange.holds (h : DatabaseChange w p d w') (v : Holds w p d) :
    ∃ d', w'.databases = Function.update w.databases p (some d') ∧
      (d'.live = true → Holds w' p d') := by
  have hsame : ∀ {w₁ : World} {e : DatabaseProcess}, w₁.nextSegment = w.nextSegment →
      w₁.segments = w.segments → Holds w p e → Holds (w₁.setDatabase p e) p e :=
    fun hnext hsegments ve => ve.quiet fun _ => .of_same hnext hsegments
  have hupdate : ∀ {f : Segment → Segment} {e : DatabaseProcess},
      (∀ seg, (f seg).creator = seg.creator) → (∀ seg, (f seg).attached = seg.attached) →
      Holds w p e → Holds ((w.updateSegment d.segment f).setDatabase p e) p e :=
    fun hcreator hattached ve => ve.quiet fun _ => (Touches.update hcreator hattached).setDatabase
  cases h with
  | moved pc edge => exact ⟨_, setDatabase_databases, fun _ => hsame rfl rfl (v.moved edge)⟩
  | exited => exact ⟨_, setDatabase_databases, by simp [DatabaseProcess.live]⟩
  | openedPidFile place =>
    have hold : d.pc.unmapped = false := by rw [place]; rfl
    unfold openPidFile
    split
    · exact ⟨_, setDatabase_databases, fun _ => hsame rfl rfl (v.goto hold rfl rfl)⟩
    · exact ⟨_, setDatabase_databases, fun _ => hsame rfl rfl (v.goto hold rfl rfl)⟩
  | created place =>
    exact ⟨_, setDatabase_databases, fun _ => ⟨.create (w := w) rfl rfl (Function.update_self ..),
      by simp [DatabasePc.unmapped], by simp, by simp⟩⟩
  | attached place found => exact ⟨_, setDatabase_databases, fun _ => v.attached found⟩
  | flagged queue value pc flagging =>
    have hgoto : Holds w p { d with pc := pc } := v.goto flagging.departs.1 rfl flagging.departs.2
    exact ⟨_, setDatabase_databases, fun _ => hupdate (fun _ => by rfl) (fun _ => by rfl) hgoto⟩
  | initialized place =>
    have hold : d.pc.unmapped = false := by rw [place]; rfl
    exact ⟨_, setDatabase_databases,
      fun _ => hupdate (fun _ => by rfl) (fun _ => by rfl) (v.goto hold rfl rfl)⟩
  | headerWritten queue field place =>
    have hold : d.pc.unmapped = false := by rw [place]; rfl
    exact ⟨_, setDatabase_databases, fun _ => hupdate (fun _ => by rfl) (fun _ => by rfl)
      (v.goto hold rfl (by cases field <;> rfl))⟩
  | withdrawn => exact ⟨_, setDatabase_databases, by simp [DatabaseProcess.live]⟩
  | restored place =>
    have hold : d.pc.unmapped = false := by rw [place]; rfl
    exact ⟨_, setDatabase_databases,
      fun _ => hsame rfl rfl (v.goto hold rfl (shutdown_departing d))⟩
  | detached place => exact ⟨_, setDatabase_databases, fun _ => v.detached place⟩
  | removed => exact ⟨_, setDatabase_databases, fun _ => .without_segment rfl⟩
  | removedPidFile => exact ⟨_, setDatabase_databases, by simp [DatabaseProcess.live]⟩
  | flushed place | openedDatabase place | initializedTables place | blockedSignals place
  | consumed place | closedDatabase place =>
    have hold : d.pc.unmapped = false := by rw [place]; rfl
    exact ⟨_, setDatabase_databases, fun _ => hsame rfl rfl (v.goto hold rfl rfl)⟩

-- ---------------------------------------------------------------------------
-- Whole runs
-- ---------------------------------------------------------------------------

def Each (P : World → Nat → DatabaseProcess → Prop) (w : World) : Prop :=
  ∀ p d, w.databases p = some d → d.live = true → P w p d

section Each

variable {P : World → Nat → DatabaseProcess → Prop} {next : Option DatabaseProcess}

theorem Each.initial (store : Store) : (World.initial store).Each P := by
  simp [Each, World.initial, databases]

theorem Each.update (v : w.Each P) (hdatabases : w'.databases = Function.update w.databases p next)
    (hnext : ∀ d, next = some d → d.live = true → P w' p d)
    (hothers : ∀ q e, q ≠ p → w.databases q = some e → P w q e → P w' q e) : w'.Each P := by
  intro q e he hlive
  rw [hdatabases, Function.update_apply] at he
  split at he
  · rename_i hqp
    subst hqp
    exact hnext e he hlive
  · rename_i hqp
    exact hothers q e hqp he (v q e he hlive)

end Each

def Holding (w : World) : Prop := w.Each Holds

theorem Holding.update {next : Option DatabaseProcess} (v : w.Holding) (h : Touches p new w w')
    (hdatabases : w'.databases = Function.update w.databases p next)
    (hnext : ∀ d, next = some d → d.live = true → Holds w' p d)
    (hnew : ∀ id, new = some id → ∀ q e, q ≠ p → w.databases q = some e → Holds w q e →
      e.segment = some id → e.pc.departing = false) : w'.Holding :=
  Each.update v hdatabases hnext fun q e hne he hold =>
    hold.frame h hne fun id hid => hnew id hid q e hne he hold

theorem Holding.database (v : w.Holding) (hd : w.databases p = some d)
    (h : DatabaseChange w p d w') : w'.Holding := by
  obtain ⟨d', hdatabases, hd'⟩ := h.holds (v p d hd h.live)
  have hnext : ∀ e, some d' = some e → e.live = true → Holds w' p e := by
    intro e he
    cases he
    exact hd'
  rcases h.touches with htouches | ⟨hfound, htouches⟩
  · exact v.update htouches hdatabases hnext (by simp)
  · -- Two processes do not have the same segment: each has created its own.
    refine v.update htouches hdatabases hnext fun id hid q e hne _ ve heid => ?_
    rw [hid, Option.bind_some] at hfound
    obtain ⟨seg, hseg⟩ := Option.isSome_iff_exists.mp hfound
    have hp := ((v p d hd h.live).owned id hid).2 seg hseg
    have hq := (ve.owned id heid).2 seg hseg
    exact absurd (hq.symm.trans hp) hne

theorem tcpServerStep_attach {id : Nat} (h : w.tcpServerStep p (.attachSegment id) outcome = some w') :
    outcome = .ok ∨ w' = w.setTcpServer p .findSegment := by
  cases outcome with
  | ok => exact .inl rfl
  | error =>
    cases h
    exact .inr rfl
  | sigusr1 => cases h
  | sigint => cases h

theorem Holding.tcpServer {pc : TcpProcessPc} (v : w.Holding) (hpc : w.tcpServers p = some pc)
    (hstep : w.tcpServerStep p pc outcome = some w') (hc : w.AttachesInTime (.tcpServer p outcome))
    (h : TcpServerChange w p pc w') : w'.Holding := by
  cases h with
  | moved pc' =>
    exact v.update (.of_same (p := p) rfl rfl) setTcpServer_databases (by simp) (by simp)
  | attached id place found =>
    subst place
    rcases tcpServerStep_attach hstep with rfl | hw'
    · refine v.update (Touches.attach (some id)).setTcpServer setTcpServer_databases (by simp) ?_
      rintro _ ⟨⟩ q e - he ve hid
      obtain ⟨seg, hseg⟩ := Option.isSome_iff_exists.mp found
      have hcreator := (ve.owned id hid).2 seg hseg
      exact hc _ hpc id rfl seg hseg e (hcreator ▸ he) hid
    · rw [hw']
      exact v.update (.of_same (p := p) rfl rfl) setTcpServer_databases (by simp) (by simp)
  | exited =>
    exact v.update (.exitTcpServer (.of_same rfl rfl)) setTcpServer_databases (by simp) (by simp)

theorem Holding.step {a : WorldAction} (v : w.Holding) (hc : w.AttachesInTime a)
    (h : Change w a w') : w'.Holding := by
  cases h with
  | startedDatabase p inherited =>
    refine v.update (.of_same (p := p) rfl rfl) setDatabase_databases ?_ (by simp)
    rintro _ ⟨⟩ -
    exact .without_segment rfl
  | database _ p outcome d process step change => exact v.database process change
  | startedTcpServer p =>
    exact v.update (.of_same (p := p) rfl rfl) setTcpServer_databases (by simp) (by simp)
  | tcpServer _ p outcome pc process step change => exact v.tcpServer process step hc change
  | databaseKilled readPids p d =>
    refine v.update (.exitDatabase (.of_same rfl rfl)) setDatabase_databases ?_ (by simp)
    rintro _ ⟨⟩ hlive
    cases hlive
  | tcpServerKilled readPids p =>
    exact v.update (.exitTcpServer (.of_same rfl rfl)) setTcpServer_databases (by simp) (by simp)
  | signalPending readPids p d process live =>
    refine v.update (.of_same (p := p) rfl rfl) setDatabase_databases ?_ (by simp)
    rintro _ ⟨⟩ -
    have hold := v p d process live
    exact ⟨hold.owned, hold.mapped, hold.last, hold.empty⟩
  | notified readPids =>
    intro p d hd hlive
    have hold := v p d hd hlive
    exact ⟨hold.owned, hold.mapped, hold.last, hold.empty⟩

theorem Holding.removesAlone (v : w.Holding) (a : WorldAction) : w.RemovesAlone a := by
  unfold RemovesAlone
  split
  · intro d hd hpc id hid seg hseg
    have hold := v _ d hd (d.live_of_pc (by simp [hpc]))
    rw [hold.empty (.inr hpc) id seg hid hseg]
    exact Finset.empty_subset _
  · trivial

end World

/-- IPC_RMID finds no other process attached, if none attaches after the last
count that `shutdown` waits for. -/
theorem removed_alone (store : Store) (actions : List WorldAction) (t : World)
    (hr : run World.step (World.initial store) actions = some t)
    (hc : Along World.step World.AttachesInTime (World.initial store) actions) :
    Along World.step World.RemovesAlone (World.initial store) actions := by
  refine .of_steps hr fun before a after w w' hsplit hw hstep => ?_
  have hbefore := ((Along.append hw).mp (hsplit ▸ hc)).1
  have v : w.Holding := Runs.invariant_along
    (fun _ _ _ v hc h => v.step hc (World.step_cases h)) (World.Each.initial store) hw hbefore
  exact v.removesAlone a

def servingActions : List WorldAction :=
  .startDatabase 1 false :: List.replicate 27 (.database 1 .ok) ++
    .startTcpServer 2 :: List.replicate 7 (.tcpServer 2 .ok)

def waitingActions : List WorldAction :=
  servingActions ++ .database 1 .sigint :: List.replicate 6 (.database 1 .ok)

def stoppedActions : List WorldAction :=
  waitingActions ++ .tcpServer 2 .sigint :: List.replicate 4 (.database 1 .ok)

def stoppedWorld : World :=
  (run World.step (World.initial Store.initial) stoppedActions).get (by decide +kernel)

theorem removed_alone_stopped :
    Along World.step World.RemovesAlone (World.initial Store.initial) stoppedActions :=
  removed_alone Store.initial stoppedActions stoppedWorld (Option.some_get _).symm
    (by decide +kernel)

/-- A TcpServer attaches after Database has seen itself alone, before its `shmdt`:
the count in `remove` is 1. -/
def lateAttachActions : List WorldAction :=
  .startDatabase 1 false :: List.replicate 27 (.database 1 .ok) ++
    [.startTcpServer 2, .tcpServer 2 .ok, .database 1 .sigint] ++
    List.replicate 6 (.database 1 .ok) ++ .tcpServer 2 .ok :: List.replicate 3 (.database 1 .ok)

theorem not_always_removed_alone :
    ¬ ∀ (store : Store) (actions : List WorldAction) (t : World),
      run World.step (World.initial store) actions = some t →
        Along World.step World.RemovesAlone (World.initial store) actions := by
  intro h
  have hrun : (run World.step (World.initial Store.initial) lateAttachActions).isSome = true := by
    decide +kernel
  have hwrong : ¬ Along World.step World.RemovesAlone (World.initial Store.initial)
      lateAttachActions := by
    decide +kernel
  obtain ⟨t, hr⟩ := Option.isSome_iff_exists.mp hrun
  exact hwrong (h Store.initial lateAttachActions t hr)

end ParkingSystem
