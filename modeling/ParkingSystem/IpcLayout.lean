import ParkingSystem.Protocol
import ParkingSystem.SharedQueue

/-!
# The layout of the segment

The constants of `ipc_protocol.hpp` for arbitrary capacities and element sizes:
the header with the readiness flags, then the two queues, each at a multiple of
the alignment of `queue_header_t`. `accesses` lists the bytes that one call of
`push` or `pop` reads or writes, and `queues_confined` says that in any run they
stay inside the region of the call's own queue.
-/

namespace ParkingSystem

open Fifo (Call Answer)
open Memory (Range Covers AgreeOn ChangesWithin word)

namespace SharedQueue

variable (q : SharedQueue) (sem : SemCalls) (mem : Memory)

/-- One call, whatever its two semaphore calls return. -/
def call : Call (List UInt8) → Answer (List UInt8) × Memory
  | .push item => (q.push sem mem item).map .pushed id
  | .pop => (q.pop sem mem).map .popped id

/-- The bytes of shared memory that the call reads or writes. -/
def accesses : Call (List UInt8) → List Range
  | .push _ =>
    if !q.valid || !sem.wait then []
    else if mem.readWord q.capacityAt ≤ mem.readWord q.countAt then
      [word q.countAt, word q.capacityAt]
    else
      let size := mem.readWord q.elementSizeAt
      [word q.countAt, word q.capacityAt, word q.tailAt, word q.elementSizeAt,
        ⟨q.dataAt + sizeT (mem.readWord q.tailAt * size), size⟩]
  | .pop =>
    if !q.valid || !sem.wait then []
    else if mem.readWord q.countAt = 0 then [word q.countAt]
    else
      let size := mem.readWord q.elementSizeAt
      [word q.countAt, word q.capacityAt, word q.headAt, word q.elementSizeAt,
        ⟨q.dataAt + sizeT (mem.readWord q.headAt * size), size⟩]

def region : Range := ⟨q.offset, sizeofQueueHeader + q.capacity * q.elementSize⟩

-- ---------------------------------------------------------------------------
-- The accesses are all there are
-- ---------------------------------------------------------------------------

section Accesses

variable {q} {sem : SemCalls} {mem mem' : Memory} {call : Call (List UInt8)}

theorem changesWithin_accesses :
    ChangesWithin (q.accesses sem mem call) mem (q.call sem mem call).2 := by
  cases call with
  | push item =>
    simp only [accesses, SharedQueue.call, push]
    cases q.valid with
    | false => exact .refl
    | true =>
      cases sem.wait with
      | false => exact .refl
      | true =>
        by_cases hfull : mem.readWord q.capacityAt ≤ mem.readWord q.countAt
        · simpa [hfull] using ChangesWithin.refl
        · simp only [hfull, Bool.not_true, Bool.or_self, Bool.false_eq_true, if_false, Prod.map_snd,
            id]
          refine ((ChangesWithin.refl.write ?_ (List.length_take_le _ _)).writeWord ?_ _).writeWord
            ?_ _ <;> simp
  | pop =>
    simp only [accesses, SharedQueue.call, pop]
    cases q.valid with
    | false => exact .refl
    | true =>
      cases sem.wait with
      | false => exact .refl
      | true =>
        by_cases hempty : mem.readWord q.countAt = 0
        · simpa [hempty] using ChangesWithin.refl
        · simp only [hempty, Bool.not_true, Bool.or_self, Bool.false_eq_true, if_false,
            Prod.map_snd, id]
          refine (ChangesWithin.refl.writeWord ?_ _).writeWord ?_ _ <;> simp

section Congr

variable {ranges : List Range} (h : AgreeOn ranges mem mem') (hcount : word q.countAt ∈ ranges)
include h hcount

theorem push_congr (hcapacity : word q.capacityAt ∈ ranges)
    (hroom : ¬ mem.readWord q.capacityAt ≤ mem.readWord q.countAt →
      word q.tailAt ∈ ranges ∧ word q.elementSizeAt ∈ ranges) (sem : SemCalls) (item : List UInt8) :
    (q.push sem mem' item).1 = (q.push sem mem item).1 ∧
      AgreeOn ranges (q.push sem mem item).2 (q.push sem mem' item).2 := by
  simp only [push, ← h.readWord hcount, ← h.readWord hcapacity]
  split
  · exact ⟨rfl, h⟩
  split
  · exact ⟨rfl, h⟩
  split
  · exact ⟨rfl, h⟩
  · rename_i hfull
    obtain ⟨htail, helement⟩ := hroom hfull
    rw [← h.readWord htail, ← h.readWord helement]
    have hcell := h.write
      (q.dataAt + sizeT (mem.readWord q.tailAt * mem.readWord q.elementSizeAt))
      (item.take (mem.readWord q.elementSizeAt))
    rw [← hcell.readWord htail, ← hcell.readWord hcapacity]
    refine ⟨rfl, ?_⟩
    have hindex := hcell.writeWord q.tailAt
      (sizeT ((mem.write (q.dataAt + sizeT (mem.readWord q.tailAt * mem.readWord q.elementSizeAt))
        (item.take (mem.readWord q.elementSizeAt))).readWord q.tailAt + 1) %
        (mem.write (q.dataAt + sizeT (mem.readWord q.tailAt * mem.readWord q.elementSizeAt))
          (item.take (mem.readWord q.elementSizeAt))).readWord q.capacityAt)
    rw [← hindex.readWord hcount]
    exact hindex.writeWord _ _

theorem pop_congr (hrecord : ¬ mem.readWord q.countAt = 0 → word q.capacityAt ∈ ranges ∧
      word q.headAt ∈ ranges ∧ word q.elementSizeAt ∈ ranges ∧
      ⟨q.dataAt + sizeT (mem.readWord q.headAt * mem.readWord q.elementSizeAt),
        mem.readWord q.elementSizeAt⟩ ∈ ranges) (sem : SemCalls) :
    (q.pop sem mem').1 = (q.pop sem mem).1 ∧
      AgreeOn ranges (q.pop sem mem).2 (q.pop sem mem').2 := by
  simp only [pop, ← h.readWord hcount]
  split
  · exact ⟨rfl, h⟩
  split
  · exact ⟨rfl, h⟩
  split
  · exact ⟨rfl, h⟩
  · rename_i hempty
    obtain ⟨hcapacity, hhead, helement, hcell⟩ := hrecord hempty
    rw [← h.readWord hhead, ← h.readWord helement, ← h.read hcell, ← h.readWord hcapacity]
    have hindex := h.writeWord q.headAt
      (sizeT (mem.readWord q.headAt + 1) % mem.readWord q.capacityAt)
    rw [← hindex.readWord hcount]
    exact ⟨rfl, hindex.writeWord _ _⟩

end Congr

theorem call_congr (h : AgreeOn (q.accesses sem mem call) mem mem') :
    (q.call sem mem' call).1 = (q.call sem mem call).1 ∧
      AgreeOn (q.accesses sem mem call) (q.call sem mem call).2 (q.call sem mem' call).2 := by
  cases call with
  | push item =>
    cases hvalid : q.valid with
    | false => simpa [SharedQueue.call, push, hvalid] using h
    | true =>
      cases hwait : sem.wait with
      | false => simpa [SharedQueue.call, push, hvalid, hwait] using h
      | true =>
        have hmem : word q.countAt ∈ q.accesses sem mem (.push item) ∧
            word q.capacityAt ∈ q.accesses sem mem (.push item) := by
          simp only [accesses, hvalid, hwait, Bool.not_true, Bool.or_self, Bool.false_eq_true,
            if_false]
          split <;> simp
        obtain ⟨hanswer, hagree⟩ := push_congr h hmem.1 hmem.2
          (fun hfull => by simp [accesses, hvalid, hwait, hfull]) sem item
        exact ⟨congrArg Answer.pushed hanswer, hagree⟩
  | pop =>
    cases hvalid : q.valid with
    | false => simpa [SharedQueue.call, pop, hvalid] using h
    | true =>
      cases hwait : sem.wait with
      | false => simpa [SharedQueue.call, pop, hvalid, hwait] using h
      | true =>
        have hcount : word q.countAt ∈ q.accesses sem mem .pop := by
          simp only [accesses, hvalid, hwait, Bool.not_true, Bool.or_self, Bool.false_eq_true,
            if_false]
          split <;> simp
        obtain ⟨hanswer, hagree⟩ := pop_congr h hcount
          (fun hempty => by simp [accesses, hvalid, hwait, hempty]) sem
        exact ⟨congrArg Answer.popped hanswer, hagree⟩

theorem region_contains {a n : Nat} (hlow : q.offset ≤ a)
    (hhigh : a + n ≤ q.dataAt + q.capacity * q.elementSize) : q.region.Contains ⟨a, n⟩ := by
  refine ⟨hlow, ?_⟩
  unfold dataAt at hhigh
  simp only [region]
  omega

theorem region_contains_word {a : Nat} (hlow : q.offset ≤ a) (hhigh : a + 8 ≤ q.dataAt) :
    q.region.Contains (word a) :=
  region_contains hlow (Nat.le_add_right_of_le hhigh)

theorem region_contains_cell {i : Nat} (hi : i < q.capacity) :
    q.region.Contains ⟨q.cellAt i, q.elementSize⟩ := by
  have hcell := Nat.mul_le_mul_right q.elementSize (Nat.succ_le_of_lt hi)
  rw [Nat.succ_mul] at hcell
  refine region_contains ?_ ?_
  · unfold cellAt dataAt
    omega
  · unfold cellAt
    omega

variable (q) in
theorem region_contains_header :
    q.region.Contains (word q.headAt) ∧ q.region.Contains (word q.tailAt) ∧
      q.region.Contains (word q.countAt) ∧ q.region.Contains (word q.capacityAt) ∧
      q.region.Contains (word q.elementSizeAt) := by
  unfold headAt tailAt countAt capacityAt elementSizeAt
  refine ⟨?_, ?_, ?_, ?_, ?_⟩ <;>
    exact region_contains_word (by omega) (by unfold dataAt sizeofQueueHeader; omega)

theorem Represents.congr (hp : q.Placed) {records : List (List UInt8)}
    (h : q.Represents mem records) (hagree : AgreeOn [q.region] mem' mem) :
    q.Represents mem' records := by
  obtain ⟨hhead, htail, hcount, hcapacity, helement⟩ := region_contains_header q
  have hhead := hagree.readWord_within hhead
  constructor
  · rw [hagree.readWord_within hcapacity, h.capacity]
  · rw [hagree.readWord_within helement, h.elementSize]
  · rw [hagree.readWord_within hcount, h.count]
  · exact h.bound
  · rw [hhead]
    exact h.head_lt
  · rw [hhead, hagree.readWord_within htail, h.tail]
  · intro i record hi
    have hslot : Fifo.slot q.capacity (mem.readWord q.headAt) i < q.capacity :=
      Fifo.slot_lt hp.capacity_pos
    rw [hhead, hagree.read_within (region_contains_cell hslot), h.cells i record hi]

theorem accesses_within (hp : q.Placed) {records : List (List UInt8)}
    (h : q.Represents mem records) : ∀ r ∈ q.accesses sem mem call, q.region.Contains r := by
  obtain ⟨hhead, htail, hcount, hcapacity, helement⟩ := region_contains_header q
  have hpushed := region_contains_cell (h.tail_lt hp)
  have hpopped := region_contains_cell h.head_lt
  rw [← hp.cell_address (h.tail_lt hp)] at hpushed
  rw [← hp.cell_address h.head_lt] at hpopped
  intro r hr
  cases call with
  | push =>
    simp only [accesses, h.elementSize] at hr
    split at hr
    · cases hr
    split at hr
    · simp only [List.mem_cons, List.not_mem_nil, or_false] at hr
      rcases hr with rfl | rfl
      · exact hcount
      · exact hcapacity
    · simp only [List.mem_cons, List.not_mem_nil, or_false] at hr
      rcases hr with rfl | rfl | rfl | rfl | rfl
      · exact hcount
      · exact hcapacity
      · exact htail
      · exact helement
      · exact hpushed
  | pop =>
    simp only [accesses, h.elementSize] at hr
    split at hr
    · cases hr
    split at hr
    · simp only [List.mem_cons, List.not_mem_nil, or_false] at hr
      obtain rfl := hr
      exact hcount
    · simp only [List.mem_cons, List.not_mem_nil, or_false] at hr
      rcases hr with rfl | rfl | rfl | rfl | rfl
      · exact hcount
      · exact hcapacity
      · exact hhead
      · exact helement
      · exact hpopped

/-- What `sem_post` returns changes no byte, and a call that `sem_wait` does not let
in changes none either. -/
theorem call_memory : (q.call sem mem call).2 = if sem.wait then (q.exec mem call).2 else mem := by
  cases call <;> cases hwait : sem.wait <;>
    simp only [SharedQueue.call, exec, push, pop, SemCalls.succeed, hwait] <;>
    split <;> simp [*] <;> split <;> rfl

theorem call_represents (hp : q.Placed) {records : List (List UInt8)} (h : q.Represents mem records)
    (hitem : ∀ item, call = .push item → item.length = q.elementSize) :
    ∃ records', q.Represents (q.call sem mem call).2 records' := by
  rw [call_memory]
  split
  · exact ⟨_, (exec_refines hp h call hitem).2⟩
  · exact ⟨records, h⟩

theorem new_changesWithin (hp : q.Placed) :
    ChangesWithin [word q.headAt, word q.tailAt, word q.countAt, word q.capacityAt,
      word q.elementSizeAt] mem (new mem true true q.offset q.elementSize q.capacity true).2 := by
  rw [new_create hp]
  refine ((((ChangesWithin.refl.writeWord ?_ _).writeWord ?_ _).writeWord ?_ _).writeWord ?_
    _).writeWord ?_ _ <;> simp

end Accesses
end SharedQueue

-- ---------------------------------------------------------------------------
-- The constants of ipc_protocol.hpp
-- ---------------------------------------------------------------------------

def sizeofIpcHeader : Nat := 8

def alignofQueueHeader : Nat := 8

def alignUp (value alignment : Nat) : Nat :=
  sizeT (sizeT (value + alignment - 1) / alignment * alignment)

/-- The capacities and element sizes, small enough that no size of the layout
leaves `std::size_t`. -/
structure IpcLayout where
  capacity : Direction → Nat
  elementSize : Direction → Nat
  capacity_pos : ∀ queue, 0 < capacity queue
  elementSize_pos : ∀ queue, 0 < elementSize queue
  fits : (sizeofIpcHeader + sizeofQueueHeader + capacity .tcpToDatabase * elementSize .tcpToDatabase +
      7) / 8 * 8 + sizeofQueueHeader + capacity .databaseToTcp * elementSize .databaseToTcp < 2 ^ 64

namespace IpcLayout

/-- One call on one of the queues, with an item of the size that `memcpy` takes. -/
structure QueueCall (layout : IpcLayout) where
  queue : Direction
  sem : SemCalls
  call : Call (List UInt8)
  item_length : ∀ item, call = .push item → item.length = layout.elementSize queue

variable (layout : IpcLayout)

def queueSize (queue : Direction) : Nat :=
  sizeT (sizeofQueueHeader + sizeT (layout.capacity queue * layout.elementSize queue))

def queueOffset : Direction → Nat
  | .tcpToDatabase => alignUp sizeofIpcHeader alignofQueueHeader
  | .databaseToTcp =>
    alignUp (sizeT (alignUp sizeofIpcHeader alignofQueueHeader + layout.queueSize .tcpToDatabase))
      alignofQueueHeader

def ipcSharedMemorySize : Nat :=
  sizeT (layout.queueOffset .databaseToTcp + layout.queueSize .databaseToTcp)

def region (queue : Direction) : Range := ⟨layout.queueOffset queue, layout.queueSize queue⟩

def queue (queue : Direction) : SharedQueue :=
  ⟨layout.queueOffset queue, layout.elementSize queue, layout.capacity queue, true⟩

def created (mem : Memory) : Memory :=
  [.tcpToDatabase, .databaseToTcp].foldl (fun mem name => (SharedQueue.new mem true true
    (layout.queueOffset name) (layout.elementSize name) (layout.capacity name) true).2) mem

def exec (mem : Memory) (c : layout.QueueCall) : Answer (List UInt8) × Memory :=
  (layout.queue c.queue).call c.sem mem c.call

def execAll (mem : Memory) (calls : List layout.QueueCall) : Memory :=
  calls.foldl (fun mem c => (layout.exec mem c).2) mem

def accesses (mem : Memory) (c : layout.QueueCall) : List Range :=
  (layout.queue c.queue).accesses c.sem mem c.call

/-- The header and the two queues share no byte. -/
structure Separated : Prop where
  header : ∀ queue, Memory.Disjoint 0 sizeofIpcHeader (layout.queueOffset queue)
    (layout.queueSize queue)
  queues : Memory.Disjoint (layout.queueOffset .tcpToDatabase) (layout.queueSize .tcpToDatabase)
    (layout.queueOffset .databaseToTcp) (layout.queueSize .databaseToTcp)
  aligned : ∀ queue, layout.queueOffset queue % alignofQueueHeader = 0
  inside : ∀ queue,
    layout.queueOffset queue + layout.queueSize queue ≤ layout.ipcSharedMemorySize

structure Confined (mem : Memory) (c : layout.QueueCall) : Prop where
  inside : ∀ r ∈ layout.accesses mem c, (layout.region c.queue).Contains r ∧
    r.start + r.length ≤ layout.ipcSharedMemorySize
  /-- What it writes is among the accesses. -/
  writes : ChangesWithin (layout.accesses mem c) mem (layout.exec mem c).2
  /-- What it reads is among the accesses: nothing else can make a difference. -/
  reads : ∀ mem', AgreeOn (layout.accesses mem c) mem mem' →
    (layout.exec mem' c).1 = (layout.exec mem c).1 ∧
      AgreeOn (layout.accesses mem c) (layout.exec mem c).2 (layout.exec mem' c).2
  otherQueue : ∀ queue, queue ≠ c.queue → AgreeOn [layout.region queue] (layout.exec mem c).2 mem
  flags : AgreeOn [⟨0, sizeofIpcHeader⟩] (layout.exec mem c).2 mem

-- ---------------------------------------------------------------------------
-- The constants evaluated
-- ---------------------------------------------------------------------------

theorem alignUp_of_lt {value : Nat} (h : (value + 7) / 8 * 8 < 2 ^ 64) :
    alignUp value alignofQueueHeader = (value + 7) / 8 * 8 := by
  have hsum : value + 8 - 1 = value + 7 := rfl
  have hlt : value + 7 < 2 ^ 64 := by omega
  rw [alignUp, alignofQueueHeader, hsum, sizeT, sizeT, Nat.mod_eq_of_lt hlt, Nat.mod_eq_of_lt h]

theorem queueSize_eq (queue : Direction) : layout.queueSize queue =
    sizeofQueueHeader + layout.capacity queue * layout.elementSize queue := by
  have hfits := layout.fits
  unfold sizeofIpcHeader sizeofQueueHeader at hfits
  have hcells : layout.capacity queue * layout.elementSize queue + 40 < 2 ^ 64 := by
    cases queue <;> omega
  have hsum : sizeofQueueHeader + layout.capacity queue * layout.elementSize queue < 2 ^ 64 := by
    unfold sizeofQueueHeader
    omega
  rw [queueSize, sizeT, sizeT, Nat.mod_eq_of_lt (Nat.lt_of_add_right_lt hcells),
    Nat.mod_eq_of_lt hsum]

theorem tcpToDatabaseQueueOffset_eq : layout.queueOffset .tcpToDatabase = 8 := by
  simp only [queueOffset]
  decide

theorem databaseToTcpQueueOffset_eq : layout.queueOffset .databaseToTcp =
    (48 + layout.capacity .tcpToDatabase * layout.elementSize .tcpToDatabase + 7) / 8 * 8 := by
  have hfits := layout.fits
  unfold sizeofIpcHeader sizeofQueueHeader at hfits
  have hend : sizeT (layout.queueOffset .tcpToDatabase + layout.queueSize .tcpToDatabase) =
      48 + layout.capacity .tcpToDatabase * layout.elementSize .tcpToDatabase := by
    rw [tcpToDatabaseQueueOffset_eq, queueSize_eq, sizeT, sizeofQueueHeader,
      Nat.mod_eq_of_lt (by omega)]
    omega
  calc layout.queueOffset .databaseToTcp
      = alignUp (sizeT (layout.queueOffset .tcpToDatabase + layout.queueSize .tcpToDatabase))
          alignofQueueHeader := rfl
    _ = _ := by rw [hend, alignUp_of_lt (by omega)]

theorem ipcSharedMemorySize_eq : layout.ipcSharedMemorySize =
    layout.queueOffset .databaseToTcp + layout.queueSize .databaseToTcp := by
  have hfits := layout.fits
  unfold sizeofIpcHeader sizeofQueueHeader at hfits
  rw [ipcSharedMemorySize, databaseToTcpQueueOffset_eq, queueSize_eq, sizeT, Nat.mod_eq_of_lt]
  unfold sizeofQueueHeader
  omega

theorem separated : layout.Separated := by
  have hfirst := layout.tcpToDatabaseQueueOffset_eq
  have hsecond := layout.databaseToTcpQueueOffset_eq
  have hsize := layout.queueSize_eq .tcpToDatabase
  have htotal := layout.ipcSharedMemorySize_eq
  unfold sizeofQueueHeader at hsize
  constructor
  · intro queue
    unfold Memory.Disjoint sizeofIpcHeader
    cases queue <;> omega
  · unfold Memory.Disjoint
    omega
  · intro queue
    unfold alignofQueueHeader
    cases queue <;> omega
  · intro queue
    cases queue <;> omega

theorem queue_placed (queue : Direction) : (layout.queue queue).Placed where
  valid := rfl
  capacity_pos := layout.capacity_pos queue
  elementSize_pos := layout.elementSize_pos queue
  fits := by
    have hfits := layout.fits
    have hfirst := layout.tcpToDatabaseQueueOffset_eq
    have hsecond := layout.databaseToTcpQueueOffset_eq
    unfold sizeofIpcHeader sizeofQueueHeader at hfits
    unfold sizeofQueueHeader
    cases queue <;> simp only [IpcLayout.queue] <;> omega

theorem region_eq (queue : Direction) : (layout.queue queue).region = layout.region queue := by
  rw [SharedQueue.region, region, queueSize_eq]
  rfl

-- ---------------------------------------------------------------------------
-- Every call keeps to its own region
-- ---------------------------------------------------------------------------

def Inv (mem : Memory) : Prop := ∀ queue, ∃ records, (layout.queue queue).Represents mem records

variable {layout} {mem : Memory} {c : layout.QueueCall}

theorem regions_disjoint {queue other : Direction} (h : queue ≠ other) :
    Memory.Disjoint (layout.region queue).start (layout.region queue).length
      (layout.region other).start (layout.region other).length := by
  have hqueues := layout.separated.queues
  unfold Memory.Disjoint at hqueues ⊢
  simp only [region]
  cases queue <;> cases other
  · exact absurd rfl h
  · exact hqueues
  · exact hqueues.symm
  · exact absurd rfl h

theorem agreeOn_of_contains {r own : Range} {ranges : List Range} {m m' : Memory}
    (h : ChangesWithin ranges m m') (hin : ∀ r' ∈ ranges, own.Contains r')
    (hr : Memory.Disjoint r.start r.length own.start own.length) : AgreeOn [r] m' m := by
  refine h.agreeOn fun r' hr' => ?_
  obtain ⟨hlow, hhigh⟩ := hin r' hr'
  unfold Memory.Disjoint at hr ⊢
  omega

theorem accesses_contained (h : layout.Inv mem) :
    ∀ r ∈ layout.accesses mem c, (layout.region c.queue).Contains r := by
  obtain ⟨records, hrep⟩ := h c.queue
  rw [← region_eq]
  exact SharedQueue.accesses_within (layout.queue_placed c.queue) hrep

theorem confined (h : layout.Inv mem) : layout.Confined mem c where
  inside r hr := by
    have hin := accesses_contained h r hr
    refine ⟨hin, Nat.le_trans hin.2 ?_⟩
    exact layout.separated.inside c.queue
  writes := SharedQueue.changesWithin_accesses
  reads mem' hagree := SharedQueue.call_congr hagree
  otherQueue queue hne := agreeOn_of_contains SharedQueue.changesWithin_accesses
    (accesses_contained h) (regions_disjoint hne)
  flags := agreeOn_of_contains SharedQueue.changesWithin_accesses (accesses_contained h)
    (layout.separated.header c.queue)

theorem exec_inv (h : layout.Inv mem) : layout.Inv (layout.exec mem c).2 := by
  intro queue
  obtain ⟨records, hrep⟩ := h queue
  by_cases hqueue : queue = c.queue
  · subst hqueue
    exact SharedQueue.call_represents (layout.queue_placed c.queue) hrep c.item_length
  · have hagree := (confined (c := c) h).otherQueue queue hqueue
    rw [← region_eq] at hagree
    exact ⟨records, hrep.congr (layout.queue_placed queue) hagree⟩

theorem execAll_inv (h : layout.Inv mem) (calls : List layout.QueueCall) :
    layout.Inv (layout.execAll mem calls) := by
  induction calls generalizing mem with
  | nil => exact h
  | cons c calls ih => exact ih (exec_inv h)

theorem created_inv (mem : Memory) : layout.Inv (layout.created mem) := by
  have hp := layout.queue_placed
  let first := (SharedQueue.new mem true true (layout.queueOffset .tcpToDatabase)
    (layout.elementSize .tcpToDatabase) (layout.capacity .tcpToDatabase) true).2
  intro queue
  refine ⟨[], ?_⟩
  cases queue with
  | tcpToDatabase =>
    -- the header of the other queue is written last
    have hfirst : (layout.queue .tcpToDatabase).Represents first [] :=
      SharedQueue.create_represents (hp _) mem
    refine hfirst.congr (hp _) ?_
    rw [region_eq]
    obtain ⟨hhead, htail, hcount, hcapacity, helement⟩ :=
      SharedQueue.region_contains_header (layout.queue .databaseToTcp)
    rw [region_eq] at hhead htail hcount hcapacity helement
    refine agreeOn_of_contains (SharedQueue.new_changesWithin (hp .databaseToTcp)) ?_
      (regions_disjoint (show Direction.tcpToDatabase ≠ .databaseToTcp by decide))
    intro r hr
    simp only [List.mem_cons, List.not_mem_nil, or_false] at hr
    rcases hr with rfl | rfl | rfl | rfl | rfl
    · exact hhead
    · exact htail
    · exact hcount
    · exact hcapacity
    · exact helement
  | databaseToTcp => exact SharedQueue.create_represents (hp _) first

end IpcLayout

/-- In any run of calls on the two queues, every call keeps to its own region. -/
theorem queues_confined (layout : IpcLayout) (mem : Memory) (calls : List layout.QueueCall)
    (next : layout.QueueCall) :
    layout.Separated ∧ layout.Confined (layout.execAll (layout.created mem) calls) next :=
  ⟨layout.separated, IpcLayout.confined (IpcLayout.execAll_inv (IpcLayout.created_inv mem) calls)⟩

def ipcLayout : IpcLayout where
  capacity := Direction.capacity
  elementSize := Direction.elementSize
  capacity_pos queue := by cases queue <;> decide
  elementSize_pos queue := by cases queue <;> decide
  fits := by decide

example : ipcLayout.ipcSharedMemorySize = 4184 := by decide

end ParkingSystem
