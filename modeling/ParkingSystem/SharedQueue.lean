import ParkingSystem.Lib.Fifo

/-!
# The queue in shared memory

`SharedQueue` keeps its header and its cells in one region of the shared
segment: five `std::size_t` words at `offset_`, then `capacity` cells of
`element_size` bytes. Every access reads the words back from memory, as the
code does; `std::size_t` arithmetic is reduced modulo `2 ^ 64`.

`Represents` reads the region as the list of records it holds, and
`sharedQueue_refines_fifo` says that the code computes the bounded FIFO of
`Lib.Fifo` on that list.
-/

namespace ParkingSystem

def sizeofQueueHeader : Nat := 40

/-- The range of `std::size_t`. -/
def sizeT (value : Nat) : Nat := value % 2 ^ 64

/-- A `SharedQueue` object. `valid` stands for the three pointers that
`is_valid` tests: they are set together or not at all. -/
structure SharedQueue where
  offset : Nat
  elementSize : Nat
  capacity : Nat
  valid : Bool

/-- What the two semaphore calls of one operation return (`true` for 0). -/
structure SemCalls where
  wait : Bool
  post : Bool

def SemCalls.succeed : SemCalls := ⟨true, true⟩

namespace SharedQueue

variable (q : SharedQueue)

def headAt : Nat := q.offset
def tailAt : Nat := q.offset + 8
def countAt : Nat := q.offset + 16
def capacityAt : Nat := q.offset + 24
def elementSizeAt : Nat := q.offset + 32
def dataAt : Nat := q.offset + sizeofQueueHeader

/-- The constructor. `attached` says that `shared_memory` has an address,
`opened` that `sem_open` succeeded. -/
def new (mem : Memory) (attached opened : Bool) (offset elementSize capacity : Nat)
    (create : Bool) : SharedQueue × Memory :=
  let q : SharedQueue := ⟨offset, elementSize, capacity, true⟩
  if !attached || elementSize == 0 || capacity == 0 || !opened then
    ({ q with valid := false }, mem)
  else if create then
    let mem := mem.writeWord q.headAt 0
    let mem := mem.writeWord q.tailAt 0
    let mem := mem.writeWord q.countAt 0
    let mem := mem.writeWord q.capacityAt capacity
    (q, mem.writeWord q.elementSizeAt elementSize)
  else if mem.readWord q.capacityAt ≠ capacity ∨ mem.readWord q.elementSizeAt ≠ elementSize then
    ({ q with valid := false }, mem)
  else
    (q, mem)

def push (sem : SemCalls) (mem : Memory) (item : List UInt8) : Bool × Memory :=
  if !q.valid then (false, mem)
  else if !sem.wait then (false, mem)
  -- Both outcomes of `sem_post` return false here.
  else if mem.readWord q.capacityAt ≤ mem.readWord q.countAt then (false, mem)
  else
    let size := mem.readWord q.elementSizeAt
    let mem := mem.write (q.dataAt + sizeT (mem.readWord q.tailAt * size)) (item.take size)
    let mem := mem.writeWord q.tailAt
      (sizeT (mem.readWord q.tailAt + 1) % mem.readWord q.capacityAt)
    let mem := mem.writeWord q.countAt (mem.readWord q.countAt + 1)
    (sem.post, mem)

/-- `some bytes` is the return value true with `bytes` copied to `item`. -/
def pop (sem : SemCalls) (mem : Memory) : Option (List UInt8) × Memory :=
  if !q.valid then (none, mem)
  else if !sem.wait then (none, mem)
  else if mem.readWord q.countAt = 0 then (none, mem)
  else
    let size := mem.readWord q.elementSizeAt
    let item := mem.read (q.dataAt + sizeT (mem.readWord q.headAt * size)) size
    let mem := mem.writeWord q.headAt
      (sizeT (mem.readWord q.headAt + 1) % mem.readWord q.capacityAt)
    let mem := mem.writeWord q.countAt (mem.readWord q.countAt - 1)
    (if sem.post then some item else none, mem)

def isEmpty (mem : Memory) : Bool := !q.valid || mem.readWord q.countAt = 0

def isFull (mem : Memory) : Bool := q.valid && mem.readWord q.capacityAt ≤ mem.readWord q.countAt

def size (mem : Memory) : Nat := if q.valid then mem.readWord q.countAt else 0

open Fifo (Call Answer)

def exec (mem : Memory) : Call (List UInt8) → Answer (List UInt8) × Memory
  | .push item => (q.push .succeed mem item).map .pushed id
  | .pop => (q.pop .succeed mem).map .popped id

def execAll : Memory → List (Call (List UInt8)) → List (Answer (List UInt8)) × Memory
  | mem, [] => ([], mem)
  | mem, call :: calls =>
    let (answer, mem) := q.exec mem call
    let (answers, mem) := execAll mem calls
    (answer :: answers, mem)

-- ---------------------------------------------------------------------------
-- The list a region stands for
-- ---------------------------------------------------------------------------

/-- A queue with room for something, in a region of the address space. -/
structure Placed : Prop where
  valid : q.valid = true
  capacity_pos : 0 < q.capacity
  elementSize_pos : 0 < q.elementSize
  fits : q.offset + sizeofQueueHeader + q.capacity * q.elementSize ≤ 2 ^ 64

def cellAt (i : Nat) : Nat := q.dataAt + i * q.elementSize

structure Represents (mem : Memory) (records : List (List UInt8)) : Prop where
  capacity : mem.readWord q.capacityAt = q.capacity
  elementSize : mem.readWord q.elementSizeAt = q.elementSize
  count : mem.readWord q.countAt = records.length
  bound : records.length ≤ q.capacity
  head_lt : mem.readWord q.headAt < q.capacity
  tail : mem.readWord q.tailAt = Fifo.slot q.capacity (mem.readWord q.headAt) records.length
  cells : ∀ i record, records[i]? = some record →
    mem.read (q.cellAt (Fifo.slot q.capacity (mem.readWord q.headAt) i)) q.elementSize = record

-- ---------------------------------------------------------------------------
-- Header words and cells do not overlap
-- ---------------------------------------------------------------------------

section Frame

variable {q} {mem : Memory} {a i n value : Nat} {bytes : List UInt8}

theorem readWord_write_cell (h : a + 8 ≤ q.dataAt) :
    (mem.write (q.dataAt + n) bytes).readWord a = mem.readWord a :=
  Memory.readWord_write_of_disjoint (by unfold Memory.Disjoint; omega)

theorem read_cell_writeWord (h : a + 8 ≤ q.dataAt) :
    (mem.writeWord a value).read (q.cellAt i) n = mem.read (q.cellAt i) n :=
  Memory.read_writeWord_of_disjoint value (by unfold Memory.Disjoint cellAt; omega)

theorem read_cell_write_cell {j : Nat} (h : i ≠ j) (hb : bytes.length = q.elementSize) :
    (mem.write (q.cellAt j) bytes).read (q.cellAt i) q.elementSize =
      mem.read (q.cellAt i) q.elementSize := by
  refine Memory.read_write_of_disjoint ?_
  rw [hb]
  exact Fifo.cells_disjoint q.dataAt q.elementSize h

theorem readWord_writeWord_other {b : Nat} (h : a + 8 ≤ b ∨ b + 8 ≤ a) :
    (mem.writeWord b value).readWord a = mem.readWord a :=
  Memory.readWord_writeWord_of_disjoint value h

theorem Placed.capacity_lt (hp : q.Placed) : q.capacity < 2 ^ 64 := by
  have h := hp.fits
  have hc := Nat.mul_le_mul_left q.capacity hp.elementSize_pos
  unfold sizeofQueueHeader at h
  omega

theorem Placed.elementSize_lt (hp : q.Placed) : q.elementSize < 2 ^ 64 := by
  have h := hp.fits
  have hc := Nat.mul_le_mul_right q.elementSize hp.capacity_pos
  unfold sizeofQueueHeader at h
  omega

theorem Placed.cell_address (hp : q.Placed) (hi : i < q.capacity) :
    q.dataAt + sizeT (i * q.elementSize) = q.cellAt i := by
  have h := hp.fits
  have hc := Nat.mul_le_mul_right q.elementSize (Nat.le_of_lt hi)
  have hlt : i * q.elementSize < 2 ^ 64 := by
    unfold sizeofQueueHeader at h
    omega
  rw [sizeT, Nat.mod_eq_of_lt hlt, cellAt]

theorem Placed.next_index (hp : q.Placed) (hi : i < q.capacity) :
    sizeT (i + 1) % q.capacity = (i + 1) % q.capacity := by
  have hlt : i + 1 < 2 ^ 64 := Nat.lt_of_le_of_lt hi hp.capacity_lt
  rw [sizeT, Nat.mod_eq_of_lt hlt]

end Frame

-- ---------------------------------------------------------------------------
-- Creation, push and pop
-- ---------------------------------------------------------------------------

section Operations

variable {q} {mem : Memory} {records : List (List UInt8)}

theorem Represents.tail_lt (hp : q.Placed) (h : q.Represents mem records) :
    mem.readWord q.tailAt < q.capacity :=
  h.tail ▸ Fifo.slot_lt hp.capacity_pos

theorem new_create (hp : q.Placed) (mem : Memory) :
    new mem true true q.offset q.elementSize q.capacity true =
      (q, ((((mem.writeWord q.headAt 0).writeWord q.tailAt 0).writeWord q.countAt 0).writeWord
        q.capacityAt q.capacity).writeWord q.elementSizeAt q.elementSize) := by
  have hq : (⟨q.offset, q.elementSize, q.capacity, true⟩ : SharedQueue) = q := by
    rw [← hp.valid]
  simp only [new, hq]
  simp [Nat.ne_of_gt hp.capacity_pos, Nat.ne_of_gt hp.elementSize_pos]

theorem create_represents (hp : q.Placed) (mem : Memory) :
    q.Represents (new mem true true q.offset q.elementSize q.capacity true).2 [] := by
  rw [new_create hp]
  have hhead : ∀ m : Memory, ((((m.writeWord q.headAt 0).writeWord q.tailAt 0).writeWord
      q.countAt 0).writeWord q.capacityAt q.capacity |>.writeWord q.elementSizeAt
      q.elementSize).readWord q.headAt = 0 := by
    intro m
    unfold headAt tailAt countAt capacityAt elementSizeAt
    rw [readWord_writeWord_other (by omega), readWord_writeWord_other (by omega),
      readWord_writeWord_other (by omega), readWord_writeWord_other (by omega),
      Memory.readWord_writeWord 0 (by omega)]
  constructor
  · unfold capacityAt elementSizeAt
    rw [readWord_writeWord_other (by omega), Memory.readWord_writeWord _ hp.capacity_lt]
  · exact Memory.readWord_writeWord _ hp.elementSize_lt
  · unfold countAt capacityAt elementSizeAt
    rw [readWord_writeWord_other (by omega), readWord_writeWord_other (by omega),
      Memory.readWord_writeWord 0 (by omega), List.length_nil]
  · simp
  · rw [hhead]
    exact hp.capacity_pos
  · rw [hhead, List.length_nil, Fifo.slot_zero hp.capacity_pos]
    unfold tailAt countAt capacityAt elementSizeAt
    rw [readWord_writeWord_other (by omega), readWord_writeWord_other (by omega),
      readWord_writeWord_other (by omega), Memory.readWord_writeWord 0 (by omega)]
  · simp

theorem push_full (hp : q.Placed) (h : q.Represents mem records)
    (hfull : q.capacity ≤ records.length) (item : List UInt8) :
    q.push .succeed mem item = (false, mem) := by
  simp [push, hp.valid, SemCalls.succeed, h.capacity, h.count, hfull]

/-- The bytes of a successful push: the cell first, then `tail`, then `count`. -/
theorem push_stores (hp : q.Placed) (h : q.Represents mem records)
    (hroom : records.length < q.capacity) {item : List UInt8}
    (hitem : item.length = q.elementSize) :
    q.push .succeed mem item = (true,
      ((mem.write (q.cellAt (mem.readWord q.tailAt)) item).writeWord q.tailAt
        ((mem.readWord q.tailAt + 1) % q.capacity)).writeWord q.countAt (records.length + 1)) := by
  have ht := h.tail_lt hp
  have hcell := hp.cell_address ht
  have htail : ∀ b, (mem.write (q.cellAt b) item).readWord q.tailAt = mem.readWord q.tailAt :=
    fun b => readWord_write_cell (by unfold tailAt dataAt sizeofQueueHeader; omega)
  have hcap : ∀ b, (mem.write (q.cellAt b) item).readWord q.capacityAt = q.capacity := fun b =>
    (readWord_write_cell (by unfold capacityAt dataAt sizeofQueueHeader; omega)).trans h.capacity
  have hcount : ∀ b v, ((mem.write (q.cellAt b) item).writeWord q.tailAt v).readWord q.countAt =
      records.length := by
    intro b v
    rw [readWord_writeWord_other (by unfold tailAt countAt; omega), cellAt,
      readWord_write_cell (by unfold countAt dataAt sizeofQueueHeader; omega), h.count]
  have hsize : item.take q.elementSize = item := List.take_of_length_le (Nat.le_of_eq hitem)
  simp only [push, hp.valid, SemCalls.succeed, h.capacity, h.count, h.elementSize,
    Nat.not_le.mpr hroom, hcell, hsize, htail, hcap, hcount, hp.next_index ht]
  simp

theorem push_represents (hp : q.Placed) (h : q.Represents mem records)
    (hroom : records.length < q.capacity) {item : List UInt8}
    (hitem : item.length = q.elementSize) :
    q.Represents (q.push .succeed mem item).2 (records ++ [item]) := by
  rw [push_stores hp h hroom hitem]
  have hlt := hp.capacity_lt
  -- The other header words keep their values.
  have hkept : ∀ a, a + 8 ≤ q.tailAt ∨ q.countAt + 8 ≤ a → a + 8 ≤ q.dataAt →
      (((mem.write (q.cellAt (mem.readWord q.tailAt)) item).writeWord q.tailAt
        ((mem.readWord q.tailAt + 1) % q.capacity)).writeWord q.countAt
        (records.length + 1)).readWord a = mem.readWord a := by
    intro a hapart hdata
    unfold tailAt countAt at hapart
    rw [readWord_writeWord_other (by unfold countAt; omega),
      readWord_writeWord_other (by unfold tailAt; omega)]
    exact readWord_write_cell hdata
  have hhead := hkept q.headAt (by unfold headAt tailAt; omega)
    (by unfold headAt dataAt sizeofQueueHeader; omega)
  constructor
  · exact (hkept _ (by unfold capacityAt countAt; omega)
      (by unfold capacityAt dataAt sizeofQueueHeader; omega)).trans h.capacity
  · exact (hkept _ (by unfold elementSizeAt countAt; omega)
      (by unfold elementSizeAt dataAt sizeofQueueHeader; omega)).trans h.elementSize
  · rw [Memory.readWord_writeWord _ (by omega)]
    simp
  · simpa using Nat.succ_le_of_lt hroom
  · rw [hhead]
    exact h.head_lt
  · rw [hhead, List.length_append, List.length_singleton, ← Fifo.succ_slot, ← h.tail]
    unfold countAt
    rw [readWord_writeWord_other (by unfold tailAt; omega), Memory.readWord_writeWord]
    exact Nat.lt_trans (Nat.mod_lt _ hp.capacity_pos) hlt
  · intro i record hi
    rw [hhead, read_cell_writeWord (by unfold countAt dataAt sizeofQueueHeader; omega),
      read_cell_writeWord (by unfold tailAt dataAt sizeofQueueHeader; omega), h.tail]
    by_cases hold : i < records.length
    · -- The new record goes to a cell that no older record occupies.
      have hne : Fifo.slot q.capacity (mem.readWord q.headAt) i ≠
          Fifo.slot q.capacity (mem.readWord q.headAt) records.length := fun he =>
        Nat.ne_of_lt hold (Fifo.slot_inj (hold.trans hroom) hroom he)
      rw [read_cell_write_cell hne hitem]
      exact h.cells i record (by simpa [List.getElem?_append, hold] using hi)
    · obtain ⟨hlen, -⟩ := List.getElem?_eq_some_iff.mp hi
      have hi' : i = records.length := by
        simp only [List.length_append, List.length_singleton] at hlen
        omega
      subst hi'
      have hrec : item = record := by simpa using hi
      subst hrec
      exact Memory.read_write hitem

theorem pop_empty (hp : q.Placed) (h : q.Represents mem []) :
    q.pop .succeed mem = (none, mem) := by
  have hc : mem.readWord q.countAt = 0 := h.count
  simp [pop, hp.valid, SemCalls.succeed, hc]

theorem pop_takes {record : List UInt8} (hp : q.Placed) (h : q.Represents mem (record :: records)) :
    q.pop .succeed mem = (some record,
      (mem.writeWord q.headAt ((mem.readWord q.headAt + 1) % q.capacity)).writeWord q.countAt
        records.length) := by
  have hcell := hp.cell_address h.head_lt
  have hrec : mem.read (q.cellAt (mem.readWord q.headAt)) q.elementSize = record := by
    have := h.cells 0 record (by simp)
    rwa [Fifo.slot_zero h.head_lt] at this
  have hc : mem.readWord q.countAt = records.length + 1 := h.count
  have hcount : ∀ v, (mem.writeWord q.headAt v).readWord q.countAt = records.length + 1 := fun v =>
    (readWord_writeWord_other (by unfold headAt countAt; omega)).trans hc
  simp only [pop, hp.valid, SemCalls.succeed, hc, h.capacity, h.elementSize, hcell, hrec, hcount,
    hp.next_index h.head_lt]
  simp

theorem pop_represents {record : List UInt8} (hp : q.Placed)
    (h : q.Represents mem (record :: records)) : q.Represents (q.pop .succeed mem).2 records := by
  rw [pop_takes hp h]
  have hlt := hp.capacity_lt
  have hbound : records.length + 1 ≤ q.capacity := h.bound
  have hnext : (mem.readWord q.headAt + 1) % q.capacity < q.capacity := Nat.mod_lt _ hp.capacity_pos
  have hhead : ((mem.writeWord q.headAt ((mem.readWord q.headAt + 1) % q.capacity)).writeWord
      q.countAt records.length).readWord q.headAt = (mem.readWord q.headAt + 1) % q.capacity := by
    unfold countAt
    rw [readWord_writeWord_other (by unfold headAt; omega), Memory.readWord_writeWord _ (by omega)]
  have hkept : ∀ a, q.headAt + 8 ≤ a → a + 8 ≤ q.countAt ∨ q.countAt + 8 ≤ a →
      ((mem.writeWord q.headAt ((mem.readWord q.headAt + 1) % q.capacity)).writeWord
        q.countAt records.length).readWord a = mem.readWord a := by
    intro a hbehind hapart
    rw [readWord_writeWord_other hapart, readWord_writeWord_other (.inr hbehind)]
  constructor
  · exact (hkept _ (by unfold headAt capacityAt; omega)
      (by unfold capacityAt countAt; omega)).trans h.capacity
  · exact (hkept _ (by unfold headAt elementSizeAt; omega)
      (by unfold elementSizeAt countAt; omega)).trans h.elementSize
  · exact Memory.readWord_writeWord _ (by omega)
  · omega
  · rw [hhead]
    exact hnext
  · rw [hhead, Fifo.slot_succ, hkept _ (by unfold headAt tailAt; omega)
      (by unfold tailAt countAt; omega), h.tail]
    rfl
  · intro i rest hi
    rw [hhead, Fifo.slot_succ, read_cell_writeWord (by unfold countAt dataAt sizeofQueueHeader; omega),
      read_cell_writeWord (by unfold headAt dataAt sizeofQueueHeader; omega)]
    exact h.cells (i + 1) rest (by simpa using hi)

theorem Represents.record_length (h : q.Represents mem records) {record : List UInt8}
    (hr : record ∈ records) : record.length = q.elementSize := by
  obtain ⟨i, hi⟩ := List.getElem?_of_mem hr
  rw [← h.cells i record hi, Memory.length_read]

theorem exec_refines (hp : q.Placed) (h : q.Represents mem records) (call : Call (List UInt8))
    (hitem : ∀ item, call = .push item → item.length = q.elementSize) :
    (q.exec mem call).1 = (Fifo.exec q.capacity records call).1 ∧
      q.Represents (q.exec mem call).2 (Fifo.exec q.capacity records call).2 := by
  cases call with
  | push item =>
    have hitem := hitem item rfl
    simp only [exec, Fifo.exec, Prod.map_fst, Prod.map_snd, id]
    by_cases hroom : records.length < q.capacity
    · rw [Fifo.push_of_lt hroom]
      refine ⟨?_, push_represents hp h hroom hitem⟩
      rw [push_stores hp h hroom hitem]
    · rw [Fifo.push_of_full (Nat.not_lt.mp hroom), push_full hp h (Nat.not_lt.mp hroom)]
      exact ⟨rfl, h⟩
  | pop =>
    simp only [exec, Fifo.exec, Prod.map_fst, Prod.map_snd, id]
    cases records with
    | nil =>
      rw [pop_empty hp h]
      exact ⟨rfl, h⟩
    | cons record records =>
      refine ⟨?_, pop_represents hp h⟩
      rw [pop_takes hp h]
      rfl

theorem execAll_refines (hp : q.Placed) (h : q.Represents mem records)
    (calls : List (Call (List UInt8)))
    (hitems : ∀ item, Call.push item ∈ calls → item.length = q.elementSize) :
    (q.execAll mem calls).1 = (Fifo.execAll q.capacity records calls).1 ∧
      q.Represents (q.execAll mem calls).2 (Fifo.execAll q.capacity records calls).2 := by
  induction calls generalizing mem records with
  | nil => exact ⟨rfl, h⟩
  | cons call calls ih =>
    obtain ⟨hanswer, hnext⟩ := exec_refines hp h call fun item hc => hitems item (by simp [hc])
    obtain ⟨hanswers, hlast⟩ := ih hnext fun item hc => hitems item (List.mem_cons_of_mem _ hc)
    exact ⟨List.cons_eq_cons.mpr ⟨hanswer, hanswers⟩, hlast⟩

variable (q mem records) in
/-- The whole interface at one moment, read as the list `records`. -/
structure FifoView : Prop where
  represents : q.Represents mem records
  bounded : records.length ≤ q.capacity
  recordSize : ∀ record ∈ records, record.length = q.elementSize
  head_lt : mem.readWord q.headAt < q.capacity
  tail_lt : mem.readWord q.tailAt < q.capacity
  tail_eq : mem.readWord q.tailAt =
    (mem.readWord q.headAt + mem.readWord q.countAt) % q.capacity
  size : q.size mem = records.length
  isEmpty : q.isEmpty mem = true ↔ records.length = 0
  isFull : q.isFull mem = true ↔ records.length = q.capacity
  push : ∀ item, item.length = q.elementSize →
    ((q.push .succeed mem item).1 = true ↔ records.length < q.capacity) ∧
    q.Represents (q.push .succeed mem item).2
      (if records.length < q.capacity then records ++ [item] else records)
  pop : (q.pop .succeed mem).1 = records.head? ∧
    q.Represents (q.pop .succeed mem).2 records.tail

theorem Represents.fifoView (hp : q.Placed) (h : q.Represents mem records) :
    q.FifoView mem records where
  represents := h
  bounded := h.bound
  recordSize := fun _ hr => h.record_length hr
  head_lt := h.head_lt
  tail_lt := h.tail_lt hp
  tail_eq := by rw [h.tail, h.count, Fifo.slot]
  size := by simp [SharedQueue.size, hp.valid, h.count]
  isEmpty := by simp [SharedQueue.isEmpty, hp.valid, h.count]
  isFull := by
    simp only [SharedQueue.isFull, hp.valid, h.count, h.capacity, Bool.true_and, decide_eq_true_eq]
    exact ⟨fun hle => Nat.le_antisymm h.bound hle, Nat.le_of_eq ∘ Eq.symm⟩
  push := by
    intro item hitem
    by_cases hroom : records.length < q.capacity
    · rw [if_pos hroom]
      refine ⟨?_, push_represents hp h hroom hitem⟩
      simp [push_stores hp h hroom hitem, hroom]
    · rw [if_neg hroom, push_full hp h (Nat.not_lt.mp hroom)]
      exact ⟨by simp [hroom], h⟩
  pop := by
    cases records with
    | nil =>
      rw [pop_empty hp h]
      exact ⟨rfl, h⟩
    | cons record records =>
      refine ⟨?_, pop_represents hp h⟩
      rw [pop_takes hp h, List.head?_cons]

end Operations

end SharedQueue

open Fifo (Call Answer)

/-- A queue constructed with `create`, after any calls: the answers were those
of the bounded FIFO, and the region stands for the list it holds. -/
theorem sharedQueue_refines_fifo (offset elementSize capacity : Nat) (hcapacity : 0 < capacity)
    (hsize : 0 < elementSize)
    (hfits : offset + sizeofQueueHeader + capacity * elementSize ≤ 2 ^ 64) (start : Memory)
    (calls : List (Call (List UInt8)))
    (hitems : ∀ item, Call.push item ∈ calls → item.length = elementSize) :
    let q : SharedQueue := ⟨offset, elementSize, capacity, true⟩
    let created := SharedQueue.new start true true offset elementSize capacity true
    created.1 = q ∧
    (q.execAll created.2 calls).1 = (Fifo.execAll capacity [] calls).1 ∧
    q.FifoView (q.execAll created.2 calls).2 (Fifo.execAll capacity [] calls).2 := by
  intro q created
  have hp : q.Placed := ⟨rfl, hcapacity, hsize, hfits⟩
  have hnew : created.1 = q := congrArg Prod.fst (SharedQueue.new_create hp start)
  obtain ⟨hanswers, h⟩ :=
    SharedQueue.execAll_refines hp (SharedQueue.create_represents hp start) calls hitems
  exact ⟨hnew, hanswers, h.fifoView hp⟩

/-- Three pushes into two cells and a pop: the third push is refused, the pop
returns the first record. -/
theorem sharedQueue_refines_fifo_two :
    ((⟨0, 1, 2, true⟩ : SharedQueue).execAll
      (SharedQueue.new (fun _ => 0) true true 0 1 2 true).2
      [.push [7], .push [8], .push [9], .pop]).1 =
    [.pushed true, .pushed true, .pushed false, .popped (some [7])] :=
  (sharedQueue_refines_fifo 0 1 2 (by decide) (by decide) (by decide) (fun _ => 0)
    [.push [7], .push [8], .push [9], .pop] (by simp)).2.1.trans (by decide)

end ParkingSystem
