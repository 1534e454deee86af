import Mathlib.Tactic.Ring
import Mathlib.Data.List.Basic

/-!
# Byte-addressed memory

Blocks of bytes and 64-bit little-endian words over a flat address space. A
block write changes the bytes of its own range and no others, so reads are
rewritten either by `read_write` (the same block) or by `read_write_of_disjoint`.
-/

abbrev Memory := Nat → UInt8

namespace Memory

def read (m : Memory) (address length : Nat) : List UInt8 :=
  (List.range length).map fun i => m (address + i)

def write (m : Memory) (address : Nat) (bytes : List UInt8) : Memory := fun a =>
  if address ≤ a ∧ a < address + bytes.length then bytes.getD (a - address) 0 else m a

/-- Two address ranges `[a, a + n)` and `[b, b + k)` without a common byte. -/
def Disjoint (a n b k : Nat) : Prop := a + n ≤ b ∨ b + k ≤ a

variable {m : Memory} {a b n : Nat} {bytes : List UInt8}

@[simp] theorem length_read : (m.read a n).length = n := by
  simp [read]

theorem write_apply_of_not_mem (h : ¬ (b ≤ a ∧ a < b + bytes.length)) :
    m.write b bytes a = m a := by
  simp [write, h]

theorem read_congr {m' : Memory} (h : ∀ i < n, m (a + i) = m' (a + i)) :
    m.read a n = m'.read a n := by
  simpa [read] using h

theorem read_write_of_disjoint (h : Disjoint a n b bytes.length) :
    (m.write b bytes).read a n = m.read a n := by
  refine read_congr fun i hi => write_apply_of_not_mem ?_
  unfold Disjoint at h
  omega

theorem read_write (h : bytes.length = n) : (m.write a bytes).read a n = bytes := by
  subst h
  refine List.ext_getElem (by simp) fun i hi _ => ?_
  have hi : i < bytes.length := by simpa using hi
  simp [read, write, hi]

-- ---------------------------------------------------------------------------
-- Words
-- ---------------------------------------------------------------------------

def encode : Nat → Nat → List UInt8
  | 0, _ => []
  | k + 1, value => UInt8.ofNat value :: encode k (value / 256)

def decode : List UInt8 → Nat
  | [] => 0
  | b :: rest => b.toNat + 256 * decode rest

@[simp] theorem length_encode (k value : Nat) : (encode k value).length = k := by
  induction k generalizing value with
  | zero => rfl
  | succ k ih => simp [encode, ih]

theorem decode_encode (k value : Nat) : decode (encode k value) = value % 256 ^ k := by
  induction k generalizing value with
  | zero => simp [encode, decode, Nat.mod_one]
  | succ k ih =>
    have hbyte : (UInt8.ofNat value).toNat = value % 256 := by simp
    rw [encode, decode, ih, hbyte, pow_succ', Nat.mod_mul]

def readWord (m : Memory) (address : Nat) : Nat := decode (m.read address 8)

/-- Storing keeps the low 64 bits of the value. -/
def writeWord (m : Memory) (address value : Nat) : Memory := m.write address (encode 8 value)

theorem readWord_writeWord (value : Nat) (h : value < 2 ^ 64) :
    (m.writeWord a value).readWord a = value := by
  have h8 : (256 : Nat) ^ 8 = 2 ^ 64 := by norm_num
  rw [readWord, writeWord, read_write (length_encode 8 value), decode_encode, h8]
  exact Nat.mod_eq_of_lt h

theorem readWord_writeWord_of_disjoint (value : Nat) (h : Disjoint a 8 b 8) :
    (m.writeWord b value).readWord a = m.readWord a := by
  rw [readWord, writeWord, read_write_of_disjoint (by simpa using h), readWord]

theorem readWord_write_of_disjoint (h : Disjoint a 8 b bytes.length) :
    (m.write b bytes).readWord a = m.readWord a := by
  rw [readWord, read_write_of_disjoint h, readWord]

theorem read_writeWord_of_disjoint (value : Nat) (h : Disjoint a n b 8) :
    (m.writeWord b value).read a n = m.read a n :=
  read_write_of_disjoint (by simpa using h)

-- ---------------------------------------------------------------------------
-- Footprints
-- ---------------------------------------------------------------------------

/-- The `length` bytes from `start` on. -/
structure Range where
  start : Nat
  length : Nat
  deriving DecidableEq

def word (address : Nat) : Range := ⟨address, 8⟩

def Range.Contains (r r' : Range) : Prop :=
  r.start ≤ r'.start ∧ r'.start + r'.length ≤ r.start + r.length

def Covers (ranges : List Range) (a : Nat) : Prop :=
  ∃ r ∈ ranges, r.start ≤ a ∧ a < r.start + r.length

def AgreeOn (ranges : List Range) (m m' : Memory) : Prop := ∀ a, Covers ranges a → m a = m' a

/-- Nothing but the ranges has changed. -/
def ChangesWithin (ranges : List Range) (m m' : Memory) : Prop :=
  ∀ a, ¬ Covers ranges a → m' a = m a

section Footprint

variable {ranges : List Range} {m m' m'' : Memory}

theorem AgreeOn.read (h : AgreeOn ranges m m') (hr : ⟨a, n⟩ ∈ ranges) :
    m.read a n = m'.read a n :=
  read_congr fun i hi => h (a + i) ⟨_, hr, by simp, by simpa using hi⟩

theorem AgreeOn.readWord (h : AgreeOn ranges m m') (hr : word a ∈ ranges) :
    m.readWord a = m'.readWord a := by
  rw [Memory.readWord, Memory.readWord, h.read hr]

theorem AgreeOn.read_within {r : Range} (h : AgreeOn [r] m m') (hr : r.Contains ⟨a, n⟩) :
    m.read a n = m'.read a n := by
  refine read_congr fun i hi => h (a + i) ⟨r, List.mem_singleton_self r, ?_⟩
  obtain ⟨hlow, hhigh⟩ := hr
  exact ⟨Nat.le_add_right_of_le hlow, Nat.lt_of_lt_of_le (Nat.add_lt_add_left hi a) hhigh⟩

theorem AgreeOn.readWord_within {r : Range} (h : AgreeOn [r] m m') (hr : r.Contains (word a)) :
    m.readWord a = m'.readWord a := by
  rw [Memory.readWord, Memory.readWord, h.read_within hr]

theorem ChangesWithin.agreeOn {r : Range} (h : ChangesWithin ranges m m')
    (hr : ∀ r' ∈ ranges, Disjoint r.start r.length r'.start r'.length) : AgreeOn [r] m' m := by
  rintro a ⟨_, hmem, hlow, hhigh⟩
  obtain rfl := List.mem_singleton.mp hmem
  refine h a ?_
  rintro ⟨r', hr', hlow', hhigh'⟩
  have hapart := hr r' hr'
  unfold Disjoint at hapart
  omega

theorem AgreeOn.write (h : AgreeOn ranges m m') (a : Nat) (bytes : List UInt8) :
    AgreeOn ranges (m.write a bytes) (m'.write a bytes) := by
  intro x hx
  simp only [Memory.write, h x hx]

theorem AgreeOn.writeWord (h : AgreeOn ranges m m') (a value : Nat) :
    AgreeOn ranges (m.writeWord a value) (m'.writeWord a value) :=
  h.write a _

theorem ChangesWithin.refl : ChangesWithin ranges m m := fun _ _ => rfl

theorem ChangesWithin.trans (h : ChangesWithin ranges m m') (h' : ChangesWithin ranges m' m'') :
    ChangesWithin ranges m m'' :=
  fun a ha => (h' a ha).trans (h a ha)

theorem ChangesWithin.write (h : ChangesWithin ranges m m') (hr : ⟨a, n⟩ ∈ ranges)
    (hlength : bytes.length ≤ n) : ChangesWithin ranges m (m'.write a bytes) := by
  refine h.trans fun x hx => write_apply_of_not_mem fun hmem => hx ⟨_, hr, hmem.1, ?_⟩
  exact Nat.lt_of_lt_of_le hmem.2 (Nat.add_le_add_left hlength a)

theorem ChangesWithin.writeWord (h : ChangesWithin ranges m m') (hr : word a ∈ ranges)
    (value : Nat) : ChangesWithin ranges m (m'.writeWord a value) :=
  h.write hr (length_encode 8 value).le

end Footprint

end Memory
