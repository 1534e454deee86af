import Mathlib.Data.Nat.ModEq
import ParkingSystem.Lib.Memory

/-!
# Bounded first-in first-out queues

The abstract queue is a list, oldest record first. `slot` is the arithmetic of
a circular buffer that stores such a list from `head` on in an array of
`capacity` cells.
-/

namespace Fifo

variable {α : Type*}

inductive Call (α : Type*) where
  | push (item : α)
  | pop
  deriving DecidableEq

inductive Answer (α : Type*) where
  | pushed (stored : Bool)
  | popped (item : Option α)
  deriving DecidableEq

def push (capacity : Nat) (queue : List α) (item : α) : Bool × List α :=
  if queue.length < capacity then (true, queue ++ [item]) else (false, queue)

def pop : List α → Option α × List α
  | [] => (none, [])
  | item :: rest => (some item, rest)

def exec (capacity : Nat) (queue : List α) : Call α → Answer α × List α
  | .push item => ((push capacity queue item).map .pushed id)
  | .pop => ((pop queue).map .popped id)

/-- The answers to a sequence of calls, and the queue they leave. -/
def execAll (capacity : Nat) : List α → List (Call α) → List (Answer α) × List α
  | queue, [] => ([], queue)
  | queue, call :: calls =>
    let (answer, queue) := exec capacity queue call
    let (answers, queue) := execAll capacity queue calls
    (answer :: answers, queue)

variable {capacity : Nat} {queue : List α} {item : α}

theorem push_of_lt (h : queue.length < capacity) :
    push capacity queue item = (true, queue ++ [item]) := by
  simp [push, h]

theorem push_of_full (h : capacity ≤ queue.length) :
    push capacity queue item = (false, queue) := by
  simp [push, Nat.not_lt.mpr h]

theorem push_map {β : Type*} (f : α → β) :
    push capacity (queue.map f) (f item) =
      ((push capacity queue item).1, (push capacity queue item).2.map f) := by
  simp only [push, List.length_map]
  split <;> simp

theorem pop_map {β : Type*} (f : α → β) :
    pop (queue.map f) = ((pop queue).1.map f, (pop queue).2.map f) := by
  cases queue <;> rfl

-- ---------------------------------------------------------------------------
-- Circular buffers
-- ---------------------------------------------------------------------------

/-- The cell of the record `i` places behind the one in cell `head`. -/
def slot (capacity head i : Nat) : Nat := (head + i) % capacity

variable {head i j : Nat}

theorem slot_lt (h : 0 < capacity) : slot capacity head i < capacity :=
  Nat.mod_lt _ h

theorem slot_zero (h : head < capacity) : slot capacity head 0 = head :=
  Nat.mod_eq_of_lt h

theorem slot_succ : slot capacity ((head + 1) % capacity) i = slot capacity head (i + 1) := by
  rw [slot, slot, Nat.mod_add_mod]
  congr 1
  omega

theorem succ_slot : (slot capacity head i + 1) % capacity = slot capacity head (i + 1) := by
  rw [slot, slot, Nat.mod_add_mod, Nat.add_assoc]

theorem slot_inj (hi : i < capacity) (hj : j < capacity)
    (h : slot capacity head i = slot capacity head j) : i = j := by
  have hm : i ≡ j [MOD capacity] := Nat.ModEq.add_left_cancel' head h
  rwa [Nat.ModEq, Nat.mod_eq_of_lt hi, Nat.mod_eq_of_lt hj] at hm

/-- Different cells of an array of `size`-byte cells share no byte. -/
theorem cells_disjoint (base size : Nat) (h : i ≠ j) :
    Memory.Disjoint (base + i * size) size (base + j * size) size := by
  rcases Nat.lt_or_gt_of_ne h with h | h
  · have := Nat.mul_le_mul_right size h
    rw [Nat.succ_mul] at this
    left; omega
  · have := Nat.mul_le_mul_right size h
    rw [Nat.succ_mul] at this
    right; omega

end Fifo
