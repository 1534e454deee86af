import Mathlib.Data.Finset.Basic
import Mathlib.Logic.Function.Basic

/-!
# Semaphores, mutexes and condition variables

The POSIX operations as steps on what they synchronize with: a named binary
semaphore that processes may die with (`Exclusive`, `Lost`), and a mutex with one
condition variable (`Monitor`). A step that has to wait is not enabled.
-/

namespace Sync

-- ---------------------------------------------------------------------------
-- Binary semaphores
-- ---------------------------------------------------------------------------

section Semaphore

variable {π : Type*}

/-- A semaphore created with the value 1 (`none` before that) and the processes
between its wait and its post: at most one, and it has the unit. -/
inductive Exclusive (value : Option Nat) (inside : π → Bool) : Prop
  | absent (value : value = none) (outside : ∀ p, inside p = false)
  | free (value : value = some 1) (outside : ∀ p, inside p = false)
  | held (p : π) (value : value = some 0) (alone : ∀ p', inside p' = true ↔ p' = p)

/-- The process inside is gone, and with it the unit. -/
structure Lost (value : Option Nat) (inside : π → Bool) : Prop where
  value : value = some 0
  outside : ∀ p, inside p = false

variable {value : Option Nat} {v : Nat} {inside : π → Bool} {p : π}

/-- `sem_open` with O_CREAT leaves the value of a semaphore that exists. -/
theorem Exclusive.openCreate (h : Exclusive value inside) :
    Exclusive (some (value.getD 1)) inside := by
  cases h with
  | absent value outside => exact .free (by rw [value]; rfl) outside
  | free value outside => exact .free (by rw [value]; rfl) outside
  | held p value alone => exact .held p (by rw [value]; rfl) alone

theorem Lost.openCreate (h : Lost value inside) : Lost (some (value.getD 1)) inside :=
  ⟨by rw [h.value]; rfl, h.outside⟩

theorem Lost.not_free (h : Lost (some v) inside) : ¬ 0 < v := by
  have hv := Option.some.inj h.value
  omega

variable [DecidableEq π]

theorem outside_update (alone : ∀ p', inside p' = true ↔ p' = p) (p' : π) :
    Function.update inside p false p' = false := by
  by_cases hp : p' = p
  · simp [hp]
  · rw [Function.update_of_ne hp]
    exact Bool.eq_false_iff.mpr fun h => hp ((alone p').mp h)

namespace Exclusive

theorem wait (h : Exclusive (some v) inside) (hfree : 0 < v) :
    Exclusive (some (v - 1)) (Function.update inside p true) := by
  cases h with
  | absent value => cases value
  | free value outside =>
    cases value
    refine .held p rfl fun p' => ?_
    by_cases hp : p' = p
    · simp [hp]
    · simp [outside, hp]
  | held _ value =>
    cases value
    exact absurd hfree (Nat.lt_irrefl 0)

theorem post (h : Exclusive (some v) inside) (hinside : inside p = true) :
    Exclusive (some (v + 1)) (Function.update inside p false) := by
  cases h with
  | absent value => cases value
  | free _ outside => simp [outside p] at hinside
  | held holder value alone =>
    cases value
    cases (alone p).mp hinside
    exact .free rfl (outside_update alone)

theorem lose (h : Exclusive value inside) (hinside : inside p = true) :
    Lost value (Function.update inside p false) := by
  cases h with
  | absent _ outside => simp [outside p] at hinside
  | free _ outside => simp [outside p] at hinside
  | held holder value alone =>
    cases (alone p).mp hinside
    exact ⟨value, outside_update alone⟩

end Exclusive

end Semaphore

-- ---------------------------------------------------------------------------
-- A mutex with a condition variable
-- ---------------------------------------------------------------------------

/-- Who holds the mutex, and who is parked in `pthread_cond_wait`. -/
structure Monitor (τ : Type*) where
  owner : Option τ
  parked : Finset τ

namespace Monitor

variable {τ : Type*}

def free : Monitor τ := ⟨none, ∅⟩

def broadcast (m : Monitor τ) : Monitor τ := { m with parked := ∅ }

variable (m : Monitor τ) (t : τ)

def lock : Option (Monitor τ) :=
  if m.owner = none then some { m with owner := some t } else none

theorem lock_eq_some {m m' : Monitor τ} {t : τ} :
    m.lock t = some m' ↔ m.owner = none ∧ m' = { m with owner := some t } := by
  simp [lock, eq_comm]

variable [DecidableEq τ]

def unlock : Option (Monitor τ) :=
  if m.owner = some t then some { m with owner := none } else none

/-- `pthread_cond_wait` up to where the thread is parked: it gives up the mutex in
the same step. -/
def park : Option (Monitor τ) :=
  if m.owner = some t then some ⟨none, insert t m.parked⟩ else none

/-- `pthread_cond_wait` from its wake-up to its return. -/
def resume : Option (Monitor τ) := if t ∈ m.parked then none else m.lock t

/-- `t` is one of the parked threads, if there are any. When more than one is
woken, the others are woken spuriously. -/
def signal : Option (Monitor τ) :=
  if m.parked = ∅ then some m
  else if t ∈ m.parked then some { m with parked := m.parked.erase t }
  else none

def wake : Option (Monitor τ) :=
  if t ∈ m.parked then some { m with parked := m.parked.erase t } else none

variable {m t} {m' : Monitor τ}

theorem unlock_eq_some :
    m.unlock t = some m' ↔ m.owner = some t ∧ m' = { m with owner := none } := by
  simp [unlock, eq_comm]

theorem park_eq_some :
    m.park t = some m' ↔ m.owner = some t ∧ m' = ⟨none, insert t m.parked⟩ := by
  simp [park, eq_comm]

theorem resume_eq_some : m.resume t = some m' ↔
    t ∉ m.parked ∧ m.owner = none ∧ m' = { m with owner := some t } := by
  simp [resume, lock_eq_some]

theorem wake_eq_some :
    m.wake t = some m' ↔ t ∈ m.parked ∧ m' = { m with parked := m.parked.erase t } := by
  simp [wake, eq_comm]

theorem signal_parked (h : m.signal t = some m') : m'.parked ⊆ m.parked := by
  unfold signal at h
  split at h
  · cases h
    exact Finset.Subset.refl _
  split at h
  · cases h
    exact Finset.erase_subset _ _
  · cases h

/-- A signal wakes the only thread that ever waits. -/
theorem signal_eq_some (honly : ∀ x ∈ m.parked, x = t) :
    m.signal t = some m' ↔ m' = m.broadcast := by
  unfold signal
  split
  · rename_i hnone
    rw [broadcast, ← hnone, Option.some.injEq, eq_comm]
  · rename_i hsome
    obtain ⟨x, hx⟩ := Finset.nonempty_iff_ne_empty.mpr hsome
    have ht : t ∈ m.parked := honly x hx ▸ hx
    have herase : m.parked.erase t = ∅ := by
      refine Finset.eq_empty_of_forall_notMem fun y hy => ?_
      obtain ⟨hne, hy⟩ := Finset.mem_erase.mp hy
      exact hne (honly y hy)
    rw [if_pos ht, herase, Option.some.injEq, eq_comm, broadcast]

/-- Exactly the holder of the mutex is at a place where it holds it. -/
def Owned (m : Monitor τ) (holds : τ → Bool) : Prop := ∀ t, holds t = true ↔ m.owner = some t

variable {holds : τ → Bool}

namespace Owned

theorem acquire (h : Owned m holds) (hfree : m.owner = none) (parked : Finset τ) :
    Owned ⟨some t, parked⟩ (Function.update holds t true) := by
  intro x
  by_cases hx : x = t
  · simp [hx]
  · have hout : holds x ≠ true := by simp [h x, hfree]
    simp [Function.update_of_ne hx, hout, Ne.symm hx]

theorem release (h : Owned m holds) (ht : m.owner = some t) (parked : Finset τ) :
    Owned ⟨none, parked⟩ (Function.update holds t false) := by
  intro x
  by_cases hx : x = t
  · simp [hx]
  · have hout : holds x ≠ true := by simp [h x, ht, Ne.symm hx]
    simp [Function.update_of_ne hx, hout]

theorem move {b : Bool} (h : Owned m holds) (hb : b = holds t) :
    Owned m (Function.update holds t b) := by
  rwa [hb, Function.update_eq_self]

end Owned

end Monitor

end Sync
