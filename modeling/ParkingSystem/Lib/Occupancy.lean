import Mathlib.Data.Finset.Erase
import Mathlib.Data.List.Induction
import Mathlib.Data.Nat.Periodic

/-!
# Who is inside

A place that its visitors enter and leave. A visit fits if it enters from outside or
leaves from inside; whether it fits depends on nothing but the last visit of the same
visitor.
-/

/-- Somebody enters or leaves. -/
structure Visit (α : Type*) where
  enters : Bool
  who : α
  deriving DecidableEq

namespace Occupancy

variable {α : Type*} [DecidableEq α]

def after (inside : Finset α) (v : Visit α) : Finset α :=
  if v.enters then insert v.who inside else inside.erase v.who

def fits (inside : Finset α) (v : Visit α) : Bool := decide (v.who ∈ inside) != v.enters

def afterAll (inside : Finset α) (visits : List (Visit α)) : Finset α := visits.foldl after inside

def verdicts (inside : Finset α) : List (Visit α) → List Bool
  | [] => []
  | v :: visits => fits inside v :: verdicts (after inside v) visits

section

variable {inside : Finset α} {v : Visit α} {visits : List (Visit α)} {a : α}

theorem mem_after : a ∈ after inside v ↔ if v.who = a then v.enters = true else a ∈ inside := by
  unfold after
  by_cases hwho : v.who = a
  · subst hwho
    cases henters : v.enters <;> simp
  · cases henters : v.enters <;> simp [hwho, Ne.symm hwho]

theorem fits_iff : fits inside v = true ↔ (v.who ∈ inside ↔ v.enters = false) := by
  unfold fits
  cases v.enters <;> simp

theorem after_eq_self (h : fits inside v = false) : after inside v = inside := by
  unfold fits at h
  unfold after
  cases henters : v.enters with
  | false =>
    rw [henters] at h
    simpa using h
  | true =>
    rw [henters] at h
    simpa using h

@[simp] theorem afterAll_concat : afterAll inside (visits ++ [v]) = after (afterAll inside visits) v := by
  simp [afterAll]

theorem verdicts_append (more : List (Visit α)) : verdicts inside (visits ++ more) =
    verdicts inside visits ++ verdicts (afterAll inside visits) more := by
  induction visits generalizing inside with
  | nil => rfl
  | cons v visits ih => simp only [List.cons_append, verdicts, ih, afterAll, List.foldl_cons]

@[simp] theorem length_verdicts : (verdicts inside visits).length = visits.length := by
  induction visits generalizing inside with
  | nil => rfl
  | cons v visits ih => simp [verdicts, ih]

theorem getElem_verdicts {k : Nat} (hk : k < visits.length) :
    (verdicts inside visits)[k]? = some (fits (afterAll inside (visits.take k)) visits[k]) := by
  have hsplit : visits = visits.take k ++ visits[k] :: visits.drop (k + 1) := by
    rw [← List.drop_eq_getElem_cons hk, List.take_append_drop]
  conv_lhs => rw [hsplit]
  rw [verdicts_append, List.getElem?_append_right (by simp), length_verdicts,
    List.length_take_of_le hk.le, Nat.sub_self]
  rfl

/-- Only the last visit of each counts. -/
theorem mem_afterAll : a ∈ afterAll inside visits ↔
    match visits.reverse.find? (·.who = a) with
    | some v => v.enters = true
    | none => a ∈ inside := by
  induction visits using List.reverseRecOn with
  | nil => rfl
  | append_singleton visits v ih =>
    rw [afterAll_concat, mem_after, List.reverse_append, List.reverse_singleton,
      List.singleton_append, List.find?_cons]
    by_cases hwho : v.who = a
    · simp [hwho]
    · simp [hwho, ih]

end

-- ---------------------------------------------------------------------------
-- Cycles
-- ---------------------------------------------------------------------------

section Cycles

/-- The first `n` visits of an endless list. -/
def first {β : Type*} (f : Nat → β) (n : Nat) : List β := (List.range n).map f

theorem first_succ {β : Type*} (f : Nat → β) (n : Nat) : first f (n + 1) = first f n ++ [f n] := by
  simp [first, List.range_succ]

theorem take_first {β : Type*} (f : Nat → β) {k n : Nat} (h : k ≤ n) : (first f n).take k = first f k := by
  rw [first, ← List.map_take, List.take_range, Nat.min_eq_left h, first]

variable {f : Nat → Visit α} {period : Nat}

/-- Visits that repeat and leave nobody inside do so forever. -/
theorem afterAll_first_mod (hperiod : 0 < period) (hcycle : Function.Periodic f period)
    (hback : afterAll ∅ (first f period) = ∅) (n : Nat) :
    afterAll ∅ (first f n) = afterAll ∅ (first f (n % period)) := by
  induction n with
  | zero => simp
  | succ n ih =>
    have hnext : afterAll ∅ (first f (n + 1)) = afterAll ∅ (first f (n % period + 1)) := by
      rw [first_succ, afterAll_concat, ih, ← hcycle.map_mod_nat n, ← afterAll_concat, ← first_succ]
    rw [hnext, ← Nat.mod_add_mod]
    by_cases hwrap : n % period + 1 = period
    · rw [hwrap, hback, Nat.mod_self]
      rfl
    · have hlt : n % period + 1 < period :=
        Nat.lt_of_le_of_ne (Nat.mod_lt _ hperiod) hwrap
      rw [Nat.mod_eq_of_lt hlt]

theorem fits_first (hperiod : 0 < period) (hcycle : Function.Periodic f period)
    (hback : afterAll ∅ (first f period) = ∅)
    (hfits : ∀ k < period, fits (afterAll ∅ (first f k)) (f k) = true) (n : Nat) :
    fits (afterAll ∅ (first f n)) (f n) = true := by
  rw [afterAll_first_mod hperiod hcycle hback, ← hcycle.map_mod_nat n]
  exact hfits _ (Nat.mod_lt _ hperiod)

end Cycles

end Occupancy
