import Mathlib.Data.Rat.Defs
import Mathlib.Algebra.Order.Ring.Cast
import Mathlib.Algebra.Order.Ring.Rat

/-!
# Doubles without rounding

The values of an IEEE 754 `double` with a finite value taken as an exact
rational and the two zeros identified. What the special values do is kept:
every comparison with a NaN is false, and a product of zero and an infinity is
a NaN. Finite products are exact: rounding, and the overflow of a finite
product to an infinity, are left out.
-/

inductive Double where
  | nan
  | negInf
  | finite (value : ℚ)
  | posInf
  deriving DecidableEq

namespace Double

instance : Zero Double := ⟨.finite 0⟩

def le : Double → Double → Bool
  | .nan, _ | _, .nan => false
  | .negInf, _ | _, .posInf => true
  | .finite a, .finite b => a ≤ b
  | .posInf, _ | _, .negInf => false

def lt : Double → Double → Bool
  | .nan, _ | _, .nan => false
  | .negInf, b => b ≠ .negInf
  | a, .posInf => a ≠ .posInf
  | .finite a, .finite b => a < b
  | .posInf, _ | _, .negInf => false

instance : LE Double := ⟨fun a b => a.le b = true⟩
instance : LT Double := ⟨fun a b => a.lt b = true⟩
instance (a b : Double) : Decidable (a ≤ b) := inferInstanceAs (Decidable (_ = true))
instance (a b : Double) : Decidable (a < b) := inferInstanceAs (Decidable (_ = true))

/-- An infinity times a factor of the given sign. -/
def infinite (sign : ℚ) : Double :=
  if sign = 0 then .nan else if 0 < sign then .posInf else .negInf

def mul : Double → Double → Double
  | .nan, _ | _, .nan => .nan
  | .finite a, .finite b => .finite (a * b)
  | .finite a, .posInf | .posInf, .finite a => infinite a
  | .finite a, .negInf | .negInf, .finite a => infinite (-a)
  | .posInf, .posInf | .negInf, .negInf => .posInf
  | .posInf, .negInf | .negInf, .posInf => .negInf

instance : Mul Double := ⟨mul⟩

/-- The value of the 64 bits of the interchange format: a sign, 11 bits of
exponent and 52 bits of fraction. -/
def ofBits (bits : Nat) : Double :=
  let sign : Int := if bits / 2 ^ 63 % 2 = 1 then -1 else 1
  let exponent : Nat := bits / 2 ^ 52 % 2 ^ 11
  let fraction : Nat := bits % 2 ^ 52
  if exponent = 2 ^ 11 - 1 then
    if fraction = 0 then infinite sign else .nan
  else if exponent = 0 then .finite (mkRat (sign * fraction) (2 ^ 1074))
  else .finite (mkRat (sign * ((2 ^ 52 + fraction) * 2 ^ exponent : Nat)) (2 ^ 1075))

example : ofBits 0x4030000000000000 = .finite 16 := by decide +kernel

def ofInt (value : Int) : Double := .finite value

theorem infinite_eq_nan {sign : ℚ} : infinite sign = .nan ↔ sign = 0 := by
  unfold infinite
  split
  · simp [*]
  · split <;> simp [*]

/-- For a price that is not negative, only a zero times an infinity is a NaN. -/
theorem ofInt_mul_eq_nan {value : Int} {x : Double} (hx : 0 ≤ x) :
    ofInt value * x = .nan ↔ x = .posInf ∧ value = 0 := by
  cases x with
  | nan => cases h : hx
  | negInf => cases h : hx
  | finite b => simp [HMul.hMul, Mul.mul, mul, ofInt]
  | posInf =>
    show infinite value = .nan ↔ _
    simp [infinite_eq_nan]

theorem not_ofInt_mul_lt_zero {value : Int} {x : Double} (hvalue : 0 ≤ value) (hx : 0 ≤ x) :
    ¬ ofInt value * x < 0 := by
  cases x with
  | nan => cases h : hx
  | negInf => cases h : hx
  | finite b =>
    have hb : 0 ≤ b := of_decide_eq_true hx
    have hprod : 0 ≤ (value : ℚ) * b := mul_nonneg (Int.cast_nonneg hvalue) hb
    intro h
    exact absurd (of_decide_eq_true h) (not_lt.mpr hprod)
  | posInf =>
    have hsign : ¬ (value : ℚ) < 0 := not_lt.mpr (Int.cast_nonneg hvalue)
    show ¬ infinite value < 0
    unfold infinite
    split
    · exact Bool.false_ne_true
    · split
      · exact Bool.false_ne_true
      · rename_i hzero hpos
        exact absurd (lt_of_le_of_ne (not_lt.mp hsign) (Ne.symm hzero)) hpos

-- ---------------------------------------------------------------------------
-- Closed intervals
-- ---------------------------------------------------------------------------

section Intervals

variable {a b c d x y : Double}

theorem finite_le_finite {p q : ℚ} : (.finite p : Double) ≤ .finite q ↔ p ≤ q :=
  decide_eq_true_iff

theorem ne_nan_of_le (h : a ≤ b) : a ≠ .nan ∧ b ≠ .nan := by
  constructor
  · rintro rfl
    cases h
  · rintro rfl
    cases a <;> cases h

theorem le_of_lt (h : a < b) : a ≤ b := by
  cases a with
  | nan => cases h
  | negInf =>
    cases b with
    | nan => cases h
    | _ => rfl
  | finite p =>
    cases b with
    | finite q => exact finite_le_finite.mpr (decide_eq_true_iff.mp h).le
    | posInf => rfl
    | _ => cases h
  | posInf => cases b <;> cases h

theorem le_total (ha : a ≠ .nan) (hb : b ≠ .nan) : a ≤ b ∨ b ≤ a := by
  cases a with
  | nan => exact absurd rfl ha
  | negInf =>
    left
    cases b with
    | nan => exact absurd rfl hb
    | _ => rfl
  | finite p =>
    cases b with
    | nan => exact absurd rfl hb
    | negInf => exact .inr rfl
    | finite q =>
      rcases Rat.le_total (a := p) (b := q) with hle | hle
      · exact .inl (finite_le_finite.mpr hle)
      · exact .inr (finite_le_finite.mpr hle)
    | posInf => exact .inl rfl
  | posInf =>
    right
    cases b with
    | nan => exact absurd rfl hb
    | _ => rfl

theorem le_trans (h : a ≤ b) (h' : b ≤ c) : a ≤ c := by
  cases b with
  | nan => cases h'
  | negInf =>
    cases a with
    | negInf => exact h'
    | _ => cases h
  | finite q =>
    cases a with
    | nan => cases h
    | posInf => cases h
    | negInf =>
      cases c with
      | nan => cases h'
      | _ => rfl
    | finite p =>
      cases c with
      | finite r =>
        exact finite_le_finite.mpr (Rat.le_trans (finite_le_finite.mp h) (finite_le_finite.mp h'))
      | posInf => rfl
      | _ => cases h'
  | posInf =>
    cases c with
    | posInf => exact h
    | _ => cases h'

/-- Two intervals have a point in common exactly when each begins before the other ends. -/
theorem exists_mem_iff (h : a < b) (h' : c < d) :
    (∃ x, (a ≤ x ∧ x ≤ b) ∧ c ≤ x ∧ x ≤ d) ↔ a ≤ d ∧ c ≤ b := by
  have hab := le_of_lt h
  have hcd := le_of_lt h'
  obtain ⟨ha, -⟩ := ne_nan_of_le hab
  obtain ⟨hc, -⟩ := ne_nan_of_le hcd
  constructor
  · rintro ⟨x, ⟨hax, hxb⟩, hcx, hxd⟩
    exact ⟨le_trans hax hxd, le_trans hcx hxb⟩
  · rintro ⟨had, hcb⟩
    -- the later of the two beginnings
    rcases le_total ha hc with hac | hca
    · have hself : c ≤ c := (le_total hc hc).elim id id
      exact ⟨c, ⟨hac, hcb⟩, hself, hcd⟩
    · have hself : a ≤ a := (le_total ha ha).elim id id
      exact ⟨a, ⟨hself, hab⟩, hca, had⟩

end Intervals

end Double
