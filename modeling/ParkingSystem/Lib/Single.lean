import Mathlib.Data.Rat.Floor
import ParkingSystem.Lib.Double

/-!
# Single-precision numbers

A `float` is its 32 bits: a sign, 8 bits of exponent and 23 bits of fraction. Every
`float` is also a `double`, so a conversion to `double` rounds nothing: `ofBits_widen`
says so of the bits.
-/

namespace Single

/-- The bits of a decimal literal from 1 up, rounded to the nearest. -/
def literal (value : ℚ) : UInt32 :=
  let exponent := Nat.log2 ⌊value⌋.toNat
  let significand := ⌊value * 2 ^ 23 / 2 ^ exponent + 1 / 2⌋.toNat
  .ofNat ((exponent + 126) * 2 ^ 23 + significand)

def toDouble (bits : UInt32) : Double :=
  let sign : Int := if bits.toNat / 2 ^ 31 = 1 then -1 else 1
  let exponent : Nat := bits.toNat / 2 ^ 23 % 2 ^ 8
  let fraction : Nat := bits.toNat % 2 ^ 23
  if exponent = 2 ^ 8 - 1 then
    if fraction = 0 then Double.infinite sign else .nan
  else if exponent = 0 then .finite (mkRat (sign * fraction) (2 ^ 149))
  else .finite (mkRat (sign * ((2 ^ 23 + fraction) * 2 ^ exponent : Nat)) (2 ^ 150))

/-- The exponent and the fraction of `(double)x`: the exponent gets the bias of the wider
format, and a subnormal number becomes a normal one. -/
def widened (exponent fraction : Nat) : Nat × Nat :=
  if exponent = 2 ^ 8 - 1 then
    -- a NaN comes out quiet
    (2 ^ 11 - 1, if fraction = 0 then 0 else (2 ^ 22 + fraction % 2 ^ 22) * 2 ^ 29)
  else if exponent = 0 then
    if fraction = 0 then (0, 0)
    else (Nat.log2 fraction + 874,
      (fraction - 2 ^ Nat.log2 fraction) * 2 ^ (52 - Nat.log2 fraction))
  else (exponent + 896, fraction * 2 ^ 29)

/-- The bits of `(double)x`. -/
def widen (bits : UInt32) : UInt64 :=
  let wide := widened (bits.toNat / 2 ^ 23 % 2 ^ 8) (bits.toNat % 2 ^ 23)
  .ofNat (bits.toNat / 2 ^ 31 * 2 ^ 63 + (wide.1 * 2 ^ 52 + wide.2))

example : literal (51 / 4) = 0x414c0000 ∧ toDouble 0x414c0000 = .finite (51 / 4) := by
  decide +kernel

section Widen

theorem ofBits_fields {sign exponent fraction : Nat} (hsign : sign < 2) (hexponent : exponent < 2 ^ 11)
    (hfraction : fraction < 2 ^ 52) :
    Double.ofBits (sign * 2 ^ 63 + (exponent * 2 ^ 52 + fraction)) =
      if exponent = 2 ^ 11 - 1 then
        if fraction = 0 then Double.infinite ((if sign = 1 then -1 else 1 : Int) : ℚ) else .nan
      else if exponent = 0 then
        .finite (mkRat ((if sign = 1 then -1 else 1) * fraction) (2 ^ 1074))
      else .finite
        (mkRat ((if sign = 1 then -1 else 1) * ((2 ^ 52 + fraction) * 2 ^ exponent : Nat)) (2 ^ 1075)) := by
  have hs : (sign * 2 ^ 63 + (exponent * 2 ^ 52 + fraction)) / 2 ^ 63 % 2 = sign := by omega
  have he : (sign * 2 ^ 63 + (exponent * 2 ^ 52 + fraction)) / 2 ^ 52 % 2 ^ 11 = exponent := by omega
  have hf : (sign * 2 ^ 63 + (exponent * 2 ^ 52 + fraction)) % 2 ^ 52 = fraction := by omega
  simp only [Double.ofBits, hs, he, hf]

variable {exponent fraction : Nat}

theorem fraction_widened {k : Nat} (hlow : 2 ^ k ≤ fraction) (hhigh : fraction < 2 ^ (k + 1))
    (hk : k ≤ 52) : 2 ^ 52 + (fraction - 2 ^ k) * 2 ^ (52 - k) = fraction * 2 ^ (52 - k) ∧
      (fraction - 2 ^ k) * 2 ^ (52 - k) < 2 ^ 52 := by
  have hsplit : (2 : Nat) ^ 52 = 2 ^ k * 2 ^ (52 - k) := by
    rw [← pow_add]
    congr 1
    omega
  rw [Nat.sub_mul, hsplit]
  have hle : 2 ^ k * 2 ^ (52 - k) ≤ fraction * 2 ^ (52 - k) := Nat.mul_le_mul_right _ hlow
  have hlt : fraction * 2 ^ (52 - k) < 2 * (2 ^ k * 2 ^ (52 - k)) := by
    rw [← mul_assoc, ← pow_succ']
    exact Nat.mul_lt_mul_of_pos_right hhigh (Nat.two_pow_pos _)
  omega

theorem widened_lt (hexponent : exponent < 2 ^ 8) (hfraction : fraction < 2 ^ 23) :
    (widened exponent fraction).1 < 2 ^ 11 ∧ (widened exponent fraction).2 < 2 ^ 52 := by
  unfold widened
  split
  · constructor
    · simp
    · dsimp only
      split <;> omega
  · split
    · split
      · simp
      · rename_i hzero
        have hlog : Nat.log2 fraction < 23 := (Nat.log2_lt hzero).mpr hfraction
        have hk := fraction_widened (Nat.log2_self_le hzero) Nat.lt_log2_self (by omega)
        exact ⟨by dsimp only; omega, hk.2⟩
    · constructor <;> dsimp only <;> omega

theorem mkRat_shift (n : Int) {d k : Nat} : mkRat (n * (2 ^ k : Nat)) (2 ^ (d + k)) = mkRat n (2 ^ d) := by
  rw [pow_add]
  exact_mod_cast Rat.mkRat_mul_right (n := n) (d := 2 ^ d) (Nat.two_pow_pos k).ne'

theorem toNat_widen (bits : UInt32) : (widen bits).toNat = bits.toNat / 2 ^ 31 * 2 ^ 63 +
    ((widened (bits.toNat / 2 ^ 23 % 2 ^ 8) (bits.toNat % 2 ^ 23)).1 * 2 ^ 52 +
      (widened (bits.toNat / 2 ^ 23 % 2 ^ 8) (bits.toNat % 2 ^ 23)).2) := by
  have hbits : bits.toNat < 2 ^ 32 := bits.toNat_lt
  have hexponent : bits.toNat / 2 ^ 23 % 2 ^ 8 < 2 ^ 8 := Nat.mod_lt _ (by decide)
  have hfraction : bits.toNat % 2 ^ 23 < 2 ^ 23 := Nat.mod_lt _ (by decide)
  obtain ⟨he, hf⟩ := widened_lt hexponent hfraction
  unfold widen
  generalize widened _ _ = wide at he hf ⊢
  have hlt : bits.toNat / 2 ^ 31 * 2 ^ 63 + (wide.1 * 2 ^ 52 + wide.2) < 2 ^ 64 := by omega
  exact UInt64.toNat_ofNat_of_lt' hlt

/-- The value stays what it is. -/
theorem ofBits_widen (bits : UInt32) : Double.ofBits (widen bits).toNat = toDouble bits := by
  have hbits : bits.toNat < 2 ^ 32 := bits.toNat_lt
  have hsign : bits.toNat / 2 ^ 31 < 2 := by omega
  have hexponent : bits.toNat / 2 ^ 23 % 2 ^ 8 < 2 ^ 8 := Nat.mod_lt _ (by decide)
  have hfraction : bits.toNat % 2 ^ 23 < 2 ^ 23 := Nat.mod_lt _ (by decide)
  obtain ⟨he, hf⟩ := widened_lt hexponent hfraction
  rw [toNat_widen, ofBits_fields hsign he hf]
  simp only [toDouble]
  generalize bits.toNat / 2 ^ 31 = sign at *
  generalize bits.toNat / 2 ^ 23 % 2 ^ 8 = exponent at *
  generalize bits.toNat % 2 ^ 23 = fraction at *
  generalize (if sign = 1 then (-1 : Int) else 1) = factor
  by_cases htop : exponent = 2 ^ 8 - 1
  · -- infinities and NaNs
    by_cases hzero : fraction = 0
    · simp [widened, htop, hzero]
    · simp [widened, htop, hzero]
  by_cases hsub : exponent = 0
  · by_cases hzero : fraction = 0
    · have hwide : widened exponent fraction = (0, 0) := by
        rw [widened, if_neg htop, if_pos hsub, if_pos hzero]
      rw [hwide, if_neg (by decide), if_pos rfl, if_neg htop, if_pos hsub, hzero, Nat.cast_zero,
        mul_zero, Rat.zero_mkRat, Rat.zero_mkRat]
    · -- subnormal: the leading one moves to the front
      have hlog : Nat.log2 fraction < 23 := (Nat.log2_lt hzero).mpr hfraction
      have hk := (fraction_widened (Nat.log2_self_le hzero) Nat.lt_log2_self (by omega)).1
      have hpow : 2 ^ (52 - Nat.log2 fraction) * 2 ^ (Nat.log2 fraction + 874) = 2 ^ 926 := by
        have hexp : 52 - Nat.log2 fraction + (Nat.log2 fraction + 874) = 926 := by omega
        rw [← pow_add, hexp]
      have hwide : widened exponent fraction = (Nat.log2 fraction + 874,
          (fraction - 2 ^ Nat.log2 fraction) * 2 ^ (52 - Nat.log2 fraction)) := by
        rw [widened, if_neg htop, if_pos hsub, if_neg hzero]
      have hmid : ¬ Nat.log2 fraction + 874 = 2 ^ 11 - 1 := by omega
      have hpos : ¬ Nat.log2 fraction + 874 = 0 := by omega
      rw [hwide, if_neg hmid, if_neg hpos, if_neg htop, if_pos hsub, hk, mul_assoc,
        hpow, Nat.cast_mul, ← mul_assoc]
      exact congrArg Double.finite (mkRat_shift _ (d := 149))
  · have hwide : widened exponent fraction = (exponent + 896, fraction * 2 ^ 29) := by
      rw [widened, if_neg htop, if_neg hsub]
    have hmid : ¬ exponent + 896 = 2 ^ 11 - 1 := by omega
    have hpow : (2 ^ 52 + fraction * 2 ^ 29) * 2 ^ (exponent + 896) =
        ((2 ^ 23 + fraction) * 2 ^ exponent) * 2 ^ 925 := by
      have hlead : 2 ^ 52 + fraction * 2 ^ 29 = (2 ^ 23 + fraction) * 2 ^ 29 := by omega
      have hexp : 29 + (exponent + 896) = exponent + 925 := by omega
      rw [hlead, mul_assoc, mul_assoc, ← pow_add, ← pow_add, hexp]
    have hpos : ¬ exponent + 896 = 0 := by omega
    rw [hwide, if_neg hmid, if_neg hpos, if_neg htop, if_neg hsub, hpow,
      Nat.cast_mul, ← mul_assoc]
    exact congrArg Double.finite (mkRat_shift _ (d := 150))

end Widen

end Single
