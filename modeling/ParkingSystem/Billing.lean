import Mathlib.Data.Rat.Floor
import ParkingSystem.RequestProcessing
import ParkingSystem.StoreInvariant

/-!
# Billed minutes

The two times of a bill come unchecked from the client's messages:
`sqlite_database_start_parking` tests that the first is positive,
`sqlite_database_stop_parking` that the second is positive and not before the
first. `billed_exactly_iff` says for which of them the `int64_t` arithmetic of the
bill is that of the integers: the duration must leave room for the 59 that is
added to round it up.
-/

namespace ParkingSystem

/-- What the two functions test before a session is billed. -/
structure Admitted (startTime endTime : Int64) : Prop where
  start : 0 < startTime
  stop : 0 < endTime
  order : startTime ≤ endTime

def FitsInt64 (value : Int) : Prop := -2 ^ 63 ≤ value ∧ value < 2 ^ 63

/-- Every started minute is charged, and the signed arithmetic does not overflow. -/
structure BilledExactly (startTime endTime : Int64) : Prop where
  seconds : FitsInt64 (endTime.toInt - startTime.toInt)
  rounded : FitsInt64 (endTime.toInt - startTime.toInt + 59)
  /-- `parking_duration` of the response. -/
  duration : (endTime - startTime).toInt = endTime.toInt - startTime.toInt
  minutes : (durationMinutes startTime endTime).toInt =
    ⌈((endTime.toInt - startTime.toInt : ℤ) : ℚ) / 60⌉
  minutes_nonneg : 0 ≤ (durationMinutes startTime endTime).toInt
  cost_nonneg : ∀ price, 0 ≤ price → ¬ calculatedCost startTime endTime price < 0

-- ---------------------------------------------------------------------------
-- Charging
-- ---------------------------------------------------------------------------

theorem ceil_minutes (seconds : Int) : ⌈(seconds : ℚ) / 60⌉ = (seconds + 59) / 60 := by
  have h := Rat.ceil_intCast_div_natCast seconds 60
  rw [Nat.cast_ofNat] at h
  rw [h]
  omega

theorem calculatedCost_eq {startTime endTime : Int64} {price : Double} (hs : 0 < startTime)
    (h : startTime ≤ endTime) (hfits : endTime.toInt - startTime.toInt + 59 < 2 ^ 63) :
    calculatedCost startTime endTime price =
      .ofInt ⌈((endTime.toInt - startTime.toInt : ℤ) : ℚ) / 60⌉ * price := by
  rw [calculatedCost, durationMinutes_toInt hs h hfits, ceil_minutes]

-- ---------------------------------------------------------------------------
-- What is admitted
-- ---------------------------------------------------------------------------

theorem admitted_of_stop {db : Sqlite} {s s' : Store} {vehicle : Option Text}
    {startTime endTime : Int64} {cost : Double} (hw : s.WellFormed)
    (h : stopParking db s vehicle endTime = (s', some (startTime, cost))) :
    Admitted startTime endTime ∧
      ∃ price, 0 ≤ price ∧ cost = calculatedCost startTime endTime price := by
  rcases stopParking_cases h with ⟨hnone, -⟩ | ⟨v, row, -, hend, -, -, hrow, horder, hout, -⟩
  · cases hnone
  · cases hout
    obtain ⟨hmem, -⟩ := Store.selectActive_eq_some hrow
    have hrow := hw.sessions row hmem
    exact ⟨⟨hrow.start, hend, horder⟩, row.pricePerMinute, hrow.price, rfl⟩

/-- A client bills any pair of times that the functions admit: in the tables of
`sqlite_database_initialize` a START at the one and an END at the other succeed. -/
theorem stop_of_admitted {startTime endTime : Int64} (h : Admitted startTime endTime)
    (v : Text) :
    let parked := (startParking ⟨.succeed, 1⟩ Store.initial (some v) (.finite 35) (.finite 35) 3
      startTime).1
    (stopParking ⟨.succeed, 1⟩ parked (some v) endTime).2 =
      some (startTime, calculatedCost startTime endTime (.finite (3 / 5))) := by
  have hstart : ¬ startTime ≤ 0 := Int64.not_le.mpr h.start
  have hstop : ¬ endTime ≤ 0 := Int64.not_le.mpr h.stop
  have horder : ¬ endTime < startTime := Int64.not_lt.mpr h.order
  have hruns : ∀ statement n, Outcomes.succeed.runs statement n = true := by
    intro statement n
    simp [Outcomes.succeed, Outcomes.runs]
  simp [startParking, stopParking, hstart, hstop, horder, hruns, Store.initial,
    Store.selectActiveId, Store.selectPrice, Store.insertSession, Store.selectActive, bindDouble,
    Session.isActive]

-- ---------------------------------------------------------------------------
-- Exactness
-- ---------------------------------------------------------------------------

theorem billed_exactly_iff (startTime endTime : Int64) (h : Admitted startTime endTime) :
    BilledExactly startTime endTime ↔ endTime.toInt - startTime.toInt ≤ 2 ^ 63 - 60 := by
  constructor
  · intro hexact
    have := hexact.rounded.2
    omega
  · intro hfits
    have hs := toInt_pos h.start
    have hle := Int64.le_iff_toInt_le.mp h.order
    have hminutes := durationMinutes_toInt h.start h.order (by omega)
    have hnonneg : 0 ≤ (durationMinutes startTime endTime).toInt := by omega
    refine ⟨⟨by omega, by omega⟩, ⟨by omega, by omega⟩, durationSeconds_toInt h.start h.order, ?_,
      hnonneg, fun price hprice => Double.not_ofInt_mul_lt_zero hnonneg hprice⟩
    rw [hminutes, ceil_minutes]

theorem billed_exactly_iff_hour : BilledExactly 1000 4600 :=
  (billed_exactly_iff 1000 4600 ⟨by decide, by decide, by decide⟩).mpr (by decide)

theorem not_always_billed_exactly :
    ¬ ∀ startTime endTime : Int64, Admitted startTime endTime → BilledExactly startTime endTime := by
  intro h
  have hexact := h 1 Int64.maxValue ⟨by decide, by decide, by decide⟩
  have hneg : (durationMinutes 1 Int64.maxValue).toInt < 0 := by decide
  exact absurd hexact.minutes_nonneg (not_le.mpr hneg)

end ParkingSystem
