import ParkingSystem.Store

/-!
# The SQLiteDatabase library

The functions of `sqlite_database.c`, on an open connection and with out
parameters returned as values. The statements are those of `Store`; each
`sqlite3_*` call may fail (a busy or full database, no memory), which
`Outcomes` says call by call. A call that fails leaves the tables as they were.

A `const char *` argument is an `Option`, `none` being the null pointer.
-/

namespace ParkingSystem

inductive Statement where
  | addCity
  | updateCityPrice
  | deleteCity
  | findCity
  | activeSession
  | selectPrice
  | insertSession
  | selectSession
  | updateSession
  deriving DecidableEq

inductive SqliteCall where
  | prepare
  | bind (index : Nat)
  | step
  deriving DecidableEq

/-- Whether each `sqlite3_*` call of one library call succeeds. -/
abbrev Outcomes := Statement → SqliteCall → Bool

def Outcomes.succeed : Outcomes := fun _ _ => true

/-- A bind whose result is not looked at: the parameter stays NULL when it fails. -/
def Outcomes.bound (ok : Outcomes) (statement : Statement) (index : Nat) (value : Option α) :
    Option α :=
  if ok statement (.bind index) then value else none

/-- `prepare`, the binds `1 .. parameters`, each checked, and `step`. -/
def Outcomes.runs (ok : Outcomes) (statement : Statement) (parameters : Nat) : Bool :=
  ok statement .prepare && (List.range parameters).all (fun i => ok statement (.bind (i + 1))) &&
    ok statement .step

/-- `sqlite3_column_int` keeps the low 32 bits of an id. -/
def columnInt (value : Int) : Int := value.bmod (2 ^ 32)

/-- What one call of the library can see of SQLite besides the tables. -/
structure Sqlite where
  ok : Outcomes
  /-- The id that SQLite gives to the row that the call inserts. -/
  rowid : Int

section Library

variable (db : Sqlite) (s : Store)

-- ---------------------------------------------------------------------------
-- Cities
-- ---------------------------------------------------------------------------

def addCity (city : Option Text)
    (minLatitude maxLatitude minLongitude maxLongitude pricePerMinute : Double) : Store × Bool :=
  if city = none then (s, false)
  else if maxLatitude ≤ minLatitude ∨ maxLongitude ≤ minLongitude ∨ pricePerMinute < 0 then
    (s, false)
  else if !db.ok .addCity .prepare || !db.ok .addCity .step then (s, false)
  else
    let parameter (index : Nat) (x : Double) := db.ok.bound .addCity index (bindDouble x)
    match s.insertCity db.rowid (db.ok.bound .addCity 1 city) (parameter 2 minLatitude)
      (parameter 3 maxLatitude) (parameter 4 minLongitude) (parameter 5 maxLongitude)
      (parameter 6 pricePerMinute) with
    | some s' => (s', true)
    | none => (s, false)

def updateCityPrice (city : Option Text) (pricePerMinute : Double) : Store × Bool :=
  if city = none then (s, false)
  else if pricePerMinute < 0 then (s, false)
  else if !db.ok .updateCityPrice .prepare || !db.ok .updateCityPrice .step then (s, false)
  else
    match s.setCityPrice (db.ok.bound .updateCityPrice 1 (bindDouble pricePerMinute))
      (db.ok.bound .updateCityPrice 2 city) with
    | some (s', changes) => (s', changes ≠ 0)
    | none => (s, false)

def deleteCity (city : Option Text) : Store × Bool :=
  if city = none then (s, false)
  else if !db.ok .deleteCity .prepare || !db.ok .deleteCity .step then (s, false)
  else
    let (s', changes) := s.removeCity (db.ok.bound .deleteCity 1 city)
    (s', changes ≠ 0)

def findCity (latitude longitude : Double) : Option Int :=
  if !db.ok .findCity .prepare || !db.ok .findCity .step then none
  else
    let parameter (index : Nat) (x : Double) := db.ok.bound .findCity index (bindDouble x)
    (s.selectCityAt (parameter 1 latitude) (parameter 2 latitude) (parameter 3 longitude)
      (parameter 4 longitude)).map columnInt

-- ---------------------------------------------------------------------------
-- Parking sessions
-- ---------------------------------------------------------------------------

def startParking (vehicleNumber : Option Text) (latitude longitude : Double) (cityId : Int)
    (startTime : Int64) : Store × Bool :=
  match vehicleNumber with
  | none => (s, false)
  | some vehicle =>
    if cityId ≤ 0 ∨ startTime ≤ 0 then (s, false)
    else if !db.ok.runs .activeSession 1 then (s, false)
    else if (s.selectActiveId vehicle).isSome then (s, false)
    else if !db.ok.runs .selectPrice 1 then (s, false)
    else
      match s.selectPrice cityId with
      | none => (s, false)
      | some pricePerMinute =>
        if !db.ok.runs .insertSession 6 then (s, false)
        else
          match s.insertSession db.rowid vehicle (bindDouble latitude) (bindDouble longitude)
            cityId (bindDouble pricePerMinute) startTime with
          | some s' => (s', true)
          | none => (s, false)

/-- Every started minute counts: `(duration_seconds + 59) / 60` in `int64_t`. -/
def durationMinutes (startTime endTime : Int64) : Int64 := (endTime - startTime + 59) / 60

def calculatedCost (startTime endTime : Int64) (pricePerMinute : Double) : Double :=
  Double.ofInt (durationMinutes startTime endTime).toInt * pricePerMinute

/-- On success, the stored start time and the cost. -/
def stopParking (vehicleNumber : Option Text) (endTime : Int64) : Store × Option (Int64 × Double) :=
  match vehicleNumber with
  | none => (s, none)
  | some vehicle =>
    if endTime ≤ 0 then (s, none)
    else if !db.ok.runs .selectSession 1 then (s, none)
    else
      match s.selectActive vehicle with
      | none => (s, none)
      | some row =>
        if endTime < row.startTime then (s, none)
        else
          let cost := calculatedCost row.startTime endTime row.pricePerMinute
          if !db.ok.runs .updateSession 3 then (s, none)
          else (s.closeSession endTime (bindDouble cost) row.id, some (row.startTime, cost))

end Library

-- ---------------------------------------------------------------------------
-- What one call can do
-- ---------------------------------------------------------------------------

section Cases

variable {db : Sqlite} {s s' : Store}

theorem addCity_cases (h : addCity db s city lat₁ lat₂ lon₁ lon₂ price = (s', b)) :
    s' = s ∨ ∃ row : City, row.id = db.rowid ∧ (∀ c ∈ s.parkingCities, c.city ≠ row.city) ∧
      0 ≤ row.pricePerMinute ∧ row.minLatitude < row.maxLatitude ∧
      row.minLongitude < row.maxLongitude ∧
      s' = { s with parkingCities := s.parkingCities.orderedInsert (·.id ≤ ·.id) row } := by
  simp only [addCity] at h
  split at h
  · exact .inl (Prod.mk.inj h).1.symm
  split at h
  · exact .inl (Prod.mk.inj h).1.symm
  split at h
  · exact .inl (Prod.mk.inj h).1.symm
  split at h
  · rename_i hins
    obtain ⟨rfl, -⟩ := Prod.mk.inj h
    exact .inr (Store.insertCity_cases hins)
  · exact .inl (Prod.mk.inj h).1.symm

theorem updateCityPrice_cases (h : updateCityPrice db s city price = (s', b)) :
    s' = s ∨ ∃ name p, 0 ≤ p ∧ s' = { s with
      parkingCities := s.parkingCities.map fun c =>
        if some c.city = name then { c with pricePerMinute := p } else c } := by
  simp only [updateCityPrice] at h
  split at h
  · exact .inl (Prod.mk.inj h).1.symm
  split at h
  · exact .inl (Prod.mk.inj h).1.symm
  split at h
  · exact .inl (Prod.mk.inj h).1.symm
  split at h
  · rename_i hset
    obtain ⟨rfl, -⟩ := Prod.mk.inj h
    rcases Store.setCityPrice_cases hset with h | ⟨p, hp, h⟩
    · exact .inl h
    · exact .inr ⟨_, p, hp, h⟩
  · exact .inl (Prod.mk.inj h).1.symm

theorem deleteCity_cases (h : deleteCity db s city = (s', b)) :
    s' = s ∨ ∃ name, s' = (s.removeCity name).1 := by
  simp only [deleteCity] at h
  split at h
  · exact .inl (Prod.mk.inj h).1.symm
  split at h
  · exact .inl (Prod.mk.inj h).1.symm
  · exact .inr ⟨_, (Prod.mk.inj h).1.symm⟩

def startedSession (rowid : Int) (vehicle : Text) (latitude longitude : Double) (cityId : Int)
    (pricePerMinute : Double) (startTime : Int64) : Session :=
  ⟨rowid, vehicle, latitude, longitude, cityId, pricePerMinute, startTime, none, none⟩

theorem startParking_cases (h : startParking db s vehicle lat lon cityId startTime = (s', b)) :
    (b = false ∧ s' = s) ∨
    ∃ v c, b = true ∧ vehicle = some v ∧ 0 < startTime ∧
      (∀ r ∈ s.parkingSessions, ¬ r.isActive v = true) ∧
      c ∈ s.parkingCities ∧ c.id = cityId ∧ s.selectPrice cityId = some c.pricePerMinute ∧
      s' = { s with
        parkingSessions := s.parkingSessions.orderedInsert (·.id ≤ ·.id)
          (startedSession db.rowid v lat lon cityId c.pricePerMinute startTime) } := by
  have hfail : ∀ {t : Store} {x : Bool}, (s, false) = (t, x) → x = false ∧ t = s := by
    rintro t x ⟨⟩
    exact ⟨rfl, rfl⟩
  simp only [startParking] at h
  split at h
  · exact .inl (hfail h)
  rename_i v
  split at h
  · exact .inl (hfail h)
  rename_i hargs
  split at h
  · exact .inl (hfail h)
  split at h
  · exact .inl (hfail h)
  rename_i hactive
  split at h
  · exact .inl (hfail h)
  split at h
  · exact .inl (hfail h)
  rename_i price hprice
  split at h
  · exact .inl (hfail h)
  split at h
  · rename_i hins
    obtain ⟨rfl, rfl⟩ := Prod.mk.inj h
    obtain ⟨a, b, p, ha, hb, hp, rfl⟩ := Store.insertSession_cases hins
    obtain ⟨rfl, -⟩ := bindDouble_eq_some.mp ha
    obtain ⟨rfl, -⟩ := bindDouble_eq_some.mp hb
    obtain ⟨rfl, -⟩ := bindDouble_eq_some.mp hp
    obtain ⟨c, hc, hid, rfl⟩ := Store.selectPrice_eq_some hprice
    refine .inr ⟨v, c, rfl, rfl, ?_, ?_, hc, hid, hprice, rfl⟩
    · exact Int64.not_le.mp fun hle => hargs (.inr hle)
    · exact Store.selectActiveId_eq_none.mp (by simpa using hactive)
  · exact .inl (hfail h)

theorem stopParking_cases (h : stopParking db s vehicle endTime = (s', out)) :
    (out = none ∧ s' = s) ∨
    ∃ v row, vehicle = some v ∧ 0 < endTime ∧ db.ok.runs .selectSession 1 = true ∧
      db.ok.runs .updateSession 3 = true ∧ s.selectActive v = some row ∧
      row.startTime ≤ endTime ∧
      out = some (row.startTime, calculatedCost row.startTime endTime row.pricePerMinute) ∧
      s' = s.closeSession endTime
        (bindDouble (calculatedCost row.startTime endTime row.pricePerMinute)) row.id := by
  have hfail : ∀ {t : Store} {x : Option (Int64 × Double)}, (s, none) = (t, x) →
      x = none ∧ t = s := by
    rintro t x ⟨⟩
    exact ⟨rfl, rfl⟩
  simp only [stopParking] at h
  split at h
  · exact .inl (hfail h)
  rename_i v
  split at h
  · exact .inl (hfail h)
  rename_i hend
  split at h
  · exact .inl (hfail h)
  rename_i hselect
  split at h
  · exact .inl (hfail h)
  rename_i row hrow
  split at h
  · exact .inl (hfail h)
  rename_i horder
  split at h
  · exact .inl (hfail h)
  rename_i hupdate
  obtain ⟨rfl, rfl⟩ := Prod.mk.inj h
  exact .inr ⟨v, row, rfl, Int64.not_le.mp hend, by simpa using hselect, by simpa using hupdate,
    hrow, Int64.not_lt.mp horder, rfl, rfl⟩

end Cases

end ParkingSystem
