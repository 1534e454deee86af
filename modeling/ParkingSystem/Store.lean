import Mathlib.Data.List.Sort
import ParkingSystem.Protocol

/-!
# The two tables and the SQL statements on them

`Store` holds the rows of `parking_cities` and `parking_sessions`, each table
in rowid order, which is the order SQLite scans it in. Every SQL statement of
`sqlite_database.c` is one function; a statement parameter is an `Option`,
`none` being NULL, and a write that breaks a constraint of the schema has no
successor store.

SQLite picks the id of an inserted row: the inserting statements take it as an
argument.
-/

namespace ParkingSystem

structure City where
  id : Int
  city : Text
  minLatitude : Double
  maxLatitude : Double
  minLongitude : Double
  maxLongitude : Double
  pricePerMinute : Double
  deriving DecidableEq

structure Session where
  id : Int
  vehicleNumber : Text
  latitude : Double
  longitude : Double
  cityId : Int
  pricePerMinute : Double
  startTime : Int64
  endTime : Option Int64
  cost : Option Double
  deriving DecidableEq

structure Store where
  parkingCities : List City
  parkingSessions : List Session
  deriving DecidableEq

/-- `sqlite3_bind_double`: SQLite has no NaN and stores NULL for it. -/
def bindDouble : Double → Option Double
  | .nan => none
  | x => some x

/-- A comparison with NULL selects no row. -/
def sqlGe (parameter : Option Double) (column : Double) : Bool :=
  parameter.any fun x => column ≤ x

def sqlLe (parameter : Option Double) (column : Double) : Bool :=
  parameter.any fun x => x ≤ column

def City.contains (c : City) (latitude longitude : Double) : Bool :=
  sqlGe (bindDouble latitude) c.minLatitude && sqlLe (bindDouble latitude) c.maxLatitude &&
    sqlGe (bindDouble longitude) c.minLongitude && sqlLe (bindDouble longitude) c.maxLongitude

def Session.isActive (r : Session) (vehicleNumber : Text) : Bool :=
  r.vehicleNumber = vehicleNumber && r.endTime.isNone

def cityNamed (name : String) : Text := name.toList.map fun c => UInt8.ofNat c.toNat

namespace Store

def initial : Store where
  parkingCities :=
    [⟨1, cityNamed "Tel Aviv", .finite 10, .finite (199 / 10), .finite 10, .finite (199 / 10),
        .finite (1 / 2)⟩,
     ⟨2, cityNamed "Haifa", .finite 20, .finite (299 / 10), .finite 20, .finite (299 / 10),
        .finite (2 / 5)⟩,
     ⟨3, cityNamed "Jerusalem", .finite 30, .finite (399 / 10), .finite 30, .finite (399 / 10),
        .finite (3 / 5)⟩]
  parkingSessions := []

variable (s : Store)

-- ---------------------------------------------------------------------------
-- Statements on parking_cities
-- ---------------------------------------------------------------------------

/-- `INSERT INTO parking_cities`, with NOT NULL, UNIQUE (city) and the three
CHECK constraints. -/
def insertCity (rowid : Int) (city : Option Text)
    (minLatitude maxLatitude minLongitude maxLongitude pricePerMinute : Option Double) :
    Option Store := do
  let row : City := ⟨rowid, ← city, ← minLatitude, ← maxLatitude, ← minLongitude, ← maxLongitude,
    ← pricePerMinute⟩
  if (∀ c ∈ s.parkingCities, c.city ≠ row.city) ∧ 0 ≤ row.pricePerMinute ∧
      row.minLatitude < row.maxLatitude ∧ row.minLongitude < row.maxLongitude then
    some { s with parkingCities := s.parkingCities.orderedInsert (·.id ≤ ·.id) row }
  else none

/-- `UPDATE parking_cities SET price_per_minute = ? WHERE city = ?`, with the
number of rows changed. -/
def setCityPrice (pricePerMinute : Option Double) (city : Option Text) : Option (Store × Nat) :=
  let selected (c : City) : Bool := some c.city = city
  let changes := s.parkingCities.countP selected
  if changes = 0 then some (s, 0)
  else do
    let price ← pricePerMinute
    if 0 ≤ price then
      some ({ s with
        parkingCities := s.parkingCities.map fun c =>
          if selected c then { c with pricePerMinute := price } else c }, changes)
    else none

/-- `DELETE FROM parking_cities WHERE city = ?`. -/
def removeCity (city : Option Text) : Store × Nat :=
  let selected (c : City) : Bool := some c.city = city
  ({ s with parkingCities := s.parkingCities.filter fun c => !selected c },
    s.parkingCities.countP selected)

/-- `SELECT id FROM parking_cities WHERE ? >= min_latitude .. LIMIT 1`. -/
def selectCityAt (lat₁ lat₂ lon₁ lon₂ : Option Double) : Option Int :=
  (s.parkingCities.find? fun c => sqlGe lat₁ c.minLatitude && sqlLe lat₂ c.maxLatitude &&
    sqlGe lon₁ c.minLongitude && sqlLe lon₂ c.maxLongitude).map City.id

/-- `SELECT price_per_minute FROM parking_cities WHERE id = ?`. -/
def selectPrice (cityId : Int) : Option Double :=
  (s.parkingCities.find? fun c => c.id = cityId).map City.pricePerMinute

-- ---------------------------------------------------------------------------
-- Statements on parking_sessions
-- ---------------------------------------------------------------------------

/-- `SELECT id .. WHERE vehicle_number = ? AND end_time IS NULL LIMIT 1`. -/
def selectActiveId (vehicleNumber : Text) : Option Int :=
  (s.parkingSessions.find? (·.isActive vehicleNumber)).map Session.id

/-- `SELECT id, start_time, price_per_minute .. WHERE vehicle_number = ? AND
end_time IS NULL ORDER BY id DESC LIMIT 1`. -/
def selectActive (vehicleNumber : Text) : Option Session :=
  ((s.parkingSessions.filter (·.isActive vehicleNumber)).insertionSort
    fun r r' => r'.id ≤ r.id).head?

/-- `INSERT INTO parking_sessions`; `end_time` and `cost` start out NULL. -/
def insertSession (rowid : Int) (vehicleNumber : Text) (latitude longitude : Option Double)
    (cityId : Int) (pricePerMinute : Option Double) (startTime : Int64) : Option Store := do
  let row : Session :=
    ⟨rowid, vehicleNumber, ← latitude, ← longitude, cityId, ← pricePerMinute, startTime, none, none⟩
  some { s with parkingSessions := s.parkingSessions.orderedInsert (·.id ≤ ·.id) row }

/-- `UPDATE parking_sessions SET end_time = ?, cost = ? WHERE id = ?`. -/
def closeSession (endTime : Int64) (cost : Option Double) (sessionId : Int) : Store :=
  { s with
    parkingSessions := s.parkingSessions.map fun r =>
      if r.id = sessionId then { r with endTime := some endTime, cost := cost } else r }

end Store

-- ---------------------------------------------------------------------------
-- What the statements do
-- ---------------------------------------------------------------------------

theorem bindDouble_eq_some {x y : Double} : bindDouble x = some y ↔ x = y ∧ x ≠ .nan := by
  cases x <;> simp [bindDouble, eq_comm]

theorem Session.isActive_iff {r : Session} {v : Text} :
    r.isActive v = true ↔ r.vehicleNumber = v ∧ r.endTime = none := by
  simp [Session.isActive]

namespace Store

variable {s s' : Store} {v : Text} {r : Session}

theorem insertCity_cases {city : Option Text} {lat₁ lat₂ lon₁ lon₂ price : Option Double}
    (h : s.insertCity rowid city lat₁ lat₂ lon₁ lon₂ price = some s') :
    ∃ row : City, row.id = rowid ∧ (∀ c ∈ s.parkingCities, c.city ≠ row.city) ∧
      0 ≤ row.pricePerMinute ∧ row.minLatitude < row.maxLatitude ∧
      row.minLongitude < row.maxLongitude ∧
      s' = { s with parkingCities := s.parkingCities.orderedInsert (·.id ≤ ·.id) row } := by
  simp only [insertCity, Option.bind_eq_bind, Option.bind_eq_some_iff] at h
  obtain ⟨name, -, a, -, b, -, c, -, d, -, e, -, h⟩ := h
  split at h
  · rename_i hok
    obtain ⟨hname, hprice, hlat, hlon⟩ := hok
    exact ⟨⟨rowid, name, a, b, c, d, e⟩, rfl, hname, hprice, hlat, hlon, (Option.some.inj h).symm⟩
  · cases h

theorem setCityPrice_cases {price : Option Double} {city : Option Text}
    (h : s.setCityPrice price city = some (s', n)) :
    s' = s ∨ ∃ p, 0 ≤ p ∧ s' = { s with
      parkingCities := s.parkingCities.map fun c =>
        if some c.city = city then { c with pricePerMinute := p } else c } := by
  simp only [setCityPrice] at h
  split at h
  · left
    cases h
    rfl
  · right
    simp only [Option.bind_eq_bind, Option.bind_eq_some_iff] at h
    obtain ⟨p, -, h⟩ := h
    split at h
    · cases h
      exact ⟨p, ‹_›, by simp⟩
    · cases h

theorem selectPrice_eq_some (h : s.selectPrice cityId = some price) :
    ∃ c ∈ s.parkingCities, c.id = cityId ∧ c.pricePerMinute = price := by
  simp only [selectPrice, Option.map_eq_some_iff] at h
  obtain ⟨c, hc, rfl⟩ := h
  exact ⟨c, List.mem_of_find?_eq_some hc, by simpa using List.find?_some hc, rfl⟩

theorem selectActiveId_eq_none :
    s.selectActiveId v = none ↔ ∀ r ∈ s.parkingSessions, ¬ r.isActive v = true := by
  simp [selectActiveId]

theorem selectActive_eq_none :
    s.selectActive v = none ↔ ∀ r ∈ s.parkingSessions, ¬ r.isActive v = true := by
  simp only [selectActive, List.head?_eq_none_iff]
  rw [← List.length_eq_zero_iff, List.length_insertionSort, List.length_eq_zero_iff,
    List.filter_eq_nil_iff]

theorem selectActive_eq_some (h : s.selectActive v = some r) :
    r ∈ s.parkingSessions ∧ r.vehicleNumber = v ∧ r.endTime = none := by
  have hr : r ∈ s.parkingSessions.filter (·.isActive v) :=
    (List.mem_insertionSort _).mp (List.mem_of_head? h)
  obtain ⟨hr, ha⟩ := List.mem_filter.mp hr
  exact ⟨hr, Session.isActive_iff.mp ha⟩

theorem insertSession_cases {lat lon price : Option Double}
    (h : s.insertSession rowid v lat lon cityId price startTime = some s') :
    ∃ a b p, lat = some a ∧ lon = some b ∧ price = some p ∧
      s' = { s with
        parkingSessions := s.parkingSessions.orderedInsert (·.id ≤ ·.id)
          ⟨rowid, v, a, b, cityId, p, startTime, none, none⟩ } := by
  simp only [insertSession, Option.bind_eq_bind, Option.bind_eq_some_iff] at h
  obtain ⟨a, ha, b, hb, p, hp, h⟩ := h
  exact ⟨a, b, p, ha, hb, hp, (Option.some.inj h).symm⟩

end Store
end ParkingSystem
