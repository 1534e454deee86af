import ParkingSystem.CityIds
import ParkingSystem.Lib.Sql
import ParkingSystem.RequestProcessing

/-!
# The SQLiteDatabase library, call by call

The functions of `sqlite_database.c` as they call SQLite: every statement is prepared, bound,
stepped and finalized, on every exit. `SqliteDatabase` has the same functions on the tables
alone; `Outcomes` says there and here which calls succeed.

Pointers to out parameters are left out, as is a null pointer to the `sqlite_database_t`.
-/

namespace ParkingSystem

/-- What a database file holds; a table that was not created is `none`. -/
structure Tables where
  parkingCities : Option (List City)
  parkingSessions : Option (List Session)
  deriving DecidableEq

inductive SqlText where
  | library (statement : Statement)
  | getCity
  | dropSessions
  | dropCities
  | createCities
  | createSessions
  | insertCities
  deriving DecidableEq

namespace Tables

def empty : Tables := ⟨none, none⟩

def ofStore (s : Store) : Tables := ⟨some s.parkingCities, some s.parkingSessions⟩

variable (t : Tables)

def store : Store := ⟨t.parkingCities.getD [], t.parkingSessions.getD []⟩

def withCities (s : Store) : Tables := { t with parkingCities := some s.parkingCities }

def withSessions (s : Store) : Tables := { t with parkingSessions := some s.parkingSessions }

end Tables

def defaultCities : List (String × List ℚ) :=
  [("Tel Aviv", [10, 199 / 10, 10, 199 / 10, 1 / 2]), ("Haifa", [20, 299 / 10, 20, 299 / 10, 2 / 5]),
    ("Jerusalem", [30, 399 / 10, 30, 399 / 10, 3 / 5])]

def insertDefaultCity (s : Store) (city : String × List ℚ) : Option Store :=
  let real (i : Nat) : Option Double := city.2[i]?.map Double.finite
  s.insertCity s.nextCityId (some (cityNamed city.1)) (real 0) (real 1) (real 2) (real 3) (real 4)

open Sql (Value Effect Program)

def SqlText.compiles : SqlText → Tables → Bool
  | .library .addCity, t | .library .updateCityPrice, t | .library .deleteCity, t
  | .library .findCity, t | .library .selectPrice, t | .getCity, t | .insertCities, t =>
    t.parkingCities.isSome
  | .library .activeSession, t | .library .insertSession, t | .library .selectSession, t
  | .library .updateSession, t => t.parkingSessions.isSome
  | .dropSessions, _ | .dropCities, _ => true
  | .createCities, t => t.parkingCities.isNone
  | .createSessions, t => t.parkingSessions.isNone

/-- What each statement does, in terms of `Store`. A parameter of another type than the
column's is not looked into, nor is an UPDATE of a session with a NULL. -/
def SqlText.exec (text : SqlText) (parameter : Nat → Option Value) (rowid : Int) (t : Tables) :
    Option (Effect Tables) :=
  let integer (i : Nat) : Option Int := (parameter i).bind Value.toInteger
  let real (i : Nat) : Option Double := (parameter i).bind Value.toReal
  let name (i : Nat) : Option Text := (parameter i).bind Value.toText
  let select {α : Type} (found : Option α) (row : α → List Value) : Option (Effect Tables) :=
    some ⟨none, 0, found.toList.map fun x => (row x).map some⟩
  match text with
  | .library .addCity =>
    (t.store.insertCity rowid (name 1) (real 2) (real 3) (real 4) (real 5) (real 6)).map fun s =>
      ⟨some (t.withCities s), 1, []⟩
  | .library .updateCityPrice =>
    (t.store.setCityPrice (real 1) (name 2)).map fun (s, changes) =>
      ⟨some (t.withCities s), changes, []⟩
  | .library .deleteCity =>
    let (s, changes) := t.store.removeCity (name 1)
    some ⟨some (t.withCities s), changes, []⟩
  | .library .findCity =>
    select (t.store.selectCityAt (real 1) (real 2) (real 3) (real 4)) fun id => [.integer id]
  | .library .activeSession =>
    select ((name 1).bind t.store.selectActiveId) fun id => [.integer id]
  | .library .selectPrice =>
    select ((integer 1).bind t.store.selectPrice) fun price => [.real price]
  | .library .insertSession => do
    let s ← t.store.insertSession rowid (← name 1) (real 2) (real 3) (← integer 4) (real 5)
      (.ofInt (← integer 6))
    some ⟨some (t.withSessions s), 1, []⟩
  | .library .selectSession =>
    select ((name 1).bind t.store.selectActive) fun r =>
      [.integer r.id, .integer r.startTime.toInt, .real r.pricePerMinute]
  | .library .updateSession => do
    let s := t.store.closeSession (.ofInt (← integer 1)) (real 2) (← integer 3)
    some ⟨some (t.withSessions s), 1, []⟩
  | .getCity =>
    select ((integer 1).bind fun id => t.store.parkingCities.find? fun c => c.id = id) fun c =>
      [.text c.city, .real c.minLatitude, .real c.maxLatitude, .real c.minLongitude,
        .real c.maxLongitude, .real c.pricePerMinute]
  | .dropSessions => some ⟨some { t with parkingSessions := none }, 0, []⟩
  | .dropCities => some ⟨some { t with parkingCities := none }, 0, []⟩
  | .createCities => some ⟨some { t with parkingCities := some [] }, 0, []⟩
  | .createSessions => some ⟨some { t with parkingSessions := some [] }, 0, []⟩
  | .insertCities =>
    (defaultCities.foldlM insertDefaultCity t.store).map fun s =>
      ⟨some (t.withCities s), defaultCities.length, []⟩

instance : Sql.Dialect Tables SqlText := ⟨SqlText.compiles, SqlText.exec⟩

namespace SqliteCalls

abbrev Call := Program Tables SqlText

open Sql

-- ---------------------------------------------------------------------------
-- The database
-- ---------------------------------------------------------------------------

def sqliteDatabaseOpen (databaseFile : Option Text) (opens : Bool) : Call Bool := do
  if databaseFile = none then return false
  if ← isOpen then return false
  if ¬ (← openFile opens) then
    let _ ← close
    clearHandle
    return false
  return true

def sqliteDatabaseClose : Call Unit := do
  if ¬ (← isOpen) then return
  if ¬ (← close) then return
  clearHandle

def initializeSql : List (Command SqlText) :=
  [.begin_, .statement .dropSessions, .statement .dropCities, .statement .createCities,
    .statement .createSessions, .statement .insertCities, .commit]

def sqliteDatabaseInitialize (outcome : Nat → CommandOutcome) (rollback : CommandOutcome) :
    Call Bool := do
  if ¬ (← isOpen) then return false
  if ← exec initializeSql outcome then return true
  let _ ← exec [.rollback] fun _ => rollback
  return false

-- ---------------------------------------------------------------------------
-- Cities
-- ---------------------------------------------------------------------------

section Library

variable (db : Sqlite)

def real (x : Double) : Option Value := (bindDouble x).map .real

/-- `sqlite3_column_double`, which makes 0 of NULL. -/
def toReal (value : Option Value) : Double := (value.bind Value.toReal).getD 0

def toInteger (value : Option Value) : Int := (value.bind Value.toInteger).getD 0

def addCity (city : Option Text)
    (minLatitude maxLatitude minLongitude maxLongitude pricePerMinute : Double) : Call Bool := do
  if ¬ (← isOpen) then return false
  let some name := city | return false
  if maxLatitude ≤ minLatitude ∨ maxLongitude ≤ minLongitude ∨ pricePerMinute < 0 then
    return false
  let some statement ← prepare (.library .addCity) (db.ok .addCity .prepare) | return false
  let _ ← bindValue statement 1 (some (.text name)) (db.ok .addCity (.bind 1))
  let _ ← bindValue statement 2 (real minLatitude) (db.ok .addCity (.bind 2))
  let _ ← bindValue statement 3 (real maxLatitude) (db.ok .addCity (.bind 3))
  let _ ← bindValue statement 4 (real minLongitude) (db.ok .addCity (.bind 4))
  let _ ← bindValue statement 5 (real maxLongitude) (db.ok .addCity (.bind 5))
  let _ ← bindValue statement 6 (real pricePerMinute) (db.ok .addCity (.bind 6))
  let result ← step statement db.rowid (db.ok .addCity .step)
  if result ≠ .done then
    finalize statement
    return false
  finalize statement
  return true

def updateCityPrice (city : Option Text) (pricePerMinute : Double) : Call Bool := do
  if ¬ (← isOpen) then return false
  let some name := city | return false
  if pricePerMinute < 0 then return false
  let some statement ← prepare (.library .updateCityPrice) (db.ok .updateCityPrice .prepare)
    | return false
  let _ ← bindValue statement 1 (real pricePerMinute) (db.ok .updateCityPrice (.bind 1))
  let _ ← bindValue statement 2 (some (.text name)) (db.ok .updateCityPrice (.bind 2))
  let result ← step statement db.rowid (db.ok .updateCityPrice .step)
  if result ≠ .done then
    finalize statement
    return false
  if (← changes) = 0 then
    finalize statement
    return false
  finalize statement
  return true

def deleteCity (city : Option Text) : Call Bool := do
  if ¬ (← isOpen) then return false
  let some name := city | return false
  let some statement ← prepare (.library .deleteCity) (db.ok .deleteCity .prepare) | return false
  let _ ← bindValue statement 1 (some (.text name)) (db.ok .deleteCity (.bind 1))
  let result ← step statement db.rowid (db.ok .deleteCity .step)
  if result ≠ .done then
    finalize statement
    return false
  if (← changes) = 0 then
    finalize statement
    return false
  finalize statement
  return true

/-- The `city_id` that is set, on success. -/
def findCity (latitude longitude : Double) : Call (Option Int) := do
  if ¬ (← isOpen) then return none
  let some statement ← prepare (.library .findCity) (db.ok .findCity .prepare) | return none
  let _ ← bindValue statement 1 (real latitude) (db.ok .findCity (.bind 1))
  let _ ← bindValue statement 2 (real latitude) (db.ok .findCity (.bind 2))
  let _ ← bindValue statement 3 (real longitude) (db.ok .findCity (.bind 3))
  let _ ← bindValue statement 4 (real longitude) (db.ok .findCity (.bind 4))
  let result ← step statement db.rowid (db.ok .findCity .step)
  if result = .row then
    let cityId ← column statement 0
    finalize statement
    return some (columnInt (toInteger cityId))
  finalize statement
  return none

def toText (value : Option Value) : Option Text := value.bind Value.toText

/-- The row that the out parameters are set from, on success. -/
def getCity (ok : SqliteCall → Bool) (cityId : Int) (citySize : Nat) : Call (Option City) := do
  if ¬ (← isOpen) then return none
  if cityId ≤ 0 ∨ citySize = 0 then return none
  let some statement ← prepare .getCity (ok .prepare) | return none
  let _ ← bindValue statement 1 (some (.integer cityId)) (ok (.bind 1))
  let result ← step statement 0 (ok .step)
  if result = .row then
    let some name := toText (← column statement 0)
      | finalize statement
        return none
    let minLatitude ← column statement 1
    let maxLatitude ← column statement 2
    let minLongitude ← column statement 3
    let maxLongitude ← column statement 4
    let pricePerMinute ← column statement 5
    finalize statement
    return some ⟨cityId, snprintf citySize name, toReal minLatitude, toReal maxLatitude,
      toReal minLongitude, toReal maxLongitude, toReal pricePerMinute⟩
  finalize statement
  return none

-- ---------------------------------------------------------------------------
-- Parking sessions
-- ---------------------------------------------------------------------------

/-- The end of `sqlite_database_start_parking`, where the price is known. -/
def insertSession (vehicle : Text) (latitude longitude : Double) (cityId : Int)
    (pricePerMinute : Double) (startTime : Int64) : Call Bool := do
  let some insert ← prepare (.library .insertSession) (db.ok .insertSession .prepare)
    | return false
  if ¬ (← bindAll insert
      [(1, some (.text vehicle), db.ok .insertSession (.bind 1)),
       (2, real latitude, db.ok .insertSession (.bind 2)),
       (3, real longitude, db.ok .insertSession (.bind 3)),
       (4, some (.integer cityId), db.ok .insertSession (.bind 4)),
       (5, real pricePerMinute, db.ok .insertSession (.bind 5)),
       (6, some (.integer startTime.toInt), db.ok .insertSession (.bind 6))]) then
    finalize insert
    return false
  let result ← step insert db.rowid (db.ok .insertSession .step)
  if result ≠ .done then
    finalize insert
    return false
  finalize insert
  return true

def startParking (vehicleNumber : Option Text) (latitude longitude : Double) (cityId : Int)
    (startTime : Int64) : Call Bool := do
  if ¬ (← isOpen) then return false
  let some vehicle := vehicleNumber | return false
  if cityId ≤ 0 ∨ startTime ≤ 0 then return false
  let some active ← prepare (.library .activeSession) (db.ok .activeSession .prepare)
    | return false
  if ¬ (← bindValue active 1 (some (.text vehicle)) (db.ok .activeSession (.bind 1))) then
    finalize active
    return false
  let result ← step active db.rowid (db.ok .activeSession .step)
  if result = .row then
    finalize active
    return false
  if result ≠ .done then
    finalize active
    return false
  finalize active
  let some price ← prepare (.library .selectPrice) (db.ok .selectPrice .prepare) | return false
  if ¬ (← bindValue price 1 (some (.integer cityId)) (db.ok .selectPrice (.bind 1))) then
    finalize price
    return false
  let result ← step price db.rowid (db.ok .selectPrice .step)
  if result = .done then
    finalize price
    return false
  if result ≠ .row then
    finalize price
    return false
  let pricePerMinute ← column price 0
  finalize price
  insertSession db vehicle latitude longitude cityId (toReal pricePerMinute) startTime

/-- The end of `sqlite_database_stop_parking`, where the session is known. -/
def updateSession (endTime : Int64) (sessionId : Int) (storedStartTime : Int64)
    (pricePerMinute : Double) : Call (Option (Int64 × Double)) := do
  if endTime < storedStartTime then return none
  let cost := calculatedCost storedStartTime endTime pricePerMinute
  let some update ← prepare (.library .updateSession) (db.ok .updateSession .prepare)
    | return none
  if ¬ (← bindAll update
      [(1, some (.integer endTime.toInt), db.ok .updateSession (.bind 1)),
       (2, real cost, db.ok .updateSession (.bind 2)),
       (3, some (.integer sessionId), db.ok .updateSession (.bind 3))]) then
    finalize update
    return none
  let result ← step update db.rowid (db.ok .updateSession .step)
  if result ≠ .done then
    finalize update
    return none
  finalize update
  return some (storedStartTime, cost)

/-- The start time and the cost that are set, on success. -/
def stopParking (vehicleNumber : Option Text) (endTime : Int64) :
    Call (Option (Int64 × Double)) := do
  if ¬ (← isOpen) then return none
  let some vehicle := vehicleNumber | return none
  if endTime ≤ 0 then return none
  let some select ← prepare (.library .selectSession) (db.ok .selectSession .prepare)
    | return none
  if ¬ (← bindValue select 1 (some (.text vehicle)) (db.ok .selectSession (.bind 1))) then
    finalize select
    return none
  let result ← step select db.rowid (db.ok .selectSession .step)
  if result = .done then
    finalize select
    return none
  if result ≠ .row then
    finalize select
    return none
  let sessionId ← column select 0
  let storedStartTime ← column select 1
  let pricePerMinute ← column select 2
  finalize select
  updateSession db endTime (toInteger sessionId) (.ofInt (toInteger storedStartTime))
    (toReal pricePerMinute)

end Library

end SqliteCalls

end ParkingSystem
