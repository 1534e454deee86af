import ParkingSystem.SqliteDatabase

/-!
# Processing one request

`Database::process_database_request` and the two functions it dispatches to.
`processDatabaseRequest_cases` lists everything one request can do to the
tables and what it is answered; `committed` says whether it wrote a row.
-/

namespace ParkingSystem

/-- `snprintf` with `"%s"` into a buffer of `size` bytes. -/
def snprintf (size : Nat) (text : Text) : Text := text.take (size - 1)

theorem snprintf_of_fits {size : Nat} {text : Text} (h : text.length < size) :
    snprintf size text = text :=
  List.take_of_length_le (by omega)

theorem length_snprintf_lt (size : Nat) (text : Text) (h : 0 < size) :
    (snprintf size text).length < size := by
  rw [snprintf, List.length_take]
  omega

section Database

variable (db : Sqlite) (s : Store) (request : TcpToDatabaseMessage)
  (response : DatabaseToTcpMessage)

def processStartParkingRequest : Store × DatabaseToTcpMessage :=
  match findCity db s request.latitude request.longitude with
  | none => (s, { response with action := .acknowledge, status := .invalidRequest })
  | some cityId =>
    match startParking db s (some request.vehicleNumber) request.latitude request.longitude cityId
      request.parkingStartTime with
    | (s', false) => (s', { response with action := .acknowledge, status := .databaseError })
    | (s', true) =>
      (s', { response with
        action := .acknowledge, status := .success,
        parkingStartTime := request.parkingStartTime })

def processEndParkingRequest : Store × DatabaseToTcpMessage :=
  match stopParking db s (some request.vehicleNumber) request.parkingEndTime with
  | (s', none) => (s', { response with action := .endParking, status := .vehicleNotFound })
  | (s', some (parkingStartTime, parkingCost)) =>
    (s', { response with
      action := .endParking, status := .success
      parkingStartTime := parkingStartTime
      parkingEndTime := request.parkingEndTime
      parkingDuration := request.parkingEndTime - parkingStartTime
      parkingCost := parkingCost })

def processDatabaseRequest : Store × DatabaseToTcpMessage :=
  let response : DatabaseToTcpMessage :=
    { DatabaseToTcpMessage.zero with
      requestId := request.requestId
      vehicleNumber := snprintf vehicleNumberSize request.vehicleNumber }
  match request.action with
  | .startParking => processStartParkingRequest db s request response
  | .endParking => processEndParkingRequest db s request response
  | action => (s, { response with action := action, status := .invalidRequest })

def committed : Bool :=
  (processDatabaseRequest db s request).1.parkingSessions ≠ s.parkingSessions

end Database

-- ---------------------------------------------------------------------------
-- What one request can do
-- ---------------------------------------------------------------------------

section Cases

variable {db : Sqlite} {s s' : Store} {request : TcpToDatabaseMessage}
  {response : DatabaseToTcpMessage}

theorem sqlGe_bound {ok : Outcomes} {statement : Statement} {index : Nat} {x : Option Double}
    {column : Double} : sqlGe (ok.bound statement index x) column =
      (ok statement (.bind index) && sqlGe x column) := by
  cases h : ok statement (.bind index) <;> simp [Outcomes.bound, h, sqlGe]

theorem sqlLe_bound {ok : Outcomes} {statement : Statement} {index : Nat} {x : Option Double}
    {column : Double} : sqlLe (ok.bound statement index x) column =
      (ok statement (.bind index) && sqlLe x column) := by
  cases h : ok statement (.bind index) <;> simp [Outcomes.bound, h, sqlLe]

/-- A found city is the first whose area contains the point: no bind failed,
since a parameter that stays NULL selects no row. -/
theorem findCity_cases (h : findCity db s lat lon = some cityId) :
    ∃ c, s.parkingCities.find? (·.contains lat lon) = some c ∧ cityId = columnInt c.id := by
  simp only [findCity] at h
  split at h
  · cases h
  · simp only [Store.selectCityAt, sqlGe_bound, sqlLe_bound, Option.map_map,
      Option.map_eq_some_iff] at h
    obtain ⟨c, hc, rfl⟩ := h
    have hsel := List.find?_some hc
    simp only [Bool.and_eq_true] at hsel
    obtain ⟨⟨⟨⟨h₁, -⟩, h₂, -⟩, h₃, -⟩, h₄, -⟩ := hsel
    simp only [h₁, h₂, h₃, h₄, Bool.true_and] at hc
    exact ⟨c, hc, rfl⟩

/-- Everything a request can do. -/
inductive RequestEffect (db : Sqlite) (s : Store) (request : TcpToDatabaseMessage) :
    Store → DatabaseToTcpMessage → Prop
  | refused {response : DatabaseToTcpMessage} (status : response.status ≠ .success)
      (requestId : response.requestId = request.requestId) :
      RequestEffect db s request s response
  | started {response : DatabaseToTcpMessage} (found city : City)
      (isStart : request.action = .startParking) (status : response.status = .success)
      (requestId : response.requestId = request.requestId)
      (positive : 0 < request.parkingStartTime)
      (idle : ∀ r ∈ s.parkingSessions, ¬ r.isActive request.vehicleNumber = true)
      (chosen : s.parkingCities.find? (·.contains request.latitude request.longitude) = some found)
      (mem : city ∈ s.parkingCities) (cityId : city.id = columnInt found.id)
      (price : s.selectPrice (columnInt found.id) = some city.pricePerMinute) :
      RequestEffect db s request
        { s with
          parkingSessions := s.parkingSessions.orderedInsert (·.id ≤ ·.id)
            (startedSession db.rowid request.vehicleNumber request.latitude request.longitude
              city.id city.pricePerMinute request.parkingStartTime) } response
  | ended {response : DatabaseToTcpMessage} (row : Session)
      (isEnd : request.action = .endParking) (status : response.status = .success)
      (requestId : response.requestId = request.requestId)
      (selects : db.ok.runs .selectSession 1 = true)
      (updates : db.ok.runs .updateSession 3 = true)
      (active : s.selectActive request.vehicleNumber = some row)
      (order : row.startTime ≤ request.parkingEndTime)
      (vehicle : response.vehicleNumber = snprintf vehicleNumberSize request.vehicleNumber)
      (startTime : response.parkingStartTime = row.startTime)
      (endTime : response.parkingEndTime = request.parkingEndTime)
      (duration : response.parkingDuration = request.parkingEndTime - row.startTime)
      (cost : response.parkingCost =
        calculatedCost row.startTime request.parkingEndTime row.pricePerMinute) :
      RequestEffect db s request
        (s.closeSession request.parkingEndTime
          (bindDouble (calculatedCost row.startTime request.parkingEndTime row.pricePerMinute))
          row.id) response

theorem processStartParkingRequest_cases (hstart : request.action = .startParking)
    (hid : response.requestId = request.requestId)
    (h : processStartParkingRequest db s request response = (s', response')) :
    RequestEffect db s request s' response' := by
  simp only [processStartParkingRequest] at h
  split at h
  · obtain ⟨rfl, rfl⟩ := Prod.mk.inj h
    exact .refused (by simp) hid
  · rename_i cityId hfind
    obtain ⟨found, hfound, rfl⟩ := findCity_cases hfind
    split at h
    · rename_i hsp
      obtain ⟨rfl, rfl⟩ := Prod.mk.inj h
      rcases startParking_cases hsp with ⟨-, rfl⟩ | ⟨_, _, hb, _⟩
      · exact .refused (by simp) hid
      · cases hb
    · rename_i hsp
      obtain ⟨rfl, rfl⟩ := Prod.mk.inj h
      rcases startParking_cases hsp with ⟨hb, -⟩ | ⟨v, c, -, hv, hpos, hidle, hmem, hcid, hprice, rfl⟩
      · cases hb
      · cases hv
        rw [← hcid]
        exact .started found c hstart rfl hid hpos hidle hfound hmem hcid hprice

theorem processEndParkingRequest_cases (hend : request.action = .endParking)
    (hid : response.requestId = request.requestId)
    (hvehicle : response.vehicleNumber = snprintf vehicleNumberSize request.vehicleNumber)
    (h : processEndParkingRequest db s request response = (s', response')) :
    RequestEffect db s request s' response' := by
  simp only [processEndParkingRequest] at h
  split at h
  · rename_i hsp
    obtain ⟨rfl, rfl⟩ := Prod.mk.inj h
    rcases stopParking_cases hsp with ⟨-, rfl⟩ | ⟨_, _, _, _, _, _, _, _, ho, _⟩
    · exact .refused (by simp) hid
    · cases ho
  · rename_i hsp
    obtain ⟨rfl, rfl⟩ := Prod.mk.inj h
    rcases stopParking_cases hsp with ⟨ho, -⟩ | ⟨v, row, hv, -, hsel, hupd, hrow, horder, ho, rfl⟩
    · cases ho
    · cases hv
      cases ho
      exact .ended row hend rfl hid hsel hupd hrow horder hvehicle rfl rfl rfl rfl

theorem processDatabaseRequest_cases
    (h : processDatabaseRequest db s request = (s', response)) :
    RequestEffect db s request s' response := by
  simp only [processDatabaseRequest] at h
  split at h
  · exact processStartParkingRequest_cases ‹_› rfl h
  · exact processEndParkingRequest_cases ‹_› rfl rfl h
  · obtain ⟨rfl, rfl⟩ := Prod.mk.inj h
    exact .refused (by simp) rfl

theorem RequestEffect.requestId_eq (h : RequestEffect db s request s' response) :
    response.requestId = request.requestId := by
  cases h <;> assumption

theorem requestEffect : RequestEffect db s request (processDatabaseRequest db s request).1
    (processDatabaseRequest db s request).2 :=
  processDatabaseRequest_cases rfl

@[simp] theorem processDatabaseRequest_requestId :
    (processDatabaseRequest db s request).2.requestId = request.requestId :=
  requestEffect.requestId_eq

/-- A request that is not answered SUCCESS leaves the tables as they were. -/
theorem RequestEffect.unchanged_of_not_success (h : RequestEffect db s request s' response)
    (hstatus : response.status ≠ .success) : s' = s := by
  cases h with
  | refused => rfl
  | started _ _ _ status => exact absurd status hstatus
  | ended _ _ status => exact absurd status hstatus

/-- What was committed is answered SUCCESS. -/
theorem status_of_committed (h : committed db s request = true) :
    (processDatabaseRequest db s request).2.status = .success := by
  by_contra hstatus
  have hs := requestEffect.unchanged_of_not_success hstatus
  simp [committed, hs] at h

end Cases

end ParkingSystem
