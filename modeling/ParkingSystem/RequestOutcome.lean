import Mathlib.Data.Multiset.ZeroCons
import ParkingSystem.RequestProcessing
import ParkingSystem.StoreInvariant

/-!
# What a request is answered, and what it does

`processed_exactly_iff`: with every SQLite call succeeding and nobody else
writing, a request is answered SUCCESS exactly when it is legitimate, and changes
exactly one row then. There are two exceptions, both in a value that does not fit
where it goes: a city id that is no C `int`, and a cost that is no number.

`vehicle_not_found_iff`: every failure of `sqlite_database_stop_parking` is
answered VEHICLE_NOT_FOUND, whether the vehicle is parked or not.
-/

namespace ParkingSystem

-- ---------------------------------------------------------------------------
-- When the library answers success
-- ---------------------------------------------------------------------------

section Library

variable {db : Sqlite} {s : Store} {rowid : Int} {v : Text} {startTime endTime : Int64}
  {cityId : Int} {latitude longitude : Double}

@[simp] theorem Outcomes.runs_succeed (statement : Statement) (parameters : Nat) :
    Outcomes.succeed.runs statement parameters = true := by
  simp [Outcomes.runs, Outcomes.succeed]

theorem City.contains_defined {c : City} (h : c.contains latitude longitude = true) :
    latitude ≠ .nan ∧ longitude ≠ .nan := by
  simp only [City.contains, Bool.and_eq_true] at h
  obtain ⟨⟨⟨hlat, -⟩, hlon⟩, -⟩ := h
  constructor
  · rintro rfl
    cases hlat
  · rintro rfl
    cases hlon

theorem findCity_succeed : findCity ⟨.succeed, rowid⟩ s latitude longitude =
    (s.parkingCities.find? (·.contains latitude longitude)).map fun c => columnInt c.id := by
  simp [findCity, Outcomes.succeed, Outcomes.bound, Store.selectCityAt, City.contains,
    Function.comp_def]

theorem insertSession_defined {price : Double} (hlat : latitude ≠ .nan) (hlon : longitude ≠ .nan)
    (hprice : price ≠ .nan) :
    s.insertSession rowid v (bindDouble latitude) (bindDouble longitude) cityId (bindDouble price)
      startTime = some { s with
        parkingSessions := s.parkingSessions.orderedInsert (·.id ≤ ·.id)
          (startedSession rowid v latitude longitude cityId price startTime) } := by
  have hbind {x : Double} (hx : x ≠ .nan) : bindDouble x = some x :=
    bindDouble_eq_some.mpr ⟨rfl, hx⟩
  rw [hbind hlat, hbind hlon, hbind hprice]
  rfl

theorem startParking_succeed (hlat : latitude ≠ .nan) (hlon : longitude ≠ .nan)
    (hprices : ∀ c ∈ s.parkingCities, c.pricePerMinute ≠ .nan) :
    (startParking ⟨.succeed, rowid⟩ s (some v) latitude longitude cityId startTime).2 = true ↔
      0 < cityId ∧ 0 < startTime ∧ (∀ r ∈ s.parkingSessions, ¬ r.isActive v = true) ∧
        ∃ c ∈ s.parkingCities, c.id = cityId := by
  constructor
  · intro h
    rcases startParking_cases (Prod.eta _).symm with ⟨hb, -⟩ | ⟨_, c, -, hv, hstart, hidle, hc, hid, -⟩
    · rw [h] at hb
      cases hb
    · cases hv
      refine ⟨Int.not_le.mp fun hle => ?_, hstart, hidle, c, hc, hid⟩
      simp [startParking, hle] at h
  · rintro ⟨hcity, hstart, hidle, c, hc, hid⟩
    have hargs : ¬ (cityId ≤ 0 ∨ startTime ≤ 0) := by
      rintro (hle | hle)
      · exact Int.not_lt.mpr hle hcity
      · exact Int64.not_le.mpr hstart hle
    have hactive := Store.selectActiveId_eq_none.mpr hidle
    cases hprice : s.selectPrice cityId with
    | none =>
      have hnone : ∀ c ∈ s.parkingCities, ¬ c.id = cityId := by
        simpa [Store.selectPrice] using hprice
      exact absurd hid (hnone c hc)
    | some price =>
      obtain ⟨c', hc', -, rfl⟩ := Store.selectPrice_eq_some hprice
      simp [startParking, hargs, hactive, hprice, insertSession_defined hlat hlon (hprices c' hc')]

theorem stopParking_isSome : (stopParking db s (some v) endTime).2.isSome = true ↔
    0 < endTime ∧ db.ok.runs .selectSession 1 = true ∧ db.ok.runs .updateSession 3 = true ∧
      ∃ row, s.selectActive v = some row ∧ row.startTime ≤ endTime := by
  constructor
  · intro h
    rcases stopParking_cases (Prod.eta _).symm with
      ⟨hnone, -⟩ | ⟨_, row, hv, hend, hselect, hupdate, hrow, horder, -⟩
    · rw [hnone] at h
      cases h
    · cases hv
      exact ⟨hend, hselect, hupdate, row, hrow, horder⟩
  · rintro ⟨hend, hselect, hupdate, row, hrow, horder⟩
    have hend : ¬ endTime ≤ 0 := Int64.not_le.mpr hend
    have horder : ¬ endTime < row.startTime := Int64.not_lt.mpr horder
    simp [stopParking, hend, hselect, hupdate, hrow, horder]

end Library

-- ---------------------------------------------------------------------------
-- All or nothing
-- ---------------------------------------------------------------------------

section Exact

variable (rowid : Int) (s : Store) (request : TcpToDatabaseMessage)

/-- A request that takes the tables from `s` to `s'` as it should. -/
structure ProcessedExactly (s' : Store) (response : DatabaseToTcpMessage) : Prop where
  requestId : response.requestId = request.requestId
  start : request.action = .startParking → (response.status = .success ↔
    (∃ c ∈ s.parkingCities, c.contains request.latitude request.longitude = true) ∧
      0 < request.parkingStartTime ∧
      ∀ r ∈ s.parkingSessions, ¬ r.isActive request.vehicleNumber = true)
  started : request.action = .startParking → response.status = .success →
    s'.parkingCities = s.parkingCities ∧
    ∃ c ∈ s.parkingCities, c.contains request.latitude request.longitude = true ∧
      s'.parkingSessions.Perm (startedSession rowid request.vehicleNumber request.latitude
        request.longitude c.id c.pricePerMinute request.parkingStartTime :: s.parkingSessions)
  stop : request.action = .endParking → (response.status = .success ↔
    ∃ r ∈ s.parkingSessions, r.isActive request.vehicleNumber = true ∧
      r.startTime ≤ request.parkingEndTime ∧ 0 < request.parkingEndTime)
  stopped : request.action = .endParking → response.status = .success →
    s'.parkingCities = s.parkingCities ∧
    ∃ before r after, s.parkingSessions = before ++ r :: after ∧
      r.isActive request.vehicleNumber = true ∧
      s'.parkingSessions = before ++
        { r with endTime := some request.parkingEndTime, cost := some response.parkingCost } :: after
  other : request.action ≠ .startParking → request.action ≠ .endParking →
    response.status ≠ .success
  unchanged : response.status ≠ .success → s' = s

/-- The id of the first city at the coordinates, cut to a C `int`, is positive and
the id of a city at the coordinates. -/
def Identifies : Prop :=
  ∀ found ∈ s.parkingCities.find? (·.contains request.latitude request.longitude),
    0 < columnInt found.id ∧ ∃ c ∈ s.parkingCities, c.id = columnInt found.id ∧
      c.contains request.latitude request.longitude = true

/-- The request starts no legitimate session in a city that is not identified, and
ends no session of infinite price in the second it started. -/
def Regular : Prop :=
  match request.action with
  | .startParking => 0 < request.parkingStartTime →
      (∀ r ∈ s.parkingSessions, ¬ r.isActive request.vehicleNumber = true) → Identifies s request
  | .endParking => 0 < request.parkingEndTime →
      ∀ r ∈ s.parkingSessions, r.isActive request.vehicleNumber = true →
        ¬ (r.pricePerMinute = .posInf ∧ r.startTime = request.parkingEndTime)
  | _ => True

end Exact

section Exactness

variable {db : Sqlite} {rowid : Int} {s s' : Store} {request : TcpToDatabaseMessage}
  {response : DatabaseToTcpMessage}

theorem RequestEffect.of_start (h : RequestEffect db s request s' response)
    (hstart : request.action = .startParking) (hstatus : response.status = .success) :
    ∃ found city,
      s.parkingCities.find? (·.contains request.latitude request.longitude) = some found ∧
      city ∈ s.parkingCities ∧ city.id = columnInt found.id ∧ 0 < request.parkingStartTime ∧
      (∀ r ∈ s.parkingSessions, ¬ r.isActive request.vehicleNumber = true) ∧
      s' = { s with
        parkingSessions := s.parkingSessions.orderedInsert (·.id ≤ ·.id)
          (startedSession db.rowid request.vehicleNumber request.latitude request.longitude
            city.id city.pricePerMinute request.parkingStartTime) } := by
  cases h with
  | refused status => exact absurd hstatus status
  | started found city _ _ _ positive idle chosen mem cityId =>
    exact ⟨found, city, chosen, mem, cityId, positive, idle, rfl⟩
  | ended _ isEnd => cases hstart.symm.trans isEnd

theorem RequestEffect.of_end (h : RequestEffect db s request s' response)
    (hend : request.action = .endParking) (hstatus : response.status = .success) :
    ∃ row, s.selectActive request.vehicleNumber = some row ∧
      row.startTime ≤ request.parkingEndTime ∧
      response.parkingCost =
        calculatedCost row.startTime request.parkingEndTime row.pricePerMinute ∧
      s' = s.closeSession request.parkingEndTime (bindDouble response.parkingCost) row.id := by
  cases h with
  | refused status => exact absurd hstatus status
  | started _ _ isStart => cases hend.symm.trans isStart
  | ended row _ _ _ _ _ active order _ _ _ _ cost =>
    exact ⟨row, active, order, cost, by rw [cost]⟩

theorem RequestEffect.action_of_success (h : RequestEffect db s request s' response)
    (hstatus : response.status = .success) :
    request.action = .startParking ∨ request.action = .endParking := by
  cases h with
  | refused status => exact absurd hstatus status
  | started _ _ isStart => exact .inl isStart
  | ended _ isEnd => exact .inr isEnd

theorem findCity_spec {found : City}
    (h : s.parkingCities.find? (·.contains request.latitude request.longitude) = some found) :
    found ∈ s.parkingCities ∧ found.contains request.latitude request.longitude = true :=
  ⟨List.mem_of_find?_eq_some h,
    List.find?_some (p := fun c : City => c.contains request.latitude request.longitude) h⟩

theorem status_start (hstart : request.action = .startParking) {found : City}
    (hfound : s.parkingCities.find? (·.contains request.latitude request.longitude) = some found) :
    (processDatabaseRequest ⟨.succeed, rowid⟩ s request).2.status = .success ↔
      (startParking ⟨.succeed, rowid⟩ s (some request.vehicleNumber) request.latitude
        request.longitude (columnInt found.id) request.parkingStartTime).2 = true := by
  simp only [processDatabaseRequest, hstart, processStartParkingRequest, findCity_succeed, hfound,
    Option.map_some]
  split <;> simp [*]

theorem status_end {db : Sqlite} {response : DatabaseToTcpMessage} :
    (processEndParkingRequest db s request response).2.status =
      if (stopParking db s (some request.vehicleNumber) request.parkingEndTime).2.isSome then
        .success else .vehicleNotFound := by
  simp only [processEndParkingRequest]
  split <;> simp [*]

theorem start_success_iff (hw : s.WellFormed) (hstart : request.action = .startParking)
    {found : City}
    (hfound : s.parkingCities.find? (·.contains request.latitude request.longitude) = some found) :
    (processDatabaseRequest ⟨.succeed, rowid⟩ s request).2.status = .success ↔
      0 < columnInt found.id ∧ 0 < request.parkingStartTime ∧
        (∀ r ∈ s.parkingSessions, ¬ r.isActive request.vehicleNumber = true) ∧
        ∃ c ∈ s.parkingCities, c.id = columnInt found.id := by
  obtain ⟨hlat, hlon⟩ := City.contains_defined (findCity_spec hfound).2
  rw [status_start hstart hfound, startParking_succeed hlat hlon]
  rintro c hc hnan
  have hprice := (hw.cities c hc).price
  rw [hnan] at hprice
  cases hprice

theorem end_success_iff (hw : s.WellFormed) (hend : request.action = .endParking) :
    (processDatabaseRequest ⟨.succeed, rowid⟩ s request).2.status = .success ↔
      ∃ r ∈ s.parkingSessions, r.isActive request.vehicleNumber = true ∧
        r.startTime ≤ request.parkingEndTime ∧ 0 < request.parkingEndTime := by
  have hstatus : (processDatabaseRequest ⟨.succeed, rowid⟩ s request).2.status = .success ↔
      (stopParking ⟨.succeed, rowid⟩ s (some request.vehicleNumber)
        request.parkingEndTime).2.isSome = true := by
    simp only [processDatabaseRequest, hend, status_end]
    split <;> simp [*]
  rw [hstatus, stopParking_isSome]
  constructor
  · rintro ⟨hpos, -, -, row, hrow, horder⟩
    obtain ⟨hmem, hactive⟩ := Store.selectActive_eq_some hrow
    exact ⟨row, hmem, Session.isActive_iff.mpr hactive, horder, hpos⟩
  · rintro ⟨r, hr, ha, horder, hpos⟩
    refine ⟨hpos, Outcomes.runs_succeed .., Outcomes.runs_succeed .., ?_⟩
    cases hrow : s.selectActive request.vehicleNumber with
    | none => exact absurd ha (Store.selectActive_eq_none.mp hrow r hr)
    | some row =>
      obtain ⟨hmem, hactive⟩ := Store.selectActive_eq_some hrow
      obtain rfl := hw.active_unique hmem (Session.isActive_iff.mpr hactive) hr ha
      exact ⟨r, rfl, horder⟩

theorem city_unique (hw : s.WellFormed) {c c' : City} (hc : c ∈ s.parkingCities)
    (hc' : c' ∈ s.parkingCities) (hid : c.id = c'.id) : c = c' :=
  List.inj_on_of_nodup_map hw.cityIds hc hc' hid

theorem Identifies.of_regular (hr : Regular s request) (hstart : request.action = .startParking)
    (hpos : 0 < request.parkingStartTime)
    (hidle : ∀ r ∈ s.parkingSessions, ¬ r.isActive request.vehicleNumber = true) :
    Identifies s request := by
  simp only [Regular, hstart] at hr
  exact hr hpos hidle

theorem cost_defined (hw : s.WellFormed) (hr : Regular s request)
    (hend : request.action = .endParking) {row : Session}
    (hrow : s.selectActive request.vehicleNumber = some row)
    (horder : row.startTime ≤ request.parkingEndTime) :
    calculatedCost row.startTime request.parkingEndTime row.pricePerMinute ≠ .nan := by
  obtain ⟨hmem, hactive⟩ := Store.selectActive_eq_some hrow
  have hwf := hw.sessions row hmem
  have hpos : 0 < request.parkingEndTime := Int64.lt_of_lt_of_le hwf.start horder
  simp only [Regular, hend] at hr
  intro hnan
  exact hr hpos row hmem (Session.isActive_iff.mpr hactive)
    ((calculatedCost_eq_nan hwf.start horder hwf.price).mp hnan)

theorem processedExactly_of_regular (hw : s.WellFormed) (hr : Regular s request) :
    ProcessedExactly rowid s request (processDatabaseRequest ⟨.succeed, rowid⟩ s request).1
      (processDatabaseRequest ⟨.succeed, rowid⟩ s request).2 where
  requestId := processDatabaseRequest_requestId
  start hstart := by
    constructor
    · intro hstatus
      obtain ⟨found, -, hfound, -, -, hpos, hidle, -⟩ := requestEffect.of_start hstart hstatus
      exact ⟨⟨found, findCity_spec hfound⟩, hpos, hidle⟩
    · rintro ⟨⟨c, hc, hat⟩, hpos, hidle⟩
      cases hfind : s.parkingCities.find? (·.contains request.latitude request.longitude) with
      | none => exact absurd hat (List.find?_eq_none.mp hfind c hc)
      | some found =>
        obtain ⟨hid, c', hc', hc'id, -⟩ :=
          Identifies.of_regular hr hstart hpos hidle found hfind
        exact (start_success_iff hw hstart hfind).mpr ⟨hid, hpos, hidle, c', hc', hc'id⟩
  started hstart hstatus := by
    obtain ⟨found, city, hfound, hcity, hid, hpos, hidle, hs'⟩ :=
      requestEffect.of_start hstart hstatus
    obtain ⟨-, c, hc, hcid, hat⟩ := Identifies.of_regular hr hstart hpos hidle found hfound
    obtain rfl := city_unique hw hcity hc (hid.trans hcid.symm)
    rw [hs']
    exact ⟨rfl, city, hcity, hat, List.perm_orderedInsert _ _ _⟩
  stop hend := end_success_iff hw hend
  stopped hend hstatus := by
    obtain ⟨row, hrow, horder, hcost, hs'⟩ := requestEffect.of_end hend hstatus
    obtain ⟨hmem, hactive⟩ := Store.selectActive_eq_some hrow
    have hdefined := cost_defined hw hr hend hrow horder
    rw [← hcost] at hdefined
    obtain ⟨before, after, hsplit, hclosed⟩ := Store.closeSession_split hw.sessionIds hmem
      request.parkingEndTime (bindDouble _)
    rw [hs']
    refine ⟨rfl, before, row, after, hsplit, Session.isActive_iff.mpr hactive, ?_⟩
    rw [hclosed, bindDouble_eq_some.mpr ⟨rfl, hdefined⟩]
  other hstart hend hstatus :=
    (requestEffect.action_of_success hstatus).elim hstart hend
  unchanged := requestEffect.unchanged_of_not_success

theorem identifies_of_processedExactly (hw : s.WellFormed) (hstart : request.action = .startParking)
    (h : ProcessedExactly rowid s request (processDatabaseRequest ⟨.succeed, rowid⟩ s request).1
      (processDatabaseRequest ⟨.succeed, rowid⟩ s request).2)
    (hpos : 0 < request.parkingStartTime)
    (hidle : ∀ r ∈ s.parkingSessions, ¬ r.isActive request.vehicleNumber = true) :
    Identifies s request := by
  intro found hfound
  have hstatus := (h.start hstart).mpr ⟨⟨found, findCity_spec hfound⟩, hpos, hidle⟩
  refine ⟨((start_success_iff hw hstart hfound).mp hstatus).1, ?_⟩
  obtain ⟨found', city, hfound', hcity, hid, -, -, hs'⟩ := requestEffect.of_start hstart hstatus
  obtain rfl := Option.some.inj (hfound.symm.trans hfound')
  obtain ⟨-, c, hc, hat, hperm⟩ := h.started hstart hstatus
  rw [hs'] at hperm
  -- both are the inserted row in front of the old ones
  have hrow := (List.perm_orderedInsert _ _ _).symm.trans hperm
  rw [← Multiset.coe_eq_coe, ← Multiset.cons_coe, ← Multiset.cons_coe,
    Multiset.cons_inj_left] at hrow
  exact ⟨c, hc, (congrArg Session.cityId hrow).symm.trans hid, hat⟩

theorem cost_of_processedExactly (hw : s.WellFormed) (hend : request.action = .endParking)
    (h : ProcessedExactly rowid s request (processDatabaseRequest ⟨.succeed, rowid⟩ s request).1
      (processDatabaseRequest ⟨.succeed, rowid⟩ s request).2)
    (hpos : 0 < request.parkingEndTime) {r : Session} (hr : r ∈ s.parkingSessions)
    (ha : r.isActive request.vehicleNumber = true) :
    ¬ (r.pricePerMinute = .posInf ∧ r.startTime = request.parkingEndTime) := by
  rintro ⟨hprice, htime⟩
  have hwf := hw.sessions r hr
  have horder : r.startTime ≤ request.parkingEndTime := Int64.le_of_eq htime
  have hstatus := (h.stop hend).mpr ⟨r, hr, ha, horder, hpos⟩
  obtain ⟨row, hrow, -, hcost, hs'⟩ := requestEffect.of_end hend hstatus
  obtain ⟨hmem, hactive⟩ := Store.selectActive_eq_some hrow
  obtain rfl := hw.active_unique hr ha hmem (Session.isActive_iff.mpr hactive)
  have hnan := (calculatedCost_eq_nan hwf.start horder hwf.price).mpr ⟨hprice, htime⟩
  obtain ⟨-, before, r', after, hsplit, ha', hsessions⟩ := h.stopped hend hstatus
  obtain rfl := hw.active_unique hr ha (by simp [hsplit]) ha'
  obtain ⟨before', after', hsplit', hclosed⟩ := Store.closeSession_split hw.sessionIds hmem
    request.parkingEndTime none
  rw [hs', hcost, hnan, bindDouble, hclosed] at hsessions
  -- the row with a cost can only be one of the old ones, which has another id
  have hcosted : { r' with endTime := some request.parkingEndTime, cost := some Double.nan } ∈
      before' ++ { r' with endTime := some request.parkingEndTime, cost := none } :: after' := by
    simp [hsessions]
  rcases List.mem_cons.mp (List.perm_middle.mem_iff.mp hcosted) with heq | hold
  · cases congrArg Session.cost heq
  · have hold : { r' with endTime := some request.parkingEndTime, cost := some Double.nan } ∈
        s.parkingSessions := by
      rw [hsplit']
      exact List.perm_middle.mem_iff.mpr (List.mem_cons_of_mem _ hold)
    have heq := List.inj_on_of_nodup_map hw.sessionIds hold hr rfl
    have hopen := (Session.isActive_iff.mp ha).2
    rw [← heq] at hopen
    cases hopen

/-- With every SQLite call succeeding, a request is processed exactly when it is regular. -/
theorem processed_exactly_iff (s : Store) (hw : s.WellFormed) (rowid : Int)
    (request : TcpToDatabaseMessage) :
    ProcessedExactly rowid s request (processDatabaseRequest ⟨.succeed, rowid⟩ s request).1
        (processDatabaseRequest ⟨.succeed, rowid⟩ s request).2 ↔ Regular s request := by
  constructor
  · intro h
    rw [Regular]
    split
    · exact identifies_of_processedExactly hw ‹_› h
    · exact fun hpos r hr ha => cost_of_processedExactly hw ‹_› h hpos hr ha
    · exact trivial
  · exact processedExactly_of_regular hw

end Exactness

def startAt16 : TcpToDatabaseMessage := ⟨7, .startParking, [65], .finite 16, .finite 16, 100, 0⟩

theorem processed_exactly_iff_telAviv :
    ProcessedExactly 1 Store.initial startAt16
      (processDatabaseRequest ⟨.succeed, 1⟩ Store.initial startAt16).1
      (processDatabaseRequest ⟨.succeed, 1⟩ Store.initial startAt16).2 :=
  (processed_exactly_iff Store.initial .initial 1 startAt16).mpr fun _ _ => by
    unfold Identifies
    decide +kernel

def infinitelyParked : Store where
  parkingCities := [⟨4, cityNamed "Eilat", .finite 0, .finite 1, .finite 0, .finite 1, .posInf⟩]
  parkingSessions := [startedSession 1 [65] (.finite 0) (.finite 0) 4 .posInf 100]

theorem infinitelyParked_wellFormed : infinitelyParked.WellFormed where
  cityIds := by decide
  cityNames := by decide
  cities := by
    intro c hc
    obtain rfl := List.mem_singleton.mp hc
    exact ⟨by decide, by decide, by decide⟩
  sessionIds := by decide
  sessions := by
    intro r hr
    obtain rfl := List.mem_singleton.mp hr
    exact ⟨by decide, by decide, by decide, fun _ h => by cases h⟩
  singleActive _ := List.countP_le_length

/-- Ended in the second it started, it costs no number: the row gets an end and
no cost. -/
theorem not_always_processed_exactly :
    ¬ ∀ s : Store, s.WellFormed → ∀ rowid request, ProcessedExactly rowid s request
      (processDatabaseRequest ⟨.succeed, rowid⟩ s request).1
      (processDatabaseRequest ⟨.succeed, rowid⟩ s request).2 := by
  intro h
  have hexact := h infinitelyParked infinitelyParked_wellFormed 2
    ⟨8, .endParking, [65], .finite 0, .finite 0, 0, 100⟩
  exact cost_of_processedExactly infinitelyParked_wellFormed rfl hexact (by decide)
    List.mem_cons_self (by decide) ⟨rfl, rfl⟩

-- ---------------------------------------------------------------------------
-- VEHICLE_NOT_FOUND
-- ---------------------------------------------------------------------------

section NotFound

variable (db : Sqlite) (s : Store) (request : TcpToDatabaseMessage)

def Absent : Prop := ∀ r ∈ s.parkingSessions, ¬ r.isActive request.vehicleNumber = true

/-- `sqlite_database_stop_parking` has no other reason to fail than that it finds no
active session: the end is positive and not before the start, and no call fails. -/
structure Stoppable : Prop where
  positive : 0 < request.parkingEndTime
  selects : db.ok.runs .selectSession 1 = true
  updates : db.ok.runs .updateSession 3 = true
  order : ∀ row ∈ s.selectActive request.vehicleNumber, row.startTime ≤ request.parkingEndTime

theorem vehicle_not_found_iff (response : DatabaseToTcpMessage) :
    ((processEndParkingRequest db s request response).2.status = .vehicleNotFound →
      Absent s request) ↔ Absent s request ∨ Stoppable db s request := by
  have hstatus : (processEndParkingRequest db s request response).2.status = .vehicleNotFound ↔
      ¬ (stopParking db s (some request.vehicleNumber) request.parkingEndTime).2.isSome = true := by
    rw [status_end]
    split <;> simp [*]
  rw [hstatus, stopParking_isSome]
  constructor
  · intro h
    by_cases habsent : Absent s request
    · exact .inl habsent
    · obtain ⟨hpos, hselect, hupdate, row, hrow, horder⟩ := not_not.mp (mt h habsent)
      refine .inr ⟨hpos, hselect, hupdate, ?_⟩
      rintro row' hrow'
      obtain rfl := Option.some.inj (hrow.symm.trans hrow')
      exact horder
  · rintro (habsent | hstop) hfails
    · exact habsent
    · cases hrow : s.selectActive request.vehicleNumber with
      | none => exact Store.selectActive_eq_none.mp hrow
      | some row =>
        exact absurd ⟨hstop.positive, hstop.selects, hstop.updates, row, hrow, hstop.order row hrow⟩
          hfails

end NotFound

def lockedOut : Outcomes := fun statement call => !(statement == .updateSession && call == .step)

/-- The vehicle is parked, and stays so. -/
theorem not_always_vehicle_not_found :
    ¬ ∀ db s request response,
      (processEndParkingRequest db s request response).2.status = .vehicleNotFound →
        Absent s request := by
  intro h
  have habsent := h ⟨lockedOut, 0⟩ infinitelyParked
    ⟨8, .endParking, [65], .finite 0, .finite 0, 0, 160⟩ .zero (by decide)
  exact habsent _ List.mem_cons_self (by decide)

end ParkingSystem
