import ParkingSystem.CityIds

/-!
# A START, statement by statement

`process_start_parking_request` runs four SQL statements: it looks the city up
by its area, checks that the vehicle is not parked, looks the price up by the id
of the city, and inserts the session. They are no transaction, so PriceUpdater's
statements can come between them. `start_priced` says that a session is priced
by the city it is in unless the id that was found comes to name another city
before the price is looked up.
-/

namespace ParkingSystem

open Runs (run Along)

inductive StartPc where
  | findCity
  | checkActive (cityId : Int)
  | selectPrice (cityId : Int)
  | insert (cityId : Int) (price : Double)
  | failed (status : IpcStatus)
  | inserted (row : Session)
  deriving DecidableEq

structure StartRun where
  store : Store
  pc : StartPc
  deriving DecidableEq

inductive StartAction where
  | statement (ok : Outcomes)
  | priceUpdater (ok : Outcomes) (op : StoreOp)

/-- The id under which the price will be looked up. -/
def StartPc.cityId : StartPc → Option Int
  | .checkActive cityId | .selectPrice cityId => some cityId
  | _ => none

def StartPc.status : StartPc → Option IpcStatus
  | .failed status => some status
  | .inserted _ => some .success
  | _ => none

namespace StartRun

variable (request : TcpToDatabaseMessage)

def statement (s : StartRun) (ok : Outcomes) : Option StartRun :=
  match s.pc with
  | .findCity =>
    match ParkingSystem.findCity ⟨ok, s.store.nextSessionId⟩ s.store request.latitude
      request.longitude with
    | none => some { s with pc := .failed .invalidRequest }
    | some cityId =>
      if cityId ≤ 0 ∨ request.parkingStartTime ≤ 0 then
        some { s with pc := .failed .databaseError }
      else some { s with pc := .checkActive cityId }
  | .checkActive cityId =>
    if !ok.runs .activeSession 1 then some { s with pc := .failed .databaseError }
    else if (s.store.selectActiveId request.vehicleNumber).isSome then
      some { s with pc := .failed .databaseError }
    else some { s with pc := .selectPrice cityId }
  | .selectPrice cityId =>
    if !ok.runs .selectPrice 1 then some { s with pc := .failed .databaseError }
    else
      match s.store.selectPrice cityId with
      | none => some { s with pc := .failed .databaseError }
      | some price => some { s with pc := .insert cityId price }
  | .insert cityId price =>
    if !ok.runs .insertSession 6 then some { s with pc := .failed .databaseError }
    else
      match s.store.insertSession s.store.nextSessionId request.vehicleNumber
        (bindDouble request.latitude) (bindDouble request.longitude) cityId (bindDouble price)
        request.parkingStartTime with
      | none => some { s with pc := .failed .databaseError }
      | some store =>
        some ⟨store, .inserted (startedSession s.store.nextSessionId request.vehicleNumber
          request.latitude request.longitude cityId price request.parkingStartTime)⟩
  | .failed _ | .inserted _ => none

def step (s : StartRun) : StartAction → Option StartRun
  | .statement ok => s.statement request ok
  | .priceUpdater ok op =>
    if op.onCities then some { s with store := op.exec ⟨ok, s.store.nextCityId⟩ s.store } else none

/-- Whichever city has the id contains the coordinates of the request. -/
def Located (store : Store) (cityId : Int) : Prop :=
  ∀ c ∈ store.parkingCities, c.id = cityId → c.contains request.latitude request.longitude = true

/-- The id that is found, cut to a C `int`, names no city elsewhere, and until
the price is looked up it is given to no city elsewhere. -/
def KeepsPlace (s : StartRun) : StartAction → Prop
  | .statement _ => s.pc = .findCity →
    ∀ found ∈ s.store.parkingCities.find? (·.contains request.latitude request.longitude),
      Located request s.store (columnInt found.id)
  | .priceUpdater ok op => ∀ cityId ∈ s.pc.cityId,
    Located request (op.exec ⟨ok, s.store.nextCityId⟩ s.store) cityId

instance (store : Store) (cityId : Int) : Decidable (Located request store cityId) :=
  inferInstanceAs (Decidable (∀ c ∈ store.parkingCities, _))

instance (s : StartRun) (a : StartAction) : Decidable (s.KeepsPlace request a) := by
  cases a <;> unfold KeepsPlace <;> infer_instance

-- ---------------------------------------------------------------------------
-- Without interruption
-- ---------------------------------------------------------------------------

/-- The statements that are left, in a row, end in this store and answer. -/
def Completes (ok : Outcomes) (s : StartRun) (store : Store) (status : IpcStatus) : Prop :=
  ∃ n t, run (step request) s (List.replicate n (.statement ok)) = some t ∧ t.store = store ∧
    t.pc.status = some status

variable {request} {ok : Outcomes} {s : StartRun} {store : Store} {status : IpcStatus}

theorem Completes.done (h : s.pc.status = some status) : Completes request ok s s.store status :=
  ⟨0, s, rfl, rfl, h⟩

theorem Completes.step (next : StartRun) (hs : s.statement request ok = some next)
    (h : Completes request ok next store status) : Completes request ok s store status := by
  obtain ⟨n, t, hr, hstore, hstatus⟩ := h
  exact ⟨n + 1, t, Runs.run_cons.mpr ⟨next, hs, hr⟩, hstore, hstatus⟩

theorem completes_startParking {store : Store} {cityId : Int}
    (hargs : ¬ (cityId ≤ 0 ∨ request.parkingStartTime ≤ 0)) :
    Completes request ok ⟨store, .checkActive cityId⟩
      (startParking ⟨ok, store.nextSessionId⟩ store (some request.vehicleNumber) request.latitude
        request.longitude cityId request.parkingStartTime).1
      (if (startParking ⟨ok, store.nextSessionId⟩ store (some request.vehicleNumber)
        request.latitude request.longitude cityId request.parkingStartTime).2 then .success
        else .databaseError) := by
  simp only [startParking, if_neg hargs]
  split
  · exact .step ⟨store, .failed .databaseError⟩ (by simp [statement, *]) (.done rfl)
  split
  · exact .step ⟨store, .failed .databaseError⟩ (by simp [statement, *]) (.done rfl)
  refine .step ⟨store, .selectPrice cityId⟩ (by simp [statement, *]) ?_
  split
  · exact .step ⟨store, .failed .databaseError⟩ (by simp [statement, *]) (.done rfl)
  split
  · exact .step ⟨store, .failed .databaseError⟩ (by simp [statement, *]) (.done rfl)
  rename_i price _
  refine .step ⟨store, .insert cityId price⟩ (by simp [statement, *]) ?_
  split
  · exact .step ⟨store, .failed .databaseError⟩ (by simp [statement, *]) (.done rfl)
  split
  · rename_i store' _
    exact .step ⟨store', .inserted _⟩ (by simp [statement, *]; rfl) (.done rfl)
  · exact .step ⟨store, .failed .databaseError⟩ (by simp [statement, *]) (.done rfl)

/-- Statements in a row are `process_start_parking_request`. -/
theorem completes_process (store : Store) (response : DatabaseToTcpMessage) :
    Completes request ok ⟨store, .findCity⟩
      (processStartParkingRequest ⟨ok, store.nextSessionId⟩ store request response).1
      (processStartParkingRequest ⟨ok, store.nextSessionId⟩ store request response).2.status := by
  simp only [processStartParkingRequest]
  split
  · rename_i hfind
    exact .step ⟨store, .failed .invalidRequest⟩ (by simp [statement, hfind]) (.done rfl)
  · rename_i cityId hfind
    by_cases hargs : cityId ≤ 0 ∨ request.parkingStartTime ≤ 0
    · have hsp : startParking ⟨ok, store.nextSessionId⟩ store (some request.vehicleNumber)
          request.latitude request.longitude cityId request.parkingStartTime = (store, false) := by
        simp [startParking, hargs]
      rw [hsp]
      exact .step ⟨store, .failed .databaseError⟩ (by simp [statement, hfind, hargs]) (.done rfl)
    · have hrest : Completes request ok ⟨store, .checkActive cityId⟩ _ _ :=
        completes_startParking hargs
      refine .step ⟨store, .checkActive cityId⟩ (by simp [statement, hfind, hargs]) ?_
      split <;> simpa [*] using hrest

-- ---------------------------------------------------------------------------
-- What one step can do
-- ---------------------------------------------------------------------------

inductive Change (request : TcpToDatabaseMessage) (s : StartRun) : StartAction → StartRun → Prop
  | failed (status : IpcStatus) : Change request s a { s with pc := .failed status }
  | found (ok : Outcomes) (c : City) (pc : s.pc = .findCity)
      (chosen : s.store.parkingCities.find?
        (·.contains request.latitude request.longitude) = some c) :
      Change request s (.statement ok) { s with pc := .checkActive (columnInt c.id) }
  | idle (cityId : Int) (pc : s.pc = .checkActive cityId) :
      Change request s a { s with pc := .selectPrice cityId }
  | priced (c : City) (pc : s.pc = .selectPrice c.id) (mem : c ∈ s.store.parkingCities) :
      Change request s a { s with pc := .insert c.id c.pricePerMinute }
  | inserted (row : Session) (pc : s.pc = .insert row.cityId row.pricePerMinute)
      (latitude : row.latitude = request.latitude)
      (longitude : row.longitude = request.longitude) :
      Change request s a
        ⟨{ s.store with
          parkingSessions := s.store.parkingSessions.orderedInsert (·.id ≤ ·.id) row },
        .inserted row⟩
  | priceUpdater (ok : Outcomes) (op : StoreOp)
      (sessions : (op.exec ⟨ok, s.store.nextCityId⟩ s.store).parkingSessions =
        s.store.parkingSessions) :
      Change request s (.priceUpdater ok op)
        { s with store := op.exec ⟨ok, s.store.nextCityId⟩ s.store }

theorem statement_cases {t : StartRun} (h : s.statement request ok = some t) :
    Change request s (.statement ok) t := by
  obtain ⟨store, pc⟩ := s
  simp only [statement] at h
  split at h
  · split at h
    · cases h
      exact .failed _
    · rename_i hfind
      obtain ⟨c, hc, rfl⟩ := findCity_cases hfind
      split at h <;> cases h
      · exact .failed _
      · exact .found ok c rfl hc
  · split at h
    · cases h
      exact .failed _
    split at h <;> cases h
    · exact .failed _
    · exact .idle _ rfl
  · split at h
    · cases h
      exact .failed _
    split at h <;> cases h
    · exact .failed _
    · rename_i hprice
      obtain ⟨c, hc, rfl, rfl⟩ := Store.selectPrice_eq_some hprice
      exact .priced c rfl hc
  · split at h
    · cases h
      exact .failed _
    split at h <;> cases h
    · exact .failed _
    · rename_i hins
      obtain ⟨a, b, p, ha, hb, hp, rfl⟩ := Store.insertSession_cases hins
      obtain ⟨rfl, -⟩ := bindDouble_eq_some.mp ha
      obtain ⟨rfl, -⟩ := bindDouble_eq_some.mp hb
      obtain ⟨rfl, -⟩ := bindDouble_eq_some.mp hp
      exact .inserted _ rfl rfl rfl
  · cases h
  · cases h

theorem change_of_step {t : StartRun} {a : StartAction} (h : s.step request a = some t) :
    Change request s a t := by
  cases a with
  | statement ok => exact statement_cases h
  | priceUpdater ok op =>
    simp only [StartRun.step] at h
    split at h
    · rename_i hop
      cases h
      have hcall : s.store.step ⟨op, ⟨ok, s.store.nextCityId⟩⟩ =
          some (op.exec ⟨ok, s.store.nextCityId⟩ s.store) := rfl
      exact .priceUpdater ok op (sessions_of_onCities hop hcall)
    · cases h

-- ---------------------------------------------------------------------------
-- Runs
-- ---------------------------------------------------------------------------

/-- At some instant of the run one city had the id, contained the coordinates of
the request and asked this price. -/
def Priced (request : TcpToDatabaseMessage) (start : Store) (actions : List StartAction)
    (cityId : Int) (price : Double) : Prop :=
  ∃ before after s c, actions = before ++ after ∧
    run (step request) ⟨start, .findCity⟩ before = some s ∧ c ∈ s.store.parkingCities ∧
    c.id = cityId ∧ c.contains request.latitude request.longitude = true ∧
    c.pricePerMinute = price

theorem Priced.append {start : Store} {actions : List StartAction} {cityId : Int} {price : Double}
    (h : Priced request start actions cityId price) (a : StartAction) :
    Priced request start (actions ++ [a]) cityId price := by
  obtain ⟨before, after, u, c, rfl, hrest⟩ := h
  exact ⟨before, after ++ [a], u, c, List.append_assoc _ _ _, hrest⟩

structure Inv (request : TcpToDatabaseMessage) (start : Store) (actions : List StartAction)
    (s : StartRun) : Prop where
  located : ∀ cityId ∈ s.pc.cityId, Located request s.store cityId
  priced : ∀ cityId price, s.pc = .insert cityId price →
    Priced request start actions cityId price
  inserted : ∀ row, s.pc = .inserted row → row ∈ s.store.parkingSessions ∧
    row.latitude = request.latitude ∧ row.longitude = request.longitude ∧
    Priced request start actions row.cityId row.pricePerMinute

theorem Inv.step {start : Store} {actions : List StartAction} {a : StartAction} {t : StartRun}
    (v : Inv request start actions s) (hrun : run (step request) ⟨start, .findCity⟩ actions = some s)
    (hc : s.KeepsPlace request a) (h : Change request s a t) :
    Inv request start (actions ++ [a]) t := by
  cases h with
  | failed status => exact ⟨by simp [StartPc.cityId], by simp, by simp⟩
  | found ok c pc chosen =>
    refine ⟨?_, by simp, by simp⟩
    rintro cityId ⟨⟩
    exact hc pc c chosen
  | idle cityId pc =>
    refine ⟨?_, by simp, by simp⟩
    rintro cityId' ⟨⟩
    exact v.located cityId (by simp [pc, StartPc.cityId])
  | priced c pc mem =>
    refine ⟨by simp [StartPc.cityId], ?_, by simp⟩
    rintro cityId price ⟨⟩
    -- The price is looked up now, and whichever city has the id is the right one.
    have hplace := v.located c.id (by simp [pc, StartPc.cityId]) c mem rfl
    exact ⟨actions, [a], s, c, rfl, hrun, mem, rfl, hplace, rfl⟩
  | inserted row pc latitude longitude =>
    refine ⟨by simp [StartPc.cityId], by simp, ?_⟩
    rintro row' ⟨⟩
    exact ⟨(List.mem_orderedInsert _).mpr (.inl rfl), latitude, longitude,
      (v.priced _ _ pc).append a⟩
  | priceUpdater ok op sessions =>
    refine ⟨hc, fun cityId price pc => (v.priced cityId price pc).append _, fun row pc => ?_⟩
    obtain ⟨hmem, hlat, hlon, hpriced⟩ := v.inserted row pc
    exact ⟨sessions ▸ hmem, hlat, hlon, hpriced.append _⟩

end StartRun

open StartRun

/-- While the id that was found stays with a city that contains the coordinates,
a session that is inserted has the id and the price that one city, containing
its coordinates, had at some instant during the request. -/
theorem start_priced (request : TcpToDatabaseMessage) (start : Store) (actions : List StartAction)
    (t : StartRun) (row : Session)
    (hr : run (StartRun.step request) ⟨start, .findCity⟩ actions = some t)
    (hrow : t.pc = .inserted row)
    (hplace : Along (StartRun.step request) (KeepsPlace request) ⟨start, .findCity⟩ actions) :
    row ∈ t.store.parkingSessions ∧ ∃ before after s c, actions = before ++ after ∧
      run (StartRun.step request) ⟨start, .findCity⟩ before = some s ∧
      c ∈ s.store.parkingCities ∧ c.id = row.cityId ∧
      c.contains row.latitude row.longitude = true ∧ c.pricePerMinute = row.pricePerMinute := by
  have v : Inv request start actions t := Runs.invariant_history
    ⟨by simp [StartPc.cityId], by simp, by simp⟩
    (fun _ _ _ _ hrun v hc h => v.step hrun hc (change_of_step h)) hr hplace
  obtain ⟨hmem, hlat, hlon, hpriced⟩ := v.inserted row hrow
  rw [hlat, hlon]
  exact ⟨hmem, hpriced⟩

/-- The price of Jerusalem rises between the lookup of the city and that of the
price. -/
def repricedActions : List StartAction :=
  [.statement .succeed,
   .priceUpdater .succeed (.updateCityPrice (some (cityNamed "Jerusalem")) (.finite 7)),
   .statement .succeed, .statement .succeed, .statement .succeed]

def repriced : StartRun :=
  (run (StartRun.step parkInJerusalem) ⟨Store.initial, .findCity⟩ repricedActions).get
    (by decide +kernel)

theorem start_priced_repriced :
    ⟨1, [65], .finite 35, .finite 35, 3, .finite 7, 100, none, none⟩ ∈
      repriced.store.parkingSessions :=
  (start_priced parkInJerusalem Store.initial repricedActions repriced _ (Option.some_get _).symm
    (by decide +kernel) (by decide +kernel)).1

/-- Jerusalem makes room for Eilat, under the same id, in the same place. -/
def reassignedActions : List StartAction :=
  [.statement .succeed,
   .priceUpdater .succeed (.deleteCity (some (cityNamed "Jerusalem"))),
   .priceUpdater .succeed addEilat,
   .statement .succeed, .statement .succeed, .statement .succeed]

theorem not_always_priced :
    ¬ ∀ (request : TcpToDatabaseMessage) (start : Store) (actions : List StartAction)
      (t : StartRun) (row : Session),
      run (StartRun.step request) ⟨start, .findCity⟩ actions = some t → t.pc = .inserted row →
      ∃ before after s c, actions = before ++ after ∧
        run (StartRun.step request) ⟨start, .findCity⟩ before = some s ∧
        c ∈ s.store.parkingCities ∧ c.id = row.cityId ∧
        c.contains row.latitude row.longitude = true ∧ c.pricePerMinute = row.pricePerMinute := by
  intro h
  obtain ⟨before, after, s, c, hsplit, hs, hc, hid, hplace, hprice⟩ :=
    h parkInJerusalem Store.initial reassignedActions
      ((run (StartRun.step parkInJerusalem) ⟨Store.initial, .findCity⟩ reassignedActions).get
        (by decide +kernel))
      ⟨1, [65], .finite 35, .finite 35, 3, .finite 9, 100, none, none⟩ (Option.some_get _).symm
      (by decide +kernel)
  have hnever : ∀ n ≤ 6, (run (StartRun.step parkInJerusalem) ⟨Store.initial, .findCity⟩
      (reassignedActions.take n)).all (fun s => ∀ c ∈ s.store.parkingCities, c.id = 3 →
        c.contains (.finite 35) (.finite 35) = true → c.pricePerMinute ≠ .finite 9) = true := by
    decide +kernel
  have hlength : before.length ≤ 6 := by
    have := congrArg List.length hsplit
    simp only [reassignedActions, List.length_append, List.length_cons, List.length_nil] at this
    omega
  have htake : reassignedActions.take before.length = before := by
    rw [hsplit, List.take_left]
  have hthis := hnever before.length hlength
  rw [htake, hs] at hthis
  exact of_decide_eq_true hthis c hc hid hplace hprice

end ParkingSystem
