import ParkingSystem.SqliteCalls

/-!
# What the calls come to

Each function of the library, run call by call, returns what the function of the same name
returns on the tables, leaves the tables that it leaves and no statement that is not
finalized; a table that is missing makes it fail. It writes at most once, so that a process
killed in the middle of a call leaves the file as it was before the call or as it is after.
-/

namespace ParkingSystem

def getCity (ok : SqliteCall → Bool) (s : Store) (cityId : Int) (citySize : Nat) : Option City :=
  if cityId ≤ 0 ∨ citySize = 0 then none
  else if !ok .prepare || !ok (.bind 1) || !ok .step then none
  else
    (s.parkingCities.find? fun c => c.id = cityId).map fun c =>
      { c with city := snprintf citySize c.city }

namespace Tables

variable {α : Type} {t : Tables}

/-- What a call that needs `parking_cities` comes to. -/
def onCities (t : Tables) (failed : α) (r : Store × α) : Tables × α :=
  if t.parkingCities.isSome then (t.withCities r.1, r.2) else (t, failed)

def onSessions (t : Tables) (failed : α) (r : Store × α) : Tables × α :=
  if t.parkingSessions.isSome then (t.withSessions r.1, r.2) else (t, failed)

@[simp] theorem onCities_failed (t : Tables) (a : α) : t.onCities a (t.store, a) = (t, a) := by
  obtain ⟨- | cities, sessions⟩ := t <;> rfl

theorem onCities_missing (h : t.parkingCities.isSome = false) (a : α) (r : Store × α) :
    t.onCities a r = (t, a) :=
  if_neg (by simp [h])

theorem onCities_there (h : t.parkingCities.isSome = true) (a : α) (r : Store × α) :
    t.onCities a r = (t.withCities r.1, r.2) :=
  if_pos h

theorem onSessions_there (h : t.parkingSessions.isSome = true) (a : α) (r : Store × α) :
    t.onSessions a r = (t.withSessions r.1, r.2) :=
  if_pos h

theorem onSessions_missing (h : t.parkingSessions.isSome = false) (a : α) (r : Store × α) :
    t.onSessions a r = (t, a) :=
  if_neg (by simp [h])

theorem onCities_same (t : Tables) (a b : α) :
    t.onCities a (t.store, b) = (t, if t.parkingCities.isSome then b else a) := by
  obtain ⟨- | cities, sessions⟩ := t <;> rfl

@[simp] theorem onSessions_failed (t : Tables) (a : α) : t.onSessions a (t.store, a) = (t, a) := by
  obtain ⟨cities, - | sessions⟩ := t <;> rfl

end Tables

namespace SqliteCalls

open Sql

variable {db : Sqlite} {t : Tables} {α : Type}

/-- The call returns `r.2` and leaves `r.1`. -/
def Meets (p : Call α) (t : Tables) (r : Tables × α) : Prop := Returns p t r.2 r.1 true

theorem Meets.failed {a : α} {r : Tables × α} (h : r = (t, a)) : Meets (pure a) t r := by
  subst h
  exact .pure a t

theorem Meets.isOpen {p : Call α} {a : α} {r : Tables × α} (h : Meets p t r) :
    Meets (isOpen >>= fun isOpen => if ¬ isOpen then pure a else p) t r :=
  Returns.isOpen h

theorem Meets.ite {p : Call α} {a : α} {r : Tables × α} {c : Prop} [Decidable c]
    (refused : c → r = (t, a)) (passed : ¬ c → Meets p t r) :
    Meets (if c then pure a else p) t r := by
  split
  · exact .failed (refused ‹_›)
  · exact passed ‹_›

/-- A table that the statement needs is not there, or `prepare` fails otherwise. -/
theorem Meets.prepare {text : SqlText} {ok : Bool} {f : Option Nat → Call α} {r : Tables × α}
    (failed : (ok && text.compiles t) = false → Meets (f none) t r)
    (prepared : ok = true → text.compiles t = true → ∀ statement n,
      ReturnsWith statement ⟨text, fun _ => none, []⟩ n (f (some statement)) t r.2 r.1 true) :
    Meets (Sql.prepare text ok >>= f) t r := by
  cases hprepare : ok && text.compiles t with
  | false => exact Returns.prepare_failed hprepare (failed hprepare)
  | true =>
    obtain ⟨hok, hcompiles⟩ := Bool.and_eq_true_iff.mp hprepare
    exact Returns.prepare hok hcompiles (prepared hok hcompiles)

@[simp] theorem toReal_real (x : Double) : (real x).bind Value.toReal = bindDouble x := by
  cases x <;> rfl

@[simp] theorem toReal_bound (ok : Outcomes) (statement : Statement) (index : Nat) (x : Double) :
    (if ok statement (.bind index) then real x else none).bind Value.toReal =
      ok.bound statement index (bindDouble x) := by
  unfold Outcomes.bound
  split
  · exact toReal_real x
  · rfl

@[simp] theorem toText_bound (ok : Outcomes) (statement : Statement) (index : Nat) (x : Text) :
    (if ok statement (.bind index) then some (.text x) else none).bind Value.toText =
      ok.bound statement index (some x) := by
  unfold Outcomes.bound
  split <;> rfl

theorem Meets.write {statement n : Nat} {s : Prepared SqlText} {rowid : Int} {ok : Bool}
    {f : StepResult → Call α} {r : Tables × α} (written : Option (Tables × Nat))
    (effect : s.text.exec s.parameters rowid t = written.map fun w => ⟨some w.1, w.2, []⟩)
    (failed : ok = false ∨ written = none → ReturnsWith statement s n (f .error) t r.2 r.1 true)
    (done : ok = true → ∀ w, written = some w →
      w.1 = r.1 ∧ ReturnsWith statement s w.2 (f .done) w.1 r.2 w.1 false) :
    ReturnsWith statement s n (step statement rowid ok >>= f) t r.2 r.1 true := by
  cases ok with
  | false => exact .step_failed (.inl rfl) (failed (.inl rfl))
  | true =>
    cases written with
    | none => exact .step_failed (.inr effect) (failed (.inr rfl))
    | some w =>
      obtain ⟨hcontent, hrest⟩ := done rfl w rfl
      rw [← hcontent]
      exact .step_wrote rfl effect hrest

theorem Meets.select {β : Type} {statement n : Nat} {s : Prepared SqlText} {rowid : Int} {ok : Bool}
    {f : StepResult → Call α} {r : Tables × α} (found : Option β) (row : β → List Value)
    (effect : s.text.exec s.parameters rowid t =
      some ⟨none, 0, found.toList.map fun x => (row x).map some⟩)
    (failed : ok = false → ReturnsWith statement s n (f .error) t r.2 r.1 true)
    (done : ok = true → found = none → ReturnsWith statement s n (f .done) t r.2 r.1 true)
    (hit : ok = true → ∀ x, found = some x →
      ReturnsWith statement { s with row := (row x).map some } n (f .row) t r.2 r.1 true) :
    ReturnsWith statement s n (step statement rowid ok >>= f) t r.2 r.1 true := by
  cases ok with
  | false => exact .step_failed (.inl rfl) (failed rfl)
  | true =>
    cases found with
    | none => exact .step_done rfl effect (done rfl rfl)
    | some x => exact .step_row rfl effect (hit rfl x rfl)

theorem addCity_meets {city : Option Text} {a b c d price : Double} {r : Tables × Bool}
    (hr : t.onCities false (ParkingSystem.addCity db t.store city a b c d price) = r) :
    Meets (addCity db city a b c d price) t r := by
  unfold ParkingSystem.addCity at hr
  unfold addCity
  refine .isOpen ?_
  cases city with
  | none => exact .failed (by simp [← hr])
  | some name =>
    refine .ite (fun hargs => by simp [← hr, hargs]) fun hargs => ?_
    refine .prepare (fun hfailed => .failed ?_) fun hok hcities statement n => ?_
    · rcases Bool.and_eq_false_iff.mp hfailed with hok | hcities
      · simp [← hr, hok]
      · exact hr ▸ Tables.onCities_missing hcities _ _
    refine .bindValue (.bindValue (.bindValue (.bindValue (.bindValue (.bindValue ?_)))))
    obtain ⟨inserted, hinserted⟩ : ∃ x, t.store.insertCity db.rowid
      (db.ok.bound .addCity 1 (some name)) (db.ok.bound .addCity 2 (bindDouble a))
      (db.ok.bound .addCity 3 (bindDouble b)) (db.ok.bound .addCity 4 (bindDouble c))
      (db.ok.bound .addCity 5 (bindDouble d)) (db.ok.bound .addCity 6 (bindDouble price)) = x :=
      ⟨_, rfl⟩
    refine Meets.write (inserted.map fun s => (t.withCities s, 1)) ?_ ?_ ?_
    · simp [hinserted, SqlText.exec, Prepared.parameters_bound, Function.comp_def]
    · rintro (hstep | hinsert)
      · exact .finalize (Meets.failed (by simp [← hr, hstep]))
      · obtain rfl : inserted = none := by simpa using hinsert
        exact .finalize (Meets.failed (by simp [← hr, hinserted]))
    · rintro hstep w hw
      obtain ⟨s', rfl, rfl⟩ := Option.map_eq_some_iff.mp hw
      obtain rfl : r = (t.withCities s', true) := by
        simp [← hr, Tables.onCities_there hcities, hok, hstep, hargs, hinserted]
      exact ⟨rfl, .finalize (.pure true _)⟩

theorem updateCityPrice_meets {city : Option Text} {price : Double} {r : Tables × Bool}
    (hr : t.onCities false (ParkingSystem.updateCityPrice db t.store city price) = r) :
    Meets (updateCityPrice db city price) t r := by
  unfold ParkingSystem.updateCityPrice at hr
  unfold updateCityPrice
  refine .isOpen ?_
  cases city with
  | none => exact .failed (by simp [← hr])
  | some name =>
    refine .ite (fun hprice => by simp [← hr, hprice]) fun hprice => ?_
    refine .prepare (fun hfailed => .failed ?_) fun hok hcities statement n => ?_
    · rcases Bool.and_eq_false_iff.mp hfailed with hok | hcities
      · simp [← hr, hok]
      · exact hr ▸ Tables.onCities_missing hcities _ _
    refine .bindValue (.bindValue ?_)
    obtain ⟨updated, hupdated⟩ : ∃ x, t.store.setCityPrice
      (db.ok.bound .updateCityPrice 1 (bindDouble price))
      (db.ok.bound .updateCityPrice 2 (some name)) = x := ⟨_, rfl⟩
    refine Meets.write (updated.map fun w => (t.withCities w.1, w.2)) ?_ ?_ ?_
    · simp [hupdated, SqlText.exec, Prepared.parameters_bound, Function.comp_def]
    · rintro (hstep | hupdate)
      · exact .finalize (Meets.failed (by simp [← hr, hstep]))
      · obtain rfl : updated = none := by simpa using hupdate
        exact .finalize (Meets.failed (by simp [← hr, hupdated]))
    · rintro hstep w hw
      obtain ⟨⟨s', changes⟩, rfl, rfl⟩ := Option.map_eq_some_iff.mp hw
      obtain rfl : r = (t.withCities s', decide (changes ≠ 0)) := by
        simp [← hr, Tables.onCities_there hcities, hok, hstep, hprice, hupdated]
      refine ⟨rfl, .changes ?_⟩
      by_cases hchanges : changes = 0
      · simpa [hchanges] using ReturnsWith.finalize (.pure false _)
      · simpa [hchanges] using ReturnsWith.finalize (.pure true _)

theorem deleteCity_meets {city : Option Text} {r : Tables × Bool}
    (hr : t.onCities false (ParkingSystem.deleteCity db t.store city) = r) :
    Meets (deleteCity db city) t r := by
  unfold ParkingSystem.deleteCity at hr
  unfold deleteCity
  refine .isOpen ?_
  cases city with
  | none => exact .failed (by simp [← hr])
  | some name =>
    refine .prepare (fun hfailed => .failed ?_) fun hok hcities statement n => .bindValue ?_
    · rcases Bool.and_eq_false_iff.mp hfailed with hok | hcities
      · simp [← hr, hok]
      · exact hr ▸ Tables.onCities_missing hcities _ _
    obtain ⟨removed, hremoved⟩ : ∃ x, t.store.removeCity (db.ok.bound .deleteCity 1 (some name)) = x :=
      ⟨_, rfl⟩
    refine Meets.write (some (t.withCities removed.1, removed.2)) ?_ ?_ ?_
    · simp [hremoved, SqlText.exec, Prepared.parameters_bound]
    · rintro (hstep | hnone)
      · exact .finalize (Meets.failed (by simp [← hr, hstep]))
      · cases hnone
    · rintro hstep w hw
      obtain rfl := Option.some.inj hw
      obtain rfl : r = (t.withCities removed.1, decide (removed.2 ≠ 0)) := by
        simp [← hr, Tables.onCities_there hcities, hok, hstep, hremoved]
      refine ⟨rfl, .changes ?_⟩
      by_cases hchanges : removed.2 = 0
      · simpa [hchanges] using ReturnsWith.finalize (.pure false _)
      · simpa [hchanges] using ReturnsWith.finalize (.pure true _)

theorem findCity_meets {latitude longitude : Double} {r : Tables × Option Int}
    (hr : t.onCities none (t.store, ParkingSystem.findCity db t.store latitude longitude) = r) :
    Meets (findCity db latitude longitude) t r := by
  unfold ParkingSystem.findCity at hr
  unfold findCity
  refine .isOpen (.prepare (fun hfailed => .failed ?_) fun hok hcities statement n => ?_)
  · rcases Bool.and_eq_false_iff.mp hfailed with hok | hcities
    · simp [← hr, hok]
    · exact hr ▸ Tables.onCities_missing hcities _ _
  refine .bindValue (.bindValue (.bindValue (.bindValue ?_)))
  have there : t.parkingCities.isSome = true := hcities
  obtain ⟨found, hfound⟩ : ∃ x, t.store.selectCityAt (db.ok.bound .findCity 1 (bindDouble latitude))
    (db.ok.bound .findCity 2 (bindDouble latitude)) (db.ok.bound .findCity 3 (bindDouble longitude))
    (db.ok.bound .findCity 4 (bindDouble longitude)) = x := ⟨_, rfl⟩
  refine Meets.select found (fun id => [.integer id]) ?_ ?_ ?_ ?_
  · simp [hfound, SqlText.exec, Prepared.parameters_bound]
  · intro hstep
    exact .finalize (Meets.failed (by simp [← hr, hstep]))
  · rintro - rfl
    exact .finalize (Meets.failed (by simp [← hr, hfound]))
  · rintro hstep id rfl
    obtain rfl : r = (t, some (columnInt id)) := by
      simp [← hr, Tables.onCities_same, there, hok, hstep, hfound]
    exact .column (.finalize (.pure _ _))

theorem getCity_meets {ok : SqliteCall → Bool} {cityId : Int} {citySize : Nat}
    {r : Tables × Option City}
    (hr : t.onCities none (t.store, ParkingSystem.getCity ok t.store cityId citySize) = r) :
    Meets (getCity ok cityId citySize) t r := by
  unfold ParkingSystem.getCity at hr
  unfold getCity
  refine .isOpen (.ite (fun hargs => by simp [← hr, hargs]) fun hargs => ?_)
  refine .prepare (fun hfailed => .failed ?_) fun hok hcities statement n => .bindValue ?_
  · rcases Bool.and_eq_false_iff.mp hfailed with hok | hcities
    · simp [← hr, hok]
    · exact hr ▸ Tables.onCities_missing hcities _ _
  have there : t.parkingCities.isSome = true := hcities
  obtain ⟨found, hfound⟩ : ∃ x, t.store.parkingCities.find? (fun c => c.id = cityId) = x :=
    ⟨_, rfl⟩
  cases hbind : ok (.bind 1) with
  | false =>
    refine Meets.select (none : Option City) (fun _ => []) ?_ ?_ ?_ ?_
    · simp [SqlText.exec, Prepared.parameters_bound]
    · intro hstep
      exact .finalize (Meets.failed (by simp [← hr, hbind]))
    · rintro - -
      exact .finalize (Meets.failed (by simp [← hr, hbind]))
    · intro _ c hc
      exact absurd hc (by simp)
  | true =>
    refine Meets.select found (fun c => [.text c.city, .real c.minLatitude,
      .real c.maxLatitude, .real c.minLongitude, .real c.maxLongitude, .real c.pricePerMinute]) ?_ ?_
      ?_ ?_
    · simp [SqlText.exec, Prepared.parameters_bound, Value.toInteger, hfound]
    · intro hstep
      exact .finalize (Meets.failed (by simp [← hr, hstep]))
    · rintro - rfl
      exact .finalize (Meets.failed (by simp [← hr, hfound]))
    · rintro hstep c rfl
      have hid : c.id = cityId := by simpa using List.find?_some hfound
      obtain rfl : r = (t, some { c with city := snprintf citySize c.city }) := by
        simp [← hr, Tables.onCities_same, there, hok, hbind, hstep, hargs, hfound]
      rw [← hid]
      exact .column (.column (.column (.column (.column (.column (.finalize (.pure _ _)))))))

theorem runs_one (ok : Outcomes) (statement : Statement) :
    ok.runs statement 1 = (ok statement .prepare && ok statement (.bind 1) && ok statement .step) := by
  simp [Outcomes.runs, List.range_succ]

theorem insertSession_meets {vehicle : Text} {latitude longitude : Double} {cityId : Int}
    {price : Double} {startTime : Int64} {r : Tables × Bool}
    (hr : t.onSessions false
      (if !db.ok.runs .insertSession 6 then (t.store, false)
      else
        (t.store.insertSession db.rowid vehicle (bindDouble latitude) (bindDouble longitude) cityId
          (bindDouble price) startTime).elim (t.store, false) fun s' => (s', true)) = r) :
    Meets (insertSession db vehicle latitude longitude cityId price startTime) t r := by
  unfold insertSession
  refine .prepare (fun hfailed => .failed ?_) fun hprepare hsessions insert n => ?_
  · rcases Bool.and_eq_false_iff.mp hfailed with hok | hsessions
    · simp [← hr, hok, Outcomes.runs]
    · exact hr ▸ Tables.onSessions_missing hsessions _ _
  have there : t.parkingSessions.isSome = true := hsessions
  have hstart : Int64.ofInt startTime.toInt = startTime := Int64.ofInt_toInt _
  let values : List (Nat × Option Value × Bool) :=
    [(1, some (.text vehicle), db.ok .insertSession (.bind 1)),
     (2, real latitude, db.ok .insertSession (.bind 2)),
     (3, real longitude, db.ok .insertSession (.bind 3)),
     (4, some (.integer cityId), db.ok .insertSession (.bind 4)),
     (5, real price, db.ok .insertSession (.bind 5)),
     (6, some (.integer startTime.toInt), db.ok .insertSession (.bind 6))]
  have hall : (∀ v ∈ values, v.2.2 = true) ↔
      (List.range 6).all (fun i => db.ok .insertSession (.bind (i + 1))) = true := by
    simp [values, List.range_succ]
  by_cases hbound : ∀ v ∈ values, v.2.2 = true
  · obtain ⟨inserted, hinserted⟩ : ∃ x, t.store.insertSession db.rowid vehicle
      (bindDouble latitude) (bindDouble longitude) cityId (bindDouble price) startTime = x := ⟨_, rfl⟩
    refine .bindAll hbound (Meets.write
      (inserted.map fun s => (t.withSessions s, 1)) ?_ ?_ ?_)
    · simp [SqlText.exec, Prepared.parameters_bound, Value.toText, Value.toInteger, hstart,
        hinserted]
      cases inserted <;> rfl
    · rintro (hinsert | hinsert)
      · exact .finalize (Meets.failed (by simp [← hr, hinsert, Outcomes.runs]))
      · obtain rfl : inserted = none := by simpa using hinsert
        exact .finalize (Meets.failed (by simp [← hr, hinserted]))
    · rintro hinsert w hw
      obtain ⟨s', rfl, rfl⟩ := Option.map_eq_some_iff.mp hw
      have hruns : db.ok.runs .insertSession 6 = true := by
        rw [Outcomes.runs, hprepare, hall.mp hbound, hinsert]
        rfl
      obtain rfl : r = (t.withSessions s', true) := by
        simp [← hr, Tables.onSessions_there there, hruns, hinserted]
      exact ⟨rfl, .finalize (.pure true _)⟩
  · refine .bindAll_failed hbound fun s => .finalize (Meets.failed ?_)
    have hbinds := Bool.eq_false_iff.mpr fun h => hbound (hall.mpr h)
    simp [← hr, Outcomes.runs, hbinds]

theorem startParking_meets {vehicleNumber : Option Text} {latitude longitude : Double} {cityId : Int}
    {startTime : Int64} {r : Tables × Bool}
    (hr : t.onSessions false
      (ParkingSystem.startParking db t.store vehicleNumber latitude longitude cityId startTime) = r) :
    Meets (startParking db vehicleNumber latitude longitude cityId startTime) t r := by
  unfold ParkingSystem.startParking at hr
  unfold startParking
  refine .isOpen ?_
  cases vehicleNumber with
  | none => exact .failed (by simp [← hr])
  | some vehicle =>
    refine .ite (fun hargs => by simp [← hr, hargs]) fun hargs => ?_
    refine .prepare (fun hfailed => .failed ?_) fun hprepare hsessions active n => .bindValue ?_
    · rcases Bool.and_eq_false_iff.mp hfailed with hok | hsessions
      · simp [← hr, hok, runs_one]
      · exact hr ▸ Tables.onSessions_missing hsessions _ _
    cases hbind : db.ok .activeSession (.bind 1) with
    | false => exact .finalize (Meets.failed (by simp [← hr, hbind, runs_one]))
    | true =>
      obtain ⟨parked, hparked⟩ : ∃ x, t.store.selectActiveId vehicle = x := ⟨_, rfl⟩
      refine Meets.select parked (fun id => [.integer id]) ?_ ?_ ?_ ?_
      · simp [SqlText.exec, Prepared.parameters_bound, Value.toText, hparked]
      · intro hstep
        exact .finalize (Meets.failed (by simp [← hr, hstep, runs_one]))
      · rintro hactive rfl
        have hruns : db.ok.runs .activeSession 1 = true := by
          simp [runs_one, hprepare, hbind, hactive]
        refine .finalize (Meets.prepare (fun hfailed => .failed ?_)
          fun hprepare hcities price n => .bindValue ?_)
        · rcases Bool.and_eq_false_iff.mp hfailed with hok | hcities
          · simp [← hr, hok, runs_one]
          · have hnone : t.store.selectPrice cityId = none := by
              have hmissing : t.parkingCities = none := by simpa [SqlText.compiles] using hcities
              simp [Tables.store, Store.selectPrice, hmissing]
            simp [← hr, hnone]
        cases hbind : db.ok .selectPrice (.bind 1) with
        | false => exact .finalize (Meets.failed (by simp [← hr, hbind, runs_one]))
        | true =>
          obtain ⟨tariff, htariff⟩ : ∃ x, t.store.selectPrice cityId = x := ⟨_, rfl⟩
          refine Meets.select tariff (fun x => [.real x]) ?_ ?_ ?_ ?_
          · simp [SqlText.exec, Prepared.parameters_bound, Value.toInteger, htariff]
          · intro hstep
            exact .finalize (Meets.failed (by simp [← hr, hstep, runs_one]))
          · rintro - rfl
            exact .finalize (Meets.failed (by simp [← hr, htariff]))
          · rintro hstep pricePerMinute rfl
            have hruns' : db.ok.runs .selectPrice 1 = true := by
              simp [runs_one, hprepare, hbind, hstep]
            refine .column (.finalize ?_)
            show Meets (insertSession db vehicle latitude longitude cityId pricePerMinute startTime) t r
            refine insertSession_meets ?_
            rw [← hr]
            simp only [hargs, hruns, hparked, hruns', htariff, if_false, Bool.not_true,
              Option.isSome_none, Bool.false_eq_true]
            cases t.store.insertSession db.rowid vehicle (bindDouble latitude)
              (bindDouble longitude) cityId (bindDouble pricePerMinute) startTime <;> rfl
      · rintro - id rfl
        exact .finalize (Meets.failed (by simp [← hr, hparked]))

theorem updateSession_meets {endTime : Int64} {row : Session} {r : Tables × Option (Int64 × Double)}
    (hr : t.onSessions none
      (if endTime < row.startTime then (t.store, none)
      else
        let cost := calculatedCost row.startTime endTime row.pricePerMinute
        if !db.ok.runs .updateSession 3 then (t.store, none)
        else
          (t.store.closeSession endTime (bindDouble cost) row.id, some (row.startTime, cost))) = r) :
    Meets (updateSession db endTime row.id row.startTime row.pricePerMinute) t r := by
  unfold updateSession
  refine .ite (fun horder => by simp [← hr, horder]) fun horder => ?_
  refine .prepare (fun hfailed => .failed ?_) fun hprepare hsessions update n => ?_
  · rcases Bool.and_eq_false_iff.mp hfailed with hok | hsessions
    · simp [← hr, horder, hok, Outcomes.runs]
    · exact hr ▸ Tables.onSessions_missing hsessions _ _
  have there : t.parkingSessions.isSome = true := hsessions
  have hend : Int64.ofInt endTime.toInt = endTime := Int64.ofInt_toInt _
  let cost := calculatedCost row.startTime endTime row.pricePerMinute
  let values : List (Nat × Option Value × Bool) :=
    [(1, some (.integer endTime.toInt), db.ok .updateSession (.bind 1)),
     (2, real cost, db.ok .updateSession (.bind 2)),
     (3, some (.integer row.id), db.ok .updateSession (.bind 3))]
  have hall : (∀ v ∈ values, v.2.2 = true) ↔
      (List.range 3).all (fun i => db.ok .updateSession (.bind (i + 1))) = true := by
    simp [values, List.range_succ]
  by_cases hbound : ∀ v ∈ values, v.2.2 = true
  · refine .bindAll hbound (Meets.write (
      some (t.withSessions (t.store.closeSession endTime (bindDouble cost) row.id), 1)) ?_ ?_ ?_)
    · simp [cost, SqlText.exec, Prepared.parameters_bound, Value.toInteger, hend]
    · rintro (hupdate | hupdate)
      · exact .finalize (Meets.failed (by simp [← hr, horder, hupdate, Outcomes.runs]))
      · cases hupdate
    · rintro hupdate w hw
      obtain rfl := Option.some.inj hw
      have hruns : db.ok.runs .updateSession 3 = true := by
        rw [Outcomes.runs, hprepare, hall.mp hbound, hupdate]
        rfl
      obtain rfl : r = (t.withSessions (t.store.closeSession endTime (bindDouble cost) row.id),
          some (row.startTime, cost)) := by
        simp [← hr, Tables.onSessions_there there, horder, hruns, cost]
      exact ⟨rfl, .finalize (.pure _ _)⟩
  · refine .bindAll_failed hbound fun s => .finalize (Meets.failed ?_)
    have hbinds := Bool.eq_false_iff.mpr fun h => hbound (hall.mpr h)
    simp [← hr, horder, Outcomes.runs, hbinds]

theorem stopParking_meets {vehicleNumber : Option Text} {endTime : Int64}
    {r : Tables × Option (Int64 × Double)}
    (hr : t.onSessions none (ParkingSystem.stopParking db t.store vehicleNumber endTime) = r) :
    Meets (stopParking db vehicleNumber endTime) t r := by
  unfold ParkingSystem.stopParking at hr
  unfold stopParking
  refine .isOpen ?_
  cases vehicleNumber with
  | none => exact .failed (by simp [← hr])
  | some vehicle =>
    refine .ite (fun hargs => by simp [← hr, hargs]) fun hargs => ?_
    refine .prepare (fun hfailed => .failed ?_) fun hprepare hsessions select n => .bindValue ?_
    · rcases Bool.and_eq_false_iff.mp hfailed with hok | hsessions
      · simp [← hr, hok, runs_one]
      · exact hr ▸ Tables.onSessions_missing hsessions _ _
    cases hbind : db.ok .selectSession (.bind 1) with
    | false => exact .finalize (Meets.failed (by simp [← hr, hbind, runs_one]))
    | true =>
      obtain ⟨active, hactive⟩ : ∃ x, t.store.selectActive vehicle = x := ⟨_, rfl⟩
      refine Meets.select active (fun row =>
        [.integer row.id, .integer row.startTime.toInt, .real row.pricePerMinute]) ?_ ?_ ?_ ?_
      · simp [SqlText.exec, Prepared.parameters_bound, Value.toText, hactive]
      · intro hstep
        exact .finalize (Meets.failed (by simp [← hr, hstep, runs_one]))
      · rintro - rfl
        exact .finalize (Meets.failed (by simp [← hr, hactive]))
      · rintro hselect row rfl
        have hruns : db.ok.runs .selectSession 1 = true := by
          simp [runs_one, hprepare, hbind, hselect]
        refine .column (.column (.column (.finalize ?_)))
        show Meets (updateSession db endTime row.id (.ofInt row.startTime.toInt) row.pricePerMinute) t r
        rw [Int64.ofInt_toInt]
        exact updateSession_meets (by simpa [hargs, hruns, hactive] using hr)

end SqliteCalls

end ParkingSystem
