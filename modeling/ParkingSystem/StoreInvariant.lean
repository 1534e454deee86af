import ParkingSystem.Lib.Runs
import ParkingSystem.SqliteDatabase

/-!
# The store over whole runs of the library

`Store.WellFormed` is the invariant of the two tables. Every call keeps it but
one: a session at an infinite price that ends in the second it started costs
zero minutes times infinity, a NaN, which SQLite stores as NULL. The row is
then closed and has no cost. `store_wellFormed_iff_costDefined` says that this
is the only way out of the invariant.
-/

namespace ParkingSystem

structure City.WellFormed (c : City) : Prop where
  latitude : c.minLatitude < c.maxLatitude
  longitude : c.minLongitude < c.maxLongitude
  price : 0 ≤ c.pricePerMinute

structure Session.WellFormed (r : Session) : Prop where
  start : 0 < r.startTime
  price : 0 ≤ r.pricePerMinute
  closed : r.endTime = none ↔ r.cost = none
  order : ∀ e, r.endTime = some e → r.startTime ≤ e

structure Store.WellFormed (s : Store) : Prop where
  cityIds : (s.parkingCities.map City.id).Nodup
  cityNames : (s.parkingCities.map City.city).Nodup
  cities : ∀ c ∈ s.parkingCities, c.WellFormed
  sessionIds : (s.parkingSessions.map Session.id).Nodup
  sessions : ∀ r ∈ s.parkingSessions, r.WellFormed
  singleActive : ∀ v, s.parkingSessions.countP (·.isActive v) ≤ 1

/-- The closed rows of `s` are still there, unmodified, in `t`. -/
def Store.Keeps (s t : Store) : Prop :=
  ∀ r ∈ s.parkingSessions, r.endTime ≠ none → r ∈ t.parkingSessions

-- ---------------------------------------------------------------------------
-- Runs
-- ---------------------------------------------------------------------------

inductive StoreOp where
  | addCity (city : Option Text)
      (minLatitude maxLatitude minLongitude maxLongitude pricePerMinute : Double)
  | updateCityPrice (city : Option Text) (pricePerMinute : Double)
  | deleteCity (city : Option Text)
  | startParking (vehicleNumber : Option Text) (latitude longitude : Double) (cityId : Int)
      (startTime : Int64)
  | stopParking (vehicleNumber : Option Text) (endTime : Int64)

def StoreOp.onCities : StoreOp → Bool
  | .addCity .. | .updateCityPrice .. | .deleteCity .. => true
  | .startParking .. | .stopParking .. => false

structure StoreCall where
  op : StoreOp
  db : Sqlite

def StoreOp.exec (db : Sqlite) (s : Store) : StoreOp → Store
  | .addCity city a b c d price => (ParkingSystem.addCity db s city a b c d price).1
  | .updateCityPrice city price => (ParkingSystem.updateCityPrice db s city price).1
  | .deleteCity city => (ParkingSystem.deleteCity db s city).1
  | .startParking v a b cityId startTime => (ParkingSystem.startParking db s v a b cityId startTime).1
  | .stopParking v endTime => (ParkingSystem.stopParking db s v endTime).1

def Store.step (s : Store) (call : StoreCall) : Option Store := some (call.op.exec call.db s)

/-- SQLite gives an inserted row an id that no row of the table has. -/
def StoreCall.Fresh (s : Store) (call : StoreCall) : Prop :=
  match call.op with
  | .addCity .. => call.db.rowid ∉ s.parkingCities.map City.id
  | .startParking .. => call.db.rowid ∉ s.parkingSessions.map Session.id
  | _ => True

instance (s : Store) (call : StoreCall) : Decidable (call.Fresh s) := by
  unfold StoreCall.Fresh
  split <;> infer_instance

/-- The call does not end, in the second it started, a session whose price is
infinite. -/
def StoreCall.CostDefined (s : Store) (call : StoreCall) : Prop :=
  match call.op with
  | .stopParking (some v) endTime =>
    call.db.ok.runs .selectSession 1 = true → call.db.ok.runs .updateSession 3 = true →
      ∀ row ∈ s.selectActive v, ¬ (row.pricePerMinute = .posInf ∧ row.startTime = endTime)
  | _ => True

instance (s : Store) (call : StoreCall) : Decidable (call.CostDefined s) := by
  unfold StoreCall.CostDefined
  split <;> infer_instance

-- ---------------------------------------------------------------------------
-- Cost
-- ---------------------------------------------------------------------------

theorem toInt_pos {a : Int64} (h : 0 < a) : 0 < a.toInt := by
  simpa using Int64.lt_iff_toInt_lt.mp h

theorem durationSeconds_toInt {startTime endTime : Int64} (hs : 0 < startTime)
    (h : startTime ≤ endTime) :
    (endTime - startTime).toInt = endTime.toInt - startTime.toInt := by
  have hs := toInt_pos hs
  have h := Int64.le_iff_toInt_le.mp h
  have he := endTime.toInt_lt
  rw [Int64.toInt_sub]
  exact Int.bmod_eq_of_le (by omega) (by omega)

theorem durationMinutes_toInt_eq {startTime endTime : Int64} (hs : 0 < startTime)
    (h : startTime ≤ endTime) :
    (durationMinutes startTime endTime).toInt =
      (((endTime.toInt - startTime.toInt + 59).bmod (2 ^ 64)).tdiv 60).bmod (2 ^ 64) := by
  have hsixty : (60 : Int64).toInt = 60 := by decide
  have hround : (59 : Int64).toInt = 59 := by decide
  rw [durationMinutes, Int64.toInt_div, Int64.toInt_add, durationSeconds_toInt hs h, hsixty, hround]

theorem durationMinutes_toInt {startTime endTime : Int64} (hs : 0 < startTime)
    (h : startTime ≤ endTime) (hfits : endTime.toInt - startTime.toInt + 59 < 2 ^ 63) :
    (durationMinutes startTime endTime).toInt = (endTime.toInt - startTime.toInt + 59) / 60 := by
  have hle := Int64.le_iff_toInt_le.mp h
  have hsum : (endTime.toInt - startTime.toInt + 59).bmod (2 ^ 64) =
      endTime.toInt - startTime.toInt + 59 := Int.bmod_eq_of_le (by omega) (by omega)
  rw [durationMinutes_toInt_eq hs h, hsum, Int.tdiv_eq_ediv_of_nonneg (by omega),
    Int.bmod_eq_of_le (by omega) (by omega)]

/-- Past the end of `int64_t` the sum wraps around to a negative number of minutes. -/
theorem durationMinutes_neg {startTime endTime : Int64} (hs : 0 < startTime)
    (h : startTime ≤ endTime) (hwraps : 2 ^ 63 ≤ endTime.toInt - startTime.toInt + 59) :
    (durationMinutes startTime endTime).toInt < 0 := by
  have hpos := toInt_pos hs
  have he := endTime.toInt_lt
  have hwrap : (endTime.toInt - startTime.toInt + 59).bmod (2 ^ 64) =
      -(2 ^ 64 - (endTime.toInt - startTime.toInt + 59)) := by
    rw [← Int.sub_bmod_right, Int.bmod_eq_of_le (by omega) (by omega)]
    omega
  rw [durationMinutes_toInt_eq hs h, hwrap, Int.neg_tdiv, Int.tdiv_eq_ediv_of_nonneg (by omega),
    Int.bmod_eq_of_le (by omega) (by omega)]
  omega

theorem durationMinutes_eq_zero {startTime endTime : Int64} (hs : 0 < startTime)
    (h : startTime ≤ endTime) :
    (durationMinutes startTime endTime).toInt = 0 ↔ startTime = endTime := by
  have hle := Int64.le_iff_toInt_le.mp h
  by_cases hfits : endTime.toInt - startTime.toInt + 59 < 2 ^ 63
  · rw [durationMinutes_toInt hs h hfits, ← Int64.toInt_inj]
    omega
  · have hneg := durationMinutes_neg hs h (by omega)
    have he := endTime.toInt_lt
    rw [← Int64.toInt_inj]
    omega

theorem calculatedCost_eq_nan {startTime endTime : Int64} {price : Double} (hs : 0 < startTime)
    (h : startTime ≤ endTime) (hprice : 0 ≤ price) :
    calculatedCost startTime endTime price = .nan ↔ price = .posInf ∧ startTime = endTime := by
  rw [calculatedCost, Double.ofInt_mul_eq_nan hprice, durationMinutes_eq_zero hs h]

-- ---------------------------------------------------------------------------
-- Every statement keeps the invariant
-- ---------------------------------------------------------------------------

/-- A closed session leaves its place in the table to its closed form. -/
theorem Store.closeSession_split {s : Store} (hids : (s.parkingSessions.map Session.id).Nodup)
    {row : Session} (hmem : row ∈ s.parkingSessions) (endTime : Int64) (cost : Option Double) :
    ∃ before after, s.parkingSessions = before ++ row :: after ∧
      (s.closeSession endTime cost row.id).parkingSessions =
        before ++ { row with endTime := some endTime, cost := cost } :: after := by
  obtain ⟨before, after, hsplit⟩ := List.append_of_mem hmem
  refine ⟨before, after, hsplit, ?_⟩
  rw [hsplit, List.map_append, List.map_cons, List.nodup_middle, List.nodup_cons] at hids
  have hother : ∀ r ∈ before ++ after, (if r.id = row.id then
      { r with endTime := some endTime, cost := cost } else r) = r := by
    intro r hr
    refine if_neg fun hid => hids.1 ?_
    rw [← List.map_append, ← hid]
    exact List.mem_map_of_mem hr
  simp only [Store.closeSession, hsplit, List.map_append, List.map_cons, if_pos]
  congr 1
  · exact (List.map_congr_left fun r hr => hother r (List.mem_append_left _ hr)).trans
      (List.map_id' before)
  · congr 1
    exact (List.map_congr_left fun r hr => hother r (List.mem_append_right _ hr)).trans
      (List.map_id' after)

namespace Store.WellFormed

variable {s : Store}

theorem initial : Store.initial.WellFormed where
  cityIds := by decide
  cityNames := by decide
  cities := by
    intro c hc
    simp only [Store.initial, List.mem_cons, List.not_mem_nil, or_false] at hc
    rcases hc with rfl | rfl | rfl <;> exact ⟨by decide +kernel, by decide +kernel, by decide +kernel⟩
  sessionIds := by decide
  sessions := by simp [Store.initial]
  singleActive := by simp [Store.initial]

theorem insertCity (hw : s.WellFormed) {row : City} (hid : row.id ∉ s.parkingCities.map City.id)
    (hname : ∀ c ∈ s.parkingCities, c.city ≠ row.city) (hrow : row.WellFormed) :
    { s with parkingCities := s.parkingCities.orderedInsert (·.id ≤ ·.id) row }.WellFormed := by
  have hperm := List.perm_orderedInsert (·.id ≤ ·.id) row s.parkingCities
  refine ⟨?_, ?_, ?_, hw.sessionIds, hw.sessions, hw.singleActive⟩
  · rw [(hperm.map City.id).nodup_iff, List.map_cons, List.nodup_cons]
    exact ⟨hid, hw.cityIds⟩
  · rw [(hperm.map City.city).nodup_iff, List.map_cons, List.nodup_cons]
    refine ⟨?_, hw.cityNames⟩
    rw [List.mem_map]
    rintro ⟨c, hc, he⟩
    exact hname c hc he
  · intro c hc
    rcases (List.mem_orderedInsert _).mp hc with rfl | hc
    · exact hrow
    · exact hw.cities c hc

theorem setCityPrice (hw : s.WellFormed) {price : Double} (hprice : 0 ≤ price)
    (selected : City → Prop) [DecidablePred selected] :
    { s with
      parkingCities := s.parkingCities.map fun c =>
        if selected c then { c with pricePerMinute := price } else c }.WellFormed := by
  refine ⟨?_, ?_, ?_, hw.sessionIds, hw.sessions, hw.singleActive⟩
  · have hids : City.id ∘ (fun c => if selected c then { c with pricePerMinute := price } else c) =
        City.id := by
      funext c
      simp only [Function.comp]
      split <;> rfl
    rw [List.map_map, hids]
    exact hw.cityIds
  · have hnames : City.city ∘
        (fun c => if selected c then { c with pricePerMinute := price } else c) = City.city := by
      funext c
      simp only [Function.comp]
      split <;> rfl
    rw [List.map_map, hnames]
    exact hw.cityNames
  · intro c' hc'
    obtain ⟨c, hc, rfl⟩ := List.mem_map.mp hc'
    have h := hw.cities c hc
    split
    · exact ⟨h.latitude, h.longitude, hprice⟩
    · exact h

theorem removeCity (hw : s.WellFormed) (name : Option Text) : (s.removeCity name).1.WellFormed := by
  have hsub := List.filter_sublist (p := fun c : City => !decide (some c.city = name))
    (l := s.parkingCities)
  exact ⟨(hsub.map City.id).nodup hw.cityIds, (hsub.map City.city).nodup hw.cityNames,
    fun c hc => hw.cities c (hsub.mem hc), hw.sessionIds, hw.sessions, hw.singleActive⟩

theorem insertSession (hw : s.WellFormed) {row : Session}
    (hid : row.id ∉ s.parkingSessions.map Session.id) (hopen : row.endTime = none)
    (hidle : ∀ r ∈ s.parkingSessions, ¬ r.isActive row.vehicleNumber = true) (hrow : row.WellFormed) :
    { s with parkingSessions := s.parkingSessions.orderedInsert (·.id ≤ ·.id) row }.WellFormed := by
  have hperm := List.perm_orderedInsert (·.id ≤ ·.id) row s.parkingSessions
  refine ⟨hw.cityIds, hw.cityNames, hw.cities, ?_, ?_, ?_⟩
  · rw [(hperm.map Session.id).nodup_iff, List.map_cons, List.nodup_cons]
    exact ⟨hid, hw.sessionIds⟩
  · intro r hr
    rcases (List.mem_orderedInsert _).mp hr with rfl | hr
    · exact hrow
    · exact hw.sessions r hr
  · intro v
    rw [hperm.countP_eq, List.countP_cons]
    by_cases hv : row.isActive v = true
    · -- The vehicle had no active session before.
      obtain ⟨rfl, -⟩ := Session.isActive_iff.mp hv
      have hzero := List.countP_eq_zero.mpr hidle
      simp [hv, hzero]
    · simpa [hv] using hw.singleActive v

theorem closeSession (hw : s.WellFormed) {row : Session} {endTime : Int64} {cost : Double}
    (hmem : row ∈ s.parkingSessions) (horder : row.startTime ≤ endTime) :
    (s.closeSession endTime (some cost) row.id).WellFormed := by
  refine ⟨hw.cityIds, hw.cityNames, hw.cities, ?_, ?_, ?_⟩
  · have hids : Session.id ∘ (fun r : Session =>
        if r.id = row.id then { r with endTime := some endTime, cost := some cost } else r) =
        Session.id := by
      funext r
      simp only [Function.comp]
      split <;> rfl
    simp only [Store.closeSession]
    rw [List.map_map, hids]
    exact hw.sessionIds
  · intro r' hr'
    obtain ⟨r, hr, rfl⟩ := List.mem_map.mp hr'
    have h := hw.sessions r hr
    split
    · rename_i hid
      have hrow : r = row := List.inj_on_of_nodup_map hw.sessionIds hr hmem hid
      subst hrow
      exact ⟨h.start, h.price, by simp, by simpa using horder⟩
    · exact h
  · intro v
    refine Nat.le_trans ?_ (hw.singleActive v)
    simp only [Store.closeSession]
    rw [List.countP_map]
    refine List.countP_mono_left fun r _ hr => ?_
    simp only [Function.comp] at hr
    split at hr
    · simp [Session.isActive] at hr
    · exact hr

theorem inactive_of_split (h : s.WellFormed) {row r : Session} {before after : List Session}
    (hsplit : s.parkingSessions = before ++ row :: after) {v : Text} (hactive : row.isActive v = true)
    (hr : r ∈ before ++ after) : ¬ r.isActive v = true := by
  have hcount := h.singleActive v
  rw [hsplit, List.perm_middle.countP_eq, List.countP_cons, if_pos hactive] at hcount
  have hnone : (before ++ after).countP (·.isActive v) = 0 := by omega
  exact List.countP_eq_zero.mp hnone r hr

theorem active_unique (h : s.WellFormed) {row r : Session} {v : Text}
    (hmem : row ∈ s.parkingSessions) (hactive : row.isActive v = true)
    (hr : r ∈ s.parkingSessions) (ha : r.isActive v = true) : r = row := by
  obtain ⟨before, after, hsplit⟩ := List.append_of_mem hmem
  rw [hsplit] at hr
  rcases List.mem_cons.mp (List.perm_middle.mem_iff.mp hr) with rfl | hr
  · rfl
  · exact absurd ha (h.inactive_of_split hsplit hactive hr)

theorem active_of_closeSession (h : s.WellFormed) {row r : Session} {v : Text} {endTime : Int64}
    {cost : Option Double} (hmem : row ∈ s.parkingSessions) (hopen : row.endTime = none)
    (hr : r ∈ (s.closeSession endTime cost row.id).parkingSessions) (ha : r.isActive v = true) :
    r ∈ s.parkingSessions ∧ v ≠ row.vehicleNumber := by
  obtain ⟨before, after, hsplit, hclosed⟩ := closeSession_split h.sessionIds hmem endTime cost
  have hr : r ∈ before ++ after := by
    rw [hclosed, List.mem_append, List.mem_cons] at hr
    rcases hr with hr | rfl | hr
    · exact List.mem_append_left _ hr
    · simp [Session.isActive] at ha
    · exact List.mem_append_right _ hr
  constructor
  · rw [hsplit]
    exact List.perm_middle.mem_iff.mpr (List.mem_cons_of_mem _ hr)
  · rintro rfl
    have hactive : row.isActive row.vehicleNumber = true := Session.isActive_iff.mpr ⟨rfl, hopen⟩
    exact h.inactive_of_split hsplit hactive hr ha

theorem mem_closeSession (h : s.WellFormed) {row r : Session} {v : Text} {endTime : Int64}
    {cost : Option Double} (hmem : row ∈ s.parkingSessions) (hr : r ∈ s.parkingSessions)
    (ha : r.isActive v = true) (hv : v ≠ row.vehicleNumber) :
    r ∈ (s.closeSession endTime cost row.id).parkingSessions := by
  obtain ⟨before, after, hsplit, hclosed⟩ := closeSession_split h.sessionIds hmem endTime cost
  rw [hsplit, List.mem_append, List.mem_cons] at hr
  rw [hclosed, List.mem_append, List.mem_cons]
  rcases hr with hr | rfl | hr
  · exact .inl hr
  · exact absurd (Session.isActive_iff.mp ha).1.symm hv
  · exact .inr (.inr hr)

end Store.WellFormed

-- ---------------------------------------------------------------------------
-- Closed rows stay
-- ---------------------------------------------------------------------------

namespace Store.Keeps

variable {s t u : Store}

theorem refl (s : Store) : s.Keeps s := fun _ hr _ => hr

theorem trans (h₁ : s.Keeps t) (h₂ : t.Keeps u) : s.Keeps u := fun r hr hc =>
  h₂ r (h₁ r hr hc) hc

theorem insertSession (row : Session) :
    s.Keeps { s with parkingSessions := s.parkingSessions.orderedInsert (·.id ≤ ·.id) row } :=
  fun _ hr _ => (List.mem_orderedInsert _).mpr (.inr hr)

theorem closeSession (hw : s.WellFormed) {row : Session} (hmem : row ∈ s.parkingSessions)
    (hopen : row.endTime = none) : s.Keeps (s.closeSession endTime cost row.id) := by
  intro r hr hclosed
  refine List.mem_map.mpr ⟨r, hr, if_neg fun hid => ?_⟩
  have hrow : r = row := List.inj_on_of_nodup_map hw.sessionIds hr hmem hid
  subst hrow
  exact hclosed hopen

end Store.Keeps

-- ---------------------------------------------------------------------------
-- Steps and runs
-- ---------------------------------------------------------------------------

/-- Everything a call of the library can do to the tables. -/
inductive StoreChange (s : Store) : StoreCall → Store → Prop
  | unchanged : StoreChange s call s
  | cityAdded {row : City} (isAdd : call.op = .addCity city a b c d price)
      (rowid : row.id = call.db.rowid) (name : ∀ c ∈ s.parkingCities, c.city ≠ row.city)
      (wellFormed : row.WellFormed) :
      StoreChange s call { s with parkingCities := s.parkingCities.orderedInsert (·.id ≤ ·.id) row }
  | priceSet (name : Option Text) {price : Double} (nonneg : 0 ≤ price) :
      StoreChange s call { s with
        parkingCities := s.parkingCities.map fun c =>
          if some c.city = name then { c with pricePerMinute := price } else c }
  | cityRemoved (name : Option Text) : StoreChange s call (s.removeCity name).1
  | started (v : Text) (c : City) (lat lon : Double) (startTime : Int64)
      (isStart : call.op = .startParking (some v) lat lon c.id startTime) (positive : 0 < startTime)
      (idle : ∀ r ∈ s.parkingSessions, ¬ r.isActive v = true) (city : c ∈ s.parkingCities) :
      StoreChange s call { s with
        parkingSessions := s.parkingSessions.orderedInsert (·.id ≤ ·.id)
          (startedSession call.db.rowid v lat lon c.id c.pricePerMinute startTime) }
  | stopped (v : Text) (row : Session) (endTime : Int64)
      (isStop : call.op = .stopParking (some v) endTime)
      (selects : call.db.ok.runs .selectSession 1 = true)
      (updates : call.db.ok.runs .updateSession 3 = true)
      (active : s.selectActive v = some row) (order : row.startTime ≤ endTime) :
      StoreChange s call (s.closeSession endTime
        (bindDouble (calculatedCost row.startTime endTime row.pricePerMinute)) row.id)

section Steps

variable {s s' : Store} {call : StoreCall}

theorem step_cases (h : s.step call = some s') : StoreChange s call s' := by
  obtain ⟨op, db⟩ := call
  cases op with
  | addCity city a b c d price =>
    cases hc : addCity db s city a b c d price with
    | mk t ok =>
      simp only [Store.step, StoreOp.exec, hc, Option.some.injEq] at h
      subst h
      rcases addCity_cases hc with rfl | ⟨row, hid, hname, hprice, hlat, hlon, rfl⟩
      · exact .unchanged
      · exact .cityAdded rfl hid hname ⟨hlat, hlon, hprice⟩
  | updateCityPrice city price =>
    cases hc : updateCityPrice db s city price with
    | mk t ok =>
      simp only [Store.step, StoreOp.exec, hc, Option.some.injEq] at h
      subst h
      rcases updateCityPrice_cases hc with rfl | ⟨name, p, hp, rfl⟩
      · exact .unchanged
      · exact .priceSet name hp
  | deleteCity city =>
    cases hc : deleteCity db s city with
    | mk t ok =>
      simp only [Store.step, StoreOp.exec, hc, Option.some.injEq] at h
      subst h
      rcases deleteCity_cases hc with rfl | ⟨name, rfl⟩
      · exact .unchanged
      · exact .cityRemoved name
  | startParking v a b cityId startTime =>
    cases hc : startParking db s v a b cityId startTime with
    | mk t ok =>
      simp only [Store.step, StoreOp.exec, hc, Option.some.injEq] at h
      subst h
      rcases startParking_cases hc with ⟨-, rfl⟩ | ⟨v, c, -, rfl, hpos, hidle, hcity, rfl, -, rfl⟩
      · exact .unchanged
      · exact .started _ c _ _ _ rfl hpos hidle hcity
  | stopParking v endTime =>
    cases hc : stopParking db s v endTime with
    | mk t out =>
      simp only [Store.step, StoreOp.exec, hc, Option.some.injEq] at h
      subst h
      rcases stopParking_cases hc with ⟨-, rfl⟩ | ⟨v, row, rfl, -, hsel, hupd, hrow, horder, -, rfl⟩
      · exact .unchanged
      · exact .stopped v row _ rfl hsel hupd hrow horder

theorem sessions_of_onCities (hop : call.op.onCities = true) (h : s.step call = some s') :
    s'.parkingSessions = s.parkingSessions := by
  cases step_cases h with
  | started _ _ _ _ _ isStart => simp [isStart, StoreOp.onCities] at hop
  | stopped _ _ _ isStop => simp [isStop, StoreOp.onCities] at hop
  | _ => rfl

theorem step_wellFormed (hw : s.WellFormed) (hfresh : call.Fresh s) (hcost : call.CostDefined s)
    (h : s.step call = some s') : s'.WellFormed := by
  cases step_cases h with
  | unchanged => exact hw
  | cityAdded isAdd rowid name wellFormed =>
    simp only [StoreCall.Fresh, isAdd] at hfresh
    exact hw.insertCity (rowid ▸ hfresh) name wellFormed
  | priceSet name nonneg => exact hw.setCityPrice nonneg _
  | cityRemoved name => exact hw.removeCity name
  | started v c lat lon startTime isStart positive idle city =>
    simp only [StoreCall.Fresh, isStart] at hfresh
    exact hw.insertSession hfresh rfl idle
      ⟨positive, (hw.cities c city).price, by simp [startedSession], by simp [startedSession]⟩
  | stopped v row endTime isStop selects updates active order =>
    obtain ⟨hmem, -, -⟩ := Store.selectActive_eq_some active
    have hrow := hw.sessions row hmem
    simp only [StoreCall.CostDefined, isStop] at hcost
    have hnum : calculatedCost row.startTime endTime row.pricePerMinute ≠ .nan := fun hnan =>
      hcost selects updates row active
        ((calculatedCost_eq_nan hrow.start order hrow.price).mp hnan)
    rw [bindDouble_eq_some.mpr ⟨rfl, hnum⟩]
    exact hw.closeSession hmem order

theorem step_keeps (hw : s.WellFormed) (h : s.step call = some s') : s.Keeps s' := by
  cases step_cases h with
  | started => exact .insertSession _
  | stopped v row endTime isStop selects updates active order =>
    obtain ⟨hmem, -, hopen⟩ := Store.selectActive_eq_some active
    exact .closeSession hw hmem hopen
  | _ => exact .refl s

/-- The call that is excluded closes a row without a cost. -/
theorem not_wellFormed_of_not_costDefined (hw : s.WellFormed) (hcost : ¬ call.CostDefined s)
    (h : s.step call = some s') : ¬ s'.WellFormed := by
  obtain ⟨op, db⟩ := call
  unfold StoreCall.CostDefined at hcost
  split at hcost
  · rename_i v endTime hop
    obtain rfl : op = _ := hop
    simp only [not_forall, not_not] at hcost
    obtain ⟨hsel, hupd, row, hrow, hprice, rfl⟩ := hcost
    obtain ⟨hmem, -, -⟩ := Store.selectActive_eq_some hrow
    have hstart := (hw.sessions row hmem).start
    have hnan : calculatedCost row.startTime row.startTime row.pricePerMinute = .nan :=
      (calculatedCost_eq_nan hstart (Int64.le_refl _) (hw.sessions row hmem).price).mpr
        ⟨hprice, rfl⟩
    have hstop : s' = s.closeSession row.startTime none row.id := by
      have hsel' : db.ok.runs .selectSession 1 = true := hsel
      have hupd' : db.ok.runs .updateSession 3 = true := hupd
      have hrow' : s.selectActive v = some row := hrow
      have hpos : ¬ row.startTime ≤ 0 := Int64.not_le.mpr hstart
      have hlt : ¬ row.startTime < row.startTime := Int64.lt_irrefl
      simpa [Store.step, StoreOp.exec, stopParking, hsel', hupd', hrow', hpos, hlt, hnan,
        bindDouble] using h.symm
    intro hw'
    have hclosed : { row with endTime := some row.startTime, cost := none } ∈ s'.parkingSessions :=
      hstop ▸ List.mem_map.mpr ⟨row, hmem, if_pos rfl⟩
    have := (hw'.sessions _ hclosed).closed
    simp at this
  · exact absurd trivial hcost

end Steps

open Runs (run Along)

/-- The states a run passes are well formed, and keep their closed rows to its
end, exactly if no call ends a session of infinite price in the second it
started. -/
theorem store_wellFormed_iff_costDefined (calls : List StoreCall) (t : Store)
    (hr : run Store.step Store.initial calls = some t)
    (hfresh : Along Store.step StoreCall.Fresh Store.initial calls) :
    (∀ before after s, calls = before ++ after → run Store.step Store.initial before = some s →
      s.WellFormed ∧ s.Keeps t) ↔
    Along Store.step StoreCall.CostDefined Store.initial calls := by
  constructor
  · intro h
    refine .of_steps hr fun before call after s s' hcalls hs hstep => ?_
    by_contra hcost
    have hw := (h before (call :: after) s hcalls hs).1
    have hw' := (h (before ++ [call]) after s' (by simpa using hcalls)
      (Runs.run_concat.mpr ⟨s, hs, hstep⟩)).1
    exact not_wellFormed_of_not_costDefined hw hcost hstep hw'
  · rintro hcost before after s rfl hs
    obtain ⟨hbefore, hafter⟩ := (Along.append hs).mp (hfresh.and hcost)
    obtain ⟨m, hm, ht⟩ := Runs.run_append.mp hr
    obtain rfl : m = s := Option.some.inj (hm.symm.trans hs)
    have hw : m.WellFormed := Runs.invariant_along
      (fun s call s' hw hc hstep => step_wellFormed hw hc.1 hc.2 hstep) .initial hs hbefore
    have hend : t.WellFormed ∧ m.Keeps t := Runs.invariant_along
      (I := fun u => u.WellFormed ∧ m.Keeps u)
      (fun u call u' hu hc hstep => ⟨step_wellFormed hu.1 hc.1 hc.2 hstep,
        hu.2.trans (step_keeps hu.1 hstep)⟩) ⟨hw, .refl m⟩ ht hafter
    exact ⟨hw, hend.2⟩

def billedCalls : List StoreCall :=
  [⟨.startParking (some [65]) (.finite 20) (.finite 20) 2 100, ⟨.succeed, 1⟩⟩,
   ⟨.stopParking (some [65]) 100, ⟨.succeed, 0⟩⟩]

def billedStore : Store :=
  { Store.initial with
    parkingSessions := [⟨1, [65], .finite 20, .finite 20, 2, .finite (2 / 5), 100, some 100,
      some (.finite 0)⟩] }

theorem store_wellFormed_iff_costDefined_billed : billedStore.WellFormed :=
  (((store_wellFormed_iff_costDefined billedCalls billedStore (by decide +kernel)
    (by decide +kernel)).mpr (by decide +kernel)) billedCalls [] billedStore (by simp)
    (by decide +kernel)).1

/-- A session in a city that asks for an infinite price, ended in the second it started. -/
def unbilledCalls : List StoreCall :=
  [⟨.addCity (some (cityNamed "Eilat")) (.finite 0) (.finite 1) (.finite 0) (.finite 1) .posInf,
      ⟨.succeed, 4⟩⟩,
   ⟨.startParking (some [65]) (.finite 0) (.finite 0) 4 100, ⟨.succeed, 1⟩⟩,
   ⟨.stopParking (some [65]) 100, ⟨.succeed, 0⟩⟩]

theorem store_not_always_wellFormed :
    ¬ ∀ (calls : List StoreCall) (t : Store), run Store.step Store.initial calls = some t →
      Along Store.step StoreCall.Fresh Store.initial calls → t.WellFormed := by
  intro h
  cases ht : run Store.step Store.initial unbilledCalls with
  | none => exact absurd ht (by decide +kernel)
  | some t =>
    have hw := h unbilledCalls t ht (by decide +kernel)
    have hrow : (run Store.step Store.initial unbilledCalls).map Store.parkingSessions =
        some [⟨1, [65], .finite 0, .finite 0, 4, .posInf, 100, some 100, none⟩] := by decide +kernel
    rw [ht, Option.map_some, Option.some.injEq] at hrow
    have := (hw.sessions _ (hrow ▸ List.mem_singleton_self _)).closed
    simp at this

end ParkingSystem
