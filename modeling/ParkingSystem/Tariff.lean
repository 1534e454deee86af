import Mathlib.Data.List.Find
import ParkingSystem.RequestProcessing
import ParkingSystem.StoreInvariant

/-!
# One tariff for every place

`sqlite_database_find_city` takes whichever row SQLite comes to first. The seed cities
lie apart, and `sqlite_database_add_city` looks at no other city:
`tariff_unambiguous_iff` says that the table has one tariff for every place exactly
as long as the cities that are added lie apart too.
-/

namespace ParkingSystem

/-- A point in common, the borders included. -/
def City.Overlaps (c c' : City) : Prop :=
  (c.minLatitude ≤ c'.maxLatitude ∧ c'.minLatitude ≤ c.maxLatitude) ∧
    c.minLongitude ≤ c'.maxLongitude ∧ c'.minLongitude ≤ c.maxLongitude

instance (c c' : City) : Decidable (c.Overlaps c') :=
  inferInstanceAs (Decidable ((_ ≤ _ ∧ _ ≤ _) ∧ _ ≤ _ ∧ _ ≤ _))

/-- All that a row says but for the id that SQLite gave it. -/
def City.entry (c : City) : City := { c with id := 0 }

def Store.cityAt (s : Store) (latitude longitude : Double) : Option City :=
  s.parkingCities.find? (·.contains latitude longitude)

/-- Every place has one tariff. -/
structure Store.Unambiguous (s : Store) : Prop where
  single : ∀ latitude longitude, s.parkingCities.countP (·.contains latitude longitude) ≤ 1
  rowOrder : ∀ rows : List City, rows.Perm s.parkingCities → ∀ db latitude longitude,
    findCity db { s with parkingCities := rows } latitude longitude =
      findCity db s latitude longitude
  addingOrder : ∀ s' : Store,
    (s'.parkingCities.map City.entry).Perm (s.parkingCities.map City.entry) →
    ∀ latitude longitude, (s'.cityAt latitude longitude).map City.entry =
      (s.cityAt latitude longitude).map City.entry

def StoreCall.Apart (s : Store) (call : StoreCall) : Prop :=
  match call.op with
  | .addCity city a b c d price => (addCity call.db s city a b c d price).2 = true →
    ∀ name ∈ city, ∀ row ∈ s.parkingCities, ¬ City.Overlaps ⟨call.db.rowid, name, a, b, c, d, price⟩ row
  | _ => True

instance (s : Store) : (call : StoreCall) → Decidable (call.Apart s)
  | ⟨.addCity none .., _⟩ => .isTrue fun _ _ hname => nomatch hname
  | ⟨.addCity (some name) a b c d price, db⟩ =>
    decidable_of_iff ((addCity db s (some name) a b c d price).2 = true →
        ∀ row ∈ s.parkingCities, ¬ City.Overlaps ⟨db.rowid, name, a, b, c, d, price⟩ row)
      ⟨fun h hadded _ hname => Option.some.inj hname ▸ h hadded, fun h hadded => h hadded name rfl⟩
  | ⟨.updateCityPrice .., _⟩ | ⟨.deleteCity .., _⟩ | ⟨.startParking .., _⟩
  | ⟨.stopParking .., _⟩ => .isTrue trivial

-- ---------------------------------------------------------------------------
-- Places
-- ---------------------------------------------------------------------------

section Places

variable {c c' : City} {latitude longitude : Double}

theorem City.contains_iff : c.contains latitude longitude = true ↔
    (c.minLatitude ≤ latitude ∧ latitude ≤ c.maxLatitude) ∧
      c.minLongitude ≤ longitude ∧ longitude ≤ c.maxLongitude := by
  have hge : ∀ x column : Double, sqlGe (bindDouble x) column = true ↔ column ≤ x := by
    intro x column
    cases x with
    | nan => cases column <;> simp [bindDouble, sqlGe, LE.le, Double.le]
    | _ => simp [bindDouble, sqlGe]
  have hle : ∀ x column : Double, sqlLe (bindDouble x) column = true ↔ x ≤ column := by
    intro x column
    cases x with
    | nan => simp [bindDouble, sqlLe, LE.le, Double.le]
    | _ => simp [bindDouble, sqlLe]
  simp only [City.contains, Bool.and_eq_true, hge, hle, and_assoc]

theorem City.overlaps_iff (h : c.WellFormed) (h' : c'.WellFormed) :
    c.Overlaps c' ↔ ∃ latitude longitude,
      c.contains latitude longitude = true ∧ c'.contains latitude longitude = true := by
  rw [City.Overlaps, ← Double.exists_mem_iff h.latitude h'.latitude,
    ← Double.exists_mem_iff h.longitude h'.longitude]
  simp only [City.contains_iff]
  constructor
  · rintro ⟨⟨latitude, hlat, hlat'⟩, longitude, hlon, hlon'⟩
    exact ⟨latitude, longitude, ⟨hlat, hlon⟩, hlat', hlon'⟩
  · rintro ⟨latitude, longitude, ⟨hlat, hlon⟩, hlat', hlon'⟩
    exact ⟨⟨latitude, hlat, hlat'⟩, longitude, hlon, hlon'⟩

theorem City.Overlaps.symm (h : c.Overlaps c') : c'.Overlaps c :=
  ⟨h.1.symm, h.2.symm⟩

/-- No place is in two cities exactly when no two cities overlap. -/
theorem City.countP_contains_iff {rows : List City} (h : ∀ c ∈ rows, c.WellFormed) :
    (∀ latitude longitude, rows.countP (·.contains latitude longitude) ≤ 1) ↔
      rows.Pairwise fun c c' => ¬ c.Overlaps c' := by
  induction rows with
  | nil => simp
  | cons row rows ih =>
    obtain ⟨hrow, hrows⟩ := List.forall_mem_cons.mp h
    rw [List.pairwise_cons, ← ih hrows]
    constructor
    · intro hsingle
      constructor
      · intro c hc hoverlaps
        obtain ⟨latitude, longitude, hin, hin'⟩ := (overlaps_iff hrow (hrows c hc)).mp hoverlaps
        have htwo := hsingle latitude longitude
        have hone : 0 < rows.countP (·.contains latitude longitude) :=
          List.countP_pos_iff.mpr ⟨c, hc, hin'⟩
        rw [List.countP_cons, if_pos hin] at htwo
        omega
      · intro latitude longitude
        exact Nat.le_trans (List.sublist_cons_self row rows).countP_le (hsingle latitude longitude)
    · rintro ⟨hapart, hsingle⟩ latitude longitude
      by_cases hin : row.contains latitude longitude = true
      · have hnone : rows.countP (·.contains latitude longitude) = 0 := by
          apply List.countP_eq_zero.mpr
          intro c hc hin'
          exact hapart c hc ((overlaps_iff hrow (hrows c hc)).mpr ⟨_, _, hin, hin'⟩)
        rw [List.countP_cons, if_pos hin, hnone]
      · rw [List.countP_cons, if_neg hin]
        exact hsingle latitude longitude

end Places

-- ---------------------------------------------------------------------------
-- Orders of rows
-- ---------------------------------------------------------------------------

section Orders

variable {s : Store} {latitude longitude : Double}

theorem subsingleton_of_countP {α : Type*} {p : α → Bool} {l : List α} (h : l.countP p ≤ 1) :
    {x ∈ l | p x}.Subsingleton := by
  rw [List.countP_eq_length_filter] at h
  rintro x ⟨hx, hpx⟩ y ⟨hy, hpy⟩
  have hx' : x ∈ l.filter p := List.mem_filter.mpr ⟨hx, hpx⟩
  have hy' : y ∈ l.filter p := List.mem_filter.mpr ⟨hy, hpy⟩
  cases hfilter : l.filter p with
  | nil => simp [hfilter] at hx'
  | cons a rest =>
    obtain rfl : rest = [] := by simpa [hfilter] using h
    rw [hfilter, List.mem_singleton] at hx' hy'
    rw [hx', hy']

/-- Where no two cities share a point, no order makes a difference. -/
theorem Store.unambiguous_of_single
    (h : ∀ latitude longitude, s.parkingCities.countP (·.contains latitude longitude) ≤ 1) :
    s.Unambiguous where
  single := h
  rowOrder := by
    intro rows hrows db latitude longitude
    rw [findCity, findCity]
    split
    · rfl
    simp only [Store.selectCityAt]
    congr 2
    apply (List.find?_eq_find?_of_perm hrows.symm _).symm
    apply subsingleton_of_countP
    refine Nat.le_trans (List.countP_mono_left ?_) (h latitude longitude)
    intro c hc hselected
    -- a parameter that was not bound selects no row
    simp only [sqlGe_bound, sqlLe_bound, Bool.and_eq_true] at hselected
    obtain ⟨⟨⟨⟨-, h₁⟩, -, h₂⟩, -, h₃⟩, -, h₄⟩ := hselected
    simp [City.contains, h₁, h₂, h₃, h₄]
  addingOrder := by
    intro s' hcities latitude longitude
    have hone := h latitude longitude
    have hmap : ∀ rows : List City, (rows.find? (·.contains latitude longitude)).map City.entry =
        (rows.map City.entry).find? (·.contains latitude longitude) := by
      intro rows
      rw [List.find?_map]
      rfl
    rw [Store.cityAt, Store.cityAt, hmap, hmap]
    apply (List.find?_eq_find?_of_perm hcities.symm _).symm
    apply subsingleton_of_countP
    rw [List.countP_map]
    exact hone

end Orders

-- ---------------------------------------------------------------------------
-- Steps and runs
-- ---------------------------------------------------------------------------

section Steps

variable {db : Sqlite} {s s' : Store} {call : StoreCall} {city : Option Text}
  {a b c d price : Double}

theorem bound_bindDouble {ok : Outcomes} {statement : Statement} {index : Nat} {x y : Double}
    (h : ok.bound statement index (bindDouble x) = some y) : x = y := by
  rw [Outcomes.bound] at h
  split at h
  · exact (bindDouble_eq_some.mp h).1
  · cases h

theorem addCity_inserted (h : addCity db s city a b c d price = (s', true)) :
    ∃ name, city = some name ∧ (City.mk db.rowid name a b c d price).WellFormed ∧
      s'.parkingCities =
        s.parkingCities.orderedInsert (·.id ≤ ·.id) ⟨db.rowid, name, a, b, c, d, price⟩ := by
  simp only [addCity] at h
  split at h
  · cases h
  split at h
  · cases h
  split at h
  · cases h
  split at h
  · rename_i hinsert
    obtain ⟨rfl, -⟩ := Prod.mk.inj h
    simp only [Store.insertCity, Option.bind_eq_bind, Option.bind_eq_some_iff] at hinsert
    obtain ⟨name, hname, a', ha, b', hb, c', hc, d', hd, price', hprice, hinsert⟩ := hinsert
    obtain rfl := bound_bindDouble ha
    obtain rfl := bound_bindDouble hb
    obtain rfl := bound_bindDouble hc
    obtain rfl := bound_bindDouble hd
    obtain rfl := bound_bindDouble hprice
    split at hinsert
    · rename_i hchecks
      obtain ⟨-, hprice, hlat, hlon⟩ := hchecks
      cases hinsert
      refine ⟨name, ?_, ⟨hlat, hlon, hprice⟩, rfl⟩
      rw [Outcomes.bound] at hname
      split at hname
      · exact hname
      · cases hname
    · cases hinsert
  · cases h

theorem addCity_refused (h : addCity db s city a b c d price = (s', false)) : s' = s := by
  simp only [addCity] at h
  split at h
  · exact (Prod.mk.inj h).1.symm
  split at h
  · exact (Prod.mk.inj h).1.symm
  split at h
  · exact (Prod.mk.inj h).1.symm
  split at h
  · cases h
  · exact (Prod.mk.inj h).1.symm

structure Store.Apart (s : Store) : Prop where
  cities : ∀ c ∈ s.parkingCities, c.WellFormed
  pairwise : s.parkingCities.Pairwise fun c c' => ¬ c.Overlaps c'

theorem Store.Apart.initial : Store.initial.Apart where
  cities := Store.WellFormed.initial.cities
  pairwise := by decide +kernel

theorem Store.Apart.unambiguous (h : s.Apart) : s.Unambiguous :=
  Store.unambiguous_of_single ((City.countP_contains_iff h.cities).mpr h.pairwise)

theorem cities_wellFormed (h : ∀ c ∈ s.parkingCities, c.WellFormed)
    (hop : call.op.onCities = true) (hstep : s.step call = some s') :
    ∀ c ∈ s'.parkingCities, c.WellFormed := by
  cases step_cases hstep with
  | unchanged => exact h
  | cityAdded isAdd rowid name wellFormed =>
    intro c hc
    rcases (List.mem_orderedInsert _).mp hc with rfl | hc
    · exact wellFormed
    · exact h c hc
  | priceSet name nonneg =>
    intro c hc
    obtain ⟨c, hold, rfl⟩ := List.mem_map.mp hc
    split
    · exact ⟨(h c hold).latitude, (h c hold).longitude, nonneg⟩
    · exact h c hold
  | cityRemoved name => exact fun c hc => h c (List.mem_of_mem_filter hc)
  | started _ _ _ _ _ isStart =>
    rw [isStart] at hop
    cases hop
  | stopped _ _ _ isStop =>
    rw [isStop] at hop
    cases hop

theorem Store.Apart.step_iff (h : s.Apart) (hop : call.op.onCities = true)
    (hstep : s.step call = some s') : s'.Apart ↔ call.Apart s := by
  have hcities := cities_wellFormed h.cities hop hstep
  obtain ⟨op, db⟩ := call
  cases op with
  | addCity city a b c d price =>
    cases hadd : addCity db s city a b c d price with
    | mk t inserted =>
      simp only [Store.step, StoreOp.exec, hadd, Option.some.injEq] at hstep
      subst hstep
      simp only [StoreCall.Apart, hadd]
      cases inserted with
      | false =>
        obtain rfl := addCity_refused hadd
        simp [h]
      | true =>
        obtain ⟨name, rfl, hrow, hinserted⟩ := addCity_inserted hadd
        have hpairwise : t.parkingCities.Pairwise (fun c c' => ¬ c.Overlaps c') ↔
            ∀ c' ∈ s.parkingCities, ¬ City.Overlaps ⟨db.rowid, name, a, b, c, d, price⟩ c' := by
          rw [hinserted, (List.perm_orderedInsert _ _ _).pairwise_iff
            (fun hxy hyx => hxy hyx.symm), List.pairwise_cons]
          exact and_iff_left h.pairwise
        constructor
        · rintro hapart - name' ⟨⟩
          exact hpairwise.mp hapart.pairwise
        · intro hapart
          exact ⟨hcities, hpairwise.mpr (hapart rfl name rfl)⟩
  | updateCityPrice city price =>
    refine iff_of_true ⟨hcities, ?_⟩ trivial
    cases hstep
    rcases updateCityPrice_cases (Prod.eta _).symm with hsame | ⟨name, p, -, hset⟩
    · rw [StoreOp.exec, hsame]
      exact h.pairwise
    · rw [StoreOp.exec, hset, List.pairwise_map]
      refine h.pairwise.imp fun hapart => ?_
      -- the rectangles are as they were
      split <;> split <;> exact hapart
  | deleteCity city =>
    refine iff_of_true ⟨hcities, ?_⟩ trivial
    cases hstep
    rcases deleteCity_cases (Prod.eta _).symm with hsame | ⟨name, hremoved⟩
    · rw [StoreOp.exec, hsame]
      exact h.pairwise
    · rw [StoreOp.exec, hremoved]
      exact h.pairwise.filter _
  | startParking => cases hop
  | stopParking => cases hop

end Steps

open Runs (run Along)

theorem exists_run (s : Store) (calls : List StoreCall) : ∃ t, run Store.step s calls = some t := by
  induction calls generalizing s with
  | nil => exact ⟨s, rfl⟩
  | cons call calls ih =>
    obtain ⟨t, ht⟩ := ih (call.op.exec call.db s)
    exact ⟨t, Runs.run_cons.mpr ⟨_, rfl, ht⟩⟩

theorem Store.Unambiguous.apart {s : Store} (h : s.Unambiguous)
    (hcities : ∀ c ∈ s.parkingCities, c.WellFormed) : s.Apart :=
  ⟨hcities, (City.countP_contains_iff hcities).mp h.single⟩

/-- Every table on the way has one tariff for every place exactly when every city that is
added lies apart from those there are. -/
theorem tariff_unambiguous_iff (calls : List StoreCall)
    (hcalls : ∀ call ∈ calls, call.op.onCities = true) :
    (∀ before after s, calls = before ++ after → run Store.step Store.initial before = some s →
      s.Unambiguous) ↔ Along Store.step StoreCall.Apart Store.initial calls := by
  have honCities : ∀ before after, calls = before ++ after →
      Along Store.step (fun _ call => call.op.onCities = true) Store.initial before := by
    rintro before after rfl
    exact .of_forall fun _ call hcall => hcalls call (List.mem_append_left _ hcall)
  constructor
  · intro h
    obtain ⟨t, ht⟩ := exists_run Store.initial calls
    refine .of_steps ht fun before call after s s' hsplit hs hstep => ?_
    have hcities : ∀ c ∈ s.parkingCities, c.WellFormed :=
      Runs.invariant_along (I := fun s : Store => ∀ c ∈ s.parkingCities, c.WellFormed)
        (fun _ _ _ hs hop hstep => cities_wellFormed hs hop hstep) Store.WellFormed.initial.cities hs
        (honCities before _ hsplit)
    have hop : call.op.onCities = true := hcalls call (by rw [hsplit]; simp)
    have hapart := (h before (call :: after) s hsplit hs).apart hcities
    apply (hapart.step_iff hop hstep).mp
    apply Store.Unambiguous.apart _ (cities_wellFormed hcities hop hstep)
    exact h (before ++ [call]) after s' (by simpa using hsplit) (Runs.run_concat.mpr ⟨s, hs, hstep⟩)
  · rintro h before after s rfl hs
    have hbefore := (honCities before after rfl).and ((Along.append hs).mp h).1
    have hapart : s.Apart := Runs.invariant_along
      (fun s call s' hs hcall hstep => (hs.step_iff hcall.1 hstep).mpr hcall.2) .initial hs hbefore
    exact hapart.unambiguous

def addCityCall (name : String) (low high price : ℚ) : StoreCall :=
  ⟨.addCity (some (cityNamed name)) (.finite low) (.finite high) (.finite low) (.finite high)
    (.finite price), ⟨.succeed, 4⟩⟩

def apartCalls : List StoreCall :=
  [addCityCall "Eilat" 0 1 1, ⟨.deleteCity (some (cityNamed "Jerusalem")), ⟨.succeed, 0⟩⟩]

theorem tariff_unambiguous_iff_apart : ∃ s, run Store.step Store.initial apartCalls = some s ∧
    s.Unambiguous := by
  obtain ⟨s, hs⟩ := exists_run Store.initial apartCalls
  exact ⟨s, hs, (tariff_unambiguous_iff apartCalls (by decide)).mpr (by decide +kernel) apartCalls []
    s (by simp) hs⟩

/-- Jaffa lies in Tel Aviv. -/
def nestedCalls : List StoreCall := [addCityCall "Jaffa" 11 12 1]

theorem tariff_not_always_unambiguous : ¬ ∀ (calls : List StoreCall) (s : Store),
    (∀ call ∈ calls, call.op.onCities = true) → run Store.step Store.initial calls = some s →
    ∀ latitude longitude, s.parkingCities.countP (·.contains latitude longitude) ≤ 1 := by
  intro h
  obtain ⟨s, hs⟩ := exists_run Store.initial nestedCalls
  have htwo : (run Store.step Store.initial nestedCalls).map
      (fun s => s.parkingCities.countP (·.contains (.finite 11) (.finite 11))) = some 2 := by
    decide +kernel
  rw [hs, Option.map_some] at htwo
  have hone := h nestedCalls s (by decide) hs (.finite 11) (.finite 11)
  rw [Option.some.inj htwo] at hone
  exact absurd hone (by decide)

end ParkingSystem
