import Mathlib.Data.Multiset.MapFold
import Mathlib.Data.Multiset.Filter
import ParkingSystem.CityIds

/-!
# Vehicles do not see each other

Requests of different vehicles may be processed in any order:
`vehicles_independent`. The responses stay the same, and the final table of
sessions does too but for the ids that SQLite gave to the new rows, which
depend on the order.

A vehicle sees the store as its `view`: its own rows, with the ids of the new
ones left out. Two stores that a vehicle sees alike answer it alike and are
seen alike afterwards, and a request of another vehicle changes nothing in the
view. The id of a new row is not seen because a vehicle with a new active row
has no other active row, so that `ORDER BY id DESC` has nothing to choose.
-/

namespace ParkingSystem

/-- `process_database_request` on each request in turn, with every `sqlite3_*`
call succeeding. `rowid` is how SQLite picks the id of a new row. -/
def processRequests (rowid : Store → Int) (s : Store) :
    List TcpToDatabaseMessage → Store × List (TcpToDatabaseMessage × DatabaseToTcpMessage)
  | [] => (s, [])
  | request :: rest =>
    let (s', response) := processDatabaseRequest ⟨.succeed, rowid s⟩ s request
    let (t, answers) := processRequests rowid s' rest
    (t, (request, response) :: answers)

structure Reordered (l₁ l₂ : List TcpToDatabaseMessage) : Prop where
  perm : l₁.Perm l₂
  vehicle : ∀ v, l₁.filter (·.vehicleNumber = v) = l₂.filter (·.vehicleNumber = v)

def Session.renumber (f : Int → Int) (r : Session) : Session := { r with id := f r.id }

def Session.tag (old : List Int) (r : Session) : Option Int × Session :=
  (if r.id ∈ old then some r.id else none, r.renumber fun _ => 0)

def Store.view (old : List Int) (v : Text) (s : Store) : Multiset (Option Int × Session) :=
  ((s.parkingSessions : Multiset Session).filter (·.vehicleNumber = v)).map (·.tag old)

structure Store.Alike (old : List Int) (v : Text) (s₁ s₂ : Store) : Prop where
  cities : s₁.parkingCities = s₂.parkingCities
  view : s₁.view old v = s₂.view old v

/-- What requests keep in a table that had the ids `old` before the first of them. -/
structure Store.Tidy (old : List Int) (s : Store) : Prop where
  ids : (s.parkingSessions.map Session.id).Nodup
  kept : ∀ i ∈ old, i ∈ s.parkingSessions.map Session.id
  alone : ∀ r ∈ s.parkingSessions, r.id ∉ old → r.endTime = none →
    ∀ r' ∈ s.parkingSessions, r'.isActive r.vehicleNumber = true → r' = r

-- ---------------------------------------------------------------------------
-- Tags and views
-- ---------------------------------------------------------------------------

section Views

variable {old : List Int} {s s₁ s₂ : Store} {r r₁ r₂ : Session} {v : Text}

theorem Session.tag_eq (h : r₁.tag old = r₂.tag old) :
    (r₁.id ∈ old ↔ r₂.id ∈ old) ∧ (r₁.id ∈ old → r₁.id = r₂.id) ∧
      (r₁.renumber fun _ => 0) = r₂.renumber fun _ => 0 := by
  simp only [Session.tag, Prod.mk.injEq] at h
  obtain ⟨hid, hrow⟩ := h
  by_cases h₁ : r₁.id ∈ old <;> by_cases h₂ : r₂.id ∈ old <;> simp_all

theorem Session.renumber_eq {f g : Int → Int} (h : r₁.renumber f = r₂.renumber g) :
    r₁.vehicleNumber = r₂.vehicleNumber ∧ r₁.startTime = r₂.startTime ∧
      r₁.pricePerMinute = r₂.pricePerMinute ∧ r₁.endTime = r₂.endTime := by
  simp only [Session.renumber, Session.mk.injEq] at h
  obtain ⟨-, hv, -, -, -, hp, hs, he, -⟩ := h
  exact ⟨hv, hs, hp, he⟩

theorem Session.tag_close (h : r₁.tag old = r₂.tag old) (endTime : Int64) (cost : Option Double) :
    { r₁ with endTime := some endTime, cost := cost }.tag old =
      { r₂ with endTime := some endTime, cost := cost }.tag old := by
  simp_all [Session.tag, Session.renumber]

theorem Store.mem_view {x : Option Int × Session} :
    x ∈ s.view old v ↔ ∃ r ∈ s.parkingSessions, r.vehicleNumber = v ∧ r.tag old = x := by
  simp [Store.view, and_assoc]

theorem Store.Alike.twin (h : s₁.Alike old v s₂) (hr : r₁ ∈ s₁.parkingSessions)
    (hv : r₁.vehicleNumber = v) :
    ∃ r₂ ∈ s₂.parkingSessions, r₂.vehicleNumber = v ∧ r₂.tag old = r₁.tag old := by
  have hmem : r₁.tag old ∈ s₁.view old v := Store.mem_view.mpr ⟨r₁, hr, hv, rfl⟩
  rw [h.view] at hmem
  exact Store.mem_view.mp hmem

theorem Store.view_insert (row : Session) :
    { s with parkingSessions := s.parkingSessions.orderedInsert (·.id ≤ ·.id) row }.view old v =
      if row.vehicleNumber = v then row.tag old ::ₘ s.view old v else s.view old v := by
  have hperm := Multiset.coe_eq_coe.mpr
    (List.perm_orderedInsert (fun r r' : Session => r.id ≤ r'.id) row s.parkingSessions)
  simp only [Store.view, hperm, ← Multiset.cons_coe]
  split
  · rename_i hv
    simp [hv]
  · rename_i hv
    simp [hv]

theorem Store.view_close (hids : (s.parkingSessions.map Session.id).Nodup)
    (hr : r ∈ s.parkingSessions) (endTime : Int64) (cost : Option Double) :
    (s.closeSession endTime cost r.id).view old v =
      if r.vehicleNumber = v then
        { r with endTime := some endTime, cost := cost }.tag old ::ₘ (s.view old v).erase (r.tag old)
      else s.view old v := by
  obtain ⟨before, after, hsplit, hclosed⟩ := Store.closeSession_split hids hr endTime cost
  have hperm (x : Session) : ((before ++ x :: after : List Session) : Multiset Session) =
      x ::ₘ ((before ++ after : List Session) : Multiset Session) :=
    Multiset.coe_eq_coe.mpr List.perm_middle
  simp only [Store.view, hsplit, hclosed, hperm]
  split
  · rename_i hv
    simp [hv]
  · rename_i hv
    simp [hv]

end Views

-- ---------------------------------------------------------------------------
-- One request on two stores
-- ---------------------------------------------------------------------------

section Twins

variable {old : List Int} {s s₁ s₂ : Store} {r r₁ r₂ : Session} {v : Text}
  {request : TcpToDatabaseMessage}

theorem Store.selectActive_spec : s.selectActive v = some r → r.isActive v = true ∧
    r ∈ s.parkingSessions ∧ ∀ r' ∈ s.parkingSessions, r'.isActive v = true → r'.id ≤ r.id := by
  intro h
  obtain ⟨hmem, hv, hopen⟩ := Store.selectActive_eq_some h
  refine ⟨Session.isActive_iff.mpr ⟨hv, hopen⟩, hmem, fun r' hr' ha => ?_⟩
  have hsorted := List.pairwise_insertionSort (fun r r' : Session => r'.id ≤ r.id)
    (s.parkingSessions.filter (·.isActive v))
  have hin : r' ∈ (s.parkingSessions.filter (·.isActive v)).insertionSort
      fun r r' => r'.id ≤ r.id :=
    (List.mem_insertionSort _).mpr (List.mem_filter.mpr ⟨hr', ha⟩)
  simp only [Store.selectActive] at h
  obtain ⟨rest, hl⟩ := List.head?_eq_some_iff.mp h
  rw [hl] at hsorted hin
  rcases List.mem_cons.mp hin with rfl | hin
  · exact Int.le_refl _
  · exact (List.pairwise_cons.mp hsorted).1 r' hin

theorem Store.isSome_selectActiveId :
    (s.selectActiveId v).isSome = (s.selectActive v).isSome := by
  rw [Bool.eq_iff_iff, Option.isSome_iff_ne_none, Option.isSome_iff_ne_none, ne_eq, ne_eq,
    Store.selectActiveId_eq_none, Store.selectActive_eq_none]

theorem Session.isActive_of_tag (h : r₂.tag old = r₁.tag old) (ha : r₁.isActive v = true) :
    r₂.isActive v = true := by
  obtain ⟨hv, -, -, he⟩ := Session.renumber_eq (Session.tag_eq h).2.2
  obtain ⟨hv', he'⟩ := Session.isActive_iff.mp ha
  exact Session.isActive_iff.mpr ⟨hv.trans hv', he.trans he'⟩

/-- `ORDER BY id DESC LIMIT 1` takes the same row from both stores: of the old
rows the ids are seen, and a new one is alone. -/
theorem Store.Alike.selectActive (h : s₁.Alike old v s₂) (t₂ : s₂.Tidy old)
    (h₁ : s₁.selectActive v = some r₁) :
    ∃ r₂, s₂.selectActive v = some r₂ ∧ r₂.tag old = r₁.tag old := by
  obtain ⟨hactive, hmem, hmax⟩ := Store.selectActive_spec h₁
  obtain ⟨r₂, hmem₂, -, htag⟩ := h.twin hmem (Session.isActive_iff.mp hactive).1
  have hactive₂ := Session.isActive_of_tag htag hactive
  cases h₂ : s₂.selectActive v with
  | none => exact absurd hactive₂ (Store.selectActive_eq_none.mp h₂ r₂ hmem₂)
  | some r =>
    obtain ⟨hr, hrmem, hrmax⟩ := Store.selectActive_spec h₂
    obtain ⟨hrv, hropen⟩ := Session.isActive_iff.mp hr
    obtain ⟨hv₂, hopen₂⟩ := Session.isActive_iff.mp hactive₂
    suffices hrow : r = r₂ from ⟨r, rfl, hrow ▸ htag⟩
    by_cases hnew : r.id ∉ old
    · exact (t₂.alone r hrmem hnew hropen r₂ hmem₂ (hrv ▸ hactive₂)).symm
    · by_cases hnew₂ : r₂.id ∉ old
      · exact t₂.alone r₂ hmem₂ hnew₂ hopen₂ r hrmem (hv₂ ▸ hr)
      · -- Both ids are old, and so those of the twins in the other store.
        have hview : s₂.Alike old v s₁ := ⟨h.cities.symm, h.view.symm⟩
        obtain ⟨r', hmem', -, htag'⟩ := hview.twin hrmem hrv
        have hid' := (Session.tag_eq htag'.symm).2.1 (not_not.mp hnew)
        have hid₂ := (Session.tag_eq htag).2.1 (not_not.mp hnew₂)
        have hle := hmax r' hmem' (Session.isActive_of_tag htag' hr)
        exact List.inj_on_of_nodup_map t₂.ids hrmem hmem₂
          (Int.le_antisymm (hid' ▸ hid₂ ▸ hle) (hrmax r₂ hmem₂ hactive₂))

theorem findCity_congr (hcities : s₁.parkingCities = s₂.parkingCities) (ok : Outcomes)
    (i₁ i₂ : Int) (lat lon : Double) : findCity ⟨ok, i₁⟩ s₁ lat lon = findCity ⟨ok, i₂⟩ s₂ lat lon := by
  simp only [findCity, Store.selectCityAt, hcities]

theorem startParking_congr (hcities : s₁.parkingCities = s₂.parkingCities)
    (hactive : (s₁.selectActiveId v).isSome = (s₂.selectActiveId v).isSome) (ok : Outcomes)
    (i₁ i₂ : Int) (lat lon : Double) (cityId : Int) (startTime : Int64) :
    (startParking ⟨ok, i₁⟩ s₁ (some v) lat lon cityId startTime).2 =
      (startParking ⟨ok, i₂⟩ s₂ (some v) lat lon cityId startTime).2 := by
  have hprice : s₁.selectPrice cityId = s₂.selectPrice cityId := by
    simp only [Store.selectPrice, hcities]
  simp only [startParking, hactive, hprice]
  split
  · rfl
  split
  · rfl
  split
  · rfl
  split
  · rfl
  split
  · rfl
  split
  · rfl
  · rename_i price _ _
    cases bindDouble lat <;> cases bindDouble lon <;> cases bindDouble price <;> rfl

/-- Everything that one request can do to two stores that its vehicle sees alike. -/
inductive TwinEffect (old : List Int) (v : Text) (i₁ i₂ : Int) (s₁ s₂ : Store) :
    Store → Store → Prop
  | unchanged : TwinEffect old v i₁ i₂ s₁ s₂ s₁ s₂
  | started (lat lon : Double) (cityId : Int) (price : Double) (startTime : Int64) :
      TwinEffect old v i₁ i₂ s₁ s₂
        { s₁ with
          parkingSessions := s₁.parkingSessions.orderedInsert (·.id ≤ ·.id)
            (startedSession i₁ v lat lon cityId price startTime) }
        { s₂ with
          parkingSessions := s₂.parkingSessions.orderedInsert (·.id ≤ ·.id)
            (startedSession i₂ v lat lon cityId price startTime) }
  | ended (row₁ row₂ : Session) (endTime : Int64) (cost : Option Double)
      (active₁ : s₁.selectActive v = some row₁) (active₂ : s₂.selectActive v = some row₂)
      (tag : row₂.tag old = row₁.tag old) :
      TwinEffect old v i₁ i₂ s₁ s₂ (s₁.closeSession endTime cost row₁.id)
        (s₂.closeSession endTime cost row₂.id)

theorem Store.Alike.symm (h : s₁.Alike old v s₂) : s₂.Alike old v s₁ :=
  ⟨h.cities.symm, h.view.symm⟩

theorem Store.Alike.selectActive_none (h : s₁.Alike old v s₂) (t₁ : s₁.Tidy old)
    (h₁ : s₁.selectActive v = none) : s₂.selectActive v = none := by
  cases h₂ : s₂.selectActive v with
  | none => rfl
  | some r₂ =>
    obtain ⟨r₁, hr₁, -⟩ := h.symm.selectActive t₁ h₂
    cases h₁.symm.trans hr₁

theorem Store.Alike.isSome_selectActiveId (h : s₁.Alike old v s₂) (t₁ : s₁.Tidy old)
    (t₂ : s₂.Tidy old) : (s₁.selectActiveId v).isSome = (s₂.selectActiveId v).isSome := by
  rw [Store.isSome_selectActiveId, Store.isSome_selectActiveId]
  cases h₁ : s₁.selectActive v with
  | none => rw [h.selectActive_none t₁ h₁]
  | some r₁ =>
    obtain ⟨r₂, h₂, -⟩ := h.selectActive t₂ h₁
    rw [h₂]
    rfl

theorem startParking_twins (h : s₁.Alike old v s₂) (t₁ : s₁.Tidy old) (t₂ : s₂.Tidy old)
    (ok : Outcomes) (h₁ : startParking ⟨ok, i₁⟩ s₁ (some v) lat lon cityId startTime = (s₁', b₁))
    (h₂ : startParking ⟨ok, i₂⟩ s₂ (some v) lat lon cityId startTime = (s₂', b₂)) :
    b₁ = b₂ ∧ TwinEffect old v i₁ i₂ s₁ s₂ s₁' s₂' := by
  have hb : b₁ = b₂ := by
    have hcongr := startParking_congr h.cities (h.isSome_selectActiveId t₁ t₂) ok i₁ i₂ lat lon
      cityId startTime
    rwa [h₁, h₂] at hcongr
  subst hb
  refine ⟨rfl, ?_⟩
  rcases startParking_cases h₁ with ⟨rfl, rfl⟩ | ⟨_, c₁, rfl, ⟨⟩, -, -, -, hid₁, hprice₁, rfl⟩
  · rcases startParking_cases h₂ with ⟨-, rfl⟩ | ⟨_, _, hb, _⟩
    · exact .unchanged
    · cases hb
  · rcases startParking_cases h₂ with ⟨hb, -⟩ | ⟨_, c₂, -, ⟨⟩, -, -, -, -, hprice₂, rfl⟩
    · cases hb
    · have hprice : c₂.pricePerMinute = c₁.pricePerMinute := by
        simp only [Store.selectPrice, h.cities] at hprice₁ hprice₂
        exact Option.some.inj (hprice₂.symm.trans hprice₁)
      rw [hprice]
      exact .started lat lon cityId c₁.pricePerMinute startTime

theorem stopParking_twins (h : s₁.Alike old v s₂) (t₁ : s₁.Tidy old) (t₂ : s₂.Tidy old)
    (ok : Outcomes) (h₁ : stopParking ⟨ok, i₁⟩ s₁ (some v) endTime = (s₁', out₁))
    (h₂ : stopParking ⟨ok, i₂⟩ s₂ (some v) endTime = (s₂', out₂)) :
    out₁ = out₂ ∧ TwinEffect old v i₁ i₂ s₁ s₂ s₁' s₂' := by
  cases hrow₁ : s₁.selectActive v with
  | none =>
    have hrow₂ := h.selectActive_none t₁ hrow₁
    simp only [stopParking, hrow₁, ite_self, Prod.mk.injEq] at h₁
    simp only [stopParking, hrow₂, ite_self, Prod.mk.injEq] at h₂
    obtain ⟨⟨rfl, rfl⟩, rfl, rfl⟩ := And.intro h₁ h₂
    exact ⟨rfl, .unchanged⟩
  | some row₁ =>
    obtain ⟨row₂, hrow₂, htag⟩ := h.selectActive t₂ hrow₁
    obtain ⟨-, hstart, hprice, -⟩ := Session.renumber_eq (Session.tag_eq htag).2.2
    simp only [stopParking, hrow₁] at h₁
    simp only [stopParking, hrow₂, hstart, hprice] at h₂
    split_ifs at h₁ h₂ <;> obtain ⟨rfl, rfl⟩ := Prod.mk.inj h₁ <;>
      obtain ⟨rfl, rfl⟩ := Prod.mk.inj h₂
    iterate 4 exact ⟨rfl, .unchanged⟩
    exact ⟨rfl, .ended row₁ row₂ endTime _ hrow₁ hrow₂ htag⟩

theorem processStartParkingRequest_twins (h : s₁.Alike old request.vehicleNumber s₂)
    (t₁ : s₁.Tidy old) (t₂ : s₂.Tidy old) (ok : Outcomes) (i₁ i₂ : Int)
    (response : DatabaseToTcpMessage) :
    (processStartParkingRequest ⟨ok, i₁⟩ s₁ request response).2 =
        (processStartParkingRequest ⟨ok, i₂⟩ s₂ request response).2 ∧
      TwinEffect old request.vehicleNumber i₁ i₂ s₁ s₂
        (processStartParkingRequest ⟨ok, i₁⟩ s₁ request response).1
        (processStartParkingRequest ⟨ok, i₂⟩ s₂ request response).1 := by
  simp only [processStartParkingRequest, findCity_congr h.cities ok i₁ i₂]
  cases findCity ⟨ok, i₂⟩ s₂ request.latitude request.longitude with
  | none => exact ⟨rfl, .unchanged⟩
  | some cityId =>
    dsimp only
    cases h₁ : startParking ⟨ok, i₁⟩ s₁ (some request.vehicleNumber) request.latitude
      request.longitude cityId request.parkingStartTime with
    | mk s₁' b₁ =>
      cases h₂ : startParking ⟨ok, i₂⟩ s₂ (some request.vehicleNumber) request.latitude
        request.longitude cityId request.parkingStartTime with
      | mk s₂' b₂ =>
        obtain ⟨rfl, heffect⟩ := startParking_twins h t₁ t₂ ok h₁ h₂
        cases b₁ <;> exact ⟨rfl, heffect⟩

theorem processEndParkingRequest_twins (h : s₁.Alike old request.vehicleNumber s₂)
    (t₁ : s₁.Tidy old) (t₂ : s₂.Tidy old) (ok : Outcomes) (i₁ i₂ : Int)
    (response : DatabaseToTcpMessage) :
    (processEndParkingRequest ⟨ok, i₁⟩ s₁ request response).2 =
        (processEndParkingRequest ⟨ok, i₂⟩ s₂ request response).2 ∧
      TwinEffect old request.vehicleNumber i₁ i₂ s₁ s₂
        (processEndParkingRequest ⟨ok, i₁⟩ s₁ request response).1
        (processEndParkingRequest ⟨ok, i₂⟩ s₂ request response).1 := by
  simp only [processEndParkingRequest]
  cases h₁ : stopParking ⟨ok, i₁⟩ s₁ (some request.vehicleNumber) request.parkingEndTime with
  | mk s₁' out₁ =>
    cases h₂ : stopParking ⟨ok, i₂⟩ s₂ (some request.vehicleNumber) request.parkingEndTime with
    | mk s₂' out₂ =>
      obtain ⟨rfl, heffect⟩ := stopParking_twins h t₁ t₂ ok h₁ h₂
      cases out₁ <;> exact ⟨rfl, heffect⟩

/-- A request gets the same response from two stores that its vehicle sees alike. -/
theorem processDatabaseRequest_twins (h : s₁.Alike old request.vehicleNumber s₂)
    (t₁ : s₁.Tidy old) (t₂ : s₂.Tidy old) (ok : Outcomes) (i₁ i₂ : Int) :
    (processDatabaseRequest ⟨ok, i₁⟩ s₁ request).2 =
        (processDatabaseRequest ⟨ok, i₂⟩ s₂ request).2 ∧
      TwinEffect old request.vehicleNumber i₁ i₂ s₁ s₂
        (processDatabaseRequest ⟨ok, i₁⟩ s₁ request).1
        (processDatabaseRequest ⟨ok, i₂⟩ s₂ request).1 := by
  simp only [processDatabaseRequest]
  split
  · exact processStartParkingRequest_twins h t₁ t₂ ok i₁ i₂ _
  · exact processEndParkingRequest_twins h t₁ t₂ ok i₁ i₂ _
  · exact ⟨rfl, .unchanged⟩

end Twins

-- ---------------------------------------------------------------------------
-- What a request keeps
-- ---------------------------------------------------------------------------

section Steps

variable {old : List Int} {s s' s₁ s₂ s₁' s₂' : Store} {r : Session} {v : Text} {db : Sqlite}
  {request : TcpToDatabaseMessage} {response : DatabaseToTcpMessage}

theorem RequestEffect.cities (h : RequestEffect db s request s' response) :
    s'.parkingCities = s.parkingCities := by
  cases h <;> rfl

theorem RequestEffect.view (h : RequestEffect db s request s' response) (t : s.Tidy old)
    (hother : request.vehicleNumber ≠ v) : s'.view old v = s.view old v := by
  cases h with
  | refused => rfl
  | started => exact (Store.view_insert _).trans (if_neg hother)
  | ended row _ _ _ _ _ active =>
    obtain ⟨hmem, hrow, -⟩ := Store.selectActive_eq_some active
    rw [Store.view_close t.ids hmem, if_neg (hrow ▸ hother)]

theorem Store.Tidy.insert (t : s.Tidy old) (hid : r.id ∉ s.parkingSessions.map Session.id)
    (hidle : ∀ r' ∈ s.parkingSessions, ¬ r'.isActive r.vehicleNumber = true) :
    { s with parkingSessions := s.parkingSessions.orderedInsert (·.id ≤ ·.id) r }.Tidy old := by
  have hperm := (List.perm_orderedInsert (fun r r' : Session => r.id ≤ r'.id) r
    s.parkingSessions).map Session.id
  refine ⟨?_, fun i hi => ?_, fun r₁ hr₁ hnew hopen r₂ hr₂ hactive => ?_⟩
  · rw [hperm.nodup_iff, List.map_cons, List.nodup_cons]
    exact ⟨hid, t.ids⟩
  · rw [hperm.mem_iff, List.map_cons]
    exact List.mem_cons_of_mem _ (t.kept i hi)
  · rcases (List.mem_orderedInsert _).mp hr₁ with rfl | hmem₁ <;>
      rcases (List.mem_orderedInsert _).mp hr₂ with rfl | hmem₂
    · rfl
    · exact absurd hactive (hidle r₂ hmem₂)
    · have hv := (Session.isActive_iff.mp hactive).1
      exact absurd (Session.isActive_iff.mpr ⟨hv.symm, hopen⟩) (hidle r₁ hmem₁)
    · exact t.alone r₁ hmem₁ hnew hopen r₂ hmem₂ hactive

theorem Store.Tidy.close (t : s.Tidy old) (endTime : Int64) (cost : Option Double) (id : Int) :
    (s.closeSession endTime cost id).Tidy old := by
  have hids : (s.closeSession endTime cost id).parkingSessions.map Session.id =
      s.parkingSessions.map Session.id := by
    simp only [Store.closeSession, List.map_map]
    refine List.map_congr_left fun r _ => ?_
    simp only [Function.comp]
    split <;> rfl
  -- A row that is still active was not touched.
  have hopen : ∀ r ∈ (s.closeSession endTime cost id).parkingSessions, r.endTime = none →
      r ∈ s.parkingSessions := by
    intro r hr hnone
    obtain ⟨r₀, hr₀, rfl⟩ := List.mem_map.mp hr
    split at hnone
    · cases hnone
    · rw [if_neg ‹_›]
      exact hr₀
  refine ⟨hids ▸ t.ids, hids ▸ t.kept, fun r₁ hr₁ hnew hnone r₂ hr₂ hactive => ?_⟩
  exact t.alone r₁ (hopen r₁ hr₁ hnone) hnew hnone r₂
    (hopen r₂ hr₂ (Session.isActive_iff.mp hactive).2) hactive

theorem RequestEffect.tidy (h : RequestEffect db s request s' response) (t : s.Tidy old)
    (hfresh : db.rowid ∉ s.parkingSessions.map Session.id) : s'.Tidy old := by
  cases h with
  | refused => exact t
  | started _ _ _ _ _ _ idle => exact t.insert hfresh idle
  | ended => exact t.close ..

theorem TwinEffect.view (h : TwinEffect old v i₁ i₂ s₁ s₂ s₁' s₂') (t₁ : s₁.Tidy old)
    (t₂ : s₂.Tidy old) (h₁ : i₁ ∉ s₁.parkingSessions.map Session.id)
    (h₂ : i₂ ∉ s₂.parkingSessions.map Session.id) (hview : s₁.view old v = s₂.view old v) :
    s₁'.view old v = s₂'.view old v := by
  cases h with
  | unchanged => exact hview
  | started lat lon cityId price startTime =>
    have htag : (startedSession i₁ v lat lon cityId price startTime).tag old =
        (startedSession i₂ v lat lon cityId price startTime).tag old := by
      have hold₁ : i₁ ∉ old := fun hi => h₁ (t₁.kept _ hi)
      have hold₂ : i₂ ∉ old := fun hi => h₂ (t₂.kept _ hi)
      simp [Session.tag, startedSession, Session.renumber, hold₁, hold₂]
    rw [Store.view_insert, Store.view_insert, htag, hview]
    rfl
  | ended row₁ row₂ endTime cost active₁ active₂ tag =>
    obtain ⟨hmem₁, hv₁, -⟩ := Store.selectActive_eq_some active₁
    obtain ⟨hmem₂, hv₂, -⟩ := Store.selectActive_eq_some active₂
    rw [Store.view_close t₁.ids hmem₁, Store.view_close t₂.ids hmem₂, if_pos hv₁, if_pos hv₂,
      Session.tag_close tag, tag, hview]

end Steps

-- ---------------------------------------------------------------------------
-- Lists of requests
-- ---------------------------------------------------------------------------

section Lists

variable {old : List Int} {s s₁ s₂ : Store} {v : Text} {rowid rowid₁ rowid₂ : Store → Int}

def FreshRowid (rowid : Store → Int) : Prop := ∀ s, rowid s ∉ s.parkingSessions.map Session.id

theorem processRequests_cities (l : List TcpToDatabaseMessage) :
    (processRequests rowid s l).1.parkingCities = s.parkingCities := by
  induction l generalizing s with
  | nil => rfl
  | cons request rest ih => exact ih.trans requestEffect.cities

theorem processRequests_tidy (hfresh : FreshRowid rowid) (t : s.Tidy old)
    (l : List TcpToDatabaseMessage) : (processRequests rowid s l).1.Tidy old := by
  induction l generalizing s with
  | nil => exact t
  | cons request rest ih => exact ih (requestEffect.tidy t (hfresh s))

/-- A vehicle is answered, and sees the store in the end, as if its requests
were the only ones. -/
theorem processRequests_filter (h₁ : FreshRowid rowid₁) (h₂ : FreshRowid rowid₂)
    (h : s₁.Alike old v s₂) (t₁ : s₁.Tidy old) (t₂ : s₂.Tidy old)
    (l : List TcpToDatabaseMessage) :
    (processRequests rowid₁ s₁ l).2.filter (·.1.vehicleNumber = v) =
        (processRequests rowid₂ s₂ (l.filter (·.vehicleNumber = v))).2 ∧
      (processRequests rowid₁ s₁ l).1.view old v =
        (processRequests rowid₂ s₂ (l.filter (·.vehicleNumber = v))).1.view old v := by
  induction l generalizing s₁ s₂ with
  | nil => exact ⟨rfl, h.view⟩
  | cons request rest ih =>
    have t₁' : (processDatabaseRequest ⟨.succeed, rowid₁ s₁⟩ s₁ request).1.Tidy old :=
      requestEffect.tidy t₁ (h₁ s₁)
    have hcities₁ : (processDatabaseRequest ⟨.succeed, rowid₁ s₁⟩ s₁ request).1.parkingCities =
        s₁.parkingCities := requestEffect.cities
    by_cases hv : request.vehicleNumber = v
    · subst hv
      obtain ⟨hresponse, heffect⟩ := processDatabaseRequest_twins h t₁ t₂ .succeed (rowid₁ s₁)
        (rowid₂ s₂)
      have t₂' : (processDatabaseRequest ⟨.succeed, rowid₂ s₂⟩ s₂ request).1.Tidy old :=
        requestEffect.tidy t₂ (h₂ s₂)
      obtain ⟨hanswers, hview⟩ := ih ⟨hcities₁.trans (h.cities.trans requestEffect.cities.symm),
        heffect.view t₁ t₂ (h₁ s₁) (h₂ s₂) h.view⟩ t₁' t₂'
      simp only [processRequests, List.filter_cons, decide_true, if_true, hanswers, hresponse,
        true_and]
      exact hview
    · obtain ⟨hanswers, hview⟩ := ih ⟨hcities₁.trans h.cities,
        (requestEffect.view t₁ hv).trans h.view⟩ t₁' t₂
      simp only [processRequests, List.filter_cons, hv, decide_false]
      exact ⟨hanswers, hview⟩

end Lists

-- ---------------------------------------------------------------------------
-- The renumbering
-- ---------------------------------------------------------------------------

theorem map_tag_of_views {old : List Int} {s₁ s₂ : Store}
    (h : ∀ v, s₁.view old v = s₂.view old v) :
    (s₁.parkingSessions : Multiset Session).map (·.tag old) =
      (s₂.parkingSessions : Multiset Session).map (·.tag old) := by
  have hcount (s : Store) (x : Option Int × Session) :
      ((s.parkingSessions : Multiset Session).map (·.tag old)).count x =
        (s.view old x.2.vehicleNumber).count x := by
    rw [Store.view, Multiset.count_map, Multiset.count_map, Multiset.filter_filter]
    congr 1
    refine Multiset.filter_congr fun r _ => ⟨fun hx => ⟨hx, ?_⟩, fun hx => hx.1⟩
    rw [hx]
    rfl
  refine Multiset.ext.mpr fun x => ?_
  rw [hcount, hcount, h]

/-- Rows that are equal up to new ids are equal after a renumbering of these.
By induction on the matching of the rows: each sets the renumbering at one id. -/
theorem exists_renumber {old : List Int} {rows₁ rows₂ : Multiset Session}
    (h : Multiset.Rel (fun r₁ r₂ => r₁.tag old = r₂.tag old) rows₁ rows₂)
    (hids : (rows₁.map Session.id).Nodup) :
    ∃ f : Int → Int, (∀ i ∈ old, f i = i) ∧ rows₁.map (·.renumber f) = rows₂ := by
  induction h with
  | zero => exact ⟨id, fun _ _ => rfl, rfl⟩
  | @cons r₁ r₂ rows₁ rows₂ htag _ ih =>
    rw [Multiset.map_cons, Multiset.nodup_cons] at hids
    obtain ⟨f, hold, hrows⟩ := ih hids.2
    obtain ⟨hmem, hid, hrow⟩ := Session.tag_eq htag
    refine ⟨Function.update f r₁.id r₂.id, fun i hi => ?_, ?_⟩
    · by_cases he : i = r₁.id
      · subst he
        rw [Function.update_self]
        exact (hid hi).symm
      · rw [Function.update_of_ne he]
        exact hold i hi
    · rw [Multiset.map_cons]
      congr 1
      · simp only [Session.renumber, Session.mk.injEq, Function.update_self] at hrow ⊢
        obtain ⟨-, hrow⟩ := hrow
        cases r₂
        simpa using hrow
      · rw [← hrows]
        refine Multiset.map_congr rfl fun r hr => ?_
        have hne : r.id ≠ r₁.id := fun he => hids.1 (he ▸ Multiset.mem_map_of_mem _ hr)
        rw [Session.renumber, Session.renumber, Function.update_of_ne hne]

/-- The order of requests of different vehicles matters neither to the
responses nor, but for the ids of new rows, to the table of sessions. -/
theorem vehicles_independent (s : Store) (l₁ l₂ : List TcpToDatabaseMessage)
    (rowid₁ rowid₂ : Store → Int) (hkey : (s.parkingSessions.map Session.id).Nodup)
    (h₁ : FreshRowid rowid₁) (h₂ : FreshRowid rowid₂) (hl : Reordered l₁ l₂) :
    (∀ v, (processRequests rowid₁ s l₁).2.filter (·.1.vehicleNumber = v) =
      (processRequests rowid₂ s l₂).2.filter (·.1.vehicleNumber = v)) ∧
    (processRequests rowid₁ s l₁).1.parkingCities = (processRequests rowid₂ s l₂).1.parkingCities ∧
    ∃ f : Int → Int, (∀ i ∈ s.parkingSessions.map Session.id, f i = i) ∧
      Set.InjOn f { i | i ∈ (processRequests rowid₁ s l₁).1.parkingSessions.map Session.id } ∧
      ((processRequests rowid₁ s l₁).1.parkingSessions.map (·.renumber f)).Perm
        (processRequests rowid₂ s l₂).1.parkingSessions := by
  have t : s.Tidy (s.parkingSessions.map Session.id) :=
    ⟨hkey, fun _ hi => hi, fun r hr hnew => absurd (List.mem_map_of_mem hr) hnew⟩
  have hside₁ (v : Text) := processRequests_filter h₁ h₂ ⟨rfl, rfl⟩ t t (v := v) l₁
  have hside₂ (v : Text) := processRequests_filter h₂ h₂ ⟨rfl, rfl⟩ t t (v := v) l₂
  have t₁ := processRequests_tidy h₁ t l₁
  have t₂ := processRequests_tidy h₂ t l₂
  refine ⟨fun v => ?_, ?_, ?_⟩
  · rw [(hside₁ v).1, (hside₂ v).1, hl.vehicle v]
  · rw [processRequests_cities, processRequests_cities]
  · have hviews (v : Text) := (hside₁ v).2.trans ((hl.vehicle v ▸ (hside₂ v).2).symm)
    obtain ⟨f, hold, hrows⟩ := exists_renumber
      (Multiset.rel_map.mp (Multiset.rel_eq.mpr (map_tag_of_views hviews))) (by simpa using t₁.ids)
    have hperm := Multiset.coe_eq_coe.mp (by simpa using hrows)
    refine ⟨f, hold, fun i hi j hj he => ?_, hperm⟩
    have hnodup := (hperm.map Session.id).nodup_iff.mpr t₂.ids
    rw [List.map_map, show Session.id ∘ (·.renumber f) = f ∘ Session.id from rfl, ← List.map_map]
      at hnodup
    exact List.inj_on_of_nodup_map hnodup hi hj he

def parkInHaifa : TcpToDatabaseMessage := ⟨2, .startParking, [66], .finite 25, .finite 25, 200, 0⟩

theorem reordered_swap : Reordered [parkInJerusalem, parkInHaifa] [parkInHaifa, parkInJerusalem] where
  perm := .swap ..
  vehicle := by
    intro v
    by_cases h : [65] = v
    · subst h
      rfl
    · simp [List.filter_cons, parkInJerusalem, h]

theorem vehicles_independent_swap :
    (processRequests Store.nextSessionId Store.initial [parkInJerusalem, parkInHaifa]).2.filter
        (·.1.vehicleNumber = [65]) =
      (processRequests Store.nextSessionId Store.initial [parkInHaifa, parkInJerusalem]).2.filter
        (·.1.vehicleNumber = [65]) :=
  (vehicles_independent Store.initial [parkInJerusalem, parkInHaifa] [parkInHaifa, parkInJerusalem]
    Store.nextSessionId Store.nextSessionId (by decide) (fun _ => nextRowid_not_mem _)
    (fun _ => nextRowid_not_mem _) reordered_swap).1 [65]

end ParkingSystem
