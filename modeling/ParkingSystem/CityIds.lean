import Mathlib.Data.List.MinMax
import ParkingSystem.Lib.Runs
import ParkingSystem.RequestProcessing
import ParkingSystem.StoreInvariant

/-!
# What the city id of a session means

`parking_sessions.city_id` is a plain number. The city it was taken from can be
deleted, and SQLite gives a new row of an INTEGER PRIMARY KEY table the largest
id plus one: the id of a deleted city comes back when it was the largest one.
`Registry` counts the insertions into `parking_cities`, so that two rows that
had the same id at different times are told apart, and `city_id_kept_iff` says
when a city id still names the row that the session was started in.
-/

namespace ParkingSystem

/-- The id of a new row of an INTEGER PRIMARY KEY table without AUTOINCREMENT. -/
def nextRowid (ids : List Int) : Int :=
  match ids.max? with
  | none => 1
  | some largest => largest + 1

theorem nextRowid_not_mem (ids : List Int) : nextRowid ids ∉ ids := by
  intro hmem
  unfold nextRowid at hmem
  split at hmem
  · rename_i hnone
    rw [List.max?_eq_none_iff.mp hnone] at hmem
    cases hmem
  · rename_i largest hmax
    have hle := (List.max?_eq_some_iff.mp hmax).2 _ hmem
    omega

def Store.nextCityId (s : Store) : Int := nextRowid (s.parkingCities.map City.id)

def Store.nextSessionId (s : Store) : Int := nextRowid (s.parkingSessions.map Session.id)

structure Registry where
  store : Store
  /-- The number of the insertion that made the city row which has the id. -/
  birth : Int → Nat
  /-- By session id, the number of the city row that the session was started in. -/
  startedIn : Int → Nat
  births : Nat

inductive RegistryAction where
  | process (ok : Outcomes) (request : TcpToDatabaseMessage)
  | priceUpdater (ok : Outcomes) (op : StoreOp)

namespace Registry

def initial : Registry := ⟨Store.initial, Int.toNat, fun _ => 0, 4⟩

def chosenBirth (g : Registry) (request : TcpToDatabaseMessage) : Nat :=
  match g.store.parkingCities.find? (·.contains request.latitude request.longitude) with
  | some found => g.birth found.id
  | none => 0

def step (g : Registry) : RegistryAction → Option Registry
  | .process ok request =>
    let rowid := g.store.nextSessionId
    let (store, response) := processDatabaseRequest ⟨ok, rowid⟩ g.store request
    if request.action = .startParking ∧ response.status = .success then
      some { g with
        store := store, startedIn := Function.update g.startedIn rowid (g.chosenBirth request) }
    else some { g with store := store }
  | .priceUpdater ok op =>
    if op.onCities then
      let rowid := g.store.nextCityId
      let store := op.exec ⟨ok, rowid⟩ g.store
      if rowid ∈ store.parkingCities.map City.id then
        some { g with
          store := store, birth := Function.update g.birth rowid g.births, births := g.births + 1 }
      else some { g with store := store }
    else none

/-- A city with the id of a session is the row that the session was started
in, and its area contains the place of the session. -/
def Meaningful (g : Registry) : Prop :=
  ∀ r ∈ g.store.parkingSessions, ∀ c ∈ g.store.parkingCities, c.id = r.cityId →
    g.birth c.id = g.startedIn r.id ∧ c.contains r.latitude r.longitude = true

/-- A city is inserted under an id that no session has, and a session is
inserted for a city whose id fits a C `int`. -/
def KeepsIds (g : Registry) : RegistryAction → Prop
  | .process ok request =>
    request.action = .startParking →
    (processDatabaseRequest ⟨ok, g.store.nextSessionId⟩ g.store request).2.status = .success →
    ∀ found ∈ g.store.parkingCities.find? (·.contains request.latitude request.longitude),
      columnInt found.id = found.id
  | .priceUpdater ok op =>
    g.store.nextCityId ∈ (op.exec ⟨ok, g.store.nextCityId⟩ g.store).parkingCities.map City.id →
      ∀ r ∈ g.store.parkingSessions, r.cityId ≠ g.store.nextCityId

instance (g : Registry) (a : RegistryAction) : Decidable (g.KeepsIds a) := by
  cases a <;> unfold KeepsIds <;> infer_instance

end Registry

-- ---------------------------------------------------------------------------
-- What one step can do
-- ---------------------------------------------------------------------------

namespace Registry

inductive Change (g : Registry) : RegistryAction → Registry → Prop
  | citiesKept (cities : List City)
      (ids : (cities.map City.id).Sublist (g.store.parkingCities.map City.id))
      (kept : ∀ c' ∈ cities, ∃ c ∈ g.store.parkingCities, c.id = c'.id ∧
        ∀ lat lon, c.contains lat lon = c'.contains lat lon)
      (idle : ∀ ok op, a = .priceUpdater ok op →
        g.store.nextCityId ∉ (op.exec ⟨ok, g.store.nextCityId⟩ g.store).parkingCities.map City.id)
      (refused : ∀ ok request, a = .process ok request → request.action = .startParking →
        (processDatabaseRequest ⟨ok, g.store.nextSessionId⟩ g.store request).2.status ≠ .success) :
      Change g a { g with store := { g.store with parkingCities := cities } }
  | cityAdded (ok : Outcomes) (op : StoreOp) (row : City) (rowid : row.id = g.store.nextCityId)
      (inserted : g.store.nextCityId ∈
        (op.exec ⟨ok, g.store.nextCityId⟩ g.store).parkingCities.map City.id) :
      Change g (.priceUpdater ok op) { g with
        store := { g.store with
          parkingCities := g.store.parkingCities.orderedInsert (·.id ≤ ·.id) row }
        birth := Function.update g.birth g.store.nextCityId g.births
        births := g.births + 1 }
  | started (ok : Outcomes) (request : TcpToDatabaseMessage) (row : Session) (found city : City)
      (isStart : request.action = .startParking)
      (status : (processDatabaseRequest ⟨ok, g.store.nextSessionId⟩ g.store request).2.status =
        .success)
      (chosen : g.store.parkingCities.find?
        (·.contains request.latitude request.longitude) = some found)
      (latitude : row.latitude = request.latitude) (longitude : row.longitude = request.longitude)
      (mem : city ∈ g.store.parkingCities) (cityId : city.id = columnInt found.id)
      (rowCity : row.cityId = city.id) (rowid : row.id = g.store.nextSessionId) :
      Change g (.process ok request) { g with
        store := { g.store with
          parkingSessions := g.store.parkingSessions.orderedInsert (·.id ≤ ·.id) row }
        startedIn := Function.update g.startedIn g.store.nextSessionId (g.birth found.id) }
  | ended (ok : Outcomes) (request : TcpToDatabaseMessage) (endTime : Int64) (cost : Option Double)
      (sessionId : Int) (isEnd : request.action = .endParking) :
      Change g (.process ok request) { g with store := g.store.closeSession endTime cost sessionId }

variable {g g' : Registry} {a : RegistryAction}

theorem process_cases {ok : Outcomes} {request : TcpToDatabaseMessage}
    (h : g.step (.process ok request) = some g') : Change g (.process ok request) g' := by
  cases hp : processDatabaseRequest ⟨ok, g.store.nextSessionId⟩ g.store request with
  | mk store response =>
    simp only [step, hp] at h
    cases processDatabaseRequest_cases hp with
    | refused status =>
      rw [if_neg (fun hs => status hs.2)] at h
      cases h
      refine .citiesKept _ (.refl _) (fun c hc => ⟨c, hc, rfl, fun _ _ => rfl⟩)
        (fun _ _ h => nomatch h) ?_
      rintro _ _ ⟨⟩ -
      rw [hp]
      exact status
    | started found city isStart status _ _ _ chosen mem cityId _ =>
      rw [if_pos ⟨isStart, status⟩, chosenBirth, chosen] at h
      cases h
      exact .started ok request _ found city isStart (hp ▸ status) chosen rfl rfl mem cityId rfl rfl
    | ended row isEnd =>
      rw [if_neg (fun hs => by cases isEnd.symm.trans hs.1)] at h
      cases h
      exact .ended ok request _ _ _ isEnd

theorem priceUpdater_cases {ok : Outcomes} {op : StoreOp}
    (h : g.step (.priceUpdater ok op) = some g') : Change g (.priceUpdater ok op) g' := by
  simp only [step] at h
  split at h
  swap
  · cases h
  rename_i hop
  have hexec : g.store.step ⟨op, ⟨ok, g.store.nextCityId⟩⟩ =
      some (op.exec ⟨ok, g.store.nextCityId⟩ g.store) := rfl
  have hfresh : g.store.nextCityId ∉ g.store.parkingCities.map City.id := nextRowid_not_mem _
  -- A call that leaves only old ids has inserted nothing.
  have hkept : ∀ cities : List City,
      (op.exec ⟨ok, g.store.nextCityId⟩ g.store) = { g.store with parkingCities := cities } →
      (cities.map City.id).Sublist (g.store.parkingCities.map City.id) →
      (∀ c' ∈ cities, ∃ c ∈ g.store.parkingCities, c.id = c'.id ∧
        ∀ lat lon, c.contains lat lon = c'.contains lat lon) →
      Change g (.priceUpdater ok op) g' := by
    intro cities heq hids hcities
    have hold : g.store.nextCityId ∉
        (op.exec ⟨ok, g.store.nextCityId⟩ g.store).parkingCities.map City.id := by
      rw [heq]
      exact fun hmem => hfresh (hids.mem hmem)
    rw [if_neg hold, heq] at h
    cases h
    refine .citiesKept cities hids hcities ?_ (fun _ _ h => nomatch h)
    rintro _ _ ⟨⟩
    exact hold
  generalize hs : op.exec ⟨ok, g.store.nextCityId⟩ g.store = store at hexec
  cases step_cases hexec with
  | unchanged => exact hkept _ hs (.refl _) fun c hc => ⟨c, hc, rfl, fun _ _ => rfl⟩
  | @cityAdded _ _ _ _ _ _ row isAdd rowid name wellFormed =>
    have hnew : g.store.nextCityId ∈
        (op.exec ⟨ok, g.store.nextCityId⟩ g.store).parkingCities.map City.id := by
      rw [hs]
      exact List.mem_map.mpr ⟨row, (List.mem_orderedInsert _).mpr (.inl rfl), rowid⟩
    rw [if_pos hnew, hs] at h
    cases h
    exact .cityAdded ok op row rowid hnew
  | priceSet name nonneg =>
    refine hkept _ hs ?_ ?_
    · rw [List.map_map, List.map_congr_left (g := City.id)]
      intro c _
      simp only [Function.comp]
      split <;> rfl
    · intro c' hc'
      obtain ⟨c, hc, rfl⟩ := List.mem_map.mp hc'
      refine ⟨c, hc, ?_, fun lat lon => ?_⟩
      · split <;> rfl
      · split <;> rfl
  | cityRemoved name =>
    have hsub := List.filter_sublist (p := fun c : City => !decide (some c.city = name))
      (l := g.store.parkingCities)
    exact hkept _ hs (hsub.map _) fun c hc => ⟨c, hsub.mem hc, rfl, fun _ _ => rfl⟩
  | started _ _ _ _ _ isStart =>
    obtain rfl : op = _ := isStart
    cases hop
  | stopped _ _ _ isStop =>
    obtain rfl : op = _ := isStop
    cases hop

theorem change_of_step (h : g.step a = some g') : Change g a g' := by
  cases a with
  | process ok request => exact process_cases h
  | priceUpdater ok op => exact priceUpdater_cases h

-- ---------------------------------------------------------------------------
-- Numbers of insertions
-- ---------------------------------------------------------------------------

/-- Different rows have different numbers, below those still to come. -/
structure Numbered (g : Registry) : Prop where
  cityIds : (g.store.parkingCities.map City.id).Nodup
  born : ∀ c ∈ g.store.parkingCities, g.birth c.id < g.births
  distinct : ∀ c ∈ g.store.parkingCities, ∀ c' ∈ g.store.parkingCities,
    g.birth c.id = g.birth c'.id → c.id = c'.id
  startedIn : ∀ r ∈ g.store.parkingSessions, g.startedIn r.id < g.births

theorem Numbered.initial : Registry.initial.Numbered where
  cityIds := Store.WellFormed.initial.cityIds
  born := by decide +kernel
  distinct := by decide +kernel
  startedIn := by simp [Registry.initial, Store.initial]

theorem nextCityId_ne {c : City} (hc : c ∈ g.store.parkingCities) : c.id ≠ g.store.nextCityId :=
  fun heq => nextRowid_not_mem _ (List.mem_map.mpr ⟨c, hc, heq⟩)

theorem nextSessionId_ne {r : Session} (hr : r ∈ g.store.parkingSessions) :
    r.id ≠ g.store.nextSessionId :=
  fun heq => nextRowid_not_mem _ (List.mem_map.mpr ⟨r, hr, heq⟩)

theorem closeSession_mem {s : Store} {r' : Session} {endTime : Int64} {cost : Option Double}
    {sessionId : Int} (h : r' ∈ (s.closeSession endTime cost sessionId).parkingSessions) :
    ∃ r ∈ s.parkingSessions, r'.id = r.id ∧ r'.cityId = r.cityId ∧ r'.latitude = r.latitude ∧
      r'.longitude = r.longitude := by
  obtain ⟨r, hr, rfl⟩ := List.mem_map.mp h
  refine ⟨r, hr, ?_⟩
  split <;> exact ⟨rfl, rfl, rfl, rfl⟩

theorem Numbered.step (n : g.Numbered) (h : Change g a g') : g'.Numbered := by
  cases h with
  | citiesKept cities ids kept =>
    refine ⟨ids.nodup n.cityIds, ?_, ?_, n.startedIn⟩
    · intro c' hc'
      obtain ⟨c, hc, hid, -⟩ := kept c' hc'
      exact hid ▸ n.born c hc
    · intro c₁' h₁ c₂' h₂ hbirth
      obtain ⟨c₁, hc₁, hid₁, -⟩ := kept c₁' h₁
      obtain ⟨c₂, hc₂, hid₂, -⟩ := kept c₂' h₂
      rw [← hid₁, ← hid₂] at hbirth ⊢
      exact n.distinct c₁ hc₁ c₂ hc₂ hbirth
  | cityAdded ok op row rowid =>
    have hrow : ∀ {c}, c ∈ g.store.parkingCities →
        Function.update g.birth g.store.nextCityId g.births c.id = g.birth c.id := fun hc =>
      Function.update_of_ne (nextCityId_ne hc) _ _
    refine ⟨?_, ?_, ?_, fun r hr => Nat.lt_succ_of_lt (n.startedIn r hr)⟩
    · have hperm := List.perm_orderedInsert (·.id ≤ ·.id) row g.store.parkingCities
      rw [(hperm.map City.id).nodup_iff, List.map_cons, List.nodup_cons, rowid]
      exact ⟨nextRowid_not_mem _, n.cityIds⟩
    · intro c hc
      rcases (List.mem_orderedInsert _).mp hc with rfl | hc
      · simp [rowid]
      · simpa [hrow hc] using Nat.lt_succ_of_lt (n.born c hc)
    · intro c hc c' hc' hbirth
      rcases (List.mem_orderedInsert _).mp hc with rfl | hold <;>
        rcases (List.mem_orderedInsert _).mp hc' with rfl | hold'
      · rfl
      · simp only [rowid, Function.update_self, hrow hold'] at hbirth
        exact absurd (n.born c' hold') (by omega)
      · simp only [rowid, Function.update_self, hrow hold] at hbirth
        exact absurd (n.born c hold) (by omega)
      · simp only [hrow hold, hrow hold'] at hbirth
        exact n.distinct c hold c' hold' hbirth
  | started ok request row found city isStart status chosen _ _ mem cityId rowCity rowid =>
    refine ⟨n.cityIds, n.born, n.distinct, fun r hr => ?_⟩
    rcases (List.mem_orderedInsert _).mp hr with rfl | hr
    · simpa [rowid] using n.born found (List.mem_of_find?_eq_some chosen)
    · simpa [Function.update_of_ne (nextSessionId_ne hr)] using n.startedIn r hr
  | ended ok request endTime cost sessionId =>
    refine ⟨n.cityIds, n.born, n.distinct, fun r' hr' => ?_⟩
    obtain ⟨r, hr, hid, -⟩ := closeSession_mem hr'
    exact hid ▸ n.startedIn r hr

-- ---------------------------------------------------------------------------
-- Steps that keep the meaning, and steps that lose it
-- ---------------------------------------------------------------------------

theorem Meaningful.step (m : g.Meaningful) (n : g.Numbered) (hc : g.KeepsIds a)
    (h : Change g a g') : g'.Meaningful := by
  cases h with
  | citiesKept cities ids kept =>
    intro r hr c' hc' hid
    obtain ⟨c, hcity, heq, harea⟩ := kept c' hc'
    obtain ⟨hbirth, hcontains⟩ := m r hr c hcity (heq.trans hid)
    exact ⟨heq ▸ hbirth, harea _ _ ▸ hcontains⟩
  | cityAdded ok op row rowid inserted =>
    intro r hr c hcity hid
    rcases (List.mem_orderedInsert _).mp hcity with rfl | hcity
    · exact absurd (hid.symm.trans rowid) (hc inserted r hr)
    · obtain ⟨hbirth, hcontains⟩ := m r hr c hcity hid
      exact ⟨(Function.update_of_ne (nextCityId_ne hcity) _ _).trans hbirth, hcontains⟩
  | started ok request row found city isStart status chosen latitude longitude mem cityId rowCity
      rowid =>
    intro r hr c hcity hid
    rcases (List.mem_orderedInsert _).mp hr with rfl | hr
    · have hfound := List.mem_of_find?_eq_some chosen
      have hsame : c.id = found.id :=
        (hid.trans (rowCity.trans cityId)).trans (hc isStart status found chosen)
      obtain rfl : c = found := List.inj_on_of_nodup_map n.cityIds hcity hfound hsame
      rw [latitude, longitude]
      exact ⟨by simp [rowid], by simpa using List.find?_some chosen⟩
    · obtain ⟨hbirth, hcontains⟩ := m r hr c hcity hid
      exact ⟨hbirth.trans (Function.update_of_ne (nextSessionId_ne hr) _ _).symm, hcontains⟩
  | ended ok request endTime cost sessionId =>
    intro r' hr' c hcity hid
    obtain ⟨r, hr, hrid, hrcity, hlat, hlon⟩ := closeSession_mem hr'
    rw [hlat, hlon]
    show g.birth c.id = g.startedIn r'.id ∧ _
    rw [hrid]
    exact m r hr c hcity (hid.trans hrcity)

theorem not_meaningful_of_not_keepsIds (n : g.Numbered) (hc : ¬ g.KeepsIds a)
    (h : Change g a g') : ¬ g'.Meaningful := by
  intro m
  cases h with
  | citiesKept cities ids kept idle refused =>
    cases a with
    | process ok request =>
      exact hc fun hstart hstatus => absurd hstatus (refused ok request rfl hstart)
    | priceUpdater ok op => exact hc fun hmem => absurd hmem (idle ok op rfl)
  | cityAdded ok op row rowid inserted =>
    simp only [KeepsIds, not_forall, not_not] at hc
    obtain ⟨-, r, hr, hid⟩ := hc
    obtain ⟨hbirth, -⟩ := m r hr row ((List.mem_orderedInsert _).mpr (.inl rfl))
      (rowid.trans hid.symm)
    -- The new row has a number that no session was started in.
    have hnew : g.births = g.startedIn r.id := by simpa [rowid] using hbirth
    exact absurd (n.startedIn r hr) (by omega)
  | started ok request row found city isStart status chosen latitude longitude mem cityId rowCity
      rowid =>
    simp only [KeepsIds, not_forall] at hc
    obtain ⟨-, -, found', hfound', hcut⟩ := hc
    obtain rfl : found = found' := Option.some.inj (chosen.symm.trans hfound')
    obtain ⟨hbirth, -⟩ := m row ((List.mem_orderedInsert _).mpr (.inl rfl)) city mem rowCity.symm
    have hsame : g.birth city.id = g.birth found.id := by simpa [rowid] using hbirth
    exact hcut (cityId.symm.trans
      (n.distinct city mem found (List.mem_of_find?_eq_some chosen) hsame))
  | ended ok request endTime cost sessionId isEnd =>
    exact hc fun hstart => by cases isEnd.symm.trans hstart

end Registry

open Runs (run Along)

/-- In every state of a run a city with the id of a session is the one it was
started in, exactly if no city is inserted under an id that a session has and no
session for a city whose id does not fit a C `int`. -/
theorem city_id_kept_iff (actions : List RegistryAction) (t : Registry)
    (hr : run Registry.step Registry.initial actions = some t) :
    (∀ before after g, actions = before ++ after →
      run Registry.step Registry.initial before = some g → g.Meaningful) ↔
    Along Registry.step Registry.KeepsIds Registry.initial actions := by
  constructor
  · intro hmeaning
    refine .of_steps hr fun before a after g g' hsplit hg hstep => ?_
    by_contra hc
    have n : g.Numbered := Runs.invariant
      (fun _ _ _ n h => n.step (Registry.change_of_step h)) .initial hg
    exact Registry.not_meaningful_of_not_keepsIds n hc (Registry.change_of_step hstep)
      (hmeaning (before ++ [a]) after g' (by simpa using hsplit)
        (Runs.run_concat.mpr ⟨g, hg, hstep⟩))
  · rintro hc before after g rfl hg
    have hboth : g.Numbered ∧ g.Meaningful := by
      refine Runs.invariant_along (I := fun g : Registry => g.Numbered ∧ g.Meaningful) ?_
        ⟨.initial, ?_⟩ hg ((Along.append hg).mp hc).1
      · rintro g a g' ⟨n, m⟩ ha h
        have hchange := Registry.change_of_step h
        exact ⟨n.step hchange, m.step n ha hchange⟩
      · simp [Registry.Meaningful, Registry.initial, Store.initial]
    exact hboth.2

def parkInJerusalem : TcpToDatabaseMessage :=
  ⟨1, .startParking, [65], .finite 35, .finite 35, 100, 0⟩

def addEilat : StoreOp :=
  .addCity (some (cityNamed "Eilat")) (.finite 0) (.finite 1) (.finite 0) (.finite 1) (.finite 9)

def addedBesideActions : List RegistryAction :=
  [.process .succeed parkInJerusalem, .priceUpdater .succeed addEilat]

def addedBeside : Registry :=
  (run Registry.step Registry.initial addedBesideActions).get (by decide +kernel)

theorem city_id_kept_iff_addedBeside : addedBeside.Meaningful :=
  (city_id_kept_iff addedBesideActions addedBeside (Option.some_get _).symm).mpr
    (by decide +kernel) addedBesideActions [] addedBeside (by simp) (Option.some_get _).symm

/-- Jerusalem is deleted first: Eilat is given its id. -/
def addedInPlaceActions : List RegistryAction :=
  [.process .succeed parkInJerusalem,
   .priceUpdater .succeed (.deleteCity (some (cityNamed "Jerusalem"))),
   .priceUpdater .succeed addEilat]

theorem city_id_not_always_kept :
    ¬ ∀ (actions : List RegistryAction) (t : Registry),
      run Registry.step Registry.initial actions = some t →
      ∀ r ∈ t.store.parkingSessions, ∀ c ∈ t.store.parkingCities, c.id = r.cityId →
        c.contains r.latitude r.longitude = true := by
  intro h
  have hwrong : (run Registry.step Registry.initial addedInPlaceActions).any (fun t =>
      ∃ r ∈ t.store.parkingSessions, ∃ c ∈ t.store.parkingCities, c.id = r.cityId ∧
        ¬ c.contains r.latitude r.longitude = true) = true := by decide +kernel
  obtain ⟨t, hr, ht⟩ := (Option.any_eq_true _ _).mp hwrong
  obtain ⟨r, hmem, c, hcity, hid, hout⟩ := of_decide_eq_true ht
  exact hout (h addedInPlaceActions t hr r hmem c hcity hid)

end ParkingSystem
