import ParkingSystem.BbgProcesses
import ParkingSystem.Independence
import ParkingSystem.Lib.Occupancy
import ParkingSystem.RequestOutcome

/-!
# Who is parked

What the tables are for, as far as a vehicle can tell: a place that vehicles enter and
leave. `lot_refined`: requests in good order are answered SUCCESS exactly when they fit,
that is when the vehicle is not parked for a START and parked for an END.

`test_events_answered`: so the requests of the BBG client are all answered SUCCESS as long
as none gets lost, and whichever get lost, the others are answered by who is then parked.
-/

namespace ParkingSystem

open Occupancy (after afterAll fits verdicts)
open Runs (run Along)

def TcpToDatabaseMessage.visit (request : TcpToDatabaseMessage) : Visit Text :=
  ⟨request.action = .startParking, request.vehicleNumber⟩

def TcpToDatabaseMessage.time (request : TcpToDatabaseMessage) : Int64 :=
  match request.action with
  | .startParking => request.parkingStartTime
  | _ => request.parkingEndTime

def answeredSuccess (answer : TcpToDatabaseMessage × DatabaseToTcpMessage) : Bool :=
  answer.2.status = .success

/-- A START or an END at some time, a START at the place of a city that its id, as a C
`int`, still identifies. -/
structure InGoodOrder (cities : List City) (request : TcpToDatabaseMessage) : Prop where
  action : request.action = .startParking ∨ request.action = .endParking
  time : 0 < request.time
  place : request.action = .startParking → ∃ found,
    cities.find? (·.contains request.latitude request.longitude) = some found ∧
      0 < columnInt found.id ∧ ∃ c ∈ cities, c.id = columnInt found.id

/-- The vehicles in `inside` have an open session, which started at `now` or before. -/
structure Store.Holds (s : Store) (inside : Finset Text) (now : Int64) : Prop where
  prices : ∀ c ∈ s.parkingCities, c.pricePerMinute ≠ .nan
  tidy : s.Tidy []
  parked : ∀ v, v ∈ inside ↔ ∃ r ∈ s.parkingSessions, r.isActive v = true
  started : ∀ r ∈ s.parkingSessions, r.endTime = none → r.startTime ≤ now

-- ---------------------------------------------------------------------------
-- One request
-- ---------------------------------------------------------------------------

section Request

variable {s s' : Store} {inside : Finset Text} {now : Int64} {rowid : Int} {v : Text}
  {request : TcpToDatabaseMessage} {r row : Session}

theorem Store.Tidy.active_closeSession (t : s.Tidy []) (hrow : row ∈ s.parkingSessions)
    (endTime : Int64) (cost : Option Double) :
    (r ∈ (s.closeSession endTime cost row.id).parkingSessions ∧ r.endTime = none) ↔
      r ∈ s.parkingSessions ∧ r.endTime = none ∧ r ≠ row := by
  obtain ⟨before, after, hsplit, hclosed⟩ := Store.closeSession_split t.ids hrow endTime cost
  have hapart : row ∉ before ++ after := by
    have hids := t.ids
    rw [hsplit, (List.perm_middle.map Session.id).nodup_iff, List.map_cons, List.nodup_cons] at hids
    exact fun hmem => hids.1 (List.mem_map_of_mem hmem)
  rw [hclosed, hsplit, List.perm_middle.mem_iff, List.perm_middle.mem_iff, List.mem_cons,
    List.mem_cons]
  constructor
  · rintro ⟨rfl | hr, hopen⟩
    · cases hopen
    · exact ⟨.inr hr, hopen, fun heq => hapart (heq ▸ hr)⟩
  · rintro ⟨rfl | hr, hopen, hne⟩
    · exact absurd rfl hne
    · exact ⟨.inr hr, hopen⟩

theorem Store.Holds.idle_iff (h : s.Holds inside now) :
    (∀ r ∈ s.parkingSessions, ¬ r.isActive v = true) ↔ v ∉ inside := by
  rw [h.parked]
  exact ⟨fun hall ⟨r, hr, hactive⟩ => hall r hr hactive, fun hnone r hr hactive => hnone ⟨r, hr, hactive⟩⟩

theorem Store.Holds.later (h : s.Holds inside now) {later : Int64} (hle : now ≤ later) :
    s.Holds inside later :=
  ⟨h.prices, h.tidy, h.parked, fun r hr hopen => Int64.le_trans (h.started r hr hopen) hle⟩

theorem Store.Holds.start (h : s.Holds inside now) (hready : InGoodOrder s.parkingCities request)
    (hstart : request.action = .startParking) :
    (processDatabaseRequest ⟨.succeed, rowid⟩ s request).2.status = .success ↔
      request.vehicleNumber ∉ inside := by
  obtain ⟨found, hfound, hid, hcity⟩ := hready.place hstart
  obtain ⟨hlat, hlon⟩ := City.contains_defined (findCity_spec hfound).2
  have htime : 0 < request.parkingStartTime := by
    have htime := hready.time
    rwa [TcpToDatabaseMessage.time, hstart] at htime
  rw [status_start hstart hfound, startParking_succeed hlat hlon h.prices, h.idle_iff]
  exact ⟨fun hall => hall.2.2.1, fun hout => ⟨hid, htime, hout, hcity⟩⟩

theorem Store.Holds.stop (h : s.Holds inside now) (hready : InGoodOrder s.parkingCities request)
    (hend : request.action = .endParking) (hnow : now ≤ request.time) :
    (processDatabaseRequest ⟨.succeed, rowid⟩ s request).2.status = .success ↔
      request.vehicleNumber ∈ inside := by
  have htime : request.time = request.parkingEndTime := by rw [TcpToDatabaseMessage.time, hend]
  have hpos := hready.time
  rw [htime] at hpos hnow
  have hstatus : (processDatabaseRequest ⟨.succeed, rowid⟩ s request).2.status = .success ↔
      (stopParking ⟨.succeed, rowid⟩ s (some request.vehicleNumber)
        request.parkingEndTime).2.isSome = true := by
    simp only [processDatabaseRequest, hend, status_end]
    split <;> simp [*]
  rw [hstatus, stopParking_isSome, h.parked]
  constructor
  · rintro ⟨-, -, -, row, hrow, -⟩
    obtain ⟨hmem, hactive⟩ := Store.selectActive_eq_some hrow
    exact ⟨row, hmem, Session.isActive_iff.mpr hactive⟩
  · rintro ⟨r, hr, hactive⟩
    refine ⟨hpos, Outcomes.runs_succeed .., Outcomes.runs_succeed .., ?_⟩
    cases hrow : s.selectActive request.vehicleNumber with
    | none => exact absurd hactive (Store.selectActive_eq_none.mp hrow r hr)
    | some row =>
      obtain ⟨hmem, -, hopen⟩ := Store.selectActive_eq_some hrow
      exact ⟨row, rfl, Int64.le_trans (h.started row hmem hopen) hnow⟩

theorem Store.Holds.entered (h : s.Holds inside now) {started : Session}
    (hopen : started.endTime = none) (htime : started.startTime ≤ now)
    (hid : started.id ∉ s.parkingSessions.map Session.id) (hout : started.vehicleNumber ∉ inside) :
    Store.Holds { s with
      parkingSessions := s.parkingSessions.orderedInsert (·.id ≤ ·.id) started }
      (insert started.vehicleNumber inside) now where
  prices := h.prices
  tidy := h.tidy.insert hid (h.idle_iff.mpr hout)
  parked v := by
    rw [Finset.mem_insert, h.parked]
    constructor
    · rintro (rfl | ⟨r, hr, hactive⟩)
      · exact ⟨started, (List.mem_orderedInsert _).mpr (.inl rfl), Session.isActive_iff.mpr ⟨rfl, hopen⟩⟩
      · exact ⟨r, (List.mem_orderedInsert _).mpr (.inr hr), hactive⟩
    · rintro ⟨r, hr, hactive⟩
      rcases (List.mem_orderedInsert _).mp hr with rfl | hr
      · exact .inl (Session.isActive_iff.mp hactive).1.symm
      · exact .inr ⟨r, hr, hactive⟩
  started r hr hopen := by
    rcases (List.mem_orderedInsert _).mp hr with rfl | hr
    · exact htime
    · exact h.started r hr hopen

theorem Store.Holds.left (h : s.Holds inside now) (hrow : row ∈ s.parkingSessions)
    (hopen : row.endTime = none) (endTime : Int64) (cost : Option Double) :
    (s.closeSession endTime cost row.id).Holds (inside.erase row.vehicleNumber) now where
  prices := h.prices
  tidy := h.tidy.close ..
  parked v := by
    have hstays (r : Session) : r ∈ (s.closeSession endTime cost row.id).parkingSessions ∧
        r.isActive v = true ↔ (r ∈ s.parkingSessions ∧ r.isActive v = true) ∧ r ≠ row := by
      rw [Session.isActive_iff, and_comm (a := r.vehicleNumber = v), ← and_assoc,
        h.tidy.active_closeSession hrow]
      tauto
    simp only [hstays, Finset.mem_erase, h.parked]
    constructor
    · rintro ⟨hv, r, hr, hactive⟩
      refine ⟨r, ⟨hr, hactive⟩, fun heq => hv ?_⟩
      rw [← (Session.isActive_iff.mp hactive).1, heq]
    · rintro ⟨r, ⟨hr, hactive⟩, hne⟩
      refine ⟨fun hv => hne ?_, r, hr, hactive⟩
      -- no two sessions of one vehicle are open
      exact h.tidy.alone row hrow List.not_mem_nil hopen r hr (hv ▸ hactive)
  started r hr hopen' := by
    obtain ⟨hold, hopen, -⟩ := (h.tidy.active_closeSession hrow endTime cost).mp ⟨hr, hopen'⟩
    exact h.started r hold hopen

/-- A request is answered by who is parked, and changes it as a visit does. -/
theorem Store.Holds.processed (h : s.Holds inside now) (hready : InGoodOrder s.parkingCities request)
    (hnow : now ≤ request.time) (hfresh : rowid ∉ s.parkingSessions.map Session.id) :
    answeredSuccess (request, (processDatabaseRequest ⟨.succeed, rowid⟩ s request).2) =
      fits inside request.visit ∧
    (processDatabaseRequest ⟨.succeed, rowid⟩ s request).1.Holds (after inside request.visit)
      request.time := by
  have heffect : RequestEffect ⟨.succeed, rowid⟩ s request
      (processDatabaseRequest ⟨.succeed, rowid⟩ s request).1
      (processDatabaseRequest ⟨.succeed, rowid⟩ s request).2 := requestEffect
  have hlater := h.later hnow
  have hverdict : (processDatabaseRequest ⟨.succeed, rowid⟩ s request).2.status = .success ↔
      fits inside request.visit = true := by
    rw [Occupancy.fits_iff]
    rcases hready.action with hstart | hend
    · rw [h.start hready hstart]
      simp [TcpToDatabaseMessage.visit, hstart]
    · rw [h.stop hready hend hnow]
      simp [TcpToDatabaseMessage.visit, hend]
  refine ⟨?_, ?_⟩
  · rw [Bool.eq_iff_iff, ← hverdict]
    simp [answeredSuccess]
  by_cases hstatus : (processDatabaseRequest ⟨.succeed, rowid⟩ s request).2.status = .success
  · rcases hready.action with hstart | hend
    · obtain ⟨found, city, -, -, -, -, hidle, hs'⟩ := heffect.of_start hstart hstatus
      have hvisit : after inside request.visit = insert request.vehicleNumber inside := by
        simp [after, TcpToDatabaseMessage.visit, hstart]
      rw [hs', hvisit]
      refine hlater.entered rfl ?_ hfresh (h.idle_iff.mp hidle)
      simp [startedSession, TcpToDatabaseMessage.time, hstart]
    · obtain ⟨row, hrow, -, -, hs'⟩ := heffect.of_end hend hstatus
      obtain ⟨hmem, hv, hopen⟩ := Store.selectActive_eq_some hrow
      have hvisit : after inside request.visit = inside.erase row.vehicleNumber := by
        simp [after, TcpToDatabaseMessage.visit, hend, hv]
      rw [hs', hvisit]
      exact hlater.left hmem hopen _ _
  · have hmisfit : fits inside request.visit = false :=
      Bool.eq_false_iff.mpr fun hfits => hstatus (hverdict.mpr hfits)
    rw [heffect.unchanged_of_not_success hstatus, Occupancy.after_eq_self hmisfit]
    exact hlater

end Request

-- ---------------------------------------------------------------------------
-- All requests
-- ---------------------------------------------------------------------------

section Lot

variable {rowid : Store → Int}

theorem Store.Holds.rest (hfresh : FreshRowid rowid) {s : Store} {inside : Finset Text} {now : Int64}
    {request : TcpToDatabaseMessage} {rest : List TcpToDatabaseMessage} (hholds : s.Holds inside now)
    (hready : ∀ r ∈ request :: rest, InGoodOrder s.parkingCities r ∧ now ≤ r.time)
    (hsorted : (request :: rest).Pairwise fun r r' => r.time ≤ r'.time) :
    let s' := (processDatabaseRequest ⟨.succeed, rowid s⟩ s request).1
    s'.Holds (after inside request.visit) request.time ∧
      (∀ r ∈ rest, InGoodOrder s'.parkingCities r ∧ request.time ≤ r.time) ∧
      rest.Pairwise fun r r' => r.time ≤ r'.time := by
  obtain ⟨⟨hgood, hnow⟩, hrest⟩ := List.forall_mem_cons.mp hready
  obtain ⟨hfirst, hsorted⟩ := List.pairwise_cons.mp hsorted
  have hcities : (processDatabaseRequest ⟨.succeed, rowid s⟩ s request).1.parkingCities =
      s.parkingCities := requestEffect.cities
  exact ⟨(hholds.processed hgood hnow (hfresh s)).2,
    fun r hr => ⟨hcities ▸ (hrest r hr).1, hfirst r hr⟩, hsorted⟩

theorem Store.Holds.answers (hfresh : FreshRowid rowid) {requests : List TcpToDatabaseMessage}
    {s : Store} {inside : Finset Text} {now : Int64} (hholds : s.Holds inside now)
    (hready : ∀ r ∈ requests, InGoodOrder s.parkingCities r ∧ now ≤ r.time)
    (hsorted : requests.Pairwise fun r r' => r.time ≤ r'.time) :
    (processRequests rowid s requests).2.map answeredSuccess =
      verdicts inside (requests.map TcpToDatabaseMessage.visit) := by
  induction requests generalizing s inside now with
  | nil => rfl
  | cons request rest ih =>
    obtain ⟨hgood, hnow⟩ := hready request List.mem_cons_self
    obtain ⟨hanswer, -⟩ := hholds.processed hgood hnow (hfresh s)
    obtain ⟨hholds', hready', hsorted'⟩ := hholds.rest hfresh hready hsorted
    simp only [processRequests, List.map_cons, verdicts, ih hholds' hready' hsorted', hanswer]

/-- Requests in good order and in the order of their times are answered as the visits of a
parking lot. -/
theorem lot_refined (hfresh : FreshRowid rowid) (requests : List TcpToDatabaseMessage) (s : Store)
    (inside : Finset Text) (now : Int64) (hholds : s.Holds inside now)
    (hready : ∀ r ∈ requests, InGoodOrder s.parkingCities r ∧ now ≤ r.time)
    (hsorted : requests.Pairwise fun r r' => r.time ≤ r'.time) :
    (processRequests rowid s requests).2.map answeredSuccess =
      verdicts inside (requests.map TcpToDatabaseMessage.visit) ∧
    ∃ later, (processRequests rowid s requests).1.Holds
      (afterAll inside (requests.map TcpToDatabaseMessage.visit)) later := by
  refine ⟨hholds.answers hfresh hready hsorted, ?_⟩
  induction requests generalizing s inside now with
  | nil => exact ⟨now, hholds⟩
  | cons request rest ih =>
    obtain ⟨hholds', hready', hsorted'⟩ := hholds.rest hfresh hready hsorted
    exact ih _ _ _ hholds' hready' hsorted'

end Lot

theorem initial_holds : Store.initial.Holds ∅ 0 where
  prices := by decide
  tidy := ⟨.nil, by simp, by simp [Store.initial]⟩
  parked v := by simp [Store.initial]
  started := by simp [Store.initial]

def twiceStarted : List TcpToDatabaseMessage :=
  [⟨1, .startParking, [65], .finite 15, .finite 15, 100, 0⟩,
   ⟨2, .startParking, [65], .finite 25, .finite 25, 100, 0⟩,
   ⟨3, .endParking, [65], .finite 0, .finite 0, 0, 160⟩]

theorem lot_refined_twiceStarted :
    (processRequests Store.nextSessionId .initial twiceStarted).2.map answeredSuccess =
      [true, false, true] :=
  (lot_refined (fun _ => nextRowid_not_mem _) twiceStarted .initial ∅ 0 initial_holds
    (List.forall_mem_cons.mpr ⟨⟨⟨.inl rfl, by decide, fun _ => by decide +kernel⟩, by decide⟩,
      List.forall_mem_cons.mpr ⟨⟨⟨.inl rfl, by decide, fun _ => by decide +kernel⟩, by decide⟩,
        List.forall_mem_singleton.mpr ⟨⟨.inr rfl, by decide, fun h => (by cases h)⟩, by decide⟩⟩⟩)
    (by decide)).1

-- ---------------------------------------------------------------------------
-- The requests of the BBG client
-- ---------------------------------------------------------------------------

/-- The requests that the passes have sent, as the server reads them. -/
def Bbg.sent (s : Bbg) : List TcpToDatabaseMessage :=
  (s.rounds.filterMap Round.sent).map (Frame.message · [])

def BbgAction.Located : BbgAction → Prop
  | .compose read _ => ∀ c ∈ i2cReadCoordinates read, c ∈ gpsCoordinates
  | _ => True

/-- The clock is set, and does not go back. -/
def BbgAction.OnTime (s : Bbg) : BbgAction → Prop
  | .compose _ now => 0 < now ∧ ∀ m ∈ s.written, m.message.time ≤ now
  | _ => True

instance : (a : BbgAction) → Decidable a.Located
  | .compose read _ => inferInstanceAs (Decidable (∀ c ∈ i2cReadCoordinates read, c ∈ gpsCoordinates))
  | .i2cStart .. | .write _ | .i2cKilled | .tcpStart _ | .round _ | .tcpKilled => .isTrue trivial

instance (s : Bbg) : (a : BbgAction) → Decidable (a.OnTime s)
  | .compose _ now =>
    inferInstanceAs (Decidable (0 < now ∧ ∀ m ∈ s.written, m.message.time ≤ now))
  | .i2cStart .. | .write _ | .i2cKilled | .tcpStart _ | .round _ | .tcpKilled => .isTrue trivial

/-- Whether a request fits what its vehicle has asked for before. -/
def fitsAfter (before : List TcpToDatabaseMessage) (request : TcpToDatabaseMessage) : Bool :=
  match before.reverse.find? (·.vehicleNumber = request.vehicleNumber) with
  | some last => last.action ≠ request.action
  | none => request.action = .startParking

section Client

variable {s s' : Bbg} {a : BbgAction} {m : RequestFields} {g : Generator}
  {read : Option (List UInt8)} {now : Int64}

/-- Every coordinate of the board lies in a city of a new database. -/
theorem gpsCoordinates_placed : ∀ c ∈ gpsCoordinates, ∃ found,
    Store.initial.parkingCities.find?
      (·.contains (Single.toDouble c.latitude) (Single.toDouble c.longitude)) = some found ∧
    0 < columnInt found.id ∧ ∃ c ∈ Store.initial.parkingCities, c.id = columnInt found.id := by
  decide +kernel

theorem Composed.message (h : Composed g read now m) (hlocated : BbgAction.Located (.compose read now))
    (hnow : 0 < now) :
    InGoodOrder Store.initial.parkingCities m.message ∧ m.message.time = now := by
  obtain ⟨c, hread, hlat, hlon⟩ := h.coordinate
  have hplace := gpsCoordinates_placed c (hlocated c hread)
  rw [← Single.ofBits_widen, ← Single.ofBits_widen, ← hlat, ← hlon] at hplace
  rcases h.time with ⟨haction, hstart, hend⟩ | ⟨haction, hstart, hend⟩
  · have htime : m.message.time = now := by
      simp [RequestFields.message, TcpToDatabaseMessage.time, haction, ParkingAction.ofRaw, hstart]
    refine ⟨⟨.inl ?_, htime ▸ hnow, fun _ => hplace⟩, htime⟩
    simp [RequestFields.message, haction, ParkingAction.ofRaw]
  · have htime : m.message.time = now := by
      simp [RequestFields.message, TcpToDatabaseMessage.time, haction, ParkingAction.ofRaw, hend]
    refine ⟨⟨.inr ?_, htime ▸ hnow, fun _ => hplace⟩, htime⟩
    simp [RequestFields.message, haction, ParkingAction.ofRaw]

structure Bbg.Timely (s : Bbg) : Prop where
  written : ∀ m ∈ s.written, InGoodOrder Store.initial.parkingCities m.message
  sorted : s.written.Pairwise fun m m' => m.message.time ≤ m'.message.time
  writing : ∀ m, s.i2c = .writing m → InGoodOrder Store.initial.parkingCities m.message ∧
    ∀ m' ∈ s.written, m'.message.time ≤ m.message.time

theorem Bbg.Timely.step (h : s.Timely) (hlocated : a.Located) (htime : a.OnTime s)
    (hs : s.step a = some s') : s'.Timely := by
  cases Bbg.moves_of_step hs with
  | i2cStart logger device =>
    refine ⟨h.written, h.sorted, ?_⟩
    dsimp only
    split <;> intro m hcase <;> cases hcase
  | composed read now m _ hmessage =>
    obtain ⟨hgood, hnow⟩ := hmessage.message hlocated htime.1
    refine ⟨h.written, h.sorted, ?_⟩
    rintro _ ⟨⟩
    exact ⟨hgood, fun m' hm' => hnow ▸ htime.2 m' hm'⟩
  | gaveUp => exact ⟨h.written, h.sorted, fun m hcase => (by cases hcase)⟩
  | wrote m hwriting =>
    obtain ⟨hgood, hlater⟩ := h.writing m hwriting
    refine ⟨List.forall_mem_append.mpr ⟨h.written, List.forall_mem_singleton.mpr hgood⟩, ?_,
      fun m hcase => (by cases hcase)⟩
    refine List.pairwise_append.mpr ⟨h.sorted, List.pairwise_singleton _ _, fun m' hm' m'' hm'' => ?_⟩
    obtain rfl := List.mem_singleton.mp hm''
    exact hlater m' hm'
  | i2cEnded => exact ⟨h.written, h.sorted, fun m hcase => (by cases hcase)⟩
  | tcpStart => exact ⟨h.written, h.sorted, h.writing⟩
  | round round s' _ hpass =>
    obtain ⟨-, hi2c, hwritten, -⟩ := Bbg.tcpRound_cases hpass
    exact ⟨hwritten ▸ h.written, hwritten ▸ h.sorted, hi2c ▸ hwritten ▸ h.writing⟩
  | tcpKilled => exact ⟨h.written, h.sorted, h.writing⟩

theorem Bbg.start_timely : Bbg.start.Timely where
  written m h := by cases h
  sorted := .nil
  writing m h := by cases h

theorem sent_sublist (rounds : List Round) :
    (rounds.filterMap Round.sent).Sublist (Bbg.requests rounds) := by
  induction rounds with
  | nil => exact .slnil
  | cons round rounds ih =>
    unfold Bbg.requests at ih ⊢
    cases hrequest : round.request with
    | none =>
      have hsent : round.sent = none := by simp [Round.sent, hrequest]
      rwa [List.filterMap_cons_none hsent, List.filterMap_cons_none hrequest]
    | some request =>
      rw [List.filterMap_cons_some hrequest]
      cases hsent : round.sent with
      | none =>
        rw [List.filterMap_cons_none hsent]
        exact ih.cons _
      | some request' =>
        have hsame : request' = request := by
          simp only [Round.sent, hrequest] at hsent
          split at hsent
          · exact (Option.some.inj hsent).symm
          · cases hsent
        rw [List.filterMap_cons_some hsent, hsame]
        exact ih.cons_cons _

theorem fitsAfter_eq {before : List TcpToDatabaseMessage} {request : TcpToDatabaseMessage}
    (hbefore : ∀ r ∈ before, r.action = .startParking ∨ r.action = .endParking)
    (haction : request.action = .startParking ∨ request.action = .endParking) :
    fits (afterAll ∅ (before.map TcpToDatabaseMessage.visit)) request.visit =
      fitsAfter before request := by
  have hinside :
      request.vehicleNumber ∈ afterAll ∅ (before.map TcpToDatabaseMessage.visit) ↔ _ :=
    Occupancy.mem_afterAll
  rw [← List.map_reverse, List.find?_map] at hinside
  have hsame : (fun v : Visit Text => decide (v.who = request.vehicleNumber)) ∘
      TcpToDatabaseMessage.visit = fun r => decide (r.vehicleNumber = request.vehicleNumber) := rfl
  rw [hsame] at hinside
  unfold fits fitsAfter
  cases hlast : before.reverse.find? fun r => decide (r.vehicleNumber = request.vehicleNumber) with
  | none =>
    rw [hlast] at hinside
    have hout : request.vehicleNumber ∉ afterAll ∅ (before.map TcpToDatabaseMessage.visit) := by
      simpa using hinside
    have hwho : request.visit.who ∉ afterAll ∅ (before.map TcpToDatabaseMessage.visit) := hout
    rw [decide_eq_false hwho, Bool.false_bne]
    rfl
  | some last =>
    rw [hlast] at hinside
    have hlastAction := hbefore last (List.mem_reverse.mp (List.mem_of_find?_eq_some hlast))
    have hin : request.visit.who ∈ afterAll ∅ (before.map TcpToDatabaseMessage.visit) ↔
        last.action = .startParking := by
      simpa [TcpToDatabaseMessage.visit] using hinside
    have hwho : decide (request.visit.who ∈ afterAll ∅ (before.map TcpToDatabaseMessage.visit)) =
        decide (last.action = .startParking) := decide_eq_decide.mpr hin
    rw [hwho]
    rcases hlastAction with hl | hl <;> rcases haction with hr | hr <;>
      simp [hl, hr, TcpToDatabaseMessage.visit]

def eventVisit (k : Nat) : Visit Text :=
  let event := testEvents.get ⟨k % testEventsCount, Nat.mod_lt k (by decide)⟩
  ⟨event.action = .startParking, event.vehicleNumber⟩

theorem eventVisit_periodic : Function.Periodic eventVisit testEventsCount := by
  intro k
  simp [eventVisit]

theorem eventVisit_fits (k : Nat) :
    fits (afterAll ∅ (Occupancy.first eventVisit k)) (eventVisit k) = true :=
  Occupancy.fits_first (by decide) eventVisit_periodic (by decide +kernel) (by decide +kernel) k

theorem testEvents_text : ∀ event ∈ testEvents,
    (VehicleField.ofText event.vehicleNumber).text = event.vehicleNumber ∧
      ParkingAction.ofRaw event.action.raw = event.action := by
  decide +kernel

theorem IsEvent.visit {k : Nat} (h : IsEvent k m) : m.message.visit = eventVisit k := by
  obtain ⟨event, hevent, -, haction, hvehicle⟩ := h
  obtain ⟨hlt, hget⟩ := List.getElem?_eq_some_iff.mp hevent
  obtain ⟨htext, hraw⟩ := testEvents_text event (List.mem_of_getElem? hevent)
  simp only [RequestFields.message, TcpToDatabaseMessage.visit, haction, hvehicle, htext, hraw,
    eventVisit, List.get_eq_getElem, hget]

end Client

/-- A request of the BBG client is answered SUCCESS exactly if the last one of its vehicle
before it, of those sent, was of the other kind; if none gets lost, all of them are. -/
theorem test_events_answered (actions : List BbgAction) (s : Bbg)
    (hr : run Bbg.step Bbg.start actions = some s) (hlocated : ∀ a ∈ actions, a.Located)
    (htime : Along Bbg.step (fun s a => a.OnTime s) Bbg.start actions) (rowid : Store → Int)
    (hfresh : FreshRowid rowid) :
    (∀ k request, s.sent[k]? = some request →
      ((processRequests rowid .initial s.sent).2[k]?).map answeredSuccess =
        some (fitsAfter (s.sent.take k) request)) ∧
    (s.rounds.filterMap Round.sent = Bbg.requests s.rounds →
      ∀ answer ∈ (processRequests rowid .initial s.sent).2, answeredSuccess answer = true) := by
  have htimely : s.Timely := by
    refine Runs.invariant_along (I := Bbg.Timely) ?_ Bbg.start_timely hr
      ((Along.of_forall fun _ => hlocated).and htime)
    exact fun s a s' h ⟨hl, ht⟩ hs => h.step hl ht hs
  have hevents := (Bbg.generates_of_run hr).written
  obtain ⟨taken, waiting, hconveys⟩ := Bbg.conveys_of_run hr
  obtain ⟨n, hn, hrequests⟩ : ∃ n ≤ s.written.length,
      Bbg.requests s.rounds = (s.written.take n).map RequestFields.frame :=
    ⟨taken.length, hconveys.length_taken, hconveys.take_written.symm ▸ hconveys.requests⟩
  -- the requests taken, as messages
  have hmessages : (Bbg.requests s.rounds).map (Frame.message · []) =
      (s.written.take n).map RequestFields.message := by
    rw [hrequests, List.map_map]
    exact List.map_congr_left fun m _ => m.message_frame []
  have hsent : s.sent.Sublist ((s.written.take n).map RequestFields.message) :=
    hmessages ▸ (sent_sublist s.rounds).map _
  have hgood : ∀ r ∈ s.sent, InGoodOrder Store.initial.parkingCities r := by
    intro r hmem
    obtain ⟨m, hm, rfl⟩ := List.mem_map.mp (hsent.subset hmem)
    exact htimely.written m (List.mem_of_mem_take hm)
  have hsorted : s.sent.Pairwise fun r r' => r.time ≤ r'.time := by
    refine List.Pairwise.sublist hsent ?_
    rw [List.pairwise_map]
    exact htimely.sorted.sublist (List.take_sublist n _)
  have hverdicts := initial_holds.answers hfresh
    (fun r hmem => ⟨hgood r hmem, Int64.le_of_lt (hgood r hmem).time⟩) hsorted
  constructor
  · intro k request hk
    obtain ⟨hlt, hget⟩ := List.getElem?_eq_some_iff.mp hk
    have hlt' : k < (s.sent.map TcpToDatabaseMessage.visit).length := by simpa using hlt
    rw [← List.getElem?_map, hverdicts, Occupancy.getElem_verdicts hlt', List.getElem_map, hget,
      ← List.map_take, fitsAfter_eq]
    · exact fun r hmem => (hgood r (List.mem_of_mem_take hmem)).action
    · exact (hgood request (hget ▸ List.getElem_mem hlt)).action
  · intro hnone
    have hall : s.sent.map TcpToDatabaseMessage.visit = Occupancy.first eventVisit n := by
      rw [Bbg.sent, hnone, hmessages, List.map_map]
      refine List.ext_getElem (by simp [Occupancy.first, hn]) fun k hk _ => ?_
      have hlt : k < s.written.length := by
        rw [List.length_map, List.length_take] at hk
        omega
      have hevent := hevents k s.written[k] (List.getElem?_eq_getElem hlt)
      simpa [Occupancy.first] using hevent.visit
    have htrue : ∀ b ∈ (processRequests rowid .initial s.sent).2.map answeredSuccess, b = true := by
      rw [hverdicts, hall]
      intro b hb
      obtain ⟨k, hk, rfl⟩ := List.mem_iff_getElem.mp hb
      have hkn : k < n := by simpa [Occupancy.first] using hk
      have hlt : k < (Occupancy.first eventVisit n).length := by simpa [Occupancy.first] using hkn
      have hverdict : (verdicts ∅ (Occupancy.first eventVisit n))[k]? = _ :=
        Occupancy.getElem_verdicts hlt
      rw [List.getElem?_eq_getElem hk, Occupancy.take_first eventVisit hkn.le] at hverdict
      rw [Option.some.inj hverdict]
      simpa [Occupancy.first] using eventVisit_fits k
    exact fun answer hmem => htrue _ (List.mem_map_of_mem hmem)

theorem test_events_answered_lossy : Bbg.lossyRun.sent.length = 1 ∧
    ∀ k request, Bbg.lossyRun.sent[k]? = some request →
      ((processRequests Store.nextSessionId .initial Bbg.lossyRun.sent).2[k]?).map answeredSuccess =
        some (fitsAfter (Bbg.lossyRun.sent.take k) request) :=
  ⟨by decide +kernel, (test_events_answered Bbg.lossyActions Bbg.lossyRun (Option.some_get _).symm
    (by decide +kernel) (by decide +kernel) Store.nextSessionId (fun _ => nextRowid_not_mem _)).1⟩

end ParkingSystem
