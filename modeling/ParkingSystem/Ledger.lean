import ParkingSystem.Billing
import ParkingSystem.Lib.History
import ParkingSystem.System

/-!
# The billing ledger

The requests that Database processes one after the other, with the changes
that PriceUpdater makes to the cities between them. The history of the
requests is kept beside the tables; `Ledger.Inv` ties the open row of a vehicle
to the open START of its history, and from it follows what a successful END is
charged, whatever happened to the cities since.

`LedgerAction.Billable` names the three ways in which a response and the
tables come apart: a vehicle number that does not fit the response, a cost that
is not a number, and a city id that does not fit a C `int`.
-/

namespace ParkingSystem

structure Entry where
  request : TcpToDatabaseMessage
  response : DatabaseToTcpMessage
  /-- The tables when the request was processed. -/
  before : Store
  deriving DecidableEq

/-- `entries` is newest first. -/
structure Ledger where
  store : Store
  entries : List Entry
  deriving DecidableEq

inductive LedgerAction where
  | process (db : Sqlite) (request : TcpToDatabaseMessage)
  | priceUpdater (call : StoreCall)

namespace Ledger

def initial : Ledger := ⟨Store.initial, []⟩

def step (t : Ledger) : LedgerAction → Option Ledger
  | .process db request =>
    let (store, response) := processDatabaseRequest db t.store request
    some ⟨store, ⟨request, response, t.store⟩ :: t.entries⟩
  | .priceUpdater call =>
    if call.op.onCities then (t.store.step call).map fun store => { t with store := store }
    else none

end Ledger

namespace LedgerAction

def Fresh (t : Ledger) : LedgerAction → Prop
  | .process db request =>
    request.action = .startParking → db.rowid ∉ t.store.parkingSessions.map Session.id
  | .priceUpdater call => call.Fresh t.store

/-- The id of the chosen city, cut to 32 bits, names no city with another
price; the vehicle number of a session that ends fits the response, and the
cost is a number. -/
def Billable (t : Ledger) : LedgerAction → Prop
  | .process db request =>
    match request.action with
    | .startParking =>
      ∀ found ∈ t.store.parkingCities.find? (·.contains request.latitude request.longitude),
        ∀ price ∈ t.store.selectPrice (columnInt found.id), price = found.pricePerMinute
    | .endParking =>
      db.ok.runs .selectSession 1 = true → db.ok.runs .updateSession 3 = true →
      ∀ row ∈ t.store.selectActive request.vehicleNumber,
        row.startTime ≤ request.parkingEndTime →
          request.vehicleNumber.length < vehicleNumberSize ∧
            ¬ (row.pricePerMinute = .posInf ∧ row.startTime = request.parkingEndTime)
    | _ => True
  | .priceUpdater _ => True

instance (t : Ledger) (a : LedgerAction) : Decidable (a.Fresh t) := by
  cases a <;> unfold Fresh <;> infer_instance

instance (t : Ledger) (a : LedgerAction) : Decidable (a.Billable t) := by
  unfold Billable
  split
  · split <;> infer_instance
  · infer_instance

end LedgerAction

-- ---------------------------------------------------------------------------
-- What is billed
-- ---------------------------------------------------------------------------

namespace Entry

variable (v : Text) (e : Entry)

def IsStart : Prop :=
  e.request.action = .startParking ∧ e.request.vehicleNumber = v ∧ e.response.status = .success

def IsEnd : Prop :=
  e.request.action = .endParking ∧ e.request.vehicleNumber = v ∧ e.response.status = .success

instance : DecidablePred (IsStart v) := fun _ => inferInstanceAs (Decidable (_ ∧ _))
instance : DecidablePred (IsEnd v) := fun _ => inferInstanceAs (Decidable (_ ∧ _))

def chosenCity : Option City :=
  e.before.parkingCities.find? (·.contains e.request.latitude e.request.longitude)

/-- The response to the END `e` bills the time since the START `start` at
`price`. -/
structure Bills (e start : Entry) (price : Double) : Prop where
  startTime : e.response.parkingStartTime = start.request.parkingStartTime
  endTime : e.response.parkingEndTime = e.request.parkingEndTime
  duration : e.response.parkingDuration.toInt =
    e.request.parkingEndTime.toInt - start.request.parkingStartTime.toInt
  cost : e.request.parkingEndTime.toInt - start.request.parkingStartTime.toInt + 59 < 2 ^ 63 →
    e.response.parkingCost = .ofInt
      ⌈((e.request.parkingEndTime.toInt - start.request.parkingStartTime.toInt : ℤ) : ℚ) / 60⌉ *
        price

abbrev Key := Text × Int64 × Option Int64 × Option Double

def key : Key :=
  (e.response.vehicleNumber, e.response.parkingStartTime, some e.response.parkingEndTime,
    some e.response.parkingCost)

def ended : Bool := e.request.action = .endParking ∧ e.response.status = .success

end Entry

def Session.key (r : Session) : Entry.Key := (r.vehicleNumber, r.startTime, r.endTime, r.cost)

namespace Ledger

variable (t : Ledger)

def closedRows : List Session := t.store.parkingSessions.filter (·.endTime.isSome)

/-- Every successful END has exactly one START that was open when it came, and
bills the time since then at the price that the chosen city had then. The
closed rows are the successful ENDs. -/
structure Billed : Prop where
  ends : ∀ newer e older v, t.entries = newer ++ e :: older → e.IsEnd v →
    ∃ between start before city,
      History.OpenAt (Entry.IsStart v) (Entry.IsEnd v) older between start before ∧
      (∀ between' start' before',
        History.OpenAt (Entry.IsStart v) (Entry.IsEnd v) older between' start' before' →
          between' = between ∧ start' = start ∧ before' = before) ∧
      start.chosenCity = some city ∧ e.Bills start city.pricePerMinute
  rows : (t.closedRows.map Session.key).Perm ((t.entries.filter Entry.ended).map Entry.key)

abbrev openStart (v : Text) : Option Entry :=
  History.lastOpen (Entry.IsStart v) (Entry.IsEnd v) t.entries

/-- The tables and the history agree on who is parked since when at what price. -/
structure Inv : Prop where
  store : t.store.WellFormed
  idle : ∀ v, (∀ r ∈ t.store.parkingSessions, ¬ r.isActive v = true) → t.openStart v = none
  active : ∀ v, ∀ r ∈ t.store.parkingSessions, r.isActive v = true →
    ∃ start city, t.openStart v = some start ∧ start.chosenCity = some city ∧
      r.startTime = start.request.parkingStartTime ∧ r.pricePerMinute = city.pricePerMinute
  alternates : ∀ v, History.Alternates (Entry.IsStart v) (Entry.IsEnd v) t.entries
  bills : ∀ newer e older v, t.entries = newer ++ e :: older → e.IsEnd v →
    ∃ start city, History.lastOpen (Entry.IsStart v) (Entry.IsEnd v) older = some start ∧
      start.chosenCity = some city ∧ e.Bills start city.pricePerMinute
  rows : (t.closedRows.map Session.key).Perm ((t.entries.filter Entry.ended).map Entry.key)

end Ledger

-- ---------------------------------------------------------------------------
-- Steps
-- ---------------------------------------------------------------------------

section Steps

variable {s s' : Store} {t t' : Ledger} {call : StoreCall} {e : Entry} {v : Text}

theorem costDefined_of_onCities (hop : call.op.onCities = true) : call.CostDefined s := by
  obtain ⟨op, db⟩ := call
  cases op <;> trivial

theorem Entry.IsStart.not_isEnd {v' : Text} (h : e.IsStart v) : ¬ e.IsEnd v' := fun h' => by
  cases h.1.symm.trans h'.1

theorem Entry.IsEnd.not_isStart {v' : Text} (h : e.IsEnd v) : ¬ e.IsStart v' := fun h' =>
  h'.not_isEnd h

namespace Ledger.Inv

theorem initial : Ledger.initial.Inv where
  store := .initial
  idle := fun _ _ => rfl
  active := by simp [Ledger.initial, Store.initial]
  alternates := fun _ => .nil
  bills := by simp [Ledger.initial]
  rows := by simp [Ledger.initial, Ledger.closedRows, Store.initial]

theorem cities (h : t.Inv) (hw : s.WellFormed)
    (hs : s.parkingSessions = t.store.parkingSessions) : { t with store := s }.Inv where
  store := hw
  idle := fun v hidle => h.idle v (hs ▸ hidle)
  active := fun v r hr => h.active v r (hs ▸ hr)
  alternates := h.alternates
  bills := h.bills
  rows := by
    have hrows := h.rows
    simp only [Ledger.closedRows, hs] at hrows ⊢
    exact hrows

theorem bills_cons (h : t.Inv)
    (he : ∀ v, e.IsEnd v → ∃ start city, t.openStart v = some start ∧
      start.chosenCity = some city ∧ e.Bills start city.pricePerMinute) :
    ∀ newer x older v, e :: t.entries = newer ++ x :: older → x.IsEnd v →
      ∃ start city, History.lastOpen (Entry.IsStart v) (Entry.IsEnd v) older = some start ∧
        start.chosenCity = some city ∧ x.Bills start city.pricePerMinute := by
  intro newer x older v hsplit hx
  cases newer with
  | nil =>
    obtain ⟨rfl, rfl⟩ := List.cons.inj hsplit
    exact he v hx
  | cons y newer =>
    obtain ⟨-, htail⟩ := List.cons.inj hsplit
    exact h.bills newer x older v htail hx

theorem refused (h : t.Inv) (he : e.response.status ≠ .success) :
    Inv ⟨t.store, e :: t.entries⟩ := by
  have hstart : ∀ v, ¬ e.IsStart v := fun v hv => he hv.2.2
  have hend : ∀ v, ¬ e.IsEnd v := fun v hv => he hv.2.2
  have hopen : ∀ v, History.lastOpen (Entry.IsStart v) (Entry.IsEnd v) (e :: t.entries) =
      t.openStart v := fun v => History.lastOpen_cons_of_neither (hstart v) (hend v)
  refine ⟨h.store, ?_, ?_, ?_, ?_, ?_⟩
  · intro v hidle
    exact (hopen v).trans (h.idle v hidle)
  · intro v r hr ha
    obtain ⟨start, city, hs, hrest⟩ := h.active v r hr ha
    exact ⟨start, city, (hopen v).trans hs, hrest⟩
  · exact fun v => (h.alternates v).cons fun hv => absurd hv (hstart v)
  · exact h.bills_cons fun v hv => absurd hv (hend v)
  · have hkeep : Entry.ended e = false := by simp [Entry.ended, he]
    simpa [Ledger.closedRows, hkeep] using h.rows

theorem started (h : t.Inv) {row : Session} {city : City} (he : e.IsStart row.vehicleNumber)
    (hw : { t.store with
      parkingSessions := t.store.parkingSessions.orderedInsert (·.id ≤ ·.id) row }.WellFormed)
    (hidle : ∀ r ∈ t.store.parkingSessions, ¬ r.isActive row.vehicleNumber = true)
    (hopen : row.endTime = none) (hstart : row.startTime = e.request.parkingStartTime)
    (hcity : e.chosenCity = some city) (hprice : row.pricePerMinute = city.pricePerMinute) :
    Inv ⟨{ t.store with
      parkingSessions := t.store.parkingSessions.orderedInsert (·.id ≤ ·.id) row },
      e :: t.entries⟩ := by
  have hend : ∀ v, ¬ e.IsEnd v := fun _ => he.not_isEnd
  have hother : ∀ v, v ≠ row.vehicleNumber → ¬ e.IsStart v := fun v hv hs =>
    hv (hs.2.1.symm.trans he.2.1)
  refine ⟨hw, ?_, ?_, ?_, ?_, ?_⟩
  · intro v hnone
    have hv : v ≠ row.vehicleNumber := by
      rintro rfl
      exact hnone row ((List.mem_orderedInsert _).mpr (.inl rfl))
        (Session.isActive_iff.mpr ⟨rfl, hopen⟩)
    refine (History.lastOpen_cons_of_neither (hother v hv) (hend v)).trans (h.idle v ?_)
    exact fun r hr => hnone r ((List.mem_orderedInsert _).mpr (.inr hr))
  · intro v r hr ha
    rcases (List.mem_orderedInsert _).mp hr with rfl | hr
    · obtain ⟨rfl, -⟩ := Session.isActive_iff.mp ha
      exact ⟨e, city, History.lastOpen_cons_of_opens he, hcity, hstart, hprice⟩
    · have hv : v ≠ row.vehicleNumber := by
        rintro rfl
        exact hidle r hr ha
      obtain ⟨start, c, hs, hrest⟩ := h.active v r hr ha
      exact ⟨start, c, (History.lastOpen_cons_of_neither (hother v hv) (hend v)).trans hs, hrest⟩
  · intro v
    refine (h.alternates v).cons fun hs => h.idle v ?_
    obtain rfl : v = row.vehicleNumber := hs.2.1.symm.trans he.2.1
    exact hidle
  · exact h.bills_cons fun v hv => absurd hv (hend v)
  · have hkeep : Entry.ended e = false := by simp [Entry.ended, he.1]
    have hperm := (List.perm_orderedInsert (·.id ≤ ·.id) row t.store.parkingSessions).filter
      (·.endTime.isSome)
    rw [List.filter_cons_of_neg (by simp [hopen])] at hperm
    simp only [Ledger.closedRows, List.filter_cons_of_neg, hkeep, Bool.false_eq_true,
      not_false_eq_true]
    exact (hperm.map Session.key).trans h.rows

theorem ended (h : t.Inv) {row : Session} {endTime : Int64} {cost : Double}
    (he : e.IsEnd row.vehicleNumber) (hmem : row ∈ t.store.parkingSessions)
    (hopen : row.endTime = none)
    (hw : (t.store.closeSession endTime (some cost) row.id).WellFormed)
    (hbills : ∀ (start : Entry) (city : City), row.startTime = start.request.parkingStartTime →
      row.pricePerMinute = city.pricePerMinute → e.Bills start city.pricePerMinute)
    (hkey : e.key = (row.vehicleNumber, row.startTime, some endTime, some cost)) :
    Inv ⟨t.store.closeSession endTime (some cost) row.id, e :: t.entries⟩ := by
  have hstart : ∀ v, ¬ e.IsStart v := fun _ => he.not_isStart
  have hother : ∀ v, v ≠ row.vehicleNumber → ¬ e.IsEnd v := fun v hv hs =>
    hv (hs.2.1.symm.trans he.2.1)
  refine ⟨hw, ?_, ?_, ?_, ?_, ?_⟩
  · intro v hidle
    by_cases hv : v = row.vehicleNumber
    · subst hv
      exact History.lastOpen_cons_of_closes (hstart _) he
    · refine (History.lastOpen_cons_of_neither (hstart v) (hother v hv)).trans (h.idle v ?_)
      exact fun r hr ha => hidle r (h.store.mem_closeSession hmem hr ha hv) ha
  · intro v r hr ha
    obtain ⟨hr, hv⟩ := h.store.active_of_closeSession hmem hopen hr ha
    obtain ⟨start, city, hs, hbill⟩ := h.active v r hr ha
    exact ⟨start, city,
      (History.lastOpen_cons_of_neither (hstart v) (hother v hv)).trans hs, hbill⟩
  · exact fun v => (h.alternates v).cons fun hs => absurd hs (hstart v)
  · refine h.bills_cons fun v hv => ?_
    obtain rfl : row.vehicleNumber = v := he.2.1.symm.trans hv.2.1
    have hactive : row.isActive row.vehicleNumber = true := Session.isActive_iff.mpr ⟨rfl, hopen⟩
    obtain ⟨start, city, hs, hcity, htime, hprice⟩ := h.active _ row hmem hactive
    exact ⟨start, city, hs, hcity, hbills start city htime hprice⟩
  · obtain ⟨before, after, hsplit, hclosed⟩ :=
      Store.closeSession_split h.store.sessionIds hmem endTime (some cost)
    have hkeep : Entry.ended e = true := by simp [Entry.ended, he.1, he.2.2]
    have hrows := h.rows
    simp only [Ledger.closedRows, hclosed, hsplit, List.filter_append, List.map_append] at hrows ⊢
    rw [List.filter_cons_of_neg (by simp [hopen])] at hrows
    rw [List.filter_cons_of_pos (by simp), List.filter_cons_of_pos hkeep, List.map_cons,
      List.map_cons, hkey]
    exact List.perm_middle.trans (hrows.cons _)

end Ledger.Inv

theorem Ledger.step_inv {a : LedgerAction} (h : t.Inv) (hfresh : a.Fresh t) (hbill : a.Billable t)
    (hstep : t.step a = some t') : t'.Inv := by
  cases a with
  | priceUpdater call =>
    simp only [Ledger.step] at hstep
    split at hstep
    · rename_i hop
      obtain ⟨store, hs, rfl⟩ := Option.map_eq_some_iff.mp hstep
      exact h.cities (step_wellFormed h.store hfresh (costDefined_of_onCities hop) hs)
        (sessions_of_onCities hop hs)
    · cases hstep
  | process db request =>
    simp only [Ledger.step] at hstep
    cases hp : processDatabaseRequest db t.store request with
    | mk store response =>
      rw [hp] at hstep
      obtain rfl := Option.some.inj hstep
      cases processDatabaseRequest_cases hp with
      | refused status => exact h.refused status
      | started found city isStart status _ positive idle chosen mem cityId price =>
        simp only [LedgerAction.Billable, isStart] at hbill
        simp only [LedgerAction.Fresh] at hfresh
        have hprice : city.pricePerMinute = found.pricePerMinute := hbill found chosen _ price
        refine h.started ⟨isStart, rfl, status⟩ ?_ idle rfl rfl chosen hprice
        exact h.store.insertSession (hfresh isStart) rfl idle ⟨positive,
          (h.store.cities city mem).price, by simp [startedSession], by simp [startedSession]⟩
      | ended row isEnd status _ selects updates active order vehicle startTime endTime duration
          cost =>
        obtain ⟨hmem, hvehicle, hopen⟩ := Store.selectActive_eq_some active
        have hrow := h.store.sessions row hmem
        simp only [LedgerAction.Billable, isEnd] at hbill
        obtain ⟨hfits, hnum⟩ := hbill selects updates row active order
        have hcost : calculatedCost row.startTime request.parkingEndTime row.pricePerMinute ≠ .nan :=
          fun hnan => hnum ((calculatedCost_eq_nan hrow.start order hrow.price).mp hnan)
        rw [bindDouble_eq_some.mpr ⟨rfl, hcost⟩]
        refine h.ended ⟨isEnd, hvehicle.symm, status⟩ hmem hopen (h.store.closeSession hmem order)
          ?_ ?_
        · intro start city hstart hprice
          refine ⟨startTime.trans hstart, endTime, ?_, ?_⟩
          · rw [duration, durationSeconds_toInt hrow.start order, hstart]
          · intro hrange
            rw [← hstart] at hrange ⊢
            rw [cost, hprice, calculatedCost_eq hrow.start order hrange]
        · rw [Entry.key, vehicle, snprintf_of_fits hfits, startTime, endTime, cost, hvehicle]

end Steps

-- ---------------------------------------------------------------------------
-- Runs
-- ---------------------------------------------------------------------------

open Runs (run Along)

theorem Ledger.Inv.billed (h : t.Inv) : Ledger.Billed t where
  ends := by
    intro newer e older v hsplit he
    obtain ⟨start, city, hopen, hcity, hbills⟩ := h.bills newer e older v hsplit he
    obtain ⟨between, before, hat⟩ := History.exists_openAt hopen
    have ha : History.Alternates (Entry.IsStart v) (Entry.IsEnd v) older :=
      (hsplit ▸ h.alternates v).of_append.tail
    refine ⟨between, start, before, city, hat, ?_, hcity, hbills⟩
    intro between' start' before' hat'
    exact hat.unique ha hat'
  rows := h.rows

/-- Every END that is answered SUCCESS bills its START at the price of that
time, and the closed rows say the same, in every run of billable requests. -/
theorem ledger_billed (actions : List LedgerAction) (t : Ledger)
    (hr : run Ledger.step Ledger.initial actions = some t)
    (hfresh : Along Ledger.step (fun t a => a.Fresh t) Ledger.initial actions)
    (hbill : Along Ledger.step (fun t a => a.Billable t) Ledger.initial actions) : t.Billed :=
  (Runs.invariant_along (fun _ _ _ h hc hstep => Ledger.step_inv h hc.1 hc.2 hstep) .initial hr
    (hfresh.and hbill)).billed

/-- Whatever the threads do, the tables and the answers of Database are those
of a ledger that processed the same requests in the same order. -/
theorem ledger_of_run {store : Store} {actions : List Action} {t : State}
    (hr : run State.step (State.initial store) actions = some t) :
    ∃ ledgerActions ledger, run Ledger.step ⟨store, []⟩ ledgerActions = some ledger ∧
      ledger.store = t.store ∧
      ledger.entries.reverse.map (fun e => (e.request, e.response)) =
        t.produced.map fun r => (r.origin.request, r.response) := by
  refine Runs.invariant (I := fun s : State => ∃ ledgerActions ledger,
    run Ledger.step ⟨store, []⟩ ledgerActions = some ledger ∧ ledger.store = s.store ∧
      ledger.entries.reverse.map (fun e => (e.request, e.response)) =
        s.produced.map fun r => (r.origin.request, r.response)) ?_
    ⟨[], ⟨store, []⟩, rfl, rfl, rfl⟩ hr
  rintro s a s' ⟨ledgerActions, ledger, hrun, hstore, hentries⟩ hstep
  cases State.step_cases hstep with
  | process e db r pc reply =>
    subst reply
    refine ⟨ledgerActions ++ [.process db e.request],
      ⟨(processDatabaseRequest db ledger.store e.request).1,
        ⟨e.request, (processDatabaseRequest db ledger.store e.request).2, ledger.store⟩ ::
          ledger.entries⟩, Runs.run_concat.mpr ⟨ledger, hrun, rfl⟩, ?_, ?_⟩
    · rw [hstore]
    · simp only [List.reverse_cons, List.map_append, hentries, hstore, List.map_cons, List.map_nil]
  | priceUpdater call store' onCities changed =>
    refine ⟨ledgerActions ++ [.priceUpdater call], { ledger with store := store' },
      Runs.run_concat.mpr ⟨ledger, hrun, ?_⟩, rfl, hentries⟩
    simp [Ledger.step, onCities, hstore, changed]
  | _ => exact ⟨ledgerActions, ledger, hrun, hstore, hentries⟩

def requestAt16 (requestId : UInt64) (action : ParkingAction) (vehicleNumber : Text) (time : Int64) :
    TcpToDatabaseMessage :=
  ⟨requestId, action, vehicleNumber, .finite 16, .finite 16, time, time⟩

/-- 61 seconds in Tel Aviv, whose price changes in between. -/
def lockedInActions : List LedgerAction :=
  [.process ⟨.succeed, 1⟩ (requestAt16 1 .startParking [65] 100),
   .priceUpdater ⟨.updateCityPrice (some (cityNamed "Tel Aviv")) (.finite 7), ⟨.succeed, 0⟩⟩,
   .process ⟨.succeed, 0⟩ (requestAt16 2 .endParking [65] 161)]

def lockedIn : Ledger :=
  (run Ledger.step Ledger.initial lockedInActions).get (by decide +kernel)

theorem ledger_billed_locked_in :
    lockedIn.Billed ∧ lockedIn.closedRows.map Session.cost = [some (.finite 1)] :=
  ⟨ledger_billed lockedInActions lockedIn (Option.some_get _).symm (by decide +kernel)
    (by decide +kernel), by decide +kernel⟩

/-- A vehicle number of 16 bytes fills the field of the request and is cut to
15 in the response. -/
def overlongActions : List LedgerAction :=
  [.process ⟨.succeed, 1⟩ (requestAt16 1 .startParking (.replicate 16 65) 100),
   .process ⟨.succeed, 0⟩ (requestAt16 2 .endParking (.replicate 16 65) 161)]

/-- Tel Aviv at an infinite price, for no time at all. -/
def uncostedActions : List LedgerAction :=
  [.priceUpdater ⟨.updateCityPrice (some (cityNamed "Tel Aviv")) .posInf, ⟨.succeed, 0⟩⟩,
   .process ⟨.succeed, 1⟩ (requestAt16 1 .startParking [65] 100),
   .process ⟨.succeed, 0⟩ (requestAt16 2 .endParking [65] 100)]

theorem not_billed_of_rows {actions : List LedgerAction}
    (h : ((run Ledger.step Ledger.initial actions).any fun t =>
      ¬ (t.closedRows.map Session.key).Perm ((t.entries.filter Entry.ended).map Entry.key)) = true) :
    ∃ t, run Ledger.step Ledger.initial actions = some t ∧ ¬ t.Billed := by
  obtain ⟨t, hr, hrows⟩ := (Option.any_eq_true _ _).mp h
  exact ⟨t, hr, fun hb => absurd hb.rows (by simpa using hrows)⟩

theorem ledger_not_always_billed :
    (Along Ledger.step (fun t a => a.Fresh t) Ledger.initial overlongActions ∧
      ∃ t, run Ledger.step Ledger.initial overlongActions = some t ∧ ¬ t.Billed) ∧
    (Along Ledger.step (fun t a => a.Fresh t) Ledger.initial uncostedActions ∧
      ∃ t, run Ledger.step Ledger.initial uncostedActions = some t ∧ ¬ t.Billed) :=
  ⟨⟨by decide +kernel, not_billed_of_rows (by decide +kernel)⟩,
    ⟨by decide +kernel, not_billed_of_rows (by decide +kernel)⟩⟩

end ParkingSystem
