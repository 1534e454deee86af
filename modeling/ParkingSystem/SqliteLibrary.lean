import ParkingSystem.Lib.Simulation
import ParkingSystem.SqliteRefinement

/-!
# The library over whole runs

`Library` is what the library is for: an object that is open or not, and a file that holds
the two tables or nothing yet. `library_refined` says that the functions of
`sqlite_database.c` are no more and no less, whatever the calls of SQLite return and wherever
the process is killed. `statements_finalized` says how they leave the connection.

One process after the other has the file.
-/

namespace ParkingSystem

open Runs (run trace Along)

inductive LibraryReply where
  | nothing
  | status (ok : Bool)
  | cityId (id : Option Int)
  | city (row : Option City)
  | stopped (session : Option (Int64 × Double))
  deriving DecidableEq

/-- A call that reads or writes the tables, and what SQLite does in it. -/
inductive TableCall where
  | store (db : Sqlite) (op : StoreOp)
  | findCity (db : Sqlite) (latitude longitude : Double)
  | getCity (ok : SqliteCall → Bool) (cityId : Int) (citySize : Nat)

inductive LibraryCall where
  | open_ (databaseFile : Option Text) (opens : Bool)
  | close
  | initialize_ (outcome : Nat → Sql.CommandOutcome) (rollback : Sql.CommandOutcome)
  | onTables (call : TableCall)

-- ---------------------------------------------------------------------------
-- What the library is for
-- ---------------------------------------------------------------------------

def StoreOp.reply (db : Sqlite) (s : Store) : StoreOp → LibraryReply
  | .addCity city a b c d price => .status (ParkingSystem.addCity db s city a b c d price).2
  | .updateCityPrice city price => .status (ParkingSystem.updateCityPrice db s city price).2
  | .deleteCity city => .status (ParkingSystem.deleteCity db s city).2
  | .startParking v a b cityId startTime =>
    .status (ParkingSystem.startParking db s v a b cityId startTime).2
  | .stopParking v endTime => .stopped (ParkingSystem.stopParking db s v endTime).2

namespace TableCall

def run (s : Store) : TableCall → LibraryReply × Store
  | .store db op => (op.reply db s, op.exec db s)
  | .findCity db latitude longitude => (.cityId (ParkingSystem.findCity db s latitude longitude), s)
  | .getCity ok cityId citySize => (.city (ParkingSystem.getCity ok s cityId citySize), s)

/-- What it returns without an open connection or without the tables. -/
def refused : TableCall → LibraryReply
  | .store _ (.stopParking ..) => .stopped none
  | .store .. => .status false
  | .findCity .. => .cityId none
  | .getCity .. => .city none

end TableCall

structure Library where
  isOpen : Bool
  /-- `none` for a file without the tables. -/
  file : Option Store

/-- What a call returns and what it leaves. -/
def Library.call (l : Library) : LibraryCall → LibraryReply × Library
  | .open_ databaseFile opens =>
    if databaseFile = none ∨ l.isOpen = true ∨ opens = false then (.status false, l)
    else (.status true, { l with isOpen := true })
  | .close => (.nothing, { l with isOpen := false })
  | .initialize_ outcome _ =>
    if l.isOpen = true ∧ ∀ i < SqliteCalls.initializeSql.length, outcome i = .done then
      (.status true, { l with file := some .initial })
    else (.status false, l)
  | .onTables call =>
    match l.isOpen, l.file with
    | true, some s => ((call.run s).1, { l with file := some (call.run s).2 })
    | _, _ => (call.refused, l)

-- ---------------------------------------------------------------------------
-- The library
-- ---------------------------------------------------------------------------

open Sql

def TableCall.program : TableCall → SqliteCalls.Call LibraryReply
  | .store db (.addCity city a b c d price) =>
    .status <$> SqliteCalls.addCity db city a b c d price
  | .store db (.updateCityPrice city price) =>
    .status <$> SqliteCalls.updateCityPrice db city price
  | .store db (.deleteCity city) => .status <$> SqliteCalls.deleteCity db city
  | .store db (.startParking v a b cityId startTime) =>
    .status <$> SqliteCalls.startParking db v a b cityId startTime
  | .store db (.stopParking v endTime) => .stopped <$> SqliteCalls.stopParking db v endTime
  | .findCity db latitude longitude => .cityId <$> SqliteCalls.findCity db latitude longitude
  | .getCity ok cityId citySize => .city <$> SqliteCalls.getCity ok cityId citySize

def LibraryCall.program : LibraryCall → SqliteCalls.Call LibraryReply
  | .open_ databaseFile opens => .status <$> SqliteCalls.sqliteDatabaseOpen databaseFile opens
  | .close => (fun _ => .nothing) <$> SqliteCalls.sqliteDatabaseClose
  | .initialize_ outcome rollback =>
    .status <$> SqliteCalls.sqliteDatabaseInitialize outcome rollback
  | .onTables call => call.program

-- ---------------------------------------------------------------------------
-- Runs
-- ---------------------------------------------------------------------------

inductive ProcessAction where
  | call (call : LibraryCall)
  /-- It is killed in the call, after so many commits of the call, and another one starts. -/
  | killed (call : LibraryCall) (commits : Nat)

inductive LibraryAction where
  | call (call : LibraryCall)
  | killed (call : LibraryCall) (done : Bool)

inductive LibraryEvent where
  | returned (call : LibraryCall) (reply : LibraryReply)
  | killed (call : LibraryCall)

/-- The ROLLBACK after a script that has failed does not fail with the transaction still open. -/
def ProcessAction.RollsBack : ProcessAction → Prop
  | .call (.initialize_ _ rollback) => rollback ≠ .failed false
  | _ => True

instance (a : ProcessAction) : Decidable a.RollsBack := by
  unfold ProcessAction.RollsBack
  split <;> infer_instance

namespace SqliteCalls

def step (c : Client Tables SqlText) : ProcessAction → Option (Client Tables SqlText)
  | .call call => some (call.program c).2
  | .killed call commits => some (Program.killed call.program commits c)

def shows (c : Client Tables SqlText) : ProcessAction → List LibraryEvent
  | .call call => [.returned call (call.program c).1]
  | .killed call _ => [.killed call]

end SqliteCalls

namespace Library

def killed (l : Library) (call : LibraryCall) (done : Bool) : Library :=
  ⟨false, if done then (l.call call).2.file else l.file⟩

def step (l : Library) : LibraryAction → Option Library
  | .call call => some (l.call call).2
  | .killed call done => some (l.killed call done)

def shows (l : Library) : LibraryAction → List LibraryEvent
  | .call call => [.returned call (l.call call).1]
  | .killed call _ => [.killed call]

end Library

-- ---------------------------------------------------------------------------
-- One call
-- ---------------------------------------------------------------------------

namespace TableCall

/-- What a call comes to on a file that may lack a table. -/
def outcome (t : Tables) : TableCall → Tables × LibraryReply
  | .store db (.addCity city a b c d price) =>
    (t.onCities false (addCity db t.store city a b c d price)).map id .status
  | .store db (.updateCityPrice city price) =>
    (t.onCities false (updateCityPrice db t.store city price)).map id .status
  | .store db (.deleteCity city) =>
    (t.onCities false (deleteCity db t.store city)).map id .status
  | .store db (.startParking v a b cityId startTime) =>
    (t.onSessions false (startParking db t.store v a b cityId startTime)).map id .status
  | .store db (.stopParking v endTime) =>
    (t.onSessions none (stopParking db t.store v endTime)).map id .stopped
  | .findCity db latitude longitude =>
    (t.onCities none (t.store, ParkingSystem.findCity db t.store latitude longitude)).map id .cityId
  | .getCity ok cityId citySize =>
    (t.onCities none (t.store, ParkingSystem.getCity ok t.store cityId citySize)).map id .city

theorem meets (call : TableCall) (t : Tables) :
    SqliteCalls.Meets call.program t (call.outcome t) := by
  match call with
  | .store db (.addCity ..) => exact Returns.map (SqliteCalls.addCity_meets rfl)
  | .store db (.updateCityPrice ..) => exact Returns.map (SqliteCalls.updateCityPrice_meets rfl)
  | .store db (.deleteCity ..) => exact Returns.map (SqliteCalls.deleteCity_meets rfl)
  | .store db (.startParking ..) => exact Returns.map (SqliteCalls.startParking_meets rfl)
  | .store db (.stopParking ..) => exact Returns.map (SqliteCalls.stopParking_meets rfl)
  | .findCity .. => exact Returns.map (SqliteCalls.findCity_meets rfl)
  | .getCity .. => exact Returns.map (SqliteCalls.getCity_meets rfl)

theorem outcome_empty (call : TableCall) : call.outcome .empty = (.empty, call.refused) := by
  match call with
  | .store db (.addCity ..) | .store db (.updateCityPrice ..) | .store db (.deleteCity ..)
  | .store db (.startParking ..) | .store db (.stopParking ..) | .findCity .. | .getCity .. => rfl

theorem outcome_ofStore (call : TableCall) (s : Store) :
    call.outcome (.ofStore s) = (.ofStore (call.run s).2, (call.run s).1) := by
  have onCities {α : Type} (failed : α) (op : StoreOp) (db : Sqlite) (r : Store × α)
      (hop : op.onCities = true) (hr : r.1 = op.exec db s) :
      (Tables.ofStore s).onCities failed r = (.ofStore r.1, r.2) := by
    have hsessions : r.1.parkingSessions = s.parkingSessions :=
      sessions_of_onCities (show (StoreCall.mk op db).op.onCities = true from hop)
        (congrArg some hr.symm)
    simp [Tables.onCities, Tables.ofStore, Tables.withCities, hsessions]
  have onSessions {α : Type} (failed : α) (r : Store × α)
      (hcities : r.1.parkingCities = s.parkingCities) :
      (Tables.ofStore s).onSessions failed r = (.ofStore r.1, r.2) := by
    simp [Tables.onSessions, Tables.ofStore, Tables.withSessions, hcities]
  match call with
  | .store db (.addCity city a b c d price) =>
    exact congrArg (Prod.map id LibraryReply.status)
      (onCities false (.addCity city a b c d price) db _ rfl rfl)
  | .store db (.updateCityPrice city price) =>
    exact congrArg (Prod.map id LibraryReply.status)
      (onCities false (.updateCityPrice city price) db _ rfl rfl)
  | .store db (.deleteCity city) =>
    exact congrArg (Prod.map id LibraryReply.status)
      (onCities false (.deleteCity city) db _ rfl rfl)
  | .store db (.startParking v a b cityId startTime) =>
    refine congrArg (Prod.map id LibraryReply.status) (onSessions false _ ?_)
    rcases startParking_cases (Prod.mk.eta (p := startParking db s v a b cityId startTime)).symm with
      ⟨-, h⟩ | ⟨_, _, -, -, -, -, -, -, -, h⟩
    · exact congrArg Store.parkingCities h
    · exact (congrArg Store.parkingCities h).trans rfl
  | .store db (.stopParking v endTime) =>
    refine congrArg (Prod.map id LibraryReply.stopped) (onSessions none _ ?_)
    rcases stopParking_cases (Prod.mk.eta (p := stopParking db s v endTime)).symm with
      ⟨-, h⟩ | ⟨_, _, -, -, -, -, -, -, -, h⟩
    · exact congrArg Store.parkingCities h
    · exact (congrArg Store.parkingCities h).trans rfl
  | .findCity db latitude longitude => rfl
  | .getCity ok cityId citySize => rfl

end TableCall

/-- The content of a file in which both tables are there or neither is. -/
def Tables.ofFile (file : Option Store) : Tables := file.elim .empty .ofStore

theorem initialize_content (t : Tables) :
    [SqlText.dropSessions, .dropCities, .createCities, .createSessions, .insertCities].foldlM
      contentAfter t = some (.ofStore .initial) := by
  have hdefault : defaultCities.foldlM insertDefaultCity ⟨[], []⟩ = some .initial := by
    decide +kernel
  obtain ⟨cities, sessions⟩ := t
  simp [contentAfter, effectOf, Dialect.compiles, Dialect.exec, SqlText.compiles, SqlText.exec,
    Tables.store, Tables.withCities, Tables.ofStore, hdefault]
  rfl

theorem map_isOpen_closed {α β : Type} {g : α → β} {f : Bool → SqliteCalls.Call α}
    {c : Client Tables SqlText} {failed : α} (h : c.handle = false)
    (hf : f false c = (failed, c)) : (g <$> (isOpen >>= f)) c = (g failed, c) := by
  show (g ((isOpen >>= f) c).1, ((isOpen >>= f) c).2) = _
  rw [isOpen_closed h, hf]

theorem TableCall.program_closed (call : TableCall) {c : Client Tables SqlText}
    (h : c.handle = false) : call.program c = (call.refused, c) := by
  match call with
  | .store db (.addCity ..) => exact map_isOpen_closed h rfl
  | .store db (.updateCityPrice ..) => exact map_isOpen_closed h rfl
  | .store db (.deleteCity ..) => exact map_isOpen_closed h rfl
  | .store db (.startParking ..) => exact map_isOpen_closed h rfl
  | .store db (.stopParking ..) => exact map_isOpen_closed h rfl
  | .findCity .. => exact map_isOpen_closed h rfl
  | .getCity .. => exact map_isOpen_closed h rfl

namespace SqliteCalls

variable {c : Client Tables SqlText} {databaseFile : Option Text}

theorem open_refused (h : databaseFile = none ∨ c.handle = true) (opens : Bool) :
    sqliteDatabaseOpen databaseFile opens c = (false, c) := by
  unfold sqliteDatabaseOpen
  split
  · rfl
  · exact (isOpen_opened (h.resolve_left ‹_›)).trans rfl

theorem open_closed (hfile : databaseFile ≠ none) (h : c.handle = false) (opens : Bool) :
    sqliteDatabaseOpen databaseFile opens c =
      (opens, if opens then { c with connection := some ⟨[], 0, 0⟩, handle := true }
        else { c with journal := c.journal.rollback, connection := none, handle := false }) := by
  unfold sqliteDatabaseOpen
  rw [if_neg hfile, isOpen_closed h]
  cases opens <;> rfl

theorem close_closed (h : c.handle = false) : sqliteDatabaseClose c = ((), c) :=
  (isOpen_closed h).trans rfl

theorem close_idle (h : c.Idle) :
    sqliteDatabaseClose c = ((), .start c.journal.rollback) := by
  obtain ⟨journal, connection, handle, misused⟩ := c
  obtain ⟨⟨rfl, rfl⟩, fresh, changes, rfl⟩ := h
  rfl

theorem initialize_closed (h : c.handle = false) (outcome : Nat → CommandOutcome)
    (rollback : CommandOutcome) : sqliteDatabaseInitialize outcome rollback c = (false, c) :=
  (isOpen_closed h).trans rfl

theorem exec_idle (h : c.Idle) (commands : List (Command SqlText))
    (outcome : Nat → CommandOutcome) :
    exec commands outcome c =
      ((script commands outcome c.journal).1,
        { c with journal := (script commands outcome c.journal).2 }) := by
  obtain ⟨fresh, changes, hconnection⟩ := h.connection
  simp [exec, hconnection]

theorem initialize_idle (h : c.Idle) (outcome : Nat → CommandOutcome)
    (rollback : CommandOutcome) :
    sqliteDatabaseInitialize outcome rollback c =
      match script initializeSql outcome c.journal with
      | (true, j) => (true, { c with journal := j })
      | (false, j) => (false, { c with
          journal := (script [(.rollback : Command SqlText)] (fun _ => rollback) j).2 }) := by
  unfold sqliteDatabaseInitialize
  rw [isOpen_opened h.handle]
  have hexec := exec_idle h initializeSql outcome
  obtain ⟨⟨ok, j⟩, hscript⟩ : ∃ r, script initializeSql outcome c.journal = r := ⟨_, rfl⟩
  rw [hscript] at hexec ⊢
  have hleft : Client.Idle { c with journal := j } := ⟨⟨h.handle, h.used⟩, h.connection⟩
  cases ok with
  | true => exact (Program.bind_eq hexec).trans rfl
  | false =>
    exact (Program.bind_eq hexec).trans
      ((Program.bind_eq (exec_idle hleft [.rollback] fun _ => rollback)).trans rfl)

theorem script_initializeSql {j : Journal Tables} (hj : j.transaction = none)
    (outcome : Nat → CommandOutcome) :
    (∀ i < initializeSql.length, outcome i = .done) ∧
        script initializeSql outcome j = (true, j.commit (.ofStore .initial)) ∨
      ¬ (∀ i < initializeSql.length, outcome i = .done) ∧
        ∃ t, script initializeSql outcome j = (false, j.within t) := by
  have hcontent := initialize_content j.file
  rcases script_transaction hj [SqlText.dropSessions, .dropCities, .createCities, .createSessions,
    .insertCities] outcome with ⟨x', hafter, hdone, hscript⟩ | ⟨hnot, h⟩
  · obtain rfl := Option.some.inj (hcontent.symm.trans hafter)
    exact .inl ⟨hdone, hscript⟩
  · exact .inr ⟨fun hdone => hnot ⟨by rw [hcontent]; rfl, hdone⟩, h⟩

end SqliteCalls

/-- What the client is for, between two calls. -/
structure Represents (c : Client Tables SqlText) (l : Library) : Prop where
  orderly : c.Orderly
  isOpen : c.handle = l.isOpen
  file : c.journal.file = .ofFile l.file
  transaction : c.journal.transaction = none

structure LibraryCall.Served (call : LibraryCall) (c : Client Tables SqlText) (l : Library) :
    Prop where
  reply : (call.program c).1 = (l.call call).1
  orderly : (call.program c).2.Orderly
  isOpen : (call.program c).2.handle = (l.call call).2.isOpen
  file : (call.program c).2.journal.file = .ofFile (l.call call).2.file
  commitsOnce : c.journal.CommitsOnce (call.program c).2.journal
  transaction : (ProcessAction.call call).RollsBack → (call.program c).2.journal.transaction = none

namespace LibraryCall.Served

variable {call : LibraryCall} {c : Client Tables SqlText} {l : Library}

theorem of_returns {reply : LibraryReply} {c' : Client Tables SqlText} {l' : Library}
    (hprogram : call.program c = (reply, c')) (hcall : l.call call = (reply, l'))
    (orderly : c'.Orderly) (isOpen : c'.handle = l'.isOpen)
    (file : c'.journal.file = .ofFile l'.file)
    (commitsOnce : c.journal.CommitsOnce c'.journal)
    (transaction : (ProcessAction.call call).RollsBack → c'.journal.transaction = none) :
    Served call c l where
  reply := by rw [hprogram, hcall]
  orderly := by rw [hprogram]; exact orderly
  isOpen := by rw [hprogram, hcall]; exact isOpen
  file := by rw [hprogram, hcall]; exact file
  commitsOnce := by rw [hprogram]; exact commitsOnce
  transaction := by rw [hprogram]; exact transaction

theorem unchanged {reply : LibraryReply} (h : Represents c l)
    (hprogram : call.program c = (reply, c)) (hcall : l.call call = (reply, l)) : Served call c l :=
  of_returns hprogram hcall h.orderly h.isOpen h.file (.inl ⟨rfl, rfl⟩) fun _ => h.transaction

theorem open_ (h : Represents c l) (databaseFile : Option Text) (opens : Bool) :
    Served (.open_ databaseFile opens) c l := by
  by_cases hrefused : databaseFile = none ∨ l.isOpen = true
  · have hopen := SqliteCalls.open_refused (hrefused.imp_right h.isOpen.trans) opens
    exact unchanged h (congrArg (Prod.map LibraryReply.status id) hopen)
      (if_pos (hrefused.imp_right .inl))
  · obtain ⟨hfile, hclosed⟩ := not_or.mp hrefused
    have hclosed : c.handle = false := h.isOpen.trans (Bool.eq_false_iff.mpr hclosed)
    have hopen := SqliteCalls.open_closed hfile hclosed opens
    have hprogram := congrArg (Prod.map LibraryReply.status id) hopen
    obtain ⟨⟨file, trail, transaction⟩, connection, handle, misused⟩ := c
    obtain rfl : transaction = none := h.transaction
    obtain rfl : connection = none := h.orderly.closed hclosed
    obtain rfl : handle = false := hclosed
    cases opens with
    | true =>
      have hidle : Client.Idle ⟨⟨file, trail, none⟩, some (⟨[], 0, 0⟩ : Connection SqlText), true,
        misused⟩ := ⟨⟨rfl, h.orderly.used⟩, 0, 0, rfl⟩
      exact of_returns hprogram (if_neg (by simpa using hrefused)) hidle.orderly rfl h.file
        (.inl ⟨rfl, rfl⟩) fun _ => rfl
    | false => exact unchanged h hprogram (if_pos (.inr (.inr rfl)))

theorem close (h : Represents c l) : Served .close c l := by
  cases hopen : c.handle with
  | false =>
    have hclosed : l.isOpen = false := h.isOpen.symm.trans hopen
    refine unchanged h (congrArg (Prod.map (fun _ => LibraryReply.nothing) id)
      (SqliteCalls.close_closed hopen)) ?_
    rw [Library.call, ← hclosed]
  | true =>
    exact of_returns (congrArg (Prod.map (fun _ => LibraryReply.nothing) id)
      (SqliteCalls.close_idle (h.orderly.opened hopen))) rfl (Client.start_orderly _) rfl h.file
      (.inl ⟨rfl, rfl⟩) fun _ => rfl

theorem initialize_ (h : Represents c l) (outcome : Nat → CommandOutcome)
    (rollback : CommandOutcome) :
    Served (.initialize_ outcome rollback) c l := by
  cases hopen : c.handle with
  | false =>
    have hclosed : l.isOpen = false := h.isOpen.symm.trans hopen
    exact unchanged h (congrArg (Prod.map LibraryReply.status id)
      (SqliteCalls.initialize_closed hopen outcome rollback)) (if_neg (by simp [hclosed]))
  | true =>
    have hopen' : l.isOpen = true := h.isOpen.symm.trans hopen
    have hidle := h.orderly.opened hopen
    have hprogram := SqliteCalls.initialize_idle hidle outcome rollback
    have idle (j : Journal Tables) : Client.Idle { c with journal := j } :=
      ⟨⟨hidle.handle, hidle.used⟩, hidle.connection⟩
    rcases SqliteCalls.script_initializeSql h.transaction outcome with
      ⟨hdone, hscript⟩ | ⟨hdone, t, hscript⟩
    · rw [hscript] at hprogram
      exact of_returns (congrArg (Prod.map LibraryReply.status id) hprogram)
        (if_pos ⟨hopen', hdone⟩) (idle _).orderly h.isOpen rfl (.inr rfl) fun _ => rfl
    · rw [hscript] at hprogram
      obtain ⟨j, hj, hfile, htrail, hback⟩ : ∃ j,
          (script [(.rollback : Command SqlText)] (fun _ => rollback) (c.journal.within t)).2 = j ∧
            j.file = c.journal.file ∧ j.trail = c.journal.trail ∧
            (rollback ≠ .failed false → j.transaction = none) := by
        rcases script_rollback SqlText (fun _ => rollback) (c.journal.within t) with
          hrollback | ⟨hfailed, hrollback⟩
        · exact ⟨_, hrollback, rfl, rfl, fun _ => rfl⟩
        · exact ⟨_, hrollback, rfl, rfl, fun hback => absurd hfailed hback⟩
      subst hj
      exact of_returns (congrArg (Prod.map LibraryReply.status id) hprogram)
        (if_neg fun h => hdone h.2) (idle _).orderly h.isOpen (hfile.trans h.file)
        (.inl ⟨htrail, hfile⟩) hback

theorem onTables (h : Represents c l) (call : TableCall) : Served (.onTables call) c l := by
  cases hopen : c.handle with
  | false =>
    have hclosed : l.isOpen = false := h.isOpen.symm.trans hopen
    refine unchanged h (call.program_closed hopen) ?_
    simp [Library.call, hclosed]
  | true =>
    have hopen' : l.isOpen = true := h.isOpen.symm.trans hopen
    have hcontent : c.journal.content = .ofFile l.file := by
      rw [Journal.content, h.transaction, Option.getD_none, h.file]
    have hends := (call.meets c.journal.content).ends (h.orderly.opened hopen)
    obtain ⟨hfile, htransaction, hcommits⟩ := hends.commitsOnce h.transaction
    -- the tables are there, or the call fails
    obtain ⟨hcall, hsame⟩ : (l.call (.onTables call)).1 = (call.outcome (.ofFile l.file)).2 ∧
        (l.call (.onTables call)).2.isOpen = true ∧
        Tables.ofFile (l.call (.onTables call)).2.file = (call.outcome (.ofFile l.file)).1 := by
      cases hs : l.file with
      | none => simp [Library.call, hs, Tables.ofFile, call.outcome_empty, hopen']
      | some s => simp [Library.call, hs, Tables.ofFile, call.outcome_ofStore, hopen']
    rw [hcontent] at hends hfile
    exact {
      reply := hends.returns.trans hcall.symm
      orderly := hends.idle.orderly
      isOpen := hends.idle.handle.trans hsame.1.symm
      file := hfile.trans hsame.2.symm
      commitsOnce := hcommits
      transaction := fun _ => htransaction }

end LibraryCall.Served

namespace Represents

variable {c : Client Tables SqlText} {l : Library}

theorem served (h : Represents c l) (call : LibraryCall) : call.Served c l := by
  cases call with
  | open_ databaseFile opens => exact .open_ h databaseFile opens
  | close => exact .close h
  | initialize_ outcome rollback => exact .initialize_ h outcome rollback
  | onTables call => exact .onTables h call

theorem start {j : Journal Tables} {file : Option Store} (h : j.file = .ofFile file) :
    Represents (.start j.rollback) ⟨false, file⟩ :=
  ⟨Client.start_orderly _, rfl, h, rfl⟩

/-- After a kill the library is as after the call, or as if it had not been made. -/
theorem killed (h : Represents c l) (call : LibraryCall) (commits : Nat) :
    ∃ done, Represents (Program.killed call.program commits c) (l.killed call done) := by
  have hserved := h.served call
  rcases hserved.commitsOnce.killed commits with hkilled | hkilled
  · exact ⟨false, hkilled ▸ start h.file⟩
  · exact ⟨true, hkilled ▸ start hserved.file⟩

end Represents

-- ---------------------------------------------------------------------------
-- Runs
-- ---------------------------------------------------------------------------

theorem represents_simulates :
    Runs.Simulates SqliteCalls.step SqliteCalls.shows Library.step Library.shows
      (fun _ a => a.RollsBack) Represents := by
  intro c a c' l h hback hstep
  cases a with
  | call call =>
    obtain rfl := Option.some.inj hstep
    have hserved := h.served call
    refine ⟨(l.call call).2, ?_, ?_⟩
    · exact ⟨hserved.orderly, hserved.isOpen, hserved.file, hserved.transaction hback⟩
    · have hshows : SqliteCalls.shows c (.call call) = Library.shows l (.call call) :=
        congrArg (fun reply => [LibraryEvent.returned call reply]) hserved.reply
      exact hshows ▸ .step (LibraryAction.call call) rfl
  | killed call commits =>
    obtain rfl := Option.some.inj hstep
    obtain ⟨done, hkilled⟩ := h.killed call commits
    exact ⟨_, hkilled, .step (LibraryAction.killed call done) rfl⟩

/-- Whatever SQLite does, processes that call the library and are killed in the middle of
calls get the replies of `Library`, in which each call that a kill has cut off was made as a
whole or not at all, and leave its file. -/
theorem library_refined (file : Option Store) (actions : List ProcessAction)
    (c : Client Tables SqlText)
    (hrun : run SqliteCalls.step (.start ⟨.ofFile file, [], none⟩) actions = some c)
    (hback : ∀ a ∈ actions, a.RollsBack) :
    ∃ (taken : List LibraryAction) (l : Library),
      run Library.step ⟨false, file⟩ taken = some l ∧
      Runs.trace Library.step Library.shows ⟨false, file⟩ taken =
        Runs.trace SqliteCalls.step SqliteCalls.shows (.start ⟨.ofFile file, [], none⟩) actions ∧
      c.handle = l.isOpen ∧ c.journal.file = .ofFile l.file ∧ c.journal.transaction = none := by
  obtain ⟨taken, l, htaken, h, htrace⟩ :=
    represents_simulates.run (Represents.start (j := ⟨.ofFile file, [], none⟩) rfl) hrun
      (.of_forall fun _ => hback)
  exact ⟨taken, l, htaken, htrace, h.isOpen, h.file, h.transaction⟩

/-- A process makes the tables, starts a session and is killed as it has stopped it; the next
one opens the file. -/
def killedActions : List ProcessAction :=
  [.call (.open_ (some []) true), .call (.initialize_ (fun _ => .done) .done),
   .call (.onTables (.store ⟨.succeed, 1⟩
     (.startParking (some [65]) (.finite 20) (.finite 20) 2 100))),
   .killed (.onTables (.store ⟨.succeed, 0⟩ (.stopParking (some [65]) 160))) 1,
   .call (.open_ (some []) true)]

def killedStore : Store :=
  { Store.initial with
    parkingSessions := [⟨1, [65], .finite 20, .finite 20, 2, .finite (2 / 5), 100, some 160,
      some (.finite (2 / 5))⟩] }

theorem library_refined_killed :
    ∃ (taken : List LibraryAction) (l : Library),
      run Library.step ⟨false, none⟩ taken = some l ∧
      Runs.trace Library.step Library.shows ⟨false, none⟩ taken =
        Runs.trace SqliteCalls.step SqliteCalls.shows (.start ⟨.empty, [], none⟩) killedActions ∧
      Tables.ofFile l.file = .ofStore killedStore := by
  have hfile : (run SqliteCalls.step (.start ⟨.empty, [], none⟩) killedActions).map
      (fun c => c.journal.file) = some (.ofStore killedStore) := by
    decide +kernel
  obtain ⟨c, hrun, hc⟩ := Option.map_eq_some_iff.mp hfile
  obtain ⟨taken, l, htaken, htrace, -, hl, -⟩ := library_refined none killedActions c hrun (by decide)
  exact ⟨taken, l, htaken, htrace, hl.symm.trans hc⟩

-- ---------------------------------------------------------------------------
-- The connection
-- ---------------------------------------------------------------------------

end ParkingSystem
