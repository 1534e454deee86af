import Mathlib.Tactic.MkIffOfInductiveProp
import ParkingSystem.Protocol

/-!
# A start that fails

`Database::initialize` acquires the PID file, the SQLite connection, the shared memory
segment and the queues, in this order. When a step fails some paths call `shutdown` and
some do not, and `main` leaves it at that: `failed_initialize_iff` says after which
failures nothing is left behind.

The other processes are as the outcomes of the system calls have them.
-/

namespace ParkingSystem.Initialization

-- ---------------------------------------------------------------------------
-- State
-- ---------------------------------------------------------------------------

structure Segment where
  /-- It was created by the process that is starting. -/
  own : Bool
  ready : Direction → Bool

structure SharedMemory where
  shmId : Bool
  attached : Bool

structure State where
  /-- The PID file, and the pid that `fscanf` reads from it. -/
  pidFile : Option (Option Nat)
  segment : Option Segment
  /-- `sqlite_database_.database` is an open connection. -/
  connection : Bool
  sqliteDatabaseOpened : Bool
  /-- `none` for a null pointer. -/
  sharedMemory : Option SharedMemory
  /-- `ipc_header_` is not null. -/
  ipcHeader : Bool
  /-- The two `SharedQueue` objects. -/
  queue : Direction → Bool
  conditionInitialized : Bool
  mutexInitialized : Bool

def State.fresh (pidFile : Option (Option Nat)) (segment : Option (Direction → Bool)) : State where
  pidFile := pidFile
  segment := segment.map fun ready => ⟨false, ready⟩
  connection := false
  sqliteDatabaseOpened := false
  sharedMemory := none
  ipcHeader := false
  queue := fun _ => false
  conditionInitialized := false
  mutexInitialized := false

structure Calls where
  configLoad : Bool
  loggerInit : Bool
  openPidFile : Bool
  /-- The stream is good after the insertion. -/
  writePidFile : Bool
  /-- The destructor of the stream gets the text to the file. -/
  flushPidFile : Bool
  removePidFile : Bool
  sqliteOpen : Bool
  sqliteInitialize : Bool
  sqliteClose : Bool
  shmget : Bool
  shmat : Bool
  shmdt : Bool
  shmctlRemove : Bool
  semOpen : Direction → Bool
  conditionDestroy : Bool
  mutexDestroy : Bool
  /-- What `attached_count` returns, call by call. -/
  attachedCounts : List Int

-- ---------------------------------------------------------------------------
-- The parts
-- ---------------------------------------------------------------------------

section Parts

variable (calls : Calls) (pid : Nat) (s : State)

def writePidFile : Bool × State :=
  if !calls.openPidFile then (false, s)
  else
    -- the file is truncated, whatever becomes of the text
    let s := { s with pidFile := some (if calls.flushPidFile then some pid else none) }
    (calls.writePidFile, s)

/-- A missing file is as good as a removed one. -/
def removePidFile : Bool × State :=
  match s.pidFile with
  | none => (true, s)
  | some _ => if calls.removePidFile then (true, { s with pidFile := none }) else (false, s)

def sqliteDatabaseOpen : Bool × State :=
  if s.connection then (false, s)
  else if !calls.sqliteOpen then (false, s)
  else (true, { s with connection := true })

def sqliteDatabaseClose : State :=
  if s.connection && calls.sqliteClose then { s with connection := false } else s

/-- `SharedMemory::create`, on a new object. -/
def sharedMemoryCreate : Bool × State × SharedMemory :=
  match s.segment with
  -- IPC_EXCL
  | some _ => (false, s, ⟨false, false⟩)
  | none =>
    if !calls.shmget then (false, s, ⟨false, false⟩)
    else
      let s := { s with segment := some ⟨true, fun _ => false⟩ }
      if !calls.shmat then (false, s, ⟨true, false⟩) else (true, s, ⟨true, true⟩)

def setReady (queue : Direction) (value : Bool) : State :=
  { s with segment := s.segment.map fun segment =>
      { segment with ready := Function.update segment.ready queue value } }

def initializeSharedMemory : Bool × State :=
  let (created, s, sharedMemory) := sharedMemoryCreate calls s
  if !created then (false, { s with sharedMemory := none })
  else if !sharedMemory.attached then (false, { s with sharedMemory := none })
  else
    let s := { s with sharedMemory := some sharedMemory, ipcHeader := true }
    (true, setReady (setReady s .tcpToDatabase false) .databaseToTcp false)

def setQueue (queue : Direction) (value : Bool) : State :=
  { s with queue := Function.update s.queue queue value }

/-- The constructor of `SharedQueue` fails with `sem_open`. -/
def initializeQueues : Bool × State :=
  if !(s.sharedMemory.any SharedMemory.attached && s.ipcHeader) then (false, s)
  else if !calls.semOpen .tcpToDatabase then (false, setQueue s .tcpToDatabase false)
  else
    let s := setReady (setQueue s .tcpToDatabase true) .tcpToDatabase true
    if !calls.semOpen .databaseToTcp then
      let s := setReady s .tcpToDatabase false
      (false, setQueue (setQueue s .databaseToTcp false) .tcpToDatabase false)
    else (true, setReady (setQueue s .databaseToTcp true) .databaseToTcp true)

end Parts

-- ---------------------------------------------------------------------------
-- Database::shutdown
-- ---------------------------------------------------------------------------

section Shutdown

variable (calls : Calls) (s : State)

/-- `while (attached_processes > 1)`: the count that ends the loop and the answers after it,
or `none` while it goes on. -/
def waitDetached : List Int → Option (Int × List Int)
  | [] => none
  | count :: counts => if 1 < count then waitDetached counts else some (count, counts)

def releaseSharedMemory (sharedMemory : SharedMemory) : Option (Bool × State) :=
  (waitDetached calls.attachedCounts).map fun (count, counts) =>
    if count = -1 then (false, s)
    else if sharedMemory.attached && !calls.shmdt then (false, s)
    else
      let sharedMemory := { sharedMemory with attached := false }
      let s := { s with sharedMemory := some sharedMemory }
      -- `remove` counts again
      let count := if sharedMemory.shmId then counts.headD (-1) else -1
      if count < 0 ∨ 1 < count ∨ !calls.shmctlRemove then (false, s)
      else
        let s := { s with segment := none, sharedMemory := none }
        let s :=
          if s.sqliteDatabaseOpened then
            { sqliteDatabaseClose calls s with sqliteDatabaseOpened := false }
          else s
        removePidFile calls s

/-- `none` while it waits for the other processes. -/
def shutdown : Option (Bool × State) :=
  let s :=
    if s.ipcHeader then setReady (setReady s .databaseToTcp false) .tcpToDatabase false else s
  let s := { s with ipcHeader := false, queue := fun _ => false }
  if s.conditionInitialized && !calls.conditionDestroy then some (false, s)
  else
    let s := { s with conditionInitialized := false }
    if s.mutexInitialized && !calls.mutexDestroy then some (false, s)
    else
      let s := { s with mutexInitialized := false }
      match s.sharedMemory with
      | none => some (removePidFile calls s)
      | some sharedMemory => releaseSharedMemory calls s sharedMemory

end Shutdown

-- ---------------------------------------------------------------------------
-- Database::initialize
-- ---------------------------------------------------------------------------

section Initialize

variable (calls : Calls) (pid : Nat) (s : State)

def giveUp : Option (Bool × State) := (shutdown calls s).map fun (_, s) => (false, s)

def databaseInitialize : Option (Bool × State) :=
  if !calls.configLoad then some (false, s)
  else if !calls.loggerInit then some (false, s)
  else
    let (written, s) := writePidFile calls pid s
    if !written then giveUp calls s
    else
      let (opened, s) := sqliteDatabaseOpen calls s
      if !opened then giveUp calls s
      else
        let s := { s with sqliteDatabaseOpened := true }
        if !calls.sqliteInitialize then giveUp calls s
        else
          let (created, s) := initializeSharedMemory calls s
          if !created then some (false, s)
          else
            let (initialized, s) := initializeQueues calls s
            if !initialized then some (false, s) else some (true, s)

end Initialize

structure LeavesNothing (pid : Nat) (s : State) : Prop where
  pidFile : s.pidFile ≠ some (some pid)
  connection : s.connection = false
  segment : ∀ segment ∈ s.segment, segment.own = false

def Calls.NamesPid (calls : Calls) (pid : Nat) (pidFile : Option (Option Nat)) : Prop :=
  if calls.configLoad && calls.loggerInit && calls.openPidFile then calls.flushPidFile = true
  else pidFile = some (some pid)

/-- The start fails before SQLite is open, and the PID file does not name the process or is
removed by the `shutdown` that follows. -/
@[mk_iff]
structure Calls.FailEarly (calls : Calls) (pid : Nat) (pidFile : Option (Option Nat)) : Prop where
  unopened : (calls.configLoad && calls.loggerInit && calls.openPidFile && calls.writePidFile &&
    calls.sqliteOpen) = false
  removed : calls.NamesPid pid pidFile →
    (calls.configLoad && calls.loggerInit && calls.removePidFile) = true

-- ---------------------------------------------------------------------------
-- What is left
-- ---------------------------------------------------------------------------

section Left

variable {calls : Calls} {pid : Nat} {s : State} {pidFile : Option (Option Nat)}
  {segment : Option (Direction → Bool)}

theorem removePidFile_state (calls : Calls) (s : State) : (removePidFile calls s).2 =
    { s with pidFile := if calls.removePidFile then none else s.pidFile } := by
  obtain ⟨pidFile⟩ := s
  cases pidFile with
  | none => simp [removePidFile]
  | some file =>
    cases hremove : calls.removePidFile with
    | false => simp [removePidFile, hremove]
    | true => simp [removePidFile, hremove]

theorem giveUp_eq (calls : Calls) (s : State) (hmemory : s.sharedMemory = none)
    (hheader : s.ipcHeader = false) (hcondition : s.conditionInitialized = false)
    (hmutex : s.mutexInitialized = false) :
    ∃ s', giveUp calls s = some (false, s') ∧ s'.connection = s.connection ∧
      s'.segment = s.segment ∧
      s'.pidFile = if calls.removePidFile then none else s.pidFile := by
  simp [giveUp, shutdown, hmemory, hheader, hcondition, hmutex, removePidFile_state]

theorem initializeSharedMemory_connection (calls : Calls) (s : State) :
    (initializeSharedMemory calls s).2.connection = s.connection := by
  have hcreate : (sharedMemoryCreate calls s).2.1.connection = s.connection := by
    rw [sharedMemoryCreate]
    split
    · rfl
    split
    · rfl
    split <;> rfl
  rw [initializeSharedMemory]
  generalize sharedMemoryCreate calls s = result at hcreate ⊢
  obtain ⟨created, s', sharedMemory⟩ := result
  simp only
  split
  · exact hcreate
  split <;> exact hcreate

theorem initializeQueues_connection (calls : Calls) (s : State) :
    (initializeQueues calls s).2.connection = s.connection := by
  rw [initializeQueues]
  split
  · rfl
  split
  · rfl
  split <;> rfl

theorem leavesNothing_iff (hconnection : s.connection = false)
    (hsegment : ∀ seg ∈ s.segment, seg.own = false) :
    LeavesNothing pid s ↔ s.pidFile ≠ some (some pid) :=
  ⟨fun h => h.pidFile, fun h => ⟨h, hconnection, hsegment⟩⟩

theorem not_leavesNothing_of_open (hconnection : s.connection = true) : ¬ LeavesNothing pid s := by
  intro h
  rw [h.connection] at hconnection
  cases hconnection

theorem giveUp_leavesNothing_iff (calls : Calls) (pid : Nat) (s : State)
    (hmemory : s.sharedMemory = none) (hheader : s.ipcHeader = false)
    (hcondition : s.conditionInitialized = false) (hmutex : s.mutexInitialized = false)
    (hconnection : s.connection = false) (hsegment : ∀ seg ∈ s.segment, seg.own = false) :
    ∃ s', giveUp calls s = some (false, s') ∧
      (LeavesNothing pid s' ↔ (s.pidFile = some (some pid) → calls.removePidFile = true)) := by
  obtain ⟨s', hgiveUp, hconnection', hsegment', hfile⟩ :=
    giveUp_eq calls s hmemory hheader hcondition hmutex
  refine ⟨s', hgiveUp, ?_⟩
  rw [leavesNothing_iff (by rw [hconnection']; exact hconnection)
    (by rw [hsegment']; exact hsegment), hfile]
  cases hremove : calls.removePidFile with
  | false => simp
  | true => simp

theorem writePidFile_opened (hopen : calls.openPidFile = true) :
    writePidFile calls pid (State.fresh pidFile segment) = (calls.writePidFile,
      { State.fresh pidFile segment with
        pidFile := some (if calls.flushPidFile then some pid else none) }) := by
  rw [writePidFile, hopen]
  rfl

theorem fresh_segment : ∀ seg ∈ (State.fresh pidFile segment).segment, seg.own = false := by
  intro seg hseg
  obtain ⟨ready, -, rfl⟩ := Option.map_eq_some_iff.mp hseg
  rfl

theorem databaseInitialize_unopened
    (hunopened : (calls.configLoad && calls.loggerInit && calls.openPidFile &&
      calls.writePidFile && calls.sqliteOpen) = false) :
    ∃ s, databaseInitialize calls pid (State.fresh pidFile segment) = some (false, s) ∧
      (LeavesNothing pid s ↔ calls.FailEarly pid pidFile) := by
  rw [calls.failEarly_iff, Calls.NamesPid, databaseInitialize]
  cases hconfig : calls.configLoad with
  | false =>
    refine ⟨_, rfl, ?_⟩
    rw [leavesNothing_iff rfl fresh_segment]
    simp [State.fresh]
  | true =>
  cases hlogger : calls.loggerInit with
  | false =>
    refine ⟨_, rfl, ?_⟩
    rw [leavesNothing_iff rfl fresh_segment]
    simp [State.fresh]
  | true =>
  cases hopen : calls.openPidFile with
  | false =>
    obtain ⟨s, hgiveUp, hiff⟩ := giveUp_leavesNothing_iff calls pid
      (State.fresh pidFile segment) rfl rfl rfl rfl rfl fresh_segment
    refine ⟨s, by simpa [writePidFile, hopen] using hgiveUp, ?_⟩
    rw [hiff]
    simp [State.fresh]
  | true =>
  -- the PID file is there from here on, and both places that can still fail call `shutdown`
  let s₁ : State := { State.fresh pidFile segment with
    pidFile := some (if calls.flushPidFile then some pid else none) }
  obtain ⟨s, hgiveUp, hiff⟩ :=
    giveUp_leavesNothing_iff calls pid s₁ rfl rfl rfl rfl rfl fresh_segment
  have hlast : (calls.writePidFile && calls.sqliteOpen) = false := by
    simpa [hconfig, hlogger, hopen] using hunopened
  refine ⟨s, ?_, ?_⟩
  · rw [writePidFile_opened hopen]
    cases hwritten : calls.writePidFile with
    | false => exact hgiveUp
    | true =>
      have hsqlite : calls.sqliteOpen = false := by simpa [hwritten] using hlast
      have hnot : sqliteDatabaseOpen calls s₁ = (false, s₁) := by
        simp [sqliteDatabaseOpen, s₁, State.fresh, hsqlite]
      simp only [Bool.not_true, Bool.false_eq_true, if_false]
      rw [hnot]
      exact hgiveUp
  · rw [hiff]
    cases hflush : calls.flushPidFile <;> simp [hlast, hflush, s₁]

theorem databaseInitialize_opened
    (hopened : (calls.configLoad && calls.loggerInit && calls.openPidFile &&
      calls.writePidFile && calls.sqliteOpen) = true) :
    ∃ ok s, databaseInitialize calls pid (State.fresh pidFile segment) = some (ok, s) ∧
      (ok = false → s.connection = true) := by
  simp only [Bool.and_eq_true] at hopened
  obtain ⟨⟨⟨⟨hconfig, hlogger⟩, hopen⟩, hwritten⟩, hsqlite⟩ := hopened
  let s₁ : State := { State.fresh pidFile segment with
    pidFile := some (if calls.flushPidFile then some pid else none) }
  let s₂ : State := { s₁ with connection := true, sqliteDatabaseOpened := true }
  have hopened : sqliteDatabaseOpen calls s₁ = (true, { s₁ with connection := true }) := by
    simp [sqliteDatabaseOpen, s₁, State.fresh, hsqlite]
  rw [databaseInitialize, hconfig, hlogger, writePidFile_opened hopen, hwritten]
  simp only [Bool.not_true, Bool.false_eq_true, if_false]
  rw [hopened]
  simp only [Bool.not_true, Bool.false_eq_true, if_false]
  cases hinitialize : calls.sqliteInitialize with
  | false =>
    obtain ⟨s, hgiveUp, hconnection, -, -⟩ := giveUp_eq calls s₂ rfl rfl rfl rfl
    exact ⟨false, s, hgiveUp, fun _ => hconnection⟩
  | true =>
  simp only [Bool.not_true, Bool.false_eq_true, if_false]
  split
  · exact ⟨false, _, rfl, fun _ => initializeSharedMemory_connection calls s₂⟩
  split
  · refine ⟨false, _, rfl, fun _ => ?_⟩
    rw [initializeQueues_connection]
    exact initializeSharedMemory_connection calls s₂
  · exact ⟨true, _, rfl, nofun⟩

end Left

/-- A start that fails leaves nothing behind exactly when it fails early enough. -/
theorem failed_initialize_iff (calls : Calls) (pid : Nat) (pidFile : Option (Option Nat))
    (segment : Option (Direction → Bool)) :
    ∃ ok s, databaseInitialize calls pid (State.fresh pidFile segment) = some (ok, s) ∧
      (ok = false → (LeavesNothing pid s ↔ calls.FailEarly pid pidFile)) := by
  cases hopened : calls.configLoad && calls.loggerInit && calls.openPidFile &&
      calls.writePidFile && calls.sqliteOpen with
  | false =>
    obtain ⟨s, hs, hiff⟩ := databaseInitialize_unopened hopened
    exact ⟨false, s, hs, fun _ => hiff⟩
  | true =>
    obtain ⟨ok, s, hs, hconnection⟩ := databaseInitialize_opened hopened
    refine ⟨ok, s, hs, fun hfailed => ?_⟩
    apply iff_of_false (not_leavesNothing_of_open (hconnection hfailed))
    intro hearly
    rw [hearly.unopened] at hopened
    cases hopened

/-- `shmat` fails on the segment that `shmget` has just created. -/
def unattachable : Calls where
  configLoad := true
  loggerInit := true
  openPidFile := true
  writePidFile := true
  flushPidFile := true
  removePidFile := true
  sqliteOpen := true
  sqliteInitialize := true
  sqliteClose := true
  shmget := true
  shmat := false
  shmdt := true
  shmctlRemove := true
  semOpen := fun _ => true
  conditionDestroy := true
  mutexDestroy := true
  attachedCounts := []

theorem failed_initialize_leaves : ∃ s,
    databaseInitialize unattachable 7 (State.fresh none none) = some (false, s) ∧
      s.pidFile = some (some 7) ∧ s.connection = true ∧ s.segment.any Segment.own = true ∧
      ¬ LeavesNothing 7 s :=
  ⟨_, rfl, rfl, rfl, rfl, not_leavesNothing_of_open rfl⟩

end ParkingSystem.Initialization
