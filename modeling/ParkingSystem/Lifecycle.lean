import Mathlib.Data.Finset.Card
import ParkingSystem.Lib.Runs
import ParkingSystem.Store

/-!
# The life of the processes

Any number of Database, TcpServer and PriceUpdater processes and what they
share: the PID file, the SQLite file, the System V shared memory segments with
the two readiness flags and queue headers in them. A step is one call or one
access to shared memory; which process moves and whether its call succeeds is
the action. What the processes do with requests between start-up and shutdown is
the subject of `System`.

Database goes through `initialize`, `run` and `shutdown`; each constructor of
`DatabasePc` is the place before the call it names. A SIGUSR1 that is not blocked
ends a process: nothing installs a handler.
-/

namespace ParkingSystem

structure QueueHeader where
  head : Nat
  tail : Nat
  count : Nat
  capacity : Nat
  elementSize : Nat
  deriving DecidableEq

/-- The fields in the order in which the constructor of `SharedQueue` sets them. -/
inductive HeaderField where
  | head
  | tail
  | count
  | capacity
  | elementSize
  deriving DecidableEq

def HeaderField.next : HeaderField → Option HeaderField
  | .head => some .tail
  | .tail => some .count
  | .count => some .capacity
  | .capacity => some .elementSize
  | .elementSize => none

def QueueHeader.set (h : QueueHeader) (queue : Direction) : HeaderField → QueueHeader
  | .head => { h with head := 0 }
  | .tail => { h with tail := 0 }
  | .count => { h with count := 0 }
  | .capacity => { h with capacity := queue.capacity }
  | .elementSize => { h with elementSize := queue.elementSize }

/-- A shared memory segment; `attached` are the processes that have it mapped. -/
structure Segment where
  /-- `shm_cpid`. -/
  creator : Nat
  ready : Direction → Bool
  header : Direction → QueueHeader
  attached : Finset Nat
  /-- IPC_RMID was called: the segment goes with its last attachment. -/
  removed : Bool

/-- `shmget` fills a new segment with zeros, and NOT_READY is 0. -/
def Segment.new (creator : Nat) : Segment :=
  ⟨creator, fun _ => false, fun _ => ⟨0, 0, 0, 0, 0⟩, ∅, false⟩

def Segment.detach (p : Nat) (seg : Segment) : Option Segment :=
  if seg.removed && seg.attached.erase p = ∅ then none
  else some { seg with attached := seg.attached.erase p }

structure PidFile where
  inode : Nat
  pid : Option Nat
  deriving DecidableEq

-- ---------------------------------------------------------------------------
-- Processes
-- ---------------------------------------------------------------------------

inductive ExitCause where
  /-- `initialize` failed because IPC_EXCL found a segment. -/
  | segmentExists
  | initializeFailed
  | shutdownFailed
  | stopped
  | killed
  deriving DecidableEq

inductive DatabasePc where
  -- initialize
  | loadConfiguration
  | openPidFile
  | writePidFile
  | closePidFile
  | openDatabase
  | initializeTables
  | createSegment
  | attachSegment
  | resetReady (queue : Direction)
  | openQueue (queue : Direction)
  | writeHeader (queue : Direction) (field : HeaderField)
  | publish (queue : Direction)
  | withdraw
  -- run
  | initializeSync
  | blockSignals
  | createThreads
  | waitSignal
  | joinThreads
  | restoreMask
  -- shutdown
  | markNotReady (queue : Direction)
  | destroySync
  | pollAttached
  | waitDetach
  | detach
  | countAttached
  | removeSegment
  | closeDatabase
  | removePidFile
  | exited (cause : ExitCause)
  deriving DecidableEq

structure DatabaseProcess where
  pc : DatabasePc
  /-- SIGUSR1 was blocked in the mask that the process was started with. -/
  inherited : Bool
  /-- SIGUSR1 is blocked. -/
  blocked : Bool
  /-- A SIGUSR1 is pending. -/
  pending : Bool
  pidInode : Nat
  sqliteOpened : Bool
  /-- `shm_id_` of `shared_memory_`, `none` for a null pointer. -/
  segment : Option Nat
  /-- `initialize` returned true. -/
  initialized : Bool
  deriving DecidableEq

inductive TcpProcessPc where
  | findSegment
  | attachSegment (id : Nat)
  /-- In `wait_for_queues`, before the read of this flag. -/
  | readReady (queue : Direction) (id : Nat)
  | openQueue (queue : Direction) (id : Nat)
  | initializeSync (id : Nat)
  | running (id : Nat)
  | exited
  deriving DecidableEq

def DatabaseProcess.live (d : DatabaseProcess) : Bool :=
  match d.pc with
  | .exited _ => false
  | _ => true

theorem DatabaseProcess.live_of_pc (d : DatabaseProcess) (h : ∀ cause, d.pc ≠ .exited cause) :
    d.live = true := by
  unfold DatabaseProcess.live
  split
  · exact absurd ‹_› (h _)
  · rfl

/-- Where `shutdown` begins: the flags are cleared only if there is a header. -/
def DatabaseProcess.shutdown (d : DatabaseProcess) : DatabasePc :=
  if d.segment.isSome then .markNotReady .databaseToTcp else .destroySync

inductive Process where
  | database (d : DatabaseProcess)
  | tcpServer (pc : TcpProcessPc)
  deriving DecidableEq

def Process.live : Process → Bool
  | .database d => d.live
  | .tcpServer pc => pc ≠ .exited

structure World where
  pidFile : Option PidFile
  nextInode : Nat
  store : Store
  /-- The segment that `shmget` finds under the configured key. -/
  key : Option Nat
  segments : Nat → Option Segment
  nextSegment : Nat
  /-- The Database and TcpServer processes by their pids. -/
  processes : Nat → Option Process
  /-- The pids that PriceUpdater processes have read and not yet signalled. -/
  readPids : List Nat

inductive Outcome where
  | ok
  | error
  | sigusr1
  | sigint
  deriving DecidableEq

inductive WorldAction where
  | startDatabase (p : Nat) (inherited : Bool)
  | database (p : Nat) (outcome : Outcome)
  | startTcpServer (p : Nat)
  | tcpServer (p : Nat) (outcome : Outcome)
  /-- The process is killed, or ends by a signal that is not modelled. -/
  | dies (p : Nat)
  /-- `read_database_pid` of a PriceUpdater. -/
  | readPid
  /-- Its `kill(database_pid, SIGUSR1)`. -/
  | signal (p : Nat)
  deriving DecidableEq

-- ---------------------------------------------------------------------------
-- Steps
-- ---------------------------------------------------------------------------

namespace World

def initial (store : Store) : World where
  pidFile := none
  nextInode := 0
  store := store
  key := none
  segments := fun _ => none
  nextSegment := 0
  processes := fun _ => none
  readPids := []

variable (w : World)

/-- The pid that a PriceUpdater reads from the PID file. -/
def namedPid : Option Nat := w.pidFile.bind PidFile.pid

def alive (p : Nat) : Bool := (w.processes p).any Process.live

def databases (p : Nat) : Option DatabaseProcess :=
  match w.processes p with
  | some (.database d) => some d
  | _ => none

def tcpServers (p : Nat) : Option TcpProcessPc :=
  match w.processes p with
  | some (.tcpServer pc) => some pc
  | _ => none

def setDatabase (p : Nat) (d : DatabaseProcess) : World :=
  { w with processes := Function.update w.processes p (some (.database d)) }

def setTcpServer (p : Nat) (pc : TcpProcessPc) : World :=
  { w with processes := Function.update w.processes p (some (.tcpServer pc)) }

def updateSegment (id : Option Nat) (f : Segment → Segment) : World :=
  { w with segments := fun i => if id = some i then (w.segments i).map f else w.segments i }

def setReady (id : Option Nat) (queue : Direction) (value : Bool) : World :=
  w.updateSegment id fun seg => { seg with ready := Function.update seg.ready queue value }

def detach (p : Nat) : World :=
  { w with segments := fun id => (w.segments id).bind (Segment.detach p) }

/-- The process ends; the system detaches what it had mapped. -/
def exitDatabase (p : Nat) (d : DatabaseProcess) (cause : ExitCause) : World :=
  (w.detach p).setDatabase p { d with pc := .exited cause }

def exitTcpServer (p : Nat) : World := (w.detach p).setTcpServer p .exited

/-- `attached_count`: `shm_nattch`, or -1 as `none`. -/
def attachedCount (id : Option Nat) : Option Nat :=
  (id.bind w.segments).map fun seg => seg.attached.card

/-- `std::ofstream` with `trunc`: an old file is emptied, a missing one created. -/
def openPidFile (p : Nat) (d : DatabaseProcess) (pc : DatabasePc) : World :=
  match w.pidFile with
  | some file =>
    { w with pidFile := some { file with pid := none } }.setDatabase p
      { d with pidInode := file.inode, pc := pc }
  | none =>
    { w with pidFile := some ⟨w.nextInode, none⟩, nextInode := w.nextInode + 1 }.setDatabase p
      { d with pidInode := w.nextInode, pc := pc }

/-- The buffered text reaches the file that was opened, if it still has its name. -/
def flushPidFile (p : Nat) (d : DatabaseProcess) : Option PidFile :=
  w.pidFile.map fun file => if file.inode = d.pidInode then { file with pid := some p } else file

def databaseStep (p : Nat) (d : DatabaseProcess) (outcome : Outcome) : Option World :=
  let goto (pc : DatabasePc) : Option World := some (w.setDatabase p { d with pc := pc })
  let exit (cause : ExitCause) : Option World := some (w.exitDatabase p d cause)
  match d.pc, outcome with
  | .loadConfiguration, .ok => goto .openPidFile
  | .loadConfiguration, .error => exit .initializeFailed
  | .openPidFile, .ok => some (w.openPidFile p d .writePidFile)
  | .openPidFile, .error => goto d.shutdown
  | .writePidFile, .ok => goto .closePidFile
  | .writePidFile, .error => goto d.shutdown
  -- Nobody looks at how the destructor of the stream fares.
  | .closePidFile, .ok =>
    some ({ w with pidFile := w.flushPidFile p d }.setDatabase p { d with pc := .openDatabase })
  | .closePidFile, .error => goto .openDatabase
  | .openDatabase, .ok =>
    some (w.setDatabase p { d with sqliteOpened := true, pc := .initializeTables })
  | .openDatabase, .error => goto d.shutdown
  | .initializeTables, .ok =>
    some ({ w with store := Store.initial }.setDatabase p { d with pc := .createSegment })
  | .initializeTables, .error => goto d.shutdown
  | .createSegment, .ok =>
    match w.key with
    | some _ => exit .segmentExists
    | none =>
      some ({ w with
        key := some w.nextSegment
        segments := Function.update w.segments w.nextSegment (some (Segment.new p))
        nextSegment := w.nextSegment + 1 }.setDatabase p
          { d with segment := some w.nextSegment, pc := .attachSegment })
  | .createSegment, .error => exit .initializeFailed
  | .attachSegment, .ok =>
    if (d.segment.bind w.segments).isSome then
      some ((w.updateSegment d.segment fun seg =>
        { seg with attached := insert p seg.attached }).setDatabase p
          { d with pc := .resetReady .tcpToDatabase })
    else exit .initializeFailed
  | .attachSegment, .error => exit .initializeFailed
  | .resetReady .tcpToDatabase, .ok =>
    some ((w.setReady d.segment .tcpToDatabase false).setDatabase p
      { d with pc := .resetReady .databaseToTcp })
  | .resetReady .databaseToTcp, .ok =>
    some ((w.setReady d.segment .databaseToTcp false).setDatabase p
      { d with pc := .openQueue .tcpToDatabase })
  | .openQueue queue, .ok => goto (.writeHeader queue .head)
  | .openQueue .tcpToDatabase, .error => exit .initializeFailed
  | .openQueue .databaseToTcp, .error => goto .withdraw
  | .writeHeader queue field, .ok =>
    some ((w.updateSegment d.segment fun seg =>
      { seg with header := Function.update seg.header queue ((seg.header queue).set queue field) }
        ).setDatabase p { d with
          pc := match field.next with
            | some next => .writeHeader queue next
            | none => .publish queue })
  | .publish .tcpToDatabase, .ok =>
    some ((w.setReady d.segment .tcpToDatabase true).setDatabase p
      { d with pc := .openQueue .databaseToTcp })
  | .publish .databaseToTcp, .ok =>
    some ((w.setReady d.segment .databaseToTcp true).setDatabase p
      { d with initialized := true, pc := .initializeSync })
  | .withdraw, .ok =>
    some ((w.setReady d.segment .tcpToDatabase false).exitDatabase p d .initializeFailed)
  | .initializeSync, .ok => goto .blockSignals
  | .initializeSync, .error => goto d.shutdown
  | .blockSignals, .ok => some (w.setDatabase p { d with blocked := true, pc := .createThreads })
  | .blockSignals, .error => goto d.shutdown
  | .createThreads, .ok => goto .waitSignal
  | .createThreads, .error => goto .restoreMask
  | .waitSignal, .sigusr1 =>
    if d.pending then some (w.setDatabase p { d with pending := false }) else none
  | .waitSignal, .sigint => goto .joinThreads
  | .waitSignal, .error => goto .joinThreads
  | .joinThreads, .ok => goto .restoreMask
  -- A signal that is still pending is delivered as soon as the old mask lets it.
  | .restoreMask, .ok =>
    if d.pending && !d.inherited then exit .killed
    else some (w.setDatabase p { d with blocked := d.inherited, pc := d.shutdown })
  | .markNotReady .databaseToTcp, .ok =>
    some ((w.setReady d.segment .databaseToTcp false).setDatabase p
      { d with pc := .markNotReady .tcpToDatabase })
  | .markNotReady .tcpToDatabase, .ok =>
    some ((w.setReady d.segment .tcpToDatabase false).setDatabase p { d with pc := .destroySync })
  | .destroySync, .ok => goto (if d.segment.isSome then .pollAttached else .removePidFile)
  | .destroySync, .error => exit .shutdownFailed
  | .pollAttached, .ok | .waitDetach, .ok =>
    match w.attachedCount d.segment with
    | none => exit .shutdownFailed
    | some count => goto (if 1 < count then .waitDetach else .detach)
  | .pollAttached, .error | .waitDetach, .error => exit .shutdownFailed
  | .detach, .ok => some ((w.detach p).setDatabase p { d with pc := .countAttached })
  | .detach, .error => exit .shutdownFailed
  | .countAttached, .ok =>
    match w.attachedCount d.segment with
    | none => exit .shutdownFailed
    | some count => if 1 < count then exit .shutdownFailed else goto .removeSegment
  | .countAttached, .error => exit .shutdownFailed
  | .removeSegment, .ok =>
    some ({ w with
      key := if w.key = d.segment then none else w.key
      segments := fun i =>
        if d.segment = some i then
          (w.segments i).bind fun seg =>
            if seg.attached = ∅ then none else some { seg with removed := true }
        else w.segments i }.setDatabase p { d with segment := none, pc := .closeDatabase })
  | .removeSegment, .error => exit .shutdownFailed
  | .closeDatabase, .ok =>
    some (w.setDatabase p { d with sqliteOpened := false, pc := .removePidFile })
  | .removePidFile, .ok =>
    some ({ w with pidFile := none }.exitDatabase p d
      (if d.initialized then .stopped else .initializeFailed))
  | .removePidFile, .error => exit .shutdownFailed
  | _, _ => none

def tcpServerStep (p : Nat) (pc : TcpProcessPc) (outcome : Outcome) : Option World :=
  match pc, outcome with
  | .findSegment, .ok => w.key.map fun id => w.setTcpServer p (.attachSegment id)
  -- IPC_ATTACH_TIMEOUT_MS is over.
  | .findSegment, .error => some (w.exitTcpServer p)
  | .attachSegment id, .ok =>
    if (w.segments id).isSome then
      some ((w.updateSegment (some id) fun seg =>
        { seg with attached := insert p seg.attached }).setTcpServer p (.readReady .tcpToDatabase id))
    else some (w.setTcpServer p .findSegment)
  | .attachSegment _, .error => some (w.setTcpServer p .findSegment)
  -- `wait_for_queues` has no timeout.
  | .readReady .tcpToDatabase id, .ok =>
    (w.segments id).map fun seg =>
      w.setTcpServer p (.readReady (if seg.ready .tcpToDatabase then .databaseToTcp
        else .tcpToDatabase) id)
  | .readReady .databaseToTcp id, .ok =>
    (w.segments id).map fun seg =>
      w.setTcpServer p (if seg.ready .databaseToTcp then .openQueue .tcpToDatabase id
        else .readReady .tcpToDatabase id)
  | .openQueue queue id, .ok =>
    (w.segments id).map fun seg =>
      if (seg.header queue).capacity = queue.capacity ∧
          (seg.header queue).elementSize = queue.elementSize then
        w.setTcpServer p (if queue = .tcpToDatabase then .openQueue .databaseToTcp id
          else .initializeSync id)
      else w.exitTcpServer p
  | .openQueue _ _, .error => some (w.exitTcpServer p)
  | .initializeSync id, .ok => some (w.setTcpServer p (.running id))
  | .initializeSync _, .error => some (w.exitTcpServer p)
  -- SIGINT, and the `shutdown` of TcpServer.
  | .running _, .sigint => some (w.exitTcpServer p)
  | _, _ => none

def kill (p : Nat) : Process → World
  | .database d => w.exitDatabase p d .killed
  | .tcpServer _ => w.exitTcpServer p

/-- SIGUSR1 to a process, whichever has the pid now. -/
def deliver (p : Nat) : World :=
  match w.processes p with
  | some (.database d) =>
    if !d.live then w
    else if d.blocked then w.setDatabase p { d with pending := true }
    else w.kill p (.database d)
  | some (.tcpServer pc) => if pc = .exited then w else w.kill p (.tcpServer pc)
  | none => w

def started (inherited : Bool) : DatabaseProcess :=
  ⟨.loadConfiguration, inherited, inherited, false, 0, false, none, false⟩

def step (w : World) : WorldAction → Option World
  | .startDatabase p inherited =>
    if w.alive p then none else some (w.setDatabase p (started inherited))
  | .database p outcome => (w.databases p).bind fun d => w.databaseStep p d outcome
  | .startTcpServer p => if w.alive p then none else some (w.setTcpServer p .findSegment)
  | .tcpServer p outcome => (w.tcpServers p).bind fun pc => w.tcpServerStep p pc outcome
  | .dies p =>
    (w.processes p).bind fun process => if process.live then some (w.kill p process) else none
  | .readPid => w.namedPid.map fun p => { w with readPids := p :: w.readPids }
  | .signal p =>
    if p ∈ w.readPids then some ({ w with readPids := w.readPids.erase p }.deliver p) else none

-- ---------------------------------------------------------------------------
-- What the updates leave alone
-- ---------------------------------------------------------------------------

section Frame

variable {w : World} {p : Nat} {d : DatabaseProcess} {pc : TcpProcessPc} {id : Option Nat}
  {f : Segment → Segment}

theorem processes_of_databases (h : w.databases p = some d) :
    w.processes p = some (.database d) := by
  unfold databases at h
  split at h
  · rename_i hp
    cases h
    exact hp
  · cases h

theorem alive_of_databases (h : w.databases p = some d) (hlive : d.live = true) :
    w.alive p = true := by
  simpa [alive, processes_of_databases h, Process.live] using hlive

@[simp] theorem setDatabase_databases :
    (w.setDatabase p d).databases = Function.update w.databases p (some d) := by
  funext q
  by_cases hq : q = p <;> simp [databases, setDatabase, hq]

@[simp] theorem setDatabase_tcpServers :
    (w.setDatabase p d).tcpServers = Function.update w.tcpServers p none := by
  funext q
  by_cases hq : q = p <;> simp [tcpServers, setDatabase, hq]

@[simp] theorem setTcpServer_databases :
    (w.setTcpServer p pc).databases = Function.update w.databases p none := by
  funext q
  by_cases hq : q = p <;> simp [databases, setTcpServer, hq]

@[simp] theorem setTcpServer_tcpServers :
    (w.setTcpServer p pc).tcpServers = Function.update w.tcpServers p (some pc) := by
  funext q
  by_cases hq : q = p <;> simp [tcpServers, setTcpServer, hq]

theorem setDatabase_self : (w.setDatabase p d).databases p = some d := by simp

end Frame

-- ---------------------------------------------------------------------------
-- What one step can do
-- ---------------------------------------------------------------------------

/-- The steps of a Database process that change nothing but its place. -/
inductive Edge (w : World) (d : DatabaseProcess) : DatabasePc → DatabasePc → Prop
  | configured : Edge w d .loadConfiguration .openPidFile
  | pidFileNotOpened : Edge w d .openPidFile d.shutdown
  | pidWritten : Edge w d .writePidFile .closePidFile
  | pidNotWritten : Edge w d .writePidFile d.shutdown
  | pidNotFlushed : Edge w d .closePidFile .openDatabase
  | databaseNotOpened : Edge w d .openDatabase d.shutdown
  | tablesNotInitialized : Edge w d .initializeTables d.shutdown
  | queueOpened (queue : Direction) : Edge w d (.openQueue queue) (.writeHeader queue .head)
  | queueNotOpened : Edge w d (.openQueue .databaseToTcp) .withdraw
  | syncInitialized : Edge w d .initializeSync .blockSignals
  | syncNotInitialized : Edge w d .initializeSync d.shutdown
  | signalsNotBlocked : Edge w d .blockSignals d.shutdown
  | threadsCreated : Edge w d .createThreads .waitSignal
  | threadsNotCreated : Edge w d .createThreads .restoreMask
  | stopped : Edge w d .waitSignal .joinThreads
  | joined : Edge w d .joinThreads .restoreMask
  | syncDestroyed : Edge w d .destroySync
      (if d.segment.isSome then .pollAttached else .removePidFile)
  | polled (pc : DatabasePc) (polls : pc = .pollAttached ∨ pc = .waitDetach)
      (count : w.attachedCount d.segment = some n) : Edge w d pc
        (if 1 < n then .waitDetach else .detach)
  | counted (count : w.attachedCount d.segment = some n) (few : ¬ 1 < n) :
      Edge w d .countAttached .removeSegment

inductive Flagging : DatabasePc → Direction → Bool → DatabasePc → Prop
  | resetFirst : Flagging (.resetReady .tcpToDatabase) .tcpToDatabase false
      (.resetReady .databaseToTcp)
  | resetSecond : Flagging (.resetReady .databaseToTcp) .databaseToTcp false
      (.openQueue .tcpToDatabase)
  | published : Flagging (.publish .tcpToDatabase) .tcpToDatabase true (.openQueue .databaseToTcp)
  | markedSecond : Flagging (.markNotReady .databaseToTcp) .databaseToTcp false
      (.markNotReady .tcpToDatabase)
  | markedFirst : Flagging (.markNotReady .tcpToDatabase) .tcpToDatabase false .destroySync

inductive DatabaseChange (w : World) (p : Nat) (d : DatabaseProcess) : World → Prop
  | moved (pc : DatabasePc) (edge : Edge w d d.pc pc) :
      DatabaseChange w p d (w.setDatabase p { d with pc := pc })
  | exited (cause : ExitCause) (live : d.live = true)
      (refused : cause = .segmentExists → d.pc = .createSegment) :
      DatabaseChange w p d (w.exitDatabase p d cause)
  | openedPidFile (place : d.pc = .openPidFile) :
      DatabaseChange w p d (w.openPidFile p d .writePidFile)
  | flushed (place : d.pc = .closePidFile) :
      DatabaseChange w p d
        ({ w with pidFile := w.flushPidFile p d }.setDatabase p { d with pc := .openDatabase })
  | openedDatabase (place : d.pc = .openDatabase) :
      DatabaseChange w p d
        (w.setDatabase p { d with sqliteOpened := true, pc := .initializeTables })
  | initializedTables (place : d.pc = .initializeTables) :
      DatabaseChange w p d
        ({ w with store := Store.initial }.setDatabase p { d with pc := .createSegment })
  | created (place : d.pc = .createSegment) (key : w.key = none) :
      DatabaseChange w p d ({ w with
        key := some w.nextSegment
        segments := Function.update w.segments w.nextSegment (some (Segment.new p))
        nextSegment := w.nextSegment + 1 }.setDatabase p
          { d with segment := some w.nextSegment, pc := .attachSegment })
  | attached (place : d.pc = .attachSegment) (found : (d.segment.bind w.segments).isSome = true) :
      DatabaseChange w p d ((w.updateSegment d.segment fun seg =>
        { seg with attached := insert p seg.attached }).setDatabase p
          { d with pc := .resetReady .tcpToDatabase })
  | flagged (queue : Direction) (value : Bool) (pc : DatabasePc)
      (flagging : Flagging d.pc queue value pc) :
      DatabaseChange w p d ((w.setReady d.segment queue value).setDatabase p { d with pc := pc })
  | initialized (place : d.pc = .publish .databaseToTcp) :
      DatabaseChange w p d ((w.setReady d.segment .databaseToTcp true).setDatabase p
        { d with initialized := true, pc := .initializeSync })
  | headerWritten (queue : Direction) (field : HeaderField)
      (place : d.pc = .writeHeader queue field) :
      DatabaseChange w p d ((w.updateSegment d.segment fun seg =>
        { seg with header := Function.update seg.header queue ((seg.header queue).set queue field) }
          ).setDatabase p { d with
            pc := match field.next with
              | some next => .writeHeader queue next
              | none => .publish queue })
  | withdrawn (place : d.pc = .withdraw) :
      DatabaseChange w p d
        ((w.setReady d.segment .tcpToDatabase false).exitDatabase p d .initializeFailed)
  | blockedSignals (place : d.pc = .blockSignals) :
      DatabaseChange w p d (w.setDatabase p { d with blocked := true, pc := .createThreads })
  | consumed (place : d.pc = .waitSignal) :
      DatabaseChange w p d (w.setDatabase p { d with pending := false, pc := .waitSignal })
  | restored (place : d.pc = .restoreMask) :
      DatabaseChange w p d (w.setDatabase p { d with blocked := d.inherited, pc := d.shutdown })
  | detached (place : d.pc = .detach) :
      DatabaseChange w p d ((w.detach p).setDatabase p { d with pc := .countAttached })
  | removed (place : d.pc = .removeSegment) :
      DatabaseChange w p d ({ w with
        key := if w.key = d.segment then none else w.key
        segments := fun i =>
          if d.segment = some i then
            (w.segments i).bind fun seg =>
              if seg.attached = ∅ then none else some { seg with removed := true }
          else w.segments i }.setDatabase p { d with segment := none, pc := .closeDatabase })
  | closedDatabase (place : d.pc = .closeDatabase) :
      DatabaseChange w p d
        (w.setDatabase p { d with sqliteOpened := false, pc := .removePidFile })
  | removedPidFile (place : d.pc = .removePidFile) (cause : ExitCause)
      (ended : cause ≠ .segmentExists) :
      DatabaseChange w p d ({ w with pidFile := none }.exitDatabase p d cause)

variable {w w' : World} {p : Nat} {d : DatabaseProcess}

theorem DatabaseChange.exits {cause : ExitCause} (hlive : ∀ cause, d.pc ≠ .exited cause)
    (hcause : cause ≠ .segmentExists) : DatabaseChange w p d (w.exitDatabase p d cause) :=
  .exited cause (d.live_of_pc hlive) fun h => absurd h hcause

theorem databaseStep_cases (h : w.databaseStep p d outcome = some w') :
    DatabaseChange w p d w' := by
  unfold databaseStep at h
  generalize hpc : d.pc = pc at h
  cases pc with
  | loadConfiguration =>
    cases outcome <;> cases h
    · exact .moved _ (hpc ▸ .configured)
    · exact .exits (by simp [hpc]) (by simp)
  | openPidFile =>
    cases outcome <;> cases h
    · exact .openedPidFile hpc
    · exact .moved _ (hpc ▸ .pidFileNotOpened)
  | writePidFile =>
    cases outcome <;> cases h
    · exact .moved _ (hpc ▸ .pidWritten)
    · exact .moved _ (hpc ▸ .pidNotWritten)
  | closePidFile =>
    cases outcome <;> cases h
    · exact .flushed hpc
    · exact .moved _ (hpc ▸ .pidNotFlushed)
  | openDatabase =>
    cases outcome <;> cases h
    · exact .openedDatabase hpc
    · exact .moved _ (hpc ▸ .databaseNotOpened)
  | initializeTables =>
    cases outcome <;> cases h
    · exact .initializedTables hpc
    · exact .moved _ (hpc ▸ .tablesNotInitialized)
  | createSegment =>
    cases outcome <;> dsimp only at h <;> try cases h
    · split at h
      · cases h
        exact .exited _ (d.live_of_pc (by simp [hpc])) (fun _ => hpc)
      · rename_i hkey
        cases h
        exact .created hpc hkey
    · exact .exits (by simp [hpc]) (by simp)
  | attachSegment =>
    cases outcome <;> dsimp only at h <;> try cases h
    · split at h
      · cases h
        exact .attached hpc ‹_›
      · cases h
        exact .exits (by simp [hpc]) (by simp)
    · exact .exits (by simp [hpc]) (by simp)
  | resetReady queue =>
    cases queue <;> cases outcome <;> cases h
    · exact .flagged _ _ _ (hpc ▸ .resetFirst)
    · exact .flagged _ _ _ (hpc ▸ .resetSecond)
  | openQueue queue =>
    cases queue <;> cases outcome <;> cases h
    · exact .moved _ (hpc ▸ .queueOpened _)
    · exact .exits (by simp [hpc]) (by simp)
    · exact .moved _ (hpc ▸ .queueOpened _)
    · exact .moved _ (hpc ▸ .queueNotOpened)
  | writeHeader queue field =>
    cases outcome <;> cases h
    exact .headerWritten queue field hpc
  | publish queue =>
    cases queue <;> cases outcome <;> cases h
    · exact .flagged _ _ _ (hpc ▸ .published)
    · exact .initialized hpc
  | withdraw =>
    cases outcome <;> cases h
    exact .withdrawn hpc
  | initializeSync =>
    cases outcome <;> cases h
    · exact .moved _ (hpc ▸ .syncInitialized)
    · exact .moved _ (hpc ▸ .syncNotInitialized)
  | blockSignals =>
    cases outcome <;> cases h
    · exact .blockedSignals hpc
    · exact .moved _ (hpc ▸ .signalsNotBlocked)
  | createThreads =>
    cases outcome <;> cases h
    · exact .moved _ (hpc ▸ .threadsCreated)
    · exact .moved _ (hpc ▸ .threadsNotCreated)
  | waitSignal =>
    cases outcome <;> dsimp only at h <;> try cases h
    · exact .moved _ (hpc ▸ .stopped)
    · split at h
      · cases h
        exact .consumed hpc
      · cases h
    · exact .moved _ (hpc ▸ .stopped)
  | joinThreads =>
    cases outcome <;> cases h
    exact .moved _ (hpc ▸ .joined)
  | restoreMask =>
    cases outcome <;> dsimp only at h <;> try cases h
    split at h
    · cases h
      exact .exits (by simp [hpc]) (by simp)
    · cases h
      exact .restored hpc
  | markNotReady queue =>
    cases queue <;> cases outcome <;> cases h
    · exact .flagged _ _ _ (hpc ▸ .markedFirst)
    · exact .flagged _ _ _ (hpc ▸ .markedSecond)
  | destroySync =>
    cases outcome <;> cases h
    · exact .moved _ (hpc ▸ .syncDestroyed)
    · exact .exits (by simp [hpc]) (by simp)
  | pollAttached =>
    cases outcome <;> dsimp only at h <;> try cases h
    · split at h
      · cases h
        exact .exits (by simp [hpc]) (by simp)
      · rename_i hcount
        cases h
        exact .moved _ (hpc ▸ .polled _ (.inl rfl) hcount)
    · exact .exits (by simp [hpc]) (by simp)
  | waitDetach =>
    cases outcome <;> dsimp only at h <;> try cases h
    · split at h
      · cases h
        exact .exits (by simp [hpc]) (by simp)
      · rename_i hcount
        cases h
        exact .moved _ (hpc ▸ .polled _ (.inr rfl) hcount)
    · exact .exits (by simp [hpc]) (by simp)
  | detach =>
    cases outcome <;> cases h
    · exact .detached hpc
    · exact .exits (by simp [hpc]) (by simp)
  | countAttached =>
    cases outcome <;> dsimp only at h <;> try cases h
    · split at h
      · cases h
        exact .exits (by simp [hpc]) (by simp)
      · rename_i hcount
        split at h
        · cases h
          exact .exits (by simp [hpc]) (by simp)
        · cases h
          exact .moved _ (hpc ▸ .counted hcount ‹_›)
    · exact .exits (by simp [hpc]) (by simp)
  | removeSegment =>
    cases outcome <;> cases h
    · exact .removed hpc
    · exact .exits (by simp [hpc]) (by simp)
  | closeDatabase =>
    cases outcome <;> cases h
    exact .closedDatabase hpc
  | removePidFile =>
    cases outcome <;> cases h
    · exact .removedPidFile hpc _ (by split <;> simp)
    · exact .exits (by simp [hpc]) (by simp)
  | exited cause =>
    cases outcome <;> cases h

theorem Edge.live {pc pc' : DatabasePc} (h : Edge w d pc pc') (cause : ExitCause) :
    pc ≠ .exited cause := by
  cases h with
  | polled pc polls => rcases polls with rfl | rfl <;> simp
  | _ => simp

theorem Flagging.live {pc pc' : DatabasePc} (h : Flagging pc queue value pc') (cause : ExitCause) :
    pc ≠ .exited cause := by
  cases h <;> simp

theorem DatabaseChange.live (h : DatabaseChange w p d w') : d.live = true := by
  cases h with
  | moved pc edge => exact d.live_of_pc edge.live
  | exited cause live => exact live
  | flagged queue value pc flagging => exact d.live_of_pc flagging.live
  | _ => exact d.live_of_pc (by simp [*])

inductive TcpServerEdge (w : World) : TcpProcessPc → TcpProcessPc → Prop
  | found (id : Nat) (key : w.key = some id) : TcpServerEdge w .findSegment (.attachSegment id)
  | notAttached (id : Nat) : TcpServerEdge w (.attachSegment id) .findSegment
  | firstRead (id : Nat) (seg : Segment) (segment : w.segments id = some seg) :
      TcpServerEdge w (.readReady .tcpToDatabase id)
        (.readReady (if seg.ready .tcpToDatabase then .databaseToTcp else .tcpToDatabase) id)
  | secondRead (id : Nat) (seg : Segment) (segment : w.segments id = some seg) :
      TcpServerEdge w (.readReady .databaseToTcp id)
        (if seg.ready .databaseToTcp then .openQueue .tcpToDatabase id
          else .readReady .tcpToDatabase id)
  | queueOpened (queue : Direction) (id : Nat) (seg : Segment) (segment : w.segments id = some seg)
      (header : (seg.header queue).capacity = queue.capacity ∧
        (seg.header queue).elementSize = queue.elementSize) :
      TcpServerEdge w (.openQueue queue id)
        (if queue = .tcpToDatabase then .openQueue .databaseToTcp id else .initializeSync id)
  | initialized (id : Nat) : TcpServerEdge w (.initializeSync id) (.running id)

inductive TcpServerChange (w : World) (p : Nat) (pc : TcpProcessPc) : World → Prop
  | moved (pc' : TcpProcessPc) (edge : TcpServerEdge w pc pc') :
      TcpServerChange w p pc (w.setTcpServer p pc')
  | attached (id : Nat) (place : pc = .attachSegment id) (found : (w.segments id).isSome = true) :
      TcpServerChange w p pc ((w.updateSegment (some id) fun seg =>
        { seg with attached := insert p seg.attached }).setTcpServer p
          (.readReady .tcpToDatabase id))
  | exited (live : pc ≠ .exited) : TcpServerChange w p pc (w.exitTcpServer p)

theorem tcpServerStep_cases {pc : TcpProcessPc} (h : w.tcpServerStep p pc outcome = some w') :
    TcpServerChange w p pc w' := by
  unfold tcpServerStep at h
  split at h
  · obtain ⟨id, hkey, rfl⟩ := Option.map_eq_some_iff.mp h
    exact .moved _ (.found id hkey)
  · cases h
    exact .exited (by simp)
  · split at h
    · cases h
      exact .attached _ rfl ‹_›
    · cases h
      exact .moved _ (.notAttached _)
  · cases h
    exact .moved _ (.notAttached _)
  · obtain ⟨seg, hseg, rfl⟩ := Option.map_eq_some_iff.mp h
    exact .moved _ (.firstRead _ seg hseg)
  · obtain ⟨seg, hseg, rfl⟩ := Option.map_eq_some_iff.mp h
    exact .moved _ (.secondRead _ seg hseg)
  · obtain ⟨seg, hseg, rfl⟩ := Option.map_eq_some_iff.mp h
    split
    · exact .moved _ (.queueOpened _ _ seg hseg ‹_›)
    · exact .exited (by simp)
  · cases h
    exact .exited (by simp)
  · cases h
    exact .moved _ (.initialized _)
  · cases h
    exact .exited (by simp)
  · cases h
    exact .exited (by simp)
  · cases h

inductive Change (w : World) : WorldAction → World → Prop
  | startedDatabase (p : Nat) (inherited : Bool) (dead : ¬ w.alive p = true) :
      Change w (.startDatabase p inherited) (w.setDatabase p (started inherited))
  | database (next : World) (p : Nat) (outcome : Outcome) (d : DatabaseProcess)
      (process : w.databases p = some d) (step : w.databaseStep p d outcome = some next)
      (change : DatabaseChange w p d next) : Change w (.database p outcome) next
  | startedTcpServer (p : Nat) (dead : ¬ w.alive p = true) :
      Change w (.startTcpServer p) (w.setTcpServer p .findSegment)
  | tcpServer (next : World) (p : Nat) (outcome : Outcome) (pc : TcpProcessPc)
      (process : w.tcpServers p = some pc) (step : w.tcpServerStep p pc outcome = some next)
      (change : TcpServerChange w p pc next) : Change w (.tcpServer p outcome) next
  | databaseKilled (readPids : List Nat) (p : Nat) (d : DatabaseProcess)
      (process : w.databases p = some d) (live : d.live = true) :
      Change w a ({ w with readPids := readPids }.exitDatabase p d .killed)
  | tcpServerKilled (readPids : List Nat) (p : Nat) (pc : TcpProcessPc)
      (process : w.tcpServers p = some pc) (live : pc ≠ .exited) :
      Change w a ({ w with readPids := readPids }.exitTcpServer p)
  | signalPending (readPids : List Nat) (p : Nat) (d : DatabaseProcess)
      (process : w.databases p = some d) (live : d.live = true) :
      Change w a ({ w with readPids := readPids }.setDatabase p { d with pending := true })
  | notified (readPids : List Nat) : Change w a { w with readPids := readPids }

theorem databases_of_processes (h : w.processes p = some (.database d)) :
    w.databases p = some d := by
  simp [databases, h]

theorem tcpServers_of_processes {pc : TcpProcessPc} (h : w.processes p = some (.tcpServer pc)) :
    w.tcpServers p = some pc := by
  simp [tcpServers, h]

theorem kill_cases (readPids : List Nat) (a : WorldAction) {process : Process}
    (hp : w.processes p = some process) (hlive : process.live = true) :
    Change w a ({ w with readPids := readPids }.kill p process) := by
  cases process with
  | database d => exact .databaseKilled readPids p d (databases_of_processes hp) hlive
  | tcpServer pc =>
    exact .tcpServerKilled readPids p pc (tcpServers_of_processes hp) (by simpa [Process.live] using hlive)

theorem deliver_cases (readPids : List Nat) (a : WorldAction) :
    Change w a ({ w with readPids := readPids }.deliver p) := by
  unfold deliver
  split
  · rename_i d hp
    split
    · exact .notified readPids
    · rename_i hlive
      have hlive : d.live = true := by simpa using hlive
      split
      · exact .signalPending readPids p d (databases_of_processes hp) hlive
      · exact kill_cases readPids a hp hlive
  · rename_i pc hp
    split
    · exact .notified readPids
    · exact kill_cases readPids a hp (by simpa [Process.live])
  · exact .notified readPids

theorem step_cases {a : WorldAction} (h : w.step a = some w') : Change w a w' := by
  cases a with
  | startDatabase p inherited =>
    simp only [step] at h
    split at h
    · cases h
    · cases h
      exact .startedDatabase p inherited ‹_›
  | database p outcome =>
    obtain ⟨d, hd, h⟩ := Option.bind_eq_some_iff.mp h
    exact .database w' p outcome d hd h (databaseStep_cases h)
  | startTcpServer p =>
    simp only [step] at h
    split at h
    · cases h
    · cases h
      exact .startedTcpServer p ‹_›
  | tcpServer p outcome =>
    obtain ⟨pc, hpc, h⟩ := Option.bind_eq_some_iff.mp h
    exact .tcpServer w' p outcome pc hpc h (tcpServerStep_cases h)
  | dies p =>
    obtain ⟨process, hp, h⟩ := Option.bind_eq_some_iff.mp h
    split at h
    · cases h
      exact kill_cases w.readPids _ hp ‹_›
    · cases h
  | readPid =>
    obtain ⟨p, -, rfl⟩ := Option.map_eq_some_iff.mp h
    exact .notified _
  | signal p =>
    simp only [step] at h
    split at h
    · cases h
      exact deliver_cases _ _
    · cases h

end World

end ParkingSystem
