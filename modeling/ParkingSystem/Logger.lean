import ParkingSystem.Lib.CString
import ParkingSystem.Lib.FileTable
import ParkingSystem.Lib.Runs
import ParkingSystem.Lib.Sync
import ParkingSystem.RequestProcessing

/-!
# The logger

`logger_init`, `logger_close` and `logger_write`, called by any number of threads. The
mutex `log_mutex` is held for every use of the log file, but the first test of
`logger_write`, the last one of `logger_init` and the switch of the console output go
without it. `log_file_owned`: whatever the threads do, the logger writes to no descriptor
but the one of the log file that it has open, and never has two open.
-/

namespace ParkingSystem

open Runs (run Along)
open Sync (Monitor)

-- ---------------------------------------------------------------------------
-- A message
-- ---------------------------------------------------------------------------

inductive LogLevel where
  | info
  | error
  | debug
  | other (raw : UInt32)
  deriving DecidableEq

def loggerLevelToString : LogLevel → Text
  | .info => CString.ofString "INFO "
  | .error => CString.ofString "ERROR"
  | .debug => CString.ofString "DEBUG"
  | .other _ => CString.ofString "UNKWN"

def loggerMessageMaxSize : Nat := 1024

structure Tm where
  year : Nat
  month : Nat
  day : Nat
  hour : Nat
  minute : Nat
  second : Nat

def decimalText (n : Nat) : Text := (Nat.toDigits 10 n).map fun c => UInt8.ofNat c.toNat

def twoDigits (n : Nat) : Text := if n < 10 then 48 :: decimalText n else decimalText n

/-- `logger_get_timestamp`; `none` when `localtime_r` fails. -/
def loggerGetTimestamp : Option Tm → Text
  | none => CString.ofString "unknown-time"
  | some tm =>
    decimalText tm.year ++ [45] ++ twoDigits tm.month ++ [45] ++ twoDigits tm.day ++ [32] ++
      twoDigits tm.hour ++ [58] ++ twoDigits tm.minute ++ [58] ++ twoDigits tm.second

structure LogCall where
  level : LogLevel
  /-- `__FILE__` and `__LINE__`. -/
  source : Option (Text × Nat)
  /-- What the format and its arguments come to. -/
  message : Text
  deriving DecidableEq

/-- What `final_message` would be in a buffer of any size. -/
def LogCall.line (call : LogCall) (time : Option Tm) : Text :=
  let userMessage := snprintf loggerMessageMaxSize call.message
  loggerGetTimestamp time ++ [32, 91] ++ loggerLevelToString call.level ++ [93, 32] ++
    (match call.source with
    | some (file, line) => file ++ [58] ++ decimalText line ++ [32]
    | none => []) ++ userMessage ++ [10]

def LogCall.finalMessage (call : LogCall) (time : Option Tm) : Text :=
  snprintf loggerMessageMaxSize (call.line time)

-- ---------------------------------------------------------------------------
-- Threads
-- ---------------------------------------------------------------------------

inductive LoggerPc where
  | idle
  | initLock
  | initClose
  | initOpen
  | initUnlock
  | initResult
  | closeLock
  | closeClose
  | closeUnlock
  | writeTestFd (call : LogCall)
  | writeTestConsole (call : LogCall)
  | writeFormat (call : LogCall)
  | writeLock (call : LogCall) (time : Option Tm)
  | writeConsole (call : LogCall) (time : Option Tm)
  | writeFile (call : LogCall) (time : Option Tm) (console : Bool)
  | writeUnlock

/-- Between `pthread_mutex_lock` and `pthread_mutex_unlock`. -/
def LoggerPc.holds : LoggerPc → Bool
  | .initClose | .initOpen | .initUnlock | .closeClose | .closeUnlock | .writeConsole .. |
    .writeFile .. | .writeUnlock => true
  | _ => false

/-- The message that is on the console, if that is on, and not yet in the file. -/
def LoggerPc.handing : LoggerPc → Option (LogCall × Option Tm × Bool)
  | .writeFile call time console => some (call, time, console)
  | _ => none

/-- A message that was handed out: to the console or not, and to which opening of the log
file, if any. -/
structure Logged where
  call : LogCall
  time : Option Tm
  console : Bool
  file : Option Nat

/-- The logger of one process. Descriptors 0 to 2 stay what they are. -/
structure Logger (τ : Type) where
  mutex : Monitor τ
  /-- `log_fd`, `none` for -1. -/
  logFd : Option Nat
  consoleOutputEnabled : Bool
  /-- The other descriptors of the process. -/
  files : FileTable
  pc : τ → LoggerPc
  /-- What a thread's last `logger_init` returned. -/
  result : τ → Option Bool
  /-- The openings of the log file. -/
  opened : List Nat
  /-- What was written to an opening. -/
  file : Nat → Text
  stdout : Text
  stderr : Text
  /-- The messages handed out so far. -/
  log : List Logged

inductive LoggerAction where
  | init (path console : Bool)
  | close
  /-- `none` is a format of NULL. -/
  | write (call : Option LogCall)
  /-- The next step of the thread's call. -/
  | next
  | openFile (descriptor : Option Nat)
  | format (time : Option Tm)
  /-- `write` takes that many bytes. -/
  | put (count : Nat)

inductive LoggerEvent (τ : Type) where
  | thread (t : τ) (action : LoggerAction)
  /-- The rest of the program. -/
  | otherOpen (descriptor : Nat)
  | otherClose (descriptor : Nat)

namespace Logger

variable {τ : Type}

def start : Logger τ where
  mutex := .free
  logFd := none
  consoleOutputEnabled := false
  files := .empty
  pc _ := .idle
  result _ := none
  opened := []
  file _ := []
  stdout := []
  stderr := []
  log := []

section Fields

variable (s : Logger τ)

/-- `close(log_fd)`, if it is open, and `log_fd = -1`. -/
def closeLog : Logger τ :=
  match s.logFd with
  | none => s
  | some d => { s with files := s.files.close d, logFd := none }

def openLog (descriptor : Option Nat) : Option (Logger τ) :=
  match descriptor with
  | none => some { s with logFd := none }
  | some d =>
    match s.files.opening d with
    | some _ => none
    | none => some { s with
        files := s.files.allocate d, logFd := some d,
        opened := s.files.openings :: s.opened }

def putConsole (level : LogLevel) (bytes : Text) : Logger τ :=
  if level = .error then { s with stderr := s.stderr ++ bytes }
  else { s with stdout := s.stdout ++ bytes }

def putLog (bytes : Text) : Logger τ :=
  match s.logFd.bind s.files.opening with
  | none => s
  | some i => { s with file := Function.update s.file i (s.file i ++ bytes) }

def record (entry : Logged) : Logger τ := { s with log := s.log ++ [entry] }

def enableConsole (console : Bool) : Logger τ := { s with consoleOutputEnabled := console }

structure Quiet (s s' : Logger τ) : Prop where
  mutex : s'.mutex = s.mutex
  logFd : s'.logFd = s.logFd
  files : s'.files = s.files
  opened : s'.opened = s.opened
  file : s'.file = s.file
  stdout : s'.stdout = s.stdout
  stderr : s'.stderr = s.stderr
  log : s'.log = s.log

end Fields

section Threads

variable [DecidableEq τ] (s : Logger τ) (t : τ)

def returns (success : Bool) : Logger τ :=
  { s with result := Function.update s.result t (some success) }

def goto (pc : LoggerPc) : Logger τ := { s with pc := Function.update s.pc t pc }

def lock (pc : LoggerPc) : Option (Logger τ) :=
  (s.mutex.lock t).map fun mutex => { s.goto t pc with mutex := mutex }

def unlock (pc : LoggerPc) : Option (Logger τ) :=
  (s.mutex.unlock t).map fun mutex => { s.goto t pc with mutex := mutex }

def threadStep (a : LoggerAction) : Option (Logger τ) :=
  match s.pc t, a with
  | .idle, .init path console =>
    some (if path then (s.enableConsole console).goto t .initLock else s.returns t false)
  | .idle, .close => some (s.goto t .closeLock)
  | .idle, .write none => some s
  | .idle, .write (some call) => some (s.goto t (.writeTestFd call))
  | .initLock, .next => s.lock t .initClose
  | .initClose, .next => some (s.closeLog.goto t .initOpen)
  | .initOpen, .openFile descriptor => (s.openLog descriptor).map (·.goto t .initUnlock)
  | .initUnlock, .next => s.unlock t .initResult
  | .initResult, .next => some ((s.returns t s.logFd.isSome).goto t .idle)
  | .closeLock, .next => s.lock t .closeClose
  | .closeClose, .next => some (s.closeLog.goto t .closeUnlock)
  | .closeUnlock, .next => s.unlock t .idle
  | .writeTestFd call, .next =>
    some (s.goto t (if s.logFd = none then .writeTestConsole call else .writeFormat call))
  | .writeTestConsole call, .next =>
    some (s.goto t (if s.consoleOutputEnabled then .writeFormat call else .idle))
  | .writeFormat call, .format time => some (s.goto t (.writeLock call time))
  | .writeLock call time, .next => s.lock t (.writeConsole call time)
  | .writeConsole call time, .put count =>
    if s.consoleOutputEnabled then
      some ((s.putConsole call.level ((call.finalMessage time).take count)).goto t
        (.writeFile call time true))
    else some (s.goto t (.writeFile call time false))
  | .writeFile call time console, .put count =>
    some (((s.putLog ((call.finalMessage time).take count)).record
      ⟨call, time, console, s.logFd.bind s.files.opening⟩).goto t .writeUnlock)
  | .writeUnlock, .next => s.unlock t .idle
  | _, _ => none

def step : LoggerEvent τ → Option (Logger τ)
  | .thread t a => s.threadStep t a
  | .otherOpen d =>
    match s.files.opening d with
    | some _ => none
    | none => some { s with files := s.files.allocate d }
  | .otherClose d =>
    match s.files.opening d with
    | some _ => some { s with files := s.files.close d }
    | none => some s

-- ---------------------------------------------------------------------------
-- What a thread can do
-- ---------------------------------------------------------------------------

inductive Moves (s : Logger τ) (t : τ) : LoggerAction → Logger τ → Prop where
  | quiet (a : LoggerAction) (s' : Logger τ) (pc : LoggerPc) (same : Quiet s s')
      (place : s'.pc = Function.update s.pc t pc) (outside : (s.pc t).holds = false)
      (outside' : pc.holds = false) : Moves s t a s'
  | locked (pc : LoggerPc) (mutex : Monitor τ) (lock : s.mutex.lock t = some mutex)
      (outside : (s.pc t).holds = false) (inside : pc.holds = true) (closing : pc ≠ .initOpen)
      (handing : pc.handing = none) : Moves s t .next { s.goto t pc with mutex := mutex }
  | unlocked (pc : LoggerPc) (mutex : Monitor τ) (unlock : s.mutex.unlock t = some mutex)
      (inside : (s.pc t).holds = true) (handing : (s.pc t).handing = none)
      (outside : pc.holds = false) : Moves s t .next { s.goto t pc with mutex := mutex }
  | closed (pc : LoggerPc) (inside : (s.pc t).holds = true) (inside' : pc.holds = true)
      (handing : (s.pc t).handing = none) (handing' : pc.handing = none) :
      Moves s t .next (s.closeLog.goto t pc)
  | opened (descriptor : Option Nat) (s' : Logger τ) (place : s.pc t = .initOpen)
      (opens : s.openLog descriptor = some s') :
      Moves s t (.openFile descriptor) (s'.goto t .initUnlock)
  | console (call : LogCall) (time : Option Tm) (count : Nat)
      (place : s.pc t = .writeConsole call time) (enabled : s.consoleOutputEnabled = true) :
      Moves s t (.put count) ((s.putConsole call.level ((call.finalMessage time).take count)).goto t
        (.writeFile call time true))
  | noConsole (call : LogCall) (time : Option Tm) (count : Nat)
      (place : s.pc t = .writeConsole call time) :
      Moves s t (.put count) (s.goto t (.writeFile call time false))
  | file (call : LogCall) (time : Option Tm) (console : Bool) (count : Nat)
      (place : s.pc t = .writeFile call time console) :
      Moves s t (.put count) (((s.putLog ((call.finalMessage time).take count)).record
        ⟨call, time, console, s.logFd.bind s.files.opening⟩).goto t .writeUnlock)

section Step

variable {s s' : Logger τ} {t : τ} {a : LoggerAction}

theorem Moves.goto {pc : LoggerPc} (outside : (s.pc t).holds = false) (outside' : pc.holds = false) :
    Moves s t a (s.goto t pc) :=
  .quiet a _ pc ⟨rfl, rfl, rfl, rfl, rfl, rfl, rfl, rfl⟩ rfl outside outside'

theorem Moves.stay {s' : Logger τ} (same : Quiet s s') (place : s'.pc = s.pc)
    (outside : (s.pc t).holds = false) : Moves s t a s' :=
  .quiet a s' (s.pc t) same (by rw [place, Function.update_eq_self]) outside outside

theorem Moves.ofLock {pc : LoggerPc} (h : s.lock t pc = some s') (outside : (s.pc t).holds = false)
    (inside : pc.holds = true) (closing : pc ≠ .initOpen) (handing : pc.handing = none) :
    Moves s t .next s' := by
  obtain ⟨mutex, hlock, rfl⟩ := Option.map_eq_some_iff.mp h
  exact .locked pc mutex hlock outside inside closing handing

theorem Moves.ofUnlock {pc : LoggerPc} (h : s.unlock t pc = some s') (inside : (s.pc t).holds = true)
    (handing : (s.pc t).handing = none) (outside : pc.holds = false) : Moves s t .next s' := by
  obtain ⟨mutex, hunlock, rfl⟩ := Option.map_eq_some_iff.mp h
  exact .unlocked pc mutex hunlock inside handing outside

theorem moves_of_threadStep (h : s.threadStep t a = some s') : Moves s t a s' := by
  unfold threadStep at h
  split at h
  case h_1 path console hpc =>
    cases h
    have outside : (s.pc t).holds = false := by rw [hpc]; rfl
    split
    · exact .quiet _ _ .initLock ⟨rfl, rfl, rfl, rfl, rfl, rfl, rfl, rfl⟩ rfl outside rfl
    · exact .stay ⟨rfl, rfl, rfl, rfl, rfl, rfl, rfl, rfl⟩ rfl outside
  case h_2 hpc =>
    cases h
    exact .goto (by rw [hpc]; rfl) rfl
  case h_3 hpc =>
    cases h
    exact .stay ⟨rfl, rfl, rfl, rfl, rfl, rfl, rfl, rfl⟩ rfl (by rw [hpc]; rfl)
  case h_4 call hpc =>
    cases h
    exact .goto (by rw [hpc]; rfl) rfl
  case h_5 hpc => exact .ofLock h (by rw [hpc]; rfl) rfl nofun rfl
  case h_6 hpc =>
    cases h
    exact .closed .initOpen (by rw [hpc]; rfl) rfl (by rw [hpc]; rfl) rfl
  case h_7 descriptor hpc =>
    obtain ⟨s₁, hopen, rfl⟩ := Option.map_eq_some_iff.mp h
    exact .opened descriptor s₁ hpc hopen
  case h_8 hpc => exact .ofUnlock h (by rw [hpc]; rfl) (by rw [hpc]; rfl) rfl
  case h_9 hpc =>
    cases h
    exact .quiet _ _ .idle ⟨rfl, rfl, rfl, rfl, rfl, rfl, rfl, rfl⟩ rfl (by rw [hpc]; rfl) rfl
  case h_10 hpc => exact .ofLock h (by rw [hpc]; rfl) rfl nofun rfl
  case h_11 hpc =>
    cases h
    exact .closed .closeUnlock (by rw [hpc]; rfl) rfl (by rw [hpc]; rfl) rfl
  case h_12 hpc => exact .ofUnlock h (by rw [hpc]; rfl) (by rw [hpc]; rfl) rfl
  case h_13 call hpc =>
    cases h
    exact .goto (by rw [hpc]; rfl) (by split <;> rfl)
  case h_14 call hpc =>
    cases h
    exact .goto (by rw [hpc]; rfl) (by split <;> rfl)
  case h_15 call time hpc =>
    cases h
    exact .goto (by rw [hpc]; rfl) rfl
  case h_16 call time hpc => exact .ofLock h (by rw [hpc]; rfl) rfl nofun rfl
  case h_17 call time count hpc =>
    split at h
    · cases h
      exact .console call time count hpc ‹_›
    · cases h
      exact .noConsole call time count hpc
  case h_18 call time console count hpc =>
    cases h
    exact .file call time console count hpc
  case h_19 hpc => exact .ofUnlock h (by rw [hpc]; rfl) (by rw [hpc]; rfl) rfl
  case h_20 => cases h

end Step

end Threads

-- ---------------------------------------------------------------------------
-- The mutex
-- ---------------------------------------------------------------------------

/-- Exactly the holder of the mutex is between `lock` and `unlock`. -/
def Exclusive (s : Logger τ) : Prop := s.mutex.Owned fun t => (s.pc t).holds

structure Unwritten (s s' : Logger τ) : Prop where
  mutex : s'.mutex = s.mutex
  pc : s'.pc = s.pc
  file : s'.file = s.file
  stdout : s'.stdout = s.stdout
  stderr : s'.stderr = s.stderr
  log : s'.log = s.log

section Fields

variable {s s' : Logger τ}

theorem closeLog_unwritten : Unwritten s s.closeLog := by
  unfold closeLog
  split <;> exact ⟨rfl, rfl, rfl, rfl, rfl, rfl⟩

theorem openLog_unwritten {descriptor : Option Nat} (h : s.openLog descriptor = some s') :
    Unwritten s s' := by
  unfold openLog at h
  split at h
  · cases h
    exact ⟨rfl, rfl, rfl, rfl, rfl, rfl⟩
  · split at h
    · cases h
    · cases h
      exact ⟨rfl, rfl, rfl, rfl, rfl, rfl⟩

theorem putConsole_same (level : LogLevel) (bytes : Text) :
    (s.putConsole level bytes).mutex = s.mutex ∧ (s.putConsole level bytes).pc = s.pc ∧
      (s.putConsole level bytes).file = s.file ∧ (s.putConsole level bytes).log = s.log := by
  unfold putConsole
  split <;> exact ⟨rfl, rfl, rfl, rfl⟩

theorem putLog_same (bytes : Text) :
    (s.putLog bytes).mutex = s.mutex ∧ (s.putLog bytes).pc = s.pc ∧
      (s.putLog bytes).stdout = s.stdout ∧ (s.putLog bytes).stderr = s.stderr ∧
      (s.putLog bytes).log = s.log := by
  unfold putLog
  split <;> exact ⟨rfl, rfl, rfl, rfl, rfl⟩

theorem Exclusive.alone {t x : τ} (h : s.Exclusive) (ht : (s.pc t).holds = true)
    (hx : (s.pc x).holds = true) : x = t :=
  Option.some.inj (((h x).mp hx).symm.trans ((h t).mp ht))

theorem start_exclusive : (start : Logger τ).Exclusive := fun _ => by
  simp [start, LoggerPc.holds, Monitor.free]

end Fields

section Excluding

variable [DecidableEq τ] {s s' : Logger τ} {t : τ} {a : LoggerAction} {pc : LoggerPc}

theorem holds_update (pcs : τ → LoggerPc) : (fun x => (Function.update pcs t pc x).holds) =
    Function.update (fun x => (pcs x).holds) t pc.holds := by
  funext x
  by_cases hx : x = t
  · subst hx
    simp
  · simp [Function.update_of_ne hx]

theorem Exclusive.goto (h : s.Exclusive) (hmutex : s'.mutex = s.mutex) (hpc : s'.pc = s.pc)
    (hholds : pc.holds = (s.pc t).holds) : (s'.goto t pc).Exclusive := by
  show s'.mutex.Owned fun x => (Function.update s'.pc t pc x).holds
  rw [hmutex, hpc, holds_update]
  exact h.move hholds

theorem Exclusive.threadStep (h : s.Exclusive) (hs : s.threadStep t a = some s') : s'.Exclusive := by
  cases moves_of_threadStep hs with
  | quiet _ _ pc same place outside outside' =>
    show s'.mutex.Owned fun x => (s'.pc x).holds
    rw [same.mutex, place, holds_update]
    exact h.move (outside'.trans outside.symm)
  | locked pc mutex lock _ inside =>
    obtain ⟨hfree, rfl⟩ := Monitor.lock_eq_some.mp lock
    show Monitor.Owned _ fun x => (Function.update s.pc t pc x).holds
    rw [holds_update, inside]
    exact Monitor.Owned.acquire h hfree _
  | unlocked pc mutex unlock _ _ outside =>
    obtain ⟨howner, rfl⟩ := Monitor.unlock_eq_some.mp unlock
    show Monitor.Owned _ fun x => (Function.update s.pc t pc x).holds
    rw [holds_update, outside]
    exact Monitor.Owned.release h howner _
  | closed pc inside inside' =>
    exact h.goto closeLog_unwritten.mutex closeLog_unwritten.pc (inside'.trans inside.symm)
  | opened descriptor s₁ place opens =>
    have hsame := openLog_unwritten opens
    exact h.goto hsame.mutex hsame.pc (by rw [place]; rfl)
  | console call time count place =>
    obtain ⟨hmutex, hpc, -⟩ := putConsole_same (s := s) call.level ((call.finalMessage time).take count)
    exact h.goto hmutex hpc (by rw [place]; rfl)
  | noConsole call time count place => exact h.goto rfl rfl (by rw [place]; rfl)
  | file call time console count place =>
    obtain ⟨hmutex, hpc, -⟩ := putLog_same (s := s) ((call.finalMessage time).take count)
    have hrecorded (entry : Logged) :
        ((s.putLog ((call.finalMessage time).take count)).record entry).mutex = s.mutex := hmutex
    exact h.goto (hrecorded _) hpc (by rw [place]; rfl)

end Excluding

-- ---------------------------------------------------------------------------
-- The log file
-- ---------------------------------------------------------------------------

/-- The logger has one descriptor open or none, and that is `log_fd`. -/
structure Owns (s : Logger τ) : Prop where
  files : s.files.Sound
  mutex : s.Exclusive
  logFd : ∀ d, s.logFd = some d → ∃ i ∈ s.opened, s.files.opening d = some i
  single : ∀ d, ∀ i ∈ s.opened, s.files.opening d = some i → s.logFd = some d
  opened : ∀ i ∈ s.opened, i < s.files.openings
  opening : ∀ t, s.pc t = .initOpen → s.logFd = none
  written : ∀ i, s.file i ≠ [] → i ∈ s.opened

/-- The rest of the program closes no descriptor of the logger's. -/
def Apart (s : Logger τ) : LoggerEvent τ → Prop
  | .otherClose d => ∀ i ∈ s.opened, s.files.opening d ≠ some i
  | _ => True

instance (s : Logger τ) : (e : LoggerEvent τ) → Decidable (s.Apart e)
  | .otherClose d => inferInstanceAs (Decidable (∀ i ∈ s.opened, s.files.opening d ≠ some i))
  | .thread .. | .otherOpen _ => .isTrue trivial

section Owned

variable {s s' : Logger τ} {t : τ}

theorem Owns.frame (h : s.Owns) (hfiles : s'.files = s.files) (hlogFd : s'.logFd = s.logFd)
    (hopened : s'.opened = s.opened) (hfile : s'.file = s.file)
    (hmutex : s'.Exclusive) (hopening : ∀ t, s'.pc t = .initOpen → s'.logFd = none) :
    s'.Owns where
  files := hfiles ▸ h.files
  mutex := hmutex
  logFd := by
    rw [hlogFd, hopened, hfiles]
    exact h.logFd
  single := by
    rw [hlogFd, hopened, hfiles]
    exact h.single
  opened := by
    rw [hopened, hfiles]
    exact h.opened
  opening := hopening
  written := by
    rw [hfile, hopened]
    exact h.written

theorem Owns.putLog (h : s.Owns) (bytes : Text) (entry : Logged) :
    ((s.putLog bytes).record entry).Owns := by
  cases hopen : s.logFd.bind s.files.opening with
  | none =>
    have hsame : s.putLog bytes = s := by simp [Logger.putLog, hopen]
    rw [hsame]
    exact h.frame rfl rfl rfl rfl h.mutex h.opening
  | some i =>
    obtain ⟨d, hd, hi⟩ := Option.bind_eq_some_iff.mp hopen
    obtain ⟨j, hj, hjopen⟩ := h.logFd d hd
    obtain rfl : i = j := Option.some.inj (hi.symm.trans hjopen)
    have hput : s.putLog bytes =
        { s with file := Function.update s.file i (s.file i ++ bytes) } := by
      simp [Logger.putLog, hopen]
    rw [hput]
    refine ⟨h.files, h.mutex, h.logFd, h.single, h.opened, h.opening, fun k hk => ?_⟩
    by_cases hki : k = i
    · exact hki ▸ hj
    · have hk' : s.file k ≠ [] := by
        simpa [record, Function.update_of_ne hki] using hk
      exact h.written k hk'

theorem Owns.putConsole (h : s.Owns) (level : LogLevel) (bytes : Text) :
    (s.putConsole level bytes).Owns := by
  unfold Logger.putConsole
  split
  · exact h.frame rfl rfl rfl rfl h.mutex h.opening
  · exact h.frame rfl rfl rfl rfl h.mutex h.opening

theorem start_owns : (start : Logger τ).Owns where
  files := .empty
  mutex := start_exclusive
  logFd _ h := nomatch h
  single _ _ h := nomatch h
  opened _ h := nomatch h
  opening _ _ := rfl
  written _ h := absurd rfl h

end Owned

section Owning

variable [DecidableEq τ] {s s' : Logger τ} {t : τ} {a : LoggerAction} {e : LoggerEvent τ} {pc : LoggerPc}

theorem Owns.opening_update (h : s.Owns) (hpc : pc ≠ .initOpen) {x : τ}
    (hx : Function.update s.pc t pc x = .initOpen) : s.logFd = none := by
  by_cases hxt : x = t
  · subst hxt
    rw [Function.update_self] at hx
    exact absurd hx hpc
  · rw [Function.update_of_ne hxt] at hx
    exact h.opening x hx

theorem Owns.goto (h : s.Owns) (hholds : pc.holds = (s.pc t).holds) (hne : pc ≠ .initOpen) :
    (s.goto t pc).Owns := by
  exact h.frame rfl rfl rfl rfl (h.mutex.goto rfl rfl hholds) fun _ hx => h.opening_update hne hx

theorem Owns.closeLog (h : s.Owns) (hpc : pc.holds = (s.pc t).holds) : (s.closeLog.goto t pc).Owns := by
  have hmutex := h.mutex.goto closeLog_unwritten.mutex closeLog_unwritten.pc hpc
  cases hlogFd : s.logFd with
  | none =>
    have hsame : s.closeLog = s := by simp [Logger.closeLog, hlogFd]
    rw [hsame] at hmutex ⊢
    exact h.frame rfl rfl rfl rfl hmutex fun _ _ => hlogFd
  | some d =>
    have hclosed : s.closeLog = { s with files := s.files.close d, logFd := none } := by
      simp [Logger.closeLog, hlogFd]
    obtain ⟨i, hi, hopen⟩ := h.logFd d hlogFd
    rw [hclosed] at hmutex ⊢
    refine ⟨h.files.close hopen, hmutex, nofun, fun x j hj hx => ?_, fun j hj => ?_, fun _ _ => rfl,
      h.written⟩
    · -- the only descriptor of the logger's is closed
      obtain ⟨hold, hne⟩ := FileTable.opening_of_close hx
      have hsame := hlogFd.symm.trans (h.single x j hj hold)
      exact absurd (Option.some.inj hsame).symm hne
    · show j < (s.files.close d).openings
      rw [FileTable.openings_close]
      exact h.opened j hj

theorem Owns.openLog {descriptor : Option Nat} (h : s.Owns) (hpc : s.pc t = .initOpen)
    (hs : s.openLog descriptor = some s') : (s'.goto t .initUnlock).Owns := by
  have hholds : (s.pc t).holds = true := by rw [hpc]; rfl
  have hmutex : (s'.goto t .initUnlock).Exclusive :=
    h.mutex.goto (openLog_unwritten hs).mutex (openLog_unwritten hs).pc hholds.symm
  have hnone := h.opening t hpc
  have halone : ∀ x, Function.update s.pc t .initUnlock x ≠ .initOpen := by
    intro x hx
    by_cases hxt : x = t
    · subst hxt
      rw [Function.update_self] at hx
      cases hx
    · rw [Function.update_of_ne hxt] at hx
      exact hxt (h.mutex.alone hholds (by rw [hx]; rfl))
  cases descriptor with
  | none =>
    cases hs
    exact h.frame rfl hnone.symm rfl rfl hmutex fun _ _ => rfl
  | some d =>
    simp only [Logger.openLog] at hs
    split at hs
    · cases hs
    · rename_i hfree
      cases hs
      refine ⟨h.files.allocate hfree, hmutex, ?_, ?_, ?_, fun x hx => absurd hx (halone x), fun i hi =>
        List.mem_cons_of_mem _ (h.written i hi)⟩
      · rintro _ ⟨⟩
        exact ⟨_, List.mem_cons_self, (h.files.opening_allocate d d).trans (if_pos rfl)⟩
      · intro x i hi hx
        rw [Logger.goto, h.files.opening_allocate] at hx
        split at hx
        · rename_i heq
          rw [heq]
          rfl
        · rcases List.mem_cons.mp hi with rfl | hi
          · exact absurd (h.files.opening_lt hx) (Nat.lt_irrefl _)
          · exact absurd (h.single x i hi hx) (by simp [hnone])
      · intro i hi
        rcases List.mem_cons.mp hi with rfl | hi
        · exact Nat.lt_succ_self _
        · exact Nat.lt_succ_of_lt (h.opened i hi)

theorem Owns.threadStep (h : s.Owns) (hs : s.threadStep t a = some s') : s'.Owns := by
  have hmutex := h.mutex.threadStep hs
  cases moves_of_threadStep hs with
  | quiet _ _ pc same place _ outside =>
    refine h.frame same.files same.logFd same.opened same.file hmutex fun x hx => ?_
    rw [place] at hx
    rw [same.logFd]
    refine h.opening_update ?_ hx
    rintro rfl
    cases outside
  | locked pc mutex lock _ _ closing =>
    exact h.frame rfl rfl rfl rfl hmutex fun x hx => h.opening_update closing hx
  | unlocked pc mutex unlock _ _ outside =>
    refine h.frame rfl rfl rfl rfl hmutex fun x hx => h.opening_update ?_ hx
    rintro rfl
    cases outside
  | closed pc inside inside' => exact h.closeLog (inside'.trans inside.symm)
  | opened descriptor s₁ place opens => exact h.openLog place opens
  | console call time count place =>
    refine (h.putConsole _ _).goto ?_ nofun
    rw [(putConsole_same _ _).2.1, place]
    rfl
  | noConsole call time count place => exact h.goto (by rw [place]; rfl) nofun
  | file call time console count place =>
    refine (h.putLog _ _).goto ?_ nofun
    show LoggerPc.holds .writeUnlock = ((s.putLog _).pc t).holds
    rw [(putLog_same _).2.1, place]
    rfl

theorem Owns.step (h : s.Owns) (hapart : s.Apart e) (hs : s.step e = some s') : s'.Owns := by
  cases e with
  | thread t a => exact h.threadStep hs
  | otherOpen d =>
    simp only [Logger.step] at hs
    split at hs
    · cases hs
    · rename_i hfree
      cases hs
      refine ⟨h.files.allocate hfree, h.mutex, fun x hx => ?_, fun x i hi hx => ?_, fun i hi =>
        Nat.lt_succ_of_lt (h.opened i hi), h.opening, h.written⟩
      · obtain ⟨i, hi, hopen⟩ := h.logFd x hx
        refine ⟨i, hi, ?_⟩
        rw [h.files.opening_allocate, if_neg]
        · exact hopen
        · rintro rfl
          rw [hfree] at hopen
          cases hopen
      · rw [h.files.opening_allocate] at hx
        split at hx
        · cases hx
          exact absurd (h.opened _ hi) (Nat.lt_irrefl _)
        · exact h.single x i hi hx
  | otherClose d =>
    simp only [Logger.step] at hs
    split at hs
    · rename_i j hopen
      cases hs
      refine ⟨h.files.close hopen, h.mutex, fun x hx => ?_, fun x i hi hx => ?_, fun i hi => ?_,
        h.opening, h.written⟩
      · obtain ⟨i, hi, hiopen⟩ := h.logFd x hx
        refine ⟨i, hi, ?_⟩
        rw [h.files.opening_close hopen, if_neg]
        · exact hiopen
        · rintro rfl
          exact hapart i hi hiopen
      · exact h.single x i hi (FileTable.opening_of_close hx).1
      · show i < (s.files.close d).openings
        rw [FileTable.openings_close]
        exact h.opened i hi
    · cases hs
      exact h

end Owning

/-- `log_fd` is the one opening of the log file that is not closed, and nothing is written to
any other file of the process. -/
theorem log_file_owned [DecidableEq τ] (events : List (LoggerEvent τ)) (s : Logger τ)
    (hr : run step start events = some s)
    (hapart : Along step Apart start events) :
    (∀ d, s.logFd = some d → ∃ i ∈ s.opened, s.files.opening d = some i) ∧
    (∀ i ∈ s.opened, s.logFd = some (s.files.number i) ∧
      s.files.opening (s.files.number i) = some i ∨ s.files.closes i = 1) ∧
    ∀ i, s.file i ≠ [] → i ∈ s.opened := by
  have h : s.Owns := Runs.invariant_along (I := Owns) (fun _ _ _ h ha hs => h.step ha hs) start_owns hr
    hapart
  refine ⟨h.logFd, fun i hi => ?_, h.written⟩
  rcases h.files.closes i (h.opened i hi) with hopen | hclosed
  · exact .inl ⟨h.single _ i hi hopen, hopen⟩
  · exact .inr hclosed

def initEvents (console : Bool) (descriptor : Nat) : List (LoggerEvent Nat) :=
  [.init true console, .next, .next, .openFile (some descriptor), .next, .next].map (.thread 0)

/-- The log file is opened, another file next to it, and the log file again. -/
def reopenedEvents : List (LoggerEvent Nat) :=
  initEvents false 3 ++ [.otherOpen 4] ++ initEvents false 3 ++ [.otherClose 4]

def reopenedLog : Logger Nat := (run step start reopenedEvents).get (by decide +kernel)

theorem log_file_owned_reopened : reopenedLog.opened = [2, 0] ∧
    ∀ i ∈ reopenedLog.opened, reopenedLog.logFd = some (reopenedLog.files.number i) ∧
      reopenedLog.files.opening (reopenedLog.files.number i) = some i ∨
        reopenedLog.files.closes i = 1 :=
  ⟨by decide +kernel, (log_file_owned reopenedEvents reopenedLog (Option.some_get _).symm
    (by decide +kernel)).2.1⟩

end Logger

end ParkingSystem
