import ParkingSystem.Config
import ParkingSystem.RequestProcessing

/-!
# One configuration file, three programs

Database, TcpServer and PriceUpdater each read `parking_system.conf` on their own.
They agree on the shared memory key and on the PID file. Database takes the SQLite
file from DATABASE_FILE and PriceUpdater from DATABASE_PATH:
`resources_agree_iff` says for which files they open the same one all the same.
-/

namespace ParkingSystem

open CString (ofString)

-- ---------------------------------------------------------------------------
-- The programs
-- ---------------------------------------------------------------------------

structure DatabaseConfiguration where
  sharedMemoryKey : Int
  databaseFile : Option Text
  pidFile : Option Text
  logFile : Option Text
  enableConsoleLogging : Bool

structure TcpServerConfiguration where
  sharedMemoryKey : Int
  logFile : Option Text
  enableConsoleLogging : Bool
  serverPort : Nat
  listenBacklog : Int

/-- What `initialize` of PriceUpdater leaves: the file it opened and
`database_pid_file_path`. -/
structure PriceUpdaterConfiguration where
  databaseFile : Text
  pidFile : Text

def ipcSharedMemoryKey : Int := 0x1234

def defaultDatabaseFile : Text := ofString "../Database/parking.db"
def defaultDatabasePidFile : Text := ofString "../Database/database.pid"
def defaultDatabaseLogFile : Text := ofString "../Logs/database.log"
def defaultTcpServerLogFile : Text := ofString "../Logs/tcp_server.log"
def defaultTcpServerPort : Int := 5000
def defaultTcpListenBacklog : Int := 10

section Programs

-- the bytes of `parking_system.conf`, `none` when it cannot be opened
variable (file : Option (List UInt8))

def databaseLoadConfiguration : Option DatabaseConfiguration := do
  let config ← configLoad file
  return {
    sharedMemoryKey := configGetInt config (ofString "IPC_SHARED_MEMORY_KEY") ipcSharedMemoryKey
    databaseFile := configGetString config (ofString "DATABASE_FILE") (some defaultDatabaseFile)
    pidFile := configGetString config (ofString "DATABASE_PID_FILE") (some defaultDatabasePidFile)
    logFile := configGetString config (ofString "LOG_FILE") (some defaultDatabaseLogFile)
    enableConsoleLogging := configGetInt config (ofString "ENABLE_CONSOLE_LOGGING") 1 ≠ 0 }

def tcpServerLoadConfiguration : Option TcpServerConfiguration := do
  let config ← configLoad file
  return {
    sharedMemoryKey := configGetInt config (ofString "IPC_SHARED_MEMORY_KEY") ipcSharedMemoryKey
    logFile := configGetString config (ofString "TCP_SERVER_LOG_FILE") (some defaultTcpServerLogFile)
    enableConsoleLogging := configGetInt config (ofString "ENABLE_CONSOLE_LOGGING") 1 ≠ 0
    -- the cast to `std::uint16_t`
    serverPort := (configGetInt config (ofString "TCP_SERVER_PORT") defaultTcpServerPort %
      2 ^ 16).toNat
    listenBacklog := configGetInt config (ofString "TCP_LISTEN_BACKLOG") defaultTcpListenBacklog }

/-- `loggerInit` and `sqliteOpen` say whether those calls succeed. -/
def priceUpdaterInitialize (loggerInit : Text → Int → Bool) (sqliteOpen : Text → Bool) :
    Option PriceUpdaterConfiguration := do
  let config ← configLoad file
  let logFilePath ← configGetString config (ofString "PRICE_UPDATER_LOG_FILE") none
  let consoleLoggingEnabled := configGetInt config (ofString "ENABLE_CONSOLE_LOGGING") 1
  let configuredPidFilePath ← configGetString config (ofString "DATABASE_PID_FILE") none
  if configMaxValueLength ≤ configuredPidFilePath.length then none
  else if !loggerInit logFilePath consoleLoggingEnabled then none
  else
    let databaseFilePath ← configGetString config (ofString "DATABASE_PATH") none
    if !sqliteOpen databaseFilePath then none
    else some ⟨databaseFilePath, snprintf configMaxValueLength configuredPidFilePath⟩

/-- What the programs that load the file share, they name alike. -/
structure ResourcesAgree : Prop where
  databaseFile : ∀ loggerInit sqliteOpen database updater,
    databaseLoadConfiguration file = some database →
    priceUpdaterInitialize file loggerInit sqliteOpen = some updater →
    database.databaseFile = some updater.databaseFile
  pidFile : ∀ loggerInit sqliteOpen database updater,
    databaseLoadConfiguration file = some database →
    priceUpdaterInitialize file loggerInit sqliteOpen = some updater →
    database.pidFile = some updater.pidFile
  sharedMemoryKey : ∀ database server, databaseLoadConfiguration file = some database →
    tcpServerLoadConfiguration file = some server →
    database.sharedMemoryKey = server.sharedMemoryKey

end Programs

/-- PriceUpdater finds the three settings that it does not do without. -/
def Config.Complete (config : Config) : Prop :=
  ∀ key ∈ ["PRICE_UPDATER_LOG_FILE", "DATABASE_PID_FILE", "DATABASE_PATH"],
    configFindEntry config (ofString key) ≠ none

/-- DATABASE_PATH is what Database takes for the SQLite file. -/
def Config.SameDatabase (config : Config) : Prop :=
  configGetString config (ofString "DATABASE_PATH") none =
    configGetString config (ofString "DATABASE_FILE") (some defaultDatabaseFile)

-- ---------------------------------------------------------------------------
-- Agreement
-- ---------------------------------------------------------------------------

section Agreement

variable {config : Config} {key value : Text} {file : Option (List UInt8)}

theorem configGetString_of_found (h : configGetString config key none = some value)
    (default : Option Text) : configGetString config key default = some value := by
  unfold configGetString at h ⊢
  cases hentry : configFindEntry config key with
  | none =>
    rw [hentry] at h
    cases h
  | some e => simpa [hentry] using h

theorem configGetString_found (h : configFindEntry config key ≠ none) :
    ∃ value, configGetString config key none = some value ∧ value.length < configMaxValueLength := by
  obtain ⟨e, he⟩ := Option.ne_none_iff_exists'.mp h
  exact ⟨e.value, by simp [configGetString, he], e.value_length⟩

theorem configFindEntry_ne_none (h : configGetString config key none = some value) :
    configFindEntry config key ≠ none := by
  intro hnone
  simp [configGetString, hnone] at h

theorem databaseLoadConfiguration_files {database : DatabaseConfiguration}
    (h : databaseLoadConfiguration file = some database) : ∃ config, configLoad file = some config ∧
      database.databaseFile =
        configGetString config (ofString "DATABASE_FILE") (some defaultDatabaseFile) ∧
      database.pidFile =
        configGetString config (ofString "DATABASE_PID_FILE") (some defaultDatabasePidFile) := by
  simp only [databaseLoadConfiguration, Option.bind_eq_bind, Option.bind_eq_some_iff] at h
  obtain ⟨config, hload, h⟩ := h
  cases h
  exact ⟨config, hload, rfl, rfl⟩

theorem priceUpdaterInitialize_files {loggerInit : Text → Int → Bool} {sqliteOpen : Text → Bool}
    {updater : PriceUpdaterConfiguration}
    (h : priceUpdaterInitialize file loggerInit sqliteOpen = some updater) :
    ∃ config, configLoad file = some config ∧ config.Complete ∧
      configGetString config (ofString "DATABASE_PATH") none = some updater.databaseFile ∧
      configGetString config (ofString "DATABASE_PID_FILE") none = some updater.pidFile := by
  simp only [priceUpdaterInitialize, Option.bind_eq_bind, Option.bind_eq_some_iff] at h
  obtain ⟨config, hload, logFile, hlog, pidFile, hpid, h⟩ := h
  split at h
  · cases h
  rename_i hfits
  split at h
  · cases h
  obtain ⟨path, hpath, h⟩ := Option.bind_eq_some_iff.mp h
  split at h
  · cases h
  cases h
  refine ⟨config, hload, ?_, hpath, ?_⟩
  · intro name hname
    simp only [List.mem_cons, List.not_mem_nil, or_false] at hname
    rcases hname with rfl | rfl | rfl
    · exact configFindEntry_ne_none hlog
    · exact configFindEntry_ne_none hpid
    · exact configFindEntry_ne_none hpath
  · rw [hpid, snprintf_of_fits (Nat.not_le.mp hfits)]

theorem priceUpdaterInitialize_of_complete (hload : configLoad file = some config)
    (h : config.Complete) :
    ∃ updater, priceUpdaterInitialize file (fun _ _ => true) (fun _ => true) = some updater := by
  obtain ⟨logFile, hlog, -⟩ := configGetString_found (h "PRICE_UPDATER_LOG_FILE" (by simp))
  obtain ⟨pidFile, hpid, hfits⟩ := configGetString_found (h "DATABASE_PID_FILE" (by simp))
  obtain ⟨path, hpath, -⟩ := configGetString_found (h "DATABASE_PATH" (by simp))
  exact ⟨⟨path, snprintf configMaxValueLength pidFile⟩, by
    simp [priceUpdaterInitialize, hload, hlog, hpid, hpath, Nat.not_le.mpr hfits]⟩

theorem pidFiles_agree {loggerInit : Text → Int → Bool} {sqliteOpen : Text → Bool}
    {database : DatabaseConfiguration} {updater : PriceUpdaterConfiguration}
    (hdatabase : databaseLoadConfiguration file = some database)
    (hupdater : priceUpdaterInitialize file loggerInit sqliteOpen = some updater) :
    database.pidFile = some updater.pidFile := by
  obtain ⟨config, hload, -, hpid⟩ := databaseLoadConfiguration_files hdatabase
  obtain ⟨config', hload', -, -, hpid'⟩ := priceUpdaterInitialize_files hupdater
  obtain rfl := Option.some.inj (hload.symm.trans hload')
  rw [hpid, configGetString_of_found hpid']

theorem sharedMemoryKeys_agree {database : DatabaseConfiguration} {server : TcpServerConfiguration}
    (hdatabase : databaseLoadConfiguration file = some database)
    (hserver : tcpServerLoadConfiguration file = some server) :
    database.sharedMemoryKey = server.sharedMemoryKey := by
  simp only [databaseLoadConfiguration, Option.bind_eq_bind, Option.bind_eq_some_iff] at hdatabase
  simp only [tcpServerLoadConfiguration, Option.bind_eq_bind, Option.bind_eq_some_iff] at hserver
  obtain ⟨config, hload, h⟩ := hdatabase
  obtain ⟨config', hload', h'⟩ := hserver
  obtain rfl := Option.some.inj (hload.symm.trans hload')
  cases h
  cases h'
  rfl

theorem resources_agree_iff (file : Option (List UInt8)) : ResourcesAgree file ↔
    ∀ config, configLoad file = some config → config.Complete → config.SameDatabase := by
  constructor
  · intro h config hload hcomplete
    obtain ⟨updater, hupdater⟩ := priceUpdaterInitialize_of_complete hload hcomplete
    obtain ⟨database, hdatabase⟩ : ∃ database, databaseLoadConfiguration file = some database := by
      simp [databaseLoadConfiguration, hload]
    have hsame := h.databaseFile _ _ database updater hdatabase hupdater
    obtain ⟨config', hload', hfile, -⟩ := databaseLoadConfiguration_files hdatabase
    obtain ⟨config'', hload'', -, hpath, -⟩ := priceUpdaterInitialize_files hupdater
    obtain rfl := Option.some.inj (hload.symm.trans hload')
    obtain rfl := Option.some.inj (hload.symm.trans hload'')
    rw [Config.SameDatabase, hpath, ← hfile, hsame]
  · intro h
    refine ⟨?_, fun _ _ _ _ => pidFiles_agree, fun _ _ => sharedMemoryKeys_agree⟩
    intro loggerInit sqliteOpen database updater hdatabase hupdater
    obtain ⟨config, hload, hfile, -⟩ := databaseLoadConfiguration_files hdatabase
    obtain ⟨config', hload', hcomplete, hpath, -⟩ := priceUpdaterInitialize_files hupdater
    obtain rfl := Option.some.inj (hload.symm.trans hload')
    have hsame := h config hload hcomplete
    rw [Config.SameDatabase] at hsame
    rw [hfile, ← hsame, hpath]

end Agreement

/-- A file that moves the SQLite file by the key that the shipped one has for it. -/
def movedConfiguration : List UInt8 :=
  ofString "PRICE_UPDATER_LOG_FILE=l\nDATABASE_PID_FILE=p\nDATABASE_PATH=d\n"

/-- Database opens the default all the same. -/
theorem resources_not_always_agree : ¬ ∀ file, ResourcesAgree file := by
  intro h
  have hdatabase : (databaseLoadConfiguration (some movedConfiguration)).map (·.databaseFile) =
      some (some defaultDatabaseFile) := by decide +kernel
  have hupdater : (priceUpdaterInitialize (some movedConfiguration) (fun _ _ => true)
      fun _ => true).map (·.databaseFile) = some (ofString "d") := by decide +kernel
  obtain ⟨database, hloaded, hfile⟩ := Option.map_eq_some_iff.mp hdatabase
  obtain ⟨updater, hinitialized, hpath⟩ := Option.map_eq_some_iff.mp hupdater
  have hsame := (h _).databaseFile _ _ database updater hloaded hinitialized
  rw [hfile, hpath] at hsame
  exact absurd hsame (by decide)

end ParkingSystem
