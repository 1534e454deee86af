import ParkingSystem.SharedConfiguration

/-!
# Integer settings

A number goes through a `long`, an `int` and, for a port, a `std::uint16_t`. Only the
first step reports what does not fit: `integer_settings_iff` says for which files the
programs come out with the number that the file has, or with their default.
-/

namespace ParkingSystem

open CString (ofString integerValue isSpace)

-- ---------------------------------------------------------------------------
-- The BBG client
-- ---------------------------------------------------------------------------

def bbgClientIpv4AddressSize : Nat := 16
def bbgClientFilePathSize : Nat := 256

structure BbgClientConfiguration where
  serverAddress : Text
  serverPort : Nat
  tcpLogFile : Text
  i2cLogFile : Text
  consoleLogging : Int

/-- `none` would be a null pointer for `strncpy`. -/
def loadBbgClientConfiguration (config : Config) : Option BbgClientConfiguration := do
  let serverAddress ← configGetString config (ofString "server_address")
    (some (ofString "127.0.0.1"))
  let tcpLogFile ← configGetString config (ofString "tcp_log_file")
    (some (ofString "../Logs/bbg_tcp.log"))
  let i2cLogFile ← configGetString config (ofString "i2c_log_file")
    (some (ofString "../Logs/bbg_i2c.log"))
  return {
    serverAddress := strncpy bbgClientIpv4AddressSize serverAddress
    -- the cast to `uint16_t`
    serverPort := (configGetInt config (ofString "server_port") 5000 % 2 ^ 16).toNat
    tcpLogFile := strncpy bbgClientFilePathSize tcpLogFile
    i2cLogFile := strncpy bbgClientFilePathSize i2cLogFile
    consoleLogging := configGetInt config (ofString "console_logging") 1 }

def bbgClientLoadConfiguration (file : Option (List UInt8)) : Option BbgClientConfiguration :=
  (configLoad file).bind loadBbgClientConfiguration

-- ---------------------------------------------------------------------------
-- Settings
-- ---------------------------------------------------------------------------

def intValue (text : Text) : Option Int :=
  (integerValue text).filter fun n => -2 ^ 31 ≤ n ∧ n < 2 ^ 31

def longValue (text : Text) : Option Int :=
  (integerValue (text.dropWhile isSpace)).filter fun n => -2 ^ 63 ≤ n ∧ n < 2 ^ 63

section Settings

variable (config : Config) (key : Text)

def Config.text : Option Text := (configFindEntry config key).map ConfigEntry.value

/-- What the file says, or the default where it says nothing that is an `int`. -/
def Config.setting (default : Int) : Int := ((config.text key).bind intValue).getD default

def Config.SetsPort (default : Int) (port : Nat) : Prop :=
  (config.text key).bind intValue = some (port : Int) ∨ port = default

end Settings

structure IntegerSettings (file : Option (List UInt8)) (key : Text) (default : Int) : Prop where
  value : ∀ config, configLoad file = some config →
    configGetInt config key default = config.setting key default
  serverPort : ∀ config server, configLoad file = some config →
    tcpServerLoadConfiguration file = some server →
    config.SetsPort (ofString "TCP_SERVER_PORT") defaultTcpServerPort server.serverPort
  clientPort : ∀ config client, configLoad file = some config →
    bbgClientLoadConfiguration file = some client →
    config.SetsPort (ofString "server_port") 5000 client.serverPort

/-- A number that is no `int`, and that the text has all the same, is cut down to the default. -/
def NarrowsToDefault (text : Text) (default : Int) : Prop :=
  ∀ n, longValue text = some n → intValue text = none → n.bmod (2 ^ 32) = default

/-- The number is a port, or is cut down to the default one. -/
def NarrowsToPort (text : Text) (default : Int) : Prop :=
  ∀ n, longValue text = some n → (intValue text = some n ∧ 0 ≤ n ∧ n < 2 ^ 16) ∨ n % 2 ^ 16 = default

-- ---------------------------------------------------------------------------
-- What comes out
-- ---------------------------------------------------------------------------

section Exactness

variable {config : Config} {key text : Text} {file : Option (List UInt8)} {n default : Int}

theorem intValue_eq_some : intValue text = some n ↔
    integerValue text = some n ∧ -2 ^ 31 ≤ n ∧ n < 2 ^ 31 := by
  simp [intValue, Option.filter_eq_some_iff]

theorem longValue_eq_some : longValue text = some n ↔
    integerValue (text.dropWhile isSpace) = some n ∧ -2 ^ 63 ≤ n ∧ n < 2 ^ 63 := by
  simp [longValue, Option.filter_eq_some_iff]

theorem longValue_of_intValue (h : intValue text = some n) : longValue text = some n := by
  obtain ⟨hvalue, hlow, hhigh⟩ := intValue_eq_some.mp h
  apply longValue_eq_some.mpr
  rw [CString.integerValue_space (by simp [hvalue])]
  exact ⟨hvalue, by omega, by omega⟩

theorem text_ne_nil (hload : configLoad file = some config) (h : config.text key = some text) :
    text ≠ [] := by
  obtain ⟨e, hfind, rfl⟩ := Option.map_eq_some_iff.mp h
  obtain ⟨bytes, rfl, hbytes⟩ := Option.bind_eq_some_iff.mp hload
  have hload' : configLoad (some bytes) = some config := hbytes
  rw [configLoad_eq] at hload'
  split at hload'
  · cases hload'
    have hmem : e ∈ fileEntries bytes := List.mem_of_find?_eq_some hfind
    rw [fileEntries, entriesOf] at hmem
    obtain ⟨⟨k, value⟩, hsetting, rfl⟩ := List.mem_map.mp hmem
    obtain ⟨line, -, hline⟩ := List.mem_filterMap.mp hsetting
    have hvalue : value ≠ [] := by
      simp only [configLine] at hline
      split at hline
      · cases hline
      split at hline
      · cases hline
      split at hline
      · cases hline
      rename_i hempty
      cases hline
      exact (not_or.mp hempty).2
    cases value with
    | nil => exact absurd rfl hvalue
    | cons b value => exact List.cons_ne_nil _ _
  · cases hload'

theorem configGetInt_of_text (h : config.text key = some text) (hne : text ≠ []) :
    configGetInt config key default = (longValue text).elim default fun n => n.bmod (2 ^ 32) := by
  obtain ⟨e, hfind, rfl⟩ := Option.map_eq_some_iff.mp h
  rw [configGetInt, hfind]
  cases hlong : longValue e.value with
  | none =>
    apply if_pos
    by_contra haccepted
    obtain ⟨hrange, hrest⟩ := not_or.mp haccepted
    have hvalue := (CString.strtol_iff hne).mp
      ⟨eq_false_of_ne_true hrange, not_not.mp hrest, rfl⟩
    rw [longValue_eq_some.mpr hvalue] at hlong
    cases hlong
  | some n =>
    obtain ⟨hrange, hrest, rfl⟩ := (CString.strtol_iff hne).mpr (longValue_eq_some.mp hlong)
    apply if_neg
    simp [hrange, hrest]

theorem configGetInt_of_missing (h : config.text key = none) :
    configGetInt config key default = default := by
  rw [configGetInt, Option.map_eq_none_iff.mp h]

theorem configGetInt_iff (hload : configLoad file = some config) :
    configGetInt config key default = config.setting key default ↔
      ∀ text, config.text key = some text → NarrowsToDefault text default := by
  rw [Config.setting]
  cases htext : config.text key with
  | none => simp [configGetInt_of_missing htext]
  | some text =>
    rw [configGetInt_of_text htext (text_ne_nil hload htext), Option.bind_some]
    simp only [Option.some.injEq, forall_eq', NarrowsToDefault]
    cases hlong : longValue text with
    | none =>
      have hint : intValue text = none := by
        by_contra hne
        obtain ⟨n, hn⟩ := Option.ne_none_iff_exists'.mp hne
        rw [longValue_of_intValue hn] at hlong
        cases hlong
      simp [hint]
    | some n =>
      cases hint : intValue text with
      | none => simp
      | some m =>
        obtain rfl : n = m := by simpa [hlong] using longValue_of_intValue hint
        obtain ⟨-, hlow, hhigh⟩ := intValue_eq_some.mp hint
        have hbmod : n.bmod (2 ^ 32) = n := by
          apply Int.bmod_eq_of_le <;> omega
        simpa using hbmod

theorem setsPort_iff (hload : configLoad file = some config) (hdefault : 0 ≤ default ∧ default < 2 ^ 16) :
    config.SetsPort key default (configGetInt config key default % 2 ^ 16).toNat ↔
      ∀ text, config.text key = some text → NarrowsToPort text default := by
  have hport : ∀ n : Int, ((n % 2 ^ 16).toNat : Int) = n % 2 ^ 16 := by
    intro n
    omega
  rw [Config.SetsPort, hport]
  cases htext : config.text key with
  | none =>
    rw [configGetInt_of_missing htext]
    simp
    omega
  | some text =>
    rw [configGetInt_of_text htext (text_ne_nil hload htext), Option.bind_some]
    simp only [Option.some.injEq, forall_eq', NarrowsToPort]
    cases hlong : longValue text with
    | none =>
      simp
      omega
    | some n =>
      have hcut : n.bmod (2 ^ 32) % 2 ^ 16 = n % 2 ^ 16 := by
        have hdvd : (2 ^ 16 : Int) ∣ (2 ^ 32 : Nat) := by decide
        rw [← Int.emod_emod_of_dvd _ hdvd, Int.bmod_emod, Int.emod_emod_of_dvd _ hdvd]
      simp only [Option.elim_some, hcut, Option.some.injEq, forall_eq']
      constructor
      · rintro (hint | hint)
        · have heq := longValue_of_intValue hint
          rw [hlong] at heq
          have heq' := Option.some.inj heq
          left
          refine ⟨by rw [← heq'] at hint; exact hint, ?_, ?_⟩ <;> omega
        · exact .inr hint
      · rintro (⟨hint, hlow, hhigh⟩ | hint)
        · rw [Int.emod_eq_of_lt hlow hhigh]
          exact .inl hint
        · exact .inr hint

theorem tcpServerLoadConfiguration_serverPort (hload : configLoad file = some config) :
    (tcpServerLoadConfiguration file).map (·.serverPort) = some
      (configGetInt config (ofString "TCP_SERVER_PORT") defaultTcpServerPort % 2 ^ 16).toNat := by
  simp [tcpServerLoadConfiguration, hload]

theorem bbgClientLoadConfiguration_serverPort (hload : configLoad file = some config) :
    (bbgClientLoadConfiguration file).map (·.serverPort) = some
      (configGetInt config (ofString "server_port") 5000 % 2 ^ 16).toNat := by
  have hfound : ∀ name text : Text, ∃ value, configGetString config name (some text) = some value := by
    intro name text
    rw [configGetString]
    cases configFindEntry config name with
    | none => exact ⟨_, rfl⟩
    | some e => exact ⟨_, rfl⟩
  obtain ⟨address, haddress⟩ := hfound (ofString "server_address") (ofString "127.0.0.1")
  obtain ⟨tcp, htcp⟩ := hfound (ofString "tcp_log_file") (ofString "../Logs/bbg_tcp.log")
  obtain ⟨i2c, hi2c⟩ := hfound (ofString "i2c_log_file") (ofString "../Logs/bbg_i2c.log")
  simp [bbgClientLoadConfiguration, hload, loadBbgClientConfiguration, haddress, htcp, hi2c]

end Exactness

/-- A setting comes out as it stands, or as its default, exactly when what is cut off does
not matter. -/
theorem integer_settings_iff (file : Option (List UInt8)) (key : Text) (default : Int) :
    IntegerSettings file key default ↔ ∀ config, configLoad file = some config →
      (∀ text, config.text key = some text → NarrowsToDefault text default) ∧
      (∀ text, config.text (ofString "TCP_SERVER_PORT") = some text → NarrowsToPort text 5000) ∧
      ∀ text, config.text (ofString "server_port") = some text → NarrowsToPort text 5000 := by
  have hdefault : (0 : Int) ≤ 5000 ∧ (5000 : Int) < 2 ^ 16 := by decide
  constructor
  · intro h config hload
    obtain ⟨server, hserver, hport⟩ :=
      Option.map_eq_some_iff.mp (tcpServerLoadConfiguration_serverPort hload)
    obtain ⟨client, hclient, hport'⟩ :=
      Option.map_eq_some_iff.mp (bbgClientLoadConfiguration_serverPort hload)
    refine ⟨(configGetInt_iff hload).mp (h.value config hload), ?_, ?_⟩
    · apply (setsPort_iff hload hdefault).mp
      have hsets := h.serverPort config server hload hserver
      rwa [hport] at hsets
    · apply (setsPort_iff hload hdefault).mp
      have hsets := h.clientPort config client hload hclient
      rwa [hport'] at hsets
  · intro h
    refine ⟨?_, ?_, ?_⟩
    · intro config hload
      exact (configGetInt_iff hload).mpr (h config hload).1
    · intro config server hload hserver
      have hport := tcpServerLoadConfiguration_serverPort hload
      rw [hserver, Option.map_some] at hport
      rw [Option.some.inj hport]
      exact (setsPort_iff hload hdefault).mpr (h config hload).2.1
    · intro config client hload hclient
      have hport := bbgClientLoadConfiguration_serverPort hload
      rw [hclient, Option.map_some] at hport
      rw [Option.some.inj hport]
      exact (setsPort_iff hload hdefault).mpr (h config hload).2.2

/-- The server listens on 4464 and says nothing. -/
def largePort : List UInt8 := ofString "TCP_SERVER_PORT=70000\nBACKLOG=4294967297\n"

theorem integer_settings_not_exact :
    (configLoad (some largePort)).map (fun config =>
        (configGetInt config (ofString "BACKLOG") 10, config.setting (ofString "BACKLOG") 10)) =
      some (1, 10) ∧
    ¬ IntegerSettings (some largePort) (ofString "TCP_SERVER_PORT") 5000 := by
  refine ⟨by decide +kernel, ?_⟩
  intro h
  have hserver : (tcpServerLoadConfiguration (some largePort)).map (·.serverPort) = some 4464 := by
    decide +kernel
  have hsetting : (configLoad (some largePort)).map
      (fun config => (config.text (ofString "TCP_SERVER_PORT")).bind intValue) =
        some (some 70000) := by decide +kernel
  obtain ⟨server, hloaded, hport⟩ := Option.map_eq_some_iff.mp hserver
  obtain ⟨config, hload, htext⟩ := Option.map_eq_some_iff.mp hsetting
  have hsets := h.serverPort config server hload hloaded
  rw [Config.SetsPort, hport, htext] at hsets
  exact absurd hsets (by decide)

end ParkingSystem
