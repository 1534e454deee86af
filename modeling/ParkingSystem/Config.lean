import Mathlib.Data.List.DropRight
import ParkingSystem.Lib.CString
import ParkingSystem.Protocol

/-!
# The Config library

`config.c`. A file is its bytes; `fgets` cuts it into the pieces that `config_load`
takes for lines. A `config_t` is the list of the entries that are in use.
-/

namespace ParkingSystem

def configMaxEntries : Nat := 100
def configMaxKeyLength : Nat := 64
def configMaxValueLength : Nat := 256
def configLineMaxLength : Nat := 512

/-- Two `char` arrays, each with its terminator. -/
structure ConfigEntry where
  key : Text
  value : Text
  key_length : key.length < configMaxKeyLength
  value_length : value.length < configMaxValueLength
  deriving DecidableEq

structure Config where
  entries : List ConfigEntry
  count_le : entries.length ≤ configMaxEntries
  deriving DecidableEq

def isBlank (b : UInt8) : Bool := b = 32 || b = 9 || b = 10 || b = 13

def configTrim (str : Text) : Text := (str.dropWhile isBlank).rdropWhile isBlank

/-- `strncpy` of `size - 1` bytes into an array whose last byte is 0. -/
def strncpy (size : Nat) (text : Text) : Text := text.take (size - 1)

theorem length_strncpy_lt {size : Nat} (text : Text) (h : 0 < size) :
    (strncpy size text).length < size := by
  rw [strncpy, List.length_take]
  omega

-- ---------------------------------------------------------------------------
-- Loading
-- ---------------------------------------------------------------------------

/-- What the loop body of `config_load` makes of one line: key and value, or
nothing for a line that it skips. -/
def configLine (line : List UInt8) : Option (Text × Text) :=
  let trimmed := configTrim (CString.read line)
  if trimmed.head? = none ∨ trimmed.head? = some 35 ∨ trimmed.head? = some 59 then none
  else if 61 ∉ trimmed then none
  else
    let key := configTrim (trimmed.takeWhile (· ≠ 61))
    let value := configTrim ((trimmed.dropWhile (· ≠ 61)).drop 1)
    if key = [] ∨ value = [] then none else some (key, value)

def configEntry (key value : Text) : ConfigEntry where
  key := strncpy configMaxKeyLength key
  value := strncpy configMaxValueLength value
  key_length := length_strncpy_lt key (by decide)
  value_length := length_strncpy_lt value (by decide)

def configLoadLines (config : Config) : List (List UInt8) → Option Config
  | [] => some config
  | line :: lines =>
    match configLine line with
    | none => configLoadLines config lines
    | some (key, value) =>
      if h : config.entries.length < configMaxEntries then
        configLoadLines
          ⟨config.entries ++ [configEntry key value], by simpa using Nat.succ_le_of_lt h⟩ lines
      else none

/-- On the bytes of the file, or `none` when it cannot be opened. -/
def configLoad (file : Option (List UInt8)) : Option Config :=
  file.bind fun bytes =>
    configLoadLines ⟨[], Nat.zero_le _⟩ (CString.fgetsLines configLineMaxLength [] bytes)

def entriesOf (reads : List (List UInt8)) : List ConfigEntry :=
  (reads.filterMap configLine).map fun setting => configEntry setting.1 setting.2

def fileEntries (file : List UInt8) : List ConfigEntry :=
  entriesOf (CString.fgetsLines configLineMaxLength [] file)

def Config.firstOf (entries : List ConfigEntry) : Config :=
  ⟨entries.take configMaxEntries, by simp [List.length_take]⟩

theorem entriesOf_cons_none {read : List UInt8} {reads : List (List UInt8)}
    (h : configLine read = none) : entriesOf (read :: reads) = entriesOf reads := by
  simp [entriesOf, h]

theorem entriesOf_cons_some {read : List UInt8} {reads : List (List UInt8)} {key value : Text}
    (h : configLine read = some (key, value)) :
    entriesOf (read :: reads) = configEntry key value :: entriesOf reads := by
  simp [entriesOf, h]

theorem separator_takeWhile {left right : Text} (h : 61 ∉ left) :
    (left ++ 61 :: right).takeWhile (· ≠ 61) = left := by
  rw [List.takeWhile_append_of_pos (by simpa using fun b hb => ne_of_mem_of_not_mem hb h)]
  simp

theorem separator_dropWhile {left right : Text} (h : 61 ∉ left) :
    ((left ++ 61 :: right).dropWhile (· ≠ 61)).drop 1 = right := by
  rw [List.dropWhile_append_of_pos (by simpa using fun b hb => ne_of_mem_of_not_mem hb h)]
  simp

theorem configLine_read (line : List UInt8) : configLine (CString.read line) = configLine line := by
  rw [configLine, CString.read_of_not_mem CString.not_mem_read]
  rfl

theorem configLoadLines_eq (config : Config) (reads : List (List UInt8)) :
    configLoadLines config reads =
      if h : (config.entries ++ entriesOf reads).length ≤ configMaxEntries then
        some ⟨config.entries ++ entriesOf reads, h⟩
      else none := by
  induction reads generalizing config with
  | nil =>
    have hall : (config.entries ++ entriesOf []).length ≤ configMaxEntries := by
      simpa [entriesOf] using config.count_le
    rw [dif_pos hall]
    simp [configLoadLines, entriesOf]
  | cons read reads ih =>
    cases hsetting : configLine read with
    | none => simp only [configLoadLines, hsetting, ih, entriesOf_cons_none hsetting]
    | some setting =>
      obtain ⟨key, value⟩ := setting
      simp only [configLoadLines, hsetting, entriesOf_cons_some hsetting]
      by_cases hroom : config.entries.length < configMaxEntries
      · rw [dif_pos hroom, ih]
        simp only [List.append_assoc, List.singleton_append]
      · rw [dif_neg hroom, dif_neg]
        rw [List.length_append, List.length_cons]
        omega

/-- A file is loaded when its entries are at most a hundred, and then they all are. -/
theorem configLoad_eq (file : List UInt8) : configLoad (some file) =
    if h : (fileEntries file).length ≤ configMaxEntries then some ⟨fileEntries file, h⟩ else none :=
  configLoadLines_eq ⟨[], Nat.zero_le _⟩ _

-- ---------------------------------------------------------------------------
-- Lookup
-- ---------------------------------------------------------------------------

section Lookup

variable (config : Config) (key : Text)

def configFindEntry : Option ConfigEntry := config.entries.find? fun e => e.key = key

/-- A `const char *`, `none` being the null pointer. -/
def configGetString (default : Option Text) : Option Text :=
  match configFindEntry config key with
  | none => default
  | some e => some e.value

/-- `(int)value` keeps the low 32 bits. -/
def configGetInt (default : Int) : Int :=
  match configFindEntry config key with
  | none => default
  | some e =>
    let number := CString.strtol e.value
    if number.outOfRange ∨ number.rest ≠ [] then default else number.value.bmod (2 ^ 32)

end Lookup

end ParkingSystem
