import Mathlib.Data.List.OfFn
import ParkingSystem.Config
import ParkingSystem.Lib.CharArray

/-!
# The Config library in place

The functions of `config.c` on the arrays they work on. `config_load` reads each
line into one buffer, trims and cuts it there through pointers, and copies key and
value into the arrays of the `config_t`. `configLoad_refines`: it never leaves its
arrays, and what it stores is what the functions of `Config` say.
-/

namespace ParkingSystem

theorem exists_configTrim (text : Text) : ∃ trailing,
    text = text.takeWhile isBlank ++ (configTrim text ++ trailing) ∧
      ∀ b ∈ trailing, isBlank b = true := by
  refine ⟨(text.dropWhile isBlank).rtakeWhile isBlank, ?_, ?_⟩
  · rw [configTrim, List.rdropWhile_append_rtakeWhile, List.takeWhile_append_dropWhile]
  · exact fun b hb => List.mem_rtakeWhile_imp hb

theorem configTrim_head {text : Text} (h : configTrim text ≠ []) :
    isBlank ((configTrim text).head h) = false := by
  have hstart : configTrim text <+: text.dropWhile isBlank := List.rdropWhile_prefix _ _
  have hne : text.dropWhile isBlank ≠ [] := fun hnil => h (by simp [configTrim, hnil])
  rw [hstart.head h]
  simpa using List.head_dropWhile_not isBlank hne

theorem configTrim_getLast {text : Text} (h : configTrim text ≠ []) :
    isBlank ((configTrim text).getLast h) = false := by
  exact eq_false_of_ne_true (List.rdropWhile_last_not isBlank _ h)

namespace ConfigInPlace

-- ---------------------------------------------------------------------------
-- Lines
-- ---------------------------------------------------------------------------

section Lines

variable {size : Nat}

def trimEnd (a : CharArray size) (str : Nat) : Nat → Option (CharArray size)
  | 0 => some a
  | e + 1 =>
    if str < e + 1 then
      (a.load (e + 1)).bind fun b =>
        if isBlank b then (a.store (e + 1) 0).bind fun a => trimEnd a str e else some a
    else some a

def configTrim (a : CharArray size) (str : Nat) : Option (CharArray size × Nat) := do
  let skipped ← CString.span? isBlank (a.bytes.drop str)
  let str := str + skipped
  let first ← a.load str
  if first = 0 then some (a, str)
  else do
    let length ← CString.length? (a.bytes.drop str)
    let a ← trimEnd a str (str + length - 1)
    some (a, str)

/-- The buffer after the loop body of `config_load`, with the pointers to key and value,
or without them when the line is skipped. -/
def configLine (line : CharArray size) : Option (CharArray size × Option (Nat × Nat)) := do
  let (line, trimmedLine) ← configTrim line 0
  let first ← line.load trimmedLine
  if first = 0 ∨ first = 35 ∨ first = 59 then some (line, none)
  else do
    match ← CString.find? 61 (line.bytes.drop trimmedLine) with
    | none => some (line, none)
    | some separator => do
      let line ← line.store (trimmedLine + separator) 0
      let (line, key) ← configTrim line trimmedLine
      let (line, value) ← configTrim line (trimmedLine + separator + 1)
      let keyStart ← line.load key
      let valueStart ← line.load value
      if keyStart = 0 ∨ valueStart = 0 then some (line, none) else some (line, some (key, value))

end Lines

-- ---------------------------------------------------------------------------
-- Entries
-- ---------------------------------------------------------------------------

structure ConfigEntry where
  key : CharArray configMaxKeyLength
  value : CharArray configMaxValueLength

structure Config where
  entries : Fin configMaxEntries → ConfigEntry
  count : Nat

def Config.inUse (config : Config) : List ConfigEntry :=
  (List.ofFn config.entries).take config.count

def storeEntry (config : Config) (key value : Text) : Option Config :=
  if h : config.count < configMaxEntries then do
    let entry := config.entries ⟨config.count, h⟩
    let keyCopied ← entry.key.strncpy key (configMaxKeyLength - 1)
    let keyStored ← keyCopied.store (configMaxKeyLength - 1) 0
    let valueCopied ← entry.value.strncpy value (configMaxValueLength - 1)
    let valueStored ← valueCopied.store (configMaxValueLength - 1) 0
    some ⟨Function.update config.entries ⟨config.count, h⟩ ⟨keyStored, valueStored⟩,
      config.count + 1⟩
  else none

def configLoadLines (config : Config) (line : CharArray configLineMaxLength) :
    List (List UInt8) → Option (Int × Config)
  | [] => some (0, config)
  | read :: reads => do
    let line ← line.fill read
    let (line, found) ← configLine line
    match found with
    | none => configLoadLines config line reads
    | some (key, value) =>
      if configMaxEntries ≤ config.count then some (-1, config)
      else do
        let key ← line.string key
        let value ← line.string value
        let config ← storeEntry config key value
        configLoadLines config line reads

/-- `config` and `line` are what is there before the call. -/
def configLoad (config : Config) (line : CharArray configLineMaxLength)
    (file : Option (List UInt8)) : Option (Int × Config) :=
  let config : Config := { config with count := 0 }
  match file with
  | none => some (-1, config)
  | some bytes => configLoadLines config line (CString.fgetsLines configLineMaxLength [] bytes)

def configGetString (config : Config) (key : Text) (default : Option Text) : Option Text :=
  match config.inUse.find? fun e => e.key.string 0 = some key with
  | none => default
  | some e => e.value.string 0

structure Config.Represents (config : Config) (c : ParkingSystem.Config) : Prop where
  count : config.count = c.entries.length
  inUse : config.inUse.map (fun e => (e.key.string 0, e.value.string 0)) =
    c.entries.map fun e => (some e.key, some e.value)

-- ---------------------------------------------------------------------------
-- Trimming
-- ---------------------------------------------------------------------------

section Trim

variable {size : Nat} {a : CharArray size} {front rest text : List UInt8}

theorem trimEnd_eq {init : List UInt8} {last : UInt8} (hlast : isBlank last = false)
    (blanks : List UInt8) (hblank : ∀ b ∈ blanks, isBlank b = true)
    (h : a.bytes = front ++ (init ++ last :: (blanks ++ rest))) :
    ∃ a', trimEnd a front.length (front.length + init.length + blanks.length) = some a' ∧
      a'.bytes = front ++ (init ++ last :: (List.replicate blanks.length 0 ++ rest)) := by
  induction blanks using List.reverseRecOn generalizing a rest with
  | nil =>
    refine ⟨a, ?_, by simpa using h⟩
    have hat : a.bytes = (front ++ init) ++ last :: rest := by
      rw [h]
      simp
    have hload : a.load (front.length + init.length) = some last := by
      rw [← List.length_append]
      exact CharArray.load_eq hat
    rw [List.length_nil, Nat.add_zero]
    cases hend : front.length + init.length with
    | zero => rfl
    | succ e =>
      rw [hend] at hload
      simp [trimEnd, hload, hlast]
  | append_singleton blanks b ih =>
    have hb : isBlank b = true := hblank b (by simp)
    have hat : a.bytes = (front ++ (init ++ last :: blanks)) ++ b :: rest := by
      rw [h]
      simp
    obtain ⟨a₁, hstore, hstored⟩ := CharArray.store_eq hat 0
    have hload := CharArray.load_eq hat
    have hend : (front ++ (init ++ last :: blanks)).length =
        front.length + init.length + blanks.length + 1 := by
      simp only [List.length_append, List.length_cons]
      omega
    rw [hend] at hstore hload
    have hbefore : a₁.bytes = front ++ (init ++ last :: (blanks ++ 0 :: rest)) := by
      rw [hstored]
      simp
    obtain ⟨a', htrim, hbytes⟩ := ih (fun x hx => hblank x (by simp [hx])) hbefore
    refine ⟨a', ?_, ?_⟩
    · have hlt : front.length < front.length + init.length + blanks.length + 1 := by omega
      rw [List.length_append, List.length_singleton, ← Nat.add_assoc, trimEnd, if_pos hlt, hload]
      simp only [Option.bind_some, hb, if_true, hstore]
      exact htrim
    · rw [hbytes, List.length_append, List.length_singleton, List.replicate_succ']
      simp

/-- A string is trimmed where it stands: the pointer moves over the leading blanks,
zeros replace the trailing ones, and nothing else changes. -/
theorem configTrim_eq (h : a.bytes = front ++ (text ++ 0 :: rest)) (hzero : 0 ∉ text) :
    ∃ a' zeros,
      configTrim a front.length = some (a', front.length + (text.takeWhile isBlank).length) ∧
      a'.bytes = front ++ (text.takeWhile isBlank ++ (ParkingSystem.configTrim text ++
        (List.replicate zeros 0 ++ 0 :: rest))) ∧
      (text.takeWhile isBlank).length + (ParkingSystem.configTrim text).length + zeros =
        text.length := by
  obtain ⟨trailing, htext, htrailing⟩ := exists_configTrim text
  have hleading : ∀ b ∈ text.takeWhile isBlank, isBlank b = true := fun b hb =>
    List.mem_takeWhile_imp hb
  generalize hlead : text.takeWhile isBlank = leading at htext hleading ⊢
  have hlength := congrArg List.length htext
  simp only [List.length_append] at hlength
  rcases List.eq_nil_or_concat' (ParkingSystem.configTrim text) with hnil | ⟨init, last, hcore⟩
  · -- nothing but blanks: the pointer stops at the terminator
    have hall : ∀ b ∈ text, isBlank b = true := by
      rw [htext, hnil, List.nil_append]
      intro b hb
      rcases List.mem_append.mp hb with hb | hb
      · exact hleading b hb
      · exact htrailing b hb
    obtain rfl : leading = text := by rw [← hlead, List.takeWhile_eq_self_iff.mpr hall]
    refine ⟨a, 0, ?_, by simp [h, hnil], by simp [hnil]⟩
    have hskip : CString.span? isBlank (a.bytes.drop front.length) = some leading.length := by
      rw [h, List.drop_left]
      exact CString.span?_eq hall (by decide)
    have hat : a.bytes = (front ++ leading) ++ 0 :: rest := by rw [h, List.append_assoc]
    have hload : a.load (front.length + leading.length) = some 0 := by
      rw [← List.length_append]
      exact CharArray.load_eq hat
    simp [configTrim, hskip, hload]
  · have hne : ParkingSystem.configTrim text ≠ [] := by simp [hcore]
    have hlast : isBlank last = false := by
      have := configTrim_getLast hne
      simpa [hcore] using this
    obtain ⟨first, more, hhead⟩ := List.exists_cons_of_ne_nil hne
    have hfirst : isBlank first = false := by
      have := configTrim_head hne
      simpa [hhead] using this
    have hfirst0 : first ≠ 0 := by
      rintro rfl
      apply hzero
      rw [htext, hhead]
      simp
    have hskip : CString.span? isBlank (a.bytes.drop front.length) = some leading.length := by
      rw [h, List.drop_left, htext, hhead]
      simp only [List.append_assoc, List.cons_append]
      exact CString.span?_eq hleading hfirst
    have hstart : a.bytes = (front ++ leading) ++ (ParkingSystem.configTrim text ++ trailing) ++
        0 :: rest := by
      rw [h]
      nth_rewrite 1 [htext]
      simp
    have hat : a.bytes = (front ++ leading) ++ first :: (more ++ trailing ++ 0 :: rest) := by
      rw [hstart, hhead]
      simp
    have hload : a.load (front.length + leading.length) = some first := by
      rw [← List.length_append]
      exact CharArray.load_eq hat
    have hstring : CString.length? (a.bytes.drop (front.length + leading.length)) =
        some (ParkingSystem.configTrim text ++ trailing).length := by
      rw [← List.length_append, hstart, List.append_assoc, List.drop_left]
      apply CString.length?_string
      intro hmem
      apply hzero
      rw [htext]
      exact List.mem_append_right _ hmem
    have hend : a.bytes = (front ++ leading) ++ (init ++ last :: (trailing ++ 0 :: rest)) := by
      rw [hstart, hcore]
      simp
    obtain ⟨a', htrim, hbytes⟩ := trimEnd_eq hlast trailing htrailing hend
    refine ⟨a', trailing.length, ?_, ?_, by omega⟩
    · have hlast : front.length + leading.length +
          (ParkingSystem.configTrim text ++ trailing).length - 1 =
            (front ++ leading).length + init.length + trailing.length := by
        simp only [hcore, List.length_append, List.length_singleton]
        omega
      rw [← hlast, List.length_append] at htrim
      simp only [configTrim, hskip, Option.bind_eq_bind, Option.bind_some, hload, hfirst0,
        if_false, hstring, htrim]
    · rw [hbytes, hcore]
      simp

end Trim

-- ---------------------------------------------------------------------------
-- One line
-- ---------------------------------------------------------------------------

section Line

variable {size : Nat} {a : CharArray size} {front rest text : List UInt8}

theorem zeros_cons (zeros : Nat) (rest : List UInt8) :
    List.replicate zeros 0 ++ 0 :: rest = 0 :: (List.replicate zeros 0 ++ rest) := by
  rw [← List.cons_append, ← List.replicate_succ, List.replicate_succ', List.append_assoc]
  rfl

theorem load_string (h : a.bytes = front ++ (text ++ 0 :: rest)) :
    a.load front.length = some (text.headD 0) := by
  cases text with
  | nil => exact CharArray.load_eq h
  | cons b text => exact CharArray.load_eq h

theorem headD_eq_zero (hzero : 0 ∉ text) : text.headD 0 = 0 ↔ text = [] := by
  cases text with
  | nil => simp
  | cons b text =>
    have hb : b ≠ 0 := fun hb => hzero (by simp [hb])
    simp [hb]

theorem configTrim_subset (text : Text) {b : UInt8} (h : b ∈ ParkingSystem.configTrim text) :
    b ∈ text := by
  obtain ⟨trailing, htext, -⟩ := exists_configTrim text
  rw [htext]
  simp [h]

/-- What the loop body leaves in the buffer, against what `configLine` finds in the text:
the key begins after the leading blanks. -/
def Finds (a : CharArray size) (text : Text) : Option (Text × Text) → Option (Nat × Nat) → Prop
  | none, none => True
  | some (key, value), some (i, j) =>
    i = (text.takeWhile isBlank).length ∧ a.string i = some key ∧ a.string j = some value ∧
      0 ∉ key ∧ 0 ∉ value
  | _, _ => False

theorem configLine_separated {left right : Text} {leading : List UInt8}
    (h : a.bytes = leading ++ ((left ++ 61 :: right) ++ 0 :: rest)) (hleft : 0 ∉ left)
    (hright : 0 ∉ right) :
    ∃ a₁ a₂ a₃ i j, a.store (leading.length + left.length) 0 = some a₁ ∧
      configTrim a₁ leading.length = some (a₂, i) ∧
      configTrim a₂ (leading.length + left.length + 1) = some (a₃, j) ∧
      i = leading.length + (left.takeWhile isBlank).length ∧
      a₃.string i = some (ParkingSystem.configTrim left) ∧
      a₃.string j = some (ParkingSystem.configTrim right) ∧
      a₃.load i = some ((ParkingSystem.configTrim left).headD 0) ∧
      a₃.load j = some ((ParkingSystem.configTrim right).headD 0) := by
  have hline : a.bytes = (leading ++ left) ++ 61 :: (right ++ 0 :: rest) := by
    rw [h]
    simp
  obtain ⟨a₁, hstore, hcut⟩ := CharArray.store_eq hline 0
  rw [List.length_append] at hstore
  rw [List.append_assoc] at hcut
  obtain ⟨a₂, zeros, htrim, hkey, hlength⟩ := configTrim_eq hcut hleft
  generalize left.takeWhile isBlank = skipped at htrim hkey hlength ⊢
  -- the value starts where it started, whatever the key has lost
  let before := leading ++ (skipped ++ (ParkingSystem.configTrim left ++
    (List.replicate zeros 0 ++ [0])))
  have hbefore : before.length = leading.length + left.length + 1 := by
    simp only [before, List.length_append, List.length_replicate, List.length_singleton]
    omega
  have hright₂ : a₂.bytes = before ++ (right ++ 0 :: rest) := by
    rw [hkey]
    simp [before]
  obtain ⟨a₃, zeros', htrim', hvalue, -⟩ := configTrim_eq hright₂ hright
  generalize right.takeWhile isBlank = skipped' at htrim' hvalue
  rw [hbefore] at htrim'
  have hkey' : a₃.bytes = (leading ++ skipped) ++ (ParkingSystem.configTrim left ++
      0 :: (List.replicate zeros 0 ++ (skipped' ++ (ParkingSystem.configTrim right ++
        (List.replicate zeros' 0 ++ 0 :: rest))))) := by
    rw [hvalue, ← zeros_cons]
    simp [before]
  have hvalue' : a₃.bytes = (before ++ skipped') ++ (ParkingSystem.configTrim right ++
      0 :: (List.replicate zeros' 0 ++ rest)) := by
    rw [hvalue, zeros_cons, List.append_assoc before]
  have hi : (leading ++ skipped).length = leading.length + skipped.length := List.length_append
  have hj : (before ++ skipped').length = leading.length + left.length + 1 + skipped'.length := by
    rw [List.length_append, hbefore]
  refine ⟨a₁, a₂, a₃, _, _, hstore, htrim, htrim', rfl, ?_, ?_, ?_, ?_⟩
  · rw [← hi]
    exact CharArray.string_eq hkey' fun hmem => hleft (configTrim_subset left hmem)
  · rw [← hj]
    exact CharArray.string_eq hvalue' fun hmem => hright (configTrim_subset right hmem)
  · rw [← hi]
    exact load_string hkey'
  · rw [← hj]
    exact load_string hvalue'

theorem configLine_eq (h : a.bytes = text ++ 0 :: rest) (hzero : 0 ∉ text) :
    ∃ a' found, configLine a = some (a', found) ∧
      Finds a' text (ParkingSystem.configLine text) found := by
  have hread : CString.read text = text := CString.read_of_not_mem hzero
  have hstart : a.bytes = [] ++ (text ++ 0 :: rest) := h
  obtain ⟨a₁, zeros, htrim, hbytes, -⟩ := configTrim_eq hstart hzero
  simp only [List.length_nil, Nat.zero_add, List.nil_append, zeros_cons] at htrim hbytes
  have hzero₁ : 0 ∉ ParkingSystem.configTrim text := fun hmem => hzero (configTrim_subset text hmem)
  have hhead : ∀ h : ParkingSystem.configTrim text ≠ [],
      isBlank ((ParkingSystem.configTrim text).head h) = false := fun h => configTrim_head h
  generalize htrimmed : ParkingSystem.configTrim text = trimmed at hbytes hzero₁ hhead
  generalize hleading : text.takeWhile isBlank = leading at htrim hbytes
  have hfirst := load_string hbytes
  simp only [ParkingSystem.configLine, hread, htrimmed]
  by_cases hskip : trimmed.head? = none ∨ trimmed.head? = some 35 ∨ trimmed.head? = some 59
  · have hstart : trimmed.headD 0 = 0 ∨ trimmed.headD 0 = 35 ∨ trimmed.headD 0 = 59 := by
      cases trimmed with
      | nil => exact .inl rfl
      | cons b trimmed => exact .inr (by simpa using hskip)
    refine ⟨a₁, none, ?_, ?_⟩
    · simp only [configLine, Option.bind_eq_bind, htrim, Option.bind_some, hfirst, hstart, if_true]
    · rw [if_pos hskip]
      trivial
  have hstart : ¬ (trimmed.headD 0 = 0 ∨ trimmed.headD 0 = 35 ∨ trimmed.headD 0 = 59) := by
    cases trimmed with
    | nil => simp at hskip
    | cons b trimmed =>
      have hb : b ≠ 0 := fun hb => hzero₁ (by simp [hb])
      simpa [hb] using hskip
  rw [if_neg hskip]
  by_cases hseparator : 61 ∈ trimmed
  · obtain ⟨left, right, rfl, hnot⟩ := List.eq_append_cons_of_mem hseparator
    have hleft : 0 ∉ left := fun hmem => hzero₁ (by simp [hmem])
    have hright : 0 ∉ right := fun hmem => hzero₁ (by simp [hmem])
    obtain ⟨b₁, b₂, b₃, i, j, hstore, hkey, hvalue, hi, hkeyText, hvalueText, hkeyStart,
      hvalueStart⟩ := configLine_separated hbytes hleft hright
    have hstartKey : left.takeWhile isBlank = [] := by
      cases left with
      | nil => rfl
      | cons b left =>
        have hb : isBlank b = false := by simpa using hhead (by simp)
        simp [hb]
    have hfind : CString.find? 61 (a₁.bytes.drop leading.length) = some (some left.length) := by
      rw [hbytes, List.drop_left, List.append_assoc]
      exact CString.find?_of_mem hleft hnot
    have hkeyZero : 0 ∉ ParkingSystem.configTrim left := fun hmem =>
      hleft (configTrim_subset left hmem)
    have hvalueZero : 0 ∉ ParkingSystem.configTrim right := fun hmem =>
      hright (configTrim_subset right hmem)
    have hempty : ((ParkingSystem.configTrim left).headD 0 = 0 ∨
        (ParkingSystem.configTrim right).headD 0 = 0) ↔
        ParkingSystem.configTrim left = [] ∨ ParkingSystem.configTrim right = [] := by
      rw [headD_eq_zero hkeyZero, headD_eq_zero hvalueZero]
    rw [if_neg (not_not.mpr hseparator), separator_takeWhile hnot, separator_dropWhile hnot]
    by_cases hnil : ParkingSystem.configTrim left = [] ∨ ParkingSystem.configTrim right = []
    · refine ⟨b₃, none, ?_, ?_⟩
      · simp only [configLine, Option.bind_eq_bind, htrim, Option.bind_some, hfirst, hstart,
          if_false, hfind, hstore, hkey, hvalue, hkeyStart, hvalueStart, hempty.mpr hnil, if_true]
      · rw [if_pos hnil]
        trivial
    · refine ⟨b₃, some (i, j), ?_, ?_⟩
      · simp only [configLine, Option.bind_eq_bind, htrim, Option.bind_some, hfirst, hstart,
          if_false, hfind, hstore, hkey, hvalue, hkeyStart, hvalueStart, mt hempty.mp hnil]
      · rw [if_neg hnil]
        exact ⟨by rw [hi, hstartKey, hleading]; rfl, hkeyText, hvalueText, hkeyZero, hvalueZero⟩
  · have hfind : CString.find? 61 (a₁.bytes.drop leading.length) = some none := by
      rw [hbytes, List.drop_left]
      exact CString.find?_of_not_mem hzero₁ hseparator (by decide)
    refine ⟨a₁, none, ?_, ?_⟩
    · simp only [configLine, Option.bind_eq_bind, htrim, Option.bind_some, hfirst, hstart,
        if_false, hfind]
    · rw [if_pos hseparator]
      trivial

end Line

-- ---------------------------------------------------------------------------
-- All lines
-- ---------------------------------------------------------------------------

section Load

variable {config : Config} {c : ParkingSystem.Config}

theorem inUse_update (entry : ConfigEntry) (h : config.count < configMaxEntries) :
    Config.inUse ⟨Function.update config.entries ⟨config.count, h⟩ entry, config.count + 1⟩ =
      config.inUse ++ [entry] := by
  have hlength : config.inUse.length = config.count := by
    simp only [Config.inUse, List.length_take, List.length_ofFn]
    omega
  apply List.ext_getElem
  · simp only [Config.inUse, List.length_take, List.length_ofFn, List.length_append,
      List.length_singleton]
    omega
  · intro i hi hi'
    rcases Nat.lt_or_eq_of_le (Nat.le_of_lt_succ (by simpa [hlength] using hi')) with hlt | rfl
    · rw [List.getElem_append_left (by rw [hlength]; exact hlt)]
      simp only [Config.inUse, List.getElem_take, List.getElem_ofFn]
      apply Function.update_of_ne
      simpa using hlt.ne
    · rw [List.getElem_append_right hlength.le]
      simp [Config.inUse, List.getElem_take]

theorem storeEntry_eq {key value : Text} (h : config.count < configMaxEntries) (hkey : 0 ∉ key)
    (hvalue : 0 ∉ value) :
    ∃ config' entry, storeEntry config key value = some config' ∧
      config'.count = config.count + 1 ∧ config'.inUse = config.inUse ++ [entry] ∧
      entry.key.string 0 = some (configEntry key value).key ∧
      entry.value.string 0 = some (configEntry key value).value := by
  obtain ⟨k, k', hcopy, hstore, hstring⟩ := CharArray.strncpy_string
    (a := (config.entries ⟨config.count, h⟩).key) hkey (n := configMaxKeyLength - 1) (by decide)
  obtain ⟨v, v', hcopy', hstore', hstring'⟩ := CharArray.strncpy_string
    (a := (config.entries ⟨config.count, h⟩).value) hvalue (n := configMaxValueLength - 1)
    (by decide)
  refine ⟨_, ⟨k', v'⟩, ?_, rfl, inUse_update ⟨k', v'⟩ h, hstring, hstring'⟩
  simp only [storeEntry, dif_pos h, Option.bind_eq_bind, hcopy, hstore, hcopy', hstore',
    Option.bind_some]

theorem configLoadLines_refines (line : CharArray configLineMaxLength) (reads : List (List UInt8))
    (hfit : ∀ read ∈ reads, read.length < configLineMaxLength) (hr : config.Represents c) :
    ∃ config', configLoadLines config line reads =
        some (if (c.entries ++ entriesOf reads).length ≤ configMaxEntries then 0 else -1, config') ∧
      config'.Represents (.firstOf (c.entries ++ entriesOf reads)) := by
  induction reads generalizing config line c with
  | nil =>
    have hall : (c.entries ++ entriesOf []).length ≤ configMaxEntries := by
      simpa [entriesOf] using c.count_le
    refine ⟨config, by rw [if_pos hall]; rfl, ?_⟩
    simpa [ParkingSystem.Config.firstOf, entriesOf, List.take_of_length_le c.count_le] using hr
  | cons read reads ih =>
    obtain ⟨hread, hreads⟩ := List.forall_mem_cons.mp hfit
    obtain ⟨filled, rest, hfill, hbytes⟩ := CharArray.fill_eq (a := line) hread
    obtain ⟨rest', hstring⟩ := CString.exists_read read rest
    obtain ⟨line', found, hline, hfinds⟩ := configLine_eq (hbytes.trans hstring)
      CString.not_mem_read
    rw [configLine_read] at hfinds
    simp only [configLoadLines, Option.bind_eq_bind, hfill, Option.bind_some, hline]
    cases hsetting : ParkingSystem.configLine read with
    | none =>
      rw [entriesOf_cons_none hsetting]
      cases found with
      | none => exact ih line' hreads hr
      | some pointers => simp [hsetting, Finds] at hfinds
    | some setting =>
      obtain ⟨key, value⟩ := setting
      rw [entriesOf_cons_some hsetting]
      cases found with
      | none => simp [hsetting, Finds] at hfinds
      | some pointers =>
        obtain ⟨i, j⟩ := pointers
        rw [hsetting] at hfinds
        obtain ⟨-, hkey, hvalue, hkeyZero, hvalueZero⟩ := hfinds
        by_cases hfull : configMaxEntries ≤ config.count
        · have hlength : c.entries.length = configMaxEntries :=
            le_antisymm c.count_le (hr.count ▸ hfull)
          have hmore : ¬ (c.entries ++ configEntry key value :: entriesOf reads).length ≤
              configMaxEntries := by
            rw [List.length_append, List.length_cons, hlength]
            omega
          refine ⟨config, by simp only [if_pos hfull, if_neg hmore], ?_⟩
          simpa [ParkingSystem.Config.firstOf, ← hlength] using hr
        · have hroom := Nat.not_le.mp hfull
          have hlength : c.entries.length + 1 ≤ configMaxEntries := hr.count ▸ hroom
          obtain ⟨config₁, entry, hstore, hcount, hinUse, hentryKey, hentryValue⟩ :=
            storeEntry_eq hroom hkeyZero hvalueZero
          have hr₁ : config₁.Represents
              ⟨c.entries ++ [configEntry key value], by simpa using hlength⟩ := by
            constructor
            · simp [hcount, hr.count]
            · simp [hinUse, hr.inUse, hentryKey, hentryValue]
          obtain ⟨config', hload, hr'⟩ := ih line' hreads hr₁
          simp only [List.append_assoc, List.singleton_append] at hload hr'
          refine ⟨config', ?_, hr'⟩
          simp only [if_neg hfull, hkey, hvalue, Option.bind_some, hstore]
          exact hload

/-- Whatever the arrays hold before, `config_load` stays inside them; it leaves the
first hundred entries of the file. -/
theorem configLoad_eq (config : Config) (line : CharArray configLineMaxLength) (file : List UInt8) :
    ∃ config', configLoad config line (some file) =
        some (if (fileEntries file).length ≤ configMaxEntries then 0 else -1, config') ∧
      config'.Represents (.firstOf (fileEntries file)) := by
  apply configLoadLines_refines (c := ⟨[], Nat.zero_le _⟩) line
  · intro read hread
    exact CString.length_of_mem_fgetsLines (by decide) hread
  · exact ⟨rfl, by simp [Config.inUse]⟩

/-- The functions of `Config` say what `config_load` does in its arrays. -/
theorem configLoad_refines (config : Config) (line : CharArray configLineMaxLength)
    (file : Option (List UInt8)) :
    ∃ returned config', configLoad config line file = some (returned, config') ∧
      match ParkingSystem.configLoad file with
      | some c => returned = 0 ∧ config'.Represents c
      | none => returned = -1 := by
  cases file with
  | none => exact ⟨-1, { config with count := 0 }, rfl, rfl⟩
  | some file =>
    obtain ⟨config', hload, hr⟩ := configLoad_eq config line file
    refine ⟨_, config', hload, ?_⟩
    rw [ParkingSystem.configLoad_eq]
    by_cases hfits : (fileEntries file).length ≤ configMaxEntries
    · simp only [dif_pos hfits, if_pos hfits, true_and]
      simpa [ParkingSystem.Config.firstOf, List.take_of_length_le hfits] using hr
    · simp only [dif_neg hfits, if_neg hfits]

theorem configGetString_refines (hr : config.Represents c) (key : Text) (default : Option Text) :
    configGetString config key default = ParkingSystem.configGetString c key default := by
  have h := hr.inUse
  rw [configGetString, ParkingSystem.configGetString, configFindEntry]
  generalize config.inUse = entries at h
  generalize c.entries = entries' at h
  induction entries generalizing entries' with
  | nil =>
    obtain rfl : entries' = [] := by simpa using h.symm
    rfl
  | cons e entries ih =>
    cases entries' with
    | nil => simp at h
    | cons e' entries' =>
      simp only [List.map_cons, List.cons.injEq, Prod.mk.injEq] at h
      obtain ⟨⟨hkey, hvalue⟩, hrest⟩ := h
      simp only [List.find?_cons, hkey, Option.some.injEq]
      by_cases hfound : e'.key = key
      · simp [hfound, hvalue]
      · simpa [hfound] using ih entries' hrest

end Load

end ConfigInPlace
end ParkingSystem
