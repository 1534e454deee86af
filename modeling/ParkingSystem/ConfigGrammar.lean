import ParkingSystem.ConfigInPlace

/-!
# The configuration file format

`Settings` is the documented format: a line is `key=value`, with blanks around either
side ignored, or it is skipped. `config_load_settings`: on lines that fit its buffer
`config_load` reads this format. A longer line comes to it in pieces, and it takes each
for a line: `lines_separate_iff` says for which files nothing comes of that.
-/

namespace ParkingSystem

-- ---------------------------------------------------------------------------
-- The format
-- ---------------------------------------------------------------------------

/-- A line that sets a key: '=' separates the sides, '#' and ';' begin a comment. -/
inductive IsSetting (line : Text) : Text → Text → Prop where
  | intro (left right : Text) (separated : configTrim line = left ++ 61 :: right)
      (first : 61 ∉ left) (hash : (configTrim line).head? ≠ some 35)
      (semicolon : (configTrim line).head? ≠ some 59) (key : configTrim left ≠ [])
      (value : configTrim right ≠ []) : IsSetting line (configTrim left) (configTrim right)

/-- The lines of a file and the settings in them. -/
inductive Settings : List Text → List (Text × Text) → Prop where
  | nil : Settings [] []
  | skip (h : ∀ key value, ¬ IsSetting line key value) (rest : Settings lines settings) :
      Settings (line :: lines) settings
  | setting (h : IsSetting line key value) (rest : Settings lines settings) :
      Settings (line :: lines) ((key, value) :: settings)

theorem configLine_eq_some_iff {line key value : Text} :
    configLine line = some (key, value) ↔ IsSetting (CString.read line) key value := by
  rw [configLine]
  generalize CString.read line = text
  constructor
  · intro h
    simp only at h
    split at h
    · cases h
    rename_i hstart
    obtain ⟨-, hstart⟩ := not_or.mp hstart
    obtain ⟨hhash, hsemicolon⟩ := not_or.mp hstart
    split at h
    · cases h
    rename_i hseparator
    obtain ⟨left, right, htrim, hfirst⟩ := List.eq_append_cons_of_mem (not_not.mp hseparator)
    rw [htrim, separator_takeWhile hfirst, separator_dropWhile hfirst] at h
    split at h
    · cases h
    rename_i hempty
    obtain ⟨hkey, hvalue⟩ := not_or.mp hempty
    cases h
    exact .intro left right htrim hfirst hhash hsemicolon hkey hvalue
  · rintro ⟨left, right, htrim, hfirst, hhash, hsemicolon, hkey, hvalue⟩
    have hsome : (configTrim text).head? ≠ none := by simp [htrim]
    have hseparator : 61 ∈ configTrim text := by simp [htrim]
    rw [if_neg (by simp [hsome, hhash, hsemicolon]), if_neg (not_not.mpr hseparator), htrim,
      separator_takeWhile hfirst, separator_dropWhile hfirst, if_neg (by simp [hkey, hvalue])]

theorem settings_iff {lines : List Text} {settings : List (Text × Text)}
    (h : ∀ line ∈ lines, 0 ∉ line) :
    Settings lines settings ↔ settings = lines.filterMap configLine := by
  induction lines generalizing settings with
  | nil =>
    constructor
    · rintro ⟨⟩
      rfl
    · rintro rfl
      exact .nil
  | cons line lines ih =>
    obtain ⟨hline, hlines⟩ := List.forall_mem_cons.mp h
    have hset : ∀ key value, configLine line = some (key, value) ↔ IsSetting line key value := by
      intro key value
      rw [configLine_eq_some_iff, CString.read_of_not_mem hline]
    constructor
    · intro hsettings
      cases hsettings with
      | skip hskip rest =>
        have hnone : configLine line = none := by
          apply Option.eq_none_iff_forall_ne_some.mpr
          rintro ⟨key, value⟩ hsome
          exact hskip key value ((hset key value).mp hsome)
        rw [List.filterMap_cons_none hnone]
        exact (ih hlines).mp rest
      | setting hsetting rest =>
        rw [List.filterMap_cons_some ((hset _ _).mpr hsetting), ← (ih hlines).mp rest]
    · rintro rfl
      have hrest := (ih hlines).mpr rfl
      cases hsetting : configLine line with
      | none =>
        rw [List.filterMap_cons_none hsetting]
        apply Settings.skip _ hrest
        intro key value hset'
        rw [(hset key value).mpr hset'] at hsetting
        cases hsetting
      | some setting =>
        rw [List.filterMap_cons_some hsetting]
        exact .setting ((hset _ _).mp hsetting) hrest

-- ---------------------------------------------------------------------------
-- Lines that fit
-- ---------------------------------------------------------------------------

theorem configTrim_newline (text : Text) : configTrim (text ++ [10]) = configTrim text := by
  rw [configTrim, configTrim]
  induction text with
  | nil => rfl
  | cons b text ih =>
    by_cases hb : isBlank b = true
    · simpa [hb] using ih
    · have hnewline : isBlank 10 = true := rfl
      rw [List.cons_append, List.dropWhile_cons_of_neg hb, List.dropWhile_cons_of_neg hb,
        ← List.cons_append, List.rdropWhile_concat_pos _ _ _ hnewline]

theorem configLine_newline (line : Text) : configLine (line ++ [10]) = configLine line := by
  have htrim : configTrim (CString.read (line ++ [10])) = configTrim (CString.read line) := by
    by_cases hzero : 0 ∈ line
    · rw [CString.read_append_of_mem hzero]
    · have hread : CString.read (line ++ [10]) = line ++ [10] :=
        CString.read_of_not_mem (by simp [hzero])
      rw [hread, CString.read_of_not_mem hzero, configTrim_newline]
  rw [configLine, configLine, htrim]

theorem fileEntries_of_fits {file : List UInt8}
    (hlines : ∀ line ∈ file.splitOn 10, line.length ≤ 511) :
    fileEntries file = entriesOf (file.splitOn 10) := by
  rw [fileEntries, entriesOf, CString.filterMap_fgetsLines rfl configLine_newline [] file]
  · rfl
  · simp
  · decide
  · exact fun line hline => Nat.lt_succ_of_le (hlines line hline)

theorem find?_map_configEntry (settings : List (Text × Text)) (key : Text) :
    ((settings.map fun s => configEntry s.1 s.2).find? fun e => e.key = key) =
      (settings.find? fun s => s.1.take 63 = key).map fun s => configEntry s.1 s.2 := by
  rw [List.find?_map]
  rfl

/-- What `config_load` leaves and `config_get_string` finds, for a file whose lines fit. -/
theorem config_load_settings (config : ConfigInPlace.Config) (buffer : CharArray configLineMaxLength)
    (file : List UInt8) (hzero : 0 ∉ file) (hlines : ∀ line ∈ file.splitOn 10, line.length ≤ 511) :
    ∃ settings, Settings (file.splitOn 10) settings ∧
      ∃ config', ConfigInPlace.configLoad config buffer (some file) =
          some (if settings.length ≤ 100 then 0 else -1, config') ∧
        (settings.length ≤ 100 →
          config'.count = settings.length ∧
          config'.inUse.map (fun e => (e.key.string 0, e.value.string 0)) =
            settings.map (fun s => (some (s.1.take 63), some (s.2.take 255))) ∧
          ∀ key default, ConfigInPlace.configGetString config' key default =
            ((settings.find? fun s => s.1.take 63 = key).map fun s => s.2.take 255).or default) := by
  have hsettings : Settings (file.splitOn 10) ((file.splitOn 10).filterMap configLine) := by
    apply (settings_iff _).mpr rfl
    intro line hline hmem
    exact hzero (CString.subset_of_mem_splitOn hline hmem)
  refine ⟨_, hsettings, ?_⟩
  generalize hsettingsEq : (file.splitOn 10).filterMap configLine = settings
  have hentries : fileEntries file = settings.map fun s => configEntry s.1 s.2 := by
    rw [fileEntries_of_fits hlines, entriesOf, hsettingsEq]
  obtain ⟨config', hload, hr⟩ := ConfigInPlace.configLoad_eq config buffer file
  rw [hentries, List.length_map] at hload
  refine ⟨config', hload, ?_⟩
  intro hfits
  have hall : (Config.firstOf (fileEntries file)).entries =
      settings.map fun s => configEntry s.1 s.2 := by
    rw [hentries]
    apply List.take_of_length_le
    rw [List.length_map]
    exact hfits
  refine ⟨?_, ?_, ?_⟩
  · rw [hr.count, hall, List.length_map]
  · rw [hr.inUse, hall, List.map_map]
    rfl
  · intro key default
    rw [ConfigInPlace.configGetString_refines hr, configGetString, configFindEntry, hall,
      find?_map_configEntry]
    cases settings.find? fun s => s.1.take 63 = key with
    | none => rfl
    | some s => rfl

def clearedConfig : ConfigInPlace.Config where
  entries _ := ⟨⟨_, List.length_replicate (a := 0)⟩, ⟨_, List.length_replicate (a := 0)⟩⟩
  count := 0

def clearedBuffer : CharArray configLineMaxLength := ⟨_, List.length_replicate (a := 0)⟩

def commentedFile : List UInt8 := CString.ofString "# a = 1\n b = 2 "

theorem config_load_settings_commented :
    ∃ config', ConfigInPlace.configLoad clearedConfig clearedBuffer (some commentedFile) =
        some (0, config') ∧
      ConfigInPlace.configGetString config' (CString.ofString "b") none =
        some (CString.ofString "2") := by
  obtain ⟨settings, hsettings, config', hload, hget⟩ := config_load_settings clearedConfig
    clearedBuffer commentedFile (by decide) (by decide)
  have hb : settings = [(CString.ofString "b", CString.ofString "2")] :=
    (settings_iff (by decide)).mp hsettings
  subst hb
  obtain ⟨-, -, hvalue⟩ := hget (by decide)
  exact ⟨config', hload, (hvalue _ _).trans (by decide)⟩

-- ---------------------------------------------------------------------------
-- Lines that do not
-- ---------------------------------------------------------------------------

/-- The reads of `fgets` with the file position at which each begins. -/
def windows (offset : Nat) : List (List UInt8) → List (Nat × List UInt8)
  | [] => []
  | read :: reads => (offset, read) :: windows (offset + read.length) reads

def fileWindows (file : List UInt8) : List (Nat × List UInt8) :=
  windows 0 (CString.fgetsLines configLineMaxLength [] file)

structure TakenEntry where
  position : Nat
  entry : ConfigEntry
  deriving DecidableEq

/-- The pointer to the key stands behind the blanks that the read begins with. -/
def takenEntry (window : Nat × List UInt8) : Option TakenEntry :=
  (configLine window.2).map fun setting =>
    ⟨window.1 + (window.2.takeWhile isBlank).length, configEntry setting.1 setting.2⟩

def settingWindows (file : List UInt8) : List (Nat × List UInt8) :=
  ((fileWindows file).filter fun window => (configLine window.2).isSome).take configMaxEntries

def configTaken (file : List UInt8) : List TakenEntry :=
  (settingWindows file).filterMap takenEntry

section Position

variable (file : List UInt8) (position : Nat)

def lineStart : Nat := ((file.take position).rdropWhile (· ≠ 10)).length

def physicalLine : Text := (file.drop (lineStart file position)).takeWhile (· ≠ 10)

/-- Something that is not blank stands before it in its line. -/
def StartsInside : Prop := ∃ b ∈ (file.take position).rtakeWhile (· ≠ 10), isBlank b = false

end Position

/-- No line of the file has another one hidden in it. -/
structure LinesSeparate (file : List UInt8) : Prop where
  single : (configTaken file).Pairwise fun t t' =>
    lineStart file t.position ≠ lineStart file t'.position
  comment : ∀ t ∈ configTaken file, ∀ b ∈ ((physicalLine file t.position).dropWhile isBlank).head?,
    b ≠ 35 ∧ b ≠ 59
  start : ∀ t ∈ configTaken file, t.position =
    lineStart file t.position + ((physicalLine file t.position).takeWhile isBlank).length

section Windows

variable {file before blanks rest : List UInt8} {first : UInt8}

theorem windows_entries (offset : Nat) (reads : List (List UInt8)) :
    ((windows offset reads).filterMap takenEntry).map TakenEntry.entry = entriesOf reads := by
  induction reads generalizing offset with
  | nil => rfl
  | cons read reads ih =>
    cases hsetting : configLine read with
    | none =>
      rw [windows, List.filterMap_cons_none (by simp [takenEntry, hsetting]), ih,
        entriesOf_cons_none hsetting]
    | some setting =>
      rw [windows, List.filterMap_cons_some (by simp [takenEntry, hsetting]; rfl), List.map_cons, ih,
        entriesOf_cons_some hsetting]

theorem take_filterMap (n : Nat) (l : List (Nat × List UInt8)) :
    ((l.filter fun window => (configLine window.2).isSome).take n).filterMap takenEntry =
      (l.filterMap takenEntry).take n := by
  induction l generalizing n with
  | nil => simp
  | cons window l ih =>
    cases hsetting : configLine window.2 with
    | none => simp [hsetting, takenEntry, ih]
    | some setting =>
      cases n with
      | zero => rfl
      | succ n => simp [hsetting, takenEntry, ih]

/-- Without their positions they are what `config_load` leaves in the `config_t`. -/
theorem configTaken_entries (file : List UInt8) :
    (configTaken file).map TakenEntry.entry = (Config.firstOf (fileEntries file)).entries := by
  rw [configTaken, settingWindows, take_filterMap, List.map_take, fileWindows, windows_entries]
  rfl

theorem mem_windows {offset start : Nat} {read : List UInt8} {reads : List (List UInt8)}
    (h : (start, read) ∈ windows offset reads) :
    ∃ earlier later, reads = earlier ++ read :: later ∧ start = offset + earlier.flatten.length := by
  induction reads generalizing offset with
  | nil => cases h
  | cons first reads ih =>
    rcases List.mem_cons.mp h with heq | h
    · cases heq
      exact ⟨[], reads, rfl, rfl⟩
    · obtain ⟨earlier, later, rfl, rfl⟩ := ih h
      refine ⟨first :: earlier, later, rfl, ?_⟩
      rw [List.flatten_cons, List.length_append, Nat.add_assoc]

theorem windows_pairwise (offset : Nat) (reads : List (List UInt8)) :
    (windows offset reads).Pairwise fun w w' => w.1 + w.2.length ≤ w'.1 := by
  induction reads generalizing offset with
  | nil => exact .nil
  | cons read reads ih =>
    apply List.Pairwise.cons _ (ih _)
    rintro ⟨start, read'⟩ hmem
    obtain ⟨earlier, -, -, rfl⟩ := mem_windows hmem
    exact Nat.le_add_right _ _

theorem exists_first {window : Nat × List UInt8} {t : TakenEntry} (h : takenEntry window = some t) :
    ∃ first rest, window.2 = window.2.takeWhile isBlank ++ first :: rest ∧ isBlank first = false ∧
      first ≠ 35 ∧ first ≠ 59 ∧ t.position = window.1 + (window.2.takeWhile isBlank).length := by
  obtain ⟨⟨key, value⟩, hsetting, rfl⟩ := Option.map_eq_some_iff.mp h
  obtain ⟨left, right, htrim, -, hhash, hsemicolon, -, -⟩ := configLine_eq_some_iff.mp hsetting
  have hne : configTrim (CString.read window.2) ≠ [] := by simp [htrim]
  have hblank := configTrim_head hne
  obtain ⟨first, more, hmore⟩ := List.exists_cons_of_ne_nil hne
  simp only [hmore, List.head_cons, List.head?_cons, Option.some.injEq, ne_eq] at hblank hhash hsemicolon
  obtain ⟨trailing, hread, -⟩ := exists_configTrim (CString.read window.2)
  rw [hmore] at hread
  obtain ⟨tail, hbytes⟩ : ∃ tail, window.2 = CString.read window.2 ++ tail :=
    ⟨_, List.takeWhile_append_dropWhile.symm⟩
  have hblanks : ∀ b ∈ (CString.read window.2).takeWhile isBlank, isBlank b = true := fun b hb =>
    List.mem_takeWhile_imp hb
  generalize (CString.read window.2).takeWhile isBlank = leading at hread hblanks
  have hleading : window.2.takeWhile isBlank = leading := by
    rw [hbytes, hread, List.append_assoc, List.takeWhile_append_of_pos hblanks]
    simp [hblank]
  refine ⟨first, more ++ trailing ++ tail, ?_, hblank, hhash, hsemicolon, rfl⟩
  rw [hleading, hbytes, hread]
  simp

theorem physicalLine_eq (hfile : file = before ++ (blanks ++ first :: rest)) (hblanks : 10 ∉ blanks)
    (hfirst : first ≠ 10) :
    lineStart file (before.length + blanks.length) = (before.rdropWhile (· ≠ 10)).length ∧
      physicalLine file (before.length + blanks.length) =
        before.rtakeWhile (· ≠ 10) ++ (blanks ++ first :: rest.takeWhile (· ≠ 10)) := by
  have hbefore : file.take (before.length + blanks.length) = before ++ blanks := by
    rw [hfile, ← List.append_assoc, ← List.length_append, List.take_left]
  have hdrop : (before ++ blanks).rdropWhile (· ≠ 10) = before.rdropWhile (· ≠ 10) := by
    rw [List.rdropWhile, List.reverse_append, List.dropWhile_append_of_pos]
    · rfl
    · intro b hb
      simpa using ne_of_mem_of_not_mem (List.mem_reverse.mp hb) hblanks
  have hstart : lineStart file (before.length + blanks.length) =
      (before.rdropWhile (· ≠ 10)).length := by
    rw [lineStart, hbefore, hdrop]
  refine ⟨hstart, ?_⟩
  have hrest : file.drop (before.rdropWhile (· ≠ 10)).length =
      before.rtakeWhile (· ≠ 10) ++ (blanks ++ first :: rest) := by
    have hsplit : file = before.rdropWhile (· ≠ 10) ++
        (before.rtakeWhile (· ≠ 10) ++ (blanks ++ first :: rest)) := by
      rw [← List.append_assoc, List.rdropWhile_append_rtakeWhile, hfile]
    nth_rewrite 1 [hsplit]
    rw [List.drop_left]
  have hinside : ∀ b ∈ before.rtakeWhile (· ≠ 10), decide (b ≠ 10) = true := by
    intro b hb
    exact List.mem_rtakeWhile_imp (p := fun c : UInt8 => c ≠ 10) hb
  rw [physicalLine, hstart, hrest, List.takeWhile_append_of_pos hinside,
    List.takeWhile_append_of_pos, List.takeWhile_cons_of_pos]
  · simpa using hfirst
  · intro b hb
    simpa using ne_of_mem_of_not_mem hb hblanks

theorem leading_of_blank {inside : Text} (hinside : ∀ b ∈ inside, isBlank b = true)
    (hblanks : ∀ b ∈ blanks, isBlank b = true) (hfirst : isBlank first = false) :
    (inside ++ (blanks ++ first :: rest)).takeWhile isBlank = inside ++ blanks ∧
      (inside ++ (blanks ++ first :: rest)).dropWhile isBlank = first :: rest := by
  have hall : ∀ b ∈ inside ++ blanks, isBlank b = true := by
    intro b hb
    rcases List.mem_append.mp hb with hb | hb
    · exact hinside b hb
    · exact hblanks b hb
  rw [← List.append_assoc, List.takeWhile_append_of_pos hall, List.dropWhile_append_of_pos hall]
  simp [hfirst]

theorem leading_of_inside {inside : Text} (hinside : ∃ b ∈ inside, isBlank b = false)
    (more : Text) : ((inside ++ more).takeWhile isBlank).length < inside.length := by
  obtain ⟨b, hb, hblank⟩ := hinside
  have hne : (inside.takeWhile isBlank).length ≠ inside.length := by
    intro heq
    rw [← (List.takeWhile_prefix isBlank).eq_of_length heq] at hb
    rw [List.mem_takeWhile_imp hb] at hblank
    cases hblank
  rw [List.takeWhile_append, if_neg hne]
  exact lt_of_le_of_ne (List.takeWhile_prefix isBlank).length_le hne

theorem takenEntry_line {window : Nat × List UInt8} {t : TakenEntry}
    (hwindow : window ∈ fileWindows file) (h : takenEntry window = some t) :
    (¬ StartsInside file window.1 →
      (∀ b ∈ ((physicalLine file t.position).dropWhile isBlank).head?, b ≠ 35 ∧ b ≠ 59) ∧
      t.position = lineStart file t.position +
        ((physicalLine file t.position).takeWhile isBlank).length) ∧
    (StartsInside file window.1 → t.position ≠ lineStart file t.position +
        ((physicalLine file t.position).takeWhile isBlank).length) := by
  obtain ⟨first, rest, hread, hblank, hhash, hsemicolon, hposition⟩ := exists_first h
  obtain ⟨start, read⟩ := window
  obtain ⟨earlier, later, hreads, hstart⟩ := mem_windows hwindow
  have hfile : file = earlier.flatten ++ (read ++ later.flatten) := by
    have hflatten := CString.flatten_fgetsLines configLineMaxLength [] file
    rw [hreads] at hflatten
    simpa using hflatten.symm
  have hend : 10 ∉ read.dropLast := by
    have hmem : read ∈ CString.fgetsLines configLineMaxLength [] file := by
      rw [hreads]
      simp
    exact CString.newline_of_mem_fgetsLines List.not_mem_nil hmem
  have hblanks : ∀ b ∈ read.takeWhile isBlank, isBlank b = true := fun b hb =>
    List.mem_takeWhile_imp hb
  simp only at hread hposition
  generalize read.takeWhile isBlank = blanks at hread hposition hblanks
  have hnewline : 10 ∉ blanks := by
    intro hmem
    apply hend
    rw [hread, List.dropLast_append_of_ne_nil (by simp)]
    exact List.mem_append_left _ hmem
  have hfirst : first ≠ 10 := by
    rintro rfl
    cases hblank
  have hbytes : file = earlier.flatten ++ (blanks ++ first :: (rest ++ later.flatten)) := by
    rw [hfile, hread]
    simp
  obtain ⟨hline, hphysical⟩ := physicalLine_eq hbytes hnewline hfirst
  have htake : file.take start = earlier.flatten := by
    rw [hstart, hfile, Nat.zero_add, List.take_left]
  have hpos : t.position = earlier.flatten.length + blanks.length := by
    rw [hposition, hstart, Nat.zero_add]
  rw [← hpos] at hline hphysical
  have hbefore : (earlier.flatten.rdropWhile (· ≠ 10)).length +
      (earlier.flatten.rtakeWhile (· ≠ 10)).length = earlier.flatten.length := by
    rw [← List.length_append, List.rdropWhile_append_rtakeWhile]
  rw [StartsInside, htake, hline, hphysical]
  generalize earlier.flatten.rtakeWhile (· ≠ 10) = inside at hbefore ⊢
  constructor
  · intro hclear
    have hinside : ∀ b ∈ inside, isBlank b = true := by simpa using hclear
    rw [(leading_of_blank hinside hblanks hblank).1, (leading_of_blank hinside hblanks hblank).2]
    constructor
    · rintro b ⟨⟩
      exact ⟨hhash, hsemicolon⟩
    · rw [List.length_append]
      omega
  · intro hstarts
    have hshort := leading_of_inside hstarts
      (blanks ++ first :: (rest ++ later.flatten).takeWhile (· ≠ 10))
    omega

theorem settingWindows_sublist (file : List UInt8) :
    (settingWindows file).Sublist (fileWindows file) :=
  (List.take_sublist _ _).trans List.filter_sublist

theorem mem_configTaken {t : TakenEntry} :
    t ∈ configTaken file ↔ ∃ window ∈ settingWindows file, takenEntry window = some t :=
  List.mem_filterMap

theorem exists_takenEntry {window : Nat × List UInt8} (h : window ∈ settingWindows file) :
    ∃ t, takenEntry window = some t := by
  have hsome := (List.mem_filter.mp (List.mem_of_mem_take h)).2
  obtain ⟨setting, hsetting⟩ := Option.isSome_iff_exists.mp hsome
  exact ⟨_, Option.map_eq_some_iff.mpr ⟨setting, hsetting, rfl⟩⟩

theorem configTaken_pairwise (file : List UInt8) :
    (configTaken file).Pairwise fun t t' => t.position < t'.position := by
  rw [configTaken, List.pairwise_filterMap]
  apply ((windows_pairwise 0 _).sublist (settingWindows_sublist file)).imp
  intro window window' hle t ht t' ht'
  obtain ⟨first, rest, hread, -, -, -, hposition⟩ := exists_first ht
  obtain ⟨-, -, -, -, -, -, hposition'⟩ := exists_first ht'
  have hlength := congrArg List.length hread
  rw [List.length_append, List.length_cons] at hlength
  omega

/-- The lines come apart exactly when no stored entry was read from the middle of one. -/
theorem lines_separate_iff (file : List UInt8) :
    LinesSeparate file ↔ ∀ window ∈ settingWindows file, ¬ StartsInside file window.1 := by
  constructor
  · intro hseparate window hwindow hinside
    obtain ⟨t, ht⟩ := exists_takenEntry hwindow
    obtain ⟨-, hnot⟩ := takenEntry_line ((settingWindows_sublist file).subset hwindow) ht
    exact hnot hinside (hseparate.start t (mem_configTaken.mpr ⟨window, hwindow, ht⟩))
  · intro h
    have hline : ∀ t ∈ configTaken file,
        (∀ b ∈ ((physicalLine file t.position).dropWhile isBlank).head?, b ≠ 35 ∧ b ≠ 59) ∧
          t.position = lineStart file t.position +
            ((physicalLine file t.position).takeWhile isBlank).length := by
      intro t ht
      obtain ⟨window, hwindow, htaken⟩ := mem_configTaken.mp ht
      exact (takenEntry_line ((settingWindows_sublist file).subset hwindow) htaken).1
        (h window hwindow)
    refine ⟨?_, fun t ht => (hline t ht).1, fun t ht => (hline t ht).2⟩
    apply (configTaken_pairwise file).imp_of_mem
    intro t t' ht ht' hlt heq
    have hstart := (hline t ht).2
    have hstart' := (hline t' ht').2
    rw [physicalLine] at hstart hstart'
    rw [heq] at hstart
    omega

end Windows

/-- `config_load` sets A from the end of this comment. -/
def longComment : List UInt8 := 35 :: List.replicate 510 120 ++ CString.ofString "A=B"

theorem lines_not_always_separate : ¬ LinesSeparate longComment := by
  intro h
  have htaken : configTaken longComment = [⟨511, configEntry [65] [66]⟩] := by decide +kernel
  have hstart := h.start ⟨511, configEntry [65] [66]⟩ (by rw [htaken]; exact List.mem_cons_self)
  exact absurd hstart (by decide +kernel)

end ParkingSystem
