import ParkingSystem.Lib.Runs
import ParkingSystem.Lib.Stdio
import ParkingSystem.SqliteDatabase

/-!
# The menu of PriceUpdater

`main` reads commands and their answers from standard input; what the C library's `%lf`
makes of a text is a parameter. `terminates_iff`: it comes to an end exactly if a menu
prompt is answered with 4, for at the end of the input it asks on and on.
`prompts_at_line_start_iff`: the menu is at the beginning of a line unless a name did not
fit its buffer and was left there unfinished.
-/

namespace ParkingSystem.PriceUpdater

def cityNameLength : Nat := 64

structure State where
  input : List UInt8
  store : Store
  signalled : List Int
  running : Bool

/-- What one pass of the menu meets outside the process: SQLite, what `fscanf` reads from
the PID file, and whether `kill` succeeds. -/
structure Environment where
  db : Sqlite
  databasePid : Option Int
  kill : Bool

-- ---------------------------------------------------------------------------
-- Input
-- ---------------------------------------------------------------------------

section Input

variable (lf : Stdio.DoubleConversion)

/-- `getchar` until a newline or the end of the file. -/
def clearInputBuffer : List UInt8 → List UInt8
  | [] => []
  | character :: input => if character = 10 then input else clearInputBuffer input

def readNumber (input : List UInt8) : Option Double × List UInt8 :=
  let (value, input) := lf.scan input
  (value, clearInputBuffer input)

/-- `fgets` and `strcspn`: the name up to a newline or a zero byte, `none` for a null
pointer. -/
def readName (input : List UInt8) : Option Text × List UInt8 :=
  let (line, rest) := Stdio.fgets (cityNameLength - 1) input
  if line = [] then (none, rest)
  else (some (line.takeWhile fun b => b ≠ 10 && b ≠ 0), rest)

end Input

-- ---------------------------------------------------------------------------
-- Operations
-- ---------------------------------------------------------------------------

section Operations

variable (lf : Stdio.DoubleConversion) (db : Sqlite) (s : State)

def addCity : Bool × State :=
  let (city, input) := readName s.input
  match city with
  | none | some [] => (false, { s with input := input })
  | some city =>
    let (minLatitude, input) := readNumber lf input
    match minLatitude with
    | none => (false, { s with input := input })
    | some minLatitude =>
      let (maxLatitude, input) := readNumber lf input
      match maxLatitude with
      | none => (false, { s with input := input })
      | some maxLatitude =>
        let (minLongitude, input) := readNumber lf input
        match minLongitude with
        | none => (false, { s with input := input })
        | some minLongitude =>
          let (maxLongitude, input) := readNumber lf input
          match maxLongitude with
          | none => (false, { s with input := input })
          | some maxLongitude =>
            let (pricePerMinute, input) := readNumber lf input
            match pricePerMinute with
            | none => (false, { s with input := input })
            | some pricePerMinute =>
              let (store, added) := ParkingSystem.addCity db s.store (some city) minLatitude
                maxLatitude minLongitude maxLongitude pricePerMinute
              (added, { s with input := input, store := store })

def updateCityPrice : Bool × State :=
  let (city, input) := readName s.input
  match city with
  | none | some [] => (false, { s with input := input })
  | some city =>
    let (pricePerMinute, input) := readNumber lf input
    match pricePerMinute with
    | none => (false, { s with input := input })
    | some pricePerMinute =>
      let (store, updated) := ParkingSystem.updateCityPrice db s.store (some city) pricePerMinute
      (updated, { s with input := input, store := store })

def deleteCity : Bool × State :=
  let (city, input) := readName s.input
  match city with
  | none | some [] => (false, { s with input := input })
  | some city =>
    let (store, deleted) := ParkingSystem.deleteCity db s.store (some city)
    (deleted, { s with input := input, store := store })

end Operations

/-- `read_database_pid` and `kill`; `main` ignores what comes back. -/
def notifyDatabase (env : Environment) (s : State) : State :=
  match env.databasePid with
  | none => s
  | some pid => if env.kill then { s with signalled := s.signalled ++ [pid] } else s

-- ---------------------------------------------------------------------------
-- main
-- ---------------------------------------------------------------------------

def notifyAfter (env : Environment) : Bool × State → State
  | (true, s) => notifyDatabase env s
  | (false, s) => s

def readMenuItem (input : List UInt8) : Option Int × List UInt8 :=
  let (menuItem, input) := Stdio.scanInt input
  (menuItem, clearInputBuffer input)

def step (lf : Stdio.DoubleConversion) (s : State) (env : Environment) : Option State :=
  if !s.running then none
  else
    let (menuItem, input) := readMenuItem s.input
    let s := { s with input := input }
    match menuItem with
    | none => some s
    | some 1 => some (notifyAfter env (addCity lf env.db s))
    | some 2 => some (notifyAfter env (updateCityPrice lf env.db s))
    | some 3 => some (notifyAfter env (deleteCity env.db s))
    | some 4 => some { s with running := false }
    | some _ => some s

def start (input : List UInt8) (store : Store) : State := ⟨input, store, [], true⟩

-- ---------------------------------------------------------------------------
-- What a pass reads
-- ---------------------------------------------------------------------------

section Passes

variable (lf : Stdio.DoubleConversion)

def readNumbers : Nat → List UInt8 → List UInt8
  | 0, input => input
  | numbers + 1, input =>
    match readNumber lf input with
    | (none, rest) => rest
    | (some _, rest) => readNumbers numbers rest

def readOperation (numbers : Nat) (input : List UInt8) : List UInt8 :=
  match readName input with
  | (none, rest) | (some [], rest) => rest
  | (some (_ :: _), rest) => readNumbers lf numbers rest

def readCommand (menuItem : Option Int) (input : List UInt8) : List UInt8 :=
  match menuItem with
  | some 1 => readOperation lf 5 input
  | some 2 => readOperation lf 1 input
  | some 3 => readOperation lf 0 input
  | _ => input

end Passes

section Reads

variable {lf : Stdio.DoubleConversion} {db : Sqlite} {env : Environment} {s s' : State}
  {input : List UInt8}

theorem addCity_reads (lf : Stdio.DoubleConversion) (db : Sqlite) (s : State) :
    (addCity lf db s).2.input = readOperation lf 5 s.input ∧
      (addCity lf db s).2.running = s.running := by
  rw [addCity, readOperation]
  rcases readName s.input with ⟨_ | _ | ⟨b, city⟩, rest⟩
  · exact ⟨rfl, rfl⟩
  · exact ⟨rfl, rfl⟩
  simp only [readNumbers]
  -- one number after the other
  rcases readNumber lf rest with ⟨_ | minLatitude, rest⟩
  · exact ⟨rfl, rfl⟩
  simp only
  rcases readNumber lf rest with ⟨_ | maxLatitude, rest⟩
  · exact ⟨rfl, rfl⟩
  simp only
  rcases readNumber lf rest with ⟨_ | minLongitude, rest⟩
  · exact ⟨rfl, rfl⟩
  simp only
  rcases readNumber lf rest with ⟨_ | maxLongitude, rest⟩
  · exact ⟨rfl, rfl⟩
  simp only
  rcases readNumber lf rest with ⟨_ | pricePerMinute, rest⟩ <;> exact ⟨rfl, rfl⟩

theorem updateCityPrice_reads (lf : Stdio.DoubleConversion) (db : Sqlite) (s : State) :
    (updateCityPrice lf db s).2.input = readOperation lf 1 s.input ∧
      (updateCityPrice lf db s).2.running = s.running := by
  rw [updateCityPrice, readOperation]
  rcases readName s.input with ⟨_ | _ | ⟨b, city⟩, rest⟩
  · exact ⟨rfl, rfl⟩
  · exact ⟨rfl, rfl⟩
  simp only [readNumbers]
  rcases readNumber lf rest with ⟨_ | pricePerMinute, rest⟩ <;> exact ⟨rfl, rfl⟩

theorem deleteCity_reads (lf : Stdio.DoubleConversion) (db : Sqlite) (s : State) :
    (deleteCity db s).2.input = readOperation lf 0 s.input ∧
      (deleteCity db s).2.running = s.running := by
  rw [deleteCity, readOperation]
  rcases readName s.input with ⟨_ | _ | ⟨b, city⟩, rest⟩ <;> exact ⟨rfl, rfl⟩

theorem notifyAfter_reads (env : Environment) (result : Bool × State) :
    (notifyAfter env result).input = result.2.input ∧
      (notifyAfter env result).running = result.2.running := by
  obtain ⟨ok, s⟩ := result
  cases ok with
  | false => exact ⟨rfl, rfl⟩
  | true =>
    rw [notifyAfter, notifyDatabase]
    split
    · exact ⟨rfl, rfl⟩
    · split <;> exact ⟨rfl, rfl⟩

/-- One pass: nothing but the input decides how it goes on. -/
theorem step_cases (h : step lf s env = some s') : s.running = true ∧
    s'.input = readCommand lf (readMenuItem s.input).1 (readMenuItem s.input).2 ∧
      s'.running = decide ((readMenuItem s.input).1 ≠ some 4) := by
  rw [step] at h
  split at h
  · cases h
  rename_i hrunning
  have hrunning : s.running = true := by simpa using hrunning
  refine ⟨hrunning, ?_⟩
  generalize readMenuItem s.input = answer at h ⊢
  obtain ⟨menuItem, rest⟩ := answer
  simp only at h ⊢
  split at h
  · cases h
    exact ⟨rfl, hrunning⟩
  · cases h
    rw [(notifyAfter_reads _ _).1, (notifyAfter_reads _ _).2, (addCity_reads lf _ _).1,
      (addCity_reads lf _ _).2]
    exact ⟨rfl, hrunning⟩
  · cases h
    rw [(notifyAfter_reads _ _).1, (notifyAfter_reads _ _).2, (updateCityPrice_reads lf _ _).1,
      (updateCityPrice_reads lf _ _).2]
    exact ⟨rfl, hrunning⟩
  · cases h
    rw [(notifyAfter_reads _ _).1, (notifyAfter_reads _ _).2, (deleteCity_reads lf _ _).1,
      (deleteCity_reads lf _ _).2]
    exact ⟨rfl, hrunning⟩
  · cases h
    exact ⟨rfl, rfl⟩
  · rename_i n hone htwo hthree hfour
    cases h
    have hread : readCommand lf (some n) rest = rest := by
      rw [readCommand.eq_def]
      split
      · exact absurd (Option.some.inj ‹_›) hone
      · exact absurd (Option.some.inj ‹_›) htwo
      · exact absurd (Option.some.inj ‹_›) hthree
      · rfl
    exact ⟨hread.symm, by simpa [show n ≠ 4 from hfour] using hrunning⟩

theorem exists_step (lf : Stdio.DoubleConversion) (h : s.running = true) (env : Environment) :
    ∃ s', step lf s env = some s' := by
  rw [step, h]
  simp only [Bool.not_true, Bool.false_eq_true, if_false]
  split <;> exact ⟨_, rfl⟩

end Reads

-- ---------------------------------------------------------------------------
-- Lines
-- ---------------------------------------------------------------------------

/-- `rest` is the end of `input`, or comes after one of its newlines. -/
def Breaks (input rest : List UInt8) : Prop := rest = [] ∨ ∃ line, input = line ++ 10 :: rest

section Lines

variable {lf : Stdio.DoubleConversion} {input input₀ rest rest' : List UInt8}

theorem Breaks.suffix (h : Breaks input rest) : rest <:+ input := by
  rcases h with rfl | ⟨line, rfl⟩
  · exact List.nil_suffix
  · exact ⟨line ++ [10], by rw [List.append_assoc]; rfl⟩

theorem Breaks.of_suffix (hsuffix : rest <:+ input) (h : Breaks rest rest') :
    Breaks input rest' := by
  obtain ⟨before, rfl⟩ := hsuffix
  rcases h with h | ⟨line, rfl⟩
  · exact .inl h
  · exact .inr ⟨before ++ line, (List.append_assoc ..).symm⟩

theorem clearInputBuffer_breaks (input : List UInt8) : Breaks input (clearInputBuffer input) := by
  induction input with
  | nil => exact .inl rfl
  | cons b input ih =>
    rw [clearInputBuffer]
    split
    · rename_i hb
      exact .inr ⟨[], by rw [hb]; rfl⟩
    · exact ih.of_suffix (List.suffix_cons b input)

theorem clearInputBuffer_shorter (h : input ≠ []) :
    (clearInputBuffer input).length < input.length := by
  rcases clearInputBuffer_breaks input with hnil | ⟨line, hline⟩
  · rw [hnil]
    exact List.length_pos_iff.mpr h
  · have hlength := congrArg List.length hline
    rw [List.length_append, List.length_cons] at hlength
    omega

theorem readNumber_breaks (lf : Stdio.DoubleConversion) (input : List UInt8) :
    Breaks input (readNumber lf input).2 :=
  (clearInputBuffer_breaks _).of_suffix (lf.suffix input)

theorem readMenuItem_breaks (input : List UInt8) : Breaks input (readMenuItem input).2 :=
  (clearInputBuffer_breaks _).of_suffix (Stdio.scanInt_suffix input)

theorem readMenuItem_shorter (h : input ≠ []) :
    (readMenuItem input).2.length < input.length := by
  have hscan := (Stdio.scanInt_suffix input).length_le
  change (clearInputBuffer (Stdio.scanInt input).2).length < input.length
  by_cases hrest : (Stdio.scanInt input).2 = []
  · rw [hrest]
    exact List.length_pos_iff.mpr h
  · exact (clearInputBuffer_shorter hrest).trans_le hscan

theorem readNumbers_suffix (numbers : Nat) (input : List UInt8) :
    readNumbers lf numbers input <:+ input := by
  induction numbers generalizing input with
  | zero => exact List.suffix_refl input
  | succ numbers ih =>
    have hfirst := (readNumber_breaks lf input).suffix
    rw [readNumbers]
    rcases hnumber : readNumber lf input with ⟨_ | number, rest⟩
    · rw [hnumber] at hfirst
      exact hfirst
    · rw [hnumber] at hfirst
      exact (ih rest).trans hfirst

theorem readNumbers_breaks (numbers : Nat) (input : List UInt8) :
    Breaks input (readNumbers lf (numbers + 1) input) := by
  induction numbers generalizing input with
  | zero =>
    have hfirst := readNumber_breaks lf input
    rw [readNumbers]
    rcases hnumber : readNumber lf input with ⟨_ | number, rest⟩ <;>
    · rw [hnumber] at hfirst
      exact hfirst
  | succ numbers ih =>
    have hfirst := readNumber_breaks lf input
    rw [readNumbers]
    rcases hnumber : readNumber lf input with ⟨_ | number, rest⟩
    · rw [hnumber] at hfirst
      exact hfirst
    · rw [hnumber] at hfirst
      exact (ih rest).of_suffix hfirst.suffix

theorem readName_suffix (input : List UInt8) : (readName input).2 <:+ input := by
  have hfgets := Stdio.fgets_append (cityNameLength - 1) input
  rw [readName]
  simp only
  split <;> exact ⟨_, hfgets⟩

theorem readOperation_suffix (numbers : Nat) (input : List UInt8) :
    readOperation lf numbers input <:+ input := by
  have hname := readName_suffix input
  rw [readOperation]
  rcases hread : readName input with ⟨_ | _ | ⟨b, city⟩, rest⟩
  · rw [hread] at hname
    exact hname
  · rw [hread] at hname
    exact hname
  · rw [hread] at hname
    exact (readNumbers_suffix numbers rest).trans hname

theorem readCommand_suffix (menuItem : Option Int) (input : List UInt8) :
    readCommand lf menuItem input <:+ input := by
  rw [readCommand.eq_def]
  split
  · exact readOperation_suffix 5 input
  · exact readOperation_suffix 1 input
  · exact readOperation_suffix 0 input
  · exact List.suffix_refl input

end Lines

-- ---------------------------------------------------------------------------
-- The end of the program
-- ---------------------------------------------------------------------------

/-- What the menu prompts are answered as long as there is any input. -/
def menuAnswers (lf : Stdio.DoubleConversion) (input : List UInt8) : List (Option Int) :=
  if input = [] then []
  else
    let answer := readMenuItem input
    answer.1 :: menuAnswers lf (readCommand lf answer.1 answer.2)
termination_by input.length
decreasing_by
  exact (readCommand_suffix _ _).length_le.trans_lt (readMenuItem_shorter ‹_›)

section Termination

variable {lf : Stdio.DoubleConversion} {s s' t : State} {envs : List Environment}
  {input : List UInt8} {store : Store}

theorem menuAnswers_cons (h : input ≠ []) :
    menuAnswers lf input = (readMenuItem input).1 ::
      menuAnswers lf (readCommand lf (readMenuItem input).1 (readMenuItem input).2) := by
  rw [menuAnswers, if_neg h]

/-- Some bound on the number of passes holds for everything that SQLite and the Database
process may answer. -/
def Terminates (lf : Stdio.DoubleConversion) (input : List UInt8) (store : Store) : Prop :=
  ∃ bound, ∀ envs t, Runs.run (step lf) (start input store) envs = some t → envs.length ≤ bound

/-- A 4 still to come is read before the input is over. -/
theorem passes_le (hexit : s.running = true → some 4 ∈ menuAnswers lf s.input)
    (hr : Runs.run (step lf) s envs = some t) :
    envs.length ≤ if s.running then s.input.length else 0 := by
  induction envs generalizing s with
  | nil => exact Nat.zero_le _
  | cons env envs ih =>
    obtain ⟨s', hs, hr⟩ := Runs.run_cons.mp hr
    obtain ⟨hrunning, hinput, hrunning'⟩ := step_cases hs
    have hne : s.input ≠ [] := by
      intro hnil
      have hmem := hexit hrunning
      rw [hnil, menuAnswers, if_pos rfl] at hmem
      cases hmem
    have hmem := hexit hrunning
    rw [menuAnswers_cons hne, ← hinput] at hmem
    have hshorter : s'.input.length < s.input.length := by
      rw [hinput]
      exact (readCommand_suffix _ _).length_le.trans_lt (readMenuItem_shorter hne)
    have hpasses : envs.length ≤ if s'.running then s'.input.length else 0 := by
      refine ih (fun h => ?_) hr
      rw [hrunning', decide_eq_true_iff] at h
      exact (List.mem_cons.mp hmem).resolve_left (Ne.symm h)
    rw [if_pos hrunning, List.length_cons]
    split at hpasses <;> omega

theorem exists_run (hrunning : s.running = true) (h : some 4 ∉ menuAnswers lf s.input)
    (envs : List Environment) : ∃ t, Runs.run (step lf) s envs = some t := by
  induction envs generalizing s with
  | nil => exact ⟨s, rfl⟩
  | cons env envs ih =>
    obtain ⟨s', hs⟩ := exists_step lf hrunning env
    obtain ⟨-, hinput, hrunning'⟩ := step_cases hs
    have hnext : (readMenuItem s.input).1 ≠ some 4 ∧ some 4 ∉ menuAnswers lf s'.input := by
      by_cases hnil : s.input = []
      · rw [hinput, hnil]
        exact ⟨by decide, by rw [show readCommand lf _ _ = [] from rfl, menuAnswers]; simp⟩
      · rw [menuAnswers_cons hnil, ← hinput, List.mem_cons, not_or] at h
        exact ⟨Ne.symm h.1, h.2⟩
    obtain ⟨t, hr⟩ := ih (by rw [hrunning', decide_eq_true_iff]; exact hnext.1) hnext.2
    exact ⟨t, Runs.run_cons.mpr ⟨s', hs, hr⟩⟩

theorem not_terminates (input : List UInt8) (store : Store) (h : some 4 ∉ menuAnswers lf input) :
    ¬ Terminates lf input store := by
  rintro ⟨bound, hbound⟩
  let env : Environment := ⟨⟨.succeed, 0⟩, none, false⟩
  obtain ⟨t, hr⟩ := exists_run (s := start input store) rfl h (List.replicate (bound + 1) env)
  have hle := hbound _ t hr
  rw [List.length_replicate] at hle
  omega

theorem terminates_iff (lf : Stdio.DoubleConversion) (input : List UInt8) (store : Store) :
    Terminates lf input store ↔ some 4 ∈ menuAnswers lf input := by
  constructor
  · intro hterminates
    by_contra h
    exact not_terminates input store h hterminates
  · intro h
    exact ⟨input.length, fun envs t hr => passes_le (fun _ => h) hr⟩

/-- `%lf` on an input that begins with an integer, as C libraries read it. -/
def integerConversion : Stdio.DoubleConversion where
  scan := Stdio.scan Stdio.IntState.step .start (· = .digits) fun item =>
    .finite (CString.strtol item).value
  suffix := Stdio.scan_suffix _ _ _

/-- A price is changed, a city deleted, and the program left. -/
def commands : List UInt8 := CString.ofString "2\nHaifa\n7\n3\nHaifa\n4\n"

theorem terminates_iff_commands : Terminates integerConversion commands .initial := by
  have hprice : readMenuItem commands = (some 2, CString.ofString "Haifa\n7\n3\nHaifa\n4\n") ∧
      readCommand integerConversion (some 2) (CString.ofString "Haifa\n7\n3\nHaifa\n4\n") =
        CString.ofString "3\nHaifa\n4\n" := by decide +kernel
  have hdelete : readMenuItem (CString.ofString "3\nHaifa\n4\n") =
        (some 3, CString.ofString "Haifa\n4\n") ∧
      readCommand integerConversion (some 3) (CString.ofString "Haifa\n4\n") =
        CString.ofString "4\n" := by decide +kernel
  have hexit : (readMenuItem (CString.ofString "4\n")).1 = some 4 := by decide +kernel
  rw [terminates_iff, menuAnswers_cons (by decide), hprice.1, hprice.2,
    menuAnswers_cons (by decide), hdelete.1, hdelete.2, menuAnswers_cons (by decide), hexit]
  simp

/-- The input is over when the new price is asked for. -/
theorem not_always_terminates :
    ¬ ∃ lf : Stdio.DoubleConversion, ∀ input store, Terminates lf input store := by
  rintro ⟨lf, h⟩
  refine not_terminates (CString.ofString "2\nJaffa\n") ⟨[], []⟩ ?_ (h _ _)
  have hread : readMenuItem (CString.ofString "2\nJaffa\n") =
      (some 2, CString.ofString "Jaffa\n") := by decide +kernel
  have hname : readName (CString.ofString "Jaffa\n") = (some (CString.ofString "Jaffa"), []) := by
    decide +kernel
  have hnumber : readNumbers lf 1 [] = [] := List.suffix_nil.mp (readNumbers_suffix 1 [])
  have hcommand : readCommand lf (some 2) (CString.ofString "Jaffa\n") = [] := by
    rw [readCommand, readOperation, hname]
    exact hnumber
  rw [menuAnswers_cons (by decide), hread, hcommand, menuAnswers, if_pos rfl]
  decide

end Termination

-- ---------------------------------------------------------------------------
-- The beginning of a line
-- ---------------------------------------------------------------------------

/-- The beginning of a line of `input`, or its end. -/
def AtLine (input rest : List UInt8) : Prop := rest = input ∨ Breaks input rest

/-- The next command leaves a name in the middle: it does not fit the buffer, and no
number is read after it, as none is for a deletion or after a name with nothing before its
first zero byte. -/
def LeavesName (input : List UInt8) : Prop :=
  let (menuItem, input) := readMenuItem input
  let (line, rest) := Stdio.fgets (cityNameLength - 1) input
  10 ∉ line ∧ rest ≠ [] ∧
    (menuItem = some 3 ∨ (menuItem = some 1 ∨ menuItem = some 2) ∧ line.head? = some 0)

instance (input : List UInt8) : Decidable (LeavesName input) :=
  inferInstanceAs (Decidable (10 ∉ (Stdio.fgets (cityNameLength - 1) (readMenuItem input).2).1 ∧
    (Stdio.fgets (cityNameLength - 1) (readMenuItem input).2).2 ≠ [] ∧
    ((readMenuItem input).1 = some 3 ∨
      ((readMenuItem input).1 = some 1 ∨ (readMenuItem input).1 = some 2) ∧
        (Stdio.fgets (cityNameLength - 1) (readMenuItem input).2).1.head? = some 0)))

section Prompts

variable {lf : Stdio.DoubleConversion} {input input₀ line rest : List UInt8}

theorem not_atLine (hline : line ≠ []) (hnewline : 10 ∉ line) (hrest : rest ≠ [])
    (hsuffix : line ++ rest <:+ input₀) : ¬ AtLine input₀ rest := by
  obtain ⟨before, hbefore⟩ := hsuffix
  rw [← List.append_assoc] at hbefore
  rintro (heq | hnil | ⟨text, htext⟩)
  · rw [heq] at hbefore
    have hnil : before ++ line = [] := List.append_left_eq_self.mp hbefore
    exact hline (List.append_eq_nil_iff.mp hnil).2
  · exact hrest hnil
  · have hcut : before ++ line = text ++ [10] := by
      apply (List.append_left_inj rest).mp
      rw [hbefore, htext, List.append_assoc]
      rfl
    obtain ⟨front, b, rfl⟩ := (List.eq_nil_or_concat line).resolve_left hline
    rw [List.concat_eq_append] at hnewline hcut
    rw [← List.append_assoc] at hcut
    have hb : b = 10 := List.singleton_inj.mp (List.append_inj_right' hcut rfl)
    exact hnewline (List.mem_append_right front (by rw [hb]; exact List.mem_singleton_self 10))

theorem fgets_breaks {room : Nat}
    (h : 10 ∈ (Stdio.fgets room input).1 ∨ (Stdio.fgets room input).2 = []) :
    Breaks input (Stdio.fgets room input).2 := by
  rcases h with h | h
  · obtain ⟨line, hline⟩ := Stdio.fgets_newline h
    refine .inr ⟨line, ?_⟩
    have happend := Stdio.fgets_append room input
    rw [hline, List.append_assoc] at happend
    exact happend.symm
  · exact .inl h

theorem readOperation_eq (numbers : Nat) (input : List UInt8) : readOperation lf numbers input =
    if ((Stdio.fgets (cityNameLength - 1) input).1.takeWhile fun b => b ≠ 10 && b ≠ 0) = [] then
      (Stdio.fgets (cityNameLength - 1) input).2
    else readNumbers lf numbers (Stdio.fgets (cityNameLength - 1) input).2 := by
  rw [readOperation, readName]
  generalize Stdio.fgets (cityNameLength - 1) input = read
  obtain ⟨line, rest⟩ := read
  simp only
  by_cases hline : line = []
  · rw [if_pos hline, hline, List.takeWhile_nil, if_pos rfl]
  rw [if_neg hline]
  cases line.takeWhile fun b => b ≠ 10 && b ≠ 0 with
  | nil => rw [if_pos rfl]
  | cons b city => rw [if_neg (List.cons_ne_nil b city)]

theorem readOperation_breaks {numbers : Nat}
    (h : 10 ∈ (Stdio.fgets (cityNameLength - 1) input).1 ∨
      (Stdio.fgets (cityNameLength - 1) input).2 = [] ∨
      0 < numbers ∧ (Stdio.fgets (cityNameLength - 1) input).1.head? ≠ some 0) :
    Breaks input (readOperation lf numbers input) := by
  have hsuffix : (Stdio.fgets (cityNameLength - 1) input).2 <:+ input :=
    ⟨_, Stdio.fgets_append (cityNameLength - 1) input⟩
  rw [readOperation_eq]
  by_cases hover : 10 ∈ (Stdio.fgets (cityNameLength - 1) input).1 ∨
      (Stdio.fgets (cityNameLength - 1) input).2 = []
  · -- the name is over: what is read after it makes no difference
    have hbreaks := fgets_breaks hover
    split
    · exact hbreaks
    · cases numbers with
      | zero => exact hbreaks
      | succ numbers => exact (readNumbers_breaks numbers _).of_suffix hsuffix
  rw [not_or] at hover
  obtain ⟨hnumbers, hzero⟩ := (h.resolve_left hover.1).resolve_left hover.2
  obtain ⟨numbers, rfl⟩ := Nat.exists_eq_add_of_lt hnumbers
  rw [if_neg, Nat.zero_add]
  · exact (readNumbers_breaks numbers _).of_suffix hsuffix
  -- a byte of the name comes first
  have hfull := Stdio.fgets_full hover.1 hover.2
  generalize (Stdio.fgets (cityNameLength - 1) input).1 = line at hover hzero hfull ⊢
  cases line with
  | nil => cases hfull
  | cons b line =>
    have hb : (b ≠ 10 && b ≠ 0) = true := by
      rw [Bool.and_eq_true, decide_eq_true_iff, decide_eq_true_iff]
      refine ⟨?_, fun h0 => hzero (congrArg some h0)⟩
      rintro rfl
      exact hover.1 List.mem_cons_self
    rw [List.takeWhile_cons_of_pos (by simpa using hb)]
    exact List.cons_ne_nil b _

theorem readOperation_leaves {numbers : Nat}
    (h : numbers = 0 ∨ (Stdio.fgets (cityNameLength - 1) input).1.head? = some 0) :
    readOperation lf numbers input = (Stdio.fgets (cityNameLength - 1) input).2 := by
  rw [readOperation_eq]
  rcases h with rfl | hzero
  · rw [readNumbers, ite_self]
  · obtain ⟨line, hline⟩ := List.head?_eq_some_iff.mp hzero
    rw [hline, List.takeWhile_cons_of_neg (by decide), if_pos rfl]

theorem command_breaks (lf : Stdio.DoubleConversion) (h : ¬ LeavesName input) :
    Breaks input (readCommand lf (readMenuItem input).1 (readMenuItem input).2) := by
  have hmenu := readMenuItem_breaks input
  rw [LeavesName] at h
  generalize readMenuItem input = answer at h hmenu ⊢
  obtain ⟨menuItem, rest⟩ := answer
  simp only at h hmenu ⊢
  rw [readCommand.eq_def]
  split
  · refine (readOperation_breaks ?_).of_suffix hmenu.suffix
    by_contra hnot
    simp only [not_or, not_and, not_not] at hnot
    exact h ⟨hnot.1, hnot.2.1, .inr ⟨.inl rfl, hnot.2.2 (by decide)⟩⟩
  · refine (readOperation_breaks ?_).of_suffix hmenu.suffix
    by_contra hnot
    simp only [not_or, not_and, not_not] at hnot
    exact h ⟨hnot.1, hnot.2.1, .inr ⟨.inr rfl, hnot.2.2 (by decide)⟩⟩
  · refine (readOperation_breaks ?_).of_suffix hmenu.suffix
    by_contra hnot
    simp only [not_or] at hnot
    exact h ⟨hnot.1, hnot.2.1, .inl rfl⟩
  · exact hmenu

theorem LeavesName.item_ne_exit (h : LeavesName input) : (readMenuItem input).1 ≠ some 4 := by
  rw [LeavesName] at h
  generalize readMenuItem input = answer at h ⊢
  obtain ⟨menuItem, rest⟩ := answer
  obtain ⟨-, -, rfl | ⟨rfl | rfl, -⟩⟩ := h <;>
  · intro hitem
    cases hitem

theorem command_leaves (lf : Stdio.DoubleConversion) (h : LeavesName input)
    (hsuffix : input <:+ input₀) :
    ¬ AtLine input₀ (readCommand lf (readMenuItem input).1 (readMenuItem input).2) := by
  have hmenu := (readMenuItem_breaks input).suffix.trans hsuffix
  rw [LeavesName] at h
  generalize readMenuItem input = answer at h hmenu ⊢
  obtain ⟨menuItem, rest⟩ := answer
  obtain ⟨hnewline, hrest, hitem⟩ := h
  have hline : (Stdio.fgets (cityNameLength - 1) rest).1 ≠ [] := by
    intro hnil
    have hfull := Stdio.fgets_full hnewline hrest
    rw [hnil] at hfull
    cases hfull
  have hcommand : readCommand lf menuItem rest = (Stdio.fgets (cityNameLength - 1) rest).2 := by
    rcases hitem with rfl | ⟨rfl | rfl, hzero⟩
    · exact readOperation_leaves (.inl rfl)
    · exact readOperation_leaves (.inr hzero)
    · exact readOperation_leaves (.inr hzero)
  rw [hcommand]
  refine not_atLine hline hnewline hrest ?_
  rw [Stdio.fgets_append]
  exact hmenu

/-- Every time the menu is shown the input is at the beginning of a line or over, exactly if
no command leaves a name in the middle. -/
theorem prompts_at_line_start_iff (lf : Stdio.DoubleConversion) (input : List UInt8)
    (store : Store) {envs : List Environment} {t : State}
    (hr : Runs.run (step lf) (start input store) envs = some t) :
    (∀ before after s, envs = before ++ after →
        Runs.run (step lf) (start input store) before = some s → s.running = true →
        AtLine input s.input) ↔
      Runs.Along (step lf) (fun s _ => ¬ LeavesName s.input) (start input store) envs := by
  have hsuffix : ∀ {before s}, Runs.run (step lf) (start input store) before = some s →
      s.input <:+ input := by
    intro before s hbefore
    refine Runs.invariant (I := fun s => s.input <:+ input) ?_ (List.suffix_refl input) hbefore
    intro s env s' hs hstep
    rw [(step_cases hstep).2.1]
    exact (readCommand_suffix _ _).trans ((readMenuItem_breaks s.input).suffix.trans hs)
  constructor
  · intro h
    refine Runs.Along.of_steps hr fun before env after s s' henvs hbefore hstep hleaves => ?_
    obtain ⟨hrunning, hinput, hrunning'⟩ := step_cases hstep
    have hnot := command_leaves lf hleaves (hsuffix hbefore)
    rw [← hinput] at hnot
    refine hnot (h (before ++ [env]) after s' (by rw [henvs, List.append_assoc]; rfl)
      (Runs.run_concat.mpr ⟨s, hbefore, hstep⟩) ?_)
    -- a command that leaves a name is not the exit
    rw [hrunning', decide_eq_true_iff]
    exact hleaves.item_ne_exit
  · rintro hc before after s rfl hbefore -
    have hc := ((Runs.Along.append hbefore).mp hc).1
    refine (Runs.invariant_along (I := fun s => s.input <:+ input ∧ AtLine input s.input)
      ?_ ⟨List.suffix_refl input, .inl rfl⟩ hbefore hc).2
    rintro s env s' ⟨hs, -⟩ hname hstep
    have hbreaks := command_breaks lf hname
    rw [← (step_cases hstep).2.1] at hbreaks
    exact ⟨hbreaks.suffix.trans hs, .inr (hbreaks.of_suffix hs)⟩

def commandEnvironments : List Environment := List.replicate 3 ⟨⟨.succeed, 0⟩, some 42, true⟩

def commandsDone : State :=
  (Runs.run (step integerConversion) (start commands .initial) commandEnvironments).get
    (by decide +kernel)

theorem prompts_at_line_start_iff_commands :
    commandsDone.signalled = [42, 42] ∧ commandsDone.input = [] ∧
    ∀ before after s, commandEnvironments = before ++ after →
      Runs.run (step integerConversion) (start commands .initial) before = some s →
      s.running = true → AtLine commands s.input :=
  ⟨by decide +kernel, by decide +kernel,
    (prompts_at_line_start_iff integerConversion commands .initial (t := commandsDone)
      (Option.some_get _).symm).mpr (by decide +kernel)⟩

/-- The city to delete has a name of 64 bytes, and `fgets` room for 63. -/
def longName : List UInt8 :=
  CString.ofString "3\n" ++ List.replicate 63 65 ++ CString.ofString "4\n"

/-- What is left of the name is the next command. -/
theorem prompts_not_always_at_line_start :
    ¬ ∃ lf : Stdio.DoubleConversion, ∀ input store envs s,
      Runs.run (step lf) (start input store) envs = some s → s.running = true →
      AtLine input s.input := by
  rintro ⟨lf, h⟩
  let env : Environment := ⟨⟨.succeed, 0⟩, none, false⟩
  have hleaves : LeavesName longName := by
    have hread : readMenuItem longName =
        (some 3, List.replicate 63 65 ++ CString.ofString "4\n") := by decide +kernel
    rw [LeavesName, hread]
    decide +kernel
  obtain ⟨s, hs⟩ := exists_step lf (s := start longName ⟨[], []⟩) rfl env
  obtain ⟨-, hinput, hrunning⟩ := step_cases hs
  have hprompt : AtLine longName s.input := by
    refine h longName ⟨[], []⟩ [env] s (Runs.run_cons.mpr ⟨s, hs, rfl⟩) ?_
    rw [hrunning, decide_eq_true_iff]
    exact hleaves.item_ne_exit
  rw [hinput] at hprompt
  exact command_leaves lf hleaves (List.suffix_refl longName) hprompt

end Prompts

end ParkingSystem.PriceUpdater
