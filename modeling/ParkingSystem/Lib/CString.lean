import Mathlib.Algebra.Ring.Int.Defs
import Mathlib.Data.List.Induction
import Mathlib.Data.List.TakeWhile
import Mathlib.Data.Nat.Digits.Defs

/-!
# C strings in byte arrays

A string that starts at some byte ends before the first zero byte, whatever
array that byte is in: a read that finds no zero goes on into what follows.

`fgetsLines` and `strtol` are the library functions on a whole file and in base 10,
with a 64-bit `long`.
-/

namespace CString

/-- What a string function reads from `bytes`. -/
def read (bytes : List UInt8) : List UInt8 := bytes.takeWhile (· ≠ 0)

def ofString (s : String) : List UInt8 := s.toList.map fun c => UInt8.ofNat c.toNat

/-- What `fgets` with a buffer of `size` bytes stores, call by call until the end of
the file; `line` is what the current call has read so far. -/
def fgetsLines (size : Nat) : List UInt8 → List UInt8 → List (List UInt8)
  | line, [] => if line = [] then [] else [line]
  | line, b :: file =>
    if b = 10 ∨ size ≤ line.length + 2 then (line ++ [b]) :: fgetsLines size [] file
    else fgetsLines size (line ++ [b]) file

def isSpace (b : UInt8) : Bool := b = 32 || 9 ≤ b && b ≤ 13

def isDigit (b : UInt8) : Bool := 48 ≤ b && b ≤ 57

structure Strtol where
  value : Int
  /-- What `endptr` points to. -/
  rest : List UInt8
  /-- `errno` is ERANGE. -/
  outOfRange : Bool
  deriving DecidableEq

def strtol (text : List UInt8) : Strtol :=
  let (negative, body) : Bool × List UInt8 := match text.dropWhile isSpace with
    | 45 :: body => (true, body)
    | 43 :: body => (false, body)
    | body => (false, body)
  match body.takeWhile isDigit with
  | [] => ⟨0, text, false⟩
  | digits =>
    let magnitude : Int := digits.foldl (fun n b => 10 * n + (b.toNat - 48)) 0
    let value := if negative then -magnitude else magnitude
    ⟨max (-2 ^ 63) (min value (2 ^ 63 - 1)), body.dropWhile isDigit,
      value < -2 ^ 63 || 2 ^ 63 - 1 < value⟩

example : strtol (ofString " -17;") = ⟨-17, ofString ";", false⟩ := by decide

/-- A sign, and what follows it. -/
def splitSign : List UInt8 → Bool × List UInt8
  | 45 :: digits => (true, digits)
  | 43 :: digits => (false, digits)
  | digits => (false, digits)

def decimal (digits : List UInt8) : Nat :=
  Nat.ofDigits 10 (digits.reverse.map fun b => b.toNat - 48)

/-- The integer that the whole text is: a sign or none, and decimal digits. -/
def integerValue (text : List UInt8) : Option Int :=
  let (negative, digits) := splitSign text
  if digits ≠ [] ∧ digits.all isDigit then
    some (if negative then -(decimal digits : Int) else decimal digits)
  else none

example : integerValue (ofString "-0017") = some (-17) := by decide

variable {bytes beyond : List UInt8}

@[simp] theorem read_append_of_mem (h : 0 ∈ bytes) : read (bytes ++ beyond) = read bytes := by
  induction bytes with
  | nil => cases h
  | cons b bytes ih =>
    by_cases hb : b = 0
    · simp [read, hb]
    · have hmem : 0 ∈ bytes := by simpa [Ne.symm hb] using h
      simpa [read, hb] using ih hmem

theorem read_append_of_not_mem (h : 0 ∉ bytes) (beyond : List UInt8) :
    read (bytes ++ beyond) = bytes ++ read beyond :=
  List.takeWhile_append_of_pos fun _ hb => decide_eq_true fun h0 => h (h0 ▸ hb)

theorem read_append_zero (bytes beyond : List UInt8) : read (bytes ++ 0 :: beyond) = read bytes := by
  by_cases h : 0 ∈ bytes
  · exact read_append_of_mem h
  · have hmore := read_append_of_not_mem h []
    rw [List.append_nil] at hmore
    rw [read_append_of_not_mem h, hmore]
    rfl

theorem read_of_not_mem (h : 0 ∉ bytes) : read bytes = bytes := by
  simpa [read] using read_append_of_not_mem h []

theorem not_mem_read : 0 ∉ read bytes := fun h => by
  simpa using List.mem_takeWhile_imp h

theorem exists_read (bytes rest : List UInt8) : ∃ rest', bytes ++ 0 :: rest = read bytes ++ 0 :: rest' := by
  induction bytes with
  | nil => exact ⟨rest, rfl⟩
  | cons b bytes ih =>
    by_cases hb : b = 0
    · exact ⟨bytes ++ 0 :: rest, by simp [read, hb]⟩
    · obtain ⟨rest', h⟩ := ih
      exact ⟨rest', by simpa [read, hb] using h⟩

theorem length_read_lt (h : 0 ∈ bytes) : (read bytes).length < bytes.length := by
  induction bytes with
  | nil => cases h
  | cons b bytes ih =>
    by_cases hb : b = 0
    · simp [read, hb]
    · have hmem : 0 ∈ bytes := by simpa [Ne.symm hb] using h
      simpa [read, hb] using ih hmem

theorem length_of_mem_fgetsLines {size : Nat} {line file piece : List UInt8}
    (h : line.length + 1 < size) (hpiece : piece ∈ fgetsLines size line file) :
    piece.length < size := by
  induction file generalizing line with
  | nil =>
    by_cases hline : line = []
    · simp [fgetsLines, hline] at hpiece
    · obtain rfl : piece = line := by simpa [fgetsLines, hline] using hpiece
      omega
  | cons b file ih =>
    rw [fgetsLines] at hpiece
    split at hpiece
    · rcases List.mem_cons.mp hpiece with rfl | hpiece
      · simpa using h
      · apply ih _ hpiece
        rw [List.length_nil]
        omega
    · rename_i hmore
      apply ih _ hpiece
      rw [List.length_append, List.length_singleton]
      omega

theorem subset_of_mem_splitOn {line file : List UInt8} (h : line ∈ file.splitOn 10) :
    line ⊆ file := by
  induction file generalizing line with
  | nil =>
    obtain rfl : line = [] := by simpa [List.splitOn_nil] using h
    simp
  | cons b file ih =>
    rw [List.splitOn_cons_eq_if_modifyHead] at h
    split at h
    · rcases List.mem_cons.mp h with rfl | h
      · simp
      · exact List.subset_cons_of_subset _ (ih h)
    · cases hrest : file.splitOn 10 with
      | nil => simp [hrest] at h
      | cons first rest =>
        rw [hrest] at h ih
        rcases List.mem_cons.mp h with rfl | h
        · exact List.cons_subset_cons _ (ih List.mem_cons_self)
        · exact List.subset_cons_of_subset _ (ih (List.mem_cons_of_mem _ h))

theorem exists_mem_splitOn {line : List UInt8} (h : 10 ∉ line) (file : List UInt8) :
    ∃ l ∈ (line ++ file).splitOn 10, line.length ≤ l.length := by
  by_cases hfile : 10 ∈ file
  · obtain ⟨rest, after, rfl, hrest⟩ := List.eq_append_cons_of_mem hfile
    refine ⟨line ++ rest, ?_, by simp⟩
    rw [← List.append_assoc, List.splitOn_append_cons_self_of_not_mem]
    · exact List.mem_cons_self
    · simp [h, hrest]
  · refine ⟨line ++ file, ?_, by simp⟩
    rw [List.splitOn_eq_singleton]
    · exact List.mem_singleton_self _
    · simp [h, hfile]

/-- The reads are the file, piece by piece. -/
theorem flatten_fgetsLines (size : Nat) (line file : List UInt8) :
    (fgetsLines size line file).flatten = line ++ file := by
  induction file generalizing line with
  | nil =>
    rw [fgetsLines]
    split
    · simp [*]
    · simp
  | cons b file ih =>
    rw [fgetsLines]
    split
    · simp [ih]
    · simp [ih]

theorem newline_of_mem_fgetsLines {size : Nat} {line file piece : List UInt8} (h : 10 ∉ line)
    (hpiece : piece ∈ fgetsLines size line file) : 10 ∉ piece.dropLast := by
  induction file generalizing line with
  | nil =>
    rw [fgetsLines] at hpiece
    split at hpiece
    · cases hpiece
    · obtain rfl := List.mem_singleton.mp hpiece
      exact fun hmem => h (List.dropLast_subset _ hmem)
  | cons b file ih =>
    rw [fgetsLines] at hpiece
    split at hpiece
    · rcases List.mem_cons.mp hpiece with rfl | hpiece
      · simpa using h
      · exact ih (by simp) hpiece
    · rename_i hmore
      apply ih _ hpiece
      simp [h, Ne.symm (not_or.mp hmore).1]

/-- Where every line fits the buffer of `fgets`, whoever looks at what it reads and cares
neither for the newlines nor for empty lines sees the lines of the file. -/
theorem filterMap_fgetsLines {α : Type*} {f : List UInt8 → Option α} (hnil : f [] = none)
    (hnewline : ∀ l, f (l ++ [10]) = f l) {size : Nat} (line file : List UInt8) (hline : 10 ∉ line)
    (hroom : line.length + 1 < size) (hfit : ∀ l ∈ (line ++ file).splitOn 10, l.length < size) :
    (fgetsLines size line file).filterMap f = ((line ++ file).splitOn 10).filterMap f := by
  induction file generalizing line with
  | nil =>
    rw [List.append_nil, List.splitOn_eq_singleton hline, fgetsLines]
    split
    · rename_i h
      simp [h, hnil]
    · rfl
  | cons b file ih =>
    rw [fgetsLines]
    by_cases hb : b = 10
    · subst hb
      rw [List.splitOn_append_cons_self_of_not_mem hline] at hfit ⊢
      obtain ⟨-, hrest⟩ := List.forall_mem_cons.mp hfit
      have hfile := ih [] (by simp) (by rw [List.length_nil]; omega) (by simpa using hrest)
      rw [if_pos (.inl rfl), List.filterMap_cons, List.filterMap_cons, hnewline, hfile,
        List.nil_append]
    · have hlonger : 10 ∉ line ++ [b] := by simp [hline, Ne.symm hb]
      have hsplit : line ++ b :: file = (line ++ [b]) ++ file := by simp
      rw [hsplit] at hfit ⊢
      by_cases hfull : size ≤ line.length + 2
      · rw [if_pos (.inr hfull)]
        cases file with
        | nil => rw [List.append_nil, List.splitOn_eq_singleton hlonger]; rfl
        | cons c file =>
          -- the buffer is full, so the line ends here
          have hc : c = 10 := by
            by_contra hc
            have hlonger' : 10 ∉ line ++ [b] ++ [c] := by simp [hline, Ne.symm hb, Ne.symm hc]
            obtain ⟨l, hl, hlong⟩ := exists_mem_splitOn hlonger' file
            rw [List.append_assoc _ [c]] at hl
            have hlt := hfit l hl
            simp only [List.length_append, List.length_singleton] at hlong
            omega
          subst hc
          rw [List.splitOn_append_cons_self_of_not_mem hlonger] at hfit ⊢
          obtain ⟨-, hrest⟩ := List.forall_mem_cons.mp hfit
          have hempty : ((10 :: file).splitOn 10) = [] :: file.splitOn 10 :=
            List.splitOn_append_cons_self_of_not_mem List.not_mem_nil file
          have hfile := ih [] (by simp) (by rw [List.length_nil]; omega) (by
            rw [List.nil_append, hempty]
            exact List.forall_mem_cons.mpr ⟨by rw [List.length_nil]; omega, hrest⟩)
          rw [List.nil_append, hempty, List.filterMap_cons_none hnil] at hfile
          rw [List.filterMap_cons, List.filterMap_cons, hfile]
      · rw [if_neg (not_or.mpr ⟨hb, hfull⟩)]
        apply ih (line ++ [b]) hlonger _ hfit
        rw [List.length_append, List.length_singleton]
        omega

section Decimal

variable {text digits : List UInt8}

theorem foldl_digits (h : ∀ b ∈ digits, isDigit b) :
    digits.foldl (fun (n : Int) b => 10 * n + (b.toNat - 48)) 0 = decimal digits := by
  induction digits using List.reverseRecOn with
  | nil => rfl
  | append_singleton digits b ih =>
    have hb : 48 ≤ b.toNat := by
      have hdigit := h b (by simp)
      simp only [isDigit, Bool.and_eq_true, decide_eq_true_eq] at hdigit
      exact hdigit.1
    rw [List.foldl_append, ih fun x hx => h x (by simp [hx])]
    simp only [decimal, List.foldl_cons, List.foldl_nil, List.reverse_append, List.reverse_singleton,
      List.singleton_append, List.map_cons, Nat.ofDigits_cons]
    omega

theorem strtol_eq (text : List UInt8) : strtol text =
    match (splitSign (text.dropWhile isSpace)).2.takeWhile isDigit with
    | [] => ⟨0, text, false⟩
    | digits =>
      let magnitude : Int := digits.foldl (fun n b => 10 * n + (b.toNat - 48)) 0
      let value := if (splitSign (text.dropWhile isSpace)).1 then -magnitude else magnitude
      ⟨max (-2 ^ 63) (min value (2 ^ 63 - 1)), (splitSign (text.dropWhile isSpace)).2.dropWhile isDigit,
        value < -2 ^ 63 || 2 ^ 63 - 1 < value⟩ := rfl

/-- What `strtol` reads to the end, and within the range of a `long`, is an integer
after white space. -/
theorem strtol_iff (h : text ≠ []) {n : Int} :
    ((strtol text).outOfRange = false ∧ (strtol text).rest = [] ∧ (strtol text).value = n) ↔
      integerValue (text.dropWhile isSpace) = some n ∧ -2 ^ 63 ≤ n ∧ n < 2 ^ 63 := by
  rw [strtol_eq, integerValue]
  simp only [List.all_eq_true]
  generalize splitSign (text.dropWhile isSpace) = signed
  obtain ⟨negative, body⟩ := signed
  cases hdigits : body.takeWhile isDigit with
  | nil =>
    have hnone : ¬ (body ≠ [] ∧ ∀ b ∈ body, isDigit b) := by
      rintro ⟨hne, hall⟩
      rw [List.takeWhile_eq_self_iff.mpr hall] at hdigits
      exact hne hdigits
    simp [hnone, h]
  | cons b digits =>
    by_cases hall : ∀ b ∈ body, isDigit b
    · have hbody : body.takeWhile isDigit = body := List.takeWhile_eq_self_iff.mpr hall
      have hne : body ≠ [] := by
        rintro rfl
        cases hdigits
      have hrest : body.dropWhile isDigit = [] := List.dropWhile_eq_nil_iff.mpr hall
      have hvalue : body ≠ [] ∧ ∀ b ∈ body, isDigit b := ⟨hne, hall⟩
      simp only
      rw [← hdigits, hbody, foldl_digits hall, if_pos hvalue, hrest]
      generalize (if negative = true then -(decimal body : Int) else decimal body) = value
      simp only [Bool.or_eq_false_iff, decide_eq_false_iff_not, true_and, Option.some.injEq]
      omega
    · have hrest : body.dropWhile isDigit ≠ [] := mt List.dropWhile_eq_nil_iff.mp hall
      simp [hall, hrest]

theorem integerValue_space (h : integerValue text ≠ none) : text.dropWhile isSpace = text := by
  cases text with
  | nil => rfl
  | cons b text =>
    by_cases hb : isSpace b = true
    · -- neither a sign nor a digit is white space
      have hsign : splitSign (b :: text) = (false, b :: text) := by
        rw [splitSign]
        · rintro digits ⟨⟩
          cases hb
        · rintro digits ⟨⟩
          cases hb
      have hdigit : isDigit b = false := by
        simp only [isSpace, isDigit, Bool.or_eq_true, Bool.and_eq_true, decide_eq_true_eq,
          Bool.and_eq_false_iff, decide_eq_false_iff_not] at hb ⊢
        grind
      exfalso
      apply h
      simp [integerValue, hsign, hdigit]
    · rw [List.dropWhile_cons_of_neg hb]

end Decimal

end CString
