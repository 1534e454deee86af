import ParkingSystem.Lib.CString
import ParkingSystem.Lib.Double

/-!
# Reading a stream

The library functions on what is left of a finite stream; nothing left is the end of the
file. `%d` takes the longest item that is, or begins, a number, and fails if it only begins
one: `scanItem` is that for the states of an automaton.
-/

namespace Stdio

open CString (isSpace isDigit)

-- ---------------------------------------------------------------------------
-- Lines
-- ---------------------------------------------------------------------------

/-- `fgets` with room for that many bytes and the terminator. -/
def fgets : Nat → List UInt8 → List UInt8 × List UInt8
  | 0, input => ([], input)
  | _ + 1, [] => ([], [])
  | room + 1, b :: input =>
    if b = 10 then ([b], input)
    else
      let (line, rest) := fgets room input
      (b :: line, rest)

-- ---------------------------------------------------------------------------
-- Items
-- ---------------------------------------------------------------------------

/-- The state in which the automaton stops, what it has read, and what it has not. -/
def scanItem {σ : Type*} (step : σ → UInt8 → Option σ) : σ → List UInt8 → σ × List UInt8 × List UInt8
  | state, [] => (state, [], [])
  | state, b :: input =>
    match step state b with
    | none => (state, [], b :: input)
    | some next =>
      let (last, item, rest) := scanItem step next input
      (last, b :: item, rest)

/-- One conversion, after white space. -/
def scan {σ α : Type*} (step : σ → UInt8 → Option σ) (start : σ) (accepts : σ → Bool)
    (value : List UInt8 → α) (input : List UInt8) : Option α × List UInt8 :=
  let (last, item, rest) := scanItem step start (input.dropWhile isSpace)
  (if accepts last then some (value item) else none, rest)

inductive IntState where
  | start
  | sign
  | digits
  deriving DecidableEq

def IntState.step (state : IntState) (b : UInt8) : Option IntState :=
  if isDigit b then some .digits
  else if state = .start ∧ (b = 45 ∨ b = 43) then some .sign
  else none

/-- `%d`: the number that `strtol` makes of the item, cut down to an `int`. -/
def scanInt : List UInt8 → Option Int × List UInt8 :=
  scan IntState.step .start (· = .digits) fun item => (CString.strtol item).value.bmod (2 ^ 32)

/-- `%lf`: the value, if one is read, and what is left. How far it reads into a text that is
no number differs from one C library to the next. -/
structure DoubleConversion where
  scan : List UInt8 → Option Double × List UInt8
  suffix : ∀ input, (scan input).2 <:+ input

-- ---------------------------------------------------------------------------
-- What is left
-- ---------------------------------------------------------------------------

section Rest

variable {σ α : Type*} {step : σ → UInt8 → Option σ} {input : List UInt8}

theorem fgets_append (room : Nat) (input : List UInt8) :
    (fgets room input).1 ++ (fgets room input).2 = input := by
  induction room generalizing input with
  | zero => rfl
  | succ room ih =>
    cases input with
    | nil => rfl
    | cons b input =>
      rw [fgets]
      split
      · rfl
      · exact congrArg (b :: ·) (ih input)

/-- A line that is not over, although bytes are left, fills the buffer. -/
theorem fgets_full {room : Nat} (h : 10 ∉ (fgets room input).1) (hmore : (fgets room input).2 ≠ []) :
    (fgets room input).1.length = room := by
  induction room generalizing input with
  | zero => rfl
  | succ room ih =>
    cases input with
    | nil => exact absurd rfl hmore
    | cons b input =>
      rw [fgets] at h hmore ⊢
      split at h
      · rename_i hb
        rw [hb] at h
        exact absurd List.mem_cons_self h
      · rename_i hb
        rw [if_neg hb] at hmore ⊢
        exact congrArg (· + 1) (ih (fun hmem => h (List.mem_cons_of_mem _ hmem)) hmore)

theorem fgets_newline {room : Nat} (h : 10 ∈ (fgets room input).1) :
    ∃ line, (fgets room input).1 = line ++ [10] := by
  induction room generalizing input with
  | zero => cases h
  | succ room ih =>
    cases input with
    | nil => cases h
    | cons b input =>
      rw [fgets] at h ⊢
      split
      · rename_i hb
        exact ⟨[], by rw [hb]; rfl⟩
      · rename_i hb
        rw [if_neg hb] at h
        rcases List.mem_cons.mp h with h | h
        · exact absurd h.symm hb
        · obtain ⟨line, hline⟩ := ih h
          exact ⟨b :: line, congrArg (b :: ·) hline⟩

theorem scanItem_append (state : σ) (input : List UInt8) :
    (scanItem step state input).2.1 ++ (scanItem step state input).2.2 = input := by
  induction input generalizing state with
  | nil => rfl
  | cons b input ih =>
    rw [scanItem]
    cases step state b with
    | none => rfl
    | some next => exact congrArg (b :: ·) (ih next)

theorem scan_suffix (start : σ) (accepts : σ → Bool) (value : List UInt8 → α) (input : List UInt8) :
    (scan step start accepts value input).2 <:+ input := by
  have hitem : (scan step start accepts value input).2 <:+ input.dropWhile isSpace :=
    ⟨_, scanItem_append start (input.dropWhile isSpace)⟩
  exact hitem.trans (List.dropWhile_suffix _)

theorem scanInt_suffix (input : List UInt8) : (scanInt input).2 <:+ input :=
  scan_suffix _ _ _ input

end Rest

end Stdio
