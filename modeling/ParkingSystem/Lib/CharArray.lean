import Mathlib.Data.List.TakeWhile

/-!
# Char arrays in place

Arrays of a fixed size with the accesses that C makes to them through pointers. A
pointer is an index; an access outside the array is a fault, `none`, so that whatever
comes back has stayed inside its arrays.
-/

namespace CString

/-- `strlen` of what starts here; a fault when the bytes end before a terminator. -/
def length? : List UInt8 → Option Nat
  | [] => none
  | b :: bytes => if b = 0 then some 0 else (length? bytes).map (· + 1)

/-- `strchr`: where the first `c` of the string is, if it has one. -/
def find? (c : UInt8) : List UInt8 → Option (Option Nat)
  | [] => none
  | b :: bytes =>
    if b = c then some (some 0)
    else if b = 0 then some none
    else (find? c bytes).map (Option.map (· + 1))

/-- How far `while (p(*str)) str++` goes. -/
def span? (p : UInt8 → Bool) : List UInt8 → Option Nat
  | [] => none
  | b :: bytes => if p b then (span? p bytes).map (· + 1) else some 0

variable {text bytes : List UInt8}

theorem length?_string (h : 0 ∉ text) : length? (text ++ 0 :: bytes) = some text.length := by
  induction text with
  | nil => rfl
  | cons b text ih =>
    obtain ⟨hb, htext⟩ := not_or.mp <| mt List.mem_cons.mpr h
    simp [length?, Ne.symm hb, ih htext]

theorem find?_of_mem {left right : List UInt8} {c : UInt8} (h : 0 ∉ left) (hc : c ∉ left) :
    find? c (left ++ c :: right) = some (some left.length) := by
  induction left with
  | nil => simp [find?]
  | cons b left ih =>
    obtain ⟨hb, hleft⟩ := not_or.mp <| mt List.mem_cons.mpr h
    obtain ⟨hne, hrest⟩ := not_or.mp <| mt List.mem_cons.mpr hc
    simp [find?, Ne.symm hb, Ne.symm hne, ih hleft hrest]

theorem find?_of_not_mem {c : UInt8} (h : 0 ∉ text) (hc : c ∉ text) (hzero : c ≠ 0) :
    find? c (text ++ 0 :: bytes) = some none := by
  induction text with
  | nil => simp [find?, Ne.symm hzero]
  | cons b text ih =>
    obtain ⟨hb, htext⟩ := not_or.mp <| mt List.mem_cons.mpr h
    obtain ⟨hne, hrest⟩ := not_or.mp <| mt List.mem_cons.mpr hc
    simp [find?, Ne.symm hb, Ne.symm hne, ih htext hrest]

theorem span?_eq {p : UInt8 → Bool} {skipped : List UInt8} {b : UInt8}
    (h : ∀ x ∈ skipped, p x = true) (hb : p b = false) :
    span? p (skipped ++ b :: bytes) = some skipped.length := by
  induction skipped with
  | nil => simp [span?, hb]
  | cons x skipped ih =>
    obtain ⟨hx, hrest⟩ := List.forall_mem_cons.mp h
    simp [span?, hx, ih hrest]

end CString

structure CharArray (size : Nat) where
  bytes : List UInt8
  length_bytes : bytes.length = size

namespace CharArray

variable {size : Nat} (a : CharArray size)

def load (i : Nat) : Option UInt8 := a.bytes[i]?

def store (i : Nat) (b : UInt8) : Option (CharArray size) :=
  if i < size then some ⟨a.bytes.set i b, by simp [a.length_bytes]⟩ else none

def fill (text : List UInt8) : Option (CharArray size) :=
  if h : text.length < size then
    some ⟨text ++ 0 :: a.bytes.drop (text.length + 1), by simp [a.length_bytes]; omega⟩
  else none

/-- `strncpy(a, text, n)` writes all of the first `n` bytes. -/
def strncpy (text : List UInt8) (n : Nat) : Option (CharArray size) :=
  if h : n ≤ size then
    some ⟨text.take n ++ List.replicate (n - text.length) 0 ++ a.bytes.drop n, by
      simp [a.length_bytes]; omega⟩
  else none

def string (i : Nat) : Option (List UInt8) :=
  (CString.length? (a.bytes.drop i)).map fun n => (a.bytes.drop i).take n

variable {a} {front rest text : List UInt8}

theorem load_eq {b : UInt8} (h : a.bytes = front ++ b :: rest) : a.load front.length = some b := by
  simp [load, h]

theorem store_eq {b : UInt8} (h : a.bytes = front ++ b :: rest) (c : UInt8) :
    ∃ a', a.store front.length c = some a' ∧ a'.bytes = front ++ c :: rest := by
  have hsize : front.length < size := by
    rw [← a.length_bytes, h, List.length_append, List.length_cons]
    omega
  refine ⟨_, if_pos hsize, ?_⟩
  simp [h, List.set_append_right]

theorem fill_eq (h : text.length < size) :
    ∃ a' rest, a.fill text = some a' ∧ a'.bytes = text ++ 0 :: rest :=
  ⟨_, _, dif_pos h, rfl⟩

theorem string_eq (h : a.bytes = front ++ (text ++ 0 :: rest)) (hzero : 0 ∉ text) :
    a.string front.length = some text := by
  simp [string, h, CString.length?_string hzero]

/-- A `strncpy` that leaves room for the terminator stores the text, cut to fit. -/
theorem strncpy_string (hzero : 0 ∉ text) {n : Nat} (hn : n < size) :
    ∃ a' a'', a.strncpy text n = some a' ∧ a'.store n 0 = some a'' ∧
      a''.string 0 = some (text.take n) := by
  obtain ⟨b, rest, hrest⟩ : ∃ b rest, a.bytes.drop n = b :: rest := by
    apply List.exists_cons_of_length_pos
    rw [List.length_drop, a.length_bytes]
    omega
  let padding := List.replicate (n - text.length) (0 : UInt8)
  have hlength : (text.take n ++ padding).length = n := by
    simp only [padding, List.length_append, List.length_take, List.length_replicate]
    omega
  obtain ⟨a', hcopy, hbytes⟩ : ∃ a', a.strncpy text n = some a' ∧
      a'.bytes = text.take n ++ padding ++ b :: rest := ⟨_, dif_pos hn.le, by simp [padding, hrest]⟩
  obtain ⟨a'', hstore, hstored⟩ := store_eq hbytes 0
  rw [hlength] at hstore
  -- the padding and the last store are one run of zeros
  have hzeros : padding ++ 0 :: rest = 0 :: (padding ++ rest) := by
    rw [← List.cons_append, ← List.replicate_succ, List.replicate_succ', List.append_assoc]
    rfl
  rw [List.append_assoc, hzeros] at hstored
  refine ⟨a', a'', hcopy, hstore, ?_⟩
  have hstart : a''.bytes = [] ++ (text.take n ++ 0 :: (padding ++ rest)) := hstored
  exact string_eq hstart fun h => hzero (List.mem_of_mem_take h)

end CharArray
