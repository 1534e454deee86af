import Mathlib.Logic.Function.Basic

/-!
# File descriptors

The numbers that the system hands out and takes back. A closed number may be handed out
again, so what is counted is not numbers but openings.
-/

structure FileTable where
  openings : Nat
  /-- The number that an opening was given. -/
  number : Nat → Nat
  /-- The last opening under a number. -/
  holder : Nat → Option Nat
  /-- How often an opening was closed. -/
  closes : Nat → Nat

namespace FileTable

def empty : FileTable := ⟨0, fun _ => 0, fun _ => none, fun _ => 0⟩

variable (t : FileTable)

/-- The opening that a number stands for, `none` if it is not open. -/
def opening (d : Nat) : Option Nat := (t.holder d).filter fun i => t.closes i = 0

def allocate (d : Nat) : FileTable where
  openings := t.openings + 1
  number := Function.update t.number t.openings d
  holder := Function.update t.holder d (some t.openings)
  closes := t.closes

/-- A number that is not open counts as closed once more. -/
def close (d : Nat) : FileTable :=
  match t.holder d with
  | none => t
  | some i => { t with closes := Function.update t.closes i (t.closes i + 1) }

/-- No number stands for two openings, and each opening is open or was closed once. -/
structure Sound : Prop where
  number : ∀ d i, t.holder d = some i → i < t.openings ∧ t.number i = d
  closes : ∀ i < t.openings, t.opening (t.number i) = some i ∨ t.closes i = 1
  unused : ∀ i, t.openings ≤ i → t.closes i = 0

variable {t} {t' : FileTable} {d x i j : Nat}

theorem opening_eq_some : t.opening d = some i ↔ t.holder d = some i ∧ t.closes i = 0 := by
  rw [opening, Option.filter_eq_some_iff, decide_eq_true_iff]

theorem Sound.empty : FileTable.empty.Sound where
  number _ _ h := nomatch h
  closes _ h := nomatch h
  unused _ _ := rfl

theorem holder_allocate (d x : Nat) :
    (t.allocate d).holder x = if x = d then some t.openings else t.holder x :=
  Function.update_apply ..

theorem number_allocate (d : Nat) (hi : i < t.openings) : (t.allocate d).number i = t.number i :=
  Function.update_of_ne (Nat.ne_of_lt hi) ..

theorem closes_close (hd : t.opening d = some i) :
    (t.close d).closes = Function.update t.closes i 1 := by
  obtain ⟨hholder, hcloses⟩ := opening_eq_some.mp hd
  rw [close, hholder]
  simp only
  rw [hcloses]

@[simp] theorem openings_close : (t.close d).openings = t.openings := by
  rw [close]
  split <;> rfl

@[simp] theorem number_close : (t.close d).number = t.number := by
  rw [close]
  split <;> rfl

@[simp] theorem holder_close : (t.close d).holder = t.holder := by
  rw [close]
  split <;> rfl

theorem Sound.opening_allocate (h : t.Sound) (d x : Nat) :
    (t.allocate d).opening x = if x = d then some t.openings else t.opening x := by
  ext i
  rw [opening_eq_some, holder_allocate]
  split
  · constructor
    · exact And.left
    · rintro ⟨⟩
      exact ⟨rfl, h.unused _ (Nat.le_refl _)⟩
  · exact opening_eq_some.symm

theorem Sound.opening_close (h : t.Sound) (hd : t.opening d = some i) (x : Nat) :
    (t.close d).opening x = if x = d then none else t.opening x := by
  obtain ⟨hholder, -⟩ := opening_eq_some.mp hd
  ext j
  rw [opening_eq_some, holder_close, closes_close hd]
  split
  · rename_i hx
    rw [hx, hholder]
    constructor
    · rintro ⟨⟨⟩, hcloses⟩
      rw [Function.update_self] at hcloses
      cases hcloses
    · exact nofun
  · rename_i hx
    rw [opening_eq_some]
    refine and_congr_right fun hj => ?_
    have hne : j ≠ i := by
      rintro rfl
      exact hx ((h.number x j hj).2.symm.trans (h.number d j hholder).2)
    rw [Function.update_of_ne hne]

theorem Sound.opening_allocate_eq (h : t.Sound) (d : Nat) :
    (t.allocate d).opening = Function.update t.opening d (some t.openings) := by
  funext x
  rw [h.opening_allocate, Function.update_apply]

theorem Sound.opening_close_eq (h : t.Sound) (hd : t.opening d = some i) :
    (t.close d).opening = Function.update t.opening d none := by
  funext x
  rw [h.opening_close hd, Function.update_apply]

theorem opening_of_close (h : (t.close d).opening x = some i) :
    t.opening x = some i ∧ x ≠ d := by
  obtain ⟨hholder, hcloses⟩ := opening_eq_some.mp h
  rw [holder_close] at hholder
  rw [close] at hcloses
  split at hcloses
  · rename_i hd
    refine ⟨opening_eq_some.mpr ⟨hholder, hcloses⟩, ?_⟩
    rintro rfl
    rw [hd] at hholder
    cases hholder
  · rename_i j hd
    simp only at hcloses
    have hne : i ≠ j := by
      rintro rfl
      rw [Function.update_self] at hcloses
      cases hcloses
    rw [Function.update_of_ne hne] at hcloses
    refine ⟨opening_eq_some.mpr ⟨hholder, hcloses⟩, ?_⟩
    rintro rfl
    rw [hd] at hholder
    exact hne (Option.some.inj hholder).symm

theorem Sound.opening_lt (h : t.Sound) (hd : t.opening d = some i) : i < t.openings :=
  (h.number d i (opening_eq_some.mp hd).1).1

theorem Sound.opening_inj (h : t.Sound) (hd : t.opening d = some i) (hx : t.opening x = some i) :
    d = x :=
  (h.number d i (opening_eq_some.mp hd).1).2.symm.trans (h.number x i (opening_eq_some.mp hx).1).2

theorem Sound.allocate (h : t.Sound) (hd : t.opening d = none) : (t.allocate d).Sound where
  number x i hi := by
    rw [holder_allocate] at hi
    split at hi
    · rename_i hx
      cases hi
      exact ⟨Nat.lt_succ_self _, (Function.update_self ..).trans hx.symm⟩
    · obtain ⟨hlt, hnumber⟩ := h.number x i hi
      exact ⟨Nat.lt_succ_of_lt hlt, (number_allocate d hlt).trans hnumber⟩
  closes i hi := by
    rw [h.opening_allocate]
    rcases Nat.lt_succ_iff_lt_or_eq.mp hi with hlt | rfl
    · rw [number_allocate d hlt]
      rcases h.closes i hlt with hopen | hclosed
      · rw [if_neg]
        · exact .inl hopen
        · intro heq
          rw [heq, hd] at hopen
          cases hopen
      · exact .inr hclosed
    · exact .inl (if_pos (Function.update_self ..))
  unused i hi := h.unused i (Nat.le_of_succ_le hi)

theorem Sound.close (h : t.Sound) (hd : t.opening d = some i) : (t.close d).Sound where
  number x j hj := by
    rw [holder_close] at hj
    rw [openings_close, number_close]
    exact h.number x j hj
  closes j hj := by
    rw [openings_close] at hj
    rw [h.opening_close hd, closes_close hd, number_close]
    by_cases hij : j = i
    · exact .inr (by rw [hij, Function.update_self])
    · rw [Function.update_of_ne hij]
      rcases h.closes j hj with hopen | hclosed
      · refine .inl ?_
        rw [if_neg]
        · exact hopen
        · intro hnumber
          rw [hnumber, hd] at hopen
          exact hij (Option.some.inj hopen).symm
      · exact .inr hclosed
  unused j hj := by
    rw [openings_close] at hj
    rw [closes_close hd]
    rw [Function.update_of_ne (Nat.ne_of_gt (Nat.lt_of_lt_of_le (h.opening_lt hd) hj))]
    exact h.unused j hj

/-- Later openings leave the earlier ones their numbers. -/
structure Extends (t t' : FileTable) : Prop where
  openings : t.openings ≤ t'.openings
  number : ∀ i < t.openings, t'.number i = t.number i

theorem Extends.refl (t : FileTable) : t.Extends t := ⟨Nat.le_refl _, fun _ _ => rfl⟩

theorem Extends.allocate (t : FileTable) (d : Nat) : t.Extends (t.allocate d) :=
  ⟨Nat.le_succ _, fun _ hi => number_allocate d hi⟩

theorem Extends.close (h : t.Extends t') (d : Nat) : t.Extends (t'.close d) where
  openings := by
    rw [openings_close]
    exact h.openings
  number i hi := by
    rw [number_close]
    exact h.number i hi

/-- When no number is open, everything was closed exactly once. -/
theorem Sound.closes_eq_one (h : t.Sound) (hnone : ∀ d, t.opening d = none) :
    ∀ i < t.openings, t.closes i = 1 := by
  intro i hi
  refine (h.closes i hi).resolve_left ?_
  rw [hnone]
  exact nofun

end FileTable
