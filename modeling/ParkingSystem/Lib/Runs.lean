import Mathlib.Data.List.Induction

/-!
# Runs of a partial step function

A system is a step function `σ → α → Option σ`: the action says which thread
moves and how its environment answers, `none` says the action is not enabled.
A run is the list of its actions, so every prefix of a run is again a run and
"in every reachable state" is "at the end of every run".
-/

namespace Runs

variable {σ α : Type*} (step : σ → α → Option σ)

/-- Take the listed actions in order; `none` if one of them is not enabled. -/
def run : σ → List α → Option σ
  | s, [] => some s
  | s, a :: as => (step s a).bind fun s' => run s' as

variable {step} {s t u : σ} {a : α} {as bs : List α}

@[simp] theorem run_nil : run step s [] = some t ↔ s = t := by
  simp [run]

theorem run_cons :
    run step s (a :: as) = some t ↔ ∃ s', step s a = some s' ∧ run step s' as = some t := by
  simp [run, Option.bind_eq_some_iff]

theorem run_append :
    run step s (as ++ bs) = some t ↔
      ∃ m, run step s as = some m ∧ run step m bs = some t := by
  induction as generalizing s with
  | nil => simp [run]
  | cons a as ih =>
    simp only [List.cons_append, run_cons, ih]
    constructor
    · rintro ⟨s', hs, m, hm, ht⟩
      exact ⟨m, ⟨s', hs, hm⟩, ht⟩
    · rintro ⟨m, ⟨s', hs, hm⟩, ht⟩
      exact ⟨s', hs, m, hm, ht⟩

theorem run_concat :
    run step s (as ++ [a]) = some t ↔ ∃ m, run step s as = some m ∧ step m a = some t := by
  simp only [run_append, run_cons, run_nil]
  constructor
  · rintro ⟨m, hm, s', hs, rfl⟩
    exact ⟨m, hm, hs⟩
  · rintro ⟨m, hm, ht⟩
    exact ⟨m, hm, t, ht, rfl⟩

-- ---------------------------------------------------------------------------
-- Conditions on the steps of a run
-- ---------------------------------------------------------------------------

variable (step) in
/-- `C` holds of the state before, and the action of, every step taken. -/
def Along (C : σ → α → Prop) : σ → List α → Prop
  | _, [] => True
  | s, a :: as => C s a ∧
    match step s a with
    | some s' => Along C s' as
    | none => True

instance Along.decidable (C : σ → α → Prop) [∀ s a, Decidable (C s a)] :
    (s : σ) → (as : List α) → Decidable (Along step C s as)
  | _, [] => .isTrue trivial
  | s, a :: as =>
    have : Decidable (match step s a with
        | some s' => Along step C s' as
        | none => True) :=
      match step s a with
      | some s' => Along.decidable C s' as
      | none => .isTrue trivial
    inferInstanceAs (Decidable (_ ∧ _))

variable {C D : σ → α → Prop}

theorem Along.cons (hs : step s a = some t) :
    Along step C s (a :: as) ↔ C s a ∧ Along step C t as := by
  simp [Along, hs]

theorem Along.append (hr : run step s as = some t) :
    Along step C s (as ++ bs) ↔ Along step C s as ∧ Along step C t bs := by
  induction as generalizing s with
  | nil =>
    obtain rfl := run_nil.mp hr
    simp [Along]
  | cons a as ih =>
    obtain ⟨s', hs, hr⟩ := run_cons.mp hr
    rw [List.cons_append, Along.cons hs, Along.cons hs, ih hr, and_assoc]

theorem Along.of_forall (h : ∀ s, ∀ a ∈ as, C s a) : Along step C s as := by
  induction as generalizing s with
  | nil => trivial
  | cons a as ih =>
    refine ⟨h s a (by simp), ?_⟩
    cases step s a with
    | none => trivial
    | some s' => exact ih fun s b hb => h s b (List.mem_cons_of_mem _ hb)

theorem Along.and (hc : Along step C s as) (hd : Along step D s as) :
    Along step (fun s a => C s a ∧ D s a) s as := by
  induction as generalizing s with
  | nil => trivial
  | cons a as ih =>
    obtain ⟨hca, hc⟩ := hc
    obtain ⟨hda, hd⟩ := hd
    refine ⟨⟨hca, hda⟩, ?_⟩
    cases hs : step s a with
    | none => trivial
    | some s' =>
      simp only [hs] at hc hd
      exact ih hc hd

theorem Along.of_steps (hr : run step s as = some t)
    (h : ∀ before a after m m', as = before ++ a :: after → run step s before = some m →
      step m a = some m' → C m a) : Along step C s as := by
  induction as generalizing s with
  | nil => trivial
  | cons a as ih =>
    obtain ⟨s', hs, hr⟩ := run_cons.mp hr
    refine (Along.cons hs).mpr ⟨h [] a as s s' rfl (run_nil.mpr rfl) hs, ih hr ?_⟩
    intro before b after m m' has hm hb
    exact h (a :: before) b after m m' (by rw [has, List.cons_append])
      (run_cons.mpr ⟨s', hs, hm⟩) hb

-- ---------------------------------------------------------------------------
-- Induction over runs
-- ---------------------------------------------------------------------------

/-- What holds at the start and is kept by every step that meets `C` holds at
the end of every run whose steps all meet `C`. -/
theorem invariant_along {I : σ → Prop}
    (hstep : ∀ s a s', I s → C s a → step s a = some s' → I s')
    (h₀ : I s) (hr : run step s as = some t) (hc : Along step C s as) : I t := by
  induction as generalizing s with
  | nil => exact run_nil.mp hr ▸ h₀
  | cons a as ih =>
    obtain ⟨s', hs, hr⟩ := run_cons.mp hr
    obtain ⟨ha, hc⟩ := (Along.cons hs).mp hc
    exact ih (hstep s a s' h₀ ha hs) hr hc

theorem invariant {I : σ → Prop} (hstep : ∀ s a s', I s → step s a = some s' → I s')
    (h₀ : I s) (hr : run step s as = some t) : I t :=
  invariant_along (C := fun _ _ => True) (fun s a s' h _ hs => hstep s a s' h hs) h₀ hr
    (.of_forall fun _ _ _ => trivial)

/-- The same for what also speaks of the actions taken so far. -/
theorem invariant_history {I : List α → σ → Prop} (h₀ : I [] s)
    (hstep : ∀ as a u u', run step s as = some u → I as u → C u a → step u a = some u' →
      I (as ++ [a]) u')
    (hr : run step s as = some t) (hc : Along step C s as) : I as t := by
  induction as using List.reverseRecOn generalizing t with
  | nil => exact run_nil.mp hr ▸ h₀
  | append_singleton as a ih =>
    obtain ⟨u, hu, ht⟩ := run_concat.mp hr
    obtain ⟨hbefore, ha⟩ := (Along.append hu).mp hc
    exact hstep as a u t hu (ih hu hbefore) ((Along.cons ht).mp ha).1 ht

/-- The steps that meet `C` keep `I`; the first that misses it leads into `J`, which
is never left. -/
theorem invariant_split {I J : σ → Prop}
    (hkeep : ∀ s a s', I s → C s a → step s a = some s' → I s')
    (hmiss : ∀ s a s', I s → ¬ C s a → step s a = some s' → J s')
    (hstay : ∀ s a s', J s → step s a = some s' → J s')
    (h₀ : I s) (hr : run step s as = some t) :
    Along step C s as ∧ I t ∨ ¬ Along step C s as ∧ J t := by
  induction as generalizing s with
  | nil =>
    obtain rfl := run_nil.mp hr
    exact .inl ⟨trivial, h₀⟩
  | cons a as ih =>
    obtain ⟨s', hs, hr⟩ := run_cons.mp hr
    rw [Along.cons hs]
    by_cases ha : C s a
    · rcases ih (hkeep s a s' h₀ ha hs) hr with ⟨hc, ht⟩ | ⟨hc, ht⟩
      · exact .inl ⟨⟨ha, hc⟩, ht⟩
      · exact .inr ⟨fun h => hc h.2, ht⟩
    · exact .inr ⟨fun h => ha h.1, invariant hstay (hmiss s a s' h₀ ha hs) hr⟩

/-- The same for a run whose steps all meet `D`. -/
theorem invariant_split_along {I J : σ → Prop}
    (hkeep : ∀ s a s', I s → D s a → C s a → step s a = some s' → I s')
    (hmiss : ∀ s a s', I s → D s a → ¬ C s a → step s a = some s' → J s')
    (hstay : ∀ s a s', J s → D s a → step s a = some s' → J s')
    (h₀ : I s) (hr : run step s as = some t) (hd : Along step D s as) :
    Along step C s as ∧ I t ∨ ¬ Along step C s as ∧ J t := by
  induction as generalizing s with
  | nil =>
    obtain rfl := run_nil.mp hr
    exact .inl ⟨trivial, h₀⟩
  | cons a as ih =>
    obtain ⟨s', hs, hr⟩ := run_cons.mp hr
    obtain ⟨hda, hd⟩ := (Along.cons hs).mp hd
    rw [Along.cons hs]
    by_cases ha : C s a
    · rcases ih (hkeep s a s' h₀ hda ha hs) hr hd with ⟨hc, ht⟩ | ⟨hc, ht⟩
      · exact .inl ⟨⟨ha, hc⟩, ht⟩
      · exact .inr ⟨fun h => hc h.2, ht⟩
    · exact .inr ⟨fun h => ha h.1, invariant_along hstay (hmiss s a s' h₀ hda ha hs) hr hd⟩

/-- A condition that some step of the run misses, where missing it once leads
into `I` and `I` is never left. -/
theorem invariant_of_not_along {I : σ → Prop}
    (hstep : ∀ s a s', I s → step s a = some s' → I s')
    (hmiss : ∀ s a s', ¬ C s a → step s a = some s' → I s')
    (hr : run step s as = some t) (hc : ¬ Along step C s as) : I t := by
  rcases invariant_split (I := fun _ => True) (fun _ _ _ _ _ _ => trivial)
    (fun s a s' _ => hmiss s a s') hstep trivial hr with ⟨h, -⟩ | ⟨-, ht⟩
  · exact absurd h hc
  · exact ht

end Runs
