import ParkingSystem.Lib.Runs

/-!
# Refinement of one step function by another

Steps show events. A refinement mapping takes every state of a system to one of its
specification, and every step to a step that shows the same, or to none if it shows
nothing. Then every trace of the system is a trace of the specification.
-/

namespace Runs

variable {σ τ α β ε : Type*}

/-- The events that a run shows, in order. -/
def trace (step : σ → α → Option σ) (shows : σ → α → List ε) : σ → List α → List ε
  | _, [] => []
  | s, a :: as => shows s a ++
    match step s a with
    | some s' => trace step shows s' as
    | none => []

variable {step : σ → α → Option σ} {spec : τ → β → Option τ}
  {shows : σ → α → List ε} {shows' : τ → β → List ε}
  {s s' : σ} {a : α} {as bs : List α}

@[simp] theorem trace_nil : trace step shows s [] = [] := rfl

theorem trace_cons (hs : step s a = some s') :
    trace step shows s (a :: as) = shows s a ++ trace step shows s' as := by
  simp [trace, hs]

theorem trace_append (hr : run step s as = some s') :
    trace step shows s (as ++ bs) = trace step shows s as ++ trace step shows s' bs := by
  induction as generalizing s with
  | nil =>
    obtain rfl := run_nil.mp hr
    rfl
  | cons a as ih =>
    obtain ⟨m, hm, hr⟩ := run_cons.mp hr
    rw [List.cons_append, trace_cons hm, trace_cons hm, ih hr, List.append_assoc]

/-- One system moves from `t` to `t'` in at most one step and shows the given events. -/
inductive Matched (spec : τ → β → Option τ) (shows : τ → β → List ε) (t t' : τ) :
    List ε → Prop
  | stutter (same : t' = t) : Matched spec shows t t' []
  | step (b : β) (taken : spec t b = some t') : Matched spec shows t t' (shows t b)

/-- A refinement mapping: every step is a step of `spec`, or hidden, under `f`. -/
def Refines (step : σ → α → Option σ) (shows : σ → α → List ε) (spec : τ → β → Option τ)
    (shows' : τ → β → List ε) (f : σ → τ) : Prop :=
  ∀ s a s', step s a = some s' → Matched spec shows' (f s) (f s') (shows s a)

/-- Every run of the refining system is matched by a run of its specification, and
every beginning of the one by a beginning of the other that shows the same. -/
theorem Refines.run {f : σ → τ} (h : Refines step shows spec shows' f)
    (hr : run step s as = some s') :
    ∃ bs, Runs.run spec (f s) bs = some (f s') ∧
      trace spec shows' (f s) bs = trace step shows s as ∧
      ∀ before after m, as = before ++ after → Runs.run step s before = some m →
        ∃ first rest, bs = first ++ rest ∧ Runs.run spec (f s) first = some (f m) ∧
          trace spec shows' (f s) first = trace step shows s before := by
  induction as generalizing s with
  | nil =>
    obtain rfl := run_nil.mp hr
    refine ⟨[], run_nil.mpr rfl, rfl, ?_⟩
    intro before after m has hm
    obtain ⟨rfl, -⟩ := List.append_eq_nil_iff.mp has.symm
    obtain rfl := run_nil.mp hm
    exact ⟨[], [], rfl, run_nil.mpr rfl, rfl⟩
  | cons a as ih =>
    obtain ⟨n, hn, hr⟩ := run_cons.mp hr
    obtain ⟨bs, hbs, htrace, hcut⟩ := ih hr
    -- the beginnings of the longer run are the empty one and those that begin with `a`
    have hbefore : ∀ {before after m}, a :: as = before ++ after →
        Runs.run step s before = some m → before = [] ∧ m = s ∨
          ∃ tail, before = a :: tail ∧ as = tail ++ after ∧ Runs.run step n tail = some m := by
      intro before after m has hm
      cases before with
      | nil => exact .inl ⟨rfl, (run_nil.mp hm).symm⟩
      | cons b tail =>
        obtain ⟨rfl, htail⟩ := List.cons.inj has
        obtain ⟨n', hn', hm⟩ := run_cons.mp hm
        obtain rfl : n = n' := Option.some.inj (hn.symm.trans hn')
        exact .inr ⟨tail, rfl, htail, hm⟩
    have hmatched := h s a n hn
    rw [trace_cons hn]
    generalize hshows : shows s a = events at hmatched
    cases hmatched with
    | stutter same =>
      rw [same] at hbs htrace hcut
      refine ⟨bs, hbs, htrace, ?_⟩
      intro before after m has hm
      rcases hbefore has hm with ⟨rfl, rfl⟩ | ⟨tail, rfl, has, hm⟩
      · exact ⟨[], bs, rfl, run_nil.mpr rfl, rfl⟩
      · rw [trace_cons hn, hshows]
        exact hcut tail after m has hm
    | step b taken =>
      refine ⟨b :: bs, run_cons.mpr ⟨f n, taken, hbs⟩, by rw [trace_cons taken, htrace], ?_⟩
      intro before after m has hm
      rcases hbefore has hm with ⟨rfl, rfl⟩ | ⟨tail, rfl, has, hm⟩
      · exact ⟨[], b :: bs, rfl, run_nil.mpr rfl, rfl⟩
      · obtain ⟨first, rest, rfl, hfirst, htail⟩ := hcut tail after m has hm
        refine ⟨b :: first, rest, rfl, run_cons.mpr ⟨f n, taken, hfirst⟩, ?_⟩
        rw [trace_cons taken, trace_cons hn, hshows, htail]

/-- The same for a relation between the states, for steps that meet `C`. -/
def Simulates (step : σ → α → Option σ) (shows : σ → α → List ε) (spec : τ → β → Option τ)
    (shows' : τ → β → List ε) (C : σ → α → Prop) (R : σ → τ → Prop) : Prop :=
  ∀ s a s' t, R s t → C s a → step s a = some s' →
    ∃ t', R s' t' ∧ Matched spec shows' t t' (shows s a)

theorem Simulates.run {C : σ → α → Prop} {R : σ → τ → Prop} {t : τ}
    (h : Simulates step shows spec shows' C R) (hR : R s t) (hr : run step s as = some s')
    (hc : Along step C s as) :
    ∃ bs t', Runs.run spec t bs = some t' ∧ R s' t' ∧
      trace spec shows' t bs = trace step shows s as := by
  induction as generalizing s t with
  | nil =>
    obtain rfl := run_nil.mp hr
    exact ⟨[], t, run_nil.mpr rfl, hR, rfl⟩
  | cons a as ih =>
    obtain ⟨n, hn, hr⟩ := run_cons.mp hr
    obtain ⟨ha, hc⟩ := (Along.cons hn).mp hc
    obtain ⟨u, hu, hmatched⟩ := h s a n t hR ha hn
    obtain ⟨bs, t', hbs, hR', htrace⟩ := ih hu hr hc
    rw [trace_cons hn, ← htrace]
    generalize hshows : shows s a = events at hmatched
    cases hmatched with
    | stutter same => exact ⟨bs, t', same ▸ hbs, hR', by rw [same, List.nil_append]⟩
    | step b taken => exact ⟨b :: bs, t', run_cons.mpr ⟨u, taken, hbs⟩, hR', trace_cons taken⟩

-- ---------------------------------------------------------------------------
-- Several steps for one
-- ---------------------------------------------------------------------------

/-- One system moves from `t` to `t'` in any number of steps and shows the given events. -/
def Shown (spec : τ → β → Option τ) (shows : τ → β → List ε) (t t' : τ) (events : List ε) : Prop :=
  ∃ bs, Runs.run spec t bs = some t' ∧ trace spec shows t bs = events

variable {t t' u : τ} {b : β} {events rest : List ε}

theorem Shown.nil : Shown spec shows' t t [] := ⟨[], run_nil.mpr rfl, rfl⟩

theorem Shown.append (h : Shown spec shows' t u events) (hrest : Shown spec shows' u t' rest) :
    Shown spec shows' t t' (events ++ rest) := by
  obtain ⟨bs, hbs, rfl⟩ := h
  obtain ⟨bs', hbs', rfl⟩ := hrest
  exact ⟨bs ++ bs', run_append.mpr ⟨u, hbs, hbs'⟩, trace_append hbs⟩

theorem Shown.one (hs : spec t b = some t') (hevents : shows' t b = events) :
    Shown spec shows' t t' events := by
  refine ⟨[b], run_cons.mpr ⟨t', hs, run_nil.mpr rfl⟩, ?_⟩
  rw [trace_cons hs, trace_nil, List.append_nil, hevents]

/-- A simulation in which the specification takes any number of steps for one. -/
theorem Shown.of_simulation {C : σ → α → Prop} {R : σ → τ → Prop}
    (h : ∀ s a s' t, R s t → C s a → step s a = some s' →
      ∃ t', R s' t' ∧ Shown spec shows' t t' (shows s a))
    (hR : R s t) (hr : Runs.run step s as = some s') (hc : Along step C s as) :
    ∃ t', R s' t' ∧ Shown spec shows' t t' (trace step shows s as) := by
  induction as generalizing s t with
  | nil =>
    obtain rfl := run_nil.mp hr
    exact ⟨t, hR, .nil⟩
  | cons a as ih =>
    obtain ⟨n, hn, hr⟩ := run_cons.mp hr
    obtain ⟨ha, hc⟩ := (Along.cons hn).mp hc
    obtain ⟨u, hu, hshown⟩ := h s a n t hR ha hn
    obtain ⟨t', hR', hrest⟩ := ih hu hr hc
    rw [trace_cons hn]
    exact ⟨t', hR', hshown.append hrest⟩

end Runs
