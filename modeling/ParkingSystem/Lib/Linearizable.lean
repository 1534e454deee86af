import Mathlib.Data.List.Basic

/-!
# Linearizable objects

Concurrent calls on one object, seen from outside: a history is the list of
invocations and returns, oldest first. `Linearizes` says that the calls took
effect one at a time in the order `order`, with the answers that a sequential
object gives, and that no call took effect before one that had returned when it
was invoked. A call may also be refused: it returns a fixed answer and has no
effect.

A proof goes along a run, with one rule for each kind of step: `invoke`,
`commit` (the call takes effect), `refuse` and `respond`.
-/

namespace Linearizable

variable {κ α σ : Type*}

inductive Event (κ α : Type*) where
  | invoked (id : Nat) (call : κ)
  | returned (id : Nat) (answer : α)
  deriving DecidableEq

/-- A call that took effect, and its answer. -/
structure Commit (κ α : Type*) where
  id : Nat
  call : κ
  answer : α

/-- The answers of the sequential object to some calls, and its last state. -/
def replay (exec : σ → κ → α × σ) : σ → List κ → List α × σ
  | s, [] => ([], s)
  | s, call :: calls =>
    let (answer, s) := exec s call
    let (answers, s) := replay exec s calls
    (answer :: answers, s)

/-- `a` had returned when `b` was invoked. -/
def Precedes (history : List (Event κ α)) (a b : Nat) : Prop :=
  ∃ before after, history = before ++ after ∧ (∃ answer, .returned a answer ∈ before) ∧
    ∃ call, .invoked b call ∈ after

structure Linearizes (exec : σ → κ → α × σ) (refusal : κ → α) (start : σ)
    (history : List (Event κ α)) (refused : List Nat) (order : List (Commit κ α)) : Prop where
  once : (order.map Commit.id).Nodup
  legal : (replay exec start (order.map Commit.call)).1 = order.map Commit.answer
  invoked : ∀ c ∈ order, .invoked c.id c.call ∈ history
  realTime : order.Pairwise fun c c' => ¬ Precedes history c'.id c.id
  noEffect : ∀ id ∈ refused, id ∉ order.map Commit.id
  returned : ∀ id answer, .returned id answer ∈ history →
    (∃ c ∈ order, c.id = id ∧ c.answer = answer) ∨
    (id ∈ refused ∧ ∃ call, .invoked id call ∈ history ∧ answer = refusal call)

variable {exec : σ → κ → α × σ} {refusal : κ → α} {start : σ} {history : List (Event κ α)}
  {refused : List Nat} {order : List (Commit κ α)} {id : Nat} {call : κ} {answer : α}

theorem replay_concat {calls : List κ} :
    replay exec start (calls ++ [call]) =
      ((replay exec start calls).1 ++ [(exec (replay exec start calls).2 call).1],
        (exec (replay exec start calls).2 call).2) := by
  induction calls generalizing start with
  | nil => rfl
  | cons c calls ih => simp [replay, ih]

theorem Precedes.of_concat {e : Event κ α} {a b : Nat} (h : Precedes (history ++ [e]) a b) :
    Precedes history a b ∨
      ∃ call, e = .invoked b call ∧ ∃ answer, .returned a answer ∈ history := by
  obtain ⟨before, after, hsplit, ⟨answer, hbefore⟩, call, hafter⟩ := h
  rcases List.eq_nil_or_concat after with rfl | ⟨middle, last, rfl⟩
  · simp at hafter
  · rw [List.concat_eq_append] at hsplit hafter
    rw [← List.append_assoc] at hsplit
    obtain ⟨rfl, hlast⟩ := List.append_inj' hsplit rfl
    cases hlast
    rcases List.mem_append.mp hafter with hmiddle | hlast
    · exact .inl ⟨before, middle, rfl, ⟨answer, hbefore⟩, call, hmiddle⟩
    · exact .inr ⟨call, (List.mem_singleton.mp hlast).symm, answer, List.mem_append_left _ hbefore⟩

theorem Precedes.returned {a b : Nat} (h : Precedes history a b) :
    ∃ answer, .returned a answer ∈ history := by
  obtain ⟨before, after, rfl, ⟨answer, hbefore⟩, -⟩ := h
  exact ⟨answer, List.mem_append_left _ hbefore⟩

namespace Linearizes

theorem empty : Linearizes exec refusal start [] [] [] :=
  ⟨.nil, rfl, by simp, .nil, by simp, by simp⟩

theorem invoke (h : Linearizes exec refusal start history refused order)
    (hnew : ∀ call, .invoked id call ∉ history) :
    Linearizes exec refusal start (history ++ [.invoked id call]) refused order := by
  refine ⟨h.once, h.legal, fun c hc => List.mem_append_left _ (h.invoked c hc), ?_, h.noEffect, ?_⟩
  · refine h.realTime.imp_of_mem fun {c c'} hc _ hreal hprec => ?_
    rcases hprec.of_concat with hprec | ⟨_, he, -⟩
    · exact hreal hprec
    · cases he
      exact hnew _ (h.invoked c hc)
  · intro i a hi
    rcases List.mem_append.mp hi with hi | hi
    · rcases h.returned i a hi with hc | ⟨href, call, hcall, ha⟩
      · exact .inl hc
      · exact .inr ⟨href, call, List.mem_append_left _ hcall, ha⟩
    · simp at hi

/-- A call takes effect between its invocation and its return. -/
theorem commit (h : Linearizes exec refusal start history refused order)
    (hinvoked : .invoked id call ∈ history) (hopen : ∀ answer, .returned id answer ∉ history)
    (honce : id ∉ order.map Commit.id) (hnot : id ∉ refused)
    (hanswer : answer = (exec (replay exec start (order.map Commit.call)).2 call).1) :
    Linearizes exec refusal start history refused (order ++ [⟨id, call, answer⟩]) := by
  refine ⟨?_, ?_, ?_, ?_, ?_, ?_⟩
  · rw [List.map_append, List.map_singleton]
    exact (List.perm_append_singleton id _).nodup_iff.mpr (List.nodup_cons.mpr ⟨honce, h.once⟩)
  · simp [replay_concat, h.legal, hanswer]
  · intro c hc
    rcases List.mem_append.mp hc with hc | hc
    · exact h.invoked c hc
    · cases List.mem_singleton.mp hc
      exact hinvoked
  · rw [List.pairwise_append]
    refine ⟨h.realTime, List.pairwise_singleton _ _, fun c _ c' hc' hprec => ?_⟩
    cases List.mem_singleton.mp hc'
    obtain ⟨a, ha⟩ := hprec.returned
    exact hopen a ha
  · intro i hi hmem
    simp only [List.map_append, List.map_cons, List.map_nil, List.mem_append,
      List.mem_singleton] at hmem
    rcases hmem with hmem | rfl
    · exact h.noEffect i hi hmem
    · exact hnot hi
  · intro i a hi
    rcases h.returned i a hi with ⟨c, hc, hid⟩ | href
    · exact .inl ⟨c, List.mem_append_left _ hc, hid⟩
    · exact .inr href

theorem refuse (h : Linearizes exec refusal start history refused order)
    (honce : id ∉ order.map Commit.id) :
    Linearizes exec refusal start history (id :: refused) order := by
  refine ⟨h.once, h.legal, h.invoked, h.realTime, ?_, ?_⟩
  · rintro i (_ | ⟨_, hi⟩)
    · exact honce
    · exact h.noEffect i hi
  · intro i a hi
    rcases h.returned i a hi with hc | ⟨href, hcall⟩
    · exact .inl hc
    · exact .inr ⟨List.mem_cons_of_mem _ href, hcall⟩

/-- A call returns what it was answered when it took effect, or the refusal. -/
theorem respond (h : Linearizes exec refusal start history refused order)
    (hanswer : (∃ c ∈ order, c.id = id ∧ c.answer = answer) ∨
      (id ∈ refused ∧ ∃ call, .invoked id call ∈ history ∧ answer = refusal call)) :
    Linearizes exec refusal start (history ++ [.returned id answer]) refused order := by
  refine ⟨h.once, h.legal, fun c hc => List.mem_append_left _ (h.invoked c hc), ?_, h.noEffect, ?_⟩
  · refine h.realTime.imp fun hreal hprec => ?_
    rcases hprec.of_concat with hprec | ⟨_, he, -⟩
    · exact hreal hprec
    · cases he
  · intro i a hi
    have hkept : ((∃ c ∈ order, c.id = i ∧ c.answer = a) ∨
        (i ∈ refused ∧ ∃ call, .invoked i call ∈ history ∧ a = refusal call)) := by
      rcases List.mem_append.mp hi with hi | hi
      · exact h.returned i a hi
      · cases List.mem_singleton.mp hi
        exact hanswer
    rcases hkept with hc | ⟨href, call, hcall, ha⟩
    · exact .inl hc
    · exact .inr ⟨href, call, List.mem_append_left _ hcall, ha⟩

end Linearizes

end Linearizable
