import Mathlib.Data.List.Basic

/-!
# Opening and closing events

A history is the list of its events, the newest first. Some events open and
some close; `lastOpen` is what is open now. In a history that `Alternates`,
where nothing was opened while something was open, the open event is the only
one that no closing event follows.
-/

namespace History

variable {α : Type*} (opens closes : α → Prop)

/-- `e` opens and none of the `newer` events closes. -/
structure OpenAt (history newer : List α) (e : α) (older : List α) : Prop where
  split : history = newer ++ e :: older
  isOpen : opens e
  unclosed : ∀ x ∈ newer, ¬ closes x

section

variable [DecidablePred opens] [DecidablePred closes]

def lastOpen : List α → Option α
  | [] => none
  | e :: older => if opens e then some e else if closes e then none else lastOpen older

/-- Every opening event found nothing open. -/
def Alternates (history : List α) : Prop :=
  ∀ newer e older, history = newer ++ e :: older → opens e → lastOpen opens closes older = none

end

variable {opens closes} [DecidablePred opens] [DecidablePred closes]
  {history newer older newer' older' : List α} {e e' : α}

theorem lastOpen_cons_of_opens (h : opens e) : lastOpen opens closes (e :: older) = some e := by
  simp [lastOpen, h]

theorem lastOpen_cons_of_closes (ho : ¬ opens e) (hc : closes e) :
    lastOpen opens closes (e :: older) = none := by
  simp [lastOpen, ho, hc]

theorem lastOpen_cons_of_neither (ho : ¬ opens e) (hc : ¬ closes e) :
    lastOpen opens closes (e :: older) = lastOpen opens closes older := by
  simp [lastOpen, ho, hc]

theorem exists_openAt (h : lastOpen opens closes history = some e) :
    ∃ newer older, OpenAt opens closes history newer e older := by
  induction history with
  | nil => cases h
  | cons x history ih =>
    by_cases ho : opens x
    · rw [lastOpen_cons_of_opens ho] at h
      cases h
      exact ⟨[], history, rfl, ho, by simp⟩
    by_cases hc : closes x
    · rw [lastOpen_cons_of_closes ho hc] at h
      cases h
    · rw [lastOpen_cons_of_neither ho hc] at h
      obtain ⟨newer, older, rfl, hopen, hnewer⟩ := ih h
      exact ⟨x :: newer, older, rfl, hopen, List.forall_mem_cons.mpr ⟨hc, hnewer⟩⟩

theorem OpenAt.lastOpen_ne_none (h : OpenAt opens closes history newer e older) :
    lastOpen opens closes history ≠ none := by
  obtain ⟨rfl, hopen, hnewer⟩ := h
  induction newer with
  | nil => simp [lastOpen_cons_of_opens hopen]
  | cons x newer ih =>
    obtain ⟨hc, hnewer⟩ := List.forall_mem_cons.mp hnewer
    by_cases ho : opens x
    · simp [lastOpen_cons_of_opens ho]
    · rw [List.cons_append, lastOpen_cons_of_neither ho hc]
      exact ih hnewer

namespace Alternates

theorem nil : Alternates opens closes [] := by
  intro newer e older h
  simp at h

theorem cons (ha : Alternates opens closes history)
    (he : opens e → lastOpen opens closes history = none) :
    Alternates opens closes (e :: history) := by
  intro newer x older h hx
  cases newer with
  | nil =>
    obtain ⟨rfl, rfl⟩ := List.cons.inj h
    exact he hx
  | cons y newer =>
    obtain ⟨rfl, htail⟩ := List.cons.inj h
    exact ha newer x older htail hx

theorem tail (ha : Alternates opens closes (e :: history)) : Alternates opens closes history :=
  fun newer x older h => ha (e :: newer) x older (by rw [h, List.cons_append])

theorem of_append (ha : Alternates opens closes (newer ++ older)) :
    Alternates opens closes older :=
  fun newer' x older' h => ha (newer ++ newer') x older' (by rw [h, List.append_assoc])

end Alternates

/-- Of two open events one would have been opened while the other was open. -/
theorem OpenAt.unique (ha : Alternates opens closes history)
    (h : OpenAt opens closes history newer e older)
    (h' : OpenAt opens closes history newer' e' older') :
    newer' = newer ∧ e' = e ∧ older' = older := by
  induction history generalizing newer newer' with
  | nil => simpa using h.split
  | cons x history ih =>
    obtain ⟨hs, hopen, hnewer⟩ := h
    obtain ⟨hs', hopen', hnewer'⟩ := h'
    cases newer with
    | nil =>
      obtain ⟨rfl, rfl⟩ := List.cons.inj hs
      cases newer' with
      | nil =>
        obtain ⟨rfl, rfl⟩ := List.cons.inj hs'
        exact ⟨rfl, rfl, rfl⟩
      | cons y newer' =>
        obtain ⟨rfl, htail'⟩ := List.cons.inj hs'
        obtain ⟨-, hnewer'⟩ := List.forall_mem_cons.mp hnewer'
        exact absurd (ha [] _ _ rfl hopen) (OpenAt.mk htail' hopen' hnewer').lastOpen_ne_none
    | cons y newer =>
      obtain ⟨rfl, htail⟩ := List.cons.inj hs
      obtain ⟨-, hnewer⟩ := List.forall_mem_cons.mp hnewer
      cases newer' with
      | nil =>
        obtain ⟨rfl, rfl⟩ := List.cons.inj hs'
        exact absurd (ha [] _ _ rfl hopen') (OpenAt.mk htail hopen hnewer).lastOpen_ne_none
      | cons z newer' =>
        obtain ⟨rfl, htail'⟩ := List.cons.inj hs'
        obtain ⟨-, hnewer''⟩ := List.forall_mem_cons.mp hnewer'
        obtain ⟨rfl, rfl, rfl⟩ := ih ha.tail ⟨htail, hopen, hnewer⟩ ⟨htail', hopen', hnewer''⟩
        exact ⟨rfl, rfl, rfl⟩

end History
