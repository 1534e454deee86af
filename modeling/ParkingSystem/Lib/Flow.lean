import Mathlib.Data.List.Perm.Basic

/-!
# First-in first-out flows

Items enter a line of queues and hands at one end, leave it at the other, and
may be dropped anywhere on the way. `inside` is the whole line read as one
list, the oldest item first: passing an item from one queue to the next does
not change it, so a system that chains queues makes only the steps below.
-/

namespace Fifo

structure Flow (α : Type*) where
  entered : List α
  inside : List α
  left : List α
  dropped : List α

namespace Flow

variable {α β : Type*} {f g : Flow α}

inductive Step (f g : Flow α) : Prop
  | idle (same : g = f)
  | enter (x : α) (entered : g.entered = f.entered ++ [x]) (inside : g.inside = f.inside ++ [x])
      (left : g.left = f.left) (dropped : g.dropped = f.dropped)
  | leave (x : α) (entered : g.entered = f.entered) (inside : f.inside = x :: g.inside)
      (left : g.left = f.left ++ [x]) (dropped : g.dropped = f.dropped)
  | drop (x : α) (before after : List α) (entered : g.entered = f.entered)
      (was : f.inside = before ++ x :: after) (inside : g.inside = before ++ after)
      (left : g.left = f.left) (dropped : g.dropped = f.dropped ++ [x])

def empty : Flow α := ⟨[], [], [], []⟩

/-- What left and what is inside is in the order in which it entered, each
item at most as often as it entered. -/
def Ordered (f : Flow α) : Prop := (f.left ++ f.inside).Sublist f.entered

/-- Nothing is lost but what was dropped. -/
def Accounted (f : Flow α) : Prop := f.entered.Perm (f.left ++ f.inside ++ f.dropped)

theorem Ordered.empty : Ordered (empty : Flow α) := .slnil

theorem Accounted.empty : Accounted (empty : Flow α) := .nil

theorem Ordered.step (h : f.Ordered) (hs : Step f g) : g.Ordered := by
  cases hs with
  | idle same => exact same ▸ h
  | enter x entered inside left dropped =>
    rw [Ordered, entered, inside, left, ← List.append_assoc]
    exact h.append (.refl _)
  | leave x entered inside left dropped =>
    rw [Ordered, entered, left, List.append_assoc, List.singleton_append, ← inside]
    exact h
  | drop x before after entered was inside left dropped =>
    rw [Ordered, entered, inside, left]
    refine .trans ?_ h
    rw [was]
    exact (List.Sublist.refl _).append ((List.Sublist.refl _).append (List.sublist_cons_self _ _))

theorem Accounted.step (h : f.Accounted) (hs : Step f g) : g.Accounted := by
  cases hs with
  | idle same => exact same ▸ h
  | enter x entered inside left dropped =>
    rw [Accounted, entered, inside, left, dropped]
    refine (h.append_right [x]).trans ?_
    simp only [List.append_assoc]
    exact .append_left _ (.append_left _ List.perm_append_comm)
  | leave x entered inside left dropped =>
    rw [Accounted, entered, left, dropped]
    rw [Accounted, inside] at h
    simpa using h
  | drop x before after entered was inside left dropped =>
    rw [Accounted, entered, inside, left, dropped]
    refine h.trans ?_
    rw [was]
    simp only [List.append_assoc]
    refine .append_left _ (.append_left _ ?_)
    rw [← List.append_assoc]
    exact (List.perm_append_singleton _ _).symm

theorem Accounted.mem (h : f.Accounted) {x : α} (hx : x ∈ f.entered) :
    x ∈ f.left ∨ x ∈ f.inside ∨ x ∈ f.dropped := by
  have := h.mem_iff.mp hx
  simp only [List.mem_append] at this
  tauto

theorem Ordered.left_sublist (h : f.Ordered) : f.left.Sublist f.entered :=
  .trans (List.sublist_append_left _ _) h

end Flow
end Fifo
