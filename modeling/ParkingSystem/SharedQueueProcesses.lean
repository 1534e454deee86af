import ParkingSystem.Lib.Linearizable
import ParkingSystem.Lib.Runs
import ParkingSystem.SharedQueue

/-!
# Processes on one queue

`push` and `pop` of any number of processes that attached to the same
`SharedQueue`, cut where another process can come in between: `sem_wait`, the
test of `count`, the copy of the record, the update of the index, the update of
`count`, `sem_post`. `sem_wait` may be interrupted by a signal, and the call then
returns false without having touched the queue.

The semaphore owns the region: while it is free the bytes stand for a list of
records, while it is held they are those of the holder's call cut off somewhere
in the middle. A call takes effect at its `sem_post`.
-/

namespace ParkingSystem

open Fifo (Call Answer)
open Linearizable (Event Commit Linearizes replay)
open Runs (run)

def refusal : Call (List UInt8) → Answer (List UInt8)
  | .push _ => .pushed false
  | .pop => .popped none

namespace SharedQueue

variable (q : SharedQueue) (mem : Memory)

-- ---------------------------------------------------------------------------
-- The steps of a call
-- ---------------------------------------------------------------------------

def rejects : Call (List UInt8) → Bool
  | .push _ => mem.readWord q.capacityAt ≤ mem.readWord q.countAt
  | .pop => mem.readWord q.countAt = 0

def copyRecord : Call (List UInt8) → Answer (List UInt8) × Memory
  | .push item =>
    let size := mem.readWord q.elementSizeAt
    (.pushed true,
      mem.write (q.dataAt + sizeT (mem.readWord q.tailAt * size)) (item.take size))
  | .pop =>
    let size := mem.readWord q.elementSizeAt
    (.popped (some (mem.read (q.dataAt + sizeT (mem.readWord q.headAt * size)) size)), mem)

def updateIndex : Call (List UInt8) → Memory
  | .push _ =>
    mem.writeWord q.tailAt (sizeT (mem.readWord q.tailAt + 1) % mem.readWord q.capacityAt)
  | .pop =>
    mem.writeWord q.headAt (sizeT (mem.readWord q.headAt + 1) % mem.readWord q.capacityAt)

def updateCount : Call (List UInt8) → Memory
  | .push _ => mem.writeWord q.countAt (mem.readWord q.countAt + 1)
  | .pop => mem.writeWord q.countAt (mem.readWord q.countAt - 1)

/-- The steps in their order are the whole call. -/
theorem exec_eq_steps (hvalid : q.valid = true) (call : Call (List UInt8)) :
    q.exec mem call =
      if q.rejects mem call then (refusal call, mem)
      else ((q.copyRecord mem call).1,
        q.updateCount (q.updateIndex (q.copyRecord mem call).2 call) call) := by
  cases call with
  | push item =>
    by_cases hfull : mem.readWord q.capacityAt ≤ mem.readWord q.countAt
    · simp [exec, push, rejects, hvalid, SemCalls.succeed, hfull, refusal]
    · simp [exec, push, rejects, hvalid, SemCalls.succeed, hfull, copyRecord, updateIndex,
        updateCount]
  | pop =>
    by_cases hempty : mem.readWord q.countAt = 0
    · simp [exec, pop, rejects, hvalid, SemCalls.succeed, hempty, refusal]
    · simp [exec, pop, rejects, hvalid, SemCalls.succeed, hempty, copyRecord, updateIndex,
        updateCount]

end SharedQueue

/-- Where a process is in a call: before the step of that name. -/
inductive QueuePc where
  | idle
  | semWait (id : Nat) (call : Call (List UInt8))
  | test (id : Nat) (call : Call (List UInt8))
  | copyRecord (id : Nat) (call : Call (List UInt8))
  | updateIndex (id : Nat) (call : Call (List UInt8)) (answer : Answer (List UInt8))
  | updateCount (id : Nat) (call : Call (List UInt8)) (answer : Answer (List UInt8))
  | semPost (id : Nat) (call : Call (List UInt8)) (answer : Answer (List UInt8))
  | leave (id : Nat) (answer : Answer (List UInt8))

def QueuePc.inside : QueuePc → Bool
  | .test .. | .copyRecord .. | .updateIndex .. | .updateCount .. | .semPost .. => true
  | _ => false

/-- The call that has yet to take effect. -/
def QueuePc.pending : QueuePc → Option (Nat × Call (List UInt8))
  | .semWait id call | .test id call | .copyRecord id call | .updateIndex id call _
  | .updateCount id call _ | .semPost id call _ => some (id, call)
  | _ => none

/-- The processes `π` and what they share. The last four fields are the record
of the run: how many calls were invoked, the history, the calls whose `sem_wait`
was interrupted, and the others in the order of their `sem_post`. -/
structure QueueState (π : Type) where
  mem : Memory
  semaphore : Nat
  pc : π → QueuePc
  calls : Nat
  history : List (Event (Call (List UInt8)) (Answer (List UInt8)))
  refused : List Nat
  order : List (Commit (Call (List UInt8)) (Answer (List UInt8)))

inductive QueueStep where
  | invoke (call : Call (List UInt8))
  /-- `sem_wait` fails with EINTR. -/
  | interrupted
  | next

namespace QueueState

variable {π : Type}

def initial (π : Type) (mem : Memory) : QueueState π := ⟨mem, 1, fun _ => .idle, 0, [], [], []⟩

variable [DecidableEq π] (q : SharedQueue)

def move (s : QueueState π) (p : π) (pc : QueuePc) : QueueState π :=
  { s with pc := Function.update s.pc p pc }

/-- The records have the size that the queue was created for: `push` reads
`element_size` bytes from its argument. -/
def Sized : Call (List UInt8) → Prop
  | .push item => item.length = q.elementSize
  | .pop => True

instance (call : Call (List UInt8)) : Decidable (Sized q call) := by
  unfold Sized
  split <;> infer_instance

def step (s : QueueState π) (a : π × QueueStep) : Option (QueueState π) :=
  match s.pc a.1, a.2 with
  | .idle, .invoke call =>
    if Sized q call then
      some { s.move a.1 (.semWait s.calls call) with
        calls := s.calls + 1
        history := s.history ++ [.invoked s.calls call] }
    else none
  | .semWait id call, .next =>
    if 0 < s.semaphore then
      some { s.move a.1 (.test id call) with semaphore := s.semaphore - 1 }
    else none
  | .semWait id call, .interrupted =>
    some { s.move a.1 (.leave id (refusal call)) with refused := id :: s.refused }
  | .test id call, .next =>
    some (s.move a.1
      (if q.rejects s.mem call then .semPost id call (refusal call) else .copyRecord id call))
  | .copyRecord id call, .next =>
    let (answer, mem) := q.copyRecord s.mem call
    some { s.move a.1 (.updateIndex id call answer) with mem := mem }
  | .updateIndex id call answer, .next =>
    some { s.move a.1 (.updateCount id call answer) with mem := q.updateIndex s.mem call }
  | .updateCount id call answer, .next =>
    some { s.move a.1 (.semPost id call answer) with mem := q.updateCount s.mem call }
  | .semPost id call answer, .next =>
    some { s.move a.1 (.leave id answer) with
      semaphore := s.semaphore + 1
      order := s.order ++ [⟨id, call, answer⟩] }
  | .leave id answer, .next =>
    some { s.move a.1 .idle with history := s.history ++ [.returned id answer] }
  | _, _ => none

-- ---------------------------------------------------------------------------
-- What one step can do
-- ---------------------------------------------------------------------------

inductive Advance (mem : Memory) : QueuePc → QueuePc → Memory → Prop
  | rejected (rejects : q.rejects mem call = true) :
      Advance mem (.test n call) (.semPost n call (refusal call)) mem
  | accepted (rejects : ¬ q.rejects mem call = true) :
      Advance mem (.test n call) (.copyRecord n call) mem
  | copied : Advance mem (.copyRecord n call)
      (.updateIndex n call (q.copyRecord mem call).1) (q.copyRecord mem call).2
  | indexed : Advance mem (.updateIndex n call answer) (.updateCount n call answer)
      (q.updateIndex mem call)
  | counted : Advance mem (.updateCount n call answer) (.semPost n call answer)
      (q.updateCount mem call)

inductive Change (s : QueueState π) (p : π) : QueueState π → Prop
  | invoked (call : Call (List UInt8)) (place : s.pc p = .idle) (sized : Sized q call) :
      Change s p { s.move p (.semWait s.calls call) with
        calls := s.calls + 1
        history := s.history ++ [.invoked s.calls call] }
  | acquired (place : s.pc p = .semWait n call) (free : 0 < s.semaphore) :
      Change s p { s.move p (.test n call) with semaphore := s.semaphore - 1 }
  | interrupted (place : s.pc p = .semWait n call) :
      Change s p { s.move p (.leave n (refusal call)) with refused := n :: s.refused }
  | advanced (pc : QueuePc) (mem : Memory) (advance : Advance q s.mem (s.pc p) pc mem) :
      Change s p { s.move p pc with mem := mem }
  | posted (place : s.pc p = .semPost n call answer) :
      Change s p { s.move p (.leave n answer) with
        semaphore := s.semaphore + 1
        order := s.order ++ [⟨n, call, answer⟩] }
  | left (place : s.pc p = .leave n answer) :
      Change s p { s.move p .idle with history := s.history ++ [.returned n answer] }

variable {q} {s s' : QueueState π}

theorem step_cases {a : π × QueueStep} (h : s.step q a = some s') : Change q s a.1 s' := by
  unfold step at h
  split at h
  · rename_i place _
    split at h
    · cases h
      exact .invoked _ place ‹_›
    · cases h
  · rename_i place _
    split at h
    · cases h
      exact .acquired place ‹_›
    · cases h
  · rename_i place _
    cases h
    exact .interrupted place
  · rename_i place _
    cases h
    split
    · exact .advanced _ _ (place ▸ .rejected ‹_›)
    · exact .advanced _ _ (place ▸ .accepted ‹_›)
  · rename_i place _
    cases h
    exact .advanced _ _ (place ▸ .copied)
  · rename_i place _
    cases h
    exact .advanced _ _ (place ▸ .indexed)
  · rename_i place _
    cases h
    exact .advanced _ _ (place ▸ .counted)
  · rename_i place _
    cases h
    exact .posted place
  · rename_i place _
    cases h
    exact .left place
  · cases h

end QueueState

-- ---------------------------------------------------------------------------
-- The semaphore
-- ---------------------------------------------------------------------------

section Semaphore

variable {π : Type} {q : SharedQueue} {mem mem' : Memory} {records : List (List UInt8)} {sem : Nat}
  {pc : π → QueuePc} {p : π} {x : QueuePc}

variable (q mem records) in
/-- The memory as the holder of the semaphore has left it so far, on its way
from one that stood for `records`. -/
def Progress : QueuePc → Prop
  | .test _ _ => q.Represents mem records
  | .copyRecord _ call => q.Represents mem records ∧ ¬ q.rejects mem call = true
  | .updateIndex _ call answer => ∃ m, q.Represents m records ∧ ¬ q.rejects m call = true ∧
      answer = (q.copyRecord m call).1 ∧ mem = (q.copyRecord m call).2
  | .updateCount _ call answer => ∃ m, q.Represents m records ∧ ¬ q.rejects m call = true ∧
      answer = (q.copyRecord m call).1 ∧ mem = q.updateIndex (q.copyRecord m call).2 call
  | .semPost _ call answer => ∃ m, q.Represents m records ∧ q.exec m call = (answer, mem)
  | _ => False

theorem Progress.inside (h : Progress q mem records x) : x.inside = true := by
  cases x <;> first | rfl | exact h.elim

theorem Progress.advance (hvalid : q.valid = true) {y : QueuePc}
    (h : Progress q mem records x) (ha : QueueState.Advance q mem x y mem') :
    Progress q mem' records y := by
  cases ha with
  | rejected rejects =>
    refine ⟨mem, h, ?_⟩
    rw [q.exec_eq_steps mem hvalid, if_pos rejects]
  | accepted rejects => exact ⟨h, rejects⟩
  | copied => exact ⟨mem, h.1, h.2, rfl, rfl⟩
  | indexed =>
    obtain ⟨m, hm, hrejects, rfl, rfl⟩ := h
    exact ⟨m, hm, hrejects, rfl, rfl⟩
  | counted =>
    obtain ⟨m, hm, hrejects, rfl, rfl⟩ := h
    refine ⟨m, hm, ?_⟩
    rw [q.exec_eq_steps m hvalid, if_neg hrejects]

variable (q records mem sem pc) in
/-- The semaphore is free, or one process is between its `sem_wait` and its
`sem_post`. -/
inductive Guarded : Prop
  | free (value : sem = 1) (outside : ∀ p, ¬ (pc p).inside = true)
      (represents : q.Represents mem records)
  | held (p : π) (value : sem = 0) (alone : ∀ p', (pc p').inside = true → p' = p)
      (progress : Progress q mem records (pc p))

theorem Guarded.exclusive (h : Guarded q mem records sem pc) {p' : π} (hp : (pc p).inside = true)
    (hp' : (pc p').inside = true) : p = p' := by
  cases h with
  | free _ outside => exact absurd hp (outside p)
  | held holder _ alone => exact (alone p hp).trans (alone p' hp').symm

variable [DecidableEq π]

theorem inside_update {p' : π} (hx : ¬ x.inside = true) :
    (Function.update pc p x p').inside = true ↔ p' ≠ p ∧ (pc p').inside = true := by
  rw [Function.update_apply]
  split
  · simp_all
  · simp_all

theorem Guarded.outside (h : Guarded q mem records sem pc) (hp : ¬ (pc p).inside = true)
    (hx : ¬ x.inside = true) : Guarded q mem records sem (Function.update pc p x) := by
  cases h with
  | free value outside represents =>
    exact .free value (fun p' hp' => outside p' ((inside_update hx).mp hp').2) represents
  | held holder value alone progress =>
    have hne : holder ≠ p := fun he => hp (he ▸ progress.inside)
    refine .held holder value (fun p' hp' => alone p' ((inside_update hx).mp hp').2) ?_
    rwa [Function.update_of_ne hne]

theorem Guarded.acquire (h : Guarded q mem records sem pc) (hfree : 0 < sem) (n : Nat)
    (call : Call (List UInt8)) :
    Guarded q mem records (sem - 1) (Function.update pc p (.test n call)) := by
  cases h with
  | free value outside represents =>
    refine .held p (by omega) (fun p' hp' => ?_) ?_
    · by_contra hne
      rw [Function.update_of_ne hne] at hp'
      exact outside p' hp'
    · rw [Function.update_self]
      exact represents
  | held _ value => omega

theorem Guarded.advance (hvalid : q.valid = true) (h : Guarded q mem records sem pc)
    (ha : QueueState.Advance q mem (pc p) x mem') :
    Guarded q mem' records sem (Function.update pc p x) := by
  have hp : (pc p).inside = true := by
    revert ha
    generalize pc p = y
    rintro (_ | _ | _ | _ | _) <;> rfl
  cases h with
  | free _ outside => exact absurd hp (outside p)
  | held holder value alone progress =>
    cases alone p hp
    refine .held p value (fun p' hp' => ?_) ?_
    · by_contra hne
      rw [Function.update_of_ne hne] at hp'
      exact hne (alone p' hp')
    · rw [Function.update_self]
      exact progress.advance hvalid ha

theorem Guarded.post (hplaced : q.Placed) (h : Guarded q mem records sem pc)
    (hp : pc p = .semPost n call answer) (hsized : QueueState.Sized q call) :
    answer = (Fifo.exec q.capacity records call).1 ∧
      Guarded q mem (Fifo.exec q.capacity records call).2 (sem + 1)
        (Function.update pc p (.leave n answer)) := by
  have hinside : (pc p).inside = true := by rw [hp]; rfl
  cases h with
  | free _ outside => exact absurd hinside (outside p)
  | held holder value alone progress =>
    cases alone p hinside
    rw [hp] at progress
    obtain ⟨m, hm, hexec⟩ := progress
    obtain ⟨hanswer, hrep⟩ := SharedQueue.exec_refines hplaced hm call
      (by rintro item rfl; exact hsized)
    rw [hexec] at hanswer hrep
    refine ⟨hanswer, .free (by omega) (fun p' hp' => ?_) hrep⟩
    obtain ⟨hne, hp'⟩ := (inside_update (by simp [QueuePc.inside])).mp hp'
    exact hne (alone p' hp')

end Semaphore

-- ---------------------------------------------------------------------------
-- Whole runs
-- ---------------------------------------------------------------------------

namespace QueueState

variable {π : Type} [DecidableEq π] {q : SharedQueue} {start : List (List UInt8)}
  {s s' : QueueState π} {p : π} {x : QueuePc} {n : Nat} {call : Call (List UInt8)}
  {answer : Answer (List UInt8)}

def records (q : SharedQueue) (start : List (List UInt8)) (s : QueueState π) : List (List UInt8) :=
  (replay (Fifo.exec q.capacity) start (s.order.map Commit.call)).2

structure Pending (q : SharedQueue)
    (history : List (Event (Call (List UInt8)) (Answer (List UInt8)))) (refused : List Nat)
    (order : List (Commit (Call (List UInt8)) (Answer (List UInt8)))) (n : Nat)
    (call : Call (List UInt8)) : Prop where
  invoked : .invoked n call ∈ history
  unreturned : ∀ answer, .returned n answer ∉ history
  uncommitted : n ∉ order.map Commit.id
  unrefused : n ∉ refused
  sized : Sized q call

/-- A call that may return `answer`. -/
def Answered (history : List (Event (Call (List UInt8)) (Answer (List UInt8))))
    (refused : List Nat) (order : List (Commit (Call (List UInt8)) (Answer (List UInt8)))) (n : Nat)
    (answer : Answer (List UInt8)) : Prop :=
  (∃ c ∈ order, c.id = n ∧ c.answer = answer) ∨
    (n ∈ refused ∧ ∃ call, .invoked n call ∈ history ∧ answer = refusal call)

variable (q start s) in
structure Inv : Prop where
  linear : Linearizes (Fifo.exec q.capacity) refusal start s.history s.refused s.order
  numbered : ∀ n call, .invoked n call ∈ s.history → n < s.calls
  ended : ∀ n answer, .returned n answer ∈ s.history → n < s.calls
  counted : ∀ n ∈ s.refused, n < s.calls
  pending : ∀ p n call, (s.pc p).pending = some (n, call) →
    Pending q s.history s.refused s.order n call
  distinct : ∀ p p' n call call', (s.pc p).pending = some (n, call) →
    (s.pc p').pending = some (n, call') → p = p'
  leaving : ∀ p n answer, s.pc p = .leave n answer →
    Answered s.history s.refused s.order n answer
  guarded : Guarded q s.mem (s.records q start) s.semaphore s.pc

omit [DecidableEq π] in
theorem initial_inv {mem : Memory} (h : q.Represents mem start) :
    (initial π mem).Inv q start where
  linear := .empty
  numbered := by simp [initial]
  ended := by simp [initial]
  counted := by simp [initial]
  pending := by simp [initial, QueuePc.pending]
  distinct := by simp [initial, QueuePc.pending]
  leaving := by simp [initial]
  guarded := .free rfl (by simp [initial, QueuePc.inside]) h

theorem pending_update {pc : π → QueuePc} {p' : π} {y : Nat × Call (List UInt8)}
    (h : (Function.update pc p x p').pending = some y) :
    (p' = p ∧ x.pending = some y) ∨ (p' ≠ p ∧ (pc p').pending = some y) := by
  rw [Function.update_apply] at h
  split at h
  · exact .inl ⟨‹_›, h⟩
  · exact .inr ⟨‹_›, h⟩

theorem leave_update {pc : π → QueuePc} {p' : π}
    (h : Function.update pc p x p' = .leave n answer) :
    (p' = p ∧ x = .leave n answer) ∨ pc p' = .leave n answer := by
  rw [Function.update_apply] at h
  split at h
  · exact .inl ⟨‹_›, h⟩
  · exact .inr h

theorem Inv.distinct_update (v : s.Inv q start)
    (hx : ∀ y, x.pending = some y → (s.pc p).pending = some y) :
    ∀ p₁ p₂ n call call', (Function.update s.pc p x p₁).pending = some (n, call) →
      (Function.update s.pc p x p₂).pending = some (n, call') → p₁ = p₂ := by
  have hold : ∀ p' y, (Function.update s.pc p x p').pending = some y →
      (s.pc p').pending = some y := by
    intro p' y h
    rcases pending_update h with ⟨rfl, hy⟩ | ⟨-, hy⟩
    · exact hx y hy
    · exact hy
  intro p₁ p₂ n call call' h₁ h₂
  exact v.distinct p₁ p₂ n call call' (hold p₁ _ h₁) (hold p₂ _ h₂)

theorem Inv.invoked (v : s.Inv q start) (hplace : s.pc p = .idle) (hsized : Sized q call) :
    Inv q start { s.move p (.semWait s.calls call) with
      calls := s.calls + 1
      history := s.history ++ [.invoked s.calls call] } := by
  have hnew : ∀ call, .invoked s.calls call ∉ s.history := fun call h =>
    Nat.lt_irrefl _ (v.numbered _ call h)
  have hother : ∀ p' n call', (s.pc p').pending = some (n, call') → n ≠ s.calls := by
    rintro p' n call' h rfl
    exact hnew call' (v.pending p' _ _ h).invoked
  refine ⟨v.linear.invoke hnew, ?_, ?_, fun n hn => Nat.lt_succ_of_lt (v.counted n hn), ?_, ?_, ?_,
    v.guarded.outside (by simp [hplace, QueuePc.inside]) (by simp [QueuePc.inside])⟩
  · intro n call' h
    rcases List.mem_append.mp h with h | h
    · exact Nat.lt_succ_of_lt (v.numbered n call' h)
    · cases List.mem_singleton.mp h
      exact Nat.lt_succ_self _
  · intro n a h
    rcases List.mem_append.mp h with h | h
    · exact Nat.lt_succ_of_lt (v.ended n a h)
    · simp at h
  · intro p' n call' h
    rcases pending_update h with ⟨-, h⟩ | ⟨-, h⟩
    · cases h
      refine ⟨by simp, fun a h => ?_, fun h => ?_, fun h => Nat.lt_irrefl _ (v.counted _ h), hsized⟩
      · rcases List.mem_append.mp h with h | h
        · exact Nat.lt_irrefl _ (v.ended _ a h)
        · simp at h
      · obtain ⟨c, hc, hid⟩ := List.mem_map.mp h
        exact hnew c.call (hid ▸ v.linear.invoked c hc)
    · have hp := v.pending p' n call' h
      exact ⟨List.mem_append_left _ hp.invoked, by simpa using hp.unreturned, hp.uncommitted,
        hp.unrefused, hp.sized⟩
  · intro p₁ p₂ n call₁ call₂ h₁ h₂
    rcases pending_update h₁ with ⟨rfl, hy₁⟩ | ⟨-, hy₁⟩ <;>
      rcases pending_update h₂ with ⟨rfl, hy₂⟩ | ⟨-, hy₂⟩
    · rfl
    · cases hy₁
      exact absurd rfl (hother p₂ _ _ hy₂)
    · cases hy₂
      exact absurd rfl (hother p₁ _ _ hy₁)
    · exact v.distinct p₁ p₂ n call₁ call₂ hy₁ hy₂
  · intro p' n a h
    rcases leave_update h with ⟨-, h⟩ | h
    · cases h
    · rcases v.leaving p' n a h with hc | ⟨href, call', hcall, ha⟩
      · exact .inl hc
      · exact .inr ⟨href, call', List.mem_append_left _ hcall, ha⟩

theorem Inv.inside (v : s.Inv q start) {mem : Memory} {sem : Nat}
    (hx : x.pending = (s.pc p).pending) (hleave : ∀ n answer, x ≠ .leave n answer)
    (hg : Guarded q mem (s.records q start) sem (Function.update s.pc p x)) :
    Inv q start { s.move p x with mem := mem, semaphore := sem } := by
  refine ⟨v.linear, v.numbered, v.ended, v.counted, ?_,
    v.distinct_update fun y hy => hx.symm.trans hy, ?_, hg⟩
  · intro p' n call h
    rcases pending_update h with ⟨rfl, hy⟩ | ⟨-, hy⟩
    · exact v.pending p' n call (hx.symm.trans hy)
    · exact v.pending p' n call hy
  · intro p' n a h
    rcases leave_update h with ⟨-, h⟩ | h
    · exact absurd h (hleave n a)
    · exact v.leaving p' n a h

theorem Inv.interrupted (v : s.Inv q start) (hplace : s.pc p = .semWait n call) :
    Inv q start { s.move p (.leave n (refusal call)) with refused := n :: s.refused } := by
  have hp := v.pending p n call (by rw [hplace]; rfl)
  refine ⟨v.linear.refuse hp.uncommitted, v.numbered, v.ended, ?_, ?_,
    v.distinct_update (by simp [QueuePc.pending]), ?_,
    v.guarded.outside (by simp [hplace, QueuePc.inside]) (by simp [QueuePc.inside])⟩
  · rintro i (_ | ⟨_, hi⟩)
    · exact v.numbered n call hp.invoked
    · exact v.counted i hi
  · intro p' n' call' h
    rcases pending_update h with ⟨-, hy⟩ | ⟨hne, hy⟩
    · cases hy
    · have hp' := v.pending p' n' call' hy
      refine ⟨hp'.invoked, hp'.unreturned, hp'.uncommitted, ?_, hp'.sized⟩
      rintro (_ | ⟨_, hi⟩)
      · exact hne (v.distinct p' p n call' call hy (by rw [hplace]; rfl))
      · exact hp'.unrefused hi
  · intro p' n' a h
    rcases leave_update h with ⟨-, h⟩ | h
    · cases h
      exact .inr ⟨List.mem_cons_self, call, hp.invoked, rfl⟩
    · rcases v.leaving p' n' a h with hc | ⟨href, hcall⟩
      · exact .inl hc
      · exact .inr ⟨List.mem_cons_of_mem _ href, hcall⟩

theorem Inv.posted (hplaced : q.Placed) (v : s.Inv q start)
    (hplace : s.pc p = .semPost n call answer) :
    Inv q start { s.move p (.leave n answer) with
      semaphore := s.semaphore + 1
      order := s.order ++ [⟨n, call, answer⟩] } := by
  have hpending : (s.pc p).pending = some (n, call) := by rw [hplace]; rfl
  have hp := v.pending p n call hpending
  obtain ⟨hanswer, hg⟩ := v.guarded.post hplaced hplace hp.sized
  refine ⟨v.linear.commit hp.invoked hp.unreturned hp.uncommitted hp.unrefused hanswer,
    v.numbered, v.ended, v.counted, ?_, v.distinct_update (by simp [QueuePc.pending]), ?_, ?_⟩
  · intro p' n' call' h
    rcases pending_update h with ⟨-, hy⟩ | ⟨hne, hy⟩
    · cases hy
    · have hp' := v.pending p' n' call' hy
      refine ⟨hp'.invoked, hp'.unreturned, ?_, hp'.unrefused, hp'.sized⟩
      simp only [List.map_append, List.map_cons, List.map_nil, List.mem_append,
        List.mem_singleton, not_or]
      refine ⟨hp'.uncommitted, ?_⟩
      rintro rfl
      exact hne (v.distinct p' p n' call' call hy hpending)
  · intro p' n' a h
    rcases leave_update h with ⟨-, h⟩ | h
    · cases h
      exact .inl ⟨_, List.mem_append_right _ (List.mem_singleton_self _), rfl, rfl⟩
    · rcases v.leaving p' n' a h with ⟨c, hc, hid⟩ | href
      · exact .inl ⟨c, List.mem_append_left _ hc, hid⟩
      · exact .inr href
  · simpa only [records, move, List.map_append, List.map_cons, List.map_nil,
      Linearizable.replay_concat] using hg

theorem Inv.left (v : s.Inv q start) (hplace : s.pc p = .leave n answer) :
    Inv q start { s.move p .idle with history := s.history ++ [.returned n answer] } := by
  have hanswered := v.leaving p n answer hplace
  refine ⟨v.linear.respond hanswered, ?_, ?_, v.counted, ?_,
    v.distinct_update (by simp [QueuePc.pending]), ?_,
    v.guarded.outside (by simp [hplace, QueuePc.inside]) (by simp [QueuePc.inside])⟩
  · intro n' call h
    exact v.numbered n' call (by simpa using h)
  · intro n' a h
    rcases List.mem_append.mp h with h | h
    · exact v.ended n' a h
    · cases List.mem_singleton.mp h
      rcases hanswered with ⟨c, hc, rfl, -⟩ | ⟨href, -⟩
      · exact v.numbered c.id c.call (v.linear.invoked c hc)
      · exact v.counted n href
  · intro p' n' call h
    rcases pending_update h with ⟨-, hy⟩ | ⟨-, hy⟩
    · cases hy
    · have hp' := v.pending p' n' call hy
      refine ⟨List.mem_append_left _ hp'.invoked, fun a h => ?_, hp'.uncommitted, hp'.unrefused,
        hp'.sized⟩
      rcases List.mem_append.mp h with h | h
      · exact hp'.unreturned a h
      · cases List.mem_singleton.mp h
        -- The call that returns took effect or was refused, this one is pending.
        rcases hanswered with ⟨c, hc, rfl, -⟩ | ⟨href, -⟩
        · exact hp'.uncommitted (List.mem_map_of_mem hc)
        · exact hp'.unrefused href
  · intro p' n' a h
    rcases leave_update h with ⟨-, h⟩ | h
    · cases h
    · rcases v.leaving p' n' a h with hc | ⟨href, call, hcall, ha⟩
      · exact .inl hc
      · exact .inr ⟨href, call, List.mem_append_left _ hcall, ha⟩

theorem Inv.step (hplaced : q.Placed) (v : s.Inv q start) (h : Change q s p s') :
    s'.Inv q start := by
  cases h with
  | invoked call place sized => exact v.invoked place sized
  | acquired place free =>
    exact v.inside (by rw [place]; rfl) (by simp) (v.guarded.acquire free _ _)
  | interrupted place => exact v.interrupted place
  | advanced pc mem advance =>
    have hkept : pc.pending = (s.pc p).pending ∧ ∀ n answer, pc ≠ .leave n answer := by
      revert advance
      generalize s.pc p = y
      rintro (_ | _ | _ | _ | _) <;> exact ⟨rfl, by simp⟩
    exact v.inside hkept.1 hkept.2 (v.guarded.advance hplaced.valid advance)
  | posted place => exact v.posted hplaced place
  | left place => exact v.left place

end QueueState

def stored (c : Commit (Call (List UInt8)) (Answer (List UInt8))) : Option (List UInt8) :=
  match c.call, c.answer with
  | .push item, .pushed true => some item
  | _, _ => none

def taken (c : Commit (Call (List UInt8)) (Answer (List UInt8))) : Option (List UInt8) :=
  match c.answer with
  | .popped item => item
  | _ => none

/-- No record is lost, duplicated or torn: what went in has come out, in the same
order, or is still there. -/
theorem stored_eq_taken {capacity : Nat} {start : List (List UInt8)}
    {order : List (Commit (Call (List UInt8)) (Answer (List UInt8)))}
    (hlegal : (replay (Fifo.exec capacity) start (order.map Commit.call)).1 =
      order.map Commit.answer) :
    start ++ order.filterMap stored = order.filterMap taken ++
      (replay (Fifo.exec capacity) start (order.map Commit.call)).2 := by
  induction order generalizing start with
  | nil => simp [replay]
  | cons c order ih =>
    obtain ⟨n, call, answer⟩ := c
    simp only [List.map_cons, replay, List.cons.injEq] at hlegal
    obtain ⟨rfl, hlegal⟩ := hlegal
    have ih := ih hlegal
    cases call with
    | push item =>
      by_cases hroom : start.length < capacity
      · have hexec : Fifo.exec capacity start (.push item) = (.pushed true, start ++ [item]) := by
          simp [Fifo.exec, Fifo.push_of_lt hroom]
        simpa [List.filterMap_cons, replay, hexec, stored, taken] using ih
      · have hexec : Fifo.exec capacity start (.push item) = (.pushed false, start) := by
          simp [Fifo.exec, Fifo.push_of_full (Nat.not_lt.mp hroom)]
        simpa [List.filterMap_cons, replay, hexec, stored, taken] using ih
    | pop =>
      cases start with
      | nil => simpa [List.filterMap_cons, replay, Fifo.exec, Fifo.pop, stored, taken] using ih
      | cons record start =>
        simpa [List.filterMap_cons, replay, Fifo.exec, Fifo.pop, stored, taken] using ih

/-- The calls of any number of processes take effect one at a time, between
their invocation and their return, as on a bounded FIFO; those whose `sem_wait`
failed return false and have no effect. -/
theorem sharedQueue_linearizable {π : Type} [DecidableEq π] (q : SharedQueue) (hplaced : q.Placed)
    (mem : Memory) (start : List (List UInt8)) (hstart : q.Represents mem start)
    (actions : List (π × QueueStep)) (t : QueueState π)
    (hr : run (QueueState.step q) (.initial π mem) actions = some t) :
    (∀ p p', (t.pc p).inside = true → (t.pc p').inside = true → p = p') ∧
    ∃ order, Linearizes (Fifo.exec q.capacity) refusal start t.history t.refused order ∧
      start ++ order.filterMap stored = order.filterMap taken ++
        (replay (Fifo.exec q.capacity) start (order.map Commit.call)).2 ∧
      ((∀ p, ¬ (t.pc p).inside = true) → q.Represents t.mem
        (replay (Fifo.exec q.capacity) start (order.map Commit.call)).2) := by
  have v : t.Inv q start := Runs.invariant
    (fun _ _ _ v h => v.step hplaced (QueueState.step_cases h)) (QueueState.initial_inv hstart) hr
  refine ⟨fun p p' hp hp' => v.guarded.exclusive hp hp', t.order, v.linear,
    stored_eq_taken v.linear.legal, fun houtside => ?_⟩
  cases v.guarded with
  | free _ _ represents => exact represents
  | held p _ _ progress => exact absurd progress.inside (houtside p)

def byteQueue : SharedQueue := ⟨0, 1, 1, true⟩

theorem byteQueue_placed : byteQueue.Placed := ⟨rfl, by decide, by decide, by decide⟩

def byteMemory : Memory := (SharedQueue.new (fun _ => 0) true true 0 1 1 true).2

/-- Two processes push at the same time, one of them is interrupted; then the
other pops. -/
def contendedActions : List (Bool × QueueStep) :=
  [(true, .invoke (.push [7])), (false, .invoke (.push [8])), (true, .next), (true, .next),
   (false, .interrupted), (true, .next), (true, .next), (false, .next), (true, .next),
   (true, .next), (true, .next), (false, .invoke .pop), (false, .next), (false, .next),
   (false, .next), (false, .next), (false, .next), (false, .next), (false, .next)]

def contended : QueueState Bool :=
  (run (QueueState.step byteQueue) (.initial Bool byteMemory) contendedActions).get (by decide +kernel)

theorem sharedQueue_linearizable_contended :
    .returned 2 (.popped (some [7])) ∈ contended.history ∧
    ∃ order, Linearizes (Fifo.exec 1) refusal [] contended.history contended.refused order := by
  obtain ⟨-, order, hlinear, -⟩ := sharedQueue_linearizable byteQueue byteQueue_placed byteMemory []
    (SharedQueue.create_represents byteQueue_placed _) contendedActions contended
    (Option.some_get _).symm
  exact ⟨by decide +kernel, order, hlinear⟩

/-- A push into an empty queue that a signal interrupts. -/
def interruptedActions : List (Unit × QueueStep) :=
  [((), .invoke (.push [7])), ((), .interrupted), ((), .next)]

/-- The interrupted call returns false, which no queue with room does. -/
theorem not_always_linearizable :
    ¬ ∀ (π : Type) [DecidableEq π] (q : SharedQueue) (mem : Memory) (start : List (List UInt8)),
      q.Placed → q.Represents mem start → ∀ (actions : List (π × QueueStep)) (t : QueueState π),
      run (QueueState.step q) (.initial π mem) actions = some t →
      ∃ order, Linearizes (Fifo.exec q.capacity) refusal start t.history [] order := by
  intro h
  have hhistory : (run (QueueState.step byteQueue) (.initial Unit byteMemory)
      interruptedActions).map QueueState.history =
      some [.invoked 0 (.push [7]), .returned 0 (.pushed false)] := by decide +kernel
  obtain ⟨t, hr, ht⟩ := Option.map_eq_some_iff.mp hhistory
  obtain ⟨order, hlinear⟩ := h Unit byteQueue byteMemory [] byteQueue_placed
    (SharedQueue.create_represents byteQueue_placed _) interruptedActions t hr
  rw [ht] at hlinear
  have hcall : ∀ c ∈ order, c.id = 0 ∧ c.call = .push [7] := fun c hc => by
    simpa using hlinear.invoked c hc
  rcases hlinear.returned 0 (.pushed false) (by simp) with ⟨c, hc, -, hfalse⟩ | ⟨hnil, -⟩
  · match order, hc with
    | [c'], hc =>
      cases List.mem_singleton.mp hc
      have hlegal := hlinear.legal
      simp [(hcall c (by simp)).2, replay, Fifo.exec, Fifo.push, hfalse, byteQueue] at hlegal
    | c₁ :: c₂ :: rest, _ =>
      have honce := hlinear.once
      simp [(hcall c₁ (by simp)).1, (hcall c₂ (by simp)).1] at honce
  · simp at hnil

end ParkingSystem
