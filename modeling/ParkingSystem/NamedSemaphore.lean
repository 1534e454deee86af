import ParkingSystem.Lib.Sync
import ParkingSystem.Lifecycle
import ParkingSystem.SharedQueueProcesses

/-!
# The named semaphore across crashes

Processes that attach the shared segment, construct a `SharedQueue`, call `push`
and `pop` and end, or are killed anywhere on the way. The segment goes when it is
removed; the semaphore stays, with the value that it has: no process unlinks it,
and `sem_open` gives its initial value only to a semaphore that it creates.

A process that is killed between its `sem_wait` and its `sem_post` takes the one
unit of the semaphore with it. Without such a kill the semaphore is 1 whenever
nobody is inside, after one it is 0 for ever (`created_unlocked_iff`).
-/

namespace ParkingSystem

open Fifo (Call Answer)
open Runs (run Along)
open Sync (Exclusive Lost)

-- ---------------------------------------------------------------------------
-- The constructor, step by step
-- ---------------------------------------------------------------------------

namespace SharedQueue

variable (q : SharedQueue) (mem : Memory)

def fieldAt : HeaderField → Nat
  | .head => q.headAt
  | .tail => q.tailAt
  | .count => q.countAt
  | .capacity => q.capacityAt
  | .elementSize => q.elementSizeAt

def fieldValue : HeaderField → Nat
  | .head | .tail | .count => 0
  | .capacity => q.capacity
  | .elementSize => q.elementSize

def writeField (field : HeaderField) : Memory := mem.writeWord (q.fieldAt field) (q.fieldValue field)

def mismatch : Bool :=
  mem.readWord q.capacityAt ≠ q.capacity ∨ mem.readWord q.elementSizeAt ≠ q.elementSize

/-- What the constructor tests before `sem_open`. -/
def acceptable (attached : Bool) : Bool := attached && q.elementSize != 0 && q.capacity != 0

/-- The steps in their order are the whole constructor. -/
theorem new_eq_steps (attached opened create : Bool) :
    new mem attached opened q.offset q.elementSize q.capacity create =
      if q.acceptable attached && opened then
        if create then
          ({ q with valid := true },
            [.head, .tail, .count, .capacity, .elementSize].foldl q.writeField mem)
        else ({ q with valid := !q.mismatch mem }, mem)
      else ({ q with valid := false }, mem) := by
  obtain ⟨offset, elementSize, capacity, valid⟩ := q
  cases attached with
  | false => simp [new, acceptable]
  | true =>
    by_cases hargs : elementSize = 0 ∨ capacity = 0
    · rcases hargs with rfl | rfl <;> simp [new, acceptable]
    obtain ⟨hsize, hcapacity⟩ := not_or.mp hargs
    cases opened with
    | false => simp [new, acceptable]
    | true =>
      cases create with
      | true => simp [new, acceptable, hsize, hcapacity, writeField]; rfl
      | false =>
        by_cases hc : mem.readWord (offset + 24) = capacity <;>
          by_cases he : mem.readWord (offset + 32) = elementSize <;>
          simp [new, acceptable, mismatch, hsize, hcapacity, capacityAt, elementSizeAt, hc, he]

end SharedQueue

-- ---------------------------------------------------------------------------
-- Processes, segments and the semaphore
-- ---------------------------------------------------------------------------

inductive QueueUserPc where
  | semOpen
  | writeHeader (field : HeaderField)
  | compareHeader
  | constructed (pc : QueuePc)

/-- `queue.valid` is set with the pointers, by `sem_open`. -/
structure QueueUser where
  create : Bool
  /-- The segment behind `shared_memory_->data()`, `none` for a null pointer. -/
  segment : Option Nat
  queue : SharedQueue
  pc : QueueUserPc

def QueueUser.inside (u : QueueUser) : Bool :=
  match u.pc with
  | .constructed pc => pc.inside
  | _ => false

/-- `π` names the processes; a name may be used again when its process is gone. -/
structure QueueWorld (π : Type) where
  /-- The value of the named semaphore, if there is one. -/
  semaphore : Option Nat
  /-- The segment that `shmget` finds. -/
  key : Option Nat
  memory : Nat → Memory
  nextSegment : Nat
  users : π → Option QueueUser
  /-- A constructor with `create` has returned a valid queue. -/
  created : Bool

inductive QueueAction (π : Type) where
  /-- A process starts and calls `SharedMemory::create` or `SharedMemory::attach`. -/
  | start (p : π) (newSegment create : Bool) (queue : SharedQueue)
  /-- One step of the constructor; `opened` says whether `sem_open` succeeds. -/
  | construct (p : π) (opened : Bool)
  | operate (p : π) (step : QueueStep)
  /-- The destructor, and the end of the process. -/
  | destroy (p : π)
  | kill (p : π)
  /-- IPC_RMID: processes that have the segment keep it, nobody else finds it. -/
  | removeSegment

namespace QueueWorld

variable {π : Type}

def initial (π : Type) : QueueWorld π := ⟨none, none, fun _ _ => 0, 0, fun _ => none, false⟩

def inside (w : QueueWorld π) (p : π) : Bool := (w.users p).any QueueUser.inside

/-- No kill hits a process between its `sem_wait` and its `sem_post`. -/
def KilledOutside (w : QueueWorld π) : QueueAction π → Prop
  | .kill p => w.inside p = false
  | _ => True

instance (w : QueueWorld π) : DecidablePred w.KilledOutside
  | .kill p => inferInstanceAs (Decidable (w.inside p = false))
  | .start .. | .construct .. | .operate .. | .destroy _ | .removeSegment => .isTrue trivial

theorem inside_of_constructed {w : QueueWorld π} {p : π} {u : QueueUser} {pc : QueuePc}
    (hu : w.users p = some u) (hpc : u.pc = .constructed pc) : w.inside p = pc.inside := by
  simp [inside, hu, QueueUser.inside, hpc]

theorem killedOutside_of_outside {w : QueueWorld π} (h : ∀ p, w.inside p = false)
    (a : QueueAction π) : w.KilledOutside a := by
  cases a with
  | kill p => exact h p
  | _ => trivial

variable [DecidableEq π]

def setUser (w : QueueWorld π) (p : π) (u : Option QueueUser) : QueueWorld π :=
  { w with users := Function.update w.users p u }

def setMemory (w : QueueWorld π) (id : Nat) (mem : Memory) : QueueWorld π :=
  { w with memory := Function.update w.memory id mem }

/-- The caller does not go on to the queue when this fails; the constructor would
find a null pointer. -/
def start (w : QueueWorld π) (p : π) (newSegment create : Bool) (queue : SharedQueue) :
    QueueWorld π :=
  let user (segment : Option Nat) : QueueUser :=
    ⟨create, segment, { queue with valid := false }, .semOpen⟩
  if newSegment then
    match w.key with
    | some _ => w.setUser p (some (user none))
    | none =>
      { (w.setUser p (some (user (some w.nextSegment)))).setMemory w.nextSegment fun _ => 0 with
        key := some w.nextSegment
        nextSegment := w.nextSegment + 1 }
  else w.setUser p (some (user w.key))

/-- `sem_open` with O_CREAT and the value 1, then the branch on `create`. -/
def semOpen (w : QueueWorld π) (p : π) (u : QueueUser) (opened : Bool) : QueueWorld π :=
  if u.queue.acceptable u.segment.isSome && opened then
    { w.setUser p (some { u with
        queue := { u.queue with valid := true }
        pc := if u.create then .writeHeader .head else .compareHeader }) with
      semaphore := some (w.semaphore.getD 1) }
  else w.setUser p (some { u with pc := .constructed .idle })

def construct (w : QueueWorld π) (p : π) (u : QueueUser) (opened : Bool) : Option (QueueWorld π) :=
  match u.pc, u.segment with
  | .semOpen, _ => some (w.semOpen p u opened)
  | .writeHeader field, some id =>
    let w := w.setMemory id (u.queue.writeField (w.memory id) field)
    match field.next with
    | some next => some (w.setUser p (some { u with pc := .writeHeader next }))
    | none =>
      some { w.setUser p (some { u with pc := .constructed .idle }) with
        created := w.created || u.queue.valid }
  | .compareHeader, some id =>
    some (w.setUser p (some { u with
      queue := if u.queue.mismatch (w.memory id) then { u.queue with valid := false } else u.queue
      pc := .constructed .idle }))
  | _, _ => none

def callStep (q : SharedQueue) (mem : Memory) (semaphore : Nat) (pc : QueuePc) (a : QueueStep) :
    Option (QueueState Unit) :=
  QueueState.step q ⟨mem, semaphore, fun _ => pc, 0, [], [], []⟩ ((), a)

def operate (w : QueueWorld π) (p : π) (u : QueueUser) (a : QueueStep) : Option (QueueWorld π) :=
  match u.pc with
  | .constructed pc =>
    -- `push` and `pop` of an invalid queue return false before `sem_wait`.
    if !u.queue.valid then some w
    else
      match u.segment, w.semaphore with
      | some id, some value =>
        (callStep u.queue (w.memory id) value pc a).map fun s =>
          { (w.setMemory id s.mem).setUser p (some { u with pc := .constructed (s.pc ()) }) with
            semaphore := some s.semaphore }
      | _, _ => none
  | _ => none

def destroy (w : QueueWorld π) (p : π) (u : QueueUser) : Option (QueueWorld π) :=
  match u.pc with
  | .constructed .idle => some (w.setUser p none)
  | _ => none

def step (w : QueueWorld π) : QueueAction π → Option (QueueWorld π)
  | .start p newSegment create queue =>
    match w.users p with
    | none => some (w.start p newSegment create queue)
    | some _ => none
  | .construct p opened => (w.users p).bind fun u => w.construct p u opened
  | .operate p a => (w.users p).bind fun u => w.operate p u a
  | .destroy p => (w.users p).bind fun u => w.destroy p u
  | .kill p => (w.users p).map fun _ => w.setUser p none
  | .removeSegment => some { w with key := none }

-- ---------------------------------------------------------------------------
-- What one step can do
-- ---------------------------------------------------------------------------

inductive CallEffect (value : Nat) (pc : QueuePc) : Nat → QueuePc → Prop
  | kept (places : pc'.inside = pc.inside) : CallEffect value pc value pc'
  | waited (free : 0 < value) (outside : pc.inside = false) (inside : pc'.inside = true) :
      CallEffect value pc (value - 1) pc'
  | posted (inside : pc.inside = true) (outside : pc'.inside = false) :
      CallEffect value pc (value + 1) pc'

theorem callStep_cases {q : SharedQueue} {mem : Memory} {value : Nat} {pc : QueuePc}
    {a : QueueStep} {s : QueueState Unit} (h : callStep q mem value pc a = some s) :
    CallEffect value pc s.semaphore (s.pc ()) := by
  cases QueueState.step_cases h with
  | invoked call place =>
    cases place
    exact .kept rfl
  | acquired place free =>
    cases place
    exact .waited free rfl rfl
  | interrupted place =>
    cases place
    exact .kept rfl
  | advanced pc' mem' advance =>
    dsimp only at advance
    cases advance <;> exact .kept rfl
  | posted place =>
    cases place
    exact .posted rfl rfl
  | left place =>
    cases place
    exact .kept rfl

inductive Change (w : QueueWorld π) : QueueAction π → QueueWorld π → Prop
  | started (u : QueueUser) (memory : Nat → Memory) (key : Option Nat) (nextSegment : Nat)
      (absent : w.users p = none) (unopened : u.queue.valid = false) (outside : u.inside = false) :
      Change w (.start p newSegment create queue)
        { w.setUser p (some u) with key := key, memory := memory, nextSegment := nextSegment }
  | opened (u u' : QueueUser) (present : w.users p = some u) (outside : u.inside = false)
      (outside' : u'.inside = false) :
      Change w (.construct p opened)
        { w.setUser p (some u') with semaphore := some (w.semaphore.getD 1) }
  | constructed (u u' : QueueUser) (memory : Nat → Memory) (created : Bool)
      (present : w.users p = some u) (outside : u.inside = false) (outside' : u'.inside = false)
      (valid : u'.queue.valid = true → u.queue.valid = true)
      (valid_of_created : created = true → w.created = true ∨ u.queue.valid = true) :
      Change w (.construct p opened)
        { w.setUser p (some u') with memory := memory, created := created }
  | refused : Change w (.operate p a) w
  | called (p : π) (u : QueueUser) (memory : Nat → Memory) (value' : Nat) (pc' : QueuePc)
      (present : w.users p = some u) (place : u.pc = .constructed pc)
      (exists_ : w.semaphore = some value) (effect : CallEffect value pc value' pc') :
      Change w (.operate p a)
        { w.setUser p (some { u with pc := .constructed pc' }) with
          memory := memory, semaphore := some value' }
  | destroyed (outside : w.inside p = false) : Change w (.destroy p) (w.setUser p none)
  | killed : Change w (.kill p) (w.setUser p none)
  | removedSegment : Change w .removeSegment { w with key := none }

variable {w w' : QueueWorld π} {p : π} {u : QueueUser}

theorem start_cases {newSegment create : Bool} {queue : SharedQueue} (hu : w.users p = none) :
    Change w (.start p newSegment create queue) (w.start p newSegment create queue) := by
  unfold start
  split
  · split
    · exact .started _ w.memory w.key w.nextSegment hu rfl rfl
    · exact .started _ _ _ _ hu rfl rfl
  · exact .started _ w.memory w.key w.nextSegment hu rfl rfl

theorem construct_cases {opened : Bool} (hu : w.users p = some u)
    (h : w.construct p u opened = some w') : Change w (.construct p opened) w' := by
  unfold construct at h
  split at h
  · rename_i hpc
    cases h
    unfold semOpen
    split
    · refine .opened u _ hu (by simp [QueueUser.inside, hpc]) ?_
      cases u.create <;> rfl
    · exact .constructed u _ w.memory w.created hu (by simp [QueueUser.inside, hpc]) rfl id .inl
  · rename_i field id hpc hsegment
    have houtside : u.inside = false := by simp [QueueUser.inside, hpc]
    dsimp only at h
    split at h
    · cases h
      exact .constructed u _ _ w.created hu houtside rfl (fun h => h) .inl
    · cases h
      refine .constructed u _ _ _ hu houtside rfl (fun h => h) ?_
      simp [setMemory]
  · rename_i id hpc hsegment
    cases h
    refine .constructed u _ w.memory w.created hu (by simp [QueueUser.inside, hpc]) rfl ?_ .inl
    dsimp only
    split
    · exact nofun
    · exact fun h => h
  · cases h

theorem operate_cases {a : QueueStep} (hu : w.users p = some u) (h : w.operate p u a = some w') :
    Change w (.operate p a) w' := by
  unfold operate at h
  split at h
  · rename_i pc hpc
    split at h
    · cases h
      exact .refused
    · split at h
      · rename_i id value hsegment hvalue
        obtain ⟨s, hs, rfl⟩ := Option.map_eq_some_iff.mp h
        exact .called p u _ _ _ hu hpc hvalue (callStep_cases hs)
      · cases h
  · cases h

theorem destroy_cases (hu : w.users p = some u) (h : w.destroy p u = some w') :
    Change w (.destroy p) w' := by
  unfold destroy at h
  split at h
  · rename_i hpc
    cases h
    exact .destroyed (by simp [inside, hu, QueueUser.inside, hpc, QueuePc.inside])
  · cases h

theorem step_cases {a : QueueAction π} (h : w.step a = some w') : Change w a w' := by
  cases a with
  | start p newSegment create queue =>
    simp only [step] at h
    split at h
    · cases h
      exact start_cases ‹_›
    · cases h
  | construct p opened =>
    obtain ⟨u, hu, h⟩ := Option.bind_eq_some_iff.mp h
    exact construct_cases hu h
  | operate p a =>
    obtain ⟨u, hu, h⟩ := Option.bind_eq_some_iff.mp h
    exact operate_cases hu h
  | destroy p =>
    obtain ⟨u, hu, h⟩ := Option.bind_eq_some_iff.mp h
    exact destroy_cases hu h
  | kill p =>
    obtain ⟨u, -, rfl⟩ := Option.map_eq_some_iff.mp h
    exact .killed
  | removeSegment =>
    cases h
    exact .removedSegment

@[simp] theorem inside_setUser (u : Option QueueUser) :
    (w.setUser p u).inside = Function.update w.inside p (u.any QueueUser.inside) := by
  funext p'
  by_cases hp : p' = p
  · subst hp
    simp [inside, setUser]
  · simp [inside, setUser, Function.update_of_ne hp]

theorem inside_setUser_of_outside {u : Option QueueUser} (h : w.inside p = false)
    (hu : u.any QueueUser.inside = false) : (w.setUser p u).inside = w.inside := by
  rw [inside_setUser, hu, ← h, Function.update_eq_self]

-- ---------------------------------------------------------------------------
-- The semaphore exists once a queue was opened
-- ---------------------------------------------------------------------------

def Unopened (w : QueueWorld π) : Prop :=
  w.semaphore = none →
    w.created = false ∧ ∀ p u, w.users p = some u → u.queue.valid = false

theorem users_setUser {p' : π} {u : Option QueueUser} {u' : QueueUser}
    (h : (w.setUser p u).users p' = some u') : u = some u' ∨ w.users p' = some u' := by
  simp only [setUser, Function.update_apply] at h
  split at h
  · exact .inl h
  · exact .inr h

theorem Unopened.step {a : QueueAction π} (v : w.Unopened) (h : Change w a w') : w'.Unopened := by
  intro hnone
  have hends : ∀ p p' u, (w.setUser p none).users p' = some u → w.users p' = some u := by
    intro p p' u hu
    rcases users_setUser hu with hu | hu
    · cases hu
    · exact hu
  cases h with
  | started u _ _ _ _ unopened =>
    refine ⟨(v hnone).1, fun p' u' hu' => ?_⟩
    rcases users_setUser hu' with hu' | hu'
    · cases hu'
      exact unopened
    · exact (v hnone).2 p' u' hu'
  | opened => cases hnone
  | constructed u u' _ created present _ _ valid valid_of_created =>
    have hinvalid := (v hnone).2 _ u present
    refine ⟨?_, fun p' u₁ hu₁ => ?_⟩
    · cases created with
      | false => rfl
      | true =>
        rcases valid_of_created rfl with h | h
        · exact h.symm.trans (v hnone).1
        · exact h.symm.trans hinvalid
    · rcases users_setUser hu₁ with hu₁ | hu₁
      · cases hu₁
        exact Bool.eq_false_iff.mpr fun h => by simp [valid h] at hinvalid
      · exact (v hnone).2 p' u₁ hu₁
  | refused => exact v hnone
  | called => cases hnone
  | destroyed => exact ⟨(v hnone).1, fun p' u hu => (v hnone).2 p' u (hends _ p' u hu)⟩
  | killed => exact ⟨(v hnone).1, fun p' u hu => (v hnone).2 p' u (hends _ p' u hu)⟩
  | removedSegment => exact v hnone

-- ---------------------------------------------------------------------------
-- The unit of the semaphore
-- ---------------------------------------------------------------------------

inductive Effect (w w' : QueueWorld π) : Prop
  | kept (value : w'.semaphore = w.semaphore) (places : w'.inside = w.inside)
  | opened (value : w'.semaphore = some (w.semaphore.getD 1)) (places : w'.inside = w.inside)
  | waited (p : π) (v : Nat) (free : 0 < v) (before : w.semaphore = some v)
      (value : w'.semaphore = some (v - 1)) (places : w'.inside = Function.update w.inside p true)
  | posted (p : π) (v : Nat) (inside : w.inside p = true) (before : w.semaphore = some v)
      (value : w'.semaphore = some (v + 1)) (places : w'.inside = Function.update w.inside p false)

theorem Change.effect {a : QueueAction π} (h : Change w a w') (hc : w.KilledOutside a) :
    Effect w w' := by
  cases h with
  | started u _ _ _ absent _ outside =>
    exact .kept rfl (inside_setUser_of_outside (by simp [inside, absent]) outside)
  | opened u _ present outside outside' =>
    exact .opened rfl (inside_setUser_of_outside (by simpa [inside, present] using outside) outside')
  | constructed u _ _ _ present outside outside' =>
    exact .kept rfl (inside_setUser_of_outside (by simpa [inside, present] using outside) outside')
  | refused => exact .kept rfl rfl
  | called p u _ _ pc' present place exists_ effect =>
    have hp := inside_of_constructed present place
    cases effect with
    | kept places =>
      refine .kept exists_.symm ((inside_setUser _).trans ?_)
      exact Function.update_eq_self_iff.mpr (places.trans hp.symm)
    | waited free outside inside =>
      refine .waited p _ free exists_ rfl ((inside_setUser _).trans ?_)
      exact congrArg _ inside
    | posted inside outside =>
      refine .posted p _ (hp.trans inside) exists_ rfl ((inside_setUser _).trans ?_)
      exact congrArg _ outside
  | destroyed outside => exact .kept rfl (inside_setUser_of_outside outside rfl)
  | killed => exact .kept rfl (inside_setUser_of_outside hc rfl)
  | removedSegment => exact .kept rfl rfl

theorem Effect.exclusive (h : Effect w w') (v : Exclusive w.semaphore w.inside) :
    Exclusive w'.semaphore w'.inside := by
  cases h with
  | kept value places => rwa [value, places]
  | opened value places =>
    rw [value, places]
    exact v.openCreate
  | waited p n free before value places =>
    rw [before] at v
    rw [value, places]
    exact v.wait free
  | posted p n inside before value places =>
    rw [before] at v
    rw [value, places]
    exact v.post inside

theorem Effect.lost (h : Effect w w') (v : Lost w.semaphore w.inside) :
    Lost w'.semaphore w'.inside := by
  cases h with
  | kept value places => rwa [value, places]
  | opened value places =>
    rw [value, places]
    exact v.openCreate
  | waited p n free before =>
    rw [before] at v
    exact absurd free v.not_free
  | posted p n inside => simp [v.outside p] at inside

theorem Change.lost {a : QueueAction π} (h : Change w a w') (hc : ¬ w.KilledOutside a)
    (v : Exclusive w.semaphore w.inside) : Lost w'.semaphore w'.inside := by
  cases h with
  | killed =>
    rw [inside_setUser]
    exact v.lose (Bool.not_eq_false _ ▸ hc)
  | _ => exact absurd trivial hc

end QueueWorld

open QueueWorld

/-- A queue that was created is unlocked whenever nobody is inside, in the runs in
which no process was killed inside and in no others. -/
theorem created_unlocked_iff {π : Type} [DecidableEq π] (actions : List (QueueAction π))
    (t : QueueWorld π)
    (hr : run QueueWorld.step (.initial π) actions = some t) (hcreated : t.created = true)
    (houtside : ∀ p, t.inside p = false) :
    t.semaphore = some 1 ↔ Along QueueWorld.step KilledOutside (.initial π) actions := by
  have hexists : t.Unopened := Runs.invariant (I := Unopened)
    (fun _ _ _ v h => v.step (step_cases h)) (fun _ => ⟨rfl, by simp [QueueWorld.initial]⟩) hr
  have hsplit := Runs.invariant_split (C := KilledOutside)
    (I := fun w => Exclusive w.semaphore w.inside) (J := fun w => Lost w.semaphore w.inside)
    (fun _ _ _ v hc h => ((step_cases h).effect hc).exclusive v)
    (fun _ _ _ v hc h => (step_cases h).lost hc v)
    (fun _ a _ v h => ((step_cases h).effect (killedOutside_of_outside v.outside a)).lost v)
    (.absent rfl fun _ => rfl) hr
  rcases hsplit with ⟨hc, hexclusive⟩ | ⟨hc, hlost⟩
  · refine iff_of_true ?_ hc
    cases hexclusive with
    | absent value => simp [(hexists value).1] at hcreated
    | free value => exact value
    | held p _ alone => simpa [houtside p] using alone p
  · refine iff_of_false ?_ hc
    rw [hlost.value]
    simp

/-- A process creates the queue and pushes; another attaches it and is killed at
its `sem_wait`; the segment is removed, and after a restart created again. -/
def restartedActions : List (QueueAction Bool) :=
  List.flatten
    [[.start true true true byteQueue], .replicate 6 (.construct true true),
      [.operate true (.invoke (.push [7]))], .replicate 7 (.operate true .next),
      [.start false false false byteQueue, .construct false true, .construct false true,
        .operate false (.invoke .pop), .kill false, .kill true, .removeSegment],
      [.start true true true byteQueue], .replicate 6 (.construct true true)]

def restarted : QueueWorld Bool :=
  (run QueueWorld.step (.initial Bool) restartedActions).get (by decide +kernel)

theorem created_unlocked_restarted :
    restarted.semaphore = some 1 ∧ restarted.key = some 1 := by
  have hiff := created_unlocked_iff restartedActions restarted (Option.some_get _).symm
    (by decide +kernel) (by decide +kernel)
  exact ⟨hiff.mpr (by decide +kernel), by decide +kernel⟩

/-- The creator is killed between the `sem_wait` and the `sem_post` of a push, and
the queue is created again in a new segment. -/
def killedInsideActions : List (QueueAction Bool) :=
  List.flatten
    [[.start true true true byteQueue], .replicate 6 (.construct true true),
      [.operate true (.invoke (.push [7])), .operate true .next, .kill true, .removeSegment],
      [.start true true true byteQueue], .replicate 6 (.construct true true)]

def killedInside : QueueWorld Bool :=
  (run QueueWorld.step (.initial Bool) killedInsideActions).get (by decide +kernel)

/-- Every `sem_wait` on the new queue blocks. -/
theorem not_always_unlocked :
    ¬ ∀ (π : Type) [DecidableEq π] (actions : List (QueueAction π)) (t : QueueWorld π),
      run QueueWorld.step (.initial π) actions = some t → t.created = true →
      (∀ p, t.inside p = false) → t.semaphore = some 1 := by
  intro h
  have hfree := h Bool killedInsideActions killedInside (Option.some_get _).symm
    (by decide +kernel) (by decide +kernel)
  revert hfree
  decide +kernel

end ParkingSystem
