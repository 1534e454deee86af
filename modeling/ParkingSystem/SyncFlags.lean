import ParkingSystem.SyncObjects

/-!
# Objects and their flags

`request_queue_mutex_initialized_` and `request_queue_condition_initialized_` are what
`shutdown` knows of the two objects. `objects_kept` says in which runs they say the truth
and no call comes upon an object that is not initialized: the failure exits of `run` must
not destroy anything, as they leave the flags set, and the threads that `run` has failed to
join must have ended when `shutdown` destroys what they use.
-/

namespace ParkingSystem.SyncObjects

open Runs (run Along)
open Sync (Monitor)

namespace State

variable {ρ : Type} {w w' : State ρ} {a : Action ρ}

-- ---------------------------------------------------------------------------
-- Flags and objects
-- ---------------------------------------------------------------------------

/-- Each flag says whether its object is initialized, no call has missed its object, and
nobody waits on a condition variable that is not there. -/
structure Kept (w : State ρ) : Prop where
  inStep : ∀ object, w.flag object = true ↔ w.initialized object = true
  used : w.misuse = none
  waiting : ∀ t ∈ w.monitor.parked, w.initialized .condition = true

/-- No failure exit of `run` destroys an object. -/
def ExitKeeps (w : State ρ) : Action ρ → Prop
  | .main (.next true) => w.pc ≠ .exitConditionDestroy ∧ w.pc ≠ .exitMutexDestroy
  | _ => True

/-- When `shutdown` destroys an object, the threads that `pthread_join` has failed on have
ended. -/
def LeftEnded (w : State ρ) : Action ρ → Prop
  | .main (.next true) => w.pc = .conditionDestroy ∨ w.pc = .mutexDestroy →
      ∀ worker ∈ w.workers, worker.joined = some false → worker.pc.ended = true
  | _ => True

def Clean (w : State ρ) (a : Action ρ) : Prop := w.ExitKeeps a ∧ w.LeftEnded a

instance (w : State ρ) : DecidablePred w.ExitKeeps
  | .main (.next true) => inferInstanceAs (Decidable (_ ∧ _))
  | .main (.next false) | .main (.call _) | .main .sigint | .worker _ _ | .spuriousWakeup _ =>
    .isTrue trivial

instance (w : State ρ) : DecidablePred w.LeftEnded
  | .main (.next true) => inferInstanceAs (Decidable (_ → _))
  | .main (.next false) | .main (.call _) | .main .sigint | .worker _ _ | .spuriousWakeup _ =>
    .isTrue trivial

instance (w : State ρ) : DecidablePred w.Clean := fun _ => inferInstanceAs (Decidable (_ ∧ _))

/-- A worker thread: the objects are there while it runs, and it is joined or still to be. -/
structure Accounted (w : State ρ) (i : Nat) (worker : Worker ρ) : Prop where
  alive : worker.pc.ended = false → ∀ object, w.initialized object = true
  joined : worker.joined = some true → worker.pc.ended = true
  unjoined : worker.joined = none → ∃ thread ∈ w.pc.toJoin, i = w.thread thread

structure Inv (w : State ρ) : Prop where
  inStep : ∀ object, w.flag object = true ↔ w.initialized object = true
  used : w.misuse = none
  needed : ∀ object, w.pc.needs object = true → w.initialized object = true
  workers : ∀ (i : Nat) (worker : Worker ρ), w.workers[i]? = some worker → w.Accounted i worker
  parked : ∀ t ∈ w.monitor.parked, ∃ (i : Nat) (worker : Worker ρ), t = .worker i ∧
    w.workers[i]? = some worker ∧ worker.pc = .responseWriter .waiting

namespace Inv

theorem initial : (initial ρ).Inv where
  inStep _ := Iff.rfl
  used := rfl
  needed object hneeds := by cases hneeds
  workers i worker hworker := by simp [State.initial] at hworker
  parked t ht := absurd ht (Finset.notMem_empty t)

theorem kept (v : w.Inv) : w.Kept where
  inStep := v.inStep
  used := v.used
  waiting t ht := by
    obtain ⟨i, worker, -, hworker, hpc⟩ := v.parked t ht
    exact (v.workers i worker hworker).alive (by rw [hpc]; rfl) .condition

theorem initialized_of_use (v : w.Inv) {object : SyncObject}
    (use : w.pc.needs object = true ∨ ∃ (i : Nat) (worker : Worker ρ),
      w.workers[i]? = some worker ∧ worker.pc.ended = false) :
    w.initialized object = true := by
  rcases use with hneeds | ⟨i, worker, hworker, halive⟩
  · exact v.needed object hneeds
  · exact (v.workers i worker hworker).alive halive object

theorem moved (v : w.Inv) {pc : Pc} {running : Bool} {monitor : Monitor Thread}
    (needs : ∀ object, pc.needs object = true → w.pc.needs object = true ∨ w.flag object = true)
    (toJoin : pc.toJoin = w.pc.toJoin) (parked : monitor.parked ⊆ w.monitor.parked) :
    Inv { w with pc := pc, running := running, monitor := monitor } where
  inStep := v.inStep
  used := v.used
  needed object hneeds := by
    rcases needs object hneeds with hneeds | hflag
    · exact v.needed object hneeds
    · exact (v.inStep object).mp hflag
  workers i worker hworker :=
    { v.workers i worker hworker with
      unjoined := fun hjoined => toJoin ▸ (v.workers i worker hworker).unjoined hjoined }
  parked t ht := v.parked t (parked ht)

theorem initialized (v : w.Inv) {object : SyncObject} {pc : Pc} {monitor : Monitor Thread}
    (needs : ∀ other, pc.needs other = true → other = object ∨ w.pc.needs other = true)
    (toJoin : pc.toJoin = w.pc.toJoin) (parked : monitor.parked = w.monitor.parked) :
    Inv { w.init object with pc := pc, monitor := monitor } where
  inStep other := by
    by_cases hother : other = object
    · simp [init, hother]
    · simpa [init, hother] using v.inStep other
  used := v.used
  needed other hneeds := by
    by_cases hother : other = object
    · simp [init, hother]
    · simpa [init, hother] using v.needed other ((needs other hneeds).resolve_left hother)
  workers i worker hworker :=
    { joined := (v.workers i worker hworker).joined
      unjoined := fun hjoined => toJoin ▸ (v.workers i worker hworker).unjoined hjoined
      alive := fun halive other => by
        by_cases hother : other = object
        · simp [init, hother]
        · simpa [init, hother] using (v.workers i worker hworker).alive halive other }
  parked t ht := v.parked t (parked ▸ ht)

theorem created (v : w.Inv) {thread : DatabaseCreate} {start : WorkerPc ρ} {pc : Pc}
    (needs : ∀ object, w.pc.needs object = true)
    (toJoin : pc.toJoin = w.pc.toJoin ++ [thread]) (fresh : thread ∉ w.pc.toJoin) :
    Inv { w.create thread start with pc := pc } where
  inStep := v.inStep
  used := v.used
  needed object _ := v.needed object (needs object)
  workers i worker hworker := by
    rcases Nat.lt_or_ge i w.workers.length with hi | hi
    · rw [State.create, List.getElem?_append_left hi] at hworker
      obtain ⟨halive, hjoined, hunjoined⟩ := v.workers i worker hworker
      refine ⟨halive, hjoined, fun hnone => ?_⟩
      obtain ⟨other, hother, hi⟩ := hunjoined hnone
      have hne : other ≠ thread := fun heq => fresh (heq ▸ hother)
      exact ⟨other, by simp [toJoin, hother], hi.trans (Function.update_of_ne hne _ _).symm⟩
    · rw [State.create, List.getElem?_append_right hi, List.getElem?_singleton] at hworker
      split at hworker
      · cases hworker
        have hi : i = w.workers.length := by omega
        exact ⟨fun _ object => v.needed object (needs object), nofun,
          fun _ => ⟨thread, by simp [toJoin], by simpa [State.create] using hi⟩⟩
      · cases hworker
  parked t ht := by
    obtain ⟨i, worker, hi, hworker, hpc⟩ := v.parked t ht
    refine ⟨i, worker, hi, ?_, hpc⟩
    rw [State.create, List.getElem?_append_left (List.getElem?_eq_some_iff.mp hworker).1]
    exact hworker

theorem joined (v : w.Inv) {thread : DatabaseCreate} {ok : Bool} {worker : Worker ρ} {pc : Pc}
    (exists_ : w.workers[w.thread thread]? = some worker)
    (ended : ok = true → worker.pc.ended = true) (needs : ∀ object, w.pc.needs object = true)
    (toJoin : w.pc.toJoin = thread :: pc.toJoin) :
    Inv { w with
      workers := w.workers.modify (w.thread thread) fun worker => { worker with joined := some ok }
      pc := pc } where
  inStep := v.inStep
  used := v.used
  needed object _ := v.needed object (needs object)
  workers i worker' hworker' := by
    rw [List.getElem?_modify] at hworker'
    obtain ⟨before, hbefore, rfl⟩ := Option.map_eq_some_iff.mp hworker'
    obtain ⟨halive, hjoined, hunjoined⟩ := v.workers i before hbefore
    by_cases hi : w.thread thread = i
    · obtain rfl : worker = before := Option.some.inj (exists_.symm.trans (hi ▸ hbefore))
      simp only [hi, if_true]
      exact ⟨halive, fun hok => ended (Option.some.inj hok), nofun⟩
    · simp only [hi, if_false]
      refine ⟨halive, hjoined, fun hnone => ?_⟩
      obtain ⟨other, hother, rfl⟩ := hunjoined hnone
      rw [toJoin] at hother
      rcases List.mem_cons.mp hother with rfl | hother
      · exact absurd rfl hi
      · exact ⟨other, hother, rfl⟩
  parked t ht := by
    obtain ⟨i, waiting, hi, hwaiting, hpc⟩ := v.parked t ht
    refine ⟨i, _, hi, by rw [List.getElem?_modify, hwaiting]; rfl, ?_⟩
    split <;> exact hpc

/-- `run` returns only when it has called `pthread_join` on every thread it created. -/
theorem ended (v : w.Inv) (hjoin : w.pc.toJoin = [])
    (hleft : ∀ worker ∈ w.workers, worker.joined = some false → worker.pc.ended = true) {i : Nat}
    {worker : Worker ρ} (hworker : w.workers[i]? = some worker) : worker.pc.ended = true := by
  obtain ⟨-, hjoined, hunjoined⟩ := v.workers i worker hworker
  match hstate : worker.joined with
  | none =>
    obtain ⟨thread, hthread, -⟩ := hunjoined hstate
    rw [hjoin] at hthread
    cases hthread
  | some true => exact hjoined hstate
  | some false => exact hleft worker (List.mem_of_getElem? hworker) hstate

theorem destroyed (v : w.Inv) {object : SyncObject} {pc : Pc}
    (ended : ∀ (i : Nat) (worker : Worker ρ), w.workers[i]? = some worker → worker.pc.ended = true)
    (needs : ∀ other, pc.needs other = true → other ≠ object ∧ w.flag other = true)
    (toJoin : pc.toJoin = w.pc.toJoin) :
    Inv { (w.destroy object).clearFlag object with pc := pc } where
  inStep other := by
    by_cases hother : other = object
    · simp [destroy, clearFlag, hother]
    · simpa [destroy, clearFlag, hother] using v.inStep other
  used := v.used
  needed other hneeds := by
    obtain ⟨hother, hflag⟩ := needs other hneeds
    simpa [destroy, clearFlag, hother] using (v.inStep other).mp hflag
  workers i worker hworker :=
    { alive := fun halive => absurd (halive.symm.trans (ended i worker hworker)) (by simp)
      joined := (v.workers i worker hworker).joined
      unjoined := fun hjoined => toJoin ▸ (v.workers i worker hworker).unjoined hjoined }
  parked := v.parked

theorem worked (v : w.Inv) {i : Nat} {worker : Worker ρ} {pc : WorkerPc ρ}
    {monitor : Monitor Thread} {queue : List ρ} (exists_ : w.workers[i]? = some worker)
    (alive : worker.pc.ended = false)
    (woken : worker.pc = .responseWriter .waiting → .worker i ∉ w.monitor.parked)
    (parked : ∀ t ∈ monitor.parked, t ∈ w.monitor.parked ∨
      t = .worker i ∧ pc = .responseWriter .waiting) :
    Inv (setWorker { w with monitor := monitor, queue := queue } i pc) where
  inStep := v.inStep
  used := v.used
  needed := v.needed
  workers j worker' hworker' := by
    rw [setWorker, List.getElem?_modify] at hworker'
    obtain ⟨before, hbefore, rfl⟩ := Option.map_eq_some_iff.mp hworker'
    obtain ⟨halive, hjoined, hunjoined⟩ := v.workers j before hbefore
    by_cases hj : i = j
    · obtain rfl : worker = before := Option.some.inj (exists_.symm.trans (hj ▸ hbefore))
      simp only [hj, if_true]
      refine ⟨fun _ => halive alive, fun hok => ?_, hunjoined⟩
      exact absurd (alive.symm.trans (hjoined hok)) (by simp)
    · simp only [hj, if_false]
      exact ⟨halive, hjoined, hunjoined⟩
  parked t ht := by
    rcases parked t ht with ht | ⟨rfl, hpc⟩
    · obtain ⟨j, waiting, rfl, hwaiting, hpc⟩ := v.parked t ht
      have hj : i ≠ j := by
        rintro rfl
        obtain rfl : worker = waiting := Option.some.inj (exists_.symm.trans hwaiting)
        exact woken hpc ht
      refine ⟨j, waiting, rfl, ?_, hpc⟩
      rw [setWorker, List.getElem?_modify, hwaiting]
      simp [hj]
    · refine ⟨i, { worker with pc := pc }, rfl, ?_, hpc⟩
      rw [setWorker, List.getElem?_modify, exists_]
      simp

theorem step (v : w.Inv) (hc : w.Clean a) (h : Change w a w') : w'.Inv := by
  cases h with
  | misused a call object use missing =>
    exact absurd (missing.symm.trans (v.initialized_of_use use)) (by simp)
  | moved a pc running monitor needs toJoin parked => exact v.moved needs toJoin parked
  | initialized a object pc monitor needs toJoin parked => exact v.initialized needs toJoin parked
  | created a thread start pc needs toJoin fresh => exact v.created needs toJoin fresh
  | joined a thread ok worker pc exists_ ended needs toJoin =>
    exact v.joined exists_ ended needs toJoin
  | exitDestroyed object pc place =>
    rcases place with place | place
    · exact absurd place hc.1.1
    · exact absurd place hc.1.2
  | destroyed object pc place needs toJoin =>
    have hjoin : w.pc.toJoin = [] := by rcases place with place | place <;> rw [place] <;> rfl
    exact v.destroyed (fun i worker hworker => v.ended hjoin (hc.2 place) hworker) needs
      (toJoin.trans hjoin.symm)
  | worked a i worker pc monitor queue exists_ alive woken parked =>
    exact v.worked exists_ alive woken parked

end Inv

/-- A failure exit that destroys an object leaves its flag behind. -/
theorem not_kept_of_destroy {object : SyncObject} {pc : Pc} (v : w.Kept)
    (h : w.on .destroy object (some { w.destroy object with pc := pc }) = some w') :
    ¬ w'.Kept := by
  intro v'
  rcases on_eq_some.mp h with ⟨hinitialized, h⟩ | ⟨-, rfl⟩
  · cases h
    have hflag : w.flag object = true := (v.inStep object).mpr hinitialized
    have hdestroyed := (v'.inStep object).mp hflag
    simp [destroy] at hdestroyed
  · cases v'.used

theorem not_kept_of_exit (v : w.Kept) (h : w.step a = some w') (hexit : ¬ w.ExitKeeps a) :
    ¬ w'.Kept := by
  have hstep : w.step (.main (.next true)) = w.main (.next true) := by
    rw [State.step, v.used]
    rfl
  match a, hexit with
  | .main (.next true), hexit =>
    rw [hstep] at h
    by_cases hcondition : w.pc = .exitConditionDestroy
    · rw [main, hcondition] at h
      rcases Option.or_eq_some_iff.mp h with h | ⟨-, h⟩
      · exact not_kept_of_destroy v h
      · cases h
    · have hmutex : w.pc = .exitMutexDestroy := by
        by_contra hmutex
        exact hexit ⟨hcondition, hmutex⟩
      rw [main, hmutex] at h
      rcases Option.or_eq_some_iff.mp h with h | ⟨-, h⟩
      · exact not_kept_of_destroy v h
      · cases h
  | .main (.next false), hexit | .main (.call _), hexit | .main .sigint, hexit
  | .worker _ _, hexit | .spuriousWakeup _, hexit => exact absurd trivial hexit

end State

-- ---------------------------------------------------------------------------
-- Runs
-- ---------------------------------------------------------------------------

def KeptThroughout {ρ : Type} (actions : List (Action ρ)) : Prop :=
  ∀ before after w, actions = before ++ after → run State.step (.initial ρ) before = some w → w.Kept

/-- The flags and the objects stay together in every run in which no failure exit destroys an
object and no thread is left running when `shutdown` destroys one; and in no run in which a
failure exit does destroy an object. -/
theorem objects_kept (ρ : Type) (actions : List (Action ρ)) (t : State ρ)
    (hr : run State.step (.initial ρ) actions = some t) :
    (Along State.step State.Clean (.initial ρ) actions → KeptThroughout actions) ∧
      (KeptThroughout actions → Along State.step State.ExitKeeps (.initial ρ) actions) := by
  constructor
  · rintro hc before after w rfl hw
    have hbefore := ((Along.append hw).mp hc).1
    have v : w.Inv := Runs.invariant_along (I := State.Inv)
      (fun _ _ _ v hc h => v.step hc (State.step_cases h)) .initial hw hbefore
    exact v.kept
  · intro hkept
    refine Along.of_steps hr fun before a after w w' hactions hw h => ?_
    by_contra hexit
    have v : w.Kept := hkept before (a :: after) w hactions hw
    have v' : w'.Kept := hkept (before ++ [a]) after w' (by simp [hactions])
      (Runs.run_concat.mpr ⟨w, hw, h⟩)
    exact State.not_kept_of_exit v h hexit v'

def mainActions (steps : List MainStep) : List (Action Nat) := steps.map .main

def stoppedActions : List (Action Nat) :=
  List.flatten
    [mainActions (.call .run :: List.replicate 6 (.next true)),
      mainActions [.sigint, .next true], [.worker 0 (.next true), .worker 1 (.next true)],
      mainActions (List.replicate 6 (.next true)),
      mainActions [.call .shutdown, .next true, .next true]]

def stopped : State Nat := (run State.step (.initial Nat) stoppedActions).get (by decide +kernel)

theorem objects_kept_stopped :
    (stopped.pc = .idle ∧ stopped.workers.length = 2 ∧ stopped.initialized .mutex = false) ∧
      KeptThroughout stoppedActions :=
  ⟨by decide +kernel, (objects_kept Nat stoppedActions stopped (Option.some_get _).symm).1
    (by decide +kernel)⟩

/-- `pthread_cond_init` fails, and the exit destroys the mutex. -/
def conditionInitFailsActions : List (Action Nat) :=
  mainActions [.call .run, .next true, .next false, .next true]

def conditionInitFails : State Nat :=
  (run State.step (.initial Nat) conditionInitFailsActions).get (by decide +kernel)

/-- After that `shutdown` destroys it once more. -/
theorem objects_not_always_kept :
    conditionInitFails.pc = .idle ∧ conditionInitFails.flag .mutex = true ∧
      conditionInitFails.initialized .mutex = false ∧
      (∃ t, run State.step conditionInitFails (mainActions [.call .shutdown, .next true]) = some t ∧
        t.misuse = some (.destroy, .mutex)) ∧
      ¬ ∀ (ρ : Type) (actions : List (Action ρ)) (t : State ρ),
        run State.step (.initial ρ) actions = some t → KeptThroughout actions := by
  have hflag : conditionInitFails.flag .mutex = true := by decide +kernel
  have hdestroyed : conditionInitFails.initialized .mutex = false := by decide +kernel
  refine ⟨by decide +kernel, hflag, hdestroyed, ⟨_, rfl, rfl⟩, fun h => ?_⟩
  have hr : run State.step (.initial Nat) conditionInitFailsActions = some conditionInitFails :=
    (Option.some_get _).symm
  have v : conditionInitFails.Kept :=
    h Nat conditionInitFailsActions conditionInitFails hr _ [] _ (List.append_nil _).symm hr
  exact absurd (hdestroyed.symm.trans ((v.inStep .mutex).mp hflag)) (by simp)

/-- `pthread_join` fails on a reader that has a request. -/
def leftActions : List (Action Nat) :=
  List.flatten
    [mainActions (.call .run :: List.replicate 6 (.next true)),
      [.worker 0 (.next true), .worker 0 (.popped 7)], mainActions [.sigint, .next true],
      [.worker 1 (.next true)], mainActions (List.replicate 4 (.next true)),
      mainActions [.next false, .next true],
      mainActions [.call .shutdown, .next true, .next true]]

/-- The reader locks the mutex after `shutdown` has destroyed it. -/
example : (run State.step (.initial Nat) (leftActions ++ [.worker 0 (.next true)])).bind
    State.misuse = some (.lock, .mutex) := by
  decide +kernel

end ParkingSystem.SyncObjects
