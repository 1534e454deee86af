import ParkingSystem.DatabaseThreads
import ParkingSystem.TcpServerThreads

/-!
# No lost wake-up

In both programs the consumer is parked on a queue with something in it only while
the producer still has to signal, and never after the broadcast of the stop sequence
(`no_lost_wakeup`).

The failure paths of `TcpServer::run` clear `running_` and join the request writer
without a broadcast. `failed_start_joins` says that this is right only if the request
writer has not parked by then and is not about to; the failure path of
`Database::run` goes through the lock and the broadcast.
-/

namespace ParkingSystem

open Runs (run run_cons run_nil Along)
open Sync (Monitor)

namespace TcpServerThreads

variable {ρ : Type} {w : TcpServerThreads ρ}

/-- The tcp thread wakes the request writer with the steps that it takes next. -/
def WakeupComes (w : TcpServerThreads ρ) : Prop :=
  ∃ n w', run step w (List.replicate n (.tcpServer .next)) = some w' ∧ ¬ w'.handoff.Parked

theorem Consistent.wakeupComes (v : w.Consistent told) (howed : w.tcpServer.owes = true) :
    w.WakeupComes := by
  obtain ⟨s, writer, reader, pc, main⟩ := w
  cases pc <;> cases howed
  have hsignal : s.signal = some s.broadcast := v.steady.signal_eq_some.mpr rfl
  exact ⟨1, ⟨s.broadcast, writer, reader, .unlock, main⟩,
    run_cons.mpr ⟨_, congrArg (Option.map _) hsignal, run_nil.mpr rfl⟩, Finset.notMem_empty _⟩

end TcpServerThreads

namespace DatabaseThreads

variable {ρ : Type} {w : DatabaseThreads ρ}

def WakeupComes (w : DatabaseThreads ρ) : Prop :=
  ∃ n w', run step w (List.replicate n (.requestReader .next)) = some w' ∧ ¬ w'.handoff.Parked

theorem Consistent.wakeupComes (v : w.Consistent told) (howed : w.requestReader.owes = true) :
    w.WakeupComes := by
  obtain ⟨s, writer, pc, main⟩ := w
  cases pc <;> cases howed
  case unlock =>
    have howner : s.monitor.owner = some .producer := (v.steady.owned .producer).mp rfl
    obtain ⟨s₁, hunlock⟩ : ∃ s₁, s.unlock .producer = some s₁ :=
      ⟨_, congrArg (Option.map _) (Monitor.unlock_eq_some.mpr ⟨howner, rfl⟩)⟩
    have hsignal : s₁.signal = some s₁.broadcast :=
      (v.steady.unlock (by simp) hunlock).signal_eq_some.mpr rfl
    exact ⟨2, ⟨s₁.broadcast, writer, .test, main⟩,
      run_cons.mpr ⟨_, congrArg (Option.map _) hunlock,
        run_cons.mpr ⟨_, congrArg (Option.map _) hsignal, run_nil.mpr rfl⟩⟩,
      Finset.notMem_empty _⟩
  case signal =>
    have hsignal : s.signal = some s.broadcast := v.steady.signal_eq_some.mpr rfl
    exact ⟨1, ⟨s.broadcast, writer, .test, main⟩,
      run_cons.mpr ⟨_, congrArg (Option.map _) hsignal, run_nil.mpr rfl⟩, Finset.notMem_empty _⟩

end DatabaseThreads

/-- In every state that the threads of either program reach: a consumer that is parked
while there is a request in the queue is woken by the producer, which is between its
push and its signal; and none is parked once the stop sequence has broadcast. -/
theorem no_lost_wakeup (ρ : Type) :
    (∀ (actions : List (TcpServerThreadsAction ρ)) (t : TcpServerThreads ρ),
      run TcpServerThreads.step (.initial ρ) actions = some t → t.handoff.Parked →
      (t.handoff.queue ≠ [] → t.tcpServer.owes = true ∧ t.WakeupComes) ∧ t.main.told = false) ∧
    (∀ (actions : List (DatabaseThreadsAction ρ)) (t : DatabaseThreads ρ),
      run DatabaseThreads.step (.initial ρ) actions = some t → t.handoff.Parked →
      (t.handoff.queue ≠ [] → t.requestReader.owes = true ∧ t.WakeupComes) ∧
        t.main.told = false) := by
  constructor
  · intro actions t hr hparked
    have v := TcpServerThreads.reached_consistent hr
    refine ⟨fun hqueue => ?_, v.steady.told_eq_false hparked⟩
    have howed := v.steady.owed hparked hqueue
    exact ⟨howed, v.wakeupComes howed⟩
  · intro actions t hr hparked
    have v := DatabaseThreads.reached_consistent hr
    refine ⟨fun hqueue => ?_, v.steady.told_eq_false hparked⟩
    have howed := v.steady.owed hparked hqueue
    exact ⟨howed, v.wakeupComes howed⟩

def tcpServerPushedActions : List (TcpServerThreadsAction Nat) :=
  List.flatten
    [.replicate 3 (.main true), .replicate 5 .requestWriter, .replicate 3 (.tcpServer .next),
      [.tcpServer (.received 7)], .replicate 2 (.tcpServer .next)]

def databasePushedActions : List (DatabaseThreadsAction Nat) :=
  List.flatten
    [.replicate 2 (.main .next), .replicate 5 .responseWriter,
      [.requestReader .next, .requestReader (.popped 7), .requestReader .next, .requestReader .next]]

def tcpServerPushed : TcpServerThreads Nat :=
  (run TcpServerThreads.step (.initial Nat) tcpServerPushedActions).get (by decide +kernel)

def databasePushed : DatabaseThreads Nat :=
  (run DatabaseThreads.step (.initial Nat) databasePushedActions).get (by decide +kernel)

theorem no_lost_wakeup_pushed :
    tcpServerPushed.WakeupComes ∧ databasePushed.WakeupComes := by
  obtain ⟨htcpServer, hdatabase⟩ := no_lost_wakeup Nat
  exact ⟨((htcpServer tcpServerPushedActions tcpServerPushed (Option.some_get _).symm
      (by decide +kernel)).1 (by decide +kernel)).2,
    ((hdatabase databasePushedActions databasePushed (Option.some_get _).symm
      (by decide +kernel)).1 (by decide +kernel)).2⟩

-- ---------------------------------------------------------------------------
-- A thread that could not be created
-- ---------------------------------------------------------------------------

def TcpServerRunPc.abandons : TcpServerRunPc → Bool
  | .stop (some _) => true
  | _ => false

theorem TcpServerRunPc.abandons_eq_true {pc : TcpServerRunPc} :
    pc.abandons = true ↔ ∃ failed, pc = .stop (some failed) := by
  cases pc with
  | stop failed => cases failed <;> simp [abandons]
  | _ => simp [abandons]

def TcpServerRunPc.abandoned : TcpServerRunPc → Bool
  | .joinRequestWriter (some _) | .joinResponseReader (some _) | .returned (some _) => true
  | _ => false

namespace TcpServerThreads

variable {ρ : Type} {w w' t : TcpServerThreads ρ} {a : TcpServerThreadsAction ρ}
  {actions : List (TcpServerThreadsAction ρ)}

/-- No thread will signal or broadcast: none ever comes to such a call. -/
def NoWakeup (w : TcpServerThreads ρ) : Prop :=
  ∀ actions w', run step w actions = some w' → w'.tcpServer.owes = false ∧ w'.main ≠ .broadcast

/-- `run` waits for a request writer that waits for a wake-up. -/
structure Hung (w : TcpServerThreads ρ) : Prop where
  joining : ∃ failed, w.main = .joinRequestWriter failed
  parked : w.handoff.Parked
  noWakeup : w.NoWakeup

/-- When `running_` is cleared after a failed `pthread_create`, the request writer is
not parked and has not seen `running_` set on its way to park. -/
def SeesStop (w : TcpServerThreads ρ) : TcpServerThreadsAction ρ → Prop
  | .main _ => w.main.abandons = true → ¬ w.handoff.Parked ∧ w.requestWriter.waits = false
  | _ => True

instance (w : TcpServerThreads ρ) : DecidablePred w.SeesStop
  | .main _ => inferInstanceAs (Decidable (_ → _))
  | .requestWriter | .responseReader | .tcpServer _ | .spuriousWakeup => .isTrue trivial

def told (w : TcpServerThreads ρ) : Bool := w.main.told || w.main.abandoned

theorem told_eq_true : w.told = true ↔ w.main.told = true ∨ w.main.abandoned = true :=
  Bool.or_eq_true_iff

theorem Change.abandoned_before (h : Change w a w') (habandoned : w'.main.abandoned = true) :
    w.main.abandoned = true ∨ ∃ thread ok, w.main = .stop (some thread) ∧ a = .main ok ∧
      w' = { w with main := thread.join, handoff := w.handoff.stop } := by
  cases h with
  | abandoned thread place => exact .inr ⟨thread, _, place, rfl, rfl⟩
  | joinedRequestWriter failed pc place next =>
    rw [place]
    rcases next with ⟨rfl, -⟩ | rfl <;> cases failed <;> first | exact .inl rfl | cases habandoned
  | joinedResponseReader failed place =>
    rw [place]
    cases failed <;> first | exact .inl rfl | cases habandoned
  | createFailed | createdRequestWriter | createdResponseReader | createdTcpServer | interrupted
  | stopped | mainLocked | broadcast | mainUnlocked | joinedTcpServer => cases habandoned
  | _ => exact .inl habandoned

theorem Consistent.abandon {thread : TcpServerCreate} {ok : Bool} (v : w.Consistent w.told)
    (hmain : w.main = .stop (some thread)) (hc : w.SeesStop (.main ok)) :
    Consistent { w with main := thread.join, handoff := w.handoff.stop } true := by
  have habandon : Change w (.main ok) { w with main := thread.join, handoff := w.handoff.stop } :=
    .abandoned thread hmain
  have hkept := v.step habandon
  obtain ⟨hparked, hwaits⟩ := hc (by rw [hmain]; rfl)
  refine { hkept with steady := { hkept.steady with told := fun _ => ⟨rfl, ?_, hparked⟩ } }
  intro hwait
  have hwaits' : w.requestWriter.waits = true := ConsumerPc.waits_eq_true.mpr hwait
  exact absurd (hwaits.symm.trans hwaits') (by simp)

theorem Consistent.step_seen (v : w.Consistent w.told) (hc : w.SeesStop a) (h : Change w a w') :
    w'.Consistent w'.told := by
  cases htold : w'.told with
  | false => exact (v.step h).mono nofun
  | true =>
    rcases told_eq_true.mp htold with htold | habandoned
    · rcases h.told_before htold with hbefore | ⟨hmain, rfl⟩
      · exact (v.step h).mono fun _ => told_eq_true.mpr (.inl hbefore)
      · exact v.broadcast hmain
    · rcases h.abandoned_before habandoned with hbefore | ⟨thread, ok, hmain, rfl, rfl⟩
      · exact (v.step h).mono fun _ => told_eq_true.mpr (.inr hbefore)
      · exact v.abandon hmain hc

-- ---------------------------------------------------------------------------
-- On a failure path nobody signals
-- ---------------------------------------------------------------------------

structure Adrift (w : TcpServerThreads ρ) : Prop where
  main : w.main.abandoned = true
  tcpServer : w.tcpServer = .notCreated

theorem Adrift.step (v : w.Adrift) (h : Change w a w') : w'.Adrift := by
  obtain ⟨hmain, hnone⟩ := v
  cases h with
  | consumed | responded | woken => exact ⟨hmain, hnone⟩
  | served _ exists_ | gaveUp exists_ => exact absurd hnone exists_
  | locked place | pushed place | signalled place | unlocked place =>
    rw [hnone] at place
    cases place
  | joinedRequestWriter failed pc place next =>
    rw [place] at hmain
    cases failed with
    | none => cases hmain
    | some thread => rcases next with ⟨rfl, -⟩ | rfl <;> exact ⟨rfl, hnone⟩
  | joinedResponseReader failed place =>
    rw [place] at hmain
    cases failed with
    | none => cases hmain
    | some thread => exact ⟨rfl, hnone⟩
  | createFailed _ place | createdRequestWriter place | createdResponseReader place
  | createdTcpServer place | interrupted place | stopped place | abandoned _ place
  | mainLocked place | broadcast place | mainUnlocked place | joinedTcpServer place =>
    rw [place] at hmain
    cases hmain

theorem Adrift.noWakeup (v : w.Adrift) : w.NoWakeup := by
  intro actions w' hr
  have hadrift : w'.Adrift := Runs.invariant (fun _ _ _ v h => v.step (step_cases h)) v hr
  refine ⟨by rw [hadrift.tcpServer]; rfl, fun hmain => ?_⟩
  have habandoned := hadrift.main
  rw [hmain] at habandoned
  cases habandoned

def Failing (w : TcpServerThreads ρ) : Prop :=
  ∀ failed, w.main = .stop (some failed) →
    w.tcpServer = .notCreated ∧ (failed = .requestWriter → w.requestWriter = .notCreated)

theorem Failing.step (f : w.Failing) (v : w.Consistent w.main.told) (h : Change w a w') :
    w'.Failing := by
  intro failed hmain
  cases h with
  | consumed consume =>
    refine ⟨(f failed hmain).1, fun hfailed => ?_⟩
    rw [(f failed hmain).2 hfailed] at consume
    cases consume
  | responded | woken => exact f failed hmain
  | served _ exists_ | gaveUp exists_ => exact absurd (f failed hmain).1 exists_
  | locked place | pushed place | signalled place | unlocked place =>
    rw [(f failed hmain).1] at place
    cases place
  | createFailed thread place =>
    cases hmain
    exact ⟨v.tcpServer _ place, fun hthread => v.requestWriter (hthread ▸ place)⟩
  | abandoned thread => cases thread <;> cases hmain
  | joinedRequestWriter _ _ _ next => rcases next with ⟨rfl, -⟩ | rfl <;> cases hmain
  | _ => cases hmain

theorem reached_failing (hr : run step (.initial ρ) actions = some t) : t.Failing := by
  refine (Runs.invariant (I := fun w => w.Consistent w.main.told ∧ w.Failing)
    (fun _ _ _ v h => ⟨v.1.step_told (step_cases h), v.2.step v.1 (step_cases h)⟩)
    ⟨.initial, ?_⟩ hr).2
  intro failed hmain
  cases hmain

/-- The condition is exact: where `running_` is cleared behind the back of the request
writer, `run` may get stuck. -/
theorem hangs_of_unseen {created : Bool} (hr : run step (.initial ρ) actions = some w)
    (hc : ¬ w.SeesStop (.main created)) (h : w.runThreads created = some w') :
    ∃ more t, run step w' more = some t ∧ t.Hung := by
  have v := reached_consistent hr
  have f := reached_failing hr
  obtain ⟨s, writer, reader, pc, main⟩ := w
  obtain ⟨habandons, hunseen⟩ := Classical.not_imp.mp hc
  obtain ⟨failed, rfl⟩ := TcpServerRunPc.abandons_eq_true.mp habandons
  obtain ⟨hnone, hwriter⟩ := f failed rfl
  obtain rfl : pc = .notCreated := hnone
  have hplace : writer = .waiting ∨ writer = .wait := by
    by_cases hparked : s.Parked
    · exact .inl (v.steady.parked _ hparked).2
    · refine .inr (ConsumerPc.waits_eq_true.mp ?_)
      exact Bool.not_eq_false _ ▸ fun hwaits => hunseen ⟨hparked, hwaits⟩
  have hjoining : w' = ⟨s.stop, writer, reader, .notCreated, .joinRequestWriter (some failed)⟩ := by
    cases failed with
    | requestWriter =>
      obtain rfl : writer = .notCreated := hwriter rfl
      simp at hplace
    | responseReader =>
      cases h
      rfl
    | tcpServer =>
      cases h
      rfl
  subst hjoining
  by_cases hparked : s.Parked
  · exact ⟨[], _, run_nil.mpr rfl, ⟨_, rfl⟩, hparked, Adrift.noWakeup ⟨rfl, rfl⟩⟩
  · obtain rfl : writer = .wait :=
      hplace.resolve_left fun hwaiting => hunseen ⟨hparked, by rw [hwaiting]; rfl⟩
    have howner : s.stop.monitor.owner = some .consumer := (v.steady.owned .consumer).mp rfl
    -- It still parks, as it has seen `running_` set.
    have hpark : s.stop.consume false .wait =
        some ({ s.stop with monitor := ⟨none, insert .consumer s.monitor.parked⟩ }, .waiting) :=
      congrArg (Option.map _) (Monitor.park_eq_some.mpr ⟨howner, rfl⟩)
    exact ⟨[.requestWriter], _, run_cons.mpr ⟨_, congrArg (Option.map _) hpark, run_nil.mpr rfl⟩,
      ⟨_, rfl⟩, Finset.mem_insert_self _ _, Adrift.noWakeup ⟨rfl, rfl⟩⟩

/-- A failed start of TcpServer is not stuck in the join of the request writer: in every
run in which the request writer sees `running_` cleared, it is not parked while `run`
joins it. -/
theorem failed_start_joins (ρ : Type) (actions : List (TcpServerThreadsAction ρ))
    (t : TcpServerThreads ρ) (hr : run step (.initial ρ) actions = some t)
    (hc : Along step SeesStop (.initial ρ) actions) : ¬ t.Hung := by
  intro hhung
  have v : t.Consistent t.told := Runs.invariant_along (I := fun w => w.Consistent w.told)
    (fun _ _ _ v hc h => v.step_seen hc (step_cases h)) .initial hr hc
  obtain ⟨failed, hmain⟩ := hhung.joining
  have htold : t.told = true := by
    rw [told, hmain]
    cases failed <;> rfl
  exact (v.steady.told htold).2.2 hhung.parked

/-- The second `pthread_create` fails before the request writer has come to its loop. -/
def failedStartActions : List (TcpServerThreadsAction Nat) :=
  [.main true, .requestWriter, .main false, .main false] ++ List.replicate 3 .requestWriter

def failedStart : TcpServerThreads Nat :=
  (run step (.initial Nat) failedStartActions).get (by decide +kernel)

theorem failed_start_joins_seen :
    failedStart.main = .joinRequestWriter (some .responseReader) ∧ ¬ failedStart.Hung :=
  ⟨by decide +kernel, failed_start_joins Nat failedStartActions failedStart
    (Option.some_get _).symm (by decide +kernel)⟩

/-- It fails after the request writer has parked on the empty queue. -/
def hungActions : List (TcpServerThreadsAction Nat) :=
  .main true :: List.replicate 5 .requestWriter ++ [.main false, .main false]

def hung : TcpServerThreads Nat := (run step (.initial Nat) hungActions).get (by decide +kernel)

theorem not_always_joined :
    ¬ ∀ (ρ : Type) (actions : List (TcpServerThreadsAction ρ)) (t : TcpServerThreads ρ),
      run step (.initial ρ) actions = some t → ¬ t.Hung := by
  intro h
  have hmain : hung.main = .joinRequestWriter (some .responseReader) := by decide +kernel
  have hadrift : hung.Adrift := ⟨by rw [hmain]; rfl, by decide +kernel⟩
  exact h Nat hungActions hung (Option.some_get _).symm
    ⟨⟨_, hmain⟩, by decide +kernel, hadrift.noWakeup⟩

end TcpServerThreads

end ParkingSystem
