import ParkingSystem.Lifecycle

/-!
# The PID file

Database writes its PID file first of all and removes it last; in between it
blocks SIGUSR1 only for the time of `run`. `named_blocked_iff` says for which runs
the process that the file names always has the signal blocked: those in which
every such process was started with it blocked.

A Database that is refused because another one runs has by then written its own
pid over that of the running one and dropped its tables:
`refused_start_overwrites`.
-/

namespace ParkingSystem

open Runs (run Along)

def DatabasePc.masked : DatabasePc → Bool
  | .createThreads | .waitSignal | .joinThreads | .restoreMask => true
  | _ => false

namespace World

/-- SIGUSR1 does not end the process that the PID file names. -/
def Safe (w : World) : Prop :=
  ∀ p d, w.namedPid = some p → w.databases p = some d → d.live = true → d.blocked = true

/-- A Database process that comes to be named by the PID file, by its own write
or by the leftover of an earlier process, has SIGUSR1 blocked. -/
def MaskedWhenNamed (w : World) : WorldAction → Prop
  | .startDatabase p inherited => w.namedPid = some p → inherited = true
  | .database p .ok => ∀ d ∈ w.databases p, d.pc = .closePidFile →
      (w.flushPidFile p d).bind PidFile.pid = some p → d.blocked = true
  | _ => True

instance (w : World) (a : WorldAction) : Decidable (w.MaskedWhenNamed a) := by
  unfold MaskedWhenNamed
  split <;> infer_instance

variable {w w' : World} {p : Nat} {d d' : DatabaseProcess}

-- ---------------------------------------------------------------------------
-- One step
-- ---------------------------------------------------------------------------

theorem shutdown_masked (d : DatabaseProcess) : d.shutdown.masked = false := by
  unfold DatabaseProcess.shutdown
  split <;> rfl

theorem Edge.masked {pc pc' : DatabasePc} (h : Edge w d pc pc') : pc'.masked = pc.masked := by
  cases h with
  | pidFileNotOpened | pidNotWritten | databaseNotOpened | tablesNotInitialized
  | syncNotInitialized | signalsNotBlocked => exact shutdown_masked d
  | syncDestroyed => split <;> rfl
  | polled pc polls => rcases polls with rfl | rfl <;> split <;> rfl
  | _ => rfl

theorem Flagging.masked {pc pc' : DatabasePc} (h : Flagging pc queue value pc') :
    pc'.masked = pc.masked := by
  cases h <;> rfl

def Masks (d : DatabaseProcess) : Prop := d.live = true → d.blocked = (d.pc.masked || d.inherited)

theorem Masks.exited {cause : ExitCause} : Masks { d with pc := .exited cause } := nofun

theorem DatabaseChange.masks (h : DatabaseChange w p d w') (hd : Masks d) :
    ∃ d', w'.databases = Function.update w.databases p (some d') ∧
      d'.inherited = d.inherited ∧ Masks d' := by
  have hd := hd h.live
  cases h with
  | moved pc edge => exact ⟨_, setDatabase_databases, rfl, fun _ => by simpa [edge.masked] using hd⟩
  | exited => exact ⟨_, setDatabase_databases, rfl, .exited⟩
  | openedPidFile place =>
    unfold openPidFile
    split
    · exact ⟨_, setDatabase_databases, rfl, fun _ => by simpa [place, DatabasePc.masked] using hd⟩
    · exact ⟨_, setDatabase_databases, rfl, fun _ => by simpa [place, DatabasePc.masked] using hd⟩
  | flagged queue value pc flagging =>
    exact ⟨_, setDatabase_databases, rfl, fun _ => by simpa [flagging.masked] using hd⟩
  | headerWritten queue field place =>
    refine ⟨_, setDatabase_databases, rfl, fun _ => ?_⟩
    cases field <;> simpa [place, HeaderField.next, DatabasePc.masked] using hd
  | withdrawn => exact ⟨_, setDatabase_databases, rfl, .exited⟩
  | blockedSignals => exact ⟨_, setDatabase_databases, rfl, fun _ => rfl⟩
  | restored => exact ⟨_, setDatabase_databases, rfl, fun _ => by simp [shutdown_masked]⟩
  | removedPidFile => exact ⟨_, setDatabase_databases, rfl, .exited⟩
  | flushed place | openedDatabase place | initializedTables place | created place
  | attached place | initialized place | consumed place | detached place | removed place
  | closedDatabase place =>
    exact ⟨_, setDatabase_databases, rfl, fun _ => by simpa [place, DatabasePc.masked] using hd⟩

theorem flushPidFile_pid (w : World) (p : Nat) (d : DatabaseProcess) :
    (w.flushPidFile p d).bind PidFile.pid = w.namedPid ∨
      (w.flushPidFile p d).bind PidFile.pid = some p := by
  unfold flushPidFile World.namedPid
  cases w.pidFile with
  | none => exact .inl rfl
  | some file =>
    by_cases hinode : file.inode = d.pidInode
    · simp [hinode]
    · simp [hinode]

theorem DatabaseChange.namedPid (h : DatabaseChange w p d w') :
    w'.namedPid = w.namedPid ∨ w'.namedPid = none ∨
      (d.pc = .closePidFile ∧ w'.namedPid = (w.flushPidFile p d).bind PidFile.pid ∧
        w'.namedPid = some p) := by
  cases h with
  | openedPidFile =>
    right; left
    unfold openPidFile
    split <;> rfl
  | flushed place =>
    rcases w.flushPidFile_pid p d with h | h
    · exact .inl h
    · exact .inr (.inr ⟨place, rfl, h⟩)
  | removedPidFile => exact .inr (.inl rfl)
  | _ => exact .inl rfl

theorem databaseStep_flush (place : d.pc = .closePidFile)
    (h : w.databaseStep p d outcome = some w') : outcome = .ok ∨ w'.namedPid = w.namedPid := by
  unfold databaseStep at h
  rw [place] at h
  cases outcome <;> cases h
  · exact .inl rfl
  · exact .inr rfl

-- ---------------------------------------------------------------------------
-- Whole runs
-- ---------------------------------------------------------------------------

structure Named (w : World) : Prop where
  masks : ∀ p d, w.databases p = some d → Masks d
  inherited : ∀ p d, w.namedPid = some p → w.databases p = some d → d.live = true →
    d.inherited = true

theorem Named.initial (store : Store) : (World.initial store).Named :=
  ⟨by simp [World.initial, databases], by simp [World.initial, databases]⟩

theorem Named.safe (v : w.Named) : w.Safe := by
  intro p d hnamed hd hlive
  rw [v.masks p d hd hlive, v.inherited p d hnamed hd hlive, Bool.or_true]

theorem Named.update (v : w.Named)
    (hdatabases : w'.databases = Function.update w.databases p (some d')) (hmasks : Masks d')
    (hnamed : ∀ q, w'.namedPid = some q → q = p ∨ w.namedPid = some q)
    (hinherited : w'.namedPid = some p → d'.live = true → d'.inherited = true) : w'.Named := by
  constructor
  · intro q e he
    rw [hdatabases, Function.update_apply] at he
    split at he
    · cases he
      exact hmasks
    · exact v.masks q e he
  · intro q e hq he hlive
    rw [hdatabases, Function.update_apply] at he
    split at he
    · rename_i hqp
      cases he
      exact hinherited (hqp ▸ hq) hlive
    · rename_i hqp
      rcases hnamed q hq with rfl | hold
      · exact absurd rfl hqp
      · exact v.inherited q e hold he hlive

theorem Named.tcpServer (v : w.Named) (hnamed : w'.namedPid = w.namedPid)
    (hdatabases : w'.databases = Function.update w.databases p none) : w'.Named := by
  have hold : ∀ q e, w'.databases q = some e → w.databases q = some e := by
    intro q e he
    rw [hdatabases, Function.update_apply] at he
    split at he
    · cases he
    · exact he
  exact ⟨fun q e he => v.masks q e (hold q e he),
    fun q e hq he => v.inherited q e (hnamed ▸ hq) (hold q e he)⟩

theorem Named.database (v : w.Named) (hd : w.databases p = some d)
    (hstep : w.databaseStep p d outcome = some w') (hc : w.MaskedWhenNamed (.database p outcome))
    (h : DatabaseChange w p d w') : w'.Named := by
  obtain ⟨d', hdatabases, hinherited, hmasks⟩ := h.masks (v.masks p d hd)
  have hkept (hnamed : w'.namedPid = w.namedPid) : w'.Named :=
    v.update hdatabases hmasks (fun q hq => .inr (hnamed ▸ hq)) fun hp _ =>
      hinherited.trans (v.inherited p d (hnamed ▸ hp) hd h.live)
  rcases h.namedPid with hnamed | hnamed | ⟨place, hflush, hnamed⟩
  · exact hkept hnamed
  · exact v.update hdatabases hmasks (by simp [hnamed]) (by simp [hnamed])
  · rcases databaseStep_flush place hstep with rfl | hsame
    · -- The process writes its own pid: by the condition with the signal blocked.
      have hblocked := hc d hd place (hflush.symm.trans hnamed)
      have hmask : d.inherited = true := by
        simpa [hblocked, place, DatabasePc.masked] using v.masks p d hd h.live
      refine v.update hdatabases hmasks (fun q hq => .inl ?_) fun _ _ => hinherited.trans hmask
      exact Option.some.inj (hq.symm.trans hnamed)
    · exact hkept hsame

theorem Named.step {a : WorldAction} (v : w.Named) (hc : w.MaskedWhenNamed a)
    (h : Change w a w') : w'.Named := by
  cases h with
  | startedDatabase p inherited dead =>
    exact v.update setDatabase_databases (fun _ => by simp [started, DatabasePc.masked]) (fun _ hq => .inr hq)
      fun hp _ => hc hp
  | database _ p outcome d process step change => exact v.database process step hc change
  | startedTcpServer => exact v.tcpServer rfl setTcpServer_databases
  | tcpServer _ p outcome pc process step change =>
    cases change with
    | moved => exact v.tcpServer rfl setTcpServer_databases
    | attached => exact v.tcpServer rfl setTcpServer_databases
    | exited => exact v.tcpServer rfl setTcpServer_databases
  | databaseKilled readPids p d process live =>
    exact v.update setDatabase_databases .exited (fun _ hq => .inr hq)
      fun hp _ => v.inherited p d hp process live
  | tcpServerKilled => exact v.tcpServer rfl setTcpServer_databases
  | signalPending readPids p d process live =>
    exact v.update setDatabase_databases (v.masks p d process) (fun _ hq => .inr hq) fun hp _ =>
      v.inherited p d hp process live
  | notified => exact ⟨v.masks, v.inherited⟩

/-- The steps that are excluded make the file name a process that SIGUSR1 ends. -/
theorem not_safe_of_not_masked {a : WorldAction} (hc : ¬ w.MaskedWhenNamed a)
    (h : w.step a = some w') : ¬ w'.Safe := by
  intro hsafe
  unfold MaskedWhenNamed at hc
  split at hc
  · rename_i p inherited
    simp only [Classical.not_imp] at hc
    simp only [step] at h
    split at h
    · cases h
    · cases h
      exact hc.2 (hsafe p (started inherited) hc.1 setDatabase_self rfl)
  · rename_i p
    simp only [not_forall] at hc
    obtain ⟨d, hd, place, hflush, hblocked⟩ := hc
    have hd : w.databases p = some d := hd
    have hstep : w.databaseStep p d .ok = some w' := by simpa [step, hd] using h
    unfold databaseStep at hstep
    rw [place] at hstep
    cases hstep
    exact hblocked (hsafe p { d with pc := .openDatabase } hflush setDatabase_self rfl)
  · exact hc trivial

end World

/-- In every state of a run the process that the PID file names has SIGUSR1
blocked, exactly if it had whenever it came to be named. -/
theorem named_blocked_iff (store : Store) (actions : List WorldAction) (t : World)
    (hr : run World.step (World.initial store) actions = some t) :
    (∀ before after w, actions = before ++ after →
      run World.step (World.initial store) before = some w → w.Safe) ↔
    Along World.step World.MaskedWhenNamed (World.initial store) actions := by
  constructor
  · intro hsafe
    refine .of_steps hr fun before a after w w' hsplit hw hstep => ?_
    by_contra hc
    exact World.not_safe_of_not_masked hc hstep
      (hsafe (before ++ [a]) after w' (by simpa using hsplit)
        (Runs.run_concat.mpr ⟨w, hw, hstep⟩))
  · rintro hc before after w rfl hw
    have v : w.Named := Runs.invariant_along
      (fun _ _ _ v hc h => v.step hc (World.step_cases h)) (.initial store) hw
      ((Along.append hw).mp hc).1
    exact v.safe

def maskedActions : List WorldAction :=
  .startDatabase 1 true :: List.replicate 27 (.database 1 .ok) ++ [.readPid, .signal 1,
    .database 1 .sigusr1]

def maskedWorld : World :=
  (run World.step (World.initial Store.initial) maskedActions).get (by decide +kernel)

theorem named_blocked_iff_masked : maskedWorld.Safe :=
  (named_blocked_iff Store.initial maskedActions maskedWorld (Option.some_get _).symm).mpr
    (by decide +kernel) maskedActions [] maskedWorld (by simp) (Option.some_get _).symm

/-- Database has written its PID file and is on its way to `run`. -/
def startingActions : List WorldAction :=
  .startDatabase 1 false :: List.replicate 4 (.database 1 .ok)

theorem not_always_blocked :
    ¬ ∀ (store : Store) (actions : List WorldAction) (t : World),
      run World.step (World.initial store) actions = some t → t.Safe := by
  intro h
  have hwrong : (run World.step (World.initial Store.initial) startingActions).any (fun t =>
      t.namedPid = some 1 ∧ (t.databases 1).any (fun d => d.live && !d.blocked)) = true := by
    decide +kernel
  obtain ⟨t, hr, ht⟩ := (Option.any_eq_true _ _).mp hwrong
  obtain ⟨hnamed, hany⟩ := of_decide_eq_true ht
  obtain ⟨d, hd, hopen⟩ := (Option.any_eq_true _ _).mp hany
  simp only [Bool.and_eq_true, Bool.not_eq_true'] at hopen
  have hblocked := h Store.initial startingActions t hr 1 d hnamed hd hopen.1
  rw [hopen.2] at hblocked
  cases hblocked

-- ---------------------------------------------------------------------------
-- A second Database
-- ---------------------------------------------------------------------------

def DatabasePc.wrotePid : DatabasePc → Bool
  | .writePidFile | .closePidFile | .openDatabase | .initializeTables | .createSegment
  | .exited .segmentExists => true
  | _ => false

def DatabasePc.droppedTables : DatabasePc → Bool
  | .createSegment | .exited .segmentExists => true
  | _ => false

namespace World

variable {w w' : World} {p q : Nat} {d : DatabaseProcess}

/-- A Database process that has come through `initialize` runs, and the PID file
and the segment under the key are its own. -/
structure Owns (w : World) (p : Nat) : Prop where
  process : ∃ d, w.databases p = some d ∧ d.live = true ∧ d.initialized = true ∧
    d.segment.isSome = true ∧ w.key = d.segment
  named : w.namedPid = some p

def Unharmed (w t : World) : Prop := t.store = w.store ∧ t.pidFile = w.pidFile

theorem shutdown_wrotePid (d : DatabaseProcess) :
    d.shutdown.wrotePid = false ∧ d.shutdown.droppedTables = false := by
  unfold DatabaseProcess.shutdown
  split <;> exact ⟨rfl, rfl⟩

theorem Edge.wrotePid {pc pc' : DatabasePc} (h : Edge w d pc pc') :
    (pc'.wrotePid = true → pc.wrotePid = true) ∧ pc'.droppedTables = false := by
  have hshutdown := shutdown_wrotePid d
  cases h with
  | pidFileNotOpened | pidNotWritten | databaseNotOpened | tablesNotInitialized
  | syncNotInitialized | signalsNotBlocked => simp [hshutdown]
  | syncDestroyed => split <;> simp [DatabasePc.wrotePid, DatabasePc.droppedTables]
  | polled => split <;> simp [DatabasePc.wrotePid, DatabasePc.droppedTables]
  | _ => simp [DatabasePc.wrotePid, DatabasePc.droppedTables]

theorem Flagging.wrotePid {pc pc' : DatabasePc} (h : Flagging pc queue value pc') :
    pc'.wrotePid = false ∧ pc'.droppedTables = false := by
  cases h <;> exact ⟨rfl, rfl⟩

/-- What the start of `q` has done to the resources of `p`. -/
structure Intruded (p q : Nat) (w : World) (d : DatabaseProcess) : Prop where
  process : w.databases q = some d
  named : d.pc.wrotePid = true → w.namedPid ≠ some p
  tables : d.pc.droppedTables = true → w.store = Store.initial

theorem Intruded.elsewhere (hprocess : w.databases q = some d) (hpid : d.pc.wrotePid = false)
    (htables : d.pc.droppedTables = false) : Intruded p q w d :=
  ⟨hprocess, by simp [hpid], by simp [htables]⟩

theorem Intruded.step (hne : q ≠ p) (v : Intruded p q w d) (h : DatabaseChange w q d w') :
    ∃ d', Intruded p q w' d' := by
  cases h with
  | moved pc edge =>
    exact ⟨_, setDatabase_self, fun hpc => v.named (edge.wrotePid.1 hpc),
      by simp [edge.wrotePid.2]⟩
  | exited cause live refused =>
    refine ⟨_, setDatabase_self, fun hpc => ?_, fun hpc => ?_⟩
    · have hcause : cause = .segmentExists := by
        cases cause <;> simp_all [DatabasePc.wrotePid]
      exact v.named (by rw [refused hcause]; rfl)
    · have hcause : cause = .segmentExists := by
        cases cause <;> simp_all [DatabasePc.droppedTables]
      exact v.tables (by rw [refused hcause]; rfl)
  | openedPidFile =>
    unfold openPidFile
    split
    · exact ⟨_, setDatabase_self, by simp [World.namedPid, setDatabase],
        by simp [DatabasePc.droppedTables]⟩
    · exact ⟨_, setDatabase_self, by simp [World.namedPid, setDatabase],
        by simp [DatabasePc.droppedTables]⟩
  | flushed place =>
    refine ⟨_, setDatabase_self, fun _ => ?_, by simp [DatabasePc.droppedTables]⟩
    rcases w.flushPidFile_pid q d with hflush | hflush
    · exact fun hp => v.named (by rw [place]; rfl) (hflush.symm.trans hp)
    · exact fun hp => hne (Option.some.inj (hflush.symm.trans hp))
  | openedDatabase place =>
    exact ⟨_, setDatabase_self, fun _ => v.named (by rw [place]; rfl),
      by simp [DatabasePc.droppedTables]⟩
  | initializedTables place =>
    exact ⟨_, setDatabase_self, fun _ => v.named (by rw [place]; rfl), fun _ => rfl⟩
  | flagged queue value pc flagging =>
    exact ⟨_, .elsewhere setDatabase_self flagging.wrotePid.1 flagging.wrotePid.2⟩
  | headerWritten queue field =>
    cases field <;> exact ⟨_, .elsewhere setDatabase_self rfl rfl⟩
  | restored =>
    exact ⟨_, .elsewhere setDatabase_self (shutdown_wrotePid d).1
      (shutdown_wrotePid d).2⟩
  | removedPidFile place cause ended =>
    exact ⟨_, .elsewhere setDatabase_self (by cases cause <;> simp_all [DatabasePc.wrotePid])
      (by cases cause <;> simp_all [DatabasePc.droppedTables])⟩
  | _ => exact ⟨_, .elsewhere setDatabase_self rfl rfl⟩

end World

/-- A Database that finds the segment of a running one has by then taken over
the PID file and dropped the tables, whatever was in them. -/
theorem refused_start_overwrites (w t : World) (p q : Nat) (inherited : Bool)
    (outcomes : List Outcome) (d : DatabaseProcess) (howns : w.Owns p)
    (hr : run World.step w (.startDatabase q inherited :: outcomes.map (.database q)) = some t)
    (hd : t.databases q = some d) (hrefused : d.pc = .exited .segmentExists) :
    ¬ w.Unharmed t ∧ t.namedPid ≠ some p ∧ t.store = Store.initial := by
  obtain ⟨w₁, hstart, hr⟩ := Runs.run_cons.mp hr
  obtain ⟨e, he, hlive, -⟩ := howns.process
  have hne : q ≠ p := by
    rintro rfl
    simp [World.step, World.alive_of_databases he hlive] at hstart
  have hw₁ : World.Intruded p q w₁ (World.started inherited) := by
    simp only [World.step] at hstart
    split at hstart
    · cases hstart
    · cases hstart
      exact .elsewhere World.setDatabase_self rfl rfl
  have v : ∃ d, World.Intruded p q t d := Runs.invariant_along
    (I := fun w => ∃ d, World.Intruded p q w d)
    (C := fun _ a => ∃ outcome, a = .database q outcome)
    (by
      rintro s _ s' ⟨d, v⟩ ⟨outcome, rfl⟩ h
      obtain ⟨d', hd', h⟩ := Option.bind_eq_some_iff.mp h
      cases v.process.symm.trans hd'
      exact v.step hne (World.databaseStep_cases h))
    ⟨_, hw₁⟩ hr (.of_forall fun _ a ha => by
      obtain ⟨outcome, -, rfl⟩ := List.mem_map.mp ha
      exact ⟨outcome, rfl⟩)
  obtain ⟨d', v⟩ := v
  cases hd.symm.trans v.process
  have hnamed := v.named (by rw [hrefused]; rfl)
  refine ⟨fun hsame => hnamed ?_, hnamed, v.tables (by rw [hrefused]; rfl)⟩
  rw [World.namedPid, hsame.2]
  exact howns.named

/-- Database 1 waits for signals and has recorded that a vehicle parks. -/
def runningWorld : World :=
  { (run World.step (World.initial Store.initial)
      (.startDatabase 1 false :: List.replicate 27 (.database 1 .ok))).get (by decide +kernel) with
    store := { Store.initial with
      parkingSessions := [⟨1, [65], .finite 35, .finite 35, 3, .finite (3 / 5), 100, none, none⟩] } }

theorem runningWorld_owns : runningWorld.Owns 1 where
  process := ⟨(runningWorld.databases 1).get (by decide +kernel), by simp, by decide +kernel,
    by decide +kernel, by decide +kernel, by decide +kernel⟩
  named := by decide +kernel

/-- The second start up to its `shmget`. -/
def refusedOutcomes : List Outcome := List.replicate 7 .ok

def refusedWorld : World :=
  (run World.step runningWorld (.startDatabase 2 false :: refusedOutcomes.map (.database 2))).get
    (by decide +kernel)

theorem refused_start_overwrites_running : refusedWorld.store.parkingSessions = [] := by
  have h := (refused_start_overwrites runningWorld refusedWorld 1 2 false refusedOutcomes
    ((refusedWorld.databases 2).get (by decide +kernel)) runningWorld_owns
    (Option.some_get _).symm (by simp) (by decide +kernel)).2.2
  rw [h]
  rfl

theorem not_always_unharmed :
    ¬ ∀ (w t : World) (p q : Nat) (inherited : Bool) (outcomes : List Outcome)
      (d : DatabaseProcess), w.Owns p →
      run World.step w (.startDatabase q inherited :: outcomes.map (.database q)) = some t →
      t.databases q = some d → d.pc = .exited .segmentExists → w.Unharmed t := by
  intro h
  have hwrong : (run World.step runningWorld
      (.startDatabase 2 false :: refusedOutcomes.map (.database 2))).any (fun t =>
      (t.databases 2).any (·.pc = .exited .segmentExists) ∧ t.store ≠ runningWorld.store) = true := by
    decide +kernel
  obtain ⟨t, hr, ht⟩ := (Option.any_eq_true _ _).mp hwrong
  obtain ⟨hany, hstore⟩ := of_decide_eq_true ht
  obtain ⟨d, hd, hrefused⟩ := (Option.any_eq_true _ _).mp hany
  exact hstore (h runningWorld t 1 2 false refusedOutcomes d runningWorld_owns hr hd
    (of_decide_eq_true hrefused)).1

end ParkingSystem
