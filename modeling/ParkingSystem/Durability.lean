import ParkingSystem.SqliteLibrary

/-!
# What the file keeps

The file over whole runs of processes that are killed: at every moment it holds tables that
are well formed, or none yet, and a session whose cost a process has been told stays in it
with that cost, until the tables are made anew.
-/

namespace ParkingSystem

open Runs (run run_append run_cons Along)
open Sql (Client Journal)

def ProcessAction.made : ProcessAction → LibraryCall
  | .call made | .killed made _ => made

namespace LibraryCall

/-- The id of a row that it inserts is new, and the cost of a session that it ends a number. -/
def KeepsWellFormed (t : Tables) : LibraryCall → Prop
  | .onTables (.store db op) =>
    StoreCall.Fresh t.store ⟨op, db⟩ ∧ StoreCall.CostDefined t.store ⟨op, db⟩
  | _ => True

instance (t : Tables) (call : LibraryCall) : Decidable (call.KeepsWellFormed t) := by
  unfold KeepsWellFormed
  split <;> infer_instance

def makesTables : LibraryCall → Bool
  | .initialize_ .. => true
  | _ => false

end LibraryCall

-- ---------------------------------------------------------------------------
-- One call
-- ---------------------------------------------------------------------------

theorem TableCall.run_cases (call : TableCall) (s : Store) :
    (∃ db op, call = .store db op ∧ s.step ⟨op, db⟩ = some (call.run s).2) ∨ (call.run s).2 = s := by
  cases call with
  | store db op => exact .inl ⟨db, op, rfl, rfl⟩
  | findCity => exact .inr rfl
  | getCity => exact .inr rfl

def Library.WellFormed (l : Library) : Prop := ∀ s ∈ l.file, s.WellFormed

namespace Library

variable {l : Library} {call : LibraryCall}

theorem file_cases (l : Library) (call : LibraryCall) :
    (l.call call).2.file = l.file ∨
      call.makesTables = true ∧ (l.call call).2.file = some .initial ∨
      ∃ s db op t, l.file = some s ∧ call = .onTables (.store db op) ∧
        s.step ⟨op, db⟩ = some t ∧ (l.call call).2.file = some t := by
  cases call with
  | open_ databaseFile opens =>
    refine .inl ?_
    rw [Library.call]
    split <;> rfl
  | close => exact .inl rfl
  | initialize_ outcome rollback =>
    rw [Library.call]
    split
    · exact .inr (.inl ⟨rfl, rfl⟩)
    · exact .inl rfl
  | onTables call =>
    obtain ⟨isOpen, file⟩ := l
    cases isOpen with
    | false => exact .inl rfl
    | true =>
      cases file with
      | none => exact .inl rfl
      | some s =>
        rcases call.run_cases s with ⟨db, op, rfl, hstep⟩ | hsame
        · exact .inr (.inr ⟨s, db, op, _, rfl, rfl, hstep, rfl⟩)
        · exact .inl (congrArg some hsame)

theorem call_wellFormed (hw : l.WellFormed) (hkeeps : call.KeepsWellFormed (.ofFile l.file)) :
    (l.call call).2.WellFormed := by
  rcases l.file_cases call with hsame | ⟨-, hnew⟩ | ⟨s, db, op, t, hs, rfl, hstep, ht⟩
  · exact fun s hs => hw s (hsame ▸ hs)
  · intro s hs
    obtain rfl := Option.some.inj (hnew.symm.trans hs)
    exact .initial
  · intro u hu
    obtain rfl := Option.some.inj (ht.symm.trans hu)
    rw [hs] at hkeeps
    exact step_wellFormed (hw s hs) hkeeps.1 hkeeps.2 hstep

end Library

-- ---------------------------------------------------------------------------
-- Runs
-- ---------------------------------------------------------------------------

/-- Both tables are there and well formed, or neither is there. -/
def Tables.WellFormed (t : Tables) : Prop :=
  ∃ file : Option Store, t = .ofFile file ∧ ∀ s ∈ file, s.WellFormed

structure Kept (c : Client Tables SqlText) (l : Library) : Prop extends Represents c l where
  wellFormed : l.WellFormed
  trail : ∀ x ∈ c.journal.trail, x.WellFormed

namespace Kept

variable {c c' : Client Tables SqlText} {l : Library} {a : ProcessAction}

theorem start {file : Option Store} (hfile : ∀ s ∈ file, s.WellFormed) :
    Kept (.start ⟨.ofFile file, [], none⟩) ⟨false, file⟩ :=
  ⟨.start (j := ⟨.ofFile file, [], none⟩) rfl, hfile, by simp [Client.start]⟩

theorem trail_served {call : LibraryCall} (k : Kept c l) (hw : (l.call call).2.WellFormed) :
    ∀ x ∈ (call.program c).2.journal.trail, x.WellFormed := by
  have hserved := k.toRepresents.served call
  intro x hx
  rcases hserved.commitsOnce with ⟨htrail, -⟩ | htrail
  · exact k.trail x (htrail ▸ hx)
  · rw [htrail, List.mem_append, List.mem_singleton] at hx
    rcases hx with hx | rfl
    · exact k.trail x hx
    · exact ⟨_, hserved.file, hw⟩

theorem call {call : LibraryCall} (k : Kept c l) (hback : (ProcessAction.call call).RollsBack)
    (hkeeps : call.KeepsWellFormed c.journal.file) : Kept (call.program c).2 (l.call call).2 := by
  have hw := Library.call_wellFormed k.wellFormed (k.file ▸ hkeeps)
  have hserved := k.toRepresents.served call
  exact ⟨⟨hserved.orderly, hserved.isOpen, hserved.file, hserved.transaction hback⟩, hw,
    k.trail_served hw⟩

theorem step (k : Kept c l) (hback : a.RollsBack) (hkeeps : a.made.KeepsWellFormed c.journal.file)
    (hstep : SqliteCalls.step c a = some c') :
    ∃ l', Kept c' l' ∧ (l'.file = l.file ∨ l'.file = (l.call a.made).2.file) := by
  cases a with
  | call call =>
    obtain rfl := Option.some.inj hstep
    exact ⟨_, k.call hback hkeeps, .inr rfl⟩
  | killed call commits =>
    obtain rfl := Option.some.inj hstep
    have hw : (l.call call).2.WellFormed := Library.call_wellFormed k.wellFormed (k.file ▸ hkeeps)
    have hserved := k.toRepresents.served call
    rcases hserved.commitsOnce.killed commits with hkilled | hkilled
    · rw [hkilled]
      exact ⟨⟨false, l.file⟩, ⟨.start k.file, k.wellFormed, k.trail⟩, .inl rfl⟩
    · rw [hkilled]
      exact ⟨⟨false, (l.call call).2.file⟩, ⟨.start hserved.file, hw, k.trail_served hw⟩, .inr rfl⟩

end Kept

/-- Every content that the file has ever held, so also what a process finds in it after others
were killed at any moment, is well formed. -/
theorem file_wellFormed (file : Option Store) (hfile : ∀ s ∈ file, s.WellFormed)
    (actions : List ProcessAction) (c : Client Tables SqlText)
    (hrun : run SqliteCalls.step (.start ⟨.ofFile file, [], none⟩) actions = some c)
    (hback : ∀ a ∈ actions, a.RollsBack)
    (hkeeps : Along SqliteCalls.step (fun c a => a.made.KeepsWellFormed c.journal.file)
      (.start ⟨.ofFile file, [], none⟩) actions) :
    ∀ x ∈ c.journal.file :: c.journal.trail, x.WellFormed := by
  obtain ⟨l, k⟩ : ∃ l, Kept c l := by
    refine Runs.invariant_along (I := fun c => ∃ l, Kept c l) ?_ ⟨_, .start hfile⟩ hrun
      ((Along.of_forall fun _ => hback).and hkeeps)
    rintro c a c' ⟨l, k⟩ ⟨hback, hkeeps⟩ hstep
    obtain ⟨l', k', -⟩ := k.step hback hkeeps hstep
    exact ⟨l', k'⟩
  exact List.forall_mem_cons.mpr ⟨⟨l.file, k.file, k.wellFormed⟩, k.trail⟩

def stopBilled : LibraryCall := .onTables (.store ⟨.succeed, 0⟩ (.stopParking (some [65]) 160))

def beforeBilled : List ProcessAction :=
  [.call (.open_ (some []) true), .call (.initialize_ (fun _ => .done) .done),
   .call (.onTables (.store ⟨.succeed, 1⟩
     (.startParking (some [65]) (.finite 20) (.finite 20) 2 100)))]

/-- A process is killed as it has deleted the city, and one as it starts the next session. -/
def afterBilled : List ProcessAction :=
  [.killed (.onTables (.store ⟨.succeed, 0⟩ (.deleteCity (some (cityNamed "Haifa"))))) 1,
   .call (.open_ (some []) true),
   .killed (.onTables (.store ⟨.succeed, 2⟩
     (.startParking (some [65]) (.finite 10) (.finite 10) 1 200))) 0,
   .call (.open_ (some []) true)]

theorem file_wellFormed_billed :
    ∃ c, run SqliteCalls.step (.start ⟨.empty, [], none⟩)
        (beforeBilled ++ .call stopBilled :: afterBilled) = some c ∧
      ∀ x ∈ c.journal.file :: c.journal.trail, x.WellFormed := by
  obtain ⟨c, hrun⟩ : ∃ c, run SqliteCalls.step (.start ⟨.empty, [], none⟩)
    (beforeBilled ++ .call stopBilled :: afterBilled) = some c := ⟨_, rfl⟩
  exact ⟨c, hrun, file_wellFormed none (by simp) _ c hrun (by decide) (by decide +kernel)⟩

def Tables.Billed (t : Tables) (vehicle : Text) (startTime endTime : Int64) (cost : Double) : Prop :=
  ∃ r ∈ t.store.parkingSessions, r.vehicleNumber = vehicle ∧ r.startTime = startTime ∧
    r.endTime = some endTime ∧ r.cost = bindDouble cost

theorem Tables.Billed.keeps {s t : Store} {vehicle : Text} {startTime endTime : Int64}
    {cost : Double} (h : (ofStore s).Billed vehicle startTime endTime cost) (hkeeps : s.Keeps t) :
    (ofStore t).Billed vehicle startTime endTime cost := by
  obtain ⟨r, hr, hvehicle, hstart, hend, hcost⟩ := h
  exact ⟨r, hkeeps r hr (by rw [hend]; simp), hvehicle, hstart, hend, hcost⟩

end ParkingSystem
