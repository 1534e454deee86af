import Mathlib.Data.List.Basic
import ParkingSystem.Lib.Double

/-!
# SQL through a C library

A database file, one connection to it and the statements prepared on it, call by call. A
call is told whether it succeeds; one that fails changes nothing. A statement outside a
transaction commits by itself, and inside one nothing reaches the file before COMMIT. What
the file has held is kept in order, since a process that is killed leaves the last of it.

`σ` is the content of a file and `ς` the texts of statements; a `Dialect` says what the one
does to the other.
-/

namespace Sql

/-- A value that is not NULL; NULL is `none`. -/
inductive Value where
  | integer (x : Int)
  | real (x : Double)
  | text (x : List UInt8)
  deriving DecidableEq

def Value.toInteger : Value → Option Int
  | .integer x => some x
  | _ => none

def Value.toReal : Value → Option Double
  | .real x => some x
  | _ => none

def Value.toText : Value → Option (List UInt8)
  | .text x => some x
  | _ => none

/-- What a statement that is run does. -/
structure Effect (σ : Type) where
  /-- The new content, if the statement writes. -/
  content : Option σ
  /-- How many rows an INSERT, UPDATE or DELETE has changed. -/
  changes : Nat
  /-- What a SELECT returns, row by row. -/
  rows : List (List (Option Value))

class Dialect (σ ς : Type) where
  /-- The tables that the statement names are there. -/
  compiles : ς → σ → Bool
  /-- With the given parameters and the id for a row that is inserted; `none` if a
  constraint is broken. -/
  exec : ς → (Nat → Option Value) → Int → σ → Option (Effect σ)

-- ---------------------------------------------------------------------------
-- The file
-- ---------------------------------------------------------------------------

/-- The file and the transaction that is open on it. -/
structure Journal (σ : Type) where
  file : σ
  /-- Every content that was committed, the last one last. -/
  trail : List σ
  transaction : Option σ
  deriving DecidableEq

namespace Journal

variable {σ : Type} (j : Journal σ)

def content : σ := j.transaction.getD j.file

def commit (x : σ) : Journal σ := ⟨x, j.trail ++ [x], none⟩

def rollback : Journal σ := { j with transaction := none }

/-- A write goes into the transaction or, without one, straight into the file. -/
def write (x : σ) : Journal σ :=
  match j.transaction with
  | some _ => { j with transaction := some x }
  | none => j.commit x

@[simp] theorem content_write (x : σ) : (j.write x).content = x := by
  unfold write
  split <;> rfl

end Journal

-- ---------------------------------------------------------------------------
-- Calls
-- ---------------------------------------------------------------------------

structure Prepared (ς : Type) where
  text : ς
  parameters : Nat → Option Value
  /-- The row that `step` has come to. -/
  row : List (Option Value)

def Prepared.bound {ς : Type} (s : Prepared ς) (index : Nat) (value : Option Value) (ok : Bool) :
    Prepared ς :=
  if ok then { s with parameters := Function.update s.parameters index value } else s

@[simp] theorem Prepared.text_bound {ς : Type} (s : Prepared ς) (index : Nat)
    (value : Option Value) (ok : Bool) : (s.bound index value ok).text = s.text := by
  cases ok <;> rfl

theorem Prepared.parameters_bound {ς : Type} (s : Prepared ς) (index other : Nat)
    (value : Option Value) (ok : Bool) :
    (s.bound index value ok).parameters other =
      if other = index then if ok then value else s.parameters index else s.parameters other := by
  cases ok with
  | true => simp [Prepared.bound, Function.update_apply]
  | false =>
    by_cases hother : other = index
    · simp [Prepared.bound, hother]
    · simp [Prepared.bound, hother]

structure Connection (ς : Type) where
  /-- By the pointer that `prepare` has returned. -/
  statements : List (Nat × Prepared ς)
  /-- The pointer that `prepare` returns next. -/
  fresh : Nat
  changes : Nat

namespace Connection

variable {ς : Type} (k : Connection ς)

def set (statement : Nat) (s : Prepared ς) : Connection ς :=
  { k with statements := k.statements.map fun p => if p.1 = statement then (statement, s) else p }

def erase (statement : Nat) : Connection ς :=
  { k with statements := k.statements.filter fun p => p.1 ≠ statement }

end Connection

/-- A process with at most one connection. -/
structure Client (σ ς : Type) where
  journal : Journal σ
  connection : Option (Connection ς)
  /-- Whether the variable for the connection is not NULL. -/
  handle : Bool
  /-- A call on a connection or a statement that is not there. -/
  misused : Bool

def Client.misuse {σ ς : Type} (c : Client σ ς) : Client σ ς := { c with misused := true }

/-- A function that calls the library. -/
def Program (σ ς α : Type) : Type := Client σ ς → α × Client σ ς

variable {σ ς α β : Type}

instance : Monad (Program σ ς) where
  pure a := fun c => (a, c)
  bind p f := fun c => f (p c).1 (p c).2

inductive StepResult where
  | row
  | done
  | error
  deriving DecidableEq

inductive Command (ς : Type) where
  | begin_
  | commit
  | rollback
  | statement (text : ς)

/-- How a command of a script fares; some errors end the transaction on the spot. -/
inductive CommandOutcome where
  | done
  | failed (rolledBack : Bool)
  deriving DecidableEq

section Calls

/-- `sqlite3_open`: after a failure there is still a connection, which must be closed. -/
def openFile (ok : Bool) : Program σ ς Bool := fun c =>
  (ok, { c with connection := some ⟨[], 0, 0⟩, handle := true })

/-- `sqlite3_close`, which refuses as long as a statement is not finalized, and else rolls back. -/
def close : Program σ ς Bool := fun c =>
  match c.connection with
  | none => (false, c.misuse)
  | some k =>
    if k.statements.isEmpty then
      (true, { c with journal := c.journal.rollback, connection := none })
    else (false, c)

def clearHandle : Program σ ς Unit := fun c => ((), { c with handle := false })

def isOpen : Program σ ς Bool := fun c => (c.handle, c)

/-- `sqlite3_prepare_v2`, with NULL for the statement when it fails. -/
def prepare [Dialect σ ς] (text : ς) (ok : Bool) : Program σ ς (Option Nat) := fun c =>
  match c.connection with
  | none => (none, c.misuse)
  | some k =>
    if ok && Dialect.compiles text c.journal.content then
      (some k.fresh, { c with connection := some { k with
        statements := (k.fresh, ⟨text, fun _ => none, []⟩) :: k.statements
        fresh := k.fresh + 1 } })
    else (none, c)

def onStatement (statement : Nat) (missing : α)
    (call : Client σ ς → Connection ς → Prepared ς → α × Client σ ς) : Program σ ς α := fun c =>
  match c.connection with
  | none => (missing, c.misuse)
  | some k =>
    match k.statements.lookup statement with
    | none => (missing, c.misuse)
    | some s => call c k s

def bindValue (statement index : Nat) (value : Option Value) (ok : Bool) : Program σ ς Bool :=
  onStatement statement false fun c k s =>
    (ok, { c with connection := some (k.set statement (s.bound index value ok)) })

def bindAll (statement : Nat) : List (Nat × Option Value × Bool) → Program σ ς Bool
  | [] => pure true
  | (index, value, ok) :: rest => do
    if ← bindValue statement index value ok then bindAll statement rest
    else pure false

def takeEffect (statement : Nat) (ok : Bool) (c : Client σ ς) (k : Connection ς)
    (s : Prepared ς) : Option (Effect σ) → StepResult × Client σ ς
  | none => (.error, c)
  | some effect =>
    if !ok then (.error, c)
    else
      match effect.rows, effect.content with
      | row :: _, _ => (.row, { c with connection := some (k.set statement { s with row := row }) })
      | [], none => (.done, c)
      | [], some x => (.done, { c with
          journal := c.journal.write x
          connection := some { k with changes := effect.changes } })

def step [Dialect σ ς] (statement : Nat) (rowid : Int) (ok : Bool) : Program σ ς StepResult :=
  onStatement statement .error fun c k s => takeEffect statement ok c k s <|
    Dialect.exec s.text s.parameters rowid c.journal.content

def column (statement index : Nat) : Program σ ς (Option Value) :=
  onStatement statement none fun c _ s => (s.row[index]?.join, c)

def changes : Program σ ς Nat := fun c =>
  match c.connection with
  | none => (0, c.misuse)
  | some k => (k.changes, c)

def finalize (statement : Nat) : Program σ ς Unit :=
  onStatement statement () fun c k _ => ((), { c with connection := some (k.erase statement) })

def effectOf [Dialect σ ς] (x : σ) (text : ς) : Option (Effect σ) :=
  if Dialect.compiles text x then Dialect.exec text (fun _ => none) 0 x else none

def contentAfter [Dialect σ ς] (x : σ) (text : ς) : Option σ :=
  (effectOf x text).map fun effect => effect.content.getD x

/-- What a command of a script does; `none` if it fails. -/
def Command.run [Dialect σ ς] (j : Journal σ) : Command ς → Option (Journal σ)
  | .begin_ => if j.transaction.isNone then some { j with transaction := some j.file } else none
  | .commit => j.transaction.map j.commit
  | .rollback => j.transaction.map fun _ => j.rollback
  | .statement text => (effectOf j.content text).map fun effect => effect.content.elim j j.write

/-- A script, one command after the other, up to the first that fails. -/
def script [Dialect σ ς] : List (Command ς) → (Nat → CommandOutcome) → Journal σ → Bool × Journal σ
  | [], _, j => (true, j)
  | command :: rest, outcome, j =>
    match outcome 0, command.run j with
    | .failed true, _ => (false, j.rollback)
    | .failed false, _ | .done, none => (false, j)
    | .done, some j' => script rest (fun i => outcome (i + 1)) j'

def exec [Dialect σ ς] (commands : List (Command ς)) (outcome : Nat → CommandOutcome) :
    Program σ ς Bool := fun c =>
  match c.connection with
  | none => (false, c.misuse)
  | some _ =>
    let (ok, j) := script commands outcome c.journal
    (ok, { c with journal := j })

end Calls

-- ---------------------------------------------------------------------------
-- What a program returns
-- ---------------------------------------------------------------------------

namespace Client

def connected (c : Client σ ς) (statements : List (Nat × Prepared ς)) (fresh changes : Nat) :
    Client σ ς :=
  { c with connection := some ⟨statements, fresh, changes⟩ }

/-- The connection is there and nothing was called that is not. -/
structure Sound (c : Client σ ς) : Prop where
  handle : c.handle = true
  used : c.misused = false

structure Idle (c : Client σ ς) : Prop extends Sound c where
  connection : ∃ fresh changes, c.connection = some ⟨[], fresh, changes⟩

/-- Between two calls of a program: no statement is left, and there is a connection exactly if
the variable is not NULL. -/
structure Orderly (c : Client σ ς) : Prop where
  used : c.misused = false
  opened : c.handle = true → c.Idle
  closed : c.handle = false → c.connection = none

end Client

/-- Where `p` comes to from `c`: it returns `a` and leaves content `x'`, no statement is left,
and it has written `x'` in one go, which it does only if it `writes`, or nothing at all. -/
structure Ends (p : Program σ ς α) (c : Client σ ς) (a : α) (x' : σ) (writes : Bool) : Prop where
  returns : (p c).1 = a
  idle : (p c).2.Idle
  journal : (p c).2.journal = c.journal ∧ c.journal.content = x' ∨
    writes = true ∧ (p c).2.journal = c.journal.write x'

/-- From content `x`, with no statement prepared. -/
def Returns (p : Program σ ς α) (x : σ) (a : α) (x' : σ) (writes : Bool) : Prop :=
  ∀ (c : Client σ ς) (fresh n : Nat), c.Sound → c.journal.content = x →
    Ends p (c.connected [] fresh n) a x' writes

/-- From content `x`, with one statement prepared and `n` rows changed before. -/
def ReturnsWith (statement : Nat) (s : Prepared ς) (n : Nat) (p : Program σ ς α) (x : σ) (a : α)
    (x' : σ) (writes : Bool) : Prop :=
  ∀ (c : Client σ ς) (fresh : Nat), c.Sound → c.journal.content = x →
    Ends p (c.connected [(statement, s)] fresh n) a x' writes

theorem Program.bind_eq {p : Program σ ς α} {f : α → Program σ ς β} {c c' : Client σ ς} {a : α}
    (first : p c = (a, c')) : (p >>= f) c = f a c' := by
  show f (p c).1 (p c).2 = _
  rw [first]

theorem isOpen_closed {f : Bool → Program σ ς α} {c : Client σ ς} (h : c.handle = false) :
    (isOpen >>= f) c = f false c :=
  Program.bind_eq (congrArg (·, c) h)

theorem isOpen_opened {f : Bool → Program σ ς α} {c : Client σ ς} (h : c.handle = true) :
    (isOpen >>= f) c = f true c :=
  Program.bind_eq (congrArg (·, c) h)

theorem Returns.ends {p : Program σ ς α} {c : Client σ ς} {a : α} {x' : σ} {writes : Bool}
    (h : Returns p c.journal.content a x' writes) (hc : c.Idle) : Ends p c a x' writes := by
  obtain ⟨fresh, n, hconnection⟩ := hc.connection
  have hsame : c.connected [] fresh n = c := by rw [Client.connected, ← hconnection]
  exact hsame ▸ h c fresh n hc.toSound rfl

section Rules

variable {p : Program σ ς α} {c c' : Client σ ς} {a : α} {x x' : σ} {y : Nat} {b : β} {writes : Bool}
  {statement index n : Nat} {s : Prepared ς} {value : Option Value} {ok : Bool} {text : ς}
  {rowid : Int} {row : List (Option Value)} {rows : List (List (Option Value))}
  {content : Option σ}

/-- `p >>= f` ends where `f` does from what `p` leaves. -/
theorem Ends.bind {f : α → Program σ ς β} (first : p c = (a, c')) (same : c'.journal = c.journal)
    (rest : Ends (f a) c' b x' writes) : Ends (p >>= f) c b x' writes := by
  have hbind : (p >>= f) c = f a c' := Program.bind_eq first
  exact ⟨hbind ▸ rest.returns, hbind ▸ rest.idle, by rw [hbind, ← same]; exact rest.journal⟩

theorem Returns.pure (a : α) (x : σ) : Returns (pure a : Program σ ς α) x a x writes :=
  fun _ fresh n hc hx => ⟨rfl, ⟨⟨hc.handle, hc.used⟩, fresh, n, rfl⟩, .inl ⟨rfl, hx⟩⟩

theorem Returns.map {g : α → β} (h : Returns p x a x' writes) :
    Returns (g <$> p) x (g a) x' writes := by
  intro c fresh n hc hx
  obtain ⟨returns, idle, journal⟩ := h c fresh n hc hx
  exact ⟨congrArg g returns, idle, journal⟩

theorem Returns.isOpen {f : Bool → Program σ ς β} (h : Returns (f true) x b x' writes) :
    Returns (isOpen >>= f) x b x' writes := by
  intro c fresh n hc hx
  have first : Sql.isOpen (c.connected [] fresh n) = (true, c.connected [] fresh n) :=
    congrArg (·, c.connected [] fresh n) hc.handle
  exact .bind first rfl (h c fresh n hc hx)

theorem Returns.prepare_failed [Dialect σ ς] {f : Option Nat → Program σ ς β}
    (failed : (ok && Dialect.compiles text x) = false) (h : Returns (f none) x b x' writes) :
    Returns (prepare text ok >>= f) x b x' writes := by
  rintro c fresh n hc rfl
  exact .bind (if_neg (ne_true_of_eq_false failed)) rfl (h c fresh n hc rfl)

theorem Returns.prepare [Dialect σ ς] {f : Option Nat → Program σ ς β} (hok : ok = true)
    (compiles : Dialect.compiles text x = true)
    (h : ∀ statement n,
      ReturnsWith statement ⟨text, fun _ => none, []⟩ n (f (some statement)) x b x' writes) :
    Returns (prepare text ok >>= f) x b x' writes := by
  rintro c fresh n hc rfl
  refine .bind (if_pos ?_) rfl (h fresh n c (fresh + 1) hc rfl)
  exact Bool.and_eq_true_iff.mpr ⟨hok, compiles⟩

namespace ReturnsWith

theorem onStatement {missing : α}
    {call : Client σ ς → Connection ς → Prepared ς → α × Client σ ς} (c : Client σ ς)
    (fresh : Nat) :
    Sql.onStatement statement missing call (c.connected [(statement, s)] fresh n) =
      call (c.connected [(statement, s)] fresh n) ⟨[(statement, s)], fresh, n⟩ s := by
  simp [Sql.onStatement, Client.connected]

theorem bindValue {f : Bool → Program σ ς β}
    (h : ReturnsWith statement (s.bound index value ok) n (f ok) x b x' writes) :
    ReturnsWith statement s n (bindValue statement index value ok >>= f) x b x' writes := by
  intro c fresh hc hx
  have ends := h c fresh hc hx
  refine .bind (.trans (onStatement c fresh) ?_) ?_ ends
  · simp [Client.connected, Connection.set]
  · rfl

theorem bindAll {f : Bool → Program σ ς β} {values : List (Nat × Option Value × Bool)}
    (done : ∀ v ∈ values, v.2.2 = true)
    (h : ReturnsWith statement (values.foldl (fun s v => s.bound v.1 v.2.1 true) s) n (f true) x b
      x' writes) :
    ReturnsWith statement s n (bindAll statement values >>= f) x b x' writes := by
  induction values generalizing s with
  | nil => exact h
  | cons v values ih =>
    obtain ⟨index, value, ok⟩ := v
    obtain ⟨hok, hrest⟩ := List.forall_mem_cons.mp done
    obtain rfl : ok = true := hok
    show ReturnsWith statement s n (Sql.bindValue statement index value true >>= fun ok =>
      (if ok then Sql.bindAll statement values else Pure.pure false) >>= f) x b x' writes
    exact bindValue (ih hrest h)

theorem bindAll_failed {f : Bool → Program σ ς β} {values : List (Nat × Option Value × Bool)}
    (failed : ¬ ∀ v ∈ values, v.2.2 = true)
    (h : ∀ s, ReturnsWith statement s n (f false) x b x' writes) :
    ReturnsWith statement s n (Sql.bindAll statement values >>= f) x b x' writes := by
  induction values generalizing s with
  | nil => simp at failed
  | cons v values ih =>
    obtain ⟨index, value, ok⟩ := v
    show ReturnsWith statement s n (Sql.bindValue statement index value ok >>= fun ok =>
      (if ok then Sql.bindAll statement values else Pure.pure false) >>= f) x b x' writes
    refine bindValue ?_
    cases ok with
    | true => exact ih (by simpa using failed)
    | false => exact h _

section Step

variable [Dialect σ ς] {f : StepResult → Program σ ς β}

theorem step {effect : Option (Effect σ)} (c : Client σ ς) (fresh : Nat)
    (h : Dialect.exec s.text s.parameters rowid c.journal.content = effect) :
    Sql.step statement rowid ok (c.connected [(statement, s)] fresh n) =
      takeEffect statement ok (c.connected [(statement, s)] fresh n) ⟨[(statement, s)], fresh, n⟩ s
        effect :=
  h ▸ onStatement c fresh

theorem step_failed (failed : ok = false ∨ Dialect.exec s.text s.parameters rowid x = none)
    (h : ReturnsWith statement s n (f .error) x b x' writes) :
    ReturnsWith statement s n (Sql.step statement rowid ok >>= f) x b x' writes := by
  rintro c fresh hc rfl
  refine .bind ((step c fresh rfl).trans ?_) rfl (h c fresh hc rfl)
  rcases failed with rfl | failed
  · cases Dialect.exec s.text s.parameters rowid c.journal.content <;> rfl
  · rw [failed]
    rfl

theorem step_row (hok : ok = true)
    (effect : Dialect.exec s.text s.parameters rowid x = some ⟨content, y, row :: rows⟩)
    (h : ReturnsWith statement { s with row := row } n (f .row) x b x' writes) :
    ReturnsWith statement s n (Sql.step statement rowid ok >>= f) x b x' writes := by
  rintro c fresh hc rfl
  have ends := h c fresh hc rfl
  refine .bind (.trans (step c fresh effect) ?_) ?_ ends
  · simp [takeEffect, hok, Client.connected, Connection.set]
  · rfl

theorem step_done (hok : ok = true)
    (effect : Dialect.exec s.text s.parameters rowid x = some ⟨none, y, []⟩)
    (h : ReturnsWith statement s n (f .done) x b x' writes) :
    ReturnsWith statement s n (Sql.step statement rowid ok >>= f) x b x' writes := by
  rintro c fresh hc rfl
  refine .bind ((step c fresh effect).trans ?_) rfl (h c fresh hc rfl)
  simp [takeEffect, hok]

theorem step_wrote {m : Nat} (hok : ok = true)
    (effect : Dialect.exec s.text s.parameters rowid x = some ⟨some x', m, []⟩)
    (h : ReturnsWith statement s m (f .done) x' b x' false) :
    ReturnsWith statement s n (Sql.step statement rowid ok >>= f) x b x' true := by
  rintro c fresh hc rfl
  let written : Client σ ς := { c with journal := c.journal.write x' }
  have ends := h written fresh ⟨hc.handle, hc.used⟩ (c.journal.content_write x')
  have first : Sql.step statement rowid ok (c.connected [(statement, s)] fresh n) =
      (.done, written.connected [(statement, s)] fresh m) := by
    rw [step c fresh effect, hok]
    rfl
  have hbind : (Sql.step statement rowid ok >>= f) (c.connected [(statement, s)] fresh n) =
      f .done (written.connected [(statement, s)] fresh m) := Program.bind_eq first
  refine ⟨hbind ▸ ends.returns, hbind ▸ ends.idle, .inr ⟨rfl, ?_⟩⟩
  rcases ends.journal with ⟨same, -⟩ | ⟨writes, -⟩
  · rw [hbind, same]
    rfl
  · cases writes

end Step

theorem column {f : Option Value → Program σ ς β}
    (h : ReturnsWith statement s n (f s.row[index]?.join) x b x' writes) :
    ReturnsWith statement s n (column statement index >>= f) x b x' writes := by
  intro c fresh hc hx
  exact .bind (onStatement c fresh) rfl (h c fresh hc hx)

theorem changes {f : Nat → Program σ ς β} (h : ReturnsWith statement s n (f n) x b x' writes) :
    ReturnsWith statement s n (changes >>= f) x b x' writes := by
  intro c fresh hc hx
  exact .bind rfl rfl (h c fresh hc hx)

theorem finalize {f : Unit → Program σ ς β} (h : Returns (f ()) x b x' writes) :
    ReturnsWith statement s n (finalize statement >>= f) x b x' writes := by
  intro c fresh hc hx
  have first : Sql.finalize statement (c.connected [(statement, s)] fresh n) =
      ((), c.connected [] fresh n) := by
    refine (onStatement c fresh).trans ?_
    simp [Client.connected, Connection.erase]
  exact .bind first rfl (h c fresh n hc hx)

end ReturnsWith

end Rules

-- ---------------------------------------------------------------------------
-- Transactions
-- ---------------------------------------------------------------------------

section Transactions

variable [Dialect σ ς]

def Journal.within (j : Journal σ) (transaction : Option σ) : Journal σ :=
  { j with transaction := transaction }

theorem run_within (j : Journal σ) (text : ς) (x : σ) :
    (Command.statement text).run (j.within (some x)) =
      (contentAfter x text).map fun x' => j.within (some x') := by
  show (effectOf x text).map _ = ((effectOf x text).map _).map _
  rw [Option.map_map]
  congr 1
  funext effect
  rcases effect with ⟨- | y, _, _⟩ <;> rfl

theorem script_statements (j : Journal σ) (texts : List ς) (rest : List (Command ς))
    (outcome : Nat → CommandOutcome) (x : σ) :
    (∃ x', texts.foldlM contentAfter x = some x' ∧ (∀ i < texts.length, outcome i = .done) ∧
      script (texts.map .statement ++ rest) outcome (j.within (some x)) =
        script rest (fun i => outcome (i + texts.length)) (j.within (some x'))) ∨
    ¬ ((texts.foldlM contentAfter x).isSome = true ∧ ∀ i < texts.length, outcome i = .done) ∧
      ∃ t, script (texts.map .statement ++ rest) outcome (j.within (some x)) =
        (false, j.within t) := by
  induction texts generalizing x outcome with
  | nil => exact .inl ⟨x, rfl, by simp, rfl⟩
  | cons text texts ih =>
    simp only [List.map_cons, List.cons_append, List.foldlM_cons, script]
    cases houtcome : outcome 0 with
    | failed rolledBack =>
      refine .inr ⟨fun h => ?_, ?_⟩
      · exact absurd (houtcome.symm.trans (h.2 0 (by simp))) (by simp)
      · cases rolledBack with
        | true => exact ⟨none, rfl⟩
        | false => exact ⟨some x, rfl⟩
    | done =>
      rw [run_within]
      cases contentAfter x text with
      | none => exact .inr ⟨by simp, some x, rfl⟩
      | some y =>
        rcases ih (fun i => outcome (i + 1)) y with
          ⟨x', hafter, hdone, hscript⟩ | ⟨hnot, t, hscript⟩
        · refine .inl ⟨x', hafter, ?_, ?_⟩
          · intro i hi
            cases i with
            | zero => exact houtcome
            | succ i => exact hdone i (by simpa using hi)
          · exact hscript
        · refine .inr ⟨fun h => hnot ⟨h.1, fun i hi => h.2 (i + 1) (by simpa using hi)⟩, t, ?_⟩
          exact hscript

/-- A transaction reaches the file as a whole or not at all. -/
theorem script_transaction {j : Journal σ} (hj : j.transaction = none) (texts : List ς)
    (outcome : Nat → CommandOutcome) :
    (∃ x', texts.foldlM contentAfter j.file = some x' ∧
      (∀ i < texts.length + 2, outcome i = .done) ∧
      script (.begin_ :: texts.map .statement ++ [.commit]) outcome j = (true, j.commit x')) ∨
    ¬ ((texts.foldlM contentAfter j.file).isSome = true ∧
        ∀ i < texts.length + 2, outcome i = .done) ∧
      ∃ t, script (.begin_ :: texts.map .statement ++ [.commit]) outcome j =
        (false, j.within t) := by
  rw [List.cons_append, script]
  cases hbegin : outcome 0 with
  | failed rolledBack =>
    refine .inr ⟨fun h => ?_, none, ?_⟩
    · exact absurd (hbegin.symm.trans (h.2 0 (by omega))) (by simp)
    · cases rolledBack <;> simp [Journal.within, Journal.rollback, ← hj]
  | done =>
    have hrun : (Command.begin_ : Command ς).run j = some (j.within (some j.file)) :=
      if_pos (by rw [hj]; rfl)
    rw [hrun]
    dsimp only
    rcases script_statements j texts [.commit] (fun i => outcome (i + 1)) j.file with
      ⟨x', hafter, hdone, hscript⟩ | ⟨hnot, t, hscript⟩
    · rw [hscript, script, Nat.zero_add]
      cases hlast : outcome (texts.length + 1) with
      | failed rolledBack =>
        refine .inr ⟨fun h => absurd (hlast.symm.trans (h.2 _ (by omega))) (by simp), ?_⟩
        cases rolledBack with
        | true => exact ⟨none, rfl⟩
        | false => exact ⟨some x', rfl⟩
      | done =>
        refine .inl ⟨x', hafter, fun i hi => ?_, rfl⟩
        rcases Nat.lt_or_ge i (texts.length + 1) with hi | hlt
        · cases i with
          | zero => exact hbegin
          | succ i => exact hdone i (by omega)
        · obtain rfl : i = texts.length + 1 := by omega
          exact hlast
    · refine .inr ⟨fun h => hnot ⟨h.1, fun i hi => h.2 (i + 1) (by omega)⟩, t, hscript⟩

end Transactions

-- ---------------------------------------------------------------------------
-- Processes that are killed
-- ---------------------------------------------------------------------------

/-- A process that has not opened the file yet. -/
def Client.start (j : Journal σ) : Client σ ς := ⟨j, none, false, false⟩

theorem Client.start_orderly (j : Journal σ) : (start j : Client σ ς).Orderly :=
  ⟨rfl, nofun, fun _ => rfl⟩

theorem Client.Idle.orderly {c : Client σ ς} (h : c.Idle) : c.Orderly :=
  ⟨h.used, fun _ => h, fun closed => absurd (h.handle.symm.trans closed) (by simp)⟩

/-- What the next process finds if the one in `p` is killed after so many of its commits. A
transaction that is open is lost. -/
def Program.killed (p : Program σ ς α) (commits : Nat) (c : Client σ ς) : Client σ ς :=
  let made := ((p c).2.journal.trail.drop c.journal.trail.length).take commits
  .start ⟨made.getLastD c.journal.file, c.journal.trail ++ made, none⟩

/-- From `j` to `j'` there is one commit at most. -/
def Journal.CommitsOnce (j j' : Journal σ) : Prop :=
  j'.trail = j.trail ∧ j'.file = j.file ∨ j'.trail = j.trail ++ [j'.file]

/-- A kill in the middle of a program that commits once leaves the file as it was before or as
it is after. -/
theorem Journal.CommitsOnce.killed {p : Program σ ς α} {c : Client σ ς}
    (h : c.journal.CommitsOnce (p c).2.journal) (commits : Nat) :
    p.killed commits c = .start c.journal.rollback ∨
      p.killed commits c = .start (p c).2.journal.rollback := by
  rcases h with ⟨htrail, -⟩ | htrail
  · exact .inl (by simp [Program.killed, Journal.rollback, htrail])
  · cases commits with
    | zero => exact .inl (by simp [Program.killed, Journal.rollback])
    | succ n => exact .inr (by simp [Program.killed, Journal.rollback, htrail])

/-- A ROLLBACK leaves no transaction, unless it fails and the transaction is still open. -/
theorem script_rollback (ς : Type) [Dialect σ ς] (outcome : Nat → CommandOutcome) (j : Journal σ) :
    (script [(.rollback : Command ς)] outcome j).2 = j.rollback ∨
      outcome 0 = .failed false ∧ (script [(.rollback : Command ς)] outcome j).2 = j := by
  obtain ⟨file, trail, transaction⟩ := j
  cases houtcome : outcome 0 with
  | failed rolledBack =>
    cases rolledBack with
    | true => exact .inl (by simp [script, houtcome])
    | false => exact .inr ⟨rfl, by simp [script, houtcome]⟩
  | done =>
    refine .inl ?_
    cases transaction <;> simp [script, houtcome, Command.run, Journal.rollback]

theorem Ends.commitsOnce {p : Program σ ς α} {c : Client σ ς} {a : α} {x' : σ} {writes : Bool}
    (h : Ends p c a x' writes) (hc : c.journal.transaction = none) :
    (p c).2.journal.file = x' ∧ (p c).2.journal.transaction = none ∧
      c.journal.CommitsOnce (p c).2.journal := by
  rcases h.journal with ⟨same, hcontent⟩ | ⟨-, hwrite⟩
  · rw [same]
    exact ⟨by rw [← hcontent, Journal.content, hc]; rfl, hc, .inl ⟨rfl, rfl⟩⟩
  · have hcommit : (p c).2.journal = c.journal.commit x' := by rw [hwrite, Journal.write, hc]
    rw [hcommit]
    exact ⟨rfl, rfl, .inr rfl⟩

end Sql
