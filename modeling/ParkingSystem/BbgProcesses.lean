import ParkingSystem.BbgClient
import ParkingSystem.GpsSimulator
import ParkingSystem.Lib.Runs
import ParkingSystem.RequestBytes

/-!
# The two processes of the BBG client

The I2C process reads a coordinate from the board, makes a request of it and of the next
test event, and writes the request into the pipe; the TCP process takes the requests out
of the pipe and sends them. `requests_in_order`: however the two interleave, what the
TCP process takes are the requests of the test events, each with the coordinate read for
it, whole, each once and in their order, and all of them once the pipe is closed.
-/

namespace ParkingSystem

open Runs (run)

-- ---------------------------------------------------------------------------
-- Test events
-- ---------------------------------------------------------------------------

structure TestEvent where
  action : ParkingAction
  vehicleNumber : Text
  deriving DecidableEq

def testEvents : List TestEvent :=
  [(.startParking, "12-345-67"), (.startParking, "98-765-43"), (.startParking, "11-222-33"),
   (.startParking, "44-111-22"), (.startParking, "55-222-33"), (.startParking, "66-333-44"),
   (.endParking, "98-765-43"), (.endParking, "12-345-67"),
   (.startParking, "77-444-55"), (.startParking, "88-555-66"),
   (.endParking, "11-222-33"), (.endParking, "44-111-22"),
   (.startParking, "99-666-77"), (.startParking, "21-111-11"), (.startParking, "22-222-22"),
   (.startParking, "23-333-33"),
   (.endParking, "55-222-33"), (.endParking, "66-333-44"), (.endParking, "77-444-55"),
   (.endParking, "88-555-66"), (.endParking, "99-666-77"), (.endParking, "21-111-11"),
   (.endParking, "22-222-22"), (.endParking, "23-333-33")].map fun (action, vehicleNumber) =>
    ⟨action, CString.ofString vehicleNumber⟩

def testEventsCount : Nat := 24

example : testEvents.length = testEventsCount := rfl

/-- `i2c_read_coordinates`; `none` is a `read` of -1. -/
def i2cReadCoordinates (read : Option (List UInt8)) : Option GpsCoordinate := do
  let bytes ← read
  if bytes.length = sizeofGpsCoordinate then some (.ofBytes bytes) else none

/-- `strncpy` of `VEHICLE_NUMBER_SIZE - 1` bytes into a cleared field. -/
def VehicleField.ofText (text : Text) : VehicleField where
  val := text.take (vehicleNumberSize - 1) ++
    List.replicate (vehicleNumberSize - (text.take (vehicleNumberSize - 1)).length) 0
  property := by
    rw [List.length_append, List.length_replicate, List.length_take]
    simp only [vehicleNumberSize]
    omega

structure Generator where
  currentEvent : Nat
  requestId : UInt64

namespace Generator

variable (g : Generator)

/-- `generate_test_message` up to its `write`: the message, if it gets that far. -/
def compose (read : Option (List UInt8)) (now : Int64) : Generator × Option RequestFields :=
  match testEvents[g.currentEvent]? with
  | none => (g, none)
  | some event =>
    let g' := { g with requestId := g.requestId + 1 }
    match i2cReadCoordinates read with
    | none => (g', none)
    | some coordinate =>
      let message : RequestFields :=
        ⟨g.requestId, event.action.raw, .ofText event.vehicleNumber,
          Single.widen coordinate.latitude, Single.widen coordinate.longitude, 0, 0⟩
      match event.action with
      | .startParking => (g', some { message with parkingStartTime := now })
      | .endParking => (g', some { message with parkingEndTime := now })
      | _ => (g', none)

def advance : Generator := { g with currentEvent := (g.currentEvent + 1) % testEventsCount }

end Generator

-- ---------------------------------------------------------------------------
-- The processes and the pipe
-- ---------------------------------------------------------------------------

inductive I2cPc where
  | starting
  | generating
  | writing (message : RequestFields)
  | ended

inductive TcpPc where
  | starting
  | serving
  | ended

/-- What a Linux pipe holds. A `write` of at most 4096 bytes is atomic. -/
def pipeCapacity : Nat := 65536

structure Bbg where
  generator : Generator
  i2c : I2cPc
  pipe : List UInt8
  tcp : TcpPc
  /-- The passes of the loop of `tcp_process_run` so far. -/
  rounds : List Round
  /-- What the I2C process has written so far. -/
  written : List RequestFields

/-- One call of the I2C process, or one pass of the loop of the TCP process; only its
`read` sees the other process. -/
inductive BbgAction where
  | i2cStart (logger device : Bool)
  | compose (read : Option (List UInt8)) (now : Int64)
  | write (taken : Bool)
  /-- Also what happens to a `write` when nobody reads any more. -/
  | i2cKilled
  | tcpStart (logger : Bool)
  | round (round : Round)
  /-- In the middle of a pass it is the pass with the call failing and then the kill. -/
  | tcpKilled

namespace Bbg

def start : Bbg := ⟨⟨0, 1⟩, .starting, [], .starting, [], []⟩

def tcpRound (s : Bbg) (round : Round) : Option Bbg :=
  let s' := { s with rounds := s.rounds ++ [round] }
  match round.pipe with
  | .closed =>
    match s.i2c with
    | .ended => if s.pipe = [] then some { s' with tcp := .ended } else none
    | _ => none
  | .interrupted => some s'
  | .failed => some { s' with tcp := .ended }
  | .data bytes =>
    if bytes ≠ [] ∧ bytes = s.pipe.take sizeofTcpToDatabaseMessage then
      let tcp := if bytes.length = sizeofTcpToDatabaseMessage then .serving else .ended
      some { s' with pipe := s.pipe.drop sizeofTcpToDatabaseMessage, tcp := tcp }
    else none

def step (s : Bbg) : BbgAction → Option Bbg
  | .i2cStart logger device =>
    match s.i2c with
    | .starting => some { s with i2c := if logger && device then .generating else .ended }
    | _ => none
  | .compose read now =>
    match s.i2c with
    | .generating =>
      match s.generator.compose read now with
      | (generator, none) => some { s with generator := generator, i2c := .ended }
      | (generator, some message) => some { s with generator := generator, i2c := .writing message }
    | _ => none
  | .write taken =>
    match s.i2c, s.tcp with
    | .writing _, .ended => if taken then none else some { s with i2c := .ended }
    | .writing message, _ =>
      if !taken then some { s with i2c := .ended }
      else if s.pipe.length + sizeofTcpToDatabaseMessage ≤ pipeCapacity then
        some { s with
          generator := s.generator.advance, i2c := .generating,
          pipe := s.pipe ++ message.frame.bytes, written := s.written ++ [message] }
      else none
    | _, _ => none
  | .i2cKilled => some { s with i2c := .ended }
  | .tcpStart logger =>
    match s.tcp with
    | .starting => some { s with tcp := if logger then .serving else .ended }
    | _ => none
  | .round round =>
    match s.tcp with
    | .serving => s.tcpRound round
    | _ => none
  | .tcpKilled => some { s with tcp := .ended }

end Bbg

-- ---------------------------------------------------------------------------
-- What was taken, and what was sent
-- ---------------------------------------------------------------------------

def Round.request (round : Round) : Option Frame :=
  match round.pipe with
  | .data bytes =>
    if h : bytes.length = sizeofTcpToDatabaseMessage then some ⟨bytes, h⟩ else none
  | _ => none

/-- The request that a pass sends, whole. -/
def Round.sent (round : Round) : Option Frame :=
  if round.connect && round.send then round.request else none

def Event.received : Event → Option UInt64
  | .requestReceived requestId => some requestId
  | _ => none

def Round.goesOn (round : Round) : Bool :=
  match round.pipe with
  | .interrupted => true
  | .data bytes => bytes.length = sizeofTcpToDatabaseMessage
  | _ => false

-- ---------------------------------------------------------------------------
-- The message
-- ---------------------------------------------------------------------------

/-- The `k`-th message that the I2C process generates, but for where and when. -/
def IsEvent (k : Nat) (m : RequestFields) : Prop :=
  ∃ event, testEvents[k % testEventsCount]? = some event ∧ m.requestId = .ofNat (k + 1) ∧
    m.action = event.action.raw ∧ m.vehicleNumber = .ofText event.vehicleNumber

/-- The message tells of the coordinate `c` at the time `now`. -/
structure IsAt (c : GpsCoordinate) (now : Int64) (m : RequestFields) : Prop where
  latitude : m.latitude = Single.widen c.latitude
  longitude : m.longitude = Single.widen c.longitude
  time : m.action = 0 ∧ m.parkingStartTime = now ∧ m.parkingEndTime = 0 ∨
    m.action = 1 ∧ m.parkingStartTime = 0 ∧ m.parkingEndTime = now

def BbgAction.reading : BbgAction → Option (GpsCoordinate × Int64)
  | .compose read now => (i2cReadCoordinates read).map fun c => (c, now)
  | _ => none

def readings (actions : List BbgAction) : List (GpsCoordinate × Int64) :=
  actions.filterMap BbgAction.reading

structure Composed (g : Generator) (read : Option (List UInt8)) (now : Int64) (m : RequestFields) :
    Prop where
  requestId : m.requestId = g.requestId
  event : ∃ event, testEvents[g.currentEvent]? = some event ∧ m.action = event.action.raw ∧
    m.vehicleNumber = .ofText event.vehicleNumber
  coordinate : ∃ c, i2cReadCoordinates read = some c ∧ m.latitude = Single.widen c.latitude ∧
    m.longitude = Single.widen c.longitude
  time : m.action = 0 ∧ m.parkingStartTime = now ∧ m.parkingEndTime = 0 ∨
    m.action = 1 ∧ m.parkingStartTime = 0 ∧ m.parkingEndTime = now

section Compose

variable {g g' : Generator} {read : Option (List UInt8)} {now : Int64} {m : RequestFields}

theorem Generator.compose_some (h : g.compose read now = (g', some m)) :
    g' = { g with requestId := g.requestId + 1 } ∧ Composed g read now m := by
  unfold compose at h
  cases hevent : testEvents[g.currentEvent]? with
  | none =>
    rw [hevent] at h
    cases h
  | some event =>
    rw [hevent] at h
    cases hread : i2cReadCoordinates read with
    | none =>
      rw [hread] at h
      cases h
    | some c =>
      rw [hread] at h
      cases haction : event.action with
      | startParking =>
        simp only [haction] at h
        cases h
        exact ⟨rfl, rfl, ⟨event, hevent, by rw [haction], rfl⟩, ⟨c, hread, rfl, rfl⟩,
          .inl ⟨rfl, rfl, rfl⟩⟩
      | endParking =>
        simp only [haction] at h
        cases h
        exact ⟨rfl, rfl, ⟨event, hevent, by rw [haction], rfl⟩, ⟨c, hread, rfl, rfl⟩,
          .inr ⟨rfl, rfl, rfl⟩⟩
      | acknowledge =>
        simp only [haction] at h
        cases h
      | other raw =>
        simp only [haction] at h
        cases h

theorem Composed.reading {g : Generator} (h : Composed g read now m) :
    ∃ c, (BbgAction.compose read now).reading = some (c, now) ∧ IsAt c now m := by
  obtain ⟨c, hc, hlatitude, hlongitude⟩ := h.coordinate
  exact ⟨c, by rw [BbgAction.reading, hc, Option.map_some], hlatitude, hlongitude, h.time⟩

end Compose

-- ---------------------------------------------------------------------------
-- What the I2C process writes
-- ---------------------------------------------------------------------------

namespace Bbg

def variablesAt (k : Nat) : Generator := ⟨k % testEventsCount, .ofNat (k + 1)⟩

/-- The messages written are those of the test events, and the static variables are at
the next one. -/
structure Generates (s : Bbg) : Prop where
  written : ∀ k m, s.written[k]? = some m → IsEvent k m
  starting : s.i2c = .starting → s.generator = variablesAt s.written.length
  generating : s.i2c = .generating → s.generator = variablesAt s.written.length
  writing : ∀ m, s.i2c = .writing m → IsEvent s.written.length m ∧
    s.generator.advance = variablesAt (s.written.length + 1)

section Generating

variable {s s' : Bbg} {a : BbgAction} {m : RequestFields} {read : Option (List UInt8)} {now : Int64}

theorem start_generates : start.Generates where
  written k m h := by cases h
  starting _ := rfl
  generating h := by cases h
  writing m h := by cases h

theorem Generates.other (h : s.Generates) (hwritten : s'.written = s.written)
    (hi2c : s'.i2c = .ended ∨ s'.i2c = s.i2c ∧ s'.generator = s.generator) : s'.Generates := by
  rcases hi2c with hended | ⟨hi2c, hgenerator⟩
  · refine ⟨hwritten ▸ h.written, ?_, ?_, ?_⟩ <;> simp [hended]
  · exact ⟨hwritten ▸ h.written, by rw [hi2c, hgenerator, hwritten]; exact h.starting,
      by rw [hi2c, hgenerator, hwritten]; exact h.generating,
      by rw [hi2c, hgenerator, hwritten]; exact h.writing⟩

theorem Generates.composed {k : Nat} (hvariables : s.generator = variablesAt k)
    (hc : Composed s.generator read now m) : IsEvent k m ∧
      Generator.advance { s.generator with requestId := s.generator.requestId + 1 } =
        variablesAt (k + 1) := by
  obtain ⟨event, hevent, haction, hvehicle⟩ := hc.event
  have hid := hc.requestId
  rw [hvariables] at hevent hid ⊢
  refine ⟨⟨event, hevent, hid, haction, hvehicle⟩, ?_⟩
  simp [Generator.advance, variablesAt]

theorem tcpRound_cases {round : Round} (h : s.tcpRound round = some s') :
    s'.generator = s.generator ∧ s'.i2c = s.i2c ∧ s'.written = s.written ∧
      s'.rounds = s.rounds ++ [round] ∧
      (round.pipe = .closed ∧ s.i2c = .ended ∧ s.pipe = [] ∧ s'.pipe = [] ∧ s'.tcp = .ended ∨
        round.pipe = .interrupted ∧ s'.pipe = s.pipe ∧ s'.tcp = s.tcp ∨
        round.pipe = .failed ∧ s'.pipe = s.pipe ∧ s'.tcp = .ended ∨
        ∃ bytes, round.pipe = .data bytes ∧ bytes ≠ [] ∧
          bytes = s.pipe.take sizeofTcpToDatabaseMessage ∧
          s'.pipe = s.pipe.drop sizeofTcpToDatabaseMessage ∧
          s'.tcp = if bytes.length = sizeofTcpToDatabaseMessage then .serving else .ended) := by
  unfold tcpRound at h
  cases hpipe : round.pipe with
  | closed =>
    rw [hpipe] at h
    cases hi2c : s.i2c with
    | ended =>
      simp only [hi2c] at h
      split at h
      · rename_i hempty
        cases h
        exact ⟨rfl, rfl, rfl, rfl, .inl ⟨rfl, rfl, hempty, hempty, rfl⟩⟩
      · cases h
    | _ =>
      simp only [hi2c] at h
      cases h
  | interrupted =>
    rw [hpipe] at h
    cases h
    exact ⟨rfl, rfl, rfl, rfl, .inr (.inl ⟨rfl, rfl, rfl⟩)⟩
  | failed =>
    rw [hpipe] at h
    cases h
    exact ⟨rfl, rfl, rfl, rfl, .inr (.inr (.inl ⟨rfl, rfl, rfl⟩))⟩
  | data bytes =>
    rw [hpipe] at h
    dsimp only at h
    split at h
    · rename_i hread
      cases h
      exact ⟨rfl, rfl, rfl, rfl, .inr (.inr (.inr ⟨bytes, rfl, hread.1, hread.2, rfl, rfl⟩))⟩
    · cases h

inductive Moves (s : Bbg) : BbgAction → Bbg → Prop where
  | i2cStart (logger device : Bool) (at_start : s.i2c = .starting) :
      Moves s (.i2cStart logger device)
        { s with i2c := if logger && device then .generating else .ended }
  | composed (read : Option (List UInt8)) (now : Int64) (m : RequestFields)
      (generating : s.i2c = .generating) (message : Composed s.generator read now m) :
      Moves s (.compose read now)
        { s with
          generator := { s.generator with requestId := s.generator.requestId + 1 },
          i2c := .writing m }
  | gaveUp (read : Option (List UInt8)) (now : Int64) (generator : Generator) :
      Moves s (.compose read now) { s with generator := generator, i2c := .ended }
  | wrote (m : RequestFields) (writing : s.i2c = .writing m) (reader : s.tcp ≠ .ended) :
      Moves s (.write true)
        { s with
          generator := s.generator.advance, i2c := .generating, pipe := s.pipe ++ m.frame.bytes,
          written := s.written ++ [m] }
  | i2cEnded (a : BbgAction) : Moves s a { s with i2c := .ended }
  | tcpStart (logger : Bool) (at_start : s.tcp = .starting) :
      Moves s (.tcpStart logger) { s with tcp := if logger then .serving else .ended }
  | round (round : Round) (s' : Bbg) (serving : s.tcp = .serving)
      (pass : s.tcpRound round = some s') : Moves s (.round round) s'
  | tcpKilled : Moves s .tcpKilled { s with tcp := .ended }

theorem moves_of_step (h : s.step a = some s') : Moves s a s' := by
  cases a with
  | i2cStart logger device =>
    simp only [step] at h
    split at h
    · cases h
      exact .i2cStart logger device ‹_›
    · cases h
  | compose read now =>
    simp only [step] at h
    split at h
    · rename_i hgenerating
      split at h
      · cases h
        exact .gaveUp ..
      · rename_i hcompose
        cases h
        obtain ⟨rfl, hmessage⟩ := Generator.compose_some hcompose
        exact .composed read now _ hgenerating hmessage
    · cases h
  | write taken =>
    simp only [step] at h
    split at h
    · cases taken with
      | true => cases h
      | false =>
        cases h
        exact .i2cEnded _
    · rename_i m hwriting hreader
      cases taken with
      | false =>
        cases h
        exact .i2cEnded _
      | true =>
        simp only [Bool.not_true, Bool.false_eq_true, if_false] at h
        split at h
        · cases h
          exact .wrote m hwriting hreader
        · cases h
    · cases h
  | i2cKilled =>
    cases h
    exact .i2cEnded _
  | tcpStart logger =>
    simp only [step] at h
    split at h
    · cases h
      exact .tcpStart logger ‹_›
    · cases h
  | round round =>
    simp only [step] at h
    split at h
    · exact .round round s' ‹_› h
    · cases h
  | tcpKilled =>
    cases h
    exact .tcpKilled

theorem Generates.step (h : s.Generates) (hs : s.step a = some s') : s'.Generates := by
  cases moves_of_step hs with
  | i2cStart logger device hstart =>
    refine ⟨h.written, ?_, ?_, ?_⟩
    · dsimp only
      split <;> intro hcase <;> cases hcase
    · exact fun _ => h.starting hstart
    · dsimp only
      split <;> intro m hcase <;> cases hcase
  | composed read now m hgenerating hmessage =>
    refine ⟨h.written, fun hcase => (by cases hcase), fun hcase => (by cases hcase), ?_⟩
    rintro _ ⟨⟩
    exact Generates.composed (h.generating hgenerating) hmessage
  | gaveUp => exact h.other rfl (.inl rfl)
  | wrote m hwriting =>
    obtain ⟨hevent, hadvance⟩ := h.writing m hwriting
    refine ⟨fun k m' hk => ?_, fun hcase => (by cases hcase), fun _ => ?_,
      fun m' hcase => (by cases hcase)⟩
    · rcases Nat.lt_trichotomy k s.written.length with hlt | rfl | hgt
      · rw [List.getElem?_append_left hlt] at hk
        exact h.written k m' hk
      · rw [List.getElem?_concat_length] at hk
        cases hk
        exact hevent
      · rw [List.getElem?_eq_none (by rwa [List.length_append])] at hk
        cases hk
    · rw [hadvance, List.length_append]
      rfl
  | i2cEnded => exact h.other rfl (.inl rfl)
  | tcpStart => exact h.other rfl (.inr ⟨rfl, rfl⟩)
  | round round s' _ hpass =>
    obtain ⟨hgenerator, hi2c, hwritten, -⟩ := tcpRound_cases hpass
    exact h.other hwritten (.inr ⟨hi2c, hgenerator⟩)
  | tcpKilled => exact h.other rfl (.inr ⟨rfl, rfl⟩)

/-- The messages written are at the coordinates read earlier; a later one is that of the
message about to be written. -/
structure Places (s : Bbg) (earlier later : List (GpsCoordinate × Int64)) : Prop where
  written : List.Forall₂ (fun m r => IsAt r.1 r.2 m) s.written earlier
  starting : s.i2c = .starting → later = []
  generating : s.i2c = .generating → later = []
  writing : ∀ m, s.i2c = .writing m → ∃ r, later = [r] ∧ IsAt r.1 r.2 m

variable {earlier later : List (GpsCoordinate × Int64)}

theorem start_places : start.Places [] [] where
  written := .nil
  starting _ := rfl
  generating _ := rfl
  writing m h := by cases h

theorem Places.ended {more : List (GpsCoordinate × Int64)} (h : s.Places earlier later)
    (hwritten : s'.written = s.written) (hi2c : s'.i2c = .ended) :
    s'.Places earlier (later ++ more) := by
  refine ⟨hwritten ▸ h.written, ?_, ?_, ?_⟩ <;> simp [hi2c]

theorem Places.other (h : s.Places earlier later) (hwritten : s'.written = s.written)
    (hi2c : s'.i2c = s.i2c) : s'.Places earlier later :=
  ⟨hwritten ▸ h.written, hi2c ▸ h.starting, hi2c ▸ h.generating, hi2c ▸ h.writing⟩

theorem Places.step (h : s.Places earlier later) (hs : s.step a = some s') :
    ∃ earlier' later', earlier' ++ later' = earlier ++ later ++ a.reading.toList ∧
      s'.Places earlier' later' := by
  have hsame : BbgAction.reading a = none → s'.Places earlier later →
      ∃ earlier' later', earlier' ++ later' = earlier ++ later ++ a.reading.toList ∧
        s'.Places earlier' later' :=
    fun hnone h' => ⟨earlier, later, by rw [hnone, Option.toList_none, List.append_nil], h'⟩
  cases moves_of_step hs with
  | i2cStart logger device hstart =>
    refine hsame rfl ⟨h.written, fun _ => h.starting hstart, fun _ => h.starting hstart, ?_⟩
    dsimp only
    split <;> intro m hcase <;> cases hcase
  | composed read now m hgenerating hmessage =>
    obtain ⟨c, hreading, hat⟩ := hmessage.reading
    obtain rfl := h.generating hgenerating
    refine ⟨earlier, [(c, now)], by rw [hreading, List.append_nil, Option.toList_some],
      h.written, fun hcase => (by cases hcase), fun hcase => (by cases hcase), ?_⟩
    rintro _ ⟨⟩
    exact ⟨(c, now), rfl, hat⟩
  | gaveUp => exact ⟨earlier, _, (List.append_assoc ..).symm, h.ended rfl rfl⟩
  | wrote m hwriting =>
    obtain ⟨r, rfl, hat⟩ := h.writing m hwriting
    exact ⟨earlier ++ [r], [], by simp [BbgAction.reading],
      List.rel_append h.written (.cons hat .nil), fun hcase => (by cases hcase), fun _ => rfl,
      fun m' hcase => (by cases hcase)⟩
  | i2cEnded => exact ⟨earlier, _, (List.append_assoc ..).symm, h.ended rfl rfl⟩
  | tcpStart => exact hsame rfl (h.other rfl rfl)
  | round round s' _ hpass =>
    obtain ⟨-, hi2c, hwritten, -⟩ := tcpRound_cases hpass
    exact hsame rfl (h.other hwritten hi2c)
  | tcpKilled => exact hsame rfl (h.other rfl rfl)

theorem Places.at_reading (h : s.Places earlier later) {k : Nat} (hk : s.written[k]? = some m) :
    ∃ c now, (earlier ++ later)[k]? = some (c, now) ∧ IsAt c now m := by
  obtain ⟨hlt, rfl⟩ := List.getElem?_eq_some_iff.mp hk
  have hread : k < earlier.length := h.written.length_eq ▸ hlt
  refine ⟨earlier[k].1, earlier[k].2, ?_, h.written.get hlt hread⟩
  rw [List.getElem?_append_left hread, List.getElem?_eq_getElem hread]

end Generating

-- ---------------------------------------------------------------------------
-- What the TCP process takes
-- ---------------------------------------------------------------------------

def requests (rounds : List Round) : List Frame := rounds.filterMap Round.request

section Log

variable {rounds : List Round} {round : Round} {request : Frame}

theorem tcpProcessRun_append (h : ∀ r ∈ rounds, r.goesOn = true) (more : List Round) :
    tcpProcessRun (rounds ++ more) = tcpProcessRun rounds ++ tcpProcessRun more := by
  induction rounds with
  | nil => rfl
  | cons r rounds ih =>
    obtain ⟨hr, hrounds⟩ := List.forall_mem_cons.mp h
    rw [List.cons_append, tcpProcessRun, tcpProcessRun]
    cases hpipe : r.pipe with
    | closed => simp [Round.goesOn, hpipe] at hr
    | failed => simp [Round.goesOn, hpipe] at hr
    | interrupted => exact ih hrounds
    | data bytes =>
      have hlength : bytes.length = sizeofTcpToDatabaseMessage := by
        simpa [Round.goesOn, hpipe] using hr
      simp only [dif_pos hlength, ih hrounds, List.append_assoc]

theorem log_serveRequest (request : Frame) (round : Round) :
    (serveRequest request round).filterMap Event.received = [request.word64 0] ∧
      .incompleteRequest ∉ serveRequest request round ∧ .pipeClosed ∉ serveRequest request round := by
  unfold serveRequest
  split
  · simp [Event.received]
  · split
    · simp [Event.received]
    · split
      · simp [Event.received]
      · split <;> simp [Event.received]

end Log

/-- The requests taken are a beginning of those written, the pipe holds the others, and
the log says so. -/
structure Conveys (s : Bbg) (taken waiting : List RequestFields) : Prop where
  written : s.written = taken ++ waiting
  requests : requests s.rounds = taken.map RequestFields.frame
  pipe : s.pipe = (waiting.map fun m => m.frame.bytes).flatten
  starting : s.tcp = .starting → s.rounds = []
  serving : s.tcp = .serving → ∀ r ∈ s.rounds, r.goesOn = true
  received : (tcpProcessRun s.rounds).filterMap Event.received =
    taken.map fun m => m.frame.word64 0
  complete : .incompleteRequest ∉ tcpProcessRun s.rounds
  closed : .pipeClosed ∈ tcpProcessRun s.rounds → waiting = [] ∧ s.i2c = .ended

section Conveying

variable {s s' : Bbg} {a : BbgAction} {taken waiting : List RequestFields}

theorem Conveys.other (h : s.Conveys taken waiting) (hwritten : s'.written = s.written)
    (hpipe : s'.pipe = s.pipe) (hrounds : s'.rounds = s.rounds)
    (hi2c : s'.i2c = s.i2c ∨ s'.i2c = .ended ∨ s.i2c ≠ .ended)
    (htcp : s'.tcp = s.tcp ∨ s'.tcp = .ended ∨ s.tcp = .starting) : s'.Conveys taken waiting where
  written := hwritten.trans h.written
  requests := hrounds ▸ h.requests
  pipe := hpipe.trans h.pipe
  starting hstarting := by
    rw [hrounds]
    rcases htcp with htcp | htcp | htcp
    · exact h.starting (htcp ▸ hstarting)
    · cases htcp.symm.trans hstarting
    · exact h.starting htcp
  serving hserving := by
    rw [hrounds]
    rcases htcp with htcp | htcp | htcp
    · exact h.serving (htcp ▸ hserving)
    · cases htcp.symm.trans hserving
    · simp [h.starting htcp]
  received := hrounds ▸ h.received
  complete := hrounds ▸ h.complete
  closed hclosed := by
    obtain ⟨hwaiting, hended⟩ := h.closed (hrounds ▸ hclosed)
    refine ⟨hwaiting, ?_⟩
    rcases hi2c with hi2c | hi2c | hi2c
    · rw [hi2c, hended]
    · exact hi2c
    · exact absurd hended hi2c

theorem Conveys.write (h : s.Conveys taken waiting) (hi2c : s.i2c ≠ .ended) (generator : Generator)
    (m : RequestFields) :
    Conveys { s with
      generator := generator, i2c := .generating, pipe := s.pipe ++ m.frame.bytes,
      written := s.written ++ [m] } taken (waiting ++ [m]) where
  written := by rw [h.written, List.append_assoc]
  requests := h.requests
  pipe := by simp [h.pipe]
  starting := h.starting
  serving := h.serving
  received := h.received
  complete := h.complete
  closed hclosed := absurd (h.closed hclosed).2 hi2c

theorem Conveys.idle {round : Round} (h : s.Conveys taken waiting) (hserving : s.tcp = .serving)
    (hwritten : s'.written = s.written) (hpipe : s'.pipe = s.pipe)
    (hrounds : s'.rounds = s.rounds ++ [round]) (hi2c : s'.i2c = s.i2c)
    (hround : round.pipe = .interrupted ∧ s'.tcp = s.tcp ∨ round.pipe = .failed ∧ s'.tcp = .ended ∨
      round.pipe = .closed ∧ s.i2c = .ended ∧ s.pipe = [] ∧ s'.tcp = .ended) :
    s'.Conveys taken waiting := by
  have hlog := tcpProcessRun_append (h.serving hserving) [round]
  have hrequests : Bbg.requests s'.rounds = taken.map RequestFields.frame := by
    have hnone : round.request = none := by
      rcases hround with ⟨hr, -⟩ | ⟨hr, -⟩ | ⟨hr, -⟩ <;> simp [Round.request, hr]
    rw [Bbg.requests, hrounds, List.filterMap_append, List.filterMap_cons_none hnone]
    simpa [Bbg.requests] using h.requests
  have hquiet : (tcpProcessRun [round]).filterMap Event.received = [] ∧
      .incompleteRequest ∉ tcpProcessRun [round] := by
    rcases hround with ⟨hr, -⟩ | ⟨hr, -⟩ | ⟨hr, -⟩ <;> simp [tcpProcessRun, hr, Event.received]
  rw [← hrounds] at hlog
  refine ⟨hwritten.trans h.written, hrequests, hpipe.trans h.pipe, fun hstarting => ?_,
    fun hgoing => ?_, ?_, ?_, fun hclosed => ?_⟩
  · rcases hround with ⟨-, htcp⟩ | ⟨-, htcp⟩ | ⟨-, -, -, htcp⟩
    · cases htcp.symm.trans hstarting ▸ hserving
    · cases htcp.symm.trans hstarting
    · cases htcp.symm.trans hstarting
  · rcases hround with ⟨hr, -⟩ | ⟨-, htcp⟩ | ⟨-, -, -, htcp⟩
    · rw [hrounds, List.forall_mem_append]
      refine ⟨h.serving hserving, List.forall_mem_singleton.mpr ?_⟩
      simp [Round.goesOn, hr]
    · cases htcp.symm.trans hgoing
    · cases htcp.symm.trans hgoing
  · rw [hlog, List.filterMap_append, hquiet.1, List.append_nil, h.received]
  · rw [hlog, List.mem_append]
    exact not_or.mpr ⟨h.complete, hquiet.2⟩
  · rw [hlog, List.mem_append] at hclosed
    rcases hclosed with hold | hnew
    · exact hi2c ▸ h.closed hold
    · rcases hround with ⟨hr, -⟩ | ⟨hr, -⟩ | ⟨hr, hended, hempty, -⟩
      · simp [tcpProcessRun, hr] at hnew
      · simp [tcpProcessRun, hr] at hnew
      · refine ⟨?_, hi2c.trans hended⟩
        cases waiting with
        | nil => rfl
        | cons m rest =>
          have hbytes := h.pipe.symm.trans hempty
          have hlength := congrArg List.length hbytes
          simp [m.frame.length_eq, sizeofTcpToDatabaseMessage] at hlength

/-- A pass with a request takes the oldest. -/
theorem Conveys.take {round : Round} {bytes : List UInt8} (h : s.Conveys taken waiting)
    (hserving : s.tcp = .serving) (hround : round.pipe = .data bytes) (hne : bytes ≠ [])
    (hbytes : bytes = s.pipe.take sizeofTcpToDatabaseMessage)
    (hwritten : s'.written = s.written)
    (hpipe : s'.pipe = s.pipe.drop sizeofTcpToDatabaseMessage)
    (hrounds : s'.rounds = s.rounds ++ [round])
    (htcp : s'.tcp = if bytes.length = sizeofTcpToDatabaseMessage then .serving else .ended) :
    ∃ m rest, waiting = m :: rest ∧ s'.Conveys (taken ++ [m]) rest := by
  cases waiting with
  | nil =>
    rw [h.pipe] at hbytes
    exact absurd hbytes hne
  | cons m rest =>
    have hwhole : s.pipe = m.frame.bytes ++ (rest.map fun m => m.frame.bytes).flatten := h.pipe
    rw [hwhole, List.take_left' m.frame.length_eq] at hbytes
    rw [hwhole, List.drop_left' m.frame.length_eq] at hpipe
    subst hbytes
    have hlength : m.frame.bytes.length = sizeofTcpToDatabaseMessage := m.frame.length_eq
    have hrequest : round.request = some m.frame := by
      simp only [Round.request, hround, dif_pos hlength]
    have hlog : tcpProcessRun s'.rounds = tcpProcessRun s.rounds ++ serveRequest m.frame round := by
      rw [hrounds, tcpProcessRun_append (h.serving hserving)]
      simp only [tcpProcessRun, hround, dif_pos hlength, List.append_nil]
    obtain ⟨hreceived, hcomplete, hclosed⟩ := log_serveRequest m.frame round
    rw [if_pos hlength] at htcp
    refine ⟨m, rest, rfl, ?_, ?_, hpipe, fun hstarting => ?_, fun _ => ?_, ?_, ?_, fun hmem => ?_⟩
    · rw [hwritten, h.written, List.append_assoc]
      rfl
    · rw [Bbg.requests, hrounds, List.filterMap_append, ← Bbg.requests, h.requests]
      simp [hrequest]
    · cases htcp.symm.trans hstarting
    · rw [hrounds, List.forall_mem_append]
      refine ⟨h.serving hserving, List.forall_mem_singleton.mpr ?_⟩
      simpa [Round.goesOn, hround] using hlength
    · rw [hlog, List.filterMap_append, h.received, hreceived, List.map_append]
      rfl
    · rw [hlog, List.mem_append]
      exact not_or.mpr ⟨h.complete, hcomplete⟩
    · rw [hlog, List.mem_append] at hmem
      obtain ⟨hnil, -⟩ := h.closed (hmem.resolve_right hclosed)
      cases hnil

theorem Conveys.step (h : s.Conveys taken waiting) (hs : s.step a = some s') :
    ∃ taken' waiting', s'.Conveys taken' waiting' := by
  cases moves_of_step hs with
  | i2cStart logger device hstart =>
    exact ⟨taken, waiting, h.other rfl rfl rfl (.inr (.inr (by simp [hstart]))) (.inl rfl)⟩
  | composed read now m hgenerating =>
    exact ⟨taken, waiting, h.other rfl rfl rfl (.inr (.inr (by simp [hgenerating]))) (.inl rfl)⟩
  | gaveUp => exact ⟨taken, waiting, h.other rfl rfl rfl (.inr (.inl rfl)) (.inl rfl)⟩
  | wrote m hwriting => exact ⟨taken, waiting ++ [m], h.write (by simp [hwriting]) _ m⟩
  | i2cEnded => exact ⟨taken, waiting, h.other rfl rfl rfl (.inr (.inl rfl)) (.inl rfl)⟩
  | tcpStart logger hstart =>
    exact ⟨taken, waiting, h.other rfl rfl rfl (.inl rfl) (.inr (.inr hstart))⟩
  | round round s' hserving hpass =>
    obtain ⟨-, hi2c, hwritten, hrounds, hround⟩ := tcpRound_cases hpass
    rcases hround with ⟨hr, hended, hempty, hpipe, htcp⟩ | ⟨hr, hpipe, htcp⟩ | ⟨hr, hpipe, htcp⟩ |
      ⟨bytes, hr, hne, hbytes, hpipe, htcp⟩
    · exact ⟨taken, waiting, h.idle hserving hwritten (hpipe.trans hempty.symm) hrounds hi2c
        (.inr (.inr ⟨hr, hended, hempty, htcp⟩))⟩
    · exact ⟨taken, waiting, h.idle hserving hwritten hpipe hrounds hi2c (.inl ⟨hr, htcp⟩)⟩
    · exact ⟨taken, waiting, h.idle hserving hwritten hpipe hrounds hi2c (.inr (.inl ⟨hr, htcp⟩))⟩
    · obtain ⟨m, rest, -, htaken⟩ :=
        h.take hserving hr hne hbytes hwritten hpipe hrounds htcp
      exact ⟨taken ++ [m], rest, htaken⟩
  | tcpKilled => exact ⟨taken, waiting, h.other rfl rfl rfl (.inl rfl) (.inr (.inl rfl))⟩

theorem start_conveys : start.Conveys [] [] where
  written := rfl
  requests := rfl
  pipe := rfl
  starting _ := rfl
  serving h := by cases h
  received := rfl
  complete := List.not_mem_nil
  closed h := by cases h

theorem generates_of_run {actions : List BbgAction} (hr : run step start actions = some s) :
    s.Generates :=
  Runs.invariant (I := Generates) (fun _ _ _ h hs => h.step hs) start_generates hr

theorem conveys_of_run {actions : List BbgAction} (hr : run step start actions = some s) :
    ∃ taken waiting, s.Conveys taken waiting :=
  Runs.invariant (I := fun s : Bbg => ∃ taken waiting, s.Conveys taken waiting)
    (fun _ _ _ ⟨_, _, h⟩ hs => h.step hs) ⟨[], [], start_conveys⟩ hr

theorem places_of_run {actions : List BbgAction} (hr : run step start actions = some s) :
    ∃ earlier later, readings actions = earlier ++ later ∧ s.Places earlier later := by
  refine Runs.invariant_history (C := fun _ _ => True)
    (I := fun actions (s : Bbg) => ∃ earlier later, readings actions = earlier ++ later ∧
      s.Places earlier later) ⟨[], [], rfl, start_places⟩ ?_ hr (.of_forall fun _ _ _ => trivial)
  rintro actions a u u' - ⟨earlier, later, hreadings, h⟩ - hs
  obtain ⟨earlier', later', hlists, h'⟩ := h.step hs
  refine ⟨earlier', later', ?_, h'⟩
  rw [hlists, ← hreadings]
  cases ha : a.reading <;> simp [readings, ha]

theorem Conveys.length_taken (h : s.Conveys taken waiting) : taken.length ≤ s.written.length := by
  rw [h.written, List.length_append]
  exact Nat.le_add_right _ _

theorem Conveys.take_written (h : s.Conveys taken waiting) :
    s.written.take taken.length = taken := by
  rw [h.written, List.take_left]

/-- The TCP process takes the requests of the test events, whole and in their order, each
with the coordinate that was read for it. -/
theorem requests_in_order (actions : List BbgAction) (s : Bbg) (hr : run step start actions = some s) :
    (∀ k m, s.written[k]? = some m → IsEvent k m ∧
      ∃ c now, (readings actions)[k]? = some (c, now) ∧ IsAt c now m) ∧
    ∃ n ≤ s.written.length,
      requests s.rounds = (s.written.take n).map RequestFields.frame ∧
      (tcpProcessRun s.rounds).filterMap Event.received =
        (List.range n).map (fun k => .ofNat (k + 1)) ∧
      .incompleteRequest ∉ tcpProcessRun s.rounds ∧
      (.pipeClosed ∈ tcpProcessRun s.rounds → n = s.written.length) := by
  have hgenerates := generates_of_run hr
  obtain ⟨earlier, later, hreadings, hplaces⟩ := places_of_run hr
  obtain ⟨taken, waiting, h⟩ := conveys_of_run hr
  refine ⟨fun k m hk => ⟨hgenerates.written k m hk, ?_⟩, taken.length, h.length_taken, ?_, ?_,
    h.complete, fun hclosed => ?_⟩
  · rw [hreadings]
    exact hplaces.at_reading hk
  · rw [h.take_written, h.requests]
  · rw [h.received]
    refine List.ext_getElem (by simp) fun k hk _ => ?_
    have hlt : k < taken.length := by simpa using hk
    have hget : s.written[k]? = some taken[k] := by
      rw [h.written, List.getElem?_append_left hlt, List.getElem?_eq_getElem hlt]
    obtain ⟨event, -, hid, -⟩ := hgenerates.written k _ hget
    simp only [List.getElem_map, List.getElem_range, RequestFields.requestId_frame, hid]
  · rw [h.written, (h.closed hclosed).1, List.append_nil]

end Conveying

/-- Two requests go into the pipe; the first is lost between the processes and the server,
and the pipe is closed. -/
def lossyActions : List BbgAction :=
  let c : GpsCoordinate := ⟨Single.literal (101 / 10), Single.literal (203 / 20)⟩
  let first : RequestFields :=
    ⟨1, 0, .ofText (CString.ofString "12-345-67"), Single.widen c.latitude,
      Single.widen c.longitude, 1000, 0⟩
  let second : RequestFields :=
    ⟨2, 0, .ofText (CString.ofString "98-765-43"), Single.widen c.latitude,
      Single.widen c.longitude, 1006, 0⟩
  [.i2cStart true true, .compose (some c.bytes) 1000, .write true, .tcpStart true,
   .compose (some c.bytes) 1006, .round ⟨.data first.frame.bytes, false, true, .other none⟩,
   .write true, .i2cKilled, .round ⟨.interrupted, true, true, .other none⟩,
   .round ⟨.data second.frame.bytes, true, true, .other none⟩,
   .round ⟨.closed, true, true, .other none⟩]

def lossyRun : Bbg := (run step start lossyActions).get (by decide +kernel)

theorem requests_in_order_lossy : lossyRun.written.length = 2 ∧
    (∀ k m, lossyRun.written[k]? = some m → IsEvent k m ∧
      ∃ c now, (readings lossyActions)[k]? = some (c, now) ∧ IsAt c now m) ∧
    ∃ n ≤ lossyRun.written.length,
      requests lossyRun.rounds = (lossyRun.written.take n).map RequestFields.frame ∧
      (tcpProcessRun lossyRun.rounds).filterMap Event.received =
        (List.range n).map (fun k => .ofNat (k + 1)) ∧
      .incompleteRequest ∉ tcpProcessRun lossyRun.rounds ∧
      (.pipeClosed ∈ tcpProcessRun lossyRun.rounds → n = lossyRun.written.length) :=
  ⟨by decide +kernel, requests_in_order lossyActions lossyRun (Option.some_get _).symm⟩

end Bbg

end ParkingSystem
