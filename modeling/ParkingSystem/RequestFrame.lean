import ParkingSystem.Lib.CString
import ParkingSystem.Lib.Memory
import ParkingSystem.RequestProcessing
import ParkingSystem.StoreInvariant

/-!
# The 64 bytes of a request

`receive_client_request` takes the bytes of a `tcp_to_database_message_t` from
the socket and looks at none of them, so the `char` array of the vehicle number
need not have a terminator. `vehicle_identified_iff`: with one it identifies the
vehicle, without one it does not.
-/

namespace ParkingSystem

/-- A `tcp_to_database_message_t` byte by byte. -/
structure Frame where
  bytes : List UInt8
  length_eq : bytes.length = sizeofTcpToDatabaseMessage

-- ---------------------------------------------------------------------------
-- Receiving
-- ---------------------------------------------------------------------------

inductive Received where
  | data (first : UInt8) (rest : List UInt8)
  | disconnected
  | interrupted
  | failed

/-- The loop of `receive_client_request`, on what it has received so far. -/
def receiveClientRequest (received : List UInt8) (calls : List Received) : Option Frame :=
  if h : received.length = sizeofTcpToDatabaseMessage then some ⟨received, h⟩
  else
    match calls with
    | [] => none
    | .data first rest :: calls =>
      receiveClientRequest (received ++
        (first :: rest).take (sizeofTcpToDatabaseMessage - received.length)) calls
    | .interrupted :: calls => receiveClientRequest received calls
    | .disconnected :: _ | .failed :: _ => none

def Frame.Accepted (frame : Frame) : Prop := ∃ calls, receiveClientRequest [] calls = some frame

-- ---------------------------------------------------------------------------
-- Fields
-- ---------------------------------------------------------------------------

abbrev VehicleField := { bytes : List UInt8 // bytes.length = vehicleNumberSize }

/-- Up to the first zero byte, or to the end. -/
def VehicleField.text (field : VehicleField) : Text := CString.read field.val

def ParkingAction.ofRaw (raw : UInt32) : ParkingAction :=
  if raw = 0 then .startParking
  else if raw = 1 then .endParking
  else if raw = 2 then .acknowledge
  else .other raw

namespace Frame

variable (frame : Frame)

def slice (offset size : Nat) : List UInt8 := (frame.bytes.drop offset).take size

def word64 (offset : Nat) : UInt64 := .ofNat (Memory.decode (frame.slice offset 8))

def vehicleField : VehicleField where
  val := frame.slice 12 vehicleNumberSize
  property := by simp [slice, frame.length_eq, sizeofTcpToDatabaseMessage, vehicleNumberSize]

/-- The frame as the code reads it, `beyond` being what memory holds after it. -/
def message (beyond : List UInt8) : TcpToDatabaseMessage where
  requestId := frame.word64 0
  action := .ofRaw (.ofNat (Memory.decode (frame.slice 8 4)))
  vehicleNumber := CString.read (frame.bytes.drop 12 ++ beyond)
  latitude := .ofBits (frame.word64 32).toNat
  longitude := .ofBits (frame.word64 40).toNat
  parkingStartTime := (frame.word64 48).toInt64
  parkingEndTime := (frame.word64 56).toInt64

end Frame

/-- The 16 bytes `field` alone determine the vehicle, in whatever frame they come. -/
structure VehicleIdentified (field : VehicleField) : Prop where
  same : ∀ f₁ f₂ : Frame, f₁.Accepted → f₂.Accepted → f₁.vehicleField = field →
    f₂.vehicleField = field → ∀ b₁ b₂, (f₁.message b₁).vehicleNumber = (f₂.message b₂).vehicleNumber
  text : ∀ f : Frame, f.Accepted → f.vehicleField = field → ∀ beyond,
    (f.message beyond).vehicleNumber = field.text
  /-- The row that a START inserts or an END closes. -/
  stored : ∀ f : Frame, f.Accepted → f.vehicleField = field → ∀ beyond db s, s.WellFormed →
    ∀ r ∈ (processDatabaseRequest db s (f.message beyond)).1.parkingSessions,
      r ∉ s.parkingSessions → r.vehicleNumber = field.text
  answered : ∀ f : Frame, f.Accepted → f.vehicleField = field → ∀ beyond db s,
    (processDatabaseRequest db s (f.message beyond)).2.vehicleNumber = field.text

-- ---------------------------------------------------------------------------
-- What the code does with the text
-- ---------------------------------------------------------------------------

section Text

variable {db : Sqlite} {s s' : Store} {request : TcpToDatabaseMessage}
  {response : DatabaseToTcpMessage} {frame : Frame} {beyond : List UInt8}

theorem Frame.accepted (frame : Frame) : frame.Accepted := by
  obtain ⟨bytes, hlength⟩ := frame
  cases bytes with
  | nil => cases hlength
  | cons first rest =>
    have hrest : rest.length = 63 := Nat.succ.inj hlength
    have htake : rest.take 63 = rest := List.take_of_length_le hrest.le
    refine ⟨[.data first rest], ?_⟩
    simp [receiveClientRequest, hrest, htake, sizeofTcpToDatabaseMessage]

theorem Frame.message_vehicleNumber : (frame.message beyond).vehicleNumber =
    CString.read (frame.vehicleField.val ++ (frame.bytes.drop 28 ++ beyond)) := by
  have hsplit : frame.bytes.drop 12 = frame.vehicleField.val ++ frame.bytes.drop 28 := by
    have h := (List.take_append_drop vehicleNumberSize (frame.bytes.drop 12)).symm
    rwa [List.drop_drop] at h
  rw [message, hsplit, List.append_assoc]

@[simp] theorem processDatabaseRequest_vehicleNumber :
    (processDatabaseRequest db s request).2.vehicleNumber =
      snprintf vehicleNumberSize request.vehicleNumber := by
  simp only [processDatabaseRequest, processStartParkingRequest, processEndParkingRequest]
  split
  · split
    · rfl
    · split <;> rfl
  · split <;> rfl
  · rfl

/-- A request only touches a row of its own vehicle. -/
theorem RequestEffect.vehicle (h : RequestEffect db s request s' response) (hw : s.WellFormed)
    {r : Session} (hr : r ∈ s'.parkingSessions) (hnew : r ∉ s.parkingSessions) :
    r.vehicleNumber = request.vehicleNumber := by
  cases h with
  | refused => exact absurd hr hnew
  | started =>
    rcases (List.mem_orderedInsert _).mp hr with rfl | hold
    · rfl
    · exact absurd hold hnew
  | ended row _ _ _ _ _ active =>
    obtain ⟨hmem, hvehicle, -⟩ := Store.selectActive_eq_some active
    obtain ⟨before, after, hsplit, hclosed⟩ := Store.closeSession_split hw.sessionIds hmem
      request.parkingEndTime
      (bindDouble (calculatedCost row.startTime request.parkingEndTime row.pricePerMinute))
    rw [hclosed] at hr
    rw [hsplit] at hnew
    rcases List.mem_cons.mp (List.perm_middle.mem_iff.mp hr) with rfl | hold
    · exact hvehicle
    · exact absurd (List.perm_middle.mem_iff.mpr (List.mem_cons_of_mem _ hold)) hnew

end Text

-- ---------------------------------------------------------------------------
-- Who is identified
-- ---------------------------------------------------------------------------

section Identity

variable {field : VehicleField} {beyond : List UInt8}

theorem text_of_terminated (h : 0 ∈ field.val) {f : Frame} (hf : f.vehicleField = field) :
    (f.message beyond).vehicleNumber = field.text := by
  rw [f.message_vehicleNumber, hf, CString.read_append_of_mem h, VehicleField.text]

theorem vehicleIdentified_of_terminated (h : 0 ∈ field.val) : VehicleIdentified field where
  same f₁ f₂ _ _ h₁ h₂ b₁ b₂ := (text_of_terminated h h₁).trans (text_of_terminated h h₂).symm
  text f _ hf beyond := text_of_terminated h hf
  stored f _ hf beyond db s hw r hr hnew := by
    rw [requestEffect.vehicle hw hr hnew, text_of_terminated h hf]
  answered f _ hf beyond db s := by
    have hshort : field.text.length < vehicleNumberSize := by
      rw [← field.property]
      exact CString.length_read_lt h
    rw [processDatabaseRequest_vehicleNumber, text_of_terminated h hf, snprintf_of_fits hshort]

def paddedFrame (field : VehicleField) (padding : UInt8) : Frame where
  bytes := List.replicate 12 0 ++ (field.val ++ padding :: List.replicate 35 0)
  length_eq := by simp [field.property, sizeofTcpToDatabaseMessage, vehicleNumberSize]

theorem paddedFrame_vehicleField (padding : UInt8) :
    (paddedFrame field padding).vehicleField = field := by
  have hlength : field.val.length = vehicleNumberSize := field.property
  refine Subtype.ext ?_
  simp [Frame.vehicleField, Frame.slice, paddedFrame, ← hlength]

theorem vehicle_identified_iff (field : VehicleField) : VehicleIdentified field ↔ 0 ∈ field.val := by
  constructor
  · intro hid
    by_contra h
    -- without a terminator the text fills all of the field, and the answer has room for less
    have hanswer := hid.answered (paddedFrame field 0) (Frame.accepted _)
      (paddedFrame_vehicleField 0) [] ⟨.succeed, 1⟩ .initial
    have hfull : field.text.length = vehicleNumberSize := by
      rw [VehicleField.text, CString.read_of_not_mem h, field.property]
    have hshort := length_snprintf_lt vehicleNumberSize
      ((paddedFrame field 0).message []).vehicleNumber (by decide)
    rw [← processDatabaseRequest_vehicleNumber, hanswer, hfull] at hshort
    exact absurd hshort (Nat.lt_irrefl _)
  · exact vehicleIdentified_of_terminated

end Identity

def filledField : VehicleField := ⟨List.replicate 16 65, rfl⟩

/-- A padding byte that is not zero is read as the vehicle's seventeenth letter. -/
theorem not_always_vehicle_identified : ¬ ∀ field, VehicleIdentified field := by
  intro h
  have hsame := (h filledField).same (paddedFrame filledField 0) (paddedFrame filledField 66)
    (Frame.accepted _) (Frame.accepted _) (paddedFrame_vehicleField 0)
    (paddedFrame_vehicleField 66) [] []
  exact absurd hsame (by decide)

end ParkingSystem
