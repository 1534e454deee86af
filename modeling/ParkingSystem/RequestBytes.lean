import ParkingSystem.RequestFrame

/-!
# The client's bytes of a request

The client clears a `tcp_to_database_message_t`, fills in its fields and sends the 64
bytes. `request_read_back`: however `recv` cuts them up, the server reads the fields that
the client wrote, whatever lies in its memory behind them.
-/

namespace ParkingSystem

/-- The fields of a `tcp_to_database_message_t` in the client's memory; a `double` is its
64 bits. -/
structure RequestFields where
  requestId : UInt64
  action : UInt32
  vehicleNumber : VehicleField
  latitude : UInt64
  longitude : UInt64
  parkingStartTime : Int64
  parkingEndTime : Int64

def ParkingAction.raw : ParkingAction → UInt32
  | .startParking => 0
  | .endParking => 1
  | .acknowledge => 2
  | .other raw => raw

namespace RequestFields

variable (fields : RequestFields)

/-- Member by member; `memset` has left zeros between the vehicle number and the
latitude. -/
def blocks : List (List UInt8) :=
  [Memory.encode 8 fields.requestId.toNat, Memory.encode 4 fields.action.toNat,
   fields.vehicleNumber.val, List.replicate 4 0, Memory.encode 8 fields.latitude.toNat,
   Memory.encode 8 fields.longitude.toNat,
   Memory.encode 8 fields.parkingStartTime.toUInt64.toNat,
   Memory.encode 8 fields.parkingEndTime.toUInt64.toNat]

def frame : Frame where
  bytes := fields.blocks.flatten
  length_eq := by
    simp [blocks, fields.vehicleNumber.property, sizeofTcpToDatabaseMessage, vehicleNumberSize]

def message : TcpToDatabaseMessage where
  requestId := fields.requestId
  action := .ofRaw fields.action
  vehicleNumber := fields.vehicleNumber.text
  latitude := .ofBits fields.latitude.toNat
  longitude := .ofBits fields.longitude.toNat
  parkingStartTime := fields.parkingStartTime
  parkingEndTime := fields.parkingEndTime

end RequestFields

-- ---------------------------------------------------------------------------
-- Field by field
-- ---------------------------------------------------------------------------

theorem decode_word64 (value : UInt64) :
    UInt64.ofNat (Memory.decode (Memory.encode 8 value.toNat)) = value := by
  rw [Memory.decode_encode, Nat.mod_eq_of_lt (show value.toNat < 256 ^ 8 from value.toNat_lt),
    UInt64.ofNat_toNat]

theorem decode_word32 (value : UInt32) :
    UInt32.ofNat (Memory.decode (Memory.encode 4 value.toNat)) = value := by
  rw [Memory.decode_encode, Nat.mod_eq_of_lt (show value.toNat < 256 ^ 4 from value.toNat_lt),
    UInt32.ofNat_toNat]

namespace RequestFields

variable (fields : RequestFields) (beyond : List UInt8)

theorem drop_block (n : Nat) {block : List UInt8} {offset : Nat} (hblock : fields.blocks[n]? = some block)
    (hoffset : (fields.blocks.take n).flatten.length = offset) :
    fields.frame.bytes.drop offset = block ++ (fields.blocks.drop (n + 1)).flatten := by
  obtain ⟨hn, hget⟩ := List.getElem?_eq_some_iff.mp hblock
  have hsplit : fields.blocks = fields.blocks.take n ++ block :: fields.blocks.drop (n + 1) := by
    rw [← hget, ← List.drop_eq_getElem_cons hn, List.take_append_drop]
  have hbytes := congrArg List.flatten hsplit
  rw [List.flatten_append, List.flatten_cons] at hbytes
  show fields.blocks.flatten.drop offset = _
  rw [hbytes, List.drop_left' hoffset]

theorem slice_block (n : Nat) {block : List UInt8} {offset size : Nat}
    (hblock : fields.blocks[n]? = some block)
    (hoffset : (fields.blocks.take n).flatten.length = offset) (hsize : block.length = size) :
    fields.frame.slice offset size = block := by
  rw [Frame.slice, fields.drop_block n hblock hoffset, List.take_left' hsize]

theorem word64_block (n : Nat) {value : UInt64} {offset : Nat}
    (hblock : fields.blocks[n]? = some (Memory.encode 8 value.toNat))
    (hoffset : (fields.blocks.take n).flatten.length = offset) :
    fields.frame.word64 offset = value := by
  rw [Frame.word64, fields.slice_block n hblock hoffset (Memory.length_encode 8 _), decode_word64]

/-- The zeros behind the vehicle number end it where the field does. -/
theorem read_vehicleNumber :
    CString.read (fields.frame.bytes.drop 12 ++ beyond) = fields.vehicleNumber.text := by
  have hoffset : (fields.blocks.take 2).flatten.length = 12 := by simp [blocks]
  rw [fields.drop_block 2 rfl hoffset, List.append_assoc]
  exact CString.read_append_zero _ _

theorem requestId_frame : fields.frame.word64 0 = fields.requestId := fields.word64_block 0 rfl rfl

theorem message_frame : fields.frame.message beyond = fields.message := by
  have hlength : fields.vehicleNumber.val.length = 16 := fields.vehicleNumber.property
  have haction : fields.frame.slice 8 4 = Memory.encode 4 fields.action.toNat :=
    fields.slice_block 1 rfl (by simp [blocks]) (Memory.length_encode 4 _)
  have hlatitude : fields.frame.word64 32 = fields.latitude :=
    fields.word64_block 4 rfl (by simp [blocks, hlength])
  have hlongitude : fields.frame.word64 40 = fields.longitude :=
    fields.word64_block 5 rfl (by simp [blocks, hlength])
  have hstart : fields.frame.word64 48 = fields.parkingStartTime.toUInt64 :=
    fields.word64_block 6 rfl (by simp [blocks, hlength])
  have hend : fields.frame.word64 56 = fields.parkingEndTime.toUInt64 :=
    fields.word64_block 7 rfl (by simp [blocks, hlength])
  rw [Frame.message, fields.read_vehicleNumber, fields.requestId_frame, haction, decode_word32,
    hlatitude, hlongitude, hstart, hend]
  rfl

end RequestFields

-- ---------------------------------------------------------------------------
-- On the wire
-- ---------------------------------------------------------------------------

def Received.bytes : Received → List UInt8
  | .data first rest => first :: rest
  | _ => []

theorem take_append_take {received chunk rest : List UInt8} {size : Nat}
    (hroom : received.length ≤ size) :
    (received ++ chunk.take (size - received.length) ++ rest).take size =
      (received ++ (chunk ++ rest)).take size := by
  by_cases hshort : chunk.length ≤ size - received.length
  · rw [List.take_of_length_le hshort, List.append_assoc]
  · have hlong : size - received.length ≤ chunk.length := Nat.le_of_not_le hshort
    have hlength : (received ++ chunk.take (size - received.length)).length = size := by
      rw [List.length_append, List.length_take, Nat.min_eq_left hlong]
      omega
    rw [List.take_left' hlength, List.take_append, List.take_of_length_le hroom,
      List.take_append_of_le_length hlong]

theorem bytes_of_receiveClientRequest {received : List UInt8} {calls : List Received} {frame : Frame}
    (hroom : received.length ≤ sizeofTcpToDatabaseMessage)
    (h : receiveClientRequest received calls = some frame) :
    frame.bytes = (received ++ calls.flatMap Received.bytes).take sizeofTcpToDatabaseMessage := by
  induction calls generalizing received with
  | nil =>
    rw [receiveClientRequest.eq_def] at h
    split at h
    · rename_i hfull
      cases h
      exact (List.take_left' hfull).symm
    · cases h
  | cons call calls ih =>
    rw [receiveClientRequest.eq_def] at h
    split at h
    · rename_i hfull
      cases h
      exact (List.take_left' hfull).symm
    · cases call with
      | data first rest =>
        rw [ih _ h, List.flatMap_cons, take_append_take hroom]
        · rfl
        · rw [List.length_append, List.length_take]
          omega
      | interrupted => exact ih hroom h
      | disconnected => cases h
      | failed => cases h

/-- However the bytes come in, they say what the client's fields say. -/
theorem request_read_back (fields : RequestFields) (calls : List Received) (frame : Frame)
    (rest beyond : List UInt8) (hreceived : receiveClientRequest [] calls = some frame)
    (hstream : calls.flatMap Received.bytes <+: fields.frame.bytes ++ rest) :
    frame.message beyond = fields.message := by
  have hbytes := bytes_of_receiveClientRequest (Nat.zero_le _) hreceived
  rw [List.nil_append] at hbytes
  have hfull : sizeofTcpToDatabaseMessage ≤ (calls.flatMap Received.bytes).length := by
    have hlength := congrArg List.length hbytes
    rw [frame.length_eq, List.length_take] at hlength
    omega
  have hsame : frame = fields.frame := by
    obtain ⟨more, hmore⟩ := hstream
    have htake : (calls.flatMap Received.bytes).take sizeofTcpToDatabaseMessage = fields.frame.bytes := by
      rw [← List.take_append_of_le_length hfull, hmore, List.take_left' fields.frame.length_eq]
    obtain ⟨bytes, hlength⟩ := frame
    exact Frame.mk.injEq .. ▸ hbytes.trans htake
  rw [hsame, fields.message_frame]

def filledFields : RequestFields :=
  ⟨7, 1, filledField, 0x4030000000000000, 0x4030000000000000, 0, 160⟩

/-- Ten bytes, an interrupted call, and the rest. -/
def cutCalls : List Received :=
  [.data 7 ((filledFields.frame.bytes.drop 1).take 9), .interrupted,
   .data 0 (filledFields.frame.bytes.drop 11)]

def cutFrame : Frame := (receiveClientRequest [] cutCalls).get (by decide +kernel)

theorem request_read_back_cut : cutFrame.message [66] = filledFields.message :=
  request_read_back filledFields cutCalls cutFrame [] [66] (Option.some_get _).symm
    (by decide +kernel)

end ParkingSystem
