import ParkingSystem.Lib.Double

/-!
# Messages and layout constants

`parking_protocol.h` and the constants of `ipc_protocol.hpp` that the modelled
code reads. A `char` array that the code reads as a string is the text such a
read yields: the bytes up to the first zero byte.
-/

namespace ParkingSystem

/-- Bytes of a C string, without the terminator. -/
abbrev Text := List UInt8

def vehicleNumberSize : Nat := 16

/-- `parking_action_t`; the wire can carry any 32-bit value. -/
inductive ParkingAction where
  | startParking
  | endParking
  | acknowledge
  | other (raw : UInt32)
  deriving DecidableEq

inductive IpcStatus where
  | success
  | invalidRequest
  | vehicleNotFound
  | databaseError
  | internalError
  deriving DecidableEq

/-- `tcp_to_database_message_t`. `vehicleNumber` may be longer than the
16-byte field: a field without a zero byte is read on into what follows it. -/
structure TcpToDatabaseMessage where
  requestId : UInt64
  action : ParkingAction
  vehicleNumber : Text
  latitude : Double
  longitude : Double
  parkingStartTime : Int64
  parkingEndTime : Int64
  deriving DecidableEq

structure DatabaseToTcpMessage where
  requestId : UInt64
  action : ParkingAction
  status : IpcStatus
  vehicleNumber : Text
  parkingStartTime : Int64
  parkingEndTime : Int64
  parkingDuration : Int64
  parkingCost : Double
  deriving DecidableEq

/-- The all-zero message of `response = {}`. -/
def DatabaseToTcpMessage.zero : DatabaseToTcpMessage where
  requestId := 0
  action := .startParking
  status := .success
  vehicleNumber := []
  parkingStartTime := 0
  parkingEndTime := 0
  parkingDuration := 0
  parkingCost := 0

def sizeofTcpToDatabaseMessage : Nat := 64

def sizeofDatabaseToTcpMessage : Nat := 64

def tcpToDatabaseQueueCapacity : Nat := 32
def databaseToTcpQueueCapacity : Nat := 32

inductive Direction where
  | tcpToDatabase
  | databaseToTcp
  deriving DecidableEq

def Direction.capacity : Direction → Nat
  | .tcpToDatabase => tcpToDatabaseQueueCapacity
  | .databaseToTcp => databaseToTcpQueueCapacity

def Direction.elementSize : Direction → Nat
  | .tcpToDatabase => 64
  | .databaseToTcp => sizeofDatabaseToTcpMessage

end ParkingSystem
