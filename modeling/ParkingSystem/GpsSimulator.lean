import ParkingSystem.Lib.Memory
import ParkingSystem.Lib.Runs
import ParkingSystem.Lib.Single

/-!
# The GPS simulator

The firmware of the STM32 board and what it uses of the vendored I2C driver. TIM10
advances the current coordinate; when the I2C master addresses the board for reading,
the address callback copies the current coordinate into `i2c_tx_packet` and the driver
sends it byte by byte. All interrupts have the same priority, so each handler is one step.

The peripheral is the environment: a step says which of its flags the handler finds, and
`clock` is the master taking the byte in the transmit data register. Not modelled are
DMA, 10-bit addresses and reception: no address for writing is ever acknowledged.
-/

namespace ParkingSystem

-- ---------------------------------------------------------------------------
-- The coordinates
-- ---------------------------------------------------------------------------

structure GpsCoordinate where
  latitude : UInt32
  longitude : UInt32
  deriving DecidableEq

def sizeofGpsCoordinate : Nat := 8

def GpsCoordinate.bytes (c : GpsCoordinate) : List UInt8 :=
  Memory.encode 4 c.latitude.toNat ++ Memory.encode 4 c.longitude.toNat

def GpsCoordinate.ofBytes (bytes : List UInt8) : GpsCoordinate where
  latitude := .ofNat (Memory.decode (bytes.take 4))
  longitude := .ofNat (Memory.decode ((bytes.drop 4).take 4))

def gpsCoordinates : List GpsCoordinate :=
  [ -- Tel Aviv
   (10100, 10150), (10300, 10450), (10550, 10600), (11200, 11350), (12750, 12900), (13400, 13500),
   -- Haifa
   (20100, 20200), (21300, 21450), (22700, 22900), (24200, 24350), (26800, 26950), (28500, 28700),
   -- Jerusalem
   (30100, 30200), (31400, 31550), (32800, 32950), (34300, 34500), (36700, 36850),
   (39100, 39300)].map fun (latitude, longitude) =>
    ⟨Single.literal (latitude / 1000), Single.literal (longitude / 1000)⟩

def gpsCoordinatesCount : Nat := 18

theorem length_gpsCoordinates : gpsCoordinates.length = gpsCoordinatesCount := rfl

@[simp] theorem GpsCoordinate.length_bytes (c : GpsCoordinate) :
    c.bytes.length = sizeofGpsCoordinate := by
  simp [bytes, sizeofGpsCoordinate]

theorem GpsCoordinate.ofBytes_bytes (c : GpsCoordinate) : .ofBytes c.bytes = c := by
  obtain ⟨latitude, longitude⟩ := c
  have hfront : (Memory.encode 4 latitude.toNat).length = 4 := Memory.length_encode 4 _
  have hback : (Memory.encode 4 longitude.toNat).length = 4 := Memory.length_encode 4 _
  have hword (bits : UInt32) : .ofNat (bits.toNat % 256 ^ 4) = bits := by
    rw [Nat.mod_eq_of_lt (show bits.toNat < 256 ^ 4 from bits.toNat_lt), UInt32.ofNat_toNat]
  simp only [ofBytes, bytes, List.take_left' hfront, List.drop_left' hfront,
    List.take_of_length_le hback.le, Memory.decode_encode, hword]

-- ---------------------------------------------------------------------------
-- The driver's handle and the registers
-- ---------------------------------------------------------------------------

inductive I2cState where
  | reset
  | ready
  | busy
  | busyTx
  | busyRx
  | listen
  | busyTxListen
  | busyRxListen
  | abort
  deriving DecidableEq

def I2cState.listens : I2cState → Bool
  | .listen | .busyTxListen | .busyRxListen => true
  | _ => false

/-- The bits of `ErrorCode`. -/
@[ext] structure I2cError where
  berr : Bool
  arlo : Bool
  af : Bool
  ovr : Bool
  deriving DecidableEq

def I2cError.none : I2cError := ⟨false, false, false, false⟩

def i2cFirstFrame : UInt32 := 0
def i2cNextFrame : UInt32 := 0x01000000
def i2cFirstAndLastFrame : UInt32 := 0x02000000
def i2cLastFrame : UInt32 := 0x02000000
def i2cNoOptionFrame : UInt32 := 0xffff0000

structure I2cInterrupts where
  txi : Bool
  addri : Bool
  nacki : Bool
  stopi : Bool
  erri : Bool
  deriving DecidableEq

/-- What `I2C_Enable_IRQ` and `I2C_Disable_IRQ` are asked for. -/
structure InterruptRequest where
  listen : Bool
  tx : Bool
  rx : Bool

/-- The flags of `ISR` that a handler finds; `dir` is set when the master reads. -/
structure I2cFlags where
  stopf : Bool
  nackf : Bool
  addr : Bool
  dir : Bool
  txis : Bool
  berr : Bool
  ovr : Bool
  arlo : Bool
  deriving DecidableEq

/-- Where the master is with the board: nothing since the last STOP, reading, reading
ended by a NACK, or addressed for writing. -/
inductive I2cPhase where
  | idle
  | reading
  | ended
  | writing
  deriving DecidableEq

structure GpsSimulator where
  -- main.c
  currentCoordinate : UInt32
  i2cTxPacket : List UInt8
  /-- In `Error_Handler`, with interrupts off. -/
  halted : Bool
  /-- Read beyond an array. -/
  fault : Bool
  -- hi2c1
  state : I2cState
  locked : Bool
  errorCode : I2cError
  xferOptions : UInt32
  xferCount : Nat
  /-- An index into `i2c_tx_packet`; `none` is the null pointer. -/
  pBuffPtr : Option Nat
  /-- `XferISR` is `I2C_Slave_ISR_IT`, not null. -/
  xferIsr : Bool
  -- The peripheral
  cr1 : I2cInterrupts
  txdr : Option UInt8
  -- What happened so far
  phase : I2cPhase
  /-- The coordinate that was current when the master last addressed the board. -/
  selected : Option UInt32
  /-- What the master has taken since. -/
  received : List UInt8

namespace GpsSimulator

variable (s : GpsSimulator)

def i2cEnableIrq (request : InterruptRequest) : GpsSimulator :=
  let transfer := request.tx || request.rx
  { s with cr1 :=
    { txi := s.cr1.txi || request.tx
      addri := s.cr1.addri || request.listen
      nacki := s.cr1.nacki || request.listen || transfer
      stopi := s.cr1.stopi || request.listen || transfer
      erri := s.cr1.erri || request.listen || transfer } }

def i2cDisableIrq (request : InterruptRequest) : GpsSimulator :=
  let all := request.listen || ((request.tx || request.rx) && !s.state.listens)
  { s with cr1 :=
    { txi := s.cr1.txi && !request.tx
      addri := s.cr1.addri && !request.listen
      nacki := s.cr1.nacki && !all
      stopi := s.cr1.stopi && !all
      erri := s.cr1.erri && !all } }

def halLock : GpsSimulator := { s with locked := true }

def halUnlock : GpsSimulator := { s with locked := false }

def enter (phase : I2cPhase) : GpsSimulator := { s with phase := phase }

def i2cFlushTxdr : GpsSimulator := { s with txdr := none }

def halI2cEnableListenIt : GpsSimulator × Bool :=
  if s.state = .ready then
    ({ s with state := .listen, xferIsr := true }.i2cEnableIrq ⟨true, false, false⟩, true)
  else (s, false)

/-- On `i2c_tx_packet`, whose address is not null, and a size that is not zero. -/
def halI2cSlaveSeqTransmitIt (size : Nat) (xferOptions : UInt32) : GpsSimulator :=
  if s.state.listens then
    let s := s.i2cDisableIrq ⟨true, true, false⟩
    if s.locked then s
    else
      let s := if s.state = .busyRxListen then s.i2cDisableIrq ⟨false, false, true⟩ else s
      { s with
        state := .busyTxListen
        errorCode := .none
        pBuffPtr := some 0
        xferCount := size
        xferOptions := xferOptions
        xferIsr := true }.i2cEnableIrq ⟨true, true, false⟩
  else s

-- ---------------------------------------------------------------------------
-- The callbacks of main.c
-- ---------------------------------------------------------------------------

def halTimPeriodElapsedCallback : GpsSimulator :=
  let nextCoordinate := s.currentCoordinate + 1
  { s with
    currentCoordinate := if gpsCoordinatesCount ≤ nextCoordinate.toNat then 0 else nextCoordinate }

def halI2cAddrCallback (flags : I2cFlags) : GpsSimulator :=
  if flags.dir then
    match gpsCoordinates[s.currentCoordinate.toNat]? with
    | some c =>
      { s with i2cTxPacket := c.bytes, selected := some s.currentCoordinate
        }.halI2cSlaveSeqTransmitIt sizeofGpsCoordinate i2cLastFrame
    | none => { s with fault := true }
  else s

def halI2cListenCpltCallback : GpsSimulator :=
  match s.halI2cEnableListenIt with
  | (s, true) => s
  | (s, false) => { s with halted := true }

-- ---------------------------------------------------------------------------
-- The driver's interrupt handlers
-- ---------------------------------------------------------------------------

/-- 7-bit addresses. -/
def i2cItAddrCplt (flags : I2cFlags) : GpsSimulator :=
  if s.state.listens then
    (s.i2cDisableIrq ⟨true, false, false⟩).halUnlock.halI2cAddrCallback flags
  else s.halUnlock

/-- The transfer-complete callbacks are the driver's empty ones. -/
def i2cItSlaveSeqCplt : GpsSimulator :=
  match s.state with
  | .busyTxListen => ({ s with state := .listen }.i2cDisableIrq ⟨false, true, false⟩).halUnlock
  | .busyRxListen => ({ s with state := .listen }.i2cDisableIrq ⟨false, false, true⟩).halUnlock
  | _ => s

def i2cItListenCplt : GpsSimulator :=
  ({ s with xferOptions := i2cNoOptionFrame, state := .ready, xferIsr := false }.i2cDisableIrq
    ⟨true, true, true⟩).halUnlock.halI2cListenCpltCallback

/-- With `I2C_TreatErrorCallback`; the error callback only prints. -/
def i2cItError (flags : I2cFlags) : GpsSimulator :=
  let s' := { s with xferOptions := i2cNoOptionFrame, xferCount := 0 }
  if s.state.listens then
    { s'.i2cDisableIrq ⟨false, true, true⟩ with state := .listen, xferIsr := true, locked := false }
  else
    let s' := (s'.i2cDisableIrq ⟨true, true, true⟩).i2cFlushTxdr
    if s.state = .abort then { s' with state := .ready, xferIsr := false, locked := false }
    else
      { s' with
        state := .ready
        errorCode.af := s.errorCode.af || flags.stopf && flags.nackf
        xferIsr := false
        locked := false }

/-- The part of `I2C_ITSlaveCplt` that looks for a NACK; `options` and `cr1` are as they
were at the STOP. -/
def i2cItSlaveCpltNack (flags : I2cFlags) (options : UInt32) (cr1 : I2cInterrupts) : GpsSimulator :=
  if flags.nackf && cr1.nacki then
    if s.xferCount = 0 then
      if s.state = .listen ∧ options = i2cFirstAndLastFrame then s.i2cItListenCplt
      else if s.state = .busyTxListen ∧ options ≠ i2cNoOptionFrame then
        s.i2cFlushTxdr.i2cItSlaveSeqCplt
      else s
    else
      let s := { s with errorCode.af := true }
      if options = i2cFirstFrame ∨ options = i2cNextFrame then s.i2cItError flags else s
  else s

/-- The end of `I2C_ITSlaveCplt`: with an error, without one, and with no transfer. -/
def i2cItSlaveCpltEnd (flags : I2cFlags) : GpsSimulator :=
  if s.errorCode ≠ .none then
    let s := s.i2cItError flags
    if s.state = .listen then s.i2cItListenCplt else s
  else if s.xferOptions ≠ i2cNoOptionFrame then
    { s.i2cItSlaveSeqCplt with
      xferOptions := i2cNoOptionFrame, state := .ready, locked := false }.halI2cListenCpltCallback
  else { s with state := .ready, locked := false }

def i2cItSlaveCplt (flags : I2cFlags) : GpsSimulator :=
  let options := s.xferOptions
  let cr1 := s.cr1
  let s : GpsSimulator :=
    match s.state with
    | .busyTx | .busyTxListen => s.i2cDisableIrq ⟨true, true, false⟩
    | .busyRx | .busyRxListen => s.i2cDisableIrq ⟨true, false, true⟩
    | .listen => s.i2cDisableIrq ⟨true, true, true⟩
    | _ => s
  let s := s.i2cFlushTxdr
  let s : GpsSimulator := if s.xferCount ≠ 0 then { s with errorCode.af := true } else s
  { s.i2cItSlaveCpltNack flags options cr1 with xferIsr := false }.i2cItSlaveCpltEnd flags

def i2cSlaveNack (flags : I2cFlags) : GpsSimulator :=
  if s.xferCount = 0 then
    if s.state = .listen ∧ s.xferOptions = i2cFirstAndLastFrame then s.i2cItListenCplt
    else if s.state = .busyTxListen ∧ s.xferOptions ≠ i2cNoOptionFrame then
      s.i2cFlushTxdr.i2cItSlaveSeqCplt
    else s
  else
    let s' := { s with errorCode.af := true }
    if s.xferOptions = i2cFirstFrame ∨ s.xferOptions = i2cNextFrame then s'.i2cItError flags
    else s'

def i2cSlaveTransmit : GpsSimulator :=
  if 0 < s.xferCount then
    match s.pBuffPtr.bind fun i => s.i2cTxPacket[i]? with
    | some b =>
      { s with txdr := some b, pBuffPtr := s.pBuffPtr.map (· + 1), xferCount := s.xferCount - 1 }
    | none => { s with fault := true }
  else if s.xferOptions = i2cNextFrame ∨ s.xferOptions = i2cFirstFrame then s.i2cItSlaveSeqCplt
  else s

def i2cSlaveIsrItLocked (flags : I2cFlags) : GpsSimulator :=
  if flags.stopf && s.cr1.stopi then (s.i2cItSlaveCplt flags).enter .idle
  else if flags.nackf && s.cr1.nacki then (s.i2cSlaveNack flags).enter .ended
  else if flags.addr && s.cr1.addri then
    { s with
      phase := if flags.dir then .reading else .writing
      selected := none
      received := [] }.i2cItAddrCplt flags
  else if flags.txis && s.cr1.txi then s.i2cSlaveTransmit
  else s

def i2cSlaveIsrIt (flags : I2cFlags) : GpsSimulator :=
  if s.locked then s else (s.halLock.i2cSlaveIsrItLocked flags).halUnlock

def halI2cEvIrqHandler (flags : I2cFlags) : GpsSimulator :=
  if s.xferIsr then s.i2cSlaveIsrIt flags else s

/-- `ErrorCode` with the bus errors that `HAL_I2C_ER_IRQHandler` finds. -/
def i2cErrors (flags : I2cFlags) : I2cError where
  berr := s.errorCode.berr || flags.berr && s.cr1.erri
  ovr := s.errorCode.ovr || flags.ovr && s.cr1.erri
  arlo := s.errorCode.arlo || flags.arlo && s.cr1.erri
  af := s.errorCode.af

def halI2cErIrqHandler (flags : I2cFlags) : GpsSimulator :=
  let error := s.i2cErrors flags
  let s := { s with errorCode := error }
  if error.berr || error.ovr || error.arlo then s.i2cItError flags else s

-- ---------------------------------------------------------------------------
-- Steps
-- ---------------------------------------------------------------------------

inductive Signal where
  | timer
  | event (flags : I2cFlags)
  | error (flags : I2cFlags)
  | clock

def step : Signal → Option GpsSimulator
  | .timer => if s.halted then none else some s.halTimPeriodElapsedCallback
  | .event flags => if s.halted then none else some (s.halI2cEvIrqHandler flags)
  | .error flags => if s.halted then none else some (s.halI2cErIrqHandler flags)
  | .clock => s.txdr.map fun b => { s with txdr := none, received := s.received ++ [b] }

/-- After `HAL_I2C_Init`; what is static is zero. -/
def afterInit : GpsSimulator where
  currentCoordinate := 0
  i2cTxPacket := List.replicate sizeofGpsCoordinate 0
  halted := false
  fault := false
  state := .ready
  locked := false
  errorCode := .none
  xferOptions := 0
  xferCount := 0
  pBuffPtr := none
  xferIsr := false
  cr1 := ⟨false, false, false, false, false⟩
  txdr := none
  phase := .idle
  selected := none
  received := []

/-- `main` enables listening as the callback does. -/
def initial : GpsSimulator := afterInit.halI2cListenCpltCallback

end GpsSimulator
end ParkingSystem
