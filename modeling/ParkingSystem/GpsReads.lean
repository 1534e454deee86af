import Mathlib.Data.List.Infix
import ParkingSystem.GpsSimulator

/-!
# Reading from the GPS simulator

However timer ticks, bus errors and reads that are cut short interleave, the bytes that
the master takes are those of one coordinate (`read_untorn`). The board answers until
the master addresses it for writing, and then never again: the address callback leaves
that address unacknowledged, with the interrupts of an address off (`answers_iff`).
-/

namespace ParkingSystem

open Runs (run Along)

def I2cFlags.Addressed (flags : I2cFlags) : Prop :=
  flags.addr = true ∧ flags.stopf = false ∧ flags.nackf = false

namespace GpsSimulator

-- ---------------------------------------------------------------------------
-- What the peripheral does
-- ---------------------------------------------------------------------------

/-- The flags fit what the master has done: a STOP or a NACK is only reported to a board
that was addressed, and the transmit register only asks for a byte when it is empty. -/
structure Wired (s : GpsSimulator) (flags : I2cFlags) : Prop where
  stopf : flags.stopf = true → s.phase ≠ .idle
  nackf : flags.nackf = true → s.phase = .reading
  txis : flags.txis = true → s.phase = .reading ∧ s.txdr = none

def Signal.Wired (s : GpsSimulator) : Signal → Prop
  | .event flags | .error flags => GpsSimulator.Wired s flags
  | _ => True

/-- The master ends what it reads with a STOP before it addresses the board again. -/
def Signal.Stopped (s : GpsSimulator) : Signal → Prop
  | .event flags => flags.addr = true → s.phase = .idle ∨ flags.stopf = true
  | _ => True

def Signal.NotWriting (_ : GpsSimulator) : Signal → Prop
  | .event flags => ¬ (flags.Addressed ∧ flags.dir = false)
  | _ => True

instance (s : GpsSimulator) (flags : I2cFlags) : Decidable (s.Wired flags) :=
  decidable_of_iff ((flags.stopf = true → s.phase ≠ .idle) ∧ (flags.nackf = true → s.phase = .reading) ∧
    (flags.txis = true → s.phase = .reading ∧ s.txdr = none))
    ⟨fun ⟨stopf, nackf, txis⟩ => ⟨stopf, nackf, txis⟩, fun h => ⟨h.stopf, h.nackf, h.txis⟩⟩

instance (s : GpsSimulator) : (signal : Signal) → Decidable (signal.Wired s)
  | .event flags | .error flags => inferInstanceAs (Decidable (s.Wired flags))
  | .timer | .clock => .isTrue trivial

instance (s : GpsSimulator) : (signal : Signal) → Decidable (signal.Stopped s)
  | .event flags => inferInstanceAs (Decidable (flags.addr = true → _ ∨ _))
  | .timer | .error _ | .clock => .isTrue trivial

instance (s : GpsSimulator) : (signal : Signal) → Decidable (signal.NotWriting s)
  | .event _ => inferInstanceAs (Decidable (¬ ((_ ∧ _ ∧ _) ∧ _)))
  | .timer | .error _ | .clock => .isTrue trivial

/-- When the master addresses the board for reading, it finds the current coordinate
ready to be sent. -/
def Answers (s : GpsSimulator) : Prop :=
  ∀ flags, flags.Addressed → flags.dir = true → ∃ s' c, s.step (.event flags) = some s' ∧
    s'.selected = some s.currentCoordinate ∧
    gpsCoordinates[s.currentCoordinate.toNat]? = some c ∧ s'.i2cTxPacket = c.bytes ∧
    s'.pBuffPtr = some 0 ∧ s'.xferCount = sizeofGpsCoordinate ∧ s'.cr1.txi = true

/-- The interrupts of an address, a NACK and a STOP are off, and whatever the master does
changes nothing. -/
structure Mute (s : GpsSimulator) : Prop where
  addri : s.cr1.addri = false
  nacki : s.cr1.nacki = false
  stopi : s.cr1.stopi = false
  event : ∀ flags, s.Wired flags → s.step (.event flags) = some s

/-- The bytes loaded since the master last addressed the board. -/
def loaded (s : GpsSimulator) : List UInt8 := s.received ++ s.txdr.toList

-- ---------------------------------------------------------------------------
-- What the driver's functions do
-- ---------------------------------------------------------------------------

section Driver

variable {s : GpsSimulator} {flags : I2cFlags}

def listening : I2cInterrupts := ⟨false, true, true, true, true⟩

theorem i2cItListenCplt_eq (s : GpsSimulator) : s.i2cItListenCplt =
    { s with
      xferOptions := i2cNoOptionFrame, state := .listen, xferIsr := true, locked := false
      cr1 := listening } := by
  simp [i2cItListenCplt, halUnlock, halI2cListenCpltCallback, halI2cEnableListenIt, i2cEnableIrq,
    i2cDisableIrq, listening]

theorem i2cItError_eq (h : s.state.listens = true) : s.i2cItError flags =
    { s with
      xferOptions := i2cNoOptionFrame, xferCount := 0, state := .listen, xferIsr := true
      locked := false, cr1 := { s.cr1 with txi := false } } := by
  simp [i2cItError, h, i2cDisableIrq]

theorem i2cItSlaveSeqCplt_eq (h : s.state = .busyTxListen) : s.i2cItSlaveSeqCplt =
    { s with state := .listen, locked := false, cr1 := { s.cr1 with txi := false } } := by
  simp [i2cItSlaveSeqCplt, h, i2cDisableIrq, I2cState.listens, halUnlock]

theorem i2cItSlaveSeqCplt_listen (h : s.state = .listen) : s.i2cItSlaveSeqCplt = s := by
  simp [i2cItSlaveSeqCplt, h]

def waiting (s : GpsSimulator) (errorCode : I2cError) : GpsSimulator :=
  { s with
    state := .listen, locked := false, errorCode := errorCode, xferOptions := i2cNoOptionFrame
    xferCount := 0, xferIsr := true, cr1 := listening, txdr := none }

theorem error_ne_none (error : I2cError) : { error with af := true } ≠ I2cError.none := by
  simp [I2cError.none]

theorem i2cItSlaveCpltEnd_eq (hstate : s.state = .listen ∨ s.state = .busyTxListen)
    (hend : s.errorCode = .none → s.xferOptions ≠ i2cNoOptionFrame ∧ s.xferCount = 0)
    (hcr1 : s.cr1.txi = false) (htxdr : s.txdr = none) :
    s.i2cItSlaveCpltEnd flags = s.waiting s.errorCode := by
  have hlistens : s.state.listens = true := by rcases hstate with h | h <;> rw [h] <;> rfl
  by_cases herror : s.errorCode = .none
  · obtain ⟨hoption, hcount⟩ := hend herror
    rcases hstate with h | h
    · simp [i2cItSlaveCpltEnd, herror, hoption, i2cItSlaveSeqCplt_listen h, waiting, hcount, hcr1,
        htxdr, halI2cListenCpltCallback, halI2cEnableListenIt, i2cEnableIrq, listening]
    · simp [i2cItSlaveCpltEnd, herror, hoption, i2cItSlaveSeqCplt_eq h, waiting, hcount,
        htxdr, halI2cListenCpltCallback, halI2cEnableListenIt, i2cEnableIrq, listening]
  · simp [i2cItSlaveCpltEnd, herror, i2cItError_eq hlistens, i2cItListenCplt_eq, waiting, htxdr]

structure Stoppable (s : GpsSimulator) (flags : I2cFlags) : Prop where
  state : s.state = .listen ∨ s.state = .busyTxListen
  transfer : s.xferOptions = i2cNoOptionFrame → s.errorCode ≠ .none
  /-- A NACK comes while the board sends. -/
  nackf : flags.nackf = true → s.state = .listen → s.xferOptions ≠ i2cFirstAndLastFrame

theorem i2cItSlaveCpltNack_cases (h : Stoppable s flags) (htxi : s.cr1.txi = false)
    (htxdr : s.txdr = none) (hcount : s.xferCount ≠ 0 → s.errorCode ≠ .none) (cr1 : I2cInterrupts) :
    ∃ s', s.i2cItSlaveCpltNack flags s.xferOptions cr1 = s' ∧
      (s'.state = .listen ∨ s'.state = .busyTxListen) ∧
      (s'.errorCode = .none → s'.xferOptions ≠ i2cNoOptionFrame ∧ s'.xferCount = 0) ∧
      s'.cr1.txi = false ∧ s'.txdr = none ∧
      ∀ error, s'.waiting error = s.waiting error := by
  have hlistens : s.state.listens = true := by rcases h.state with h | h <;> rw [h] <;> rfl
  have hnone (herror : s.errorCode = .none) :
      s.xferOptions ≠ i2cNoOptionFrame ∧ s.xferCount = 0 :=
    ⟨fun hoption => h.transfer hoption herror, by_contra fun hne => hcount hne herror⟩
  have hself : ∃ s', s = s' ∧ (s'.state = .listen ∨ s'.state = .busyTxListen) ∧
      (s'.errorCode = .none → s'.xferOptions ≠ i2cNoOptionFrame ∧ s'.xferCount = 0) ∧
      s'.cr1.txi = false ∧ s'.txdr = none ∧ ∀ error, s'.waiting error = s.waiting error :=
    ⟨s, rfl, h.state, hnone, htxi, htxdr, fun _ => rfl⟩
  rw [i2cItSlaveCpltNack]
  split
  · rename_i hnack
    obtain ⟨hnackf, -⟩ := Bool.and_eq_true_iff.mp hnack
    split
    · split
      · rename_i hlast
        exact absurd hlast.2 (h.nackf hnackf hlast.1)
      · split
        · rename_i hbusy
          refine ⟨_, i2cItSlaveSeqCplt_eq hbusy.1, .inl rfl, hnone, rfl, rfl, fun _ => rfl⟩
        · exact hself
    · dsimp only
      split
      · refine ⟨_, i2cItError_eq hlistens, .inl rfl, fun herror => absurd herror (error_ne_none _),
          rfl, htxdr, fun _ => rfl⟩
      · exact ⟨_, rfl, h.state, fun herror => absurd herror (error_ne_none _), htxi, htxdr,
          fun _ => rfl⟩
  · exact hself

theorem i2cItSlaveCplt_eq (h : Stoppable s flags) :
    ∃ error, s.i2cItSlaveCplt flags = s.waiting error := by
  let off : I2cInterrupts := ⟨false, false, false, false, false⟩
  let s₁ : GpsSimulator := { s with cr1 := off, txdr := none }
  let s₂ : GpsSimulator :=
    if s₁.xferCount ≠ 0 then { s₁ with errorCode.af := true } else s₁
  have hstart : s.i2cItSlaveCplt flags =
      { s₂.i2cItSlaveCpltNack flags s.xferOptions s.cr1 with xferIsr := false }.i2cItSlaveCpltEnd
        flags := by
    rcases h.state with hstate | hstate
    · simp [i2cItSlaveCplt, hstate, i2cDisableIrq, i2cFlushTxdr, s₁, s₂, off]
    · simp [i2cItSlaveCplt, hstate, i2cDisableIrq, i2cFlushTxdr, I2cState.listens, s₁, s₂, off]
  obtain ⟨hsame, hwaiting, hcount, hmore⟩ : (s₂.state = s.state ∧ s₂.xferOptions = s.xferOptions ∧
      s₂.cr1.txi = false ∧ s₂.txdr = none) ∧ (∀ error, s₂.waiting error = s.waiting error) ∧
      (s₂.xferCount ≠ 0 → s₂.errorCode ≠ .none) ∧
      (s.errorCode ≠ .none → s₂.errorCode ≠ .none) := by
    by_cases hzero : s.xferCount = 0
    · have hs₂ : s₂ = s₁ := if_neg (not_not.mpr hzero)
      rw [hs₂]
      exact ⟨⟨rfl, rfl, rfl, rfl⟩, fun _ => rfl, fun hne => absurd hzero hne, id⟩
    · have hs₂ : s₂ = { s₁ with errorCode.af := true } := if_pos hzero
      rw [hs₂]
      exact ⟨⟨rfl, rfl, rfl, rfl⟩, fun _ => rfl, fun _ => error_ne_none _, fun _ => error_ne_none _⟩
  obtain ⟨hstate, hoptions, htxi, htxdr⟩ := hsame
  have hstoppable : Stoppable s₂ flags := by
    refine ⟨?_, ?_, ?_⟩
    · rw [hstate]
      exact h.state
    · rw [hoptions]
      exact fun hoption => hmore (h.transfer hoption)
    · rw [hstate, hoptions]
      exact h.nackf
  obtain ⟨s₃, hs₃, hstate₃, hend, htxi₃, htxdr₃, hwaiting₃⟩ :=
    i2cItSlaveCpltNack_cases hstoppable htxi htxdr hcount s.cr1
  rw [hoptions] at hs₃
  let s₄ : GpsSimulator := { s₃ with xferIsr := false }
  have hs₄ : s₄.i2cItSlaveCpltEnd flags = s₃.waiting s₃.errorCode :=
    i2cItSlaveCpltEnd_eq hstate₃ hend htxi₃ htxdr₃
  refine ⟨s₃.errorCode, ?_⟩
  rw [hstart, hs₃]
  exact hs₄.trans ((hwaiting₃ _).trans (hwaiting _))

end Driver

-- ---------------------------------------------------------------------------
-- A board that listens, and one that does not
-- ---------------------------------------------------------------------------

/-- No handler left anything half done, and every access stays in its array. -/
structure Safe (s : GpsSimulator) : Prop where
  running : s.halted = false
  noFault : s.fault = false
  unlocked : s.locked = false
  handler : s.xferIsr = true
  state : s.state = .listen ∨ s.state = .busyTxListen
  index : s.currentCoordinate.toNat < gpsCoordinatesCount
  packet : s.i2cTxPacket.length = sizeofGpsCoordinate
  pointer : 0 < s.xferCount → ∃ i, s.pBuffPtr = some i ∧ i + s.xferCount = sizeofGpsCoordinate

structure Listens (s : GpsSimulator) : Prop extends Safe s where
  addri : s.cr1.addri = true
  nacki : s.cr1.nacki = true
  stopi : s.cr1.stopi = true
  notWriting : s.phase ≠ .writing
  sends : 0 < s.xferCount → s.state = .busyTxListen
  options : s.state = .busyTxListen → s.xferOptions = i2cLastFrame
  transfer : s.phase ≠ .idle → s.xferOptions = i2cNoOptionFrame → s.errorCode ≠ .none
  reading : s.phase = .reading → s.state = .listen → s.xferOptions ≠ i2cFirstAndLastFrame

structure Deaf (s : GpsSimulator) : Prop extends Safe s where
  addri : s.cr1.addri = false
  nacki : s.cr1.nacki = false
  stopi : s.cr1.stopi = false
  phase : s.phase = .writing
  selected : s.selected = none

/-- What a listening board makes of an event. -/
inductive Handled (s : GpsSimulator) (flags : I2cFlags) : GpsSimulator → Prop
  | stopped (error : I2cError) (stopf : flags.stopf = true) :
      Handled s flags { s.waiting error with phase := .idle }
  | sentAll (nackf : flags.nackf = true) (count : s.xferCount = 0) :
      Handled s flags
        { s with state := .listen, cr1.txi := false, txdr := none, phase := .ended }
  | cutShort (nackf : flags.nackf = true) :
      Handled s flags { s with errorCode.af := true, phase := .ended }
  | refused (nackf : flags.nackf = true) : Handled s flags { s with phase := .ended }
  | read (c : GpsCoordinate) (addressed : flags.Addressed) (dir : flags.dir = true)
      (current : gpsCoordinates[s.currentCoordinate.toNat]? = some c) :
      Handled s flags { s with
        phase := .reading, selected := some s.currentCoordinate, received := []
        i2cTxPacket := c.bytes, state := .busyTxListen, errorCode := .none, pBuffPtr := some 0
        xferCount := sizeofGpsCoordinate, xferOptions := i2cLastFrame
        cr1 := ⟨true, true, true, true, true⟩ }
  | written (addressed : flags.Addressed) (dir : flags.dir = false) :
      Handled s flags { s with
        phase := .writing, selected := none, received := []
        cr1 := { s.cr1 with addri := false, nacki := false, stopi := false, erri := false } }
  | transmitted (i : Nat) (b : UInt8) (txis : flags.txis = true) (silent : ¬ flags.Addressed)
      (pointer : s.pBuffPtr = some i) (byte : s.i2cTxPacket[i]? = some b) (count : 0 < s.xferCount) :
      Handled s flags
        { s with txdr := some b, pBuffPtr := some (i + 1), xferCount := s.xferCount - 1 }
  | nothing (silent : ¬ flags.Addressed) : Handled s flags s

section Events

variable {s s' : GpsSimulator} {flags : I2cFlags}

theorem Safe.listens (h : s.Safe) : s.state.listens = true := by
  rcases h.state with h | h <;> rw [h] <;> rfl

theorem Safe.relock (h : s.Safe) : s.halLock.halUnlock = s := by
  rw [halLock, halUnlock, ← h.unlocked]

theorem Listens.stoppable (h : s.Listens) (hw : s.Wired flags) (hstop : flags.stopf = true) :
    s.Stoppable flags where
  state := h.state
  transfer := h.transfer (hw.stopf hstop)
  nackf hnackf := h.reading (hw.nackf hnackf)

theorem Listens.nack (h : s.Listens) (hw : s.Wired flags) (hnackf : flags.nackf = true) :
    s.Handled flags ((s.halLock.i2cSlaveNack flags).enter .ended).halUnlock := by
  by_cases hcount : s.xferCount = 0
  · rcases h.state with hstate | hstate
    · -- the transfer ended with an error before
      have hoption := h.reading (hw.nackf hnackf) hstate
      have hsame : ((s.halLock.i2cSlaveNack flags).enter .ended).halUnlock =
          { s with phase := .ended } := by
        simp [halLock, halUnlock, enter, i2cSlaveNack, hcount, hstate, hoption, h.unlocked]
      rw [hsame]
      exact .refused hnackf
    · have hoption := h.options hstate
      have hsame : ((s.halLock.i2cSlaveNack flags).enter .ended).halUnlock =
          { s with state := .listen, cr1.txi := false, txdr := none, phase := .ended } := by
        simp [halLock, halUnlock, enter, i2cSlaveNack, hcount, hstate, hoption, h.unlocked,
          i2cLastFrame, i2cNoOptionFrame, i2cFlushTxdr, i2cItSlaveSeqCplt_eq]
      rw [hsame]
      exact .sentAll hnackf hcount
  · have hoption := h.options (h.sends (Nat.pos_of_ne_zero hcount))
    have hsame : ((s.halLock.i2cSlaveNack flags).enter .ended).halUnlock =
        { s with errorCode.af := true, phase := .ended } := by
      simp [halLock, halUnlock, enter, i2cSlaveNack, hcount, hoption, h.unlocked, i2cLastFrame,
        i2cFirstFrame, i2cNextFrame]
    rw [hsame]
    exact .cutShort hnackf

def addressed (s : GpsSimulator) (phase : I2cPhase) : GpsSimulator :=
  { s.halLock with phase := phase, selected := none, received := [] }

theorem Safe.read_addressed (h : s.Safe) (hdir : flags.dir = true) :
    ∃ c, gpsCoordinates[s.currentCoordinate.toNat]? = some c ∧
      ((s.addressed .reading).i2cItAddrCplt flags).halUnlock = { s with
        phase := .reading, selected := some s.currentCoordinate, received := []
        i2cTxPacket := c.bytes, state := .busyTxListen, errorCode := .none, pBuffPtr := some 0
        xferCount := sizeofGpsCoordinate, xferOptions := i2cLastFrame
        cr1 := ⟨true, true, true, true, true⟩ } := by
  obtain ⟨c, hc⟩ : ∃ c, gpsCoordinates[s.currentCoordinate.toNat]? = some c :=
    ⟨_, List.getElem?_eq_getElem (by rw [length_gpsCoordinates]; exact h.index)⟩
  refine ⟨c, hc, ?_⟩
  rcases h.state with hstate | hstate <;>
    simp [addressed, halLock, halUnlock, i2cItAddrCplt, halI2cAddrCallback,
      halI2cSlaveSeqTransmitIt, i2cEnableIrq, i2cDisableIrq, I2cState.listens, hstate, hdir, hc,
      h.handler, h.unlocked]

theorem Safe.write_addressed (h : s.Safe) (hdir : flags.dir = false) :
    ((s.addressed .writing).i2cItAddrCplt flags).halUnlock = { s with
      phase := .writing, selected := none, received := []
      cr1 := { s.cr1 with addri := false, nacki := false, stopi := false, erri := false } } := by
  simp [i2cItAddrCplt, h.listens, halI2cAddrCallback, hdir, i2cDisableIrq, addressed, halLock,
    halUnlock, h.unlocked]

theorem Listens.transmit (h : s.Listens) (htxis : flags.txis = true) (hsilent : ¬ flags.Addressed) :
    s.Handled flags s.halLock.i2cSlaveTransmit.halUnlock := by
  by_cases hcount : 0 < s.xferCount
  · obtain ⟨i, hpointer, hsum⟩ := h.pointer hcount
    obtain ⟨b, hb⟩ : ∃ b, s.i2cTxPacket[i]? = some b :=
      ⟨_, List.getElem?_eq_getElem (by rw [h.packet]; omega)⟩
    have hsame : s.halLock.i2cSlaveTransmit.halUnlock =
        { s with
          txdr := some b, pBuffPtr := some (i + 1), xferCount := s.xferCount - 1 } := by
      simp [halLock, halUnlock, i2cSlaveTransmit, hcount, hpointer, hb, h.unlocked]
    rw [hsame]
    exact .transmitted i b htxis hsilent hpointer hb hcount
  · have hsame : s.halLock.i2cSlaveTransmit = s.halLock := by
      rw [i2cSlaveTransmit, if_neg (show ¬ 0 < s.halLock.xferCount from hcount)]
      rcases h.state with hstate | hstate
      · split
        · exact i2cItSlaveSeqCplt_listen hstate
        · rfl
      · refine if_neg ?_
        simp [halLock, h.options hstate, i2cLastFrame, i2cNextFrame, i2cFirstFrame]
    rw [hsame]
    exact h.relock.symm ▸ .nothing hsilent

theorem i2cSlaveIsrItLocked_eq (hstopi : s.cr1.stopi = true) (hnacki : s.cr1.nacki = true)
    (haddri : s.cr1.addri = true) : s.i2cSlaveIsrItLocked flags =
      if flags.stopf then (s.i2cItSlaveCplt flags).enter .idle
      else if flags.nackf then (s.i2cSlaveNack flags).enter .ended
      else if flags.addr then
        { s with
          phase := if flags.dir then .reading else .writing
          selected := none
          received := [] }.i2cItAddrCplt flags
      else if flags.txis && s.cr1.txi then s.i2cSlaveTransmit
      else s := by
  simp only [i2cSlaveIsrItLocked, hstopi, hnacki, haddri, Bool.and_true]

theorem Safe.step_event (h : s.Safe) : s.step (.event flags) =
    some (s.halLock.i2cSlaveIsrItLocked flags).halUnlock := by
  rw [step, if_neg (by simp [h.running]), halI2cEvIrqHandler, if_pos h.handler, i2cSlaveIsrIt,
    if_neg (by simp [h.unlocked])]

theorem Listens.event (h : s.Listens) (hw : s.Wired flags)
    (hstep : s.step (.event flags) = some s') : s.Handled flags s' := by
  obtain rfl := Option.some.inj (h.step_event.symm.trans hstep)
  rw [i2cSlaveIsrItLocked_eq (s := s.halLock) h.stopi h.nacki h.addri]
  split
  · rename_i hstopf
    have hstoppable := h.stoppable hw hstopf
    obtain ⟨error, hstop⟩ : ∃ error, s.halLock.i2cItSlaveCplt flags = s.halLock.waiting error :=
      i2cItSlaveCplt_eq ⟨hstoppable.state, hstoppable.transfer, hstoppable.nackf⟩
    rw [hstop]
    exact .stopped error hstopf
  · rename_i hstopf
    split
    · rename_i hnackf
      exact h.nack hw hnackf
    · rename_i hnackf
      split
      · rename_i haddr
        have haddressed : flags.Addressed := ⟨haddr, by simpa using hstopf, by simpa using hnackf⟩
        cases hdir : flags.dir with
        | true =>
          obtain ⟨c, hc, hread⟩ := h.read_addressed hdir
          have hhandled := Handled.read c haddressed hdir hc
          rw [if_pos rfl]
          exact hread ▸ hhandled
        | false =>
          rw [if_neg Bool.false_ne_true]
          have hhandled := Handled.written (s := s) haddressed hdir
          exact h.write_addressed hdir ▸ hhandled
      · rename_i haddr
        have hsilent : ¬ flags.Addressed := fun h => haddr h.1
        split
        · rename_i htxis
          exact h.transmit (Bool.and_eq_true_iff.mp htxis).1 hsilent
        · exact h.relock.symm ▸ .nothing hsilent

end Events

-- ---------------------------------------------------------------------------
-- What is kept
-- ---------------------------------------------------------------------------

section Kept

variable {s s' : GpsSimulator} {flags : I2cFlags}

theorem Listens.keeps (h : s.Listens) (hw : s.Wired flags) (hh : s.Handled flags s')
    (hn : ¬ (flags.Addressed ∧ flags.dir = false)) : s'.Listens := by
  obtain ⟨⟨running, noFault, unlocked, handler, state, index, packet, hpointer⟩,
    addri, nacki, stopi, notWriting, sends, options, transfer, reading⟩ := h
  have hended : flags.nackf = true → s.xferOptions = i2cNoOptionFrame → s.errorCode ≠ .none := by
    intro hnackf
    exact transfer (by rw [hw.nackf hnackf]; exact I2cPhase.noConfusion)
  cases hh with
  | stopped error stopf =>
    constructor
    · exact ⟨running, noFault, rfl, rfl, .inl rfl, index, packet,
        fun hcount => absurd hcount (Nat.lt_irrefl 0)⟩
    · rfl
    · rfl
    · rfl
    · exact I2cPhase.noConfusion
    · exact fun hcount => absurd hcount (Nat.lt_irrefl 0)
    · exact I2cState.noConfusion
    · exact fun hphase => absurd rfl hphase
    · exact I2cPhase.noConfusion
  | sentAll nackf count =>
    constructor
    · exact ⟨running, noFault, unlocked, handler, .inl rfl, index, packet, hpointer⟩
    · exact addri
    · exact nacki
    · exact stopi
    · exact I2cPhase.noConfusion
    · exact fun hcount => absurd count hcount.ne'
    · exact I2cState.noConfusion
    · exact fun _ => hended nackf
    · exact I2cPhase.noConfusion
  | cutShort nackf =>
    constructor
    · exact ⟨running, noFault, unlocked, handler, state, index, packet, hpointer⟩
    · exact addri
    · exact nacki
    · exact stopi
    · exact I2cPhase.noConfusion
    · exact sends
    · exact options
    · exact fun _ _ => error_ne_none _
    · exact I2cPhase.noConfusion
  | refused nackf =>
    constructor
    · exact ⟨running, noFault, unlocked, handler, state, index, packet, hpointer⟩
    · exact addri
    · exact nacki
    · exact stopi
    · exact I2cPhase.noConfusion
    · exact sends
    · exact options
    · exact fun _ => hended nackf
    · exact I2cPhase.noConfusion
  | read c addressed dir current =>
    constructor
    · exact ⟨running, noFault, unlocked, handler, .inr rfl, index, c.length_bytes,
        fun _ => ⟨0, rfl, rfl⟩⟩
    · rfl
    · rfl
    · rfl
    · exact I2cPhase.noConfusion
    · exact fun _ => rfl
    · exact fun _ => rfl
    · exact fun _ hoption => absurd hoption (show i2cLastFrame ≠ i2cNoOptionFrame by decide)
    · exact fun _ => I2cState.noConfusion
  | written addressed dir => exact absurd ⟨addressed, dir⟩ hn
  | transmitted i b txis silent pointer byte count =>
    constructor
    · refine ⟨running, noFault, unlocked, handler, state, index, packet, fun _ => ⟨i + 1, rfl, ?_⟩⟩
      obtain ⟨i', hi', hsum⟩ := hpointer count
      obtain rfl : i = i' := Option.some.inj (pointer.symm.trans hi')
      show i + 1 + (s.xferCount - 1) = sizeofGpsCoordinate
      omega
    · exact addri
    · exact nacki
    · exact stopi
    · exact notWriting
    · exact fun _ => sends count
    · exact options
    · exact transfer
    · exact reading
  | nothing silent =>
    exact ⟨⟨running, noFault, unlocked, handler, state, index, packet, hpointer⟩,
      addri, nacki, stopi, notWriting, sends, options, transfer, reading⟩

/-- Addressed for writing, the board switches off all that would call it again. -/
theorem Listens.deafened (h : s.Listens) (hh : s.Handled flags s')
    (ha : flags.Addressed) (hdir : flags.dir = false) : s'.Deaf := by
  obtain ⟨haddr, hstopf, hnackf⟩ := ha
  cases hh with
  | stopped error stopf => simp [stopf] at hstopf
  | sentAll nackf | cutShort nackf | refused nackf => simp [nackf] at hnackf
  | read c addressed dir current => simp [dir] at hdir
  | written addressed dir =>
    obtain ⟨running, noFault, unlocked, handler, state, index, packet, pointer⟩ := h.toSafe
    constructor
    · exact ⟨running, noFault, unlocked, handler, state, index, packet, pointer⟩
    · rfl
    · rfl
    · rfl
    · rfl
    · rfl
  | transmitted i b txis silent => exact absurd ⟨haddr, hstopf, hnackf⟩ silent
  | nothing silent => exact absurd ⟨haddr, hstopf, hnackf⟩ silent

theorem Deaf.event (h : s.Deaf) (hw : s.Wired flags) (hstep : s.step (.event flags) = some s') :
    s' = s := by
  obtain rfl := Option.some.inj (h.step_event.symm.trans hstep)
  have htxis : flags.txis = false := by
    cases htxis : flags.txis with
    | false => rfl
    | true => exact absurd ((hw.txis htxis).1.symm.trans h.phase) (by decide)
  have hnone : s.halLock.i2cSlaveIsrItLocked flags = s.halLock := by
    simp [i2cSlaveIsrItLocked, halLock, h.addri, h.nacki, h.stopi, htxis]
  rw [hnone, h.relock]

-- A timer tick, a bus error and a byte that goes out.

theorem Safe.timer (h : s.Safe) : s.halTimPeriodElapsedCallback.Safe := by
  obtain ⟨running, noFault, unlocked, handler, state, index, packet, pointer⟩ := h
  refine ⟨running, noFault, unlocked, handler, state, ?_, packet, pointer⟩
  simp only [halTimPeriodElapsedCallback]
  split
  · decide
  · omega

theorem Safe.i2cItError (h : s.Safe) (error : I2cError) :
    ({ s with errorCode := error }.i2cItError flags) = { s with
      errorCode := error, xferOptions := i2cNoOptionFrame, xferCount := 0, state := .listen
      cr1 := { s.cr1 with txi := false } } := by
  rw [i2cItError_eq (s := { s with errorCode := error }) h.listens]
  simp [h.handler, h.unlocked]

theorem Safe.error (h : s.Safe) (error : I2cError) :
    { s with
      errorCode := error, xferOptions := i2cNoOptionFrame, xferCount := 0, state := .listen
      cr1 := { s.cr1 with txi := false } }.Safe := by
  obtain ⟨running, noFault, unlocked, handler, state, index, packet, pointer⟩ := h
  exact ⟨running, noFault, unlocked, handler, .inl rfl, index, packet,
    fun hcount => absurd hcount (Nat.lt_irrefl 0)⟩

theorem Safe.step_error (h : s.Safe) (hstep : s.step (.error flags) = some s') :
    (∃ error, error ≠ I2cError.none ∧ s' = { s with
      errorCode := error, xferOptions := i2cNoOptionFrame, xferCount := 0, state := .listen
      cr1 := { s.cr1 with txi := false } }) ∨ s' = s := by
  rw [step, if_neg (by simp [h.running])] at hstep
  obtain rfl := Option.some.inj hstep
  simp only [halI2cErIrqHandler]
  split
  · rename_i hbits
    refine .inl ⟨s.i2cErrors flags, ?_, h.i2cItError _⟩
    intro hnone
    simp [hnone, I2cError.none] at hbits
  · rename_i hbits
    right
    obtain ⟨⟨hberr, hovr⟩, harlo⟩ : ((s.i2cErrors flags).berr = false ∧
        (s.i2cErrors flags).ovr = false) ∧ (s.i2cErrors flags).arlo = false := by
      simpa only [Bool.or_eq_true, not_or, Bool.not_eq_true] using hbits
    have hsame : s.i2cErrors flags = s.errorCode := by
      have hberr' := (Bool.or_eq_false_iff.mp hberr).1
      have hovr' := (Bool.or_eq_false_iff.mp hovr).1
      have harlo' := (Bool.or_eq_false_iff.mp harlo).1
      exact I2cError.ext (hberr.trans hberr'.symm) (harlo.trans harlo'.symm) rfl
        (hovr.trans hovr'.symm)
    rw [hsame]

theorem Listens.step (h : s.Listens) {signal : Signal} (hw : signal.Wired s)
    (hn : signal.NotWriting s) (hstep : s.step signal = some s') : s'.Listens := by
  cases signal with
  | timer =>
    rw [GpsSimulator.step, if_neg (by simp [h.running])] at hstep
    obtain rfl := Option.some.inj hstep
    exact ⟨h.toSafe.timer, h.addri, h.nacki, h.stopi, h.notWriting, h.sends, h.options, h.transfer,
      h.reading⟩
  | event flags => exact h.keeps hw (h.event hw hstep) hn
  | error flags =>
    rcases h.step_error hstep with ⟨error, herror, rfl⟩ | rfl
    · exact ⟨h.toSafe.error error, h.addri, h.nacki, h.stopi, h.notWriting,
        fun hcount => absurd hcount (Nat.lt_irrefl 0), I2cState.noConfusion, fun _ _ => herror,
        fun _ _ => show i2cNoOptionFrame ≠ i2cFirstAndLastFrame by decide⟩
    · exact h
  | clock =>
    obtain ⟨b, -, rfl⟩ := Option.map_eq_some_iff.mp hstep
    obtain ⟨⟨running, noFault, unlocked, handler, state, index, packet, pointer⟩,
      addri, nacki, stopi, notWriting, sends, options, transfer, reading⟩ := h
    exact ⟨⟨running, noFault, unlocked, handler, state, index, packet, pointer⟩,
      addri, nacki, stopi, notWriting, sends, options, transfer, reading⟩

theorem Listens.step_writing (h : s.Listens) {signal : Signal} (hw : signal.Wired s)
    (hn : ¬ signal.NotWriting s) (hstep : s.step signal = some s') : s'.Deaf := by
  cases signal with
  | event flags =>
    obtain ⟨haddressed, hdir⟩ := not_not.mp hn
    exact h.deafened (h.event hw hstep) haddressed hdir
  | timer | error | clock => exact absurd trivial hn

theorem Deaf.step (h : s.Deaf) {signal : Signal} (hw : signal.Wired s)
    (hstep : s.step signal = some s') : s'.Deaf := by
  cases signal with
  | timer =>
    rw [GpsSimulator.step, if_neg (by simp [h.running])] at hstep
    obtain rfl := Option.some.inj hstep
    exact ⟨h.toSafe.timer, h.addri, h.nacki, h.stopi, h.phase, h.selected⟩
  | event flags =>
    rw [h.event hw hstep]
    exact h
  | error flags =>
    rcases h.step_error hstep with ⟨error, -, rfl⟩ | rfl
    · exact ⟨h.toSafe.error error, h.addri, h.nacki, h.stopi, h.phase, h.selected⟩
    · exact h
  | clock =>
    obtain ⟨b, -, rfl⟩ := Option.map_eq_some_iff.mp hstep
    obtain ⟨⟨running, noFault, unlocked, handler, state, index, packet, pointer⟩,
      addri, nacki, stopi, phase, selected⟩ := h
    exact ⟨⟨running, noFault, unlocked, handler, state, index, packet, pointer⟩,
      addri, nacki, stopi, phase, selected⟩

end Kept

-- ---------------------------------------------------------------------------
-- Answering
-- ---------------------------------------------------------------------------

section Answering

variable {s t : GpsSimulator}

theorem initial_listens : initial.Listens := by
  constructor
  · constructor <;> decide
  all_goals decide

theorem Listens.answers (h : s.Listens) : s.Answers := by
  rintro flags ⟨haddr, hstopf, hnackf⟩ hdir
  obtain ⟨c, hc, hread⟩ := h.read_addressed hdir
  have hbody : s.halLock.i2cSlaveIsrItLocked flags = (s.addressed .reading).i2cItAddrCplt flags := by
    rw [i2cSlaveIsrItLocked_eq (s := s.halLock) h.stopi h.nacki h.addri]
    simp [haddr, hstopf, hnackf, hdir, addressed]
  exact ⟨_, c, h.step_event, by rw [hbody, hread], hc, by rw [hbody, hread], by rw [hbody, hread],
    by rw [hbody, hread], by rw [hbody, hread]⟩

def readFlags : I2cFlags := ⟨false, false, true, true, false, false, false, false⟩

theorem Deaf.not_answers (h : s.Deaf) : ¬ s.Answers := by
  intro hanswers
  have haddressed : readFlags.Addressed := ⟨rfl, rfl, rfl⟩
  obtain ⟨s', c, hstep, hselected, -⟩ := hanswers readFlags haddressed rfl
  have hwired : s.Wired readFlags :=
    ⟨fun h => absurd h (by decide), fun h => absurd h (by decide), fun h => absurd h (by decide)⟩
  rw [h.event hwired hstep, h.selected] at hselected
  cases hselected

theorem Deaf.mute (h : s.Deaf) : s.Mute where
  addri := h.addri
  nacki := h.nacki
  stopi := h.stopi
  event flags hw := by
    obtain ⟨s', hs'⟩ : ∃ s', s.step (.event flags) = some s' := ⟨_, h.step_event⟩
    rw [hs', h.event hw hs']

/-- A byte may still go out, but none is loaded after it. -/
theorem Deaf.step_loaded (h : s.Deaf) {signal : Signal} (hw : signal.Wired s)
    (hstep : s.step signal = some t) : t.loaded = s.loaded := by
  cases signal with
  | timer =>
    rw [GpsSimulator.step, if_neg (by simp [h.running])] at hstep
    obtain rfl := Option.some.inj hstep
    rfl
  | event flags => rw [h.event hw hstep]
  | error flags => rcases h.step_error hstep with ⟨error, -, rfl⟩ | rfl <;> rfl
  | clock =>
    obtain ⟨b, hb, rfl⟩ := Option.map_eq_some_iff.mp hstep
    simp [loaded, hb]

theorem Deaf.silent (h : s.Deaf) {signals : List Signal}
    (hr : run GpsSimulator.step s signals = some t)
    (hwired : Along GpsSimulator.step (fun s a => a.Wired s) s signals) :
    t.Mute ∧ t.loaded = s.loaded := by
  have hdeaf : t.Deaf ∧ t.loaded = s.loaded := by
    refine Runs.invariant_along (I := fun u : GpsSimulator => u.Deaf ∧ u.loaded = s.loaded) ?_
      ⟨h, rfl⟩ hr hwired
    rintro u a u' ⟨hu, hloaded⟩ hw hstep
    exact ⟨hu.step hw hstep, (hu.step_loaded hw hstep).trans hloaded⟩
  exact ⟨hdeaf.1.mute, hdeaf.2⟩

/-- The board answers exactly as long as nobody has addressed it for writing; after that it
hears no address, NACK or STOP any more and loads no byte. -/
theorem answers_iff (signals : List Signal) (t : GpsSimulator)
    (hr : run step initial signals = some t)
    (hwired : Along step (fun s a => a.Wired s) initial signals) :
    (t.Answers ↔ Along step (fun s a => a.NotWriting s) initial signals) ∧
    (¬ Along step (fun s a => a.NotWriting s) initial signals →
      ∀ later u, run step t later = some u → Along step (fun s a => a.Wired s) t later →
        u.Mute ∧ u.loaded = t.loaded) := by
  have hsplit := Runs.invariant_split_along (I := Listens) (J := Deaf)
    (fun s a s' h hw hn hs => h.step hw hn hs) (fun s a s' h hw hn hs => h.step_writing hw hn hs)
    (fun s a s' h hw hs => h.step hw hs) initial_listens hr hwired
  rcases hsplit with ⟨hnone, ht⟩ | ⟨hsome, ht⟩
  · exact ⟨iff_of_true ht.answers hnone, fun hsome => absurd hnone hsome⟩
  · exact ⟨iff_of_false ht.not_answers hsome, fun _ later u hlater hw => ht.silent hlater hw⟩

def noFlags : I2cFlags := ⟨false, false, false, false, false, false, false, false⟩

def transmitByte : List Signal := [.event { noFlags with txis := true }, .clock]

def readSignals : List Signal := List.flatten
  [[.timer, .event readFlags, .timer], (List.replicate 5 transmitByte).flatten, [.timer],
   (List.replicate 3 transmitByte).flatten,
   [.event { noFlags with nackf := true }, .event { noFlags with stopf := true }]]

def readBoard : GpsSimulator := (run step initial readSignals).get (by decide +kernel)

def writtenSignals : List Signal := readSignals ++ [.event { noFlags with addr := true }]

def writtenBoard : GpsSimulator := (run step initial writtenSignals).get (by decide +kernel)

theorem answers_iff_read : readBoard.Answers ∧ ¬ writtenBoard.Answers ∧
    writtenBoard.step (.event readFlags) = some writtenBoard :=
  ⟨(answers_iff readSignals readBoard (Option.some_get _).symm (by decide +kernel)).1.mpr
      (by decide +kernel),
    fun h => absurd ((answers_iff writtenSignals writtenBoard (Option.some_get _).symm
      (by decide +kernel)).1.mp h) (by decide +kernel),
    ((answers_iff writtenSignals writtenBoard (Option.some_get _).symm (by decide +kernel)).2
      (by decide +kernel) [] writtenBoard rfl trivial).1.event readFlags (by decide +kernel)⟩

end Answering
-- ---------------------------------------------------------------------------
-- What the master gets
-- ---------------------------------------------------------------------------

/-- What was taken and what waits to be taken is a beginning of the selected coordinate,
and the driver's pointer stands behind it. -/
structure Sound (s : GpsSimulator) : Prop where
  idle : s.phase = .idle → s.txdr = none
  sent : ∀ i, s.selected = some i → ∃ c, gpsCoordinates[i.toNat]? = some c ∧
    s.i2cTxPacket = c.bytes ∧ s.received ++ s.txdr.toList <+: c.bytes ∧
    (0 < s.xferCount → s.pBuffPtr = some (s.received ++ s.txdr.toList).length)

section Reading

variable {s s' : GpsSimulator} {flags : I2cFlags}

theorem Sound.handled (h : s.Sound) (hw : s.Wired flags)
    (hstopped : flags.addr = true → s.phase = .idle ∨ flags.stopf = true)
    (hh : s.Handled flags s') : s'.Sound := by
  obtain ⟨hidle, hsent⟩ := h
  have hended : I2cPhase.ended = .idle → s'.txdr = none := I2cPhase.noConfusion
  cases hh with
  | stopped error stopf =>
    refine ⟨fun _ => rfl, fun i hi => ?_⟩
    obtain ⟨c, hc, hpacket, hbytes, -⟩ := hsent i hi
    refine ⟨c, hc, hpacket, ?_, fun hcount => absurd hcount (Nat.lt_irrefl 0)⟩
    exact (List.append_nil s.received).symm ▸ (List.prefix_append _ _).trans hbytes
  | sentAll nackf count =>
    refine ⟨hended, fun i hi => ?_⟩
    obtain ⟨c, hc, hpacket, hbytes, -⟩ := hsent i hi
    refine ⟨c, hc, hpacket, ?_, fun hcount => absurd count hcount.ne'⟩
    exact (List.append_nil s.received).symm ▸ (List.prefix_append _ _).trans hbytes
  | cutShort nackf | refused nackf => exact ⟨hended, hsent⟩
  | read c addressed dir current =>
    obtain ⟨haddr, hstopf, -⟩ := addressed
    have hempty : s.txdr = none := by
      rcases hstopped haddr with hphase | hstop
      · exact hidle hphase
      · simp [hstop] at hstopf
    refine ⟨I2cPhase.noConfusion, fun i hi => ?_⟩
    obtain rfl : s.currentCoordinate = i := Option.some.inj hi
    exact ⟨c, current, rfl, by simp [hempty], fun _ => by simp [hempty]⟩
  | written addressed dir =>
    exact ⟨I2cPhase.noConfusion, fun i hi => by cases hi⟩
  | transmitted i b txis silent pointer byte count =>
    obtain ⟨hphase, hempty⟩ := hw.txis txis
    refine ⟨fun hidle => absurd (hphase.symm.trans hidle) (by decide), fun j hj => ?_⟩
    obtain ⟨c, hc, hpacket, hbytes, hpointer⟩ := hsent j hj
    rw [hempty, Option.toList_none, List.append_nil] at hbytes hpointer
    obtain rfl : i = s.received.length := Option.some.inj (pointer.symm.trans (hpointer count))
    -- the byte is the one that follows what was taken
    rw [hpacket] at byte
    obtain ⟨hlt, rfl⟩ := List.getElem?_eq_some_iff.mp byte
    refine ⟨c, hc, hpacket, List.concat_get_prefix hbytes hlt, fun _ => ?_⟩
    simp
  | nothing silent => exact ⟨hidle, hsent⟩

theorem Sound.step (h : s.Sound) (hs : s.Listens ∨ s.Deaf) {signal : Signal}
    (hw : signal.Wired s) (hstopped : signal.Stopped s) (hstep : s.step signal = some s') :
    s'.Sound := by
  have hsafe : s.Safe := hs.elim Listens.toSafe Deaf.toSafe
  cases signal with
  | timer =>
    rw [GpsSimulator.step, if_neg (by simp [hsafe.running])] at hstep
    obtain rfl := Option.some.inj hstep
    exact ⟨h.idle, h.sent⟩
  | event flags =>
    rcases hs with hs | hs
    · exact h.handled hw hstopped (hs.event hw hstep)
    · exact (hs.event hw hstep).symm ▸ h
  | error flags =>
    rcases hsafe.step_error hstep with ⟨error, -, rfl⟩ | rfl
    · refine ⟨h.idle, fun i hi => ?_⟩
      obtain ⟨c, hc, hpacket, hbytes, -⟩ := h.sent i hi
      exact ⟨c, hc, hpacket, hbytes, fun hcount => absurd hcount (Nat.lt_irrefl 0)⟩
    · exact h
  | clock =>
    obtain ⟨b, hb, rfl⟩ := Option.map_eq_some_iff.mp hstep
    refine ⟨fun _ => rfl, fun i hi => ?_⟩
    obtain ⟨c, hc, hpacket, hbytes, hpointer⟩ := h.sent i hi
    rw [hb, Option.toList_some] at hbytes hpointer
    exact ⟨c, hc, hpacket, by simpa using hbytes, by simpa using hpointer⟩

theorem initial_sound : initial.Sound := by
  constructor
  · exact fun _ => rfl
  · intro i (hi : none = some i)
    cases hi

/-- What the master takes after it addressed the board comes from the coordinate that was
current then; a whole packet is that coordinate. -/
theorem read_untorn (signals : List Signal) (t : GpsSimulator)
    (hr : run step initial signals = some t)
    (hwired : Along step (fun s a => a.Wired s) initial signals)
    (hstopped : Along step (fun s a => a.Stopped s) initial signals) :
    ∀ i, t.selected = some i → ∃ c, gpsCoordinates[i.toNat]? = some c ∧ t.received <+: c.bytes ∧
      (t.received.length = sizeofGpsCoordinate → .ofBytes t.received = c) := by
  have hinv : (t.Listens ∨ t.Deaf) ∧ t.Sound := by
    refine Runs.invariant_along (I := fun s => (s.Listens ∨ s.Deaf) ∧ s.Sound) ?_
      ⟨.inl initial_listens, initial_sound⟩ hr (hwired.and hstopped)
    rintro s a s' ⟨hs, hsound⟩ ⟨hw, hstop⟩ hstep
    refine ⟨?_, hsound.step hs hw hstop hstep⟩
    rcases hs with hs | hs
    · by_cases hn : a.NotWriting s
      · exact .inl (hs.step hw hn hstep)
      · exact .inr (hs.step_writing hw hn hstep)
    · exact .inr (hs.step hw hstep)
  intro i hi
  obtain ⟨c, hc, -, hbytes, -⟩ := hinv.2.sent i hi
  have htaken : t.received <+: c.bytes := (List.prefix_append _ _).trans hbytes
  refine ⟨c, hc, htaken, fun hfull => ?_⟩
  rw [htaken.eq_of_length (by rw [hfull, c.length_bytes]), c.ofBytes_bytes]

theorem read_untorn_read : readBoard.received.length = sizeofGpsCoordinate ∧
    ∃ c, gpsCoordinates[1]? = some c ∧ readBoard.received <+: c.bytes ∧
      (readBoard.received.length = sizeofGpsCoordinate → .ofBytes readBoard.received = c) :=
  ⟨by decide +kernel, read_untorn readSignals readBoard (Option.some_get _).symm
    (by decide +kernel) (by decide +kernel) 1 (by decide +kernel)⟩

end Reading

end GpsSimulator
end ParkingSystem
