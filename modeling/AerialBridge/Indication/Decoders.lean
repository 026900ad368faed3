import AerialBridge.Indication.Messages

/-!
# Decoders of the indications

Every decoder starts with the same 12 header bytes and a PDU count, constructs one slot point from
them and walks the PDUs with a cursor into the message.  `dispatchPdus` is that walk; a decoder is
its turn for one PDU.  Reads go through `readAt`, so a trace exists only if no read leaves the
message.
-/

namespace AerialBridge

open Bytes Bytes.Parser

/-- `SCF_HDR_SIZE`: `scf_header` and `scf_body_header`. -/
def scfHdrSize : Nat := 8

def decodeTimingAdvance (ocudu : Ocudu) (rawTa : UInt16) (numerology : Nat) : Option Int :=
  if rawTa = 0xFFFF then none else some (ocudu.fromTimingAdvance rawTa numerology)

/-! ## SLOT.indication -/

/-- Raise the numerology while the slot does not fit, at most up to 4; the fuel is `4 - effective`. -/
def inferNumerology (slot : UInt16) : Nat → Nat → Nat
  | 0, effective => effective
  | fuel + 1, effective =>
      if nofSlotsPerFrame effective ≤ slot.toNat then inferNumerology slot fuel (effective + 1)
      else effective

/-- `none` when the message is rejected; `now` is the system clock. -/
def deserializeSlotIndication (buf : List UInt8) (numerology : Nat) (now : Int) :
    Except ReadFault (Option (SlotPoint × SlotIndication)) :=
  if buf.length < scfHdrSize + 4 then pure none else do
    let sfn ← readAt u16 buf scfHdrSize
    let slot ← readAt u16 buf (scfHdrSize + 2)
    -- of all indications only this one checks its SFN and slot
    if sfn > 1023 then pure none else
      let effective := inferNumerology slot (4 - numerology) numerology
      if nofSlotsPerFrame effective ≤ slot.toNat then pure none else
        let sp : SlotPoint := ⟨effective, sfn, slot⟩
        pure (some (sp, ⟨.ofSlotPoint sp, now⟩))

/-! ## The walk over the PDUs of a message -/

/-- The PDU counts are one or two bytes wide. -/
def count8 : Parser Nat := do
  let n ← u8
  pure n.toNat

def count16 : Parser Nat := do
  let n ← u16
  pure n.toNat

def dispatchPdus {σ : Type} (count : Parser Nat) (countSize : Nat) (buf : List UInt8)
    (numerology : Nat) (start : Nat → σ)
    (turn : SlotPoint → σ → Except ReadFault (Turn σ Effect)) : Except ReadFault (List Effect) :=
  if buf.length < scfHdrSize + 4 + countSize then pure [] else do
    let sfn ← readAt u16 buf scfHdrSize
    let slot ← readAt u16 buf (scfHdrSize + 2)
    let numPdus ← readAt count buf (scfHdrSize + 4)
    let sp : SlotPoint := ⟨numerology, sfn, slot⟩
    let (_, effects) ← loop (turn sp) numPdus (start (scfHdrSize + 4 + countSize))
    pure (.slotPoint sp :: effects)

/-- The `sfn` and `slot` fields that follow the headers of an indication. -/
def wireSfn (buf : List UInt8) : UInt16 := peek16 buf 8

def wireSlot (buf : List UInt8) : UInt16 := peek16 buf 10

def wirePoint (numerology : Nat) (buf : List UInt8) : SlotPoint :=
  ⟨numerology, wireSfn buf, wireSlot buf⟩

theorem dispatchPdus_short {σ : Type} (count : Parser Nat) {countSize : Nat} {buf : List UInt8}
    (numerology : Nat) (start : Nat → σ) (turn : SlotPoint → σ → Except ReadFault (Turn σ Effect))
    (h : buf.length < 12 + countSize) :
    dispatchPdus count countSize buf numerology start turn = .ok [] := by
  unfold dispatchPdus
  rw [if_pos (by rw [scfHdrSize]; omega)]
  rfl

theorem dispatchPdus_eq {σ : Type} {count : Parser Nat} {countSize n : Nat} {buf : List UInt8}
    {numerology : Nat} {start : Nat → σ} {turn : SlotPoint → σ → Except ReadFault (Turn σ Effect)}
    {s : σ} {effects : List Effect} (h : 12 + countSize ≤ buf.length)
    (hcount : readAt count buf 12 = .ok n)
    (hloop : loop (turn (wirePoint numerology buf)) n (start (12 + countSize)) = .ok (s, effects)) :
    dispatchPdus count countSize buf numerology start turn =
      .ok (.slotPoint (wirePoint numerology buf) :: effects) := by
  unfold dispatchPdus
  -- the header reads are inside a message of this length
  rw [scfHdrSize, if_neg (by omega), readAt_u16 (by omega : 8 + 2 ≤ buf.length), ok_bind,
    readAt_u16 (by omega : 8 + 2 + 2 ≤ buf.length), ok_bind, hcount, ok_bind]
  show (loop (turn (wirePoint numerology buf)) n (start (12 + countSize)) >>= _) = _
  rw [hloop]
  rfl

theorem readAt_count16 {buf : List UInt8} {i : Nat} (h : i + 2 ≤ buf.length) :
    readAt count16 buf i = .ok (peek16 buf i).toNat := by
  rw [readAt, drop_eq_peek16_append h]
  simp only [count16, bind_apply, u16_append, Option.bind_some, pure_apply]

/-! ## CRC.indication -/

structure ScfCrcPdu where
  handle : UInt32
  rnti : UInt16
  harqId : UInt8
  tbCrcStatus : UInt8
  numCb : UInt16
  deriving DecidableEq, Repr

def scfCrcPdu : Parser ScfCrcPdu := do
  let handle ← u32
  let rnti ← u16
  let harqId ← u8
  let tbCrcStatus ← u8
  let numCb ← u16
  pure ⟨handle, rnti, harqId, tbCrcStatus, numCb⟩

/-- The measurement fields behind the code block statuses; the timing advance is read but not used. -/
def scfCrcEnd : Parser CrcMeasurements := do
  let ulCqi ← u8
  let _ta ← u16
  let rssi ← u16
  pure ⟨ulCqi, none, rssi, 0⟩

/-- The cursor behind the measurements at `q`; they are left out when they are cut off. -/
def crcMeasurements (buf : List UInt8) (q : Nat) :
    Except ReadFault (Nat × Option CrcMeasurements) :=
  if q + 5 ≤ buf.length then do
    let measurements ← readAt scfCrcEnd buf q
    pure (q + 5, some measurements)
  else pure (q, none)

def crcTurn (buf : List UInt8) (sp : SlotPoint) (p : Nat) : Except ReadFault (Turn Nat Effect) :=
  if buf.length < p + 10 then pure (.exit p) else do
    let hdr ← readAt scfCrcPdu buf p
    let ok := hdr.tbCrcStatus == 0
    -- the code block statuses are skipped, even past the end of the message
    let (q, measurements) ← crcMeasurements buf (p + 10 + hdr.numCb.toNat)
    pure (.next q [
      .notify (.onCrcIndication sp ⟨hdr.handle, hdr.rnti, hdr.harqId, ok, measurements⟩),
      .fetchAdd .crcTotal 1,
      .fetchAdd (if ok then .crcOk else .crcFail) 1,
      .log .crcDispatch (.crcIndication sp.sfn sp.slot hdr.rnti hdr.harqId ok)])

def dispatchCrcIndication (buf : List UInt8) (numerology : Nat) : Except ReadFault (List Effect) :=
  dispatchPdus count16 2 buf numerology id (crcTurn buf)

/-! ## RX_DATA.indication -/

structure ScfRxDataPdu where
  handle : UInt32
  rnti : UInt16
  harqId : UInt8
  pduLen : UInt32
  deriving DecidableEq, Repr

/-- The channel quality, timing advance and RSSI that end the record are skipped. -/
def scfRxDataPdu : Parser ScfRxDataPdu := do
  let handle ← u32
  let rnti ← u16
  let harqId ← u8
  let pduLen ← u32
  let _skipped ← bytes 5
  pure ⟨handle, rnti, harqId, pduLen⟩

/-- The cursor into the message and the offset of the next block in the data buffer. -/
structure RxDataCursor where
  p : Nat
  dataOffset : Nat

/-- `hasData` says that `data_buf` is not null.  Offsets are `size_t`, so their sum wraps. -/
def rxDataTurn (buf : List UInt8) (hasData : Bool) (dataLen : Nat) (sp : SlotPoint)
    (c : RxDataCursor) : Except ReadFault (Turn RxDataCursor Effect) :=
  if buf.length < c.p + 16 then pure (.exit c) else do
    let hdr ← readAt scfRxDataPdu buf c.p
    let pduLen := hdr.pduLen.toNat
    let dataEnd := (c.dataOffset + pduLen) % 2 ^ 64
    -- a block that does not fit is delivered empty and leaves the offset where it is
    let (transportBlock, dataOffset) :=
      if hasData ∧ dataEnd ≤ dataLen then (some ⟨c.dataOffset, pduLen⟩, dataEnd)
      else (none, c.dataOffset)
    pure (.next ⟨c.p + 16, dataOffset⟩ [
      .notify (.onRxDataIndication sp ⟨hdr.handle, hdr.rnti, hdr.harqId, transportBlock⟩),
      .fetchAdd .rxDataPdus 1,
      .fetchAdd .rxDataBytes pduLen])

def dispatchRxDataIndication (buf : List UInt8) (hasData : Bool) (dataLen numerology : Nat) :
    Except ReadFault (List Effect) :=
  dispatchPdus count16 2 buf numerology (fun p ↦ ⟨p, 0⟩) (rxDataTurn buf hasData dataLen)

/-! ## RACH.indication -/

structure ScfRachPdu where
  symbolIndex : UInt8
  slotIndex : UInt8
  freqIndex : UInt8
  avgRssi : UInt8
  avgSnr : UInt8
  numPreamble : UInt8
  deriving DecidableEq, Repr

/-- The physical cell id that starts the record is skipped. -/
def scfRachPdu : Parser ScfRachPdu := do
  let _physCellId ← bytes 2
  let symbolIndex ← u8
  let slotIndex ← u8
  let freqIndex ← u8
  let avgRssi ← u8
  let avgSnr ← u8
  let numPreamble ← u8
  pure ⟨symbolIndex, slotIndex, freqIndex, avgRssi, avgSnr, numPreamble⟩

/-- The timing advance is read but not converted, and the layout has no SNR. -/
def scfRachPreamble : Parser RachPreamble := do
  let preambleIndex ← u8
  let _ta ← u16
  let pwr ← u32
  pure ⟨preambleIndex, none, pwr, 0⟩

def rachPreambleTurn (buf : List UInt8) (p : Nat) : Except ReadFault (Turn Nat RachPreamble) :=
  if buf.length < p + 7 then pure (.exit p) else do
    let prmb ← readAt scfRachPreamble buf p
    pure (.next (p + 7) [prmb])

def rachTurn (ocudu : Ocudu) (buf : List UInt8) (sp : SlotPoint) (p : Nat) :
    Except ReadFault (Turn Nat Effect) :=
  if buf.length < p + 8 then pure (.exit p) else do
    let hdr ← readAt scfRachPdu buf p
    let (q, preambles) ← loop (rachPreambleTurn buf) hdr.numPreamble.toNat (p + 8)
    pure (.next q [
      .notify (.onRachIndication sp
        ⟨hdr.symbolIndex, hdr.slotIndex, hdr.freqIndex, hdr.avgRssi, hdr.avgSnr,
          ocudu.pushPreambles preambles⟩),
      .fetchAdd .rachTotal 1])

def dispatchRachIndication (ocudu : Ocudu) (buf : List UInt8) (numerology : Nat) :
    Except ReadFault (List Effect) :=
  dispatchPdus count8 1 buf numerology id (rachTurn ocudu buf)

/-! ## SRS.indication -/

/-- `scf_srs_ind_pdu_start`. -/
structure ScfSrsIndPduStart where
  handle : UInt32
  rnti : UInt16
  timingAdvance : UInt16
  numSymbols : UInt8
  wideBandSnr : UInt8
  numReportedSymbols : UInt8
  deriving DecidableEq, Repr

def scfSrsIndPduStart : Parser ScfSrsIndPduStart := do
  let handle ← u32
  let rnti ← u16
  let timingAdvance ← u16
  let numSymbols ← u8
  let wideBandSnr ← u8
  let numReportedSymbols ← u8
  pure ⟨handle, rnti, timingAdvance, numSymbols, wideBandSnr, numReportedSymbols⟩

/-- Skip the report of one symbol; a report that is cut off moves the cursor to the end. -/
def srsReportTurn (buf : List UInt8) (p : Nat) : Except ReadFault (Turn Nat Effect) :=
  if buf.length < p + 2 then pure (.exit buf.length) else do
    let numRbs ← readAt u16 buf p
    let q := p + 2 + numRbs.toNat
    if buf.length < q then pure (.exit buf.length) else pure (.next q [])

def srsTurn (ocudu : Ocudu) (buf : List UInt8) (sp : SlotPoint) (p : Nat) :
    Except ReadFault (Turn Nat Effect) :=
  if buf.length < p + 11 then pure (.exit p) else do
    let hdr ← readAt scfSrsIndPduStart buf p
    let (q, _) ← loop (srsReportTurn buf) hdr.numReportedSymbols.toNat (p + 11)
    pure (.next q [
      .notify (.onSrsIndication sp
        ⟨hdr.handle, hdr.rnti, decodeTimingAdvance ocudu hdr.timingAdvance sp.numerology⟩),
      .fetchAdd .srsTotal 1])

def dispatchSrsIndication (ocudu : Ocudu) (buf : List UInt8) (numerology : Nat) :
    Except ReadFault (List Effect) :=
  dispatchPdus count8 1 buf numerology id (srsTurn ocudu buf)

end AerialBridge
