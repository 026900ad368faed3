import AerialBridge.Indication.Decoders

/-!
# The UCI decoder

`dispatch_uci_indication`: three PDU kinds, each a fixed header and the sections its bitmap flags.
The cursor `q` of a PDU passes a section by the size the section announces, whether or not the
section is delivered; `pEnd` is the end the PDU header announces.
-/

namespace AerialBridge

open Bytes Bytes.Parser

structure ScfUciPdu where
  pduType : UInt16
  pduSize : UInt16
  deriving DecidableEq, Repr

def scfUciPdu : Parser ScfUciPdu := do
  let pduType ← u16
  let pduSize ← u16
  pure ⟨pduType, pduSize⟩

structure ScfUciPuschPdu where
  pduBitmap : UInt8
  handle : UInt32
  rnti : UInt16
  ulCqi : UInt8
  timingAdvance : UInt16
  rssi : UInt16
  deriving DecidableEq, Repr

def scfUciPuschPdu : Parser ScfUciPuschPdu := do
  let pduBitmap ← u8
  let handle ← u32
  let rnti ← u16
  let ulCqi ← u8
  let timingAdvance ← u16
  let rssi ← u16
  pure ⟨pduBitmap, handle, rnti, ulCqi, timingAdvance, rssi⟩

structure ScfUciPucchPdu where
  pduBitmap : UInt8
  handle : UInt32
  rnti : UInt16
  pucchFormat : UInt8
  ulCqi : UInt8
  timingAdvance : UInt16
  rssi : UInt16
  deriving DecidableEq, Repr

def scfUciPucchPdu : Parser ScfUciPucchPdu := do
  let pduBitmap ← u8
  let handle ← u32
  let rnti ← u16
  let pucchFormat ← u8
  let ulCqi ← u8
  let timingAdvance ← u16
  let rssi ← u16
  pure ⟨pduBitmap, handle, rnti, pucchFormat, ulCqi, timingAdvance, rssi⟩

/-- `scf_uci_sr_f0_f1`. -/
structure ScfUciSrF0F1 where
  srIndication : UInt8
  srConfidenceLevel : UInt8

def scfUciSrF0F1 : Parser ScfUciSrF0F1 := do
  let srIndication ← u8
  let srConfidenceLevel ← u8
  pure ⟨srIndication, srConfidenceLevel⟩

/-- `scf_uci_harq_f0_f1`. -/
structure ScfUciHarqF0F1 where
  numHarq : UInt8
  harqConfidenceLevel : UInt8

def scfUciHarqF0F1 : Parser ScfUciHarqF0F1 := do
  let numHarq ← u8
  let harqConfidenceLevel ← u8
  pure ⟨numHarq, harqConfidenceLevel⟩

/-- The headers `scf_uci_harq_f2_f3_f4` and `scf_uci_csi_part`, which have the same layout. -/
structure ScfUciPart where
  crc : UInt8
  bitLen : UInt16

def scfUciPart : Parser ScfUciPart := do
  let crc ← u8
  let bitLen ← u16
  pure ⟨crc, bitLen⟩

def decodeDetectionStatus (rawStatus : UInt8) : DetectionStatus :=
  match rawStatus.toNat with
  | 0 => .crcPass
  | 1 => .crcFailure
  | 2 => .dtx
  | 3 => .noDtx
  | _ => .dtxNotChecked

/-- A PDU inside a message, up to the end `pEnd` that its header announces. -/
structure UciFrame where
  buf : List UInt8
  sp : SlotPoint
  hdr : ScfUciPdu
  pEnd : Nat
  pEnd_le : pEnd ≤ buf.length

variable (ocudu : Ocudu) (fr : UciFrame)

/-- Bit `i` of the packed payload at `q`, least significant bit of each byte first. -/
def readPayloadBit (buf : List UInt8) (q i : Nat) : Except ReadFault Bool := do
  let byte ← readAt u8 buf (q + i / 8)
  pure (byte.toNat.testBit (i % 8))

/-- `decode_payload_bits` and `decode_sr_payload_bits`, which differ in the limit and the name that
is logged. -/
def decodePayloadBits (rnti : UInt16) (name : String) (max : Nat) (q bitLen : Nat) :
    Except ReadFault (Option (List Bool) × List Effect) :=
  if max < bitLen then
    pure (none, [.log .always (.droppingPayload name fr.sp.sfn fr.sp.slot rnti bitLen max)])
  else do
    let bits ← (List.range bitLen).mapM (readPayloadBit fr.buf q)
    pure (some bits, [])

/-- `log_malformed_uci_bytes` of the bytes from `q` to the end of the PDU. -/
def logMalformedUciBytes (reason : String) (q : Nat) : Except ReadFault Effect := do
  -- at most 16 bytes are printed; they are read here even if the gate then holds the line back
  let raw ← readAt (bytes (min (fr.pEnd - q) 16)) fr.buf q
  pure (.log .malformedUci (.malformedUci reason fr.sp.sfn fr.sp.slot fr.hdr.pduType
    fr.hdr.pduSize (fr.pEnd - q) raw))

/-- Some sections log the bytes of the PDU when they are dropped for their length. -/
def logDropped {α : Type} (reason : Option String) (q : Nat) (decoded : Option α) :
    Except ReadFault (List Effect) :=
  match decoded, reason with
  | none, some reason => do
      let line ← logMalformedUciBytes fr reason q
      pure [line]
  | _, _ => pure []

/-- A HARQ or CSI section of PUSCH and of PUCCH formats 2, 3 and 4: the new cursor, the section if
it is delivered, and what was logged. -/
def uciPart (rnti : UInt16) (flag : Bool) (name : String) (reason : Option String) (q : Nat) :
    Except ReadFault (Nat × Option UciPayload × List Effect) :=
  if flag ∧ q + 3 ≤ fr.pEnd then do
    let hdr ← readAt scfUciPart fr.buf q
    let bitLen := hdr.bitLen.toNat
    let numBytes := (bitLen + 7) / 8
    if q + 3 + numBytes ≤ fr.pEnd then do
      let (payload, lines) ←
        decodePayloadBits fr rnti name ocudu.maxNofPayloadBits (q + 3) bitLen
      let malformed ← logDropped fr reason q payload
      pure (q + 3 + numBytes, payload.map fun bits ↦ ⟨decodeDetectionStatus hdr.crc, bitLen, bits⟩,
        lines ++ malformed)
    -- the cursor passes a section that leaves the PDU all the same
    else pure (q + 3 + numBytes, none, [])
  else pure (q, none, [])

/-- The SR section of PUCCH formats 2, 3 and 4. -/
def uciSrF234 (rnti : UInt16) (flag : Bool) (q : Nat) :
    Except ReadFault (Nat × Option (List Bool) × List Effect) :=
  if flag ∧ q + 2 ≤ fr.pEnd then do
    let srBitLen ← readAt u16 fr.buf q
    let bitLen := srBitLen.toNat
    let numBytes := (bitLen + 7) / 8
    if q + 2 + numBytes ≤ fr.pEnd then do
      let (payload, lines) ←
        decodePayloadBits fr rnti "UCI SR" ocudu.maxSrPayloadSizeBits (q + 2) bitLen
      let malformed ← logDropped fr (some "PUCCH234-SR") q payload
      pure (q + 2 + numBytes, payload, lines ++ malformed)
    else pure (q + 2 + numBytes, none, [])
  else pure (q, none, [])

/-- The SR section of PUCCH formats 0 and 1. -/
def uciSrF01 (flag : Bool) (q : Nat) : Except ReadFault (Nat × Option Bool) :=
  if flag ∧ q + 2 ≤ fr.pEnd then do
    let sr ← readAt scfUciSrF0F1 fr.buf q
    pure (q + 2, some (sr.srIndication != 0))
  else pure (q, none)

/-- The HARQ section of PUCCH formats 0 and 1, one byte for each value. -/
def uciHarqF01 (rnti : UInt16) (flag : Bool) (q : Nat) :
    Except ReadFault (Nat × Option (List UInt8) × List Effect) :=
  if flag ∧ q + 2 ≤ fr.pEnd then do
    let hdr ← readAt scfUciHarqF0F1 fr.buf q
    let numHarq := hdr.numHarq.toNat
    if q + 2 + numHarq ≤ fr.pEnd then
      if numHarq ≤ ocudu.maxNumHarq then do
        let values ← readAt (bytes numHarq) fr.buf (q + 2)
        pure (q + 2 + numHarq, some values, [])
      -- too many values: the bytes of the PDU are logged first, then the drop
      else do
        let line ← logMalformedUciBytes fr "PUCCH01-HARQ" q
        pure (q + 2 + numHarq, none, [line, .log .always (.droppingHarqF0F1 fr.sp.sfn fr.sp.slot
          rnti hdr.numHarq ocudu.maxNumHarq)])
    else pure (q + 2 + numHarq, none, [])
  else pure (q, none, [])

/-- `numeric_limits<int16_t>::min()`: L1 reports no SINR. -/
def noUlSinrMetric : Int := -32768

/-- `numeric_limits<uint16_t>::max()`: L1 reports no RSRP. -/
def noRsrp : UInt16 := 0xFFFF

/-- `pdu_type` 0, whose header is at `q`. -/
def uciPusch (q : Nat) : Except ReadFault (List Effect) :=
  if fr.pEnd < q + 12 then pure [] else do
    let hdr ← readAt scfUciPuschPdu fr.buf q
    let ta := decodeTimingAdvance ocudu hdr.timingAdvance fr.sp.numerology
    let flag := fun bit ↦ hdr.pduBitmap.toNat.testBit bit
    let (q, harq, harqLines) ← uciPart ocudu fr hdr.rnti (flag 1) "UCI HARQ" none (q + 12)
    let (q, csi1, csi1Lines) ← uciPart ocudu fr hdr.rnti (flag 2) "UCI CSI-Part1" none q
    let (_, csi2, csi2Lines) ← uciPart ocudu fr hdr.rnti (flag 3) "UCI CSI-Part2" none q
    pure (harqLines ++ csi1Lines ++ csi2Lines ++ [
      .notify (.onUciIndication fr.sp (.pusch ⟨hdr.handle, hdr.rnti, noUlSinrMetric, ta, hdr.rssi,
        noRsrp, harq, csi1, csi2⟩)),
      .fetchAdd .uciTotal 1,
      .fetchAdd .uciPusch 1,
      .log .uciDispatch
        (.uciPusch fr.sp.sfn fr.sp.slot hdr.rnti harq.isSome csi1.isSome csi2.isSome)])

def toPucchFormat01 (pucchFormat : UInt8) : PucchFormat01 :=
  if pucchFormat = 0 then .format0 else .format1

/-- `pdu_type` 1. -/
def uciPucchFormat01 (q : Nat) : Except ReadFault (List Effect) :=
  if fr.pEnd < q + 13 then pure [] else do
    let hdr ← readAt scfUciPucchPdu fr.buf q
    let ta := decodeTimingAdvance ocudu hdr.timingAdvance fr.sp.numerology
    let flag := fun bit ↦ hdr.pduBitmap.toNat.testBit bit
    let (q, sr) ← uciSrF01 fr (flag 0) (q + 13)
    let (_, harq, harqLines) ← uciHarqF01 ocudu fr hdr.rnti (flag 1) q
    pure (harqLines ++ [
      .notify (.onUciIndication fr.sp (.pucchFormat01 ⟨hdr.handle, hdr.rnti,
        toPucchFormat01 hdr.pucchFormat, noUlSinrMetric, ta, hdr.rssi, noRsrp, sr, harq⟩)),
      .fetchAdd .uciTotal 1,
      .fetchAdd .uciPucch01 1,
      .log .uciDispatch (.uciPucch01 fr.sp.sfn fr.sp.slot hdr.pucchFormat hdr.rnti
        (sr.getD false) ((harq.getD []).length))])

def toPucchFormat234 (pucchFormat : UInt8) : PucchFormat234 :=
  match pucchFormat.toNat with
  | 0 => .format2
  | 1 => .format3
  | _ => .format4

/-- `pdu_type` 2. -/
def uciPucchFormat234 (q : Nat) : Except ReadFault (List Effect) :=
  if fr.pEnd < q + 13 then pure [] else do
    let hdr ← readAt scfUciPucchPdu fr.buf q
    let ta := decodeTimingAdvance ocudu hdr.timingAdvance fr.sp.numerology
    let flag := fun bit ↦ hdr.pduBitmap.toNat.testBit bit
    let (q, sr, srLines) ← uciSrF234 ocudu fr hdr.rnti (flag 0) (q + 13)
    let (q, harq, harqLines) ←
      uciPart ocudu fr hdr.rnti (flag 1) "UCI HARQ" (some "PUCCH234-HARQ") q
    let (q, csi1, csi1Lines) ← uciPart ocudu fr hdr.rnti (flag 2) "UCI CSI-Part1" none q
    let (_, csi2, csi2Lines) ← uciPart ocudu fr hdr.rnti (flag 3) "UCI CSI-Part2" none q
    pure (srLines ++ harqLines ++ csi1Lines ++ csi2Lines ++ [
      .notify (.onUciIndication fr.sp (.pucchFormat234 ⟨hdr.handle, hdr.rnti,
        toPucchFormat234 hdr.pucchFormat, noUlSinrMetric, ta, hdr.rssi, noRsrp,
        sr, harq, csi1, csi2⟩)),
      .fetchAdd .uciTotal 1,
      .fetchAdd .uciPucch234 1,
      .log .uciDispatch (.uciPucch234 fr.sp.sfn fr.sp.slot hdr.pucchFormat hdr.rnti
        ((sr.getD []).length) harq.isSome csi1.isSome csi2.isSome)])

/-- The `switch` over `pdu_type`; a PDU of another type is passed over. -/
def uciPdu (q : Nat) : Except ReadFault (List Effect) :=
  match fr.hdr.pduType.toNat with
  | 0 => uciPusch ocudu fr q
  | 1 => uciPucchFormat01 ocudu fr q
  | 2 => uciPucchFormat234 ocudu fr q
  | _ => pure []

def uciTurn (buf : List UInt8) (sp : SlotPoint) (p : Nat) : Except ReadFault (Turn Nat Effect) :=
  if buf.length < p + 4 then pure (.exit p) else do
    let hdr ← readAt scfUciPdu buf p
    -- a size below that of its own header, or one that leaves the message, ends the walk
    if h : hdr.pduSize < 4 ∨ buf.length < p + hdr.pduSize.toNat then pure (.exit p) else do
      let fr : UciFrame := ⟨buf, sp, hdr, p + hdr.pduSize.toNat, by omega⟩
      let effects ← uciPdu ocudu fr (p + 4)
      -- wherever the sections ended, the next PDU starts where this one's header says
      pure (.next fr.pEnd effects)

def dispatchUciIndication (buf : List UInt8) (numerology : Nat) : Except ReadFault (List Effect) :=
  dispatchPdus count16 2 buf numerology id (uciTurn ocudu buf)

end AerialBridge
