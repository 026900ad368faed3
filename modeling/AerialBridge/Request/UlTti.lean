import AerialBridge.Request.UlPdus

/-!
# UL_TTI.request

The loop of the uplink serialiser.  The header in front of the PDUs is kept up to date while they
are written: it counts the PDUs, the PUSCH and the PUCCH PDUs, and notes whether there is a PRACH.
-/

namespace AerialBridge

open Bytes Bytes.Parser

def scfMsgIdUlTtiRequest : UInt16 := 0x81

structure UlTtiState where
  buf : Mem
  pduOffset : Nat
  effects : List Effect

def puschLogLine (slot : SlotPoint) (pusch : UlPuschPdu) : LogLine :=
  .ulSerialize "PUSCH" slot.sfn slot.slot pusch.rnti pusch.numLayers pusch.vrbs.start
    pusch.vrbs.length pusch.symbols.start pusch.symbols.length
    (pusch.puschData.elim 0 fun data ↦ data.harqProcessId.toUInt32)
    (pusch.puschUci.elim 0 fun uci ↦ uci.harqAckBit) 0
    (pusch.puschUci.elim 0 fun uci ↦ uci.csiPart1Bit)

/-- The format number and the HARQ, SR and CSI part 1 bits that are logged. -/
def UlPucchFormat.logged : UlPucchFormat → UInt8 × UInt32 × UInt8 × UInt32
  | .format0 f0 => (0, f0.bitLenHarq, flagByte f0.srPresent, 0)
  | .format1 f1 => (1, f1.bitLenHarq, flagByte f1.srPresent, 0)
  | .format2 f2 => (2, f2.bitLenHarq, f2.srBitLen, f2.csiPart1BitLength)
  | .format3 f3 => (3, f3.bitLenHarq, f3.srBitLen, f3.csiPart1BitLength)
  | .format4 f4 => (4, f4.bitLenHarq, f4.srBitLen, f4.csiPart1BitLength)

def pucchLogLine (slot : SlotPoint) (pucch : UlPucchPdu) : LogLine :=
  let (formatType, harqBits, srBits, csi1Bits) := pucch.format.logged
  .ulSerialize "PUCCH" slot.sfn slot.slot pucch.rnti formatType pucch.prbs.start pucch.prbs.length
    pucch.symbols.start pucch.symbols.length harqBits harqBits srBits csi1Bits

/-- `pdu_offset += pdu_size; req.num_pdus++;` for a PDU that was written. -/
def UlTtiState.advance (s : UlTtiState) (buf : Mem) (pduSize : Nat) (effects : List Effect) :
    UlTtiState :=
  if pduSize > 0 then ⟨buf.inc 12, s.pduOffset + pduSize, s.effects ++ effects⟩
  else ⟨buf, s.pduOffset, s.effects ++ effects⟩

/-- One turn of the loop over `msg.pdus`: `rach_present` stands at byte 13, `num_ulsch` at 14 and
`num_ulcch` at 15. -/
def ulTtiTurn (slot : SlotPoint) (s : UlTtiState) : UlTtiPdu → UlTtiState
  | .prach prach =>
      let (buf, pduSize) := serializePrachPdu prach s.buf s.pduOffset
      s.advance (buf.store 13 [1]) pduSize [.fetchAdd .ulPrachPdus 1]
  | .pusch pusch =>
      let (buf, pduSize) := serializePuschPdu pusch s.buf s.pduOffset
      s.advance (buf.inc 14) pduSize
        [.fetchAdd .ulPuschPdus 1, .log .ulPduSerialize (puschLogLine slot pusch)]
  | .pucch pucch =>
      let (buf, pduSize) := serializePucchPdu pucch s.buf s.pduOffset
      s.advance (buf.inc 15) pduSize
        [.fetchAdd .ulPucchPdus 1, .log .ulPduSerialize (pucchLogLine slot pucch)]
  | .srs srs =>
      let (buf, pduSize) := serializeSrsPdu srs s.buf s.pduOffset
      s.advance buf pduSize [.fetchAdd .ulSrsPdus 1]
  | .other => s.advance s.buf 0 []

def serializeUlTtiRequest (msg : UlTtiRequest) (buf : Mem) (bufLen : Nat) (cellId : UInt8) :
    SerializeResult :=
  if bufLen < 17 then
    ⟨-1, buf, []⟩
  else
    let (sfn, slot) := slotToSfnSlot msg.slot
    let req := ((⟨buf, 8⟩ : Cursor).put16 sfn).put16 slot
    let req := ((((req.put8 0).put8 0).put8 0).put8 0).put8 0
    let s := msg.pdus.foldl (ulTtiTurn msg.slot) ⟨req.mem, 17, []⟩
    ⟨staticCastInt s.pduOffset,
      writeHeaders s.buf cellId scfMsgIdUlTtiRequest (UInt32.ofNat (s.pduOffset - 8)), s.effects⟩

/-! ## The body as bytes -/

inductive ScfUlPdu
  | prach (pdu : ScfPrachPdu)
  | pusch (pdu : ScfPuschPdu)
  | pucch (pdu : ScfPucchPdu)
  | srs (pdu : ScfSrsPdu)
  deriving DecidableEq, Repr

def UlTtiPdu.toScf : UlTtiPdu → Option ScfUlPdu
  | .prach pdu => some (.prach pdu.toScf)
  | .pusch pdu => some (.pusch pdu.toScf)
  | .pucch pdu => some (.pucch pdu.toScf)
  | .srs pdu => some (.srs pdu.toScf)
  | .other => none

def ScfUlPdu.pduType : ScfUlPdu → UInt16
  | .prach _ => scfPduTypePrach
  | .pusch _ => scfPduTypePusch
  | .pucch _ => scfPduTypePucch
  | .srs _ => scfPduTypeSrs

def ScfUlPdu.pduConfig : ScfUlPdu → List UInt8
  | .prach w => w.encode
  | .pusch w => w.encode
  | .pucch w => w.encode
  | .srs w => w.encode

def ScfUlPdu.encode (w : ScfUlPdu) : List UInt8 := encodePdu w.pduType w.pduConfig

/-- The header fields that summarise the PDUs. -/
structure UlSummary where
  numPdus : UInt8
  rachPresent : UInt8
  numUlsch : UInt8
  numUlcch : UInt8
  deriving DecidableEq, Repr

/-- The header with one more PDU. -/
def UlSummary.add (c : UlSummary) : ScfUlPdu → UlSummary
  | .prach _ => ⟨c.numPdus + 1, 1, c.numUlsch, c.numUlcch⟩
  | .pusch _ => ⟨c.numPdus + 1, c.rachPresent, c.numUlsch + 1, c.numUlcch⟩
  | .pucch _ => ⟨c.numPdus + 1, c.rachPresent, c.numUlsch, c.numUlcch + 1⟩
  | .srs _ => ⟨c.numPdus + 1, c.rachPresent, c.numUlsch, c.numUlcch⟩

def ulSummary (pdus : List ScfUlPdu) : UlSummary := pdus.foldl UlSummary.add ⟨0, 0, 0, 0⟩

def ulTtiBody (slot : SlotPoint) (c : UlSummary) (pduBytes : List UInt8) : List UInt8 :=
  le16 slot.sfn ++ (le16 slot.slot ++ ([c.numPdus] ++ ([c.rachPresent] ++ ([c.numUlsch] ++
    ([c.numUlcch] ++ ([0] ++ pduBytes))))))

/-! ## Updating the header -/

section Header

variable (buf : Mem) (slot : SlotPoint) (c : UlSummary) (pduBytes : List UInt8)

theorem ulTtiBody_length : (ulTtiBody slot c pduBytes).length = 9 + pduBytes.length := by
  simp only [ulTtiBody, List.length_append, le16_length, List.length_singleton]
  omega

theorem ulTtiBody_append (bs : List UInt8) :
    (buf.store 8 (ulTtiBody slot c pduBytes)).store (17 + pduBytes.length) bs =
      buf.store 8 (ulTtiBody slot c (pduBytes ++ bs)) := by
  have happ := buf.store_store 8 (ulTtiBody slot c pduBytes) bs
  rw [ulTtiBody_length, show 8 + (9 + pduBytes.length) = 17 + pduBytes.length by omega] at happ
  rw [happ]
  simp only [ulTtiBody, List.append_assoc]

-- each update is a store inside the header, whose bytes are known
theorem ulTtiBody_inc_numPdus :
    (buf.store 8 (ulTtiBody slot c pduBytes)).inc 12 =
      buf.store 8 (ulTtiBody slot { c with numPdus := c.numPdus + 1 } pduBytes) :=
  buf.inc_store 8 (le16 slot.sfn ++ le16 slot.slot) c.numPdus
    ([c.rachPresent, c.numUlsch, c.numUlcch, 0] ++ pduBytes)

theorem ulTtiBody_store_rachPresent (b : UInt8) :
    (buf.store 8 (ulTtiBody slot c pduBytes)).store 13 [b] =
      buf.store 8 (ulTtiBody slot { c with rachPresent := b } pduBytes) :=
  @Mem.store_patch buf 8 (le16 slot.sfn ++ le16 slot.slot ++ [c.numPdus]) [c.rachPresent] [b]
    ([c.numUlsch, c.numUlcch, 0] ++ pduBytes) rfl

theorem ulTtiBody_inc_numUlsch :
    (buf.store 8 (ulTtiBody slot c pduBytes)).inc 14 =
      buf.store 8 (ulTtiBody slot { c with numUlsch := c.numUlsch + 1 } pduBytes) :=
  buf.inc_store 8 (le16 slot.sfn ++ le16 slot.slot ++ [c.numPdus, c.rachPresent]) c.numUlsch
    ([c.numUlcch, 0] ++ pduBytes)

theorem ulTtiBody_inc_numUlcch :
    (buf.store 8 (ulTtiBody slot c pduBytes)).inc 15 =
      buf.store 8 (ulTtiBody slot { c with numUlcch := c.numUlcch + 1 } pduBytes) :=
  buf.inc_store 8 (le16 slot.sfn ++ le16 slot.slot ++ [c.numPdus, c.rachPresent, c.numUlsch])
    c.numUlcch ([0] ++ pduBytes)

end Header

/-! ## What the loop leaves -/

/-- A state of the loop: the PDUs written so far stand behind the header that summarises them. -/
def UlTtiState.Wrote (buf : Mem) (slot : SlotPoint) (s : UlTtiState) (pdus : List ScfUlPdu) : Prop :=
  s.buf = buf.store 8 (ulTtiBody slot (ulSummary pdus) (pdus.flatMap ScfUlPdu.encode)) ∧
    s.pduOffset = 17 + (pdus.flatMap ScfUlPdu.encode).length

theorem ulSummary_concat (pdus : List ScfUlPdu) (w : ScfUlPdu) :
    ulSummary (pdus ++ [w]) = (ulSummary pdus).add w := by
  rw [ulSummary, List.foldl_append]
  rfl

-- a turn that appends a PDU and updates its counter leaves the header counting it once more
theorem UlTtiState.Wrote.advance {buf : Mem} {slot : SlotPoint} {s : UlTtiState}
    {pdus : List ScfUlPdu} (h : s.Wrote buf slot pdus) {w : ScfUlPdu} {m : Mem} {c : UlSummary}
    (hm : m = buf.store 8 (ulTtiBody slot c (pdus.flatMap ScfUlPdu.encode ++ w.encode)))
    (hc : (ulSummary pdus).add w = { c with numPdus := c.numPdus + 1 }) (es : List Effect) :
    (s.advance m (4 + w.pduConfig.length) es).Wrote buf slot (pdus ++ [w]) := by
  have hpos : 4 + w.pduConfig.length > 0 := by omega
  rw [UlTtiState.advance, if_pos hpos]
  constructor
  · show m.inc 12 = _
    rw [hm, ulTtiBody_inc_numPdus, ulSummary_concat, hc, List.flatMap_append,
      List.flatMap_singleton]
  · show s.pduOffset + (4 + w.pduConfig.length) = _
    rw [h.2, List.flatMap_append, List.flatMap_singleton, List.length_append, ScfUlPdu.encode,
      encodePdu_length]
    omega

theorem ulTtiTurn_wrote {buf : Mem} {slot : SlotPoint} {s : UlTtiState} {pdus : List ScfUlPdu}
    (h : s.Wrote buf slot pdus) (pdu : UlTtiPdu) :
    (ulTtiTurn slot s pdu).Wrote buf slot (pdus ++ pdu.toScf.toList) := by
  -- the PDU is written behind the others before the header is updated
  have happ : ∀ bs, s.buf.store s.pduOffset bs =
      buf.store 8 (ulTtiBody slot (ulSummary pdus) (pdus.flatMap ScfUlPdu.encode ++ bs)) := by
    intro bs
    rw [h.1, h.2, ulTtiBody_append]
  cases pdu with
  | prach pdu =>
      simp only [ulTtiTurn, serializePrachPdu_eq, happ, ulTtiBody_store_rachPresent]
      exact h.advance (w := .prach pdu.toScf) rfl rfl _
  | pusch pdu =>
      simp only [ulTtiTurn, serializePuschPdu_eq, happ, ulTtiBody_inc_numUlsch]
      exact h.advance (w := .pusch pdu.toScf) rfl rfl _
  | pucch pdu =>
      simp only [ulTtiTurn, serializePucchPdu_eq, happ, ulTtiBody_inc_numUlcch]
      exact h.advance (w := .pucch pdu.toScf) rfl rfl _
  | srs pdu =>
      simp only [ulTtiTurn, serializeSrsPdu_eq, happ]
      exact h.advance (w := .srs pdu.toScf) rfl rfl _
  | other =>
      show s.Wrote buf slot (pdus ++ [])
      rw [List.append_nil]
      exact h

theorem foldl_ulTtiTurn {buf : Mem} {slot : SlotPoint} (pdus : List UlTtiPdu) {s : UlTtiState}
    {done : List ScfUlPdu} (h : s.Wrote buf slot done) :
    (pdus.foldl (ulTtiTurn slot) s).Wrote buf slot (done ++ pdus.filterMap UlTtiPdu.toScf) := by
  induction pdus generalizing s done with
  | nil =>
      rw [List.filterMap_nil, List.append_nil]
      exact h
  | cons pdu pdus ih =>
      have hrest := ih (ulTtiTurn_wrote h pdu)
      rw [List.append_assoc] at hrest
      rw [List.foldl_cons, List.filterMap_cons]
      cases hw : pdu.toScf with
      -- a PDU of another kind leaves no trace in the message
      | none => simpa only [hw, Option.toList_none, List.nil_append] using hrest
      | some w => simpa only [hw, Option.toList_some, List.singleton_append] using hrest

theorem serializeUlTtiRequest_eq (msg : UlTtiRequest) (buf : Mem) {bufLen : Nat} (cellId : UInt8)
    (h : 17 ≤ bufLen) :
    let r := serializeUlTtiRequest msg buf bufLen cellId
    let pdus := msg.pdus.filterMap UlTtiPdu.toScf
    let n := 9 + (pdus.flatMap ScfUlPdu.encode).length
    r.ret = staticCastInt (8 + n) ∧
      r.buf = buf.store 0 ((⟨1, cellId, scfMsgIdUlTtiRequest, UInt32.ofNat n⟩ : ScfHeader).encode ++
        ulTtiBody msg.slot (ulSummary pdus) (pdus.flatMap ScfUlPdu.encode)) := by
  have hreq : ((((((((⟨buf, 8⟩ : Cursor).put16 msg.slot.sfn).put16 msg.slot.slot).put8 0).put8
      0).put8 0).put8 0).put8 0).mem = buf.store 8 (ulTtiBody msg.slot ⟨0, 0, 0, 0⟩ []) := by
    simp only [Cursor.put16, Cursor.put8, Cursor.put_put, List.append_assoc]
    rfl
  have hstart : (⟨buf.store 8 (ulTtiBody msg.slot ⟨0, 0, 0, 0⟩ []), 17, []⟩ :
      UlTtiState).Wrote buf msg.slot [] := ⟨rfl, rfl⟩
  obtain ⟨hbuf, hoff⟩ := foldl_ulTtiTurn msg.pdus hstart
  rw [List.nil_append] at hbuf hoff
  intro r pdus n
  have htotal : 17 + (pdus.flatMap ScfUlPdu.encode).length = 8 + n := by omega
  simp only [r, serializeUlTtiRequest, if_neg (Nat.not_lt.mpr h), slotToSfnSlot, hreq, hbuf, hoff]
  rw [htotal, Nat.add_sub_cancel_left, writeHeaders_store]
  exact ⟨rfl, rfl⟩

end AerialBridge
