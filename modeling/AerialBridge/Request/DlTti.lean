import AerialBridge.Request.DlPdus

/-!
# DL_TTI.request and UL_DCI.request

The loops of the two downlink serialisers.  DL_TTI counts the PDUs it writes in the header, numbers
the PDSCH PDUs and passes over the kinds it does not serialise; UL_DCI writes one PDCCH PDU for each
DCI.
-/

namespace AerialBridge

open Bytes Bytes.Parser

def scfMsgIdDlTtiRequest : UInt16 := 0x80

def scfMsgIdUlDciRequest : UInt16 := 0x83

structure DlTtiState where
  buf : Mem
  pduOffset : Nat
  nextPdschPduIndex : UInt16
  effects : List Effect

/-- The debug line of `serialize_pdsch_pdu`.  It reads `cws[0]` unchecked: `none` stands for the
read from an empty vector. -/
def pdschDbgLine (forceTable0 : Bool) (pdsch : DlPdschPdu) (pduIndex : UInt16) (pduSize : Nat) :
    LogLine :=
  .pdschPdu pdsch.rnti pduIndex pdsch.bwp.start pdsch.bwp.length pdsch.scs
    (UInt8.ofNat pdsch.cws.length)
    (pdsch.cws.head?.map fun cw ↦
      let w := cw.toScf forceTable0
      (w.tbSize, w.qamModOrder, w.mcsIndex, w.mcsTable, w.targetCodeRate))
    pdsch.vrbs.start.toUInt16 pdsch.vrbs.length.toUInt16 pdsch.symbols.start pdsch.symbols.length
    pdsch.numLayers pduSize

/-- `pdu_offset += pdu_size; req.num_pdus++;` for a PDU that was written. -/
def DlTtiState.advance (s : DlTtiState) (buf : Mem) (pduSize : Nat) (nextPdschPduIndex : UInt16)
    (effects : List Effect) : DlTtiState :=
  if pduSize > 0 then
    ⟨buf.inc 12, s.pduOffset + pduSize, nextPdschPduIndex, s.effects ++ effects⟩
  else
    ⟨buf, s.pduOffset, nextPdschPduIndex, s.effects ++ effects⟩

/-- One turn of the loop over `msg.pdus`. -/
def dlTtiTurn (forceTable0 : Bool) (s : DlTtiState) : DlTtiPdu → DlTtiState
  | .ssb ssb =>
      let (buf, pduSize) := serializeSsbPdu ssb s.buf s.pduOffset
      s.advance buf pduSize s.nextPdschPduIndex []
  | .pdcch pdcch =>
      let (buf, pduSize) := serializePdcchPdu pdcch s.buf s.pduOffset
      s.advance buf pduSize s.nextPdschPduIndex []
  | .pdsch pdsch =>
      let (buf, pduSize) :=
        serializePdschPdu forceTable0 pdsch s.buf s.pduOffset s.nextPdschPduIndex
      s.advance buf pduSize (s.nextPdschPduIndex + 1)
        [.log .pdschDbg (pdschDbgLine forceTable0 pdsch s.nextPdschPduIndex pduSize)]
  | .csiRs => s.advance s.buf 0 s.nextPdschPduIndex []
  | .prs => s.advance s.buf 0 s.nextPdschPduIndex []

def serializeDlTtiRequest (forceTable0 : Bool) (msg : DlTtiRequest) (buf : Mem) (bufLen : Nat)
    (cellId : UInt8) : SerializeResult :=
  if bufLen < 14 then
    ⟨-1, buf, []⟩
  else
    let (sfn, slot) := slotToSfnSlot msg.slot
    let req := ((((⟨buf, 8⟩ : Cursor).put16 sfn).put16 slot).put8 0).put8 0
    let s := msg.pdus.foldl (dlTtiTurn forceTable0) ⟨req.mem, 14, 0, []⟩
    ⟨staticCastInt s.pduOffset,
      writeHeaders s.buf cellId scfMsgIdDlTtiRequest (UInt32.ofNat (s.pduOffset - 8)), s.effects⟩

/-- One turn of the UL_DCI loop; the PDU type is written a second time. -/
def ulDciTurn (s : Mem × Nat) (pdcch : DlPdcchPdu) : Mem × Nat :=
  let (buf, pduSize) := serializePdcchPdu pdcch s.1 s.2
  (buf.store s.2 (le16 scfPduTypePdcch), s.2 + pduSize)

def serializeUlDciRequest (msg : UlDciRequest) (buf : Mem) (bufLen : Nat) (cellId : UInt8) :
    SerializeResult :=
  if bufLen < 16 then
    ⟨-1, buf, []⟩
  else
    let (sfn, slot) := slotToSfnSlot msg.slot
    let body := (((⟨buf, 8⟩ : Cursor).put16 sfn).put16 slot).put8 (UInt8.ofNat msg.pdus.length)
    let (buf, pduStart) := msg.pdus.foldl ulDciTurn (body.mem, body.next)
    ⟨staticCastInt pduStart,
      writeHeaders buf cellId scfMsgIdUlDciRequest (UInt32.ofNat (pduStart - 8)), []⟩

/-! ## The PDUs as given to their serialisers -/

inductive DlGiven
  | ssb (pdu : DlSsbPdu)
  | pdcch (pdu : DlPdcchPdu)
  | pdsch (pdu : DlPdschPdu) (pduIndex : UInt16)

/-- The PDUs that are serialised, in order, the PDSCH PDUs numbered from `k`. -/
def dlGiven (k : UInt16) : List DlTtiPdu → List DlGiven
  | [] => []
  | .ssb ssb :: pdus => .ssb ssb :: dlGiven k pdus
  | .pdcch pdcch :: pdus => .pdcch pdcch :: dlGiven k pdus
  | .pdsch pdsch :: pdus => .pdsch pdsch k :: dlGiven (k + 1) pdus
  | .csiRs :: pdus => dlGiven k pdus
  | .prs :: pdus => dlGiven k pdus

inductive ScfDlPdu
  | ssb (pdu : ScfSsbPdu)
  | pdcch (pdu : ScfPdcchPdu)
  | pdsch (pdu : ScfPdschPdu)
  deriving DecidableEq, Repr

def DlGiven.toScf (forceTable0 : Bool) : DlGiven → ScfDlPdu
  | .ssb pdu => .ssb pdu.toScf
  | .pdcch pdu => .pdcch pdu.toScf
  | .pdsch pdu pduIndex => .pdsch (pdu.toScf forceTable0 pduIndex)

def ScfDlPdu.pduType : ScfDlPdu → UInt16
  | .ssb _ => scfPduTypeSsb
  | .pdcch _ => scfPduTypePdcch
  | .pdsch _ => scfPduTypePdsch

def ScfDlPdu.pduConfig : ScfDlPdu → List UInt8
  | .ssb w => w.encode
  | .pdcch w => w.encode
  | .pdsch w => w.encode

def ScfDlPdu.encode (w : ScfDlPdu) : List UInt8 := encodePdu w.pduType w.pduConfig

def dlPduBytes (forceTable0 : Bool) (pdus : List DlGiven) : List UInt8 :=
  pdus.flatMap fun pdu ↦ (pdu.toScf forceTable0).encode

/-- The body of a DL_TTI.request behind the two headers. -/
def dlTtiBody (forceTable0 : Bool) (slot : SlotPoint) (pdus : List DlGiven) : List UInt8 :=
  le16 slot.sfn ++ le16 slot.slot ++ [UInt8.ofNat pdus.length] ++
    ([0] ++ dlPduBytes forceTable0 pdus)

def ulDciBody (msg : UlDciRequest) : List UInt8 :=
  le16 msg.slot.sfn ++ (le16 msg.slot.slot ++ ([UInt8.ofNat msg.pdus.length] ++
    msg.pdus.flatMap fun pdcch ↦ encodePdu scfPduTypePdcch pdcch.toScf.encode))

/-! ## What the loops leave -/

/-- A state of the DL_TTI loop: the PDUs written so far stand behind the header that counts them. -/
def DlTtiState.Wrote (forceTable0 : Bool) (buf : Mem) (slot : SlotPoint) (s : DlTtiState)
    (pdus : List DlGiven) : Prop :=
  s.buf = buf.store 8 (dlTtiBody forceTable0 slot pdus) ∧
    s.pduOffset = 14 + (dlPduBytes forceTable0 pdus).length

theorem dlTtiBody_length (forceTable0 : Bool) (slot : SlotPoint) (pdus : List DlGiven) :
    (dlTtiBody forceTable0 slot pdus).length = 6 + (dlPduBytes forceTable0 pdus).length := by
  simp only [dlTtiBody, List.length_append, le16_length, List.length_singleton]
  omega

theorem dlPduBytes_concat (forceTable0 : Bool) (pdus : List DlGiven) (pdu : DlGiven) :
    dlPduBytes forceTable0 (pdus ++ [pdu]) =
      dlPduBytes forceTable0 pdus ++ (pdu.toScf forceTable0).encode := by
  rw [dlPduBytes, List.flatMap_append, List.flatMap_singleton]
  rfl

theorem DlTtiState.advance_nextPdschPduIndex (s : DlTtiState) (buf : Mem) (pduSize : Nat)
    (next : UInt16) (es : List Effect) :
    (s.advance buf pduSize next es).nextPdschPduIndex = next := by
  unfold DlTtiState.advance
  split
  · rfl
  · rfl

-- a PDU written at the offset is appended to the body and counted
theorem DlTtiState.Wrote.advance {forceTable0 : Bool} {buf : Mem} {slot : SlotPoint}
    {s : DlTtiState} {pdus : List DlGiven} (h : s.Wrote forceTable0 buf slot pdus) (pdu : DlGiven)
    (next : UInt16) (es : List Effect) :
    (s.advance (s.buf.store s.pduOffset (pdu.toScf forceTable0).encode)
      (4 + (pdu.toScf forceTable0).pduConfig.length) next es).Wrote forceTable0 buf slot
      (pdus ++ [pdu]) := by
  obtain ⟨hbuf, hoff⟩ := h
  have hpos : 4 + (pdu.toScf forceTable0).pduConfig.length > 0 := by omega
  rw [DlTtiState.advance, if_pos hpos]
  constructor
  -- `num_pdus` is byte 12 of the message, the fifth of the body
  · have happ := buf.append_inc 8 (le16 slot.sfn ++ le16 slot.slot) (UInt8.ofNat pdus.length)
      ([0] ++ dlPduBytes forceTable0 pdus) (pdu.toScf forceTable0).encode
    have hlen := dlTtiBody_length forceTable0 slot pdus
    rw [← dlTtiBody, hlen] at happ
    show (s.buf.store s.pduOffset (pdu.toScf forceTable0).encode).inc 12 = _
    rw [hbuf, hoff, show 14 + (dlPduBytes forceTable0 pdus).length =
      8 + (6 + (dlPduBytes forceTable0 pdus).length) by omega]
    refine happ.trans ?_
    rw [dlTtiBody, dlPduBytes_concat, List.length_append, List.length_singleton,
      UInt8.ofNat_add, List.append_assoc [0]]
    rfl
  · show s.pduOffset + (4 + (pdu.toScf forceTable0).pduConfig.length) = _
    rw [dlPduBytes_concat, List.length_append, ScfDlPdu.encode, encodePdu_length, hoff]
    omega

theorem foldl_dlTtiTurn {forceTable0 : Bool} {buf : Mem} {slot : SlotPoint}
    (pdus : List DlTtiPdu) {s : DlTtiState} {done : List DlGiven}
    (h : s.Wrote forceTable0 buf slot done) :
    (pdus.foldl (dlTtiTurn forceTable0) s).Wrote forceTable0 buf slot
      (done ++ dlGiven s.nextPdschPduIndex pdus) := by
  induction pdus generalizing s done with
  | nil =>
      rw [dlGiven, List.append_nil]
      exact h
  | cons pdu pdus ih =>
      rw [List.foldl_cons]
      -- the rest of the loop behind a turn that wrote a PDU and left the index at `next`
      have hwritten : ∀ (given : DlGiven) (next : UInt16) (es : List Effect),
          (pdus.foldl (dlTtiTurn forceTable0)
            (s.advance (s.buf.store s.pduOffset (given.toScf forceTable0).encode)
              (4 + (given.toScf forceTable0).pduConfig.length) next es)).Wrote forceTable0 buf slot
            (done ++ given :: dlGiven next pdus) := by
        intro given next es
        have hrest := ih (h.advance given next es)
        rw [List.append_assoc, DlTtiState.advance_nextPdschPduIndex] at hrest
        exact hrest
      cases pdu with
      | ssb ssb =>
          simp only [dlTtiTurn, serializeSsbPdu_eq]
          exact hwritten (.ssb ssb) _ _
      | pdcch pdcch =>
          simp only [dlTtiTurn, serializePdcchPdu_eq]
          exact hwritten (.pdcch pdcch) _ _
      | pdsch pdsch =>
          -- only a PDSCH PDU takes the next index
          simp only [dlTtiTurn, serializePdschPdu_eq]
          exact hwritten (.pdsch pdsch s.nextPdschPduIndex) _ _
      -- CSI-RS and PRS PDUs have size 0 and leave the state as it is
      | csiRs => exact ih h
      | prs => exact ih h

theorem serializeDlTtiRequest_eq (forceTable0 : Bool) (msg : DlTtiRequest) (buf : Mem)
    {bufLen : Nat} (cellId : UInt8) (h : 14 ≤ bufLen) :
    let r := serializeDlTtiRequest forceTable0 msg buf bufLen cellId
    let n := 6 + (dlPduBytes forceTable0 (dlGiven 0 msg.pdus)).length
    r.ret = staticCastInt (8 + n) ∧
      r.buf = buf.store 0 ((⟨1, cellId, scfMsgIdDlTtiRequest, UInt32.ofNat n⟩ : ScfHeader).encode ++
        dlTtiBody forceTable0 msg.slot (dlGiven 0 msg.pdus)) := by
  have hreq : ((((⟨buf, 8⟩ : Cursor).put16 msg.slot.sfn).put16 msg.slot.slot).put8 0).put8 0 =
      ⟨buf.store 8 (dlTtiBody forceTable0 msg.slot []), 14⟩ := by
    simp only [Cursor.put16, Cursor.put8, Cursor.put_put, List.append_assoc]
    rfl
  have hstart : (⟨buf.store 8 (dlTtiBody forceTable0 msg.slot []), 14, 0, []⟩ :
      DlTtiState).Wrote forceTable0 buf msg.slot [] := ⟨rfl, rfl⟩
  obtain ⟨hbuf, hoff⟩ := foldl_dlTtiTurn msg.pdus hstart
  rw [List.nil_append] at hbuf hoff
  have hlen : 14 + (dlPduBytes forceTable0 (dlGiven 0 msg.pdus)).length - 8 =
      6 + (dlPduBytes forceTable0 (dlGiven 0 msg.pdus)).length := by omega
  have htotal : 14 + (dlPduBytes forceTable0 (dlGiven 0 msg.pdus)).length =
      8 + (6 + (dlPduBytes forceTable0 (dlGiven 0 msg.pdus)).length) := by omega
  intro r n
  simp only [r, n, serializeDlTtiRequest, if_neg (Nat.not_lt.mpr h), slotToSfnSlot, hreq, hbuf,
    hoff, hlen, writeHeaders_store]
  exact ⟨congrArg staticCastInt htotal, trivial⟩

theorem ulDciTurn_eq (buf : Mem) (pos : Nat) (pdcch : DlPdcchPdu) :
    ulDciTurn (buf, pos) pdcch =
      (buf.store pos (encodePdu scfPduTypePdcch pdcch.toScf.encode),
        pos + (encodePdu scfPduTypePdcch pdcch.toScf.encode).length) := by
  -- the second write of the type puts back the bytes that are there
  have hover := @Mem.store_patch buf pos [] (le16 scfPduTypePdcch) (le16 scfPduTypePdcch)
    (le16 (UInt16.ofNat (4 + pdcch.toScf.encode.length)) ++ pdcch.toScf.encode) rfl
  simp only [ulDciTurn, serializePdcchPdu_eq, encodePdu_length]
  rw [encodePdu, List.append_assoc]
  exact congrArg (fun m ↦ (m, pos + (4 + pdcch.toScf.encode.length))) hover

theorem foldl_ulDciTurn (pdus : List DlPdcchPdu) (buf : Mem) (pos : Nat) :
    pdus.foldl ulDciTurn (buf, pos) =
      let bytes := pdus.flatMap fun pdcch ↦ encodePdu scfPduTypePdcch pdcch.toScf.encode
      (buf.store pos bytes, pos + bytes.length) := by
  induction pdus generalizing buf pos with
  | nil => exact Prod.ext (buf.store_nil pos).symm rfl
  | cons pdcch pdus ih =>
      rw [List.foldl_cons, ulDciTurn_eq, ih]
      simp only [List.flatMap_cons, Mem.store_store, List.length_append, Nat.add_assoc]

theorem serializeUlDciRequest_eq (msg : UlDciRequest) (buf : Mem) {bufLen : Nat} (cellId : UInt8)
    (h : 16 ≤ bufLen) :
    let r := serializeUlDciRequest msg buf bufLen cellId
    r.ret = staticCastInt (8 + (ulDciBody msg).length) ∧
      r.buf = buf.store 0 ((⟨1, cellId, scfMsgIdUlDciRequest,
        UInt32.ofNat (ulDciBody msg).length⟩ : ScfHeader).encode ++ ulDciBody msg) := by
  have hbody : ((((⟨buf, 8⟩ : Cursor).put16 msg.slot.sfn).put16 msg.slot.slot).put8
      (UInt8.ofNat msg.pdus.length)) =
      ⟨buf.store 8 (le16 msg.slot.sfn ++ (le16 msg.slot.slot ++
        [UInt8.ofNat msg.pdus.length])), 13⟩ := by
    simp only [Cursor.put16, Cursor.put8, Cursor.put_put, List.append_assoc]
    rfl
  have hstore := buf.store_store 8 (le16 msg.slot.sfn ++ (le16 msg.slot.slot ++
    [UInt8.ofNat msg.pdus.length]))
    (msg.pdus.flatMap fun pdcch ↦ encodePdu scfPduTypePdcch pdcch.toScf.encode)
  simp only [List.append_assoc] at hstore
  rw [← ulDciBody] at hstore
  have hlen : 13 + (msg.pdus.flatMap fun pdcch ↦
      encodePdu scfPduTypePdcch pdcch.toScf.encode).length = 8 + (ulDciBody msg).length := by
    simp only [ulDciBody, List.length_append, le16_length, List.length_singleton]
    omega
  intro r
  simp only [r, serializeUlDciRequest, if_neg (Nat.not_lt.mpr h), slotToSfnSlot, hbody,
    foldl_ulDciTurn, hlen, Nat.add_sub_cancel_left, true_and]
  rw [← writeHeaders_store, ← hstore]
  rfl

end AerialBridge
