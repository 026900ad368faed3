import AerialBridge.Request.DlLossless
import AerialBridge.Request.UlLossless
import AerialBridge.Request.TxDataIntegrity

/-!
# The bytes of a request

Once its length test is passed, each of the four serialisers stores one list of bytes at the start
of the message buffer and returns the length of that list.  The list is a function of the request
and the cell, and its length the sum of the sizes of the PDUs behind a fixed header.
-/

namespace AerialBridge

open Bytes Bytes.Parser

/-- The message `bytes` at the start of what was in the buffer, and its length as an `int`. -/
structure SerializeResult.Encodes (r : SerializeResult) (buf : Mem) (bytes : List UInt8) : Prop where
  ret : r.ret = staticCastInt bytes.length
  buf : r.buf = buf.store 0 bytes

/-- A body behind the two headers. -/
def framed (cellId : UInt8) (typeId : UInt16) (body : List UInt8) : List UInt8 :=
  (⟨1, cellId, typeId, UInt32.ofNat body.length⟩ : ScfHeader).encode ++ body

theorem framed_length (cellId : UInt8) (typeId : UInt16) (body : List UInt8) :
    (framed cellId typeId body).length = 8 + body.length := by
  rw [framed, List.length_append, ScfHeader.encode_length]

/-! ## The four messages -/

def DlTtiRequest.encoding (forceTable0 : Bool) (msg : DlTtiRequest) (cellId : UInt8) : List UInt8 :=
  framed cellId scfMsgIdDlTtiRequest (dlTtiBody forceTable0 msg.slot (dlGiven 0 msg.pdus))

def UlDciRequest.encoding (msg : UlDciRequest) (cellId : UInt8) : List UInt8 :=
  framed cellId scfMsgIdUlDciRequest (ulDciBody msg)

def UlTtiRequest.encoding (msg : UlTtiRequest) (cellId : UInt8) : List UInt8 :=
  let pdus := msg.pdus.filterMap UlTtiPdu.toScf
  framed cellId scfMsgIdUlTtiRequest
    (ulTtiBody msg.slot (ulSummary pdus) (pdus.flatMap ScfUlPdu.encode))

def TxDataRequest.encoding (msg : TxDataRequest) (data : DataBuf) (cellId : UInt8) : List UInt8 :=
  framed cellId scfMsgIdTxDataRequest (txDataBody msg data)

theorem serializeDlTtiRequest_encodes (forceTable0 : Bool) (msg : DlTtiRequest) (buf : Mem)
    {bufLen : Nat} (cellId : UInt8) (h : 14 ≤ bufLen) :
    (serializeDlTtiRequest forceTable0 msg buf bufLen cellId).Encodes buf
      (msg.encoding forceTable0 cellId) := by
  have hlen := dlTtiBody_length forceTable0 msg.slot (dlGiven 0 msg.pdus)
  obtain ⟨hret, hbuf⟩ := serializeDlTtiRequest_eq forceTable0 msg buf cellId h
  constructor
  · rw [hret, DlTtiRequest.encoding, framed_length, hlen]
  · rw [hbuf, DlTtiRequest.encoding, framed, hlen]

theorem serializeUlDciRequest_encodes (msg : UlDciRequest) (buf : Mem) {bufLen : Nat}
    (cellId : UInt8) (h : 16 ≤ bufLen) :
    (serializeUlDciRequest msg buf bufLen cellId).Encodes buf (msg.encoding cellId) := by
  obtain ⟨hret, hbuf⟩ := serializeUlDciRequest_eq msg buf cellId h
  constructor
  · rw [hret, UlDciRequest.encoding, framed_length]
  · exact hbuf

theorem serializeUlTtiRequest_encodes (msg : UlTtiRequest) (buf : Mem) {bufLen : Nat}
    (cellId : UInt8) (h : 17 ≤ bufLen) :
    (serializeUlTtiRequest msg buf bufLen cellId).Encodes buf (msg.encoding cellId) := by
  obtain ⟨hret, hbuf⟩ := serializeUlTtiRequest_eq msg buf cellId h
  constructor
  · rw [hret, UlTtiRequest.encoding, framed_length, ulTtiBody_length]
  · rw [hbuf, UlTtiRequest.encoding, framed, ulTtiBody_length]

theorem serializeTxDataRequest_encodes (msg : TxDataRequest) (msgBuf : Mem) {msgBufLen : Nat}
    (dataBuf : Mem) (data : DataBuf) (cellId : UInt8) (h : 14 ≤ msgBufLen) :
    (serializeTxDataRequest msg msgBuf msgBufLen dataBuf data cellId).Encodes msgBuf
      (msg.encoding data cellId) := by
  have hlen := txDataBody_length msg data
  constructor
  · rw [serializeTxDataRequest_ret msg msgBuf dataBuf data cellId h, TxDataRequest.encoding,
      framed_length, hlen, show 8 + (6 + 18 * msg.pdus.length) = 14 + 18 * msg.pdus.length by omega]
  · rw [serializeTxDataRequest_buf msg msgBuf dataBuf data cellId h, TxDataRequest.encoding, framed,
      hlen]

/-! ## The size of a PDU -/

/-- A DCI takes whole bytes. -/
def DlPdcchPdu.recordSize (pdcch : DlPdcchPdu) : Nat := 44 + (pdcch.dlDci.payload.length + 7) / 8

def DlTtiPdu.recordSize : DlTtiPdu → Nat
  | .ssb _ => 16
  | .pdcch pdu => pdu.recordSize
  | .pdsch pdu => 82 + 10 * pdu.cws.length
  | .csiRs => 0
  | .prs => 0

/-- A PUSCH PDU has up to three optional sections. -/
def UlPuschPdu.recordSize (pusch : UlPuschPdu) : Nat :=
  91 + (if pusch.puschData.isSome then 9 else 0) + (if pusch.puschUci.isSome then 10 else 0) +
    (if pusch.transformPrecoding.isEnabled then 5 else 0)

def UlTtiPdu.recordSize : UlTtiPdu → Nat
  | .prach _ => 12
  | .pusch pdu => pdu.recordSize
  | .pucch _ => 55
  | .srs _ => 38
  | .other => 0

@[simp] def DlTtiPdu.isServed : DlTtiPdu → Bool
  | .ssb _ => true
  | .pdcch _ => true
  | .pdsch _ => true
  | _ => false

theorem dlGiven_length (k : UInt16) (pdus : List DlTtiPdu) :
    (dlGiven k pdus).length = pdus.countP DlTtiPdu.isServed := by
  induction pdus generalizing k with
  | nil => rfl
  | cons pdu pdus ih =>
      rw [List.countP_cons]
      cases pdu with
      | ssb _ => exact congrArg (· + 1) (ih k)
      | pdcch _ => exact congrArg (· + 1) (ih k)
      | pdsch _ => exact congrArg (· + 1) (ih (k + 1))
      | csiRs => exact ih k
      | prs => exact ih k

theorem DlPdcchPdu.encodePdu_length (pdcch : DlPdcchPdu) :
    (encodePdu scfPduTypePdcch pdcch.toScf.encode).length = pdcch.recordSize := by
  rw [AerialBridge.encodePdu_length, pdcch.toScf_encode_length, DlPdcchPdu.recordSize]
  omega

theorem dlPduBytes_length (forceTable0 : Bool) (k : UInt16) (pdus : List DlTtiPdu) :
    (dlPduBytes forceTable0 (dlGiven k pdus)).length = (pdus.map DlTtiPdu.recordSize).sum := by
  induction pdus generalizing k with
  | nil => rfl
  | cons pdu pdus ih =>
      have hcons : ∀ (given : DlGiven) (next : UInt16),
          (dlPduBytes forceTable0 (given :: dlGiven next pdus)).length =
            4 + (given.toScf forceTable0).pduConfig.length +
              (pdus.map DlTtiPdu.recordSize).sum := by
        intro given next
        rw [← ih next, dlPduBytes, List.flatMap_cons, List.length_append, ScfDlPdu.encode,
          AerialBridge.encodePdu_length]
        rfl
      rw [List.map_cons, List.sum_cons]
      cases pdu with
      | ssb ssb => exact hcons (.ssb ssb) k
      | pdcch pdcch =>
          have hlen := pdcch.toScf_encode_length
          refine (hcons (.pdcch pdcch) k).trans ?_
          show 4 + pdcch.toScf.encode.length + _ = pdcch.recordSize + _
          rw [hlen, DlPdcchPdu.recordSize]
          omega
      | pdsch pdsch =>
          have hlen := pdsch.toScf_encode_length forceTable0 k
          refine (hcons (.pdsch pdsch k) (k + 1)).trans ?_
          show 4 + (pdsch.toScf forceTable0 k).encode.length + _ = 82 + 10 * pdsch.cws.length + _
          rw [hlen]
          omega
      | csiRs => exact (ih k).trans (Nat.zero_add _).symm
      | prs => exact (ih k).trans (Nat.zero_add _).symm

theorem UlPuschPdu.toScf_encode_length (pusch : UlPuschPdu) :
    4 + pusch.toScf.encode.length = pusch.recordSize := by
  have hdata : (encodeOpt ScfPuschData.encode pusch.toScf.puschData).length =
      if pusch.puschData.isSome then 9 else 0 := by
    show (encodeOpt ScfPuschData.encode (pusch.puschData.map UlPuschData.toScf)).length = _
    cases pusch.puschData with
    | none => rfl
    | some _ => rfl
  have huci : (encodeOpt ScfPuschUci.encode pusch.toScf.puschUci).length =
      if pusch.puschUci.isSome then 10 else 0 := by
    show (encodeOpt ScfPuschUci.encode (pusch.puschUci.map UlPuschUci.toScf)).length = _
    cases pusch.puschUci with
    | none => rfl
    | some _ => rfl
  -- the DFT-s-OFDM block follows the flag that the variant sets
  have hdft : (encodeOpt ScfPuschDftOfdm.encode pusch.toScf.dftOfdm).length =
      if pusch.transformPrecoding.isEnabled then 5 else 0 := by
    unfold UlPuschPdu.toScf
    cases pusch.transformPrecoding with
    | enabled _ => rfl
    | disabled _ => rfl
  have hrb : pusch.toScf.rbBitmap.length = 36 := rfl
  have hbf : pusch.toScf.beamforming.encode.length = 5 := rfl
  rw [ScfPuschPdu.encode_length, hdata, huci, hdft, hrb, hbf, UlPuschPdu.recordSize]
  omega

theorem ulPduBytes_length (pdus : List UlTtiPdu) :
    ((pdus.filterMap UlTtiPdu.toScf).flatMap ScfUlPdu.encode).length =
      (pdus.map UlTtiPdu.recordSize).sum := by
  induction pdus with
  | nil => rfl
  | cons pdu pdus ih =>
      have hcons : ∀ w, pdu.toScf = some w →
          (((pdu :: pdus).filterMap UlTtiPdu.toScf).flatMap ScfUlPdu.encode).length =
            4 + w.pduConfig.length + (pdus.map UlTtiPdu.recordSize).sum := by
        intro w hw
        rw [List.filterMap_cons, hw, ← ih, List.flatMap_cons, List.length_append, ScfUlPdu.encode,
          AerialBridge.encodePdu_length]
      rw [List.map_cons, List.sum_cons]
      cases pdu with
      | prach prach => exact hcons _ rfl
      | pusch pusch =>
          refine (hcons _ rfl).trans ?_
          show 4 + pusch.toScf.encode.length + _ = pusch.recordSize + _
          rw [pusch.toScf_encode_length]
      | pucch pucch => exact hcons _ rfl
      | srs srs => exact hcons _ rfl
      | other => exact ih.trans (Nat.zero_add _).symm

/-! ## The length of a message -/

theorem DlTtiRequest.encoding_length (forceTable0 : Bool) (msg : DlTtiRequest) (cellId : UInt8) :
    (msg.encoding forceTable0 cellId).length = 14 + (msg.pdus.map DlTtiPdu.recordSize).sum := by
  rw [encoding, framed_length, dlTtiBody_length, dlPduBytes_length]
  omega

theorem UlDciRequest.encoding_length (msg : UlDciRequest) (cellId : UInt8) :
    (msg.encoding cellId).length = 13 + (msg.pdus.map DlPdcchPdu.recordSize).sum := by
  have hsizes : (msg.pdus.flatMap fun pdcch ↦
      encodePdu scfPduTypePdcch pdcch.toScf.encode).length =
      (msg.pdus.map DlPdcchPdu.recordSize).sum := by
    rw [List.length_flatMap]
    exact congrArg List.sum (List.map_congr_left fun pdcch _ ↦ pdcch.encodePdu_length)
  rw [encoding, framed_length, ulDciBody]
  simp only [List.length_append, le16_length, List.length_singleton, hsizes]
  omega

theorem UlTtiRequest.encoding_length (msg : UlTtiRequest) (cellId : UInt8) :
    (msg.encoding cellId).length = 17 + (msg.pdus.map UlTtiPdu.recordSize).sum := by
  show (framed cellId scfMsgIdUlTtiRequest _).length = _
  rw [framed_length, ulTtiBody_length, ulPduBytes_length]
  omega

theorem TxDataRequest.encoding_length (msg : TxDataRequest) (data : DataBuf) (cellId : UInt8) :
    (msg.encoding data cellId).length = 14 + 18 * msg.pdus.length := by
  rw [encoding, framed_length, txDataBody_length]
  omega

end AerialBridge
