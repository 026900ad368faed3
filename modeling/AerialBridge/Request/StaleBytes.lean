import AerialBridge.Request.Encoding

/-!
# No stale bytes in a request

The buffers are recycled without being cleared.  Two runs of a serialiser on buffers that hold
different bytes leave the same message: every byte of it was written from the request.
-/

namespace AerialBridge

open Bytes

/-- Two runs return the same length and leave the same bytes below it. -/
structure SameMessage (r r' : SerializeResult) : Prop where
  ret : r.ret = r'.ret
  message : r.message = r'.message

/-! ## A message is a function of its encoding -/

/-- The cast to `int` never announces more bytes than there are. -/
theorem staticCastInt_toNat_le (n : Nat) : (staticCastInt n).toNat ≤ n := by
  unfold staticCastInt
  rw [Int.bmod_def]
  split
  · omega
  · omega

theorem SerializeResult.Encodes.message_eq {r : SerializeResult} {buf : Mem} {bytes : List UInt8}
    (h : r.Encodes buf bytes) : r.message = bytes.take r.ret.toNat := by
  have hle : r.ret.toNat ≤ bytes.length := by
    rw [h.ret]
    exact staticCastInt_toNat_le _
  have hload := buf.load_store_part 0 [] (bytes.take r.ret.toNat) (bytes.drop r.ret.toNat)
  rw [List.nil_append, List.take_append_drop, List.length_take_of_le hle] at hload
  rw [SerializeResult.message, h.buf]
  exact hload

theorem SerializeResult.Encodes.sameMessage {r r' : SerializeResult} {buf buf' : Mem}
    {bytes : List UInt8} (h : r.Encodes buf bytes) (h' : r'.Encodes buf' bytes) :
    SameMessage r r' := by
  have hret : r.ret = r'.ret := h.ret.trans h'.ret.symm
  constructor
  · exact hret
  · rw [h.message_eq, h'.message_eq, hret]

theorem sameMessage_of_refused {r r' : SerializeResult} (h : r.ret = -1) (h' : r'.ret = -1) :
    SameMessage r r' := by
  constructor
  · rw [h, h']
  · rw [SerializeResult.message, SerializeResult.message, h, h']
    rfl

/-- Two runs that the length test treats alike. -/
theorem sameMessage_of_guard {header bufLen bufLen' : Nat} {r r' : SerializeResult} {buf buf' : Mem}
    {bytes : List UInt8} (hguard : bufLen < header ↔ bufLen' < header)
    (hshort : bufLen < header → r.ret = -1) (hshort' : bufLen' < header → r'.ret = -1)
    (henc : header ≤ bufLen → r.Encodes buf bytes) (henc' : header ≤ bufLen' → r'.Encodes buf' bytes) :
    SameMessage r r' := by
  by_cases h : bufLen < header
  · exact sameMessage_of_refused (hshort h) (hshort' (hguard.mp h))
  · have h' : ¬ bufLen' < header := fun hlt ↦ h (hguard.mpr hlt)
    exact (henc (Nat.not_lt.mp h)).sameMessage (henc' (Nat.not_lt.mp h'))

/-! ## The offsets of TX_DATA -/

theorem descriptors_congr {data data' : DataBuf} (pdus : List TxDataReqPdu) {c : Nat}
    (h : ∀ before after, pdus = before ++ after →
      Bump.cursor data.advance c before = Bump.cursor data'.advance c before) :
    data.descriptors c pdus = data'.descriptors c pdus := by
  induction pdus generalizing c with
  | nil => rfl
  | cons p ps ih =>
      -- the offset behind the first block is the same, so the rest is
      have hnext : c + data.advance c p = c + data'.advance c p := h [p] ps rfl
      rw [DataBuf.descriptors, DataBuf.descriptors, ← hnext]
      congr 1
      apply ih
      intro before after hsplit
      have hbefore := h (p :: before) after (by rw [hsplit, List.cons_append])
      change Bump.cursor data.advance (c + data.advance c p) before =
        Bump.cursor data'.advance (c + data'.advance c p) before at hbefore
      rw [hbefore, hnext]

/-- Blocks that fit are announced at the same offsets in every data buffer. -/
theorem txDataRequest_encoding_congr {msg : TxDataRequest} {data data' : DataBuf}
    (h : msg.Fits data) (h' : msg.Fits data') (cellId : UInt8) :
    msg.encoding data cellId = msg.encoding data' cellId := by
  have hdesc : data.descriptors 0 msg.pdus = data'.descriptors 0 msg.pdus := by
    apply descriptors_congr
    intro before after hsplit
    exact (h.offset_eq hsplit).trans (h'.offset_eq hsplit).symm
  rw [TxDataRequest.encoding, TxDataRequest.encoding, txDataBody, txDataBody, hdesc]

/-! ## The four serialisers -/

section Runs

variable (buf buf' : Mem) (bufLen bufLen' : Nat) (cellId : UInt8)

theorem serializeDlTtiRequest_sameMessage (forceTable0 : Bool) (msg : DlTtiRequest)
    (hguard : bufLen < 14 ↔ bufLen' < 14) :
    SameMessage (serializeDlTtiRequest forceTable0 msg buf bufLen cellId)
      (serializeDlTtiRequest forceTable0 msg buf' bufLen' cellId) := by
  apply sameMessage_of_guard hguard
  · intro h
    rw [serializeDlTtiRequest, if_pos h]
  · intro h
    rw [serializeDlTtiRequest, if_pos h]
  · exact serializeDlTtiRequest_encodes forceTable0 msg buf cellId
  · exact serializeDlTtiRequest_encodes forceTable0 msg buf' cellId

theorem serializeUlTtiRequest_sameMessage (msg : UlTtiRequest)
    (hguard : bufLen < 17 ↔ bufLen' < 17) :
    SameMessage (serializeUlTtiRequest msg buf bufLen cellId)
      (serializeUlTtiRequest msg buf' bufLen' cellId) := by
  apply sameMessage_of_guard hguard
  · intro h
    rw [serializeUlTtiRequest, if_pos h]
  · intro h
    rw [serializeUlTtiRequest, if_pos h]
  · exact serializeUlTtiRequest_encodes msg buf cellId
  · exact serializeUlTtiRequest_encodes msg buf' cellId

theorem serializeUlDciRequest_sameMessage (msg : UlDciRequest)
    (hguard : bufLen < 16 ↔ bufLen' < 16) :
    SameMessage (serializeUlDciRequest msg buf bufLen cellId)
      (serializeUlDciRequest msg buf' bufLen' cellId) := by
  apply sameMessage_of_guard hguard
  · intro h
    rw [serializeUlDciRequest, if_pos h]
  · intro h
    rw [serializeUlDciRequest, if_pos h]
  · exact serializeUlDciRequest_encodes msg buf cellId
  · exact serializeUlDciRequest_encodes msg buf' cellId

theorem serializeTxDataRequest_sameMessage (msg : TxDataRequest) (dataBuf dataBuf' : Mem)
    {data data' : DataBuf} (hdata : data = data' ∨ (msg.Fits data ∧ msg.Fits data'))
    (hguard : bufLen < 14 ↔ bufLen' < 14) :
    SameMessage (serializeTxDataRequest msg buf bufLen dataBuf data cellId).toSerializeResult
      (serializeTxDataRequest msg buf' bufLen' dataBuf' data' cellId).toSerializeResult := by
  have henc : msg.encoding data' cellId = msg.encoding data cellId := by
    rcases hdata with rfl | ⟨h, h'⟩
    · rfl
    · exact txDataRequest_encoding_congr h' h cellId
  apply sameMessage_of_guard hguard
  · intro h
    rw [serializeTxDataRequest, if_pos h]
  · intro h
    rw [serializeTxDataRequest, if_pos h]
  · exact serializeTxDataRequest_encodes msg buf dataBuf data cellId
  · rw [← henc]
    exact serializeTxDataRequest_encodes msg buf' dataBuf' data' cellId

end Runs

-- whatever the two buffers hold, and however long they are as long as both pass or both fail the
-- length test, the two messages are the same; the data buffer matters only where a block does not fit
theorem serializers_sameMessage (forceTable0 : Bool) (cellId : UInt8) (buf buf' : Mem)
    (bufLen bufLen' : Nat) :
    (∀ msg : DlTtiRequest, (bufLen < 14 ↔ bufLen' < 14) →
      SameMessage (serializeDlTtiRequest forceTable0 msg buf bufLen cellId)
        (serializeDlTtiRequest forceTable0 msg buf' bufLen' cellId)) ∧
    (∀ msg : UlTtiRequest, (bufLen < 17 ↔ bufLen' < 17) →
      SameMessage (serializeUlTtiRequest msg buf bufLen cellId)
        (serializeUlTtiRequest msg buf' bufLen' cellId)) ∧
    (∀ msg : UlDciRequest, (bufLen < 16 ↔ bufLen' < 16) →
      SameMessage (serializeUlDciRequest msg buf bufLen cellId)
        (serializeUlDciRequest msg buf' bufLen' cellId)) ∧
    (∀ (msg : TxDataRequest) (dataBuf dataBuf' : Mem) (data data' : DataBuf),
      data = data' ∨ (msg.Fits data ∧ msg.Fits data') → (bufLen < 14 ↔ bufLen' < 14) →
      SameMessage (serializeTxDataRequest msg buf bufLen dataBuf data cellId).toSerializeResult
        (serializeTxDataRequest msg buf' bufLen' dataBuf' data' cellId).toSerializeResult) := by
  constructor
  · exact serializeDlTtiRequest_sameMessage buf buf' bufLen bufLen' cellId forceTable0
  constructor
  · exact serializeUlTtiRequest_sameMessage buf buf' bufLen bufLen' cellId
  constructor
  · exact serializeUlDciRequest_sameMessage buf buf' bufLen bufLen' cellId
  · intro msg dataBuf dataBuf' data data' hdata hguard
    exact serializeTxDataRequest_sameMessage buf buf' bufLen bufLen' cellId msg dataBuf dataBuf'
      hdata hguard

/-- A buffer full of ones. -/
def staleMem : Mem := fun _ ↦ 0xff

theorem serializers_sameMessage_stale :
    SameMessage
      (serializeDlTtiRequest false ⟨⟨1, 5, 3⟩, [.csiRs, .pdcch pdcchOfFiveBits]⟩ .zeros 15000 0)
      (serializeDlTtiRequest false ⟨⟨1, 5, 3⟩, [.csiRs, .pdcch pdcchOfFiveBits]⟩ staleMem 15000
        0) ∧
    SameMessage
      (serializeUlTtiRequest ⟨⟨1, 5, 3⟩, [.prach ⟨1, 0, 0, 0, 13⟩, .pucch pucchOfFormat3]⟩ .zeros
        15000 0)
      (serializeUlTtiRequest ⟨⟨1, 5, 3⟩, [.prach ⟨1, 0, 0, 0, 13⟩, .pucch pucchOfFormat3]⟩ staleMem
        15000 0) ∧
    SameMessage (serializeUlDciRequest ⟨⟨1, 5, 3⟩, [pdcchOfFiveBits]⟩ .zeros 15000 0)
      (serializeUlDciRequest ⟨⟨1, 5, 3⟩, [pdcchOfFiveBits]⟩ staleMem 15000 0) ∧
    SameMessage
      (serializeTxDataRequest (txDataOfSizes [40]) .zeros 15000 .zeros cpuDataPool
        0).toSerializeResult
      (serializeTxDataRequest (txDataOfSizes [40]) staleMem 15000 staleMem cpuDataPool
        0).toSerializeResult := by
  obtain ⟨hdl, hul, hdci, htx⟩ := serializers_sameMessage false 0 .zeros staleMem 15000 15000
  exact ⟨hdl _ Iff.rfl, hul _ Iff.rfl, hdci _ Iff.rfl, htx _ _ _ _ _ (.inl rfl) Iff.rfl⟩

end AerialBridge
