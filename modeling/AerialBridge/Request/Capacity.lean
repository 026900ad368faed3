import AerialBridge.Request.Encoding

/-!
# The capacity of the message buffer

The length of the buffer is compared with the fixed header only, and the counters in the header are
narrow.  A serialiser stays inside its buffer and counts its PDUs exactly when it refuses the request
or the whole message fits and its counter does not wrap.
-/

namespace AerialBridge

open Bytes Bytes.Parser

/-- `num_pdus` of DL_TTI, UL_TTI and UL_DCI: the byte behind the slot. -/
def numPdus8 (m : Mem) : Nat := (m 12).toNat

/-- `num_pdus` of TX_DATA. -/
def numPdus16 (m : Mem) : Nat := (m.load16 12).toNat

/-- A message of at most `bufLen` bytes, with nothing written from byte `bufLen` on and a header that
counts `records` PDUs. -/
structure SerializeResult.Within (r : SerializeResult) (buf : Mem) (bufLen numPdus records : Nat) :
    Prop where
  ret_le : r.ret ≤ bufLen
  untouched : ∀ i, bufLen ≤ i → r.buf i = buf i
  counted : numPdus = records

/-- The contract of a serialiser with a buffer of `bufLen` bytes, for a request of which it writes
`records` PDUs: whatever the buffer holds, it refuses or stays within. -/
def RespectsCapacity (serialize : Mem → SerializeResult) (bufLen : Nat) (numPdus : Mem → Nat)
    (records : Nat) : Prop :=
  ∀ buf, (serialize buf).ret = -1 ∨
    (serialize buf).Within buf bufLen (numPdus (serialize buf).buf) records

/-- A buffer shorter than the header is refused; otherwise the message of `length` bytes fits and its
counter holds the number of PDUs.  From `2 ^ 32 - 1` bytes on the `int` can be -1 by accident. -/
def CapacitySuffices (header bufLen length records limit : Nat) : Prop :=
  bufLen < header ∨ (length ≤ bufLen ∧ records < limit) ∨ length % 2 ^ 32 = 2 ^ 32 - 1

/-! ## One serialiser -/

theorem staticCastInt_eq_neg_one_iff (n : Nat) :
    staticCastInt n = -1 ↔ n % 2 ^ 32 = 2 ^ 32 - 1 := by
  unfold staticCastInt
  rw [Int.bmod_def]
  split
  · omega
  · omega

section Serializer

variable {serialize : Mem → SerializeResult} {bufLen records limit : Nat} {numPdus : Mem → Nat}
  {bytes : List UInt8}

theorem respectsCapacity_iff (henc : ∀ buf, (serialize buf).Encodes buf bytes)
    (hcount : ∀ buf, numPdus (serialize buf).buf = records % limit) (hlimit : 0 < limit)
    (hlt : records < limit → bytes.length < 2 ^ 31) :
    RespectsCapacity serialize bufLen numPdus records ↔
      (bytes.length ≤ bufLen ∧ records < limit) ∨ bytes.length % 2 ^ 32 = 2 ^ 32 - 1 := by
  rw [← staticCastInt_eq_neg_one_iff]
  constructor
  · intro h
    by_cases hneg : staticCastInt bytes.length = -1
    · exact .inr hneg
    · apply Or.inl
      have hwithin : ∀ buf, (serialize buf).Within buf bufLen (numPdus (serialize buf).buf)
          records := by
        intro buf
        have hret := (henc buf).ret
        exact (h buf).resolve_left fun hr ↦ hneg (hret.symm.trans hr)
      constructor
      · -- a message leaves every buffer untouched behind `bufLen` only when it ends before
        apply (Mem.store_untouched_iff bytes bufLen).mp
        intro buf i hi
        rw [← (henc buf).buf]
        exact (hwithin buf).untouched i hi
      · -- the count on the wire is a remainder
        have hwire := (hwithin .zeros).counted
        rw [hcount] at hwire
        rw [← hwire]
        exact Nat.mod_lt records hlimit
  · intro h buf
    rcases h with ⟨hfit, hrec⟩ | hneg
    · apply Or.inr
      have hret := (henc buf).ret
      rw [staticCastInt_of_lt (hlt hrec)] at hret
      exact {
        ret_le := by omega
        untouched := by
          rw [(henc buf).buf]
          exact (Mem.store_untouched_iff bytes bufLen).mpr hfit buf
        counted := by rw [hcount, Nat.mod_eq_of_lt hrec] }
    · exact .inl ((henc buf).ret.trans hneg)

/-- With the length test in front. -/
theorem respectsCapacity_iff_suffices {header : Nat}
    (hshort : bufLen < header → ∀ buf, (serialize buf).ret = -1)
    (henc : header ≤ bufLen → ∀ buf, (serialize buf).Encodes buf bytes)
    (hcount : ∀ m : Mem, numPdus (m.store 0 bytes) = records % limit) (hlimit : 0 < limit)
    (hlt : records < limit → bytes.length < 2 ^ 31) :
    RespectsCapacity serialize bufLen numPdus records ↔
      CapacitySuffices header bufLen bytes.length records limit := by
  by_cases h : bufLen < header
  · exact ⟨fun _ ↦ .inl h, fun _ buf ↦ .inl (hshort h buf)⟩
  · have henc := henc (Nat.not_lt.mp h)
    have hcount : ∀ buf, numPdus (serialize buf).buf = records % limit := by
      intro buf
      rw [(henc buf).buf, hcount]
    rw [respectsCapacity_iff henc hcount hlimit hlt, CapacitySuffices, or_iff_right h]

end Serializer

/-! ## The counters on the wire -/

section Wire

variable (m : Mem) (cellId : UInt8) (typeId sfn slot : UInt16) (n : Nat) (back : List UInt8)

theorem numPdus8_framed :
    numPdus8 (m.store 0 (framed cellId typeId
      (le16 sfn ++ (le16 slot ++ ([UInt8.ofNat n] ++ back))))) = n % 256 := by
  rw [framed, ← List.append_assoc, ← List.append_assoc, ← List.append_assoc]
  exact (congrArg UInt8.toNat (m.load8_store_part 0 _ _ back)).trans UInt8.toNat_ofNat'

theorem numPdus16_framed :
    numPdus16 (m.store 0 (framed cellId typeId
      (le16 sfn ++ (le16 slot ++ (le16 (UInt16.ofNat n) ++ back))))) = n % 65536 := by
  rw [framed, ← List.append_assoc, ← List.append_assoc, ← List.append_assoc]
  exact (congrArg UInt16.toNat (m.load16_store_part 0 _ _ back)).trans UInt16.toNat_ofNat'

end Wire

/-! ## How long a counted message is -/

/-- Parts of bounded size, of which only those that satisfy `p` take any room. -/
theorem sum_map_le_countP {α : Type} {f : α → Nat} {p : α → Bool} {c : Nat}
    (h : ∀ a, f a ≤ if p a then c else 0) (l : List α) : (l.map f).sum ≤ c * l.countP p := by
  induction l with
  | nil => exact Nat.zero_le _
  | cons a l ih =>
      have ha := h a
      rw [List.map_cons, List.sum_cons, List.countP_cons, Nat.mul_add]
      split at ha
      · next hp =>
        rw [if_pos hp]
        omega
      · next hp =>
        rw [if_neg hp]
        omega

theorem DlPdcchPdu.recordSize_le (pdcch : DlPdcchPdu) : pdcch.recordSize ≤ 2 ^ 16 := by
  have hlt := pdcch.dlDci.payload_lt
  unfold recordSize
  omega

theorem DlTtiPdu.recordSize_le (pdu : DlTtiPdu) :
    pdu.recordSize ≤ if pdu.isServed then 2 ^ 16 else 0 := by
  cases pdu with
  | ssb _ => exact (by decide : 16 ≤ 2 ^ 16)
  | pdcch pdu => exact pdu.recordSize_le
  | pdsch pdu =>
      have hlt := pdu.cws_lt
      show 82 + 10 * pdu.cws.length ≤ 2 ^ 16
      omega
  | csiRs => exact le_rfl
  | prs => exact le_rfl

theorem UlTtiPdu.recordSize_le (pdu : UlTtiPdu) :
    pdu.recordSize ≤ if pdu.isServed then 2 ^ 16 else 0 := by
  cases pdu with
  | prach _ => exact (by decide : 12 ≤ 2 ^ 16)
  | pusch pdu =>
      show pdu.recordSize ≤ 2 ^ 16
      unfold UlPuschPdu.recordSize
      split <;> split <;> split <;> omega
  | pucch _ => exact (by decide : 55 ≤ 2 ^ 16)
  | srs _ => exact (by decide : 38 ≤ 2 ^ 16)
  | other => exact le_rfl

/-! ## The four serialisers -/

theorem serializeDlTtiRequest_capacity_iff (forceTable0 : Bool) (msg : DlTtiRequest) (bufLen : Nat)
    (cellId : UInt8) :
    RespectsCapacity (fun buf ↦ serializeDlTtiRequest forceTable0 msg buf bufLen cellId) bufLen
        numPdus8 (msg.pdus.countP DlTtiPdu.isServed) ↔
      CapacitySuffices 14 bufLen (14 + (msg.pdus.map DlTtiPdu.recordSize).sum)
        (msg.pdus.countP DlTtiPdu.isServed) 256 := by
  have hsize := sum_map_le_countP DlTtiPdu.recordSize_le msg.pdus
  have hlen := msg.encoding_length forceTable0 cellId
  rw [← hlen]
  apply respectsCapacity_iff_suffices
  · intro h buf
    show (serializeDlTtiRequest forceTable0 msg buf bufLen cellId).ret = -1
    rw [serializeDlTtiRequest, if_pos h]
  · exact fun h buf ↦ serializeDlTtiRequest_encodes forceTable0 msg buf cellId h
  · intro m
    rw [DlTtiRequest.encoding, dlTtiBody, dlGiven_length]
    simp only [List.append_assoc]
    exact numPdus8_framed m cellId _ _ _ _ _
  · decide
  · omega

theorem serializeUlTtiRequest_capacity_iff (msg : UlTtiRequest) (bufLen : Nat) (cellId : UInt8) :
    RespectsCapacity (fun buf ↦ serializeUlTtiRequest msg buf bufLen cellId) bufLen
        numPdus8 (msg.pdus.countP UlTtiPdu.isServed) ↔
      CapacitySuffices 17 bufLen (17 + (msg.pdus.map UlTtiPdu.recordSize).sum)
        (msg.pdus.countP UlTtiPdu.isServed) 256 := by
  have hsize := sum_map_le_countP UlTtiPdu.recordSize_le msg.pdus
  have hlen := msg.encoding_length cellId
  rw [← hlen]
  apply respectsCapacity_iff_suffices
  · intro h buf
    show (serializeUlTtiRequest msg buf bufLen cellId).ret = -1
    rw [serializeUlTtiRequest, if_pos h]
  · exact fun h buf ↦ serializeUlTtiRequest_encodes msg buf cellId h
  · intro m
    simp only [UlTtiRequest.encoding, ulTtiBody, ulSummary_eq]
    exact numPdus8_framed m cellId _ _ _ _ _
  · decide
  · omega

theorem serializeUlDciRequest_capacity_iff (msg : UlDciRequest) (bufLen : Nat) (cellId : UInt8) :
    RespectsCapacity (fun buf ↦ serializeUlDciRequest msg buf bufLen cellId) bufLen
        numPdus8 msg.pdus.length ↔
      CapacitySuffices 16 bufLen (13 + (msg.pdus.map DlPdcchPdu.recordSize).sum)
        msg.pdus.length 256 := by
  have hsize := sum_map_le_countP (p := fun _ ↦ true) DlPdcchPdu.recordSize_le msg.pdus
  have hlen := msg.encoding_length cellId
  rw [List.countP_true] at hsize
  rw [← hlen]
  apply respectsCapacity_iff_suffices
  · intro h buf
    show (serializeUlDciRequest msg buf bufLen cellId).ret = -1
    rw [serializeUlDciRequest, if_pos h]
  · exact fun h buf ↦ serializeUlDciRequest_encodes msg buf cellId h
  · intro m
    rw [UlDciRequest.encoding, ulDciBody]
    exact numPdus8_framed m cellId _ _ _ _ _
  · decide
  · omega

theorem serializeTxDataRequest_capacity_iff (msg : TxDataRequest) (msgBufLen : Nat) (dataBuf : Mem)
    (data : DataBuf) (cellId : UInt8) :
    RespectsCapacity (fun msgBuf ↦
        (serializeTxDataRequest msg msgBuf msgBufLen dataBuf data cellId).toSerializeResult)
        msgBufLen numPdus16 msg.pdus.length ↔
      CapacitySuffices 14 msgBufLen (14 + 18 * msg.pdus.length) msg.pdus.length 65536 := by
  have hlen := msg.encoding_length data cellId
  rw [← hlen]
  apply respectsCapacity_iff_suffices
  · intro h buf
    show (serializeTxDataRequest msg buf msgBufLen dataBuf data cellId).ret = -1
    rw [serializeTxDataRequest, if_pos h]
  · exact fun h buf ↦ serializeTxDataRequest_encodes msg buf dataBuf data cellId h
  · intro m
    rw [TxDataRequest.encoding, txDataBody]
    exact numPdus16_framed m cellId _ _ _ _ _
  · decide
  · omega

-- each serialiser respects its buffer exactly when the buffer is refused or the request is short
-- enough for it and for the counter
theorem serializers_respectCapacity_iff (forceTable0 : Bool) (bufLen : Nat) (cellId : UInt8) :
    (∀ msg : DlTtiRequest,
      RespectsCapacity (fun buf ↦ serializeDlTtiRequest forceTable0 msg buf bufLen cellId) bufLen
          numPdus8 (msg.pdus.countP DlTtiPdu.isServed) ↔
        CapacitySuffices 14 bufLen (14 + (msg.pdus.map DlTtiPdu.recordSize).sum)
          (msg.pdus.countP DlTtiPdu.isServed) 256) ∧
    (∀ msg : UlTtiRequest,
      RespectsCapacity (fun buf ↦ serializeUlTtiRequest msg buf bufLen cellId) bufLen
          numPdus8 (msg.pdus.countP UlTtiPdu.isServed) ↔
        CapacitySuffices 17 bufLen (17 + (msg.pdus.map UlTtiPdu.recordSize).sum)
          (msg.pdus.countP UlTtiPdu.isServed) 256) ∧
    (∀ msg : UlDciRequest,
      RespectsCapacity (fun buf ↦ serializeUlDciRequest msg buf bufLen cellId) bufLen
          numPdus8 msg.pdus.length ↔
        CapacitySuffices 16 bufLen (13 + (msg.pdus.map DlPdcchPdu.recordSize).sum)
          msg.pdus.length 256) ∧
    (∀ (msg : TxDataRequest) (dataBuf : Mem) (data : DataBuf),
      RespectsCapacity (fun msgBuf ↦
          (serializeTxDataRequest msg msgBuf bufLen dataBuf data cellId).toSerializeResult)
          bufLen numPdus16 msg.pdus.length ↔
        CapacitySuffices 14 bufLen (14 + 18 * msg.pdus.length) msg.pdus.length 65536) := by
  constructor
  · exact fun msg ↦ serializeDlTtiRequest_capacity_iff forceTable0 msg bufLen cellId
  constructor
  · exact fun msg ↦ serializeUlTtiRequest_capacity_iff msg bufLen cellId
  constructor
  · exact fun msg ↦ serializeUlDciRequest_capacity_iff msg bufLen cellId
  · exact fun msg dataBuf data ↦
      serializeTxDataRequest_capacity_iff msg bufLen dataBuf data cellId

/-- A DL_TTI.request of `n` PDSCH PDUs with one codeword. -/
def pdschBurst (n : Nat) : DlTtiRequest :=
  ⟨⟨1, 5, 3⟩, List.replicate n (.pdsch pdschOfOneCodeword)⟩

theorem pdschBurst_capacity_iff (n bufLen : Nat) :
    RespectsCapacity (fun buf ↦ serializeDlTtiRequest false (pdschBurst n) buf bufLen 0) bufLen
      numPdus8 n ↔ CapacitySuffices 14 bufLen (14 + n * 92) n 256 := by
  have hserved : (pdschBurst n).pdus.countP DlTtiPdu.isServed = n := List.countP_replicate
  have hsize : ((pdschBurst n).pdus.map DlTtiPdu.recordSize).sum = n * 92 := by
    rw [pdschBurst, List.map_replicate, List.sum_replicate]
    rfl
  have hiff := serializeDlTtiRequest_capacity_iff false (pdschBurst n) bufLen 0
  rw [hserved, hsize] at hiff
  exact hiff

-- 163 of them make a message of 15010 bytes, which is written into a buffer of 15000
theorem serializeDlTtiRequest_overruns :
    ¬ RespectsCapacity (fun buf ↦ serializeDlTtiRequest false (pdschBurst 163) buf 15000 0) 15000
      numPdus8 163 := by
  rw [pdschBurst_capacity_iff]
  unfold CapacitySuffices
  decide

end AerialBridge
