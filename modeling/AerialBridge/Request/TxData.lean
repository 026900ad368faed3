import AerialBridge.Bytes.Bump
import AerialBridge.Request.Writer

/-!
# TX_DATA.request

`serialize_tx_data_request` writes a control part with one descriptor for each transport block and
copies the blocks one behind the other into the data buffer.  A `size_t` is a number reduced modulo
`2 ^ 64` where the source adds to it.
-/

namespace AerialBridge

open Bytes Bytes.Parser

/-- `ocudu::fapi::tx_data_req_pdu`; `pdu` is what `pdu.get_buffer()` spans. -/
structure TxDataReqPdu where
  pduIndex : UInt16
  pdu : List UInt8

/-- `uint32_t tb_len = tb_data.size()`. -/
def TxDataReqPdu.tbLen (txPdu : TxDataReqPdu) : UInt32 := UInt32.ofNat txPdu.pdu.length

structure TxDataRequest where
  slot : SlotPoint
  pdus : List TxDataReqPdu

/-- `data_buf` and `data_buf_len`: no object is longer than `PTRDIFF_MAX`. -/
structure DataBuf where
  present : Bool
  len : Nat
  len_lt : len < 2 ^ 63

/-- The buffer that `send_tx_data_request` allocates. -/
def cpuDataPool : DataBuf := ⟨true, 576000, by decide⟩

/-- Blocks of zeros, of the given sizes. -/
def txDataOfSizes (sizes : List Nat) : TxDataRequest :=
  ⟨⟨1, 0, 0⟩, sizes.map fun n ↦ ⟨0, List.replicate n 0⟩⟩

/-- A block that is padded, and one behind it. -/
def twoBlocks : TxDataRequest :=
  ⟨⟨1, 5, 3⟩, [⟨0, List.replicate 40 0xA5⟩, ⟨1, [1, 2, 3]⟩]⟩

structure TxDataResult extends SerializeResult where
  dataBuf : Mem
  dataBytesWritten : Nat

def scfMsgIdTxDataRequest : UInt16 := 0x84

/-- `SCF_TX_DATA_OFFSET_TAG`. -/
def scfTxDataOffsetTag : UInt16 := 2

/-- `(~tb_len + 1) & 31`. -/
def txDataPadding (tbLen : UInt32) : UInt32 := (~~~tbLen + 1) &&& 31

structure TxDataState where
  pduPtr : Cursor
  dataBuf : Mem
  dataOffset : Nat

/-- `data_buf && data_offset + tb_len <= data_buf_len`. -/
def DataBuf.takes (data : DataBuf) (dataOffset : Nat) (tbLen : UInt32) : Bool :=
  data.present && decide ((dataOffset + tbLen.toNat) % 2 ^ 64 ≤ data.len)

/-- One turn of the loop over `msg.pdus`. -/
def txDataTurn (data : DataBuf) (s : TxDataState) (txPdu : TxDataReqPdu) : TxDataState :=
  let tbLen := txPdu.tbLen
  let pduPtr := s.pduPtr.put32 tbLen
  let pduPtr := pduPtr.put16 txPdu.pduIndex
  let pduPtr := pduPtr.put32 1
  let pduPtr := pduPtr.put16 scfTxDataOffsetTag
  let pduPtr := pduPtr.put16 tbLen.toUInt16
  let pduPtr := pduPtr.put32 (UInt32.ofNat s.dataOffset)
  -- the descriptor stands in either case; the copy and the advance depend on the room
  if data.takes s.dataOffset tbLen then
    ⟨pduPtr, s.dataBuf.store s.dataOffset (txPdu.pdu.take tbLen.toNat),
      (s.dataOffset + (tbLen + txDataPadding tbLen).toNat) % 2 ^ 64⟩
  else
    ⟨pduPtr, s.dataBuf, s.dataOffset⟩

def serializeTxDataRequest (msg : TxDataRequest) (msgBuf : Mem) (msgBufLen : Nat) (dataBuf : Mem)
    (data : DataBuf) (cellId : UInt8) : TxDataResult :=
  if msgBufLen < 14 then
    ⟨⟨-1, msgBuf, []⟩, dataBuf, 0⟩
  else
    let (sfn, slot) := slotToSfnSlot msg.slot
    let req := (((⟨msgBuf, 8⟩ : Cursor).put16 sfn).put16 slot).put16 (UInt16.ofNat msg.pdus.length)
    let s := msg.pdus.foldl (txDataTurn data) ⟨req, dataBuf, 0⟩
    let totalMsg := s.pduPtr.next
    let msgBuf := writeHeaders s.pduPtr.mem cellId scfMsgIdTxDataRequest
      (UInt32.ofNat (totalMsg - 8))
    ⟨⟨staticCastInt totalMsg, msgBuf, [.fetchAdd .txDataReqs 1, .fetchAdd .txDataBytes s.dataOffset]⟩,
      s.dataBuf, s.dataOffset⟩

/-! ## The control part as bytes -/

/-- `scf_fapi_tx_data_pdu_info_t` with its single TLV. -/
structure TxDataDescriptor where
  pduLen : UInt32
  pduIndex : UInt16
  length : UInt16
  value : UInt32
  deriving DecidableEq, Repr

def TxDataDescriptor.encode (d : TxDataDescriptor) : List UInt8 :=
  le32 d.pduLen ++ (le16 d.pduIndex ++ (le32 1 ++ (le16 scfTxDataOffsetTag ++
    (le16 d.length ++ le32 d.value))))

def txDataDescriptor (txPdu : TxDataReqPdu) (dataOffset : Nat) : TxDataDescriptor :=
  ⟨txPdu.tbLen, txPdu.pduIndex, txPdu.tbLen.toUInt16, UInt32.ofNat dataOffset⟩

namespace DataBuf

variable (data : DataBuf)

/-- How far a block moves the data offset. -/
def advance (dataOffset : Nat) (txPdu : TxDataReqPdu) : Nat :=
  if data.takes dataOffset txPdu.tbLen then (txPdu.tbLen + txDataPadding txPdu.tbLen).toNat else 0

/-- The data offset behind the blocks. -/
def offset (pdus : List TxDataReqPdu) : Nat := Bump.cursor data.advance 0 pdus

def descriptors (dataOffset : Nat) : List TxDataReqPdu → List TxDataDescriptor
  | [] => []
  | p :: ps => txDataDescriptor p dataOffset :: descriptors (dataOffset + data.advance dataOffset p) ps

/-- The data buffer with the blocks that it takes from `dataOffset` on. -/
def copied (m : Mem) (dataOffset : Nat) : List TxDataReqPdu → Mem
  | [] => m
  | p :: ps =>
      copied
        (if data.takes dataOffset p.tbLen then m.store dataOffset (p.pdu.take p.tbLen.toNat) else m)
        (dataOffset + data.advance dataOffset p) ps

end DataBuf

def txDataBody (msg : TxDataRequest) (data : DataBuf) : List UInt8 :=
  le16 msg.slot.sfn ++ (le16 msg.slot.slot ++ (le16 (UInt16.ofNat msg.pdus.length) ++
    (data.descriptors 0 msg.pdus).flatMap TxDataDescriptor.encode))

/-! ## The data offset -/

theorem txDataPadding_add (n : UInt32) :
    (n + txDataPadding n).toNat = (n.toNat + 31) / 32 * 32 % 2 ^ 32 := by
  have hn := n.toNat_lt
  -- the mask takes the negated length modulo 32
  have hmod : ∀ k, k &&& 31 = k % 32 := fun k ↦ Nat.and_two_pow_sub_one_eq_mod k 5
  have hmask : (31 : UInt32).toNat = 31 := rfl
  have hone : (1 : UInt32).toNat = 1 := rfl
  simp only [txDataPadding, UInt32.toNat_add, UInt32.toNat_and, UInt32.toNat_not, UInt32.size,
    hmask, hone, hmod]
  omega

namespace DataBuf

variable (data : DataBuf)

/-- The offsets that the loop reaches: no sum of a `size_t` wraps. -/
def Reached (dataOffset : Nat) : Prop := dataOffset < 2 ^ 63 + 32

theorem takes_iff {dataOffset : Nat} (h : Reached dataOffset) (tbLen : UInt32) :
    data.takes dataOffset tbLen = true ↔
      data.present = true ∧ dataOffset + tbLen.toNat ≤ data.len := by
  have hlt := tbLen.toNat_lt
  have hsum : (dataOffset + tbLen.toNat) % 2 ^ 64 = dataOffset + tbLen.toNat := by
    unfold Reached at h
    omega
  rw [takes, hsum, Bool.and_eq_true, decide_eq_true_iff]

theorem advance_reached (dataOffset : Nat) (p : TxDataReqPdu) (h : Reached dataOffset) :
    Reached (dataOffset + data.advance dataOffset p) := by
  unfold advance
  split
  -- a block that was taken ends inside the buffer, and its padding adds less than 32 bytes
  · next ht =>
    have hfit := ((data.takes_iff h _).mp ht).2
    have hlen := data.len_lt
    rw [txDataPadding_add]
    unfold Reached at h ⊢
    omega
  · exact h

theorem dvd_advance (dataOffset : Nat) (p : TxDataReqPdu) : 32 ∣ data.advance dataOffset p := by
  unfold advance
  split
  · rw [txDataPadding_add]
    omega
  · exact Nat.dvd_zero 32

theorem offset_reached (pdus : List TxDataReqPdu) : Reached (data.offset pdus) :=
  Bump.cursor_induction data.advance data.advance_reached (by unfold Reached; omega) pdus

theorem descriptors_append (dataOffset : Nat) (xs ys : List TxDataReqPdu) :
    data.descriptors dataOffset (xs ++ ys) = data.descriptors dataOffset xs ++
      data.descriptors (Bump.cursor data.advance dataOffset xs) ys := by
  induction xs generalizing dataOffset with
  | nil => rfl
  | cons x xs ih =>
      simp only [List.cons_append, descriptors, ih]
      rfl

theorem descriptors_length (dataOffset : Nat) (pdus : List TxDataReqPdu) :
    (data.descriptors dataOffset pdus).length = pdus.length := by
  induction pdus generalizing dataOffset with
  | nil => rfl
  | cons p ps ih => simp only [descriptors, List.length_cons, ih]

theorem copied_append (m : Mem) (dataOffset : Nat) (xs ys : List TxDataReqPdu) :
    data.copied m dataOffset (xs ++ ys) =
      data.copied (data.copied m dataOffset xs) (Bump.cursor data.advance dataOffset xs) ys := by
  induction xs generalizing m dataOffset with
  | nil => rfl
  | cons x xs ih => exact ih _ _

-- blocks are copied at or above the offset, so what lies below it is final
theorem copied_load (m : Mem) {a n dataOffset : Nat} (h : a + n ≤ dataOffset)
    (pdus : List TxDataReqPdu) : (data.copied m dataOffset pdus).load a n = m.load a n := by
  induction pdus generalizing m dataOffset with
  | nil => rfl
  | cons p ps ih =>
      rw [copied, ih _ (by omega)]
      split
      · exact Mem.load_store_disjoint m _ (.inl h)
      · rfl

end DataBuf

/-! ## What the loop leaves -/

@[simp] theorem TxDataDescriptor.encode_length (d : TxDataDescriptor) : d.encode.length = 18 := rfl

theorem txDataTurn_eq (data : DataBuf) (pduPtr : Cursor) (m : Mem) {dataOffset : Nat}
    (h : DataBuf.Reached dataOffset) (p : TxDataReqPdu) :
    txDataTurn data ⟨pduPtr, m, dataOffset⟩ p =
      ⟨pduPtr.put (txDataDescriptor p dataOffset).encode, data.copied m dataOffset [p],
        dataOffset + data.advance dataOffset p⟩ := by
  have hput : (((((pduPtr.put32 (p.tbLen)).put16 p.pduIndex).put32 1).put16
      scfTxDataOffsetTag).put16 (p.tbLen).toUInt16).put32
      (UInt32.ofNat dataOffset) = pduPtr.put (txDataDescriptor p dataOffset).encode := by
    simp only [Cursor.put32, Cursor.put16, Cursor.put_put, List.append_assoc,
      TxDataDescriptor.encode, txDataDescriptor]
  -- the offset behind the block is reached too, so its sum does not wrap
  have hnext := data.advance_reached dataOffset p h
  simp only [txDataTurn, hput, DataBuf.copied]
  by_cases ht : data.takes dataOffset (p.tbLen) = true
  · simp only [DataBuf.advance, if_pos ht] at hnext ⊢
    rw [Nat.mod_eq_of_lt (by unfold DataBuf.Reached at hnext; omega)]
  · simp only [DataBuf.advance, if_neg ht, Nat.add_zero]

theorem foldl_txDataTurn (data : DataBuf) (pdus : List TxDataReqPdu) (pduPtr : Cursor) (m : Mem)
    {dataOffset : Nat} (h : DataBuf.Reached dataOffset) :
    pdus.foldl (txDataTurn data) ⟨pduPtr, m, dataOffset⟩ =
      ⟨pduPtr.put ((data.descriptors dataOffset pdus).flatMap TxDataDescriptor.encode),
        data.copied m dataOffset pdus, Bump.cursor data.advance dataOffset pdus⟩ := by
  induction pdus generalizing pduPtr m dataOffset with
  | nil =>
      rw [DataBuf.descriptors, List.flatMap_nil, Cursor.put_nil]
      rfl
  | cons p ps ih =>
      rw [List.foldl_cons, txDataTurn_eq data pduPtr m h p,
        ih _ _ (data.advance_reached dataOffset p h), Cursor.put_put]
      rfl

theorem txDataBody_length (msg : TxDataRequest) (data : DataBuf) :
    (txDataBody msg data).length = 6 + 18 * msg.pdus.length := by
  simp only [txDataBody, List.length_append, le16_length,
    length_flatMap_eq TxDataDescriptor.encode_length, DataBuf.descriptors_length]
  omega

/-- Everything a request whose header fits leaves behind. -/
theorem serializeTxDataRequest_eq (msg : TxDataRequest) (msgBuf : Mem) {msgBufLen : Nat}
    (dataBuf : Mem) (data : DataBuf) (cellId : UInt8) (h : 14 ≤ msgBufLen) :
    serializeTxDataRequest msg msgBuf msgBufLen dataBuf data cellId =
      ⟨⟨staticCastInt (14 + 18 * msg.pdus.length),
          msgBuf.store 0 ((⟨1, cellId, scfMsgIdTxDataRequest,
            UInt32.ofNat (6 + 18 * msg.pdus.length)⟩ : ScfHeader).encode ++ txDataBody msg data),
          [.fetchAdd .txDataReqs 1, .fetchAdd .txDataBytes (data.offset msg.pdus)]⟩,
        data.copied dataBuf 0 msg.pdus, data.offset msg.pdus⟩ := by
  have hloop := foldl_txDataTurn data msg.pdus
    ((((⟨msgBuf, 8⟩ : Cursor).put16 msg.slot.sfn).put16 msg.slot.slot).put16
      (UInt16.ofNat msg.pdus.length)) dataBuf
    (by unfold DataBuf.Reached; omega : DataBuf.Reached 0)
  -- header fields and descriptors are one store at byte 8
  have hput : ((((⟨msgBuf, 8⟩ : Cursor).put16 msg.slot.sfn).put16 msg.slot.slot).put16
      (UInt16.ofNat msg.pdus.length)).put
      ((data.descriptors 0 msg.pdus).flatMap TxDataDescriptor.encode) =
      ⟨msgBuf.store 8 (txDataBody msg data), 14 + 18 * msg.pdus.length⟩ := by
    simp only [Cursor.put16, Cursor.put_put, List.append_assoc]
    rw [← txDataBody, Cursor.put, txDataBody_length]
    simp only [Cursor.mk.injEq, true_and]
    omega
  rw [hput] at hloop
  have hlen : 14 + 18 * msg.pdus.length - 8 = 6 + 18 * msg.pdus.length := by omega
  rw [serializeTxDataRequest, if_neg (Nat.not_lt.mpr h)]
  simp only [slotToSfnSlot, hloop, hlen, writeHeaders_store]
  rfl

theorem serializeTxDataRequest_ret (msg : TxDataRequest) (msgBuf : Mem) {msgBufLen : Nat}
    (dataBuf : Mem) (data : DataBuf) (cellId : UInt8) (h : 14 ≤ msgBufLen) :
    (serializeTxDataRequest msg msgBuf msgBufLen dataBuf data cellId).ret =
      staticCastInt (14 + 18 * msg.pdus.length) := by
  rw [serializeTxDataRequest_eq msg msgBuf dataBuf data cellId h]

theorem serializeTxDataRequest_buf (msg : TxDataRequest) (msgBuf : Mem) {msgBufLen : Nat}
    (dataBuf : Mem) (data : DataBuf) (cellId : UInt8) (h : 14 ≤ msgBufLen) :
    (serializeTxDataRequest msg msgBuf msgBufLen dataBuf data cellId).buf =
      msgBuf.store 0 ((⟨1, cellId, scfMsgIdTxDataRequest,
        UInt32.ofNat (6 + 18 * msg.pdus.length)⟩ : ScfHeader).encode ++ txDataBody msg data) := by
  rw [serializeTxDataRequest_eq msg msgBuf dataBuf data cellId h]

end AerialBridge
