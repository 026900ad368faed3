import AerialBridge.Request.TxData

/-!
# The control part of TX_DATA.request read back

A parser of the documented layout takes every control part apart again.  The size of a block stands
in a 32-bit and in a 16-bit field, so the two agree with the block exactly for blocks below 64 KiB.
-/

namespace AerialBridge

open Bytes Bytes.Parser

structure TxDataTlv where
  tag : UInt16
  length : UInt16
  value : UInt32
  deriving DecidableEq, Repr

structure TxDataPduInfo where
  pduLen : UInt32
  pduIndex : UInt16
  tlvs : List TxDataTlv
  deriving DecidableEq, Repr

structure ScfTxDataReq where
  sfn : UInt16
  slot : UInt16
  pdus : List TxDataPduInfo
  deriving DecidableEq, Repr

def txDataTlv : Parser TxDataTlv := do
  let tag ← u16
  let length ← u16
  let value ← u32
  pure ⟨tag, length, value⟩

def txDataPduInfo : Parser TxDataPduInfo := do
  let pduLen ← u32
  let pduIndex ← u16
  let numTlv ← u32
  let tlvs ← txDataTlv.times numTlv.toNat
  pure ⟨pduLen, pduIndex, tlvs⟩

def scfTxDataReq : Parser ScfTxDataReq := do
  let sfn ← u16
  let slot ← u16
  let numPdus ← u16
  let pdus ← txDataPduInfo.times numPdus.toNat
  pure ⟨sfn, slot, pdus⟩

def TxDataDescriptor.info (d : TxDataDescriptor) : TxDataPduInfo :=
  ⟨d.pduLen, d.pduIndex, [⟨scfTxDataOffsetTag, d.length, d.value⟩]⟩

/-- What the descriptor of a block has to say: its index, and one offset TLV with its size. -/
def TxDataReqPdu.DescribedBy (p : TxDataReqPdu) (info : TxDataPduInfo) : Prop :=
  info.pduIndex = p.pduIndex ∧ info.pduLen.toNat = p.pdu.length ∧
    ∃ length value, info.tlvs = [⟨scfTxDataOffsetTag, length, value⟩] ∧
      length.toNat = p.pdu.length

/-- The message reads back with the blocks described in order. -/
def TxDataRequest.RoundTrip (msg : TxDataRequest) (cellId : UInt8) (r : TxDataResult) : Prop :=
  r.ReadsBack scfTxDataReq cellId scfMsgIdTxDataRequest fun req ↦
    req.sfn = msg.slot.sfn ∧ req.slot = msg.slot.slot ∧
      List.Forall₂ TxDataReqPdu.DescribedBy msg.pdus req.pdus

/-! ## Reading the descriptors -/

theorem txDataPduInfo_parses (d : TxDataDescriptor) : Parses txDataPduInfo d.encode d.info := by
  intro rest
  have hone : (1 : UInt32).toNat = 1 := rfl
  simp only [txDataPduInfo, txDataTlv, TxDataDescriptor.encode, List.append_assoc, bind_apply,
    u32_append, u16_append, Option.bind_some, hone, Parser.times, pure_apply,
    TxDataDescriptor.info]

theorem scfTxDataReq_parses (msg : TxDataRequest) (data : DataBuf)
    (hn : msg.pdus.length < 2 ^ 16) :
    Parses scfTxDataReq (txDataBody msg data)
      ⟨msg.slot.sfn, msg.slot.slot, (data.descriptors 0 msg.pdus).map TxDataDescriptor.info⟩ := by
  intro rest
  have hcount : (UInt16.ofNat msg.pdus.length).toNat = (data.descriptors 0 msg.pdus).length := by
    rw [UInt16.toNat_ofNat_of_lt' hn, data.descriptors_length]
  have hpdus := Parses.times (data.descriptors 0 msg.pdus) (fun d _ ↦ txDataPduInfo_parses d) rest
  simp only [scfTxDataReq, txDataBody, List.append_assoc, bind_apply, u16_append, Option.bind_some,
    hcount, hpdus, pure_apply]

/-- The message of a request whose control part fits. -/
theorem serializeTxDataRequest_readsBack (msg : TxDataRequest) (msgBuf : Mem) {msgBufLen : Nat}
    (dataBuf : Mem) (data : DataBuf) (cellId : UInt8) (hn : msg.pdus.length < 2 ^ 16)
    (hroom : 14 ≤ msgBufLen) {P : ScfTxDataReq → Prop}
    (hP : P ⟨msg.slot.sfn, msg.slot.slot,
      (data.descriptors 0 msg.pdus).map TxDataDescriptor.info⟩) :
    (serializeTxDataRequest msg msgBuf msgBufLen dataBuf data cellId).ReadsBack scfTxDataReq
      cellId scfMsgIdTxDataRequest P := by
  have hret := serializeTxDataRequest_ret msg msgBuf dataBuf data cellId hroom
  rw [show 14 + 18 * msg.pdus.length = 8 + (6 + 18 * msg.pdus.length) by omega] at hret
  have hbuf := serializeTxDataRequest_buf msg msgBuf dataBuf data cellId hroom
  exact SerializeResult.readsBack_of_parses hbuf hret (txDataBody_length msg data) (by omega)
    (scfTxDataReq_parses msg data hn) hP

/-! ## When the sizes survive -/

theorem describedBy_info_iff (p : TxDataReqPdu) (dataOffset : Nat) :
    p.DescribedBy (txDataDescriptor p dataOffset).info ↔ p.pdu.length < 2 ^ 16 := by
  -- `pdu_len` holds the size modulo 2^32, the TLV length what is left of that in 16 bits
  have hlen32 : (txDataDescriptor p dataOffset).pduLen.toNat = p.pdu.length % 2 ^ 32 :=
    UInt32.toNat_ofNat'
  have hlen16 : (txDataDescriptor p dataOffset).length.toNat = p.pdu.length % 2 ^ 32 % 2 ^ 16 := by
    rw [← hlen32]
    exact UInt32.toNat_toUInt16 _
  constructor
  · rintro ⟨-, -, length, value, htlvs, hlen⟩
    simp only [TxDataDescriptor.info, List.cons.injEq, TxDataTlv.mk.injEq, and_true] at htlvs
    rw [← htlvs.2.1, hlen16] at hlen
    omega
  · intro h
    exact ⟨rfl, by rw [TxDataDescriptor.info, hlen32]; omega, _, _, rfl, by rw [hlen16]; omega⟩

/-- What is said of each block and its descriptor, wherever the block is put. -/
theorem forall₂_descriptors_iff {R : TxDataReqPdu → TxDataPduInfo → Prop}
    {P : TxDataReqPdu → Prop}
    (h : ∀ p dataOffset, R p (txDataDescriptor p dataOffset).info ↔ P p) (data : DataBuf)
    (pdus : List TxDataReqPdu) (dataOffset : Nat) :
    List.Forall₂ R pdus ((data.descriptors dataOffset pdus).map TxDataDescriptor.info) ↔
      ∀ p ∈ pdus, P p := by
  induction pdus generalizing dataOffset with
  | nil => simp [DataBuf.descriptors]
  | cons p ps ih =>
      rw [DataBuf.descriptors, List.map_cons, List.forall₂_cons, ih, h, List.forall_mem_cons]

theorem forall₂_describedBy_iff (data : DataBuf) (pdus : List TxDataReqPdu) (dataOffset : Nat) :
    List.Forall₂ TxDataReqPdu.DescribedBy pdus
      ((data.descriptors dataOffset pdus).map TxDataDescriptor.info) ↔
      ∀ p ∈ pdus, p.pdu.length < 2 ^ 16 :=
  forall₂_descriptors_iff describedBy_info_iff data pdus dataOffset

/-- Nothing but the size of a block can spoil the round trip. -/
theorem roundTrip_iff_described (msg : TxDataRequest) (msgBuf : Mem) {msgBufLen : Nat}
    (dataBuf : Mem) (data : DataBuf) (cellId : UInt8) (hn : msg.pdus.length < 2 ^ 16)
    (hroom : 14 ≤ msgBufLen) :
    msg.RoundTrip cellId (serializeTxDataRequest msg msgBuf msgBufLen dataBuf data cellId) ↔
      List.Forall₂ TxDataReqPdu.DescribedBy msg.pdus
        ((data.descriptors 0 msg.pdus).map TxDataDescriptor.info) := by
  constructor
  -- a message is read in one way only, so what the round trip says is said of the descriptors
  · intro h
    have hread := serializeTxDataRequest_readsBack msg msgBuf dataBuf data cellId hn hroom
      (rfl : _ = _)
    exact (hread.of_parses h).2.2
  · intro hdesc
    exact serializeTxDataRequest_readsBack msg msgBuf dataBuf data cellId hn hroom
      ⟨rfl, rfl, hdesc⟩

-- a request of at most 65535 blocks whose control part fits reads back as it was given exactly
-- when every block is shorter than 65536 bytes
theorem serializeTxDataRequest_roundTrip_iff (msg : TxDataRequest) (msgBuf : Mem)
    (msgBufLen : Nat) (dataBuf : Mem) (data : DataBuf) (cellId : UInt8)
    (hn : msg.pdus.length ≤ 65535) (hroom : 14 + 18 * msg.pdus.length ≤ msgBufLen) :
    msg.RoundTrip cellId (serializeTxDataRequest msg msgBuf msgBufLen dataBuf data cellId) ↔
      ∀ p ∈ msg.pdus, p.pdu.length < 65536 := by
  rw [roundTrip_iff_described msg msgBuf dataBuf data cellId (by omega) (by omega)]
  exact forall₂_describedBy_iff data msg.pdus 0

theorem serializeTxDataRequest_roundTrip_two :
    twoBlocks.RoundTrip 0
      (serializeTxDataRequest twoBlocks .zeros 15000 .zeros cpuDataPool 0) :=
  (serializeTxDataRequest_roundTrip_iff twoBlocks .zeros 15000 .zeros cpuDataPool 0
    (by decide) (by decide)).mpr (by decide)

-- a block of 64 KiB fits the data buffer, and its TLV announces no bytes
theorem serializeTxDataRequest_roundTrip_fails :
    ¬ (txDataOfSizes [65536]).RoundTrip 0
      (serializeTxDataRequest (txDataOfSizes [65536]) .zeros 15000 .zeros cpuDataPool 0) := by
  intro hround
  have h := (roundTrip_iff_described (txDataOfSizes [65536]) _ _ _ _
    (by show 1 < 2 ^ 16; omega) (by omega)).mp hround
  have hlen := (forall₂_describedBy_iff cpuDataPool _ 0).mp h _ List.mem_cons_self
  rw [List.length_replicate] at hlen
  omega

end AerialBridge
