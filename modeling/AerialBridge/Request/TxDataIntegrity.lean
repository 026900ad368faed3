import AerialBridge.Request.TxData

/-!
# Descriptors and data of TX_DATA.request

Each descriptor announces where its block stands in the data buffer.  The descriptors are written
whether or not the block was copied, so they are right exactly when every non-empty block fits
behind the ones before it, each rounded up to 32 bytes, and below the reach of the 32-bit offset.
-/

namespace AerialBridge

open Bytes

/-- The offset in the TLV of descriptor `i`, as it stands in the message. -/
def TxDataResult.offsetValue (r : TxDataResult) (i : Nat) : Nat :=
  (r.buf.load32 (14 + 18 * i + 14)).toNat

/-- Every descriptor announces the bytes of its block, inside the data that was written, and no two
blocks share a byte. -/
structure TxDataRequest.Integrity (msg : TxDataRequest) (r : TxDataResult) : Prop where
  announced : ∀ before p after, msg.pdus = before ++ p :: after →
    r.offsetValue before.length + p.pdu.length ≤ r.dataBytesWritten ∧
      r.dataBuf.load (r.offsetValue before.length) p.pdu.length = p.pdu
  disjoint : ∀ before p mid q after, msg.pdus = before ++ p :: (mid ++ q :: after) →
    p.pdu ≠ [] → q.pdu ≠ [] →
    r.offsetValue before.length + p.pdu.length ≤ r.offsetValue (before ++ p :: mid).length ∨
      r.offsetValue (before ++ p :: mid).length + q.pdu.length ≤ r.offsetValue before.length

/-- The room that the blocks take, each rounded up to 32 bytes. -/
def alignedSum (pdus : List TxDataReqPdu) : Nat :=
  (pdus.map fun p ↦ (p.pdu.length + 31) / 32 * 32).sum

/-- Every non-empty block fits behind the ones before it. -/
def TxDataRequest.Fits (msg : TxDataRequest) (data : DataBuf) : Prop :=
  ∀ before p after, msg.pdus = before ++ p :: after → p.pdu ≠ [] →
    data.present = true ∧ p.pdu.length ≤ 2 ^ 32 - 32 ∧ alignedSum before < 2 ^ 32 ∧
      alignedSum before + p.pdu.length ≤ data.len

/-! ## The message and the data offset -/

-- descriptor `i` stands behind the two headers and `i` descriptors of 18 bytes
theorem offsetValue_eq (msg : TxDataRequest) (msgBuf : Mem) {msgBufLen : Nat} (dataBuf : Mem)
    (data : DataBuf) (cellId : UInt8) (h : 14 ≤ msgBufLen) {before after : List TxDataReqPdu}
    {p : TxDataReqPdu} (hsplit : msg.pdus = before ++ p :: after) :
    (serializeTxDataRequest msg msgBuf msgBufLen dataBuf data cellId).offsetValue before.length =
      data.offset before % 2 ^ 32 := by
  let d := txDataDescriptor p (data.offset before)
  let header : ScfHeader :=
    ⟨1, cellId, scfMsgIdTxDataRequest, UInt32.ofNat (6 + 18 * msg.pdus.length)⟩
  let front := header.encode ++ (le16 msg.slot.sfn ++ (le16 msg.slot.slot ++
    (le16 (UInt16.ofNat msg.pdus.length) ++
      ((data.descriptors 0 before).flatMap TxDataDescriptor.encode ++
        (le32 d.pduLen ++ (le16 d.pduIndex ++ (le32 1 ++ (le16 scfTxDataOffsetTag ++
          le16 d.length))))))))
  let back := (data.descriptors (data.offset before + data.advance (data.offset before) p)
    after).flatMap TxDataDescriptor.encode
  have hbytes : header.encode ++ txDataBody msg data = front ++ le32 d.value ++ back := by
    simp only [txDataBody, hsplit, data.descriptors_append, List.flatMap_append,
      DataBuf.descriptors, List.flatMap_cons, TxDataDescriptor.encode, List.append_assoc, front,
      back, d, DataBuf.offset]
  have hfront : front.length = 14 + 18 * before.length + 14 := by
    simp only [front, List.length_append, ScfHeader.encode_length, le16_length, le32_length,
      length_flatMap_eq TxDataDescriptor.encode_length, data.descriptors_length]
    omega
  have hload := msgBuf.load32_store_part 0 front d.value back
  rw [Nat.zero_add, hfront] at hload
  rw [TxDataResult.offsetValue, serializeTxDataRequest_eq msg msgBuf dataBuf data cellId h]
  show (Mem.load32 (msgBuf.store 0 (header.encode ++ txDataBody msg data)) _).toNat = _
  rw [hbytes, hload]
  exact UInt32.toNat_ofNat'

theorem dvd_offset (data : DataBuf) (pdus : List TxDataReqPdu) : 32 ∣ data.offset pdus :=
  Bump.dvd_cursor data.advance data.dvd_advance (Nat.dvd_zero 32) pdus

theorem tbLen_toNat_le (p : TxDataReqPdu) : p.tbLen.toNat ≤ p.pdu.length := by
  rw [TxDataReqPdu.tbLen, UInt32.toNat_ofNat']
  exact Nat.mod_le _ _

/-- An aligned position in the slot of a block is inside the block. -/
theorem lt_of_slot {data : DataBuf} {c y : Nat} {p : TxDataReqPdu} (hc : 32 ∣ c) (hy : 32 ∣ y)
    (hlt : y < c + data.advance c p) : y < c + p.pdu.length := by
  have hle := tbLen_toNat_le p
  unfold DataBuf.advance at hlt
  split at hlt
  · rw [txDataPadding_add] at hlt
    omega
  · omega

/-- A block is copied whole exactly when the offset moves past it. -/
theorem advance_eq_iff {data : DataBuf} {c : Nat} (hc : DataBuf.Reached c) {p : TxDataReqPdu}
    (hp : p.pdu ≠ []) : p.pdu.length ≤ data.advance c p ↔
      data.present = true ∧ p.pdu.length ≤ 2 ^ 32 - 32 ∧ c + p.pdu.length ≤ data.len := by
  have hpos := List.length_pos_iff.mpr hp
  have htb : p.tbLen.toNat = p.pdu.length % 2 ^ 32 := UInt32.toNat_ofNat'
  have htakes := data.takes_iff hc p.tbLen
  unfold DataBuf.advance
  by_cases ht : data.takes c p.tbLen = true
  -- taken by its 32-bit length: the advance covers the block when that length is the real one
  · obtain ⟨hpresent, hfit⟩ := htakes.mp ht
    rw [if_pos ht, txDataPadding_add, htb]
    rw [htb] at hfit
    simp only [hpresent, true_and]
    omega
  · rw [if_neg ht]
    constructor
    · intro h
      omega
    · rintro ⟨hpresent, hlen, hfit⟩
      exact absurd (htakes.mpr ⟨hpresent, by rw [htb]; omega⟩) ht

theorem advance_of_le {data : DataBuf} {c : Nat} {p : TxDataReqPdu}
    (hle : p.pdu.length ≤ data.advance c p) :
    data.advance c p = (p.pdu.length + 31) / 32 * 32 := by
  have htb : p.tbLen.toNat = p.pdu.length % 2 ^ 32 := UInt32.toNat_ofNat'
  unfold DataBuf.advance at hle ⊢
  split at hle
  · next ht =>
    rw [txDataPadding_add, htb] at hle
    rw [if_pos ht, txDataPadding_add, htb]
    omega
  · next ht =>
    rw [if_neg ht]
    omega

/-! ## Blocks that fit keep their integrity -/

/-- The offset is the aligned sum as long as every block before it was copied whole. -/
theorem offset_eq_alignedSum {msg : TxDataRequest} {data : DataBuf}
    (h : ∀ before p after, msg.pdus = before ++ p :: after → p.pdu ≠ [] →
      data.offset before = alignedSum before →
      p.pdu.length ≤ data.advance (data.offset before) p)
    (before after : List TxDataReqPdu) (hsplit : msg.pdus = before ++ after) :
    data.offset before = alignedSum before := by
  induction before using List.reverseRecOn generalizing after with
  | nil => rfl
  | append_singleton xs p ih =>
      rw [List.append_assoc] at hsplit
      have hxs := ih _ hsplit
      have hle : p.pdu.length ≤ data.advance (data.offset xs) p := by
        -- an empty block needs no room
        by_cases hp : p.pdu = []
        · rw [hp]
          exact Nat.zero_le _
        · exact h xs p after hsplit hp hxs
      have hstep : data.offset (xs ++ [p]) =
          data.offset xs + data.advance (data.offset xs) p := Bump.cursor_concat _ _ _ _
      rw [hstep, advance_of_le hle, hxs]
      simp only [alignedSum, List.map_append, List.sum_append, List.map_cons, List.map_nil,
        List.sum_cons, List.sum_nil, Nat.add_zero]

/-- A block that fits behind the aligned sizes of those before it is copied whole there. -/
theorem TxDataRequest.Fits.le_advance {msg : TxDataRequest} {data : DataBuf} (h : msg.Fits data)
    {before after : List TxDataReqPdu} {p : TxDataReqPdu} (hsplit : msg.pdus = before ++ p :: after)
    (hp : p.pdu ≠ []) (hoff : data.offset before = alignedSum before) :
    p.pdu.length ≤ data.advance (data.offset before) p := by
  obtain ⟨hpresent, hlen, -, hfit⟩ := h before p after hsplit hp
  rw [advance_eq_iff (data.offset_reached before) hp, hoff]
  exact ⟨hpresent, hlen, hfit⟩

theorem TxDataRequest.Fits.offset_eq {msg : TxDataRequest} {data : DataBuf} (h : msg.Fits data)
    {before after : List TxDataReqPdu} (hsplit : msg.pdus = before ++ after) :
    data.offset before = alignedSum before := by
  apply offset_eq_alignedSum _ before after hsplit
  intro b p a hs hp hoff
  exact h.le_advance hs hp hoff

/-- A non-empty block stands at its data offset, and the offset moves past it. -/
theorem TxDataRequest.Fits.offsetValue_eq {msg : TxDataRequest} (msgBuf : Mem) {msgBufLen : Nat}
    (dataBuf : Mem) {data : DataBuf} (cellId : UInt8) (hroom : 14 ≤ msgBufLen) (h : msg.Fits data)
    {before after : List TxDataReqPdu} {p : TxDataReqPdu} (hsplit : msg.pdus = before ++ p :: after)
    (hp : p.pdu ≠ []) :
    (serializeTxDataRequest msg msgBuf msgBufLen dataBuf data cellId).offsetValue before.length =
        data.offset before ∧ p.pdu.length ≤ data.advance (data.offset before) p := by
  have hoff := h.offset_eq hsplit
  have hlt := (h before p after hsplit hp).2.2.1
  rw [AerialBridge.offsetValue_eq msg msgBuf dataBuf data cellId hroom hsplit]
  exact ⟨Nat.mod_eq_of_lt (by omega), h.le_advance hsplit hp hoff⟩

/-- The copy of a block that is copied whole is not touched by the blocks behind it. -/
theorem copied_load_of_le_advance {pdus before after : List TxDataReqPdu} (dataBuf : Mem)
    {data : DataBuf} {p : TxDataReqPdu} (hsplit : pdus = before ++ p :: after) (hp : p.pdu ≠ [])
    (hle : p.pdu.length ≤ data.advance (data.offset before) p) :
    (data.copied dataBuf 0 pdus).load (data.offset before) p.pdu.length = p.pdu := by
  obtain ⟨hpresent, hlen, hfit⟩ := (advance_eq_iff (data.offset_reached before) hp).mp hle
  have htb : p.tbLen.toNat = p.pdu.length := by
    rw [TxDataReqPdu.tbLen, UInt32.toNat_ofNat', Nat.mod_eq_of_lt (by omega)]
  have htakes := (data.takes_iff (data.offset_reached before) p.tbLen).mpr
    ⟨hpresent, by rw [htb]; exact hfit⟩
  rw [hsplit, data.copied_append, DataBuf.copied]
  change (DataBuf.copied data (if data.takes (data.offset before) p.tbLen = true then _ else _)
    (data.offset before + data.advance (data.offset before) p) after).load _ _ = _
  rw [data.copied_load _ (by omega), if_pos htakes, htb, List.take_length]
  exact Mem.load_store _ _ _

theorem integrity_of_fits {msg : TxDataRequest} (msgBuf : Mem) {msgBufLen : Nat} (dataBuf : Mem)
    {data : DataBuf} (cellId : UInt8) (hroom : 14 ≤ msgBufLen) (h : msg.Fits data) :
    msg.Integrity (serializeTxDataRequest msg msgBuf msgBufLen dataBuf data cellId) := by
  have hr := serializeTxDataRequest_eq msg msgBuf dataBuf data cellId hroom
  constructor
  · intro before p after hsplit
    have hslot := Bump.slot_le_cursor data.advance 0 before p after
    rw [← hsplit] at hslot
    change data.offset before + data.advance (data.offset before) p ≤ data.offset msg.pdus at hslot
    by_cases hp : p.pdu = []
    -- an empty block announces no bytes, at an offset that may have wrapped
    · rw [offsetValue_eq msg msgBuf dataBuf data cellId hroom hsplit, hr, hp]
      have hmod := Nat.mod_le (data.offset before) (2 ^ 32)
      exact ⟨by simp only [List.length_nil]; omega, rfl⟩
    · obtain ⟨hvalue, hle⟩ := h.offsetValue_eq msgBuf dataBuf cellId hroom hsplit hp
      rw [hvalue, hr]
      refine ⟨?_, copied_load_of_le_advance dataBuf hsplit hp hle⟩
      show data.offset before + p.pdu.length ≤ data.offset msg.pdus
      omega
  · intro before p mid q after hsplit hp hq
    have hsplit' : msg.pdus = (before ++ p :: mid) ++ q :: after := by
      rw [hsplit, List.append_assoc, List.cons_append]
    -- the later block starts behind the slot of the earlier one
    have hslot := Bump.slot_le_cursor data.advance 0 before p mid
    change data.offset before + data.advance (data.offset before) p ≤
      data.offset (before ++ p :: mid) at hslot
    obtain ⟨hvp, hle⟩ := h.offsetValue_eq msgBuf dataBuf cellId hroom hsplit hp
    obtain ⟨hvq, -⟩ := h.offsetValue_eq msgBuf dataBuf cellId hroom hsplit' hq
    rw [hvp, hvq]
    omega

/-! ## Integrity makes every block fit -/

section Integrity

variable {msg : TxDataRequest} {msgBuf : Mem} {msgBufLen : Nat} {dataBuf : Mem} {data : DataBuf}
  {cellId : UInt8}

-- an offset from 2^32 on wraps into the slot of a block before it
theorem offset_lt_of_integrity (hroom : 14 ≤ msgBufLen)
    (h : msg.Integrity (serializeTxDataRequest msg msgBuf msgBufLen dataBuf data cellId))
    {before after : List TxDataReqPdu} {p : TxDataReqPdu} (hsplit : msg.pdus = before ++ p :: after)
    (hp : p.pdu ≠ []) : data.offset before < 2 ^ 32 := by
  by_contra hge
  have hpos := List.length_pos_iff.mpr hp
  have hdvd := dvd_offset data before
  -- the block `x` whose slot holds the wrapped offset
  obtain ⟨b, x, a, rfl, hle, hlt⟩ :=
    Bump.exists_slot data.advance (Nat.zero_le (data.offset before % 2 ^ 32))
      (by change _ < data.offset before; omega)
  have hin := lt_of_slot (dvd_offset data b) (by omega) hlt
  have hsplit' : msg.pdus = b ++ x :: (a ++ p :: after) := by
    rw [hsplit, List.append_assoc, List.cons_append]
  have hx : x.pdu ≠ [] := by
    rw [← List.length_pos_iff]
    change data.offset b ≤ _ at hle
    omega
  have hdisj := h.disjoint b x a p after hsplit' hx hp
  rw [offsetValue_eq msg msgBuf dataBuf data cellId hroom hsplit',
    offsetValue_eq msg msgBuf dataBuf data cellId hroom hsplit] at hdisj
  change data.offset b ≤ _ at hle
  change _ < data.offset b + _ at hin
  have hmod : data.offset b % 2 ^ 32 = data.offset b := Nat.mod_eq_of_lt (by omega)
  omega

-- otherwise the block that moves the offset on stands inside this one
theorem copied_of_integrity (hroom : 14 ≤ msgBufLen)
    (h : msg.Integrity (serializeTxDataRequest msg msgBuf msgBufLen dataBuf data cellId))
    {before after : List TxDataReqPdu} {p : TxDataReqPdu} (hsplit : msg.pdus = before ++ p :: after)
    (hp : p.pdu ≠ []) : p.pdu.length ≤ data.advance (data.offset before) p := by
  by_contra hshort
  have hpos := List.length_pos_iff.mpr hp
  have hlow := offset_lt_of_integrity hroom h hsplit hp
  have hvalue := offsetValue_eq msg msgBuf dataBuf data cellId hroom hsplit
  rw [Nat.mod_eq_of_lt hlow] at hvalue
  have hend := (h.announced before p after hsplit).1
  rw [hvalue, serializeTxDataRequest_eq msg msgBuf dataBuf data cellId hroom] at hend
  have hnext : data.offset (before ++ [p]) =
      data.offset before + data.advance (data.offset before) p := Bump.cursor_concat _ _ _ _
  have htail : data.offset msg.pdus =
      Bump.cursor data.advance (data.offset (before ++ [p])) after := by
    rw [hsplit, List.append_cons]
    exact Bump.cursor_append _ _ _ _
  change data.offset before + _ ≤ data.offset msg.pdus at hend
  -- the announced end is passed only because a later block moves the offset on
  have hpassed : data.offset (before ++ [p]) <
      Bump.cursor data.advance (data.offset (before ++ [p])) after := by omega
  obtain ⟨b, x, a, rfl, hle, hlt⟩ := Bump.exists_slot data.advance le_rfl hpassed
  have hmono := Bump.cursor_mono data.advance (data.offset (before ++ [p])) b
  have hxoff : data.offset (before ++ p :: b) = data.offset (before ++ [p]) := by
    rw [List.append_cons]
    exact (Bump.cursor_append _ _ _ _).trans (le_antisymm hle hmono)
  rw [le_antisymm hle hmono] at hlt
  -- that block starts at an aligned position inside this one
  have hin := lt_of_slot (dvd_offset data _) (dvd_offset data _) hlt
  have hx : x.pdu ≠ [] := by
    rw [← List.length_pos_iff]
    omega
  have hsplit' : msg.pdus = (before ++ p :: b) ++ x :: a := by
    rw [hsplit, List.append_assoc, List.cons_append]
  have hxlow := offset_lt_of_integrity hroom h hsplit' hx
  have hdisj := h.disjoint before p b x a hsplit hp hx
  rw [hvalue, offsetValue_eq msg msgBuf dataBuf data cellId hroom hsplit',
    Nat.mod_eq_of_lt hxlow] at hdisj
  omega

theorem fits_of_integrity (hroom : 14 ≤ msgBufLen)
    (h : msg.Integrity (serializeTxDataRequest msg msgBuf msgBufLen dataBuf data cellId)) :
    msg.Fits data := by
  intro before p after hsplit hp
  have hoff := @offset_eq_alignedSum msg data
    (fun b x a hs hx _ ↦ copied_of_integrity hroom h hs hx) before (p :: after) hsplit
  have hlow := offset_lt_of_integrity hroom h hsplit hp
  have hle := copied_of_integrity hroom h hsplit hp
  obtain ⟨hpresent, hlen, hfit⟩ := (advance_eq_iff (data.offset_reached before) hp).mp hle
  rw [hoff] at hlow hfit
  exact ⟨hpresent, hlen, hlow, hfit⟩

end Integrity

/-- A request is refused when its header does not fit. -/
theorem header_of_ret_nonneg {msg : TxDataRequest} {msgBuf : Mem} {msgBufLen : Nat} {dataBuf : Mem}
    {data : DataBuf} {cellId : UInt8}
    (h : 0 ≤ (serializeTxDataRequest msg msgBuf msgBufLen dataBuf data cellId).ret) :
    14 ≤ msgBufLen := by
  by_contra hlt
  rw [serializeTxDataRequest, if_pos (by omega)] at h
  change (0 : Int) ≤ -1 at h
  omega

-- when the call succeeds, the descriptors tell the truth exactly when every non-empty block fits
theorem serializeTxDataRequest_integrity_iff (msg : TxDataRequest) (msgBuf : Mem)
    (msgBufLen : Nat) (dataBuf : Mem) (data : DataBuf) (cellId : UInt8)
    (hret : 0 ≤ (serializeTxDataRequest msg msgBuf msgBufLen dataBuf data cellId).ret) :
    msg.Integrity (serializeTxDataRequest msg msgBuf msgBufLen dataBuf data cellId) ↔
      msg.Fits data := by
  have hroom := header_of_ret_nonneg hret
  exact ⟨fits_of_integrity hroom, integrity_of_fits msgBuf dataBuf cellId hroom⟩

theorem serializeTxDataRequest_integrity_two :
    twoBlocks.Integrity
      (serializeTxDataRequest twoBlocks .zeros 15000 .zeros cpuDataPool 0) := by
  apply (serializeTxDataRequest_integrity_iff twoBlocks .zeros 15000 .zeros cpuDataPool 0 _).mpr
  · intro before p after hsplit _
    rcases before with _ | ⟨b, _ | ⟨b', bs⟩⟩
    · injection hsplit with hp _
      rw [← hp]
      decide
    · injection hsplit with hb hrest
      injection hrest with hp _
      rw [← hp, ← hb]
      decide
    · injection hsplit with _ hrest
      injection hrest with _ hnil
      exact absurd (congrArg List.length hnil) (by simp)
  · rw [serializeTxDataRequest_ret _ _ _ _ _ (by omega)]
    decide

/-- A data buffer of 32 bytes. -/
def smallDataPool : DataBuf := ⟨true, 32, by decide⟩

-- a block of 40 bytes does not fit, the one of 8 bytes behind it does: both are announced at
-- offset 0 by a call that succeeds
theorem serializeTxDataRequest_integrity_fails :
    0 ≤ (serializeTxDataRequest (txDataOfSizes [40, 8]) .zeros 15000 .zeros
      smallDataPool 0).ret ∧
    ¬ (txDataOfSizes [40, 8]).Integrity
      (serializeTxDataRequest (txDataOfSizes [40, 8]) .zeros 15000 .zeros
        smallDataPool 0) := by
  constructor
  · rw [serializeTxDataRequest_ret _ _ _ _ _ (by omega)]
    decide
  · intro h
    have hfit := fits_of_integrity (by omega) h [] _ _ rfl (by decide)
    exact absurd hfit.2.2.2 (by decide)

end AerialBridge
