import AerialBridge.Request.TxDataIntegrity

/-!
# Where TX_DATA.request puts the transport blocks

The fit test looks at the unpadded length and the data offset moves by the padded one.  In a buffer
whose capacity is a multiple of 32 the padding of a block that fits fits too, so the data offset
stays inside, at a multiple of 32.  It is announced in 32 bits.
-/

namespace AerialBridge

open Bytes

/-- `(~n + 1) & 31` is the least amount that rounds `n` up to a multiple of 32. -/
theorem txDataPadding_least (n : UInt32) :
    32 ∣ n.toNat + (txDataPadding n).toNat ∧
      ∀ k, 32 ∣ n.toNat + k → (txDataPadding n).toNat ≤ k := by
  have hn := n.toNat_lt
  have hmod : ∀ k, k &&& 31 = k % 32 := fun k ↦ Nat.and_two_pow_sub_one_eq_mod k 5
  have hval : (txDataPadding n).toNat = (32 - n.toNat % 32) % 32 := by
    have hmask : (31 : UInt32).toNat = 31 := rfl
    have hone : (1 : UInt32).toNat = 1 := rfl
    simp only [txDataPadding, UInt32.toNat_add, UInt32.toNat_and, UInt32.toNat_not, UInt32.size,
      hmask, hone, hmod]
    omega
  rw [hval]
  exact ⟨by omega, fun k hk ↦ by omega⟩

namespace DataBuf

variable {data : DataBuf}

/-- A block that is taken at an aligned offset ends, with its padding, inside an aligned buffer. -/
theorem add_advance_le (h32 : 32 ∣ data.len) {c : Nat} (hdvd : 32 ∣ c) (hle : c ≤ data.len)
    (p : TxDataReqPdu) : c + data.advance c p ≤ data.len := by
  have hreached : Reached c := by
    have hlt := data.len_lt
    unfold Reached
    omega
  unfold advance
  by_cases ht : data.takes c p.tbLen = true
  · have hfit := ((data.takes_iff hreached p.tbLen).mp ht).2
    rw [if_pos ht, txDataPadding_add]
    omega
  · rw [if_neg ht]
    exact hle

theorem offset_le (h32 : 32 ∣ data.len) (pdus : List TxDataReqPdu) :
    data.offset pdus ≤ data.len := by
  have hinv := Bump.cursor_induction data.advance (P := fun c ↦ 32 ∣ c ∧ c ≤ data.len)
    (fun c p hc ↦ ⟨Dvd.dvd.add hc.1 (data.dvd_advance c p), add_advance_le h32 hc.1 hc.2 p⟩)
    ⟨Nat.dvd_zero 32, Nat.zero_le data.len⟩ pdus
  exact hinv.2

theorem offset_mono (xs ys : List TxDataReqPdu) : data.offset xs ≤ data.offset (xs ++ ys) := by
  show _ ≤ Bump.cursor data.advance 0 (xs ++ ys)
  rw [Bump.cursor_append]
  exact Bump.cursor_mono data.advance _ ys

/-- A copy stays in front of the end of the buffer, and without a buffer there is none. -/
theorem copied_outside (m : Mem) {i : Nat} (hi : data.present = false ∨ data.len ≤ i) {c : Nat}
    (hc : Reached c) (pdus : List TxDataReqPdu) : data.copied m c pdus i = m i := by
  induction pdus generalizing m c with
  | nil => rfl
  | cons p ps ih =>
      rw [copied, ih _ (data.advance_reached c p hc)]
      by_cases ht : data.takes c p.tbLen = true
      · have hfit := (data.takes_iff hc p.tbLen).mp ht
        rw [if_pos ht]
        cases hi with
        | inl habsent =>
            rw [habsent] at hfit
            cases hfit.1
        | inr hge =>
            apply Mem.store_of_ge
            rw [List.length_take]
            omega
      · rw [if_neg ht]

end DataBuf

/-- The copies and the data length stay inside the announced capacity. -/
structure TxDataResult.Inside (r : TxDataResult) (dataBuf : Mem) (data : DataBuf) : Prop where
  copies : ∀ i, data.present = false ∨ data.len ≤ i → r.dataBuf i = dataBuf i
  written : r.dataBytesWritten ≤ data.len

/-- Every block is announced at a multiple of 32. -/
def TxDataRequest.Aligned (msg : TxDataRequest) (r : TxDataResult) : Prop :=
  ∀ i < msg.pdus.length, 32 ∣ r.offsetValue i

/-- No block is announced in front of one before it. -/
def TxDataRequest.Ascending (msg : TxDataRequest) (r : TxDataResult) : Prop :=
  ∀ i j, i ≤ j → j < msg.pdus.length → r.offsetValue i ≤ r.offsetValue j

section Placement

variable (msg : TxDataRequest) (msgBuf : Mem) {msgBufLen : Nat} (dataBuf : Mem) {data : DataBuf}
  (cellId : UInt8)

theorem offsetValue_take (hroom : 14 ≤ msgBufLen) {i : Nat} (hi : i < msg.pdus.length) :
    (serializeTxDataRequest msg msgBuf msgBufLen dataBuf data cellId).offsetValue i =
      data.offset (msg.pdus.take i) % 2 ^ 32 := by
  have hsplit : msg.pdus = msg.pdus.take i ++ msg.pdus[i] :: msg.pdus.drop (i + 1) := by
    rw [List.cons_getElem_drop_succ, List.take_append_drop]
  have hvalue := offsetValue_eq msg msgBuf dataBuf data cellId hroom hsplit
  rwa [List.length_take, Nat.min_eq_left (by omega)] at hvalue

theorem serializeTxDataRequest_aligned (hroom : 14 ≤ msgBufLen) :
    msg.Aligned (serializeTxDataRequest msg msgBuf msgBufLen dataBuf data cellId) := by
  intro i hi
  have hdvd := dvd_offset data (msg.pdus.take i)
  rw [offsetValue_take msg msgBuf dataBuf cellId hroom hi]
  omega

theorem serializeTxDataRequest_inside (h32 : 32 ∣ data.len) :
    (serializeTxDataRequest msg msgBuf msgBufLen dataBuf data cellId).Inside dataBuf data := by
  by_cases hroom : 14 ≤ msgBufLen
  · rw [serializeTxDataRequest_eq msg msgBuf dataBuf data cellId hroom]
    exact ⟨fun i hi ↦ DataBuf.copied_outside dataBuf hi (by unfold DataBuf.Reached; omega) msg.pdus,
      DataBuf.offset_le h32 msg.pdus⟩
  · -- a refused request leaves the buffer as it was
    rw [serializeTxDataRequest, if_pos (Nat.not_le.mp hroom)]
    exact ⟨fun _ _ ↦ rfl, Nat.zero_le _⟩

/-- Below `2 ^ 32` the data offset is announced as it is. -/
theorem serializeTxDataRequest_ascending (h32 : 32 ∣ data.len) (hroom : 14 ≤ msgBufLen)
    (hlen : data.len < 2 ^ 32) :
    msg.Ascending (serializeTxDataRequest msg msgBuf msgBufLen dataBuf data cellId) := by
  intro i j hij hj
  rw [offsetValue_take msg msgBuf dataBuf cellId hroom (by omega : i < msg.pdus.length),
    offsetValue_take msg msgBuf dataBuf cellId hroom hj]
  have hlow : ∀ pdus, data.offset pdus % 2 ^ 32 = data.offset pdus := fun pdus ↦
    Nat.mod_eq_of_lt (lt_of_le_of_lt (DataBuf.offset_le h32 pdus) hlen)
  have hmono := @DataBuf.offset_mono data (msg.pdus.take i) ((msg.pdus.take j).drop i)
  have htake : msg.pdus.take i ++ (msg.pdus.take j).drop i = msg.pdus.take j := by
    have hfront : msg.pdus.take i = (msg.pdus.take j).take i := by
      rw [List.take_take, Nat.min_eq_left hij]
    rw [hfront, List.take_append_drop]
  rw [htake] at hmono
  rwa [hlow, hlow]

end Placement

/-- In a buffer whose capacity is a multiple of 32 the blocks and their padding stay inside, at
aligned offsets, which ascend as long as 32 bits hold every position of the buffer; the bytes
counted are those of the blocks taken, each with its padding. -/
theorem serializeTxDataRequest_bounded (msg : TxDataRequest) (msgBuf : Mem) (msgBufLen : Nat)
    (dataBuf : Mem) (data : DataBuf) (cellId : UInt8) (h32 : 32 ∣ data.len) :
    (serializeTxDataRequest msg msgBuf msgBufLen dataBuf data cellId).Inside dataBuf data ∧
      (14 ≤ msgBufLen →
        msg.Aligned (serializeTxDataRequest msg msgBuf msgBufLen dataBuf data cellId) ∧
          (data.len < 2 ^ 32 →
            msg.Ascending (serializeTxDataRequest msg msgBuf msgBufLen dataBuf data cellId)) ∧
          (serializeTxDataRequest msg msgBuf msgBufLen dataBuf data cellId).dataBytesWritten =
            Bump.cursor data.advance 0 msg.pdus) ∧
      ∀ n : UInt32, 32 ∣ n.toNat + (txDataPadding n).toNat ∧
        ∀ k, 32 ∣ n.toNat + k → (txDataPadding n).toNat ≤ k := by
  refine ⟨serializeTxDataRequest_inside msg msgBuf dataBuf cellId h32, fun hroom ↦ ⟨?_, ?_, ?_⟩,
    txDataPadding_least⟩
  · exact serializeTxDataRequest_aligned msg msgBuf dataBuf cellId hroom
  · exact serializeTxDataRequest_ascending msg msgBuf dataBuf cellId h32 hroom
  · rw [serializeTxDataRequest_eq msg msgBuf dataBuf data cellId hroom]
    rfl

theorem serializeTxDataRequest_bounded_pool :
    32 ∣ cpuDataPool.len ∧ cpuDataPool.len < 2 ^ 32 ∧
      (txDataOfSizes [40, 8]).Ascending
        (serializeTxDataRequest (txDataOfSizes [40, 8]) .zeros 15000 .zeros cpuDataPool 0) := by
  have h32 : 32 ∣ cpuDataPool.len := by decide
  have hlt : cpuDataPool.len < 2 ^ 32 := by decide
  have hbounded := serializeTxDataRequest_bounded (txDataOfSizes [40, 8]) .zeros 15000 .zeros
    cpuDataPool 0 h32
  exact ⟨h32, hlt, (hbounded.2.1 (by decide)).2.1 hlt⟩

/-- A data buffer of 8 GiB. -/
def largeDataPool : DataBuf := ⟨true, 2 ^ 33, by decide⟩

-- behind two blocks of 2 GiB the third one stands at 4 GiB and is announced at offset 0
theorem serializeTxDataRequest_bounded_fails :
    32 ∣ largeDataPool.len ∧
      ¬ (txDataOfSizes [2 ^ 31, 2 ^ 31, 1]).Ascending
        (serializeTxDataRequest (txDataOfSizes [2 ^ 31, 2 ^ 31, 1]) .zeros 15000 .zeros
          largeDataPool 0) := by
  let block : TxDataReqPdu := ⟨0, List.replicate (2 ^ 31) 0⟩
  have hlen : block.pdu.length = 2 ^ 31 := List.length_replicate
  have hne : block.pdu ≠ [] := List.length_pos_iff.mp (by rw [hlen]; decide)
  -- either block of 2 GiB moves the data offset by its length
  have hstep : ∀ c, c ≤ 2 ^ 31 → largeDataPool.advance c block = 2 ^ 31 := by
    intro c hc
    have hreached : DataBuf.Reached c := by unfold DataBuf.Reached; omega
    have hfit : c + block.pdu.length ≤ largeDataPool.len := by
      rw [hlen]
      show c + 2 ^ 31 ≤ 2 ^ 33
      omega
    have hwhole := (advance_eq_iff hreached hne).mpr ⟨rfl, by rw [hlen]; decide, hfit⟩
    rw [advance_of_le hwhole, hlen]
    rfl
  have hone : largeDataPool.offset [block] = 2 ^ 31 := by
    show 0 + largeDataPool.advance 0 block = 2 ^ 31
    rw [hstep 0 (by decide)]
    rfl
  have htwo : largeDataPool.offset [block, block] = 2 ^ 32 := by
    show 0 + largeDataPool.advance 0 block +
      largeDataPool.advance (0 + largeDataPool.advance 0 block) block = 2 ^ 32
    rw [hstep 0 (by decide), hstep (0 + 2 ^ 31) (by decide)]
    rfl
  refine ⟨by decide, fun h ↦ ?_⟩
  have hasc := h 1 2 (by decide) (by decide)
  rw [offsetValue_take _ _ _ _ (by decide) (by decide),
    offsetValue_take _ _ _ _ (by decide) (by decide)] at hasc
  change largeDataPool.offset [block] % 2 ^ 32 ≤ largeDataPool.offset [block, block] % 2 ^ 32 at hasc
  rw [hone, htwo] at hasc
  omega

end AerialBridge
