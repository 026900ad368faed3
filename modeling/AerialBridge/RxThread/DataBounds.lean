import AerialBridge.Indication.RxData
import AerialBridge.RxThread.Dispatch

/-!
# Transport blocks and the end of the data buffer

The RX_DATA decoder compares block ends with `data_len` as a `size_t`.  A length of the message that
is not negative bounds every block; a negative one is widened to almost 2^64 and bounds none.
-/

namespace AerialBridge

open Bytes Bytes.Parser

/-! ## The cursor with room and without -/

theorem placeBlocks_inside {cap offset : Nat} {lens : List Nat} {b : DataSpan}
    (h : some b ∈ placeBlocks true cap offset lens) : b.offset + b.length ≤ cap := by
  induction lens generalizing offset with
  | nil => cases h
  | cons len lens ih =>
      rw [placeBlocks, List.mem_cons] at h
      rcases h with h | h
      · by_cases hfit : offset + len ≤ cap
        · rw [(block_of_fits hfit).1, Option.some.injEq] at h
          rw [h]
          exact hfit
        · rw [(block_of_miss fun _ ↦ not_le.mp hfit).1] at h
          cases h
      · exact ih h

/-- With room for all of them, every length is handed out as a block. -/
theorem placeBlocks_of_room {cap offset : Nat} {lens : List Nat} (hroom : offset + lens.sum ≤ cap)
    {len : Nat} (hlen : len ∈ lens) :
    ∃ start, some ⟨start, len⟩ ∈ placeBlocks true cap offset lens := by
  induction lens generalizing offset with
  | nil => cases hlen
  | cons l lens ih =>
      rw [List.sum_cons] at hroom
      have hfit : offset + l ≤ cap := by omega
      rw [placeBlocks, (block_of_fits hfit).1, (block_of_fits hfit).2]
      rcases List.mem_cons.mp hlen with rfl | hlen
      · exact ⟨offset, List.mem_cons_self⟩
      · obtain ⟨start, hstart⟩ := @ih (offset + l) (by omega) hlen
        exact ⟨start, List.mem_cons_of_mem _ hstart⟩

/-- Blocks of length zero are handed out from where the cursor stands. -/
theorem placeBlocks_of_zero {cap offset : Nat} {lens : List Nat} (hzero : ∀ len ∈ lens, len = 0)
    {b : DataSpan} (h : some b ∈ placeBlocks true cap offset lens) : b = ⟨offset, 0⟩ := by
  induction lens with
  | nil => cases h
  | cons len lens ih =>
      have hlen := hzero len List.mem_cons_self
      subst hlen
      have hnext : nextOffset true cap offset 0 = offset := by
        unfold nextOffset
        split
        · rfl
        · rfl
      rw [placeBlocks, hnext, List.mem_cons] at h
      rcases h with h | h
      · unfold blockAt at h
        split at h
        · exact Option.some.inj h
        · cases h
      · exact ih (fun l hl ↦ hzero l (List.mem_cons_of_mem _ hl)) h

theorem rxDataPduLensFrom_sum (buf : List UInt8) (n p : Nat) :
    (rxDataPduLensFrom buf n p).sum ≤ n * 2 ^ 32 := by
  induction n generalizing p with
  | zero => exact Nat.zero_le _
  | succ n ih =>
      unfold rxDataPduLensFrom
      split
      · exact Nat.zero_le _
      · have hlen := (peek32 buf (p + 7)).toNat_lt
        have hrest := ih (p + 16)
        rw [List.sum_cons]
        omega

/-- The blocks of one message together stay far below 2^64 bytes. -/
theorem rxDataPduLens_sum (buf : List UInt8) : (rxDataPduLens buf).sum ≤ 2 ^ 48 := by
  unfold rxDataPduLens
  split
  · exact Nat.zero_le _
  · have hn := (peek16 buf 12).toNat_lt
    have hsum := rxDataPduLensFrom_sum buf (peek16 buf 12).toNat 14
    omega

/-! ## The dispatcher -/

/-- The `pdu_len` fields of the records that an RX_DATA message brings to the notifier: none when the
message is dropped. -/
def RxThread.rxDataPduLens (rx : RxThread) (msg : NvIpcMsg) : List Nat :=
  match msg.msgBuf with
  | none => []
  | some buf =>
      if msg.msgLen ≤ 0 ∨ 1000000 < msg.msgLen ∨ rx.indNotifier = false then []
      else AerialBridge.rxDataPduLens buf

/-- Every delivered block is a range of `data_buf[0, max(data_len, 0))`. -/
def BlocksInside (msg : NvIpcMsg) (trace : List Effect) : Prop :=
  ∀ b, some b ∈ transportBlocks trace → b.offset + b.length ≤ (max msg.dataLen 0).toNat

theorem RxThread.dispatchMessage_blocks (rx : RxThread) (ocudu : Ocudu) (now : Int) {msg : NvIpcMsg}
    (hid : msg.msgId = ScfMsgId.rxDataIndication.code.toNat) :
    ∃ trace, rx.dispatchMessage ocudu now msg = .ok trace ∧ transportBlocks trace =
      placeBlocks msg.hasData (msg.dataLen % 2 ^ 64).toNat 0 (rx.rxDataPduLens msg) := by
  unfold dispatchMessage RxThread.rxDataPduLens
  cases msg.msgBuf with
  | none => exact ⟨[], rfl, rfl⟩
  | some buf =>
      simp only
      by_cases hlen : msg.msgLen ≤ 0 ∨ 1000000 < msg.msgLen
      · rw [if_pos hlen, if_pos (by omega)]
        exact ⟨[], rfl, rfl⟩
      · rw [if_neg hlen, dispatchBuffer, hid, ScfMsgId.ofCode_code]
        simp only
        cases hind : rx.indNotifier with
        | false =>
            rw [if_neg Bool.false_ne_true, if_pos (.inr (.inr rfl))]
            exact ⟨[], rfl, rfl⟩
        | true =>
            rw [if_pos rfl, if_neg (by simp only [Bool.true_eq_false, or_false]; exact hlen)]
            exact dispatchRxDataIndication_blocks buf msg.hasData _ rx.numerology

/-- Every block lies inside the data buffer exactly when `data_len` is not negative or no delivered
block has a byte. -/
theorem RxThread.dispatchMessage_blocksInside_iff (rx : RxThread) (ocudu : Ocudu) (now : Int)
    (msg : NvIpcMsg) (hid : msg.msgId = ScfMsgId.rxDataIndication.code.toNat)
    (hdata : msg.hasData = true) (h32 : -2 ^ 31 ≤ msg.dataLen ∧ msg.dataLen < 2 ^ 31) :
    ∃ trace, rx.dispatchMessage ocudu now msg = .ok trace ∧
      (BlocksInside msg trace ↔ 0 ≤ msg.dataLen ∨ ∀ len ∈ rx.rxDataPduLens msg, len = 0) := by
  obtain ⟨trace, htrace, hblocks⟩ := rx.dispatchMessage_blocks ocudu now hid
  refine ⟨trace, htrace, ?_⟩
  unfold BlocksInside
  rw [hblocks, hdata]
  by_cases hneg : msg.dataLen < 0
  · have hcap : (max msg.dataLen 0).toNat = 0 := by omega
    -- the widened length leaves room for all blocks
    have hroom : 0 + (rx.rxDataPduLens msg).sum ≤ (msg.dataLen % 2 ^ 64).toNat := by
      have hsum : (rx.rxDataPduLens msg).sum ≤ 2 ^ 48 := by
        unfold RxThread.rxDataPduLens
        split
        · exact Nat.zero_le _
        · split
          · exact Nat.zero_le _
          · exact AerialBridge.rxDataPduLens_sum _
      omega
    rw [or_iff_right (not_le.mpr hneg), hcap]
    constructor
    · intro hinside len hlen
      obtain ⟨start, hstart⟩ := placeBlocks_of_room hroom hlen
      have hle := hinside _ hstart
      exact Nat.le_zero.mp (le_trans (Nat.le_add_left len start) hle)
    · intro hzero b hb
      rw [placeBlocks_of_zero hzero hb]
      exact le_refl 0
  · refine iff_of_true ?_ (.inl (not_lt.mp hneg))
    intro b hb
    have hcap : (msg.dataLen % 2 ^ 64).toNat = (max msg.dataLen 0).toNat := by omega
    rw [← hcap]
    exact placeBlocks_inside hb

/-- An RX_DATA.indication with one block of 16 bytes. -/
def rxDataOneBlock (dataLen : Int) : NvIpcMsg :=
  ⟨0x85, 0, some ([1, 0] ++ le16 0x85 ++ le32 22 ++ le16 0 ++ le16 0 ++ le16 1 ++
    rxDataPduBytes 1 0x4601 0 16), 30, true, dataLen, by simp [rxDataPduBytes]⟩

theorem RxThread.dispatchMessage_blocksInside_iff_one :
    ∃ trace, RxThread.dispatchMessage ⟨1, true, true, true, true⟩ exampleOcudu 0
        (rxDataOneBlock 16) = .ok trace ∧
      (BlocksInside (rxDataOneBlock 16) trace ↔ 0 ≤ (rxDataOneBlock 16).dataLen ∨
        ∀ len ∈ RxThread.rxDataPduLens ⟨1, true, true, true, true⟩ (rxDataOneBlock 16), len = 0) :=
  RxThread.dispatchMessage_blocksInside_iff _ _ _ _ (by decide) rfl (by decide)

/-- With `data_len` -1 the block is handed out from an empty buffer. -/
theorem RxThread.dispatchMessage_block_outside :
    ¬ ∀ (rx : RxThread) (ocudu : Ocudu) (now : Int) (msg : NvIpcMsg) (trace : List Effect),
      msg.msgId = ScfMsgId.rxDataIndication.code.toNat → msg.hasData = true →
      -2 ^ 31 ≤ msg.dataLen ∧ msg.dataLen < 2 ^ 31 →
      rx.dispatchMessage ocudu now msg = .ok trace → BlocksInside msg trace := by
  intro h
  obtain ⟨trace, htrace, hblocks⟩ := @RxThread.dispatchMessage_blocks ⟨1, true, true, true, true⟩
    exampleOcudu 0 (rxDataOneBlock (-1)) (by decide)
  have hinside := h _ _ _ _ trace (by decide) rfl (by decide) htrace ⟨0, 16⟩
  rw [hblocks] at hinside
  exact absurd (hinside (by decide)) (by decide)

end AerialBridge
