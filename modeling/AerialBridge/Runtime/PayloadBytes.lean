import AerialBridge.Indication.RxData
import AerialBridge.Request.TxDataIntegrity
import AerialBridge.Runtime.Events

/-!
# Byte counters

`rx_data_bytes` adds the announced length of every RX_DATA record and `tx_data_bytes` the data offset
behind the last TX_DATA block.  They measure the payload that was handed over exactly when no record
is delivered empty for want of room and no copied block is padded.
-/

namespace AerialBridge

open Bytes Bytes.Parser

/-! ## RX_DATA -/

def blockLength (b : Option DataSpan) : Nat := b.elim 0 DataSpan.length

/-- The bytes of the transport blocks that a call hands to the notifier. -/
def BridgeCall.bytesDelivered (ocudu : Ocudu) (c : BridgeCall) : Nat :=
  match c.trace ocudu with
  | .ok trace => ((transportBlocks trace).map blockLength).sum
  | .error _ => 0

/-- The lengths of the records that a call decodes. -/
def BridgeCall.rxLens : BridgeCall → List Nat
  | .dispatchRxDataIndication buf _ _ _ => rxDataPduLens buf
  | _ => []

/-- The data buffer holds all records, or they are all empty. -/
def BridgeCall.RxFits : BridgeCall → Prop
  | .dispatchRxDataIndication buf hasData dataLen _ =>
      (rxDataPduLens buf).sum = 0 ∨ hasData = true ∧ (rxDataPduLens buf).sum ≤ dataLen
  | _ => True

theorem placeBlocks_length_le (hasData : Bool) (cap offset : Nat) (lens : List Nat) :
    ((placeBlocks hasData cap offset lens).map blockLength).sum ≤ lens.sum := by
  induction lens generalizing offset with
  | nil => exact le_rfl
  | cons len lens ih =>
      have hrest := ih (nextOffset hasData cap offset len)
      have hblock : blockLength (blockAt hasData cap offset len) ≤ len := by
        unfold blockAt
        split
        · exact le_rfl
        · exact Nat.zero_le _
      rw [placeBlocks, List.map_cons, List.sum_cons, List.sum_cons]
      omega

/-- All the bytes are handed out exactly when they all fit. -/
theorem placeBlocks_length_iff (hasData : Bool) (cap offset : Nat) (lens : List Nat) :
    ((placeBlocks hasData cap offset lens).map blockLength).sum = lens.sum ↔
      lens.sum = 0 ∨ hasData = true ∧ offset + lens.sum ≤ cap := by
  induction lens generalizing offset with
  | nil => simp [placeBlocks]
  | cons len lens ih =>
      have hle := placeBlocks_length_le hasData cap (nextOffset hasData cap offset len) lens
      have hrest := ih (nextOffset hasData cap offset len)
      rw [placeBlocks, List.map_cons, List.sum_cons, List.sum_cons]
      by_cases hfit : hasData = true ∧ offset + len ≤ cap
      · have hblock : blockLength (blockAt hasData cap offset len) = len := by
          rw [blockAt, if_pos hfit]
          rfl
        rw [nextOffset, if_pos hfit] at hle hrest ⊢
        rw [hblock, Nat.add_left_cancel_iff, hrest]
        simp only [hfit.1, true_and]
        omega
      · -- a record that does not fit counts its length and hands out nothing
        have hblock : blockLength (blockAt hasData cap offset len) = 0 := by
          rw [blockAt, if_neg hfit]
          rfl
        rw [nextOffset, if_neg hfit] at hle hrest ⊢
        rw [hblock, Nat.zero_add]
        cases hasData with
        | false =>
            simp only [Bool.false_eq_true, false_and, or_false] at hrest ⊢
            omega
        | true =>
            simp only [true_and] at hfit hrest ⊢
            omega

theorem loop_rxDataTurn_added (buf : List UInt8) (hasData : Bool) (dataLen : Nat) (sp : SlotPoint)
    (n : Nat) (c : RxDataCursor) :
    Ensures (loop (rxDataTurn buf hasData dataLen sp) n c) fun r ↦
      added .rxDataBytes r.2 = (rxDataPduLensFrom buf n c.p).sum := by
  induction n generalizing c with
  | zero => exact .pure rfl
  | succ n ih =>
      rintro ⟨u, outs⟩ hl
      unfold rxDataPduLensFrom
      by_cases h : buf.length < c.p + 16
      · have hexit : rxDataTurn buf hasData dataLen sp c = .ok (.exit c) := if_pos h
        rw [loop_exit hexit] at hl
        cases hl
        rw [if_pos h]
        rfl
      · obtain ⟨offset, block, hturn⟩ : ∃ offset block, rxDataTurn buf hasData dataLen sp c =
            .ok (.next ⟨c.p + 16, offset⟩ (rxDataEffects sp block (peek32 buf (c.p + 7)).toNat)) := by
          unfold rxDataTurn
          rw [if_neg h, readAt_scfRxDataPdu (not_lt.mp h), ok_bind]
          exact ⟨_, _, rfl⟩
        rcases loop_cases hl with ⟨hexit, -⟩ | ⟨t, out, rest, hnext, hrest, rfl⟩
        · rw [hturn] at hexit
          cases hexit
        · rw [hturn] at hnext
          cases hnext
          rw [if_neg h, added_append, ih _ _ hrest, List.sum_cons]
          simp [rxDataEffects]

theorem dispatchRxDataIndication_added (buf : List UInt8) (hasData : Bool)
    (dataLen numerology : Nat) :
    Ensures (dispatchRxDataIndication buf hasData dataLen numerology) fun trace ↦
      added .rxDataBytes trace = (rxDataPduLens buf).sum := by
  unfold rxDataPduLens
  by_cases h : buf.length < 14
  · intro trace htrace
    rw [dispatchRxDataIndication, dispatchPdus_short count16 numerology _ _ h] at htrace
    cases htrace
    rw [if_pos h]
    rfl
  · rw [if_neg h]
    unfold dispatchRxDataIndication dispatchPdus
    rw [scfHdrSize, if_neg (by omega), readAt_u16 (by omega : 8 + 2 ≤ buf.length), ok_bind,
      readAt_u16 (by omega : 8 + 2 + 2 ≤ buf.length), ok_bind,
      @readAt_count16 buf (8 + 4) (by omega), ok_bind]
    refine .bind (loop_rxDataTurn_added buf hasData dataLen _ _ _) fun r hr ↦ .pure ?_
    rw [added_slotPoint, hr]

/-- The byte counters count no event. -/
theorem BridgeCall.trace_added_zero {k : Metric} (hk : k = .rxDataBytes ∨ k = .txDataBytes)
    (ocudu : Ocudu) {c : BridgeCall} (hc : c.CountsFor k) :
    Ensures (c.trace ocudu) fun trace ↦ added k trace = 0 := by
  have hn : ∀ n, k.counts n = false := by
    intro n
    rcases hk with rfl | rfl <;> cases n <;> rfl
  have hw : ∀ w, k.countsUl w = false := by
    intro w
    rcases hk with rfl | rfl <;> cases w <;> rfl
  intro trace htrace
  rw [BridgeCall.trace_counted ocudu hc trace htrace,
    List.countP_eq_zero.mpr fun n _ ↦ by rw [hn n]; decide,
    List.countP_eq_zero.mpr fun w _ ↦ by rw [hw w]; decide]

theorem BridgeCall.trace_rxDataBytes (ocudu : Ocudu) (c : BridgeCall) :
    Ensures (c.trace ocudu) fun trace ↦ added .rxDataBytes trace = c.rxLens.sum := by
  cases c with
  | dispatchRxDataIndication buf hasData dataLen numerology =>
      exact dispatchRxDataIndication_added buf hasData dataLen numerology
  | serializeTxDataRequest => exact trace_added_zero (.inl rfl) ocudu ⟨by decide, by decide⟩
  | _ => exact trace_added_zero (.inl rfl) ocudu trivial

/-- A trace without RX_DATA notifier calls. -/
def NoBlocks (trace : List Effect) : Prop := transportBlocks trace = []

theorem dispatchPdus_noBlocks {σ : Type} {count : Parser Nat} {countSize : Nat}
    {buf : List UInt8} {numerology : Nat} {start : Nat → σ}
    {turn : SlotPoint → σ → Except ReadFault (Turn σ Effect)}
    (hturn : ∀ sp s, Ensures (turn sp s) fun t ↦ NoBlocks t.out) :
    Ensures (dispatchPdus count countSize buf numerology start turn) NoBlocks := by
  refine dispatchPdus_ensures (Q := NoBlocks) rfl ?_ (fun _ ↦ rfl) hturn
  intro xs ys hx hy
  rw [NoBlocks, transportBlocks_append, hx, hy]
  rfl

/-- Only the RX_DATA dispatcher hands out transport blocks. -/
theorem BridgeCall.trace_noBlocks (ocudu : Ocudu) {c : BridgeCall} (hc : c.CountsFor .rxDataBytes) :
    Ensures (c.trace ocudu) NoBlocks := by
  cases c with
  | serializeUlTtiRequest msg buf bufLen cellId =>
      refine .pure ?_
      rw [serializeUlTtiRequest_effects, NoBlocks, transportBlocks]
      split
      · rfl
      · rw [ulTtiEffects_notifications]
        rfl
  | serializeTxDataRequest msg msgBuf msgBufLen dataBuf data cellId =>
      refine .pure ?_
      rw [serializeTxDataRequest_effects]
      split
      · rfl
      · rfl
  | dispatchCrcIndication buf numerology =>
      exact dispatchPdus_noBlocks fun sp s t ht ↦
        @of_out NoBlocks rfl _ (crcEffects sp) (fun _ ↦ rfl) _ (crcTurn_out buf sp s t ht)
  | dispatchRxDataIndication buf hasData dataLen numerology => exact absurd rfl hc
  | dispatchRachIndication buf numerology =>
      exact dispatchPdus_noBlocks fun sp s t ht ↦
        @of_out NoBlocks rfl _ (rachEffects sp) (fun _ ↦ rfl) _ (rachTurn_out ocudu buf sp s t ht)
  | dispatchUciIndication buf numerology =>
      refine dispatchPdus_noBlocks fun sp s t ht ↦ ?_
      cases uciTurn_out ocudu buf sp s t ht with
      | inl hnil => rw [hnil]; rfl
      | inr hsome =>
          obtain ⟨lines, pdu, fmt, hlogs, hout⟩ := hsome
          rw [hout, NoBlocks, transportBlocks, notifications_append, hlogs.notifications]
          rfl
  | dispatchSrsIndication buf numerology =>
      exact dispatchPdus_noBlocks fun sp s t ht ↦
        @of_out NoBlocks rfl _ (srsEffects sp) (fun _ ↦ rfl) _ (srsTurn_out ocudu buf sp s t ht)
  | resetBridgeRuntimeMetrics => exact .pure rfl

theorem BridgeCall.bytesDelivered_of_noBlocks (ocudu : Ocudu) {c : BridgeCall}
    (hc : c.CountsFor .rxDataBytes) (hlens : c.rxLens = []) (hfits : c.RxFits) :
    c.bytesDelivered ocudu ≤ c.rxLens.sum ∧
      (c.bytesDelivered ocudu = c.rxLens.sum ↔ c.RxFits) := by
  obtain ⟨trace, htrace⟩ := c.trace_succeeds ocudu
  have hnone : transportBlocks trace = [] := trace_noBlocks ocudu hc trace htrace
  have hzero : c.bytesDelivered ocudu = 0 := by
    rw [BridgeCall.bytesDelivered, htrace]
    show ((transportBlocks trace).map blockLength).sum = 0
    rw [hnone]
    rfl
  rw [hzero, hlens]
  exact ⟨le_rfl, iff_of_true rfl hfits⟩

/-- No call delivers more than the announced lengths, and all of them exactly when they fit. -/
theorem BridgeCall.bytesDelivered_rxLens (ocudu : Ocudu) (c : BridgeCall) :
    c.bytesDelivered ocudu ≤ c.rxLens.sum ∧
      (c.bytesDelivered ocudu = c.rxLens.sum ↔ c.RxFits) := by
  cases c with
  | dispatchRxDataIndication buf hasData dataLen numerology =>
      obtain ⟨trace, htrace, hblocks⟩ :=
        dispatchRxDataIndication_blocks buf hasData dataLen numerology
      have hval : (BridgeCall.dispatchRxDataIndication buf hasData dataLen numerology).bytesDelivered
          ocudu = ((placeBlocks hasData dataLen 0 (rxDataPduLens buf)).map blockLength).sum := by
        rw [BridgeCall.bytesDelivered, BridgeCall.trace, htrace, ← hblocks]
      have hiff := placeBlocks_length_iff hasData dataLen 0 (rxDataPduLens buf)
      rw [Nat.zero_add] at hiff
      rw [hval]
      exact ⟨placeBlocks_length_le hasData dataLen 0 (rxDataPduLens buf), hiff⟩
  | serializeTxDataRequest =>
      exact bytesDelivered_of_noBlocks ocudu ⟨by decide, by decide⟩ rfl trivial
  | _ => exact bytesDelivered_of_noBlocks ocudu trivial rfl trivial

/-! ## TX_DATA -/

/-- The bytes that the loop copies into the data buffer. -/
def DataBuf.bytesCopied (data : DataBuf) (dataOffset : Nat) : List TxDataReqPdu → Nat
  | [] => 0
  | p :: ps =>
      (if data.takes dataOffset p.tbLen then (p.pdu.take p.tbLen.toNat).length else 0) +
        bytesCopied data (dataOffset + data.advance dataOffset p) ps

/-- Every block that is copied has a length that is a multiple of 32. -/
def DataBuf.Unpadded (data : DataBuf) (pdus : List TxDataReqPdu) : Prop :=
  ∀ before p after, pdus = before ++ p :: after →
    data.takes (data.offset before) p.tbLen = true → 32 ∣ p.tbLen.toNat

/-- The transport block bytes that a call copies into `data_buf`. -/
def BridgeCall.bytesCopied : BridgeCall → Nat
  | .serializeTxDataRequest msg _ msgBufLen _ data _ =>
      if msgBufLen < 14 then 0 else data.bytesCopied 0 msg.pdus
  | _ => 0

def BridgeCall.TxUnpadded : BridgeCall → Prop
  | .serializeTxDataRequest msg _ msgBufLen _ data _ => msgBufLen < 14 ∨ data.Unpadded msg.pdus
  | _ => True

/-- What a call adds to `tx_data_bytes`. -/
def BridgeCall.txOffset : BridgeCall → Nat
  | .serializeTxDataRequest msg _ msgBufLen _ data _ =>
      if msgBufLen < 14 then 0 else data.offset msg.pdus
  | _ => 0

theorem take_tbLen_length (p : TxDataReqPdu) : (p.pdu.take p.tbLen.toNat).length = p.tbLen.toNat := by
  rw [List.length_take]
  exact Nat.min_eq_left (tbLen_toNat_le p)

theorem DataBuf.advance_unpadded {data : DataBuf} {c : Nat} {p : TxDataReqPdu}
    (h : data.takes c p.tbLen = true → 32 ∣ p.tbLen.toNat) :
    data.advance c p = if data.takes c p.tbLen then p.tbLen.toNat else 0 := by
  have hlt := p.tbLen.toNat_lt
  unfold DataBuf.advance
  by_cases ht : data.takes c p.tbLen = true
  · have hdvd := h ht
    rw [if_pos ht, if_pos ht, txDataPadding_add]
    omega
  · rw [if_neg ht, if_neg ht]

/-- Without padding the data offset counts the bytes that were copied. -/
theorem DataBuf.cursor_unpadded {data : DataBuf} {c : Nat} {pdus : List TxDataReqPdu}
    (h : ∀ before p after, pdus = before ++ p :: after →
      data.takes (Bump.cursor data.advance c before) p.tbLen = true → 32 ∣ p.tbLen.toNat) :
    Bump.cursor data.advance c pdus = c + data.bytesCopied c pdus := by
  induction pdus generalizing c with
  | nil => rfl
  | cons p ps ih =>
      have hadv : data.advance c p = if data.takes c p.tbLen then p.tbLen.toNat else 0 :=
        DataBuf.advance_unpadded (h [] p ps rfl)
      have hrest := @ih (c + data.advance c p) fun before q after hsplit ht ↦
        h (p :: before) q after (by rw [hsplit]; rfl) ht
      rw [Bump.cursor, hrest, DataBuf.bytesCopied, take_tbLen_length, hadv, Nat.add_assoc]

/-- Padding of blocks below the wrap of the 32-bit length is counted on top of what was copied. -/
theorem DataBuf.bytesCopied_le {data : DataBuf} {pdus : List TxDataReqPdu}
    (hshort : ∀ p ∈ pdus, p.tbLen.toNat ≤ 2 ^ 32 - 32) (c : Nat) :
    c + data.bytesCopied c pdus ≤ Bump.cursor data.advance c pdus ∧
      (Bump.cursor data.advance c pdus = c + data.bytesCopied c pdus →
        ∀ before p after, pdus = before ++ p :: after →
          data.takes (Bump.cursor data.advance c before) p.tbLen = true → 32 ∣ p.tbLen.toNat) := by
  induction pdus generalizing c with
  | nil =>
      refine ⟨le_rfl, fun _ before p after hsplit ↦ ?_⟩
      exact absurd hsplit.symm (by simp)
  | cons q qs ih =>
      have hq := hshort q List.mem_cons_self
      obtain ⟨hle, hrest⟩ := ih (fun p hp ↦ hshort p (List.mem_cons_of_mem _ hp))
        (c + data.advance c q)
      have hadv : (if data.takes c q.tbLen then q.tbLen.toNat else 0) ≤ data.advance c q ∧
          (data.advance c q = (if data.takes c q.tbLen then q.tbLen.toNat else 0) →
            data.takes c q.tbLen = true → 32 ∣ q.tbLen.toNat) := by
        unfold DataBuf.advance
        by_cases ht : data.takes c q.tbLen = true
        -- a copied block is followed by its padding, one left out by nothing
        · rw [if_pos ht, if_pos ht, txDataPadding_add]
          exact ⟨by omega, fun heq _ ↦ by omega⟩
        · rw [if_neg ht, if_neg ht]
          exact ⟨le_rfl, fun _ ht' ↦ absurd ht' ht⟩
      rw [Bump.cursor, DataBuf.bytesCopied, take_tbLen_length]
      refine ⟨by omega, fun heq before p after hsplit ht ↦ ?_⟩
      cases before with
      | nil =>
          injection hsplit with hp _
          subst hp
          exact hadv.2 (by omega) ht
      | cons b bs =>
          injection hsplit with hb hbs
          subst hb
          exact hrest (by omega) bs p after hbs ht

/-- No block of the request comes close to the wrap of the 32-bit padded length. -/
def BridgeCall.TxShort : BridgeCall → Prop
  | .serializeTxDataRequest msg _ _ _ _ _ => ∀ p ∈ msg.pdus, p.tbLen.toNat ≤ 2 ^ 32 - 32
  | _ => True

theorem BridgeCall.trace_txDataBytes (ocudu : Ocudu) (c : BridgeCall) :
    Ensures (c.trace ocudu) fun trace ↦ added .txDataBytes trace = c.txOffset := by
  cases c with
  | serializeTxDataRequest msg msgBuf msgBufLen dataBuf data cellId =>
      refine .pure ?_
      rw [serializeTxDataRequest_effects, BridgeCall.txOffset]
      split
      · rfl
      · simp
  | dispatchRxDataIndication => exact trace_added_zero (.inr rfl) ocudu fun h ↦ nomatch h
  | _ => exact trace_added_zero (.inr rfl) ocudu trivial

theorem BridgeCall.txOffset_of_unpadded {c : BridgeCall} (h : c.TxUnpadded) :
    c.txOffset = c.bytesCopied := by
  cases c with
  | serializeTxDataRequest msg msgBuf msgBufLen dataBuf data cellId =>
      rw [BridgeCall.txOffset, BridgeCall.bytesCopied]
      by_cases hroom : msgBufLen < 14
      · rw [if_pos hroom, if_pos hroom]
      · rw [if_neg hroom, if_neg hroom]
        have hoff := DataBuf.cursor_unpadded (h.resolve_left hroom)
        rwa [Nat.zero_add] at hoff
  | _ => rfl

theorem BridgeCall.bytesCopied_short {c : BridgeCall} (hshort : c.TxShort) :
    c.bytesCopied ≤ c.txOffset ∧ (c.bytesCopied = c.txOffset ↔ c.TxUnpadded) := by
  have hof : c.TxUnpadded → c.bytesCopied = c.txOffset := fun h ↦ (txOffset_of_unpadded h).symm
  cases c with
  | serializeTxDataRequest msg msgBuf msgBufLen dataBuf data cellId =>
      rw [BridgeCall.txOffset, BridgeCall.bytesCopied] at hof ⊢
      by_cases hroom : msgBufLen < 14
      · rw [if_pos hroom, if_pos hroom]
        exact ⟨le_rfl, iff_of_true rfl (.inl hroom)⟩
      · rw [if_neg hroom, if_neg hroom] at hof ⊢
        obtain ⟨hle, hconv⟩ := DataBuf.bytesCopied_le hshort 0
        rw [Nat.zero_add] at hle hconv
        exact ⟨hle, fun heq ↦ .inr (hconv heq.symm), hof⟩
  | _ => exact ⟨le_rfl, iff_of_true rfl trivial⟩

/-! ## Runs -/

/-- What a quantity of the calls adds up to since the last reset. -/
def totalSinceReset (f : BridgeCall → Nat) (calls : List BridgeCall) : Nat :=
  ((sinceReset calls).map f).sum

/-- The byte counters are the bytes that were handed over. -/
structure PayloadCounted (ocudu : Ocudu) (calls : List BridgeCall) (m : BridgeRuntimeMetrics) :
    Prop where
  rx : (m .rxDataBytes).toNat = totalSinceReset (fun c ↦ c.bytesDelivered ocudu) calls
  tx : (m .txDataBytes).toNat = totalSinceReset BridgeCall.bytesCopied calls

/-- Sums of terms of which one is never above the other are equal exactly term by term. -/
theorem sum_map_eq_iff {α : Type} {f g : α → Nat} {xs : List α} (h : ∀ x ∈ xs, f x ≤ g x) :
    (xs.map f).sum = (xs.map g).sum ↔ ∀ x ∈ xs, f x = g x := by
  induction xs with
  | nil => simp
  | cons x xs ih =>
      have hx := h x List.mem_cons_self
      have hxs := fun y hy ↦ h y (List.mem_cons_of_mem x hy)
      have hle : (xs.map f).sum ≤ (xs.map g).sum := List.sum_le_sum hxs
      rw [List.map_cons, List.map_cons, List.sum_cons, List.sum_cons, List.forall_mem_cons, ← ih hxs]
      omega

theorem runCalls_rxDataBytes_iff {ocudu : Ocudu} {calls : List BridgeCall}
    (h64 : totalSinceReset (fun c ↦ c.rxLens.sum) calls < 2 ^ 64) {m : BridgeRuntimeMetrics}
    (hm : runCalls ocudu calls = .ok m) :
    (m .rxDataBytes).toNat = totalSinceReset (fun c ↦ c.bytesDelivered ocudu) calls ↔
      ∀ c ∈ sinceReset calls, c.RxFits := by
  have hval : (m .rxDataBytes).toNat = totalSinceReset (fun c ↦ c.rxLens.sum) calls := by
    rw [runCalls_count (fun c _ _ ↦ c.trace_rxDataBytes ocudu) hm]
    exact UInt64.toNat_ofNat_of_lt' h64
  have hsum := @sum_map_eq_iff _ (fun c ↦ c.bytesDelivered ocudu) (fun c ↦ c.rxLens.sum)
    (sinceReset calls) fun c _ ↦ (c.bytesDelivered_rxLens ocudu).1
  have hfits : (∀ c ∈ sinceReset calls, c.bytesDelivered ocudu = c.rxLens.sum) ↔
      ∀ c ∈ sinceReset calls, c.RxFits :=
    forall₂_congr fun c _ ↦ (c.bytesDelivered_rxLens ocudu).2
  rw [hval, ← hfits, ← hsum]
  exact eq_comm

theorem runCalls_txDataBytes {ocudu : Ocudu} {calls : List BridgeCall}
    (h64 : totalSinceReset BridgeCall.txOffset calls < 2 ^ 64) {m : BridgeRuntimeMetrics}
    (hm : runCalls ocudu calls = .ok m) :
    (m .txDataBytes).toNat = totalSinceReset BridgeCall.txOffset calls := by
  rw [runCalls_count (fun c _ _ ↦ c.trace_txDataBytes ocudu) hm]
  exact UInt64.toNat_ofNat_of_lt' h64

/-- Where every RX_DATA record fits and no copied TX_DATA block is padded, both counters measure the
payload; nowhere else, as long as the padded lengths do not wrap. -/
theorem runCalls_payloadCounted_iff (ocudu : Ocudu) (calls : List BridgeCall)
    (hrx : totalSinceReset (fun c ↦ c.rxLens.sum) calls < 2 ^ 64)
    (htx : totalSinceReset BridgeCall.txOffset calls < 2 ^ 64) :
    ∃ m, runCalls ocudu calls = .ok m ∧
      ((∀ c ∈ sinceReset calls, c.RxFits ∧ c.TxUnpadded) → PayloadCounted ocudu calls m) ∧
      ((∀ c ∈ sinceReset calls, c.TxShort) → PayloadCounted ocudu calls m →
        ∀ c ∈ sinceReset calls, c.RxFits ∧ c.TxUnpadded) := by
  obtain ⟨m, hm⟩ := runCalls_succeeds ocudu calls
  have hrxIff := runCalls_rxDataBytes_iff hrx hm
  have htxVal := runCalls_txDataBytes htx hm
  refine ⟨m, hm, fun h ↦ ⟨hrxIff.mpr fun c hc ↦ (h c hc).1, ?_⟩, fun hshort hcounted c hc ↦ ?_⟩
  · rw [htxVal, totalSinceReset, totalSinceReset]
    exact congrArg List.sum (List.map_congr_left fun c hc ↦
      BridgeCall.txOffset_of_unpadded (h c hc).2)
  · have heq : totalSinceReset BridgeCall.bytesCopied calls =
        totalSinceReset BridgeCall.txOffset calls := hcounted.tx.symm.trans htxVal
    have hterms := (sum_map_eq_iff fun c hc ↦ (BridgeCall.bytesCopied_short (hshort c hc)).1).mp heq
    exact ⟨hrxIff.mp hcounted.rx c hc,
      (BridgeCall.bytesCopied_short (hshort c hc)).2.mp (hterms c hc)⟩

/-- An RX_DATA.indication with one record of the given length, in a data buffer of 32 bytes. -/
def oneRxData (pduLen : UInt32) : BridgeCall :=
  .dispatchRxDataIndication ([1, 0] ++ le16 0x85 ++ le32 22 ++ le16 0 ++ le16 0 ++ le16 1 ++
    rxDataPduBytes 1 0x4601 0 pduLen) true 32 1

/-- A TX_DATA.request with blocks of the given sizes, for the buffer of the gateway. -/
def oneTxData (sizes : List Nat) : BridgeCall :=
  .serializeTxDataRequest (txDataOfSizes sizes) .zeros 15000 .zeros cpuDataPool 0

theorem runCalls_payloadCounted_aligned :
    ∃ m, runCalls exampleOcudu [oneTxData [64], oneRxData 32] = .ok m ∧
      PayloadCounted exampleOcudu [oneTxData [64], oneRxData 32] m := by
  obtain ⟨m, hm, hcounted, -⟩ := runCalls_payloadCounted_iff exampleOcudu
    [oneTxData [64], oneRxData 32] (by decide +kernel) (by decide +kernel)
  refine ⟨m, hm, hcounted fun c hc ↦ ?_⟩
  rcases List.mem_pair.mp hc with rfl | rfl
  · refine ⟨trivial, .inr fun before p after hsplit _ ↦ ?_⟩
    cases before with
    | nil =>
        injection hsplit with hp _
        rw [← hp]
        decide
    | cons b bs =>
        injection hsplit with _ hbs
        exact absurd (congrArg List.length hbs) (by simp)
  · exact ⟨.inr ⟨rfl, by decide +kernel⟩, trivial⟩

-- a block of 40 bytes counts as 64, and a record of 40 bytes that is delivered empty as 40
theorem runCalls_payloadCounted_fails :
    (∃ m, runCalls exampleOcudu [oneTxData [40]] = .ok m ∧
      (m .txDataBytes).toNat = 64 ∧ totalSinceReset BridgeCall.bytesCopied [oneTxData [40]] = 40) ∧
    ∃ m, runCalls exampleOcudu [oneRxData 40] = .ok m ∧
      ¬ PayloadCounted exampleOcudu [oneRxData 40] m := by
  constructor
  · obtain ⟨m, hm⟩ := runCalls_succeeds exampleOcudu [oneTxData [40]]
    refine ⟨m, hm, ?_, by decide +kernel⟩
    rw [runCalls_txDataBytes (by decide +kernel) hm]
    decide +kernel
  · obtain ⟨m, hm⟩ := runCalls_succeeds exampleOcudu [oneRxData 40]
    refine ⟨m, hm, fun h ↦ ?_⟩
    have hrx := (runCalls_rxDataBytes_iff (by decide +kernel) hm).mp h.rx (oneRxData 40)
      List.mem_cons_self
    exact absurd hrx (by unfold BridgeCall.RxFits oneRxData; decide +kernel)

end AerialBridge
