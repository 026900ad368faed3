import AerialBridge.Indication.Decoders

/-!
# Attribution of RX_DATA payloads

The data cursor of the RX_DATA decoder moves past a block only when the block fits.  `placeBlocks` is
that cursor on its own; the blocks it hands out are the slices at the prefix sums of the lengths
exactly when nothing is handed out after the first block that does not fit.
-/

namespace AerialBridge

open Bytes Bytes.Parser

/-! ## The cursor over the lengths -/

/-- The block at the cursor, when it fits. -/
def blockAt (hasData : Bool) (cap offset len : Nat) : Option DataSpan :=
  if hasData ∧ offset + len ≤ cap then some ⟨offset, len⟩ else none

/-- The cursor stays behind on a block that does not fit. -/
def nextOffset (hasData : Bool) (cap offset len : Nat) : Nat :=
  if hasData ∧ offset + len ≤ cap then offset + len else offset

def placeBlocks (hasData : Bool) (cap : Nat) : Nat → List Nat → List (Option DataSpan)
  | _, [] => []
  | offset, len :: lens =>
      blockAt hasData cap offset len :: placeBlocks hasData cap (nextOffset hasData cap offset len) lens

theorem length_placeBlocks (hasData : Bool) (cap offset : Nat) (lens : List Nat) :
    (placeBlocks hasData cap offset lens).length = lens.length := by
  induction lens generalizing offset with
  | nil => rfl
  | cons len lens ih =>
      rw [placeBlocks, List.length_cons, List.length_cons, ih]

theorem block_of_fits {cap offset len : Nat} (h : offset + len ≤ cap) :
    blockAt true cap offset len = some ⟨offset, len⟩ ∧
      nextOffset true cap offset len = offset + len :=
  ⟨if_pos ⟨rfl, h⟩, if_pos ⟨rfl, h⟩⟩

theorem block_of_miss {hasData : Bool} {cap offset len : Nat} (h : hasData → cap < offset + len) :
    blockAt hasData cap offset len = none ∧ nextOffset hasData cap offset len = offset :=
  ⟨if_neg fun hc ↦ not_le.mpr (h hc.1) hc.2, if_neg fun hc ↦ not_le.mpr (h hc.1) hc.2⟩

theorem nextOffset_le (hasData : Bool) (cap offset len : Nat) :
    nextOffset hasData cap offset len ≤ offset + len := by
  unfold nextOffset
  split <;> omega

/-- Every non-empty block is the slice that starts at `start` plus the lengths before it. -/
def Attributed (start : Nat) (lens : List Nat) (blocks : List (Option DataSpan)) : Prop :=
  ∀ (i : Nat) (b : DataSpan), blocks[i]? = some (some b) → 0 < b.length →
    b.offset = start + (lens.take i).sum ∧ lens[i]? = some b.length

/-- Behind the first block that does not fit there is none but empty ones that would. -/
def FullAfterMiss (cap start : Nat) (lens : List Nat) : Prop :=
  ∀ pre len post, lens = pre ++ len :: post → start + pre.sum ≤ cap → cap < start + pre.sum + len →
    ∀ later ∈ post, 0 < later → cap < start + pre.sum + later

theorem attributed_cons {start len : Nat} {lens : List Nat} {block : Option DataSpan}
    {blocks : List (Option DataSpan)} :
    Attributed start (len :: lens) (block :: blocks) ↔
      (∀ b, block = some b → 0 < b.length → b.offset = start ∧ len = b.length) ∧
        Attributed (start + len) lens blocks := by
  constructor
  · intro h
    constructor
    · intro b hb hpos
      obtain ⟨h1, h2⟩ := h 0 b (by rw [hb]; rfl) hpos
      exact ⟨h1, Option.some.inj h2⟩
    · intro i b hb hpos
      obtain ⟨h1, h2⟩ := h (i + 1) b hb hpos
      rw [List.take_succ_cons, List.sum_cons, ← Nat.add_assoc] at h1
      exact ⟨h1, h2⟩
  · rintro ⟨h0, hrest⟩ i b hb hpos
    cases i with
    | zero =>
        obtain ⟨h1, h2⟩ := h0 b (Option.some.inj hb) hpos
        exact ⟨h1, congrArg some h2⟩
    | succ i =>
        obtain ⟨h1, h2⟩ := hrest i b hb hpos
        rw [List.take_succ_cons, List.sum_cons, ← Nat.add_assoc]
        exact ⟨h1, h2⟩

/-- Once the cursor is behind, attribution allows no further non-empty block. -/
theorem placeBlocks_attributed_behind {cap offset start : Nat} (h : offset < start)
    (lens : List Nat) :
    Attributed start lens (placeBlocks true cap offset lens) ↔
      ∀ len ∈ lens, 0 < len → cap < offset + len := by
  induction lens generalizing start with
  | nil =>
      refine iff_of_true (fun i b hb ↦ ?_) fun _ hlen ↦ absurd hlen List.not_mem_nil
      cases hb
  | cons len lens ih =>
      rw [List.forall_mem_cons]
      unfold placeBlocks
      by_cases hfit : offset + len ≤ cap
      · rw [(block_of_fits hfit).1, (block_of_fits hfit).2, attributed_cons]
        by_cases hzero : len = 0
        · -- an empty block is handed out but leaves the cursor where it is
          subst hzero
          rw [Nat.add_zero, Nat.add_zero, ih h]
          constructor
          · rintro ⟨-, hrest⟩
            exact ⟨fun hpos ↦ absurd hpos (lt_irrefl 0), hrest⟩
          · rintro ⟨-, hrest⟩
            refine ⟨fun b hb hpos ↦ ?_, hrest⟩
            rw [← Option.some.inj hb] at hpos
            exact absurd hpos (lt_irrefl 0)
        · -- a non-empty block handed out here starts too low
          refine iff_of_false (fun hatt ↦ ?_) fun hfull ↦ ?_
          · have hoff := (hatt.1 _ rfl (Nat.pos_of_ne_zero hzero)).1
            exact absurd hoff (ne_of_lt h)
          · exact absurd (hfull.1 (Nat.pos_of_ne_zero hzero)) (not_lt.mpr hfit)
      · -- another miss leaves the cursor behind by still more
        have hmiss := @block_of_miss true cap offset len fun _ ↦ not_le.mp hfit
        rw [hmiss.1, hmiss.2, attributed_cons, ih (Nat.lt_add_right len h)]
        constructor
        · rintro ⟨-, hrest⟩
          exact ⟨fun _ ↦ not_le.mp hfit, hrest⟩
        · rintro ⟨-, hrest⟩
          exact ⟨fun b hb ↦ (Option.some_ne_none b hb.symm).elim, hrest⟩

theorem fullAfterMiss_cons_fits {cap start len : Nat} {lens : List Nat} (h : start + len ≤ cap) :
    FullAfterMiss cap start (len :: lens) ↔ FullAfterMiss cap (start + len) lens := by
  constructor
  · intro hfull pre l post hsplit hin hmiss
    have hf := hfull (len :: pre) l post (by rw [hsplit]; rfl)
    rw [List.sum_cons, ← Nat.add_assoc] at hf
    exact hf hin hmiss
  · intro hfull pre l post hsplit hin hmiss
    cases pre with
    | nil =>
        rw [List.nil_append, List.cons.injEq] at hsplit
        rw [List.sum_nil, ← hsplit.1] at hmiss
        omega
    | cons l0 pre =>
        rw [List.cons_append, List.cons.injEq] at hsplit
        have hf := hfull pre l post hsplit.2
        rw [List.sum_cons, ← hsplit.1, ← Nat.add_assoc] at hin hmiss ⊢
        exact hf hin hmiss

theorem fullAfterMiss_cons_miss {cap start len : Nat} {lens : List Nat} (hin : start ≤ cap)
    (h : cap < start + len) :
    FullAfterMiss cap start (len :: lens) ↔ ∀ later ∈ lens, 0 < later → cap < start + later := by
  constructor
  · intro hfull
    exact hfull [] len lens rfl hin h
  · intro hlater pre l post hsplit hin' hmiss
    cases pre with
    | nil =>
        rw [List.nil_append, List.cons.injEq] at hsplit
        rw [← hsplit.2]
        exact hlater
    | cons l0 pre =>
        -- a second miss would start past the capacity
        rw [List.cons_append, List.cons.injEq] at hsplit
        rw [List.sum_cons, ← hsplit.1] at hin'
        omega

/-- The cursor attributes every block exactly when the first miss is the end of the blocks. -/
theorem placeBlocks_attributed_iff {cap start : Nat} (h : start ≤ cap) (lens : List Nat) :
    Attributed start lens (placeBlocks true cap start lens) ↔ FullAfterMiss cap start lens := by
  induction lens generalizing start with
  | nil =>
      refine iff_of_true (fun i b hb ↦ ?_) fun pre len post hsplit ↦ ?_
      · cases hb
      · exact absurd hsplit.symm (by simp)
  | cons len lens ih =>
      unfold placeBlocks
      by_cases hfit : start + len ≤ cap
      -- as long as blocks fit, the cursor is the sum of the lengths
      · rw [(block_of_fits hfit).1, (block_of_fits hfit).2, attributed_cons, ih hfit,
          fullAfterMiss_cons_fits hfit]
        refine and_iff_right fun b hb _ ↦ ?_
        rw [← Option.some.inj hb]
        exact ⟨rfl, rfl⟩
      -- the first miss leaves it behind for good
      · have hmiss := not_le.mp hfit
        have hbehind : start < start + len := lt_of_le_of_lt h hmiss
        have hblock := @block_of_miss true cap start len fun _ ↦ hmiss
        rw [hblock.1, hblock.2, attributed_cons, placeBlocks_attributed_behind hbehind,
          fullAfterMiss_cons_miss h hmiss]
        exact and_iff_right fun b hb ↦ (Option.some_ne_none b hb.symm).elim

/-- Without a data buffer no block is handed out. -/
theorem placeBlocks_noData (cap offset start : Nat) (lens : List Nat) :
    Attributed start lens (placeBlocks false cap offset lens) := by
  induction lens generalizing start with
  | nil =>
      intro i b hb
      cases hb
  | cons len lens ih =>
      unfold placeBlocks
      have hblock := @block_of_miss false cap offset len fun h ↦ (Bool.false_ne_true h).elim
      rw [hblock.1, hblock.2, attributed_cons]
      exact ⟨fun b hb ↦ (Option.some_ne_none b hb.symm).elim, ih _⟩

/-! ## The decoder's cursor -/

/-- The `pdu_len` fields of at most `n` records from byte `p` on. -/
def rxDataPduLensFrom (buf : List UInt8) : Nat → Nat → List Nat
  | 0, _ => []
  | n + 1, p =>
      if buf.length < p + 16 then []
      else (peek32 buf (p + 7)).toNat :: rxDataPduLensFrom buf n (p + 16)

/-- The `pdu_len` fields of the records that a message holds, in order. -/
def rxDataPduLens (buf : List UInt8) : List Nat :=
  if buf.length < 14 then [] else rxDataPduLensFrom buf (peek16 buf 12).toNat 14

/-- The transport block of each RX_DATA notifier call, in order. -/
def transportBlocks (trace : List Effect) : List (Option DataSpan) :=
  (notifications trace).filterMap fun n ↦ match n with
    | .onRxDataIndication _ pdu => some pdu.transportBlock
    | _ => none

theorem transportBlocks_append (xs ys : List Effect) :
    transportBlocks (xs ++ ys) = transportBlocks xs ++ transportBlocks ys := by
  unfold transportBlocks
  rw [notifications_append, List.filterMap_append]

/-- The notifier call for the record at byte `p`: its handle, RNTI and HARQ id, and a block. -/
def rxDataCall (buf : List UInt8) (sp : SlotPoint) (p : Nat) (block : Option DataSpan) :
    Notification :=
  .onRxDataIndication sp ⟨peek32 buf p, peek16 buf (p + 4), peek8 buf (p + 6), block⟩

theorem transportBlocks_of_calls {buf : List UInt8} {sp : SlotPoint} {place : Nat → Nat}
    {blocks : List (Option DataSpan)} {trace : List Effect}
    (h : notifications trace = blocks.mapIdx fun i block ↦ rxDataCall buf sp (place i) block) :
    transportBlocks trace = blocks := by
  rw [transportBlocks, h]
  clear h
  induction blocks generalizing place with
  | nil => rfl
  | cons block blocks ih =>
      rw [List.mapIdx_cons]
      exact congrArg (block :: ·) (@ih fun i ↦ place (i + 1))

theorem readAt_scfRxDataPdu {buf : List UInt8} {p : Nat} (h : p + 16 ≤ buf.length) :
    readAt scfRxDataPdu buf p =
      .ok ⟨peek32 buf p, peek16 buf (p + 4), peek8 buf (p + 6), peek32 buf (p + 7)⟩ := by
  rw [readAt, drop_eq_peek32_append (by omega : p + 4 ≤ buf.length),
    drop_eq_peek16_append (by omega : p + 4 + 2 ≤ buf.length),
    drop_eq_peek8_cons (by omega : p + 4 + 2 < buf.length),
    drop_eq_peek32_append (by omega : p + 4 + 2 + 1 + 4 ≤ buf.length)]
  have hrest : 5 ≤ (buf.drop (p + 4 + 2 + 1 + 4)).length := by rw [List.length_drop]; omega
  simp only [scfRxDataPdu, bind_apply, u32_append, u16_append, u8_cons, Option.bind_some, bytes,
    hrest, if_true, pure_apply]

/-- A turn hands out the block of the abstract cursor; the `size_t` sum does not wrap. -/
theorem rxDataTurn_eq {buf : List UInt8} (hasData : Bool) (dataLen : Nat) (sp : SlotPoint)
    {p offset : Nat} (h : p + 16 ≤ buf.length) (hoffset : offset + 2 ^ 32 ≤ 2 ^ 64) :
    ∃ out, notifications out =
        [rxDataCall buf sp p (blockAt hasData dataLen offset (peek32 buf (p + 7)).toNat)] ∧
      rxDataTurn buf hasData dataLen sp ⟨p, offset⟩ = .ok (.next
        ⟨p + 16, nextOffset hasData dataLen offset (peek32 buf (p + 7)).toNat⟩ out) := by
  have hlen := (peek32 buf (p + 7)).toNat_lt
  -- a 32-bit length added to an offset below 2^64 - 2^32
  have hwrap : (offset + (peek32 buf (p + 7)).toNat) % 2 ^ 64 =
      offset + (peek32 buf (p + 7)).toNat := Nat.mod_eq_of_lt (by omega)
  unfold rxDataTurn blockAt nextOffset
  rw [if_neg (not_lt.mpr h), readAt_scfRxDataPdu h, ok_bind]
  simp only [hwrap]
  split
  · exact ⟨_, rfl, rfl⟩
  · exact ⟨_, rfl, rfl⟩

theorem loop_rxDataTurn {buf : List UInt8} (hasData : Bool) (dataLen : Nat) (sp : SlotPoint)
    (n : Nat) {p offset : Nat} (hoffset : offset + n * 2 ^ 32 ≤ 2 ^ 64) :
    ∃ c out, loop (rxDataTurn buf hasData dataLen sp) n ⟨p, offset⟩ = .ok (c, out) ∧
      notifications out = (placeBlocks hasData dataLen offset (rxDataPduLensFrom buf n p)).mapIdx
        fun i block ↦ rxDataCall buf sp (p + 16 * i) block := by
  induction n generalizing p offset with
  | zero => exact ⟨_, [], rfl, rfl⟩
  | succ n ih =>
      unfold rxDataPduLensFrom
      by_cases h : buf.length < p + 16
      · have hexit : rxDataTurn buf hasData dataLen sp ⟨p, offset⟩ = .ok (.exit ⟨p, offset⟩) :=
          if_pos h
        rw [if_pos h]
        exact ⟨_, [], loop_exit hexit n, rfl⟩
      · -- the offset grows by less than 2^32 in a turn, and there are less than 2^16 turns
        have hlen := (peek32 buf (p + 7)).toNat_lt
        have hnext := nextOffset_le hasData dataLen offset (peek32 buf (p + 7)).toNat
        obtain ⟨out, hout, hturn⟩ := rxDataTurn_eq hasData dataLen sp (not_lt.mp h)
          (by omega : offset + 2 ^ 32 ≤ 2 ^ 64)
        obtain ⟨c, outs, hloop, houts⟩ := @ih (p + 16)
          (nextOffset hasData dataLen offset (peek32 buf (p + 7)).toNat) (by omega)
        have hshift : ∀ i, p + 16 + 16 * i = p + 16 * (i + 1) := by omega
        simp only [hshift] at houts
        rw [if_neg h]
        refine ⟨c, out ++ outs, loop_next hturn hloop, ?_⟩
        rw [notifications_append, hout, houts, placeBlocks, List.mapIdx_cons]
        rfl

/-- The calls the decoder makes: the i-th for the i-th record, with the block of the abstract cursor
over the message's lengths. -/
theorem dispatchRxDataIndication_calls (buf : List UInt8) (hasData : Bool)
    (dataLen numerology : Nat) :
    ∃ trace, dispatchRxDataIndication buf hasData dataLen numerology = .ok trace ∧
      notifications trace = (placeBlocks hasData dataLen 0 (rxDataPduLens buf)).mapIdx
        fun i block ↦ rxDataCall buf (wirePoint numerology buf) (14 + 16 * i) block := by
  unfold dispatchRxDataIndication rxDataPduLens
  by_cases h : buf.length < 14
  · rw [dispatchPdus_short count16 numerology _ _ h, if_pos h]
    exact ⟨[], rfl, rfl⟩
  · have hn := (peek16 buf 12).toNat_lt
    obtain ⟨c, out, hloop, hout⟩ := @loop_rxDataTurn buf hasData dataLen
      (wirePoint numerology buf) (peek16 buf 12).toNat 14 0 (by omega)
    have hcount := @readAt_count16 buf 12 (by omega)
    rw [dispatchPdus_eq (not_lt.mp h) hcount hloop, if_neg h]
    exact ⟨_, rfl, hout⟩

/-- The blocks the decoder hands out are those of the abstract cursor over the message's lengths. -/
theorem dispatchRxDataIndication_blocks (buf : List UInt8) (hasData : Bool)
    (dataLen numerology : Nat) :
    ∃ trace, dispatchRxDataIndication buf hasData dataLen numerology = .ok trace ∧
      transportBlocks trace = placeBlocks hasData dataLen 0 (rxDataPduLens buf) := by
  obtain ⟨trace, htrace, hcalls⟩ := dispatchRxDataIndication_calls buf hasData dataLen numerology
  exact ⟨trace, htrace, transportBlocks_of_calls hcalls⟩

/-- The i-th call carries the handle and RNTI of the i-th record, and every non-empty block is the
slice at the sum of the lengths before it exactly when, behind the first block that does not fit,
every non-empty block is too long for the room that was left. -/
theorem dispatchRxDataIndication_attributed_iff (buf : List UInt8) (hasData : Bool)
    (dataLen numerology : Nat) :
    ∃ trace, dispatchRxDataIndication buf hasData dataLen numerology = .ok trace ∧
      (transportBlocks trace).length = (rxDataPduLens buf).length ∧
      (notifications trace = (transportBlocks trace).mapIdx fun i block ↦
        .onRxDataIndication (wirePoint numerology buf)
          ⟨peek32 buf (14 + 16 * i), peek16 buf (14 + 16 * i + 4), peek8 buf (14 + 16 * i + 6),
            block⟩) ∧
      (Attributed 0 (rxDataPduLens buf) (transportBlocks trace) ↔
        hasData = false ∨ FullAfterMiss dataLen 0 (rxDataPduLens buf)) := by
  obtain ⟨trace, htrace, hcalls⟩ := dispatchRxDataIndication_calls buf hasData dataLen numerology
  refine ⟨trace, htrace, ?_⟩
  rw [transportBlocks_of_calls hcalls]
  refine ⟨length_placeBlocks hasData dataLen 0 _, hcalls, ?_⟩
  cases hasData with
  | false => exact iff_of_true (placeBlocks_noData _ _ _ _) (.inl rfl)
  | true =>
      rw [placeBlocks_attributed_iff (Nat.zero_le _), or_iff_right (by decide)]

/-- One PDU of an RX_DATA.indication. -/
def rxDataPduBytes (handle : UInt32) (rnti : UInt16) (harqId : UInt8) (pduLen : UInt32) :
    List UInt8 :=
  le32 handle ++ le16 rnti ++ [harqId] ++ le32 pduLen ++ [0, 0, 0, 0, 0]

/-- Of two blocks of 40 and 8 bytes in a buffer of 32, the second is handed out from offset 0. -/
theorem dispatchRxDataIndication_misattributed :
    ¬ ∀ (buf : List UInt8) (hasData : Bool) (dataLen numerology : Nat) (trace : List Effect),
      dispatchRxDataIndication buf hasData dataLen numerology = .ok trace →
        Attributed 0 (rxDataPduLens buf) (transportBlocks trace) := by
  intro h
  obtain ⟨trace, htrace, hblocks⟩ := dispatchRxDataIndication_blocks
    ([1, 0] ++ le16 0x85 ++ le32 38 ++ le16 0 ++ le16 0 ++ le16 2 ++
      rxDataPduBytes 1 0x4601 0 40 ++ rxDataPduBytes 2 0x4602 0 8) true 32 1
  have hatt := h _ _ _ _ trace htrace
  rw [hblocks] at hatt
  have hsecond := hatt 1 ⟨0, 8⟩ (by decide) (by decide)
  exact absurd hsecond.1 (by decide)

end AerialBridge
