import AerialBridge.Bytes.Truncated
import AerialBridge.Indication.RecordRoundTrip
import AerialBridge.Indication.UciIsolation
import AerialBridge.Indication.UciRoundTrip

/-!
# Indications that are cut off

What the five decoders deliver of the first `k` bytes of a message.  RX_DATA and UCI drop a PDU that
is cut anywhere.  CRC, RACH and SRS deliver a record as soon as its fixed fields are there: CRC
without the measurements, RACH with the preambles that are whole, SRS as if nothing were missing.
-/

namespace AerialBridge

open Bytes Bytes.Parser

/-! ## What is left of a record that is cut to `c` bytes -/

def WireCrc.deliverCut (sp : SlotPoint) (r : WireCrc) (c : Nat) : List Notification :=
  if c < 10 then [] else [.onCrcIndication sp { r.deliver with measurements := none }]

def WireRach.deliverCut (ocudu : Ocudu) (sp : SlotPoint) (r : WireRach) (c : Nat) :
    List Notification :=
  if c < 8 then []
  else [.onRachIndication sp (r.deliverWith ocudu (r.preambles.take ((c - 8) / 7)))]

def WireSrs.deliverCut (ocudu : Ocudu) (sp : SlotPoint) (r : WireSrs) (c : Nat) :
    List Notification :=
  if c < 11 then [] else [.onSrsIndication sp (r.deliver ocudu sp.numerology)]

/-- Of a message with `total` PDUs, one notifier call each, the cut message yields the calls of the
first `whole` and then `part`. -/
def DeliversCut (full cut : Except ReadFault (List Effect)) (total whole : Nat)
    (part : List Notification) : Prop :=
  ∃ trace cutTrace, full = .ok trace ∧ cut = .ok cutTrace ∧
    (notifications trace).length = total ∧
    notifications cutTrace = (notifications trace).take whole ++ part

section Turns

variable {buf : List UInt8} (sp : SlotPoint) {p : Nat}

theorem loop_stuck {σ ω ε : Type} {body : σ → Except ε (Turn σ ω)} {s : σ}
    (h : body s = .ok (.exit s)) (n : Nat) : loop body n s = .ok (s, []) := by
  cases n with
  | zero => rfl
  | succ n => exact loop_exit h n

/-! ## CRC -/

theorem crcTurn_exit (h : buf.length < p + 10) : crcTurn buf sp p = .ok (.exit p) := if_pos h

theorem loop_crcTurn_cut (r : WireCrc) {c : Nat} (n : Nat)
    (hb : buf.drop p = r.encode.take c) (hc : c < r.encode.length) :
    ∃ u out, loop (crcTurn buf sp) (n + 1) p = .ok (u, out) ∧
      notifications out = r.deliverCut sp c := by
  have hlen := congrArg List.length hb
  rw [List.length_drop, List.length_take, Nat.min_eq_left (le_of_lt hc)] at hlen
  unfold WireCrc.deliverCut
  by_cases hfix : c < 10
  · rw [if_pos hfix]
    exact ⟨p, [], loop_stuck (crcTurn_exit sp (by omega)) _, rfl⟩
  · rw [if_neg hfix]
    rw [r.encode_length] at hc
    rw [WireCrc.encode, List.take_append, r.header_length,
      List.take_of_length_le (by rw [r.header_length]; omega)] at hb
    have hhdr := readAt_parses r.header_parses hb
    -- the cut is in the status bytes or the measurements, so these are left out
    have hturn : crcTurn buf sp p = .ok (.next (p + 10 + r.cbCrcStatus.length) [
        .notify (.onCrcIndication sp { r.deliver with measurements := none }),
        .fetchAdd .crcTotal 1,
        .fetchAdd (if r.tbCrcStatus == 0 then .crcOk else .crcFail) 1,
        .log .crcDispatch
          (.crcIndication sp.sfn sp.slot r.rnti r.harqId (r.tbCrcStatus == 0))]) := by
      unfold crcTurn
      rw [if_neg (by omega), hhdr, ok_bind]
      simp only [r.numCb_toNat]
      rw [crcMeasurements, if_neg (by omega)]
      rfl
    have hstop : crcTurn buf sp (p + 10 + r.cbCrcStatus.length) =
        .ok (.exit (p + 10 + r.cbCrcStatus.length)) := crcTurn_exit sp (by omega)
    exact ⟨_, _, loop_next hturn (loop_stuck hstop n), rfl⟩

/-! ## RX_DATA -/

theorem WireRxData.parses (r : WireRxData) :
    Parses scfRxDataPdu r.encode ⟨r.handle, r.rnti, r.harqId, r.pduLen⟩ :=
  .bind (.u32 _) (.bind (.u16 _) (.bind (.u8 _) (.bind (.u32 _) (.last (.bytes rfl)))))

/-- The turn depends on the message through the record alone. -/
theorem rxDataTurn_encoded (hasData : Bool) (dataLen : Nat) (r : WireRxData) (c : RxDataCursor) :
    ∃ t v, t.p = c.p + r.encode.length ∧
      ∀ (b rest : List UInt8), b.drop c.p = r.encode ++ rest →
        ∃ out, rxDataTurn b hasData dataLen sp c = .ok (.next t out) ∧ notifications out = [v] := by
  by_cases hfit : hasData ∧ (c.dataOffset + r.pduLen.toNat) % 2 ^ 64 ≤ dataLen
  · refine ⟨⟨c.p + 16, (c.dataOffset + r.pduLen.toNat) % 2 ^ 64⟩, .onRxDataIndication sp
      ⟨r.handle, r.rnti, r.harqId, some ⟨c.dataOffset, r.pduLen.toNat⟩⟩, rfl, ?_⟩
    intro b rest hb
    have hlen := congrArg List.length hb
    rw [List.length_drop, List.length_append, r.encode_length] at hlen
    unfold rxDataTurn
    rw [if_neg (by omega), readAt_parses r.parses hb, ok_bind]
    simp only [if_pos hfit]
    exact ⟨_, rfl, rfl⟩
  · refine ⟨⟨c.p + 16, c.dataOffset⟩, .onRxDataIndication sp
      ⟨r.handle, r.rnti, r.harqId, none⟩, rfl, ?_⟩
    intro b rest hb
    have hlen := congrArg List.length hb
    rw [List.length_drop, List.length_append, r.encode_length] at hlen
    unfold rxDataTurn
    rw [if_neg (by omega), readAt_parses r.parses hb, ok_bind]
    simp only [if_neg hfit]
    exact ⟨_, rfl, rfl⟩

/-! ## RACH -/

theorem rachPreambleTurn_exit (h : buf.length < p + 7) :
    rachPreambleTurn buf p = .ok (.exit p) := if_pos h

theorem rachTurn_exit (ocudu : Ocudu) (h : buf.length < p + 8) :
    rachTurn ocudu buf sp p = .ok (.exit p) := if_pos h

/-- The preambles that are whole are collected, and less than one is left behind them. -/
theorem loop_rachPreambleTurn_cut (preambles : List WirePreamble) {c : Nat}
    (hb : buf.drop p = (preambles.flatMap WirePreamble.encode).take c)
    (hc : c < (preambles.flatMap WirePreamble.encode).length) :
    ∃ u, loop (rachPreambleTurn buf) preambles.length p =
        .ok (u, (preambles.take (c / 7)).map WirePreamble.deliver) ∧ buf.length < u + 7 := by
  induction preambles generalizing p c with
  | nil => exact absurd hc (Nat.not_lt_zero c)
  | cons w preambles ih =>
      have hlen := congrArg List.length hb
      rw [List.length_drop, List.length_take, Nat.min_eq_left (le_of_lt hc)] at hlen
      by_cases hw : c < 7
      · rw [Nat.div_eq_of_lt hw]
        exact ⟨p, loop_exit (rachPreambleTurn_exit (by omega)) _, by omega⟩
      · rw [List.flatMap_cons, List.length_append, w.encode_length] at hc
        rw [List.flatMap_cons, List.take_append, w.encode_length,
          List.take_of_length_le (by rw [w.encode_length]; omega)] at hb
        obtain ⟨u, hloop, hu⟩ := ih (drop_past hb w.encode_length) (by omega)
        have hdiv : c / 7 = (c - 7) / 7 + 1 := by omega
        rw [hdiv, List.take_succ_cons, List.map_cons]
        exact ⟨u, loop_next (rachPreambleTurn_encoded w hb) hloop, hu⟩

theorem loop_rachTurn_cut (ocudu : Ocudu) (r : WireRach) {c : Nat} (n : Nat)
    (hb : buf.drop p = r.encode.take c) (hc : c < r.encode.length) :
    ∃ u out, loop (rachTurn ocudu buf sp) (n + 1) p = .ok (u, out) ∧
      notifications out = r.deliverCut ocudu sp c := by
  have hlen := congrArg List.length hb
  rw [List.length_drop, List.length_take, Nat.min_eq_left (le_of_lt hc)] at hlen
  unfold WireRach.deliverCut
  by_cases hfix : c < 8
  · rw [if_pos hfix]
    exact ⟨p, [], loop_stuck (rachTurn_exit sp ocudu (by omega)) _, rfl⟩
  · rw [if_neg hfix]
    rw [WireRach.encode, List.length_append, r.header_length] at hc
    rw [WireRach.encode, List.take_append, r.header_length,
      List.take_of_length_le (by rw [r.header_length]; omega)] at hb
    have hhdr := readAt_parses r.header_parses hb
    -- the inner loop stops in front of the cut, and the outer one in the next turn
    obtain ⟨u, hloop, hu⟩ :=
      loop_rachPreambleTurn_cut r.preambles (drop_past hb r.header_length) (by omega)
    have hturn : rachTurn ocudu buf sp p = .ok (.next u [
        .notify (.onRachIndication sp (r.deliverWith ocudu (r.preambles.take ((c - 8) / 7)))),
        .fetchAdd .rachTotal 1]) := by
      unfold rachTurn
      rw [if_neg (by omega), hhdr, ok_bind]
      simp only [r.numPreamble_toNat]
      rw [hloop]
      rfl
    exact ⟨_, _, loop_next hturn (loop_stuck (rachTurn_exit sp ocudu (by omega)) n), rfl⟩

/-! ## SRS -/

theorem srsTurn_exit (ocudu : Ocudu) (h : buf.length < p + 11) :
    srsTurn ocudu buf sp p = .ok (.exit p) := if_pos h

/-- A report that is cut moves the cursor to the end of the message. -/
theorem loop_srsReportTurn_cut (reports : List WireSrsReport) {c : Nat}
    (hb : buf.drop p = (reports.flatMap WireSrsReport.encode).take c)
    (hc : c < (reports.flatMap WireSrsReport.encode).length) :
    loop (srsReportTurn buf) reports.length p = .ok (buf.length, []) := by
  induction reports generalizing p c with
  | nil => exact absurd hc (Nat.not_lt_zero c)
  | cons s reports ih =>
      have hlen := congrArg List.length hb
      rw [List.length_drop, List.length_take, Nat.min_eq_left (le_of_lt hc)] at hlen
      by_cases hs : s.encode.length ≤ c
      · rw [List.flatMap_cons, List.length_append] at hc
        rw [List.flatMap_cons, List.take_append, List.take_of_length_le hs] at hb
        rw [List.length_cons, loop_next (srsReportTurn_encoded s hb)
          (ih (drop_past hb rfl) (by omega))]
        rfl
      · have hexit : srsReportTurn buf p = .ok (.exit buf.length) := by
          unfold srsReportTurn
          by_cases hnum : buf.length < p + 2
          · rw [if_pos hnum]
            rfl
          · rw [List.flatMap_cons, List.take_append_of_le_length (by omega),
              WireSrsReport.encode, List.take_append, le16_length,
              List.take_of_length_le (by rw [le16_length]; omega)] at hb
            rw [WireSrsReport.encode, List.length_append, le16_length] at hs
            rw [if_neg hnum, readAt_parses (.u16 _) hb, ok_bind]
            simp only [s.numRbs_toNat]
            rw [if_pos (by omega)]
            rfl
        exact loop_exit hexit _

theorem loop_srsTurn_cut (ocudu : Ocudu) (r : WireSrs) {c : Nat} (n : Nat)
    (hb : buf.drop p = r.encode.take c) (hc : c < r.encode.length) :
    ∃ u out, loop (srsTurn ocudu buf sp) (n + 1) p = .ok (u, out) ∧
      notifications out = r.deliverCut ocudu sp c := by
  have hlen := congrArg List.length hb
  rw [List.length_drop, List.length_take, Nat.min_eq_left (le_of_lt hc)] at hlen
  unfold WireSrs.deliverCut
  by_cases hfix : c < 11
  · rw [if_pos hfix]
    exact ⟨p, [], loop_stuck (srsTurn_exit sp ocudu (by omega)) _, rfl⟩
  · rw [if_neg hfix]
    rw [WireSrs.encode, List.length_append, r.header_length] at hc
    rw [WireSrs.encode, List.take_append, r.header_length,
      List.take_of_length_le (by rw [r.header_length]; omega)] at hb
    have hhdr := readAt_parses r.header_parses hb
    have hloop := loop_srsReportTurn_cut r.reports (drop_past hb r.header_length) (by omega)
    have hturn : srsTurn ocudu buf sp p = .ok (.next buf.length [
        .notify (.onSrsIndication sp (r.deliver ocudu sp.numerology)),
        .fetchAdd .srsTotal 1]) := by
      unfold srsTurn
      rw [if_neg (by omega), hhdr, ok_bind]
      simp only [r.numReportedSymbols_toNat]
      rw [hloop]
      rfl
    exact ⟨_, _, loop_next hturn (loop_stuck (srsTurn_exit sp ocudu (by omega)) n), rfl⟩

/-! ## UCI -/

theorem WireUciPdu.encode_length (w : WireUciPdu) : w.encode.length = 4 + w.body.length := by
  rw [WireUciPdu.encode, List.length_append]
  rfl

theorem loop_uciTurn_cut (ocudu : Ocudu) (w : WireUciPdu) {c : Nat} (n : Nat)
    (hb : buf.drop p = w.encode.take c) (hc : c < w.encode.length) :
    loop (uciTurn ocudu buf sp) (n + 1) p = .ok (p, []) := by
  have hlen := congrArg List.length hb
  rw [List.length_drop, List.length_take, Nat.min_eq_left (le_of_lt hc)] at hlen
  have hsize := w.body_length_le
  rw [w.encode_length] at hc
  -- the announced size, when it can be read at all, leaves the message
  have hframed : ¬ UciFramed buf p := by
    intro hf
    have h4 := hf.1
    rw [WireUciPdu.encode, List.take_append,
      List.take_of_length_le (by simp only [List.length_append, le16_length]; omega)] at hb
    have hparse : Parses scfUciPdu (le16 w.pduType ++ le16 (UInt16.ofNat (4 + w.body.length)))
        ⟨w.pduType, UInt16.ofNat (4 + w.body.length)⟩ := .bind (.u16 _) (.last (.u16 _))
    have hhdr := readAt_parses hparse hb
    rw [readAt_scfUciPdu h4, Except.ok.injEq, ScfUciPdu.mk.injEq] at hhdr
    have hleave := hf.2.2
    have hsize := UInt16.toNat_ofNat_of_lt' (show 4 + w.body.length < 2 ^ 16 by omega)
    rw [uciPduSize, hhdr.2, hsize] at hleave
    omega
  exact loop_exit (uciTurn_unframed ocudu sp hframed) n

end Turns

/-! ## Messages -/

section Messages

variable {hdr count : List UInt8} {sfn slot : UInt16}

theorem encodeIndication_take {k : Nat} (hhdr : hdr.length = 8) (sfn slot : UInt16)
    (records : List UInt8) (hk : 12 + count.length ≤ k) :
    (encodeIndication hdr sfn slot count records).take k =
      encodeIndication hdr sfn slot count (records.take (k - (12 + count.length))) := by
  have hsplit : ∀ tail, encodeIndication hdr sfn slot count tail =
      (hdr ++ (le16 sfn ++ (le16 slot ++ count))) ++ tail := by
    intro tail
    simp only [encodeIndication, List.append_assoc]
  have hlen : (hdr ++ (le16 sfn ++ (le16 slot ++ count))).length = 12 + count.length := by
    simp only [List.length_append, le16_length, hhdr]
    omega
  rw [hsplit, hsplit, List.take_append, hlen, List.take_of_length_le (by omega)]

/-- A decoder on a cut message: no PDU when the header is cut, otherwise the whole ones and `part` of
the next. -/
theorem dispatchPdus_cut {α σ : Type} {p : Parser Nat} {countSize : Nat} {xs : List α}
    {enc : α → List UInt8} {part : α → Nat → List Notification} {start : Nat → σ} (pos : σ → Nat)
    (turn : List UInt8 → SlotPoint → σ → Except ReadFault (Turn σ Effect)) (hhdr : hdr.length = 8)
    (hsize : count.length = countSize) (hcount : Parses p count xs.length)
    (hstart : ∀ i, pos (start i) = i) (numerology k : Nat)
    (henc : ∀ x ∈ xs, 0 < (enc x).length) (hzero : ∀ x ∈ xs, part x 0 = [])
    (hturn : ∀ x ∈ xs, ∀ s, ∃ t v, pos t = pos s + (enc x).length ∧
      ∀ b rest, b.drop (pos s) = enc x ++ rest →
        ∃ out, turn b ⟨numerology, sfn, slot⟩ s = .ok (.next t out) ∧ notifications out = [v])
    (hcut : ∀ x ∈ xs, ∀ s b c n, b.drop (pos s) = (enc x).take c → c < (enc x).length →
      ∃ u out, loop (turn b ⟨numerology, sfn, slot⟩) (n + 1) s = .ok (u, out) ∧
        notifications out = part x c) :
    DeliversCut
      (dispatchPdus p countSize (encodeIndication hdr sfn slot count (xs.flatMap enc)) numerology
        start (turn (encodeIndication hdr sfn slot count (xs.flatMap enc))))
      (dispatchPdus p countSize ((encodeIndication hdr sfn slot count (xs.flatMap enc)).take k)
        numerology start (turn ((encodeIndication hdr sfn slot count (xs.flatMap enc)).take k)))
      xs.length (wholeCount enc (k - (12 + countSize)) xs)
      (cutPart enc part (k - (12 + countSize)) xs) := by
  subst hsize
  have hbody : (encodeIndication hdr sfn slot count (xs.flatMap enc)).drop
      (pos (start (12 + count.length))) = xs.flatMap enc ++ [] := by
    rw [hstart, List.append_nil]
    exact encodeIndication_drop hhdr
  by_cases hk : 12 + count.length ≤ k
  · obtain ⟨u, out, u', out', hloop, hloop', hlen, hnot⟩ := loop_cut (k := k) notifications_nil
      notifications_append xs hturn hcut hbody (by rw [hstart]; exact hk)
    rw [hstart] at hnot
    obtain ⟨trace, htrace, hall⟩ :=
      dispatchPdus_encoded (xs.flatMap enc) start (turn _) hhdr rfl hcount hloop
    -- the cut message has the same header and the first bytes of the records
    obtain ⟨cutTrace, hcutTrace, hpart⟩ :=
      dispatchPdus_encoded ((xs.flatMap enc).take (k - (12 + count.length))) start (turn _) hhdr rfl
        hcount hloop'
    rw [← encodeIndication_take hhdr sfn slot (xs.flatMap enc) hk] at hcutTrace
    refine ⟨trace, cutTrace, htrace, hcutTrace, ?_, ?_⟩
    · rw [hall, hlen]
    · rw [hpart, hall, hnot]
  · obtain ⟨u, out, hloop, hlen⟩ :=
      loop_visits notifications_nil notifications_append xs hturn hbody
    obtain ⟨trace, htrace, hall⟩ :=
      dispatchPdus_encoded (xs.flatMap enc) start (turn _) hhdr rfl hcount hloop
    have hshort : ((encodeIndication hdr sfn slot count (xs.flatMap enc)).take k).length <
        12 + count.length := by
      rw [List.length_take]
      omega
    refine ⟨trace, [], htrace, dispatchPdus_short _ _ _ _ hshort, ?_, ?_⟩
    · rw [hall, hlen]
    · rw [Nat.sub_eq_zero_of_le (by omega), wholeCount_zero henc, cutPart_zero henc hzero]
      rfl

variable (hhdr : hdr.length = 8) (sfn slot) (numerology k : Nat)

include hhdr

theorem dispatchCrcIndication_cut {records : List WireCrc} (hn : records.length ≤ 65535) :
    DeliversCut (dispatchCrcIndication (encodeCrcIndication hdr sfn slot records) numerology)
      (dispatchCrcIndication ((encodeCrcIndication hdr sfn slot records).take k) numerology)
      records.length (wholeCount WireCrc.encode (k - 14) records)
      (cutPart WireCrc.encode (WireCrc.deliverCut ⟨numerology, sfn, slot⟩) (k - 14) records) := by
  apply dispatchPdus_cut id crcTurn hhdr rfl (count16_parses hn) (fun _ ↦ rfl)
  · intro r _
    rw [r.encode_length]
    omega
  · intro r _
    rfl
  · intro r _ s
    exact ⟨s + r.encode.length, .onCrcIndication ⟨numerology, sfn, slot⟩ r.deliver, rfl,
      fun b rest hb ↦ crcTurn_encoded ⟨numerology, sfn, slot⟩ r hb⟩
  · intro r _ s b c n hb hc
    exact loop_crcTurn_cut ⟨numerology, sfn, slot⟩ r n hb hc

theorem dispatchRxDataIndication_cut (hasData : Bool) (dataLen : Nat) {records : List WireRxData}
    (hn : records.length ≤ 65535) :
    DeliversCut
      (dispatchRxDataIndication (encodeRxDataIndication hdr sfn slot records) hasData dataLen
        numerology)
      (dispatchRxDataIndication ((encodeRxDataIndication hdr sfn slot records).take k) hasData
        dataLen numerology)
      records.length (wholeCount WireRxData.encode (k - 14) records) [] := by
  have hnone : ∀ c, cutPart WireRxData.encode (fun _ _ ↦ ([] : List Notification)) c records = [] :=
    cutPart_nil WireRxData.encode records
  rw [← hnone (k - 14)]
  apply dispatchPdus_cut RxDataCursor.p (fun b ↦ rxDataTurn b hasData dataLen) hhdr rfl
    (count16_parses hn) (fun _ ↦ rfl)
  · intro r _
    rw [r.encode_length]
    omega
  · intro r _
    rfl
  · intro r _ c
    exact rxDataTurn_encoded ⟨numerology, sfn, slot⟩ hasData dataLen r c
  · intro r _ s b c n hb hc
    -- the record has a fixed size, so a cut one is not entered
    have hlen := congrArg List.length hb
    rw [List.length_drop, List.length_take, Nat.min_eq_left (le_of_lt hc)] at hlen
    rw [r.encode_length] at hc
    have hexit : rxDataTurn b hasData dataLen ⟨numerology, sfn, slot⟩ s = .ok (.exit s) :=
      if_pos (by omega)
    exact ⟨s, [], loop_stuck hexit _, rfl⟩

theorem dispatchRachIndication_cut (ocudu : Ocudu) {records : List WireRach}
    (hn : records.length ≤ 255) :
    DeliversCut
      (dispatchRachIndication ocudu (encodeRachIndication hdr sfn slot records) numerology)
      (dispatchRachIndication ocudu ((encodeRachIndication hdr sfn slot records).take k) numerology)
      records.length (wholeCount WireRach.encode (k - 13) records)
      (cutPart WireRach.encode (WireRach.deliverCut ocudu ⟨numerology, sfn, slot⟩) (k - 13)
        records) := by
  apply dispatchPdus_cut id (rachTurn ocudu) hhdr rfl (count8_parses hn) (fun _ ↦ rfl)
  · intro r _
    rw [r.encode_length]
    omega
  · intro r _
    rfl
  · intro r _ s
    exact ⟨s + r.encode.length, .onRachIndication ⟨numerology, sfn, slot⟩ (r.deliver ocudu), rfl,
      fun b rest hb ↦ rachTurn_encoded ⟨numerology, sfn, slot⟩ ocudu r hb⟩
  · intro r _ s b c n hb hc
    exact loop_rachTurn_cut ⟨numerology, sfn, slot⟩ ocudu r n hb hc

theorem dispatchSrsIndication_cut (ocudu : Ocudu) {records : List WireSrs}
    (hn : records.length ≤ 255) :
    DeliversCut
      (dispatchSrsIndication ocudu (encodeSrsIndication hdr sfn slot records) numerology)
      (dispatchSrsIndication ocudu ((encodeSrsIndication hdr sfn slot records).take k) numerology)
      records.length (wholeCount WireSrs.encode (k - 13) records)
      (cutPart WireSrs.encode (WireSrs.deliverCut ocudu ⟨numerology, sfn, slot⟩) (k - 13) records) := by
  apply dispatchPdus_cut id (srsTurn ocudu) hhdr rfl (count8_parses hn) (fun _ ↦ rfl)
  · intro r _
    rw [WireSrs.encode, List.length_append, r.header_length]
    omega
  · intro r _
    rfl
  · intro r _ s
    exact ⟨s + r.encode.length, .onSrsIndication ⟨numerology, sfn, slot⟩ (r.deliver ocudu numerology),
      rfl, fun b rest hb ↦ srsTurn_encoded ⟨numerology, sfn, slot⟩ ocudu r hb⟩
  · intro r _ s b c n hb hc
    exact loop_srsTurn_cut ⟨numerology, sfn, slot⟩ ocudu r n hb hc

theorem dispatchUciIndication_cut (ocudu : Ocudu) {pdus : List WireUciPdu}
    (hn : pdus.length ≤ 65535) :
    DeliversCut (dispatchUciIndication ocudu (encodeUciIndication hdr sfn slot pdus) numerology)
      (dispatchUciIndication ocudu ((encodeUciIndication hdr sfn slot pdus).take k) numerology)
      pdus.length (wholeCount WireUciPdu.encode (k - 14) pdus) [] := by
  have hnone : ∀ c, cutPart WireUciPdu.encode (fun _ _ ↦ ([] : List Notification)) c pdus = [] :=
    cutPart_nil WireUciPdu.encode pdus
  rw [← hnone (k - 14), encodeUciIndication_eq]
  apply dispatchPdus_cut id (uciTurn ocudu) hhdr rfl (count16_parses hn) (fun _ ↦ rfl)
  · intro w _
    rw [w.encode_length]
    omega
  · intro w _
    rfl
  · intro w _ s
    exact ⟨s + w.encode.length, .onUciIndication ⟨numerology, sfn, slot⟩ (w.deliver ocudu numerology),
      rfl, fun b rest hb ↦ uciTurn_encoded ocudu ⟨numerology, sfn, slot⟩ w hb⟩
  · intro w _ s b c n hb hc
    exact ⟨s, [], loop_uciTurn_cut ⟨numerology, sfn, slot⟩ ocudu w n hb hc, rfl⟩

end Messages

/-- What the decoders deliver of the first `k` bytes of a message: the PDUs that lie wholly within
them, each as before; of a PDU that is cut, RX_DATA and UCI deliver nothing, CRC, RACH and SRS what
`deliverCut` says once the fixed fields are whole. -/
theorem dispatchIndications_cut (ocudu : Ocudu) (numerology k : Nat) (hdr : List UInt8)
    (hhdr : hdr.length = 8) (sfn slot : UInt16) :
    (∀ records : List WireCrc, records.length ≤ 65535 → DeliversCut
      (dispatchCrcIndication (encodeCrcIndication hdr sfn slot records) numerology)
      (dispatchCrcIndication ((encodeCrcIndication hdr sfn slot records).take k) numerology)
      records.length (wholeCount WireCrc.encode (k - 14) records)
      (cutPart WireCrc.encode (WireCrc.deliverCut ⟨numerology, sfn, slot⟩) (k - 14) records)) ∧
    (∀ (hasData : Bool) (dataLen : Nat) (records : List WireRxData), records.length ≤ 65535 →
      DeliversCut
      (dispatchRxDataIndication (encodeRxDataIndication hdr sfn slot records) hasData dataLen
        numerology)
      (dispatchRxDataIndication ((encodeRxDataIndication hdr sfn slot records).take k) hasData
        dataLen numerology)
      records.length (wholeCount WireRxData.encode (k - 14) records) []) ∧
    (∀ records : List WireRach, records.length ≤ 255 → DeliversCut
      (dispatchRachIndication ocudu (encodeRachIndication hdr sfn slot records) numerology)
      (dispatchRachIndication ocudu ((encodeRachIndication hdr sfn slot records).take k) numerology)
      records.length (wholeCount WireRach.encode (k - 13) records)
      (cutPart WireRach.encode (WireRach.deliverCut ocudu ⟨numerology, sfn, slot⟩) (k - 13)
        records)) ∧
    (∀ pdus : List WireUciPdu, pdus.length ≤ 65535 → DeliversCut
      (dispatchUciIndication ocudu (encodeUciIndication hdr sfn slot pdus) numerology)
      (dispatchUciIndication ocudu ((encodeUciIndication hdr sfn slot pdus).take k) numerology)
      pdus.length (wholeCount WireUciPdu.encode (k - 14) pdus) []) ∧
    (∀ records : List WireSrs, records.length ≤ 255 → DeliversCut
      (dispatchSrsIndication ocudu (encodeSrsIndication hdr sfn slot records) numerology)
      (dispatchSrsIndication ocudu ((encodeSrsIndication hdr sfn slot records).take k) numerology)
      records.length (wholeCount WireSrs.encode (k - 13) records)
      (cutPart WireSrs.encode (WireSrs.deliverCut ocudu ⟨numerology, sfn, slot⟩) (k - 13)
        records)) :=
  ⟨fun _ hn ↦ dispatchCrcIndication_cut sfn slot hhdr numerology k hn,
    fun hasData dataLen _ hn ↦
      dispatchRxDataIndication_cut sfn slot hhdr numerology k hasData dataLen hn,
    fun _ hn ↦ dispatchRachIndication_cut sfn slot hhdr numerology k ocudu hn,
    fun _ hn ↦ dispatchUciIndication_cut sfn slot hhdr numerology k ocudu hn,
    fun _ hn ↦ dispatchSrsIndication_cut sfn slot hhdr numerology k ocudu hn⟩

/-- A CRC record without code blocks, and the ten bytes left of it when its measurements are cut. -/
theorem dispatchIndications_cut_crc : DeliversCut
    (dispatchCrcIndication (encodeCrcIndication (List.replicate 8 0) 5 3
      [⟨7, 0x4601, 2, 0, [], by decide, 90, 31, 100⟩]) 1)
    (dispatchCrcIndication ((encodeCrcIndication (List.replicate 8 0) 5 3
      [⟨7, 0x4601, 2, 0, [], by decide, 90, 31, 100⟩]).take 24) 1) 1 0
    [.onCrcIndication ⟨1, 5, 3⟩ ⟨7, 0x4601, 2, true, none⟩] :=
  (dispatchIndications_cut ⟨1, 4, 2, fun ta _ ↦ ta.toNat, 64, List.concat⟩ 1 24
    (List.replicate 8 0) rfl 5 3).1
    [⟨7, 0x4601, 2, 0, [], by decide, 90, 31, 100⟩] (by decide)

/-- A CRC record whose measurements are cut off is delivered all the same. -/
theorem dispatchCrcIndication_delivers_cut :
    ¬ ∀ (numerology k : Nat) (hdr : List UInt8) (sfn slot : UInt16) (records : List WireCrc),
      hdr.length = 8 → records.length ≤ 65535 → DeliversCut
        (dispatchCrcIndication (encodeCrcIndication hdr sfn slot records) numerology)
        (dispatchCrcIndication ((encodeCrcIndication hdr sfn slot records).take k) numerology)
        records.length (wholeCount WireCrc.encode (k - 14) records) [] := by
  intro h
  obtain ⟨trace, cutTrace, -, hcut, -, hnone⟩ := h 1 24 (List.replicate 8 0) 5 3
    [⟨7, 0x4601, 2, 0, [], by decide, 90, 31, 100⟩] rfl (by decide)
  obtain ⟨trace', cutTrace', -, hcut', -, hone⟩ :=
    @dispatchCrcIndication_cut (List.replicate 8 0) 5 3 rfl 1 24
      [⟨7, 0x4601, 2, 0, [], by decide, 90, 31, 100⟩] (by decide)
  rw [hcut, Except.ok.injEq] at hcut'
  -- no record is whole, yet one call is made
  have hempty : notifications cutTrace = [] := hnone
  have hcall : notifications cutTrace' =
      [.onCrcIndication ⟨1, 5, 3⟩ ⟨7, 0x4601, 2, true, none⟩] := hone
  rw [← hcut', hempty] at hcall
  exact absurd hcall (by decide)

end AerialBridge
