import AerialBridge.Runtime.Metrics

/-!
# Event counters

All counters but the three of TX_DATA and RX_DATA payloads count events: a notifier call of one kind,
or a UL_TTI PDU of one kind that was written.  Each group of effects adds one to the counters of the
event that it contains, so over a whole run the counters agree with the events since the last reset.
-/

namespace AerialBridge

open Bytes

/-- The notifier calls that a metric counts. -/
def Metric.counts : Metric → Notification → Bool
  | .crcTotal, .onCrcIndication _ _ => true
  | .crcOk, .onCrcIndication _ pdu => pdu.tbCrcStatusOk
  | .crcFail, .onCrcIndication _ pdu => !pdu.tbCrcStatusOk
  | .rxDataPdus, .onRxDataIndication _ _ => true
  | .uciTotal, .onUciIndication _ _ => true
  | .uciPusch, .onUciIndication _ (.pusch _) => true
  | .uciPucch01, .onUciIndication _ (.pucchFormat01 _) => true
  | .uciPucch234, .onUciIndication _ (.pucchFormat234 _) => true
  | .rachTotal, .onRachIndication _ _ => true
  | .srsTotal, .onSrsIndication _ _ => true
  | _, _ => false

/-- The UL_TTI PDUs that a metric counts. -/
def Metric.countsUl : Metric → ScfUlPdu → Bool
  | .ulPuschPdus, .pusch _ => true
  | .ulPucchPdus, .pucch _ => true
  | .ulPrachPdus, .prach _ => true
  | .ulSrsPdus, .srs _ => true
  | _, _ => false

/-- The metrics that count notifier calls or UL_TTI PDUs. -/
def Metric.CountsEvents (k : Metric) : Prop :=
  k ≠ .txDataReqs ∧ k ≠ .txDataBytes ∧ k ≠ .rxDataBytes

instance (k : Metric) : Decidable k.CountsEvents := inferInstanceAs (Decidable (_ ∧ _))

/-- The notifier calls that a call makes. -/
def BridgeCall.notified (ocudu : Ocudu) (c : BridgeCall) : List Notification :=
  match c.trace ocudu with
  | .ok trace => notifications trace
  | .error _ => []

/-- The PDUs that a call writes to the UL_TTI message. -/
def BridgeCall.ulPdusWritten : BridgeCall → List ScfUlPdu
  | .serializeUlTtiRequest msg _ bufLen _ =>
      if bufLen < 17 then [] else msg.pdus.filterMap UlTtiPdu.toScf
  | _ => []

def BridgeCall.events (ocudu : Ocudu) (k : Metric) (c : BridgeCall) : Nat :=
  (c.notified ocudu).countP k.counts + c.ulPdusWritten.countP k.countsUl

/-- The events of a kind since the last reset. -/
def eventsSinceReset (ocudu : Ocudu) (calls : List BridgeCall) (k : Metric) : Nat :=
  ((sinceReset calls).map fun c ↦ c.events ocudu k).sum

/-- A UL_TTI call that is not refused leaves the PDUs it writes in its buffer: a header of 17 bytes
whose `num_pdus` counts them, and behind it their encodings. -/
def BridgeCall.LeavesWritten (c : BridgeCall) : Prop :=
  match c with
  | .serializeUlTtiRequest msg buf bufLen cellId =>
      if bufLen < 17 then
        (AerialBridge.serializeUlTtiRequest msg buf bufLen cellId).buf = buf ∧ c.ulPdusWritten = []
      else
        ∃ header : List UInt8, header.length = 17 ∧
          header[12]? = some (UInt8.ofNat c.ulPdusWritten.length) ∧
          (AerialBridge.serializeUlTtiRequest msg buf bufLen cellId).buf =
            buf.store 0 (header ++ c.ulPdusWritten.flatMap ScfUlPdu.encode)
  | c => c.ulPdusWritten = []

theorem ulSummary_numPdus (pdus : List ScfUlPdu) :
    (ulSummary pdus).numPdus = UInt8.ofNat pdus.length := by
  induction pdus using List.reverseRecOn with
  | nil => rfl
  | append_singleton pdus w ih =>
      have hadd : ((ulSummary pdus).add w).numPdus = (ulSummary pdus).numPdus + 1 := by
        cases w <;> rfl
      rw [ulSummary_concat, hadd, ih, List.length_append, List.length_singleton, UInt8.ofNat_add]
      rfl

theorem BridgeCall.leavesWritten (c : BridgeCall) : c.LeavesWritten := by
  cases c with
  | serializeUlTtiRequest msg buf bufLen cellId =>
      unfold BridgeCall.LeavesWritten
      by_cases hlen : bufLen < 17
      · simp only [if_pos hlen, BridgeCall.ulPdusWritten]
        exact ⟨congrArg SerializeResult.buf (if_pos hlen), trivial⟩
      · simp only [if_neg hlen, BridgeCall.ulPdusWritten]
        have hbuf := (serializeUlTtiRequest_eq msg buf cellId (not_lt.mp hlen)).2
        simp only [ulTtiBody, ulSummary_numPdus, ← List.append_assoc] at hbuf
        exact ⟨_, rfl, rfl, hbuf⟩
  | _ => rfl

/-! ## The groups of effects -/

/-- A trace adds to a metric what it notifies. -/
def Counted (k : Metric) (trace : List Effect) : Prop :=
  added k trace = (notifications trace).countP k.counts

namespace Counted

variable {k : Metric}

theorem nil : Counted k [] := rfl

theorem append {xs ys : List Effect} (hx : Counted k xs) (hy : Counted k ys) :
    Counted k (xs ++ ys) := by
  unfold Counted at hx hy ⊢
  rw [added_append, notifications_append, List.countP_append, hx, hy]

theorem onlyLogs {es : List Effect} (h : OnlyLogs es) : Counted k es := by
  unfold Counted
  rw [h.added, h.notifications]
  rfl

theorem crc (sp : SlotPoint) (pdu : CrcIndicationPdu) : Counted k (crcEffects sp pdu) := by
  unfold Counted crcEffects
  cases hok : pdu.tbCrcStatusOk <;> cases k <;> simp [Metric.counts, hok]

theorem rxData (hk : k ≠ .rxDataBytes) (sp : SlotPoint) (pdu : RxDataIndicationPdu) (pduLen : Nat) :
    Counted k (rxDataEffects sp pdu pduLen) := by
  unfold Counted rxDataEffects
  cases k <;> simp [Metric.counts] at hk ⊢

theorem rach (sp : SlotPoint) (pdu : RachIndicationPdu) : Counted k (rachEffects sp pdu) := by
  unfold Counted rachEffects
  cases k <;> simp [Metric.counts]

theorem srs (sp : SlotPoint) (pdu : SrsIndicationPdu) : Counted k (srsEffects sp pdu) := by
  unfold Counted srsEffects
  cases k <;> simp [Metric.counts]

theorem uci (sp : SlotPoint) (pdu : UciPdu) (line : LogLine) :
    Counted k (uciEffects sp pdu line) := by
  unfold Counted uciEffects
  cases pdu <;> cases k <;> simp [Metric.counts, UciPdu.metric]

end Counted

/-! ## The calls -/

/-- The effects of one turn of the UL_TTI loop. -/
def UlTtiPdu.effects (slot : SlotPoint) : UlTtiPdu → List Effect
  | .prach _ => [.fetchAdd .ulPrachPdus 1]
  | .pusch pdu => [.fetchAdd .ulPuschPdus 1, .log .ulPduSerialize (puschLogLine slot pdu)]
  | .pucch pdu => [.fetchAdd .ulPucchPdus 1, .log .ulPduSerialize (pucchLogLine slot pdu)]
  | .srs _ => [.fetchAdd .ulSrsPdus 1]
  | .other => []

theorem UlTtiState.advance_effects (s : UlTtiState) (buf : Mem) (pduSize : Nat)
    (effects : List Effect) : (s.advance buf pduSize effects).effects = s.effects ++ effects := by
  unfold UlTtiState.advance
  split
  · rfl
  · rfl

theorem ulTtiTurn_effects (slot : SlotPoint) (s : UlTtiState) (pdu : UlTtiPdu) :
    (ulTtiTurn slot s pdu).effects = s.effects ++ pdu.effects slot := by
  cases pdu with
  | prach pdu => exact UlTtiState.advance_effects _ _ _ _
  | pusch pdu => exact UlTtiState.advance_effects _ _ _ _
  | pucch pdu => exact UlTtiState.advance_effects _ _ _ _
  | srs pdu => exact UlTtiState.advance_effects _ _ _ _
  | other => exact UlTtiState.advance_effects _ _ _ _

theorem serializeUlTtiRequest_effects (msg : UlTtiRequest) (buf : Mem) (bufLen : Nat)
    (cellId : UInt8) : (serializeUlTtiRequest msg buf bufLen cellId).effects =
      if bufLen < 17 then [] else msg.pdus.flatMap (UlTtiPdu.effects msg.slot) := by
  have hloop : ∀ (pdus : List UlTtiPdu) (s : UlTtiState),
      (pdus.foldl (ulTtiTurn msg.slot) s).effects =
        s.effects ++ pdus.flatMap (UlTtiPdu.effects msg.slot) := by
    intro pdus
    induction pdus with
    | nil => exact fun s ↦ (List.append_nil _).symm
    | cons pdu pdus ih =>
        intro s
        rw [List.foldl_cons, ih, ulTtiTurn_effects, List.flatMap_cons, List.append_assoc]
  unfold serializeUlTtiRequest
  split
  · rfl
  · exact (hloop _ _).trans (List.nil_append _)

theorem UlTtiPdu.effects_added (slot : SlotPoint) (k : Metric) (pdu : UlTtiPdu) :
    added k (pdu.effects slot) = pdu.toScf.toList.countP k.countsUl := by
  cases pdu <;> cases k <;> rfl

theorem ulTtiEffects_added (slot : SlotPoint) (k : Metric) (pdus : List UlTtiPdu) :
    added k (pdus.flatMap (UlTtiPdu.effects slot)) =
      (pdus.filterMap UlTtiPdu.toScf).countP k.countsUl := by
  induction pdus with
  | nil => rfl
  | cons pdu pdus ih =>
      have hsplit : (pdu :: pdus).filterMap UlTtiPdu.toScf =
          pdu.toScf.toList ++ pdus.filterMap UlTtiPdu.toScf := by
        rw [List.filterMap_cons]
        cases pdu.toScf with
        | none => rfl
        | some w => rfl
      rw [List.flatMap_cons, added_append, ih, hsplit, List.countP_append, pdu.effects_added]

theorem ulTtiEffects_notifications (slot : SlotPoint) (pdus : List UlTtiPdu) :
    notifications (pdus.flatMap (UlTtiPdu.effects slot)) = [] := by
  induction pdus with
  | nil => rfl
  | cons pdu pdus ih =>
      rw [List.flatMap_cons, notifications_append, ih]
      rw [List.append_nil]
      cases pdu <;> rfl

theorem serializeTxDataRequest_effects (msg : TxDataRequest) (msgBuf : Mem) (msgBufLen : Nat)
    (dataBuf : Mem) (data : DataBuf) (cellId : UInt8) :
    (serializeTxDataRequest msg msgBuf msgBufLen dataBuf data cellId).effects =
      if msgBufLen < 14 then []
      else [.fetchAdd .txDataReqs 1, .fetchAdd .txDataBytes (data.offset msg.pdus)] := by
  by_cases h : msgBufLen < 14
  · rw [serializeTxDataRequest, if_pos h, if_pos h]
  · rw [serializeTxDataRequest_eq msg msgBuf dataBuf data cellId (Nat.not_lt.mp h), if_neg h]

/-- A dispatcher adds to an event counter what it notifies. -/
theorem dispatchPdus_counted {k : Metric} {σ : Type} {count : Parser Nat} {countSize : Nat}
    {buf : List UInt8} {numerology : Nat} {start : Nat → σ}
    {turn : SlotPoint → σ → Except ReadFault (Turn σ Effect)}
    (hturn : ∀ sp s, Ensures (turn sp s) fun t ↦ Counted k t.out) :
    Ensures (dispatchPdus count countSize buf numerology start turn) (Counted k) :=
  dispatchPdus_ensures .nil (fun _ _ ↦ .append) (fun _ ↦ rfl) hturn

/-- The metric is not one of those by which a call measures payload. -/
def BridgeCall.CountsFor (k : Metric) : BridgeCall → Prop
  | .serializeTxDataRequest .. => k ≠ .txDataReqs ∧ k ≠ .txDataBytes
  | .dispatchRxDataIndication .. => k ≠ .rxDataBytes
  | _ => True

theorem Metric.CountsEvents.countsFor {k : Metric} (hk : k.CountsEvents) (c : BridgeCall) :
    c.CountsFor k := by
  cases c with
  | serializeTxDataRequest => exact ⟨hk.1, hk.2.1⟩
  | dispatchRxDataIndication => exact hk.2.2
  | _ => trivial

theorem BridgeCall.trace_counted {k : Metric} (ocudu : Ocudu) {c : BridgeCall}
    (hk : c.CountsFor k) :
    Ensures (c.trace ocudu) fun trace ↦
      added k trace = (notifications trace).countP k.counts + c.ulPdusWritten.countP k.countsUl := by
  cases c with
  | serializeUlTtiRequest msg buf bufLen cellId =>
      refine .pure ?_
      rw [serializeUlTtiRequest_effects, BridgeCall.ulPdusWritten]
      split
      · rfl
      · rw [ulTtiEffects_added, ulTtiEffects_notifications]
        exact (Nat.zero_add _).symm
  | serializeTxDataRequest msg msgBuf msgBufLen dataBuf data cellId =>
      refine .pure ?_
      rw [serializeTxDataRequest_effects]
      split
      · rfl
      · simp [hk.1, hk.2, BridgeCall.ulPdusWritten]
  | dispatchCrcIndication buf numerology =>
      exact dispatchPdus_counted fun sp s t ht ↦ of_out .nil (.crc sp) (crcTurn_out buf sp s t ht)
  | dispatchRxDataIndication buf hasData dataLen numerology =>
      show Ensures (AerialBridge.dispatchRxDataIndication buf hasData dataLen numerology) (Counted k)
      -- a PDU that the end of the buffer cuts off is neither notified nor counted
      refine dispatchPdus_counted fun sp s t ht ↦ ?_
      cases rxDataTurn_out buf hasData dataLen sp s t ht with
      | inl hnil => rw [hnil]; exact .nil
      | inr hsome =>
          obtain ⟨pdu, pduLen, hout, -⟩ := hsome
          rw [hout]
          exact .rxData hk sp pdu pduLen
  | dispatchRachIndication buf numerology =>
      exact dispatchPdus_counted fun sp s t ht ↦
        of_out .nil (.rach sp) (rachTurn_out ocudu buf sp s t ht)
  | dispatchUciIndication buf numerology =>
      refine dispatchPdus_counted fun sp s t ht ↦ ?_
      cases uciTurn_out ocudu buf sp s t ht with
      | inl hnil => rw [hnil]; exact .nil
      | inr hsome =>
          obtain ⟨lines, pdu, fmt, hlogs, hout⟩ := hsome
          rw [hout]
          exact (Counted.onlyLogs hlogs).append (.uci sp pdu _)
  | dispatchSrsIndication buf numerology =>
      exact dispatchPdus_counted fun sp s t ht ↦
        of_out .nil (.srs sp) (srsTurn_out ocudu buf sp s t ht)
  | resetBridgeRuntimeMetrics => exact .pure rfl

theorem BridgeCall.trace_events {k : Metric} (hk : k.CountsEvents) (ocudu : Ocudu) (c : BridgeCall) :
    Ensures (c.trace ocudu) fun trace ↦ added k trace = c.events ocudu k := by
  intro trace htrace
  rw [trace_counted ocudu (hk.countsFor c) trace htrace, BridgeCall.events, BridgeCall.notified,
    htrace]

/-! ## Counters that split another one -/

theorem countP_split {α : Type} {f : Metric → α → Bool} {k : Metric} {ks : List Metric}
    (h : ∀ a, (f k a).toNat = (ks.map fun j ↦ (f j a).toNat).sum) (xs : List α) :
    xs.countP (f k) = (ks.map fun j ↦ xs.countP (f j)).sum := by
  have hcons : ∀ (j : Metric) (a : α) (as : List α),
      (a :: as).countP (f j) = as.countP (f j) + (f j a).toNat := by
    intro j a as
    rw [List.countP_cons]
    cases f j a <;> rfl
  induction xs with
  | nil => simp
  | cons x xs ih => simp only [hcons, ih, h, List.sum_map_add]

/-- The events that `k` counts are split among the metrics `ks`. -/
def Metric.SplitInto (k : Metric) (ks : List Metric) : Prop :=
  (∀ n, (k.counts n).toNat = (ks.map fun j ↦ (j.counts n).toNat).sum) ∧
    ∀ w, (k.countsUl w).toNat = (ks.map fun j ↦ (j.countsUl w).toNat).sum

theorem Metric.crcTotal_splitInto : Metric.crcTotal.SplitInto [.crcOk, .crcFail] := by
  refine ⟨fun n ↦ ?_, fun w ↦ ?_⟩
  · cases n with
    | onCrcIndication sp pdu =>
        show 1 = pdu.tbCrcStatusOk.toNat + ((!pdu.tbCrcStatusOk).toNat + 0)
        cases pdu.tbCrcStatusOk <;> rfl
    | _ => rfl
  · cases w <;> rfl

theorem Metric.uciTotal_splitInto :
    Metric.uciTotal.SplitInto [.uciPusch, .uciPucch01, .uciPucch234] := by
  refine ⟨fun n ↦ ?_, fun w ↦ ?_⟩
  · cases n with
    | onUciIndication sp pdu => cases pdu <;> rfl
    | _ => rfl
  · cases w <;> rfl

theorem Metric.SplitInto.eventsSinceReset {k : Metric} {ks : List Metric} (h : k.SplitInto ks)
    (ocudu : Ocudu) (calls : List BridgeCall) : eventsSinceReset ocudu calls k =
      (ks.map fun j ↦ AerialBridge.eventsSinceReset ocudu calls j).sum := by
  unfold AerialBridge.eventsSinceReset
  induction sinceReset calls with
  | nil => simp
  | cons c cs ih =>
      have hc : c.events ocudu k = (ks.map fun j ↦ c.events ocudu j).sum := by
        simp only [BridgeCall.events, countP_split h.1, countP_split h.2, List.sum_map_add]
      simp only [List.map_cons, List.sum_cons, ih, hc, List.sum_map_add]

/-! ## Runs -/

/-- In every run each event counter holds, modulo 2^64, the number of its events since the last reset;
the CRC and UCI totals are the sums of their parts, and the PDUs a UL_TTI call is said to write are
those in its message. -/
theorem runCalls_events (ocudu : Ocudu) (calls : List BridgeCall) :
    ∃ m, runCalls ocudu calls = .ok m ∧
      (∀ k : Metric, k.CountsEvents → (m k).toNat = eventsSinceReset ocudu calls k % 2 ^ 64) ∧
      eventsSinceReset ocudu calls .crcTotal =
        eventsSinceReset ocudu calls .crcOk + eventsSinceReset ocudu calls .crcFail ∧
      eventsSinceReset ocudu calls .uciTotal =
        eventsSinceReset ocudu calls .uciPusch + (eventsSinceReset ocudu calls .uciPucch01 +
          eventsSinceReset ocudu calls .uciPucch234) ∧
      m .crcTotal = m .crcOk + m .crcFail ∧
      m .uciTotal = m .uciPusch + (m .uciPucch01 + m .uciPucch234) ∧
      ∀ c ∈ calls, c.LeavesWritten := by
  obtain ⟨m, hm⟩ := runCalls_succeeds ocudu calls
  have hval : ∀ k : Metric, k.CountsEvents →
      m k = UInt64.ofNat (eventsSinceReset ocudu calls k) := fun k hk ↦
    runCalls_count (fun c _ _ ↦ c.trace_events hk ocudu) hm
  have hcrc := Metric.crcTotal_splitInto.eventsSinceReset ocudu calls
  have huci := Metric.uciTotal_splitInto.eventsSinceReset ocudu calls
  simp only [List.map_cons, List.map_nil, List.sum_cons, List.sum_nil, Nat.add_zero] at hcrc huci
  refine ⟨m, hm, fun k hk ↦ ?_, hcrc, huci, ?_, ?_, fun c _ ↦ c.leavesWritten⟩
  · rw [hval k hk]
    exact UInt64.toNat_ofNat'
  · rw [hval .crcTotal (by decide), hval .crcOk (by decide), hval .crcFail (by decide), hcrc,
      UInt64.ofNat_add]
  · rw [hval .uciTotal (by decide), hval .uciPusch (by decide), hval .uciPucch01 (by decide),
      hval .uciPucch234 (by decide), huci, UInt64.ofNat_add, UInt64.ofNat_add]

end AerialBridge
