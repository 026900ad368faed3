import AerialBridge.Indication.Bounds

/-!
# What a decoder does for one PDU

Apart from the slot point of the header, a decoder's trace is put together from one group of effects
for each PDU it delivers: the notifier call, the metrics that count it and a sampled log line.  A UCI
PDU may log dropped sections in front of its group.
-/

namespace AerialBridge

open Bytes Bytes.Parser

/-- Nothing but log lines. -/
def OnlyLogs (es : List Effect) : Prop := ∀ e ∈ es, ∃ gate line, e = .log gate line

namespace OnlyLogs

variable {es es' : List Effect}

theorem nil : OnlyLogs [] := fun _ he ↦ absurd he List.not_mem_nil

theorem single (gate : LogGate) (line : LogLine) : OnlyLogs [.log gate line] := by
  intro e he
  rw [List.mem_singleton.mp he]
  exact ⟨gate, line, rfl⟩

theorem append (h : OnlyLogs es) (h' : OnlyLogs es') : OnlyLogs (es ++ es') := by
  intro e he
  cases List.mem_append.mp he with
  | inl hl => exact h e hl
  | inr hr => exact h' e hr

/-- Log lines are invisible to what looks at other effects only. -/
theorem filterMap_eq_nil {α : Type} {f : Effect → Option α}
    (hf : ∀ gate line, f (.log gate line) = none) (h : OnlyLogs es) : es.filterMap f = [] := by
  rw [List.filterMap_eq_nil_iff]
  intro e he
  obtain ⟨gate, line, rfl⟩ := h e he
  exact hf gate line

theorem notifications (h : OnlyLogs es) : AerialBridge.notifications es = [] :=
  h.filterMap_eq_nil fun _ _ ↦ rfl

theorem slotPoints (h : OnlyLogs es) : AerialBridge.slotPoints es = [] :=
  h.filterMap_eq_nil fun _ _ ↦ rfl

end OnlyLogs

/-! ## CRC, RX_DATA, RACH and SRS -/

def crcEffects (sp : SlotPoint) (pdu : CrcIndicationPdu) : List Effect := [
  .notify (.onCrcIndication sp pdu),
  .fetchAdd .crcTotal 1,
  .fetchAdd (if pdu.tbCrcStatusOk then .crcOk else .crcFail) 1,
  .log .crcDispatch (.crcIndication sp.sfn sp.slot pdu.rnti pdu.harqId pdu.tbCrcStatusOk)]

def rxDataEffects (sp : SlotPoint) (pdu : RxDataIndicationPdu) (pduLen : Nat) : List Effect := [
  .notify (.onRxDataIndication sp pdu),
  .fetchAdd .rxDataPdus 1,
  .fetchAdd .rxDataBytes pduLen]

def rachEffects (sp : SlotPoint) (pdu : RachIndicationPdu) : List Effect := [
  .notify (.onRachIndication sp pdu),
  .fetchAdd .rachTotal 1]

def srsEffects (sp : SlotPoint) (pdu : SrsIndicationPdu) : List Effect := [
  .notify (.onSrsIndication sp pdu),
  .fetchAdd .srsTotal 1]

theorem crcTurn_out (buf : List UInt8) (sp : SlotPoint) (p : Nat) :
    Ensures (crcTurn buf sp p) fun t ↦ t.out = [] ∨ ∃ pdu, t.out = crcEffects sp pdu := by
  refine .ite (.pure (.inl rfl)) (.bind (.trivial _) fun hdr _ ↦ ?_)
  exact .bind (.trivial _) fun r _ ↦ .pure (.inr ⟨⟨_, _, _, _, r.2⟩, rfl⟩)

/-- The length that a turn counts is that of the block it hands over, if it hands one over. -/
theorem rxDataTurn_out (buf : List UInt8) (hasData : Bool) (dataLen : Nat) (sp : SlotPoint)
    (c : RxDataCursor) :
    Ensures (rxDataTurn buf hasData dataLen sp c) fun t ↦ t.out = [] ∨
      ∃ pdu pduLen, t.out = rxDataEffects sp pdu pduLen ∧
        ∀ b, pdu.transportBlock = some b → b.length = pduLen := by
  unfold rxDataTurn
  refine .ite (.pure (.inl rfl)) (.bind (.trivial _) fun hdr _ ↦ ?_)
  by_cases hfit : hasData ∧ (c.dataOffset + hdr.pduLen.toNat) % 2 ^ 64 ≤ dataLen
  · simp only [if_pos hfit]
    refine .pure (.inr ⟨_, _, rfl, fun b hb ↦ ?_⟩)
    rw [← Option.some.inj hb]
  · simp only [if_neg hfit]
    exact .pure (.inr ⟨_, _, rfl, fun b hb ↦ nomatch hb⟩)

theorem rachTurn_out (ocudu : Ocudu) (buf : List UInt8) (sp : SlotPoint) (p : Nat) :
    Ensures (rachTurn ocudu buf sp p) fun t ↦ t.out = [] ∨ ∃ pdu, t.out = rachEffects sp pdu := by
  refine .ite (.pure (.inl rfl)) (.bind (.trivial _) fun hdr _ ↦ ?_)
  exact .bind (.trivial _) fun _ _ ↦ .pure (.inr ⟨_, rfl⟩)

theorem srsTurn_out (ocudu : Ocudu) (buf : List UInt8) (sp : SlotPoint) (p : Nat) :
    Ensures (srsTurn ocudu buf sp p) fun t ↦ t.out = [] ∨ ∃ pdu, t.out = srsEffects sp pdu := by
  refine .ite (.pure (.inl rfl)) (.bind (.trivial _) fun hdr _ ↦ ?_)
  exact .bind (.trivial _) fun _ _ ↦ .pure (.inr ⟨_, rfl⟩)

/-! ## UCI -/

/-- The metric that counts a PDU of this kind. -/
def UciPdu.metric : UciPdu → Metric
  | .pusch _ => .uciPusch
  | .pucchFormat01 _ => .uciPucch01
  | .pucchFormat234 _ => .uciPucch234

/-- The line that a PDU logs; it prints the format as L1 sent it. -/
def UciPdu.logLine (sp : SlotPoint) (fmt : UInt8) : UciPdu → LogLine
  | .pusch pdu =>
      .uciPusch sp.sfn sp.slot pdu.rnti pdu.harq.isSome pdu.csiPart1.isSome pdu.csiPart2.isSome
  | .pucchFormat01 pdu =>
      .uciPucch01 sp.sfn sp.slot fmt pdu.rnti (pdu.srDetected.getD false)
        (pdu.harqValues.getD []).length
  | .pucchFormat234 pdu =>
      .uciPucch234 sp.sfn sp.slot fmt pdu.rnti (pdu.srPayload.getD []).length pdu.harq.isSome
        pdu.csiPart1.isSome pdu.csiPart2.isSome

def uciEffects (sp : SlotPoint) (pdu : UciPdu) (line : LogLine) : List Effect := [
  .notify (.onUciIndication sp pdu),
  .fetchAdd .uciTotal 1,
  .fetchAdd pdu.metric 1,
  .log .uciDispatch line]

section Uci

variable (ocudu : Ocudu) (fr : UciFrame)

theorem decodePayloadBits_onlyLogs (rnti : UInt16) (name : String) (max q bitLen : Nat) :
    Ensures (decodePayloadBits fr rnti name max q bitLen) fun r ↦ OnlyLogs r.2 := by
  refine .ite (.pure (.single _ _)) ?_
  exact .bind (.trivial _) fun _ _ ↦ .pure .nil

theorem logMalformedUciBytes_onlyLogs (reason : String) (q : Nat) :
    Ensures (logMalformedUciBytes fr reason q) fun e ↦ OnlyLogs [e] :=
  .bind (.trivial _) fun _ _ ↦ .pure (.single _ _)

theorem logDropped_onlyLogs {α : Type} (reason : Option String) (q : Nat) (decoded : Option α) :
    Ensures (logDropped fr reason q decoded) OnlyLogs := by
  unfold logDropped
  split
  · exact .bind (logMalformedUciBytes_onlyLogs fr _ _) fun _ he ↦ .pure he
  · exact .pure .nil

theorem uciPart_onlyLogs (rnti : UInt16) (flag : Bool) (name : String) (reason : Option String)
    (q : Nat) :
    Ensures (uciPart ocudu fr rnti flag name reason q) fun r ↦ OnlyLogs r.2.2 := by
  refine .ite (.bind (.trivial _) fun hdr _ ↦ .ite ?_ (.pure .nil)) (.pure .nil)
  refine .bind (decodePayloadBits_onlyLogs fr _ _ _ _ _) fun r hr ↦ ?_
  exact .bind (logDropped_onlyLogs fr _ _ _) fun es hes ↦ .pure (hr.append hes)

theorem uciSrF234_onlyLogs (rnti : UInt16) (flag : Bool) (q : Nat) :
    Ensures (uciSrF234 ocudu fr rnti flag q) fun r ↦ OnlyLogs r.2.2 := by
  refine .ite (.bind (.trivial _) fun hdr _ ↦ .ite ?_ (.pure .nil)) (.pure .nil)
  refine .bind (decodePayloadBits_onlyLogs fr _ _ _ _ _) fun r hr ↦ ?_
  exact .bind (logDropped_onlyLogs fr _ _ _) fun es hes ↦ .pure (hr.append hes)

theorem uciHarqF01_onlyLogs (rnti : UInt16) (flag : Bool) (q : Nat) :
    Ensures (uciHarqF01 ocudu fr rnti flag q) fun r ↦ OnlyLogs r.2.2 := by
  refine .ite (.bind (.trivial _) fun hdr _ ↦ .ite (.ite ?_ ?_) (.pure .nil)) (.pure .nil)
  · exact .bind (.trivial _) fun _ _ ↦ .pure .nil
  · exact .bind (logMalformedUciBytes_onlyLogs fr _ _) fun _ he ↦ .pure (he.append (.single _ _))

theorem uciPdu_out (q : Nat) :
    Ensures (uciPdu ocudu fr q) fun es ↦ es = [] ∨
      ∃ lines pdu fmt, OnlyLogs lines ∧
        es = lines ++ uciEffects fr.sp pdu (pdu.logLine fr.sp fmt) := by
  unfold uciPdu
  split
  · refine .ite (.pure (.inl rfl)) (.bind (.trivial _) fun hdr _ ↦ ?_)
    refine .bind (uciPart_onlyLogs ocudu fr _ _ _ _ _) fun harq hharq ↦ ?_
    refine .bind (uciPart_onlyLogs ocudu fr _ _ _ _ _) fun csi1 hcsi1 ↦ ?_
    refine .bind (uciPart_onlyLogs ocudu fr _ _ _ _ _) fun csi2 hcsi2 ↦ .pure (.inr ?_)
    exact ⟨_, .pusch _, 0, (hharq.append hcsi1).append hcsi2, rfl⟩
  · refine .ite (.pure (.inl rfl)) (.bind (.trivial _) fun hdr _ ↦ .bind (.trivial _) fun sr _ ↦ ?_)
    refine .bind (uciHarqF01_onlyLogs ocudu fr _ _ _) fun harq hharq ↦ .pure (.inr ?_)
    exact ⟨_, .pucchFormat01 _, _, hharq, rfl⟩
  · refine .ite (.pure (.inl rfl)) (.bind (.trivial _) fun hdr _ ↦ ?_)
    refine .bind (uciSrF234_onlyLogs ocudu fr _ _ _) fun sr hsr ↦ ?_
    refine .bind (uciPart_onlyLogs ocudu fr _ _ _ _ _) fun harq hharq ↦ ?_
    refine .bind (uciPart_onlyLogs ocudu fr _ _ _ _ _) fun csi1 hcsi1 ↦ ?_
    refine .bind (uciPart_onlyLogs ocudu fr _ _ _ _ _) fun csi2 hcsi2 ↦ .pure (.inr ?_)
    exact ⟨_, .pucchFormat234 _, _, ((hsr.append hharq).append hcsi1).append hcsi2, rfl⟩
  · exact .pure (.inl rfl)

theorem uciTurn_out (buf : List UInt8) (sp : SlotPoint) (p : Nat) :
    Ensures (uciTurn ocudu buf sp p) fun t ↦ t.out = [] ∨
      ∃ lines pdu fmt, OnlyLogs lines ∧
        t.out = lines ++ uciEffects sp pdu (pdu.logLine sp fmt) := by
  refine .ite (.pure (.inl rfl)) (.bind (.trivial _) fun hdr _ ↦ ?_)
  split
  · exact .pure (.inl rfl)
  · exact .bind (uciPdu_out ocudu _ _) fun _ hes ↦ .pure hes

end Uci

/-! ## Whole messages -/

/-- What holds of the empty trace and of every group holds of what a turn emits. -/
theorem of_out {Q : List Effect → Prop} (hnil : Q []) {α : Type} {group : α → List Effect}
    (hgroup : ∀ a, Q (group a)) {es : List Effect} (h : es = [] ∨ ∃ a, es = group a) : Q es := by
  cases h with
  | inl hes =>
      rw [hes]
      exact hnil
  | inr hes =>
      obtain ⟨a, ha⟩ := hes
      rw [ha]
      exact hgroup a

/-- A property of traces that appending preserves and that the slot point and every turn have is one
of the decoder's trace. -/
theorem dispatchPdus_ensures {Q : List Effect → Prop} (hnil : Q [])
    (happ : ∀ xs ys, Q xs → Q ys → Q (xs ++ ys)) (hslot : ∀ sp, Q [.slotPoint sp]) {σ : Type}
    {count : Parser Nat} {countSize : Nat} {buf : List UInt8} {numerology : Nat} {start : Nat → σ}
    {turn : SlotPoint → σ → Except ReadFault (Turn σ Effect)}
    (hturn : ∀ sp s, Ensures (turn sp s) fun t ↦ Q t.out) :
    Ensures (dispatchPdus count countSize buf numerology start turn) Q := by
  refine .ite (.pure hnil) (.bind (.trivial _) fun sfn _ ↦ .bind (.trivial _) fun slot _ ↦ ?_)
  refine .bind (.trivial _) fun numPdus _ ↦ ?_
  exact .bind (loop_ensures hnil happ (hturn _) _ _) fun r hr ↦ .pure (happ _ _ (hslot _) hr)

end AerialBridge
