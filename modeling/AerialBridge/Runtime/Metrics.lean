import AerialBridge.Indication.Traces
import AerialBridge.Request.TxData
import AerialBridge.Request.UlTti

/-!
# The runtime metrics

Seventeen atomic 64-bit counters, which the UL_TTI and TX_DATA serialisers and the indication
dispatchers add to and `reset_bridge_runtime_metrics` sets back.  A run is any sequence of such calls.
-/

namespace AerialBridge

open Bytes

/-- `g_bridge_runtime_metrics`. -/
abbrev BridgeRuntimeMetrics := Metric → UInt64

namespace BridgeRuntimeMetrics

/-- What `reset_bridge_runtime_metrics` stores, and what the counters start from. -/
def zero : BridgeRuntimeMetrics := fun _ ↦ 0

def apply (m : BridgeRuntimeMetrics) : Effect → BridgeRuntimeMetrics
  | .fetchAdd k n => fun j ↦ if j = k then m j + UInt64.ofNat n else m j
  | _ => m

def after (m : BridgeRuntimeMetrics) (trace : List Effect) : BridgeRuntimeMetrics :=
  trace.foldl apply m

end BridgeRuntimeMetrics

inductive BridgeCall
  | serializeUlTtiRequest (msg : UlTtiRequest) (buf : Mem) (bufLen : Nat) (cellId : UInt8)
  | serializeTxDataRequest (msg : TxDataRequest) (msgBuf : Mem) (msgBufLen : Nat) (dataBuf : Mem)
      (data : DataBuf) (cellId : UInt8)
  | dispatchCrcIndication (buf : List UInt8) (numerology : Nat)
  | dispatchRxDataIndication (buf : List UInt8) (hasData : Bool) (dataLen numerology : Nat)
  | dispatchRachIndication (buf : List UInt8) (numerology : Nat)
  | dispatchUciIndication (buf : List UInt8) (numerology : Nat)
  | dispatchSrsIndication (buf : List UInt8) (numerology : Nat)
  | resetBridgeRuntimeMetrics

def BridgeCall.trace (ocudu : Ocudu) : BridgeCall → Except ReadFault (List Effect)
  | .serializeUlTtiRequest msg buf bufLen cellId =>
      pure (AerialBridge.serializeUlTtiRequest msg buf bufLen cellId).effects
  | .serializeTxDataRequest msg msgBuf msgBufLen dataBuf data cellId =>
      pure (AerialBridge.serializeTxDataRequest msg msgBuf msgBufLen dataBuf data cellId).effects
  | .dispatchCrcIndication buf numerology => AerialBridge.dispatchCrcIndication buf numerology
  | .dispatchRxDataIndication buf hasData dataLen numerology =>
      AerialBridge.dispatchRxDataIndication buf hasData dataLen numerology
  | .dispatchRachIndication buf numerology => AerialBridge.dispatchRachIndication ocudu buf numerology
  | .dispatchUciIndication buf numerology => AerialBridge.dispatchUciIndication ocudu buf numerology
  | .dispatchSrsIndication buf numerology => AerialBridge.dispatchSrsIndication ocudu buf numerology
  | .resetBridgeRuntimeMetrics => pure []

/-- The metrics behind one call. -/
def BridgeRuntimeMetrics.call (ocudu : Ocudu) (m : BridgeRuntimeMetrics) (c : BridgeCall) :
    Except ReadFault BridgeRuntimeMetrics :=
  match c with
  | .resetBridgeRuntimeMetrics => pure .zero
  | c => do
      let trace ← c.trace ocudu
      pure (m.after trace)

/-- The metrics behind a sequence of calls. -/
def runCalls (ocudu : Ocudu) (calls : List BridgeCall) : Except ReadFault BridgeRuntimeMetrics :=
  calls.foldlM (BridgeRuntimeMetrics.call ocudu) .zero

def BridgeCall.isReset : BridgeCall → Bool
  | .resetBridgeRuntimeMetrics => true
  | _ => false

/-- The calls behind the last reset. -/
def sinceReset (calls : List BridgeCall) : List BridgeCall :=
  calls.foldl (fun since c ↦ if c.isReset then [] else since ++ [c]) []

/-! ## What a trace adds -/

/-- What a trace adds to a metric. -/
def added (k : Metric) (trace : List Effect) : Nat :=
  (trace.map fun e ↦ match e with
    | .fetchAdd j n => if k = j then n else 0
    | _ => 0).sum

@[simp] theorem added_nil (k : Metric) : added k [] = 0 := rfl

@[simp] theorem added_append (k : Metric) (xs ys : List Effect) :
    added k (xs ++ ys) = added k xs + added k ys := by
  simp only [added, List.map_append, List.sum_append]

@[simp] theorem added_fetchAdd (k j : Metric) (n : Nat) (es : List Effect) :
    added k (.fetchAdd j n :: es) = (if k = j then n else 0) + added k es :=
  List.sum_cons

@[simp] theorem added_notify (k : Metric) (n : Notification) (es : List Effect) :
    added k (.notify n :: es) = added k es := Nat.zero_add _

@[simp] theorem added_log (k : Metric) (gate : LogGate) (line : LogLine) (es : List Effect) :
    added k (.log gate line :: es) = added k es := Nat.zero_add _

@[simp] theorem added_slotPoint (k : Metric) (sp : SlotPoint) (es : List Effect) :
    added k (.slotPoint sp :: es) = added k es := Nat.zero_add _

theorem OnlyLogs.added {es : List Effect} (h : OnlyLogs es) (k : Metric) :
    AerialBridge.added k es = 0 := by
  induction es with
  | nil => rfl
  | cons e es ih =>
      obtain ⟨gate, line, rfl⟩ := h e List.mem_cons_self
      rw [added_log]
      exact ih fun e' he' ↦ h e' (List.mem_cons_of_mem _ he')

theorem BridgeRuntimeMetrics.after_apply (m : BridgeRuntimeMetrics) (trace : List Effect)
    (k : Metric) : m.after trace k = m k + UInt64.ofNat (added k trace) := by
  induction trace generalizing m with
  | nil =>
      show m k = m k + UInt64.ofNat 0
      simp
  | cons e es ih =>
      show (m.apply e).after es k = _
      rw [ih]
      cases e with
      | fetchAdd j n =>
          rw [added_fetchAdd, UInt64.ofNat_add, ← UInt64.add_assoc]
          show (if k = j then m k + UInt64.ofNat n else m k) + _ = _
          by_cases hk : k = j
          · rw [if_pos hk, if_pos hk]
          · rw [if_neg hk, if_neg hk]
            simp
      | slotPoint _ => rw [added_slotPoint]; rfl
      | notify _ => rw [added_notify]; rfl
      | log _ _ => rw [added_log]; rfl

/-! ## What a run adds -/

theorem BridgeCall.trace_succeeds (ocudu : Ocudu) (c : BridgeCall) : Succeeds (c.trace ocudu) := by
  cases c with
  | serializeUlTtiRequest => exact .pure _
  | serializeTxDataRequest => exact .pure _
  | dispatchCrcIndication buf => exact dispatchPdus_succeeds count16_sized (crcTurn_succeeds buf)
  | dispatchRxDataIndication buf hasData dataLen numerology =>
      show Succeeds (AerialBridge.dispatchRxDataIndication buf hasData dataLen numerology)
      exact dispatchPdus_succeeds count16_sized (rxDataTurn_succeeds buf hasData dataLen)
  | dispatchRachIndication buf => exact dispatchPdus_succeeds count8_sized (rachTurn_succeeds ocudu buf)
  | dispatchUciIndication buf =>
      exact dispatchPdus_succeeds count16_sized (uciTurn_succeeds ocudu buf)
  | dispatchSrsIndication buf =>
      exact dispatchPdus_succeeds count8_sized (srsTurn_succeeds ocudu buf)
  | resetBridgeRuntimeMetrics => exact .pure _

theorem sinceReset_concat (calls : List BridgeCall) (c : BridgeCall) :
    sinceReset (calls ++ [c]) = if c.isReset then [] else sinceReset calls ++ [c] := by
  rw [sinceReset, List.foldl_append]
  rfl

theorem runCalls_concat {ocudu : Ocudu} {calls : List BridgeCall} {m : BridgeRuntimeMetrics}
    (h : runCalls ocudu calls = .ok m) (c : BridgeCall) :
    runCalls ocudu (calls ++ [c]) = m.call ocudu c := by
  unfold runCalls at h ⊢
  rw [List.foldlM_append, h, ok_bind, List.foldlM_cons]
  exact bind_pure _

theorem BridgeRuntimeMetrics.call_of_trace {ocudu : Ocudu} (m : BridgeRuntimeMetrics)
    {c : BridgeCall} (hnot : c.isReset = false) {trace : List Effect}
    (htrace : c.trace ocudu = .ok trace) : m.call ocudu c = .ok (m.after trace) := by
  cases c with
  | resetBridgeRuntimeMetrics => cases hnot
  | _ =>
      unfold BridgeRuntimeMetrics.call
      simp only [htrace]
      rfl

theorem runCalls_succeeds (ocudu : Ocudu) (calls : List BridgeCall) :
    Succeeds (runCalls ocudu calls) := by
  induction calls using List.reverseRecOn with
  | nil => exact ⟨.zero, rfl⟩
  | append_singleton calls c ih =>
      obtain ⟨m, hm⟩ := ih
      rw [runCalls_concat hm]
      cases hreset : c.isReset with
      | true =>
          cases c with
          | resetBridgeRuntimeMetrics => exact ⟨.zero, rfl⟩
          | _ => cases hreset
      | false =>
          obtain ⟨trace, htrace⟩ := c.trace_succeeds ocudu
          exact ⟨_, m.call_of_trace hreset htrace⟩

/-- A metric holds what the calls behind the last reset add to it, when `count` says what each of them
adds. -/
theorem runCalls_count {ocudu : Ocudu} {k : Metric} {count : BridgeCall → Nat}
    {calls : List BridgeCall} (hcount : ∀ c ∈ calls, c.isReset = false →
      Ensures (c.trace ocudu) fun trace ↦ added k trace = count c)
    {m : BridgeRuntimeMetrics} (hm : runCalls ocudu calls = .ok m) :
    m k = UInt64.ofNat (((sinceReset calls).map count).sum) := by
  induction calls using List.reverseRecOn generalizing m with
  | nil =>
      cases hm
      rfl
  | append_singleton calls c ih =>
      obtain ⟨m', hm'⟩ := runCalls_succeeds ocudu calls
      have hval := ih (fun c' hc' ↦ hcount c' (List.mem_append_left _ hc')) hm'
      rw [runCalls_concat hm'] at hm
      rw [sinceReset_concat]
      cases hreset : c.isReset with
      | true =>
          cases c with
          | resetBridgeRuntimeMetrics =>
              cases hm
              rfl
          | _ => cases hreset
      | false =>
          obtain ⟨trace, htrace⟩ := c.trace_succeeds ocudu
          have hadd := hcount c (List.mem_append_right _ List.mem_cons_self) hreset trace htrace
          rw [m'.call_of_trace hreset htrace] at hm
          cases hm
          rw [if_neg Bool.false_ne_true, m'.after_apply, hval, hadd, List.map_append,
            List.sum_append, UInt64.ofNat_add]
          simp

end AerialBridge
