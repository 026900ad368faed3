import AerialBridge.Runtime.LogGates
import AerialBridge.Runtime.PayloadBytes
import AerialBridge.Transition.Interleaving

/-!
# Counters shared by threads

OCUDU's threads serialise requests while the RX thread dispatches indications, and all of them add
to the same relaxed atomics.  Of each atomic the threads' operations are put in some order, a
different one for each atomic; the counters come out as if the calls had been made one after
another.
-/

namespace AerialBridge

open Bytes Sampling Transition

/-- An operation on one metric. -/
inductive MetricOp
  | fetchAdd (n : Nat)
  | reset
  deriving DecidableEq, Repr

namespace MetricOp

def apply (value : UInt64) : MetricOp → UInt64
  | fetchAdd n => value + UInt64.ofNat n
  | reset => 0

/-- What a metric holds behind the operations on it, in the order in which they take effect. -/
def after (ops : List MetricOp) : UInt64 := ops.foldl apply 0

def amount : MetricOp → Nat
  | fetchAdd n => n
  | reset => 0

theorem after_concat (ops : List MetricOp) (op : MetricOp) :
    after (ops ++ [op]) = apply (after ops) op := by
  rw [after, List.foldl_append]
  rfl

end MetricOp

def BridgeCall.effects (ocudu : Ocudu) (c : BridgeCall) : List Effect :=
  match c.trace ocudu with
  | .ok trace => trace
  | .error _ => []

/-- What a call does to one metric, in program order. -/
def BridgeCall.metricOps (ocudu : Ocudu) (k : Metric) (c : BridgeCall) : List MetricOp :=
  if c.isReset then [.reset]
  else (c.effects ocudu).filterMap fun e ↦ match e with
    | .fetchAdd j n => if k = j then some (.fetchAdd n) else none
    | _ => none

/-- What the calls of one thread do to one metric. -/
def programOps (ocudu : Ocudu) (k : Metric) (program : List BridgeCall) : List MetricOp :=
  program.flatMap (BridgeCall.metricOps ocudu k)

/-! ## The metrics -/

/-- A metric holds what has been added since it was last reset. -/
theorem MetricOp.after_split {T : Type} (order : List (T × MetricOp)) :
    ∃ before since, order = before ++ since ∧ .reset ∉ since.map Prod.snd ∧
      after (order.map Prod.snd) = UInt64.ofNat ((since.map Prod.snd).map amount).sum := by
  induction order using List.reverseRecOn with
  | nil => exact ⟨[], [], rfl, List.not_mem_nil, rfl⟩
  | append_singleton order m ih =>
      obtain ⟨before, since, rfl, hsince, hafter⟩ := ih
      obtain ⟨t, op⟩ := m
      cases op with
      | fetchAdd n =>
          refine ⟨before, since ++ [(t, .fetchAdd n)], List.append_assoc _ _ _, ?_, ?_⟩
          · rw [List.map_append, List.mem_append]
            simpa using hsince
          · rw [List.map_append, List.map_singleton, after_concat, hafter]
            simp [MetricOp.apply, MetricOp.amount]
      | reset =>
          -- nothing has been added since
          refine ⟨before ++ since ++ [(t, .reset)], [], (List.append_nil _).symm,
            List.not_mem_nil, ?_⟩
          rw [List.map_append, List.map_singleton, after_concat]
          rfl

/-- Without a reset it holds what has been added. -/
theorem MetricOp.after_total {ops : List MetricOp} (h : .reset ∉ ops) :
    after ops = UInt64.ofNat (ops.map amount).sum := by
  induction ops using List.reverseRecOn with
  | nil => rfl
  | append_singleton ops op ih =>
      rw [List.mem_append, not_or] at h
      rw [after_concat, ih h.1, List.map_append, List.sum_append, UInt64.ofNat_add]
      cases op with
      | fetchAdd n =>
          rw [List.map_singleton, List.sum_singleton]
          rfl
      | reset => exact absurd (List.mem_singleton.mpr rfl) h.2

theorem reset_not_mem_metricOps {ocudu : Ocudu} {k : Metric} {c : BridgeCall}
    (h : c.isReset = false) : .reset ∉ c.metricOps ocudu k := by
  rw [BridgeCall.metricOps, if_neg (by rw [h]; exact Bool.false_ne_true)]
  intro hmem
  obtain ⟨e, _, he⟩ := List.mem_filterMap.mp hmem
  cases e with
  | fetchAdd j n =>
      by_cases hk : k = j
      · simp [hk] at he
      · simp [hk] at he
  | slotPoint _ | notify _ | log _ _ => cases he

theorem metricOps_amount {ocudu : Ocudu} (k : Metric) {c : BridgeCall} (h : c.isReset = false) :
    ((c.metricOps ocudu k).map MetricOp.amount).sum = added k (c.effects ocudu) := by
  rw [BridgeCall.metricOps, if_neg (by rw [h]; exact Bool.false_ne_true)]
  induction c.effects ocudu with
  | nil => rfl
  | cons e es ih =>
      cases e with
      | fetchAdd j n =>
          rw [added_fetchAdd, ← ih]
          by_cases hk : k = j
          · simp [hk, MetricOp.amount]
          · simp [hk]
      | slotPoint _ => rw [added_slotPoint, ← ih]; rfl
      | notify _ => rw [added_notify, ← ih]; rfl
      | log _ _ => rw [added_log, ← ih]; rfl

theorem programOps_amount {ocudu : Ocudu} (k : Metric) {program : List BridgeCall}
    (h : ∀ c ∈ program, c.isReset = false) :
    ((programOps ocudu k program).map MetricOp.amount).sum =
      (program.map fun c ↦ added k (c.effects ocudu)).sum := by
  induction program with
  | nil => rfl
  | cons c cs ih =>
      have hcs := ih fun c' hc' ↦ h c' (List.mem_cons_of_mem _ hc')
      rw [programOps, List.flatMap_cons, List.map_append, List.sum_append,
        metricOps_amount k (h c List.mem_cons_self), List.map_cons, List.sum_cons]
      exact congrArg _ hcs

theorem sinceReset_of_noReset {calls : List BridgeCall} (h : ∀ c ∈ calls, c.isReset = false) :
    sinceReset calls = calls := by
  induction calls using List.reverseRecOn with
  | nil => rfl
  | append_singleton calls c ih =>
      have hc := h c (List.mem_append_right _ List.mem_cons_self)
      rw [sinceReset_concat, hc, if_neg Bool.false_ne_true,
        ih fun c' hc' ↦ h c' (List.mem_append_left _ hc')]

/-- One call after another adds up what each of them adds. -/
theorem runCalls_total {ocudu : Ocudu} {calls : List BridgeCall}
    (h : ∀ c ∈ calls, c.isReset = false) :
    runCalls ocudu calls =
      .ok fun k ↦ UInt64.ofNat (calls.map fun c ↦ added k (c.effects ocudu)).sum := by
  obtain ⟨m, hm⟩ := runCalls_succeeds ocudu calls
  rw [hm]
  congr 1
  funext k
  have hcount : ∀ c ∈ calls, c.isReset = false →
      Ensures (c.trace ocudu) fun trace ↦ added k trace = added k (c.effects ocudu) := by
    intro c _ _ trace htrace
    rw [BridgeCall.effects, htrace]
  rw [runCalls_count hcount hm, sinceReset_of_noReset h]

section

variable {T : Type} [Fintype T] [DecidableEq T]

/-- In whatever order the threads' operations on each metric take effect, the metric ends with what
each thread has added since some point of its own program, behind which it was not reset.  Where no
thread resets the metrics, they end as after any interleaving of whole calls. -/
theorem metrics_anyOrder (ocudu : Ocudu) {programs : T → List BridgeCall}
    {order : Metric → List (T × MetricOp)}
    (h : ∀ k, Interleaves (fun t ↦ programOps ocudu k (programs t)) (order k)) :
    (∀ k, ∃ since : T → List MetricOp, (∀ t, since t <:+ programOps ocudu k (programs t)) ∧
      (∀ t, .reset ∉ since t) ∧ MetricOp.after ((order k).map Prod.snd) =
        UInt64.ofNat (∑ t, ((since t).map MetricOp.amount).sum)) ∧
    ((∀ t, ∀ c ∈ programs t, c.isReset = false) → ∀ calls, Interleaves programs calls →
      runCalls ocudu (calls.map Prod.snd) =
        .ok fun k ↦ MetricOp.after ((order k).map Prod.snd)) := by
  constructor
  · -- each thread's part of what came after the last reset is an end of its program
    intro k
    obtain ⟨before, since, hsplit, hreset, hafter⟩ := MetricOp.after_split (order k)
    refine ⟨fun t ↦ doneBy t since, fun t ↦ ⟨doneBy t before, ?_⟩, fun t ht ↦ ?_, ?_⟩
    · rw [← doneBy_append, ← hsplit]
      exact h k t
    · exact hreset (mem_of_mem_doneBy ht)
    · rw [hafter, sum_doneBy]
  · intro hnone calls hcalls
    have hcall : ∀ c ∈ calls.map Prod.snd, c.isReset = false := by
      intro c hc
      obtain ⟨m, hm, rfl⟩ := List.mem_map.mp hc
      have hthread : m.2 ∈ doneBy m.1 calls :=
        List.mem_map_of_mem (List.mem_filter.mpr ⟨hm, decide_eq_true rfl⟩)
      rw [hcalls] at hthread
      exact hnone m.1 m.2 hthread
    rw [runCalls_total hcall]
    congr 1
    funext k
    have hreset : .reset ∉ (order k).map Prod.snd := by
      intro hmem
      obtain ⟨m, hm, hop⟩ := List.mem_map.mp hmem
      have hthread : m.2 ∈ doneBy m.1 (order k) :=
        List.mem_map_of_mem (List.mem_filter.mpr ⟨hm, decide_eq_true rfl⟩)
      rw [h k, hop] at hthread
      obtain ⟨c, hc, hreset⟩ := List.mem_flatMap.mp hthread
      exact reset_not_mem_metricOps (hnone m.1 c hc) hreset
    -- without a reset the order of the additions does not show
    rw [MetricOp.after_total hreset, (h k).sum, hcalls.sum]
    congr 1
    exact Finset.sum_congr rfl fun t _ ↦ (programOps_amount k (hnone t)).symm

end

/-- Two threads serialise a TX_DATA.request each. -/
def twoTxData : Bool → List BridgeCall
  | false => [oneTxData [64]]
  | true => [oneTxData [32]]

-- the counters of the requests and of their bytes see the threads in different orders
def twoTxDataOrder : Metric → List (Bool × MetricOp)
  | .txDataReqs => [(true, .fetchAdd 1), (false, .fetchAdd 1)]
  | .txDataBytes => [(false, .fetchAdd 64), (true, .fetchAdd 32)]
  | _ => []

theorem metrics_anyOrder_two :
    runCalls exampleOcudu [oneTxData [64], oneTxData [32]] =
      .ok fun k ↦ MetricOp.after ((twoTxDataOrder k).map Prod.snd) := by
  have h : ∀ k, Interleaves (fun t ↦ programOps exampleOcudu k (twoTxData t))
      (twoTxDataOrder k) := by
    intro k t
    cases k <;> cases t <;> rfl
  have hnone : ∀ t, ∀ c ∈ twoTxData t, c.isReset = false := by
    intro t c hc
    cases t with
    | false | true =>
        rw [List.mem_singleton.mp hc]
        rfl
  have hcalls : Interleaves twoTxData [(false, oneTxData [64]), (true, oneTxData [32])] := by
    intro t
    cases t with
    | false | true => rfl
  exact (metrics_anyOrder exampleOcudu h).2 hnone _ hcalls

/-! ## The log -/

section

variable {T : Type} [Fintype T] [DecidableEq T]

/-- However the threads' lines reach the counter of their statement, the same numbers are let
through, so the same number of lines is printed, and each thread's lines come in its order. -/
theorem sampledLines_anyOrder {gate : LogGate} {admits : UInt32 → Bool}
    (hgate : gate.shouldLog = counting admits) {threads : T → List Effect}
    {order : List (T × LogLine)} (h : Interleaves (fun t ↦ linesAt gate (threads t)) order) :
    (sampleFrom gate.shouldLog 0 order).map Prod.fst =
      ((List.range (∑ t, (linesAt gate (threads t)).length)).map fun i ↦
        UInt32.ofNat (i + 1)).filter admits ∧
      ∀ t, (doneBy t ((sampleFrom gate.shouldLog 0 order).map Prod.snd)).Sublist
        (linesAt gate (threads t)) := by
  constructor
  · rw [hgate, sampleFrom_numbers, h.length]
    simp only [UInt32.zero_add]
  · intro t
    have hsub := doneBy_sublist (t := t) (sampleFrom_sublist gate.shouldLog 0 order)
    rw [h t] at hsub
    exact hsub

end

/-- Two threads that log an UL PDU each. -/
def twoSerialized : Bool → List Effect
  | false => [.log .ulPduSerialize (.ulSerialize "PUSCH" 5 3 70 1 0 10 0 14 1 0 0 0)]
  | true => [.log .ulPduSerialize (.ulSerialize "PUSCH" 5 3 71 1 10 10 0 14 2 0 0 0)]

theorem sampledLines_anyOrder_two :
    (sampleFrom (shouldLogLimited 64) 0
      [(true, LogLine.ulSerialize "PUSCH" 5 3 71 1 10 10 0 14 2 0 0 0),
        (false, LogLine.ulSerialize "PUSCH" 5 3 70 1 0 10 0 14 1 0 0 0)]).map Prod.fst = [1, 2] := by
  have h : Interleaves (fun t ↦ linesAt .ulPduSerialize (twoSerialized t))
      [(true, LogLine.ulSerialize "PUSCH" 5 3 71 1 10 10 0 14 2 0 0 0),
        (false, LogLine.ulSerialize "PUSCH" 5 3 70 1 0 10 0 14 1 0 0 0)] := by
    intro t
    cases t with
    | false | true => rfl
  have hgate : LogGate.ulPduSerialize.shouldLog = counting fun value ↦ decide (value ≤ 64) := rfl
  exact (sampledLines_anyOrder hgate h).1

end AerialBridge
