import AerialBridge.Collections.Sampling
import AerialBridge.Runtime.LogLines

/-!
# Which lines are printed

Every logged line goes to the counter of its statement, and is printed with the number it gets there
or left out.  What is printed from one counter depends on the lines that go to it alone.
-/

namespace AerialBridge

open Sampling

/-- `should_log_indication`.  Indications are dispatched by one thread, so the number that a line
prints is the one it was let through with. -/
def shouldLogIndication : Gate := counting fun value ↦ decide (value ≤ 16) || value % 1000 == 0

/-- `should_log_limited`. -/
def shouldLogLimited (limit : UInt32) : Gate := counting fun value ↦ decide (value ≤ limit)

def LogGate.shouldLog : LogGate → Gate
  | crcDispatch => shouldLogIndication
  | uciDispatch => shouldLogIndication
  | ulPduSerialize => shouldLogLimited 64
  | malformedUci => shouldLogLimited 24
  | pdschDbg => first 5
  | always => fun count ↦ (count, true)

/-- The counter of a line's statement. -/
def LogLine.gate : LogLine → LogGate
  | crcIndication .. => .crcDispatch
  | uciPusch .. => .uciDispatch
  | uciPucch01 .. => .uciDispatch
  | uciPucch234 .. => .uciDispatch
  | malformedUci .. => .malformedUci
  | ulSerialize .. => .ulPduSerialize
  | pdschPdu .. => .pdschDbg
  | _ => .always

/-- The line as it is printed, when it is one that the log parser reads. -/
def LogLine.printed? (seq : UInt32) : LogLine → Option BridgeLine
  | crcIndication sfn slot rnti harq ok =>
      some (.crc seq sfn.toUInt32 slot.toUInt32 rnti.toUInt32 harq.toUInt32 ok.toUInt32)
  | uciPusch sfn slot rnti harq csi1 csi2 =>
      some (.uciPusch seq sfn.toUInt32 slot.toUInt32 rnti.toUInt32 harq.toUInt32 csi1.toUInt32
        csi2.toUInt32)
  | uciPucch01 sfn slot fmt rnti sr harqBits =>
      some (.uciPucch01 seq sfn.toUInt32 slot.toUInt32 fmt.toUInt32 rnti.toUInt32 sr.toUInt32
        (UInt32.ofNat harqBits))
  | uciPucch234 sfn slot fmt rnti srBits harq csi1 csi2 =>
      some (.uciPucch234 seq sfn.toUInt32 slot.toUInt32 fmt.toUInt32 rnti.toUInt32
        (UInt32.ofNat srBits) harq.toUInt32 csi1.toUInt32 csi2.toUInt32)
  | ulSerialize type sfn slot rnti formatOrLayers prbStart prbSize symStart symLen harqIdOrCount
      harqBits srBits csi1Bits =>
      if type = "PUSCH" then
        some (.ulSerialize .pusch sfn.toUInt32 slot.toUInt32 rnti.toUInt32 formatOrLayers.toUInt32
          prbStart prbSize symStart.toUInt32 symLen.toUInt32 harqIdOrCount harqBits srBits.toUInt32
          csi1Bits)
      else if type = "PUCCH" then
        some (.ulSerialize .pucch sfn.toUInt32 slot.toUInt32 rnti.toUInt32 formatOrLayers.toUInt32
          prbStart prbSize symStart.toUInt32 symLen.toUInt32 harqIdOrCount harqBits srBits.toUInt32
          csi1Bits)
      else none
  | _ => none

/-- What a trace logs, each line with the counter it goes to. -/
def gatedLines (trace : List Effect) : List (LogGate × LogLine) :=
  trace.filterMap fun e ↦ match e with
    | .log gate line => some (gate, line)
    | _ => none

/-- The lines that go to one counter. -/
def linesAt (gate : LogGate) (trace : List Effect) : List LogLine :=
  ((gatedLines trace).filter fun p ↦ p.1 = gate).map Prod.snd

/-- What is printed of a trace that starts with the bridge. -/
def printedLines (trace : List Effect) : List BridgeLine :=
  (passFrom Prod.fst LogGate.shouldLog (fun _ ↦ 0) (gatedLines trace)).filterMap fun p ↦
    p.2.2.printed? p.1

/-- Every line goes to the counter of its own statement. -/
def WellGated (trace : List Effect) : Prop := ∀ p ∈ gatedLines trace, p.1 = p.2.gate

theorem gatedLines_flatMap {ε : Type} (f : ε → List Effect) (es : List ε) :
    gatedLines (es.flatMap f) = es.flatMap fun e ↦ gatedLines (f e) :=
  List.filterMap_flatMap

theorem linesAt_flatMap {ε : Type} (gate : LogGate) (f : ε → List Effect) (es : List ε) :
    linesAt gate (es.flatMap f) = es.flatMap fun e ↦ linesAt gate (f e) := by
  rw [linesAt, gatedLines_flatMap, List.filter_flatMap, List.map_flatMap]
  rfl

theorem WellGated.flatMap {ε : Type} {f : ε → List Effect} {es : List ε}
    (h : ∀ e, WellGated (f e)) : WellGated (es.flatMap f) := fun p hp ↦ by
  rw [gatedLines_flatMap] at hp
  obtain ⟨e, _, hmem⟩ := List.mem_flatMap.mp hp
  exact h e p hmem

/-- Printed lines of one counter are sampled from the lines that go to it. -/
theorem printedLines_filter {trace : List Effect} (h : WellGated trace) {gate : LogGate}
    {p : BridgeLine → Bool}
    (hp : ∀ line seq l, LogLine.printed? seq line = some l → p l = true → line.gate = gate) :
    (printedLines trace).filter p =
      (sampleFrom gate.shouldLog 0 (linesAt gate trace)).filterMap fun q ↦
        (q.2.printed? q.1).filter p := by
  have hsample := passFrom_filter Prod.fst LogGate.shouldLog (fun _ ↦ 0) (gatedLines trace) gate
  have hmem : ∀ q ∈ passFrom Prod.fst LogGate.shouldLog (fun _ ↦ 0) (gatedLines trace),
      q.2 ∈ gatedLines trace := fun q hq ↦ mem_of_mem_passFrom hq
  rw [linesAt, sampleFrom_map, ← hsample, List.filterMap_map, List.filterMap_filter, printedLines,
    List.filter_filterMap]
  apply List.filterMap_congr
  intro q hq
  by_cases hgate : q.2.1 = gate
  · simp [hgate]
  · have hline : q.2.2.gate ≠ gate := fun heq ↦ hgate ((h q.2 (hmem q hq)).trans heq)
    have hnone : (q.2.2.printed? q.1).filter p = none := by
      rw [Option.filter_eq_none_iff]
      intro l hl hpl
      exact hline (hp q.2.2 q.1 l hl hpl)
    simp [hgate, hnone]

end AerialBridge
