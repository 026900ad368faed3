import AerialBridge.Bytes.Loop
import AerialBridge.Slot.SlotPoint

/-!
# Indications and the effects of decoding them

The OCUDU messages the receive side builds, and the trace a decoder leaves: the slot points it
constructs, its notifier calls, its metric updates and the log lines it hands to a sampling gate.
Identifiers of OCUDU enumerations stay the bytes they are cast from.
-/

namespace AerialBridge

structure CrcMeasurements where
  ulSinrMetric : UInt8
  timingAdvanceOffset : Option Int
  rssi : UInt16
  rsrp : UInt16
  deriving DecidableEq, Repr

/-- The measurements are `none` where the decoder leaves them at OCUDU's defaults. -/
structure CrcIndicationPdu where
  handle : UInt32
  rnti : UInt16
  harqId : UInt8
  tbCrcStatusOk : Bool
  measurements : Option CrcMeasurements
  deriving DecidableEq, Repr

/-- A `span` of the data buffer. -/
structure DataSpan where
  offset : Nat
  length : Nat
  deriving DecidableEq, Repr

/-- The transport block is `none` for the empty span. -/
structure RxDataIndicationPdu where
  handle : UInt32
  rnti : UInt16
  harqId : UInt8
  transportBlock : Option DataSpan
  deriving DecidableEq, Repr

structure RachPreamble where
  preambleIndex : UInt8
  timingAdvanceOffset : Option Int
  preamblePwr : UInt32
  preambleSnr : UInt8
  deriving DecidableEq, Repr

/-- What the decoders rely on from OCUDU: three container limits,
`phy_time_unit::from_timing_advance`, and the container of a RACH PDU's preambles, of which
`pushPreamble` says what a `push_back` leaves in it. -/
structure Ocudu where
  maxNofPayloadBits : Nat
  maxSrPayloadSizeBits : Nat
  maxNumHarq : Nat
  fromTimingAdvance : UInt16 → Nat → Int
  maxNumPreambles : Nat
  pushPreamble : List RachPreamble → RachPreamble → List RachPreamble

namespace Ocudu

/-- The container after one `push_back` for each preamble. -/
def pushPreambles (ocudu : Ocudu) (preambles : List RachPreamble) : List RachPreamble :=
  preambles.foldl ocudu.pushPreamble []

/-- A `push_back` below the limit appends; what it does at the limit is left open. -/
def KeepsPreambles (ocudu : Ocudu) : Prop :=
  ∀ xs x, xs.length < ocudu.maxNumPreambles → ocudu.pushPreamble xs x = xs ++ [x]

theorem KeepsPreambles.pushPreambles_eq {ocudu : Ocudu} (hkeeps : ocudu.KeepsPreambles)
    {preambles : List RachPreamble} (hlen : preambles.length ≤ ocudu.maxNumPreambles) :
    ocudu.pushPreambles preambles = preambles := by
  suffices h : ∀ held : List RachPreamble,
      held.length + preambles.length ≤ ocudu.maxNumPreambles →
        preambles.foldl ocudu.pushPreamble held = held ++ preambles by
    exact h [] (by simpa using hlen)
  clear hlen
  induction preambles with
  | nil => intro held _; exact (List.append_nil held).symm
  | cons x preambles ih =>
      intro held hroom
      rw [List.length_cons] at hroom
      rw [List.foldl_cons, hkeeps held x (by omega),
        ih _ (by rw [List.length_append, List.length_singleton]; omega), List.append_assoc]
      rfl

end Ocudu

/-- Limits wide enough for every message below and containers that append. -/
def exampleOcudu : Ocudu := ⟨1706, 4, 16, fun ta _ ↦ ta.toNat, 64, List.concat⟩

structure RachIndicationPdu where
  symbolIndex : UInt8
  slotIndex : UInt8
  raIndex : UInt8
  avgRssi : UInt8
  avgSnr : UInt8
  preambles : List RachPreamble
  deriving DecidableEq, Repr

/-- `uci_pusch_or_pucch_f2_3_4_detection_status`. -/
inductive DetectionStatus
  | crcPass
  | crcFailure
  | dtx
  | noDtx
  | dtxNotChecked
  deriving DecidableEq, Repr

/-- `uci_harq_pdu`, `uci_csi_part1` and `uci_csi_part2`. -/
structure UciPayload where
  detectionStatus : DetectionStatus
  expectedBitLength : Nat
  payload : List Bool
  deriving DecidableEq, Repr

structure UciPuschPdu where
  handle : UInt32
  rnti : UInt16
  ulSinrMetric : Int
  timingAdvanceOffset : Option Int
  rssi : UInt16
  rsrp : UInt16
  harq : Option UciPayload
  csiPart1 : Option UciPayload
  csiPart2 : Option UciPayload
  deriving DecidableEq, Repr

inductive PucchFormat01
  | format0
  | format1
  deriving DecidableEq, Repr

structure UciPucchPduFormat01 where
  handle : UInt32
  rnti : UInt16
  pucchFormat : PucchFormat01
  ulSinrMetric : Int
  timingAdvanceOffset : Option Int
  rssi : UInt16
  rsrp : UInt16
  srDetected : Option Bool
  harqValues : Option (List UInt8)
  deriving DecidableEq, Repr

inductive PucchFormat234
  | format2
  | format3
  | format4
  deriving DecidableEq, Repr

structure UciPucchPduFormat234 where
  handle : UInt32
  rnti : UInt16
  pucchFormat : PucchFormat234
  ulSinrMetric : Int
  timingAdvanceOffset : Option Int
  rssi : UInt16
  rsrp : UInt16
  srPayload : Option (List Bool)
  harq : Option UciPayload
  csiPart1 : Option UciPayload
  csiPart2 : Option UciPayload
  deriving DecidableEq, Repr

inductive UciPdu
  | pusch (pdu : UciPuschPdu)
  | pucchFormat01 (pdu : UciPucchPduFormat01)
  | pucchFormat234 (pdu : UciPucchPduFormat234)
  deriving DecidableEq, Repr

structure SrsIndicationPdu where
  handle : UInt32
  rnti : UInt16
  timingAdvanceOffset : Option Int
  deriving DecidableEq, Repr

/-- A call of one of the four OCUDU notifiers. -/
inductive Notification
  | onSlotIndication (ind : SlotIndication)
  | onCrcIndication (slot : SlotPoint) (pdu : CrcIndicationPdu)
  | onRxDataIndication (slot : SlotPoint) (pdu : RxDataIndicationPdu)
  | onRachIndication (slot : SlotPoint) (pdu : RachIndicationPdu)
  | onUciIndication (slot : SlotPoint) (pdu : UciPdu)
  | onSrsIndication (slot : SlotPoint) (pdu : SrsIndicationPdu)
  | onErrorIndication (slot : SlotPoint) (messageId errorCode : UInt8)
  | onParamResponse (errorCode : UInt8)
  | onConfigResponse (errorCode : UInt8)
  | onStopIndication
  deriving DecidableEq, Repr

/-- `bridge_runtime_metrics`. -/
inductive Metric
  | txDataReqs
  | txDataBytes
  | ulPuschPdus
  | ulPucchPdus
  | ulPrachPdus
  | ulSrsPdus
  | crcTotal
  | crcOk
  | crcFail
  | rxDataPdus
  | rxDataBytes
  | uciTotal
  | uciPusch
  | uciPucch01
  | uciPucch234
  | rachTotal
  | srsTotal
  deriving DecidableEq, Repr

/-- The counter that samples a line; `always` for lines that are printed unconditionally. -/
inductive LogGate
  | crcDispatch
  | uciDispatch
  | ulPduSerialize
  | malformedUci
  | pdschDbg
  | always
  deriving DecidableEq, Repr

inductive LogLine
  | crcIndication (sfn slot rnti : UInt16) (harq : UInt8) (ok : Bool)
  | uciPusch (sfn slot rnti : UInt16) (harq csi1 csi2 : Bool)
  | uciPucch01 (sfn slot : UInt16) (fmt : UInt8) (rnti : UInt16) (sr : Bool) (harqBits : Nat)
  | uciPucch234 (sfn slot : UInt16) (fmt : UInt8) (rnti : UInt16) (srBits : Nat)
      (harq csi1 csi2 : Bool)
  | droppingPayload (name : String) (sfn slot rnti : UInt16) (bits max : Nat)
  | droppingHarqF0F1 (sfn slot rnti : UInt16) (harq : UInt8) (max : Nat)
  | malformedUci (reason : String) (sfn slot pduType pduSize : UInt16) (payloadLen : Nat)
      (raw : List UInt8)
  | ulSerialize (type : String) (sfn slot rnti : UInt16) (formatOrLayers : UInt8)
      (prbStart prbSize : UInt32) (symStart symLen : UInt8) (harqIdOrCount harqBits : UInt32)
      (srBits : UInt8) (csi1Bits : UInt32)
  | pdschPdu (rnti pduIdx : UInt16) (bwpStart bwpSize : UInt32) (scs numCw : UInt8)
      (cw0 : Option (UInt32 × UInt8 × UInt8 × UInt8 × UInt16)) (rbStart rbSize : UInt16)
      (symStart symLen layers : UInt8) (pduSize : Nat)
  | configResponse (errorCode : UInt8)
  | configResponseInvalid (numInvalid : UInt8)
  | unknownMessage (msgId cellId : Int)
  deriving DecidableEq, Repr

inductive Effect
  | slotPoint (sp : SlotPoint)
  | notify (n : Notification)
  | fetchAdd (m : Metric) (n : Nat)
  | log (gate : LogGate) (line : LogLine)
  deriving DecidableEq, Repr

/-- The notifier calls of a trace, in order. -/
def notifications (trace : List Effect) : List Notification :=
  trace.filterMap fun e ↦ match e with
    | .notify n => some n
    | _ => none

/-- The slot points a trace constructs. -/
def slotPoints (trace : List Effect) : List SlotPoint :=
  trace.filterMap fun e ↦ match e with
    | .slotPoint sp => some sp
    | _ => none

@[simp] theorem notifications_nil : notifications [] = [] := rfl

@[simp] theorem notifications_append (xs ys : List Effect) :
    notifications (xs ++ ys) = notifications xs ++ notifications ys :=
  List.filterMap_append

@[simp] theorem notifications_slotPoint (sp : SlotPoint) (es : List Effect) :
    notifications (.slotPoint sp :: es) = notifications es := rfl

@[simp] theorem notifications_notify (n : Notification) (es : List Effect) :
    notifications (.notify n :: es) = n :: notifications es := rfl

@[simp] theorem notifications_fetchAdd (m : Metric) (n : Nat) (es : List Effect) :
    notifications (.fetchAdd m n :: es) = notifications es := rfl

@[simp] theorem notifications_log (gate : LogGate) (line : LogLine) (es : List Effect) :
    notifications (.log gate line :: es) = notifications es := rfl

@[simp] theorem slotPoints_nil : slotPoints [] = [] := rfl

@[simp] theorem slotPoints_append (xs ys : List Effect) :
    slotPoints (xs ++ ys) = slotPoints xs ++ slotPoints ys :=
  List.filterMap_append

@[simp] theorem slotPoints_slotPoint (sp : SlotPoint) (es : List Effect) :
    slotPoints (.slotPoint sp :: es) = sp :: slotPoints es := rfl

@[simp] theorem slotPoints_notify (n : Notification) (es : List Effect) :
    slotPoints (.notify n :: es) = slotPoints es := rfl

@[simp] theorem slotPoints_fetchAdd (m : Metric) (n : Nat) (es : List Effect) :
    slotPoints (.fetchAdd m n :: es) = slotPoints es := rfl

@[simp] theorem slotPoints_log (gate : LogGate) (line : LogLine) (es : List Effect) :
    slotPoints (.log gate line :: es) = slotPoints es := rfl

end AerialBridge
