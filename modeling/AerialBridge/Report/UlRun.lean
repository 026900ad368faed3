import AerialBridge.Report.L1Log
import AerialBridge.Runtime.Events
import AerialBridge.Runtime.LogGates
import AerialBridge.Transition.Run

/-!
# Coherent uplink runs

The bridge serialises uplink PDUs.  L1 parses each PUSCH PDU, emits a CRC for it, and answers every
PDU with the indications that it calls for, in the order of scheduling.  What one party hands to the
other waits in a queue, so the steps may be interleaved in any way that keeps this order.
-/

namespace AerialBridge

open Bytes Transition

/-! ## What is scheduled and how it is answered -/

/-- A PUSCH PDU with data and UCI. -/
structure PuschGrant where
  slot : SlotPoint
  pdu : UlPuschPdu
  data : UlPuschData
  uci : UlPuschUci
  puschData : pdu.puschData = some data
  puschUci : pdu.puschUci = some uci
  deriving DecidableEq

def UlPucchFormat.isFormat01 : UlPucchFormat → Bool
  | .format0 _ => true
  | .format1 _ => true
  | _ => false

/-- A PUCCH PDU of format 0 or 1. -/
structure PucchGrant where
  slot : SlotPoint
  pdu : UlPucchPdu
  format01 : pdu.format.isFormat01 = true
  deriving DecidableEq

inductive UlGrant where
  | pusch (g : PuschGrant)
  | pucch (g : PucchGrant)
  deriving DecidableEq

namespace PucchGrant

variable (g : PucchGrant)

def format : UInt8 := g.pdu.format.logged.1
def harqBits : UInt32 := g.pdu.format.logged.2.1
def srBit : UInt8 := g.pdu.format.logged.2.2.1

/-- An indication for the PDU that carries its RNTI, format, HARQ bit count and SR bit. -/
structure AnsweredBy (p : UciPucchPduFormat01) : Prop where
  rnti : p.rnti = g.pdu.rnti
  format : p.pucchFormat = toPucchFormat01 g.format
  harqBits : (p.harqValues.getD []).length = g.harqBits.toNat
  srBit : flagByte (p.srDetected.getD false) = g.srBit

end PucchGrant

namespace UlGrant

def slot : UlGrant → SlotPoint
  | pusch g => g.slot
  | pucch g => g.slot

def pdu : UlGrant → UlTtiPdu
  | pusch g => .pusch g.pdu
  | pucch g => .pucch g.pdu

/-- What `log_outgoing_ul_pdu` is called with. -/
def logLine : UlGrant → LogLine
  | pusch g => puschLogLine g.slot g.pdu
  | pucch g => pucchLogLine g.slot g.pdu

def pusch? : UlGrant → Option PuschGrant
  | pusch g => some g
  | pucch _ => none

def pucch? : UlGrant → Option PucchGrant
  | pusch _ => none
  | pucch g => some g

end UlGrant

/-- The CRC indication PDU for a PUSCH PDU. -/
structure CrcAnswer where
  grant : PuschGrant
  pdu : CrcIndicationPdu
  rnti : pdu.rnti = grant.pdu.rnti
  harqId : pdu.harqId = grant.data.harqProcessId

/-- The UCI indication PDU for a scheduled PDU. -/
inductive UciAnswer where
  | pusch (grant : PuschGrant) (pdu : UciPuschPdu) (rnti : pdu.rnti = grant.pdu.rnti)
  | pucch (grant : PucchGrant) (pdu : UciPucchPduFormat01) (h : grant.AnsweredBy pdu)

namespace UciAnswer

def grant : UciAnswer → UlGrant
  | pusch grant _ _ => .pusch grant
  | pucch grant _ _ => .pucch grant

def pdu : UciAnswer → UciPdu
  | pusch _ pdu _ => .pusch pdu
  | pucch _ pdu _ => .pucchFormat01 pdu

/-- The format that L1 sends. -/
def format : UciAnswer → UInt8
  | pusch _ _ _ => 0
  | pucch grant _ _ => grant.format

end UciAnswer

/-! ## Steps -/

inductive UlEvent where
  /-- One turn of the loop in `serialize_ul_tti_request`. -/
  | serialize (g : UlGrant)
  /-- L1 parses a PUSCH PDU. -/
  | puschParse (g : PuschGrant) (rv ndi tbSize : UInt32)
  /-- L1 emits the CRC of a PUSCH PDU. -/
  | crcEmit (g : PuschGrant) (tbCrcStatus handle : UInt32)
  /-- One turn of the loop in `dispatch_crc_indication`. -/
  | crcIndication (a : CrcAnswer)
  /-- One turn of the loop in `dispatch_uci_indication`. -/
  | uciIndication (a : UciAnswer)

/-- What the bridge does in a step. -/
def UlEvent.effects : UlEvent → List Effect
  | serialize g => g.pdu.effects g.slot
  | crcIndication a => crcEffects a.grant.slot a.pdu
  | uciIndication a =>
      uciEffects a.grant.slot a.pdu (a.pdu.logLine a.grant.slot a.format)
  | _ => []

/-- What the bridge's code does where a run takes the step: the turn of `serialize_ul_tti_request`
among the other PDUs of its slot's request, and the decoders' turns that deliver the answer. -/
def UlEvent.DoneByCode (e : UlEvent) : Prop :=
  match e with
  | serialize g => ∀ (before after : List UlGrant) (buf : Mem) (bufLen : Nat) (cellId : UInt8),
      (∀ g' ∈ before ++ g :: after, g'.slot = g.slot) → 17 ≤ bufLen →
        (serializeUlTtiRequest ⟨g.slot, (before ++ g :: after).map UlGrant.pdu⟩ buf bufLen
          cellId).effects = ((before ++ g :: after).map serialize).flatMap effects
  | crcIndication a => ∀ (buf : List UInt8) (p : Nat) (t : Turn Nat Effect),
      crcTurn buf a.grant.slot p = .ok t →
        notifications t.out = [.onCrcIndication a.grant.slot a.pdu] → t.out = e.effects
  | uciIndication a => ∀ (ocudu : Ocudu) (buf : List UInt8) (p : Nat) (t : Turn Nat Effect),
      uciTurn ocudu buf a.grant.slot p = .ok t →
        notifications t.out = [.onUciIndication a.grant.slot a.pdu] →
          ∃ lines fmt, OnlyLogs lines ∧ t.out =
            lines ++ uciEffects a.grant.slot a.pdu (a.pdu.logLine a.grant.slot fmt)
  | puschParse _ _ _ _ | crcEmit _ _ _ => True

section Turns

/-- A UL_TTI request does what the steps of its PDUs do. -/
theorem serializeUlTtiRequest_steps {slot : SlotPoint} {gs : List UlGrant}
    (hslot : ∀ g ∈ gs, g.slot = slot) (buf : Mem) {bufLen : Nat} (cellId : UInt8)
    (h : 17 ≤ bufLen) :
    (serializeUlTtiRequest ⟨slot, gs.map UlGrant.pdu⟩ buf bufLen cellId).effects =
      (gs.map UlEvent.serialize).flatMap UlEvent.effects := by
  rw [serializeUlTtiRequest_effects, if_neg (Nat.not_lt.mpr h), List.flatMap_map, List.flatMap_map]
  apply List.flatMap_congr
  intro g hg
  show g.pdu.effects slot = g.pdu.effects g.slot
  rw [hslot g hg]

/-- A turn that delivers the CRC does what its step does. -/
theorem crcTurn_step (a : CrcAnswer) {buf : List UInt8} {p : Nat} {t : Turn Nat Effect}
    (ht : crcTurn buf a.grant.slot p = .ok t)
    (hn : notifications t.out = [.onCrcIndication a.grant.slot a.pdu]) :
    t.out = (UlEvent.crcIndication a).effects := by
  cases crcTurn_out buf a.grant.slot p t ht with
  | inl hnil => rw [hnil] at hn; cases hn
  | inr hout =>
    obtain ⟨pdu, hout⟩ := hout
    rw [hout] at hn ⊢
    cases hn
    rfl

/-- A turn that delivers the UCI does what its step does, apart from lines about dropped sections and
the format that L1 sent. -/
theorem uciTurn_step (a : UciAnswer) {ocudu : Ocudu} {buf : List UInt8} {p : Nat}
    {t : Turn Nat Effect} (ht : uciTurn ocudu buf a.grant.slot p = .ok t)
    (hn : notifications t.out = [.onUciIndication a.grant.slot a.pdu]) :
    ∃ lines fmt, OnlyLogs lines ∧ t.out =
      lines ++ uciEffects a.grant.slot a.pdu (a.pdu.logLine a.grant.slot fmt) := by
  cases uciTurn_out ocudu buf a.grant.slot p t ht with
  | inl hnil => rw [hnil] at hn; cases hn
  | inr hout =>
    obtain ⟨lines, pdu, fmt, hlines, hout⟩ := hout
    rw [hout, notifications_append, hlines.notifications] at hn
    cases hn
    exact ⟨lines, fmt, hlines, hout⟩

theorem UlEvent.doneByCode (e : UlEvent) : e.DoneByCode := by
  cases e with
  | serialize g =>
      intro before after buf bufLen cellId hslot h
      exact serializeUlTtiRequest_steps hslot buf cellId h
  | crcIndication a => exact fun buf p t ht hn ↦ crcTurn_step a ht hn
  | uciIndication a => exact fun ocudu buf p t ht hn ↦ uciTurn_step a ht hn
  | puschParse | crcEmit => trivial

end Turns

/-- What reaches the statements that were put into L1. -/
def UlEvent.l1Lines : UlEvent → List L1Line
  | puschParse g rv ndi tbSize => [
      .puschParse g.slot.sfn.toUInt32 g.slot.slot.toUInt32 g.pdu.rnti.toUInt32
        g.data.harqProcessId.toUInt32 rv ndi tbSize g.pdu.vrbs.start g.pdu.vrbs.length
        g.pdu.symbols.start.toUInt32 g.pdu.symbols.length.toUInt32]
  | crcEmit g tbCrcStatus handle => [
      .crcEmit g.slot.sfn.toUInt32 g.slot.slot.toUInt32 g.pdu.rnti.toUInt32
        g.data.harqProcessId.toUInt32 tbCrcStatus handle]
  | _ => []

/-- What waits between the parties. -/
structure UlQueues where
  toParse : List PuschGrant
  toEmit : List PuschGrant
  toCrc : List PuschGrant
  toUci : List UlGrant

/-- Nothing waits: at the start of a run, and again once all of it has been answered. -/
def UlQueues.idle : UlQueues := ⟨[], [], [], []⟩

/-- Removes `x` from the front of a queue. -/
def dequeue {α : Type} [DecidableEq α] (x : α) : List α → Option (List α)
  | [] => none
  | y :: ys => if x = y then some ys else none

theorem dequeue_eq_some {α : Type} [DecidableEq α] {x : α} {xs ys : List α}
    (h : dequeue x xs = some ys) : xs = x :: ys := by
  cases xs with
  | nil => cases h
  | cons y xs =>
    rw [dequeue] at h
    split at h
    · rename_i heq
      rw [heq, Option.some.inj h]
    · cases h

@[simp] theorem dequeue_cons {α : Type} [DecidableEq α] (x : α) (xs : List α) :
    dequeue x (x :: xs) = some xs := if_pos rfl

def UlQueues.step (q : UlQueues) : UlEvent → Option UlQueues
  | .serialize g =>
      some { q with toParse := q.toParse ++ g.pusch?.toList, toUci := q.toUci ++ [g] }
  | .puschParse g _ _ _ =>
      (dequeue g q.toParse).map fun rest ↦ { q with toParse := rest, toEmit := q.toEmit ++ [g] }
  | .crcEmit g _ _ =>
      (dequeue g q.toEmit).map fun rest ↦ { q with toEmit := rest, toCrc := q.toCrc ++ [g] }
  | .crcIndication a => (dequeue a.grant q.toCrc).map fun rest ↦ { q with toCrc := rest }
  | .uciIndication a => (dequeue a.grant q.toUci).map fun rest ↦ { q with toUci := rest }

/-! ## What a run is about -/

namespace UlEvent

def scheduled : UlEvent → List UlGrant
  | serialize g => [g]
  | _ => []

def parsed : UlEvent → List PuschGrant
  | puschParse g _ _ _ => [g]
  | _ => []

def emitted : UlEvent → List PuschGrant
  | crcEmit g _ _ => [g]
  | _ => []

def crcs : UlEvent → List CrcAnswer
  | crcIndication a => [a]
  | _ => []

def ucis : UlEvent → List UciAnswer
  | uciIndication a => [a]
  | _ => []

end UlEvent

def puschs (gs : List UlGrant) : List PuschGrant := gs.filterMap UlGrant.pusch?

def pucchs (gs : List UlGrant) : List PucchGrant := gs.filterMap UlGrant.pucch?

/-- The PDUs in the order of scheduling. -/
def schedule (es : List UlEvent) : List UlGrant := es.flatMap UlEvent.scheduled

/-- What a step adds to the queues and takes from them. -/
theorem UlQueues.step_moves {q q' : UlQueues} {e : UlEvent} (h : q.step e = some q') :
    q.toParse ++ puschs e.scheduled = e.parsed ++ q'.toParse ∧
      q.toEmit ++ e.parsed = e.emitted ++ q'.toEmit ∧
      q.toCrc ++ e.emitted = e.crcs.map CrcAnswer.grant ++ q'.toCrc ∧
      q.toUci ++ e.scheduled = e.ucis.map UciAnswer.grant ++ q'.toUci := by
  cases e with
  | serialize g =>
    cases h
    cases g <;> simp [puschs, UlGrant.pusch?, UlEvent.scheduled, UlEvent.parsed, UlEvent.emitted,
      UlEvent.crcs, UlEvent.ucis]
  | puschParse g =>
    obtain ⟨rest, hrest, rfl⟩ := Option.map_eq_some_iff.mp h
    simp [dequeue_eq_some hrest, puschs, UlEvent.scheduled, UlEvent.parsed, UlEvent.emitted,
      UlEvent.crcs, UlEvent.ucis]
  | crcEmit g =>
    obtain ⟨rest, hrest, rfl⟩ := Option.map_eq_some_iff.mp h
    simp [dequeue_eq_some hrest, puschs, UlEvent.scheduled, UlEvent.parsed, UlEvent.emitted,
      UlEvent.crcs, UlEvent.ucis]
  | crcIndication a =>
    obtain ⟨rest, hrest, rfl⟩ := Option.map_eq_some_iff.mp h
    simp [dequeue_eq_some hrest, puschs, UlEvent.scheduled, UlEvent.parsed, UlEvent.emitted,
      UlEvent.crcs, UlEvent.ucis]
  | uciIndication a =>
    obtain ⟨rest, hrest, rfl⟩ := Option.map_eq_some_iff.mp h
    simp [dequeue_eq_some hrest, puschs, UlEvent.scheduled, UlEvent.parsed, UlEvent.emitted,
      UlEvent.crcs, UlEvent.ucis]

/-- Every PDU has been answered by what it calls for, in the order of scheduling. -/
structure Answered (es : List UlEvent) : Prop where
  parsed : es.flatMap UlEvent.parsed = puschs (schedule es)
  emitted : es.flatMap UlEvent.emitted = puschs (schedule es)
  crcs : (es.flatMap UlEvent.crcs).map CrcAnswer.grant = puschs (schedule es)
  ucis : (es.flatMap UlEvent.ucis).map UciAnswer.grant = schedule es

/-- A run that ends with nothing waiting has answered everything. -/
theorem Answered.of_run {es : List UlEvent} (h : Run UlQueues.step Anywhere .idle es .idle) :
    Answered es := by
  have hparse := h.conserved UlQueues.toParse (fun e ↦ puschs e.scheduled) UlEvent.parsed
    fun _ _ _ hs ↦ (UlQueues.step_moves hs).1
  have hemit := h.conserved UlQueues.toEmit UlEvent.parsed UlEvent.emitted
    fun _ _ _ hs ↦ (UlQueues.step_moves hs).2.1
  have hcrc := h.conserved UlQueues.toCrc UlEvent.emitted (fun e ↦ e.crcs.map CrcAnswer.grant)
    fun _ _ _ hs ↦ (UlQueues.step_moves hs).2.2.1
  have huci := h.conserved UlQueues.toUci UlEvent.scheduled (fun e ↦ e.ucis.map UciAnswer.grant)
    fun _ _ _ hs ↦ (UlQueues.step_moves hs).2.2.2
  rw [← List.map_flatMap] at hcrc huci
  have hpuschs : (es.flatMap fun e ↦ puschs e.scheduled) = puschs (schedule es) :=
    List.filterMap_flatMap.symm
  simp only [UlQueues.idle, List.nil_append, List.append_nil] at hparse hemit hcrc huci
  rw [hpuschs] at hparse
  exact {
    parsed := hparse.symm
    emitted := hemit.symm.trans hparse.symm
    crcs := hcrc.symm.trans (hemit.symm.trans hparse.symm)
    ucis := huci.symm }

/-! ## Every schedule can be answered -/

theorem flagByte_beq (b : Bool) : flagByte (flagByte b == 1) = flagByte b := by
  cases b <;> rfl

/-- A CRC indication PDU for a PUSCH PDU. -/
def PuschGrant.crcAnswer (g : PuschGrant) : CrcAnswer :=
  ⟨g, ⟨0, g.pdu.rnti, g.data.harqProcessId, true, none⟩, rfl, rfl⟩

def PucchGrant.uciAnswer (g : PucchGrant) : UciPucchPduFormat01 where
  handle := 0
  rnti := g.pdu.rnti
  pucchFormat := toPucchFormat01 g.format
  ulSinrMetric := noUlSinrMetric
  timingAdvanceOffset := none
  rssi := 0
  rsrp := noRsrp
  srDetected := some (g.srBit == 1)
  harqValues := some (List.replicate g.harqBits.toNat 1)

theorem PucchGrant.answeredBy_uciAnswer (g : PucchGrant) : g.AnsweredBy g.uciAnswer where
  rnti := rfl
  format := rfl
  harqBits := List.length_replicate
  srBit := by
    show flagByte (g.pdu.format.logged.2.2.1 == 1) = g.pdu.format.logged.2.2.1
    have hformat := g.format01
    cases hf : g.pdu.format with
    | format0 f0 => exact flagByte_beq f0.srPresent
    | format1 f1 => exact flagByte_beq f1.srPresent
    | _ => rw [hf] at hformat; cases hformat

/-- One PDU is scheduled and answered. -/
def UlGrant.events : UlGrant → List UlEvent
  | pusch g => [
      .serialize (.pusch g), .puschParse g 0 1 0, .crcEmit g 0 0, .crcIndication g.crcAnswer,
      .uciIndication (.pusch g ⟨0, g.pdu.rnti, noUlSinrMetric, none, 0, noRsrp, none, none, none⟩
        rfl)]
  | pucch g => [
      .serialize (.pucch g), .uciIndication (.pucch g g.uciAnswer g.answeredBy_uciAnswer)]

theorem UlGrant.run_events (g : UlGrant) :
    Run UlQueues.step Anywhere .idle g.events .idle := by
  apply Run.of_follow
  cases g <;>
    simp [events, follow, Anywhere, UlQueues.step, UlQueues.idle, pusch?, UciAnswer.grant,
      PuschGrant.crcAnswer]

theorem UlGrant.scheduled_events (g : UlGrant) : schedule g.events = [g] := by
  cases g <;> rfl

/-- The run that answers each PDU before the next one is scheduled. -/
def answering (gs : List UlGrant) : List UlEvent := gs.flatMap UlGrant.events

theorem run_answering (gs : List UlGrant) :
    Run UlQueues.step Anywhere .idle (answering gs) .idle := by
  induction gs with
  | nil => exact .nil _
  | cons g gs ih => exact g.run_events.append ih

/-- Every schedule can be answered. -/
theorem schedule_answering (gs : List UlGrant) : schedule (answering gs) = gs := by
  rw [schedule, answering, List.flatMap_assoc]
  show gs.flatMap (fun g ↦ schedule g.events) = gs
  simp only [UlGrant.scheduled_events]
  exact List.flatMap_singleton' gs

end AerialBridge
