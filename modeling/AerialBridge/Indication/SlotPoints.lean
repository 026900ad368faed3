import AerialBridge.Indication.Traces

/-!
# The slot points the decoders construct

The walk over the PDUs constructs one slot point, from the wire fields as they are and the configured
numerology; the turns construct none.
-/

namespace AerialBridge

open Bytes Bytes.Parser

/-- The trace of a turn without slot points. -/
def NoSlotPoint {σ : Type} (t : Turn σ Effect) : Prop := slotPoints t.out = []

theorem loop_noSlotPoint {σ : Type} {body : σ → Except ReadFault (Turn σ Effect)}
    (h : ∀ s, Ensures (body s) NoSlotPoint) (n : Nat) (s : σ) :
    Ensures (loop body n s) fun r ↦ slotPoints r.2 = [] := by
  refine loop_ensures (Q := fun es ↦ slotPoints es = []) rfl ?_ h n s
  intro xs ys hx hy
  rw [slotPoints_append, hx, hy]
  rfl

theorem dispatchPdus_slotPoints {σ : Type} (count : Parser Nat) {countSize : Nat}
    {buf : List UInt8} (numerology : Nat) (start : Nat → σ)
    {turn : SlotPoint → σ → Except ReadFault (Turn σ Effect)}
    (hturn : ∀ sp s, Ensures (turn sp s) NoSlotPoint) (h : 12 + countSize ≤ buf.length) :
    Ensures (dispatchPdus count countSize buf numerology start turn) fun trace ↦
      slotPoints trace = [wirePoint numerology buf] := by
  unfold dispatchPdus
  rw [scfHdrSize, if_neg (by omega), readAt_u16 (by omega : 8 + 2 ≤ buf.length), ok_bind,
    readAt_u16 (by omega : 8 + 2 + 2 ≤ buf.length), ok_bind]
  -- whatever the count is, the walk adds no slot point to the one of the header
  refine .bind (.trivial _) fun numPdus _ ↦ ?_
  refine .bind (loop_noSlotPoint (hturn _) _ _) fun r hr ↦ .pure ?_
  rw [slotPoints_slotPoint, hr]
  rfl

theorem NoSlotPoint.of_out {σ α : Type} {group : α → List Effect}
    (hgroup : ∀ a, slotPoints (group a) = []) {t : Turn σ Effect}
    (h : t.out = [] ∨ ∃ a, t.out = group a) : NoSlotPoint t :=
  AerialBridge.of_out (Q := fun es ↦ slotPoints es = []) rfl hgroup h

theorem crcTurn_noSlotPoint (buf : List UInt8) (sp : SlotPoint) (p : Nat) :
    Ensures (crcTurn buf sp p) NoSlotPoint := fun t ht ↦
  .of_out (fun _ ↦ rfl) (crcTurn_out buf sp p t ht)

theorem rxDataTurn_noSlotPoint (buf : List UInt8) (hasData : Bool) (dataLen : Nat) (sp : SlotPoint)
    (c : RxDataCursor) : Ensures (rxDataTurn buf hasData dataLen sp c) NoSlotPoint := by
  intro t ht
  cases rxDataTurn_out buf hasData dataLen sp c t ht with
  | inl hnil =>
      rw [NoSlotPoint, hnil]
      rfl
  | inr hsome =>
      obtain ⟨pdu, pduLen, hout, -⟩ := hsome
      rw [NoSlotPoint, hout]
      rfl

theorem rachTurn_noSlotPoint (ocudu : Ocudu) (buf : List UInt8) (sp : SlotPoint) (p : Nat) :
    Ensures (rachTurn ocudu buf sp p) NoSlotPoint := fun t ht ↦
  .of_out (fun _ ↦ rfl) (rachTurn_out ocudu buf sp p t ht)

theorem srsTurn_noSlotPoint (ocudu : Ocudu) (buf : List UInt8) (sp : SlotPoint) (p : Nat) :
    Ensures (srsTurn ocudu buf sp p) NoSlotPoint := fun t ht ↦
  .of_out (fun _ ↦ rfl) (srsTurn_out ocudu buf sp p t ht)

theorem uciTurn_noSlotPoint (ocudu : Ocudu) (buf : List UInt8) (sp : SlotPoint) (p : Nat) :
    Ensures (uciTurn ocudu buf sp p) NoSlotPoint := by
  intro t ht
  cases uciTurn_out ocudu buf sp p t ht with
  | inl hnil =>
      rw [NoSlotPoint, hnil]
      rfl
  | inr hsome =>
      -- dropped sections are logged in front of the group of the PDU
      obtain ⟨lines, pdu, fmt, hlogs, hout⟩ := hsome
      rw [NoSlotPoint, hout, slotPoints_append, hlogs.slotPoints]
      rfl

end AerialBridge
