import AerialBridge.RxThread.SlotPath
import AerialBridge.Slot.Extender

/-!
# The timeline of a slot stream

A stream of SLOT.indications that L1 sends in order, dispatched one by one and followed by the
extender.  The numerology is inferred for each message on its own, so the stream stays on one
timeline exactly when all its slots lie in one inference band.
-/

namespace AerialBridge

open Bytes Cyclic

/-- A complete SLOT.indication and the time at which it is decoded. -/
structure SlotMessage where
  now : Int
  cellId : Int
  buf : List UInt8
  complete : 12 ≤ buf.length
  length_le : buf.length ≤ 1000000

def SlotMessage.toNvIpcMsg (m : SlotMessage) : NvIpcMsg :=
  ⟨0x82, m.cellId, some m.buf, m.buf.length, false, 0, by simp⟩

/-- Each message is the successor of the one before, with slots wrapping at `10 * 2 ^ nu` and SFNs
at 1024. -/
def InOrder (nu : Nat) (msgs : List SlotMessage) : Prop :=
  (∀ m ∈ msgs, (wirePoint nu m.buf).Valid) ∧
    msgs.IsChain fun a b ↦
      (wirePoint nu b.buf).count = ((wirePoint nu a.buf).count + 1) % nofSlotsPerHyperFrame nu

/-- The SLOT.indications handed to the notifier, which is the extender. -/
def slotIndications (trace : List Effect) : List SlotIndication :=
  trace.filterMap fun e ↦ match e with
    | .notify (.onSlotIndication ind) => some ind
    | _ => none

theorem slotIndications_append (xs ys : List Effect) :
    slotIndications (xs ++ ys) = slotIndications xs ++ slotIndications ys :=
  List.filterMap_append

namespace RxThread

variable (rx : RxThread) (ocudu : Ocudu)

/-- The trace of dispatching a stream, message by message. -/
def dispatchStream : List SlotMessage → Except ReadFault (List Effect)
  | [] => pure []
  | m :: ms => do
      let trace ← rx.dispatchMessage ocudu m.now m.toNvIpcMsg
      let traces ← dispatchStream ms
      pure (trace ++ traces)

/-- All messages are accepted, their slot points carry one numerology, and the extended slot advances
by one for each message. -/
def OneTimeline (msgs : List SlotMessage) : Prop :=
  ∃ trace, rx.dispatchStream ocudu msgs = .ok trace ∧
    (slotPoints trace).length = msgs.length ∧
    (∃ k, ∀ sp ∈ slotPoints trace, sp.numerology = k) ∧
    ∃ a outs, SlotPointExtenderAdaptor.init.run (slotIndications trace) = some (a, outs) ∧
      outs.length = msgs.length ∧ outs.IsChain fun x y ↦ y.slot = x.slot.add 1

variable {rx}

theorem dispatchMessage_slot (hn : rx.numerology ≤ 4) (hnot : rx.slotNotifier = true)
    (m : SlotMessage) :
    rx.dispatchMessage ocudu m.now m.toNvIpcMsg = .ok (rx.slotTrace m.now m.buf) := by
  have h1 := m.complete
  have h2 := m.length_le
  rw [← dispatchSlot_eq hn hnot m.now h1]
  exact if_neg (show ¬ ((m.buf.length : Int) ≤ 0 ∨ 1000000 < (m.buf.length : Int)) by omega)

theorem dispatchStream_eq (hn : rx.numerology ≤ 4) (hnot : rx.slotNotifier = true)
    (msgs : List SlotMessage) :
    rx.dispatchStream ocudu msgs = .ok (msgs.flatMap fun m ↦ rx.slotTrace m.now m.buf) := by
  induction msgs with
  | nil => rfl
  | cons m ms ih =>
      rw [dispatchStream, dispatchMessage_slot ocudu hn hnot, ok_bind, ih, List.flatMap_cons]
      rfl

/-- The indication an accepted message gives the notifier. -/
def slotIndication (rx : RxThread) (m : SlotMessage) : SlotIndication :=
  ⟨.ofSlotPoint (slotIndicationPoint rx.numerology m.buf), m.now⟩

theorem acceptedStream (msgs : List SlotMessage) (h : ∀ m ∈ msgs, Accepted m.buf) :
    slotPoints (msgs.flatMap fun m ↦ rx.slotTrace m.now m.buf) =
        msgs.map (fun m ↦ slotIndicationPoint rx.numerology m.buf) ∧
      slotIndications (msgs.flatMap fun m ↦ rx.slotTrace m.now m.buf) =
        msgs.map rx.slotIndication := by
  induction msgs with
  | nil => exact ⟨rfl, rfl⟩
  | cons m ms ih =>
      obtain ⟨ih1, ih2⟩ := ih fun m' h' ↦ h m' (List.mem_cons_of_mem m h')
      have hm : rx.slotTrace m.now m.buf =
          [.slotPoint (slotIndicationPoint rx.numerology m.buf),
            .notify (.onSlotIndication (rx.slotIndication m))] := if_pos (h m List.mem_cons_self)
      rw [List.flatMap_cons, slotPoints_append, slotIndications_append, ih1, ih2, hm]
      exact ⟨rfl, rfl⟩

/-- Inside one band the count at the band's numerology goes up with the wire slot. -/
theorem count_succ_of_band {nu k : Nat} (hmu : rx.numerology ≤ nu) {a b : List UInt8}
    (ha : (wirePoint nu a).Valid) (hb : (wirePoint nu b).Valid)
    (h : (wirePoint nu b).count = ((wirePoint nu a).count + 1) % nofSlotsPerHyperFrame nu)
    (hak : InBand rx.numerology k (wireSlot a).toNat)
    (hbk : InBand rx.numerology k (wireSlot b).toNat) :
    ((wirePoint k b).count : Int) ≡ (wirePoint k a).count + 1 [ZMOD nofSlotsPerHyperFrame k] := by
  rcases SlotPoint.succ_cases ha hb rfl h with ⟨hsfn, hslot⟩ | ⟨hlast, hzero⟩
  -- inside a frame the count goes up by one at any numerology
  · have hsucc : (wirePoint k b).count = (wirePoint k a).count + 1 := by
      rw [SlotPoint.count, SlotPoint.count, show (wirePoint k b).sfn = (wirePoint k a).sfn from hsfn,
        show (wirePoint k b).slot.toNat = (wirePoint k a).slot.toNat + 1 from hslot]
      rfl
    rw [hsucc]
    exact Int.ModEq.refl _
  · -- a frame wraps inside the band: the band starts at slot 0 and holds the whole frame
    have hk : k = rx.numerology := by
      by_contra hne
      have hpos := nofSlotsPerFrame_pos (k - 1)
      have hlow := hbk.2.2 (lt_of_le_of_ne hbk.1 (Ne.symm hne))
      have hz : (wireSlot b).toNat = 0 := hzero
      omega
    have hframe : nofSlotsPerFrame k = nofSlotsPerFrame nu := by
      have hle := nofSlotsPerFrame_mono hmu
      have hlt := hak.2.1
      have hl : (wireSlot a).toNat + 1 = nofSlotsPerFrame nu := hlast
      rw [← hk] at hle
      omega
    have hcount : ∀ buf, (wirePoint k buf).count = (wirePoint nu buf).count := by
      intro buf
      show _ * nofSlotsPerFrame k + _ = _ * nofSlotsPerFrame nu + _
      rw [hframe]
      rfl
    rw [hcount, hcount, h, nofSlotsPerHyperFrame, nofSlotsPerHyperFrame, hframe]
    have hmod := Int.mod_modEq ((wirePoint nu a).count + 1 : Int) (1024 * nofSlotsPerFrame nu : Nat)
    exact_mod_cast hmod

/-- The raw counts of an in-order stream inside one band follow each other. -/
theorem rawCounts_isChain {nu k : Nat} (hmu : rx.numerology ≤ nu) {msgs : List SlotMessage}
    (h : InOrder nu msgs)
    (hband : ∀ m ∈ msgs, InBand rx.numerology k (wireSlot m.buf).toNat) :
    (msgs.map fun m ↦ ((wirePoint k m.buf).count : Int)).IsChain
      fun a b ↦ b ≡ a + 1 [ZMOD nofSlotsPerHyperFrame k] := by
  rw [List.isChain_map]
  apply List.IsChain.imp_of_mem_imp _ h.2
  intro a b ha hb hsucc
  exact count_succ_of_band hmu (h.1 a ha) (h.1 b hb) hsucc (hband a ha) (hband b hb)

theorem accepted_of_valid {nu : Nat} (hnu : nu ≤ 4) {buf : List UInt8}
    (h : (wirePoint nu buf).Valid) : Accepted buf :=
  ⟨h.1, lt_of_lt_of_le h.2 (nofSlotsPerFrame_le hnu)⟩

theorem rawCount_slotIndication (hn : rx.numerology ≤ 4) {m : SlotMessage} (h : Accepted m.buf)
    {k : Nat} (hk : effectiveNumerology rx.numerology (wireSlot m.buf) = k) :
    rawCount (rx.slotIndication m) = (wirePoint k m.buf).count := by
  have hvalid := slotIndicationPoint_valid hn h
  rw [rawCount, slotIndication, SlotPointExtended.withoutHyperSfn_ofSlotPoint hvalid, ← hk]
  rfl

/-- In one band the extender counts the stream one by one. -/
theorem extender_run_of_band (hn : rx.numerology ≤ 4) {nu k : Nat} (hmu : rx.numerology ≤ nu)
    (hnu : nu ≤ 4) {msgs : List SlotMessage} (h : InOrder nu msgs)
    (hband : ∀ m ∈ msgs, InBand rx.numerology k (wireSlot m.buf).toNat) :
    ∃ a outs, SlotPointExtenderAdaptor.init.run (msgs.map rx.slotIndication) = some (a, outs) ∧
      outs.length = msgs.length ∧ outs.IsChain fun x y ↦ y.slot = x.slot.add 1 := by
  have hacc : ∀ m ∈ msgs, Accepted m.buf := fun m hm ↦ accepted_of_valid hnu (h.1 m hm)
  have heff : ∀ m ∈ msgs, effectiveNumerology rx.numerology (wireSlot m.buf) = k :=
    fun m hm ↦ (effectiveNumerology_eq_iff hn (hacc m hm).2).mpr (hband m hm)
  have hraw : (msgs.map rx.slotIndication).map rawCount =
      msgs.map fun m ↦ ((wirePoint k m.buf).count : Int) := by
    rw [List.map_map]
    exact List.map_congr_left fun m hm ↦ rawCount_slotIndication hn (hacc m hm) (heff m hm)
  have hchain := rawCounts_isChain hmu h hband
  rw [← hraw] at hchain
  cases msgs with
  | nil => exact ⟨_, [], rfl, rfl, List.isChain_nil⟩
  | cons m ms =>
      have hk : k ≤ 4 := by
        have hle := @inferNumerology_le (wireSlot m.buf) (4 - rx.numerology) rx.numerology
        have hm := heff m List.mem_cons_self
        rw [effectiveNumerology] at hm
        omega
      have hrun := run_isChain hk (rx.slotIndication m) (ms.map rx.slotIndication)
      rw [← List.map_cons, List.length_map] at hrun
      refine hrun (fun ind hind ↦ ?_) hchain
      obtain ⟨m', hm', rfl⟩ := List.mem_map.mp hind
      exact heff m' hm'

/-- An in-order stream stays on one timeline exactly when one inference band holds all its slots. -/
theorem dispatchStream_oneTimeline_iff (rx : RxThread) (hnot : rx.slotNotifier = true) (nu : Nat)
    (hmu : rx.numerology ≤ nu) (hnu : nu ≤ 4) (ocudu : Ocudu) (msgs : List SlotMessage)
    (h : InOrder nu msgs) :
    rx.OneTimeline ocudu msgs ↔
      ∃ k, ∀ m ∈ msgs, InBand rx.numerology k (wireSlot m.buf).toNat := by
  have hn : rx.numerology ≤ 4 := le_trans hmu hnu
  have hacc : ∀ m ∈ msgs, Accepted m.buf := fun m hm ↦ accepted_of_valid hnu (h.1 m hm)
  obtain ⟨hpoints, hinds⟩ := @acceptedStream rx msgs hacc
  constructor
  -- one numerology for all slot points is one band for all slots
  · rintro ⟨trace, htrace, -, ⟨k, hk⟩, -⟩
    rw [dispatchStream_eq ocudu hn hnot, Except.ok.injEq] at htrace
    rw [← htrace, hpoints] at hk
    refine ⟨k, fun m hm ↦ ?_⟩
    rw [← effectiveNumerology_eq_iff hn (hacc m hm).2]
    exact hk _ (List.mem_map_of_mem hm)
  -- in one band everything is accepted, and the extender sees consecutive slots
  · rintro ⟨k, hk⟩
    refine ⟨_, dispatchStream_eq ocudu hn hnot msgs, ?_, ⟨k, ?_⟩, ?_⟩
    · rw [hpoints, List.length_map]
    · intro sp hsp
      rw [hpoints] at hsp
      obtain ⟨m, hm, rfl⟩ := List.mem_map.mp hsp
      exact (effectiveNumerology_eq_iff hn (hacc m hm).2).mpr (hk m hm)
    · rw [hinds]
      exact extender_run_of_band hn hmu hnu h hk

/-- `scf_slot_ind` behind its headers. -/
def slotIndicationBytes (sfn slot : UInt16) : List UInt8 :=
  [1, 0] ++ le16 0x82 ++ le32 4 ++ le16 sfn ++ le16 slot

def slotMessage (sfn slot : UInt16) : SlotMessage :=
  ⟨0, 0, slotIndicationBytes sfn slot, by simp [slotIndicationBytes],
    by simp [slotIndicationBytes]⟩

/-- L1 at 60 kHz under a 30 kHz configuration, inside the upper band. -/
theorem dispatchStream_oneTimeline_upper :
    RxThread.OneTimeline ⟨1, true, true, true, true⟩ exampleOcudu
      [slotMessage 1023 20, slotMessage 1023 21] :=
  (dispatchStream_oneTimeline_iff ⟨1, true, true, true, true⟩ rfl 2 (by decide) (by decide)
    exampleOcudu [slotMessage 1023 20, slotMessage 1023 21]
    ⟨by decide, by decide⟩).mpr ⟨2, by decide⟩

/-- L1 at 60 kHz under a 30 kHz configuration leaves the timeline between slots 19 and 20. -/
theorem dispatchStream_two_timelines :
    ¬ ∀ (rx : RxThread) (nu : Nat) (ocudu : Ocudu) (msgs : List SlotMessage),
      rx.slotNotifier = true → rx.numerology ≤ nu → nu ≤ 4 → InOrder nu msgs →
        rx.OneTimeline ocudu msgs := by
  intro h
  obtain ⟨trace, htrace, -, ⟨k, hk⟩, -⟩ := h ⟨1, true, true, true, true⟩ 2
    exampleOcudu [slotMessage 0 19, slotMessage 0 20] rfl (by decide) (by decide)
    ⟨by decide, by decide⟩
  rw [dispatchStream_eq _ (by decide) rfl, Except.ok.injEq] at htrace
  rw [← htrace] at hk
  have h19 := hk ⟨1, 0, 19⟩ (by decide)
  have h20 := hk ⟨2, 0, 20⟩ (by decide)
  exact absurd (h19.trans h20.symm) (by decide)

end RxThread

end AerialBridge
