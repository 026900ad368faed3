import AerialBridge.Indication.SlotPoints
import AerialBridge.RxThread.Dispatch

/-!
# The SLOT.indication path

The inference loop ends at the least numerology, from the configured one up to 4, whose frame holds
the slot: the slots fall into bands, one for each numerology.  A message is accepted when its SFN is
below 1024 and some band holds its slot.
-/

namespace AerialBridge

open Bytes Bytes.Parser

/-- The slots for which the numerology `k` is inferred when `numerology` is configured. -/
def InBand (numerology k slot : Nat) : Prop :=
  numerology ≤ k ∧ slot < nofSlotsPerFrame k ∧
    (numerology < k → nofSlotsPerFrame (k - 1) ≤ slot)

instance (numerology k slot : Nat) : Decidable (InBand numerology k slot) :=
  inferInstanceAs (Decidable (_ ∧ _))

theorem inBand_unique {numerology j k slot : Nat} (hj : InBand numerology j slot)
    (hk : InBand numerology k slot) : j = k := by
  obtain ⟨hj0, hj1, hj2⟩ := hj
  obtain ⟨hk0, hk1, hk2⟩ := hk
  -- the band of the smaller numerology ends before that of the larger one begins
  rcases Nat.lt_trichotomy j k with h | h | h
  · have hm := @nofSlotsPerFrame_mono j (k - 1) (by omega)
    have hl := hk2 (by omega)
    omega
  · exact h
  · have hm := @nofSlotsPerFrame_mono k (j - 1) (by omega)
    have hl := hj2 (by omega)
    omega

theorem inferNumerology_inBand {slot : UInt16} {fuel numerology : Nat}
    (h : slot.toNat < nofSlotsPerFrame (numerology + fuel)) :
    InBand numerology (inferNumerology slot fuel numerology) slot.toNat := by
  induction fuel generalizing numerology with
  | zero => exact ⟨le_rfl, h, fun hlt ↦ absurd hlt (lt_irrefl _)⟩
  | succ fuel ih =>
      unfold inferNumerology
      by_cases hs : nofSlotsPerFrame numerology ≤ slot.toNat
      · rw [if_pos hs]
        obtain ⟨h0, h1, h2⟩ := @ih (numerology + 1) (by rwa [Nat.add_assoc, Nat.add_comm 1 fuel])
        refine ⟨by omega, h1, fun hlt ↦ ?_⟩
        -- the band starts at the frame just passed, or at one the loop passes later
        by_cases heq : inferNumerology slot fuel (numerology + 1) = numerology + 1
        · rw [heq]
          exact hs
        · exact h2 (by omega)
      · rw [if_neg hs]
        exact ⟨le_rfl, not_le.mp hs, fun hlt ↦ absurd hlt (lt_irrefl _)⟩

theorem inferNumerology_le {slot : UInt16} (fuel numerology : Nat) :
    inferNumerology slot fuel numerology ≤ numerology + fuel := by
  induction fuel generalizing numerology with
  | zero => exact le_rfl
  | succ fuel ih =>
      unfold inferNumerology
      split
      · have hle := ih (numerology + 1)
        omega
      · omega

/-- The numerology that the decoder gives a slot. -/
def effectiveNumerology (numerology : Nat) (slot : UInt16) : Nat :=
  inferNumerology slot (4 - numerology) numerology

theorem effectiveNumerology_eq_iff {numerology k : Nat} {slot : UInt16} (hn : numerology ≤ 4)
    (hs : slot.toNat < 160) :
    effectiveNumerology numerology slot = k ↔ InBand numerology k slot.toNat := by
  have hband : InBand numerology (effectiveNumerology numerology slot) slot.toNat := by
    apply inferNumerology_inBand
    rw [Nat.add_sub_cancel' hn]
    exact hs
  constructor
  · intro h
    rwa [← h]
  · exact fun h ↦ inBand_unique hband h

/-- The slot fits no numerology up to 4 exactly when the loop ends without a frame that holds it. -/
theorem effectiveNumerology_rejects_iff {numerology : Nat} {slot : UInt16} (hn : numerology ≤ 4) :
    nofSlotsPerFrame (effectiveNumerology numerology slot) ≤ slot.toNat ↔ 160 ≤ slot.toNat := by
  constructor
  · intro h
    by_contra hs
    have hband := (effectiveNumerology_eq_iff hn (not_le.mp hs)).mp rfl
    exact absurd hband.2.1 (not_lt.mpr h)
  · intro h
    have hle := @inferNumerology_le slot (4 - numerology) numerology
    rw [Nat.add_sub_cancel' hn] at hle
    exact le_trans (nofSlotsPerFrame_le hle) h

/-! ## Decoding the message -/

theorem readAt_bytes_zero {buf : List UInt8} {n : Nat} (h : n ≤ buf.length) :
    readAt (bytes n) buf 0 = .ok (buf.take n) := by
  rw [readAt, List.drop_zero, bytes, if_pos h]

/-- The SFN and slot of a SLOT.indication that is accepted. -/
def Accepted (buf : List UInt8) : Prop := (wireSfn buf).toNat ≤ 1023 ∧ (wireSlot buf).toNat < 160

instance (buf : List UInt8) : Decidable (Accepted buf) := inferInstanceAs (Decidable (_ ∧ _))

def slotIndicationPoint (numerology : Nat) (buf : List UInt8) : SlotPoint :=
  ⟨effectiveNumerology numerology (wireSlot buf), wireSfn buf, wireSlot buf⟩

theorem slotIndicationPoint_valid {numerology : Nat} (hn : numerology ≤ 4) {buf : List UInt8}
    (h : Accepted buf) : (slotIndicationPoint numerology buf).Valid :=
  ⟨h.1, ((effectiveNumerology_eq_iff hn h.2).mp rfl).2.1⟩

theorem deserializeSlotIndication_eq {buf : List UInt8} {numerology : Nat} (now : Int)
    (h : 12 ≤ buf.length) (hn : numerology ≤ 4) :
    deserializeSlotIndication buf numerology now =
      .ok (if Accepted buf then
        some (slotIndicationPoint numerology buf,
          ⟨.ofSlotPoint (slotIndicationPoint numerology buf), now⟩)
      else none) := by
  have hsfn : readAt u16 buf scfHdrSize = .ok (wireSfn buf) := readAt_u16 (by rw [scfHdrSize]; omega)
  have hslot : readAt u16 buf (scfHdrSize + 2) = .ok (wireSlot buf) :=
    readAt_u16 (by rw [scfHdrSize]; omega)
  have hgt : wireSfn buf > 1023 ↔ ¬ (wireSfn buf).toNat ≤ 1023 := by
    rw [not_le]
    exact UInt16.lt_iff_toNat_lt
  unfold deserializeSlotIndication
  rw [if_neg (by rw [scfHdrSize]; omega), hsfn, ok_bind, hslot, ok_bind]
  by_cases hs : (wireSfn buf).toNat ≤ 1023
  · rw [if_neg (by rw [hgt]; exact not_not.mpr hs)]
    -- the test after the loop rejects what no frame up to numerology 4 holds
    by_cases ht : (wireSlot buf).toNat < 160
    · have hfit : ¬ nofSlotsPerFrame (effectiveNumerology numerology (wireSlot buf)) ≤
          (wireSlot buf).toNat := by
        rw [effectiveNumerology_rejects_iff hn]
        omega
      rw [if_pos (show Accepted buf from ⟨hs, ht⟩)]
      show (if nofSlotsPerFrame (effectiveNumerology numerology (wireSlot buf)) ≤ _ then _ else _) = _
      rw [if_neg hfit]
      rfl
    · have hfit : nofSlotsPerFrame (effectiveNumerology numerology (wireSlot buf)) ≤
          (wireSlot buf).toNat := by
        rw [effectiveNumerology_rejects_iff hn]
        omega
      rw [if_neg (fun hacc : Accepted buf ↦ ht hacc.2)]
      show (if nofSlotsPerFrame (effectiveNumerology numerology (wireSlot buf)) ≤ _ then _ else _) = _
      rw [if_pos hfit]
      rfl
  · rw [if_pos (hgt.mpr hs), if_neg (fun hacc : Accepted buf ↦ hs hacc.1)]
    rfl

namespace RxThread

/-- The trace of a SLOT.indication: the slot point and the notifier call of an accepted message. -/
def slotTrace (rx : RxThread) (now : Int) (buf : List UInt8) : List Effect :=
  if Accepted buf then
    [.slotPoint (slotIndicationPoint rx.numerology buf),
      .notify (.onSlotIndication ⟨.ofSlotPoint (slotIndicationPoint rx.numerology buf), now⟩)]
  else []

theorem dispatchSlot_eq {rx : RxThread} (hn : rx.numerology ≤ 4) (hnot : rx.slotNotifier = true)
    (now : Int) {buf : List UInt8} (h : 12 ≤ buf.length) :
    rx.dispatchSlot now buf = .ok (rx.slotTrace now buf) := by
  have hlocal : (if buf.length < 16 then buf.length else 16) ≤ buf.length := by split <;> omega
  have hcopy : 12 ≤ (if buf.length < 16 then buf.length else 16) := by split <;> omega
  generalize hk : (if buf.length < 16 then buf.length else 16) = k at hlocal hcopy
  -- both fields stand in the first 12 bytes, which the local copy has
  have hsfn : wireSfn (buf.take k) = wireSfn buf := peek16_take (by omega)
  have hslot : wireSlot (buf.take k) = wireSlot buf := peek16_take (by omega)
  have hacc : Accepted (buf.take k) ↔ Accepted buf := by rw [Accepted, Accepted, hsfn, hslot]
  have hpoint : slotIndicationPoint rx.numerology (buf.take k) =
      slotIndicationPoint rx.numerology buf := by
    rw [slotIndicationPoint, slotIndicationPoint, hsfn, hslot]
  have hdes := deserializeSlotIndication_eq now
    (show 12 ≤ (buf.take k).length by rw [List.length_take]; omega) hn
  rw [hpoint] at hdes
  unfold dispatchSlot slotTrace
  rw [if_neg (by simp [hnot]; omega), hk, readAt_bytes_zero hlocal, ok_bind, hdes, ok_bind]
  by_cases ha : Accepted buf
  · rw [if_pos (hacc.mpr ha), if_pos ha]
    rfl
  · rw [if_neg (fun h ↦ ha (hacc.mp h)), if_neg ha]
    rfl

end RxThread

end AerialBridge
