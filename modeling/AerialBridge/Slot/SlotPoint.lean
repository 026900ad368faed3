import AerialBridge.Cyclic.Unwrap

/-!
# OCUDU slot points

`slot_point` and `slot_point_extended` as the bridge relies on them.  A slot point packs
`sfn * slots_per_frame + slot`; its precondition is an SFN below 1024 and a slot inside the frame of
its numerology.  Subtraction is defined for equal numerologies only, and the extended point counts
slots through hyper frames without a bound.
-/

namespace AerialBridge

/-- `10u * (1u << numerology)`. -/
def nofSlotsPerFrame (numerology : Nat) : Nat := 10 * 2 ^ numerology

def nofSlotsPerHyperFrame (numerology : Nat) : Nat := 1024 * nofSlotsPerFrame numerology

/-- `ocudu::slot_point`, by the arguments it is constructed from. -/
structure SlotPoint where
  numerology : Nat
  sfn : UInt16
  slot : UInt16
  deriving DecidableEq, Repr

namespace SlotPoint

/-- The precondition of the constructor. -/
def Valid (s : SlotPoint) : Prop :=
  s.sfn.toNat ≤ 1023 ∧ s.slot.toNat < nofSlotsPerFrame s.numerology

instance (s : SlotPoint) : Decidable s.Valid := inferInstanceAs (Decidable (_ ∧ _))

def count (s : SlotPoint) : Nat := s.sfn.toNat * nofSlotsPerFrame s.numerology + s.slot.toNat

def ofCount (numerology count : Nat) : SlotPoint :=
  ⟨numerology, UInt16.ofNat (count / nofSlotsPerFrame numerology),
    UInt16.ofNat (count % nofSlotsPerFrame numerology)⟩

/-- `operator-`, which requires equal numerologies. -/
def sub (a b : SlotPoint) : Option Int :=
  if a.numerology = b.numerology then
    some (Cyclic.diff (nofSlotsPerHyperFrame a.numerology) a.count b.count)
  else none

end SlotPoint

/-- `ocudu::slot_point_extended`: the slots counted through hyper frames. -/
structure SlotPointExtended where
  numerology : Nat
  count : Int
  deriving DecidableEq, Repr

namespace SlotPointExtended

def ofSlotPoint (s : SlotPoint) : SlotPointExtended := ⟨s.numerology, s.count⟩

def add (e : SlotPointExtended) (d : Int) : SlotPointExtended := ⟨e.numerology, e.count + d⟩

def withoutHyperSfn (e : SlotPointExtended) : SlotPoint :=
  .ofCount e.numerology (e.count % nofSlotsPerHyperFrame e.numerology).toNat

end SlotPointExtended

/-- `ocudu::fapi::slot_indication`. -/
structure SlotIndication where
  slot : SlotPointExtended
  timePoint : Int
  deriving DecidableEq, Repr

/-! ## Counts and points -/

theorem nofSlotsPerFrame_pos (numerology : Nat) : 0 < nofSlotsPerFrame numerology := by
  simp [nofSlotsPerFrame]

theorem nofSlotsPerFrame_mono {m n : Nat} (h : m ≤ n) : nofSlotsPerFrame m ≤ nofSlotsPerFrame n :=
  Nat.mul_le_mul_left 10 (Nat.pow_le_pow_right (by decide) h)

theorem nofSlotsPerFrame_le {numerology : Nat} (h : numerology ≤ 4) :
    nofSlotsPerFrame numerology ≤ 160 :=
  nofSlotsPerFrame_mono h

theorem SlotPoint.count_lt {s : SlotPoint} (h : s.Valid) :
    s.count < nofSlotsPerHyperFrame s.numerology := by
  have hm := Nat.mul_le_mul_right (nofSlotsPerFrame s.numerology) h.1
  have hs := h.2
  simp only [SlotPoint.count, nofSlotsPerHyperFrame]
  omega

theorem SlotPoint.ofCount_count {s : SlotPoint} (h : s.Valid) :
    SlotPoint.ofCount s.numerology s.count = s := by
  have hp := nofSlotsPerFrame_pos s.numerology
  have hd : s.count / nofSlotsPerFrame s.numerology = s.sfn.toNat := by
    rw [SlotPoint.count, Nat.mul_comm, Nat.mul_add_div hp, Nat.div_eq_of_lt h.2, Nat.add_zero]
  have hm : s.count % nofSlotsPerFrame s.numerology = s.slot.toNat := by
    rw [SlotPoint.count, Nat.mul_comm, Nat.mul_add_mod, Nat.mod_eq_of_lt h.2]
  simp only [SlotPoint.ofCount, hd, hm, UInt16.ofNat_toNat]

/-- A valid slot point is determined by its numerology and count. -/
theorem SlotPoint.eq_of_count {s t : SlotPoint} (hs : s.Valid) (ht : t.Valid)
    (hn : s.numerology = t.numerology) (hc : s.count = t.count) : s = t := by
  rw [← ofCount_count hs, ← ofCount_count ht, hn, hc]

theorem SlotPoint.valid_ofCount {numerology c : Nat} (hn : numerology ≤ 4)
    (hc : c < nofSlotsPerHyperFrame numerology) : (SlotPoint.ofCount numerology c).Valid := by
  have hp := nofSlotsPerFrame_pos numerology
  have hl := nofSlotsPerFrame_le hn
  have hd : c / nofSlotsPerFrame numerology < 1024 := by
    rw [Nat.div_lt_iff_lt_mul hp]
    exact hc
  have hm := Nat.mod_lt c hp
  simp only [SlotPoint.Valid, SlotPoint.ofCount, UInt16.toNat_ofNat']
  rw [Nat.mod_eq_of_lt (by omega), Nat.mod_eq_of_lt (by omega)]
  omega

/-- The successor of a slot is the next slot of the frame, or slot 0 of the next frame. -/
theorem SlotPoint.succ_cases {a b : SlotPoint} (ha : a.Valid) (hb : b.Valid)
    (hn : b.numerology = a.numerology)
    (h : b.count = (a.count + 1) % nofSlotsPerHyperFrame a.numerology) :
    (b.sfn = a.sfn ∧ b.slot.toNat = a.slot.toNat + 1) ∨
      (a.slot.toNat + 1 = nofSlotsPerFrame a.numerology ∧ b.slot.toNat = 0) := by
  have hp := nofSlotsPerFrame_pos a.numerology
  have hbs := hb.2
  rw [hn] at hbs
  rw [SlotPoint.count, SlotPoint.count, hn, Nat.add_assoc] at h
  by_cases hs : a.slot.toNat + 1 < nofSlotsPerFrame a.numerology
  -- inside a frame: the count does not wrap, so SFN and slot are its quotient and remainder
  · have hlt : a.sfn.toNat * nofSlotsPerFrame a.numerology + (a.slot.toNat + 1) <
        nofSlotsPerHyperFrame a.numerology := by
      have hm := Nat.mul_le_mul_right (nofSlotsPerFrame a.numerology) ha.1
      rw [nofSlotsPerHyperFrame]
      omega
    rw [Nat.mod_eq_of_lt hlt] at h
    have hdiv := congrArg (· / nofSlotsPerFrame a.numerology) h
    have hmod := congrArg (· % nofSlotsPerFrame a.numerology) h
    simp only [Nat.mul_comm _ (nofSlotsPerFrame a.numerology), Nat.mul_add_div hp,
      Nat.mul_add_mod, Nat.div_eq_of_lt hbs, Nat.div_eq_of_lt hs, Nat.mod_eq_of_lt hbs,
      Nat.mod_eq_of_lt hs, Nat.add_zero] at hdiv hmod
    exact .inl ⟨UInt16.toNat_inj.mp hdiv, hmod⟩
  -- at the end of a frame the next count is a multiple of the frame, wrapped or not
  · have hlast : a.slot.toNat + 1 = nofSlotsPerFrame a.numerology := by
      have has := ha.2
      omega
    rw [hlast, ← Nat.succ_mul, nofSlotsPerHyperFrame, Nat.mul_mod_mul_right] at h
    have hmod := congrArg (· % nofSlotsPerFrame a.numerology) h
    simp only [Nat.mul_comm _ (nofSlotsPerFrame a.numerology), Nat.mul_add_mod,
      Nat.mod_eq_of_lt hbs, Nat.mul_mod_right] at hmod
    exact .inr ⟨hlast, hmod⟩

/-- Removing the hyper SFN depends on the count modulo the hyper frame only. -/
theorem SlotPointExtended.withoutHyperSfn_congr {numerology : Nat} {c d : Int}
    (h : c ≡ d [ZMOD nofSlotsPerHyperFrame numerology]) :
    (SlotPointExtended.mk numerology c).withoutHyperSfn =
      (SlotPointExtended.mk numerology d).withoutHyperSfn := by
  simp only [SlotPointExtended.withoutHyperSfn, h.eq]

theorem SlotPointExtended.withoutHyperSfn_ofSlotPoint {s : SlotPoint} (h : s.Valid) :
    (SlotPointExtended.ofSlotPoint s).withoutHyperSfn = s := by
  have hc := SlotPoint.count_lt h
  simp only [SlotPointExtended.ofSlotPoint, SlotPointExtended.withoutHyperSfn]
  rw [Int.emod_eq_of_lt (by omega) (by omega), Int.toNat_natCast, SlotPoint.ofCount_count h]

theorem SlotPointExtended.valid_withoutHyperSfn (e : SlotPointExtended) (h : e.numerology ≤ 4) :
    e.withoutHyperSfn.Valid := by
  have hp := nofSlotsPerFrame_pos e.numerology
  have hn : (0 : Int) < nofSlotsPerHyperFrame e.numerology := by
    simp only [nofSlotsPerHyperFrame]
    omega
  have h0 := Int.emod_nonneg e.count (ne_of_gt hn)
  have h1 := Int.emod_lt_of_pos e.count hn
  exact SlotPoint.valid_ofCount h (by omega)

end AerialBridge
