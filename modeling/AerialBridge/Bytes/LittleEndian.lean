import Mathlib.Tactic

/-!
# Little-endian words

The byte lists of 16- and 32-bit words in memory order, least significant byte first, and the words
read back from them.
-/

namespace Bytes

/-- The two bytes of a 16-bit word. -/
def le16 (v : UInt16) : List UInt8 :=
  [UInt8.ofNat v.toNat, UInt8.ofNat (v.toNat / 2 ^ 8)]

/-- The four bytes of a 32-bit word. -/
def le32 (v : UInt32) : List UInt8 :=
  [UInt8.ofNat v.toNat, UInt8.ofNat (v.toNat / 2 ^ 8), UInt8.ofNat (v.toNat / 2 ^ 16),
    UInt8.ofNat (v.toNat / 2 ^ 24)]

def ofLe16 (b0 b1 : UInt8) : UInt16 :=
  UInt16.ofNat (b0.toNat + 2 ^ 8 * b1.toNat)

def ofLe32 (b0 b1 b2 b3 : UInt8) : UInt32 :=
  UInt32.ofNat (b0.toNat + 2 ^ 8 * b1.toNat + 2 ^ 16 * b2.toNat + 2 ^ 24 * b3.toNat)

@[simp] theorem le16_length (v : UInt16) : (le16 v).length = 2 := rfl

@[simp] theorem le32_length (v : UInt32) : (le32 v).length = 4 := rfl

theorem ofLe16_le16 (v : UInt16) :
    ofLe16 (UInt8.ofNat v.toNat) (UInt8.ofNat (v.toNat / 2 ^ 8)) = v := by
  have hv := v.toNat_lt
  apply UInt16.toNat_inj.mp
  simp only [ofLe16, UInt16.toNat_ofNat', UInt8.toNat_ofNat']
  omega

theorem ofLe32_le32 (v : UInt32) :
    ofLe32 (UInt8.ofNat v.toNat) (UInt8.ofNat (v.toNat / 2 ^ 8)) (UInt8.ofNat (v.toNat / 2 ^ 16))
      (UInt8.ofNat (v.toNat / 2 ^ 24)) = v := by
  have hv := v.toNat_lt
  apply UInt32.toNat_inj.mp
  simp only [ofLe32, UInt32.toNat_ofNat', UInt8.toNat_ofNat']
  omega

theorem le16_ofLe16 (b0 b1 : UInt8) : le16 (ofLe16 b0 b1) = [b0, b1] := by
  have h0 := b0.toNat_lt
  have h1 := b1.toNat_lt
  simp only [le16, ofLe16, UInt16.toNat_ofNat', List.cons.injEq, and_true]
  constructor <;> apply UInt8.toNat_inj.mp <;> simp only [UInt8.toNat_ofNat'] <;> omega

theorem le32_ofLe32 (b0 b1 b2 b3 : UInt8) : le32 (ofLe32 b0 b1 b2 b3) = [b0, b1, b2, b3] := by
  have h0 := b0.toNat_lt
  have h1 := b1.toNat_lt
  have h2 := b2.toNat_lt
  have h3 := b3.toNat_lt
  simp only [le32, ofLe32, UInt32.toNat_ofNat', List.cons.injEq, and_true]
  refine ⟨?_, ?_, ?_, ?_⟩ <;> apply UInt8.toNat_inj.mp <;> simp only [UInt8.toNat_ofNat'] <;> omega

end Bytes
