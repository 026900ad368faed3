import AerialBridge.Bytes.Parser
import Mathlib.Data.Nat.Bitwise

/-!
# Bit streams in bytes

A stream of bits held in a byte list, either least or most significant bit of each byte first.
`packBytes` writes a stream, `streamBit` reads one bit of it; the two orders share every law because
`BitOrder.pos` is its own inverse inside a byte.
-/

namespace Bytes

inductive BitOrder
  | lsbFirst
  | msbFirst
  deriving DecidableEq, Repr

/-- The position inside its byte of bit `i` of a stream. -/
def BitOrder.pos : BitOrder → Nat → Nat
  | .lsbFirst, i => i % 8
  | .msbFirst, i => 7 - i % 8

def streamBit (o : BitOrder) (bs : List UInt8) (i : Nat) : Bool :=
  (bs.getD (i / 8) 0).toNat.testBit (o.pos i)

/-- The first `n` bits of a stream. -/
def streamBits (o : BitOrder) (bs : List UInt8) (n : Nat) : List Bool :=
  (List.range n).map (streamBit o bs)

/-- Byte `j` of the stream whose bits are `f`. -/
def packByte (o : BitOrder) (f : Nat → Bool) (j : Nat) : UInt8 :=
  UInt8.ofNat (Nat.ofBits fun t : Fin 8 ↦ f (8 * j + o.pos t))

def packBytes (o : BitOrder) (f : Nat → Bool) (n : Nat) : List UInt8 :=
  (List.range n).map (packByte o f)

theorem BitOrder.pos_lt (o : BitOrder) (i : Nat) : o.pos i < 8 := by
  cases o <;> simp only [BitOrder.pos] <;> omega

theorem BitOrder.pos_pos (o : BitOrder) (i : Nat) : o.pos (o.pos i) = i % 8 := by
  cases o <;> simp only [BitOrder.pos] <;> omega

theorem uint8_eq_of_testBit {x y : UInt8}
    (h : ∀ t < 8, x.toNat.testBit t = y.toNat.testBit t) : x = y := by
  apply UInt8.toNat_inj.mp
  apply Nat.eq_of_testBit_eq
  intro t
  by_cases ht : t < 8
  · exact h t ht
  -- past bit 7 both bytes read `false`
  · have hp : 2 ^ 8 ≤ 2 ^ t := Nat.pow_le_pow_right (by decide) (by omega)
    rw [Nat.testBit_lt_two_pow (lt_of_lt_of_le x.toNat_lt hp),
      Nat.testBit_lt_two_pow (lt_of_lt_of_le y.toNat_lt hp)]

theorem packByte_testBit (o : BitOrder) (f : Nat → Bool) (j : Nat) {t : Nat} (ht : t < 8) :
    (packByte o f j).toNat.testBit t = f (8 * j + o.pos t) := by
  have hlt : (Nat.ofBits fun t : Fin 8 ↦ f (8 * j + o.pos t)) < 2 ^ 8 := Nat.ofBits_lt_two_pow _
  rw [packByte, UInt8.toNat_ofNat', Nat.mod_eq_of_lt hlt, Nat.testBit_ofBits_lt _ _ ht]

@[simp] theorem packBytes_length (o : BitOrder) (f : Nat → Bool) (n : Nat) :
    (packBytes o f n).length = n := by
  simp [packBytes]

theorem streamBit_packBytes_append (o : BitOrder) (f : Nat → Bool) (rest : List UInt8) {n i : Nat}
    (h : i < 8 * n) : streamBit o (packBytes o f n ++ rest) i = f i := by
  have hj : i / 8 < n := by omega
  have hlen : i / 8 < (packBytes o f n).length := by rw [packBytes_length]; exact hj
  rw [streamBit, List.getD_eq_getElem?_getD, List.getElem?_append_left hlen,
    List.getElem?_eq_getElem hlen, Option.getD_some]
  simp only [packBytes, List.getElem_map, List.getElem_range]
  rw [packByte_testBit o f _ (o.pos_lt i), o.pos_pos]
  congr 1
  omega

/-- The bits of a list, `false` past its end. -/
def bitAt (bits : List Bool) (i : Nat) : Bool := bits.getD i false

/-- Packing a list of bits into enough bytes loses none of them. -/
theorem streamBits_packBytes (o : BitOrder) (bits : List Bool) (rest : List UInt8) {n : Nat}
    (h : bits.length ≤ 8 * n) :
    streamBits o (packBytes o (bitAt bits) n ++ rest) bits.length = bits := by
  apply List.ext_getElem
  · simp [streamBits]
  · intro i h1 h2
    simp only [streamBits, List.getElem_map, List.getElem_range]
    rw [streamBit_packBytes_append o _ rest (by omega), bitAt, List.getD_eq_getElem?_getD,
      List.getElem?_eq_getElem h2, Option.getD_some]

/-- Bits past the end of a list pack as zeros. -/
theorem packBytes_bitAt (o : BitOrder) (bits : List Bool) (n : Nat) :
    packBytes o (fun i ↦ decide (i < bits.length) && bitAt bits i) n =
      packBytes o (bitAt bits) n := by
  congr 1
  funext i
  by_cases hi : i < bits.length
  · rw [decide_eq_true hi, Bool.true_and]
  · rw [decide_eq_false hi, Bool.false_and, bitAt, List.getD_eq_getElem?_getD,
      List.getElem?_eq_none (Nat.le_of_not_lt hi), Option.getD_none]

/-- Setting one bit of a packed stream packs the stream with that bit set. -/
theorem packBytes_set_or (o : BitOrder) (f : Nat → Bool) (n i : Nat) :
    (packBytes o f n).set (i / 8) (packByte o f (i / 8) ||| UInt8.ofNat (1 <<< o.pos i)) =
      packBytes o (fun k ↦ f k || k == i) n := by
  apply List.ext_getElem
  · simp
  · intro j h1 h2
    rw [packBytes_length] at h2
    -- byte `j` of both sides, bit by bit
    simp only [List.getElem_set, packBytes, List.getElem_map, List.getElem_range]
    apply uint8_eq_of_testBit
    intro t ht
    have hpt := o.pos_pos t
    have hpi := o.pos_pos i
    have hlt := o.pos_lt t
    have hmask : (UInt8.ofNat (1 <<< o.pos i)).toNat = 2 ^ o.pos i := by
      have hp : 2 ^ o.pos i < 2 ^ 8 := Nat.pow_lt_pow_right (by decide) (o.pos_lt i)
      rw [UInt8.toNat_ofNat', Nat.one_shiftLeft, Nat.mod_eq_of_lt hp]
    rw [packByte_testBit o _ j ht]
    split
    · next hj =>
      -- the byte that holds bit `i`: its bit `t` is set by the mask exactly when `t` is the place of `i`
      subst hj
      rw [UInt8.toNat_or, Nat.testBit_or, packByte_testBit o f _ ht, hmask, Nat.testBit_two_pow]
      congr 1
      rw [Bool.eq_iff_iff, decide_eq_true_iff, beq_iff_eq]
      constructor
      · intro he
        rw [← he, hpi]
        omega
      · intro he
        have hm : i % 8 = o.pos t := by omega
        rw [← hm, Nat.mod_eq_of_lt ht] at hpt
        have hc : o.pos (i % 8) = o.pos i := by cases o <;> simp only [BitOrder.pos] <;> omega
        rw [← hc, hpt]
    · next hj =>
      -- no bit of any other byte is bit `i` of the stream
      have hne : ¬ (8 * j + o.pos t = i) := by omega
      rw [packByte_testBit o f j ht]
      simp [hne]

/-! ## Bit fields of a record -/

open Bytes.Parser

/-- `n` bits in `k` bytes, accepted only with zero pad bits. -/
def Parser.bitField (o : BitOrder) (n k : Nat) : Parser (List Bool) := do
  let bs ← bytes k
  let bits := streamBits o bs n
  check (packBytes o (bitAt bits) k == bs)
  pure bits

theorem Parses.bitField (o : BitOrder) {bits : List Bool} {n k : Nat} (hn : bits.length = n)
    (hk : n ≤ 8 * k) :
    Parses (Parser.bitField o n k) (packBytes o (bitAt bits) k) bits := by
  intro rest
  have hbits : streamBits o (packBytes o (bitAt bits) k) n = bits := by
    rw [← hn] at hk ⊢
    have h := streamBits_packBytes o bits [] hk
    rwa [List.append_nil] at h
  rw [Parser.bitField, bind_apply, bytes_append _ rest (packBytes_length o _ k), Option.bind_some]
  simp only [hbits, beq_self_eq_true, check_true, bind_apply, pure_apply, Option.bind_some]

end Bytes
