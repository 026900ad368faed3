import AerialBridge.Bytes.Memory

/-!
# Memory behind a pointer

A function that is handed a pointer sees the memory from that address on, and what it leaves there
is what the memory holds afterwards.  Stores through a pointer are stores at its address.
-/

namespace Bytes.Mem

/-- The memory from `a` on. -/
def seenFrom (m : Mem) (a : Nat) : Mem := fun i ↦ m (a + i)

/-- The memory when the part from `a` on has become `f`. -/
def through (m : Mem) (a : Nat) (f : Mem) : Mem := fun i ↦ if a ≤ i then f (i - a) else m i

/-- The memory when the `n` bytes from `a` on have become those of `f`. -/
def writeBack (m : Mem) (a n : Nat) (f : Mem) : Mem := fun i ↦
  if a ≤ i ∧ i < a + n then f (i - a) else m i

theorem load_congr {m m' : Mem} {a n : Nat} (h : ∀ i, a ≤ i → i < a + n → m i = m' i) :
    m.load a n = m'.load a n := by
  apply List.map_congr_left
  intro k hk
  have hlt := List.mem_range.mp hk
  exact h (a + k) (by omega) (by omega)

theorem through_store (m : Mem) (a b : Nat) (bs : List UInt8) :
    m.through a ((m.seenFrom a).store b bs) = m.store (a + b) bs := by
  funext i
  unfold through
  split
  · next hi =>
    have hsub : i - a - b = i - (a + b) := Nat.sub_sub i a b
    have hback : a + (i - a) = i := Nat.add_sub_cancel' hi
    have hle : b ≤ i - a ↔ a + b ≤ i := by omega
    simp only [store, seenFrom, hsub, hback, hle]
  · next hi => exact (store_of_lt m bs (by omega)).symm

/-- A part of what is loaded. -/
theorem load_drop_take (m : Mem) (a : Nat) {n k c : Nat} (h : k + c ≤ n) :
    ((m.load a n).drop k).take c = m.load (a + k) c := by
  apply List.ext_getElem
  · simp only [List.length_take, List.length_drop, load_length]
    omega
  · intro i _ _
    simp only [load, List.getElem_take, List.getElem_drop, List.getElem_map, List.getElem_range,
      Nat.add_assoc]

theorem writeBack_load_disjoint (m : Mem) {a n b k : Nat} (f : Mem) (h : b + k ≤ a ∨ a + n ≤ b) :
    (m.writeBack a n f).load b k = m.load b k := by
  apply load_congr
  intro i _ _
  exact if_neg (by omega)

theorem writeBack_load (m : Mem) {a n b k : Nat} (f : Mem) (h : b + k ≤ n) :
    (m.writeBack a n f).load (a + b) k = f.load b k := by
  apply List.map_congr_left
  intro i hi
  have hlt := List.mem_range.mp hi
  have hin : a ≤ a + b + i ∧ a + b + i < a + n := by omega
  show (if a ≤ a + b + i ∧ a + b + i < a + n then f (a + b + i - a) else m (a + b + i)) = f (b + i)
  rw [if_pos hin, Nat.add_assoc, Nat.add_sub_cancel_left]

end Bytes.Mem
