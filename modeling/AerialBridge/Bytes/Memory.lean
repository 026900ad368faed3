import AerialBridge.Bytes.Bits

/-!
# Byte memory

Memory as a function from addresses to bytes, stores and loads of byte lists, and a cursor that
appends at its position and moves past what it wrote.  A chain of appends is one store of the
concatenation, and a store inside a stored list replaces that part of it, so a record that is
written field by field and patched afterwards is one store of its bytes.
-/

namespace Bytes

def Mem := Nat → UInt8

namespace Mem

def zeros : Mem := fun _ ↦ 0

def store (m : Mem) (a : Nat) (bs : List UInt8) : Mem := fun i ↦
  if a ≤ i then bs.getD (i - a) (m i) else m i

def load (m : Mem) (a n : Nat) : List UInt8 :=
  (List.range n).map fun k ↦ m (a + k)

/-- The 16-bit word at `a`. -/
def load16 (m : Mem) (a : Nat) : UInt16 := ofLe16 (m a) (m (a + 1))

/-- The 32-bit word at `a`. -/
def load32 (m : Mem) (a : Nat) : UInt32 := ofLe32 (m a) (m (a + 1)) (m (a + 2)) (m (a + 3))

/-- Add one to the byte at `a`, modulo 256. -/
def inc (m : Mem) (a : Nat) : Mem := m.store a [m a + 1]

theorem store_of_lt (m : Mem) {a i : Nat} (bs : List UInt8) (h : i < a) : m.store a bs i = m i := by
  simp only [store, if_neg (by omega : ¬ a ≤ i)]

theorem store_of_ge (m : Mem) {a i : Nat} (bs : List UInt8) (h : a + bs.length ≤ i) :
    m.store a bs i = m i := by
  simp only [store]
  split
  · rw [List.getD_eq_getElem?_getD, List.getElem?_eq_none (by omega), Option.getD_none]
  · rfl

theorem store_at (m : Mem) (a : Nat) (bs : List UInt8) {j : Nat} (h : j < bs.length) :
    m.store a bs (a + j) = bs[j] := by
  simp only [store, if_pos (Nat.le_add_right a j), Nat.add_sub_cancel_left]
  rw [List.getD_eq_getElem?_getD, List.getElem?_eq_getElem h, Option.getD_some]

/-- A store at the start leaves every byte from `n` on as it was, whatever that was, exactly when it
ends there or before. -/
theorem store_untouched_iff (bs : List UInt8) (n : Nat) :
    (∀ (m : Mem) (i : Nat), n ≤ i → m.store 0 bs i = m i) ↔ bs.length ≤ n := by
  constructor
  · intro h
    by_contra hlt
    have hn : n < bs.length := Nat.not_le.mp hlt
    -- a memory in which the byte at `n` is not the one that is stored there
    have hkept := h (fun _ ↦ bs[n] + 1) n le_rfl
    have hat := store_at (fun _ ↦ bs[n] + 1) 0 bs hn
    rw [Nat.zero_add, hkept] at hat
    have hnat := congrArg UInt8.toNat hat
    have hlt := bs[n].toNat_lt
    rw [UInt8.toNat_add] at hnat
    change (bs[n].toNat + 1) % 256 = bs[n].toNat at hnat
    omega
  · intro h m i hi
    exact m.store_of_ge bs (by omega)

/-- An address is below, inside or above a stored list. -/
theorem store_cases (a i : Nat) (bs : List UInt8) :
    i < a ∨ (∃ j, i = a + j ∧ j < bs.length) ∨ a + bs.length ≤ i := by
  by_cases h1 : i < a
  · exact .inl h1
  · by_cases h2 : i < a + bs.length
    · exact .inr (.inl ⟨i - a, by omega, by omega⟩)
    · exact .inr (.inr (by omega))

@[simp] theorem store_nil (m : Mem) (a : Nat) : m.store a [] = m := by
  funext i
  simp only [store, List.getD_nil, ite_self]

theorem store_store (m : Mem) (a : Nat) (xs ys : List UInt8) :
    (m.store a xs).store (a + xs.length) ys = m.store a (xs ++ ys) := by
  funext i
  rcases store_cases a i xs with h | ⟨j, rfl, hj⟩ | h
  · rw [store_of_lt _ _ (by omega), store_of_lt _ _ h, store_of_lt _ _ h]
  · rw [store_of_lt _ _ (by omega), store_at _ _ _ hj,
      store_at _ _ _ (by rw [List.length_append]; omega), List.getElem_append_left hj]
  · rcases store_cases (a + xs.length) i ys with h' | ⟨j, rfl, hj⟩ | h'
    · omega
    · rw [store_at _ _ _ hj, Nat.add_assoc,
        store_at _ _ _ (by rw [List.length_append]; omega), List.getElem_append_right (by omega)]
      simp only [Nat.add_sub_cancel_left]
    · rw [store_of_ge _ _ h', store_of_ge _ _ h,
        store_of_ge _ _ (by rw [List.length_append]; omega)]

theorem store_comm (m : Mem) {a b : Nat} (xs ys : List UInt8)
    (h : a + xs.length ≤ b ∨ b + ys.length ≤ a) :
    (m.store a xs).store b ys = (m.store b ys).store a xs := by
  funext i
  rcases store_cases a i xs with hx | ⟨j, rfl, hj⟩ | hx
  · rw [store_of_lt _ _ hx]
    rcases store_cases b i ys with hy | ⟨k, rfl, hk⟩ | hy
    · rw [store_of_lt _ _ hy, store_of_lt _ _ hx, store_of_lt _ _ hy]
    · rw [store_at _ _ _ hk, store_at _ _ _ hk]
    · rw [store_of_ge _ _ hy, store_of_lt _ _ hx, store_of_ge _ _ hy]
  · rw [store_at _ _ _ hj]
    rcases h with h | h
    · rw [store_of_lt _ _ (by omega), store_at _ _ _ hj]
    · rw [store_of_ge _ _ (by omega), store_at _ _ _ hj]
  · rw [store_of_ge _ _ hx]
    rcases store_cases b i ys with hy | ⟨k, rfl, hk⟩ | hy
    · rw [store_of_lt _ _ hy, store_of_ge _ _ hx, store_of_lt _ _ hy]
    · rw [store_at _ _ _ hk, store_at _ _ _ hk]
    · rw [store_of_ge _ _ hy, store_of_ge _ _ hx, store_of_ge _ _ hy]

/-- A second store over the same bytes replaces them. -/
theorem store_over (m : Mem) (a : Nat) {xs ys : List UInt8} (h : xs.length = ys.length) :
    (m.store a xs).store a ys = m.store a ys := by
  funext i
  rcases store_cases a i ys with hy | ⟨j, rfl, hj⟩ | hy
  · rw [store_of_lt _ _ hy, store_of_lt _ _ hy, store_of_lt _ _ hy]
  · rw [store_at _ _ _ hj, store_at _ _ _ hj]
  · rw [store_of_ge _ _ hy, store_of_ge _ _ hy, store_of_ge _ _ (by omega)]

/-- A store inside a stored list replaces that part of it. -/
theorem store_patch (m : Mem) (a : Nat) (xs : List UInt8) {ys ys' : List UInt8} (zs : List UInt8)
    (h : ys.length = ys'.length) :
    (m.store a (xs ++ ys ++ zs)).store (a + xs.length) ys' = m.store a (xs ++ ys' ++ zs) := by
  rw [List.append_assoc, ← store_store m a xs (ys ++ zs),
    ← store_store (m.store a xs) (a + xs.length) ys zs,
    store_comm _ _ _ (.inr (by omega) : _ ∨ a + xs.length + ys'.length ≤ a + xs.length + ys.length),
    store_over _ _ h, h, store_store, store_store, List.append_assoc]

/-- Filling a hole that was left between two stores. -/
theorem store_hole (m : Mem) (a : Nat) (xs ys zs : List UInt8) :
    ((m.store a xs).store (a + xs.length + ys.length) zs).store (a + xs.length) ys =
      m.store a (xs ++ ys ++ zs) := by
  rw [store_comm _ _ _ (.inr le_rfl), store_store, store_store, List.append_assoc]

@[simp] theorem load_length (m : Mem) (a n : Nat) : (m.load a n).length = n := by
  simp [load]

/-- What a store wrote is read back from any part of it. -/
theorem load_store_part (m : Mem) (a : Nat) (xs ys zs : List UInt8) :
    (m.store a (xs ++ ys ++ zs)).load (a + xs.length) ys.length = ys := by
  apply List.ext_getElem
  · simp
  · intro k h1 h2
    simp only [load, List.getElem_map, List.getElem_range]
    rw [Nat.add_assoc, store_at _ _ _ (by simp only [List.length_append]; omega),
      List.getElem_append_left (by rw [List.length_append]; omega),
      List.getElem_append_right (by omega)]
    simp only [Nat.add_sub_cancel_left]

theorem load_store (m : Mem) (a : Nat) (bs : List UInt8) :
    (m.store a bs).load a bs.length = bs := by
  have h := load_store_part m a [] bs []
  simpa only [List.nil_append, List.append_nil, List.length_nil, Nat.add_zero] using h

theorem load_store_disjoint (m : Mem) {a b n : Nat} (bs : List UInt8)
    (h : b + n ≤ a ∨ a + bs.length ≤ b) : (m.store a bs).load b n = m.load b n := by
  apply List.ext_getElem
  · simp
  · intro k h1 h2
    rw [load_length] at h2
    simp only [load, List.getElem_map, List.getElem_range]
    rcases h with h | h
    · rw [store_of_lt _ _ (by omega)]
    · rw [store_of_ge _ _ (by omega)]

theorem load32_eq {m : Mem} {a : Nat} {v : UInt32} (h : m.load a 4 = le32 v) :
    m.load32 a = v := by
  simp only [load, List.range, List.range.loop, List.map, le32, List.cons.injEq, and_true,
    Nat.add_zero] at h
  rw [load32, h.1, h.2.1, h.2.2.1, h.2.2.2, ofLe32_le32]

theorem load8_store_part (m : Mem) (a : Nat) (xs : List UInt8) (b : UInt8) (zs : List UInt8) :
    m.store a (xs ++ [b] ++ zs) (a + xs.length) = b :=
  List.singleton_inj.mp (load_store_part m a xs [b] zs)

theorem load16_eq {m : Mem} {a : Nat} {v : UInt16} (h : m.load a 2 = le16 v) :
    m.load16 a = v := by
  simp only [load, List.range, List.range.loop, List.map, le16, List.cons.injEq, and_true,
    Nat.add_zero] at h
  rw [load16, h.1, h.2, ofLe16_le16]

theorem load16_store_part (m : Mem) (a : Nat) (xs : List UInt8) (v : UInt16) (zs : List UInt8) :
    (m.store a (xs ++ le16 v ++ zs)).load16 (a + xs.length) = v :=
  load16_eq (load_store_part m a xs (le16 v) zs)

theorem load32_store_part (m : Mem) (a : Nat) (xs : List UInt8) (v : UInt32) (zs : List UInt8) :
    (m.store a (xs ++ le32 v ++ zs)).load32 (a + xs.length) = v :=
  load32_eq (load_store_part m a xs (le32 v) zs)

/-- Adding one to a byte of a stored list. -/
theorem inc_store (m : Mem) (a : Nat) (xs : List UInt8) (b : UInt8) (zs : List UInt8) :
    (m.store a (xs ++ [b] ++ zs)).inc (a + xs.length) = m.store a (xs ++ [b + 1] ++ zs) := by
  rw [inc, load8_store_part]
  exact @store_patch m a xs [b] [b + 1] zs rfl

/-- Appending to a stored list and counting the append in a byte of it. -/
theorem append_inc (m : Mem) (a : Nat) (xs : List UInt8) (b : UInt8) (ys zs : List UInt8) :
    ((m.store a (xs ++ [b] ++ ys)).store (a + (xs ++ [b] ++ ys).length) zs).inc (a + xs.length) =
      m.store a (xs ++ [b + 1] ++ (ys ++ zs)) := by
  rw [store_store, List.append_assoc (xs ++ [b]), inc_store]

theorem store_set (m : Mem) (a : Nat) (bs : List UInt8) (j : Nat) (b : UInt8) (h : j < bs.length) :
    (m.store a bs).store (a + j) [b] = m.store a (bs.set j b) := by
  -- a patch of the one byte that splits the list
  have hsplit : bs = bs.take j ++ [bs[j]] ++ bs.drop (j + 1) := by
    rw [List.append_assoc, List.singleton_append, List.cons_getElem_drop_succ,
      List.take_append_drop]
  have hlen : (bs.take j).length = j := by rw [List.length_take]; omega
  have hp := @store_patch m a (bs.take j) [bs[j]] [b] (bs.drop (j + 1)) rfl
  rw [← hsplit, hlen] at hp
  rw [hp, List.set_eq_take_append_cons_drop, if_pos h, List.append_assoc, List.singleton_append]

/-! ## Setting bits -/

/-- `next[i / 8] |= 1 << pos` for each `i < n` with `f i`, in ascending order. -/
def setBits (o : BitOrder) (f : Nat → Bool) (m : Mem) (a : Nat) : Nat → Mem
  | 0 => m
  | i + 1 =>
      let m := setBits o f m a i
      if f i then m.store (a + i / 8) [m (a + i / 8) ||| UInt8.ofNat (1 <<< o.pos i)] else m

/-- Setting bits of a zeroed area packs the stream into it. -/
theorem setBits_zeros (o : BitOrder) (f : Nat → Bool) (m : Mem) (a n k : Nat) (h : n ≤ 8 * k) :
    setBits o f (m.store a (List.replicate k 0)) a n =
      m.store a (packBytes o (fun i ↦ decide (i < n) && f i) k) := by
  induction n with
  | zero =>
      have hz : packBytes o (fun i ↦ decide (i < 0) && f i) k = List.replicate k 0 := by
        simp only [Nat.not_lt_zero, decide_false, Bool.false_and, packBytes]
        rw [List.map_eq_replicate_iff.mpr (fun j _ ↦ ?_), List.length_range]
        apply uint8_eq_of_testBit
        intro t ht
        rw [packByte_testBit o _ j ht]
        simp
      rw [hz]
      rfl
  | succ n ih =>
      rw [setBits]
      simp only [ih (by omega)]
      split
      · next hf =>
        -- bit `n` is set, in a byte that the first `n` bits have packed already
        have hj : n / 8 < (packBytes o (fun i ↦ decide (i < n) && f i) k).length := by
          rw [packBytes_length]; omega
        rw [store_at _ _ _ hj, store_set _ _ _ _ _ hj]
        have hb : (packBytes o (fun i ↦ decide (i < n) && f i) k)[n / 8] =
            packByte o (fun i ↦ decide (i < n) && f i) (n / 8) := by
          simp [packBytes]
        rw [hb, packBytes_set_or]
        congr 2
        funext i
        rcases Nat.lt_trichotomy i n with hi | rfl | hi
        · simp [hi, Nat.lt_succ_of_lt hi, Nat.ne_of_lt hi]
        · simp [hf]
        · simp [Nat.not_lt.mpr (Nat.le_of_lt hi), Nat.not_lt.mpr hi, Nat.ne_of_gt hi]
      · next hf =>
        -- a clear bit is what the zeroed area has there
        congr 2
        funext i
        rcases Nat.lt_trichotomy i n with hi | rfl | hi
        · simp [hi, Nat.lt_succ_of_lt hi]
        · simp [hf]
        · simp [Nat.not_lt.mpr (Nat.le_of_lt hi), Nat.not_lt.mpr hi]

end Mem

/-! ## Appending at a cursor -/

/-- A write position in memory. -/
structure Cursor where
  mem : Mem
  next : Nat

namespace Cursor

/-- Write the bytes at the cursor and move past them. -/
def put (c : Cursor) (bs : List UInt8) : Cursor := ⟨c.mem.store c.next bs, c.next + bs.length⟩

def put8 (c : Cursor) (v : UInt8) : Cursor := c.put [v]

def put16 (c : Cursor) (v : UInt16) : Cursor := c.put (le16 v)

def put32 (c : Cursor) (v : UInt32) : Cursor := c.put (le32 v)

/-- Zero `k` bytes, set the bits `i < n` with `f i`, and move past the bytes. -/
def putBits (o : BitOrder) (f : Nat → Bool) (n k : Nat) (c : Cursor) : Cursor :=
  ⟨Mem.setBits o f (c.mem.store c.next (List.replicate k 0)) c.next n, c.next + k⟩

theorem put_put (c : Cursor) (xs ys : List UInt8) : (c.put xs).put ys = c.put (xs ++ ys) := by
  simp only [put, Mem.store_store, List.length_append, Nat.add_assoc]

theorem put_nil (c : Cursor) : c.put [] = c := by
  simp [put]

theorem putBits_eq (o : BitOrder) (f : Nat → Bool) {n k : Nat} (h : n ≤ 8 * k) (c : Cursor) :
    putBits o f n k c = c.put (packBytes o (fun i ↦ decide (i < n) && f i) k) := by
  simp only [putBits, put, Mem.setBits_zeros o f _ _ _ _ h, packBytes_length]

/-- A loop that appends an encoding for each element appends all of them. -/
theorem foldl_put {α : Type} {f : Cursor → α → Cursor} {enc : α → List UInt8}
    (h : ∀ c x, f c x = c.put (enc x)) (xs : List α) (c : Cursor) :
    xs.foldl f c = c.put (xs.flatMap enc) := by
  induction xs generalizing c with
  | nil => exact (put_nil c).symm
  | cons x xs ih => rw [List.foldl_cons, h, ih, put_put, List.flatMap_cons]

end Cursor

end Bytes
