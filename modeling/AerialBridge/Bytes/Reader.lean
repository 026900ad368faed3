import AerialBridge.Bytes.Parser

/-!
# Reads from a bounded buffer

A read at a byte index of a buffer either gives a value or faults because it needs a byte past the
end.  A function whose reads never fault reads only inside the buffer.
-/

namespace Bytes

open Bytes.Parser

variable {α β ε : Type}

/-- A read that starts at byte `i` and needs a byte past the end of the buffer. -/
inductive ReadFault
  | past (i : Nat)
  deriving DecidableEq, Repr

/-- Overlay the record that `p` parses on the buffer at byte `i`. -/
def readAt (p : Parser α) (buf : List UInt8) (i : Nat) : Except ReadFault α :=
  match p (buf.drop i) with
  | some (a, _) => .ok a
  | none => .error (.past i)

@[simp] theorem ok_bind (a : α) (f : α → Except ε β) : ((.ok a : Except ε α) >>= f) = f a := rfl

@[simp] theorem pure_eq_ok (a : α) : (pure a : Except ε α) = .ok a := rfl

/-! ## Computations that do not fault -/

def Succeeds (x : Except ε α) : Prop := ∃ a, x = .ok a

theorem Succeeds.pure (a : α) : Succeeds (Pure.pure a : Except ε α) := ⟨a, rfl⟩

theorem Succeeds.bind {x : Except ε α} {f : α → Except ε β} (hx : Succeeds x)
    (hf : ∀ a, x = .ok a → Succeeds (f a)) : Succeeds (x >>= f) := by
  obtain ⟨a, ha⟩ := hx
  rw [ha]
  exact hf a ha

theorem Succeeds.ite {c : Prop} [Decidable c] {x y : Except ε α} (hx : c → Succeeds x)
    (hy : ¬ c → Succeeds y) : Succeeds (if c then x else y) := by
  by_cases h : c
  · rw [if_pos h]
    exact hx h
  · rw [if_neg h]
    exact hy h

theorem Succeeds.mapM {f : α → Except ε β} {xs : List α} (h : ∀ x ∈ xs, Succeeds (f x)) :
    Succeeds (xs.mapM f) := by
  induction xs with
  | nil => exact .pure []
  | cons x xs ih =>
      rw [List.mapM_cons]
      refine .bind (h x List.mem_cons_self) fun _ _ ↦ ?_
      exact .bind (ih fun y hy ↦ h y (List.mem_cons_of_mem x hy)) fun _ _ ↦ .pure _

theorem readAt_fixed {p : Parser α} {n : Nat} (hp : Fixed p n) {buf : List UInt8} {i : Nat}
    (h : i + n ≤ buf.length) : Succeeds (readAt p buf i) := by
  obtain ⟨a, ha⟩ := hp (buf.drop i) (by rw [List.length_drop]; omega)
  exact ⟨a, by rw [readAt, ha]⟩

/-! ## What holds of the value of a computation -/

/-- Every value that `x` can give satisfies `P`. -/
def Ensures (x : Except ε α) (P : α → Prop) : Prop := ∀ a, x = .ok a → P a

theorem Ensures.trivial (x : Except ε α) : Ensures x fun _ ↦ True := fun _ _ ↦ True.intro

theorem Ensures.pure {P : α → Prop} {a : α} (h : P a) : Ensures (Pure.pure a : Except ε α) P := by
  intro b hb
  cases hb
  exact h

theorem Ensures.bind {x : Except ε α} {f : α → Except ε β} {Q : α → Prop} {P : β → Prop}
    (hx : Ensures x Q) (hf : ∀ a, Q a → Ensures (f a) P) : Ensures (x >>= f) P := by
  intro b hb
  match x, hx, hb with
  | .ok a, hx, hb => exact hf a (hx a rfl) b hb

theorem Ensures.ite {c : Prop} [Decidable c] {x y : Except ε α} {P : α → Prop} (hx : Ensures x P)
    (hy : Ensures y P) : Ensures (if c then x else y) P := by
  split
  · exact hx
  · exact hy

/-! ## Reading an encoding -/

theorem readAt_parses {p : Parser α} {bs : List UInt8} {a : α} (hp : Parses p bs a)
    {buf rest : List UInt8} {i : Nat} (h : buf.drop i = bs ++ rest) : readAt p buf i = .ok a := by
  rw [readAt, h, hp]

theorem mapM_ok {f : α → Except ε β} {g : α → β} {xs : List α} (h : ∀ x ∈ xs, f x = .ok (g x)) :
    xs.mapM f = .ok (xs.map g) := by
  induction xs with
  | nil => rfl
  | cons x xs ih =>
      rw [List.mapM_cons, h x List.mem_cons_self, ok_bind,
        ih fun y hy ↦ h y (List.mem_cons_of_mem x hy), ok_bind]
      rfl

/-- The rest of the buffer past the bytes at `i`. -/
theorem drop_past {buf bs rest : List UInt8} {i n : Nat} (h : buf.drop i = bs ++ rest)
    (hn : bs.length = n) : buf.drop (i + n) = rest := by
  rw [← List.drop_drop, h, ← hn, List.drop_left]

/-! ## The value read when the bytes are there -/

def peek8 (buf : List UInt8) (i : Nat) : UInt8 := buf.getD i 0

def peek16 (buf : List UInt8) (i : Nat) : UInt16 := ofLe16 (peek8 buf i) (peek8 buf (i + 1))

def peek32 (buf : List UInt8) (i : Nat) : UInt32 :=
  ofLe32 (peek8 buf i) (peek8 buf (i + 1)) (peek8 buf (i + 2)) (peek8 buf (i + 3))

theorem peek8_drop (buf : List UInt8) (lo i : Nat) : peek8 (buf.drop lo) i = peek8 buf (lo + i) := by
  rw [peek8, peek8, List.getD_eq_getElem?_getD, List.getD_eq_getElem?_getD, List.getElem?_drop]

theorem peek16_drop (buf : List UInt8) (lo i : Nat) :
    peek16 (buf.drop lo) i = peek16 buf (lo + i) := by
  rw [peek16, peek16, peek8_drop, peek8_drop, Nat.add_assoc]

theorem peek8_take {buf : List UInt8} {hi i : Nat} (h : i < hi) :
    peek8 (buf.take hi) i = peek8 buf i := by
  rw [peek8, peek8, List.getD_eq_getElem?_getD, List.getD_eq_getElem?_getD,
    List.getElem?_take_of_lt h]

theorem peek16_take {buf : List UInt8} {hi i : Nat} (h : i + 1 < hi) :
    peek16 (buf.take hi) i = peek16 buf i := by
  rw [peek16, peek16, peek8_take (by omega), peek8_take h]

theorem drop_eq_peek8_cons {buf : List UInt8} {i : Nat} (h : i < buf.length) :
    buf.drop i = peek8 buf i :: buf.drop (i + 1) := by
  rw [List.drop_eq_getElem_cons h, peek8, List.getD_eq_getElem?_getD, List.getElem?_eq_getElem h,
    Option.getD_some]

theorem readAt_u8 {buf : List UInt8} {i : Nat} (h : i + 1 ≤ buf.length) :
    readAt u8 buf i = .ok (peek8 buf i) := by
  rw [readAt, drop_eq_peek8_cons h, u8_cons]

theorem drop_eq_peek16_append {buf : List UInt8} {i : Nat} (h : i + 2 ≤ buf.length) :
    buf.drop i = le16 (peek16 buf i) ++ buf.drop (i + 2) := by
  rw [peek16, le16_ofLe16, drop_eq_peek8_cons (by omega : i < buf.length),
    drop_eq_peek8_cons (by omega : i + 1 < buf.length)]
  rfl

theorem readAt_u16 {buf : List UInt8} {i : Nat} (h : i + 2 ≤ buf.length) :
    readAt u16 buf i = .ok (peek16 buf i) :=
  readAt_parses (.u16 _) (drop_eq_peek16_append h)

theorem drop_eq_peek32_append {buf : List UInt8} {i : Nat} (h : i + 4 ≤ buf.length) :
    buf.drop i = le32 (peek32 buf i) ++ buf.drop (i + 4) := by
  rw [peek32, le32_ofLe32, drop_eq_peek8_cons (by omega : i < buf.length),
    drop_eq_peek8_cons (by omega : i + 1 < buf.length),
    drop_eq_peek8_cons (by omega : i + 1 + 1 < buf.length),
    drop_eq_peek8_cons (by omega : i + 1 + 1 + 1 < buf.length)]
  rfl

end Bytes
