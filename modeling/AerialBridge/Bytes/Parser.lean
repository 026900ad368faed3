import AerialBridge.Bytes.LittleEndian

/-!
# Parsers of packed byte records

A parser reads a value off the front of a byte list and leaves the rest.  `Parses p bs a` says that
`p` reads `a` from exactly the bytes `bs`, whatever follows them; `Fixed p n` that `p` reads `n`
bytes of any list that has them.  Both are closed under sequencing, which is all a packed record
needs.
-/

namespace Bytes

variable {α β : Type}

def Parser (α : Type) := List UInt8 → Option (α × List UInt8)

namespace Parser

instance : Monad Parser where
  pure a := fun s ↦ some (a, s)
  bind p f := fun s ↦ (p s).bind fun r ↦ f r.1 r.2

@[simp] theorem pure_apply (a : α) (s : List UInt8) : (pure a : Parser α) s = some (a, s) := rfl

@[simp] theorem bind_apply (p : Parser α) (f : α → Parser β) (s : List UInt8) :
    (p >>= f) s = (p s).bind fun r ↦ f r.1 r.2 := rfl

def fail : Parser α := fun _ ↦ none

def u8 : Parser UInt8
  | [] => none
  | b :: s => some (b, s)

def u16 : Parser UInt16 := do
  let b0 ← u8
  let b1 ← u8
  pure (ofLe16 b0 b1)

def u32 : Parser UInt32 := do
  let b0 ← u8
  let b1 ← u8
  let b2 ← u8
  let b3 ← u8
  pure (ofLe32 b0 b1 b2 b3)

/-- The next `n` bytes. -/
def bytes (n : Nat) : Parser (List UInt8) := fun s ↦
  if n ≤ s.length then some (s.take n, s.drop n) else none

/-- `p`, `n` times over. -/
def times (p : Parser α) : Nat → Parser (List α)
  | 0 => pure []
  | n + 1 => do
      let a ← p
      let as ← times p n
      pure (a :: as)

/-- Accept only when the condition holds; reads nothing. -/
def check (c : Bool) : Parser Unit := if c then pure () else fail

/-- The value of a parse that uses up the whole list. -/
def complete (p : Parser α) (s : List UInt8) : Option α :=
  (p s).bind fun r ↦ if r.2 = [] then some r.1 else none

/-- `p` only when it is flagged. -/
def flagged (flag : Bool) (p : Parser α) : Parser (Option α) :=
  if flag then do
    let a ← p
    pure (some a)
  else pure none

/-- Parse the next `n` bytes with `p`, which has to use up all of them. -/
def inside (n : Nat) (p : Parser α) : Parser α := do
  let bs ← bytes n
  match p.complete bs with
  | some a => pure a
  | none => fail

@[simp] theorem u8_cons (b : UInt8) (s : List UInt8) : u8 (b :: s) = some (b, s) := rfl

@[simp] theorem u16_append (v : UInt16) (s : List UInt8) : u16 (le16 v ++ s) = some (v, s) := by
  simp only [u16, le16, List.cons_append, List.nil_append, bind_apply, u8_cons, Option.bind_some,
    ofLe16_le16, pure_apply]

@[simp] theorem u32_append (v : UInt32) (s : List UInt8) : u32 (le32 v ++ s) = some (v, s) := by
  simp only [u32, le32, List.cons_append, List.nil_append, bind_apply, u8_cons, Option.bind_some,
    ofLe32_le32, pure_apply]

theorem bytes_append {n : Nat} (bs s : List UInt8) (h : bs.length = n) :
    bytes n (bs ++ s) = some (bs, s) := by
  simp [bytes, ← h]

@[simp] theorem check_true : check true = pure () := rfl

end Parser

open Bytes.Parser

/-! ## Reading exactly the encoding of a value -/

/-- An optional section: nothing when it is absent. -/
def encodeOpt (enc : α → List UInt8) : Option α → List UInt8
  | none => []
  | some a => enc a

/-- `p` reads `a` from exactly the bytes `bs`. -/
def Parses (p : Parser α) (bs : List UInt8) (a : α) : Prop :=
  ∀ rest, p (bs ++ rest) = some (a, rest)

theorem Parses.pure (a : α) : Parses (Pure.pure a) [] a := fun _ ↦ rfl

theorem Parses.bind {p : Parser α} {f : α → Parser β} {xs ys : List UInt8} {a : α} {b : β}
    (hp : Parses p xs a) (hf : Parses (f a) ys b) : Parses (p >>= f) (xs ++ ys) b := by
  intro rest
  rw [bind_apply, List.append_assoc, hp]
  exact hf rest

/-- The last step of a record. -/
theorem Parses.last {p : Parser α} {g : α → β} {xs : List UInt8} {a : α} (hp : Parses p xs a) :
    Parses (p >>= fun x ↦ Pure.pure (g x)) xs (g a) := by
  intro rest
  rw [bind_apply, hp]
  rfl

theorem Parses.check {f : Unit → Parser β} {c : Bool} {ys : List UInt8} {b : β} (hc : c = true)
    (hf : Parses (f ()) ys b) : Parses (Parser.check c >>= f) ys b := by
  intro rest
  rw [hc]
  exact hf rest

theorem Parses.u8 (v : UInt8) : Parses Parser.u8 [v] v := u8_cons v

theorem Parses.u16 (v : UInt16) : Parses Parser.u16 (le16 v) v := u16_append v

theorem Parses.u32 (v : UInt32) : Parses Parser.u32 (le32 v) v := u32_append v

/-- A list of encodings parses to the list of its values, one parse for each. -/
theorem Parses.times {p : Parser β} {enc : α → List UInt8} {val : α → β} (xs : List α)
    (h : ∀ x ∈ xs, Parses p (enc x) (val x)) :
    Parses (p.times xs.length) (xs.flatMap enc) (xs.map val) := by
  induction xs with
  | nil => exact Parses.pure []
  | cons x xs ih =>
      intro rest
      -- the first encoding is followed by all the others and `rest`
      have hx := h x List.mem_cons_self (xs.flatMap enc ++ rest)
      have ht := ih (fun y hy ↦ h y (List.mem_cons_of_mem x hy)) rest
      simp only [List.length_cons, List.flatMap_cons, List.append_assoc, Parser.times, bind_apply,
        hx, Option.bind_some, ht, pure_apply, List.map_cons]

theorem encodeOpt_length_le {enc : α → List UInt8} {n : Nat} (h : ∀ a, (enc a).length ≤ n)
    (o : Option α) : (encodeOpt enc o).length ≤ n := by
  cases o with
  | none => exact Nat.zero_le n
  | some a => exact h a

theorem length_flatMap_le {enc : α → List UInt8} {k : Nat} (h : ∀ x, (enc x).length ≤ k)
    (xs : List α) : (xs.flatMap enc).length ≤ k * xs.length := by
  induction xs with
  | nil => exact Nat.zero_le _
  | cons x xs ih =>
      have hx := h x
      rw [List.flatMap_cons, List.length_append, List.length_cons, Nat.mul_succ]
      omega

theorem length_flatMap_eq {enc : α → List UInt8} {k : Nat} (h : ∀ x, (enc x).length = k)
    (xs : List α) : (xs.flatMap enc).length = k * xs.length := by
  induction xs with
  | nil => rfl
  | cons x xs ih =>
      rw [List.flatMap_cons, List.length_append, List.length_cons, Nat.mul_succ, h, ih, Nat.add_comm]

theorem Parses.complete {p : Parser α} {bs : List UInt8} {a : α} (h : Parses p bs a) :
    p.complete bs = some a := by
  have hn := h []
  rw [List.append_nil] at hn
  simp [Parser.complete, hn]

theorem Parses.inside {p : Parser α} {bs : List UInt8} {a : α} (h : Parses p bs a) {n : Nat}
    (hn : bs.length = n) : Parses (p.inside n) bs a := by
  intro rest
  rw [Parser.inside, bind_apply, bytes_append bs rest hn, Option.bind_some]
  simp only [h.complete, pure_apply]

theorem Parses.flagged {p : Parser α} {enc : α → List UInt8} {o : Option α} {flag : Bool}
    (hflag : flag = o.isSome) (h : ∀ a, Parses p (enc a) a) :
    Parses (p.flagged flag) (encodeOpt enc o) o := by
  rw [hflag]
  cases o with
  | none => exact .pure none
  | some a => exact .last (h a)

theorem Parses.bytes {n : Nat} {bs : List UInt8} (h : bs.length = n) :
    Parses (Parser.bytes n) bs bs :=
  fun rest ↦ bytes_append bs rest h

/-! ## Reading a fixed number of bytes -/

/-- `p` reads `n` bytes of any list that has them. -/
def Fixed (p : Parser α) (n : Nat) : Prop :=
  ∀ s : List UInt8, n ≤ s.length → ∃ a, p s = some (a, s.drop n)

theorem Fixed.pure (a : α) : Fixed (Pure.pure a) 0 := fun _ _ ↦ ⟨a, rfl⟩

theorem Fixed.u8 : Fixed Parser.u8 1 := by
  intro s hs
  cases s with
  | nil => simp at hs
  | cons b s => exact ⟨b, rfl⟩

theorem Fixed.bind {p : Parser α} {f : α → Parser β} {n m : Nat}
    (hp : Fixed p n) (hf : ∀ a, Fixed (f a) m) : Fixed (p >>= f) (n + m) := by
  intro s hs
  obtain ⟨a, ha⟩ := hp s (by omega)
  obtain ⟨b, hb⟩ := hf a (s.drop n) (by rw [List.length_drop]; omega)
  refine ⟨b, ?_⟩
  rw [bind_apply, ha, Option.bind_some, hb, List.drop_drop]

theorem Fixed.u16 : Fixed Parser.u16 2 :=
  .bind .u8 fun _ ↦ .bind .u8 fun _ ↦ .pure _

theorem Fixed.bytes (n : Nat) : Fixed (Parser.bytes n) n := fun s hs ↦
  ⟨s.take n, by simp [Parser.bytes, hs]⟩

/-- Any `n` bytes parse to a value, and what follows them does not matter. -/
def Sized (p : Parser α) (n : Nat) : Prop :=
  ∀ bs : List UInt8, bs.length = n → ∃ a, Parses p bs a

theorem Sized.pure (a : α) : Sized (Pure.pure a) 0 := by
  intro bs hbs
  rw [List.length_eq_zero_iff.mp hbs]
  exact ⟨a, Parses.pure a⟩

theorem Sized.u8 : Sized Parser.u8 1 := by
  intro bs hbs
  obtain ⟨b, rfl⟩ := List.length_eq_one_iff.mp hbs
  exact ⟨b, Parses.u8 b⟩

theorem Sized.bind {p : Parser α} {f : α → Parser β} {n m : Nat}
    (hp : Sized p n) (hf : ∀ a, Sized (f a) m) : Sized (p >>= f) (n + m) := by
  intro bs hbs
  obtain ⟨a, ha⟩ := hp (bs.take n) (by rw [List.length_take]; omega)
  obtain ⟨b, hb⟩ := hf a (bs.drop n) (by rw [List.length_drop]; omega)
  have hab := ha.bind hb
  rw [List.take_append_drop] at hab
  exact ⟨b, hab⟩

theorem Sized.u16 : Sized Parser.u16 2 :=
  .bind .u8 fun _ ↦ .bind .u8 fun _ ↦ .pure _

theorem Sized.u32 : Sized Parser.u32 4 :=
  .bind .u8 fun _ ↦ .bind .u8 fun _ ↦ .bind .u8 fun _ ↦ .bind .u8 fun _ ↦ .pure _

theorem Sized.bytes (n : Nat) : Sized (Parser.bytes n) n := fun bs hbs ↦ ⟨bs, Parses.bytes hbs⟩

theorem Sized.fixed {p : Parser α} {n : Nat} (h : Sized p n) : Fixed p n := by
  intro s hs
  obtain ⟨a, ha⟩ := h (s.take n) (by rw [List.length_take]; omega)
  have hrest := ha (s.drop n)
  rw [List.take_append_drop] at hrest
  exact ⟨a, hrest⟩

end Bytes
