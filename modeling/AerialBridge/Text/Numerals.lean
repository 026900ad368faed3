import Mathlib.Tactic
import Mathlib.Data.Char

/-!
# Numerals in text

Numbers as a `printf` conversion writes them, in base ten or sixteen and padded with zeros to a
width, and as a reader takes them back.
-/

namespace Text

/-- The digits of `n`, padded on the left with zeros to `width`: `%u` at width 0, `%04x`, `%04d`. -/
def numeral (base width n : Nat) : List Char :=
  List.leftpad width '0' (Nat.toDigits base n)

/-- What `%u` and `%llu` print. -/
abbrev decimal (n : Nat) : List Char := numeral 10 0 n

def isHexDigit (c : Char) : Bool :=
  c.isDigit || ('a' ≤ c && c ≤ 'f') || ('A' ≤ c && c ≤ 'F')

def digitValue (c : Char) : Nat :=
  if c.isDigit then c.toNat - '0'.toNat
  else if 'a' ≤ c ∧ c ≤ 'f' then c.toNat - 'a'.toNat + 10
  else c.toNat - 'A'.toNat + 10

/-- The number a run of digits stands for. -/
def ofDigits (base : Nat) (cs : List Char) : Nat :=
  cs.foldl (fun v c ↦ base * v + digitValue c) 0

/-- Reads the digits left of a decimal number whose value so far is `v`.  A single underscore may
stand between two digits. -/
def readDigits? (v : Nat) : (afterDigit : Bool) → List Char → Option Nat
  | afterDigit, [] => if afterDigit then some v else none
  | afterDigit, c :: cs =>
    if c.isDigit then readDigits? (10 * v + digitValue c) true cs
    else if c = '_' ∧ afterDigit then readDigits? v false cs
    else none

/-- Reads a decimal number with an optional sign, as Python's `int` does an ASCII text without white
space; the digits of other scripts, which `int` takes too, are refused. -/
def readInt? : List Char → Option Int
  | '-' :: cs => (readDigits? 0 false cs).map fun n ↦ -(n : Int)
  | '+' :: cs => (readDigits? 0 false cs).map Int.ofNat
  | cs => (readDigits? 0 false cs).map Int.ofNat

theorem digitValue_digitChar {n : Nat} (h : n < 16) : digitValue n.digitChar = n := by
  interval_cases n <;> decide

theorem isHexDigit_digitChar {n : Nat} (h : n < 16) : isHexDigit n.digitChar = true := by
  interval_cases n <;> decide

theorem digitChar_digitValue {c : Char} (h : c.isDigit) : (digitValue c).digitChar = c := by
  have hc : 48 ≤ c.toNat ∧ c.toNat ≤ 57 := by
    simpa [Char.isDigit, Char.le_def, UInt32.le_iff_toNat_le] using h
  have hv : digitValue c = c.toNat - 48 := if_pos h
  have he : c = Char.ofNat (c.toNat) := (Char.ofNat_toNat c).symm
  rw [hv, he]
  generalize c.toNat = n at hc
  obtain ⟨hlo, hhi⟩ := hc
  interval_cases n <;> decide

theorem digitValue_lt_ten {c : Char} (h : c.isDigit) : digitValue c < 10 := by
  have hc : c.toNat ≤ 57 := by
    have h' : 48 ≤ c.toNat ∧ c.toNat ≤ 57 := by
      simpa [Char.isDigit, Char.le_def, UInt32.le_iff_toNat_le] using h
    exact h'.2
  have hv : digitValue c = c.toNat - 48 := if_pos h
  omega

theorem isHexDigit_of_isDigit {c : Char} (h : c.isDigit) : isHexDigit c = true := by
  simp [isHexDigit, h]

/-! ## The value of a run of digits -/

@[simp] theorem ofDigits_nil (base : Nat) : ofDigits base [] = 0 := rfl

theorem ofDigits_append_singleton (base : Nat) (cs : List Char) (c : Char) :
    ofDigits base (cs ++ [c]) = base * ofDigits base cs + digitValue c := by
  simp [ofDigits]

theorem foldl_digits (base : Nat) (cs : List Char) (v : Nat) :
    cs.foldl (fun v c ↦ base * v + digitValue c) v = base ^ cs.length * v + ofDigits base cs := by
  induction cs generalizing v with
  | nil => simp
  | cons c cs ih =>
    have h : ofDigits base (c :: cs) = base ^ cs.length * digitValue c + ofDigits base cs := by
      show cs.foldl _ (base * 0 + digitValue c) = _
      rw [ih, Nat.mul_zero, Nat.zero_add]
    rw [List.foldl_cons, ih, h, List.length_cons, pow_succ]
    ring

theorem ofDigits_cons (base : Nat) (c : Char) (cs : List Char) :
    ofDigits base (c :: cs) = base ^ cs.length * digitValue c + ofDigits base cs := by
  show cs.foldl _ (base * 0 + digitValue c) = _
  rw [foldl_digits, Nat.mul_zero, Nat.zero_add]

theorem ofDigits_zeros (base n : Nat) (cs : List Char) :
    ofDigits base (List.replicate n '0' ++ cs) = ofDigits base cs := by
  induction n with
  | zero => rfl
  | succ n ih =>
    have hz : digitValue '0' = 0 := by decide
    rw [List.replicate_succ, List.cons_append, ofDigits_cons, hz, Nat.mul_zero, Nat.zero_add, ih]

theorem ofDigits_lt {cs : List Char} (h : ∀ c ∈ cs, c.isDigit) :
    ofDigits 10 cs < 10 ^ cs.length := by
  induction cs with
  | nil => decide
  | cons c cs ih =>
    have hrest := ih fun d hd ↦ h d (List.mem_cons_of_mem c hd)
    have hc := digitValue_lt_ten (h c List.mem_cons_self)
    have hmul : 10 ^ cs.length * (digitValue c + 1) ≤ 10 ^ cs.length * 10 :=
      Nat.mul_le_mul_left _ hc
    rw [ofDigits_cons, List.length_cons, pow_succ]
    rw [Nat.mul_add, Nat.mul_one] at hmul
    omega

theorem ofDigits_toDigits {base : Nat} (hlo : 1 < base) (hhi : base ≤ 16) (n : Nat) :
    ofDigits base (Nat.toDigits base n) = n := by
  induction n using Nat.strong_induction_on with
  | _ n ih =>
    by_cases h : n < base
    · rw [Nat.toDigits_of_lt_base h, ofDigits_cons, digitValue_digitChar (by omega)]
      simp
    · have hmod : n % base < base := Nat.mod_lt n (by omega)
      rw [Nat.toDigits_of_base_le hlo (by omega), ofDigits_append_singleton,
        ih (n / base) (Nat.div_lt_self (by omega) hlo), digitValue_digitChar (by omega)]
      exact Nat.div_add_mod n base

/-! ## Printed numerals -/

theorem numeral_eq (base width n : Nat) :
    numeral base width n =
      List.replicate (width - (Nat.toDigits base n).length) '0' ++ Nat.toDigits base n := rfl

theorem ofDigits_numeral {base : Nat} (hlo : 1 < base) (hhi : base ≤ 16) (width n : Nat) :
    ofDigits base (numeral base width n) = n := by
  rw [numeral_eq, ofDigits_zeros, ofDigits_toDigits hlo hhi]

theorem numeral_ne_nil (base width n : Nat) : numeral base width n ≠ [] := by
  rw [numeral_eq]
  exact List.append_ne_nil_of_right_ne_nil _ Nat.toDigits_ne_nil

theorem isHexDigit_of_mem_toDigits {base n : Nat} {c : Char} (hlo : 1 < base) (hhi : base ≤ 16)
    (hc : c ∈ Nat.toDigits base n) : isHexDigit c = true := by
  induction n using Nat.strong_induction_on with
  | _ n ih =>
    by_cases h : n < base
    · rw [Nat.toDigits_of_lt_base h, List.mem_singleton] at hc
      rw [hc]
      exact isHexDigit_digitChar (by omega)
    · rw [Nat.toDigits_of_base_le hlo (by omega), List.mem_append, List.mem_singleton] at hc
      cases hc with
      | inl hc => exact ih (n / base) (Nat.div_lt_self (by omega) hlo) hc
      | inr hc =>
        have hmod : n % base < base := Nat.mod_lt n (by omega)
        rw [hc]
        exact isHexDigit_digitChar (by omega)

theorem isHexDigit_of_mem_numeral {base width n : Nat} {c : Char} (hlo : 1 < base)
    (hhi : base ≤ 16) (hc : c ∈ numeral base width n) : isHexDigit c = true := by
  rw [numeral_eq, List.mem_append] at hc
  cases hc with
  | inl hc => rw [List.eq_of_mem_replicate hc]; decide
  | inr hc => exact isHexDigit_of_mem_toDigits hlo hhi hc

theorem isDigit_of_mem_numeral {width n : Nat} {c : Char} (hc : c ∈ numeral 10 width n) :
    c.isDigit = true := by
  rw [numeral_eq, List.mem_append] at hc
  cases hc with
  | inl hc => rw [List.eq_of_mem_replicate hc]; decide
  | inr hc => exact Nat.isDigit_of_mem_toDigits (by decide) (by decide) hc

/-- A character that is no digit of either base stands in no numeral. -/
theorem not_mem_numeral {base : Nat} {c : Char} (hlo : 1 < base) (hhi : base ≤ 16)
    (hc : isHexDigit c = false) (width n : Nat) : c ∉ numeral base width n := fun hmem ↦ by
  rw [isHexDigit_of_mem_numeral hlo hhi hmem] at hc
  cases hc

theorem length_numeral {base width n : Nat} (hlo : 1 < base) (hw : 0 < width)
    (hn : n < base ^ width) : (numeral base width n).length = width := by
  have h : (Nat.toDigits base n).length ≤ width := (Nat.length_toDigits_le_iff hlo hw).mpr hn
  rw [numeral_eq, List.length_append, List.length_replicate]
  omega

theorem numeral_succ {base width : Nat} (hlo : 1 < base) (hw : 0 < width) (n : Nat) :
    numeral base (width + 1) n = numeral base width (n / base) ++ [(n % base).digitChar] := by
  simp only [numeral_eq]
  by_cases h : n < base
  · have hzero : List.replicate (width - 1) '0' ++ ['0'] = List.replicate width '0' := by
      rw [← List.replicate_succ', Nat.sub_add_cancel hw]
    rw [Nat.div_eq_of_lt h, Nat.mod_eq_of_lt h, Nat.toDigits_of_lt_base h, Nat.toDigits_zero]
    simp only [List.length_singleton, Nat.add_sub_cancel]
    rw [hzero]
  · rw [Nat.toDigits_of_base_le hlo (by omega), List.length_append, List.length_singleton,
      Nat.add_sub_add_right, List.append_assoc]

/-- Decimal digits are the numeral of their value at their own width. -/
theorem numeral_ofDigits {cs : List Char} (hne : cs ≠ []) (h : ∀ c ∈ cs, c.isDigit) :
    numeral 10 cs.length (ofDigits 10 cs) = cs := by
  induction cs using List.reverseRecOn with
  | nil => exact absurd rfl hne
  | append_singleton cs c ih =>
    have hc : c.isDigit := h c (by simp)
    have hv := digitValue_lt_ten hc
    have hdiv : (10 * ofDigits 10 cs + digitValue c) / 10 = ofDigits 10 cs := by omega
    have hmod : (10 * ofDigits 10 cs + digitValue c) % 10 = digitValue c := by omega
    rw [ofDigits_append_singleton, List.length_append, List.length_singleton]
    by_cases hcs : cs = []
    · subst hcs
      rw [ofDigits_nil, Nat.mul_zero, Nat.zero_add, numeral_eq, Nat.toDigits_of_lt_base hv,
        digitChar_digitValue hc]
      rfl
    · have hpos : 0 < cs.length := List.length_pos_iff.mpr hcs
      rw [numeral_succ (by decide) hpos, hdiv, hmod, digitChar_digitValue hc,
        ih hcs fun d hd ↦ h d (List.mem_append_left _ hd)]

/-! ## Numbers in order -/

theorem lt_of_digitValue_lt {c d : Char} (hc : c.isDigit) (hd : d.isDigit)
    (h : digitValue c < digitValue d) : c < d := by
  have hcv : digitValue c = c.toNat - 48 := if_pos hc
  have hdv : digitValue d = d.toNat - 48 := if_pos hd
  show c.toNat < d.toNat
  omega

/-- Runs of digits of one length are in lexicographic order when their values are in order,
whatever follows them. -/
theorem append_lt_append_of_ofDigits_lt {cs ds : List Char} (hlen : cs.length = ds.length)
    (hcs : ∀ c ∈ cs, c.isDigit) (hds : ∀ d ∈ ds, d.isDigit)
    (h : ofDigits 10 cs < ofDigits 10 ds) (s t : List Char) : cs ++ s < ds ++ t := by
  induction cs generalizing ds with
  | nil =>
    rw [List.length_nil, eq_comm, List.length_eq_zero_iff] at hlen
    subst hlen
    exact absurd h (lt_irrefl _)
  | cons c cs ih =>
    cases ds with
    | nil => cases hlen
    | cons d ds =>
      have hlen' : cs.length = ds.length := Nat.succ.inj hlen
      have hcs' : ∀ e ∈ cs, e.isDigit := fun e he ↦ hcs e (List.mem_cons_of_mem c he)
      have hds' : ∀ e ∈ ds, e.isDigit := fun e he ↦ hds e (List.mem_cons_of_mem d he)
      have hc := hcs c List.mem_cons_self
      have hd := hds d List.mem_cons_self
      rw [ofDigits_cons, ofDigits_cons, hlen'] at h
      rw [List.cons_append, List.cons_append, List.cons_lt_cons_iff]
      by_cases hlt : digitValue c < digitValue d
      · exact Or.inl (lt_of_digitValue_lt hc hd hlt)
      · have hbound := ofDigits_lt hds'
        have heq : digitValue c = digitValue d := by
          -- a larger first digit outweighs whatever digits follow the other one
          by_contra hne
          have hle : digitValue d + 1 ≤ digitValue c := by omega
          have hmul := Nat.mul_le_mul_left (10 ^ ds.length) hle
          rw [Nat.mul_add, Nat.mul_one] at hmul
          omega
        have hchar : c = d := by
          rw [← digitChar_digitValue hc, ← digitChar_digitValue hd, heq]
        rw [heq] at h
        exact Or.inr ⟨hchar, ih hlen' hcs' hds' (by omega)⟩

/-! ## Reading a printed number -/

theorem readDigits?_digits (v : Nat) (b : Bool) {cs : List Char} (h : ∀ c ∈ cs, c.isDigit)
    (hb : cs = [] → b = true) :
    readDigits? v b cs = some (10 ^ cs.length * v + ofDigits 10 cs) := by
  induction cs generalizing v b with
  | nil => simp [readDigits?, hb rfl]
  | cons c cs ih =>
    have hcs : ∀ d ∈ cs, d.isDigit := fun d hd ↦ h d (List.mem_cons_of_mem c hd)
    rw [readDigits?, if_pos (h c List.mem_cons_self), ih _ true hcs fun _ ↦ rfl, ofDigits_cons,
      List.length_cons, pow_succ]
    congr 1
    ring

theorem readInt?_decimal (n : Nat) : readInt? (decimal n) = some (n : Int) := by
  have hdigits : ∀ c ∈ decimal n, c.isDigit := fun c hc ↦ isDigit_of_mem_numeral hc
  have hread : readDigits? 0 false (decimal n) = some n := by
    rw [readDigits?_digits 0 false hdigits fun h ↦ absurd h (numeral_ne_nil 10 0 n),
      Nat.mul_zero, Nat.zero_add, ofDigits_numeral (by decide) (by decide)]
  unfold readInt?
  split
  · exact absurd (hdigits '-' (by simp_all)) (by decide)
  · exact absurd (hdigits '+' (by simp_all)) (by decide)
  · rw [hread]
    rfl

example : numeral 16 4 0x1a2 = "01a2".toList := by decide

end Text
