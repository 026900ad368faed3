import AerialBridge.Bytes.Parser

/-!
# Records one behind the other

A parser that is repeated from the front of a byte list until the list is used up.  Where each record
is either read whole or rejected whatever follows it, the outcome is decided record by record.
-/

namespace Bytes

open Bytes.Parser

variable {α β : Type}

/-- Everything that is left. -/
def Parser.rest : Parser (List UInt8) := fun s ↦ some (s, [])

/-- `p`, over and over from the front, reads the values and ends with the last byte. -/
inductive Reads (p : Parser α) : List UInt8 → List α → Prop
  | nil : Reads p [] []
  | cons {bs rest : List UInt8} {a : α} {as : List α} :
      p bs = some (a, rest) → Reads p rest as → Reads p bs (a :: as)

/-- `p` reads `o` from exactly the bytes `bs`, or rejects them, whatever follows. -/
def Decides (p : Parser α) (bs : List UInt8) (o : Option α) : Prop :=
  ∀ rest, p (bs ++ rest) = o.map fun a ↦ (a, rest)

theorem Decides.parses {p : Parser α} {bs : List UInt8} {a : α} (h : Decides p bs (some a)) :
    Parses p bs a := h

theorem Decides.inside {p : Parser α} {bs : List UInt8} {n : Nat} (hn : bs.length = n) :
    Decides (p.inside n) bs (p.complete bs) := by
  intro rest
  rw [Parser.inside, bind_apply, bytes_append bs rest hn, Option.bind_some]
  cases p.complete bs with
  | none => rfl
  | some a => rfl

/-! ## Repeating a parser -/

theorem Reads.nil_iff {p : Parser α} (hp : p [] = none) {as : List α} :
    Reads p [] as ↔ as = [] := by
  constructor
  · intro h
    cases h with
    | nil => rfl
    | cons hread _ =>
        rw [hp] at hread
        cases hread
  · intro h
    rw [h]
    exact .nil

/-- A decided record in front of the rest. -/
theorem Reads.append_iff {p : Parser α} {bs : List UInt8} {o : Option α} (hne : bs ≠ [])
    (h : Decides p bs o) (s : List UInt8) (as : List α) :
    Reads p (bs ++ s) as ↔ ∃ a as', o = some a ∧ as = a :: as' ∧ Reads p s as' := by
  constructor
  · intro hr
    generalize hbs : bs ++ s = t at hr
    cases hr with
    | nil => exact absurd (List.append_eq_nil_iff.mp hbs).1 hne
    | cons hread hrest =>
        rw [← hbs, h] at hread
        cases o with
        | none => cases hread
        | some b =>
            cases hread
            exact ⟨_, _, rfl, rfl, hrest⟩
  · rintro ⟨a, as', rfl, rfl, hrest⟩
    exact .cons (h s) hrest

/-- Records that are decided one by one are read to the end exactly when none is rejected. -/
theorem reads_flatMap_iff {p : Parser α} (hp : p [] = none) {enc : β → List UInt8}
    {val : β → Option α} (xs : List β) (hne : ∀ x ∈ xs, enc x ≠ [])
    (h : ∀ x ∈ xs, Decides p (enc x) (val x)) (as : List α) :
    Reads p (xs.flatMap enc) as ↔ xs.map val = as.map some := by
  induction xs generalizing as with
  | nil =>
      rw [List.flatMap_nil, Reads.nil_iff hp, List.map_nil, eq_comm (a := [])]
      exact List.map_eq_nil_iff.symm
  | cons x xs ih =>
      have hrest := ih (fun y hy ↦ hne y (List.mem_cons_of_mem x hy))
        (fun y hy ↦ h y (List.mem_cons_of_mem x hy))
      rw [List.flatMap_cons, Reads.append_iff (hne x List.mem_cons_self) (h x List.mem_cons_self),
        List.map_cons]
      constructor
      · rintro ⟨a, as', hval, rfl, hread⟩
        rw [hval, (hrest as').mp hread, List.map_cons]
      · intro heq
        cases as with
        | nil => cases heq
        | cons a as' =>
            injection heq with hval hvals
            exact ⟨a, as', hval, rfl, (hrest as').mpr hvals⟩

theorem exists_reads_flatMap_iff {p : Parser α} (hp : p [] = none) {enc : β → List UInt8}
    {val : β → Option α} (xs : List β) (hne : ∀ x ∈ xs, enc x ≠ [])
    (h : ∀ x ∈ xs, Decides p (enc x) (val x)) :
    (∃ as, Reads p (xs.flatMap enc) as) ↔ ∀ x ∈ xs, (val x).isSome := by
  simp only [reads_flatMap_iff hp xs hne h]
  constructor
  · rintro ⟨as, heq⟩ x hx
    have hmem := List.mem_map_of_mem (f := val) hx
    rw [heq] at hmem
    obtain ⟨a, -, ha⟩ := List.mem_map.mp hmem
    rw [← ha]
    rfl
  · intro hsome
    apply Exists.intro (xs.filterMap val)
    induction xs with
    | nil => rfl
    | cons x xs ih =>
        have hx := hsome x List.mem_cons_self
        obtain ⟨a, ha⟩ := Option.isSome_iff_exists.mp hx
        rw [List.map_cons, List.filterMap_cons, ha, List.map_cons,
          ih (fun y hy ↦ hne y (List.mem_cons_of_mem x hy))
            (fun y hy ↦ h y (List.mem_cons_of_mem x hy))
            (fun y hy ↦ hsome y (List.mem_cons_of_mem x hy))]

end Bytes
