import Mathlib.Tactic

/-!
# Substrings

Whether a text occurs in another, and how often without overlaps.
-/

namespace Text

/-- `pattern in t`. -/
def occursIn (pattern : List Char) : List Char → Bool
  | [] => pattern.isEmpty
  | c :: cs => pattern.isPrefixOf (c :: cs) || occursIn pattern cs

/-- `t.count(pattern)` for a pattern that is not empty, the first `skip` characters being counted
already. -/
def countFrom (pattern : List Char) : (skip : Nat) → List Char → Nat
  | _, [] => 0
  | skip + 1, _ :: cs => countFrom pattern skip cs
  | 0, c :: cs =>
    if pattern.isPrefixOf (c :: cs) then 1 + countFrom pattern (pattern.length - 1) cs
    else countFrom pattern 0 cs

def countSubstring (t : List Char) (pattern : String) : Nat := countFrom pattern.toList 0 t

/-- A nonempty text is counted exactly when it occurs. -/
theorem countFrom_pos {pattern t : List Char} (hne : pattern ≠ []) :
    0 < countFrom pattern 0 t ↔ pattern <:+: t := by
  induction t with
  | nil => simp [countFrom, hne]
  | cons c cs ih =>
    rw [countFrom, List.infix_cons_iff, ← List.isPrefixOf_iff_prefix]
    by_cases h : pattern.isPrefixOf (c :: cs) = true
    · rw [if_pos h]
      exact iff_of_true (by omega) (Or.inl h)
    · rw [if_neg h, ih]
      exact (or_iff_right h).symm

theorem countFrom_of_not_mem {pattern t : List Char} {m : Char} (hm : m ∈ pattern) (ht : m ∉ t) :
    countFrom pattern 0 t = 0 := by
  have hne : pattern ≠ [] := List.ne_nil_of_mem hm
  have hno : ¬ pattern <:+: t := fun h ↦ ht (h.subset hm)
  exact Nat.eq_zero_of_not_pos fun h ↦ hno ((countFrom_pos hne).mp h)

theorem occursIn_iff {pattern t : List Char} : occursIn pattern t = true ↔ pattern <:+: t := by
  induction t with
  | nil => rw [occursIn, List.isEmpty_iff, List.infix_nil]
  | cons c cs ih =>
    rw [occursIn, Bool.or_eq_true, ih, List.infix_cons_iff, List.isPrefixOf_iff_prefix]

/-! ## Substrings of lines -/

theorem prefix_of_prefix_line {s line t : List Char} {sep : Char} (hs : sep ∉ s)
    (h : s <+: line ++ sep :: t) : s <+: line := by
  by_cases hlen : s.length ≤ line.length
  · exact List.prefix_of_prefix_length_le h (List.prefix_append _ _) hlen
  · have hline : line ++ [sep] <+: line ++ sep :: t := ⟨t, by simp⟩
    have hin := List.prefix_of_prefix_length_le hline h (by
      rw [List.length_append, List.length_singleton]; omega)
    exact absurd (hin.subset (by simp)) hs

/-- What holds no newline stands on one line. -/
theorem infix_line {s : List Char} (hs : '\n' ∉ s) (hne : s ≠ []) (line t : List Char) :
    s <:+: line ++ '\n' :: t ↔ s <:+: line ∨ s <:+: t := by
  induction line with
  | nil =>
    have hno : ¬ s <+: [] ++ '\n' :: t := fun h ↦
      hne (List.prefix_nil.mp (prefix_of_prefix_line hs h))
    rw [List.nil_append] at hno ⊢
    rw [List.infix_cons_iff]
    simp [hno, hne]
  | cons c line ih =>
    have hpre : s <+: c :: (line ++ '\n' :: t) ↔ s <+: c :: line :=
      ⟨fun h ↦ prefix_of_prefix_line hs h, fun h ↦ h.trans (List.prefix_append (c :: line) _)⟩
    rw [List.cons_append, List.infix_cons_iff, ih, hpre, List.infix_cons_iff, or_assoc]

end Text
