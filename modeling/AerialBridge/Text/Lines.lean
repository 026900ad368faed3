import AerialBridge.Text.Replacement
import AerialBridge.Text.Tokens

/-!
# The lines of a text

What holds no line break is counted in a text line by line.
-/

namespace Text

section

variable {pattern : List Char} (hne : pattern ≠ []) (hbreak : ∀ c ∈ pattern, isLineBreak c = false)

include hne hbreak

theorem countFrom_break {c : Char} (hc : isLineBreak c = true) (line t : List Char) :
    countFrom pattern 0 (line ++ c :: t) = countFrom pattern 0 line + countFrom pattern 0 t := by
  have hnot : c ∉ pattern := by
    intro hmem
    rw [hbreak c hmem] at hc
    cases hc
  exact countFrom_separate (separate_singleton hne hnot) (Nat.zero_le _) t

theorem countFrom_splitlinesFrom (line t : List Char) :
    countFrom pattern 0 (line ++ t) = ((splitlinesFrom line t).map (countFrom pattern 0)).sum := by
  fun_induction splitlinesFrom line t with
  | case1 => rfl
  | case2 line hline =>
    rw [List.append_nil, List.map_singleton, List.sum_singleton]
  | case3 line cs ih =>
    -- the newline behind the carriage return is no line of its own
    have hnewline : countFrom pattern 0 ('\n' :: cs) = countFrom pattern 0 cs := by
      have h := countFrom_break hne hbreak (by decide : isLineBreak '\n' = true) [] cs
      rwa [List.nil_append, countFrom, Nat.zero_add] at h
    rw [countFrom_break hne hbreak (by decide), hnewline, List.map_cons, List.sum_cons, ← ih,
      List.nil_append]
  | case4 line c cs hpair hc ih =>
    rw [countFrom_break hne hbreak hc, List.map_cons, List.sum_cons, ← ih, List.nil_append]
  | case5 line c cs hpair hc ih =>
    rw [← ih, List.append_assoc, List.singleton_append]

theorem countFrom_splitlines (t : List Char) :
    countFrom pattern 0 t = ((splitlines t).map (countFrom pattern 0)).sum :=
  countFrom_splitlinesFrom hne hbreak [] t

end

end Text
