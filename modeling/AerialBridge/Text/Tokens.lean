import Mathlib.Tactic

/-!
# Words and assignments

Splitting a text at its white space, and a word at its first separator.
-/

namespace Text

/-- The ASCII white space that `str.split` splits at. -/
def isSpace (c : Char) : Bool :=
  c == ' ' || (9 ≤ c.toNat && c.toNat ≤ 13) || (28 ≤ c.toNat && c.toNat ≤ 31)

/-- The words of a text behind `word`, the part of a word read so far. -/
def wordsFrom (word : List Char) : List Char → List (List Char)
  | [] => if word = [] then [] else [word]
  | c :: cs =>
    if isSpace c then (if word = [] then [] else [word]) ++ wordsFrom [] cs
    else wordsFrom (word ++ [c]) cs

/-- `t.split()` of an ASCII text; Python also splits at the white space of other scripts. -/
def words (t : List Char) : List (List Char) := wordsFrom [] t

/-- The characters that `str.splitlines` ends a line at. -/
def isLineBreak (c : Char) : Bool :=
  (10 ≤ c.toNat && c.toNat ≤ 13) || (28 ≤ c.toNat && c.toNat ≤ 30) || c.toNat == 0x85 ||
    c.toNat == 0x2028 || c.toNat == 0x2029

/-- The lines of a text behind `line`, the part of a line read so far. -/
def splitlinesFrom (line : List Char) : List Char → List (List Char)
  | [] => if line = [] then [] else [line]
  | '\r' :: '\n' :: cs => line :: splitlinesFrom [] cs
  | c :: cs =>
    if isLineBreak c then line :: splitlinesFrom [] cs else splitlinesFrom (line ++ [c]) cs

/-- `t.splitlines()`. -/
def splitlines (t : List Char) : List (List Char) := splitlinesFrom [] t

/-- The parts of a text before and behind the first `sep`, as `t.split(sep, 1)` finds them. -/
def splitAt? (sep : Char) : List Char → Option (List Char × List Char)
  | [] => none
  | c :: cs => if c = sep then some ([], cs) else (splitAt? sep cs).map fun p ↦ (c :: p.1, p.2)

theorem isSpace_of_isDigit {c : Char} (h : c.isDigit) : isSpace c = false := by
  have hc : 48 ≤ c.toNat ∧ c.toNat ≤ 57 := by
    simpa [Char.isDigit, Char.le_def, UInt32.le_iff_toNat_le] using h
  have hne : c ≠ ' ' := fun he ↦ by
    rw [he] at h
    exact absurd h (by decide)
  simp only [isSpace, beq_eq_false_iff_ne.mpr hne, Bool.false_or, Bool.or_eq_false_iff,
    Bool.and_eq_false_iff, decide_eq_false_iff_not]
  omega

theorem wordsFrom_append {w : List Char} (hw : ∀ c ∈ w, isSpace c = false) (word t : List Char) :
    wordsFrom word (w ++ t) = wordsFrom (word ++ w) t := by
  induction w generalizing word with
  | nil => simp
  | cons c w ih =>
    have hc : isSpace c = false := hw c List.mem_cons_self
    have hrest : ∀ d ∈ w, isSpace d = false := fun d hd ↦ hw d (List.mem_cons_of_mem c hd)
    rw [List.cons_append, wordsFrom, if_neg (by rw [hc]; decide), ih hrest, List.append_assoc]
    rfl

@[simp] theorem words_space (t : List Char) : words (' ' :: t) = words t := rfl

/-- Words with a space before each are read back. -/
theorem words_flatMap {ws : List (List Char)} (hne : ∀ w ∈ ws, w ≠ [])
    (hws : ∀ w ∈ ws, ∀ c ∈ w, isSpace c = false) :
    words (ws.flatMap fun w ↦ ' ' :: w) = ws := by
  induction ws with
  | nil => rfl
  | cons w ws ih =>
    have hw : w ≠ [] := hne w List.mem_cons_self
    have hrest := ih (fun v hv ↦ hne v (List.mem_cons_of_mem w hv))
      (fun v hv ↦ hws v (List.mem_cons_of_mem w hv))
    rw [List.flatMap_cons, List.cons_append, words_space, words,
      wordsFrom_append (hws w List.mem_cons_self), List.nil_append]
    cases ws with
    | nil => simp [wordsFrom, hw]
    | cons v ws =>
      rw [List.flatMap_cons, List.cons_append, words_space] at hrest
      rw [List.flatMap_cons, List.cons_append, wordsFrom, if_pos (by decide), if_neg hw]
      exact congrArg (List.cons w) hrest

theorem splitAt?_append {sep : Char} {k : List Char} (hk : sep ∉ k) (v : List Char) :
    splitAt? sep (k ++ sep :: v) = some (k, v) := by
  induction k with
  | nil => simp [splitAt?]
  | cons c k ih =>
    have hc : c ≠ sep := fun h ↦ hk (h ▸ List.mem_cons_self)
    rw [List.cons_append, splitAt?, if_neg hc, ih fun h ↦ hk (List.mem_cons_of_mem c h)]
    rfl

end Text
