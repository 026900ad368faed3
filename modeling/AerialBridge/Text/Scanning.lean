import AerialBridge.Text.Pattern

/-!
# Scanning a text for a pattern

`finditer` reports the matches of a pattern from left to right, none overlapping the one before
it.  A pattern that stays on a line is matched line by line, and one whose leading literal holds a
marker that a line has only once can match that line at one place at most.
-/

namespace Text

/-- The newline-terminated lines of a text. -/
def unlines (lines : List (List Char)) : List Char := lines.flatMap fun l ↦ l ++ ['\n']

@[simp] theorem unlines_nil : unlines [] = [] := rfl

@[simp] theorem unlines_cons (l : List Char) (lines : List (List Char)) :
    unlines (l :: lines) = l ++ '\n' :: unlines lines := by simp [unlines]

/-- A pattern that starts with a literal and stays on one line. -/
structure LineRegex where
  tag : List Char
  body : Pattern
  tag_ne_nil : tag ≠ []
  tag_onLine : '\n' ∉ tag
  body_onLine : body.onLine = true

namespace LineRegex

def pattern (re : LineRegex) : Pattern := .seq (.literal re.tag) re.body

theorem pattern_onLine (re : LineRegex) : re.pattern.onLine = true := by
  simp [pattern, Pattern.onLine, re.tag_onLine, re.body_onLine]

theorem match?_taken {re : LineRegex} {t : List Char} {r : Reading}
    (h : re.pattern.match? t = some r) : r.taken ≠ [] := by
  obtain ⟨r₁, h₁, r₂, _, rfl⟩ := Pattern.mem_readings_seq.mp (List.mem_of_head? h)
  show r₁.taken ++ r₂.taken ≠ []
  rw [(Pattern.mem_readings_literal.mp h₁).2.2]
  exact List.append_ne_nil_of_left_ne_nil re.tag_ne_nil _

theorem match?_tag (re : LineRegex) (t : List Char) :
    re.pattern.match? (re.tag ++ t) =
      (re.body.match? t).map fun r ↦ ⟨r.groups, re.tag ++ r.taken, r.rest⟩ :=
  Pattern.match?_literal_seq re.tag t re.body

theorem match?_none {re : LineRegex} {t : List Char} (h : ¬ re.tag <+: t) :
    re.pattern.match? t = none :=
  Pattern.match?_literal_none re.body h

/-- The groups of the matches in a text whose first `skip` characters are already read. -/
def finditerFrom (re : LineRegex) : (skip : Nat) → List Char → List Groups
  | _, [] => []
  | skip + 1, _ :: cs => re.finditerFrom skip cs
  | 0, c :: cs =>
    match re.pattern.match? (c :: cs) with
    | some r => r.groups :: re.finditerFrom (r.taken.length - 1) cs
    | none => re.finditerFrom 0 cs

/-- The matches in a text, from left to right. -/
def finditer (re : LineRegex) (t : List Char) : List Groups := re.finditerFrom 0 t

/-- The first match in a text. -/
def search (re : LineRegex) (t : List Char) : Option Groups := (re.finditer t).head?

@[simp] theorem finditer_nil (re : LineRegex) : re.finditer [] = [] := rfl

theorem finditerFrom_eq_drop (re : LineRegex) (skip : Nat) (t : List Char) :
    re.finditerFrom skip t = re.finditer (t.drop skip) := by
  induction skip generalizing t with
  | zero => rfl
  | succ skip ih =>
    cases t with
    | nil => rfl
    | cons c cs => exact ih cs

theorem finditer_none {re : LineRegex} {t : List Char} (h : re.pattern.match? t = none) :
    re.finditer t = re.finditer t.tail := by
  cases t with
  | nil => rfl
  | cons c cs =>
    rw [finditer, finditerFrom, h]
    rfl

theorem finditer_some {re : LineRegex} {t : List Char} {r : Reading}
    (h : re.pattern.match? t = some r) :
    re.finditer t = r.groups :: re.finditer r.rest := by
  have hsplit := Pattern.taken_append_rest re.pattern (List.mem_of_head? h)
  cases htaken : r.taken with
  | nil => exact absurd htaken (match?_taken h)
  | cons c taken =>
    rw [htaken, List.cons_append] at hsplit
    subst hsplit
    rw [finditer, finditerFrom, h]
    show r.groups :: re.finditerFrom (r.taken.length - 1) (taken ++ r.rest) = _
    rw [finditerFrom_eq_drop, htaken, List.length_cons, Nat.add_sub_cancel, List.drop_left]

/-! ## Line by line -/

theorem match?_line (re : LineRegex) {line : List Char} (hline : '\n' ∉ line) (t : List Char) :
    re.pattern.match? (line ++ '\n' :: t) =
      (re.pattern.match? line).map (Reading.extend ('\n' :: t)) := by
  rw [Pattern.match?, Pattern.readings_line re.pattern re.pattern_onLine hline, List.head?_map]
  rfl

/-- The matches in a text are those in its first line, then those in the rest. -/
theorem finditer_line (re : LineRegex) {line : List Char} (hline : '\n' ∉ line) (t : List Char) :
    re.finditer (line ++ '\n' :: t) = re.finditer line ++ re.finditer t := by
  -- strong induction on the line, of which a match leaves less
  induction hn : line.length using Nat.strong_induction_on generalizing line with
  | _ n ih =>
    have hext := re.match?_line hline t
    cases line with
    | nil =>
      have hm : re.pattern.match? [] = none :=
        match?_none fun h ↦ re.tag_ne_nil (List.prefix_nil.mp h)
      rw [hm] at hext
      exact finditer_none hext
    | cons c cs =>
      have hcs : '\n' ∉ cs := fun h ↦ hline (List.mem_cons_of_mem c h)
      cases hm : re.pattern.match? (c :: cs) with
      | none =>
        rw [hm] at hext
        rw [finditer_none hm]
        rw [finditer_none hext]
        exact ih cs.length (by simp [← hn]) hcs rfl
      | some r =>
        rw [hm] at hext
        have hsplit := Pattern.taken_append_rest re.pattern (List.mem_of_head? hm)
        have hpos : 0 < r.taken.length := List.length_pos_iff.mpr (match?_taken hm)
        have hrest : '\n' ∉ r.rest := fun h ↦ hline (by
          rw [← hsplit]
          exact List.mem_append_right _ h)
        have hlen : r.rest.length < n := by
          rw [← hn, ← hsplit, List.length_append]
          omega
        rw [finditer_some hext, finditer_some hm]
        exact congrArg _ (ih r.rest.length hlen hrest rfl)

theorem finditer_unlines_append (re : LineRegex) {lines : List (List Char)}
    (h : ∀ l ∈ lines, '\n' ∉ l) (t : List Char) :
    re.finditer (unlines lines ++ t) = lines.flatMap re.finditer ++ re.finditer t := by
  induction lines with
  | nil => rfl
  | cons l lines ih =>
    rw [unlines_cons, List.append_assoc, List.cons_append,
      re.finditer_line (h l List.mem_cons_self), List.flatMap_cons, List.append_assoc,
      ih fun l' hl' ↦ h l' (List.mem_cons_of_mem l hl')]

theorem finditer_unlines (re : LineRegex) {lines : List (List Char)}
    (h : ∀ l ∈ lines, '\n' ∉ l) : re.finditer (unlines lines) = lines.flatMap re.finditer := by
  have happend := re.finditer_unlines_append h []
  rwa [List.append_nil, finditer_nil, List.append_nil] at happend

/-! ## Markers -/

/-- A text without some character of the tag has no match. -/
theorem finditer_of_not_mem {re : LineRegex} {m : Char} (hm : m ∈ re.tag) {t : List Char}
    (ht : m ∉ t) : re.finditer t = [] := by
  induction t with
  | nil => rfl
  | cons c cs ih =>
    rw [finditer_none (match?_none fun h ↦ ht (h.subset hm))]
    exact ih fun h ↦ ht (List.mem_cons_of_mem c h)

/-- A text that does not hold the tag has no match. -/
theorem finditer_of_not_infix {re : LineRegex} {t : List Char} (h : ¬ re.tag <:+: t) :
    re.finditer t = [] := by
  induction t with
  | nil => rfl
  | cons c cs ih =>
    rw [finditer_none (match?_none fun hpre ↦ h hpre.isInfix)]
    exact ih fun hcs ↦ h (hcs.trans (List.suffix_cons c cs).isInfix)

theorem eq_of_prefix_of_marker {m : Char} {s s' a b : List Char} (hs : m ∉ s) (ha : m ∉ a)
    (h : s ++ m :: s' <+: a ++ m :: b) : s = a := by
  induction s generalizing a with
  | nil =>
    cases a with
    | nil => rfl
    | cons c a =>
      have hc : m = c := (List.cons_prefix_cons.mp h).1
      exact absurd (hc ▸ List.mem_cons_self) ha
  | cons d s ih =>
    cases a with
    | nil =>
      have hd : d = m := (List.cons_prefix_cons.mp h).1
      exact absurd (hd ▸ List.mem_cons_self) hs
    | cons c a =>
      have hcons := List.cons_prefix_cons.mp h
      rw [hcons.1, ih (fun hm ↦ hs (List.mem_cons_of_mem d hm))
        (fun hm ↦ ha (List.mem_cons_of_mem c hm)) hcons.2]

section Marker

variable {re : LineRegex} {m : Char} {s s' : List Char} (htag : re.tag = s ++ m :: s') (hs : m ∉ s)

include htag in
theorem match?_marker_rest {b : List Char} (hb : m ∉ b) {r : Reading}
    (h : re.pattern.match? (s ++ m :: b) = some r) : m ∉ r.rest := by
  obtain ⟨r₁, h₁, r₂, h₂, rfl⟩ := Pattern.mem_readings_seq.mp (List.mem_of_head? h)
  have hfront := (Pattern.mem_readings_literal.mp h₁).1
  rw [htag, List.append_assoc, List.cons_append] at hfront
  have hrest : b = s' ++ r₁.rest := by
    simpa using List.append_cancel_left hfront
  have hsplit := Pattern.taken_append_rest re.body h₂
  show m ∉ r₂.rest
  intro hm
  apply hb
  rw [hrest, ← hsplit]
  exact List.mem_append_right _ (List.mem_append_right _ hm)

include htag hs in
/-- Without the characters of the tag before it, the only marker of a text is not matched. -/
theorem finditer_marker_none {a b : List Char} (ha : m ∉ a) (hb : m ∉ b) (h : ¬ s <:+ a) :
    re.finditer (a ++ m :: b) = [] := by
  have hmem : m ∈ re.tag := by simp [htag]
  induction a with
  | nil =>
    have hno : ¬ re.tag <+: [] ++ m :: b := fun hpre ↦ h (by
      rw [htag] at hpre
      rw [eq_of_prefix_of_marker hs List.not_mem_nil hpre])
    rw [finditer_none (match?_none hno)]
    exact finditer_of_not_mem hmem hb
  | cons c a ih =>
    have hno : ¬ re.tag <+: c :: (a ++ m :: b) := fun hpre ↦ h (by
      rw [htag, ← List.cons_append] at hpre
      rw [eq_of_prefix_of_marker hs ha hpre])
    rw [List.cons_append, finditer_none (match?_none hno)]
    exact ih (fun hm ↦ ha (List.mem_cons_of_mem c hm)) fun hsuf ↦
      h (hsuf.trans (List.suffix_cons c a))

include htag hs in
/-- The only marker of a text is matched together with the characters of the tag before it, or not
at all. -/
theorem finditer_marker {a b : List Char} (ha : m ∉ a) (hb : m ∉ b) :
    re.finditer (a ++ (s ++ m :: b)) =
      ((re.pattern.match? (s ++ m :: b)).map Reading.groups).toList := by
  induction a with
  | nil =>
    rw [List.nil_append]
    cases hm : re.pattern.match? (s ++ m :: b) with
    | some r =>
      have hmem : m ∈ re.tag := by simp [htag]
      rw [finditer_some hm, finditer_of_not_mem hmem (match?_marker_rest htag hb hm)]
      rfl
    | none =>
      -- the shorter texts lack the front of the tag
      cases s with
      | nil =>
        rw [finditer_none hm]
        exact finditer_of_not_mem (by simp [htag]) hb
      | cons d s =>
        rw [finditer_none hm]
        exact finditer_marker_none htag hs (fun h ↦ hs (List.mem_cons_of_mem d h)) hb
          fun hsuf ↦ absurd hsuf.length_le (by simp)
  | cons c a ih =>
    have hca : m ∉ (c :: a) ++ s := by simpa [hs] using ha
    have hno : ¬ re.tag <+: c :: (a ++ (s ++ m :: b)) := fun hpre ↦ by
      rw [htag, ← List.append_assoc, ← List.cons_append, ← List.cons_append] at hpre
      have hlen := congrArg List.length (eq_of_prefix_of_marker hs hca hpre)
      rw [List.length_append, List.length_cons] at hlen
      omega
    rw [List.cons_append, finditer_none (match?_none hno)]
    exact ih fun h ↦ ha (List.mem_cons_of_mem c h)

include htag hs in
/-- A text that has the tag, with the tag's marker nowhere else, is matched behind the tag or not
at all. -/
theorem finditer_tagged (hs' : m ∉ s') {a b : List Char} (ha : m ∉ a) (hb : m ∉ b) :
    re.finditer (a ++ (re.tag ++ b)) = ((re.body.match? b).map Reading.groups).toList := by
  have hsplit : re.tag ++ b = s ++ m :: (s' ++ b) := by simp [htag]
  rw [hsplit, finditer_marker htag hs ha (by simp [hs', hb]), ← hsplit, match?_tag]
  cases re.body.match? b <;> rfl

end Marker

end LineRegex

end Text
