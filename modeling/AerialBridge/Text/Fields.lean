import AerialBridge.Text.Numerals
import AerialBridge.Text.Scanning

/-!
# Printed fields and the groups that capture them

A line that alternates fixed text with printed numbers, and the pattern that alternates the same
text with one group for each number: the groups read back the numbers that were printed.
-/

namespace Text

/-- A group that captures a number in base ten or sixteen, and the text it stands behind. -/
structure Capture where
  before : List Char
  name : String
  base : Nat
  deriving DecidableEq

/-- A number that is printed at `width` behind some text, for a group to capture. -/
structure Field extends Capture where
  width : Nat
  value : Nat
  lawful : base = 10 ∨ base = 16

def digitClass (base : Nat) (c : Char) : Bool := if base = 16 then isHexDigit c else c.isDigit

/-- `[0-9a-fA-F]+` for the digits of base sixteen and `\d+` for those of base ten. -/
def Capture.run (c : Capture) : Pattern := .run c.name (digitClass c.base)

/-- The text stops the digits in front of it. -/
def stops : List Char → Bool
  | [] => false
  | c :: _ => !isHexDigit c

namespace Capture

/-- `(?P<name>\d+)` behind a text. -/
def d (before : String) (name : String) : Capture := ⟨before.toList, name, 10⟩

/-- `(?P<name>[0-9a-fA-F]+)` behind a text. -/
def h (before : String) (name : String) : Capture := ⟨before.toList, name, 16⟩

end Capture

namespace Field

/-- `%u` behind a text. -/
def u (before : String) (name : String) (value : Nat) : Field :=
  ⟨⟨before.toList, name, 10⟩, 0, value, Or.inl rfl⟩

/-- `%04x` behind a text. -/
def x (before : String) (name : String) (value : Nat) : Field :=
  ⟨⟨before.toList, name, 16⟩, 4, value, Or.inr rfl⟩

def digits (f : Field) : List Char := numeral f.base f.width f.value

def print (f : Field) : List Char := f.before ++ f.digits

/-- What the group of a field captures when the field is read back. -/
def captured (f : Field) : String × List Char := (f.name, f.digits)

theorem one_lt_base (f : Field) : 1 < f.base := by
  cases f.lawful <;> omega

theorem base_le (f : Field) : f.base ≤ 16 := by
  cases f.lawful <;> omega

theorem digits_ne_nil (f : Field) : f.digits ≠ [] := numeral_ne_nil _ _ _

theorem digits_class (f : Field) : ∀ c ∈ f.digits, digitClass f.base c = true := by
  intro c hc
  by_cases h : f.base = 16
  · rw [digitClass, if_pos h]
    exact isHexDigit_of_mem_numeral f.one_lt_base f.base_le hc
  · have h10 : f.base = 10 := f.lawful.resolve_right h
    rw [digitClass, if_neg h]
    rw [digits, h10] at hc
    exact isDigit_of_mem_numeral hc

theorem ofDigits_digits (f : Field) : ofDigits f.base f.digits = f.value :=
  ofDigits_numeral f.one_lt_base f.base_le _ _

theorem not_mem_print {f : Field} {m : Char} (hbefore : m ∉ f.before)
    (hm : isHexDigit m = false) : m ∉ f.print := by
  rw [print, List.mem_append, not_or]
  exact ⟨hbefore, not_mem_numeral f.one_lt_base f.base_le hm _ _⟩

end Field

theorem digitClass_of_stops {base : Nat} {t : List Char} (h : stops t = true) :
    ∀ c ∈ t.head?, digitClass base c = false := by
  cases t with
  | nil => cases h
  | cons c t =>
    intro d hd
    have hd' : c = d := Option.some.inj hd
    subst hd'
    have hhex : isHexDigit c = false := by simpa [stops] using h
    by_cases hb : base = 16
    · rw [digitClass, if_pos hb, hhex]
    · rw [digitClass, if_neg hb]
      by_contra hne
      rw [isHexDigit_of_isDigit (Bool.eq_true_of_not_eq_false hne)] at hhex
      cases hhex

/-- The fields of a line, one after the other. -/
def printFields (fs : List Field) : List Char := fs.flatMap Field.print

@[simp] theorem printFields_cons (f : Field) (fs : List Field) :
    printFields (f :: fs) = f.before ++ (f.digits ++ printFields fs) := by
  simp [printFields, Field.print]

theorem not_mem_printFields {fs : List Field} {m : Char} (hm : isHexDigit m = false)
    (h : ∀ f ∈ fs, m ∉ f.before) : m ∉ printFields fs := fun hmem ↦ by
  obtain ⟨f, hf, hin⟩ := List.mem_flatMap.mp hmem
  exact Field.not_mem_print (h f hf) hm hin

/-- The character stands in no text of the fields. -/
def lacking (m : Char) (fs : List Field) : Bool := fs.all fun f ↦ !f.before.contains m

theorem not_mem_of_lacking {m : Char} {fs : List Field} (h : lacking m fs = true) :
    ∀ f ∈ fs, m ∉ f.before := by
  intro f hf
  simpa using List.all_eq_true.mp h f hf

/-- The pattern of a list of groups. -/
def captures : List Capture → Pattern
  | [] => .literal []
  | c :: cs => .seq (.literal c.before) (.seq c.run (captures cs))

theorem captures_onLine {cs : List Capture} (h : ∀ c ∈ cs, '\n' ∉ c.before) :
    (captures cs).onLine = true := by
  induction cs with
  | nil => rfl
  | cons c cs ih =>
    have hclass : digitClass c.base '\n' = false := by
      by_cases hb : c.base = 16
      · rw [digitClass, if_pos hb]; decide
      · rw [digitClass, if_neg hb]; decide
    have hbefore := h c List.mem_cons_self
    have hrest := ih fun d hd ↦ h d (List.mem_cons_of_mem c hd)
    simp [captures, Capture.run, Pattern.run, Pattern.onLine, hclass, hbefore, hrest]

/-- Digits are followed by no further digit when a text that stops them, or nothing, is next. -/
theorem printFields_stops {base : Nat} {fs : List Field} (h : ∀ f ∈ fs, stops f.before = true) :
    ∀ c ∈ (printFields fs).head?, digitClass base c = false := by
  cases fs with
  | nil => intro c hc; cases hc
  | cons f fs =>
    have hf := h f List.mem_cons_self
    cases hb : f.before with
    | nil => rw [hb] at hf; cases hf
    | cons d before =>
      rw [hb] at hf
      rw [printFields_cons, hb]
      exact digitClass_of_stops (t := d :: before) hf

/-- The groups read back the printed fields. -/
theorem match?_captures (fs : List Field) (h : ∀ f ∈ fs.tail, stops f.before = true) :
    (captures (fs.map Field.toCapture)).match? (printFields fs) =
      some ⟨fs.map Field.captured, printFields fs, []⟩ := by
  induction fs with
  | nil => rfl
  | cons f fs ih =>
    have hfs : ∀ g ∈ fs, stops g.before = true := h
    have hrest := ih fun g hg ↦ h g (List.mem_of_mem_tail hg)
    have hrun : (Pattern.seq f.run (captures (fs.map Field.toCapture))).match?
        (f.digits ++ printFields fs) =
          some ⟨f.captured :: fs.map Field.captured, f.digits ++ printFields fs, []⟩ :=
      Pattern.match?_run_seq f.name f.digits_ne_nil f.digits_class (printFields_stops hfs) hrest
    rw [List.map_cons, captures, printFields_cons, Pattern.match?_literal_seq, hrun]
    rfl

/-- Digits are not shortened for groups that cannot follow the whole of them. -/
theorem match?_run_captures_none (f : Field) {t : List Char}
    (ht : ∀ c ∈ t.head?, digitClass f.base c = false) {c : Capture} {cs : List Capture}
    (hc : stops c.before = true) (hnone : (captures (c :: cs)).match? t = none) :
    (Pattern.seq f.run (captures (c :: cs))).match? (f.digits ++ t) = none := by
  cases hb : c.before with
  | nil => rw [hb] at hc; cases hc
  | cons d before =>
    rw [hb] at hc
    have hd : digitClass f.base d = false := digitClass_of_stops hc d rfl
    rw [captures, hb] at hnone ⊢
    exact Pattern.match?_run_none f.name f.digits_class ht hd hnone

/-- Behind fields that the groups read back, a text that the next group does not stand behind ends
the match. -/
theorem match?_captures_none (pre : List Field) {fs : List Field} {c : Capture}
    (cs : List Capture)
    (hc : stops c.before = true) (h : ∀ f ∈ (pre ++ fs).tail, stops f.before = true)
    (hne : ¬ c.before <+: printFields fs) :
    (captures (pre.map Field.toCapture ++ c :: cs)).match? (printFields (pre ++ fs)) = none := by
  induction pre with
  | nil => exact Pattern.match?_literal_none _ hne
  | cons f pre ih =>
    have hfs : ∀ g ∈ pre ++ fs, stops g.before = true := h
    have hnone := ih fun g hg ↦ h g (List.mem_of_mem_tail hg)
    have hrun : (Pattern.seq f.run (captures (pre.map Field.toCapture ++ c :: cs))).match?
        (f.digits ++ printFields (pre ++ fs)) = none := by
      cases pre with
      | nil => exact match?_run_captures_none f (printFields_stops hfs) hc hnone
      | cons g pre =>
        exact match?_run_captures_none f (printFields_stops hfs) (hfs g List.mem_cons_self) hnone
    rw [List.map_cons, List.cons_append, captures, List.cons_append, printFields_cons,
      Pattern.match?_literal_seq, hrun]
    rfl

/-! ## Lines and the patterns for them -/

/-- A pattern with a group for each number of a line.  Its leading text ends in a character that no
other text of the pattern holds. -/
structure FieldRegex where
  first : Capture
  rest : List Capture
  first_ne_nil : first.before ≠ []
  rest_stops : ∀ c ∈ rest, stops c.before = true
  onLine : ∀ c ∈ first :: rest, '\n' ∉ c.before
  distinct : ((first :: rest).map Capture.name).Nodup

namespace FieldRegex

def groups (re : FieldRegex) : List Capture := re.first :: re.rest

def regex (re : FieldRegex) : LineRegex where
  tag := re.first.before
  body := .seq re.first.run (captures re.rest)
  tag_ne_nil := re.first_ne_nil
  tag_onLine := re.onLine re.first List.mem_cons_self
  body_onLine := by
    have hall := captures_onLine re.onLine
    simp only [captures, Pattern.onLine, Bool.and_eq_true] at hall
    simpa [Pattern.onLine] using hall.2

/-- What a match captured, each group read as a number in its base. -/
def numbers (re : FieldRegex) (gs : Groups) : List (String × Nat) :=
  re.groups.map fun c ↦ (c.name, ofDigits c.base (gs.group c.name))

/-- The numbers captured by the matches in a text. -/
def findNumbers (re : FieldRegex) (t : List Char) : List (List (String × Nat)) :=
  (re.regex.finditer t).map re.numbers

theorem findNumbers_unlines (re : FieldRegex) {lines : List (List Char)}
    (h : ∀ l ∈ lines, '\n' ∉ l) :
    re.findNumbers (unlines lines) = lines.flatMap re.findNumbers := by
  rw [findNumbers, re.regex.finditer_unlines h, List.map_flatMap]
  rfl

end FieldRegex

/-- The numbers of a line, under the names of the groups that capture them. -/
def fieldNumbers (fs : List Field) : List (String × Nat) := fs.map fun f ↦ (f.name, f.value)

theorem group_captured {fs : List Field} (hdistinct : (fs.map fun f ↦ f.name).Nodup) {f : Field}
    (hf : f ∈ fs) : Groups.group (fs.map Field.captured) f.name = f.digits := by
  induction fs with
  | nil => cases hf
  | cons g fs ih =>
    rw [List.map_cons, List.nodup_cons] at hdistinct
    rw [Groups.group, List.map_cons, Field.captured, List.lookup_cons]
    cases List.mem_cons.mp hf with
    | inl h => simp [h]
    | inr h =>
      have hne : (f.name == g.name) = false := beq_eq_false_iff_ne.mpr fun heq ↦
        hdistinct.1 (heq ▸ List.mem_map_of_mem h)
      rw [hne]
      exact ih hdistinct.2 h

theorem numbers_captured {re : FieldRegex} {fs : List Field}
    (hfs : fs.map Field.toCapture = re.groups) :
    re.numbers (fs.map Field.captured) = fieldNumbers fs := by
  have hdistinct : (fs.map fun f ↦ f.name).Nodup := by
    have h : (re.groups.map Capture.name).Nodup := re.distinct
    rw [← hfs, List.map_map] at h
    exact h
  rw [FieldRegex.numbers, ← hfs, List.map_map]
  apply List.map_congr_left
  intro f hf
  show (f.name, ofDigits f.base (Groups.group (fs.map Field.captured) f.name)) = (f.name, f.value)
  rw [group_captured hdistinct hf, f.ofDigits_digits]

/-- Neither text starts with the other. -/
def clash (s b : List Char) : Bool := !s.isPrefixOf b && !b.isPrefixOf s

theorem not_prefix_append {s b : List Char} (h : clash s b = true) (t : List Char) :
    ¬ s <+: b ++ t := fun hpre ↦ by
  have hne : ¬ s <+: b ∧ ¬ b <+: s := by
    simpa [clash, Bool.and_eq_true, ← List.isPrefixOf_iff_prefix] using h
  exact (List.prefix_or_prefix_of_prefix hpre (List.prefix_append b t)).elim hne.1 hne.2

section Line

variable {re : FieldRegex} {m : Char} {s s' : List Char} (hm : isHexDigit m = false)
  (htag : re.first.before = s ++ m :: s') (hs : m ∉ s) (hs' : m ∉ s') {head : List Char}
  (hhead : m ∉ head)

include hm htag hs hs' hhead in
/-- A line that holds the leading text once is read behind it. -/
theorem findNumbers_tagged {f : Field} {fs : List Field} (hf : f.toCapture = re.first)
    (hfs : ∀ g ∈ fs, m ∉ g.before) :
    re.findNumbers (head ++ printFields (f :: fs)) =
      (((captures re.groups).match? (printFields (f :: fs))).map
        fun r ↦ re.numbers r.groups).toList := by
  have hbody : m ∉ f.digits ++ printFields fs := by
    rw [List.mem_append, not_or]
    exact ⟨not_mem_numeral f.one_lt_base f.base_le hm _ _, not_mem_printFields hm hfs⟩
  have hbefore : f.before = re.first.before := congrArg Capture.before hf
  have hmatch : (captures re.groups).match? (printFields (f :: fs)) =
      (re.regex.body.match? (f.digits ++ printFields fs)).map
        fun r ↦ ⟨r.groups, re.first.before ++ r.taken, r.rest⟩ := by
    rw [printFields_cons, hbefore]
    exact Pattern.match?_literal_seq _ _ _
  have hline : head ++ printFields (f :: fs) =
      head ++ (re.regex.tag ++ (f.digits ++ printFields fs)) := by
    rw [printFields_cons, hbefore]
    rfl
  have htag' : re.regex.tag = s ++ m :: s' := htag
  rw [hmatch, FieldRegex.findNumbers, hline,
    LineRegex.finditer_tagged htag' hs hs' hhead hbody]
  cases re.regex.body.match? (f.digits ++ printFields fs) <;> rfl

include hm htag hs hs' hhead in
/-- The pattern finds the numbers of a line whose fields it has the groups for. -/
theorem findNumbers_own {fs : List Field} (hfs : fs.map Field.toCapture = re.groups)
    (habsent : ∀ f ∈ fs.tail, m ∉ f.before) :
    re.findNumbers (head ++ printFields fs) = [fieldNumbers fs] := by
  cases fs with
  | nil => cases hfs
  | cons f fs =>
    have hstops : ∀ g ∈ fs, stops g.before = true := fun g hg ↦ by
      have hrest : fs.map Field.toCapture = re.rest := (List.cons.inj hfs).2
      exact re.rest_stops _ (hrest ▸ List.mem_map_of_mem hg)
    have hf : f.toCapture = re.first := (List.cons.inj hfs).1
    have hmatch := match?_captures (f :: fs) hstops
    have habsent' : ∀ g ∈ fs, m ∉ g.before := habsent
    rw [hfs] at hmatch
    rw [findNumbers_tagged hm htag hs hs' hhead hf habsent', hmatch]
    exact congrArg (fun n ↦ [n]) (numbers_captured hfs)

include hm htag hs hs' hhead in
/-- The pattern does not find a line that starts as its own do and then goes on differently. -/
theorem findNumbers_differs {f : Field} {pre fs : List Field} {c : Capture} {cs : List Capture}
    (hgroups : re.groups = (f :: pre).map Field.toCapture ++ c :: cs)
    (hstops : ∀ g ∈ pre ++ fs, stops g.before = true)
    (habsent : ∀ g ∈ pre ++ fs, m ∉ g.before) (hne : ¬ c.before <+: printFields fs) :
    re.findNumbers (head ++ printFields (f :: (pre ++ fs))) = [] := by
  have hf : f.toCapture = re.first := (List.cons.inj hgroups).1.symm
  have hc : stops c.before = true := by
    have hrest : re.rest = pre.map Field.toCapture ++ c :: cs := (List.cons.inj hgroups).2
    exact re.rest_stops c (by simp [hrest])
  have hnone := match?_captures_none (f :: pre) cs hc hstops hne
  rw [← hgroups, List.cons_append] at hnone
  rw [findNumbers_tagged hm htag hs hs' hhead hf habsent, hnone]
  rfl

include hm hhead in
/-- The pattern does not find a line without some character of its leading text. -/
theorem findNumbers_absent (hmem : m ∈ re.regex.tag) {fs : List Field}
    (habsent : ∀ f ∈ fs, m ∉ f.before) : re.findNumbers (head ++ printFields fs) = [] := by
  have hline : m ∉ head ++ printFields fs := by
    rw [List.mem_append, not_or]
    exact ⟨hhead, not_mem_printFields hm habsent⟩
  rw [FieldRegex.findNumbers, LineRegex.finditer_of_not_mem hmem hline]
  rfl

include hm htag hs hhead in
/-- The pattern does not find a line that has its marker behind or before a different text. -/
theorem findNumbers_otherTag {f : Field} {fs : List Field} {a b : List Char}
    (hf : f.before = a ++ m :: b) (ha : m ∉ a) (hb : m ∉ b) (habsent : ∀ g ∈ fs, m ∉ g.before)
    (hother : ¬ s <:+ head ++ a ∨ (a = s ∧ ¬ re.first.before <+: printFields (f :: fs))) :
    re.findNumbers (head ++ printFields (f :: fs)) = [] := by
  have hrest : m ∉ b ++ (f.digits ++ printFields fs) := by
    rw [List.mem_append, List.mem_append, not_or, not_or]
    exact ⟨hb, not_mem_numeral f.one_lt_base f.base_le hm _ _, not_mem_printFields hm habsent⟩
  have hprint : printFields (f :: fs) = a ++ m :: (b ++ (f.digits ++ printFields fs)) := by
    rw [printFields_cons, hf, List.append_assoc, List.cons_append]
  have htag' : re.regex.tag = s ++ m :: s' := htag
  have hnone : re.regex.finditer (head ++ printFields (f :: fs)) = [] := by
    rw [hprint]
    cases hother with
    | inl hsuffix =>
      rw [← List.append_assoc]
      exact LineRegex.finditer_marker_none htag' hs (by simp [hhead, ha]) hrest hsuffix
    | inr hstart =>
      have hno : ¬ re.regex.tag <+: s ++ m :: (b ++ (f.digits ++ printFields fs)) := by
        rw [← hstart.1, ← hprint]
        exact hstart.2
      rw [hstart.1, LineRegex.finditer_marker htag' hs hhead hrest, LineRegex.match?_none hno]
      rfl
  rw [FieldRegex.findNumbers, hnone]
  rfl

end Line

end Text
