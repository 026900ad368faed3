import AerialBridge.Text.Substrings

/-!
# Backtracking patterns

Regular expressions with captured groups, read as a backtracking matcher reads them: a pattern has
a list of readings of a text, in the order in which the matcher tries them, and the first one is
the match.
-/

namespace Text

/-- One way a pattern reads the front of a text: the groups it captured, what it took and what it
left. -/
structure Reading where
  groups : List (String × List Char)
  taken : List Char
  rest : List Char
  deriving DecidableEq

/-- The groups of a match, by name and in order. -/
abbrev Groups := List (String × List Char)

/-- What a group captured. -/
def Groups.group (gs : Groups) (name : String) : List Char := (gs.lookup name).getD []

inductive Pattern where
  | literal (s : List Char)
  /-- As many characters of the class as there are, then fewer, within the bounds. -/
  | repeated (cls : Char → Bool) (least : Nat) (most : Option Nat)
  | group (name : String) (p : Pattern)
  | seq (p q : Pattern)
  | alt (p q : Pattern)
  /-- `$`: the end of the text, or a newline that ends it. -/
  | endOfText

namespace Reading

def andThen (r r' : Reading) : Reading :=
  ⟨r.groups ++ r'.groups, r.taken ++ r'.taken, r'.rest⟩

def captureAs (name : String) (r : Reading) : Reading :=
  { r with groups := (name, r.taken) :: r.groups }

/-- The same reading of a text that goes on with `t`. -/
def extend (t : List Char) (r : Reading) : Reading := { r with rest := r.rest ++ t }

@[simp] theorem extend_groups (t : List Char) (r : Reading) : (r.extend t).groups = r.groups := rfl
@[simp] theorem extend_taken (t : List Char) (r : Reading) : (r.extend t).taken = r.taken := rfl
@[simp] theorem extend_rest (t : List Char) (r : Reading) : (r.extend t).rest = r.rest ++ t := rfl

end Reading

namespace Pattern

/-- The patterns of a list one after the other. -/
def concat : List Pattern → Pattern
  | [] => literal []
  | p :: ps => seq p (concat ps)

def text (s : String) : Pattern := literal s.toList

/-- One or more characters of a class, captured. -/
def run (name : String) (cls : Char → Bool) : Pattern := group name (repeated cls 1 none)

/-- The readings of a text, in the order the matcher tries them. -/
def readings : Pattern → List Char → List Reading
  | literal s, t => if s.isPrefixOf t then [⟨[], s, t.drop s.length⟩] else []
  | repeated cls least most, t =>
    let available := (t.takeWhile cls).length
    let longest := most.elim available (min available)
    (List.range (longest + 1 - least)).map fun k ↦
      ⟨[], t.take (longest - k), t.drop (longest - k)⟩
  | group name p, t => (p.readings t).map (Reading.captureAs name)
  | seq p q, t => (p.readings t).flatMap fun r ↦ (q.readings r.rest).map r.andThen
  | alt p q, t => p.readings t ++ q.readings t
  | endOfText, t => if t = [] ∨ t = ['\n'] then [⟨[], [], t⟩] else []

theorem readings_of_literal (s t : List Char) :
    (literal s).readings t = if s.isPrefixOf t then [⟨[], s, t.drop s.length⟩] else [] := rfl

/-- How many characters a repetition takes first. -/
def longest (cls : Char → Bool) (most : Option Nat) (t : List Char) : Nat :=
  most.elim (t.takeWhile cls).length (min (t.takeWhile cls).length)

theorem longest_le (cls : Char → Bool) (most : Option Nat) (t : List Char) :
    longest cls most t ≤ (t.takeWhile cls).length := by
  cases most with
  | none => exact le_rfl
  | some n => exact min_le_left _ _

theorem readings_repeated (cls : Char → Bool) (least : Nat) (most : Option Nat) (t : List Char) :
    (repeated cls least most).readings t =
      (List.range (longest cls most t + 1 - least)).map fun k ↦
        ⟨[], t.take (longest cls most t - k), t.drop (longest cls most t - k)⟩ := rfl

theorem readings_group (name : String) (p : Pattern) (t : List Char) :
    (group name p).readings t = (p.readings t).map (Reading.captureAs name) := rfl

theorem readings_seq (p q : Pattern) (t : List Char) :
    (seq p q).readings t =
      (p.readings t).flatMap fun r ↦ (q.readings r.rest).map r.andThen := rfl

theorem readings_alt (p q : Pattern) (t : List Char) :
    (alt p q).readings t = p.readings t ++ q.readings t := rfl

theorem readings_endOfText (t : List Char) :
    endOfText.readings t = if t = [] ∨ t = ['\n'] then [⟨[], [], t⟩] else [] := rfl

/-- The match at the front of a text. -/
def match? (p : Pattern) (t : List Char) : Option Reading := (p.readings t).head?

theorem mem_readings_seq {p q : Pattern} {t : List Char} {r : Reading} :
    r ∈ (seq p q).readings t ↔
      ∃ r₁ ∈ p.readings t, ∃ r₂ ∈ q.readings r₁.rest, r₁.andThen r₂ = r := by
  simp only [readings_seq, List.mem_flatMap, List.mem_map]

theorem mem_readings_group {name : String} {p : Pattern} {t : List Char} {r : Reading} :
    r ∈ (group name p).readings t ↔ ∃ r₁ ∈ p.readings t, r₁.captureAs name = r := by
  rw [readings_group, List.mem_map]

theorem mem_readings_literal {s t : List Char} {r : Reading} :
    r ∈ (literal s).readings t ↔ t = s ++ r.rest ∧ r.groups = [] ∧ r.taken = s := by
  obtain ⟨gs, taken, rest⟩ := r
  rw [readings_of_literal]
  by_cases h : s <+: t
  · obtain ⟨u, rfl⟩ := h
    rw [if_pos (List.isPrefixOf_iff_prefix.mpr (List.prefix_append s u))]
    simp only [List.mem_singleton, Reading.mk.injEq, List.drop_left, List.append_cancel_left_eq]
    grind
  · rw [if_neg (by rwa [List.isPrefixOf_iff_prefix])]
    simp only [List.not_mem_nil, false_iff, not_and]
    rintro rfl
    exact absurd (List.prefix_append s rest) h

theorem mem_readings_repeated {cls : Char → Bool} {least : Nat} {most : Option Nat} {t : List Char}
    {r : Reading} (h : r ∈ (repeated cls least most).readings t) :
    r.groups = [] ∧ r.taken ++ r.rest = t ∧ (∀ c ∈ r.taken, cls c = true) ∧
      least ≤ r.taken.length ∧ ∀ n ∈ most, r.taken.length ≤ n := by
  rw [readings_repeated, List.mem_map] at h
  obtain ⟨k, hk, rfl⟩ := h
  rw [List.mem_range] at hk
  have hle := longest_le cls most t
  have htake : t.take (t.takeWhile cls).length = t.takeWhile cls :=
    (List.prefix_iff_eq_take.mp (List.takeWhile_prefix cls)).symm
  have hlen : (t.takeWhile cls).length ≤ t.length := (List.takeWhile_prefix cls).length_le
  have hsub : t.take (longest cls most t - k) <+: t.takeWhile cls := by
    rw [← htake]
    exact List.take_prefix_take_left (by omega)
  refine ⟨rfl, List.take_append_drop _ _, fun c hc ↦ ?_, ?_, fun n hn ↦ ?_⟩
  · exact List.all_eq_true.mp List.all_takeWhile c (hsub.subset hc)
  · show least ≤ (t.take (longest cls most t - k)).length
    rw [List.length_take]
    omega
  · have hn' : longest cls most t ≤ n := by
      rw [longest, Option.mem_def.mp hn]
      exact min_le_right _ _
    show (t.take (longest cls most t - k)).length ≤ n
    rw [List.length_take]
    omega

theorem mem_readings_endOfText {t : List Char} {r : Reading} :
    r ∈ endOfText.readings t ↔ (t = [] ∨ t = ['\n']) ∧ r = ⟨[], [], t⟩ := by
  rw [readings_endOfText]
  by_cases hend : t = [] ∨ t = ['\n']
  · rw [if_pos hend, List.mem_singleton, and_iff_right hend]
  · rw [if_neg hend]
    exact ⟨fun h ↦ (List.not_mem_nil h).elim, fun h ↦ absurd h.1 hend⟩

/-- A reading splits the text. -/
theorem taken_append_rest (p : Pattern) {t : List Char} {r : Reading} (h : r ∈ p.readings t) :
    r.taken ++ r.rest = t := by
  induction p generalizing t r with
  | literal s =>
    have hr := mem_readings_literal.mp h
    rw [hr.2.2, hr.1]
  | repeated cls least most => exact (mem_readings_repeated h).2.1
  | group name p ih =>
    obtain ⟨r₁, h₁, rfl⟩ := mem_readings_group.mp h
    show r₁.taken ++ r₁.rest = t
    exact ih h₁
  | seq p q ihp ihq =>
    obtain ⟨r₁, h₁, r₂, h₂, rfl⟩ := mem_readings_seq.mp h
    show (r₁.taken ++ r₂.taken) ++ r₂.rest = t
    rw [List.append_assoc, ihq h₂, ihp h₁]
  | alt p q ihp ihq => exact (List.mem_append.mp h).elim ihp ihq
  | endOfText =>
    rw [(mem_readings_endOfText.mp h).2]
    rfl

/-- The pattern captures nothing. -/
def groupless : Pattern → Bool
  | literal _ => true
  | repeated _ _ _ => true
  | group _ _ => false
  | seq p q => p.groupless && q.groupless
  | alt p q => p.groupless && q.groupless
  | endOfText => true

theorem groups_of_groupless {p : Pattern} (hp : p.groupless = true) {t : List Char} {r : Reading}
    (h : r ∈ p.readings t) : r.groups = [] := by
  induction p generalizing t r with
  | literal s => exact (mem_readings_literal.mp h).2.1
  | repeated cls least most => exact (mem_readings_repeated h).1
  | group name p ih => cases hp
  | seq p q ihp ihq =>
    have hpq : p.groupless = true ∧ q.groupless = true := by simpa [groupless] using hp
    obtain ⟨r₁, h₁, r₂, h₂, rfl⟩ := mem_readings_seq.mp h
    show r₁.groups ++ r₂.groups = []
    rw [ihp hpq.1 h₁, ihq hpq.2 h₂, List.append_nil]
  | alt p q ihp ihq =>
    have hpq : p.groupless = true ∧ q.groupless = true := by simpa [groupless] using hp
    exact (List.mem_append.mp h).elim (ihp hpq.1) (ihq hpq.2)
  | endOfText => rw [(mem_readings_endOfText.mp h).2]

/-- A group around a pattern that captures nothing captures what is taken. -/
theorem groups_of_group {name : String} {p : Pattern} (hp : p.groupless = true) {t : List Char}
    {r : Reading} (h : r ∈ (group name p).readings t) : r.groups = [(name, r.taken)] := by
  obtain ⟨r₁, h₁, rfl⟩ := mem_readings_group.mp h
  show (name, r₁.taken) :: r₁.groups = _
  rw [groups_of_groupless hp h₁]
  rfl

/-! ## Matching from the left -/

theorem match?_seq (p q : Pattern) (t : List Char) :
    (seq p q).match? t =
      (p.readings t).findSome? fun r ↦ (q.match? r.rest).map r.andThen := by
  simp [match?, readings_seq, List.head?_flatMap]

theorem readings_literal (s t : List Char) : (literal s).readings (s ++ t) = [⟨[], s, t⟩] := by
  simp [readings_of_literal]

/-- A literal at the front is read off. -/
theorem match?_literal_seq (s t : List Char) (q : Pattern) :
    (seq (literal s) q).match? (s ++ t) =
      (q.match? t).map fun r ↦ ⟨r.groups, s ++ r.taken, r.rest⟩ := by
  rw [match?_seq, readings_literal]
  simp only [List.findSome?_cons, List.findSome?_nil]
  cases q.match? t <;> rfl

/-- A literal that does not stand at the front leaves no match. -/
theorem match?_literal_none {s t : List Char} (q : Pattern) (h : ¬ s <+: t) :
    (seq (literal s) q).match? t = none := by
  have hm : (literal s).readings t = [] := if_neg (by rwa [List.isPrefixOf_iff_prefix])
  rw [match?_seq, hm]
  rfl

theorem readings_run {cls : Char → Bool} {ds t : List Char} (name : String)
    (hds : ∀ c ∈ ds, cls c = true) (ht : ∀ c ∈ t.head?, cls c = false) :
    (run name cls).readings (ds ++ t) =
      (List.range ds.length).map fun k ↦
        ⟨[(name, ds.take (ds.length - k))], ds.take (ds.length - k),
          ds.drop (ds.length - k) ++ t⟩ := by
  have hrun : (ds ++ t).takeWhile cls = ds := by
    rw [List.takeWhile_append_of_pos hds]
    cases t with
    | nil => simp
    | cons c t => simp [ht c rfl]
  have hlongest : longest cls none (ds ++ t) = ds.length := congrArg List.length hrun
  simp only [run, readings_group, readings_repeated, hlongest, Nat.add_sub_cancel, List.map_map]
  apply List.map_congr_left
  intro k hk
  have hlen : ds.length - k ≤ ds.length := Nat.sub_le _ _
  simp only [Function.comp_apply, Reading.captureAs, List.take_append_of_le_length hlen,
    List.drop_append_of_le_length hlen]

/-- A text that is all of the class is captured whole. -/
theorem match?_run {cls : Char → Bool} {ds : List Char} (name : String) (hne : ds ≠ [])
    (hds : ∀ c ∈ ds, cls c = true) :
    (run name cls).match? ds = some ⟨[(name, ds)], ds, []⟩ := by
  have hread := readings_run (t := []) name hds fun c hc ↦ by cases hc
  rw [List.append_nil] at hread
  obtain ⟨n, hn⟩ := Nat.exists_eq_succ_of_ne_zero (List.length_pos_iff.mpr hne).ne'
  have htake : ds.take (n.succ - 0) = ds := List.take_of_length_le (by omega)
  have hdrop : ds.drop (n.succ - 0) = [] := List.drop_of_length_le (by omega)
  rw [match?, hread, hn, List.range_succ_eq_map, List.map_cons, List.head?_cons, htake, hdrop]
  rfl

/-- A run at the front is captured whole when what follows it can be matched. -/
theorem match?_run_seq {cls : Char → Bool} {ds t : List Char} {q : Pattern} (name : String)
    (hne : ds ≠ []) (hds : ∀ c ∈ ds, cls c = true) (ht : ∀ c ∈ t.head?, cls c = false)
    {r : Reading} (hq : q.match? t = some r) :
    (seq (run name cls) q).match? (ds ++ t) =
      some ⟨(name, ds) :: r.groups, ds ++ r.taken, r.rest⟩ := by
  obtain ⟨n, hn⟩ := Nat.exists_eq_succ_of_ne_zero (List.length_pos_iff.mpr hne).ne'
  rw [match?_seq, readings_run name hds ht, hn, List.range_succ_eq_map, List.map_cons,
    List.findSome?_cons]
  have hdrop : ds.drop (n.succ - 0) = [] := List.drop_of_length_le (by omega)
  have htake : ds.take (n.succ - 0) = ds := List.take_of_length_le (by omega)
  rw [hdrop, htake, List.nil_append, hq]
  rfl

/-- A run at the front is not shortened to match what follows it, when that starts with a character
outside the run's class. -/
theorem match?_run_none {cls : Char → Bool} {ds t s : List Char} {q : Pattern} (name : String)
    (hds : ∀ c ∈ ds, cls c = true) (ht : ∀ c ∈ t.head?, cls c = false) {c : Char}
    (hc : cls c = false) (hq : (seq (literal (c :: s)) q).match? t = none) :
    (seq (run name cls) (seq (literal (c :: s)) q)).match? (ds ++ t) = none := by
  rw [match?_seq, readings_run name hds ht, List.findSome?_eq_none_iff]
  intro r hr
  obtain ⟨k, hk, rfl⟩ := List.mem_map.mp hr
  rw [Option.map_eq_none_iff]
  cases hrest : ds.drop (ds.length - k) with
  | nil => exact hq
  | cons d rest =>
    apply match?_literal_none
    rintro ⟨u, hu⟩
    have hd : d ∈ ds := List.mem_of_mem_drop (hrest ▸ List.mem_cons_self)
    have hcd : c = d := by simpa using congrArg List.head? hu
    rw [← hcd] at hd
    exact absurd (hds c hd) (by rw [hc]; decide)

/-! ## Patterns that stay on a line -/

/-- The pattern reads no newline and does not look for the end of the text. -/
def onLine : Pattern → Bool
  | literal s => !s.contains '\n'
  | repeated cls _ _ => !cls '\n'
  | group _ p => p.onLine
  | seq p q => p.onLine && q.onLine
  | alt p q => p.onLine && q.onLine
  | endOfText => false

/-- Such a pattern reads a line the same way whatever follows the newline. -/
theorem readings_line (p : Pattern) (hp : p.onLine = true) {line : List Char} (hline : '\n' ∉ line)
    (t : List Char) :
    p.readings (line ++ '\n' :: t) = (p.readings line).map (Reading.extend ('\n' :: t)) := by
  induction p generalizing line with
  | literal s =>
    have hs : '\n' ∉ s := by simpa [onLine] using hp
    by_cases h : s <+: line
    · obtain ⟨u, rfl⟩ := h
      rw [List.append_assoc, readings_literal, readings_literal]
      rfl
    · have h' : ¬ s <+: line ++ '\n' :: t := fun hpre ↦ h (prefix_of_prefix_line hs hpre)
      rw [readings_of_literal, readings_of_literal, if_neg (by rwa [List.isPrefixOf_iff_prefix]),
        if_neg (by rwa [List.isPrefixOf_iff_prefix])]
      rfl
  | repeated cls least most =>
    have hcls : cls '\n' = false := by simpa [onLine] using hp
    -- the newline ends the run, also where the run is the whole line
    have hrun : (line ++ '\n' :: t).takeWhile cls = line.takeWhile cls := by
      rw [List.takeWhile_append]
      split
      · rename_i hall
        simp only [List.takeWhile_cons, hcls, Bool.false_eq_true, if_false, List.append_nil]
        exact (List.IsPrefix.eq_of_length (List.takeWhile_prefix cls) hall).symm
      · rfl
    have hlongest : longest cls most (line ++ '\n' :: t) = longest cls most line := by
      rw [longest, hrun, longest]
    simp only [readings_repeated, hlongest, List.map_map]
    apply List.map_congr_left
    intro k _
    have hle : longest cls most line - k ≤ line.length := by
      have h₁ : (line.takeWhile cls).length ≤ line.length := (List.takeWhile_prefix cls).length_le
      have h₂ := longest_le cls most line
      omega
    simp only [Function.comp_apply, Reading.extend, List.take_append_of_le_length hle,
      List.drop_append_of_le_length hle]
  | group name p ih =>
    rw [readings_group, readings_group, ih hp hline, List.map_map, List.map_map]
    rfl
  | seq p q ihp ihq =>
    have hpq : p.onLine = true ∧ q.onLine = true := by simpa [onLine] using hp
    rw [readings_seq, readings_seq, ihp hpq.1 hline, List.flatMap_map, List.map_flatMap]
    apply List.flatMap_congr
    intro r hr
    have hrest : '\n' ∉ r.rest := fun h ↦ hline (by
      rw [← taken_append_rest p hr]
      exact List.mem_append_right _ h)
    rw [Reading.extend_rest, ihq hpq.2 hrest, List.map_map, List.map_map]
    rfl
  | alt p q ihp ihq =>
    have hpq : p.onLine = true ∧ q.onLine = true := by simpa [onLine] using hp
    rw [readings_alt, readings_alt, ihp hpq.1 hline, ihq hpq.2 hline, List.map_append]
  | endOfText => cases hp

end Pattern

end Text
