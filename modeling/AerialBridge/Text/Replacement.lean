import AerialBridge.Text.Substrings

/-!
# Replacing in a text

Where a text is replaced, what else stands around it is found as before, as long as the texts cannot
overlap.
-/

namespace Text

/-- `t.replace(old, new, 1)`, for a text to replace that is not empty. -/
def replaceFirst (old new : List Char) : List Char → List Char
  | [] => []
  | c :: cs =>
    if old.isPrefixOf (c :: cs) then new ++ (c :: cs).drop old.length
    else c :: replaceFirst old new cs

/-- The rest of a text in which `n` texts are still to be replaced, behind `skip` characters of one
that is. -/
def replaceFrom (old new : List Char) : ℕ → ℕ → List Char → List Char
  | _, _, [] => []
  | skip + 1, n, _ :: cs => replaceFrom old new skip n cs
  | 0, 0, c :: cs => c :: cs
  | 0, n + 1, c :: cs =>
    if old.isPrefixOf (c :: cs) then new ++ replaceFrom old new (old.length - 1) n cs
    else c :: replaceFrom old new 0 (n + 1) cs

/-- `t.replace(old, new, n)`, for a text to replace that is not empty. -/
def replaceUpTo (old new : List Char) (n : ℕ) (t : List Char) : List Char :=
  replaceFrom old new 0 n t

/-! ## Texts that cannot overlap -/

/-- Neither text stands in the other, and no end of one is a beginning of the other. -/
structure Separate (s t : List Char) : Prop where
  notIn : ¬ s <:+: t
  notAround : ¬ t <:+: s
  notBefore : ∀ w ∈ s.tails, w ≠ [] → ¬ w <+: t
  notBehind : ∀ w ∈ t.tails, w ≠ [] → ¬ w <+: s

instance (s t : List Char) : Decidable (Separate s t) :=
  decidable_of_iff (¬ s <:+: t ∧ ¬ t <:+: s ∧ (∀ w ∈ s.tails, w ≠ [] → ¬ w <+: t) ∧
      ∀ w ∈ t.tails, w ≠ [] → ¬ w <+: s)
    ⟨fun h ↦ ⟨h.1, h.2.1, h.2.2.1, h.2.2.2⟩,
      fun h ↦ ⟨h.notIn, h.notAround, h.notBefore, h.notBehind⟩⟩

/-- A character is separate from a text that does not hold it. -/
theorem separate_singleton {s : List Char} {c : Char} (hne : s ≠ []) (hc : c ∉ s) :
    Separate s [c] where
  notIn h := by
    obtain ⟨d, hd⟩ := List.exists_mem_of_ne_nil s hne
    exact hc (List.mem_singleton.mp (h.subset hd) ▸ hd)
  notAround h := hc (h.subset (List.mem_singleton_self c))
  notBefore w hw hwne hpre := by
    obtain ⟨d, hd⟩ := List.exists_mem_of_ne_nil w hwne
    have hds : d ∈ s := ((List.mem_tails w s).mp hw).subset hd
    exact hc (List.mem_singleton.mp (hpre.subset hd) ▸ hds)
  notBehind w hw hwne hpre := by
    obtain ⟨d, hd⟩ := List.exists_mem_of_ne_nil w hwne
    have hdc : d = c := List.mem_singleton.mp (((List.mem_tails w [c]).mp hw).subset hd)
    exact hc (hdc ▸ hpre.subset hd)

namespace Separate

variable {s t : List Char}

theorem symm (h : Separate s t) : Separate t s :=
  ⟨h.notAround, h.notIn, h.notBehind, h.notBefore⟩

theorem ne_nil (h : Separate s t) : s ≠ [] := fun hnil ↦ h.notIn (hnil ▸ List.nil_infix)

/-- No end of the one is read on into the other. -/
theorem not_prefix (h : Separate s t) {w : List Char} (hne : w ≠ []) (hw : w <:+ s)
    (after : List Char) : ¬ w <+: t ++ after := by
  intro hpre
  rcases List.prefix_or_prefix_of_prefix hpre (List.prefix_append t after) with hshort | hlong
  · exact h.notBefore w ((List.mem_tails w s).mpr hw) hne hshort
  · exact h.notAround (hlong.isInfix.trans hw.isInfix)

/-- The one does not begin in the other, and go on behind it. -/
theorem not_begins (h : Separate s t) {w : List Char} (hne : w ≠ []) (hw : w <:+ t)
    (after : List Char) : ¬ s <+: w ++ after := by
  intro hpre
  rcases List.prefix_or_prefix_of_prefix hpre (List.prefix_append w after) with hshort | hlong
  · exact h.notIn (hshort.isInfix.trans hw.isInfix)
  · exact h.notBehind w ((List.mem_tails w t).mpr hw) hne hlong

/-- What begins before the other ends before it. -/
theorem prefix_of_prefix (h : Separate s t) (before : List Char) {after : List Char}
    (hpre : s <+: before ++ (t ++ after)) : s <+: before := by
  rcases List.prefix_or_prefix_of_prefix hpre (List.prefix_append before _) with hshort | ⟨w, rfl⟩
  · exact hshort
  · have hread : w <+: t ++ after := (List.prefix_append_right_inj before).mp hpre
    by_cases hne : w = []
    · rw [hne, List.append_nil]
    · exact absurd hread (h.not_prefix hne (List.suffix_append before w) after)

end Separate

/-! ## Counting around a text -/

section

variable {s t : List Char}

theorem countFrom_drop (before after : List Char) :
    countFrom s before.length (before ++ after) = countFrom s 0 after := by
  induction before with
  | nil => rfl
  | cons c before ih => exact ih

/-- Where nothing that is counted begins, nothing is counted. -/
theorem countFrom_of_not_prefix {after : List Char}
    (h : ∀ w, w ≠ [] → w <:+ t → ¬ s <+: w ++ after) :
    countFrom s 0 (t ++ after) = countFrom s 0 after := by
  induction t with
  | nil => rfl
  | cons c t ih =>
    have hno : ¬ s.isPrefixOf (c :: (t ++ after)) = true := fun hpre ↦
      h (c :: t) (List.cons_ne_nil c t) List.suffix_rfl (List.isPrefixOf_iff_prefix.mp hpre)
    rw [List.cons_append, countFrom, if_neg hno]
    exact ih fun w hne hw ↦ h w hne (hw.trans (List.suffix_cons c t))

/-- What is counted stands before a separate text or behind it. -/
theorem countFrom_separate (h : Separate s t) {skip : Nat} {before : List Char}
    (hskip : skip ≤ before.length) (after : List Char) :
    countFrom s skip (before ++ (t ++ after)) = countFrom s skip before + countFrom s 0 after := by
  induction before generalizing skip with
  | nil =>
    have hzero : skip = 0 := Nat.le_zero.mp hskip
    have hnil : countFrom s 0 [] = 0 := rfl
    rw [hzero, List.nil_append, hnil, Nat.zero_add]
    exact countFrom_of_not_prefix fun w hne hw ↦ h.not_begins hne hw after
  | cons c before ih =>
    rw [List.length_cons] at hskip
    cases skip with
    | succ skip => exact ih (by omega)
    | zero =>
      rw [List.cons_append, countFrom, countFrom]
      by_cases hin : s <+: c :: before
      · have hlen : s.length ≤ before.length + 1 := hin.length_le
        have hlong : s <+: c :: (before ++ (t ++ after)) := hin.trans (List.prefix_append _ _)
        rw [if_pos (List.isPrefixOf_iff_prefix.mpr hin),
          if_pos (List.isPrefixOf_iff_prefix.mpr hlong), ih (by omega), Nat.add_assoc]
      · have hlong : ¬ s <+: c :: (before ++ (t ++ after)) :=
          fun hpre ↦ hin (h.prefix_of_prefix (c :: before) hpre)
        rw [if_neg fun hpre ↦ hin (List.isPrefixOf_iff_prefix.mp hpre),
          if_neg fun hpre ↦ hlong (List.isPrefixOf_iff_prefix.mp hpre), ih (by omega)]

theorem infix_separate (h : Separate s t) (before after : List Char) :
    s <:+: before ++ (t ++ after) ↔ s <:+: before ∨ s <:+: after := by
  rw [← countFrom_pos h.ne_nil, ← countFrom_pos h.ne_nil, ← countFrom_pos h.ne_nil,
    countFrom_separate h (Nat.zero_le _)]
  omega

end

/-! ## Replacing -/

section

variable {old new s t : List Char}

theorem replaceFirst_of_absent (h : ¬ old <:+: t) : replaceFirst old new t = t := by
  induction t with
  | nil => rfl
  | cons c t ih =>
    rw [List.infix_cons_iff, not_or] at h
    rw [replaceFirst, if_neg fun hpre ↦ h.1 (List.isPrefixOf_iff_prefix.mp hpre), ih h.2]

theorem replaceUpTo_of_absent (h : ¬ old <:+: t) (n : ℕ) : replaceUpTo old new n t = t := by
  induction t with
  | nil => rfl
  | cons c t ih =>
    rw [List.infix_cons_iff, not_or] at h
    cases n with
    | zero => rfl
    | succ n =>
      rw [replaceUpTo, replaceFrom, if_neg fun hpre ↦ h.1 (List.isPrefixOf_iff_prefix.mp hpre)]
      exact congrArg (List.cons c) (ih h.2)

theorem replaceFrom_zero (skip : ℕ) (t : List Char) : replaceFrom old new skip 0 t = t.drop skip := by
  induction t generalizing skip with
  | nil => rw [replaceFrom, List.drop_nil]
  | cons c t ih =>
    cases skip with
    | zero => rfl
    | succ skip => exact ih skip

theorem replaceFrom_drop (n : ℕ) (before after : List Char) :
    replaceFrom old new before.length n (before ++ after) = replaceFrom old new 0 n after := by
  induction before with
  | nil => rfl
  | cons c before ih => exact ih

theorem replaceFirst_eq (hne : old ≠ []) (t : List Char) :
    replaceFirst old new t = replaceUpTo old new 1 t := by
  obtain ⟨d, rest, rfl⟩ := List.exists_cons_of_ne_nil hne
  induction t with
  | nil => rfl
  | cons c t ih =>
    rw [replaceFirst, replaceUpTo, replaceFrom, replaceFrom_zero, ih]
    rfl

/-- The texts that are replaced are the first of those that are counted. -/
theorem replaceUpTo_cases (hne : old ≠ []) (new : List Char) (h : old <:+: t) :
    ∃ before after, t = before ++ (old ++ after) ∧
      (∀ n, replaceUpTo old new (n + 1) t = before ++ (new ++ replaceUpTo old new n after)) ∧
      countFrom old 0 before = 0 ∧ countFrom old 0 t = countFrom old 0 after + 1 := by
  induction t with
  | nil => exact absurd (List.infix_nil.mp h) hne
  | cons c t ih =>
    -- the first one is here, or it is the first of the rest
    by_cases hpre : old <+: c :: t
    · have hin := List.isPrefixOf_iff_prefix.mpr hpre
      obtain ⟨after, hafter⟩ := hpre
      obtain ⟨d, old, rfl⟩ := List.exists_cons_of_ne_nil hne
      have ht : t = old ++ after := (List.cons.inj hafter).2.symm
      refine ⟨[], after, hafter.symm, fun n ↦ ?_, rfl, ?_⟩
      · rw [replaceUpTo, replaceFrom, if_pos hin, ht]
        exact congrArg (new ++ ·) (replaceFrom_drop n old after)
      · rw [countFrom, if_pos hin, ht]
        show 1 + countFrom (d :: old) old.length (old ++ after) = _
        rw [countFrom_drop, Nat.add_comm]
    · have hno : ¬ old.isPrefixOf (c :: t) = true := fun hin ↦
        hpre (List.isPrefixOf_iff_prefix.mp hin)
      obtain ⟨before, after, ht, hreplaced, hbefore, hcount⟩ :=
        ih ((List.infix_cons_iff.mp h).resolve_left hpre)
      refine ⟨c :: before, after, congrArg (List.cons c) ht, fun n ↦ ?_, ?_, ?_⟩
      · rw [replaceUpTo, replaceFrom, if_neg hno]
        exact congrArg (List.cons c) (hreplaced n)
      · have hshort : ¬ old.isPrefixOf (c :: before) = true := fun hin ↦ hpre (by
          rw [ht]
          exact (List.isPrefixOf_iff_prefix.mp hin).trans (List.prefix_append (c :: before) _))
        rw [countFrom, if_neg hshort, hbefore]
      · rw [countFrom, if_neg hno, hcount]

theorem replaceFirst_cases (hne : old ≠ []) (new : List Char) (h : old <:+: t) :
    ∃ before after, t = before ++ (old ++ after) ∧
      replaceFirst old new t = before ++ (new ++ after) ∧ countFrom old 0 before = 0 ∧
      countFrom old 0 t = countFrom old 0 after + 1 := by
  obtain ⟨before, after, ht, hreplaced, hcounts⟩ := replaceUpTo_cases hne new h
  refine ⟨before, after, ht, ?_, hcounts⟩
  have hone := hreplaced 0
  rw [replaceUpTo.eq_def old new 0, replaceFrom_zero] at hone
  rw [replaceFirst_eq hne]
  exact hone

/-- What stands before a separate text, and that text, are passed by. -/
theorem replaceFirst_separate (h : Separate old s) (before : List Char)
    (hbefore : ¬ old <:+: before) (after : List Char) :
    replaceFirst old new (before ++ (s ++ after)) =
      before ++ (s ++ replaceFirst old new after) := by
  have hpass : ∀ w, w ≠ [] → w <:+ before ++ s → ¬ old <+: w ++ after := by
    intro w hne hw
    rcases List.suffix_or_suffix_of_suffix hw (List.suffix_append before s) with hin | ⟨u, rfl⟩
    · exact h.not_begins hne hin after
    · have hu : u <:+ before := List.suffix_append_self_iff.mp hw
      rw [List.append_assoc]
      exact fun hpre ↦ hbefore ((h.prefix_of_prefix u hpre).isInfix.trans hu.isInfix)
  rw [← List.append_assoc, ← List.append_assoc]
  generalize before ++ s = passed at hpass
  induction passed with
  | nil => rfl
  | cons c passed ih =>
    have hno : ¬ old.isPrefixOf (c :: (passed ++ after)) = true := fun hpre ↦
      hpass (c :: passed) (List.cons_ne_nil c passed) List.suffix_rfl
        (List.isPrefixOf_iff_prefix.mp hpre)
    rw [List.cons_append, replaceFirst, if_neg hno]
    refine congrArg (List.cons c) (ih fun w hne hw ↦ hpass w hne ?_)
    exact hw.trans (List.suffix_cons c passed)

theorem replaceFirst_passes (h : Separate old s) (after : List Char) :
    replaceFirst old new (s ++ after) = s ++ replaceFirst old new after :=
  replaceFirst_separate h [] (fun hnil ↦ h.ne_nil (List.infix_nil.mp hnil)) after

theorem replaceFirst_here (hne : old ≠ []) (after : List Char) :
    replaceFirst old new (old ++ after) = new ++ after := by
  obtain ⟨d, rest, rfl⟩ := List.exists_cons_of_ne_nil hne
  rw [List.cons_append, replaceFirst, ← List.cons_append,
    if_pos (List.isPrefixOf_iff_prefix.mpr (List.prefix_append _ after)), List.drop_left]

/-- One more of the texts is replaced. -/
theorem replaceFirst_replaceUpTo (h : Separate old new) (n : ℕ) (t : List Char) :
    replaceFirst old new (replaceUpTo old new n t) = replaceUpTo old new (n + 1) t := by
  induction n generalizing t with
  | zero =>
    rw [replaceFirst_eq h.ne_nil, replaceUpTo.eq_def old new 0, replaceFrom_zero, List.drop_zero]
  | succ n ih =>
    by_cases hin : old <:+: t
    · obtain ⟨before, after, _, hreplaced, hbefore, _⟩ := replaceUpTo_cases h.ne_nil new hin
      have hnot : ¬ old <:+: before := by
        rw [← countFrom_pos h.ne_nil, hbefore]
        exact Nat.lt_irrefl 0
      rw [hreplaced, hreplaced, replaceFirst_separate h before hnot, ih]
    · rw [replaceUpTo_of_absent hin, replaceUpTo_of_absent hin, replaceFirst_of_absent hin]

theorem iterate_replaceFirst (h : Separate old new) (n : ℕ) (t : List Char) :
    (replaceFirst old new)^[n] t = replaceUpTo old new n t := by
  induction n with
  | zero => rw [replaceUpTo.eq_def old new 0, replaceFrom_zero]; rfl
  | succ n ih => rw [Function.iterate_succ_apply', ih, replaceFirst_replaceUpTo h]

/-- Each replacement takes one away. -/
theorem countFrom_replaceFirst (h : Separate old new) (t : List Char) :
    countFrom old 0 (replaceFirst old new t) = countFrom old 0 t - 1 := by
  by_cases hin : old <:+: t
  · obtain ⟨before, after, _, hreplaced, hbefore, hcount⟩ := replaceFirst_cases h.ne_nil new hin
    rw [hreplaced, countFrom_separate h (Nat.zero_le _), hbefore, hcount]
    omega
  · have hzero : ¬ 0 < countFrom old 0 t := fun hpos ↦ hin ((countFrom_pos h.ne_nil).mp hpos)
    rw [replaceFirst_of_absent hin]
    omega

/-- What is separate from both texts is found as often as before. -/
theorem countFrom_replaceFirst_other (hold : Separate s old) (hnew : Separate s new)
    (t : List Char) : countFrom s 0 (replaceFirst old new t) = countFrom s 0 t := by
  by_cases hin : old <:+: t
  · obtain ⟨before, after, rfl, hreplaced, _, _⟩ :=
      replaceFirst_cases hold.symm.ne_nil new hin
    rw [hreplaced, countFrom_separate hnew (Nat.zero_le _), countFrom_separate hold (Nat.zero_le _)]
  · rw [replaceFirst_of_absent hin]

theorem infix_replaceFirst_other (hold : Separate s old) (hnew : Separate s new) (t : List Char) :
    s <:+: replaceFirst old new t ↔ s <:+: t := by
  rw [← countFrom_pos hold.ne_nil, countFrom_replaceFirst_other hold hnew, countFrom_pos hold.ne_nil]

theorem infix_replaceFirst (hne : old ≠ []) (h : old <:+: t) : new <:+: replaceFirst old new t := by
  obtain ⟨before, after, _, hreplaced, _, _⟩ := replaceFirst_cases hne new h
  rw [hreplaced]
  exact List.infix_append' before new after

/-- A text that is separate from the one replaced stays. -/
theorem infix_replaceFirst_of_infix (hold : Separate s old) (h : s <:+: t) :
    s <:+: replaceFirst old new t := by
  by_cases hin : old <:+: t
  · obtain ⟨before, after, rfl, hreplaced, _, _⟩ :=
      replaceFirst_cases hold.symm.ne_nil new hin
    rw [hreplaced]
    cases (infix_separate hold before after).mp h with
    | inl hbefore => exact hbefore.trans (List.prefix_append _ _).isInfix
    | inr hafter =>
      exact hafter.trans ((List.suffix_append _ _).trans (List.suffix_append before _)).isInfix
  · rw [replaceFirst_of_absent hin]
    exact h

theorem not_prefix_replaceFirst (hold : Separate old new) (hnew : Separate s new) {t : List Char}
    (h : ¬ s <+: t) : ¬ s <+: replaceFirst old new t := by
  by_cases hin : old <:+: t
  · obtain ⟨before, after, rfl, hreplaced, _, _⟩ := replaceFirst_cases hold.ne_nil new hin
    rw [hreplaced]
    exact fun hpre ↦ h ((hnew.prefix_of_prefix before hpre).trans (List.prefix_append before _))
  · rw [replaceFirst_of_absent hin]
    exact h

/-- Replacements that have nothing to do with each other can be made in either order. -/
theorem replaceFirst_comm {old' new' : List Char} (h : Separate old new) (h' : Separate old' new')
    (holdOld : Separate old old') (holdNew : Separate old new') (hnewOld : Separate new old')
    (t : List Char) :
    replaceFirst old' new' (replaceFirst old new t) =
      replaceFirst old new (replaceFirst old' new' t) := by
  induction t with
  | nil => rfl
  | cons c t ih =>
    -- the one that begins here is passed by when the other is replaced
    by_cases hpre : old <+: c :: t
    · obtain ⟨after, hafter⟩ := hpre
      rw [← hafter, replaceFirst_here h.ne_nil, replaceFirst_passes hnewOld.symm,
        replaceFirst_passes holdOld.symm, replaceFirst_here h.ne_nil]
    · by_cases hpre' : old' <+: c :: t
      · obtain ⟨after, hafter⟩ := hpre'
        rw [← hafter, replaceFirst_here h'.ne_nil, replaceFirst_passes holdNew,
          replaceFirst_passes holdOld, replaceFirst_here h'.ne_nil]
      · have hno := not_prefix_replaceFirst h' holdNew hpre
        have hno' := not_prefix_replaceFirst h hnewOld.symm hpre'
        have hfirst : replaceFirst old new (c :: t) = c :: replaceFirst old new t := by
          rw [replaceFirst, if_neg fun hin ↦ hpre (List.isPrefixOf_iff_prefix.mp hin)]
        have hfirst' : replaceFirst old' new' (c :: t) = c :: replaceFirst old' new' t := by
          rw [replaceFirst, if_neg fun hin ↦ hpre' (List.isPrefixOf_iff_prefix.mp hin)]
        rw [hfirst] at hno' ⊢
        rw [hfirst'] at hno ⊢
        rw [replaceFirst, if_neg fun hin ↦ hno' (List.isPrefixOf_iff_prefix.mp hin),
          replaceFirst, if_neg fun hin ↦ hno (List.isPrefixOf_iff_prefix.mp hin), ih]

end

end Text
