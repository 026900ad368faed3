import AerialBridge.Collections.Edits
import AerialBridge.Text.Replacement

/-!
# Patch scripts

The scripts that change a source file of L1 or of OCUDU before it is built.  An image may be built
on top of one that was built before, so what a script makes of its own output matters.  Two of them
replace what they find, one occurrence in each run; another looks for the marks that it leaves.
-/

namespace AerialBridge

open Text

/-- The lines of a text; the last one has no newline behind it. -/
def block (lines : List String) : List Char := List.intercalate ['\n'] (lines.map String.toList)

/-! ## Replacing what is found -/

/-- A replacement, and what is said when there is nothing to replace. -/
structure Replacement where
  old : List Char
  new : List Char
  error : String

namespace Replacement

/-- `replace_once` of a script that may have been run before. -/
def replaceOnce (r : Replacement) (t : List Char) : Except String (List Char) :=
  if occursIn r.old t then .ok (replaceFirst r.old r.new t)
  else if occursIn r.new t then .ok t
  else .error r.error

/-- What is replaced is there, or what it is replaced with. -/
def Found (r : Replacement) (t : List Char) : Prop := r.old <:+: t ∨ r.new <:+: t

/-- The text after the replacement. -/
def made (t : List Char) (r : Replacement) : List Char := replaceFirst r.old r.new t

/-- Neither replacement has to do with a text of the other. -/
structure Apart (r r' : Replacement) : Prop where
  oldOld : Separate r.old r'.old
  oldNew : Separate r.old r'.new
  newOld : Separate r.new r'.old
  newNew : Separate r.new r'.new

theorem Apart.symm {r r' : Replacement} (h : Apart r r') : Apart r' r :=
  ⟨h.oldOld.symm, h.newOld.symm, h.oldNew.symm, h.newNew.symm⟩

end Replacement

/-- The replacements of a script that do not get into each other's way. -/
structure Compatible (rs : List Replacement) : Prop where
  self : ∀ r ∈ rs, Separate r.old r.new
  apart : rs.Pairwise Replacement.Apart

/-- A script's replacements, one after the other. -/
def patch (rs : List Replacement) (t : List Char) : Except String (List Char) :=
  rs.foldlM (fun t r ↦ r.replaceOnce t) t

section

variable {r : Replacement} {rs : List Replacement}

theorem Replacement.replaceOnce_eq {t : List Char} (h : r.Found t) :
    r.replaceOnce t = .ok (r.made t) := by
  unfold Replacement.replaceOnce
  by_cases hold : r.old <:+: t
  · rw [if_pos (occursIn_iff.mpr hold)]
    rfl
  · have hnew : r.new <:+: t := h.resolve_left hold
    rw [if_neg fun hin ↦ hold (occursIn_iff.mp hin), if_pos (occursIn_iff.mpr hnew)]
    exact congrArg Except.ok (replaceFirst_of_absent hold).symm

theorem Replacement.replaceOnce_error {t : List Char} (h : ¬ r.Found t) :
    r.replaceOnce t = .error r.error := by
  unfold Replacement.replaceOnce
  rw [if_neg fun hold ↦ h (.inl (occursIn_iff.mp hold)),
    if_neg fun hnew ↦ h (.inr (occursIn_iff.mp hnew))]

theorem Compatible.tail (h : Compatible (r :: rs)) : Compatible rs :=
  ⟨fun r' hr' ↦ h.self r' (List.mem_cons_of_mem r hr'), (List.pairwise_cons.mp h.apart).2⟩

theorem Compatible.head (h : Compatible (r :: rs)) {r' : Replacement} (hr' : r' ∈ rs) : r.Apart r' :=
  (List.pairwise_cons.mp h.apart).1 r' hr'

/-- A replacement does not change whether another one is found. -/
theorem Replacement.Apart.found_made {r' : Replacement} (h : r.Apart r') (t : List Char) :
    r'.Found (r.made t) ↔ r'.Found t :=
  or_congr (infix_replaceFirst_other h.oldOld.symm h.newOld.symm t)
    (infix_replaceFirst_other h.oldNew.symm h.newNew.symm t)

/-- A script gets through when all its replacements are found in the text that it is given, and
makes them one after the other. -/
theorem patch_eq_ok_iff (h : Compatible rs) {t t' : List Char} :
    patch rs t = .ok t' ↔ (∀ r ∈ rs, r.Found t) ∧ t' = rs.foldl Replacement.made t :=
  Edits.foldlM_eq_ok_iff (fun _ _ ↦ Replacement.replaceOnce_eq)
    (fun _ r hfound ↦ ⟨r.error, Replacement.replaceOnce_error hfound⟩)
    (h.apart.imp fun hapart ↦ hapart.found_made)

/-- What is separate from all texts of a script stays as often as it is. -/
theorem countFrom_foldl_made {s : List Char}
    (h : ∀ r ∈ rs, Separate s r.old ∧ Separate s r.new) (t : List Char) :
    countFrom s 0 (rs.foldl Replacement.made t) = countFrom s 0 t := by
  induction rs generalizing t with
  | nil => rfl
  | cons r rs ih =>
    obtain ⟨hold, hnew⟩ := h r List.mem_cons_self
    rw [List.foldl_cons, ih fun r' hr' ↦ h r' (List.mem_cons_of_mem r hr')]
    exact countFrom_replaceFirst_other hold hnew t

/-- Each run takes one occurrence of each text away. -/
theorem countFrom_old_foldl_made (h : Compatible rs) {r : Replacement} (hr : r ∈ rs)
    (t : List Char) :
    countFrom r.old 0 (rs.foldl Replacement.made t) = countFrom r.old 0 t - 1 := by
  induction rs generalizing t with
  | nil => cases hr
  | cons r' rs ih =>
    rw [List.foldl_cons]
    cases List.mem_cons.mp hr with
    | inl heq =>
      subst heq
      rw [countFrom_foldl_made fun r' hr' ↦ ⟨(h.head hr').oldOld, (h.head hr').oldNew⟩]
      exact countFrom_replaceFirst (h.self r List.mem_cons_self) t
    | inr hmem =>
      have hapart := (h.head hmem).symm
      rw [ih h.tail hmem]
      exact congrArg (· - 1) (countFrom_replaceFirst_other hapart.oldOld hapart.oldNew t)

/-- What is found is found again when the script has been run. -/
theorem found_foldl_made (h : Compatible rs) {t : List Char} {r : Replacement} (hr : r ∈ rs)
    (hfound : r.Found t) : r.Found (rs.foldl Replacement.made t) := by
  induction rs generalizing t with
  | nil => cases hr
  | cons r' rs ih =>
    rw [List.foldl_cons]
    cases List.mem_cons.mp hr with
    | inl heq =>
      subst heq
      have hself := h.self r List.mem_cons_self
      have hnew : r.new <:+: r.made t := by
        by_cases hold : r.old <:+: t
        · exact infix_replaceFirst hself.ne_nil hold
        · rw [Replacement.made, replaceFirst_of_absent hold]
          exact hfound.resolve_left hold
      have hcount : 0 < countFrom r.new 0 (rs.foldl Replacement.made (r.made t)) := by
        rw [countFrom_foldl_made fun r' hr' ↦ ⟨(h.head hr').newOld, (h.head hr').newNew⟩]
        exact (countFrom_pos hself.symm.ne_nil).mpr hnew
      exact .inr ((countFrom_pos hself.symm.ne_nil).mp hcount)
    | inr hmem => exact ih h.tail hmem (((h.head hmem).found_made t).mpr hfound)

/-- A run changes nothing exactly when there is nothing left to replace. -/
theorem foldl_made_eq_self_iff (h : Compatible rs) {t : List Char} :
    rs.foldl Replacement.made t = t ↔ ∀ r ∈ rs, countFrom r.old 0 t = 0 := by
  constructor
  · intro heq r hr
    have hcount := countFrom_old_foldl_made h hr t
    rw [heq] at hcount
    omega
  · intro hzero
    induction rs with
    | nil => rfl
    | cons r rs ih =>
      have hnot : ¬ r.old <:+: t := by
        have hne := (h.self r List.mem_cons_self).ne_nil
        rw [← countFrom_pos hne, hzero r List.mem_cons_self]
        omega
      rw [List.foldl_cons, Replacement.made, replaceFirst_of_absent hnot]
      exact ih h.tail fun r' hr' ↦ hzero r' (List.mem_cons_of_mem r hr')

theorem Replacement.Apart.commute {r' : Replacement} (hself : Separate r.old r.new)
    (hself' : Separate r'.old r'.new) (h : r.Apart r') :
    Function.Commute (fun t ↦ r.made t) fun t ↦ r'.made t :=
  fun t ↦ (replaceFirst_comm hself hself' h.oldOld h.oldNew h.newOld t).symm

/-- The runs of a script replace one occurrence of each text after the other. -/
theorem iterate_foldl_made (h : Compatible rs) (n : ℕ) (t : List Char) :
    (fun t ↦ rs.foldl Replacement.made t)^[n] t =
      rs.foldl (fun t r ↦ replaceUpTo r.old r.new n t) t := by
  have hcommute := h.apart.imp_of_mem fun hr hr' hapart ↦
    Replacement.Apart.commute (h.self _ hr) (h.self _ hr') hapart
  rw [Edits.iterate_foldl hcommute]
  exact List.foldl_ext _ _ t fun t r hr ↦ iterate_replaceFirst (h.self r hr) n t

end

/-! ## The two scripts -/

/-- A script that replaces what it finds; the path is that of the file it is run on. -/
inductive LineFix
  | standaloneFilename
  | executorQueue (path : String)

namespace LineFix

def launchPatternPath : Replacement where
  old := block
    ["        if(parser_l2pattern.parse_launch_pattern_file(parser_cfg.get_config_filename().c_str()))",
      ""]
  new := block
    ["        if(parser_l2pattern.parse_launch_pattern_file(parser_cfg.get_standalone_filename().c_str()))",
      ""]
  error := "standalone launch pattern path: pattern not found"

def launchPatternLogPath : Replacement where
  old := block
    ["            NVLOGE_FMT(TAG, AERIAL_YAML_PARSER_EVENT, \"Error parsing standalone config file \x7b\x7d\", parser_cfg.get_config_filename().c_str());",
      ""]
  new := block
    ["            NVLOGE_FMT(TAG, AERIAL_YAML_PARSER_EVENT, \"Error parsing standalone config file \x7b\x7d\", parser_cfg.get_standalone_filename().c_str());",
      ""]
  error := "standalone launch pattern log path: pattern not found"

def slotQueue (path : String) : Replacement where
  old := block
    ["    concurrent_queue_params slot_qparams\x7bconcurrent_queue_policy::lockfree_spsc, 4\x7d;", ""]
  new := block
    ["    concurrent_queue_params slot_qparams\x7bconcurrent_queue_policy::lockfree_spsc, 64\x7d;", ""]
  error := "pattern not found in " ++ path

def replacements : LineFix → List Replacement
  | standaloneFilename => [launchPatternPath, launchPatternLogPath]
  | executorQueue path => [slotQueue path]

/-- The lines are told apart by what stands in them; the literals are read as lists once. -/
theorem launchPattern_separate :
    (Separate launchPatternPath.old launchPatternPath.new ∧
      Separate launchPatternLogPath.old launchPatternLogPath.new) ∧
    (Separate launchPatternPath.old launchPatternLogPath.old ∧
      Separate launchPatternPath.old launchPatternLogPath.new) ∧
    Separate launchPatternPath.new launchPatternLogPath.old ∧
      Separate launchPatternPath.new launchPatternLogPath.new := by
  unfold launchPatternPath launchPatternLogPath block
  repeat rw [List.map_cons]
  repeat rw [String.toList_ofList]
  decide +kernel

theorem slotQueue_separate (path : String) :
    Separate (slotQueue path).old (slotQueue path).new := by
  unfold slotQueue block
  repeat rw [List.map_cons]
  repeat rw [String.toList_ofList]
  -- the path is only in the error
  dsimp only
  decide +kernel

theorem compatible (fix : LineFix) : Compatible fix.replacements := by
  cases fix with
  | standaloneFilename =>
    obtain ⟨⟨hpath, hlog⟩, ⟨holdOld, holdNew⟩, hnewOld, hnewNew⟩ := launchPattern_separate
    constructor
    · intro r hr
      rcases List.mem_cons.mp hr with rfl | hr
      · exact hpath
      · rw [List.mem_singleton.mp hr]
        exact hlog
    · exact List.pairwise_pair.mpr ⟨holdOld, holdNew, hnewOld, hnewNew⟩
  | executorQueue path =>
    constructor
    · intro r hr
      rw [List.mem_singleton.mp hr]
      exact slotQueue_separate path
    · exact List.pairwise_singleton _ _

end LineFix

/-- A file in which the first `n` occurrences of each old line are replaced by the new one. -/
def LineFix.after (fix : LineFix) (n : ℕ) (t : List Char) : List Char :=
  fix.replacements.foldl (fun t r ↦ replaceUpTo r.old r.new n t) t

/-- A script gets through exactly when each of its lines is in the file, old or new.  Then it gets
through again and again: the `n`-th run replaces the `n`-th occurrence of each old line, and the
file stays as it is from the run on in which there are no more. -/
theorem lineFix_runs (fix : LineFix) (t : List Char) :
    ((∃ t', patch fix.replacements t = .ok t') ↔
        ∀ r ∈ fix.replacements, r.old <:+: t ∨ r.new <:+: t) ∧
      fix.after 0 t = t ∧
      ((∃ t', patch fix.replacements t = .ok t') → ∀ n,
        patch fix.replacements (fix.after n t) = .ok (fix.after (n + 1) t) ∧
          (∀ r ∈ fix.replacements,
            countFrom r.old 0 (fix.after n t) = countFrom r.old 0 t - n) ∧
          (fix.after (n + 1) t = fix.after n t ↔
            ∀ r ∈ fix.replacements, countFrom r.old 0 t ≤ n)) := by
  have hcompatible := fix.compatible
  -- the file after `n` runs, as the runs make it
  let run (t : List Char) : List Char := fix.replacements.foldl Replacement.made t
  have hafter (n : ℕ) : fix.after n t = run^[n] t := (iterate_foldl_made hcompatible n t).symm
  have hsucc (n : ℕ) : run^[n + 1] t = run (run^[n] t) := Function.iterate_succ_apply' run n t
  refine ⟨?_, hafter 0, ?_⟩
  · constructor
    · rintro ⟨t', ht'⟩
      exact ((patch_eq_ok_iff hcompatible).mp ht').1
    · intro hfound
      exact ⟨_, (patch_eq_ok_iff hcompatible).mpr ⟨hfound, rfl⟩⟩
  · rintro ⟨t', ht'⟩ n
    have hfound := ((patch_eq_ok_iff hcompatible).mp ht').1
    -- what is found once is found in every later run, so all of them get through
    have hfoundRun (n : ℕ) : ∀ r ∈ fix.replacements, r.Found (run^[n] t) := by
      induction n with
      | zero => exact hfound
      | succ n ih =>
        intro r hr
        rw [hsucc]
        exact found_foldl_made hcompatible hr (ih r hr)
    have hcount (n : ℕ) : ∀ r ∈ fix.replacements,
        countFrom r.old 0 (run^[n] t) = countFrom r.old 0 t - n := by
      induction n with
      | zero => exact fun _ _ ↦ rfl
      | succ n ih =>
        intro r hr
        rw [hsucc, countFrom_old_foldl_made hcompatible hr, ih r hr]
        omega
    rw [hafter, hafter, hsucc]
    refine ⟨(patch_eq_ok_iff hcompatible).mpr ⟨hfoundRun n, rfl⟩, hcount n, ?_⟩
    show run (run^[n] t) = _ ↔ _
    rw [foldl_made_eq_self_iff hcompatible]
    refine forall₂_congr fun r hr ↦ ?_
    rw [hcount n r hr]
    omega

end AerialBridge
