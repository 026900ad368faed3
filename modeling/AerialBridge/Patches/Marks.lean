import AerialBridge.Patches.Scripts

/-!
# Marked replacements

`nvipc_host_pinning_fix.py` leaves a mark with each of its replacements and makes none that has left
its mark before.  The marks stand where the replacements cannot reach them, so a second run changes
nothing.
-/

namespace AerialBridge

open Text

/-- A replacement, the mark that it leaves, and what is said when there is nothing to replace. -/
structure MarkedReplacement where
  marker : List Char
  old : List Char
  new : List Char
  error : String

namespace MarkedReplacement

/-- `replace_once`, unless the mark is there. -/
def replaceOnce (r : MarkedReplacement) (t : List Char) : Except String (List Char) :=
  if occursIn r.marker t then .ok t
  else if occursIn r.old t then .ok (replaceFirst r.old r.new t)
  else .error r.error

/-- The mark is there, or what is replaced. -/
def Found (r : MarkedReplacement) (t : List Char) : Prop := r.marker <:+: t ∨ r.old <:+: t

/-- The text after the replacement. -/
def made (t : List Char) (r : MarkedReplacement) : List Char :=
  if occursIn r.marker t then t else replaceFirst r.old r.new t

/-- A replacement that is made before another has nothing to do with what the other looks for, and
the other does not remove its mark. -/
structure Before (r r' : MarkedReplacement) : Prop where
  kept : Separate r.marker r'.old
  markerOld : Separate r'.marker r.old
  markerNew : Separate r'.marker r.new
  oldOld : Separate r'.old r.old
  oldNew : Separate r'.old r.new

end MarkedReplacement

/-- The replacements of a script that leave their marks and do not get into each other's way. -/
structure LeavesMarks (rs : List MarkedReplacement) : Prop where
  old_ne_nil : ∀ r ∈ rs, r.old ≠ []
  marked : ∀ r ∈ rs, r.marker <:+: r.new
  before : rs.Pairwise MarkedReplacement.Before

/-- A script's replacements, one after the other. -/
def patchMarked (rs : List MarkedReplacement) (t : List Char) : Except String (List Char) :=
  rs.foldlM (fun t r ↦ r.replaceOnce t) t

section

variable {r : MarkedReplacement} {rs : List MarkedReplacement}

theorem MarkedReplacement.replaceOnce_eq {t : List Char} (h : r.Found t) :
    r.replaceOnce t = .ok (r.made t) := by
  unfold MarkedReplacement.replaceOnce MarkedReplacement.made
  by_cases hmarker : occursIn r.marker t = true
  · rw [if_pos hmarker, if_pos hmarker]
  · have hold : r.old <:+: t := h.resolve_left fun hin ↦ hmarker (occursIn_iff.mpr hin)
    rw [if_neg hmarker, if_neg hmarker, if_pos (occursIn_iff.mpr hold)]

theorem MarkedReplacement.replaceOnce_error {t : List Char} (h : ¬ r.Found t) :
    r.replaceOnce t = .error r.error := by
  unfold MarkedReplacement.replaceOnce
  rw [if_neg fun hmarker ↦ h (.inl (occursIn_iff.mp hmarker)),
    if_neg fun hold ↦ h (.inr (occursIn_iff.mp hold))]

theorem LeavesMarks.tail (h : LeavesMarks (r :: rs)) : LeavesMarks rs :=
  ⟨fun r' hr' ↦ h.old_ne_nil r' (List.mem_cons_of_mem r hr'),
    fun r' hr' ↦ h.marked r' (List.mem_cons_of_mem r hr'), (List.pairwise_cons.mp h.before).2⟩

theorem LeavesMarks.head (h : LeavesMarks (r :: rs)) {r' : MarkedReplacement} (hr' : r' ∈ rs) :
    r.Before r' :=
  (List.pairwise_cons.mp h.before).1 r' hr'

/-- What a later replacement looks for is found as before. -/
theorem MarkedReplacement.Before.found_made {r' : MarkedReplacement} (h : r.Before r')
    (t : List Char) : r'.Found (r.made t) ↔ r'.Found t := by
  unfold MarkedReplacement.made
  by_cases hmarker : occursIn r.marker t = true
  · rw [if_pos hmarker]
  · rw [if_neg hmarker]
    exact or_congr (infix_replaceFirst_other h.markerOld h.markerNew t)
      (infix_replaceFirst_other h.oldOld h.oldNew t)

theorem MarkedReplacement.marker_made (hne : r.old ≠ []) (hmarked : r.marker <:+: r.new)
    {t : List Char} (h : r.Found t) : r.marker <:+: r.made t := by
  unfold MarkedReplacement.made
  by_cases hmarker : occursIn r.marker t = true
  · rw [if_pos hmarker]
    exact occursIn_iff.mp hmarker
  · have hold : r.old <:+: t := h.resolve_left fun hin ↦ hmarker (occursIn_iff.mpr hin)
    rw [if_neg hmarker]
    exact hmarked.trans (infix_replaceFirst hne hold)

/-- A mark outlasts the replacements behind its own. -/
theorem marker_foldl_made {marker : List Char} (h : ∀ r ∈ rs, Separate marker r.old) {t : List Char}
    (ht : marker <:+: t) : marker <:+: rs.foldl MarkedReplacement.made t := by
  induction rs generalizing t with
  | nil => exact ht
  | cons r rs ih =>
    refine ih (fun r' hr' ↦ h r' (List.mem_cons_of_mem r hr')) ?_
    unfold MarkedReplacement.made
    by_cases hmarker : occursIn r.marker t = true
    · rwa [if_pos hmarker]
    · rw [if_neg hmarker]
      exact infix_replaceFirst_of_infix (h r List.mem_cons_self) ht

theorem patchMarked_eq_ok_iff (h : LeavesMarks rs) {t t' : List Char} :
    patchMarked rs t = .ok t' ↔
      (∀ r ∈ rs, r.Found t) ∧ t' = rs.foldl MarkedReplacement.made t :=
  Edits.foldlM_eq_ok_iff (fun _ _ ↦ MarkedReplacement.replaceOnce_eq)
    (fun _ r hfound ↦ ⟨r.error, MarkedReplacement.replaceOnce_error hfound⟩)
    (h.before.imp fun hbefore ↦ hbefore.found_made)

/-- Every replacement of a script has left its mark at the end. -/
theorem marks_foldl_made (h : LeavesMarks rs) {t : List Char} (hfound : ∀ r ∈ rs, r.Found t) :
    ∀ r ∈ rs, r.marker <:+: rs.foldl MarkedReplacement.made t := by
  induction rs generalizing t with
  | nil => intro r hr; cases hr
  | cons r rs ih =>
    intro r' hr'
    rw [List.foldl_cons]
    cases List.mem_cons.mp hr' with
    | inl heq =>
      subst heq
      have hmade := MarkedReplacement.marker_made (h.old_ne_nil r' List.mem_cons_self)
        (h.marked r' List.mem_cons_self) (hfound r' List.mem_cons_self)
      exact marker_foldl_made (fun r hr ↦ (h.head hr).kept) hmade
    | inr hmem =>
      refine ih h.tail (fun r'' hr'' ↦ ?_) r' hmem
      exact ((h.head hr'').found_made t).mpr (hfound r'' (List.mem_cons_of_mem r hr''))

/-- With all marks there, nothing is replaced. -/
theorem foldl_made_of_marks {t : List Char} (h : ∀ r ∈ rs, r.marker <:+: t) :
    rs.foldl MarkedReplacement.made t = t := by
  induction rs with
  | nil => rfl
  | cons r rs ih =>
    have hmade : r.made t = t := if_pos (occursIn_iff.mpr (h r List.mem_cons_self))
    rw [List.foldl_cons, hmade]
    exact ih fun r' hr' ↦ h r' (List.mem_cons_of_mem r hr')

end

/-! ## Host page locking -/

def stdlibInclude : MarkedReplacement where
  marker := "#include <stdlib.h>".toList
  old := block
    ["#include <stdio.h>",
     "#include <string.h>",
     "#include <sys/mman.h>",
     ""]
  new := block
    ["#include <stdio.h>",
     "#include <stdlib.h>",
     "#include <string.h>",
     "#include <sys/mman.h>",
     ""]
  error := "pattern not found for stdlib include"

def hostRegister : MarkedReplacement where
  marker := "continuing without host page lock".toList
  old := block
    ["    int flag = cudaHostRegisterPortable | cudaHostRegisterMapped;",
     "    if(cudaHostRegister(phost, size, flag) != cudaSuccess)",
     "    \x7b",
     "        checkLastCudaError();",
     "        NVLOGE_NO_FMT(TAG, AERIAL_CUDA_API_EVENT, \"\x7b\x7d: cudaHostRegister failed\", __func__);",
     "        return -1;",
     "    \x7d",
     "    else",
     "    \x7b",
     "        NVLOGI_FMT(TAG, \"\x7b\x7d: OK\", __func__);",
     "        return 0;",
     "    \x7d"]
  new := block
    ["    int flag = cudaHostRegisterPortable | cudaHostRegisterMapped;",
     "    cudaError_t err = cudaHostRegister(phost, size, flag);",
     "    if(err != cudaSuccess)",
     "    \x7b",
     "        checkLastCudaError();",
     "        const char* skip_nic_reg = getenv(\"AERIAL_SKIP_NIC_REG\");",
     "        const bool tolerate_failure = (skip_nic_reg != NULL) && (strcmp(skip_nic_reg, \"0\") != 0);",
     "        if(tolerate_failure && (err == cudaErrorInvalidValue || err == cudaErrorNotSupported))",
     "        \x7b",
     "            fprintf(stderr, \"WARNING: nvIPC cudaHostRegister failed; continuing without host page lock.\\n\");",
     "            return 0;",
     "        \x7d",
     "        NVLOGE_NO_FMT(TAG, AERIAL_CUDA_API_EVENT, \"\x7b\x7d: cudaHostRegister failed\", __func__);",
     "        return -1;",
     "    \x7d",
     "    else",
     "    \x7b",
     "        NVLOGI_FMT(TAG, \"\x7b\x7d: OK\", __func__);",
     "        return 0;",
     "    \x7d"]
  error := "pattern not found for cudaHostRegister fallback"

def hostUnregister : MarkedReplacement where
  marker := "host page lock was skipped earlier".toList
  old := block
    ["    if(cudaHostUnregister(phost) != cudaSuccess)",
     "    \x7b",
     "        checkLastCudaError();",
     "        NVLOGE_NO_FMT(TAG, AERIAL_CUDA_API_EVENT, \"\x7b\x7d: cudaHostUnregister failed\", __func__);",
     "        return -1;",
     "    \x7d",
     "    else",
     "    \x7b",
     "        NVLOGI_FMT(TAG, \"\x7b\x7d: OK\", __func__);",
     "        return 0;",
     "    \x7d"]
  new := block
    ["    cudaError_t err = cudaHostUnregister(phost);",
     "    if(err != cudaSuccess)",
     "    \x7b",
     "        checkLastCudaError();",
     "        const char* skip_nic_reg = getenv(\"AERIAL_SKIP_NIC_REG\");",
     "        const bool tolerate_failure = (skip_nic_reg != NULL) && (strcmp(skip_nic_reg, \"0\") != 0);",
     "        if(tolerate_failure && (err == cudaErrorHostMemoryNotRegistered || err == cudaErrorInvalidValue))",
     "        \x7b",
     "            fprintf(stderr, \"WARNING: nvIPC cudaHostUnregister skipped because host page lock was skipped earlier.\\n\");",
     "            return 0;",
     "        \x7d",
     "        NVLOGE_NO_FMT(TAG, AERIAL_CUDA_API_EVENT, \"\x7b\x7d: cudaHostUnregister failed\", __func__);",
     "        return -1;",
     "    \x7d",
     "    else",
     "    \x7b",
     "        NVLOGI_FMT(TAG, \"\x7b\x7d: OK\", __func__);",
     "        return 0;",
     "    \x7d"]
  error := "pattern not found for cudaHostUnregister fallback"

def hostPinningFix : List MarkedReplacement := [stdlibInclude, hostRegister, hostUnregister]

/-! The texts are compared as lists of characters, and each literal is read as one first. -/

theorem before_hostRegister : stdlibInclude.Before hostRegister := by
  constructor <;>
  · unfold stdlibInclude hostRegister block
    repeat rw [List.map_cons]
    repeat rw [String.toList_ofList]
    decide +kernel

theorem before_hostUnregister : stdlibInclude.Before hostUnregister := by
  constructor <;>
  · unfold stdlibInclude hostUnregister block
    repeat rw [List.map_cons]
    repeat rw [String.toList_ofList]
    decide +kernel

theorem hostRegister_before : hostRegister.Before hostUnregister := by
  constructor <;>
  · unfold hostRegister hostUnregister block
    repeat rw [List.map_cons]
    repeat rw [String.toList_ofList]
    decide +kernel

theorem stdlibInclude_marked : stdlibInclude.marker <:+: stdlibInclude.new := by
  unfold stdlibInclude block
  repeat rw [List.map_cons]
  repeat rw [String.toList_ofList]
  decide +kernel

theorem hostRegister_marked : hostRegister.marker <:+: hostRegister.new := by
  unfold hostRegister block
  repeat rw [List.map_cons]
  repeat rw [String.toList_ofList]
  decide +kernel

theorem hostUnregister_marked : hostUnregister.marker <:+: hostUnregister.new := by
  unfold hostUnregister block
  repeat rw [List.map_cons]
  repeat rw [String.toList_ofList]
  decide +kernel

theorem hostPinningFix_leavesMarks : LeavesMarks hostPinningFix where
  old_ne_nil r hr := by
    rcases List.mem_cons.mp hr with rfl | hr
    · exact before_hostRegister.oldOld.symm.ne_nil
    · rcases List.mem_cons.mp hr with rfl | hr
      · exact before_hostRegister.oldOld.ne_nil
      · rw [List.mem_singleton.mp hr]
        exact before_hostUnregister.oldOld.ne_nil
  marked r hr := by
    rcases List.mem_cons.mp hr with rfl | hr
    · exact stdlibInclude_marked
    · rcases List.mem_cons.mp hr with rfl | hr
      · exact hostRegister_marked
      · rw [List.mem_singleton.mp hr]
        exact hostUnregister_marked
  before := by
    refine List.pairwise_cons.mpr ⟨fun r hr ↦ ?_, List.pairwise_pair.mpr hostRegister_before⟩
    rcases List.mem_cons.mp hr with rfl | hr
    · exact before_hostRegister
    · rw [List.mem_singleton.mp hr]
      exact before_hostUnregister

/-- The script gets through exactly when, for each of its replacements, the file has the mark or the
text to replace.  Then the marks are all there, and running it again leaves the file as it is. -/
theorem hostPinningFix_fixed (t : List Char) :
    ((∃ t', patchMarked hostPinningFix t = .ok t') ↔
        ∀ r ∈ hostPinningFix, r.marker <:+: t ∨ r.old <:+: t) ∧
      ∀ t', patchMarked hostPinningFix t = .ok t' →
        (∀ r ∈ hostPinningFix, r.marker <:+: t') ∧ patchMarked hostPinningFix t' = .ok t' := by
  have hiff {t t' : List Char} : patchMarked hostPinningFix t = .ok t' ↔ _ :=
    patchMarked_eq_ok_iff hostPinningFix_leavesMarks
  refine ⟨⟨fun ⟨_, ht'⟩ ↦ (hiff.mp ht').1, fun hfound ↦ ⟨_, hiff.mpr ⟨hfound, rfl⟩⟩⟩, ?_⟩
  intro t' ht'
  obtain ⟨hfound, rfl⟩ := hiff.mp ht'
  have hmarks := marks_foldl_made hostPinningFix_leavesMarks hfound
  refine ⟨hmarks, hiff.mpr ⟨fun r hr ↦ .inl (hmarks r hr), ?_⟩⟩
  exact (foldl_made_of_marks hmarks).symm

end AerialBridge
