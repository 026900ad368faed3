import AerialBridge.Report.UlLogs

/-!
# The uplink verdict on coherent runs

The verdict compares capped samples.  PUSCH and PUCCH PDUs share the counter of the serialize lines,
which stops at 64, and the counter of the UCI lines, of which the report takes the first 16.  So a
PUCCH PDU between the 17th and the 64th uplink PDU has a serialize line, and no UCI line that the
report looks at.
-/

namespace AerialBridge

open Sampling Transition

/-- The key in a PUCCH PDU's serialize line, with the HARQ bit count for the HARQ process. -/
def PucchGrant.key (g : PucchGrant) : Nat × Nat × Nat × Nat :=
  (g.slot.sfn.toNat, g.slot.slot.toNat, g.pdu.rnti.toNat, g.harqBits.toNat)

/-- The scheduled PDUs have pairwise distinct keys. -/
structure DistinctKeys (gs : List UlGrant) : Prop where
  puschs : ((AerialBridge.puschs gs).map PuschGrant.key).Nodup
  pucchs : ((AerialBridge.pucchs gs).map PucchGrant.key).Nodup

/-- The number of a place in the schedule at the counter of the serialize lines, and at that of the
UCI lines. -/
def ulNumber (i : Nat) : UInt32 := UInt32.ofNat (i + 1)

/-- What is printed of the schedule on one side stays within the caps of the other side. -/
structure WithinCaps (gs : List UlGrant) : Prop where
  /-- A PUSCH PDU is scheduled. -/
  somePusch : puschs gs ≠ []
  /-- The PUSCH PDUs do not wrap the counter of the CRC lines. -/
  fewPuschs : (puschs gs).length < 2 ^ 32
  /-- L1 prints every PUSCH PDU that the bridge prints. -/
  parsed : ∀ i g, gs[i]? = some (.pusch g) → ulNumber i ≤ 64 → g ∈ (puschs gs).take 128
  /-- The last PUCCH PDU that the bridge prints for a slot and RNTI is numbered up to 16. -/
  answered : ∀ i g, gs[i]? = some (.pucch g) → ulNumber i ≤ 64 →
    (∀ j g', i < j → gs[j]? = some (.pucch g') → ulNumber j ≤ 64 →
      g'.scheduleKey ≠ g.scheduleKey) → ulNumber i ≤ 16

/-! ## The comparisons -/

/-- A sample has neither missing keys nor mismatches when its entries are entries of the other. -/
theorem within_iff {K V : Type} [DecidableEq K] [DecidableEq V] {d e : Dict K V} :
    missingKeys d e = 0 ∧ mismatches d e = 0 ↔ d.Within e := by
  rw [missingKeys, Finset.card_eq_zero, Finset.sdiff_eq_empty_iff_subset, mismatches,
    List.length_eq_zero_iff, List.filter_eq_nil_iff]
  constructor
  · intro h k v hget
    have hkey : k ∈ e.keys :=
      List.mem_toFinset.mp (h.1 (List.mem_toFinset.mpr (d.mem_keys_iff.mpr ⟨v, hget⟩)))
    obtain ⟨w, hw⟩ := e.mem_keys_iff.mp hkey
    have hsame := h.2 (k, v) (d.mem_entries_iff.mpr hget)
    simpa [Dict.contains, hw] using hsame
  · intro h
    apply And.intro
    · intro k hk
      obtain ⟨v, hv⟩ := d.mem_keys_iff.mp (List.mem_toFinset.mp hk)
      exact List.mem_toFinset.mpr (e.mem_keys_iff.mpr ⟨v, h k v hv⟩)
    · intro entry hentry
      have hget := h entry.1 entry.2 (d.mem_entries_iff.mp hentry)
      simp [hget]

theorem statusMark_pass {ok : Bool} : statusMark ok = "PASS" ↔ ok = true := by
  cases ok <;> decide

theorem statusMark_fail {ok : Bool} (h : statusMark ok ≠ "PASS") : statusMark ok = "FAIL" := by
  cases ok with
  | false => rfl
  | true => exact absurd rfl h

section Run

variable {es : List UlEvent} (h : Answered es) (gnbLog : List Char)

include h

/-- The counts match, whatever budget the shutdown leaves. -/
theorem puschCountExact_run : (runLogs gnbLog es).puschCountExact = true := by
  have hsum := summarises_run gnbLog es
  have hbudget : 0 ≤ (runLogs gnbLog es).ulShutdownTailBudget := by
    rw [IntegrationLogs.ulShutdownTailBudget]
    split
    · exact Int.zero_le_ofNat 2
    · exact Int.zero_le_ofNat 1
  have hcrc : (runLogs gnbLog es).puschCrcDelta = 0 := by
    rw [IntegrationLogs.puschCrcDelta, hsum.bridgeUlPuschPdus, hsum.crcTotal,
      runMetrics_ulPuschPdus, runMetrics_crcTotal h, Int.sub_self]
  have huci : (runLogs gnbLog es).puschUciDelta = 0 := by
    rw [IntegrationLogs.puschUciDelta, hsum.bridgeUlPuschPdus, hsum.uciPuschTotal,
      runMetrics_ulPuschPdus, runMetrics_uciPusch h, Int.sub_self]
  rw [IntegrationLogs.puschCountExact, hcrc, huci, decide_eq_true_iff]
  exact ⟨Int.le_refl 0, hbudget, Int.le_refl 0, hbudget⟩

theorem pucchCountExact_run : (runLogs gnbLog es).pucchCountExact = true := by
  have hsum := summarises_run gnbLog es
  rw [IntegrationLogs.pucchCountExact, hsum.bridgeUlPucchPdus, hsum.uciPucch01Total,
    hsum.uciPucch234Total, runMetrics_ulPucchPdus, runMetrics_uciPucch01 h, runMetrics_uciPucch234,
    decide_eq_true_iff]
  show _ = _ + 0
  rw [Int.add_zero]

theorem ulStructuralSanity_run :
    (runLogs gnbLog es).ulStructuralSanity = true ↔
      (puschs (schedule es)).length % 2 ^ 64 ≠ 0 ∧
        (runLogs gnbLog es).sampleBridgePusch.Within (runLogs gnbLog es).sampleL1Pusch ∧
        (runLogs gnbLog es).sampleBridgeCrc = (runLogs gnbLog es).sampleL1Crc ∧
        (runLogs gnbLog es).sampleBridgePucch.Within (runLogs gnbLog es).sampleBridgePucch01 := by
  have hpdus : (runLogs gnbLog es).bridgeUlPuschPdus > 0 ↔
      (puschs (schedule es)).length % 2 ^ 64 ≠ 0 := by
    rw [(summarises_run gnbLog es).bridgeUlPuschPdus, runMetrics_ulPuschPdus, UInt64.toNat_ofNat']
    omega
  have hcrc : (runLogs gnbLog es).crcMismatch = 0 := countSubstring_logText (by decide)
  have huci : (runLogs gnbLog es).uciMismatch = 0 := countSubstring_logText (by decide)
  have hsets : (runLogs gnbLog es).sampleCrcMissingInBridge = 0 ∧
      (runLogs gnbLog es).sampleCrcMissingInL1 = 0 ↔
        (runLogs gnbLog es).sampleBridgeCrc = (runLogs gnbLog es).sampleL1Crc := by
    rw [IntegrationLogs.sampleCrcMissingInBridge, IntegrationLogs.sampleCrcMissingInL1,
      Finset.card_eq_zero, Finset.card_eq_zero, Finset.sdiff_eq_empty_iff_subset,
      Finset.sdiff_eq_empty_iff_subset]
    exact and_comm.trans Finset.Subset.antisymm_iff.symm
  rw [← hpdus, ← within_iff, ← hsets, ← within_iff, IntegrationLogs.ulStructuralSanity,
    puschCountExact_run h, pucchCountExact_run h, hcrc, huci]
  simp only [Bool.and_eq_true, decide_eq_true_eq, beq_iff_eq, Bool.and_true, beq_self_eq_true]
  constructor
  · rintro ⟨⟨⟨⟨⟨⟨hpos, hmissing⟩, hshape⟩, hbridge⟩, hl1⟩, huciMissing⟩, hfields⟩
    exact ⟨hpos, ⟨hmissing, hshape⟩, ⟨hbridge, hl1⟩, huciMissing, hfields⟩
  · rintro ⟨hpos, ⟨hmissing, hshape⟩, ⟨hbridge, hl1⟩, huciMissing, hfields⟩
    exact ⟨⟨⟨⟨⟨⟨hpos, hmissing⟩, hshape⟩, hbridge⟩, hl1⟩, huciMissing⟩, hfields⟩

end Run

/-! ## The samples -/

section Samples

variable {gs : List UlGrant}

theorem loggedPusch_sublist (gs : List UlGrant) : (loggedPusch gs).Sublist (puschs gs) := by
  have hsub := (sampleFrom_sublist (shouldLogLimited 64) 0 gs).filterMap UlGrant.pusch?
  rw [List.filterMap_map] at hsub
  exact hsub

theorem mem_loggedUl {seq : UInt32} {g : UlGrant} :
    (seq, g) ∈ loggedUl gs ↔ ∃ i, gs[i]? = some g ∧ seq = ulNumber i ∧ seq ≤ 64 := by
  rw [loggedUl, shouldLogLimited, mem_sampleFrom_counting]
  simp only [UInt32.zero_add, decide_eq_true_eq, ulNumber]

theorem mem_loggedPusch {g : PuschGrant} :
    g ∈ loggedPusch gs ↔ ∃ i, gs[i]? = some (.pusch g) ∧ ulNumber i ≤ 64 := by
  rw [loggedPusch, List.mem_filterMap]
  constructor
  · rintro ⟨⟨seq, g'⟩, hmem, hg⟩
    cases g' with
    | pusch g' =>
      cases hg
      obtain ⟨i, hi, rfl, hle⟩ := mem_loggedUl.mp hmem
      exact ⟨i, hi, hle⟩
    | pucch g' => cases hg
  · rintro ⟨i, hi, hle⟩
    exact ⟨(ulNumber i, .pusch g), mem_loggedUl.mpr ⟨i, hi, rfl, hle⟩, rfl⟩

/-- What is logged behind a place of the schedule. -/
theorem mem_loggedUl_after {i : Nat} {seq : UInt32} {g : UlGrant} :
    (seq, g) ∈ sampleFrom (shouldLogLimited 64) (ulNumber i) (gs.drop (i + 1)) ↔
      ∃ j, i < j ∧ gs[j]? = some g ∧ seq = ulNumber j ∧ seq ≤ 64 := by
  have hnumber : ∀ k, ulNumber i + UInt32.ofNat (k + 1) = ulNumber (i + 1 + k) := by
    intro k
    rw [ulNumber, ulNumber, ← UInt32.ofNat_add]
    congr 1
  rw [shouldLogLimited, mem_sampleFrom_counting]
  simp only [hnumber, decide_eq_true_eq, List.getElem?_drop]
  constructor
  · rintro ⟨k, hk, hseq, hle⟩
    exact ⟨i + 1 + k, by omega, hk, hseq, hle⟩
  · rintro ⟨j, hij, hj, hseq, hle⟩
    obtain ⟨k, rfl⟩ := Nat.exists_eq_add_of_le (Nat.succ_le_of_lt hij)
    exact ⟨k, hj, hseq, hle⟩

/-- The last logged PUCCH PDU of a slot and RNTI, by its place in the schedule. -/
theorem lastOf_loggedPucch {p : UInt32 × PucchGrant} :
    Dict.LastOf (fun p ↦ p.2.scheduleKey) (loggedPucch gs) p ↔
      ∃ i, gs[i]? = some (.pucch p.2) ∧ p.1 = ulNumber i ∧ p.1 ≤ 64 ∧
        ∀ j g, i < j → gs[j]? = some (.pucch g) → ulNumber j ≤ 64 →
          g.scheduleKey ≠ p.2.scheduleKey := by
  rw [loggedPucch, Dict.lastOf_filterMap]
  constructor
  · rintro ⟨before, ⟨seq, g⟩, after, hsplit, hp, hafter⟩
    cases g with
    | pusch g => cases hp
    | pucch g =>
      cases hp
      obtain ⟨i, hi, hseq, hle, rfl⟩ := sampleFrom_split.mp ⟨before, hsplit⟩
      rw [UInt32.zero_add] at hseq
      have hseq' : seq = ulNumber i := hseq
      subst hseq'
      refine ⟨i, hi, rfl, of_decide_eq_true hle, fun j g' hij hj hjle ↦ ?_⟩
      exact hafter (ulNumber j, .pucch g') (mem_loggedUl_after.mpr ⟨j, hij, hj, rfl, hjle⟩)
        (ulNumber j, g') rfl
  · rintro ⟨i, hi, hseq, hle, hlast⟩
    have hlogged : ∃ before, loggedUl gs = before ++ (p.1, .pucch p.2) ::
        sampleFrom (shouldLogLimited 64) p.1 (gs.drop (i + 1)) :=
      sampleFrom_split.mpr ⟨i, hi, hseq.trans (UInt32.zero_add _).symm, decide_eq_true hle, rfl⟩
    obtain ⟨before, hsplit⟩ := hlogged
    -- behind the line of this PDU stand the lines of the PDUs behind it that the cap admits
    refine ⟨before, (p.1, .pucch p.2), _, hsplit, rfl, fun z hz w hw ↦ ?_⟩
    obtain ⟨seq, g⟩ := z
    cases g with
    | pusch g => cases hw
    | pucch g =>
      cases hw
      rw [hseq] at hz
      obtain ⟨j, hij, hj, rfl, hjle⟩ := mem_loggedUl_after.mp hz
      exact hlast j g hij hj hjle

theorem index_of_loggedPucch {p : UInt32 × PucchGrant} (h : p ∈ loggedPucch gs) :
    ∃ i, gs[i]? = some (.pucch p.2) ∧ p.1 = ulNumber i := by
  obtain ⟨⟨seq, g⟩, hmem, hp⟩ := List.mem_filterMap.mp h
  cases g with
  | pusch g => cases hp
  | pucch g =>
    cases hp
    obtain ⟨i, hi, hseq, _⟩ := mem_loggedUl.mp hmem
    exact ⟨i, hi, hseq⟩

/-- A key stands in one place of the schedule. -/
theorem pucch_index_unique {K : Type} {key : PucchGrant → K} (h : ((pucchs gs).map key).Nodup)
    {i j : Nat} {g g' : PucchGrant} (hi : gs[i]? = some (.pucch g))
    (hj : gs[j]? = some (.pucch g')) (hkey : key g = key g') : i = j := by
  rw [List.Nodup, List.pairwise_map, pucchs, List.pairwise_filterMap,
    List.pairwise_iff_getElem] at h
  obtain ⟨hilt, hi⟩ := List.getElem?_eq_some_iff.mp hi
  obtain ⟨hjlt, hj⟩ := List.getElem?_eq_some_iff.mp hj
  have hne : ∀ a b (ha : a < gs.length) (hb : b < gs.length) (x y : PucchGrant), a < b →
      gs[a] = .pucch x → gs[b] = .pucch y → key x ≠ key y := by
    intro a b ha hb x y hab hx hy
    exact h a b ha hb hab x (by rw [hx]; rfl) y (by rw [hy]; rfl)
  by_contra hij
  cases Nat.lt_or_gt_of_ne hij with
  | inl hlt => exact hne i j hilt hjlt g g' hlt hi hj hkey
  | inr hgt => exact hne j i hjlt hilt g' g hgt hj hi hkey.symm

/-- Logged PUCCH PDUs with the same schedule key and fields have the same number. -/
theorem loggedPucch_same (h : DistinctKeys gs) {p q : UInt32 × PucchGrant}
    (hp : p ∈ loggedPucch gs) (hq : q ∈ loggedPucch gs)
    (hkey : p.2.scheduleKey = q.2.scheduleKey) (hfields : p.2.fields = q.2.fields) :
    p.1 = q.1 := by
  obtain ⟨i, hi, hpi⟩ := index_of_loggedPucch hp
  obtain ⟨j, hj, hqj⟩ := index_of_loggedPucch hq
  have hsame : p.2.key = q.2.key := by
    simp only [PucchGrant.scheduleKey, PucchGrant.fields, Prod.mk.injEq] at hkey hfields
    simp only [PucchGrant.key, Prod.mk.injEq]
    exact ⟨hkey.1, hkey.2.1, hkey.2.2, hfields.2.1⟩
  rw [hpi, hqj, pucch_index_unique h.pucchs hi hj hsame]

end Samples

section Verdict

variable {es : List UlEvent} (h : Answered es) (hkeys : DistinctKeys (schedule es))
  (gnbLog : List Char)

include h hkeys

theorem sampleBridgePusch_within :
    (runLogs gnbLog es).sampleBridgePusch.Within (runLogs gnbLog es).sampleL1Pusch ↔
      ∀ g ∈ loggedPusch (schedule es), g ∈ (puschs (schedule es)).take 128 := by
  rw [sampleBridgePusch_run, sampleL1Pusch_run gnbLog h]
  exact Dict.within_iff_subset hkeys.puschs (loggedPusch_sublist _) (List.take_sublist _ _)

theorem sampleBridgeCrc_eq :
    (runLogs gnbLog es).sampleBridgeCrc = (runLogs gnbLog es).sampleL1Crc ↔
      (puschs (schedule es)).length < 2 ^ 32 := by
  have hsample := sampleFrom_sublist (shouldLogLimited 16) 0 (puschs (schedule es))
  have hsplit : (fun p : UInt32 × PuschGrant ↦ p.2.key) = PuschGrant.key ∘ Prod.snd := rfl
  rw [sampleBridgeCrc_run gnbLog h, sampleL1Crc_run gnbLog h, hsplit, ← List.map_map,
    Dict.keys_eq_iff hkeys.puschs hsample (List.take_sublist _ _)]
  exact sampleFrom_limit_iff (by decide) (List.Nodup.of_map _ hkeys.puschs)

theorem sampleBridgePucch_within :
    (runLogs gnbLog es).sampleBridgePucch.Within (runLogs gnbLog es).sampleBridgePucch01 ↔
      ∀ p, Dict.LastOf (fun p ↦ p.2.scheduleKey) (loggedPucch (schedule es)) p → p.1 ≤ 16 := by
  rw [sampleBridgePucch_run, sampleBridgePucch01_run gnbLog h, Dict.within_filter_iff]
  · simp only [decide_eq_true_eq]
  · intro p hp q hq hkey hfields
    rw [loggedPucch_same hkeys hp hq hkey hfields]

theorem ulStructuralSanityMark_run :
    (runLogs gnbLog es).ulStructuralSanityMark = "PASS" ↔ WithinCaps (schedule es) := by
  rw [IntegrationLogs.ulStructuralSanityMark, statusMark_pass, ulStructuralSanity_run h,
    sampleBridgePusch_within h hkeys, sampleBridgeCrc_eq h hkeys,
    sampleBridgePucch_within h hkeys]
  constructor
  · rintro ⟨hlen, hparsed, hfew, hanswered⟩
    exact {
      somePusch := fun hnil ↦ hlen (by rw [hnil]; rfl)
      fewPuschs := hfew
      parsed := fun i g hi hle ↦ hparsed g (mem_loggedPusch.mpr ⟨i, hi, hle⟩)
      answered := fun i g hi hle hlast ↦
        hanswered (ulNumber i, g) (lastOf_loggedPucch.mpr ⟨i, hi, rfl, hle, hlast⟩) }
  · intro hcaps
    have hlen : (puschs (schedule es)).length % 2 ^ 64 ≠ 0 := by
      have hpos := List.length_pos_iff.mpr hcaps.somePusch
      have hfew := hcaps.fewPuschs
      omega
    refine ⟨hlen, fun g hg ↦ ?_, hcaps.fewPuschs, fun p hp ↦ ?_⟩
    · obtain ⟨i, hi, hle⟩ := mem_loggedPusch.mp hg
      exact hcaps.parsed i g hi hle
    · obtain ⟨i, hi, hseq, hle, hlast⟩ := lastOf_loggedPucch.mp hp
      rw [hseq] at hle ⊢
      exact hcaps.answered i p.2 hi hle hlast

end Verdict

/-! ## Short runs -/

/-- A PUSCH PDU among the first 64 PDUs is one of the first 128 PUSCH PDUs. -/
theorem mem_take_puschs {gs : List UlGrant} {i : Nat} {g : PuschGrant}
    (hi : gs[i]? = some (.pusch g)) (hle : i + 1 ≤ 64) : g ∈ (puschs gs).take 128 := by
  have hmem : g ∈ puschs (gs.take 64) := by
    apply List.mem_filterMap.mpr
    refine ⟨.pusch g, List.mem_of_getElem? (i := i) ?_, rfl⟩
    rw [List.getElem?_take_of_lt hle]
    exact hi
  have hpre : puschs (gs.take 64) <+: puschs gs := (List.take_prefix 64 gs).filterMap _
  have hlen : (puschs (gs.take 64)).length ≤ 128 := by
    have hfilter : (puschs (gs.take 64)).length ≤ (gs.take 64).length :=
      List.length_filterMap_le _ _
    rw [List.length_take] at hfilter
    omega
  exact (List.prefix_take_iff.mpr ⟨hpre, hlen⟩).subset hmem

/-- In a schedule of fewer than 2^32 PDUs, with one PUCCH PDU for a slot and RNTI, the condition is
that there is a PUSCH PDU, and no PUCCH PDU from the 17th to the 64th place. -/
theorem withinCaps_iff {gs : List UlGrant} (hlen : gs.length < 2 ^ 32)
    (hkeys : ((pucchs gs).map PucchGrant.scheduleKey).Nodup) :
    WithinCaps gs ↔ puschs gs ≠ [] ∧ ∀ i g, gs[i]? = some (.pucch g) → i < 64 → i < 16 := by
  have hnumber : ∀ i, i < gs.length → (ulNumber i).toNat = i + 1 := by
    intro i hi
    apply UInt32.toNat_ofNat_of_lt'
    show i + 1 < 2 ^ 32
    omega
  have hplace : ∀ i g, gs[i]? = some g → i < gs.length := fun i g hi ↦
    (List.getElem?_eq_some_iff.mp hi).1
  constructor
  · intro hcaps
    refine ⟨hcaps.somePusch, fun i g hi hlt ↦ ?_⟩
    have hi' := hnumber i (hplace i _ hi)
    have hle : ulNumber i ≤ 64 := by
      rw [UInt32.le_iff_toNat_le, hi']
      show i + 1 ≤ 64
      omega
    have hlast : ulNumber i ≤ 16 := by
      -- no later PDU has this one's key
      apply hcaps.answered i g hi hle
      intro j g' hij hj _ hkey
      exact absurd (pucch_index_unique hkeys hi hj hkey.symm) (Nat.ne_of_lt hij)
    rw [UInt32.le_iff_toNat_le, hi'] at hlast
    exact hlast
  · rintro ⟨hsome, hplaces⟩
    exact {
      somePusch := hsome
      fewPuschs := Nat.lt_of_le_of_lt (List.length_filterMap_le _ _) hlen
      parsed := fun i g hi hle ↦ by
        rw [UInt32.le_iff_toNat_le, hnumber i (hplace i _ hi)] at hle
        exact mem_take_puschs hi hle
      answered := fun i g hi hle _ ↦ by
        have hi' := hnumber i (hplace i _ hi)
        rw [UInt32.le_iff_toNat_le, hi'] at hle ⊢
        exact hplaces i g hi hle }

/-! ## Runs -/

/-- In every run in which all PDUs are answered, the verdict is PASS exactly when the schedule stays
within the caps; the bridge's steps in it are what the serialiser and the decoders do. -/
theorem ulStructuralSanity_iff (gnbLog : List Char) {es : List UlEvent}
    (hrun : Run UlQueues.step Anywhere .idle es .idle) (hkeys : DistinctKeys (schedule es)) :
    ((runLogs gnbLog es).ulStructuralSanityMark = "PASS" ↔ WithinCaps (schedule es)) ∧
      ∀ e ∈ es, e.DoneByCode :=
  ⟨ulStructuralSanityMark_run (Answered.of_run hrun) hkeys gnbLog, fun e _ ↦ e.doneByCode⟩

def onePusch : PuschGrant where
  slot := ⟨1, 5, 2⟩
  pdu := {
    rnti := 0x4601
    handle := 0
    bwp := ⟨0, 273⟩
    scs := 1
    cp := .normal
    scaledCodeRate := 4340
    qamModOrder := 4
    mcsIndex := 13
    mcsTable := 0
    transformPrecoding := .disabled 2
    nidPusch := 1
    numLayers := 1
    ulDmrsSymbPos := 4
    dmrsType := 0
    puschDmrsScramblingId := 1
    nscid := 0
    dmrsPorts := 1
    vrbs := ⟨10, 20⟩
    txDirectCurrentLocation := 0
    symbols := ⟨0, 14⟩
    puschData := some ⟨0, 3, true, 1000⟩
    puschUci := some ⟨2, 0, 0, 0, 0, 0⟩ }
  data := ⟨0, 3, true, 1000⟩
  uci := ⟨2, 0, 0, 0, 0, 0⟩
  puschData := rfl
  puschUci := rfl

def pucchOf (rnti : UInt16) : PucchGrant where
  slot := ⟨1, 5, 2⟩
  pdu := {
    rnti := rnti
    handle := 0
    bwp := ⟨0, 273⟩
    scs := 1
    cp := .normal
    format := .format0 ⟨1, 0, true, 1⟩
    prbs := ⟨0, 1⟩
    symbols := ⟨13, 1⟩
    secondHopPrb := none }
  format01 := rfl

/-- A PUSCH and a PUCCH PDU, both scheduled before either is answered. -/
def puschAndPucch : List UlEvent := [
  .serialize (.pusch onePusch), .serialize (.pucch (pucchOf 0x4602)),
  .puschParse onePusch 0 1 0, .crcEmit onePusch 0 0,
  .uciIndication (.pusch onePusch ⟨0, 0x4601, noUlSinrMetric, none, 0, noRsrp, none, none, none⟩ rfl),
  .crcIndication onePusch.crcAnswer,
  .uciIndication (.pucch (pucchOf 0x4602) _ (pucchOf 0x4602).answeredBy_uciAnswer)]

theorem ulStructuralSanity_iff_puschAndPucch :
    (runLogs [] puschAndPucch).ulStructuralSanityMark = "PASS" := by
  have hrun : Run UlQueues.step Anywhere .idle puschAndPucch .idle := by
    apply Run.of_follow
    simp [puschAndPucch, follow, Anywhere, UlQueues.step, UlQueues.idle, UlGrant.pusch?,
      UciAnswer.grant, PuschGrant.crcAnswer]
  have hschedule : schedule puschAndPucch = [.pusch onePusch, .pucch (pucchOf 0x4602)] := rfl
  refine (ulStructuralSanity_iff [] hrun ⟨by decide, by decide⟩).1.mpr ?_
  rw [hschedule, withinCaps_iff (by decide) (by decide)]
  refine ⟨by decide, fun i g hi _ ↦ ?_⟩
  have hlt := (List.getElem?_eq_some_iff.mp hi).1
  exact Nat.lt_trans hlt (by decide)

/-- One PUSCH PDU, and behind it sixteen PUCCH PDUs. -/
def latePucch : List UlGrant :=
  .pusch onePusch :: (List.range 16).map fun n ↦ .pucch (pucchOf (UInt16.ofNat (0x4602 + n)))

-- the 17th uplink PDU is a PUCCH PDU, which has a serialize line and the 17th UCI line
theorem ulStructuralSanity_fails :
    Run UlQueues.step Anywhere .idle (answering latePucch) .idle ∧
      DistinctKeys (schedule (answering latePucch)) ∧
      (runLogs [] (answering latePucch)).ulStructuralSanityMark = "FAIL" := by
  have hrun := run_answering latePucch
  have hkeys : DistinctKeys (schedule (answering latePucch)) := by
    rw [schedule_answering]
    exact ⟨by decide, by decide⟩
  have hcaps : ¬ WithinCaps (schedule (answering latePucch)) := by
    rw [schedule_answering, withinCaps_iff (by decide) (by decide)]
    intro h
    exact absurd (h.2 16 (pucchOf 0x4611) rfl (by decide)) (by decide)
  refine ⟨hrun, hkeys, statusMark_fail fun hpass ↦ hcaps ?_⟩
  exact (ulStructuralSanityMark_run (Answered.of_run hrun) hkeys []).mp hpass

end AerialBridge
