import AerialBridge.Text.Numerals
import AerialBridge.Text.Pattern
import AerialBridge.Collections.Dict
import AerialBridge.Collections.Runs

/-!
# Compressed lists of missing assets

`check_waveform_assets.py` prints the names of missing test vectors with their numbers joined into
ranges.  Each printed line is kept together with what it was rendered from.
-/

open Text

namespace AerialBridge

/-- A file name, by its characters. -/
abbrev FileName := List Char

/-- The prefix and the suffix of a test vector's name. -/
abbrev TvKey := FileName × FileName

def expandRange (tv : TvKey) (start stop : Nat) : List FileName :=
  (List.range' start (stop + 1 - start)).map fun value ↦ tv.1 ++ numeral 10 4 value ++ tv.2

def renderRange (tv : TvKey) (start stop : Nat) : List Char :=
  if start = stop then tv.1 ++ numeral 10 4 start ++ tv.2
  else tv.1 ++ numeral 10 4 start ++ "..".toList ++ numeral 10 4 stop ++ tv.2

/-- `^(TVnr_(?:DLMIX|ULMIX)_)(\d{4})(_gNB_FAPI_s\d+\.h5)$`, of which `match` tries the front. -/
def tvPattern : Pattern := .concat [
  .group "1" (.concat [.text "TVnr_", .alt (.text "DLMIX") (.text "ULMIX"), .text "_"]),
  .group "2" (.repeated Char.isDigit 4 (some 4)),
  .group "3" (.concat [.text "_gNB_FAPI_s", .repeated Char.isDigit 1 none, .text ".h5"]),
  .endOfText]

/-- The key and the number that a test vector's name is grouped by. -/
def tvNumber? (name : FileName) : Option (TvKey × Nat) :=
  (tvPattern.match? name).map fun r ↦
    ((Groups.group r.groups "1", Groups.group r.groups "3"),
      ofDigits 10 (Groups.group r.groups "2"))

def sorted (names : List FileName) : List FileName := names.mergeSort fun a b ↦ decide (a ≤ b)

/-- The groups and the names passed through, before a name is looked at. -/
structure TvGroups where
  grouped : Dict TvKey (List Nat)
  passthrough : List FileName

def TvGroups.add (g : TvGroups) (name : FileName) : TvGroups :=
  match tvNumber? name with
  | none => { g with passthrough := g.passthrough ++ [name] }
  | some (key, value) => { g with grouped := g.grouped.append key value }

def groupTvNames (names : List FileName) : TvGroups :=
  (sorted names).foldl TvGroups.add ⟨Dict.empty, []⟩

/-- `sorted(grouped.items())`.  No two items have one key, so their lists are never compared. -/
def sortedItems (items : List (TvKey × List Nat)) : List (TvKey × List Nat) :=
  items.mergeSort fun a b ↦ decide (a.1.1 < b.1.1 ∨ (a.1.1 = b.1.1 ∧ a.1.2 ≤ b.1.2))

/-- `compress_tv_names`, with what it appends for a range and for a name passed through. -/
def compressWith {γ : Type} (range : TvKey → Nat → Nat → γ) (pass : FileName → γ)
    (names : List FileName) : List γ :=
  (sortedItems (groupTvNames names).grouped.entries).flatMap
      (fun item ↦ Runs.runs (range item.1) item.2) ++
    (sorted (groupTvNames names).passthrough).map pass

def compressTvNames (names : List FileName) : List (List Char) :=
  compressWith renderRange id names

/-- What a line of the compressed list was rendered from. -/
inductive TvLine where
  | range (tv : TvKey) (start stop : Nat)
  | passed (name : FileName)
  deriving DecidableEq

namespace TvLine

def render : TvLine → List Char
  | range tv start stop => renderRange tv start stop
  | passed name => name

/-- The names a line stands for. -/
def expand : TvLine → List FileName
  | range tv start stop => expandRange tv start stop
  | passed name => [name]

/-- Ranges go up, to a number of at most four digits. -/
def Proper : TvLine → Prop
  | range _ start stop => start ≤ stop ∧ stop < 10 ^ 4
  | passed _ => True

/-- Of two ranges of one prefix and suffix, the second starts beyond the number after the first. -/
def Apart : TvLine → TvLine → Prop
  | range tv _ stop, range tv' start' _ => tv = tv' → stop + 1 < start'
  | _, _ => True

end TvLine

/-- The lines of the compressed list, each as what it was rendered from. -/
def tvLines (names : List FileName) : List TvLine := compressWith TvLine.range TvLine.passed names

theorem render_tvLines (names : List FileName) :
    (tvLines names).map TvLine.render = compressTvNames names := by
  rw [tvLines, compressTvNames, compressWith, compressWith, List.map_append, List.map_flatMap,
    List.map_map]
  have hpass : TvLine.render ∘ TvLine.passed = id := rfl
  have hrange : ∀ item : TvKey × List Nat,
      (Runs.runs (TvLine.range item.1) item.2).map TvLine.render =
        Runs.runs (renderRange item.1) item.2 := fun item ↦ Runs.map_runs _ _ _
  simp only [hrange, hpass]

/-! ## Names and their numbers -/

def tvName (key : TvKey) (value : Nat) : FileName := key.1 ++ numeral 10 4 value ++ key.2

/-- What the pattern reads in a name, and captures: a front, four digits and what stands behind. -/
theorem mem_readings_tvPattern {name : FileName} (hline : '\n' ∉ name) {r : Reading}
    (h : r ∈ tvPattern.readings name) : ∃ front digits back, front ++ digits ++ back = name ∧
      digits.length = 4 ∧ (∀ c ∈ digits, c.isDigit = true) ∧
      r.groups = [("1", front), ("2", digits), ("3", back)] := by
  obtain ⟨r₁, h₁, r', hr', rfl⟩ := Pattern.mem_readings_seq.mp h
  obtain ⟨r₂, h₂, r'', hr'', rfl⟩ := Pattern.mem_readings_seq.mp hr'
  obtain ⟨r₃, h₃, r''', hr''', rfl⟩ := Pattern.mem_readings_seq.mp hr''
  obtain ⟨r₄, h₄, r₅, h₅, rfl⟩ := Pattern.mem_readings_seq.mp hr'''
  have hs₁ := Pattern.taken_append_rest _ h₁
  have hs₂ := Pattern.taken_append_rest _ h₂
  have hs₃ := Pattern.taken_append_rest _ h₃
  -- `$` also matches in front of a last newline, which a name does not have
  have hrest : r₃.rest = [] := by
    cases (Pattern.mem_readings_endOfText.mp h₄).1 with
    | inl hend => exact hend
    | inr hend =>
      have hmem : '\n' ∈ name := by rw [← hs₁, ← hs₂, ← hs₃, hend]; simp
      exact absurd hmem hline
  refine ⟨r₁.taken, r₂.taken, r₃.taken, ?_, ?_, ?_, ?_⟩
  · rw [← hs₁, ← hs₂, ← hs₃, hrest, List.append_nil, List.append_assoc]
  · obtain ⟨r₂', h₂', rfl⟩ := Pattern.mem_readings_group.mp h₂
    obtain ⟨_, _, _, hleast, hmost⟩ := Pattern.mem_readings_repeated h₂'
    exact le_antisymm (hmost 4 rfl) hleast
  · obtain ⟨r₂', h₂', rfl⟩ := Pattern.mem_readings_group.mp h₂
    exact (Pattern.mem_readings_repeated h₂').2.2.1
  · show r₁.groups ++ (r₂.groups ++ (r₃.groups ++ (r₄.groups ++ r₅.groups))) = _
    rw [Pattern.groups_of_group (by decide) h₁, Pattern.groups_of_group (by decide) h₂,
      Pattern.groups_of_group (by decide) h₃, Pattern.groups_of_groupless (by decide) h₄,
      Pattern.groups_of_groupless (by decide) h₅]
    rfl

/-- What is grouped under a key and a number is the name that these spell. -/
theorem tvNumber?_some {name : FileName} (hline : '\n' ∉ name) {key : TvKey} {value : Nat}
    (h : tvNumber? name = some (key, value)) : tvName key value = name ∧ value < 10 ^ 4 := by
  obtain ⟨r, hr, hkey⟩ := Option.map_eq_some_iff.mp h
  obtain ⟨front, digits, back, hname, hlen, hdigits, hgroups⟩ :=
    mem_readings_tvPattern hline (List.mem_of_head? hr)
  rw [hgroups, Prod.mk.injEq] at hkey
  have hkey' : key = (front, back) := hkey.1.symm
  have hvalue : value = ofDigits 10 digits := hkey.2.symm
  have hne : digits ≠ [] := List.ne_nil_of_length_pos (by omega)
  have hnumeral : numeral 10 4 (ofDigits 10 digits) = digits := by
    rw [← hlen]
    exact numeral_ofDigits hne hdigits
  rw [hkey', hvalue]
  apply And.intro
  · show front ++ numeral 10 4 (ofDigits 10 digits) ++ back = name
    rw [hnumeral, hname]
  · rw [← hlen]
    exact ofDigits_lt hdigits

/-- Names of one key that are in order have their numbers in order. -/
theorem lt_of_tvName_lt {key : TvKey} {v w : Nat} (hv : v < 10 ^ 4) (hw : w < 10 ^ 4)
    (h : tvName key v < tvName key w) : v < w := by
  by_contra hle
  by_cases heq : w = v
  · rw [heq] at h
    exact absurd h (List.lt_irrefl _)
  · have hread : ∀ n, ofDigits 10 (numeral 10 4 n) = n := ofDigits_numeral (by decide) (by decide) 4
    have hlt : numeral 10 4 w ++ key.2 < numeral 10 4 v ++ key.2 := by
      apply append_lt_append_of_ofDigits_lt
      · rw [length_numeral (by decide) (by decide) hw, length_numeral (by decide) (by decide) hv]
      · exact fun c hc ↦ isDigit_of_mem_numeral hc
      · exact fun c hc ↦ isDigit_of_mem_numeral hc
      · rw [hread, hread]
        omega
    have hgt : tvName key w < tvName key v := by
      show key.1 ++ numeral 10 4 w ++ key.2 < key.1 ++ numeral 10 4 v ++ key.2
      rw [List.append_assoc, List.append_assoc]
      exact List.append_left_lt hlt
    exact List.lt_asymm h hgt

/-! ## Grouping -/

/-- The groups account for the names looked at so far, each group in their order. -/
structure TvGroups.Accounts (g : TvGroups) (seen : List FileName) : Prop where
  perm : ((g.grouped.entries.flatMap fun e ↦ e.2.map (tvName e.1)) ++ g.passthrough).Perm seen
  ordered : ∀ key values, g.grouped.get? key = some values →
    (values.map (tvName key)).Sublist seen
  fourDigits : ∀ key values, g.grouped.get? key = some values → ∀ v ∈ values, v < 10 ^ 4
  unnumbered : ∀ name ∈ g.passthrough, tvNumber? name = none

theorem TvGroups.Accounts.add {g : TvGroups} {seen : List FileName} (h : g.Accounts seen)
    {name : FileName} (hline : '\n' ∉ name) : (g.add name).Accounts (seen ++ [name]) := by
  unfold TvGroups.add
  cases hn : tvNumber? name with
  | none =>
    exact {
      perm := by
        show (_ ++ (g.passthrough ++ [name])).Perm _
        rw [← List.append_assoc]
        exact h.perm.append_right _
      ordered := fun key values hget ↦ (h.ordered key values hget).trans
        (List.sublist_append_left _ _)
      fourDigits := h.fourDigits
      unnumbered := fun other hother ↦ by
        rcases List.mem_append.mp hother with hold | hnew
        · exact h.unnumbered other hold
        · rw [List.mem_singleton.mp hnew]
          exact hn }
  | some kv =>
    obtain ⟨key, value⟩ := kv
    obtain ⟨hname, hsmall⟩ := tvNumber?_some hline hn
    exact {
      perm := by
        show (((g.grouped.append key value).entries.flatMap fun e ↦ e.2.map (tvName e.1)) ++
          g.passthrough).Perm _
        have hperm := (g.grouped.flatMap_append_perm key value tvName).append_right g.passthrough
        rw [hname] at hperm
        refine hperm.trans ?_
        rw [List.append_assoc]
        refine (List.perm_append_comm.append_left _).trans ?_
        rw [← List.append_assoc]
        exact h.perm.append_right _
      ordered := fun key' values hk ↦ by
        apply Dict.get?_append_of h.ordered (List.nil_sublist _) _ _ hk
        · exact fun _ _ hsub ↦ hsub.trans (List.sublist_append_left _ _)
        · intro values hsub
          rw [List.map_append, List.map_singleton, hname]
          exact hsub.append (List.Sublist.refl _)
      fourDigits := fun key' values hk ↦ by
        apply Dict.get?_append_of h.fourDigits (fun v hv ↦ by cases hv) (fun _ _ hlt ↦ hlt) _ hk
        intro values hlt v hv
        rw [List.mem_append, List.mem_singleton] at hv
        cases hv with
        | inl hv => exact hlt v hv
        | inr hv => rw [hv]; exact hsmall
      unnumbered := h.unnumbered }

theorem groupTvNames_accounts {names : List FileName} (hline : ∀ n ∈ names, '\n' ∉ n) :
    (groupTvNames names).Accounts (sorted names) := by
  have hempty : TvGroups.Accounts ⟨Dict.empty, []⟩ [] := {
    perm := List.Perm.refl _
    ordered := fun key values hget ↦ by cases hget
    fourDigits := fun key values hget ↦ by cases hget
    unnumbered := fun _ hn ↦ absurd hn List.not_mem_nil }
  have hrun : ∀ (rest seen : List FileName) (g : TvGroups), g.Accounts seen →
      (∀ n ∈ rest, '\n' ∉ n) → (rest.foldl TvGroups.add g).Accounts (seen ++ rest) := by
    intro rest
    induction rest with
    | nil => intro seen g h _; rwa [List.append_nil]
    | cons n rest ih =>
      intro seen g h hrest
      have hstep := h.add (hrest n List.mem_cons_self)
      have htail := ih (seen ++ [n]) (g.add n) hstep fun m hm ↦ hrest m (List.mem_cons_of_mem n hm)
      rwa [List.append_assoc] at htail
  have hsorted : ∀ n ∈ sorted names, '\n' ∉ n := fun n hn ↦ hline n (List.mem_mergeSort.mp hn)
  exact hrun (sorted names) [] _ hempty hsorted

theorem sorted_perm (names : List FileName) : (sorted names).Perm names := List.mergeSort_perm _ _

theorem sorted_pairwise {names : List FileName} (hnodup : names.Nodup) :
    (sorted names).Pairwise (· < ·) := by
  have hle : (sorted names).Pairwise fun a b : FileName ↦ decide (a ≤ b) = true := by
    apply List.pairwise_mergeSort
    · intro a b c hab hbc
      exact decide_eq_true (le_trans (of_decide_eq_true hab) (of_decide_eq_true hbc))
    · intro a b
      rw [Bool.or_eq_true, decide_eq_true_eq, decide_eq_true_eq]
      exact le_total a b
  have hne : (sorted names).Pairwise (· ≠ ·) := (sorted_perm names).nodup_iff.mpr hnodup
  apply (hle.and hne).imp
  intro a b hab
  exact lt_of_le_of_ne (of_decide_eq_true hab.1) hab.2

/-! ## The compressed list -/

theorem sortedItems_perm (items : List (TvKey × List Nat)) : (sortedItems items).Perm items :=
  List.mergeSort_perm _ _

theorem runs_range (key : TvKey) (values : List Nat) :
    Runs.runs (TvLine.range key) values =
      (Runs.runs Prod.mk values).map fun r ↦ TvLine.range key r.1 r.2 :=
  (Runs.map_runs Prod.mk (fun r ↦ TvLine.range key r.1 r.2) values).symm

theorem expand_runs (key : TvKey) (values : List Nat) :
    (Runs.runs (TvLine.range key) values).flatMap TvLine.expand = values.map (tvName key) := by
  rw [runs_range, List.flatMap_map]
  conv_rhs => rw [← Runs.flatMap_runs values, List.map_flatMap]
  rfl

theorem expand_tvLines {names : List FileName} (hline : ∀ n ∈ names, '\n' ∉ n) :
    ((tvLines names).flatMap TvLine.expand).Perm names := by
  have hpass : ((sorted (groupTvNames names).passthrough).map TvLine.passed).flatMap TvLine.expand =
      sorted (groupTvNames names).passthrough := by
    rw [List.flatMap_map]
    show (sorted (groupTvNames names).passthrough).flatMap (fun a ↦ [a]) = _
    exact List.flatMap_singleton' _
  rw [tvLines, compressWith, List.flatMap_append, List.flatMap_assoc, hpass]
  simp only [expand_runs]
  have hperm := ((sortedItems_perm (groupTvNames names).grouped.entries).flatMap_right
    fun e ↦ e.2.map (tvName e.1)).append (sorted_perm (groupTvNames names).passthrough)
  exact hperm.trans ((groupTvNames_accounts hline).perm.trans (sorted_perm names))

theorem mem_entries {names : List FileName} {item : TvKey × List Nat}
    (h : item ∈ sortedItems (groupTvNames names).grouped.entries) :
    (groupTvNames names).grouped.get? item.1 = some item.2 :=
  (Dict.mem_entries_iff _).mp ((sortedItems_perm _).mem_iff.mp h)

/-- The numbers of a group are in order, as the names they stand in are. -/
theorem group_ascending {names : List FileName} (hnodup : names.Nodup)
    (hline : ∀ n ∈ names, '\n' ∉ n) {key : TvKey} {values : List Nat}
    (h : (groupTvNames names).grouped.get? key = some values) : values.Pairwise (· < ·) := by
  have hacc := groupTvNames_accounts hline
  have hasc : (values.map (tvName key)).Pairwise (· < ·) :=
    (sorted_pairwise hnodup).sublist (hacc.ordered key values h)
  have hsmall := hacc.fourDigits key values h
  rw [List.pairwise_map] at hasc
  apply (List.Pairwise.and_mem.mp hasc).imp
  intro v w hvw
  exact lt_of_tvName_lt (hsmall v hvw.1) (hsmall w hvw.2.1) hvw.2.2

theorem tvLines_proper {names : List FileName} (hline : ∀ n ∈ names, '\n' ∉ n) :
    ∀ l ∈ tvLines names, l.Proper := by
  intro l hl
  rw [tvLines, compressWith, List.mem_append] at hl
  cases hl with
  | inr hl =>
    obtain ⟨n, _, rfl⟩ := List.mem_map.mp hl
    exact trivial
  | inl hl =>
    obtain ⟨item, hitem, hl⟩ := List.mem_flatMap.mp hl
    rw [runs_range, List.mem_map] at hl
    obtain ⟨r, hr, rfl⟩ := hl
    have hsmall := (groupTvNames_accounts hline).fourDigits _ _ (mem_entries hitem)
    exact ⟨Runs.runs_le item.2 r hr, hsmall r.2 (Runs.runs_last_mem hr)⟩

theorem tvLines_apart {names : List FileName} (hnodup : names.Nodup)
    (hline : ∀ n ∈ names, '\n' ∉ n) : (tvLines names).Pairwise TvLine.Apart := by
  have hkeys : (sortedItems (groupTvNames names).grouped.entries).Pairwise
      fun a b ↦ a.1 ≠ b.1 := by
    have hperm := (sortedItems_perm (groupTvNames names).grouped.entries).map Prod.fst
    have h := hperm.nodup_iff.mpr (groupTvNames names).grouped.nodup
    exact List.pairwise_map.mp h
  rw [tvLines, compressWith, List.pairwise_append]
  refine ⟨List.pairwise_flatMap.mpr ⟨fun item hitem ↦ ?_, hkeys.imp ?_⟩, ?_, ?_⟩
  · -- the ranges of one group
    have hasc := group_ascending hnodup hline (mem_entries hitem)
    rw [runs_range, List.pairwise_map]
    exact (Runs.runs_apart hasc).imp fun h _ ↦ h
  · -- the ranges of two groups differ in prefix or suffix
    intro a b hab l hl l' hl'
    rw [runs_range, List.mem_map] at hl hl'
    obtain ⟨r, _, rfl⟩ := hl
    obtain ⟨r', _, rfl⟩ := hl'
    exact fun h ↦ absurd h hab
  · rw [List.pairwise_map]
    exact List.pairwise_of_forall fun _ _ ↦ trivial
  · intro l _ l' hl'
    obtain ⟨n, _, rfl⟩ := List.mem_map.mp hl'
    cases l <;> exact trivial

theorem tvLines_unnumbered {names : List FileName} (hline : ∀ n ∈ names, '\n' ∉ n)
    {name : FileName} (h : .passed name ∈ tvLines names) : tvNumber? name = none := by
  rw [tvLines, compressWith, List.mem_append] at h
  cases h with
  | inl h =>
    obtain ⟨item, _, h⟩ := List.mem_flatMap.mp h
    rw [runs_range, List.mem_map] at h
    obtain ⟨r, _, h⟩ := h
    cases h
  | inr h =>
    obtain ⟨n, hn, h⟩ := List.mem_map.mp h
    rw [← TvLine.passed.inj h]
    exact (groupTvNames_accounts hline).unnumbered n (List.mem_mergeSort.mp hn)

def isPrintable (c : Char) : Bool := ' ' ≤ c && c ≤ '~'

theorem newline_not_mem {name : FileName} (h : name.all isPrintable = true) : '\n' ∉ name := by
  intro hmem
  exact absurd (List.all_eq_true.mp h '\n' hmem) (by decide)

/-- The compressed list of distinct printable names spells out exactly these names, each once, and
its ranges are as long as they can be: no name of a test vector is passed through. -/
theorem compressTvNames_lossless (names : List FileName) (hnodup : names.Nodup)
    (hprint : ∀ n ∈ names, n.all isPrintable = true) :
    compressTvNames names = (tvLines names).map TvLine.render ∧
      ((tvLines names).flatMap TvLine.expand).Perm names ∧
      (∀ l ∈ tvLines names, l.Proper) ∧ (tvLines names).Pairwise TvLine.Apart ∧
      ∀ name, .passed name ∈ tvLines names → tvNumber? name = none := by
  have hline : ∀ n ∈ names, '\n' ∉ n := fun n hn ↦ newline_not_mem (hprint n hn)
  exact ⟨(render_tvLines names).symm, expand_tvLines hline, tvLines_proper hline,
    tvLines_apart hnodup hline, fun _ ↦ tvLines_unnumbered hline⟩

/-- Names of two suffixes that come in neither order, and one that is no test vector's. -/
def missingNames : List FileName :=
  ["TVnr_DLMIX_5961_gNB_FAPI_s0.h5".toList, "cuPhyChEstCoeffs.h5".toList,
    "TVnr_DLMIX_5960_gNB_FAPI_s0.h5".toList, "TVnr_DLMIX_5960_gNB_FAPI_s1.h5".toList]

theorem compressTvNames_lossless_missing :
    compressTvNames missingNames = (tvLines missingNames).map TvLine.render ∧
      ((tvLines missingNames).flatMap TvLine.expand).Perm missingNames ∧
      (∀ l ∈ tvLines missingNames, l.Proper) ∧ (tvLines missingNames).Pairwise TvLine.Apart ∧
      ∀ name, .passed name ∈ tvLines missingNames → tvNumber? name = none :=
  compressTvNames_lossless missingNames (by decide) (by decide)

end AerialBridge
