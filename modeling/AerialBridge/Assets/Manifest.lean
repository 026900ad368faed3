import AerialBridge.Assets.TvNames
import AerialBridge.Assets.Yaml

/-!
# The check of a waveform's assets

`check_manifest` finds out which files a waveform pattern needs, from a launch pattern or from the
test vectors themselves, and reports which of them a directory lacks.
-/

namespace AerialBridge

open Text

/-! ## What a pattern needs -/

/-- `Path(text).name` for a text that ends in `.h5`: what stands behind the last slash. -/
def pathName (text : List Char) : FileName := (text.reverse.takeWhile (· ≠ '/')).reverse

def isH5 (text : List Char) : Bool := ".h5".toList.isSuffixOf text

variable {K : Type}

mutual

/-- `collect_h5_names`; of a mapping only the values are looked at. -/
def collectH5Names (out : List FileName) : Yaml K → List FileName
  | .map entries => collectValues out entries
  | .seq items => collectItems out items
  | .str text => if isH5 text then out.insert (pathName text) else out
  | _ => out

def collectValues (out : List FileName) : List (K × Yaml K) → List FileName
  | [] => out
  | entry :: entries => collectValues (collectH5Names out entry.2) entries

def collectItems (out : List FileName) : List (Yaml K) → List FileName
  | [] => out
  | item :: items => collectItems (collectH5Names out item) items

end

/-- What `is_file` and `exists` say of an entry: a link to nothing is neither. -/
inductive EntryKind
  | file
  | directory
  | brokenLink
  deriving DecidableEq, Repr

/-- The name of a waveform pattern, which stands for itself in a file name: it holds no slash and
nothing that `glob` interprets, and the name of its launch pattern is short enough for a file. -/
structure PatternName where
  text : List Char
  printable : text.all isPrintable = true
  plain : ∀ c ∈ text, c ∉ "/*?[]".toList
  short : ("launch_pattern_nrSim_".toList ++ text ++ ".yaml".toList).length ≤ 255

/-- A directory: its entries, and what `yaml.safe_load` makes of a file. -/
structure AssetDir (K : Type) where
  entries : List (FileName × EntryKind)
  load : FileName → Option (Yaml K)

namespace AssetDir

variable (dir : AssetDir K)

def has (name : FileName) : Bool := dir.entries.any fun e ↦ e.1 = name && e.2 ≠ .brokenLink

def hasFile (name : FileName) : Bool := dir.entries.any fun e ↦ e.1 = name && e.2 = .file

/-- `tv_src.glob` of a pattern with one star between two plain texts, in sorted order. -/
def glob (front back : FileName) : List FileName :=
  sorted ((dir.entries.map Prod.fst).filter fun name ↦
    front.isPrefixOf name && back.isSuffixOf name && decide (front.length + back.length ≤ name.length))

end AssetDir

/-- The exceptions that a launch pattern can end the script with. -/
inductive AssetError
  | isADirectory (name : FileName)
  | yamlError (name : FileName)
  deriving DecidableEq, Repr

def coeffs : FileName := "cuPhyChEstCoeffs.h5".toList

def loadLaunchPattern (dir : AssetDir K) (name : FileName) : Except AssetError (List FileName) :=
  if dir.hasFile name then
    match dir.load name with
    | some parsed => pure ((collectH5Names [] parsed).insert coeffs)
    | none => .error (.yamlError name)
  else .error (.isADirectory name)

inductive ManifestSource
  | special
  | launchPattern (name : FileName)
  | tvFiles (pattern : List Char)
  deriving DecidableEq, Repr

structure Manifest where
  required : List FileName
  alternates : List (List FileName)
  source : ManifestSource

def build90604Manifest : Manifest where
  required := coeffs ::
    (expandRange ("TVnr_DLMIX_".toList, "_gNB_FAPI_s0.h5".toList) 5960 6055 ++
      expandRange ("TVnr_DLMIX_".toList, "_gNB_FAPI_s0.h5".toList) 6080 6159 ++
      expandRange ("TVnr_DLMIX_".toList, "_gNB_FAPI_s0.h5".toList) 6168 6175 ++
      expandRange ("TVnr_ULMIX_".toList, "_gNB_FAPI_s0.h5".toList) 2864 2895)
  alternates := [["launch_pattern_nrSim_90604.yaml".toList, "launch_pattern_F08_8C_57.yaml".toList]]
  source := .special

/-- The launch patterns that are there, in the order in which they are tried. -/
def launchPatterns (dir : AssetDir K) (pattern : PatternName) : List FileName :=
  (("launch_pattern_nrSim_".toList ++ pattern.text ++ ".yaml".toList) ::
    dir.glob "launch_pattern_F08_".toList ("_".toList ++ pattern.text ++ ".yaml".toList)).filter dir.has

def exactTvs (dir : AssetDir K) (pattern : PatternName) : List FileName :=
  dir.glob ("TVnr_".toList ++ pattern.text ++ "_gNB_FAPI_s".toList) ".h5".toList

def findGenericManifest (dir : AssetDir K) (pattern : PatternName) :
    Except AssetError (Option Manifest) :=
  match (launchPatterns dir pattern).head? with
  | some name => do
      let required ← loadLaunchPattern dir name
      pure (some ⟨sorted required, [[name]], .launchPattern name⟩)
  | none =>
      let exact := exactTvs dir pattern
      pure (if exact = [] then none else some ⟨coeffs :: exact, [], .tvFiles pattern.text⟩)

def findManifest (dir : AssetDir K) (pattern : PatternName) : Except AssetError (Option Manifest) :=
  if pattern.text = "90604".toList then pure (some build90604Manifest)
  else findGenericManifest dir pattern

/-! ## The report -/

/-- The lines that are printed, with what stands in them. -/
inductive ManifestLine
  | couldNotInfer (pattern : List Char)
  | header (pattern : List Char) (source : ManifestSource) (required : Nat) (altGroups : Nat)
  | result (pass : Bool)
  | missingAliases (groups : List (List FileName))
  | missingRequired (count : Nat)
  | item (text : List Char)
  deriving DecidableEq

/-- The lines of a report, and the exit code. -/
def reportManifest (dir : AssetDir K) (pattern : PatternName) (m : Manifest) :
    List ManifestLine × Nat :=
  let missing := m.required.filter fun name ↦ !dir.hasFile name
  let missingAltGroups := m.alternates.filter fun group ↦ !group.any dir.hasFile
  let header := [.header pattern.text m.source m.required.length m.alternates.length]
  if missing.isEmpty && missingAltGroups.isEmpty then (header ++ [.result true], 0)
  else
    (header ++ [.result false] ++
      (if missingAltGroups.isEmpty then [] else [.missingAliases missingAltGroups]) ++
      (if missing.isEmpty then []
        else .missingRequired missing.length :: (compressTvNames missing).map .item), 1)

def checkManifest (dir : AssetDir K) (pattern : PatternName) :
    Except AssetError (List ManifestLine × Nat) := do
  match ← findManifest dir pattern with
  | some m => pure (reportManifest dir pattern m)
  | none => pure ([.couldNotInfer pattern.text], 1)

/-! ## The names in a launch pattern -/

/-- A text among the values names this test vector. -/
def Yaml.Names (name : FileName) (node : Yaml K) : Prop :=
  ∃ text, Yaml.Holds text node ∧ isH5 text = true ∧ name = pathName text

theorem Yaml.names_seq_iff {name : FileName} {items : List (Yaml K)} :
    Names name (.seq items) ↔ ∃ item ∈ items, Names name item := by
  constructor
  · rintro ⟨text, h, hname⟩
    cases h with
    | seq hitem h => exact ⟨_, hitem, text, h, hname⟩
  · rintro ⟨item, hitem, text, h, hname⟩
    exact ⟨text, .seq hitem h, hname⟩

theorem Yaml.names_map_iff {name : FileName} {entries : List (K × Yaml K)} :
    Names name (.map entries) ↔ ∃ entry ∈ entries, Names name entry.2 := by
  constructor
  · rintro ⟨text, h, hname⟩
    cases h with
    | map hentry h => exact ⟨_, hentry, text, h, hname⟩
  · rintro ⟨entry, hentry, text, h, hname⟩
    exact ⟨text, .map hentry h, hname⟩

theorem Yaml.names_str_iff {name : FileName} {text : List Char} :
    Names name (.str text : Yaml K) ↔ isH5 text = true ∧ name = pathName text := by
  constructor
  · rintro ⟨text', h, hname⟩
    cases h with
    | str => exact hname
  · exact fun hname ↦ ⟨text, .str, hname⟩

mutual

/-- The names of a node are added, wherever in it they stand. -/
theorem mem_collectH5Names {name : FileName} (out : List FileName) :
    ∀ node : Yaml K, name ∈ collectH5Names out node ↔ name ∈ out ∨ Yaml.Names name node
  | .map entries => by
      rw [collectH5Names, mem_collectValues, Yaml.names_map_iff]
  | .seq items => by
      rw [collectH5Names, mem_collectItems, Yaml.names_seq_iff]
  | .str text => by
      rw [collectH5Names, Yaml.names_str_iff]
      by_cases h : isH5 text = true
      · rw [if_pos h, List.mem_insert_iff, or_comm, and_iff_right h]
      · rw [if_neg h, or_iff_left fun hname ↦ h hname.1]
  | .null | .bool _ | .int _ | .other _ => by
      have hnone : ∀ node : Yaml K, (∀ text, ¬ Yaml.Holds text node) → ¬ Yaml.Names name node :=
        fun _ hholds hname ↦ hholds _ hname.choose_spec.1
      refine (or_iff_left (hnone _ fun text h ↦ ?_)).symm
      cases h

theorem mem_collectValues {name : FileName} (out : List FileName) :
    ∀ entries : List (K × Yaml K), name ∈ collectValues out entries ↔
      name ∈ out ∨ ∃ entry ∈ entries, Yaml.Names name entry.2
  | [] => by simp [collectValues]
  | entry :: entries => by
      rw [collectValues, mem_collectValues, mem_collectH5Names, List.exists_mem_cons_iff, or_assoc]

theorem mem_collectItems {name : FileName} (out : List FileName) :
    ∀ items : List (Yaml K), name ∈ collectItems out items ↔
      name ∈ out ∨ ∃ item ∈ items, Yaml.Names name item
  | [] => by simp [collectItems]
  | item :: items => by
      rw [collectItems, mem_collectItems, mem_collectH5Names, List.exists_mem_cons_iff, or_assoc]

end

/-! ## The verdict -/

/-- What the pattern needs: the special list, or what the first launch pattern names, or the
pattern's own test vectors. -/
def Needs (dir : AssetDir K) (pattern : PatternName) (name : FileName) : Prop :=
  if pattern.text = "90604".toList then name ∈ build90604Manifest.required
  else match (launchPatterns dir pattern).head? with
    | some launchPattern => name = coeffs ∨ ∃ parsed, dir.load launchPattern = some parsed ∧
        Yaml.Names name parsed
    | none => name = coeffs ∨ name ∈ exactTvs dir pattern

/-- There is something that says what the pattern needs. -/
def Inferable (dir : AssetDir K) (pattern : PatternName) : Prop :=
  pattern.text = "90604".toList ∨ launchPatterns dir pattern ≠ [] ∨ exactTvs dir pattern ≠ []

/-- Each group of aliases has a member that is there. -/
def AliasPresent (dir : AssetDir K) (m : Manifest) : Prop :=
  ∀ group ∈ m.alternates, ∃ name ∈ group, dir.hasFile name = true

theorem loadLaunchPattern_spec {dir : AssetDir K} {launchPattern : FileName}
    {required : List FileName} (h : loadLaunchPattern dir launchPattern = .ok required) :
    dir.hasFile launchPattern = true ∧ ∃ parsed, dir.load launchPattern = some parsed ∧
      ∀ name, name ∈ required ↔ name = coeffs ∨ Yaml.Names name parsed := by
  unfold loadLaunchPattern at h
  split at h
  · next hfile =>
    split at h
    · next parsed hload =>
      cases h
      refine ⟨hfile, parsed, hload, fun name ↦ ?_⟩
      rw [List.mem_insert_iff, mem_collectH5Names, or_iff_right List.not_mem_nil]
    · cases h
  · cases h

theorem mem_sorted {names : List FileName} {name : FileName} :
    name ∈ sorted names ↔ name ∈ names := (sorted_perm names).mem_iff

/-- What is found requires what the pattern needs. -/
structure Manifest.Found (dir : AssetDir K) (pattern : PatternName) (m : Manifest) : Prop where
  inferable : Inferable dir pattern
  required : ∀ name, name ∈ m.required ↔ Needs dir pattern name
  alternates : AliasPresent dir m ↔
    (pattern.text = "90604".toList → AliasPresent dir build90604Manifest)

theorem findManifest_spec {dir : AssetDir K} {pattern : PatternName} {found : Option Manifest}
    (h : findManifest dir pattern = .ok found) :
    match found with
    | some m => m.Found dir pattern
    | none => ¬ Inferable dir pattern := by
  by_cases hspecial : pattern.text = "90604".toList
  · rw [findManifest, if_pos hspecial] at h
    cases h
    refine ⟨.inl hspecial, fun name ↦ ?_, ⟨fun h _ ↦ h, fun h ↦ h hspecial⟩⟩
    rw [Needs, if_pos hspecial]
  · rw [findManifest, if_neg hspecial, findGenericManifest] at h
    cases hfirst : (launchPatterns dir pattern).head? with
    | some launchPattern =>
        simp only [hfirst] at h
        cases hload : loadLaunchPattern dir launchPattern with
        | error e =>
            rw [hload] at h
            cases h
        | ok required =>
            rw [hload] at h
            cases h
            obtain ⟨hfile, parsed, hparsed, hmem⟩ := loadLaunchPattern_spec hload
            have hne : launchPatterns dir pattern ≠ [] := by
              intro hnil
              rw [hnil] at hfirst
              cases hfirst
            refine ⟨.inr (.inl hne), fun name ↦ ?_, iff_of_true ?_ fun h ↦ absurd h hspecial⟩
            · rw [Needs, if_neg hspecial, hfirst]
              simp only [mem_sorted, hmem, hparsed, Option.some.injEq, exists_eq_left']
            -- the launch pattern has just been opened
            · intro group hgroup
              rw [List.mem_singleton.mp hgroup]
              exact ⟨launchPattern, List.mem_singleton.mpr rfl, hfile⟩
    | none =>
        simp only [hfirst] at h
        have hnil : launchPatterns dir pattern = [] := List.head?_eq_none_iff.mp hfirst
        by_cases hexact : exactTvs dir pattern = []
        · rw [if_pos hexact] at h
          cases h
          intro hinferable
          rcases hinferable with h | h | h
          · exact hspecial h
          · exact h hnil
          · exact h hexact
        · rw [if_neg hexact] at h
          cases h
          refine ⟨.inr (.inr hexact), fun name ↦ ?_,
            iff_of_true (fun _ hgroup ↦ absurd hgroup List.not_mem_nil) fun h ↦ absurd h hspecial⟩
          rw [Needs, if_neg hspecial, hfirst, List.mem_cons]

/-- The names that a report lists, still in ranges. -/
def listedItems (lines : List ManifestLine) : List (List Char) :=
  lines.filterMap fun line ↦ match line with
    | .item text => some text
    | _ => none

theorem listedItems_items (items : List (List Char)) :
    listedItems (items.map .item) = items := by
  rw [listedItems, List.filterMap_map]
  exact List.filterMap_some

theorem listedItems_append (xs ys : List ManifestLine) :
    listedItems (xs ++ ys) = listedItems xs ++ listedItems ys := List.filterMap_append

def missingNamesOf (dir : AssetDir K) (m : Manifest) : List FileName :=
  m.required.filter fun name ↦ !dir.hasFile name

theorem reportManifest_listed (dir : AssetDir K) (pattern : PatternName) (m : Manifest) :
    listedItems (reportManifest dir pattern m).1 = compressTvNames (missingNamesOf dir m) := by
  have hempty : compressTvNames [] = [] := by
    simp [compressTvNames, compressWith, groupTvNames, sorted, sortedItems, Dict.empty]
  unfold reportManifest
  dsimp only
  split
  · next hpass =>
    rw [Bool.and_eq_true, List.isEmpty_iff] at hpass
    rw [missingNamesOf, hpass.1, hempty]
    rfl
  · rw [listedItems_append, listedItems_append]
    -- missing aliases are reported, but are no items
    have haliases : ∀ groups : List (List FileName), listedItems
        (if groups.isEmpty then [] else [.missingAliases groups]) = [] := by
      intro groups
      cases groups with
      | nil | cons _ _ => rfl
    rw [haliases]
    change [] ++ [] ++ _ = _
    cases hmissing : missingNamesOf dir m with
    | nil =>
        rw [missingNamesOf] at hmissing
        rw [hmissing, hempty]
        rfl
    | cons name names =>
        rw [missingNamesOf] at hmissing
        rw [hmissing]
        exact listedItems_items _

theorem reportManifest_code (dir : AssetDir K) (pattern : PatternName) (m : Manifest) :
    (reportManifest dir pattern m).2 = 0 ↔
      (∀ name ∈ m.required, dir.hasFile name = true) ∧ AliasPresent dir m := by
  have hrequired : (m.required.filter fun name ↦ !dir.hasFile name).isEmpty = true ↔
      ∀ name ∈ m.required, dir.hasFile name = true := by
    rw [List.isEmpty_iff, List.filter_eq_nil_iff]
    simp only [Bool.not_eq_true', Bool.not_eq_false]
  have haliases : (m.alternates.filter fun group ↦ !group.any dir.hasFile).isEmpty = true ↔
      AliasPresent dir m := by
    rw [List.isEmpty_iff, List.filter_eq_nil_iff]
    simp only [Bool.not_eq_true', Bool.not_eq_false, List.any_eq_true, AliasPresent]
  unfold reportManifest
  dsimp only
  split
  · next hpass =>
    rw [Bool.and_eq_true, hrequired, haliases] at hpass
    exact iff_of_true rfl hpass
  · next hfail =>
    rw [Bool.and_eq_true, hrequired, haliases] at hfail
    exact iff_of_false Nat.one_ne_zero hfail

/-- The check passes exactly when something says what the pattern needs, every name that it needs,
anywhere in the launch pattern's YAML, is a file of the directory, and so is an alias of the special
pattern's launch pattern.  What it lists as missing, expanded from the ranges, is what is needed and
not there, when the names needed are printable. -/
theorem checkManifest_iff {dir : AssetDir K} {pattern : PatternName} {lines : List ManifestLine}
    {code : Nat} (h : checkManifest dir pattern = .ok (lines, code)) :
    (code = 0 ↔ Inferable dir pattern ∧ (∀ name, Needs dir pattern name → dir.hasFile name = true) ∧
      (pattern.text = "90604".toList → AliasPresent dir build90604Manifest)) ∧
    (Inferable dir pattern → (∀ name, Needs dir pattern name → name.all isPrintable = true) →
      ∃ listed : List TvLine, listedItems lines = listed.map TvLine.render ∧
        ∀ name, name ∈ listed.flatMap TvLine.expand ↔
          Needs dir pattern name ∧ dir.hasFile name = false) := by
  unfold checkManifest at h
  cases hfind : findManifest dir pattern with
  | error e =>
      rw [hfind] at h
      cases h
  | ok found =>
      rw [hfind] at h
      have hspec := findManifest_spec hfind
      cases found with
      | none =>
          cases h
          exact ⟨iff_of_false Nat.one_ne_zero fun hpass ↦ hspec hpass.1,
            fun hinferable ↦ absurd hinferable hspec⟩
      | some m =>
          have hfound : m.Found dir pattern := hspec
          have hreport : reportManifest dir pattern m = (lines, code) := Except.ok.inj h
          have hlines : lines = (reportManifest dir pattern m).1 := by rw [hreport]
          have hcode : code = (reportManifest dir pattern m).2 := by rw [hreport]
          rw [hlines, hcode]
          constructor
          · rw [reportManifest_code, hfound.alternates, and_iff_right hfound.inferable]
            simp only [hfound.required]
          · intro _ hprint
            refine ⟨tvLines (missingNamesOf dir m), ?_, fun name ↦ ?_⟩
            · rw [reportManifest_listed, render_tvLines]
            · have hnames : ∀ n ∈ missingNamesOf dir m, '\n' ∉ n := by
                intro n hn
                exact newline_not_mem
                  (hprint n ((hfound.required n).mp (List.mem_filter.mp hn).1))
              rw [(expand_tvLines hnames).mem_iff, missingNamesOf, List.mem_filter,
                hfound.required, Bool.not_eq_true']

section Example

/-- A launch pattern with two test vectors, of which one is there. -/
def exampleDir : AssetDir (List Char) where
  entries := [("launch_pattern_nrSim_7.yaml".toList, .file), (coeffs, .file),
    ("TVnr_DLMIX_0001_gNB_FAPI_s0.h5".toList, .file)]
  load := fun _ ↦ some (.map [("Cells".toList, .seq [.str "tv/TVnr_DLMIX_0001_gNB_FAPI_s0.h5".toList,
    .map [("slot".toList, .str "TVnr_DLMIX_0002_gNB_FAPI_s0.h5".toList)], .int 3])])

def patternSeven : PatternName := ⟨"7".toList, by decide, by simp, by decide⟩

theorem checkManifest_iff_missing : ∃ lines code,
    checkManifest exampleDir patternSeven = .ok (lines, code) ∧ code ≠ 0 := by
  have hcheck : ∃ r, checkManifest exampleDir patternSeven = .ok r := ⟨_, rfl⟩
  obtain ⟨⟨lines, code⟩, hcheck⟩ := hcheck
  refine ⟨lines, code, hcheck, fun hzero ↦ ?_⟩
  obtain ⟨-, hall, -⟩ := (checkManifest_iff hcheck).1.mp hzero
  -- the second test vector stands in an inner mapping
  have hneeds : Needs exampleDir patternSeven "TVnr_DLMIX_0002_gNB_FAPI_s0.h5".toList := by
    rw [Needs, if_neg (by decide)]
    refine .inr ⟨_, rfl, "TVnr_DLMIX_0002_gNB_FAPI_s0.h5".toList, ?_, by decide, by decide⟩
    apply Yaml.Holds.map List.mem_cons_self
    apply Yaml.Holds.seq (List.mem_cons_of_mem _ List.mem_cons_self)
    exact Yaml.Holds.map List.mem_cons_self .str
  have hthere := hall _ hneeds
  revert hthere
  decide

end Example

end AerialBridge
