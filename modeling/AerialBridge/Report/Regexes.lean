import AerialBridge.Runtime.LogLines
import AerialBridge.Text.Tokens
import AerialBridge.Collections.Dict

/-!
# Reading the bridge's lines back

The regular expressions with which `characterize_integration.py` reads the bridge's lines, and the
counters it takes from the summary line.
-/

namespace AerialBridge

open Text

inductive BridgeKind where
  | crc
  | uciPusch
  | uciPucch01
  | uciPucch234
  | ulPusch
  | ulPucch
  deriving DecidableEq

def bridgeCrcRe : FieldRegex where
  first := .d "CRC.indication #" "seq"
  rest := [.d " sfn=" "sfn", .d " slot=" "slot", .h " rnti=0x" "rnti", .d " harq=" "harq",
    .d " ok=" "ok"]
  first_ne_nil := by decide
  rest_stops := by decide
  onLine := by decide
  distinct := by decide

def bridgeUciPuschRe : FieldRegex where
  first := .d "UCI.indication #" "seq"
  rest := [.d " sfn=" "sfn", .d " slot=" "slot", .h " type=PUSCH rnti=0x" "rnti",
    .d " harq=" "harq", .d " csi1=" "csi1", .d " csi2=" "csi2"]
  first_ne_nil := by decide
  rest_stops := by decide
  onLine := by decide
  distinct := by decide

def bridgeUciPucch01Re : FieldRegex where
  first := .d "UCI.indication #" "seq"
  rest := [.d " sfn=" "sfn", .d " slot=" "slot", .d " type=PUCCH01 fmt=" "fmt",
    .h " rnti=0x" "rnti", .d " sr=" "sr", .d " harq_bits=" "harq_bits"]
  first_ne_nil := by decide
  rest_stops := by decide
  onLine := by decide
  distinct := by decide

def bridgeUciPucch234Re : FieldRegex where
  first := .d "UCI.indication #" "seq"
  rest := [.d " sfn=" "sfn", .d " slot=" "slot", .d " type=PUCCH234 fmt=" "fmt",
    .h " rnti=0x" "rnti", .d " sr_bits=" "sr_bits", .d " harq=" "harq", .d " csi1=" "csi1",
    .d " csi2=" "csi2"]
  first_ne_nil := by decide
  rest_stops := by decide
  onLine := by decide
  distinct := by decide

def ulPuschSerializeRe : FieldRegex where
  first := .d "UL serialize type=PUSCH sfn=" "sfn"
  rest := [.d " slot=" "slot", .h " rnti=0x" "rnti", .d " fmt/layers=" "layers",
    .d " prb=[" "prb_start", .d "," "prb_size", .d "] sym=[" "sym_start", .d "," "sym_len",
    .d "] harq_id/count=" "harq", .d " harq_bits=" "harq_bits", .d " sr=" "sr",
    .d " csi1=" "csi1"]
  first_ne_nil := by decide
  rest_stops := by decide
  onLine := by decide
  distinct := by decide

def ulPucchSerializeRe : FieldRegex where
  first := .d "UL serialize type=PUCCH sfn=" "sfn"
  rest := [.d " slot=" "slot", .h " rnti=0x" "rnti", .d " fmt/layers=" "fmt",
    .d " prb=[" "prb_start", .d "," "prb_size", .d "] sym=[" "sym_start", .d "," "sym_len",
    .d "] harq_id/count=" "harq_count", .d " harq_bits=" "harq_bits", .d " sr=" "sr",
    .d " csi1=" "csi1"]
  first_ne_nil := by decide
  rest_stops := by decide
  onLine := by decide
  distinct := by decide

def BridgeKind.re : BridgeKind → FieldRegex
  | crc => bridgeCrcRe
  | uciPusch => bridgeUciPuschRe
  | uciPucch01 => bridgeUciPucch01Re
  | uciPucch234 => bridgeUciPucch234Re
  | ulPusch => ulPuschSerializeRe
  | ulPucch => ulPucchSerializeRe

def BridgeLine.kind? : BridgeLine → Option BridgeKind
  | crc .. => some .crc
  | uciPusch .. => some .uciPusch
  | uciPucch01 .. => some .uciPucch01
  | uciPucch234 .. => some .uciPucch234
  | ulSerialize .pusch .. => some .ulPusch
  | ulSerialize .pucch .. => some .ulPucch
  | summary _ => none

/-! ## A line and a pattern

`#` stands once in every indication line and `L` once in every serialize line, both in the text that
the patterns for these lines start with, and neither in any other line.
-/

namespace BridgeKind

def marker : BridgeKind → Char
  | ulPusch => 'L'
  | ulPucch => 'L'
  | _ => '#'

/-- The leading text of a pattern in front of its marker. -/
def front : BridgeKind → List Char
  | crc => "CRC.indication ".toList
  | ulPusch => "U".toList
  | ulPucch => "U".toList
  | _ => "UCI.indication ".toList

def back : BridgeKind → List Char
  | ulPusch => " serialize type=PUSCH sfn=".toList
  | ulPucch => " serialize type=PUCCH sfn=".toList
  | _ => []

theorem re_tag (k : BridgeKind) : k.re.first.before = k.front ++ k.marker :: k.back := by
  cases k <;> rfl

theorem marker_hex (k : BridgeKind) : isHexDigit k.marker = false := by
  cases k <;> decide

theorem marker_front (k : BridgeKind) : k.marker ∉ k.front := by
  cases k <;> decide

theorem marker_back (k : BridgeKind) : k.marker ∉ k.back := by
  cases k <;> decide

theorem marker_tag (k : BridgeKind) : k.marker ∈ k.re.first.before := by
  rw [re_tag]
  simp

end BridgeKind

theorem marker_head (k : BridgeKind) (l : BridgeLine) : k.marker ∉ l.head := by
  cases l.head_eq with
  | inl h => rw [h]; cases k <;> decide
  | inr h => rw [h]; cases k <;> decide

/-- A line with the fields of the pattern's kind. -/
theorem findNumbers_kind {k : BridgeKind} {l : BridgeLine}
    (hgroups : l.fields.map Field.toCapture = k.re.groups)
    (habsent : lacking k.marker l.fields.tail = true) :
    k.re.findNumbers l.text = [fieldNumbers l.fields] :=
  findNumbers_own k.marker_hex k.re_tag k.marker_front k.marker_back (marker_head k l) hgroups
    (not_mem_of_lacking habsent)

/-- A line without the pattern's marker. -/
theorem findNumbers_lacks {k : BridgeKind} {l : BridgeLine} (h : l.lacks k.marker = true) :
    k.re.findNumbers l.text = [] :=
  findNumbers_absent k.marker_hex (BridgeLine.not_mem_head h) k.marker_tag
    (BridgeLine.not_mem_before h)

/-- A line whose marker does not stand behind the pattern's text, or stands in front of another. -/
theorem findNumbers_otherText {k : BridgeKind} {l : BridgeLine} (a b : List Char) {f : Field}
    {fs : List Field} (hfields : l.fields = f :: fs) (hf : f.before = a ++ k.marker :: b)
    (hab : k.marker ∉ a ∧ k.marker ∉ b) (habsent : lacking k.marker fs = true)
    (hother : k.front.isSuffixOf (l.head ++ a) = false ∨
      (a = k.front ∧ clash k.re.first.before f.before = true)) :
    k.re.findNumbers l.text = [] := by
  rw [BridgeLine.text, hfields]
  apply findNumbers_otherTag k.marker_hex k.re_tag k.marker_front (marker_head k l) hf hab.1 hab.2
    (not_mem_of_lacking habsent)
  cases hother with
  | inl hfront =>
    left
    rw [← List.isSuffixOf_iff_suffix, hfront]
    decide
  | inr hback =>
    right
    rw [printFields_cons]
    exact ⟨hback.1, not_prefix_append hback.2 _⟩

/-- A line that starts like the lines of the pattern's kind and then goes on differently. -/
theorem findNumbers_otherField {k : BridgeKind} {l : BridgeLine} {f g : Field}
    (pre : List Field) {fs : List Field} (hfields : l.fields = f :: (pre ++ g :: fs)) {c : Capture}
    {cs : List Capture} (hgroups : k.re.groups = (f :: pre).map Field.toCapture ++ c :: cs)
    (hstops : ((pre ++ g :: fs).all fun g ↦ stops g.before) = true)
    (habsent : lacking k.marker (pre ++ g :: fs) = true) (hne : clash c.before g.before = true) :
    k.re.findNumbers l.text = [] := by
  rw [BridgeLine.text, hfields]
  apply findNumbers_differs k.marker_hex k.re_tag k.marker_front k.marker_back (marker_head k l)
    hgroups (fun g hg ↦ List.all_eq_true.mp hstops g hg) (not_mem_of_lacking habsent)
  rw [printFields_cons]
  exact not_prefix_append hne _

theorem findNumbers_own_kind {k : BridgeKind} {l : BridgeLine} (h : l.kind? = some k) :
    k.re.findNumbers l.text = [fieldNumbers l.fields] := by
  cases l with
  | summary m => cases h
  | ulSerialize type =>
    cases type <;> cases h <;> exact findNumbers_kind rfl rfl
  | _ => cases h; exact findNumbers_kind rfl rfl

theorem findNumbers_crc_uci {l : BridgeLine} (hhead : l.head = "[aerial_bridge] ".toList) {n : Nat}
    {fs : List Field} (hfields : l.fields = .u "UCI.indication #" "seq" n :: fs)
    (habsent : lacking '#' fs = true) : BridgeKind.crc.re.findNumbers l.text = [] := by
  have habsent' : lacking BridgeKind.crc.marker fs = true := habsent
  apply findNumbers_otherText "UCI.indication ".toList [] hfields rfl (by decide) habsent'
  left
  rw [hhead]
  decide

theorem findNumbers_uci_crc {k : BridgeKind} (hfront : k.front = "UCI.indication ".toList)
    (hmarker : k.marker = '#') (seq sfn slot rnti harq ok : UInt32) :
    k.re.findNumbers (BridgeLine.crc seq sfn slot rnti harq ok).text = [] := by
  apply findNumbers_otherText "CRC.indication ".toList [] rfl
  · rw [hmarker]; rfl
  · rw [hmarker]; decide
  · rw [hmarker]; rfl
  · left
    rw [hfront]
    show "UCI.indication ".toList.isSuffixOf
      ("[aerial_bridge] ".toList ++ "CRC.indication ".toList) = false
    decide

/-- A line of another kind. -/
theorem findNumbers_other_kind {k : BridgeKind} {l : BridgeLine} (h : l.kind? ≠ some k) :
    k.re.findNumbers l.text = [] := by
  -- a line without the marker, with the marker behind another text, or with other fields behind
  -- the text that the pattern starts with
  cases l with
  | summary m => cases k <;> exact findNumbers_lacks rfl
  | crc seq sfn slot rnti harq ok =>
    cases k with
    | crc => exact absurd rfl h
    | ulPusch => exact findNumbers_lacks rfl
    | ulPucch => exact findNumbers_lacks rfl
    | _ => exact findNumbers_uci_crc rfl rfl seq sfn slot rnti harq ok
  | uciPusch seq sfn slot =>
    cases k with
    | crc => exact findNumbers_crc_uci rfl rfl rfl
    | uciPusch => exact absurd rfl h
    | ulPusch => exact findNumbers_lacks rfl
    | ulPucch => exact findNumbers_lacks rfl
    | _ =>
      exact findNumbers_otherField [.u " sfn=" "sfn" sfn.toNat, .u " slot=" "slot" slot.toNat]
        rfl rfl rfl rfl rfl
  | uciPucch01 seq sfn slot =>
    cases k with
    | crc => exact findNumbers_crc_uci rfl rfl rfl
    | uciPucch01 => exact absurd rfl h
    | ulPusch => exact findNumbers_lacks rfl
    | ulPucch => exact findNumbers_lacks rfl
    | _ =>
      exact findNumbers_otherField [.u " sfn=" "sfn" sfn.toNat, .u " slot=" "slot" slot.toNat]
        rfl rfl rfl rfl rfl
  | uciPucch234 seq sfn slot =>
    cases k with
    | crc => exact findNumbers_crc_uci rfl rfl rfl
    | uciPucch234 => exact absurd rfl h
    | ulPusch => exact findNumbers_lacks rfl
    | ulPucch => exact findNumbers_lacks rfl
    | _ =>
      exact findNumbers_otherField [.u " sfn=" "sfn" sfn.toNat, .u " slot=" "slot" slot.toNat]
        rfl rfl rfl rfl rfl
  | ulSerialize type =>
    cases type with
    | pusch =>
      cases k with
      | ulPusch => exact absurd rfl h
      | ulPucch =>
        exact findNumbers_otherText "U".toList " serialize type=PUSCH sfn=".toList rfl rfl
          (by decide) rfl (Or.inr ⟨rfl, rfl⟩)
      | _ => exact findNumbers_lacks rfl
    | pucch =>
      cases k with
      | ulPucch => exact absurd rfl h
      | ulPusch =>
        exact findNumbers_otherText "U".toList " serialize type=PUCCH sfn=".toList rfl rfl
          (by decide) rfl (Or.inr ⟨rfl, rfl⟩)
      | _ => exact findNumbers_lacks rfl

/-! ## The summary line -/

/-- `SUMMARY_RE`. -/
def summaryRe : LineRegex where
  tag := "[aerial_bridge][summary] ".toList
  body := .run "body" (· != '\n')
  tag_ne_nil := by decide
  tag_onLine := by decide
  body_onLine := by decide

/-- One turn of the loop over the words of the summary's body. -/
def addAssignment (summary : Dict (List Char) Int) (token : List Char) : Dict (List Char) Int :=
  match splitAt? '=' token with
  | none => summary
  | some (key, value) =>
    match readInt? value with
    | some n => summary.set key n
    | none => summary

def parseSummary (gnbStdout : List Char) : Dict (List Char) Int :=
  match summaryRe.search gnbStdout with
  | none => .empty
  | some gs => (words (gs.group "body")).foldl addAssignment .empty

/-- The entries of a summary's counters, in the order in which they are printed. -/
def counterEntries (m : BridgeRuntimeMetrics) : List (List Char × Int) :=
  Metric.all.map fun k ↦ (k.name.toList, ((m k).toNat : Int))

/-- A metric as the summary line prints it. -/
def counterToken (m : BridgeRuntimeMetrics) (k : Metric) : List Char :=
  k.name.toList ++ '=' :: decimal (m k).toNat

theorem printFields_summary (m : BridgeRuntimeMetrics) :
    printFields (BridgeLine.summary m).fields =
      (Metric.all.map (counterToken m)).flatMap fun w ↦ ' ' :: w := by
  rw [printFields, BridgeLine.fields, List.flatMap_map, List.flatMap_map]
  congr 1
  funext k
  simp [Field.print, Field.digits, counterToken]

/-- What the summary's group captures. -/
def summaryBody (m : BridgeRuntimeMetrics) : List Char :=
  (printFields (BridgeLine.summary m).fields).tail

theorem printFields_summary_eq (m : BridgeRuntimeMetrics) :
    printFields (BridgeLine.summary m).fields = ' ' :: summaryBody m := by
  rw [summaryBody, printFields_summary]
  rfl

theorem counterToken_words (m : BridgeRuntimeMetrics) :
    words (summaryBody m) = Metric.all.map (counterToken m) := by
  rw [← words_space, ← printFields_summary_eq, printFields_summary]
  apply words_flatMap
  · intro w hw
    obtain ⟨k, _, rfl⟩ := List.mem_map.mp hw
    exact List.append_ne_nil_of_right_ne_nil _ (List.cons_ne_nil _ _)
  · intro w hw c hc
    obtain ⟨k, _, rfl⟩ := List.mem_map.mp hw
    rw [counterToken, List.mem_append, List.mem_cons] at hc
    rcases hc with hc | rfl | hc
    · have hname : ∀ k : Metric, k.name.toList.all (fun c ↦ !isSpace c) = true := by
        intro k
        cases k <;> decide
      simpa using List.all_eq_true.mp (hname k) c hc
    · decide
    · exact isSpace_of_isDigit (isDigit_of_mem_numeral hc)

theorem addAssignment_counter (m : BridgeRuntimeMetrics) (d : Dict (List Char) Int) (k : Metric) :
    addAssignment d (counterToken m k) = d.set k.name.toList ((m k).toNat : Int) := by
  have hname : '=' ∉ k.name.toList := by cases k <;> decide
  rw [addAssignment, counterToken, splitAt?_append hname]
  simp only [readInt?_decimal]

/-- The words of the body give the counters. -/
theorem foldl_counters (m : BridgeRuntimeMetrics) :
    ((words (summaryBody m)).foldl addAssignment .empty).entries = counterEntries m := by
  have hfold : (words (summaryBody m)).foldl addAssignment .empty = .ofList (counterEntries m) := by
    rw [counterToken_words, List.foldl_map, Dict.ofList, counterEntries, List.foldl_map]
    simp only [addAssignment_counter]
  have hnodup : ((counterEntries m).map Prod.fst).Nodup := by
    rw [counterEntries, List.map_map]
    show (Metric.all.map fun k ↦ k.name.toList).Nodup
    decide
  rw [hfold, Dict.entries_ofList hnodup]

theorem summaryRe_summary (m : BridgeRuntimeMetrics) :
    summaryRe.finditer (BridgeLine.summary m).text = [[("body", summaryBody m)]] := by
  have hline : (BridgeLine.summary m).text = [] ++ (summaryRe.tag ++ summaryBody m) := by
    rw [BridgeLine.text, printFields_summary_eq]
    rfl
  have hbody : ∀ c, c ∉ (BridgeLine.summary m).text → c ∉ summaryBody m := fun c hc hmem ↦ by
    rw [hline] at hc
    exact hc (List.mem_append_right _ (List.mem_append_right _ hmem))
  have hg : 'g' ∉ summaryBody m := fun hmem ↦ by
    have hfields : 'g' ∉ printFields (BridgeLine.summary m).fields :=
      not_mem_printFields (by decide) (not_mem_of_lacking rfl)
    rw [printFields_summary_eq] at hfields
    exact hfields (List.mem_cons_of_mem _ hmem)
  have hnewline := hbody '\n' (BridgeLine.newline_not_mem_text _)
  have hne : summaryBody m ≠ [] := fun h ↦ by
    have hlen := congrArg List.length (counterToken_words m)
    rw [h, List.length_map] at hlen
    exact absurd hlen (by decide)
  have hmatch : summaryRe.body.match? (summaryBody m) =
      some ⟨[("body", summaryBody m)], summaryBody m, []⟩ :=
    Pattern.match?_run "body" hne fun c hc ↦ by
      have hcn : c ≠ '\n' := fun h ↦ hnewline (h ▸ hc)
      simpa using hcn
  have htag : summaryRe.tag = "[aerial_brid".toList ++ 'g' :: "e][summary] ".toList := rfl
  rw [hline, LineRegex.finditer_tagged htag (by decide) (by decide) List.not_mem_nil hg, hmatch]
  rfl

theorem summaryRe_other {l : BridgeLine} (hhead : l.head = "[aerial_bridge] ".toList)
    (habsent : lacking 'g' l.fields = true) : summaryRe.finditer l.text = [] := by
  have htag : summaryRe.tag = "[aerial_brid".toList ++ 'g' :: "e][summary] ".toList := rfl
  have hrest : 'g' ∉ "e] ".toList ++ printFields l.fields := by
    rw [List.mem_append, not_or]
    exact ⟨by decide, not_mem_printFields (by decide) (not_mem_of_lacking habsent)⟩
  have hline : l.text =
      [] ++ ("[aerial_brid".toList ++ 'g' :: ("e] ".toList ++ printFields l.fields)) := by
    rw [BridgeLine.text, hhead]
    rfl
  have hno : ¬ summaryRe.tag <+: "[aerial_bridge] ".toList ++ printFields l.fields :=
    not_prefix_append (by decide) _
  have hnone : summaryRe.pattern.match?
      ("[aerial_brid".toList ++ 'g' :: ("e] ".toList ++ printFields l.fields)) = none :=
    LineRegex.match?_none hno
  rw [hline, LineRegex.finditer_marker htag (by decide) List.not_mem_nil hrest, hnone]
  rfl

/-! ## A whole log -/

def BridgeLine.counters? : BridgeLine → Option BridgeRuntimeMetrics
  | summary m => some m
  | _ => none

theorem summaryRe_line (l : BridgeLine) :
    summaryRe.finditer l.text = (l.counters?.map fun m ↦ [("body", summaryBody m)]).toList := by
  cases l with
  | summary m => exact summaryRe_summary m
  | ulSerialize type => cases type <;> exact summaryRe_other rfl rfl
  | _ => exact summaryRe_other rfl rfl

theorem findNumbers_line (k : BridgeKind) (l : BridgeLine) :
    k.re.findNumbers l.text = if l.kind? = some k then [fieldNumbers l.fields] else [] := by
  by_cases h : l.kind? = some k
  · rw [if_pos h, findNumbers_own_kind h]
  · rw [if_neg h, findNumbers_other_kind h]

theorem newline_not_mem_lines (lines : List BridgeLine) :
    ∀ t ∈ lines.map BridgeLine.text, '\n' ∉ t := fun t ht ↦ by
  obtain ⟨l, _, rfl⟩ := List.mem_map.mp ht
  exact l.newline_not_mem_text

theorem findNumbers_logText (k : BridgeKind) (lines : List BridgeLine) :
    k.re.findNumbers (logText lines) =
      (lines.filter fun l ↦ l.kind? = some k).map fun l ↦ fieldNumbers l.fields := by
  rw [logText, k.re.findNumbers_unlines (newline_not_mem_lines lines), List.flatMap_map]
  induction lines with
  | nil => rfl
  | cons l lines ih =>
    rw [List.flatMap_cons, ih, findNumbers_line]
    by_cases h : l.kind? = some k
    · simp [h]
    · simp [h]

theorem search_logText (lines : List BridgeLine) :
    summaryRe.search (logText lines) =
      (lines.findSome? BridgeLine.counters?).map fun m ↦ [("body", summaryBody m)] := by
  rw [LineRegex.search, logText, summaryRe.finditer_unlines (newline_not_mem_lines lines),
    List.flatMap_map]
  induction lines with
  | nil => rfl
  | cons l lines ih =>
    rw [List.flatMap_cons, summaryRe_line, List.findSome?_cons]
    cases hl : l.counters? with
    | none => exact ih
    | some m => rfl

/-- The counters under their names. -/
theorem get?_counters {d : Dict (List Char) Int} {m : BridgeRuntimeMetrics}
    (h : d.entries = counterEntries m) (k : Metric) :
    d.get? k.name.toList = some ((m k).toNat : Int) := by
  rw [← Dict.mem_entries_iff, h]
  exact List.mem_map_of_mem k.mem_all

theorem logText_counters {lines : List BridgeLine} {m : BridgeRuntimeMetrics}
    (h : lines.findSome? BridgeLine.counters? = some m) :
    (parseSummary (logText lines)).entries = counterEntries m := by
  rw [parseSummary, search_logText, h]
  exact foldl_counters m

/-- Reading a log of the bridge's lines gives back what was printed: each regular expression finds
the lines of its own kind, in order and with the printed values, and the summary gives the counters
of the first summary line. -/
theorem logText_readBack (lines : List BridgeLine) :
    (∀ k : BridgeKind, k.re.findNumbers (logText lines) =
        (lines.filter fun l ↦ l.kind? = some k).map fun l ↦ fieldNumbers l.fields) ∧
      (parseSummary (logText lines)).entries =
        match lines.findSome? BridgeLine.counters? with
        | none => []
        | some m => counterEntries m := by
  apply And.intro
  · exact fun k ↦ findNumbers_logText k lines
  · cases h : lines.findSome? BridgeLine.counters? with
    | none =>
      rw [parseSummary, search_logText, h]
      rfl
    | some m => exact logText_counters h

end AerialBridge
