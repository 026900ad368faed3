import AerialBridge.Collections.Sampling
import AerialBridge.Report.Characterize

/-!
# What the patched L1 prints

`gpu_comm_standalone_fix.py` puts two `fprintf` statements into L1, one behind the parsing of each
PUSCH PDU and one behind each CRC that L1 emits.  Each prints its first 128 lines.
-/

namespace AerialBridge

open Text Sampling

inductive L1Statement where
  | puschParse
  | crcEmit
  deriving DecidableEq

inductive L1Line where
  /-- `FAPI PUSCH parse SFN %u.%u rnti=%u harqProcessId=%u rv=%u ndi=%u tbSize=%u startPrb=%u
  nPrb=%u startSym=%u nSym=%u` -/
  | puschParse (sfn slot rnti harqProcessId rv ndi tbSize startPrb nPrb startSym nSym : UInt32)
  /-- `FAPI CRC emit SFN %u.%u rnti=%u harq_id=%u tb_crc_status=%u handle=%u` -/
  | crcEmit (sfn slot rnti harqId tbCrcStatus handle : UInt32)

def L1Statement.re : L1Statement → FieldRegex
  | puschParse => l1PuschParseRe
  | crcEmit => l1CrcEmitRe

namespace L1Statement

/-! The `U` of `PUSCH` and the `R` of `CRC` stand once in the lines of their own statement, and
nowhere in the lines of the other. -/

def marker : L1Statement → Char
  | puschParse => 'U'
  | crcEmit => 'R'

def front : L1Statement → List Char
  | puschParse => "FAPI P".toList
  | crcEmit => "FAPI C".toList

def back : L1Statement → List Char
  | puschParse => "SCH parse SFN ".toList
  | crcEmit => "C emit SFN ".toList

theorem re_tag (k : L1Statement) : k.re.first.before = k.front ++ k.marker :: k.back := by
  cases k <;> rfl

theorem marker_hex (k : L1Statement) : isHexDigit k.marker = false := by
  cases k <;> decide

theorem marker_front (k : L1Statement) : k.marker ∉ k.front := by
  cases k <;> decide

theorem marker_back (k : L1Statement) : k.marker ∉ k.back := by
  cases k <;> decide

theorem marker_tag (k : L1Statement) : k.marker ∈ k.re.first.before := by
  rw [re_tag]
  exact List.mem_append_right _ List.mem_cons_self

end L1Statement

namespace L1Line

def statement : L1Line → L1Statement
  | puschParse .. => .puschParse
  | crcEmit .. => .crcEmit

def fields : L1Line → List Field
  | puschParse sfn slot rnti harqProcessId rv ndi tbSize startPrb nPrb startSym nSym => [
      .u "FAPI PUSCH parse SFN " "sfn" sfn.toNat, .u "." "slot" slot.toNat,
      .u " rnti=" "rnti" rnti.toNat, .u " harqProcessId=" "harq" harqProcessId.toNat,
      .u " rv=" "rv" rv.toNat, .u " ndi=" "ndi" ndi.toNat, .u " tbSize=" "tb_size" tbSize.toNat,
      .u " startPrb=" "prb_start" startPrb.toNat, .u " nPrb=" "prb_size" nPrb.toNat,
      .u " startSym=" "sym_start" startSym.toNat, .u " nSym=" "sym_len" nSym.toNat]
  | crcEmit sfn slot rnti harqId tbCrcStatus handle => [
      .u "FAPI CRC emit SFN " "sfn" sfn.toNat, .u "." "slot" slot.toNat,
      .u " rnti=" "rnti" rnti.toNat, .u " harq_id=" "harq" harqId.toNat,
      .u " tb_crc_status=" "status" tbCrcStatus.toNat, .u " handle=" "handle" handle.toNat]

def text (l : L1Line) : List Char := printFields l.fields

theorem newline_not_mem_text (l : L1Line) : '\n' ∉ l.text := by
  cases l with
  | puschParse => exact not_mem_printFields (by decide) (not_mem_of_lacking rfl)
  | crcEmit => exact not_mem_printFields (by decide) (not_mem_of_lacking rfl)

/-- A line is read by the pattern of its statement. -/
theorem findNumbers_own (l : L1Line) :
    l.statement.re.findNumbers l.text = [fieldNumbers l.fields] := by
  show l.statement.re.findNumbers ([] ++ printFields l.fields) = _
  have habsent : ∀ f ∈ l.fields.tail, l.statement.marker ∉ f.before := by
    cases l with
    | puschParse => exact not_mem_of_lacking rfl
    | crcEmit => exact not_mem_of_lacking rfl
  have hgroups : l.fields.map Field.toCapture = l.statement.re.groups := by
    cases l <;> rfl
  exact Text.findNumbers_own l.statement.marker_hex l.statement.re_tag l.statement.marker_front
    l.statement.marker_back List.not_mem_nil hgroups habsent

theorem findNumbers_other {l : L1Line} {k : L1Statement} (h : l.statement ≠ k) :
    k.re.findNumbers l.text = [] := by
  show k.re.findNumbers ([] ++ printFields l.fields) = []
  have habsent : ∀ f ∈ l.fields, k.marker ∉ f.before := by
    cases l with
    | puschParse =>
      cases k with
      | puschParse => exact absurd rfl h
      | crcEmit => exact not_mem_of_lacking rfl
    | crcEmit =>
      cases k with
      | puschParse => exact not_mem_of_lacking rfl
      | crcEmit => exact absurd rfl h
  exact findNumbers_absent k.marker_hex List.not_mem_nil k.marker_tag habsent

end L1Line

/-- A log of these lines. -/
def l1LogText (lines : List L1Line) : List Char := unlines (lines.map L1Line.text)

/-- Each pattern reads back the lines of its own statement. -/
theorem findNumbers_l1LogText (k : L1Statement) (lines : List L1Line) :
    k.re.findNumbers (l1LogText lines) =
      (lines.filter fun l ↦ l.statement = k).map fun l ↦ fieldNumbers l.fields := by
  have hnewline : ∀ t ∈ lines.map L1Line.text, '\n' ∉ t := fun t ht ↦ by
    obtain ⟨l, _, rfl⟩ := List.mem_map.mp ht
    exact l.newline_not_mem_text
  rw [l1LogText, k.re.findNumbers_unlines hnewline, List.flatMap_map]
  induction lines with
  | nil => rfl
  | cons l lines ih =>
    have hlines := ih fun t ht ↦ hnewline t (List.mem_cons_of_mem _ ht)
    rw [List.flatMap_cons, hlines]
    by_cases h : l.statement = k
    · rw [List.filter_cons_of_pos (by simpa using h), List.map_cons, ← h, l.findNumbers_own]
      rfl
    · rw [List.filter_cons_of_neg (by simpa using h), L1Line.findNumbers_other h]
      rfl

/-- What L1 prints: `if (count < 128)` stands around both statements. -/
def l1Printed (lines : List L1Line) : List L1Line :=
  (passFrom L1Line.statement (fun _ ↦ first 128) (fun _ ↦ 0) lines).map Prod.snd

theorem l1Printed_filter (k : L1Statement) (lines : List L1Line) :
    (l1Printed lines).filter (fun l ↦ l.statement = k) =
      (lines.filter fun l ↦ l.statement = k).take 128 := by
  have hpass := passFrom_filter L1Line.statement (fun _ ↦ first 128) (fun _ ↦ 0) lines k
  rw [l1Printed, List.filter_map]
  show ((passFrom _ _ _ lines).filter fun p ↦ decide (p.2.statement = k)).map Prod.snd = _
  rw [hpass]
  exact sampleFrom_first 128 0 (by decide) _

end AerialBridge
