import AerialBridge.Runtime.Metrics
import AerialBridge.Text.Fields

/-!
# What the bridge prints

The lines that the log parser reads, each with the values that its `fprintf` call converts.  Every
`%u` takes an `unsigned` and every `%llu` an `unsigned long long`.
-/

namespace AerialBridge

open Text

/-- The metrics in the order of the summary line. -/
def Metric.all : List Metric :=
  [.txDataReqs, .txDataBytes, .ulPuschPdus, .ulPucchPdus, .ulPrachPdus, .ulSrsPdus, .crcTotal,
    .crcOk, .crcFail, .rxDataPdus, .rxDataBytes, .uciTotal, .uciPusch, .uciPucch01, .uciPucch234,
    .rachTotal, .srsTotal]

def Metric.name : Metric → String
  | .txDataReqs => "tx_data_reqs"
  | .txDataBytes => "tx_data_bytes"
  | .ulPuschPdus => "ul_pusch_pdus"
  | .ulPucchPdus => "ul_pucch_pdus"
  | .ulPrachPdus => "ul_prach_pdus"
  | .ulSrsPdus => "ul_srs_pdus"
  | .crcTotal => "crc_total"
  | .crcOk => "crc_ok"
  | .crcFail => "crc_fail"
  | .rxDataPdus => "rx_data_pdus"
  | .rxDataBytes => "rx_data_bytes"
  | .uciTotal => "uci_total"
  | .uciPusch => "uci_pusch"
  | .uciPucch01 => "uci_pucch01"
  | .uciPucch234 => "uci_pucch234"
  | .rachTotal => "rach_total"
  | .srsTotal => "srs_total"

theorem Metric.mem_all (k : Metric) : k ∈ Metric.all := by
  cases k <;> decide

inductive UlChannel where
  | pusch
  | pucch
  deriving DecidableEq

inductive BridgeLine where
  /-- `[aerial_bridge] CRC.indication #%u sfn=%u slot=%u rnti=0x%04x harq=%u ok=%u` -/
  | crc (seq sfn slot rnti harq ok : UInt32)
  /-- `[aerial_bridge] UCI.indication #%u sfn=%u slot=%u type=PUSCH rnti=0x%04x harq=%u csi1=%u
  csi2=%u` -/
  | uciPusch (seq sfn slot rnti harq csi1 csi2 : UInt32)
  /-- `[aerial_bridge] UCI.indication #%u sfn=%u slot=%u type=PUCCH01 fmt=%u rnti=0x%04x sr=%u
  harq_bits=%u` -/
  | uciPucch01 (seq sfn slot fmt rnti sr harqBits : UInt32)
  /-- `[aerial_bridge] UCI.indication #%u sfn=%u slot=%u type=PUCCH234 fmt=%u rnti=0x%04x sr_bits=%u
  harq=%u csi1=%u csi2=%u` -/
  | uciPucch234 (seq sfn slot fmt rnti srBits harq csi1 csi2 : UInt32)
  /-- `[aerial_bridge] UL serialize type=%s sfn=%u slot=%u rnti=0x%04x fmt/layers=%u prb=[%u,%u]
  sym=[%u,%u] harq_id/count=%u harq_bits=%u sr=%u csi1=%u` -/
  | ulSerialize (type : UlChannel) (sfn slot rnti formatOrLayers prbStart prbSize symStart symLen
      harqIdOrCount harqBits srBits csi1Bits : UInt32)
  /-- `[aerial_bridge][summary] tx_data_reqs=%llu tx_data_bytes=%llu …` -/
  | summary (m : BridgeRuntimeMetrics)

namespace BridgeLine

/-- The text in front of the first field. -/
def head : BridgeLine → List Char
  | summary _ => "[aerial_bridge][summary]".toList
  | _ => "[aerial_bridge] ".toList

theorem head_eq (l : BridgeLine) :
    l.head = "[aerial_bridge] ".toList ∨ l.head = "[aerial_bridge][summary]".toList := by
  cases l with
  | summary m => exact Or.inr rfl
  | _ => exact Or.inl rfl

/-- The printed fields, each under the name of the group that captures it. -/
def fields : BridgeLine → List Field
  | crc seq sfn slot rnti harq ok => [
      .u "CRC.indication #" "seq" seq.toNat, .u " sfn=" "sfn" sfn.toNat,
      .u " slot=" "slot" slot.toNat, .x " rnti=0x" "rnti" rnti.toNat,
      .u " harq=" "harq" harq.toNat, .u " ok=" "ok" ok.toNat]
  | uciPusch seq sfn slot rnti harq csi1 csi2 => [
      .u "UCI.indication #" "seq" seq.toNat, .u " sfn=" "sfn" sfn.toNat,
      .u " slot=" "slot" slot.toNat, .x " type=PUSCH rnti=0x" "rnti" rnti.toNat,
      .u " harq=" "harq" harq.toNat, .u " csi1=" "csi1" csi1.toNat,
      .u " csi2=" "csi2" csi2.toNat]
  | uciPucch01 seq sfn slot fmt rnti sr harqBits => [
      .u "UCI.indication #" "seq" seq.toNat, .u " sfn=" "sfn" sfn.toNat,
      .u " slot=" "slot" slot.toNat, .u " type=PUCCH01 fmt=" "fmt" fmt.toNat,
      .x " rnti=0x" "rnti" rnti.toNat, .u " sr=" "sr" sr.toNat,
      .u " harq_bits=" "harq_bits" harqBits.toNat]
  | uciPucch234 seq sfn slot fmt rnti srBits harq csi1 csi2 => [
      .u "UCI.indication #" "seq" seq.toNat, .u " sfn=" "sfn" sfn.toNat,
      .u " slot=" "slot" slot.toNat, .u " type=PUCCH234 fmt=" "fmt" fmt.toNat,
      .x " rnti=0x" "rnti" rnti.toNat, .u " sr_bits=" "sr_bits" srBits.toNat,
      .u " harq=" "harq" harq.toNat, .u " csi1=" "csi1" csi1.toNat,
      .u " csi2=" "csi2" csi2.toNat]
  | ulSerialize .pusch sfn slot rnti formatOrLayers prbStart prbSize symStart symLen harqIdOrCount
      harqBits srBits csi1Bits => [
      .u "UL serialize type=PUSCH sfn=" "sfn" sfn.toNat, .u " slot=" "slot" slot.toNat,
      .x " rnti=0x" "rnti" rnti.toNat, .u " fmt/layers=" "layers" formatOrLayers.toNat,
      .u " prb=[" "prb_start" prbStart.toNat, .u "," "prb_size" prbSize.toNat,
      .u "] sym=[" "sym_start" symStart.toNat, .u "," "sym_len" symLen.toNat,
      .u "] harq_id/count=" "harq" harqIdOrCount.toNat,
      .u " harq_bits=" "harq_bits" harqBits.toNat, .u " sr=" "sr" srBits.toNat,
      .u " csi1=" "csi1" csi1Bits.toNat]
  | ulSerialize .pucch sfn slot rnti formatOrLayers prbStart prbSize symStart symLen harqIdOrCount
      harqBits srBits csi1Bits => [
      .u "UL serialize type=PUCCH sfn=" "sfn" sfn.toNat, .u " slot=" "slot" slot.toNat,
      .x " rnti=0x" "rnti" rnti.toNat, .u " fmt/layers=" "fmt" formatOrLayers.toNat,
      .u " prb=[" "prb_start" prbStart.toNat, .u "," "prb_size" prbSize.toNat,
      .u "] sym=[" "sym_start" symStart.toNat, .u "," "sym_len" symLen.toNat,
      .u "] harq_id/count=" "harq_count" harqIdOrCount.toNat,
      .u " harq_bits=" "harq_bits" harqBits.toNat, .u " sr=" "sr" srBits.toNat,
      .u " csi1=" "csi1" csi1Bits.toNat]
  | summary m => Metric.all.map fun k ↦
      ⟨⟨' ' :: (k.name.toList ++ ['=']), k.name, 10⟩, 0, (m k).toNat, Or.inl rfl⟩

/-- The line without its newline. -/
def text (l : BridgeLine) : List Char := l.head ++ printFields l.fields

/-- The character stands in none of the fixed text of a line. -/
def lacks (m : Char) (l : BridgeLine) : Bool := !l.head.contains m && lacking m l.fields

theorem not_mem_head {m : Char} {l : BridgeLine} (h : l.lacks m = true) : m ∉ l.head := by
  rw [lacks, Bool.and_eq_true] at h
  simpa using h.1

theorem not_mem_before {m : Char} {l : BridgeLine} (h : l.lacks m = true) :
    ∀ f ∈ l.fields, m ∉ f.before := by
  rw [lacks, Bool.and_eq_true] at h
  exact not_mem_of_lacking h.2

theorem not_mem_text {m : Char} (hm : isHexDigit m = false) {l : BridgeLine}
    (h : l.lacks m = true) : m ∉ l.text := by
  rw [text, List.mem_append, not_or]
  exact ⟨not_mem_head h, not_mem_printFields hm (not_mem_before h)⟩

theorem newline_not_mem_text (l : BridgeLine) : '\n' ∉ l.text := by
  apply not_mem_text (by decide)
  cases l with
  | ulSerialize type => cases type <;> rfl
  | _ => rfl

example : (crc 1 5 2 0x4601 3 1).text =
    "[aerial_bridge] CRC.indication #1 sfn=5 slot=2 rnti=0x4601 harq=3 ok=1".toList := by decide

end BridgeLine

/-- What the lines of a log add up to. -/
def logText (lines : List BridgeLine) : List Char := unlines (lines.map BridgeLine.text)

end AerialBridge
