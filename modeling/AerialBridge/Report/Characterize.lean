import AerialBridge.Report.Regexes

/-!
# The integration report

What `characterize_integration.py` computes from the three logs of a run for its verdict on the
uplink and for its channel signoff.  A match is kept as the numbers that its groups are read as.
-/

namespace AerialBridge

open Text

/-- The groups of a match, each read as a number. -/
abbrev Numbers := List (String × Nat)

/-- `int(match.group(name))`, in the base that the group is printed in. -/
def Numbers.group (match_ : Numbers) (name : String) : Nat := (match_.lookup name).getD 0

def l1PuschParseRe : FieldRegex where
  first := .d "FAPI PUSCH parse SFN " "sfn"
  rest := [.d "." "slot", .d " rnti=" "rnti", .d " harqProcessId=" "harq", .d " rv=" "rv",
    .d " ndi=" "ndi", .d " tbSize=" "tb_size", .d " startPrb=" "prb_start", .d " nPrb=" "prb_size",
    .d " startSym=" "sym_start", .d " nSym=" "sym_len"]
  first_ne_nil := by decide
  rest_stops := by decide
  onLine := by decide
  distinct := by decide

def l1CrcEmitRe : FieldRegex where
  first := .d "FAPI CRC emit SFN " "sfn"
  rest := [.d "." "slot", .d " rnti=" "rnti", .d " harq_id=" "harq", .d " tb_crc_status=" "status",
    .d " handle=" "handle"]
  first_ne_nil := by decide
  rest_stops := by decide
  onLine := by decide
  distinct := by decide

/-- `.*` -/
def anyText : Pattern := .repeated (· != '\n') 0 none

/-- `(?P<name>\d+)` -/
def number (name : String) : Pattern := .run name Char.isDigit

def pdschRe : LineRegex where
  tag := "[pdsch_cw0]".toList
  body := .concat [anyText, .text "mcsTable=", number "mcs_table", .text " mcs=", number "mcs",
    .text " tcr=", number "tcr", .text " qm=", number "qm", anyText, .text "tbSize=",
    number "tb_size"]
  tag_ne_nil := by decide
  tag_onLine := by decide
  body_onLine := by decide

/-- The scheduled PDU that a match is about: its frame, slot, RNTI and HARQ process. -/
def ulKey (m : Numbers) : Nat × Nat × Nat × Nat :=
  (m.group "sfn", m.group "slot", m.group "rnti", m.group "harq")

/-- The allocation in a match. -/
def ulShape (m : Numbers) : Nat × Nat × Nat × Nat :=
  (m.group "prb_start", m.group "prb_size", m.group "sym_start", m.group "sym_len")

abbrev bridgeUlKey : Numbers → Nat × Nat × Nat × Nat := ulKey
abbrev l1UlKey : Numbers → Nat × Nat × Nat × Nat := ulKey
abbrev bridgeCrcKey : Numbers → Nat × Nat × Nat × Nat := ulKey
abbrev bridgeUlShape : Numbers → Nat × Nat × Nat × Nat := ulShape
abbrev l1UlShape : Numbers → Nat × Nat × Nat × Nat := ulShape

def samplePucchScheduleKey (m : Numbers) : Nat × Nat × Nat :=
  (m.group "sfn", m.group "slot", m.group "rnti")

def samplePucchFields (m : Numbers) : Nat × Nat × Nat :=
  (m.group "fmt", m.group "harq_bits", m.group "sr")

/-! ## Shutdown -/

def contains (line : List Char) (s : String) : Bool := occursIn s.toList line

def shutdownMarkers : List String :=
  ["PhyDriverCtx destructor starting", "[signal_handler] received signal 15",
    "Thread msg_processing exiting"]

/-- The line reports an uplink request for a slot gone by that L1 dropped while shutting down. -/
def isShutdownTail (previous : Option (List Char)) (line : List Char) (tail : List (List Char)) :
    Bool :=
  contains line "Send Err.ind" && contains line "msg_id=0x81" && contains line "err_code=0x03" &&
    previous.elim false (fun p ↦
      contains p "check_sfn_slot: SFN mismatch" && contains p "msg_id=0x81 dropped") &&
    tail.any fun t ↦ shutdownMarkers.any (contains t)

def countShutdownTailFrom (previous : Option (List Char)) : List (List Char) → Nat
  | [] => 0
  | line :: rest =>
    (if isShutdownTail previous line (rest.take 12) then 1 else 0) +
      countShutdownTailFrom (some line) rest

def countShutdownTailUlSfnErrInd (l1Log : List Char) : Nat :=
  countShutdownTailFrom none (splitlines l1Log)

/-! ## What is read from the logs -/

structure IntegrationLogs where
  l1Log : List Char
  gnbLog : List Char
  gnbStdout : List Char

namespace IntegrationLogs

variable (logs : IntegrationLogs)

def summary : Dict (List Char) Int := parseSummary logs.gnbStdout

/-- `summary.get(key, fallback)`. -/
def summaryGet (key : String) (fallback : Int) : Int :=
  (logs.summary.get? key.toList).getD fallback

def bridgeCrcMatches : List Numbers := bridgeCrcRe.findNumbers logs.gnbStdout
def bridgeUciPuschMatches : List Numbers := bridgeUciPuschRe.findNumbers logs.gnbStdout
def bridgeUciPucch01Matches : List Numbers := bridgeUciPucch01Re.findNumbers logs.gnbStdout
def bridgeUciPucch234Matches : List Numbers := bridgeUciPucch234Re.findNumbers logs.gnbStdout
def bridgeUlPuschMatches : List Numbers := ulPuschSerializeRe.findNumbers logs.gnbStdout
def bridgeUlPucchMatches : List Numbers := ulPucchSerializeRe.findNumbers logs.gnbStdout
def l1PuschParseMatches : List Numbers := l1PuschParseRe.findNumbers logs.l1Log
def l1CrcEmitMatches : List Numbers := l1CrcEmitRe.findNumbers logs.l1Log
def pdschMatches : List Groups := pdschRe.finditer logs.l1Log

def crcTotal : Int := logs.summaryGet "crc_total" logs.bridgeCrcMatches.length

def pdschTbBytes : Int := (logs.pdschMatches.map fun m ↦ ofDigits 10 (m.group "tb_size")).sum

def txDataReqs : Int :=
  logs.summaryGet "tx_data_reqs" (countSubstring logs.gnbStdout "TX_DATA.request")

def txDataBytes : Int := logs.summaryGet "tx_data_bytes" logs.pdschTbBytes

def pdschObserved : Bool :=
  !logs.pdschMatches.isEmpty || decide (logs.txDataReqs > 0) || decide (logs.txDataBytes > 0)

def forcedNack : Nat := countSubstring logs.gnbLog "Forcing \"NACK\""
def uciDiscard : Nat := countSubstring logs.gnbLog "Discarding UCI indication PDU"
def errInd : Nat := countSubstring logs.l1Log "Send Err.ind"
def runtimeErrInd : Int := (logs.errInd : Int) - countShutdownTailUlSfnErrInd logs.l1Log
def crcMismatch : Nat := countSubstring logs.gnbStdout "Failed to set CRC value"
def uciMismatch : Nat := countSubstring logs.gnbStdout "Failed to set UCI value"
def tickErrorAlerts : Nat := countSubstring logs.l1Log "[TICK.ERROR]"
def rachInd : Nat := countSubstring logs.gnbStdout "RACH.indication"
def srsInd : Int := logs.summaryGet "srs_total" (countSubstring logs.gnbStdout "SRS.indication")

def bridgeUlPuschPdus : Int := logs.summaryGet "ul_pusch_pdus" logs.bridgeUlPuschMatches.length
def bridgeUlPucchPdus : Int := logs.summaryGet "ul_pucch_pdus" logs.bridgeUlPucchMatches.length
def uciPuschTotal : Int := logs.summaryGet "uci_pusch" logs.bridgeUciPuschMatches.length
def uciPucch01Total : Int := logs.summaryGet "uci_pucch01" logs.bridgeUciPucch01Matches.length
def uciPucch234Total : Int := logs.summaryGet "uci_pucch234" logs.bridgeUciPucch234Matches.length

/-! ## The samples -/

def sampleBridgePusch : Dict (Nat × Nat × Nat × Nat) (Nat × Nat × Nat × Nat) :=
  .ofList (logs.bridgeUlPuschMatches.map fun m ↦ (bridgeUlKey m, bridgeUlShape m))

def sampleL1Pusch : Dict (Nat × Nat × Nat × Nat) (Nat × Nat × Nat × Nat) :=
  .ofList (logs.l1PuschParseMatches.map fun m ↦ (l1UlKey m, l1UlShape m))

def sampleBridgeCrc : Finset (Nat × Nat × Nat × Nat) :=
  ((logs.bridgeCrcMatches.filter fun m ↦ decide (m.group "seq" ≤ 16)).map bridgeCrcKey).toFinset

def sampleL1Crc : Finset (Nat × Nat × Nat × Nat) :=
  ((logs.l1CrcEmitMatches.take 16).map l1UlKey).toFinset

def sampleBridgePucch : Dict (Nat × Nat × Nat) (Nat × Nat × Nat) :=
  .ofList (logs.bridgeUlPucchMatches.map fun m ↦ (samplePucchScheduleKey m, samplePucchFields m))

def sampleBridgePucch01 : Dict (Nat × Nat × Nat) (Nat × Nat × Nat) :=
  .ofList ((logs.bridgeUciPucch01Matches.filter fun m ↦ decide (m.group "seq" ≤ 16)).map fun m ↦
    (samplePucchScheduleKey m, samplePucchFields m))

end IntegrationLogs

/-- The keys of a sample that another lacks. -/
def missingKeys {K V W : Type} [DecidableEq K] (d : Dict K V) (e : Dict K W) : Nat :=
  (d.keys.toFinset \ e.keys.toFinset).card

/-- The entries of a sample that another has under the same key with a different value. -/
def mismatches {K V : Type} [DecidableEq K] [DecidableEq V] (d e : Dict K V) : Nat :=
  (d.entries.filter fun entry ↦
    e.contains entry.1 && !decide (e.get? entry.1 = some entry.2)).length

namespace IntegrationLogs

variable (logs : IntegrationLogs)

def samplePuschMissingInL1 : Nat := missingKeys logs.sampleBridgePusch logs.sampleL1Pusch
def samplePuschShapeMismatch : Nat := mismatches logs.sampleBridgePusch logs.sampleL1Pusch
def sampleCrcMissingInBridge : Nat := (logs.sampleL1Crc \ logs.sampleBridgeCrc).card
def sampleCrcMissingInL1 : Nat := (logs.sampleBridgeCrc \ logs.sampleL1Crc).card
def samplePucchMissingInUci : Nat := missingKeys logs.sampleBridgePucch logs.sampleBridgePucch01
def samplePucchFieldMismatch : Nat := mismatches logs.sampleBridgePucch logs.sampleBridgePucch01

/-! ## The verdict on the uplink -/

def puschCrcDelta : Int := logs.bridgeUlPuschPdus - logs.crcTotal
def puschUciDelta : Int := logs.bridgeUlPuschPdus - logs.uciPuschTotal

def ulShutdownTailBudget : Int :=
  if logs.runtimeErrInd = 0 ∧ logs.forcedNack = 0 ∧ logs.uciDiscard = 0 ∧ logs.tickErrorAlerts = 0
  then 2 else 1

def puschCountExact : Bool :=
  decide (0 ≤ logs.puschCrcDelta ∧ logs.puschCrcDelta ≤ logs.ulShutdownTailBudget ∧
    0 ≤ logs.puschUciDelta ∧ logs.puschUciDelta ≤ logs.ulShutdownTailBudget)

def pucchCountExact : Bool :=
  decide (logs.bridgeUlPucchPdus = logs.uciPucch01Total + logs.uciPucch234Total)

def ulStructuralSanity : Bool :=
  decide (logs.bridgeUlPuschPdus > 0) && logs.puschCountExact && logs.pucchCountExact &&
    logs.samplePuschMissingInL1 == 0 && logs.samplePuschShapeMismatch == 0 &&
    logs.sampleCrcMissingInBridge == 0 && logs.sampleCrcMissingInL1 == 0 &&
    logs.samplePucchMissingInUci == 0 && logs.samplePucchFieldMismatch == 0 &&
    logs.crcMismatch == 0 && logs.uciMismatch == 0

end IntegrationLogs

/-! ## Channel signoff -/

def statusMark (ok : Bool) : String := if ok then "PASS" else "FAIL"

/-- The mark that the report prints for `ul_structural_sanity`. -/
def IntegrationLogs.ulStructuralSanityMark (logs : IntegrationLogs) : String :=
  statusMark logs.ulStructuralSanity

def observedMark (observed configured : Bool) : String :=
  if observed then "PASS" else if configured then "CONFIGURED" else "NOT OBSERVED"

inductive SignoffChannel where
  | configStart
  | ssbPbch
  | pdcch
  | pdsch
  | pusch
  | pucchF0F1
  | pucchF2F3F4
  | prach
  | srs
  deriving DecidableEq

namespace IntegrationLogs

def configStartSeen (logs : IntegrationLogs) : Bool :=
  contains logs.gnbStdout "CONFIG_RESPONSE" &&
    (contains logs.gnbStdout "START_REQUEST sent" || contains logs.gnbStdout "Sent START_REQUEST")

/-- The mark that the report prints for a channel. -/
def signoff (logs : IntegrationLogs) : SignoffChannel → String
  | .configStart => observedMark logs.configStartSeen false
  | .ssbPbch => observedMark false (contains logs.l1Log "cuPHY SSB channel object")
  | .pdcch => observedMark false (contains logs.l1Log "cuPHY PDCCH channel object")
  | .pdsch => observedMark logs.pdschObserved false
  | .pusch => observedMark (decide (logs.bridgeUlPuschPdus > 0)) false
  | .pucchF0F1 =>
      observedMark (decide (logs.uciPucch01Total > 0) && logs.samplePucchMissingInUci == 0) false
  | .pucchF2F3F4 => observedMark (decide (logs.uciPucch234Total > 0)) false
  | .prach =>
      observedMark (decide (logs.rachInd > 0)) (contains logs.l1Log "cuPHY PRACH channel object")
  | .srs =>
      observedMark (decide (logs.srsInd > 0)) (contains logs.l1Log "cuPHY SRS channel object")

end IntegrationLogs

/-! ## Counters of a summary -/

namespace IntegrationLogs

/-- The summary read from the log gives the counters `m`. -/
def Summarises (logs : IntegrationLogs) (m : BridgeRuntimeMetrics) : Prop :=
  ∀ k fallback, logs.summaryGet (Metric.name k) fallback = (m k).toNat

theorem summarises_of_entries {logs : IntegrationLogs} {m : BridgeRuntimeMetrics}
    (h : logs.summary.entries = counterEntries m) : logs.Summarises m := by
  intro k fallback
  rw [summaryGet, get?_counters h]
  rfl

namespace Summarises

variable {logs : IntegrationLogs} {m : BridgeRuntimeMetrics} (h : logs.Summarises m)

include h

theorem txDataReqs : logs.txDataReqs = (m .txDataReqs).toNat := h .txDataReqs _

theorem crcTotal : logs.crcTotal = (m .crcTotal).toNat := h .crcTotal _

theorem bridgeUlPuschPdus : logs.bridgeUlPuschPdus = (m .ulPuschPdus).toNat := h .ulPuschPdus _

theorem bridgeUlPucchPdus : logs.bridgeUlPucchPdus = (m .ulPucchPdus).toNat := h .ulPucchPdus _

theorem uciPuschTotal : logs.uciPuschTotal = (m .uciPusch).toNat := h .uciPusch _

theorem uciPucch01Total : logs.uciPucch01Total = (m .uciPucch01).toNat := h .uciPucch01 _

theorem uciPucch234Total : logs.uciPucch234Total = (m .uciPucch234).toNat := h .uciPucch234 _

theorem srsInd : logs.srsInd = (m .srsTotal).toNat := h .srsTotal _

end Summarises

end IntegrationLogs

end AerialBridge
