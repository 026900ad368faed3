import AerialBridge.Report.UlRun

/-!
# The logs of an uplink run

The files that a coherent run leaves behind, and what `characterize_integration.py` reads from them:
each sample is one of the scheduled PDUs, whatever the interleaving of the run.
-/

namespace AerialBridge

open Text Sampling Transition

/-- What the bridge does in a run. -/
def bridgeTrace (es : List UlEvent) : List Effect := es.flatMap UlEvent.effects

/-- The metrics at the end of a run. -/
def runMetrics (es : List UlEvent) : BridgeRuntimeMetrics :=
  BridgeRuntimeMetrics.zero.after (bridgeTrace es)

/-- The files that the bridge and L1 leave behind: their lines within the sampling caps, and the
bridge's summary.  What stands in `gnb.log` is left open. -/
def runLogs (gnbLog : List Char) (es : List UlEvent) : IntegrationLogs where
  l1Log := l1LogText (l1Printed (es.flatMap UlEvent.l1Lines))
  gnbLog := gnbLog
  gnbStdout := logText (printedLines (bridgeTrace es) ++
    [.summary (runMetrics es)])

theorem wellGated_bridgeTrace (es : List UlEvent) : WellGated (bridgeTrace es) := by
  apply WellGated.flatMap
  intro e p hp
  cases e with
  | serialize g => cases g <;> (rw [List.mem_singleton.mp hp]; rfl)
  | crcIndication a => rw [List.mem_singleton.mp hp]; rfl
  | uciIndication a => cases a <;> (rw [List.mem_singleton.mp hp]; rfl)
  | _ => cases hp

/-! ## The lines at each counter -/

def CrcAnswer.logLine (a : CrcAnswer) : LogLine :=
  .crcIndication a.grant.slot.sfn a.grant.slot.slot a.pdu.rnti a.pdu.harqId a.pdu.tbCrcStatusOk

def UciAnswer.logLine (a : UciAnswer) : LogLine := a.pdu.logLine a.grant.slot a.format

theorem linesAt_ulPduSerialize (es : List UlEvent) :
    linesAt .ulPduSerialize (bridgeTrace es) = (schedule es).map UlGrant.logLine := by
  rw [bridgeTrace, linesAt_flatMap, schedule, List.map_flatMap]
  congr 1
  funext e
  cases e with
  | serialize g => cases g <;> rfl
  | uciIndication a => cases a <;> rfl
  | _ => rfl

theorem linesAt_crcDispatch (es : List UlEvent) :
    linesAt .crcDispatch (bridgeTrace es) = (es.flatMap UlEvent.crcs).map CrcAnswer.logLine := by
  rw [bridgeTrace, linesAt_flatMap, List.map_flatMap]
  congr 1
  funext e
  cases e with
  | serialize g => cases g <;> rfl
  | uciIndication a => cases a <;> rfl
  | _ => rfl

theorem linesAt_uciDispatch (es : List UlEvent) :
    linesAt .uciDispatch (bridgeTrace es) = (es.flatMap UlEvent.ucis).map UciAnswer.logLine := by
  rw [bridgeTrace, linesAt_flatMap, List.map_flatMap]
  congr 1
  funext e
  cases e with
  | serialize g => cases g <;> rfl
  | uciIndication a => cases a <;> rfl
  | _ => rfl

/-! ## The counters -/

theorem added_flatMap {ε α : Type} {k : Metric} {f : ε → List Effect} {g : ε → List α}
    (h : ∀ e, added k (f e) = (g e).length) (es : List ε) :
    added k (es.flatMap f) = (es.flatMap g).length := by
  induction es with
  | nil => rfl
  | cons e es ih =>
    rw [List.flatMap_cons, List.flatMap_cons, added_append, List.length_append, h, ih]

theorem runMetrics_eq {es : List UlEvent} {α : Type} {k : Metric} {g : UlEvent → List α}
    (h : ∀ e, added k (UlEvent.effects e) = (g e).length) :
    runMetrics es k = UInt64.ofNat (es.flatMap g).length := by
  rw [runMetrics, BridgeRuntimeMetrics.after_apply, bridgeTrace, added_flatMap h]
  show 0 + UInt64.ofNat (es.flatMap g).length = UInt64.ofNat (es.flatMap g).length
  exact UInt64.zero_add _

/-- What a step counts. -/
theorem UlEvent.added_effects (e : UlEvent) :
    added .ulPuschPdus e.effects = (puschs e.scheduled).length ∧
      added .ulPucchPdus e.effects = (pucchs e.scheduled).length ∧
      added .crcTotal e.effects = (e.crcs.map CrcAnswer.grant).length ∧
      added .uciPusch e.effects = (puschs (e.ucis.map UciAnswer.grant)).length ∧
      added .uciPucch01 e.effects = (pucchs (e.ucis.map UciAnswer.grant)).length ∧
      added .uciPucch234 e.effects = 0 := by
  cases e with
  | serialize g => cases g <;> exact ⟨rfl, rfl, rfl, rfl, rfl, rfl⟩
  | crcIndication a =>
    cases hok : a.pdu.tbCrcStatusOk <;>
      simp [effects, crcEffects, crcs, scheduled, ucis, puschs, pucchs, hok]
  | uciIndication a => cases a <;> exact ⟨rfl, rfl, rfl, rfl, rfl, rfl⟩
  | _ => exact ⟨rfl, rfl, rfl, rfl, rfl, rfl⟩

section Counters

variable {es : List UlEvent} (h : Answered es)

theorem runMetrics_ulPuschPdus :
    runMetrics es .ulPuschPdus = UInt64.ofNat (puschs (schedule es)).length := by
  rw [runMetrics_eq fun e ↦ e.added_effects.1, schedule, puschs, List.filterMap_flatMap]
  rfl

theorem runMetrics_ulPucchPdus :
    runMetrics es .ulPucchPdus = UInt64.ofNat (pucchs (schedule es)).length := by
  rw [runMetrics_eq fun e ↦ e.added_effects.2.1, schedule, pucchs, List.filterMap_flatMap]
  rfl

include h

theorem runMetrics_crcTotal :
    runMetrics es .crcTotal = UInt64.ofNat (puschs (schedule es)).length := by
  rw [runMetrics_eq fun e ↦ e.added_effects.2.2.1, ← h.crcs, List.map_flatMap]

theorem runMetrics_uciPusch :
    runMetrics es .uciPusch = UInt64.ofNat (puschs (schedule es)).length := by
  rw [runMetrics_eq fun e ↦ e.added_effects.2.2.2.1, ← h.ucis, puschs, List.map_flatMap,
    List.filterMap_flatMap]
  rfl

theorem runMetrics_uciPucch01 :
    runMetrics es .uciPucch01 = UInt64.ofNat (pucchs (schedule es)).length := by
  rw [runMetrics_eq fun e ↦ e.added_effects.2.2.2.2.1, ← h.ucis, pucchs, List.map_flatMap,
    List.filterMap_flatMap]
  rfl

omit h in
theorem runMetrics_uciPucch234 : runMetrics es .uciPucch234 = 0 := by
  have hnone : ∀ e, added .uciPucch234 (UlEvent.effects e) = ([] : List Unit).length :=
    fun e ↦ e.added_effects.2.2.2.2.2
  rw [runMetrics_eq hnone, List.flatMap_eq_nil_iff.mpr fun _ _ ↦ rfl]
  rfl

end Counters

/-! ## The matches -/

/-- The counter that samples the lines of a kind. -/
def BridgeKind.gate : BridgeKind → LogGate
  | crc => .crcDispatch
  | ulPusch => .ulPduSerialize
  | ulPucch => .ulPduSerialize
  | _ => .uciDispatch

/-- Every printed line has a kind, and goes to the counter of its kind. -/
theorem exists_kind {line : LogLine} {seq : UInt32} {l : BridgeLine}
    (h : line.printed? seq = some l) : ∃ k, l.kind? = some k ∧ line.gate = k.gate := by
  cases line with
  | ulSerialize type =>
    rw [LogLine.printed?] at h
    split at h
    · cases h; exact ⟨.ulPusch, rfl, rfl⟩
    · split at h
      · cases h; exact ⟨.ulPucch, rfl, rfl⟩
      · cases h
  | crcIndication => cases h; exact ⟨.crc, rfl, rfl⟩
  | uciPusch => cases h; exact ⟨.uciPusch, rfl, rfl⟩
  | uciPucch01 => cases h; exact ⟨.uciPucch01, rfl, rfl⟩
  | uciPucch234 => cases h; exact ⟨.uciPucch234, rfl, rfl⟩
  | _ => cases h

theorem gate_of_kind {line : LogLine} {seq : UInt32} {l : BridgeLine} {k : BridgeKind}
    (h : line.printed? seq = some l) (hk : l.kind? = some k) : line.gate = k.gate := by
  obtain ⟨k', hk', hgate⟩ := exists_kind h
  rw [hk] at hk'
  rw [hgate, Option.some.inj hk']

theorem counters?_printed {line : LogLine} {seq : UInt32} {l : BridgeLine}
    (h : line.printed? seq = some l) : l.counters? = none := by
  obtain ⟨k, hk, _⟩ := exists_kind h
  cases l with
  | summary m => cases hk
  | _ => rfl

/-- What a printed line of a kind is read as. -/
def readLine? (k : BridgeKind) (p : UInt32 × LogLine) : Option Numbers :=
  ((p.2.printed? p.1).filter fun l ↦ l.kind? = some k).map fun l ↦ fieldNumbers l.fields

/-- The matches for lines of a kind are sampled at the counter of this kind. -/
theorem findNumbers_run (k : BridgeKind) (gnbLog : List Char) (es : List UlEvent) :
    k.re.findNumbers (runLogs gnbLog es).gnbStdout =
      (sampleFrom k.gate.shouldLog 0 (linesAt k.gate (bridgeTrace es))).filterMap
        (readLine? k) := by
  have hprinted := printedLines_filter (p := fun l ↦ l.kind? = some k) (wellGated_bridgeTrace es)
    fun line seq l hl hk ↦ gate_of_kind hl (of_decide_eq_true hk)
  show k.re.findNumbers (logText _) = _
  rw [findNumbers_logText, List.filter_append, hprinted]
  have hsummary : ([BridgeLine.summary (runMetrics es)].filter fun l ↦ l.kind? = some k) = [] := rfl
  rw [hsummary, List.append_nil, List.map_filterMap]
  rfl

theorem summarises_run (gnbLog : List Char) (es : List UlEvent) :
    (runLogs gnbLog es).Summarises (runMetrics es) := by
  apply IntegrationLogs.summarises_of_entries
  apply logText_counters
  have hnone : (printedLines (bridgeTrace es)).findSome? BridgeLine.counters? = none := by
    rw [List.findSome?_eq_none_iff]
    intro l hl
    obtain ⟨p, _, hp⟩ := List.mem_filterMap.mp hl
    exact counters?_printed hp
  rw [List.findSome?_append, hnone]
  rfl

/-! ## The samples -/

def PuschGrant.key (g : PuschGrant) : Nat × Nat × Nat × Nat :=
  (g.slot.sfn.toNat, g.slot.slot.toNat, g.pdu.rnti.toNat, g.data.harqProcessId.toNat)

def PuschGrant.shape (g : PuschGrant) : Nat × Nat × Nat × Nat :=
  (g.pdu.vrbs.start.toNat, g.pdu.vrbs.length.toNat, g.pdu.symbols.start.toNat,
    g.pdu.symbols.length.toNat)

def PucchGrant.scheduleKey (g : PucchGrant) : Nat × Nat × Nat :=
  (g.slot.sfn.toNat, g.slot.slot.toNat, g.pdu.rnti.toNat)

def PucchGrant.fields (g : PucchGrant) : Nat × Nat × Nat :=
  (g.format.toNat, g.harqBits.toNat, g.srBit.toNat)

/-- The PDUs whose serialize line is printed, each with its number at the counter. -/
def loggedUl (gs : List UlGrant) : List (UInt32 × UlGrant) := sampleFrom (shouldLogLimited 64) 0 gs

def loggedPusch (gs : List UlGrant) : List PuschGrant := (loggedUl gs).filterMap fun p ↦ p.2.pusch?

def loggedPucch (gs : List UlGrant) : List (UInt32 × PucchGrant) :=
  (loggedUl gs).filterMap fun p ↦ p.2.pucch?.map fun g ↦ (p.1, g)

/-- A serialize line is read as the PDU's key and allocation. -/
theorem readLine?_pusch (p : UInt32 × UlGrant) :
    (readLine? .ulPusch (p.1, p.2.logLine)).map (fun m ↦ (bridgeUlKey m, bridgeUlShape m)) =
      p.2.pusch?.map fun g ↦ (g.key, g.shape) := by
  obtain ⟨seq, g⟩ := p
  cases g with
  | pusch g =>
    show (readLine? .ulPusch (seq, puschLogLine g.slot g.pdu)).map _ = some (g.key, g.shape)
    rw [puschLogLine, g.puschData, g.puschUci]
    rfl
  | pucch g => rfl

theorem readLine?_pucch (p : UInt32 × UlGrant) :
    (readLine? .ulPucch (p.1, p.2.logLine)).map
        (fun m ↦ (samplePucchScheduleKey m, samplePucchFields m)) =
      p.2.pucch?.map fun g ↦ (g.scheduleKey, g.fields) := by
  obtain ⟨seq, g⟩ := p
  cases g <;> rfl

theorem readLine?_crc (p : UInt32 × CrcAnswer) :
    (readLine? .crc (p.1, p.2.logLine)).map (fun m ↦ (m.group "seq", bridgeCrcKey m)) =
      some (p.1.toNat, p.2.grant.key) := by
  obtain ⟨seq, a⟩ := p
  show (readLine? .crc (seq, .crcIndication _ _ a.pdu.rnti a.pdu.harqId _)).map _ = _
  rw [a.rnti, a.harqId]
  rfl

theorem toUInt32_of_flagByte {b : Bool} {bit : UInt8} (h : flagByte b = bit) :
    b.toUInt32.toNat = bit.toNat := by
  subst h
  cases b <;> rfl

theorem readLine?_uciPucch01 (p : UInt32 × UciAnswer) :
    (readLine? .uciPucch01 (p.1, p.2.logLine)).map
        (fun m ↦ (m.group "seq", samplePucchScheduleKey m, samplePucchFields m)) =
      p.2.grant.pucch?.map fun g ↦ (p.1.toNat, g.scheduleKey, g.fields) := by
  obtain ⟨seq, a⟩ := p
  cases a with
  | pusch => rfl
  | pucch g pdu h =>
    show some (seq.toNat, (g.slot.sfn.toNat, g.slot.slot.toNat, pdu.rnti.toNat),
      (g.format.toNat, (UInt32.ofNat (pdu.harqValues.getD []).length).toNat,
        (pdu.srDetected.getD false).toUInt32.toNat)) = some (seq.toNat, g.scheduleKey, g.fields)
    rw [h.rnti, h.harqBits, UInt32.ofNat_toNat, toUInt32_of_flagByte h.srBit]
    rfl

/-- The matches numbered up to 16, when the numbers are those of a sample. -/
theorem map_early {α β : Type} {ms : List Numbers} {f : Numbers → β} {xs : List α}
    (h : α → Option β)
    (hms : ms.map (fun m ↦ (m.group "seq", f m)) =
      (sampleFrom shouldLogIndication 0 xs).filterMap fun p ↦ (h p.2).map fun b ↦ (p.1.toNat, b)) :
    (ms.filter fun m ↦ decide (m.group "seq" ≤ 16)).map f =
      (sampleFrom (shouldLogLimited 16) 0 xs).filterMap fun p ↦ h p.2 := by
  have hsplit : (ms.filter fun m ↦ decide (m.group "seq" ≤ 16)).map f =
      ((ms.map fun m ↦ (m.group "seq", f m)).filter fun q ↦ decide (q.1 ≤ 16)).map Prod.snd := by
    rw [List.filter_map, List.map_map]
    rfl
  have hstricter : ∀ v : UInt32,
      ((decide (v ≤ 16) || v % 1000 == 0) && decide (v ≤ 16)) = decide (v ≤ 16) := by
    intro v
    cases decide (v ≤ 16) <;> simp
  have hlimited := sampleFrom_filter hstricter 0 xs
  rw [hsplit, hms, shouldLogLimited, ← hlimited, List.filter_filterMap, List.map_filterMap,
    List.filterMap_filter]
  congr 1
  funext p
  have hle : decide (p.1.toNat ≤ 16) = decide (p.1 ≤ 16) :=
    decide_eq_decide.mpr (UInt32.le_iff_toNat_le (b := 16)).symm
  cases h p.2 with
  | none => simp
  | some b => cases hd : decide (p.1 ≤ 16) <;> simp [Option.filter, hle, hd]

/-- The gate for the first 16 lets through what the gate for the first 64 numbers up to 16. -/
theorem early_loggedPucch (gs : List UlGrant) :
    (loggedPucch gs).filter (fun p ↦ decide (p.1 ≤ 16)) =
      (sampleFrom (shouldLogLimited 16) 0 gs).filterMap fun p ↦
        p.2.pucch?.map fun g ↦ (p.1, g) := by
  have hstricter : ∀ v : UInt32, (decide (v ≤ 64) && decide (v ≤ 16)) = decide (v ≤ 16) := by
    intro v
    rw [← Bool.decide_and, decide_eq_decide, UInt32.le_iff_toNat_le, UInt32.le_iff_toNat_le]
    show v.toNat ≤ 64 ∧ v.toNat ≤ 16 ↔ v.toNat ≤ 16
    omega
  rw [shouldLogLimited, ← sampleFrom_filter hstricter, List.filterMap_filter, loggedPucch,
    List.filter_filterMap]
  congr 1
  funext p
  cases p.2.pucch? with
  | none => simp
  | some g => cases hd : decide (p.1 ≤ 16) <;> simp [Option.filter, hd]

section Samples

variable (gnbLog : List Char) (es : List UlEvent)

theorem sampleBridgePusch_run : (runLogs gnbLog es).sampleBridgePusch =
    .comprehend PuschGrant.key PuschGrant.shape (loggedPusch (schedule es)) := by
  rw [IntegrationLogs.sampleBridgePusch, Dict.comprehend]
  congr 1
  show ((BridgeKind.ulPusch.re.findNumbers _).map _) = _
  rw [findNumbers_run, BridgeKind.gate, linesAt_ulPduSerialize, sampleFrom_map, loggedPusch,
    List.filterMap_map, List.map_filterMap, List.map_filterMap]
  congr 1
  funext p
  exact readLine?_pusch p

theorem sampleBridgePucch_run : (runLogs gnbLog es).sampleBridgePucch =
    .comprehend (fun p ↦ p.2.scheduleKey) (fun p ↦ p.2.fields) (loggedPucch (schedule es)) := by
  rw [IntegrationLogs.sampleBridgePucch, Dict.comprehend]
  congr 1
  show ((BridgeKind.ulPucch.re.findNumbers _).map _) = _
  rw [findNumbers_run, BridgeKind.gate, linesAt_ulPduSerialize, sampleFrom_map, loggedPucch,
    List.filterMap_map, List.map_filterMap, List.map_filterMap]
  congr 1
  funext p
  rw [Option.map_map]
  exact readLine?_pucch p

variable {es} in
theorem sampleBridgeCrc_run (h : Answered es) : (runLogs gnbLog es).sampleBridgeCrc =
    ((sampleFrom (shouldLogLimited 16) 0 (puschs (schedule es))).map fun p ↦ p.2.key).toFinset := by
  have hms : (runLogs gnbLog es).bridgeCrcMatches.map (fun m ↦ (m.group "seq", bridgeCrcKey m)) =
      (sampleFrom shouldLogIndication 0 (es.flatMap UlEvent.crcs)).filterMap fun p ↦
        (some p.2.grant.key).map fun b ↦ (p.1.toNat, b) := by
    show (BridgeKind.crc.re.findNumbers _).map _ = _
    rw [findNumbers_run, BridgeKind.gate, linesAt_crcDispatch, sampleFrom_map, List.filterMap_map,
      List.map_filterMap]
    congr 1
    funext p
    exact readLine?_crc p
  rw [IntegrationLogs.sampleBridgeCrc, map_early (fun a : CrcAnswer ↦ some a.grant.key) hms,
    ← h.crcs, sampleFrom_map, List.map_map, List.filterMap_eq_map']
  rfl

variable {es} in
theorem sampleBridgePucch01_run (h : Answered es) : (runLogs gnbLog es).sampleBridgePucch01 =
    .comprehend (fun p ↦ p.2.scheduleKey) (fun p ↦ p.2.fields)
      ((loggedPucch (schedule es)).filter fun p ↦ decide (p.1 ≤ 16)) := by
  have hms : (runLogs gnbLog es).bridgeUciPucch01Matches.map
      (fun m ↦ (m.group "seq", samplePucchScheduleKey m, samplePucchFields m)) =
        (sampleFrom shouldLogIndication 0 (es.flatMap UlEvent.ucis)).filterMap fun p ↦
          (p.2.grant.pucch?.map fun g ↦ (g.scheduleKey, g.fields)).map fun b ↦ (p.1.toNat, b) := by
    show (BridgeKind.uciPucch01.re.findNumbers _).map _ = _
    have hgate : BridgeKind.uciPucch01.gate = .uciDispatch := rfl
    rw [findNumbers_run, hgate, linesAt_uciDispatch, sampleFrom_map, List.filterMap_map,
      List.map_filterMap]
    congr 1
    funext p
    rw [Option.map_map]
    exact readLine?_uciPucch01 p
  rw [IntegrationLogs.sampleBridgePucch01, map_early
    (fun a : UciAnswer ↦ a.grant.pucch?.map fun g ↦ (g.scheduleKey, g.fields)) hms, early_loggedPucch,
    Dict.comprehend, ← h.ucis, sampleFrom_map, List.filterMap_map, List.map_filterMap]
  congr 2
  funext p
  show _ = ((p.2.grant.pucch?.map fun g ↦ (p.1, g)).map fun q ↦ (q.2.scheduleKey, q.2.fields))
  cases p.2.grant.pucch? <;> rfl

variable {es} in
theorem sampleL1Pusch_run (h : Answered es) : (runLogs gnbLog es).sampleL1Pusch =
    .comprehend PuschGrant.key PuschGrant.shape ((puschs (schedule es)).take 128) := by
  have hlines : ((es.flatMap UlEvent.l1Lines).filter fun l ↦ l.statement = .puschParse).map
      (fun l ↦ (l1UlKey (fieldNumbers l.fields), l1UlShape (fieldNumbers l.fields))) =
        (es.flatMap UlEvent.parsed).map fun g ↦ (g.key, g.shape) := by
    rw [List.filter_flatMap, List.map_flatMap, List.map_flatMap]
    congr 1
    funext e
    cases e <;> rfl
  rw [IntegrationLogs.sampleL1Pusch, Dict.comprehend]
  congr 1
  show ((L1Statement.puschParse.re.findNumbers (l1LogText (l1Printed _))).map _) = _
  rw [findNumbers_l1LogText, l1Printed_filter, List.map_map, List.map_take, ← h.parsed,
    List.map_take, ← hlines]
  rfl

variable {es} in
theorem sampleL1Crc_run (h : Answered es) : (runLogs gnbLog es).sampleL1Crc =
    (((puschs (schedule es)).take 16).map PuschGrant.key).toFinset := by
  have hlines : ((es.flatMap UlEvent.l1Lines).filter fun l ↦ l.statement = .crcEmit).map
      (fun l ↦ l1UlKey (fieldNumbers l.fields)) =
        (es.flatMap UlEvent.emitted).map PuschGrant.key := by
    rw [List.filter_flatMap, List.map_flatMap, List.map_flatMap]
    congr 1
    funext e
    cases e <;> rfl
  rw [IntegrationLogs.sampleL1Crc]
  congr 1
  show ((L1Statement.crcEmit.re.findNumbers (l1LogText (l1Printed _))).take 16).map _ = _
  rw [findNumbers_l1LogText, l1Printed_filter, List.map_take, List.map_map, List.map_take,
    List.take_take, ← h.emitted, List.map_take, ← hlines]
  rfl

end Samples

/-! ## Error lines -/

/-- The errors that the report counts are about values, and no line of the bridge holds a `v`. -/
theorem countSubstring_logText {lines : List BridgeLine} {s : String} (hs : 'v' ∈ s.toList) :
    countSubstring (logText lines) s = 0 := by
  apply countFrom_of_not_mem hs
  intro hmem
  obtain ⟨t, ht, hin⟩ := List.mem_flatMap.mp hmem
  obtain ⟨l, _, rfl⟩ := List.mem_map.mp ht
  have hlacks : l.lacks 'v' = true := by
    cases l with
    | ulSerialize type => cases type <;> rfl
    | _ => rfl
  cases List.mem_append.mp hin with
  | inl htext => exact BridgeLine.not_mem_text (by decide) hlacks htext
  | inr hnewline => exact absurd (List.mem_singleton.mp hnewline) (by decide)

end AerialBridge
