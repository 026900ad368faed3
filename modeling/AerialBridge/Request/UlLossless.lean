import AerialBridge.Request.UlParser

/-!
# UL_TTI.request loses nothing

What the fields of an uplink PDU have to say about the PDU that was given, that the reference parser
finds exactly this in every message, and that the header sums up the PDUs behind it.  Where OCUDU's
value is wider than its field, the field holds it modulo its width.
-/

namespace AerialBridge

open Bytes Bytes.Parser

/-! ## What the fields say -/

structure ScfPrachPdu.Carries (w : ScfPrachPdu) (prach : UlPrachPdu) : Prop where
  numPrachOcas : w.numPrachOcas = prach.numPrachOcas
  prachFormat : w.prachFormat = prach.prachFormat
  indexFdRa : w.indexFdRa = prach.indexFdRa
  prachStartSymbol : w.prachStartSymbol = prach.prachStartSymbol
  numCs : w.numCs = prach.numCs

structure ScfPuschData.Carries (w : ScfPuschData) (data : UlPuschData) : Prop where
  rvIndex : w.rvIndex = data.rvIndex
  harqProcessId : w.harqProcessId = data.harqProcessId
  newData : (w.newDataIndicator != 0) = data.newData
  tbSize : w.tbSize = data.tbSize

structure ScfPuschUci.Carries (w : ScfPuschUci) (uci : UlPuschUci) : Prop where
  harqAckBit : w.harqAckBitLength.toNat = uci.harqAckBit.toNat % 2 ^ 16
  csiPart1Bit : w.csiPart1BitLength.toNat = uci.csiPart1Bit.toNat % 2 ^ 16
  csiPart2Bit : w.csiPart2BitLength = 0
  alphaScaling : w.alphaScaling = uci.alphaScaling
  betaOffsetHarqAck : w.betaOffsetHarqAck = uci.betaOffsetHarqAck
  betaOffsetCsi1 : w.betaOffsetCsi1 = uci.betaOffsetCsi1
  betaOffsetCsi2 : w.betaOffsetCsi2 = uci.betaOffsetCsi2

/-- The transform precoding that the DFT-s-OFDM block and the CDM group field stand for. -/
def ScfPuschPdu.precoding (w : ScfPuschPdu) : TransformPrecoding :=
  match w.dftOfdm with
  | some dft => .enabled dft.lowPaprSequenceNumber
  | none => .disabled w.numDmrsCdmGrpsNoData

structure ScfPuschPdu.Carries (w : ScfPuschPdu) (pdu : UlPuschPdu) : Prop where
  rnti : w.rnti = pdu.rnti
  handle : w.handle = pdu.handle
  bwp : w.bwp.Carries pdu.bwp pdu.scs pdu.cp
  targetCodeRate : w.targetCodeRate = pdu.scaledCodeRate
  qamModOrder : w.qamModOrder = pdu.qamModOrder
  mcsIndex : w.mcsIndex = pdu.mcsIndex
  mcsTable : w.mcsTable = pdu.mcsTable
  transformPrecoding : w.precoding = pdu.transformPrecoding
  transformPrecodingFlag : w.transformPrecoding = 0 ↔ pdu.transformPrecoding.isEnabled = true
  nidPusch : w.nidPusch = pdu.nidPusch
  numLayers : w.numLayers = pdu.numLayers
  ulDmrsSymbPos : w.ulDmrsSymbPos.toNat = pdu.ulDmrsSymbPos.toNat % 2 ^ 16
  dmrsType : w.dmrsConfigType = pdu.dmrsType
  dmrsScramblingId : w.puschDmrsScramblingId = pdu.puschDmrsScramblingId
  nscid : w.nscid = pdu.nscid
  dmrsPorts : w.dmrsPorts.toNat = pdu.dmrsPorts.toNat % 2 ^ 16
  resourceAlloc : w.resourceAlloc = 1
  rbStart : w.rbStart.toNat = pdu.vrbs.start.toNat % 2 ^ 16
  rbSize : w.rbSize.toNat = pdu.vrbs.length.toNat % 2 ^ 16
  txDirectCurrentLocation : w.txDirectCurrentLocation = pdu.txDirectCurrentLocation
  symbols : (⟨w.startSymbolIndex, w.nrOfSymbols⟩ : Interval UInt8) = pdu.symbols
  puschData : Option.Rel ScfPuschData.Carries w.puschData pdu.puschData
  puschUci : Option.Rel ScfPuschUci.Carries w.puschUci pdu.puschUci

/-- The format that the common fields stand for. -/
def PucchFields.format (w : PucchFields) : Option UlPucchFormat :=
  if w.formatType = 0 then
    some (.format0 ⟨w.hoppingId, w.initialCyclicShift, w.srFlag != 0, w.bitLenHarq.toUInt32⟩)
  else if w.formatType = 1 then
    some (.format1 ⟨w.hoppingId, w.initialCyclicShift, w.timeDomainOccIdx, w.srFlag != 0,
      w.bitLenHarq.toUInt32⟩)
  else if w.formatType = 2 then
    some (.format2 ⟨w.dataScramblingId, w.dmrsScramblingId, w.srFlag, w.bitLenHarq.toUInt32,
      w.bitLenCsiPart1.toUInt32⟩)
  else
    let f3 : UlPucchPduFormat3 := ⟨w.pi2Bpsk != 0, w.hoppingId, w.dataScramblingId,
      w.addDmrsFlag != 0, w.dmrsScramblingId, w.dmrsCyclicShift, w.srFlag, w.bitLenHarq.toUInt32,
      w.bitLenCsiPart1.toUInt32⟩
    if w.formatType = 3 then some (.format3 f3)
    else if w.formatType = 4 then some (.format4 ⟨f3, w.preDftOccIdx, w.preDftOccLen⟩)
    else none

/-- The format with its bit lengths as their fields hold them. -/
def UlPucchFormat.held : UlPucchFormat → UlPucchFormat
  | .format0 f => .format0 { f with bitLenHarq := held16 f.bitLenHarq }
  | .format1 f => .format1 { f with bitLenHarq := held16 f.bitLenHarq }
  | .format2 f => .format2 { f with
      bitLenHarq := held16 f.bitLenHarq, csiPart1BitLength := held16 f.csiPart1BitLength }
  | .format3 f => .format3 { f with
      bitLenHarq := held16 f.bitLenHarq, csiPart1BitLength := held16 f.csiPart1BitLength }
  | .format4 f => .format4 { f with
      bitLenHarq := held16 f.bitLenHarq, csiPart1BitLength := held16 f.csiPart1BitLength }

structure ScfPucchPdu.Carries (w : ScfPucchPdu) (pdu : UlPucchPdu) : Prop where
  rnti : w.rnti = pdu.rnti
  handle : w.handle = pdu.handle
  bwp : w.bwp.Carries pdu.bwp pdu.scs pdu.cp
  format : w.fields.format = some pdu.format.held
  prbStart : w.prbStart.toNat = pdu.prbs.start.toNat % 2 ^ 16
  prbSize : w.prbSize.toNat = pdu.prbs.length.toNat % 2 ^ 16
  symbols : (⟨w.startSymbolIndex, w.nrOfSymbols⟩ : Interval UInt8) = pdu.symbols
  secondHopPrb : (if w.freqHopFlag = 1 then some w.secondHopPrb else none) = pdu.secondHopPrb

structure ScfSrsPdu.Carries (w : ScfSrsPdu) (pdu : UlSrsPdu) : Prop where
  rnti : w.rnti = pdu.rnti
  handle : w.handle = pdu.handle
  bwp : w.bwp.Carries pdu.bwp pdu.scs pdu.cp
  numAntPorts : w.numAntPorts = pdu.numAntPorts
  ofdmSymbols : (⟨w.symStart, w.numSymbols⟩ : Interval UInt8) = pdu.ofdmSymbols
  numRepetitions : w.numRepetitions = pdu.numRepetitions
  timeStartPosition : w.timeStartPosition = pdu.timeStartPosition
  configIndex : w.configIndex = pdu.configIndex
  sequenceId : w.sequenceId = pdu.sequenceId
  bandwidthIndex : w.bandwidthIndex = pdu.bandwidthIndex
  combSize : w.combSize = pdu.combSize
  combOffset : w.combOffset = pdu.combOffset
  cyclicShift : w.cyclicShift = pdu.cyclicShift
  frequencyPosition : w.frequencyPosition = pdu.frequencyPosition
  frequencyShift : w.frequencyShift = pdu.frequencyShift
  frequencyHopping : w.frequencyHopping = pdu.frequencyHopping
  groupOrSequenceHopping : w.groupOrSequenceHopping = pdu.groupOrSequenceHopping
  resourceType : w.resourceType = pdu.resourceType
  tSrs : w.tSrs = pdu.tSrs
  tOffset : w.tOffset = pdu.tOffset

/-- A PDU of the message carries the PDU that was given: the kinds and all fields agree. -/
def UlTtiPdu.CarriedBy : UlTtiPdu → ScfUlPdu → Prop
  | .prach pdu, .prach w => w.Carries pdu
  | .pusch pdu, .pusch w => w.Carries pdu
  | .pucch pdu, .pucch w => w.Carries pdu
  | .srs pdu, .srs w => w.Carries pdu
  | _, _ => False

theorem UlPrachPdu.toScf_carries (prach : UlPrachPdu) : prach.toScf.Carries prach :=
  ⟨rfl, rfl, rfl, rfl, rfl⟩

theorem UlPuschData.toScf_carries (data : UlPuschData) : data.toScf.Carries data where
  rvIndex := rfl
  harqProcessId := rfl
  newData := flagByte_ne_zero data.newData
  tbSize := rfl

theorem UlPuschUci.toScf_carries (uci : UlPuschUci) : uci.toScf.Carries uci where
  harqAckBit := UInt32.toNat_toUInt16 _
  csiPart1Bit := UInt32.toNat_toUInt16 _
  csiPart2Bit := rfl
  alphaScaling := rfl
  betaOffsetHarqAck := rfl
  betaOffsetCsi1 := rfl
  betaOffsetCsi2 := rfl

theorem UlPuschPdu.precoding_toScf (pdu : UlPuschPdu) :
    pdu.toScf.precoding = pdu.transformPrecoding := by
  unfold ScfPuschPdu.precoding UlPuschPdu.toScf
  cases pdu.transformPrecoding with
  | enabled _ => rfl
  | disabled _ => rfl

theorem TransformPrecoding.flag_eq_zero_iff (t : TransformPrecoding) :
    t.flag = 0 ↔ t.isEnabled = true := by
  cases t with
  | enabled _ => exact ⟨fun _ ↦ rfl, fun _ ↦ rfl⟩
  | disabled _ =>
      show (1 : UInt8) = 0 ↔ false = true
      decide

/-- An optional section carries what was given when it is made from it. -/
theorem rel_map_left {α β : Type} {R : β → α → Prop} {f : α → β} (h : ∀ a, R (f a) a)
    (o : Option α) : Option.Rel R (o.map f) o := by
  cases o with
  | none => exact .none
  | some a => exact .some (h a)

theorem UlPuschPdu.toScf_carries (pdu : UlPuschPdu) : pdu.toScf.Carries pdu where
  rnti := rfl
  handle := rfl
  bwp := ScfBwp.of_carries _ _ _
  targetCodeRate := rfl
  qamModOrder := rfl
  mcsIndex := rfl
  mcsTable := rfl
  transformPrecoding := pdu.precoding_toScf
  transformPrecodingFlag := TransformPrecoding.flag_eq_zero_iff _
  nidPusch := rfl
  numLayers := rfl
  ulDmrsSymbPos := UInt64.toNat_toUInt16 _
  dmrsType := rfl
  dmrsScramblingId := rfl
  nscid := rfl
  dmrsPorts := UInt64.toNat_toUInt16 _
  resourceAlloc := rfl
  rbStart := UInt32.toNat_toUInt16 _
  rbSize := UInt32.toNat_toUInt16 _
  txDirectCurrentLocation := rfl
  symbols := rfl
  puschData := rel_map_left UlPuschData.toScf_carries _
  puschUci := rel_map_left UlPuschUci.toScf_carries _

theorem UlPucchFormat.format_fields (f : UlPucchFormat) : f.fields.format = some f.held := by
  -- the format tag selects the variant back, whose fields were put where it reads them
  cases f <;>
    simp [UlPucchFormat.fields, PucchFields.format, UlPucchFormat.held, held16, flagByte_ne_zero]

theorem UlPucchPdu.toScf_carries (pdu : UlPucchPdu) : pdu.toScf.Carries pdu where
  rnti := rfl
  handle := rfl
  bwp := ScfBwp.of_carries _ _ _
  format := UlPucchFormat.format_fields _
  prbStart := UInt32.toNat_toUInt16 _
  prbSize := UInt32.toNat_toUInt16 _
  symbols := rfl
  secondHopPrb := by
    unfold UlPucchPdu.toScf
    cases pdu.secondHopPrb with
    | none => rfl
    | some _ => rfl

theorem UlSrsPdu.toScf_carries (pdu : UlSrsPdu) : pdu.toScf.Carries pdu :=
  ⟨rfl, rfl, ScfBwp.of_carries _ _ _, rfl, rfl, rfl, rfl, rfl, rfl, rfl, rfl, rfl, rfl, rfl, rfl,
    rfl, rfl, rfl, rfl, rfl⟩

/-! ## Reading a message -/

theorem ScfPuschPdu.encode_length (w : ScfPuschPdu) : w.encode.length =
    46 + w.rbBitmap.length + (encodeOpt ScfPuschData.encode w.puschData).length +
      (encodeOpt ScfPuschUci.encode w.puschUci).length +
      (encodeOpt ScfPuschDftOfdm.encode w.dftOfdm).length + w.beamforming.encode.length := by
  simp only [ScfPuschPdu.encode, List.length_append, le16_length, le32_length,
    List.length_singleton, ScfBwp.encode_length]
  omega

theorem UlPuschPdu.toScf_encode_length_le (pdu : UlPuschPdu) : pdu.toScf.encode.length ≤ 128 := by
  have hdata : (encodeOpt ScfPuschData.encode pdu.toScf.puschData).length ≤ 9 := by
    show (encodeOpt ScfPuschData.encode (pdu.puschData.map UlPuschData.toScf)).length ≤ 9
    cases pdu.puschData with
    | none => exact Nat.zero_le 9
    | some _ => exact le_rfl
  have huci : (encodeOpt ScfPuschUci.encode pdu.toScf.puschUci).length ≤ 10 :=
    encodeOpt_length_le (fun w ↦ (rfl : w.encode.length = 10).le) _
  have hdft : (encodeOpt ScfPuschDftOfdm.encode pdu.toScf.dftOfdm).length ≤ 5 :=
    encodeOpt_length_le (fun w ↦ (rfl : w.encode.length = 5).le) _
  have hrb : pdu.toScf.rbBitmap.length = 36 := rfl
  have hbf : pdu.toScf.beamforming.encode.length = 5 := rfl
  rw [ScfPuschPdu.encode_length]
  omega

/-- Every PDU fits its 16-bit size field. -/
theorem ulPduConfig_length_le {pdu : UlTtiPdu} {w : ScfUlPdu} (h : pdu.toScf = some w) :
    w.pduConfig.length ≤ 128 := by
  cases pdu with
  | prach pdu =>
      cases h
      show 8 ≤ 128
      omega
  | pusch pdu =>
      cases h
      exact pdu.toScf_encode_length_le
  | pucch pdu =>
      cases h
      show pdu.toScf.encode.length ≤ 128
      have hlen : pdu.toScf.encode.length = 51 := rfl
      omega
  | srs pdu =>
      cases h
      show pdu.toScf.encode.length ≤ 128
      have hlen : pdu.toScf.encode.length = 34 := rfl
      omega
  | other => cases h

theorem scfUlPdu_parses {pdu : UlTtiPdu} {w : ScfUlPdu} (h : pdu.toScf = some w) :
    Parses (scfPdu scfUlPduConfig) w.encode w := by
  have hlen := ulPduConfig_length_le h
  apply scfPdu_parses _ (by omega)
  cases pdu with
  | prach pdu =>
      cases h
      exact .last (scfPrachPdu_parses _)
  | pusch pdu =>
      cases h
      exact .last (scfPuschPdu_parses pdu)
  | pucch pdu =>
      cases h
      exact .last (scfPucchPdu_parses pdu)
  | srs pdu =>
      cases h
      exact .last (scfSrsPdu_parses _)
  | other => cases h

/-! ## The summary -/

@[simp] def UlTtiPdu.isPrach : UlTtiPdu → Bool
  | .prach _ => true
  | _ => false

@[simp] def UlTtiPdu.isPusch : UlTtiPdu → Bool
  | .pusch _ => true
  | _ => false

@[simp] def UlTtiPdu.isPucch : UlTtiPdu → Bool
  | .pucch _ => true
  | _ => false

@[simp] def UlTtiPdu.isSrs : UlTtiPdu → Bool
  | .srs _ => true
  | _ => false

/-- The PDUs of the four kinds. -/
@[simp] def UlTtiPdu.isServed (pdu : UlTtiPdu) : Bool :=
  pdu.isPrach || pdu.isPusch || pdu.isPucch || pdu.isSrs

-- the counters of the header run in step with the counts over the PDUs handled so far
theorem ulSummary_eq (pdus : List UlTtiPdu) :
    ulSummary (pdus.filterMap UlTtiPdu.toScf) =
      ⟨UInt8.ofNat (pdus.countP UlTtiPdu.isServed), flagByte (pdus.any UlTtiPdu.isPrach),
        UInt8.ofNat (pdus.countP UlTtiPdu.isPusch),
        UInt8.ofNat (pdus.countP UlTtiPdu.isPucch)⟩ := by
  induction pdus using List.reverseRecOn with
  | nil => rfl
  | append_singleton pdus pdu ih =>
      -- a served PDU is added to the summary of those before it
      have hstep : ∀ w, pdu.toScf = some w → ulSummary ((pdus ++ [pdu]).filterMap UlTtiPdu.toScf) =
          (ulSummary (pdus.filterMap UlTtiPdu.toScf)).add w := by
        intro w hw
        rw [List.filterMap_append, List.filterMap_cons, hw]
        exact ulSummary_concat _ w
      simp only [List.countP_append, List.countP_singleton, List.any_append, UInt8.ofNat_add]
      cases pdu with
      | prach pdu =>
          rw [hstep _ rfl, ih]
          simp [UlSummary.add, flagByte]
      | pusch pdu =>
          rw [hstep _ rfl, ih]
          simp [UlSummary.add]
      | pucch pdu =>
          rw [hstep _ rfl, ih]
          simp [UlSummary.add]
      | srs pdu =>
          rw [hstep _ rfl, ih]
          simp [UlSummary.add]
      | other =>
          have hnone : [UlTtiPdu.other].filterMap UlTtiPdu.toScf = [] := rfl
          rw [List.filterMap_append, hnone, List.append_nil, ih]
          simp

/-! ## Every message carries its request -/

/-- The PDUs that are serialised. -/
def UlTtiRequest.served (msg : UlTtiRequest) : List UlTtiPdu := msg.pdus.filter UlTtiPdu.isServed

/-- The length of the message that encodes the request. -/
def UlTtiRequest.encodedLength (msg : UlTtiRequest) : Nat :=
  17 + ((msg.pdus.filterMap UlTtiPdu.toScf).flatMap ScfUlPdu.encode).length

/-- The body says the slot, sums up the PDUs and carries them in order. -/
structure ScfUlTtiReq.CarriesRequest (msg : UlTtiRequest) (req : ScfUlTtiReq) : Prop where
  sfn : req.sfn = msg.slot.sfn
  slot : req.slot = msg.slot.slot
  numPdus : req.summary.numPdus.toNat = msg.served.length
  numUlsch : req.summary.numUlsch.toNat = msg.pdus.countP UlTtiPdu.isPusch
  numUlcch : req.summary.numUlcch.toNat = msg.pdus.countP UlTtiPdu.isPucch
  rachPresent : req.summary.rachPresent = 1 ↔ ∃ prach, UlTtiPdu.prach prach ∈ msg.pdus
  pdus : List.Forall₂ UlTtiPdu.CarriedBy msg.served req.pdus

theorem forall₂_carriedBy (pdus : List UlTtiPdu) :
    List.Forall₂ UlTtiPdu.CarriedBy (pdus.filter UlTtiPdu.isServed)
      (pdus.filterMap UlTtiPdu.toScf) := by
  induction pdus with
  | nil => exact .nil
  | cons pdu pdus ih =>
      rw [List.filter_cons, List.filterMap_cons]
      cases pdu with
      | prach pdu => exact .cons pdu.toScf_carries ih
      | pusch pdu => exact .cons pdu.toScf_carries ih
      | pucch pdu => exact .cons pdu.toScf_carries ih
      | srs pdu => exact .cons pdu.toScf_carries ih
      | other => exact ih

theorem flagByte_any_isPrach (pdus : List UlTtiPdu) :
    flagByte (pdus.any UlTtiPdu.isPrach) = 1 ↔ ∃ prach, UlTtiPdu.prach prach ∈ pdus := by
  have hflag : ∀ b, flagByte b = 1 ↔ b = true := by decide
  rw [hflag, List.any_eq_true]
  constructor
  · rintro ⟨pdu, hmem, hp⟩
    cases pdu with
    | prach prach => exact ⟨prach, hmem⟩
    | _ => cases hp
  · rintro ⟨prach, hmem⟩
    exact ⟨.prach prach, hmem, rfl⟩

theorem scfUlTtiReq_parses (slot : SlotPoint) (pdus : List UlTtiPdu) (hn : pdus.length ≤ 255) :
    let ws := pdus.filterMap UlTtiPdu.toScf
    Parses scfUlTtiReq (ulTtiBody slot (ulSummary ws) (ws.flatMap ScfUlPdu.encode))
      ⟨slot.sfn, slot.slot, ulSummary ws, 0, ws⟩ := by
  intro ws
  have hws : ∀ w ∈ ws, Parses (scfPdu scfUlPduConfig) w.encode (id w) := by
    intro w hw
    obtain ⟨pdu, -, hpdu⟩ := List.mem_filterMap.mp hw
    exact scfUlPdu_parses hpdu
  have hpdus := Parses.times ws hws
  -- at most 255 PDUs, so the byte that counts them does not wrap
  have hcount : (ulSummary ws).numPdus.toNat = ws.length := by
    have hle := pdus.countP_le_length (p := UlTtiPdu.isServed)
    have hlen := (forall₂_carriedBy pdus).length_eq
    rw [← List.countP_eq_length_filter] at hlen
    rw [ulSummary_eq, ← hlen]
    exact UInt8.toNat_ofNat_of_lt' (show _ < 2 ^ 8 by omega)
  rw [← hcount, List.map_id] at hpdus
  exact .bind (.u16 _) <| .bind (.u16 _) <| .bind (.u8 _) <| .bind (.u8 _) <| .bind (.u8 _) <|
    .bind (.u8 _) <| .bind (.u8 _) <| .last hpdus

theorem ulPduBytes_length_le (pdus : List UlTtiPdu) :
    ((pdus.filterMap UlTtiPdu.toScf).flatMap ScfUlPdu.encode).length ≤ 132 * pdus.length := by
  induction pdus with
  | nil => exact Nat.zero_le _
  | cons pdu pdus ih =>
      rw [List.filterMap_cons, List.length_cons, Nat.mul_succ]
      cases hw : pdu.toScf with
      | none => exact le_trans ih (Nat.le_add_right _ _)
      | some w =>
          have hle := ulPduConfig_length_le hw
          rw [List.flatMap_cons, List.length_append, ScfUlPdu.encode, encodePdu_length]
          omega

theorem serializeUlTtiRequest_carries (msg : UlTtiRequest) (hn : msg.pdus.length ≤ 255) :
    ScfUlTtiReq.CarriesRequest msg ⟨msg.slot.sfn, msg.slot.slot,
      ulSummary (msg.pdus.filterMap UlTtiPdu.toScf), 0, msg.pdus.filterMap UlTtiPdu.toScf⟩ := by
  have hcount : ∀ p : UlTtiPdu → Bool,
      (UInt8.ofNat (msg.pdus.countP p)).toNat = msg.pdus.countP p := by
    intro p
    have hle := msg.pdus.countP_le_length (p := p)
    exact UInt8.toNat_ofNat_of_lt' (show _ < 2 ^ 8 by omega)
  rw [ulSummary_eq]
  exact {
    sfn := rfl
    slot := rfl
    numPdus := (hcount _).trans List.countP_eq_length_filter
    numUlsch := hcount _
    numUlcch := hcount _
    rachPresent := flagByte_any_isPrach _
    pdus := forall₂_carriedBy _ }

-- every UL_TTI message whose encoding fits its buffer is read back completely and carries its
-- request
theorem serializeUlTtiRequest_lossless (msg : UlTtiRequest) (buf : Mem) (bufLen : Nat)
    (cellId : UInt8) (hn : msg.pdus.length ≤ 255) (hfit : msg.encodedLength ≤ bufLen) :
    (serializeUlTtiRequest msg buf bufLen cellId).ReadsBack scfUlTtiReq cellId
      scfMsgIdUlTtiRequest (ScfUlTtiReq.CarriesRequest msg) := by
  have hroom : 17 ≤ bufLen := le_trans (Nat.le_add_right 17 _) hfit
  have hbytes := ulPduBytes_length_le msg.pdus
  obtain ⟨hret, hbuf⟩ := serializeUlTtiRequest_eq msg buf cellId hroom
  exact SerializeResult.readsBack_of_parses hbuf hret (ulTtiBody_length _ _ _) (by omega)
    (scfUlTtiReq_parses msg.slot msg.pdus hn) (serializeUlTtiRequest_carries msg hn)

/-- A PUCCH PDU of format 3 with a second hop. -/
def pucchOfFormat3 : UlPucchPdu where
  rnti := 0x4601
  handle := 7
  bwp := ⟨0, 273⟩
  scs := 1
  cp := .normal
  format := .format3 ⟨true, 1, 2, false, 3, 0, 1, 4, 0⟩
  prbs := ⟨10, 2⟩
  symbols := ⟨0, 14⟩
  secondHopPrb := some 200

theorem serializeUlTtiRequest_lossless_pucch :
    (serializeUlTtiRequest ⟨⟨1, 5, 3⟩, [.prach ⟨1, 0, 0, 0, 13⟩, .pucch pucchOfFormat3]⟩ .zeros
      15000 0).ReadsBack scfUlTtiReq 0 scfMsgIdUlTtiRequest
        (ScfUlTtiReq.CarriesRequest
          ⟨⟨1, 5, 3⟩, [.prach ⟨1, 0, 0, 0, 13⟩, .pucch pucchOfFormat3]⟩) :=
  serializeUlTtiRequest_lossless _ .zeros 15000 0 (by decide) (by decide)

end AerialBridge
