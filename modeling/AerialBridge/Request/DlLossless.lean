import AerialBridge.Request.DlParser

/-!
# DL_TTI.request and UL_DCI.request lose nothing

What the fields of a downlink PDU have to say about the PDU that was given, and that the reference
parser finds exactly this in every message.  Where OCUDU's value is wider than its field, the field
holds it modulo its width.
-/

namespace AerialBridge

open Bytes Bytes.Parser

/-! ## What the fields say -/

structure ScfSsbPdu.Carries (w : ScfSsbPdu) (ssb : DlSsbPdu) : Prop where
  physCellId : w.physCellId = ssb.physCellId
  betaPss : w.betaPss = ssb.powerConfig.betaPss
  ssbBlockIndex : w.ssbBlockIndex = ssb.ssbBlockIndex
  subcarrierOffset : w.ssbSubcarrierOffset.toNat = ssb.subcarrierOffset.toNat % 2 ^ 8
  offsetPointA : w.ssbOffsetPointA.toNat = ssb.ssbOffsetPointA.toNat % 2 ^ 16
  bchPayloadFlag : w.bchPayloadFlag = 1
  bchPayload : w.bchPayload = ssb.bchPayload

/-- The mapping that the five fields stand for. -/
def ScfCceReg.mapping (w : ScfCceReg) : CceRegMapping :=
  if w.coresetType = 1 then .coreset0 ⟨w.regBundleSz, w.interleaverSz, w.shiftIndex⟩
  else if w.cceRegType = 0 then .interleaved ⟨w.regBundleSz, w.interleaverSz, w.shiftIndex⟩
  else .nonInterleaved w.regBundleSz

structure ScfDlDci.Carries (w : ScfDlDci) (dci : DlDci) : Prop where
  rnti : w.rnti = dci.rnti
  scramblingId : w.scramblingId = dci.nidPdcchDmrs
  scramblingRnti : w.scramblingRnti = dci.nrntiPdcchData
  cceIndex : w.cceIndex = dci.cceIndex
  aggregationLevel : w.aggregationLevel = dci.dciAggregationLevel
  payload : w.payload = dci.payload

structure ScfPdcchPdu.Carries (w : ScfPdcchPdu) (pdcch : DlPdcchPdu) : Prop where
  bwp : w.bwp.Carries pdcch.coresetBwp pdcch.scs pdcch.cp
  symbols : (⟨w.startSymIndex, w.durationSym⟩ : Interval UInt8) = pdcch.symbols
  freqDomainResource : ∀ i < 45,
    bitAt w.freqDomainResource i = bitAt pdcch.freqDomainResource i
  mapping : w.cceReg.mapping = pdcch.mapping
  precoderGranularity : w.precoderGranularity = pdcch.precoderGranularity
  dlDci : ∃ dci, w.dlDcis = [dci] ∧ dci.Carries pdcch.dlDci

/-- Code rate and modulation are those of the MCS table. -/
structure ScfPdschCodeword.Carries (forceTable0 : Bool) (cw : DlPdschCodeword)
    (w : ScfPdschCodeword) : Prop where
  mcsIndex : w.mcsIndex = cw.mcsIndex
  mcsTable : w.mcsTable = getEffectivePdschMcsTable forceTable0 cw.mcsTable
  mcsEntry : (⟨w.qamModOrder, w.targetCodeRate⟩ : PdschMcsEntry) =
    getPdschMcsEntry w.mcsTable.toNat w.mcsIndex.toNat
  rvIndex : w.rvIndex = cw.rvIndex
  tbSize : w.tbSize = cw.tbSize

structure ScfPdschPduEnd.Carries (w : ScfPdschPduEnd) (pdsch : DlPdschPdu) : Prop where
  nidPdsch : w.dataScramblingId = pdsch.nidPdsch
  numLayers : w.numOfLayers = pdsch.numLayers
  refPoint : w.refPoint = pdsch.refPoint
  dlDmrsSymbPos : w.dlDmrsSymPos.toNat = pdsch.dlDmrsSymbPos.toNat % 2 ^ 16
  dmrsType : w.dmrsConfigType = pdsch.dmrsType
  dmrsScramblingId : w.dlDmrsScramblingId = pdsch.pdschDmrsScramblingId
  nscid : w.scId = pdsch.nscid
  numDmrsCdmGrpsNoData : w.numDmrsCdmGrpsNoData = pdsch.numDmrsCdmGrpsNoData
  dmrsPorts : w.dmrsPorts.toNat = pdsch.dmrsPorts.toNat % 2 ^ 16
  resourceAlloc : w.resourceAlloc = 1
  rbStart : w.rbStart.toNat = pdsch.vrbs.start.toNat % 2 ^ 16
  rbSize : w.rbSize.toNat = pdsch.vrbs.length.toNat % 2 ^ 16
  vrbToPrbMapping : w.vrbToPrbMapping = pdsch.vrbToPrbMapping
  symbols : (⟨w.startSymIndex, w.numSymbols⟩ : Interval UInt8) = pdsch.symbols

structure ScfPdschPdu.Carries (forceTable0 : Bool) (w : ScfPdschPdu) (pdsch : DlPdschPdu)
    (pduIndex : UInt16) : Prop where
  rnti : w.rnti = pdsch.rnti
  pduIndex : w.pduIndex = pduIndex
  bwp : w.bwp.Carries pdsch.bwp pdsch.scs pdsch.cp
  cws : List.Forall₂ (ScfPdschCodeword.Carries forceTable0) pdsch.cws w.cws
  pduEnd : w.pduEnd.Carries pdsch

/-- A PDU of the message carries the PDU that was given: the kinds and all fields agree. -/
def DlGiven.CarriedBy (forceTable0 : Bool) : DlGiven → ScfDlPdu → Prop
  | .ssb pdu, .ssb w => w.Carries pdu
  | .pdcch pdu, .pdcch w => w.Carries pdu
  | .pdsch pdu pduIndex, .pdsch w => w.Carries forceTable0 pdu pduIndex
  | _, _ => False

theorem DlSsbPdu.toScf_carries (ssb : DlSsbPdu) : ssb.toScf.Carries ssb where
  physCellId := rfl
  betaPss := rfl
  ssbBlockIndex := rfl
  subcarrierOffset := UInt32.toNat_toUInt8 _
  offsetPointA := UInt32.toNat_toUInt16 _
  bchPayloadFlag := rfl
  bchPayload := rfl

theorem CceRegMapping.mapping_toScf (m : CceRegMapping) : m.toScf.mapping = m := by
  cases m <;> rfl

theorem DlPdcchPdu.toScf_carries (pdcch : DlPdcchPdu) : pdcch.toScf.Carries pdcch where
  bwp := ScfBwp.of_carries _ _ _
  symbols := rfl
  freqDomainResource := fun _ hi ↦ bitAt_coresetBitmap_of_lt _ hi
  mapping := CceRegMapping.mapping_toScf _
  precoderGranularity := rfl
  dlDci := ⟨_, rfl, rfl, rfl, rfl, rfl, rfl, rfl⟩

-- no entry of the tables has modulation order 0, so OCUDU's own order is never sent
theorem getPdschMcsEntry_qamModOrder_ne_zero (mcsTable mcsIndex : Nat) :
    (getPdschMcsEntry mcsTable mcsIndex).qamModOrder ≠ 0 := by
  -- all 128 entries, by evaluation; the lookup stays inside them
  have htable : ∀ table < 4, ∀ index < 32,
      ((pdschMcsTables.getD table []).getD index ⟨0, 0⟩).qamModOrder ≠ 0 := by decide
  unfold getPdschMcsEntry
  apply htable
  · show (if mcsTable < 4 then mcsTable else 0) < 4
    split <;> omega
  · show (if mcsIndex < 32 then mcsIndex else 0) < 32
    split <;> omega

theorem DlPdschCodeword.toScf_carries (forceTable0 : Bool) (cw : DlPdschCodeword) :
    ScfPdschCodeword.Carries forceTable0 cw (cw.toScf forceTable0) where
  mcsIndex := rfl
  mcsTable := rfl
  -- the fallback to OCUDU's modulation order is never taken
  mcsEntry := by
    simp only [DlPdschCodeword.toScf, getPdschMcsEntry_qamModOrder_ne_zero, ne_eq,
      not_false_eq_true, if_true]
  rvIndex := rfl
  tbSize := rfl

theorem DlPdschPdu.toScfEnd_carries (pdsch : DlPdschPdu) : pdsch.toScfEnd.Carries pdsch where
  nidPdsch := rfl
  numLayers := rfl
  refPoint := rfl
  dlDmrsSymbPos := UInt64.toNat_toUInt16 _
  dmrsType := rfl
  dmrsScramblingId := rfl
  nscid := rfl
  numDmrsCdmGrpsNoData := rfl
  dmrsPorts := UInt64.toNat_toUInt16 _
  resourceAlloc := rfl
  rbStart := UInt32.toNat_toUInt16 _
  rbSize := UInt32.toNat_toUInt16 _
  vrbToPrbMapping := rfl
  symbols := rfl

theorem DlPdschPdu.toScf_carries (forceTable0 : Bool) (pdsch : DlPdschPdu) (pduIndex : UInt16) :
    (pdsch.toScf forceTable0 pduIndex).Carries forceTable0 pdsch pduIndex where
  rnti := rfl
  pduIndex := rfl
  bwp := ScfBwp.of_carries _ _ _
  cws := by
    show List.Forall₂ _ pdsch.cws (pdsch.cws.map (DlPdschCodeword.toScf forceTable0))
    rw [List.forall₂_map_right_iff]
    exact List.forall₂_same.mpr fun cw _ ↦ cw.toScf_carries forceTable0
  pduEnd := pdsch.toScfEnd_carries

theorem DlGiven.carriedBy_toScf (forceTable0 : Bool) (pdu : DlGiven) :
    pdu.CarriedBy forceTable0 (pdu.toScf forceTable0) := by
  cases pdu with
  | ssb pdu => exact pdu.toScf_carries
  | pdcch pdu => exact pdu.toScf_carries
  | pdsch pdu pduIndex => exact pdu.toScf_carries forceTable0 pduIndex

/-! ## Sizes -/

theorem DlPdcchPdu.toScf_encode_length (pdcch : DlPdcchPdu) :
    pdcch.toScf.encode.length = 40 + (pdcch.dlDci.payload.length + 7) / 8 := by
  simp [ScfPdcchPdu.encode, ScfCceReg.encode, ScfDlDci.encode, DlPdcchPdu.toScf, DlDci.toScf]
  omega

theorem DlPdschPdu.toScf_encode_length (forceTable0 : Bool) (pdsch : DlPdschPdu)
    (pduIndex : UInt16) :
    (pdsch.toScf forceTable0 pduIndex).encode.length = 78 + 10 * pdsch.cws.length := by
  have hend : pdsch.toScfEnd.encode.length = 58 := rfl
  have hcw : ∀ w : ScfPdschCodeword, w.encode.length = 10 := fun _ ↦ rfl
  have hcws := length_flatMap_eq hcw (pdsch.cws.map (DlPdschCodeword.toScf forceTable0))
  rw [List.length_map] at hcws
  simp [ScfPdschPdu.encode, DlPdschPdu.toScf, hend, hcws]
  omega

/-- Every PDU fits its 16-bit size field. -/
theorem pduConfig_length_lt (forceTable0 : Bool) (pdu : DlGiven) :
    4 + (pdu.toScf forceTable0).pduConfig.length < 2 ^ 16 := by
  cases pdu with
  | ssb pdu =>
      show 4 + pdu.toScf.encode.length < 2 ^ 16
      have hlen : pdu.toScf.encode.length = 12 := rfl
      omega
  | pdcch pdu =>
      have hlen := pdu.toScf_encode_length
      have hlt := pdu.dlDci.payload_lt
      show 4 + pdu.toScf.encode.length < 2 ^ 16
      omega
  | pdsch pdu pduIndex =>
      have hlen := pdu.toScf_encode_length forceTable0 pduIndex
      have hlt := pdu.cws_lt
      show 4 + (pdu.toScf forceTable0 pduIndex).encode.length < 2 ^ 16
      omega

/-! ## Reading a message -/

theorem scfDlPdu_parses (forceTable0 : Bool) (pdu : DlGiven) :
    Parses (scfPdu scfDlPduConfig) (pdu.toScf forceTable0).encode (pdu.toScf forceTable0) := by
  apply scfPdu_parses _ (pduConfig_length_lt forceTable0 pdu)
  cases pdu with
  | ssb pdu => exact .last (scfSsbPdu_parses _)
  | pdcch pdu => exact .last (scfPdcchPdu_parses pdu)
  | pdsch pdu pduIndex => exact .last (scfPdschPdu_parses forceTable0 pdu pduIndex)

theorem dlGiven_length_le (k : UInt16) (pdus : List DlTtiPdu) :
    (dlGiven k pdus).length ≤ pdus.length := by
  induction pdus generalizing k with
  | nil => exact le_rfl
  | cons pdu pdus ih =>
      cases pdu with
      | ssb ssb => exact Nat.succ_le_succ (ih k)
      | pdcch pdcch => exact Nat.succ_le_succ (ih k)
      | pdsch pdsch => exact Nat.succ_le_succ (ih (k + 1))
      | csiRs => exact Nat.le_succ_of_le (ih k)
      | prs => exact Nat.le_succ_of_le (ih k)

theorem scfDlTtiReq_parses (forceTable0 : Bool) (slot : SlotPoint) (pdus : List DlGiven)
    (hn : pdus.length < 2 ^ 8) :
    Parses scfDlTtiReq (dlTtiBody forceTable0 slot pdus)
      ⟨slot.sfn, slot.slot, UInt8.ofNat pdus.length, 0,
        pdus.map (DlGiven.toScf forceTable0)⟩ := by
  have hcount : (UInt8.ofNat pdus.length).toNat = pdus.length := UInt8.toNat_ofNat_of_lt' hn
  have hpdus := Parses.times pdus fun pdu _ ↦ scfDlPdu_parses forceTable0 pdu
  rw [← hcount] at hpdus
  rw [dlTtiBody]
  simp only [List.append_assoc]
  exact .bind (.u16 _) <| .bind (.u16 _) <| .bind (.u8 _) <| .bind (.u8 _) <| .last hpdus

theorem scfUlDciReq_parses (msg : UlDciRequest) (hn : msg.pdus.length < 2 ^ 8) :
    Parses scfUlDciReq (ulDciBody msg)
      ⟨msg.slot.sfn, msg.slot.slot, UInt8.ofNat msg.pdus.length,
        msg.pdus.map fun pdcch ↦ .pdcch pdcch.toScf⟩ := by
  have hcount : (UInt8.ofNat msg.pdus.length).toNat = msg.pdus.length :=
    UInt8.toNat_ofNat_of_lt' hn
  have hpdus := Parses.times msg.pdus fun pdcch _ ↦ scfDlPdu_parses false (.pdcch pdcch)
  rw [← hcount] at hpdus
  exact .bind (.u16 _) <| .bind (.u16 _) <| .bind (.u8 _) <| .last hpdus

theorem dlPduBytes_length_le (forceTable0 : Bool) (pdus : List DlGiven) :
    (dlPduBytes forceTable0 pdus).length ≤ 2 ^ 16 * pdus.length := by
  apply length_flatMap_le
  intro pdu
  have hlt := pduConfig_length_lt forceTable0 pdu
  rw [ScfDlPdu.encode, encodePdu_length]
  omega

theorem ulDciBody_length_le (msg : UlDciRequest) :
    (ulDciBody msg).length ≤ 5 + 2 ^ 16 * msg.pdus.length := by
  have hle : (msg.pdus.flatMap fun pdcch ↦ encodePdu scfPduTypePdcch pdcch.toScf.encode).length ≤
      2 ^ 16 * msg.pdus.length := by
    apply length_flatMap_le
    intro pdcch
    have hlt := pduConfig_length_lt false (.pdcch pdcch)
    rw [encodePdu_length]
    exact Nat.le_of_lt hlt
  simp only [ulDciBody, List.length_append, le16_length, List.length_singleton]
  omega

/-! ## Every message carries its request -/

/-- The length of the message that encodes the request. -/
def DlTtiRequest.encodedLength (forceTable0 : Bool) (msg : DlTtiRequest) : Nat :=
  14 + (dlPduBytes forceTable0 (dlGiven 0 msg.pdus)).length

def UlDciRequest.encodedLength (msg : UlDciRequest) : Nat := 8 + (ulDciBody msg).length

/-- The body says the slot and carries the PDUs that the serialiser supports, in order. -/
structure ScfDlTtiReq.CarriesRequest (forceTable0 : Bool) (msg : DlTtiRequest)
    (req : ScfDlTtiReq) : Prop where
  sfn : req.sfn = msg.slot.sfn
  slot : req.slot = msg.slot.slot
  numPdus : req.numPdus.toNat = (dlGiven 0 msg.pdus).length
  pdus : List.Forall₂ (DlGiven.CarriedBy forceTable0) (dlGiven 0 msg.pdus) req.pdus

structure ScfUlDciReq.CarriesRequest (msg : UlDciRequest) (req : ScfUlDciReq) : Prop where
  sfn : req.sfn = msg.slot.sfn
  slot : req.slot = msg.slot.slot
  numPdus : req.numPdus.toNat = msg.pdus.length
  pdus : List.Forall₂ (DlGiven.CarriedBy false) (msg.pdus.map DlGiven.pdcch) req.pdus

/-- The message of a request, and whatever can be said of what its body parses to. -/
theorem serializeDlTtiRequest_reads (forceTable0 : Bool) (msg : DlTtiRequest) (buf : Mem)
    {bufLen : Nat} (cellId : UInt8) (hn : msg.pdus.length ≤ 255) (hfit : 14 ≤ bufLen)
    {P : ScfDlTtiReq → Prop}
    (hP : P ⟨msg.slot.sfn, msg.slot.slot, UInt8.ofNat (dlGiven 0 msg.pdus).length, 0,
      (dlGiven 0 msg.pdus).map (DlGiven.toScf forceTable0)⟩) :
    (serializeDlTtiRequest forceTable0 msg buf bufLen cellId).ReadsBack scfDlTtiReq cellId
      scfMsgIdDlTtiRequest P := by
  have hgiven := dlGiven_length_le 0 msg.pdus
  have hbytes := dlPduBytes_length_le forceTable0 (dlGiven 0 msg.pdus)
  have hlen := dlTtiBody_length forceTable0 msg.slot (dlGiven 0 msg.pdus)
  have hparse := scfDlTtiReq_parses forceTable0 msg.slot (dlGiven 0 msg.pdus) (by omega)
  obtain ⟨hret, hbuf⟩ := serializeDlTtiRequest_eq forceTable0 msg buf cellId hfit
  exact SerializeResult.readsBack_of_parses hbuf hret hlen (by omega) hparse hP

theorem serializeDlTtiRequest_readsBack (forceTable0 : Bool) (msg : DlTtiRequest) (buf : Mem)
    {bufLen : Nat} (cellId : UInt8) (hn : msg.pdus.length ≤ 255) (hfit : 14 ≤ bufLen) :
    (serializeDlTtiRequest forceTable0 msg buf bufLen cellId).ReadsBack scfDlTtiReq cellId
      scfMsgIdDlTtiRequest (ScfDlTtiReq.CarriesRequest forceTable0 msg) := by
  have hgiven := dlGiven_length_le 0 msg.pdus
  apply serializeDlTtiRequest_reads forceTable0 msg buf cellId hn hfit
  exact {
    sfn := rfl
    slot := rfl
    numPdus := UInt8.toNat_ofNat_of_lt' (show _ < 2 ^ 8 by omega)
    pdus := by
      rw [List.forall₂_map_right_iff]
      exact List.forall₂_same.mpr fun pdu _ ↦ pdu.carriedBy_toScf forceTable0 }

theorem serializeUlDciRequest_readsBack (msg : UlDciRequest) (buf : Mem) {bufLen : Nat}
    (cellId : UInt8) (hn : msg.pdus.length ≤ 255) (hguard : 16 ≤ bufLen) :
    (serializeUlDciRequest msg buf bufLen cellId).ReadsBack scfUlDciReq cellId
      scfMsgIdUlDciRequest (ScfUlDciReq.CarriesRequest msg) := by
  have hlen := ulDciBody_length_le msg
  have hparse := scfUlDciReq_parses msg (by omega)
  obtain ⟨hret, hbuf⟩ := serializeUlDciRequest_eq msg buf cellId hguard
  apply SerializeResult.readsBack_of_parses hbuf hret rfl (by omega) hparse
  exact {
    sfn := rfl
    slot := rfl
    numPdus := UInt8.toNat_ofNat_of_lt' (show _ < 2 ^ 8 by omega)
    pdus := by
      rw [List.forall₂_map_left_iff, List.forall₂_map_right_iff]
      exact List.forall₂_same.mpr fun pdcch _ ↦ pdcch.toScf_carries }

-- every DL_TTI and UL_DCI message whose encoding fits its buffer, of at least 16 bytes for UL_DCI,
-- is read back completely and carries its request
theorem dlRequests_lossless (forceTable0 : Bool) (buf : Mem) (bufLen : Nat) (cellId : UInt8) :
    (∀ msg : DlTtiRequest, msg.pdus.length ≤ 255 → msg.encodedLength forceTable0 ≤ bufLen →
      (serializeDlTtiRequest forceTable0 msg buf bufLen cellId).ReadsBack scfDlTtiReq cellId
        scfMsgIdDlTtiRequest (ScfDlTtiReq.CarriesRequest forceTable0 msg)) ∧
    (∀ msg : UlDciRequest, msg.pdus.length ≤ 255 → msg.encodedLength ≤ bufLen → 16 ≤ bufLen →
      (serializeUlDciRequest msg buf bufLen cellId).ReadsBack scfUlDciReq cellId
        scfMsgIdUlDciRequest (ScfUlDciReq.CarriesRequest msg)) := by
  constructor
  · intro msg hn hfit
    have hroom : 14 ≤ bufLen := le_trans (Nat.le_add_right 14 _) hfit
    exact serializeDlTtiRequest_readsBack forceTable0 msg buf cellId hn hroom
  · intro msg hn _ hguard
    exact serializeUlDciRequest_readsBack msg buf cellId hn hguard

/-- A PDCCH PDU with a 5-bit DCI on a non-interleaved CORESET. -/
def pdcchOfFiveBits : DlPdcchPdu where
  coresetBwp := ⟨0, 273⟩
  scs := 1
  cp := .normal
  symbols := ⟨0, 1⟩
  freqDomainResource := [true, true, false, true]
  mapping := .nonInterleaved 6
  precoderGranularity := 0
  dlDci := ⟨0x4601, 1, 0, 2, 4, [true, false, true, true, false], by decide⟩

/-- A PDSCH PDU with one codeword. -/
def pdschOfOneCodeword : DlPdschPdu where
  rnti := 0x4601
  bwp := ⟨0, 273⟩
  scs := 1
  cp := .normal
  cws := [⟨6, 27, 0, 0, 3752⟩]
  cws_lt := by decide
  nidPdsch := 1
  numLayers := 1
  refPoint := 0
  dlDmrsSymbPos := 4
  dmrsType := 0
  pdschDmrsScramblingId := 1
  nscid := 0
  numDmrsCdmGrpsNoData := 2
  dmrsPorts := 1
  vrbs := ⟨0, 24⟩
  vrbToPrbMapping := 0
  symbols := ⟨2, 12⟩

theorem dlRequests_lossless_pdcch :
    (serializeDlTtiRequest false ⟨⟨1, 5, 3⟩, [.csiRs, .pdcch pdcchOfFiveBits]⟩ .zeros 15000
      0).ReadsBack scfDlTtiReq 0 scfMsgIdDlTtiRequest
        (ScfDlTtiReq.CarriesRequest false ⟨⟨1, 5, 3⟩, [.csiRs, .pdcch pdcchOfFiveBits]⟩) ∧
    (serializeUlDciRequest ⟨⟨1, 5, 3⟩, [pdcchOfFiveBits]⟩ .zeros 15000 0).ReadsBack scfUlDciReq 0
      scfMsgIdUlDciRequest (ScfUlDciReq.CarriesRequest ⟨⟨1, 5, 3⟩, [pdcchOfFiveBits]⟩) :=
  ⟨(dlRequests_lossless false .zeros 15000 0).1 _ (by decide) (by decide),
    (dlRequests_lossless false .zeros 15000 0).2 _ (by decide) (by decide) (by decide)⟩

-- the 13 bytes of a UL_DCI.request without DCIs fit a buffer of 13 bytes, which is refused
theorem serializeUlDciRequest_refused_empty :
    (⟨⟨1, 5, 3⟩, []⟩ : UlDciRequest).encodedLength ≤ 13 ∧
    ¬ (serializeUlDciRequest ⟨⟨1, 5, 3⟩, []⟩ .zeros 13 0).ReadsBack scfUlDciReq 0
      scfMsgIdUlDciRequest (ScfUlDciReq.CarriesRequest ⟨⟨1, 5, 3⟩, []⟩) := by
  constructor
  · decide
  · rintro ⟨length, req, -, hlen, -⟩
    change (length.toNat : Int) = -1 - 8 at hlen
    omega

end AerialBridge
