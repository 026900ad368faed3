import AerialBridge.Request.PackedStructs

/-!
# Serialising SSB, PDCCH and PDSCH PDUs

The three downlink PDU serialisers, field by field behind the generic PDU info, and the packed
structs that their bytes form.
-/

namespace AerialBridge

open Bytes Bytes.Parser

def scfPduTypePdcch : UInt16 := 0

def scfPduTypePdsch : UInt16 := 1

def scfPduTypeSsb : UInt16 := 3

/-! ## SSB -/

structure ScfSsbPdu where
  physCellId : UInt16
  betaPss : UInt8
  ssbBlockIndex : UInt8
  ssbSubcarrierOffset : UInt8
  ssbOffsetPointA : UInt16
  bchPayloadFlag : UInt8
  bchPayload : UInt32
  deriving DecidableEq, Repr

def ScfSsbPdu.encode (w : ScfSsbPdu) : List UInt8 :=
  le16 w.physCellId ++ ([w.betaPss] ++ ([w.ssbBlockIndex] ++ ([w.ssbSubcarrierOffset] ++
    (le16 w.ssbOffsetPointA ++ ([w.bchPayloadFlag] ++ le32 w.bchPayload)))))

/-- `beta_pss` of the NR profile, otherwise 0 dB. -/
def SsbPowerConfig.betaPss : SsbPowerConfig → UInt8
  | .powerProfileNr betaPss => betaPss
  | .powerProfileSss => 0

/-- The fields assigned to the overlaid `scf_ssb_pdu`. -/
def DlSsbPdu.toScf (ssb : DlSsbPdu) : ScfSsbPdu where
  physCellId := ssb.physCellId
  betaPss := ssb.powerConfig.betaPss
  ssbBlockIndex := ssb.ssbBlockIndex
  ssbSubcarrierOffset := ssb.subcarrierOffset.toUInt8
  ssbOffsetPointA := ssb.ssbOffsetPointA.toUInt16
  bchPayloadFlag := 1
  bchPayload := ssb.bchPayload

def serializeSsbPdu (ssb : DlSsbPdu) (buf : Mem) (pos : Nat) : Mem × Nat :=
  writePdu scfPduTypeSsb (fun pduConfig ↦ pduConfig.put ssb.toScf.encode) buf pos

/-! ## PDCCH -/

structure ScfCceReg where
  cceRegType : UInt8
  regBundleSz : UInt8
  interleaverSz : UInt8
  coresetType : UInt8
  shiftIndex : UInt16
  deriving DecidableEq, Repr

def ScfCceReg.encode (w : ScfCceReg) : List UInt8 :=
  [w.cceRegType] ++ ([w.regBundleSz] ++ ([w.interleaverSz] ++ ([w.coresetType] ++
    le16 w.shiftIndex)))

/-- The mapping variables, each at its default unless the variant sets it. -/
def CceRegMapping.toScf : CceRegMapping → ScfCceReg
  | .coreset0 m => ⟨0, m.regBundleSz, m.interleaverSz, 1, m.shiftIndex⟩
  | .interleaved m => ⟨0, m.regBundleSz, m.interleaverSz, 0, m.shiftIndex⟩
  | .nonInterleaved regBundleSz => ⟨1, regBundleSz, 0, 0, 0⟩

/-- `scf_dl_dci` with the beamforming, tx power and payload blocks behind it. -/
structure ScfDlDci where
  rnti : UInt16
  scramblingId : UInt16
  scramblingRnti : UInt16
  cceIndex : UInt8
  aggregationLevel : UInt8
  beamforming : ScfBeamforming
  betaPdcch10 : UInt8
  powerControlOffsetSs : UInt8
  payload : List Bool
  deriving DecidableEq, Repr

def ScfDlDci.header (w : ScfDlDci) : List UInt8 :=
  le16 w.rnti ++ (le16 w.scramblingId ++ (le16 w.scramblingRnti ++ ([w.cceIndex] ++
    [w.aggregationLevel])))

def ScfDlDci.encode (w : ScfDlDci) : List UInt8 :=
  le16 w.rnti ++ (le16 w.scramblingId ++ (le16 w.scramblingRnti ++ ([w.cceIndex] ++
    ([w.aggregationLevel] ++ (w.beamforming.encode ++ ([w.betaPdcch10] ++
      ([w.powerControlOffsetSs] ++ (le16 (UInt16.ofNat w.payload.length) ++
        packBytes .msbFirst (bitAt w.payload) ((w.payload.length + 7) / 8)))))))))

def DlDci.toScf (dci : DlDci) : ScfDlDci where
  rnti := dci.rnti
  scramblingId := dci.nidPdcchDmrs
  scramblingRnti := dci.nrntiPdcchData
  cceIndex := dci.cceIndex
  aggregationLevel := dci.dciAggregationLevel
  beamforming := noBeamforming
  betaPdcch10 := 0
  powerControlOffsetSs := 1
  payload := dci.payload

structure ScfPdcchPdu where
  bwp : ScfBwp
  startSymIndex : UInt8
  durationSym : UInt8
  freqDomainResource : List Bool
  cceReg : ScfCceReg
  precoderGranularity : UInt8
  dlDcis : List ScfDlDci
  deriving DecidableEq, Repr

def ScfPdcchPdu.encode (w : ScfPdcchPdu) : List UInt8 :=
  w.bwp.encode ++ ([w.startSymIndex] ++ ([w.durationSym] ++
    (packBytes .lsbFirst (bitAt w.freqDomainResource) 6 ++ (w.cceReg.encode ++
      ([w.precoderGranularity] ++ (le16 (UInt16.ofNat w.dlDcis.length) ++
        w.dlDcis.flatMap ScfDlDci.encode))))))

/-- The CORESET bitmap of 45 bits; bits that were not given are zero. -/
def coresetBitmap (bits : List Bool) : List Bool := (List.range 45).map (bitAt bits)

def DlPdcchPdu.toScf (pdcch : DlPdcchPdu) : ScfPdcchPdu where
  bwp := .of pdcch.coresetBwp pdcch.scs pdcch.cp
  startSymIndex := pdcch.symbols.start
  durationSym := pdcch.symbols.length
  freqDomainResource := coresetBitmap pdcch.freqDomainResource
  cceReg := pdcch.mapping.toScf
  precoderGranularity := pdcch.precoderGranularity
  dlDcis := [pdcch.dlDci.toScf]

def serializePdcchPdu (pdcch : DlPdcchPdu) (buf : Mem) (pos : Nat) : Mem × Nat :=
  writePdu scfPduTypePdcch (fun next ↦
    let next := next.put (ScfBwp.of pdcch.coresetBwp pdcch.scs pdcch.cp).encode
    let next := next.put8 pdcch.symbols.start
    let next := next.put8 pdcch.symbols.length
    let next := next.putBits .lsbFirst (bitAt pdcch.freqDomainResource)
      (min pdcch.freqDomainResource.length 45) 6
    let cceReg := pdcch.mapping.toScf
    let next := next.put8 cceReg.cceRegType
    let next := next.put8 cceReg.regBundleSz
    let next := next.put8 cceReg.interleaverSz
    let next := next.put8 cceReg.coresetType
    let next := next.put16 cceReg.shiftIndex
    let next := next.put8 pdcch.precoderGranularity
    let next := next.put16 1
    let dci := pdcch.dlDci.toScf
    let next := next.put dci.header
    let next := next.put dci.beamforming.encode
    let next := next.put8 dci.betaPdcch10
    let next := next.put8 dci.powerControlOffsetSs
    let payloadSize := UInt16.ofNat pdcch.dlDci.payload.length
    let next := next.put16 payloadSize
    next.putBits .msbFirst (bitAt pdcch.dlDci.payload) payloadSize.toNat
      ((payloadSize.toNat + 7) / 8)) buf pos

/-! ## PDSCH -/

/-- An entry of `pdsch_mcs_tables`, with the code rate in tenths: every entry is exact there. -/
structure PdschMcsEntry where
  qamModOrder : UInt8
  targetCodeRateX10 : UInt16
  deriving DecidableEq, Repr

def pdschMcsTables : List (List PdschMcsEntry) := [
  [⟨2, 1200⟩, ⟨2, 1570⟩, ⟨2, 1930⟩, ⟨2, 2510⟩, ⟨2, 3080⟩, ⟨2, 3790⟩, ⟨2, 4490⟩, ⟨2, 5260⟩,
    ⟨2, 6020⟩, ⟨2, 6790⟩, ⟨4, 3400⟩, ⟨4, 3780⟩, ⟨4, 4340⟩, ⟨4, 4900⟩, ⟨4, 5530⟩, ⟨4, 6160⟩,
    ⟨4, 6580⟩, ⟨6, 4380⟩, ⟨6, 4660⟩, ⟨6, 5170⟩, ⟨6, 5670⟩, ⟨6, 6160⟩, ⟨6, 6660⟩, ⟨6, 7190⟩,
    ⟨6, 7720⟩, ⟨6, 8220⟩, ⟨6, 8730⟩, ⟨6, 9100⟩, ⟨6, 9480⟩, ⟨2, 0⟩, ⟨4, 0⟩, ⟨6, 0⟩],
  [⟨2, 1200⟩, ⟨2, 1930⟩, ⟨2, 3080⟩, ⟨2, 4490⟩, ⟨2, 6020⟩, ⟨4, 3780⟩, ⟨4, 4340⟩, ⟨4, 4900⟩,
    ⟨4, 5530⟩, ⟨4, 6160⟩, ⟨4, 6580⟩, ⟨6, 4660⟩, ⟨6, 5170⟩, ⟨6, 5670⟩, ⟨6, 6160⟩, ⟨6, 6660⟩,
    ⟨6, 7190⟩, ⟨6, 7720⟩, ⟨6, 8220⟩, ⟨6, 8730⟩, ⟨8, 6825⟩, ⟨8, 7110⟩, ⟨8, 7540⟩, ⟨8, 7970⟩,
    ⟨8, 8410⟩, ⟨8, 8850⟩, ⟨8, 9165⟩, ⟨8, 9480⟩, ⟨2, 0⟩, ⟨4, 0⟩, ⟨6, 0⟩, ⟨8, 0⟩],
  [⟨2, 300⟩, ⟨2, 400⟩, ⟨2, 500⟩, ⟨2, 640⟩, ⟨2, 780⟩, ⟨2, 990⟩, ⟨2, 1200⟩, ⟨2, 1570⟩,
    ⟨2, 1930⟩, ⟨2, 2510⟩, ⟨2, 3080⟩, ⟨2, 3790⟩, ⟨2, 4490⟩, ⟨2, 5260⟩, ⟨2, 6020⟩, ⟨4, 3400⟩,
    ⟨4, 3780⟩, ⟨4, 4340⟩, ⟨4, 4900⟩, ⟨4, 5530⟩, ⟨4, 6160⟩, ⟨6, 4380⟩, ⟨6, 4660⟩, ⟨6, 5170⟩,
    ⟨6, 5670⟩, ⟨6, 6160⟩, ⟨6, 6660⟩, ⟨6, 7190⟩, ⟨6, 7720⟩, ⟨2, 0⟩, ⟨4, 0⟩, ⟨6, 0⟩],
  [⟨2, 1200⟩, ⟨2, 1930⟩, ⟨2, 4490⟩, ⟨4, 3780⟩, ⟨4, 4900⟩, ⟨4, 6160⟩, ⟨6, 4660⟩, ⟨6, 5170⟩,
    ⟨6, 5670⟩, ⟨6, 6160⟩, ⟨6, 6660⟩, ⟨6, 7190⟩, ⟨6, 7720⟩, ⟨6, 8220⟩, ⟨6, 8730⟩, ⟨8, 6825⟩,
    ⟨8, 7110⟩, ⟨8, 7540⟩, ⟨8, 7970⟩, ⟨8, 8410⟩, ⟨8, 8850⟩, ⟨8, 9165⟩, ⟨8, 9480⟩, ⟨10, 8055⟩,
    ⟨10, 8530⟩, ⟨10, 9005⟩, ⟨10, 9480⟩, ⟨2, 0⟩, ⟨4, 0⟩, ⟨6, 0⟩, ⟨8, 0⟩, ⟨10, 0⟩]]

def getPdschMcsEntry (mcsTable mcsIndex : Nat) : PdschMcsEntry :=
  let table := if mcsTable < 4 then mcsTable else 0
  let index := if mcsIndex < 32 then mcsIndex else 0
  ((pdschMcsTables.getD table []).getD index ⟨0, 0⟩)

/-- `forceTable0` is what the environment variable `AERIAL_BRIDGE_FORCE_PDSCH_MCS_TABLE0` says. -/
def getEffectivePdschMcsTable (forceTable0 : Bool) (requestedTable : UInt8) : UInt8 :=
  if forceTable0 then 0 else requestedTable

structure ScfPdschCodeword where
  targetCodeRate : UInt16
  qamModOrder : UInt8
  mcsIndex : UInt8
  mcsTable : UInt8
  rvIndex : UInt8
  tbSize : UInt32
  deriving DecidableEq, Repr

def ScfPdschCodeword.encode (w : ScfPdschCodeword) : List UInt8 :=
  le16 w.targetCodeRate ++ ([w.qamModOrder] ++ ([w.mcsIndex] ++ ([w.mcsTable] ++ ([w.rvIndex] ++
    le32 w.tbSize))))

def DlPdschCodeword.toScf (forceTable0 : Bool) (cw : DlPdschCodeword) : ScfPdschCodeword :=
  let effectiveMcsTable := getEffectivePdschMcsTable forceTable0 cw.mcsTable
  let mcsEntry := getPdschMcsEntry effectiveMcsTable.toNat cw.mcsIndex.toNat
  { targetCodeRate := mcsEntry.targetCodeRateX10
    qamModOrder := if mcsEntry.qamModOrder ≠ 0 then mcsEntry.qamModOrder else cw.qamModOrder
    mcsIndex := cw.mcsIndex
    mcsTable := effectiveMcsTable
    rvIndex := cw.rvIndex
    tbSize := cw.tbSize }

structure ScfPdschPduEnd where
  dataScramblingId : UInt16
  numOfLayers : UInt8
  transmissionScheme : UInt8
  refPoint : UInt8
  dlDmrsSymPos : UInt16
  dmrsConfigType : UInt8
  dlDmrsScramblingId : UInt16
  scId : UInt8
  numDmrsCdmGrpsNoData : UInt8
  dmrsPorts : UInt16
  resourceAlloc : UInt8
  rbBitmap : List UInt8
  rbStart : UInt16
  rbSize : UInt16
  vrbToPrbMapping : UInt8
  startSymIndex : UInt8
  numSymbols : UInt8
  deriving DecidableEq, Repr

def ScfPdschPduEnd.encode (w : ScfPdschPduEnd) : List UInt8 :=
  le16 w.dataScramblingId ++ ([w.numOfLayers] ++ ([w.transmissionScheme] ++ ([w.refPoint] ++
    (le16 w.dlDmrsSymPos ++ ([w.dmrsConfigType] ++ (le16 w.dlDmrsScramblingId ++ ([w.scId] ++
      ([w.numDmrsCdmGrpsNoData] ++ (le16 w.dmrsPorts ++ ([w.resourceAlloc] ++ (w.rbBitmap ++
        (le16 w.rbStart ++ (le16 w.rbSize ++ ([w.vrbToPrbMapping] ++ ([w.startSymIndex] ++
          [w.numSymbols])))))))))))))))

/-- The fields assigned to the overlaid `scf_pdsch_pdu_end`. -/
def DlPdschPdu.toScfEnd (pdsch : DlPdschPdu) : ScfPdschPduEnd where
  dataScramblingId := pdsch.nidPdsch
  numOfLayers := pdsch.numLayers
  transmissionScheme := 0
  refPoint := pdsch.refPoint
  dlDmrsSymPos := pdsch.dlDmrsSymbPos.toUInt16
  dmrsConfigType := pdsch.dmrsType
  dlDmrsScramblingId := pdsch.pdschDmrsScramblingId
  scId := pdsch.nscid
  numDmrsCdmGrpsNoData := pdsch.numDmrsCdmGrpsNoData
  dmrsPorts := pdsch.dmrsPorts.toUInt16
  resourceAlloc := 1
  rbBitmap := zeroRbBitmap
  rbStart := pdsch.vrbs.start.toUInt16
  rbSize := pdsch.vrbs.length.toUInt16
  vrbToPrbMapping := pdsch.vrbToPrbMapping
  startSymIndex := pdsch.symbols.start
  numSymbols := pdsch.symbols.length

structure ScfPdschPdu where
  pduBitmap : UInt16
  rnti : UInt16
  pduIndex : UInt16
  bwp : ScfBwp
  cws : List ScfPdschCodeword
  pduEnd : ScfPdschPduEnd
  beamforming : ScfBeamforming
  powerControlOffset : UInt8
  powerControlOffsetSs : UInt8
  deriving DecidableEq, Repr

def ScfPdschPdu.encode (w : ScfPdschPdu) : List UInt8 :=
  le16 w.pduBitmap ++ (le16 w.rnti ++ (le16 w.pduIndex ++ (w.bwp.encode ++
    ([UInt8.ofNat w.cws.length] ++ (w.cws.flatMap ScfPdschCodeword.encode ++ (w.pduEnd.encode ++
      (w.beamforming.encode ++ ([w.powerControlOffset] ++ [w.powerControlOffsetSs]))))))))

def DlPdschPdu.toScf (forceTable0 : Bool) (pdsch : DlPdschPdu) (pduIndex : UInt16) :
    ScfPdschPdu where
  pduBitmap := 0
  rnti := pdsch.rnti
  pduIndex := pduIndex
  bwp := .of pdsch.bwp pdsch.scs pdsch.cp
  cws := pdsch.cws.map (DlPdschCodeword.toScf forceTable0)
  pduEnd := pdsch.toScfEnd
  beamforming := noBeamforming
  powerControlOffset := 8
  powerControlOffsetSs := 1

/-- One turn of the loop over `pdsch.cws`. -/
def serializePdschCodeword (forceTable0 : Bool) (next : Cursor) (cw : DlPdschCodeword) : Cursor :=
  let effectiveMcsTable := getEffectivePdschMcsTable forceTable0 cw.mcsTable
  let mcsEntry := getPdschMcsEntry effectiveMcsTable.toNat cw.mcsIndex.toNat
  let next := next.put16 mcsEntry.targetCodeRateX10
  let next := next.put8
    (if mcsEntry.qamModOrder ≠ 0 then mcsEntry.qamModOrder else cw.qamModOrder)
  let next := next.put8 cw.mcsIndex
  let next := next.put8 effectiveMcsTable
  let next := next.put8 cw.rvIndex
  next.put32 cw.tbSize

def serializePdschPdu (forceTable0 : Bool) (pdsch : DlPdschPdu) (buf : Mem) (pos : Nat)
    (pduIndex : UInt16) : Mem × Nat :=
  writePdu scfPduTypePdsch (fun next ↦
    let next := next.put16 0
    let next := next.put16 pdsch.rnti
    let next := next.put16 pduIndex
    let next := next.put (ScfBwp.of pdsch.bwp pdsch.scs pdsch.cp).encode
    let next := next.put8 (UInt8.ofNat pdsch.cws.length)
    let next := pdsch.cws.foldl (serializePdschCodeword forceTable0) next
    let next := next.put pdsch.toScfEnd.encode
    let next := next.put noBeamforming.encode
    let next := next.put8 8
    next.put8 1) buf pos

/-! ## The bytes of the PDUs -/

theorem serializeSsbPdu_eq (ssb : DlSsbPdu) (buf : Mem) (pos : Nat) :
    serializeSsbPdu ssb buf pos =
      (buf.store pos (encodePdu scfPduTypeSsb ssb.toScf.encode), 4 + ssb.toScf.encode.length) :=
  writePdu_eq (fun _ ↦ rfl) buf pos

@[simp] theorem coresetBitmap_length (bits : List Bool) : (coresetBitmap bits).length = 45 := by
  simp [coresetBitmap]

theorem bitAt_coresetBitmap_of_lt (bits : List Bool) {i : Nat} (hi : i < 45) :
    bitAt (coresetBitmap bits) i = bitAt bits i := by
  simp [bitAt, coresetBitmap, List.getD_eq_getElem?_getD, hi]

theorem bitAt_of_le {bits : List Bool} {i : Nat} (h : bits.length ≤ i) : bitAt bits i = false := by
  rw [bitAt, List.getD_eq_getElem?_getD, List.getElem?_eq_none h, Option.getD_none]

theorem bitAt_coresetBitmap (bits : List Bool) (i : Nat) :
    bitAt (coresetBitmap bits) i = (decide (i < min bits.length 45) && bitAt bits i) := by
  by_cases hi : i < 45
  -- a bit of the bitmap is given, or past the end of what was given
  · rw [bitAt_coresetBitmap_of_lt bits hi]
    by_cases hb : i < bits.length
    · rw [decide_eq_true (by omega), Bool.true_and]
    · rw [bitAt_of_le (by omega), Bool.and_false]
  · rw [decide_eq_false (by omega), Bool.false_and]
    exact bitAt_of_le (by rw [coresetBitmap_length]; omega)

theorem serializePdcchPdu_eq (pdcch : DlPdcchPdu) (buf : Mem) (pos : Nat) :
    serializePdcchPdu pdcch buf pos =
      (buf.store pos (encodePdu scfPduTypePdcch pdcch.toScf.encode),
        4 + pdcch.toScf.encode.length) := by
  apply writePdu_eq
  intro c
  have hsize : (UInt16.ofNat pdcch.dlDci.payload.length).toNat = pdcch.dlDci.payload.length :=
    UInt16.toNat_ofNat_of_lt' pdcch.dlDci.payload_lt
  -- both bit loops write a packed stream, in opposite bit orders
  have hcoreset := Cursor.putBits_eq .lsbFirst (bitAt pdcch.freqDomainResource)
    (by omega : min pdcch.freqDomainResource.length 45 ≤ 8 * 6)
  have hpayload := Cursor.putBits_eq .msbFirst (bitAt pdcch.dlDci.payload)
    (by omega : pdcch.dlDci.payload.length ≤ 8 * ((pdcch.dlDci.payload.length + 7) / 8))
  have hbitmap : (fun i ↦ decide (i < min pdcch.freqDomainResource.length 45) &&
      bitAt pdcch.freqDomainResource i) = bitAt (coresetBitmap pdcch.freqDomainResource) :=
    funext fun i ↦ (bitAt_coresetBitmap _ i).symm
  simp only [hsize, hcoreset, hpayload, hbitmap, packBytes_bitAt, Cursor.put8, Cursor.put16,
    Cursor.put_put, ScfPdcchPdu.encode, DlPdcchPdu.toScf, ScfCceReg.encode, ScfDlDci.encode,
    ScfDlDci.header, List.flatMap_cons, List.flatMap_nil, List.append_nil, List.append_assoc]
  rfl

theorem serializePdschCodeword_eq (forceTable0 : Bool) (next : Cursor) (cw : DlPdschCodeword) :
    serializePdschCodeword forceTable0 next cw = next.put (cw.toScf forceTable0).encode := by
  simp only [serializePdschCodeword, Cursor.put8, Cursor.put16, Cursor.put32, Cursor.put_put,
    List.append_assoc]
  rfl

theorem serializePdschPdu_eq (forceTable0 : Bool) (pdsch : DlPdschPdu) (buf : Mem) (pos : Nat)
    (pduIndex : UInt16) :
    serializePdschPdu forceTable0 pdsch buf pos pduIndex =
      (buf.store pos (encodePdu scfPduTypePdsch (pdsch.toScf forceTable0 pduIndex).encode),
        4 + (pdsch.toScf forceTable0 pduIndex).encode.length) := by
  apply writePdu_eq
  intro c
  -- the codeword loop appends the encodings of the codewords
  simp only [Cursor.foldl_put (serializePdschCodeword_eq forceTable0), Cursor.put8, Cursor.put16,
    Cursor.put_put, List.append_assoc, ScfPdschPdu.encode, DlPdschPdu.toScf, List.length_map,
    List.flatMap_map]

end AerialBridge
