import AerialBridge.Bytes.Bits
import AerialBridge.Request.DlTti

/-!
# The reference parser of DL_TTI.request and UL_DCI.request

A parser that follows the packed structs: it visits the PDUs by `pdu_size` and takes each of them
apart.  It reads the bytes of every serialised PDU back to the struct they were encoded from.
-/

namespace AerialBridge

open Bytes Bytes.Parser

/-! ## The reference parser -/

def scfSsbPdu : Parser ScfSsbPdu := do
  let physCellId ← u16
  let betaPss ← u8
  let ssbBlockIndex ← u8
  let ssbSubcarrierOffset ← u8
  let ssbOffsetPointA ← u16
  let bchPayloadFlag ← u8
  let bchPayload ← u32
  pure ⟨physCellId, betaPss, ssbBlockIndex, ssbSubcarrierOffset, ssbOffsetPointA, bchPayloadFlag,
    bchPayload⟩

def scfCceReg : Parser ScfCceReg := do
  let cceRegType ← u8
  let regBundleSz ← u8
  let interleaverSz ← u8
  let coresetType ← u8
  let shiftIndex ← u16
  pure ⟨cceRegType, regBundleSz, interleaverSz, coresetType, shiftIndex⟩

def scfDlDci : Parser ScfDlDci := do
  let rnti ← u16
  let scramblingId ← u16
  let scramblingRnti ← u16
  let cceIndex ← u8
  let aggregationLevel ← u8
  let beamforming ← scfTxPrecodingBeamforming
  let betaPdcch10 ← u8
  let powerControlOffsetSs ← u8
  let payloadSizeBits ← u16
  let payload ← bitField .msbFirst payloadSizeBits.toNat ((payloadSizeBits.toNat + 7) / 8)
  pure ⟨rnti, scramblingId, scramblingRnti, cceIndex, aggregationLevel, beamforming, betaPdcch10,
    powerControlOffsetSs, payload⟩

def scfPdcchPdu : Parser ScfPdcchPdu := do
  let bwp ← scfBwp
  let startSymIndex ← u8
  let durationSym ← u8
  let freqDomainResource ← bitField .lsbFirst 45 6
  let cceReg ← scfCceReg
  let precoderGranularity ← u8
  let numDlDci ← u16
  let dlDcis ← scfDlDci.times numDlDci.toNat
  pure ⟨bwp, startSymIndex, durationSym, freqDomainResource, cceReg, precoderGranularity, dlDcis⟩

def scfPdschCodeword : Parser ScfPdschCodeword := do
  let targetCodeRate ← u16
  let qamModOrder ← u8
  let mcsIndex ← u8
  let mcsTable ← u8
  let rvIndex ← u8
  let tbSize ← u32
  pure ⟨targetCodeRate, qamModOrder, mcsIndex, mcsTable, rvIndex, tbSize⟩

def scfPdschPduEnd : Parser ScfPdschPduEnd := do
  let dataScramblingId ← u16
  let numOfLayers ← u8
  let transmissionScheme ← u8
  let refPoint ← u8
  let dlDmrsSymPos ← u16
  let dmrsConfigType ← u8
  let dlDmrsScramblingId ← u16
  let scId ← u8
  let numDmrsCdmGrpsNoData ← u8
  let dmrsPorts ← u16
  let resourceAlloc ← u8
  let rbBitmap ← bytes 36
  let rbStart ← u16
  let rbSize ← u16
  let vrbToPrbMapping ← u8
  let startSymIndex ← u8
  let numSymbols ← u8
  pure ⟨dataScramblingId, numOfLayers, transmissionScheme, refPoint, dlDmrsSymPos, dmrsConfigType,
    dlDmrsScramblingId, scId, numDmrsCdmGrpsNoData, dmrsPorts, resourceAlloc, rbBitmap, rbStart,
    rbSize, vrbToPrbMapping, startSymIndex, numSymbols⟩

/-- The bitmap must not announce the PTRS and CBG sections, which the structs do not have. -/
def scfPdschPdu : Parser ScfPdschPdu := do
  let pduBitmap ← u16
  check (pduBitmap == 0)
  let rnti ← u16
  let pduIndex ← u16
  let bwp ← scfBwp
  let numCw ← u8
  let cws ← scfPdschCodeword.times numCw.toNat
  let pduEnd ← scfPdschPduEnd
  let beamforming ← scfTxPrecodingBeamforming
  let powerControlOffset ← u8
  let powerControlOffsetSs ← u8
  pure ⟨pduBitmap, rnti, pduIndex, bwp, cws, pduEnd, beamforming, powerControlOffset,
    powerControlOffsetSs⟩

def scfDlPduConfig (pduType : UInt16) : Parser ScfDlPdu :=
  if pduType = scfPduTypeSsb then do
    let w ← scfSsbPdu
    pure (.ssb w)
  else if pduType = scfPduTypePdcch then do
    let w ← scfPdcchPdu
    pure (.pdcch w)
  else if pduType = scfPduTypePdsch then do
    let w ← scfPdschPdu
    pure (.pdsch w)
  else fail

structure ScfDlTtiReq where
  sfn : UInt16
  slot : UInt16
  numPdus : UInt8
  ngroup : UInt8
  pdus : List ScfDlPdu

def scfDlTtiReq : Parser ScfDlTtiReq := do
  let sfn ← u16
  let slot ← u16
  let numPdus ← u8
  let ngroup ← u8
  let pdus ← (scfPdu scfDlPduConfig).times numPdus.toNat
  pure ⟨sfn, slot, numPdus, ngroup, pdus⟩

/-- The body of a UL_DCI.request has no group count. -/
structure ScfUlDciReq where
  sfn : UInt16
  slot : UInt16
  numPdus : UInt8
  pdus : List ScfDlPdu

def scfUlDciReq : Parser ScfUlDciReq := do
  let sfn ← u16
  let slot ← u16
  let numPdus ← u8
  let pdus ← (scfPdu scfDlPduConfig).times numPdus.toNat
  pure ⟨sfn, slot, numPdus, pdus⟩

/-! ## Reading the bytes of a PDU -/

theorem scfSsbPdu_parses (w : ScfSsbPdu) : Parses scfSsbPdu w.encode w :=
  .bind (.u16 _) <| .bind (.u8 _) <| .bind (.u8 _) <| .bind (.u8 _) <| .bind (.u16 _) <|
    .bind (.u8 _) <| .last (.u32 _)

theorem scfCceReg_parses (w : ScfCceReg) : Parses scfCceReg w.encode w :=
  .bind (.u8 _) <| .bind (.u8 _) <| .bind (.u8 _) <| .bind (.u8 _) <| .last (.u16 _)

theorem scfDlDci_parses (dci : DlDci) : Parses scfDlDci dci.toScf.encode dci.toScf := by
  have hsize : (UInt16.ofNat dci.payload.length).toNat = dci.payload.length :=
    UInt16.toNat_ofNat_of_lt' dci.payload_lt
  have hpayload : Parses (bitField .msbFirst (UInt16.ofNat dci.payload.length).toNat
      (((UInt16.ofNat dci.payload.length).toNat + 7) / 8))
      (packBytes .msbFirst (bitAt dci.payload) ((dci.payload.length + 7) / 8)) dci.payload := by
    rw [hsize]
    exact .bitField .msbFirst rfl (by omega)
  exact .bind (.u16 _) <| .bind (.u16 _) <| .bind (.u16 _) <| .bind (.u8 _) <| .bind (.u8 _) <|
    .bind scfTxPrecodingBeamforming_parses <| .bind (.u8 _) <| .bind (.u8 _) <| .bind (.u16 _) <|
    .last hpayload

theorem scfPdcchPdu_parses (pdcch : DlPdcchPdu) :
    Parses scfPdcchPdu pdcch.toScf.encode pdcch.toScf := by
  -- a PDU of the bridge always has one DCI
  have hdcis : Parses (scfDlDci.times (1 : UInt16).toNat)
      ([pdcch.dlDci].flatMap fun dci ↦ dci.toScf.encode) [pdcch.dlDci.toScf] :=
    Parses.times [pdcch.dlDci] fun dci _ ↦ scfDlDci_parses dci
  exact .bind (scfBwp_parses _) <| .bind (.u8 _) <| .bind (.u8 _) <|
    .bind (.bitField .lsbFirst (coresetBitmap_length _) (by omega)) <|
    .bind (scfCceReg_parses _) <| .bind (.u8 _) <| .bind (.u16 _) <| .last hdcis

theorem scfPdschCodeword_parses (w : ScfPdschCodeword) : Parses scfPdschCodeword w.encode w :=
  .bind (.u16 _) <| .bind (.u8 _) <| .bind (.u8 _) <| .bind (.u8 _) <| .bind (.u8 _) <|
    .last (.u32 _)

theorem scfPdschPduEnd_parses (pdsch : DlPdschPdu) :
    Parses scfPdschPduEnd pdsch.toScfEnd.encode pdsch.toScfEnd :=
  .bind (.u16 _) <| .bind (.u8 _) <| .bind (.u8 _) <| .bind (.u8 _) <| .bind (.u16 _) <|
    .bind (.u8 _) <| .bind (.u16 _) <| .bind (.u8 _) <| .bind (.u8 _) <| .bind (.u16 _) <|
    .bind (.u8 _) <| .bind (.bytes zeroRbBitmap_length) <| .bind (.u16 _) <| .bind (.u16 _) <|
    .bind (.u8 _) <| .bind (.u8 _) <| .last (.u8 _)

theorem scfPdschPdu_parses (forceTable0 : Bool) (pdsch : DlPdschPdu) (pduIndex : UInt16) :
    Parses scfPdschPdu (pdsch.toScf forceTable0 pduIndex).encode
      (pdsch.toScf forceTable0 pduIndex) := by
  have hcws := Parses.times (pdsch.cws.map (DlPdschCodeword.toScf forceTable0))
    fun w _ ↦ scfPdschCodeword_parses w
  rw [List.map_id'] at hcws
  -- the count byte is exact for a static vector
  have hcount : (UInt8.ofNat (pdsch.cws.map (DlPdschCodeword.toScf forceTable0)).length).toNat =
      (pdsch.cws.map (DlPdschCodeword.toScf forceTable0)).length := by
    rw [List.length_map]
    exact UInt8.toNat_ofNat_of_lt' pdsch.cws_lt
  rw [← hcount] at hcws
  exact .bind (.u16 _) <| .check rfl <| .bind (.u16 _) <| .bind (.u16 _) <|
    .bind (scfBwp_parses _) <| .bind (.u8 _) <| .bind hcws <| .bind (scfPdschPduEnd_parses pdsch) <|
    .bind scfTxPrecodingBeamforming_parses <| .bind (.u8 _) <| .last (.u8 _)

end AerialBridge
