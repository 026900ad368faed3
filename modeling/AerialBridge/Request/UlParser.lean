import AerialBridge.Bytes.Bits
import AerialBridge.Request.UlTti

/-!
# The reference parser of UL_TTI.request

The parser visits the PDUs by `pdu_size`.  Of a PUSCH PDU it knows nothing but `pdu_bitmap`, which
says for each optional section whether it is there.
-/

namespace AerialBridge

open Bytes Bytes.Parser

def scfPrachPdu : Parser ScfPrachPdu := do
  let physCellId ← u16
  let numPrachOcas ← u8
  let prachFormat ← u8
  let indexFdRa ← u8
  let prachStartSymbol ← u8
  let numCs ← u16
  pure ⟨physCellId, numPrachOcas, prachFormat, indexFdRa, prachStartSymbol, numCs⟩

def scfPuschData : Parser ScfPuschData := do
  let rvIndex ← u8
  let harqProcessId ← u8
  let newDataIndicator ← u8
  let tbSize ← u32
  let numCb ← u16
  let cbPresentAndPosition ← bytes ((numCb.toNat + 7) / 8)
  pure ⟨rvIndex, harqProcessId, newDataIndicator, tbSize, numCb, cbPresentAndPosition⟩

def scfPuschUci : Parser ScfPuschUci := do
  let harqAckBitLength ← u16
  let csiPart1BitLength ← u16
  let csiPart2BitLength ← u16
  let alphaScaling ← u8
  let betaOffsetHarqAck ← u8
  let betaOffsetCsi1 ← u8
  let betaOffsetCsi2 ← u8
  pure ⟨harqAckBitLength, csiPart1BitLength, csiPart2BitLength, alphaScaling, betaOffsetHarqAck,
    betaOffsetCsi1, betaOffsetCsi2⟩

def scfPuschDftOfdm : Parser ScfPuschDftOfdm := do
  let lowPaprGroupNumber ← u8
  let lowPaprSequenceNumber ← u16
  let ulPtrsSampleDensity ← u8
  let ulPtrsTimeDensityTransformPrecoding ← u8
  pure ⟨lowPaprGroupNumber, lowPaprSequenceNumber, ulPtrsSampleDensity,
    ulPtrsTimeDensityTransformPrecoding⟩

/-- The optional sections are found by bits 0, 1 and 3 of the bitmap. -/
def scfPuschPdu : Parser ScfPuschPdu := do
  let pduBitmap ← u16
  let rnti ← u16
  let handle ← u32
  let bwp ← scfBwp
  let targetCodeRate ← u16
  let qamModOrder ← u8
  let mcsIndex ← u8
  let mcsTable ← u8
  let transformPrecoding ← u8
  let nidPusch ← u16
  let numLayers ← u8
  let ulDmrsSymbPos ← u16
  let dmrsConfigType ← u8
  let puschDmrsScramblingId ← u16
  let puschIdentity ← u16
  let nscid ← u8
  let numDmrsCdmGrpsNoData ← u8
  let dmrsPorts ← u16
  let resourceAlloc ← u8
  let rbBitmap ← bytes 36
  let rbStart ← u16
  let rbSize ← u16
  let vrbToPrbMapping ← u8
  let frequencyHopping ← u8
  let txDirectCurrentLocation ← u16
  let ulFrequencyShift7p5kHz ← u8
  let startSymbolIndex ← u8
  let nrOfSymbols ← u8
  let puschData ← scfPuschData.flagged (pduBitmap.toNat.testBit 0)
  let puschUci ← scfPuschUci.flagged (pduBitmap.toNat.testBit 1)
  let dftOfdm ← scfPuschDftOfdm.flagged (pduBitmap.toNat.testBit 3)
  let beamforming ← scfRxBeamforming
  pure ⟨pduBitmap, rnti, handle, bwp, targetCodeRate, qamModOrder, mcsIndex, mcsTable,
    transformPrecoding, nidPusch, numLayers, ulDmrsSymbPos, dmrsConfigType, puschDmrsScramblingId,
    puschIdentity, nscid, numDmrsCdmGrpsNoData, dmrsPorts, resourceAlloc, rbBitmap, rbStart, rbSize,
    vrbToPrbMapping, frequencyHopping, txDirectCurrentLocation, ulFrequencyShift7p5kHz,
    startSymbolIndex, nrOfSymbols, puschData, puschUci, dftOfdm, beamforming⟩

def scfPucchPdu : Parser ScfPucchPdu := do
  let rnti ← u16
  let handle ← u32
  let bwp ← scfBwp
  let formatType ← u8
  let multiSlotTxIndicator ← u8
  let pi2Bpsk ← u8
  let prbStart ← u16
  let prbSize ← u16
  let startSymbolIndex ← u8
  let nrOfSymbols ← u8
  let freqHopFlag ← u8
  let secondHopPrb ← u16
  let groupHopFlag ← u8
  let seqHopFlag ← u8
  let hoppingId ← u16
  let initialCyclicShift ← u16
  let dataScramblingId ← u16
  let timeDomainOccIdx ← u8
  let preDftOccIdx ← u8
  let preDftOccLen ← u8
  let addDmrsFlag ← u8
  let dmrsScramblingId ← u16
  let dmrsCyclicShift ← u8
  let srFlag ← u8
  let bitLenHarq ← u16
  let bitLenCsiPart1 ← u16
  let bitLenCsiPart2 ← u16
  let beamforming ← scfRxBeamforming
  pure ⟨rnti, handle, bwp, multiSlotTxIndicator, prbStart, prbSize, startSymbolIndex, nrOfSymbols,
    freqHopFlag, secondHopPrb, ⟨formatType, pi2Bpsk, groupHopFlag, seqHopFlag, hoppingId,
      initialCyclicShift, dataScramblingId, timeDomainOccIdx, preDftOccIdx, preDftOccLen,
      addDmrsFlag, dmrsScramblingId, dmrsCyclicShift, srFlag, bitLenHarq, bitLenCsiPart1,
      bitLenCsiPart2⟩, beamforming⟩

def scfSrsPdu : Parser ScfSrsPdu := do
  let rnti ← u16
  let handle ← u32
  let bwp ← scfBwp
  let numAntPorts ← u8
  let symStart ← u8
  let numSymbols ← u8
  let numRepetitions ← u8
  let timeStartPosition ← u8
  let configIndex ← u8
  let sequenceId ← u16
  let bandwidthIndex ← u8
  let combSize ← u8
  let combOffset ← u8
  let cyclicShift ← u8
  let frequencyPosition ← u8
  let frequencyShift ← u16
  let frequencyHopping ← u8
  let groupOrSequenceHopping ← u8
  let resourceType ← u8
  let tSrs ← u16
  let tOffset ← u16
  pure ⟨rnti, handle, bwp, numAntPorts, symStart, numSymbols, numRepetitions, timeStartPosition,
    configIndex, sequenceId, bandwidthIndex, combSize, combOffset, cyclicShift, frequencyPosition,
    frequencyShift, frequencyHopping, groupOrSequenceHopping, resourceType, tSrs, tOffset⟩

def scfUlPduConfig (pduType : UInt16) : Parser ScfUlPdu :=
  if pduType = scfPduTypePrach then do
    let w ← scfPrachPdu
    pure (.prach w)
  else if pduType = scfPduTypePusch then do
    let w ← scfPuschPdu
    pure (.pusch w)
  else if pduType = scfPduTypePucch then do
    let w ← scfPucchPdu
    pure (.pucch w)
  else if pduType = scfPduTypeSrs then do
    let w ← scfSrsPdu
    pure (.srs w)
  else fail

structure ScfUlTtiReq where
  sfn : UInt16
  slot : UInt16
  summary : UlSummary
  ngroup : UInt8
  pdus : List ScfUlPdu

def scfUlTtiReq : Parser ScfUlTtiReq := do
  let sfn ← u16
  let slot ← u16
  let numPdus ← u8
  let rachPresent ← u8
  let numUlsch ← u8
  let numUlcch ← u8
  let ngroup ← u8
  let pdus ← (scfPdu scfUlPduConfig).times numPdus.toNat
  pure ⟨sfn, slot, ⟨numPdus, rachPresent, numUlsch, numUlcch⟩, ngroup, pdus⟩

/-! ## Reading the bytes of a PDU -/

theorem scfPrachPdu_parses (w : ScfPrachPdu) : Parses scfPrachPdu w.encode w :=
  .bind (.u16 _) <| .bind (.u8 _) <| .bind (.u8 _) <| .bind (.u8 _) <| .bind (.u8 _) <|
    .last (.u16 _)

theorem scfPuschData_parses (data : UlPuschData) :
    Parses scfPuschData data.toScf.encode data.toScf := by
  -- no codeblock is announced, so the bitmap behind the count is empty
  have hcb : data.toScf.cbPresentAndPosition.length = (data.toScf.numCb.toNat + 7) / 8 := by
    simp [UlPuschData.toScf]
  exact .bind (.u8 _) <| .bind (.u8 _) <| .bind (.u8 _) <| .bind (.u32 _) <| .bind (.u16 _) <|
    .last (.bytes hcb)

theorem scfPuschUci_parses (w : ScfPuschUci) : Parses scfPuschUci w.encode w :=
  .bind (.u16 _) <| .bind (.u16 _) <| .bind (.u16 _) <| .bind (.u8 _) <| .bind (.u8 _) <|
    .bind (.u8 _) <| .last (.u8 _)

theorem scfPuschDftOfdm_parses (w : ScfPuschDftOfdm) : Parses scfPuschDftOfdm w.encode w :=
  .bind (.u8 _) <| .bind (.u16 _) <| .bind (.u8 _) <| .last (.u8 _)

theorem puschPduBitmap_testBit (data uci dftsOfdm : Bool) :
    (puschPduBitmap data uci dftsOfdm).toNat.testBit 0 = data ∧
      (puschPduBitmap data uci dftsOfdm).toNat.testBit 1 = uci ∧
      (puschPduBitmap data uci dftsOfdm).toNat.testBit 3 = dftsOfdm := by
  revert data uci dftsOfdm
  decide

theorem isSome_toScf_dftOfdm (pdu : UlPuschPdu) :
    pdu.toScf.dftOfdm.isSome = pdu.transformPrecoding.isEnabled := by
  unfold UlPuschPdu.toScf
  cases pdu.transformPrecoding with
  | enabled _ => rfl
  | disabled _ => rfl

-- the bitmap, the transform precoding flag and the bytes agree on what is present
theorem scfPuschPdu_parses (pdu : UlPuschPdu) : Parses scfPuschPdu pdu.toScf.encode pdu.toScf := by
  obtain ⟨hdata, huci, hdft⟩ := puschPduBitmap_testBit pdu.puschData.isSome pdu.puschUci.isSome
    pdu.transformPrecoding.isEnabled
  -- one parse for each of the three optional sections, driven by its bit
  have hdataSection : Parses (scfPuschData.flagged (pdu.toScf.pduBitmap.toNat.testBit 0))
      (encodeOpt ScfPuschData.encode pdu.toScf.puschData) pdu.toScf.puschData := by
    show Parses (scfPuschData.flagged ((puschPduBitmap _ _ _).toNat.testBit 0)) _ _
    rw [hdata]
    show Parses _ (encodeOpt _ (pdu.puschData.map UlPuschData.toScf))
      (pdu.puschData.map UlPuschData.toScf)
    cases pdu.puschData with
    | none => exact .pure none
    | some data => exact .last (scfPuschData_parses data)
  have huciSection : Parses (scfPuschUci.flagged (pdu.toScf.pduBitmap.toNat.testBit 1))
      (encodeOpt ScfPuschUci.encode pdu.toScf.puschUci) pdu.toScf.puschUci :=
    .flagged (huci.trans Option.isSome_map.symm) scfPuschUci_parses
  have hdftSection : Parses (scfPuschDftOfdm.flagged (pdu.toScf.pduBitmap.toNat.testBit 3))
      (encodeOpt ScfPuschDftOfdm.encode pdu.toScf.dftOfdm) pdu.toScf.dftOfdm :=
    .flagged (hdft.trans (isSome_toScf_dftOfdm pdu).symm) scfPuschDftOfdm_parses
  exact .bind (.u16 _) <| .bind (.u16 _) <| .bind (.u32 _) <| .bind (scfBwp_parses _) <|
    .bind (.u16 _) <| .bind (.u8 _) <| .bind (.u8 _) <| .bind (.u8 _) <| .bind (.u8 _) <|
    .bind (.u16 _) <| .bind (.u8 _) <| .bind (.u16 _) <| .bind (.u8 _) <| .bind (.u16 _) <|
    .bind (.u16 _) <| .bind (.u8 _) <| .bind (.u8 _) <| .bind (.u16 _) <| .bind (.u8 _) <|
    .bind (.bytes zeroRbBitmap_length) <| .bind (.u16 _) <| .bind (.u16 _) <| .bind (.u8 _) <|
    .bind (.u8 _) <| .bind (.u16 _) <| .bind (.u8 _) <| .bind (.u8 _) <| .bind (.u8 _) <|
    .bind hdataSection <| .bind huciSection <| .bind hdftSection <| .last scfRxBeamforming_parses

theorem scfPucchPdu_parses (pdu : UlPucchPdu) : Parses scfPucchPdu pdu.toScf.encode pdu.toScf :=
  .bind (.u16 _) <| .bind (.u32 _) <| .bind (scfBwp_parses _) <| .bind (.u8 _) <|
    .bind (.u8 _) <| .bind (.u8 _) <| .bind (.u16 _) <| .bind (.u16 _) <| .bind (.u8 _) <|
    .bind (.u8 _) <| .bind (.u8 _) <| .bind (.u16 _) <| .bind (.u8 _) <| .bind (.u8 _) <|
    .bind (.u16 _) <| .bind (.u16 _) <| .bind (.u16 _) <| .bind (.u8 _) <| .bind (.u8 _) <|
    .bind (.u8 _) <| .bind (.u8 _) <| .bind (.u16 _) <| .bind (.u8 _) <| .bind (.u8 _) <|
    .bind (.u16 _) <| .bind (.u16 _) <| .bind (.u16 _) <| .last scfRxBeamforming_parses

theorem scfSrsPdu_parses (w : ScfSrsPdu) : Parses scfSrsPdu w.encode w :=
  .bind (.u16 _) <| .bind (.u32 _) <| .bind (scfBwp_parses _) <| .bind (.u8 _) <|
    .bind (.u8 _) <| .bind (.u8 _) <| .bind (.u8 _) <| .bind (.u8 _) <| .bind (.u8 _) <|
    .bind (.u16 _) <| .bind (.u8 _) <| .bind (.u8 _) <| .bind (.u8 _) <| .bind (.u8 _) <|
    .bind (.u8 _) <| .bind (.u16 _) <| .bind (.u8 _) <| .bind (.u8 _) <| .bind (.u8 _) <|
    .bind (.u16 _) <| .last (.u16 _)

end AerialBridge
