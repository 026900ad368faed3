import AerialBridge.Request.PackedStructs

/-!
# Serialising PRACH, PUSCH, PUCCH and SRS PDUs

The uplink PDU serialisers, field by field behind the generic PDU info, and the packed structs that
their bytes form.  A PUSCH PDU has up to three optional sections; the five PUCCH formats share one
flat layout.
-/

namespace AerialBridge

open Bytes Bytes.Parser

def scfPduTypePrach : UInt16 := 0

def scfPduTypePusch : UInt16 := 1

def scfPduTypePucch : UInt16 := 2

def scfPduTypeSrs : UInt16 := 3

/-! ## PRACH -/

structure ScfPrachPdu where
  physCellId : UInt16
  numPrachOcas : UInt8
  prachFormat : UInt8
  indexFdRa : UInt8
  prachStartSymbol : UInt8
  numCs : UInt16
  deriving DecidableEq, Repr

def ScfPrachPdu.encode (w : ScfPrachPdu) : List UInt8 :=
  le16 w.physCellId ++ ([w.numPrachOcas] ++ ([w.prachFormat] ++ ([w.indexFdRa] ++
    ([w.prachStartSymbol] ++ le16 w.numCs))))

def UlPrachPdu.toScf (prach : UlPrachPdu) : ScfPrachPdu where
  physCellId := 0
  numPrachOcas := prach.numPrachOcas
  prachFormat := prach.prachFormat
  indexFdRa := prach.indexFdRa
  prachStartSymbol := prach.prachStartSymbol
  numCs := prach.numCs

/-- The PRACH branch of `serialize_ul_tti_request`. -/
def serializePrachPdu (prach : UlPrachPdu) (buf : Mem) (pos : Nat) : Mem × Nat :=
  writePdu scfPduTypePrach (fun next ↦
    let next := next.put16 0
    let next := next.put8 prach.numPrachOcas
    let next := next.put8 prach.prachFormat
    let next := next.put8 prach.indexFdRa
    let next := next.put8 prach.prachStartSymbol
    next.put16 prach.numCs) buf pos

/-! ## PUSCH -/

/-- The data section; `numCb` codeblocks are announced by a bitmap behind it. -/
structure ScfPuschData where
  rvIndex : UInt8
  harqProcessId : UInt8
  newDataIndicator : UInt8
  tbSize : UInt32
  numCb : UInt16
  cbPresentAndPosition : List UInt8
  deriving DecidableEq, Repr

def ScfPuschData.encode (w : ScfPuschData) : List UInt8 :=
  [w.rvIndex] ++ ([w.harqProcessId] ++ ([w.newDataIndicator] ++ (le32 w.tbSize ++
    (le16 w.numCb ++ w.cbPresentAndPosition))))

structure ScfPuschUci where
  harqAckBitLength : UInt16
  csiPart1BitLength : UInt16
  csiPart2BitLength : UInt16
  alphaScaling : UInt8
  betaOffsetHarqAck : UInt8
  betaOffsetCsi1 : UInt8
  betaOffsetCsi2 : UInt8
  deriving DecidableEq, Repr

def ScfPuschUci.encode (w : ScfPuschUci) : List UInt8 :=
  le16 w.harqAckBitLength ++ (le16 w.csiPart1BitLength ++ (le16 w.csiPart2BitLength ++
    ([w.alphaScaling] ++ ([w.betaOffsetHarqAck] ++ ([w.betaOffsetCsi1] ++ [w.betaOffsetCsi2])))))

structure ScfPuschDftOfdm where
  lowPaprGroupNumber : UInt8
  lowPaprSequenceNumber : UInt16
  ulPtrsSampleDensity : UInt8
  ulPtrsTimeDensityTransformPrecoding : UInt8
  deriving DecidableEq, Repr

def ScfPuschDftOfdm.encode (w : ScfPuschDftOfdm) : List UInt8 :=
  [w.lowPaprGroupNumber] ++ (le16 w.lowPaprSequenceNumber ++ ([w.ulPtrsSampleDensity] ++
    [w.ulPtrsTimeDensityTransformPrecoding]))

structure ScfPuschPdu where
  pduBitmap : UInt16
  rnti : UInt16
  handle : UInt32
  bwp : ScfBwp
  targetCodeRate : UInt16
  qamModOrder : UInt8
  mcsIndex : UInt8
  mcsTable : UInt8
  transformPrecoding : UInt8
  nidPusch : UInt16
  numLayers : UInt8
  ulDmrsSymbPos : UInt16
  dmrsConfigType : UInt8
  puschDmrsScramblingId : UInt16
  puschIdentity : UInt16
  nscid : UInt8
  numDmrsCdmGrpsNoData : UInt8
  dmrsPorts : UInt16
  resourceAlloc : UInt8
  rbBitmap : List UInt8
  rbStart : UInt16
  rbSize : UInt16
  vrbToPrbMapping : UInt8
  frequencyHopping : UInt8
  txDirectCurrentLocation : UInt16
  ulFrequencyShift7p5kHz : UInt8
  startSymbolIndex : UInt8
  nrOfSymbols : UInt8
  puschData : Option ScfPuschData
  puschUci : Option ScfPuschUci
  dftOfdm : Option ScfPuschDftOfdm
  beamforming : ScfBeamforming
  deriving DecidableEq, Repr

def ScfPuschPdu.encode (w : ScfPuschPdu) : List UInt8 :=
  le16 w.pduBitmap ++ (le16 w.rnti ++ (le32 w.handle ++ (w.bwp.encode ++ (le16 w.targetCodeRate ++
    ([w.qamModOrder] ++ ([w.mcsIndex] ++ ([w.mcsTable] ++ ([w.transformPrecoding] ++
      (le16 w.nidPusch ++ ([w.numLayers] ++ (le16 w.ulDmrsSymbPos ++ ([w.dmrsConfigType] ++
        (le16 w.puschDmrsScramblingId ++ (le16 w.puschIdentity ++ ([w.nscid] ++
          ([w.numDmrsCdmGrpsNoData] ++ (le16 w.dmrsPorts ++ ([w.resourceAlloc] ++ (w.rbBitmap ++
            (le16 w.rbStart ++ (le16 w.rbSize ++ ([w.vrbToPrbMapping] ++ ([w.frequencyHopping] ++
              (le16 w.txDirectCurrentLocation ++ ([w.ulFrequencyShift7p5kHz] ++
                ([w.startSymbolIndex] ++ ([w.nrOfSymbols] ++
                  (encodeOpt ScfPuschData.encode w.puschData ++
                    (encodeOpt ScfPuschUci.encode w.puschUci ++
                      (encodeOpt ScfPuschDftOfdm.encode w.dftOfdm ++
                        w.beamforming.encode))))))))))))))))))))))))))))))

/-- `std::holds_alternative<transform_precoding_enabled>`. -/
def TransformPrecoding.isEnabled : TransformPrecoding → Bool
  | .enabled _ => true
  | .disabled _ => false

/-- The three variables that the transform precoding variant sets. -/
def TransformPrecoding.flag : TransformPrecoding → UInt8
  | .enabled _ => 0
  | .disabled _ => 1

def TransformPrecoding.numDmrsCdmGrpsNoData : TransformPrecoding → UInt8
  | .enabled _ => 0
  | .disabled numDmrsCdmGrpsNoData => numDmrsCdmGrpsNoData

def TransformPrecoding.dftsOfdmDmrsIdentity : TransformPrecoding → UInt16
  | .enabled puschDmrsIdentity => puschDmrsIdentity
  | .disabled _ => 0

/-- Bit 0 for data, bit 1 for UCI, bit 3 for DFT-s-OFDM. -/
def puschPduBitmap (data uci dftsOfdm : Bool) : UInt16 :=
  let pduBitmap : UInt16 := 0
  let pduBitmap := if data then pduBitmap ||| 0x01 else pduBitmap
  let pduBitmap := if uci then pduBitmap ||| 0x02 else pduBitmap
  if dftsOfdm then pduBitmap ||| 0x08 else pduBitmap

def UlPuschData.toScf (data : UlPuschData) : ScfPuschData where
  rvIndex := data.rvIndex
  harqProcessId := data.harqProcessId
  newDataIndicator := flagByte data.newData
  tbSize := data.tbSize
  numCb := 0
  cbPresentAndPosition := []

def UlPuschUci.toScf (uci : UlPuschUci) : ScfPuschUci where
  harqAckBitLength := uci.harqAckBit.toUInt16
  csiPart1BitLength := uci.csiPart1Bit.toUInt16
  csiPart2BitLength := 0
  alphaScaling := uci.alphaScaling
  betaOffsetHarqAck := uci.betaOffsetHarqAck
  betaOffsetCsi1 := uci.betaOffsetCsi1
  betaOffsetCsi2 := uci.betaOffsetCsi2

/-- The fields assigned to the overlaid `scf_pusch_dft_ofdm`. -/
def puschDftOfdm (dftsOfdmDmrsIdentity : UInt16) : ScfPuschDftOfdm := ⟨0, dftsOfdmDmrsIdentity, 0, 0⟩

def UlPuschPdu.toScf (pdu : UlPuschPdu) : ScfPuschPdu where
  pduBitmap := puschPduBitmap pdu.puschData.isSome pdu.puschUci.isSome
    pdu.transformPrecoding.isEnabled
  rnti := pdu.rnti
  handle := pdu.handle
  bwp := .of pdu.bwp pdu.scs pdu.cp
  targetCodeRate := pdu.scaledCodeRate
  qamModOrder := pdu.qamModOrder
  mcsIndex := pdu.mcsIndex
  mcsTable := pdu.mcsTable
  transformPrecoding := pdu.transformPrecoding.flag
  nidPusch := pdu.nidPusch
  numLayers := pdu.numLayers
  ulDmrsSymbPos := pdu.ulDmrsSymbPos.toUInt16
  dmrsConfigType := pdu.dmrsType
  puschDmrsScramblingId := pdu.puschDmrsScramblingId
  puschIdentity := pdu.transformPrecoding.dftsOfdmDmrsIdentity
  nscid := pdu.nscid
  numDmrsCdmGrpsNoData := pdu.transformPrecoding.numDmrsCdmGrpsNoData
  dmrsPorts := pdu.dmrsPorts.toUInt16
  resourceAlloc := 1
  rbBitmap := zeroRbBitmap
  rbStart := pdu.vrbs.start.toUInt16
  rbSize := pdu.vrbs.length.toUInt16
  vrbToPrbMapping := 0
  frequencyHopping := 0
  txDirectCurrentLocation := pdu.txDirectCurrentLocation
  ulFrequencyShift7p5kHz := 0
  startSymbolIndex := pdu.symbols.start
  nrOfSymbols := pdu.symbols.length
  puschData := pdu.puschData.map UlPuschData.toScf
  puschUci := pdu.puschUci.map UlPuschUci.toScf
  dftOfdm := if pdu.transformPrecoding.flag = 0 then
    some (puschDftOfdm pdu.transformPrecoding.dftsOfdmDmrsIdentity) else none
  beamforming := noBeamforming

/-- The optional data section. -/
def putPuschData (next : Cursor) : Option UlPuschData → Cursor
  | none => next
  | some data =>
      let next := next.put8 data.rvIndex
      let next := next.put8 data.harqProcessId
      let next := next.put8 (flagByte data.newData)
      let next := next.put32 data.tbSize
      next.put16 0

/-- The optional UCI section. -/
def putPuschUci (next : Cursor) : Option UlPuschUci → Cursor
  | none => next
  | some uci =>
      let next := next.put16 uci.harqAckBit.toUInt16
      let next := next.put16 uci.csiPart1Bit.toUInt16
      let next := next.put16 0
      let next := next.put8 uci.alphaScaling
      let next := next.put8 uci.betaOffsetHarqAck
      let next := next.put8 uci.betaOffsetCsi1
      next.put8 uci.betaOffsetCsi2

/-- The optional DFT-s-OFDM block, present when the transform precoding flag is 0. -/
def putPuschDftOfdm (next : Cursor) (transformPrecoding : UInt8) (dftsOfdmDmrsIdentity : UInt16) :
    Cursor :=
  if transformPrecoding = 0 then next.put (puschDftOfdm dftsOfdmDmrsIdentity).encode else next

def serializePuschPdu (pdu : UlPuschPdu) (buf : Mem) (pos : Nat) : Mem × Nat :=
  writePdu scfPduTypePusch (fun next ↦
    let next := next.put16 (puschPduBitmap pdu.puschData.isSome pdu.puschUci.isSome
      pdu.transformPrecoding.isEnabled)
    let next := next.put16 pdu.rnti
    let next := next.put32 pdu.handle
    let next := next.put (ScfBwp.of pdu.bwp pdu.scs pdu.cp).encode
    let next := next.put16 pdu.scaledCodeRate
    let next := next.put8 pdu.qamModOrder
    let next := next.put8 pdu.mcsIndex
    let next := next.put8 pdu.mcsTable
    let next := next.put8 pdu.transformPrecoding.flag
    let next := next.put16 pdu.nidPusch
    let next := next.put8 pdu.numLayers
    let next := next.put16 pdu.ulDmrsSymbPos.toUInt16
    let next := next.put8 pdu.dmrsType
    let next := next.put16 pdu.puschDmrsScramblingId
    let next := next.put16 pdu.transformPrecoding.dftsOfdmDmrsIdentity
    let next := next.put8 pdu.nscid
    let next := next.put8 pdu.transformPrecoding.numDmrsCdmGrpsNoData
    let next := next.put16 pdu.dmrsPorts.toUInt16
    let next := next.put8 1
    let next := next.put zeroRbBitmap
    let next := next.put16 pdu.vrbs.start.toUInt16
    let next := next.put16 pdu.vrbs.length.toUInt16
    let next := next.put8 0
    let next := next.put8 0
    let next := next.put16 pdu.txDirectCurrentLocation
    let next := next.put8 0
    let next := next.put8 pdu.symbols.start
    let next := next.put8 pdu.symbols.length
    let next := putPuschData next pdu.puschData
    let next := putPuschUci next pdu.puschUci
    let next := putPuschDftOfdm next pdu.transformPrecoding.flag
      pdu.transformPrecoding.dftsOfdmDmrsIdentity
    next.put noBeamforming.encode) buf pos

/-! ## PUCCH -/

/-- The variables that the format variant sets, each with its default. -/
structure PucchFields where
  formatType : UInt8
  pi2Bpsk : UInt8 := 0
  groupHopFlag : UInt8 := 0
  seqHopFlag : UInt8 := 0
  hoppingId : UInt16 := 0
  initialCyclicShift : UInt16 := 0
  dataScramblingId : UInt16 := 0
  timeDomainOccIdx : UInt8 := 0
  preDftOccIdx : UInt8 := 0
  preDftOccLen : UInt8 := 0
  addDmrsFlag : UInt8 := 0
  dmrsScramblingId : UInt16 := 0
  dmrsCyclicShift : UInt8 := 0
  srFlag : UInt8 := 0
  bitLenHarq : UInt16 := 0
  bitLenCsiPart1 : UInt16 := 0
  bitLenCsiPart2 : UInt16 := 0
  deriving DecidableEq, Repr

def UlPucchFormat.fields : UlPucchFormat → PucchFields
  | .format0 f0 =>
      { formatType := 0
        hoppingId := f0.nidPucchHopping
        initialCyclicShift := f0.initialCyclicShift
        srFlag := flagByte f0.srPresent
        bitLenHarq := f0.bitLenHarq.toUInt16 }
  | .format1 f1 =>
      { formatType := 1
        hoppingId := f1.nidPucchHopping
        initialCyclicShift := f1.initialCyclicShift
        timeDomainOccIdx := f1.timeDomainOccIndex
        srFlag := flagByte f1.srPresent
        bitLenHarq := f1.bitLenHarq.toUInt16 }
  | .format2 f2 =>
      { formatType := 2
        dataScramblingId := f2.nidPucchScrambling
        dmrsScramblingId := f2.nid0PucchDmrsScrambling
        srFlag := f2.srBitLen
        bitLenHarq := f2.bitLenHarq.toUInt16
        bitLenCsiPart1 := f2.csiPart1BitLength.toUInt16 }
  | .format3 f3 =>
      { formatType := 3
        pi2Bpsk := flagByte f3.pi2Bpsk
        hoppingId := f3.nidPucchHopping
        dataScramblingId := f3.nidPucchScrambling
        addDmrsFlag := flagByte f3.addDmrsFlag
        dmrsScramblingId := f3.nid0PucchDmrsScrambling
        dmrsCyclicShift := f3.m0PucchDmrsCyclicShift
        srFlag := f3.srBitLen
        bitLenHarq := f3.bitLenHarq.toUInt16
        bitLenCsiPart1 := f3.csiPart1BitLength.toUInt16 }
  | .format4 f4 =>
      { formatType := 4
        pi2Bpsk := flagByte f4.pi2Bpsk
        hoppingId := f4.nidPucchHopping
        dataScramblingId := f4.nidPucchScrambling
        preDftOccIdx := f4.preDftOccIdx
        preDftOccLen := f4.preDftOccLen
        addDmrsFlag := flagByte f4.addDmrsFlag
        dmrsScramblingId := f4.nid0PucchDmrsScrambling
        dmrsCyclicShift := f4.m0PucchDmrsCyclicShift
        srFlag := f4.srBitLen
        bitLenHarq := f4.bitLenHarq.toUInt16
        bitLenCsiPart1 := f4.csiPart1BitLength.toUInt16 }

structure ScfPucchPdu where
  rnti : UInt16
  handle : UInt32
  bwp : ScfBwp
  multiSlotTxIndicator : UInt8
  prbStart : UInt16
  prbSize : UInt16
  startSymbolIndex : UInt8
  nrOfSymbols : UInt8
  freqHopFlag : UInt8
  secondHopPrb : UInt16
  fields : PucchFields
  beamforming : ScfBeamforming
  deriving DecidableEq, Repr

def ScfPucchPdu.encode (w : ScfPucchPdu) : List UInt8 :=
  le16 w.rnti ++ (le32 w.handle ++ (w.bwp.encode ++ ([w.fields.formatType] ++
    ([w.multiSlotTxIndicator] ++ ([w.fields.pi2Bpsk] ++ (le16 w.prbStart ++ (le16 w.prbSize ++
      ([w.startSymbolIndex] ++ ([w.nrOfSymbols] ++ ([w.freqHopFlag] ++ (le16 w.secondHopPrb ++
        ([w.fields.groupHopFlag] ++ ([w.fields.seqHopFlag] ++ (le16 w.fields.hoppingId ++
          (le16 w.fields.initialCyclicShift ++ (le16 w.fields.dataScramblingId ++
            ([w.fields.timeDomainOccIdx] ++ ([w.fields.preDftOccIdx] ++
              ([w.fields.preDftOccLen] ++ ([w.fields.addDmrsFlag] ++
                (le16 w.fields.dmrsScramblingId ++ ([w.fields.dmrsCyclicShift] ++
                  ([w.fields.srFlag] ++ (le16 w.fields.bitLenHarq ++
                    (le16 w.fields.bitLenCsiPart1 ++ (le16 w.fields.bitLenCsiPart2 ++
                      w.beamforming.encode))))))))))))))))))))))))))

def UlPucchPdu.toScf (pdu : UlPucchPdu) : ScfPucchPdu where
  rnti := pdu.rnti
  handle := pdu.handle
  bwp := .of pdu.bwp pdu.scs pdu.cp
  multiSlotTxIndicator := 0
  prbStart := pdu.prbs.start.toUInt16
  prbSize := pdu.prbs.length.toUInt16
  startSymbolIndex := pdu.symbols.start
  nrOfSymbols := pdu.symbols.length
  freqHopFlag := flagByte pdu.secondHopPrb.isSome
  secondHopPrb := pdu.secondHopPrb.getD 0
  fields := pdu.format.fields
  beamforming := noBeamforming

def serializePucchPdu (pdu : UlPucchPdu) (buf : Mem) (pos : Nat) : Mem × Nat :=
  writePdu scfPduTypePucch (fun next ↦
    let fields := pdu.format.fields
    let next := next.put16 pdu.rnti
    let next := next.put32 pdu.handle
    let next := next.put (ScfBwp.of pdu.bwp pdu.scs pdu.cp).encode
    let next := next.put8 fields.formatType
    let next := next.put8 0
    let next := next.put8 fields.pi2Bpsk
    let next := next.put16 pdu.prbs.start.toUInt16
    let next := next.put16 pdu.prbs.length.toUInt16
    let next := next.put8 pdu.symbols.start
    let next := next.put8 pdu.symbols.length
    let next := next.put8 (flagByte pdu.secondHopPrb.isSome)
    let next := next.put16 (pdu.secondHopPrb.getD 0)
    let next := next.put8 fields.groupHopFlag
    let next := next.put8 fields.seqHopFlag
    let next := next.put16 fields.hoppingId
    let next := next.put16 fields.initialCyclicShift
    let next := next.put16 fields.dataScramblingId
    let next := next.put8 fields.timeDomainOccIdx
    let next := next.put8 fields.preDftOccIdx
    let next := next.put8 fields.preDftOccLen
    let next := next.put8 fields.addDmrsFlag
    let next := next.put16 fields.dmrsScramblingId
    let next := next.put8 fields.dmrsCyclicShift
    let next := next.put8 fields.srFlag
    let next := next.put16 fields.bitLenHarq
    let next := next.put16 fields.bitLenCsiPart1
    let next := next.put16 fields.bitLenCsiPart2
    next.put noBeamforming.encode) buf pos

/-! ## SRS -/

structure ScfSrsPdu where
  rnti : UInt16
  handle : UInt32
  bwp : ScfBwp
  numAntPorts : UInt8
  symStart : UInt8
  numSymbols : UInt8
  numRepetitions : UInt8
  timeStartPosition : UInt8
  configIndex : UInt8
  sequenceId : UInt16
  bandwidthIndex : UInt8
  combSize : UInt8
  combOffset : UInt8
  cyclicShift : UInt8
  frequencyPosition : UInt8
  frequencyShift : UInt16
  frequencyHopping : UInt8
  groupOrSequenceHopping : UInt8
  resourceType : UInt8
  tSrs : UInt16
  tOffset : UInt16
  deriving DecidableEq, Repr

def ScfSrsPdu.encode (w : ScfSrsPdu) : List UInt8 :=
  le16 w.rnti ++ (le32 w.handle ++ (w.bwp.encode ++ ([w.numAntPorts] ++ ([w.symStart] ++
    ([w.numSymbols] ++ ([w.numRepetitions] ++ ([w.timeStartPosition] ++ ([w.configIndex] ++
      (le16 w.sequenceId ++ ([w.bandwidthIndex] ++ ([w.combSize] ++ ([w.combOffset] ++
        ([w.cyclicShift] ++ ([w.frequencyPosition] ++ (le16 w.frequencyShift ++
          ([w.frequencyHopping] ++ ([w.groupOrSequenceHopping] ++ ([w.resourceType] ++
            (le16 w.tSrs ++ le16 w.tOffset)))))))))))))))))))

def UlSrsPdu.toScf (pdu : UlSrsPdu) : ScfSrsPdu where
  rnti := pdu.rnti
  handle := pdu.handle
  bwp := .of pdu.bwp pdu.scs pdu.cp
  numAntPorts := pdu.numAntPorts
  symStart := pdu.ofdmSymbols.start
  numSymbols := pdu.ofdmSymbols.length
  numRepetitions := pdu.numRepetitions
  timeStartPosition := pdu.timeStartPosition
  configIndex := pdu.configIndex
  sequenceId := pdu.sequenceId
  bandwidthIndex := pdu.bandwidthIndex
  combSize := pdu.combSize
  combOffset := pdu.combOffset
  cyclicShift := pdu.cyclicShift
  frequencyPosition := pdu.frequencyPosition
  frequencyShift := pdu.frequencyShift
  frequencyHopping := pdu.frequencyHopping
  groupOrSequenceHopping := pdu.groupOrSequenceHopping
  resourceType := pdu.resourceType
  tSrs := pdu.tSrs
  tOffset := pdu.tOffset

def serializeSrsPdu (pdu : UlSrsPdu) (buf : Mem) (pos : Nat) : Mem × Nat :=
  writePdu scfPduTypeSrs (fun next ↦
    let next := next.put16 pdu.rnti
    let next := next.put32 pdu.handle
    let next := next.put (ScfBwp.of pdu.bwp pdu.scs pdu.cp).encode
    let next := next.put8 pdu.numAntPorts
    let next := next.put8 pdu.ofdmSymbols.start
    let next := next.put8 pdu.ofdmSymbols.length
    let next := next.put8 pdu.numRepetitions
    let next := next.put8 pdu.timeStartPosition
    let next := next.put8 pdu.configIndex
    let next := next.put16 pdu.sequenceId
    let next := next.put8 pdu.bandwidthIndex
    let next := next.put8 pdu.combSize
    let next := next.put8 pdu.combOffset
    let next := next.put8 pdu.cyclicShift
    let next := next.put8 pdu.frequencyPosition
    let next := next.put16 pdu.frequencyShift
    let next := next.put8 pdu.frequencyHopping
    let next := next.put8 pdu.groupOrSequenceHopping
    let next := next.put8 pdu.resourceType
    let next := next.put16 pdu.tSrs
    next.put16 pdu.tOffset) buf pos

/-! ## The bytes of the PDUs -/

theorem serializePrachPdu_eq (prach : UlPrachPdu) (buf : Mem) (pos : Nat) :
    serializePrachPdu prach buf pos =
      (buf.store pos (encodePdu scfPduTypePrach prach.toScf.encode),
        4 + prach.toScf.encode.length) := by
  apply writePdu_eq
  intro c
  simp only [Cursor.put8, Cursor.put16, Cursor.put_put, List.append_assoc]
  rfl

theorem putPuschData_eq (next : Cursor) (data : Option UlPuschData) :
    putPuschData next data =
      next.put (encodeOpt ScfPuschData.encode (data.map UlPuschData.toScf)) := by
  cases data with
  | none => exact (Cursor.put_nil next).symm
  | some data =>
      simp only [putPuschData, Cursor.put8, Cursor.put16, Cursor.put32, Cursor.put_put,
        List.append_assoc]
      rfl

theorem putPuschUci_eq (next : Cursor) (uci : Option UlPuschUci) :
    putPuschUci next uci =
      next.put (encodeOpt ScfPuschUci.encode (uci.map UlPuschUci.toScf)) := by
  cases uci with
  | none => exact (Cursor.put_nil next).symm
  | some uci =>
      simp only [putPuschUci, Cursor.put8, Cursor.put16, Cursor.put_put, List.append_assoc]
      rfl

theorem putPuschDftOfdm_eq (next : Cursor) (transformPrecoding : UInt8) (identity : UInt16) :
    putPuschDftOfdm next transformPrecoding identity =
      next.put (encodeOpt ScfPuschDftOfdm.encode
        (if transformPrecoding = 0 then some (puschDftOfdm identity) else none)) := by
  unfold putPuschDftOfdm
  -- the block follows the flag, not the variant
  by_cases h : transformPrecoding = 0
  · rw [if_pos h, if_pos h, encodeOpt]
  · rw [if_neg h, if_neg h, encodeOpt, Cursor.put_nil]

theorem serializePuschPdu_eq (pdu : UlPuschPdu) (buf : Mem) (pos : Nat) :
    serializePuschPdu pdu buf pos =
      (buf.store pos (encodePdu scfPduTypePusch pdu.toScf.encode),
        4 + pdu.toScf.encode.length) := by
  apply writePdu_eq
  intro c
  simp only [putPuschData_eq, putPuschUci_eq, putPuschDftOfdm_eq, Cursor.put8, Cursor.put16,
    Cursor.put32, Cursor.put_put, List.append_assoc]
  rfl

theorem serializePucchPdu_eq (pdu : UlPucchPdu) (buf : Mem) (pos : Nat) :
    serializePucchPdu pdu buf pos =
      (buf.store pos (encodePdu scfPduTypePucch pdu.toScf.encode),
        4 + pdu.toScf.encode.length) := by
  apply writePdu_eq
  intro c
  simp only [Cursor.put8, Cursor.put16, Cursor.put32, Cursor.put_put, List.append_assoc]
  rfl

theorem serializeSrsPdu_eq (pdu : UlSrsPdu) (buf : Mem) (pos : Nat) :
    serializeSrsPdu pdu buf pos =
      (buf.store pos (encodePdu scfPduTypeSrs pdu.toScf.encode), 4 + pdu.toScf.encode.length) := by
  apply writePdu_eq
  intro c
  simp only [Cursor.put8, Cursor.put16, Cursor.put32, Cursor.put_put, List.append_assoc]
  rfl

end AerialBridge
