import AerialBridge.Slot.SlotPoint

/-!
# OCUDU request messages

The fields of the DL_TTI, UL_DCI and UL_TTI requests that the serialisers read.  An enumeration or
strong type that is cast to a wire field of its own width is that word; intervals, sizes and
bitmaps keep OCUDU's wider types.
-/

namespace AerialBridge

/-- `ocudu::interval`, by its start and length. -/
structure Interval (α : Type) where
  start : α
  length : α
  deriving DecidableEq, Repr

inductive CyclicPrefix
  | normal
  | extended
  deriving DecidableEq, Repr

/-! ## DL_TTI and UL_DCI -/

/-- `dl_ssb_pdu::power_config`; nothing of the SSS profile is read. -/
inductive SsbPowerConfig
  | powerProfileNr (betaPss : UInt8)
  | powerProfileSss
  deriving DecidableEq, Repr

structure DlSsbPdu where
  physCellId : UInt16
  ssbBlockIndex : UInt8
  subcarrierOffset : UInt32
  ssbOffsetPointA : UInt32
  bchPayload : UInt32
  powerConfig : SsbPowerConfig
  deriving DecidableEq, Repr

structure InterleavedMapping where
  regBundleSz : UInt8
  interleaverSz : UInt8
  shiftIndex : UInt16
  deriving DecidableEq, Repr

/-- `dl_pdcch_pdu::mapping`. -/
inductive CceRegMapping
  | coreset0 (interleaved : InterleavedMapping)
  | interleaved (interleaved : InterleavedMapping)
  | nonInterleaved (regBundleSz : UInt8)
  deriving DecidableEq, Repr

/-- The payload is a bounded bit set. -/
structure DlDci where
  rnti : UInt16
  nidPdcchDmrs : UInt16
  nrntiPdcchData : UInt16
  cceIndex : UInt8
  dciAggregationLevel : UInt8
  payload : List Bool
  payload_lt : payload.length < 2 ^ 16
  deriving DecidableEq, Repr

structure DlPdcchPdu where
  coresetBwp : Interval UInt32
  scs : UInt8
  cp : CyclicPrefix
  symbols : Interval UInt8
  freqDomainResource : List Bool
  mapping : CceRegMapping
  precoderGranularity : UInt8
  dlDci : DlDci
  deriving DecidableEq, Repr

structure DlPdschCodeword where
  qamModOrder : UInt8
  mcsIndex : UInt8
  mcsTable : UInt8
  rvIndex : UInt8
  tbSize : UInt32
  deriving DecidableEq, Repr

/-- The codewords are a static vector. -/
structure DlPdschPdu where
  rnti : UInt16
  bwp : Interval UInt32
  scs : UInt8
  cp : CyclicPrefix
  cws : List DlPdschCodeword
  cws_lt : cws.length < 2 ^ 8
  nidPdsch : UInt16
  numLayers : UInt8
  refPoint : UInt8
  dlDmrsSymbPos : UInt64
  dmrsType : UInt8
  pdschDmrsScramblingId : UInt16
  nscid : UInt8
  numDmrsCdmGrpsNoData : UInt8
  dmrsPorts : UInt64
  vrbs : Interval UInt32
  vrbToPrbMapping : UInt8
  symbols : Interval UInt8
  deriving DecidableEq, Repr

/-- A PDU of a DL_TTI.request; CSI-RS and PRS PDUs are not serialised. -/
inductive DlTtiPdu
  | ssb (pdu : DlSsbPdu)
  | pdcch (pdu : DlPdcchPdu)
  | pdsch (pdu : DlPdschPdu)
  | csiRs
  | prs
  deriving DecidableEq, Repr

structure DlTtiRequest where
  slot : SlotPoint
  pdus : List DlTtiPdu

structure UlDciRequest where
  slot : SlotPoint
  pdus : List DlPdcchPdu

/-! ## UL_TTI -/

structure UlPrachPdu where
  numPrachOcas : UInt8
  prachFormat : UInt8
  indexFdRa : UInt8
  prachStartSymbol : UInt8
  numCs : UInt16
  deriving DecidableEq, Repr

structure UlPuschData where
  rvIndex : UInt8
  harqProcessId : UInt8
  newData : Bool
  tbSize : UInt32
  deriving DecidableEq, Repr

structure UlPuschUci where
  harqAckBit : UInt32
  csiPart1Bit : UInt32
  alphaScaling : UInt8
  betaOffsetHarqAck : UInt8
  betaOffsetCsi1 : UInt8
  betaOffsetCsi2 : UInt8
  deriving DecidableEq, Repr

/-- `ul_pusch_pdu::transform_precoding`. -/
inductive TransformPrecoding
  | enabled (puschDmrsIdentity : UInt16)
  | disabled (numDmrsCdmGrpsNoData : UInt8)
  deriving DecidableEq, Repr

/-- `scaledCodeRate` is `static_cast<uint16_t>(target_code_rate * 10.0f)`. -/
structure UlPuschPdu where
  rnti : UInt16
  handle : UInt32
  bwp : Interval UInt32
  scs : UInt8
  cp : CyclicPrefix
  scaledCodeRate : UInt16
  qamModOrder : UInt8
  mcsIndex : UInt8
  mcsTable : UInt8
  transformPrecoding : TransformPrecoding
  nidPusch : UInt16
  numLayers : UInt8
  ulDmrsSymbPos : UInt64
  dmrsType : UInt8
  puschDmrsScramblingId : UInt16
  nscid : UInt8
  dmrsPorts : UInt64
  vrbs : Interval UInt32
  txDirectCurrentLocation : UInt16
  symbols : Interval UInt8
  puschData : Option UlPuschData
  puschUci : Option UlPuschUci
  deriving DecidableEq, Repr

structure UlPucchPduFormat0 where
  nidPucchHopping : UInt16
  initialCyclicShift : UInt16
  srPresent : Bool
  bitLenHarq : UInt32
  deriving DecidableEq, Repr

structure UlPucchPduFormat1 where
  nidPucchHopping : UInt16
  initialCyclicShift : UInt16
  timeDomainOccIndex : UInt8
  srPresent : Bool
  bitLenHarq : UInt32
  deriving DecidableEq, Repr

structure UlPucchPduFormat2 where
  nidPucchScrambling : UInt16
  nid0PucchDmrsScrambling : UInt16
  srBitLen : UInt8
  bitLenHarq : UInt32
  csiPart1BitLength : UInt32
  deriving DecidableEq, Repr

structure UlPucchPduFormat3 where
  pi2Bpsk : Bool
  nidPucchHopping : UInt16
  nidPucchScrambling : UInt16
  addDmrsFlag : Bool
  nid0PucchDmrsScrambling : UInt16
  m0PucchDmrsCyclicShift : UInt8
  srBitLen : UInt8
  bitLenHarq : UInt32
  csiPart1BitLength : UInt32
  deriving DecidableEq, Repr

structure UlPucchPduFormat4 extends UlPucchPduFormat3 where
  preDftOccIdx : UInt8
  preDftOccLen : UInt8
  deriving DecidableEq, Repr

/-- `ul_pucch_pdu::format`. -/
inductive UlPucchFormat
  | format0 (f0 : UlPucchPduFormat0)
  | format1 (f1 : UlPucchPduFormat1)
  | format2 (f2 : UlPucchPduFormat2)
  | format3 (f3 : UlPucchPduFormat3)
  | format4 (f4 : UlPucchPduFormat4)
  deriving DecidableEq, Repr

structure UlPucchPdu where
  rnti : UInt16
  handle : UInt32
  bwp : Interval UInt32
  scs : UInt8
  cp : CyclicPrefix
  format : UlPucchFormat
  prbs : Interval UInt32
  symbols : Interval UInt8
  secondHopPrb : Option UInt16
  deriving DecidableEq, Repr

structure UlSrsPdu where
  rnti : UInt16
  handle : UInt32
  bwp : Interval UInt32
  scs : UInt8
  cp : CyclicPrefix
  numAntPorts : UInt8
  ofdmSymbols : Interval UInt8
  numRepetitions : UInt8
  timeStartPosition : UInt8
  configIndex : UInt8
  sequenceId : UInt16
  bandwidthIndex : UInt8
  combSize : UInt8
  combOffset : UInt8
  cyclicShift : UInt8
  frequencyPosition : UInt8
  frequencyShift : UInt16
  frequencyHopping : UInt8
  groupOrSequenceHopping : UInt8
  resourceType : UInt8
  tSrs : UInt16
  tOffset : UInt16
  deriving DecidableEq, Repr

/-- A PDU of a UL_TTI.request; `other` is one of a kind that is not serialised. -/
inductive UlTtiPdu
  | prach (pdu : UlPrachPdu)
  | pusch (pdu : UlPuschPdu)
  | pucch (pdu : UlPucchPdu)
  | srs (pdu : UlSrsPdu)
  | other
  deriving DecidableEq, Repr

structure UlTtiRequest where
  slot : SlotPoint
  pdus : List UlTtiPdu

end AerialBridge
