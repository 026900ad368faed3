import AerialBridge.Bytes.Bits
import AerialBridge.Indication.Uci

/-!
# The packed layout of a UCI.indication

What L1 puts on the wire: the values of each PDU kind, their packed encoding, and the OCUDU PDU they
stand for.  A section that OCUDU's container cannot hold stands for an absent one.
-/

namespace AerialBridge

open Bytes Bytes.Parser

/-- The codes of a detection status; every code past the four defined ones says that DTX was not
checked. -/
def DetectionStatus.HasCode : DetectionStatus → UInt8 → Prop
  | .crcPass, code => code = 0
  | .crcFailure, code => code = 1
  | .dtx, code => code = 2
  | .noDtx, code => code = 3
  | .dtxNotChecked, code => 4 ≤ code

theorem decodeDetectionStatus_hasCode {status : DetectionStatus} {code : UInt8}
    (h : status.HasCode code) : decodeDetectionStatus code = status := by
  cases status with
  -- the codes that no `case` of the source names
  | dtxNotChecked =>
      have hcode : 4 ≤ code.toNat := UInt8.le_iff_toNat_le.mp h
      unfold decodeDetectionStatus
      split
      · omega
      · omega
      · omega
      · omega
      · rfl
  | _ =>
      unfold DetectionStatus.HasCode at h
      rw [h]
      rfl

/-- A bit string whose length fits its 16-bit field. -/
structure UciBits where
  bits : List Bool
  length_lt : bits.length < 2 ^ 16

def UciBits.encode (b : UciBits) : List UInt8 :=
  le16 (UInt16.ofNat b.bits.length) ++
    packBytes .lsbFirst (bitAt b.bits) ((b.bits.length + 7) / 8)

/-- The bits as delivered, when OCUDU's container holds them. -/
def UciBits.deliver (b : UciBits) (max : Nat) : Option (List Bool) :=
  if b.bits.length ≤ max then some b.bits else none

/-- A HARQ or CSI section. -/
structure UciSection extends UciBits where
  status : DetectionStatus
  code : UInt8
  hasCode : status.HasCode code

def UciSection.encode (s : UciSection) : List UInt8 := [s.code] ++ s.toUciBits.encode

def UciSection.deliver (s : UciSection) (max : Nat) : Option UciPayload :=
  (s.toUciBits.deliver max).map fun bits ↦ ⟨s.status, s.bits.length, bits⟩

/-- The SR section of formats 0 and 1. -/
structure UciSr where
  indication : UInt8
  confidence : UInt8

def UciSr.encode (s : UciSr) : List UInt8 := [s.indication, s.confidence]

/-- The HARQ section of formats 0 and 1. -/
structure UciHarqValues where
  confidence : UInt8
  values : List UInt8
  length_lt : values.length < 2 ^ 8

def UciHarqValues.encode (s : UciHarqValues) : List UInt8 :=
  [UInt8.ofNat s.values.length, s.confidence] ++ s.values

def UciHarqValues.deliver (s : UciHarqValues) (max : Nat) : Option (List UInt8) :=
  if s.values.length ≤ max then some s.values else none

/-- The flags of the sections of a PDU. -/
def uciBitmap (sr harq csi1 csi2 : Bool) : UInt8 :=
  UInt8.ofNat (sr.toNat + 2 * harq.toNat + 4 * csi1.toNat + 8 * csi2.toNat)

theorem uciBitmap_testBit (sr harq csi1 csi2 : Bool) :
    (uciBitmap sr harq csi1 csi2).toNat.testBit 0 = sr ∧
      (uciBitmap sr harq csi1 csi2).toNat.testBit 1 = harq ∧
      (uciBitmap sr harq csi1 csi2).toNat.testBit 2 = csi1 ∧
      (uciBitmap sr harq csi1 csi2).toNat.testBit 3 = csi2 := by
  revert sr harq csi1 csi2
  decide

structure WireUciPusch where
  handle : UInt32
  rnti : UInt16
  ulCqi : UInt8
  timingAdvance : UInt16
  rssi : UInt16
  harq : Option UciSection
  csi1 : Option UciSection
  csi2 : Option UciSection

structure WireUciPucch01 where
  handle : UInt32
  rnti : UInt16
  format : PucchFormat01
  ulCqi : UInt8
  timingAdvance : UInt16
  rssi : UInt16
  sr : Option UciSr
  harq : Option UciHarqValues

structure WireUciPucch234 where
  handle : UInt32
  rnti : UInt16
  format : PucchFormat234
  ulCqi : UInt8
  timingAdvance : UInt16
  rssi : UInt16
  sr : Option UciBits
  harq : Option UciSection
  csi1 : Option UciSection
  csi2 : Option UciSection

inductive WireUciPdu
  | pusch (pdu : WireUciPusch)
  | pucch01 (pdu : WireUciPucch01)
  | pucch234 (pdu : WireUciPucch234)

def WireUciPusch.header (w : WireUciPusch) : List UInt8 :=
  [uciBitmap false w.harq.isSome w.csi1.isSome w.csi2.isSome] ++ le32 w.handle ++ le16 w.rnti ++
    [w.ulCqi] ++ le16 w.timingAdvance ++ le16 w.rssi

def WireUciPusch.encode (w : WireUciPusch) : List UInt8 :=
  w.header ++ (encodeOpt UciSection.encode w.harq ++ (encodeOpt UciSection.encode w.csi1 ++
    encodeOpt UciSection.encode w.csi2))

def PucchFormat01.code : PucchFormat01 → UInt8
  | .format0 => 0
  | .format1 => 1

def WireUciPucch01.header (w : WireUciPucch01) : List UInt8 :=
  [uciBitmap w.sr.isSome w.harq.isSome false false] ++ le32 w.handle ++ le16 w.rnti ++
    [w.format.code] ++ [w.ulCqi] ++ le16 w.timingAdvance ++ le16 w.rssi

def WireUciPucch01.encode (w : WireUciPucch01) : List UInt8 :=
  w.header ++ (encodeOpt UciSr.encode w.sr ++ encodeOpt UciHarqValues.encode w.harq)

def PucchFormat234.code : PucchFormat234 → UInt8
  | .format2 => 0
  | .format3 => 1
  | .format4 => 2

def WireUciPucch234.header (w : WireUciPucch234) : List UInt8 :=
  [uciBitmap w.sr.isSome w.harq.isSome w.csi1.isSome w.csi2.isSome] ++ le32 w.handle ++
    le16 w.rnti ++ [w.format.code] ++ [w.ulCqi] ++ le16 w.timingAdvance ++ le16 w.rssi

def WireUciPucch234.encode (w : WireUciPucch234) : List UInt8 :=
  w.header ++ (encodeOpt UciBits.encode w.sr ++ (encodeOpt UciSection.encode w.harq ++
    (encodeOpt UciSection.encode w.csi1 ++ encodeOpt UciSection.encode w.csi2)))

def WireUciPdu.pduType : WireUciPdu → UInt16
  | .pusch _ => 0
  | .pucch01 _ => 1
  | .pucch234 _ => 2

def WireUciPdu.body : WireUciPdu → List UInt8
  | .pusch w => w.encode
  | .pucch01 w => w.encode
  | .pucch234 w => w.encode

/-- A PDU behind its header, whose size is exact. -/
def WireUciPdu.encode (w : WireUciPdu) : List UInt8 :=
  le16 w.pduType ++ le16 (UInt16.ofNat (4 + w.body.length)) ++ w.body

/-- A UCI.indication; the decoder does not look at the eight header bytes. -/
def encodeUciIndication (hdr : List UInt8) (sfn slot : UInt16) (pdus : List WireUciPdu) :
    List UInt8 :=
  hdr ++ le16 sfn ++ le16 slot ++ le16 (UInt16.ofNat pdus.length) ++ pdus.flatMap WireUciPdu.encode

/-! ## What the PDUs stand for -/

/-- No timing advance for 0xFFFF, otherwise OCUDU's conversion of the raw value. -/
def wireTimingAdvance (ocudu : Ocudu) (numerology : Nat) (raw : UInt16) : Option Int :=
  if raw = 0xFFFF then none else some (ocudu.fromTimingAdvance raw numerology)

def WireUciPdu.deliver (ocudu : Ocudu) (numerology : Nat) : WireUciPdu → UciPdu
  | .pusch w => .pusch ⟨w.handle, w.rnti, noUlSinrMetric,
      wireTimingAdvance ocudu numerology w.timingAdvance, w.rssi, noRsrp,
      w.harq.bind fun s ↦ s.deliver ocudu.maxNofPayloadBits,
      w.csi1.bind fun s ↦ s.deliver ocudu.maxNofPayloadBits,
      w.csi2.bind fun s ↦ s.deliver ocudu.maxNofPayloadBits⟩
  | .pucch01 w => .pucchFormat01 ⟨w.handle, w.rnti, w.format, noUlSinrMetric,
      wireTimingAdvance ocudu numerology w.timingAdvance, w.rssi, noRsrp,
      w.sr.map fun s ↦ s.indication != 0,
      w.harq.bind fun s ↦ s.deliver ocudu.maxNumHarq⟩
  | .pucch234 w => .pucchFormat234 ⟨w.handle, w.rnti, w.format, noUlSinrMetric,
      wireTimingAdvance ocudu numerology w.timingAdvance, w.rssi, noRsrp,
      w.sr.bind fun b ↦ b.deliver ocudu.maxSrPayloadSizeBits,
      w.harq.bind fun s ↦ s.deliver ocudu.maxNofPayloadBits,
      w.csi1.bind fun s ↦ s.deliver ocudu.maxNofPayloadBits,
      w.csi2.bind fun s ↦ s.deliver ocudu.maxNofPayloadBits⟩

/-! ## Sizes -/

@[simp] theorem UciBits.encode_length (b : UciBits) :
    b.encode.length = 2 + (b.bits.length + 7) / 8 := by
  rw [UciBits.encode, List.length_append, le16_length, packBytes_length]

@[simp] theorem UciSection.encode_length (s : UciSection) :
    s.encode.length = 3 + (s.bits.length + 7) / 8 := by
  rw [UciSection.encode, List.length_append, UciBits.encode_length, List.length_singleton]
  omega

@[simp] theorem WireUciPusch.header_length (w : WireUciPusch) : w.header.length = 12 := rfl

@[simp] theorem WireUciPucch01.header_length (w : WireUciPucch01) : w.header.length = 13 := rfl

@[simp] theorem WireUciPucch234.header_length (w : WireUciPucch234) : w.header.length = 13 := rfl

@[simp] theorem UciSr.encode_length (s : UciSr) : s.encode.length = 2 := rfl

@[simp] theorem UciHarqValues.encode_length (s : UciHarqValues) :
    s.encode.length = 2 + s.values.length := by
  rw [UciHarqValues.encode, List.length_append]
  rfl

theorem UciBits.encode_length_le (b : UciBits) : b.encode.length ≤ 8194 := by
  have hlt := b.length_lt
  rw [UciBits.encode_length]
  omega

theorem UciSection.encode_length_le (s : UciSection) : s.encode.length ≤ 8195 := by
  have hlt := s.length_lt
  rw [UciSection.encode_length]
  omega

theorem UciHarqValues.encode_length_le (s : UciHarqValues) : s.encode.length ≤ 257 := by
  have hlt := s.length_lt
  rw [UciHarqValues.encode_length]
  omega

/-- Every PDU fits its 16-bit size field. -/
theorem WireUciPdu.body_length_le (w : WireUciPdu) : w.body.length ≤ 32793 := by
  cases w with
  | pusch w =>
      have h1 := encodeOpt_length_le UciSection.encode_length_le w.harq
      have h2 := encodeOpt_length_le UciSection.encode_length_le w.csi1
      have h3 := encodeOpt_length_le UciSection.encode_length_le w.csi2
      simp only [WireUciPdu.body, WireUciPusch.encode, WireUciPusch.header_length,
        List.length_append]
      omega
  | pucch01 w =>
      have h1 := encodeOpt_length_le (fun s : UciSr ↦ le_of_eq s.encode_length) w.sr
      have h2 := encodeOpt_length_le UciHarqValues.encode_length_le w.harq
      simp only [WireUciPdu.body, WireUciPucch01.encode, WireUciPucch01.header_length,
        List.length_append]
      omega
  | pucch234 w =>
      have h0 := encodeOpt_length_le UciBits.encode_length_le w.sr
      have h1 := encodeOpt_length_le UciSection.encode_length_le w.harq
      have h2 := encodeOpt_length_le UciSection.encode_length_le w.csi1
      have h3 := encodeOpt_length_le UciSection.encode_length_le w.csi2
      simp only [WireUciPdu.body, WireUciPucch234.encode, WireUciPucch234.header_length,
        List.length_append]
      omega

end AerialBridge
