import AerialBridge.Indication.Bounds
import AerialBridge.Indication.UciWire

/-!
# The packed layouts of CRC, RX_DATA, RACH and SRS indications

The records L1 puts on the wire in the layout without `SCF_FAPI_10_04`, their packed encoding, and
the OCUDU PDU that a decoder makes of each.  Inner arrays are as long as their length field allows.
-/

namespace AerialBridge

open Bytes Bytes.Parser

/-- An indication: the eight header bytes, which no decoder looks at, SFN, slot, the PDU count and
the records. -/
def encodeIndication (hdr : List UInt8) (sfn slot : UInt16) (count records : List UInt8) :
    List UInt8 :=
  hdr ++ (le16 sfn ++ (le16 slot ++ (count ++ records)))

/-! ## CRC -/

structure WireCrc where
  handle : UInt32
  rnti : UInt16
  harqId : UInt8
  tbCrcStatus : UInt8
  cbCrcStatus : List UInt8
  numCb_lt : cbCrcStatus.length < 2 ^ 16
  ulCqi : UInt8
  timingAdvance : UInt16
  rssi : UInt16

/-- The ten bytes before the code block statuses. -/
def WireCrc.header (r : WireCrc) : List UInt8 :=
  le32 r.handle ++ (le16 r.rnti ++ ([r.harqId] ++ ([r.tbCrcStatus] ++
    le16 (UInt16.ofNat r.cbCrcStatus.length))))

def WireCrc.encode (r : WireCrc) : List UInt8 :=
  r.header ++ (r.cbCrcStatus ++ ([r.ulCqi] ++ (le16 r.timingAdvance ++ le16 r.rssi)))

/-- The timing advance is not delivered. -/
def WireCrc.deliver (r : WireCrc) : CrcIndicationPdu :=
  ⟨r.handle, r.rnti, r.harqId, r.tbCrcStatus == 0, some ⟨r.ulCqi, none, r.rssi, 0⟩⟩

def encodeCrcIndication (hdr : List UInt8) (sfn slot : UInt16) (records : List WireCrc) :
    List UInt8 :=
  encodeIndication hdr sfn slot (le16 (UInt16.ofNat records.length)) (records.flatMap WireCrc.encode)

/-! ## RX_DATA -/

structure WireRxData where
  handle : UInt32
  rnti : UInt16
  harqId : UInt8
  pduLen : UInt32
  ulCqi : UInt8
  timingAdvance : UInt16
  rssi : UInt16

def WireRxData.encode (r : WireRxData) : List UInt8 :=
  le32 r.handle ++ (le16 r.rnti ++ ([r.harqId] ++ (le32 r.pduLen ++
    ([r.ulCqi] ++ (le16 r.timingAdvance ++ le16 r.rssi)))))

def encodeRxDataIndication (hdr : List UInt8) (sfn slot : UInt16) (records : List WireRxData) :
    List UInt8 :=
  encodeIndication hdr sfn slot (le16 (UInt16.ofNat records.length))
    (records.flatMap WireRxData.encode)

/-! ## RACH -/

structure WirePreamble where
  preambleIndex : UInt8
  timingAdvance : UInt16
  preamblePower : UInt32

def WirePreamble.encode (w : WirePreamble) : List UInt8 :=
  [w.preambleIndex] ++ (le16 w.timingAdvance ++ le32 w.preamblePower)

/-- The timing advance is not delivered, and the layout has no SNR. -/
def WirePreamble.deliver (w : WirePreamble) : RachPreamble :=
  ⟨w.preambleIndex, none, w.preamblePower, 0⟩

structure WireRach where
  physCellId : UInt16
  symbolIndex : UInt8
  slotIndex : UInt8
  freqIndex : UInt8
  avgRssi : UInt8
  avgSnr : UInt8
  preambles : List WirePreamble
  numPreamble_lt : preambles.length < 2 ^ 8

def WireRach.header (r : WireRach) : List UInt8 :=
  le16 r.physCellId ++ [r.symbolIndex, r.slotIndex, r.freqIndex, r.avgRssi, r.avgSnr,
    UInt8.ofNat r.preambles.length]

def WireRach.encode (r : WireRach) : List UInt8 :=
  r.header ++ r.preambles.flatMap WirePreamble.encode

/-- The occasion with the given preambles, pushed into OCUDU's container one after the other. -/
def WireRach.deliverWith (ocudu : Ocudu) (r : WireRach) (preambles : List WirePreamble) :
    RachIndicationPdu :=
  ⟨r.symbolIndex, r.slotIndex, r.freqIndex, r.avgRssi, r.avgSnr,
    ocudu.pushPreambles (preambles.map WirePreamble.deliver)⟩

def WireRach.deliver (ocudu : Ocudu) (r : WireRach) : RachIndicationPdu :=
  r.deliverWith ocudu r.preambles

def encodeRachIndication (hdr : List UInt8) (sfn slot : UInt16) (records : List WireRach) :
    List UInt8 :=
  encodeIndication hdr sfn slot [UInt8.ofNat records.length] (records.flatMap WireRach.encode)

/-! ## SRS -/

/-- The report of one symbol: a byte for each resource block. -/
structure WireSrsReport where
  rbSnr : List UInt8
  numRbs_lt : rbSnr.length < 2 ^ 16

def WireSrsReport.encode (s : WireSrsReport) : List UInt8 :=
  le16 (UInt16.ofNat s.rbSnr.length) ++ s.rbSnr

structure WireSrs where
  handle : UInt32
  rnti : UInt16
  timingAdvance : UInt16
  numSymbols : UInt8
  wideBandSnr : UInt8
  reports : List WireSrsReport
  numReportedSymbols_lt : reports.length < 2 ^ 8

def WireSrs.header (r : WireSrs) : List UInt8 :=
  le32 r.handle ++ (le16 r.rnti ++ (le16 r.timingAdvance ++
    [r.numSymbols, r.wideBandSnr, UInt8.ofNat r.reports.length]))

def WireSrs.encode (r : WireSrs) : List UInt8 :=
  r.header ++ r.reports.flatMap WireSrsReport.encode

def WireSrs.deliver (ocudu : Ocudu) (numerology : Nat) (r : WireSrs) : SrsIndicationPdu :=
  ⟨r.handle, r.rnti, wireTimingAdvance ocudu numerology r.timingAdvance⟩

def encodeSrsIndication (hdr : List UInt8) (sfn slot : UInt16) (records : List WireSrs) :
    List UInt8 :=
  encodeIndication hdr sfn slot [UInt8.ofNat records.length] (records.flatMap WireSrs.encode)

/-! ## Sizes -/

@[simp] theorem WireCrc.header_length (r : WireCrc) : r.header.length = 10 := rfl

theorem WireCrc.encode_length (r : WireCrc) : r.encode.length = 15 + r.cbCrcStatus.length := by
  simp only [WireCrc.encode, List.length_append, WireCrc.header_length, le16_length,
    List.length_singleton]
  omega

@[simp] theorem WireRxData.encode_length (r : WireRxData) : r.encode.length = 16 := rfl

@[simp] theorem WirePreamble.encode_length (w : WirePreamble) : w.encode.length = 7 := rfl

@[simp] theorem WireRach.header_length (r : WireRach) : r.header.length = 8 := rfl

theorem WireRach.encode_length (r : WireRach) : r.encode.length = 8 + 7 * r.preambles.length := by
  rw [WireRach.encode, List.length_append, WireRach.header_length,
    length_flatMap_eq WirePreamble.encode_length]

@[simp] theorem WireSrs.header_length (r : WireSrs) : r.header.length = 11 := rfl

/-! ## The header of an indication -/

theorem encodeUciIndication_eq (hdr : List UInt8) (sfn slot : UInt16) (pdus : List WireUciPdu) :
    encodeUciIndication hdr sfn slot pdus =
      encodeIndication hdr sfn slot (le16 (UInt16.ofNat pdus.length))
        (pdus.flatMap WireUciPdu.encode) := by
  simp only [encodeUciIndication, encodeIndication, List.append_assoc]

section

variable {hdr count records : List UInt8} {sfn slot : UInt16}

theorem encodeIndication_drop_hdr (hhdr : hdr.length = 8) :
    (encodeIndication hdr sfn slot count records).drop 8 =
      le16 sfn ++ (le16 slot ++ (count ++ records)) := by
  rw [encodeIndication, ← hhdr, List.drop_left]

theorem encodeIndication_drop_point (hhdr : hdr.length = 8) :
    (encodeIndication hdr sfn slot count records).drop 12 = count ++ records :=
  @drop_past _ _ _ 10 2 (@drop_past _ _ _ 8 2 (encodeIndication_drop_hdr hhdr) rfl) rfl

theorem encodeIndication_drop (hhdr : hdr.length = 8) :
    (encodeIndication hdr sfn slot count records).drop (12 + count.length) = records :=
  drop_past (encodeIndication_drop_point hhdr) rfl

theorem encodeIndication_point (hhdr : hdr.length = 8) (numerology : Nat) :
    wirePoint numerology (encodeIndication hdr sfn slot count records) =
      ⟨numerology, sfn, slot⟩ := by
  have h8 := @encodeIndication_drop_hdr hdr count records sfn slot hhdr
  have h10 := @drop_past _ _ _ 8 2 h8 rfl
  have hlen := congrArg List.length h8
  rw [List.length_drop, List.length_append, List.length_append, le16_length, le16_length] at hlen
  have hsfn := readAt_parses (.u16 sfn) h8
  have hslot := readAt_parses (.u16 slot) h10
  rw [readAt_u16 (by omega), Except.ok.injEq] at hsfn hslot
  rw [wirePoint, wireSfn, wireSlot, hsfn, hslot]

/-- A decoder of an encoded header runs its turns over the records. -/
theorem dispatchPdus_encoded {σ : Type} {p : Parser Nat} {countSize n : Nat} (records : List UInt8)
    (start : Nat → σ) (turn : SlotPoint → σ → Except ReadFault (Turn σ Effect))
    (hhdr : hdr.length = 8) (hsize : count.length = countSize) (hcount : Parses p count n)
    {numerology : Nat} {s : σ} {effects : List Effect}
    (hloop : loop (turn ⟨numerology, sfn, slot⟩) n (start (12 + countSize)) = .ok (s, effects)) :
    ∃ trace, dispatchPdus p countSize (encodeIndication hdr sfn slot count records) numerology
        start turn = .ok trace ∧ notifications trace = notifications effects := by
  have hlen : 12 + countSize ≤ (encodeIndication hdr sfn slot count records).length := by
    rw [encodeIndication, List.length_append, List.length_append, List.length_append,
      List.length_append, le16_length, le16_length]
    omega
  rw [← encodeIndication_point hhdr numerology] at hloop
  have hread := readAt_parses hcount (@encodeIndication_drop_point hdr count records sfn slot hhdr)
  exact ⟨_, dispatchPdus_eq hlen hread hloop, notifications_slotPoint _ _⟩

/-- When a turn over the encoding of a record delivers the record, the decoder delivers all of them
in order. -/
theorem dispatchPdus_records {α : Type} {p : Parser Nat} {countSize : Nat} {xs : List α}
    {enc : α → List UInt8} {val : α → Notification} (hhdr : hdr.length = 8)
    (hsize : count.length = countSize) (hcount : Parses p count xs.length) {numerology : Nat}
    {turn : SlotPoint → Nat → Except ReadFault (Turn Nat Effect)}
    (hturn : ∀ x ∈ xs, ∀ i rest,
      (encodeIndication hdr sfn slot count (xs.flatMap enc)).drop i = enc x ++ rest →
      ∃ out, turn ⟨numerology, sfn, slot⟩ i = .ok (.next (i + (enc x).length) out) ∧
        notifications out = [val x]) :
    ∃ trace, dispatchPdus p countSize (encodeIndication hdr sfn slot count (xs.flatMap enc))
        numerology id turn = .ok trace ∧ notifications trace = xs.map val := by
  have hbody : (encodeIndication hdr sfn slot count (xs.flatMap enc)).drop (12 + countSize) =
      xs.flatMap enc ++ [] := by
    rw [List.append_nil, ← hsize]
    exact encodeIndication_drop hhdr
  obtain ⟨out, hloop, hout⟩ := loop_encoded (f := notifications) rfl notifications_append xs hturn
    hbody
  obtain ⟨trace, htrace, hnot⟩ :=
    dispatchPdus_encoded (xs.flatMap enc) id turn hhdr hsize hcount hloop
  exact ⟨trace, htrace, hnot.trans hout⟩

theorem count16_parses {n : Nat} (h : n ≤ 65535) :
    Parses count16 (le16 (UInt16.ofNat n)) n := by
  have hn := UInt16.toNat_ofNat_of_lt' (show n < 2 ^ 16 by omega)
  have hparse : Parses count16 (le16 (UInt16.ofNat n)) (UInt16.ofNat n).toNat :=
    Parses.last (.u16 _)
  rw [hn] at hparse
  exact hparse

theorem count8_parses {n : Nat} (h : n ≤ 255) : Parses count8 [UInt8.ofNat n] n := by
  have hn := UInt8.toNat_ofNat_of_lt' (show n < 2 ^ 8 by omega)
  have hparse : Parses count8 [UInt8.ofNat n] (UInt8.ofNat n).toNat := Parses.last (.u8 _)
  rw [hn] at hparse
  exact hparse

end

end AerialBridge
