import AerialBridge.Request.Encoding

/-!
# The beamforming block of an uplink PDU

A receiver that expects an empty `scf_rx_beamforming` behind the fields and the optional sections of
every uplink PDU.  PUSCH and PUCCH PDUs end with this block; PRACH and SRS PDUs end with their fields,
so the receiver keeps its alignment exactly in requests that have neither.
-/

namespace AerialBridge

open Bytes Bytes.Parser

/-- `scf_rx_beamforming` without PRGs. -/
def emptyRxBeamforming : Parser Unit := do
  let beamforming ← scfRxBeamforming
  check (beamforming = noBeamforming)

/-- The type's fields, its optional sections and the empty block, which in `scf_pusch` and `scf_pucch`
is the last field. -/
def trailedUlPduConfig (pduType : UInt16) : Parser ScfUlPdu :=
  if pduType = scfPduTypePrach then do
    let w ← scfPrachPdu
    emptyRxBeamforming
    pure (.prach w)
  else if pduType = scfPduTypePusch then do
    let w ← scfPuschPdu
    check (w.beamforming = noBeamforming)
    pure (.pusch w)
  else if pduType = scfPduTypePucch then do
    let w ← scfPucchPdu
    check (w.beamforming = noBeamforming)
    pure (.pucch w)
  else if pduType = scfPduTypeSrs then do
    let w ← scfSrsPdu
    emptyRxBeamforming
    pure (.srs w)
  else fail

/-- The PDUs of the message that a UL_TTI.request leaves: what stands behind the header, up to the
length that is returned. -/
def UlTtiRequest.payload (msg : UlTtiRequest) (r : SerializeResult) : List UInt8 :=
  r.buf.load 17 (msg.pdus.map UlTtiPdu.recordSize).sum

/-- Found by `pdu_size`, every PDU ends with the empty block; and the receiver that consumes each PDU
field by field ends every PDU where the next one starts, and the last one at the end. -/
structure Trailed (payload : List UInt8) : Prop where
  trailer : ∃ configs, Reads (scfPdu fun _ ↦ Parser.rest) payload configs ∧
    ∀ config ∈ configs, noBeamforming.encode <:+ config
  aligned : ∃ ws, Reads (scfPdu trailedUlPduConfig) payload ws

/-! ## One PDU -/

theorem scfPdu_nil {α : Type} (config : UInt16 → Parser α) : scfPdu config [] = none := rfl

theorem ScfUlPdu.encode_ne_nil (w : ScfUlPdu) : w.encode ≠ [] := by
  rw [← List.length_pos_iff, encode, encodePdu_length]
  omega

/-- Fields that are used up leave nothing to read the block from. -/
theorem complete_emptyRxBeamforming {α β : Type} {p : Parser α} {bs : List UInt8} {a : α}
    (h : Parses p bs a) (g : α → β) :
    (do let w ← p
        emptyRxBeamforming
        pure (g w) : Parser β).complete bs = none := by
  have hbs := h []
  rw [List.append_nil] at hbs
  have hempty : ∀ f : Unit → Parser β, (emptyRxBeamforming >>= f) [] = none := fun _ ↦ rfl
  rw [Parser.complete, bind_apply, hbs, Option.bind_some, hempty]
  rfl

theorem complete_check {α β : Type} {p : Parser α} {bs : List UInt8} {a : α} (h : Parses p bs a)
    {c : α → Bool} (hc : c a = true) (g : α → β) :
    (do let w ← p
        check (c w)
        pure (g w) : Parser β).complete bs = some (g a) := by
  have hbs := h []
  rw [List.append_nil] at hbs
  rw [Parser.complete, bind_apply, hbs, Option.bind_some, hc]
  rfl

/-- Whether a PDU ends with the block. -/
def UlTtiPdu.hasTrailer (pdu : UlTtiPdu) : Bool := !pdu.isPrach && !pdu.isSrs

theorem complete_trailedUlPduConfig {pdu : UlTtiPdu} {w : ScfUlPdu} (h : pdu.toScf = some w) :
    ((trailedUlPduConfig w.pduType).complete w.pduConfig).isSome = pdu.hasTrailer := by
  cases pdu with
  | prach prach =>
      cases h
      have hnone := complete_emptyRxBeamforming (scfPrachPdu_parses prach.toScf) ScfUlPdu.prach
      exact congrArg Option.isSome hnone
  | pusch pusch =>
      cases h
      have hsome := complete_check (scfPuschPdu_parses pusch)
        (c := fun w ↦ w.beamforming = noBeamforming) (decide_eq_true rfl) ScfUlPdu.pusch
      exact congrArg Option.isSome hsome
  | pucch pucch =>
      cases h
      have hsome := complete_check (scfPucchPdu_parses pucch)
        (c := fun w ↦ w.beamforming = noBeamforming) (decide_eq_true rfl) ScfUlPdu.pucch
      exact congrArg Option.isSome hsome
  | srs srs =>
      cases h
      have hnone := complete_emptyRxBeamforming (scfSrsPdu_parses srs.toScf) ScfUlPdu.srs
      exact congrArg Option.isSome hnone
  | other => cases h

theorem ScfPuschPdu.beamforming_suffix (w : ScfPuschPdu) : w.beamforming.encode <:+ w.encode := by
  unfold ScfPuschPdu.encode
  generalize w.beamforming.encode = block
  repeat apply List.suffix_append_of_suffix
  exact List.suffix_rfl

theorem ScfPucchPdu.beamforming_suffix (w : ScfPucchPdu) : w.beamforming.encode <:+ w.encode := by
  unfold ScfPucchPdu.encode
  generalize w.beamforming.encode = block
  repeat apply List.suffix_append_of_suffix
  exact List.suffix_rfl

theorem noBeamforming_suffix {pdu : UlTtiPdu} {w : ScfUlPdu} (h : pdu.toScf = some w)
    (htrailer : pdu.hasTrailer = true) : noBeamforming.encode <:+ w.pduConfig := by
  cases pdu with
  | prach _ => cases htrailer
  | pusch pusch =>
      cases h
      exact pusch.toScf.beamforming_suffix
  | pucch pucch =>
      cases h
      exact pucch.toScf.beamforming_suffix
  | srs _ => cases htrailer
  | other => cases h

/-! ## All PDUs -/

theorem ulTtiBody_nil_append (slot : SlotPoint) (c : UlSummary) (pduBytes : List UInt8) :
    ulTtiBody slot c [] ++ pduBytes = ulTtiBody slot c pduBytes := by
  simp only [ulTtiBody, List.append_assoc, List.nil_append]

-- the two headers and the fixed fields of the body are 17 bytes
theorem load_framed_ulTtiBody (buf : Mem) (cellId : UInt8) (typeId : UInt16) (slot : SlotPoint)
    (c : UlSummary) (pduBytes : List UInt8) :
    (buf.store 0 (framed cellId typeId (ulTtiBody slot c pduBytes))).load 17 pduBytes.length =
      pduBytes := by
  have hload := buf.load_store_part 0
    ((⟨1, cellId, typeId, UInt32.ofNat (ulTtiBody slot c pduBytes).length⟩ : ScfHeader).encode ++
      ulTtiBody slot c []) pduBytes []
  rw [List.append_nil, List.append_assoc, ulTtiBody_nil_append] at hload
  exact hload

theorem payload_eq (msg : UlTtiRequest) (buf : Mem) {bufLen : Nat} (cellId : UInt8)
    (h : 17 ≤ bufLen) :
    msg.payload (serializeUlTtiRequest msg buf bufLen cellId) =
      (msg.pdus.filterMap UlTtiPdu.toScf).flatMap ScfUlPdu.encode := by
  have hbuf := (serializeUlTtiRequest_encodes msg buf cellId h).buf
  rw [UlTtiRequest.payload, hbuf, ← ulPduBytes_length]
  exact load_framed_ulTtiBody buf cellId _ _ _ _

theorem toScf_lt {pdu : UlTtiPdu} {w : ScfUlPdu} (h : pdu.toScf = some w) :
    4 + w.pduConfig.length < 2 ^ 16 := by
  have hle := ulPduConfig_length_le h
  omega

section Payload

variable (pdus : List UlTtiPdu)

theorem decides_of_mem {α : Type} (config : UInt16 → Parser α) :
    ∀ w ∈ pdus.filterMap UlTtiPdu.toScf,
      Decides (scfPdu config) w.encode ((config w.pduType).complete w.pduConfig) := by
  intro w hw
  obtain ⟨pdu, -, hpdu⟩ := List.mem_filterMap.mp hw
  exact scfPdu_decides (toScf_lt hpdu)

theorem aligned_iff :
    (∃ ws, Reads (scfPdu trailedUlPduConfig)
      ((pdus.filterMap UlTtiPdu.toScf).flatMap ScfUlPdu.encode) ws) ↔
      ∀ pdu ∈ pdus, pdu.hasTrailer = true := by
  rw [exists_reads_flatMap_iff (scfPdu_nil _) _ (fun w _ ↦ w.encode_ne_nil)
    (decides_of_mem pdus trailedUlPduConfig)]
  constructor
  · intro h pdu hmem
    cases hw : pdu.toScf with
    | none =>
        -- a PDU of another kind is not in the message
        cases pdu <;> first | rfl | cases hw
    | some w =>
        rw [← complete_trailedUlPduConfig hw]
        exact h w (List.mem_filterMap.mpr ⟨pdu, hmem, hw⟩)
  · intro h w hw
    obtain ⟨pdu, hmem, hpdu⟩ := List.mem_filterMap.mp hw
    rw [complete_trailedUlPduConfig hpdu]
    exact h pdu hmem

theorem trailer_of_hasTrailer (h : ∀ pdu ∈ pdus, pdu.hasTrailer = true) :
    ∃ configs, Reads (scfPdu fun _ ↦ Parser.rest)
        ((pdus.filterMap UlTtiPdu.toScf).flatMap ScfUlPdu.encode) configs ∧
      ∀ config ∈ configs, noBeamforming.encode <:+ config := by
  apply Exists.intro ((pdus.filterMap UlTtiPdu.toScf).map ScfUlPdu.pduConfig)
  constructor
  · rw [reads_flatMap_iff (scfPdu_nil _) _ (fun w _ ↦ w.encode_ne_nil)
      (decides_of_mem pdus fun _ ↦ Parser.rest), List.map_map]
    rfl
  · intro config hconfig
    obtain ⟨w, hw, rfl⟩ := List.mem_map.mp hconfig
    obtain ⟨pdu, hmem, hpdu⟩ := List.mem_filterMap.mp hw
    exact noBeamforming_suffix hpdu (h pdu hmem)

end Payload

-- the PDUs of a message all end with the block, and a receiver that consumes it keeps its alignment,
-- exactly when the request has no PRACH and no SRS PDU
theorem serializeUlTtiRequest_trailed_iff (msg : UlTtiRequest) (buf : Mem) (bufLen : Nat)
    (cellId : UInt8) (h : 17 ≤ bufLen) :
    Trailed (msg.payload (serializeUlTtiRequest msg buf bufLen cellId)) ↔
      ∀ pdu ∈ msg.pdus, pdu.isPrach = false ∧ pdu.isSrs = false := by
  have hflags : ∀ pdu : UlTtiPdu,
      pdu.hasTrailer = true ↔ pdu.isPrach = false ∧ pdu.isSrs = false := by
    intro pdu
    rw [UlTtiPdu.hasTrailer, Bool.and_eq_true, Bool.not_eq_true', Bool.not_eq_true']
  simp only [← hflags]
  rw [payload_eq msg buf cellId h]
  constructor
  · intro htrailed
    exact (aligned_iff msg.pdus).mp htrailed.aligned
  · intro hall
    exact ⟨trailer_of_hasTrailer msg.pdus hall, (aligned_iff msg.pdus).mpr hall⟩

theorem serializeUlTtiRequest_trailed_iff_pucch :
    Trailed ((⟨⟨1, 5, 3⟩, [.pucch pucchOfFormat3]⟩ : UlTtiRequest).payload
        (serializeUlTtiRequest ⟨⟨1, 5, 3⟩, [.pucch pucchOfFormat3]⟩ .zeros 15000 0)) ↔
      ∀ pdu ∈ [UlTtiPdu.pucch pucchOfFormat3], pdu.isPrach = false ∧ pdu.isSrs = false :=
  serializeUlTtiRequest_trailed_iff ⟨⟨1, 5, 3⟩, [.pucch pucchOfFormat3]⟩ .zeros 15000 0 (by decide)

-- a PRACH PDU has no block for the receiver to consume
theorem serializeUlTtiRequest_prach_untrailed :
    ¬ Trailed ((⟨⟨1, 5, 3⟩, [.prach ⟨1, 0, 0, 0, 13⟩]⟩ : UlTtiRequest).payload
      (serializeUlTtiRequest ⟨⟨1, 5, 3⟩, [.prach ⟨1, 0, 0, 0, 13⟩]⟩ .zeros 15000 0)) := by
  intro htrailed
  have haligned := htrailed.aligned
  rw [payload_eq _ _ _ (by decide)] at haligned
  have hall := (aligned_iff [.prach ⟨1, 0, 0, 0, 13⟩]).mp haligned
  exact absurd (hall _ List.mem_cons_self) (by decide)

end AerialBridge
