import AerialBridge.Request.DlLossless
import AerialBridge.Request.TxDataRoundTrip

/-!
# DL_TTI and TX_DATA of one slot

DL_TTI numbers the PDSCH PDUs while it passes over a mixed list, TX_DATA copies the indices it is
given.  When the indices are the positions of the PDSCH PDUs, the two messages pair up on the wire:
every block meets the one PDSCH PDU that it was built for.
-/

namespace AerialBridge

open Bytes Bytes.Parser

def DlTtiPdu.pdsch? : DlTtiPdu → Option DlPdschPdu
  | .pdsch pdu => some pdu
  | _ => none

/-- The PDSCH PDUs of a request, in order. -/
def DlTtiRequest.pdschs (msg : DlTtiRequest) : List DlPdschPdu := msg.pdus.filterMap DlTtiPdu.pdsch?

def ScfDlPdu.pdsch? : ScfDlPdu → Option ScfPdschPdu
  | .pdsch w => some w
  | _ => none

/-- The PDSCH PDUs of a message, in order. -/
def ScfDlTtiReq.pdschs (req : ScfDlTtiReq) : List ScfPdschPdu := req.pdus.filterMap ScfDlPdu.pdsch?

/-- The block is for the PDSCH at the position of its index, and as long as its first codeword. -/
structure TxDataReqPdu.BuiltFor (p : TxDataReqPdu) (msg : DlTtiRequest) (pdsch : DlPdschPdu) :
    Prop where
  position : msg.pdschs[p.pduIndex.toNat]? = some pdsch
  tbSize : pdsch.cws.head?.map (fun cw ↦ cw.tbSize.toNat) = some p.pdu.length

/-- The TX_DATA.request of the slot, with at most one block for each PDSCH. -/
structure TxDataRequest.BuiltFor (tx : TxDataRequest) (msg : DlTtiRequest) : Prop where
  slot : tx.slot = msg.slot
  pdus : ∀ p ∈ tx.pdus, ∃ pdsch, p.BuiltFor msg pdsch
  distinct : (tx.pdus.map TxDataReqPdu.pduIndex).Nodup

/-- The join of a block on the PDSCH index finds one PDSCH PDU: the one that the block was built for,
with the same transport block size. -/
def TxDataPduInfo.JoinsOne (forceTable0 : Bool) (msg : DlTtiRequest) (dl : ScfDlTtiReq)
    (p : TxDataReqPdu) (info : TxDataPduInfo) : Prop :=
  ∃ pdsch w, p.BuiltFor msg pdsch ∧ dl.pdschs.filter (fun w ↦ w.pduIndex = info.pduIndex) = [w] ∧
    w.Carries forceTable0 pdsch info.pduIndex ∧ w.cws.head?.map (·.tbSize) = some info.pduLen

/-- The two messages of a slot pair up. -/
structure PairUp (forceTable0 : Bool) (msg : DlTtiRequest) (tx : TxDataRequest) (dl : ScfDlTtiReq)
    (td : ScfTxDataReq) : Prop where
  sfn : dl.sfn = td.sfn
  slot : dl.slot = td.slot
  pdschs : List.Forall₂ (fun pdsch w ↦ w.Carries forceTable0 pdsch w.pduIndex) msg.pdschs dl.pdschs
  numbered : dl.pdschs.map (fun w ↦ w.pduIndex.toNat) = List.range msg.pdschs.length
  joined : List.Forall₂ (TxDataPduInfo.JoinsOne forceTable0 msg dl) tx.pdus td.pdus
  distinct : (td.pdus.map TxDataPduInfo.pduIndex).Nodup

/-! ## Joining on a key -/

theorem filter_key_eq {α κ : Type} [DecidableEq α] [DecidableEq κ] {key : α → κ} {l : List α}
    (h : (l.map key).Nodup) {a : α} (ha : a ∈ l) :
    l.filter (fun x ↦ key x = key a) = [a] := by
  -- among the members the key determines the element
  have hinj := List.inj_on_of_nodup_map h
  have hcongr : l.filter (fun x ↦ key x = key a) = l.filter (fun x ↦ x = a) := by
    apply List.filter_congr
    intro x hx
    rw [decide_eq_decide]
    constructor
    · exact hinj hx ha
    · intro hxa
      rw [hxa]
  rw [hcongr, List.filter_eq, List.count_eq_one_of_mem h.of_map ha]
  rfl

/-! ## The numbers on the wire -/

-- each PDSCH takes the next number, whatever stands between two of them
theorem pdschs_dlGiven (forceTable0 : Bool) (k : Nat) (pdus : List DlTtiPdu) :
    ((dlGiven (UInt16.ofNat k) pdus).map (DlGiven.toScf forceTable0)).filterMap ScfDlPdu.pdsch? =
      (pdus.filterMap DlTtiPdu.pdsch?).mapIdx fun i pdsch ↦
        pdsch.toScf forceTable0 (UInt16.ofNat (k + i)) := by
  induction pdus generalizing k with
  | nil => rfl
  | cons pdu pdus ih =>
      cases pdu with
      | ssb _ => exact ih k
      | pdcch _ => exact ih k
      | csiRs => exact ih k
      | prs => exact ih k
      | pdsch pdsch =>
          have hrest := ih (k + 1)
          have hshift : (fun (i : Nat) (pdsch : DlPdschPdu) ↦
              pdsch.toScf forceTable0 (UInt16.ofNat (k + 1 + i))) =
              fun i pdsch ↦ pdsch.toScf forceTable0 (UInt16.ofNat (k + (i + 1))) := by
            funext i pdsch
            rw [show k + 1 + i = k + (i + 1) by omega]
          rw [UInt16.ofNat_add, hshift] at hrest
          show pdsch.toScf forceTable0 (UInt16.ofNat k) ::
            ((dlGiven (UInt16.ofNat k + 1) pdus).map (DlGiven.toScf forceTable0)).filterMap
              ScfDlPdu.pdsch? = (pdsch :: pdus.filterMap DlTtiPdu.pdsch?).mapIdx _
          rw [List.mapIdx_cons]
          exact congrArg (pdsch.toScf forceTable0 (UInt16.ofNat k) :: ·) hrest

section Numbered

variable (forceTable0 : Bool) {pdschs : List DlPdschPdu}

/-- The PDSCH PDUs as they are numbered on the wire. -/
def numberedPdschs (forceTable0 : Bool) (pdschs : List DlPdschPdu) : List ScfPdschPdu :=
  pdschs.mapIdx fun i pdsch ↦ pdsch.toScf forceTable0 (UInt16.ofNat i)

theorem numberedPdschs_pduIndex (hn : pdschs.length ≤ 255) :
    (numberedPdschs forceTable0 pdschs).map (fun w ↦ w.pduIndex.toNat) =
      List.range pdschs.length := by
  apply List.ext_getElem
  · rw [List.length_map, numberedPdschs, List.length_mapIdx, List.length_range]
  · intro i h1 h2
    rw [List.length_range] at h2
    rw [List.getElem_map, List.getElem_range]
    simp only [numberedPdschs, List.getElem_mapIdx]
    exact UInt16.toNat_ofNat_of_lt' (show i < 2 ^ 16 by omega)

theorem numberedPdschs_nodup (hn : pdschs.length ≤ 255) :
    ((numberedPdschs forceTable0 pdschs).map ScfPdschPdu.pduIndex).Nodup := by
  have hnat : (((numberedPdschs forceTable0 pdschs).map ScfPdschPdu.pduIndex).map
      UInt16.toNat).Nodup := by
    rw [List.map_map]
    show ((numberedPdschs forceTable0 pdschs).map fun w ↦ w.pduIndex.toNat).Nodup
    rw [numberedPdschs_pduIndex forceTable0 hn]
    exact List.nodup_range
  exact hnat.of_map

theorem numberedPdschs_carries : List.Forall₂
    (fun pdsch (w : ScfPdschPdu) ↦ w.Carries forceTable0 pdsch w.pduIndex) pdschs
    (numberedPdschs forceTable0 pdschs) := by
  rw [List.forall₂_iff_get]
  constructor
  · rw [numberedPdschs, List.length_mapIdx]
  · intro i h1 h2
    simp only [List.get_eq_getElem, numberedPdschs, List.getElem_mapIdx]
    exact DlPdschPdu.toScf_carries forceTable0 _ _

/-- The join on an index finds the PDSCH at this position. -/
theorem numberedPdschs_filter (hn : pdschs.length ≤ 255) {i : UInt16} {pdsch : DlPdschPdu}
    (h : pdschs[i.toNat]? = some pdsch) :
    (numberedPdschs forceTable0 pdschs).filter (fun w ↦ w.pduIndex = i) =
      [pdsch.toScf forceTable0 i] := by
  have hmem : pdsch.toScf forceTable0 i ∈ numberedPdschs forceTable0 pdschs := by
    obtain ⟨hlt, hget⟩ := List.getElem?_eq_some_iff.mp h
    apply List.mem_mapIdx.mpr
    apply Exists.intro i.toNat
    apply Exists.intro hlt
    rw [hget, UInt16.ofNat_toNat]
  exact filter_key_eq (numberedPdschs_nodup forceTable0 hn) hmem

end Numbered

/-! ## The join of a block -/

/-- What DL_TTI parses to. -/
def DlTtiRequest.parsed (forceTable0 : Bool) (msg : DlTtiRequest) : ScfDlTtiReq :=
  ⟨msg.slot.sfn, msg.slot.slot, UInt8.ofNat (dlGiven 0 msg.pdus).length, 0,
    (dlGiven 0 msg.pdus).map (DlGiven.toScf forceTable0)⟩

theorem DlTtiRequest.parsed_pdschs (forceTable0 : Bool) (msg : DlTtiRequest) :
    (msg.parsed forceTable0).pdschs = numberedPdschs forceTable0 msg.pdschs := by
  have hwire := pdschs_dlGiven forceTable0 0 msg.pdus
  simp only [Nat.zero_add] at hwire
  exact hwire

theorem DlTtiRequest.pdschs_length_le (msg : DlTtiRequest) :
    msg.pdschs.length ≤ msg.pdus.length := List.length_filterMap_le _ _

theorem DlPdschPdu.toScf_tbSize (forceTable0 : Bool) (pdsch : DlPdschPdu) (pduIndex : UInt16) :
    (pdsch.toScf forceTable0 pduIndex).cws.head?.map (·.tbSize) =
      pdsch.cws.head?.map (·.tbSize) := by
  show (pdsch.cws.map (DlPdschCodeword.toScf forceTable0)).head?.map (·.tbSize) = _
  rw [List.head?_map, Option.map_map]
  rfl

/-- A block of exactly the codeword's size announces this size. -/
theorem TxDataReqPdu.BuiltFor.tbLen_eq {p : TxDataReqPdu} {msg : DlTtiRequest}
    {pdsch : DlPdschPdu} (h : p.BuiltFor msg pdsch) :
    pdsch.cws.head?.map (·.tbSize) = some p.tbLen := by
  obtain ⟨cw, hcw, hlen⟩ := Option.map_eq_some_iff.mp h.tbSize
  rw [hcw, TxDataReqPdu.tbLen, ← hlen, UInt32.ofNat_toNat]
  rfl

theorem joinsOne_of_builtFor (forceTable0 : Bool) {msg : DlTtiRequest} (hn : msg.pdus.length ≤ 255)
    {p : TxDataReqPdu} {pdsch : DlPdschPdu} (h : p.BuiltFor msg pdsch) (dataOffset : Nat) :
    TxDataPduInfo.JoinsOne forceTable0 msg (msg.parsed forceTable0) p
      (txDataDescriptor p dataOffset).info := by
  have hlen := le_trans msg.pdschs_length_le hn
  apply Exists.intro pdsch
  apply Exists.intro (pdsch.toScf forceTable0 p.pduIndex)
  constructor
  · exact h
  constructor
  · rw [msg.parsed_pdschs forceTable0]
    exact numberedPdschs_filter forceTable0 hlen h.position
  constructor
  · exact pdsch.toScf_carries forceTable0 p.pduIndex
  · rw [pdsch.toScf_tbSize]
    exact h.tbLen_eq

/-! ## The two messages -/

theorem descriptors_pduIndex (data : DataBuf) (pdus : List TxDataReqPdu) (dataOffset : Nat) :
    ((data.descriptors dataOffset pdus).map TxDataDescriptor.info).map TxDataPduInfo.pduIndex =
      pdus.map TxDataReqPdu.pduIndex := by
  induction pdus generalizing dataOffset with
  | nil => rfl
  | cons p ps ih => exact congrArg (p.pduIndex :: ·) (ih _)

/-- Distinct positions are no more than there are PDSCH PDUs. -/
theorem TxDataRequest.BuiltFor.length_le {tx : TxDataRequest} {msg : DlTtiRequest}
    (h : tx.BuiltFor msg) : tx.pdus.length ≤ msg.pdschs.length := by
  have hnodup : ((tx.pdus.map TxDataReqPdu.pduIndex).map UInt16.toNat).Nodup :=
    h.distinct.map fun _ _ ↦ UInt16.toNat_inj.mp
  have hsub : (tx.pdus.map TxDataReqPdu.pduIndex).map UInt16.toNat ⊆
      List.range msg.pdschs.length := by
    intro i hi
    rw [List.map_map] at hi
    obtain ⟨p, hp, rfl⟩ := List.mem_map.mp hi
    obtain ⟨pdsch, hpdsch⟩ := h.pdus p hp
    obtain ⟨hlt, -⟩ := List.getElem?_eq_some_iff.mp hpdsch.position
    exact List.mem_range.mpr hlt
  have hle := (hnodup.subperm hsub).length_le
  rw [List.length_map, List.length_map, List.length_range] at hle
  exact hle

theorem pairUp_of_builtFor (forceTable0 : Bool) {msg : DlTtiRequest} {tx : TxDataRequest}
    (hn : msg.pdus.length ≤ 255) (h : tx.BuiltFor msg) (data : DataBuf) :
    PairUp forceTable0 msg tx (msg.parsed forceTable0)
      ⟨tx.slot.sfn, tx.slot.slot, (data.descriptors 0 tx.pdus).map TxDataDescriptor.info⟩ where
  sfn := congrArg SlotPoint.sfn h.slot.symm
  slot := congrArg SlotPoint.slot h.slot.symm
  pdschs := by
    rw [msg.parsed_pdschs forceTable0]
    exact numberedPdschs_carries forceTable0
  numbered := by
    rw [msg.parsed_pdschs forceTable0]
    exact numberedPdschs_pduIndex forceTable0 (le_trans msg.pdschs_length_le hn)
  joined := by
    -- whether a block joins does not depend on where it was put
    apply (forall₂_descriptors_iff (fun p dataOffset ↦ Iff.rfl (a := TxDataPduInfo.JoinsOne
      forceTable0 msg (msg.parsed forceTable0) p (txDataDescriptor p 0).info)) data tx.pdus 0).mpr
    intro p hp
    obtain ⟨pdsch, hpdsch⟩ := h.pdus p hp
    exact joinsOne_of_builtFor forceTable0 hn hpdsch 0
  distinct := by
    rw [descriptors_pduIndex]
    exact h.distinct

-- the messages of a DL_TTI.request and of the TX_DATA.request built for it are read back and pair up
theorem serializers_pairUp (forceTable0 : Bool) (msg : DlTtiRequest) (tx : TxDataRequest)
    (buf txBuf dataBuf : Mem) (bufLen txBufLen : Nat) (data : DataBuf) (cellId : UInt8)
    (hn : msg.pdus.length ≤ 255) (hbuilt : tx.BuiltFor msg) (hroom : 14 ≤ bufLen)
    (htxRoom : 14 ≤ txBufLen) :
    ∃ dl td,
      (serializeDlTtiRequest forceTable0 msg buf bufLen cellId).ReadsBack scfDlTtiReq cellId
        scfMsgIdDlTtiRequest (Eq dl) ∧
      (serializeTxDataRequest tx txBuf txBufLen dataBuf data cellId).ReadsBack scfTxDataReq cellId
        scfMsgIdTxDataRequest (Eq td) ∧
      PairUp forceTable0 msg tx dl td := by
  have hpdschs := msg.pdschs_length_le
  have hblocks := hbuilt.length_le
  apply Exists.intro (msg.parsed forceTable0)
  apply Exists.intro
    ⟨tx.slot.sfn, tx.slot.slot, (data.descriptors 0 tx.pdus).map TxDataDescriptor.info⟩
  constructor
  · exact serializeDlTtiRequest_reads forceTable0 msg buf cellId hn hroom rfl
  constructor
  · exact serializeTxDataRequest_readsBack tx txBuf dataBuf data cellId (by omega) htxRoom rfl
  · exact pairUp_of_builtFor forceTable0 hn hbuilt data

/-- Two PDSCH PDUs between PDUs of other kinds. -/
def dlOfTwoPdschs : DlTtiRequest :=
  ⟨⟨1, 5, 3⟩, [.csiRs, .pdsch pdschOfOneCodeword, .pdcch pdcchOfFiveBits,
    .pdsch pdschOfOneCodeword]⟩

/-- The block of the second one. -/
def txOfSecondPdsch : TxDataRequest := ⟨⟨1, 5, 3⟩, [⟨1, List.replicate 3752 0⟩]⟩

theorem txOfSecondPdsch_builtFor : txOfSecondPdsch.BuiltFor dlOfTwoPdschs where
  slot := rfl
  pdus := by
    intro p hp
    rw [List.mem_singleton.mp hp]
    apply Exists.intro pdschOfOneCodeword
    constructor
    · rfl
    · show some 3752 = some (List.replicate 3752 (0 : UInt8)).length
      rw [List.length_replicate]
  distinct := List.nodup_singleton _

theorem serializers_pairUp_second :
    ∃ dl td,
      (serializeDlTtiRequest false dlOfTwoPdschs .zeros 15000 0).ReadsBack scfDlTtiReq 0
        scfMsgIdDlTtiRequest (Eq dl) ∧
      (serializeTxDataRequest txOfSecondPdsch .zeros 15000 .zeros cpuDataPool 0).ReadsBack
        scfTxDataReq 0 scfMsgIdTxDataRequest (Eq td) ∧
      PairUp false dlOfTwoPdschs txOfSecondPdsch dl td :=
  serializers_pairUp false dlOfTwoPdschs txOfSecondPdsch .zeros .zeros .zeros 15000 15000
    cpuDataPool 0 (by decide) txOfSecondPdsch_builtFor (by decide) (by decide)

end AerialBridge
