import AerialBridge.Gateway.Delivery
import AerialBridge.Request.TxDataRoundTrip

/-!
# What L1 makes of the messages

The reference parsers take every message that arrives apart into what its request says, and find its
transport blocks in the data where the descriptors put them.
-/

namespace AerialBridge

open Bytes Bytes.Parser Transition

/-- The body of a CONFIG_REQUEST: a count and that many TLVs. -/
def scfConfigReq : Parser (List (UInt16 × List UInt8)) := do
  let numTlvs ← u8
  Tlv.parser.times numTlvs.toNat

/-- The descriptor names the block and announces where in the data it stands. -/
structure TxDataReqPdu.FoundIn (data : List UInt8) (p : TxDataReqPdu) (info : TxDataPduInfo) :
    Prop where
  pduIndex : info.pduIndex = p.pduIndex
  found : ∃ length value, info.tlvs = [⟨scfTxDataOffsetTag, length, value⟩] ∧
    (data.drop value.toNat).take p.pdu.length = p.pdu

structure ScfTxDataReq.CarriesRequest (msg : TxDataRequest) (data : List UInt8)
    (req : ScfTxDataReq) : Prop where
  sfn : req.sfn = msg.slot.sfn
  slot : req.slot = msg.slot.slot
  pdus : List.Forall₂ (TxDataReqPdu.FoundIn data) msg.pdus req.pdus

/-- The bytes are one message of this type, and what its body says satisfies `P`. -/
def ReadsAs {α : Type} (body : Parser α) (msgId : ScfMsgId) (P : α → Prop) (bytes : List UInt8) :
    Prop :=
  ∃ length a, (scfMessage body).complete bytes = some (⟨1, 0, msgId.code, length⟩, a) ∧ P a

namespace GatewayRequest

/-- The 8-bit counters can hold the number of PDUs. -/
def Counted : GatewayRequest → Prop
  | dlTtiRequest msg => msg.pdus.length ≤ 255
  | ulTtiRequest msg => msg.pdus.length ≤ 255
  | ulDciRequest msg => msg.pdus.length ≤ 255
  | _ => True

/-- The message parses, and says what the request says. -/
def ReadFrom (forceTable0 : Bool) (m : L1Msg) : GatewayRequest → Prop
  | configRequest => ReadsAs scfConfigReq .configRequest
      (Eq (configTlvs.map fun t ↦ (t.tag, t.value))) m.bytes
  | dlTtiRequest msg =>
      ReadsAs scfDlTtiReq .dlTtiRequest (ScfDlTtiReq.CarriesRequest forceTable0 msg) m.bytes
  | ulTtiRequest msg => ReadsAs scfUlTtiReq .ulTtiRequest (ScfUlTtiReq.CarriesRequest msg) m.bytes
  | ulDciRequest msg => ReadsAs scfUlDciReq .ulDciRequest (ScfUlDciReq.CarriesRequest msg) m.bytes
  | txDataRequest msg => ReadsAs scfTxDataReq .txDataRequest
      (ScfTxDataReq.CarriesRequest msg m.data) m.bytes
  | bare => ReadsAs (pure ()) bare.msgId (fun _ ↦ True) m.bytes

end GatewayRequest

/-! ## The parsers -/

theorem readsAs_framed {α : Type} {body : Parser α} {msgId : ScfMsgId} {bs : List UInt8} {a : α}
    {P : α → Prop} (h : Parses body bs a) (hlen : bs.length < 2 ^ 32) (hP : P a) :
    ReadsAs body msgId P (framed 0 msgId.code bs) := by
  have hlength : (UInt32.ofNat bs.length).toNat = bs.length := by
    rw [UInt32.toNat_ofNat']
    exact Nat.mod_eq_of_lt hlen
  let header : ScfHeader := ⟨1, 0, msgId.code, UInt32.ofNat bs.length⟩
  have hmessage : Parses (scfMessage body) (header.encode ++ bs) (header, a) :=
    scfMessage_parses h hlength
  exact ⟨_, a, hmessage.complete, hP⟩

/-- What a serialiser's own reader says of its message. -/
theorem readsAs_of_encodes {α : Type} {body : Parser α} {msgId : ScfMsgId} {r : SerializeResult}
    {m : Mem} {bytes : List UInt8} {P : α → Prop} (henc : r.Encodes m bytes)
    (hlen : bytes.length < 2 ^ 31) (h : r.ReadsBack body 0 msgId.code P) :
    ReadsAs body msgId P bytes := by
  have hret := henc.ret
  rw [staticCastInt_of_lt hlen] at hret
  have hmessage := r.message_eq henc.buf hret
  obtain ⟨length, a, hread, -, hP⟩ := h
  rw [hmessage] at hread
  exact ⟨length, a, hread, hP⟩

theorem scfConfigReq_parses : Parses scfConfigReq (30 :: configTlvs.flatMap Tlv.encode)
    (configTlvs.map fun t ↦ (t.tag, t.value)) :=
  .bind (.u8 30) (.times configTlvs fun t _ ↦ t.parser_parses)

/-- Each block and its descriptor, at the offset behind the blocks before it. -/
theorem forall₂_descriptors {R : TxDataReqPdu → TxDataPduInfo → Prop} (data : DataBuf)
    (pdus : List TxDataReqPdu) (dataOffset : Nat)
    (h : ∀ before p after, pdus = before ++ p :: after →
      R p (txDataDescriptor p (Bump.cursor data.advance dataOffset before)).info) :
    List.Forall₂ R pdus ((data.descriptors dataOffset pdus).map TxDataDescriptor.info) := by
  induction pdus generalizing dataOffset with
  | nil => exact .nil
  | cons p ps ih =>
      rw [DataBuf.descriptors, List.map_cons]
      apply List.Forall₂.cons
      · exact h [] p ps rfl
      · apply ih
        intro before q after hsplit
        exact h (p :: before) q after (by rw [hsplit, List.cons_append])

theorem txDataRequest_carries {forceTable0 : Bool} {msg : TxDataRequest}
    (hfits : msg.Fits cpuDataPool) {m : L1Msg}
    (h : (GatewayRequest.txDataRequest msg).DeliveredBy forceTable0 m) :
    ScfTxDataReq.CarriesRequest msg m.data ⟨msg.slot.sfn, msg.slot.slot,
      (cpuDataPool.descriptors 0 msg.pdus).map TxDataDescriptor.info⟩ where
  sfn := rfl
  slot := rfl
  pdus := by
    apply forall₂_descriptors
    intro before p after hsplit
    refine ⟨rfl, _, _, rfl, ?_⟩
    by_cases hp : p.pdu = []
    · rw [hp]
      exact List.take_zero
    · -- the offset of a block that fits is below the reach of the TLV's 32 bits
      have hoff : cpuDataPool.offset before = alignedSum before := hfits.offset_eq hsplit
      have hlt := (hfits before p after hsplit hp).2.2.1
      have hvalue : (UInt32.ofNat (cpuDataPool.offset before)).toNat = alignedSum before := by
        rw [hoff, UInt32.toNat_ofNat']
        exact Nat.mod_eq_of_lt hlt
      show List.take _ (List.drop (UInt32.ofNat (cpuDataPool.offset before)).toNat m.data) = p.pdu
      rw [hvalue]
      exact h.blocks before p after hsplit

/-! ## All messages -/

theorem GatewayRequest.readFrom {forceTable0 : Bool} {req : GatewayRequest} {m : L1Msg}
    (hfits : req.Fits forceTable0) (hcounted : req.Counted) (h : req.DeliveredBy forceTable0 m) :
    req.ReadFrom forceTable0 m := by
  have hbytes := h.bytes
  have hmessage := hfits.message
  cases req with
  | paramRequest | startRequest | stopRequest =>
      show ReadsAs _ _ _ m.bytes
      rw [hbytes]
      exact readsAs_framed (.pure ()) (by decide) trivial
  | configRequest =>
      show ReadsAs _ _ _ m.bytes
      rw [hbytes]
      have hlen : (30 :: configTlvs.flatMap Tlv.encode).length < 2 ^ 32 := by decide +kernel
      exact readsAs_framed scfConfigReq_parses hlen rfl
  | dlTtiRequest msg =>
      show ReadsAs _ _ _ m.bytes
      rw [hbytes]
      exact readsAs_of_encodes
        (serializeDlTtiRequest_encodes forceTable0 msg .zeros 0 (by decide : 14 ≤ 15000))
        (show _ < 2 ^ 31 by omega)
        (serializeDlTtiRequest_readsBack forceTable0 msg .zeros 0 hcounted (by decide))
  | ulTtiRequest msg =>
      show ReadsAs _ _ _ m.bytes
      rw [hbytes]
      have hlen : (msg.encoding 0).length ≤ 15000 := hmessage
      rw [UlTtiRequest.encoding, framed_length] at hlen
      exact readsAs_framed (scfUlTtiReq_parses msg.slot msg.pdus hcounted)
        (by omega) (serializeUlTtiRequest_carries msg hcounted)
  | ulDciRequest msg =>
      show ReadsAs _ _ _ m.bytes
      rw [hbytes]
      exact readsAs_of_encodes
        (serializeUlDciRequest_encodes msg .zeros 0 (by decide : 16 ≤ 15000))
        (show _ < 2 ^ 31 by omega)
        (serializeUlDciRequest_readsBack msg .zeros 0 hcounted (by decide))
  | txDataRequest msg =>
      show ReadsAs _ _ _ m.bytes
      rw [hbytes]
      have hlen : (msg.encoding cpuDataPool 0).length ≤ 15000 := hmessage
      rw [msg.encoding_length] at hlen
      have hbody := txDataBody_length msg cpuDataPool
      exact readsAs_framed (scfTxDataReq_parses msg cpuDataPool (by omega)) (by omega)
        (txDataRequest_carries (hfits.blocks msg rfl) h)

/-- When the calls fit and their PDUs can be counted, and nvIPC and L1 keep to what the bridge relies
on, the messages that L1 receives parse one after another into what the accepted requests say. -/
theorem gateway_messages_readFrom {C : Type} [DecidableEq C] {l : Layout} {forceTable0 : Bool}
    {mem : Mem} {ls : List (GatewayLabel C)} {s : GatewayState C}
    (h : Run (GatewayState.step l forceTable0) (LendsAndFits l forceTable0) (.init mem) ls s) :
    ∃ done pending, accepted s.log = done ++ pending ∧
      List.Forall₂ (fun x y ↦ x.1.Counted → x.1.ReadFrom forceTable0 y.2) done
        (received s.log) := by
  obtain ⟨done, pending, hdelivers⟩ := (GatewayState.run_sound h).delivers
  exact ⟨done, pending, hdelivers.accepted, hdelivers.read.imp fun _ _ hxy hcounted ↦
    GatewayRequest.readFrom hxy.2.1 hcounted hxy.2.2⟩

theorem gateway_messages_readFrom_two : ∃ s x y, ExampleRun s ∧ received s.log = [x, y] ∧
    ReadsAs scfTxDataReq .txDataRequest (ScfTxDataReq.CarriesRequest twoBlocks x.2.data)
      x.2.bytes ∧ ReadsAs (pure ()) .stopRequest (fun _ ↦ True) y.2.bytes := by
  obtain ⟨s, hs⟩ := exampleRun
  obtain ⟨done, pending, haccepted, hread⟩ := gateway_messages_readFrom hs.run
  have hrequests := hs.accepted
  rw [haccepted, List.map_append] at hrequests
  obtain ⟨x, y, hreceived⟩ := List.length_eq_two.mp hs.received
  rw [hreceived] at hread
  obtain ⟨a, done', hx, hdone', rfl⟩ := List.forall₂_cons_right_iff.mp hread
  obtain ⟨b, done'', hy, -, rfl⟩ := List.forall₂_cons_right_iff.mp hdone'
  injection hrequests with ha hrest
  injection hrest with hb _
  rw [ha] at hx
  rw [hb] at hy
  exact ⟨s, x, y, hs, hreceived, hx trivial, hy trivial⟩

end AerialBridge
