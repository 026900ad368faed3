import AerialBridge.Bytes.Memory
import AerialBridge.Bytes.Records
import AerialBridge.Indication.Messages

/-!
# Writing and framing SCF messages

What the four serialisers share: the envelope and body header that are written last, the generic
PDU info whose size is patched when the PDU is complete, and the parsers that follow the packed
structs the other way.
-/

namespace AerialBridge

open Bytes Bytes.Parser

/-- `static_cast<int>` of a `size_t`. -/
def staticCastInt (n : Nat) : Int := Int.bmod n (2 ^ 32)

/-- What a serialiser leaves behind. -/
structure SerializeResult where
  ret : Int
  buf : Mem
  effects : List Effect

/-- The bytes that are handed to the transport. -/
def SerializeResult.message (r : SerializeResult) : List UInt8 := r.buf.load 0 r.ret.toNat

def slotToSfnSlot (sp : SlotPoint) : UInt16 × UInt16 := (sp.sfn, sp.slot)

def writeHeaders (buf : Mem) (cellId : UInt8) (typeId : UInt16) (bodyLen : UInt32) : Mem :=
  let buf := buf.store 0 [1]
  let buf := buf.store 1 [cellId]
  let buf := buf.store 2 (le16 typeId)
  buf.store 4 (le32 bodyLen)

/-- A PDU behind its `scf_generic_pdu_info` at `pos`: the type comes first, `pdu_size` last. -/
def writePdu (pduType : UInt16) (body : Cursor → Cursor) (buf : Mem) (pos : Nat) : Mem × Nat :=
  let next := body ⟨buf.store pos (le16 pduType), pos + 4⟩
  let totalSize := next.next - pos
  (next.mem.store (pos + 2) (le16 (UInt16.ofNat totalSize)), totalSize)

/-! ## The packed structs -/

/-- `scf_header` and `scf_body_header`. -/
structure ScfHeader where
  messageCount : UInt8
  handleId : UInt8
  typeId : UInt16
  length : UInt32
  deriving DecidableEq, Repr

def ScfHeader.encode (h : ScfHeader) : List UInt8 :=
  [h.messageCount] ++ [h.handleId] ++ le16 h.typeId ++ le32 h.length

def scfHeader : Parser ScfHeader := do
  let messageCount ← u8
  let handleId ← u8
  let typeId ← u16
  let length ← u32
  pure ⟨messageCount, handleId, typeId, length⟩

/-- `scf_generic_pdu_info` and the configuration behind it. -/
def encodePdu (pduType : UInt16) (config : List UInt8) : List UInt8 :=
  le16 pduType ++ le16 (UInt16.ofNat (4 + config.length)) ++ config

/-- A PDU found by its `pdu_size`; its type selects the parser, which has to use up the
configuration. -/
def scfPdu {α : Type} (config : UInt16 → Parser α) : Parser α := do
  let pduType ← u16
  let pduSize ← u16
  check (4 ≤ pduSize.toNat)
  (config pduType).inside (pduSize.toNat - 4)

/-- A message: the headers, then a body of exactly the announced length. -/
def scfMessage {α : Type} (body : Parser α) : Parser (ScfHeader × α) := do
  let header ← scfHeader
  let a ← body.inside header.length.toNat
  pure (header, a)

/-! ## What the writers store -/

@[simp] theorem ScfHeader.encode_length (h : ScfHeader) : h.encode.length = 8 := rfl

@[simp] theorem encodePdu_length (pduType : UInt16) (config : List UInt8) :
    (encodePdu pduType config).length = 4 + config.length := by
  simp only [encodePdu, List.length_append, le16_length]

-- the headers complete a message whose body stands at byte 8
theorem writeHeaders_store (buf : Mem) (cellId : UInt8) (typeId : UInt16) (bodyLen : UInt32)
    (body : List UInt8) :
    writeHeaders (buf.store 8 body) cellId typeId bodyLen =
      buf.store 0 ((⟨1, cellId, typeId, bodyLen⟩ : ScfHeader).encode ++ body) := by
  -- the four stores are one store of the encoded header
  have hheader : ∀ m : Mem, writeHeaders m cellId typeId bodyLen =
      m.store 0 (⟨1, cellId, typeId, bodyLen⟩ : ScfHeader).encode := by
    intro m
    have h1 := m.store_store 0 [1] [cellId]
    have h2 := m.store_store 0 ([1] ++ [cellId]) (le16 typeId)
    have h3 := m.store_store 0 ([1] ++ [cellId] ++ le16 typeId) (le32 bodyLen)
    rw [← h2, ← h1] at h3
    exact h3
  rw [hheader, Mem.store_comm _ _ _ (.inr (by simp))]
  exact Mem.store_store buf 0 _ body

theorem writePdu_eq {pduType : UInt16} {body : Cursor → Cursor} {config : List UInt8}
    (h : ∀ c, body c = c.put config) (buf : Mem) (pos : Nat) :
    writePdu pduType body buf pos = (buf.store pos (encodePdu pduType config), 4 + config.length) := by
  have hsize : pos + 4 + config.length - pos = 4 + config.length := by omega
  simp only [writePdu, h, Cursor.put, hsize, encodePdu]
  congr 1
  -- the size fills the hole between the type and the configuration
  exact Mem.store_hole buf pos (le16 pduType) (le16 (UInt16.ofNat (4 + config.length))) config

/-! ## Reading them back -/

theorem scfHeader_parses (h : ScfHeader) : Parses scfHeader h.encode h := by
  intro rest
  simp [scfHeader, ScfHeader.encode]

/-- A PDU is read or rejected by its own bytes. -/
theorem scfPdu_decides {α : Type} {config : UInt16 → Parser α} {pduType : UInt16}
    {bs : List UInt8} (hlen : 4 + bs.length < 2 ^ 16) :
    Decides (scfPdu config) (encodePdu pduType bs) ((config pduType).complete bs) := by
  intro rest
  -- `pdu_size` holds the size, which the parser follows to the end of the configuration
  have hsize : (UInt16.ofNat (4 + bs.length)).toNat = 4 + bs.length :=
    UInt16.toNat_ofNat_of_lt' hlen
  have hin := Decides.inside (p := config pduType) (rfl : bs.length = bs.length) rest
  simp only [scfPdu, encodePdu, List.append_assoc, bind_apply, u16_append, Option.bind_some, hsize,
    Nat.le_add_right, decide_true, check_true, pure_apply, Nat.add_sub_cancel_left, hin]

theorem scfPdu_parses {α : Type} {config : UInt16 → Parser α} {pduType : UInt16}
    {bs : List UInt8} {a : α} (h : Parses (config pduType) bs a) (hlen : 4 + bs.length < 2 ^ 16) :
    Parses (scfPdu config) (encodePdu pduType bs) a := by
  have hdecides := @scfPdu_decides α config pduType bs hlen
  rw [h.complete] at hdecides
  exact hdecides.parses

theorem scfMessage_parses {α : Type} {body : Parser α} {header : ScfHeader} {bs : List UInt8}
    {a : α} (h : Parses body bs a) (hlen : header.length.toNat = bs.length) :
    Parses (scfMessage body) (header.encode ++ bs) (header, a) := by
  intro rest
  have hin := h.inside hlen.symm rest
  simp only [scfMessage, bind_apply, List.append_assoc, scfHeader_parses header (bs ++ rest),
    Option.bind_some, hin, pure_apply]

theorem SerializeResult.message_eq {r : SerializeResult} {m : Mem} {bs : List UInt8}
    (hbuf : r.buf = m.store 0 bs) (hret : r.ret = bs.length) : r.message = bs := by
  rw [SerializeResult.message, hbuf, hret, Int.toNat_natCast, Mem.load_store]

theorem staticCastInt_of_lt {n : Nat} (h : n < 2 ^ 31) : staticCastInt n = n := by
  unfold staticCastInt
  rw [Int.bmod_eq_of_le_mul_two] <;> omega

/-- The message is one from this cell and of this type that reads back completely at its announced
body length, and what its body says satisfies `P`. -/
def SerializeResult.ReadsBack {α : Type} (r : SerializeResult) (body : Parser α) (cellId : UInt8)
    (typeId : UInt16) (P : α → Prop) : Prop :=
  ∃ length a, (scfMessage body).complete r.message = some (⟨1, cellId, typeId, length⟩, a) ∧
    (length.toNat : Int) = r.ret - 8 ∧ P a

/-- What is left behind reads back when the body does. -/
theorem SerializeResult.readsBack_of_parses {α : Type} {r : SerializeResult} {m : Mem}
    {body : Parser α} {cellId : UInt8} {typeId : UInt16} {bs : List UInt8} {a : α} {n : Nat}
    (hbuf : r.buf = m.store 0 ((⟨1, cellId, typeId, UInt32.ofNat n⟩ : ScfHeader).encode ++ bs))
    (hret : r.ret = staticCastInt (8 + n)) (hn : bs.length = n) (hlt : n < 2 ^ 30)
    (h : Parses body bs a) {P : α → Prop} (hP : P a) : r.ReadsBack body cellId typeId P := by
  rw [staticCastInt_of_lt (by omega)] at hret
  have hlen : (UInt32.ofNat n).toNat = n := by
    rw [UInt32.toNat_ofNat']
    omega
  have hmsg := r.message_eq hbuf (by
    rw [hret, List.length_append, ScfHeader.encode_length, hn])
  refine ⟨UInt32.ofNat n, a, ?_, ?_, hP⟩
  · rw [hmsg]
    exact (scfMessage_parses h (hlen.trans hn.symm)).complete
  · rw [hret, hlen]
    push_cast
    omega

/-- What is read back is the only reading. -/
theorem SerializeResult.ReadsBack.of_parses {α : Type} {r : SerializeResult} {body : Parser α}
    {cellId : UInt8} {typeId : UInt16} {P : α → Prop} {a : α}
    (hread : r.ReadsBack body cellId typeId (Eq a)) (h : r.ReadsBack body cellId typeId P) :
    P a := by
  obtain ⟨_, b, hb, -, rfl⟩ := hread
  obtain ⟨_, c, hc, -, hP⟩ := h
  rw [hb] at hc
  cases hc
  exact hP

end AerialBridge
