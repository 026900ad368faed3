import AerialBridge.RxThread.Dispatch
import AerialBridge.Request.Writer

/-!
# The TLVs of a CONFIG_REQUEST

`add_tlv` appends a tag, a 16-bit length and a value, and moves past the value to a 4-byte boundary
of it.  A chain of appends is one run of TLVs that a reader takes apart again.
-/

namespace AerialBridge

open Bytes Bytes.Parser

/-- `add_tlv`; `value` is what its pointer points to. -/
def addTlv (p : Cursor) (tag len : UInt16) (value : List UInt8) : Cursor :=
  let p := p.put16 tag
  let p := p.put16 len
  let mem := p.mem.store p.next (value.take len.toNat)
  -- `len` is promoted to `int` before it is rounded up
  let paddedLen := UInt32.ofNat ((len.toNat + 3) / 4 * 4)
  let mem :=
    if paddedLen > len.toUInt32 then
      mem.store (p.next + len.toNat) (List.replicate (paddedLen - len.toUInt32).toNat 0)
    else mem
  ⟨mem, p.next + paddedLen.toNat⟩

/-- A tag and a value that a 16-bit length can announce. -/
structure Tlv where
  tag : UInt16
  value : List UInt8
  length_lt : value.length < 2 ^ 16

namespace Tlv

def len (t : Tlv) : UInt16 := UInt16.ofNat t.value.length

def add (p : Cursor) (t : Tlv) : Cursor := addTlv p t.tag t.len t.value

/-- The zeros behind the value. -/
def pad (t : Tlv) : List UInt8 := List.replicate ((t.value.length + 3) / 4 * 4 - t.value.length) 0

def encode (t : Tlv) : List UInt8 := le16 t.tag ++ le16 t.len ++ t.value ++ t.pad

/-- Tag, length, that many bytes, and on to the next 4-byte boundary of the value. -/
def parser : Parser (UInt16 × List UInt8) := do
  let tag ← u16
  let len ← u16
  let value ← bytes len.toNat
  let _ ← bytes ((len.toNat + 3) / 4 * 4 - len.toNat)
  pure (tag, value)

theorem len_toNat (t : Tlv) : t.len.toNat = t.value.length := by
  rw [len, UInt16.toNat_ofNat']
  exact Nat.mod_eq_of_lt t.length_lt

theorem encode_length (t : Tlv) : t.encode.length = 4 + (t.value.length + 3) / 4 * 4 := by
  simp only [encode, pad, List.length_append, le16_length, List.length_replicate]
  omega

theorem add_eq_put (p : Cursor) (t : Tlv) : add p t = p.put t.encode := by
  have hlen := t.len_toNat
  have hlt := t.length_lt
  have hpadded : (UInt32.ofNat ((t.value.length + 3) / 4 * 4)).toNat =
      (t.value.length + 3) / 4 * 4 := by
    rw [UInt32.toNat_ofNat']
    exact Nat.mod_eq_of_lt (by omega)
  have hpos : (UInt32.ofNat ((t.value.length + 3) / 4 * 4) > t.len.toUInt32) ↔
      t.value.length < (t.value.length + 3) / 4 * 4 := by
    show t.len.toUInt32 < _ ↔ _
    rw [UInt32.lt_iff_toNat_lt, hpadded, UInt16.toNat_toUInt32, hlen]
  have hput : p.put t.encode = ((((p.put16 t.tag).put16 t.len).put t.value).put t.pad) := by
    simp only [Cursor.put16, Cursor.put_put, encode, List.append_assoc]
  rw [hput]
  simp only [add, addTlv, hlen, hpadded, List.take_length]
  by_cases h : t.value.length < (t.value.length + 3) / 4 * 4
  · have hsub : (UInt32.ofNat ((t.value.length + 3) / 4 * 4) - t.len.toUInt32).toNat =
        (t.value.length + 3) / 4 * 4 - t.value.length := by
      rw [UInt32.toNat_sub_of_le _ _ (UInt32.le_of_lt (hpos.mpr h)), hpadded,
        UInt16.toNat_toUInt32, hlen]
    rw [if_pos (hpos.mpr h), hsub]
    simp only [Cursor.put, pad, List.length_replicate, Cursor.mk.injEq, true_and]
    omega
  · -- a value that ends on a boundary
    have hpad : t.pad = [] := by
      rw [pad, List.replicate_eq_nil_iff]
      omega
    rw [if_neg (mt hpos.mp h), hpad, Cursor.put_nil]
    simp only [Cursor.put, Cursor.mk.injEq, true_and]
    omega

theorem foldl_add (tlvs : List Tlv) (p : Cursor) :
    tlvs.foldl add p = p.put (tlvs.flatMap encode) :=
  Cursor.foldl_put add_eq_put tlvs p

theorem foldl_add_next (tlvs : List Tlv) (p : Cursor) :
    (tlvs.foldl add p).next = p.next + (tlvs.map fun t ↦ 4 + (t.value.length + 3) / 4 * 4).sum := by
  rw [foldl_add]
  simp only [Cursor.put, List.length_flatMap, encode_length]

theorem parser_parses (t : Tlv) : Parses parser t.encode (t.tag, t.value) := by
  have hpad : t.pad.length = (t.len.toNat + 3) / 4 * 4 - t.len.toNat := by
    rw [pad, List.length_replicate, len_toNat]
  rw [encode, List.append_assoc, List.append_assoc]
  exact .bind (.u16 _) (.bind (.u16 _) (.bind (.bytes t.len_toNat.symm) (.last (.bytes hpad))))

/-- The reader takes a run of TLVs apart in one way only. -/
theorem reads_flatMap (tlvs : List Tlv) (as : List (UInt16 × List UInt8)) :
    Reads parser (tlvs.flatMap encode) as ↔ as = tlvs.map fun t ↦ (t.tag, t.value) := by
  have hne : ∀ t ∈ tlvs, t.encode ≠ [] := by
    intro t _ hnil
    have hlen := t.encode_length
    rw [hnil, List.length_nil] at hlen
    omega
  have hread : ∀ t ∈ tlvs, Decides parser t.encode (some (t.tag, t.value)) :=
    fun t _ ↦ t.parser_parses
  rw [reads_flatMap_iff rfl tlvs hne hread]
  have hmap : (tlvs.map fun t ↦ some (t.tag, t.value)) =
      (tlvs.map fun t ↦ (t.tag, t.value)).map some := by
    rw [List.map_map]
    rfl
  rw [hmap, (List.map_injective_iff.mpr (Option.some_injective _)).eq_iff]
  exact eq_comm

/-- The bytes of one TLV of a chain are where the append put them. -/
theorem load_foldl_add (before : List Tlv) (t : Tlv) (after : List Tlv) (p : Cursor) :
    ((before ++ t :: after).foldl add p).mem.load (before.foldl add p).next t.encode.length =
      t.encode := by
  rw [foldl_add, foldl_add, List.flatMap_append, List.flatMap_cons, ← List.append_assoc]
  exact Mem.load_store_part _ _ _ _ _

/-- One append writes from the cursor to where it leaves the cursor. -/
theorem add_untouched (p : Cursor) (t : Tlv) {i : Nat} (hi : i < p.next ∨ (add p t).next ≤ i) :
    (add p t).mem i = p.mem i := by
  rw [add_eq_put] at hi ⊢
  cases hi with
  | inl h => exact Mem.store_of_lt _ _ h
  | inr h => exact Mem.store_of_ge _ _ h

theorem reads_foldl_add (tlvs : List Tlv) (p : Cursor) (as : List (UInt16 × List UInt8)) :
    Reads parser ((tlvs.foldl add p).mem.load p.next ((tlvs.foldl add p).next - p.next)) as ↔
      as = tlvs.map fun t ↦ (t.tag, t.value) := by
  have hload := Mem.load_store p.mem p.next (tlvs.flatMap encode)
  have hnext : (p.put (tlvs.flatMap encode)).next - p.next = (tlvs.flatMap encode).length :=
    Nat.add_sub_cancel_left _ _
  rw [foldl_add, hnext]
  show Reads parser ((p.mem.store p.next (tlvs.flatMap encode)).load p.next _) as ↔ _
  rw [hload]
  exact reads_flatMap tlvs as

/-- The pad bytes of one TLV of a chain. -/
theorem foldl_add_pad (before : List Tlv) (t : Tlv) (after : List Tlv) (p : Cursor) {i : Nat}
    (hlo : (before.foldl add p).next + 4 + t.value.length ≤ i)
    (hhi : i < (before.foldl add p).next + t.encode.length) :
    ((before ++ t :: after).foldl add p).mem i = 0 := by
  have hload := load_foldl_add before t after p
  have hk : i - (before.foldl add p).next < t.encode.length := by omega
  have hat := congrArg (fun bs : List UInt8 ↦ bs[i - (before.foldl add p).next]?) hload
  simp only [Mem.load, List.getElem?_map, List.getElem?_range hk, Option.map_some] at hat
  rw [Nat.add_sub_cancel' (by omega), encode, List.getElem?_append_right (by
    simp only [List.length_append, le16_length]; omega), pad, List.getElem?_replicate] at hat
  split at hat
  · exact Option.some.inj hat
  · cases hat

theorem foldl_add_next_mono (tlvs more : List Tlv) (p : Cursor) :
    (tlvs.foldl add p).next ≤ ((tlvs ++ more).foldl add p).next := by
  rw [foldl_add_next, foldl_add_next, List.map_append, List.sum_append]
  omega

end Tlv

/-- A chain of appends is as long as its rounded TLVs, a reader gets back the list it was made of and
no other, the pad bytes are zero, and each append writes between the TLVs before it and those behind
it. -/
theorem addTlv_chain_invertible (tlvs : List Tlv) (p : Cursor) :
    (tlvs.foldl Tlv.add p).next =
        p.next + (tlvs.map fun t ↦ 4 + (t.value.length + 3) / 4 * 4).sum ∧
      (∀ as, Reads Tlv.parser ((tlvs.foldl Tlv.add p).mem.load p.next
          ((tlvs.foldl Tlv.add p).next - p.next)) as ↔ as = tlvs.map fun t ↦ (t.tag, t.value)) ∧
      ∀ before t after, tlvs = before ++ t :: after →
        (∀ i, (before.foldl Tlv.add p).next + 4 + t.value.length ≤ i →
          i < ((before ++ [t]).foldl Tlv.add p).next → (tlvs.foldl Tlv.add p).mem i = 0) ∧
        (∀ i, i < (before.foldl Tlv.add p).next ∨ ((before ++ [t]).foldl Tlv.add p).next ≤ i →
          ((before ++ [t]).foldl Tlv.add p).mem i = (before.foldl Tlv.add p).mem i) ∧
        ∀ mid u rest, after = mid ++ u :: rest → ((before ++ [t]).foldl Tlv.add p).next ≤
          ((before ++ t :: mid).foldl Tlv.add p).next := by
  refine ⟨Tlv.foldl_add_next tlvs p, Tlv.reads_foldl_add tlvs p, fun before t after htlvs ↦ ?_⟩
  have hconcat : (before ++ [t]).foldl Tlv.add p = Tlv.add (before.foldl Tlv.add p) t :=
    List.foldl_append
  have hstop : (Tlv.add (before.foldl Tlv.add p) t).next =
      (before.foldl Tlv.add p).next + t.encode.length := by
    rw [Tlv.add_eq_put]
    rfl
  refine ⟨fun i hlo hhi ↦ ?_, fun i hi ↦ ?_, fun mid u rest _ ↦ ?_⟩
  · rw [hconcat, hstop] at hhi
    rw [htlvs]
    exact Tlv.foldl_add_pad before t after p hlo hhi
  · rw [hconcat] at hi ⊢
    exact Tlv.add_untouched _ t hi
  · have hmono := Tlv.foldl_add_next_mono (before ++ [t]) mid p
    rwa [List.append_assoc, List.singleton_append] at hmono

/-! ## The CONFIG_REQUEST -/

def Tlv.of8 (tag : UInt16) (value : UInt8) : Tlv := ⟨tag, [value], by simp⟩

def Tlv.of16 (tag : UInt16) (value : UInt16) : Tlv := ⟨tag, le16 value, by simp⟩

def Tlv.of32 (tag : UInt16) (value : UInt32) : Tlv := ⟨tag, le32 value, by simp⟩

/-- DDDSU twice; the symbols of the special slots are 10 DL, 2 guard and 2 UL. -/
def slotCfg : List UInt8 :=
  (List.range 10).flatMap fun s ↦
    if s = 3 ∨ s = 8 then List.replicate 10 0 ++ [2, 2, 1, 1]
    else if s = 4 ∨ s = 9 then List.replicate 14 1
    else List.replicate 14 0

/-- What `send_config_request` appends, in order; nothing of it depends on the request. -/
def configTlvs : List Tlv :=
  [.of16 0x1001 273, .of32 0x1002 3600000, .of16 0x1005 2, .of16 0x1006 273,
    .of32 0x1007 3600000, .of16 0x100A 2,
    ⟨0x1004, [0, 273, 0, 0, 0].flatMap le16, by decide⟩,
    ⟨0x1009, [0, 273, 0, 0, 0].flatMap le16, by decide⟩,
    .of16 0x100C 1, .of8 0x100D 1, .of8 0x1010 1,
    -- SSB
    .of32 0x100E 0, .of16 0x101D 0, .of8 0x101F 2, .of8 0x1020 0, ⟨0x1021, [0, 0, 0], by decide⟩,
    .of32 0x1022 1, .of32 0x1022 0,
    -- PRACH, general first and then one FD occasion
    .of8 0x1011 1, .of8 0x1012 1, .of8 0x1013 0, .of8 0x1029 159, .of8 0x1014 1, .of16 0x1015 1,
    .of8 0x1016 1, .of16 0x1017 0, .of8 0x1018 0, .of8 0x101B 0,
    -- TDD
    .of8 0x1026 6, ⟨0x1027, slotCfg, by decide +kernel⟩]

/-- The message that `send_config_request` leaves in the allocated buffer, and `msg_len`. -/
def sendConfigRequest (buf : Mem) : Mem × Nat :=
  let buf := buf.store 0 [1]
  let buf := buf.store 1 [0]
  let body := 8
  let buf := buf.store body [30]
  let p := configTlvs.foldl Tlv.add ⟨buf, body + 1⟩
  let bodyLen := UInt32.ofNat (p.next - body)
  let buf := p.mem.store 2 (le16 ScfMsgId.configRequest.code)
  let buf := buf.store 4 (le32 bodyLen)
  (buf, 8 + bodyLen.toNat)

end AerialBridge
