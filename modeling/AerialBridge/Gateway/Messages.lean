import AerialBridge.Gateway.Requests

/-!
# What the gateways write

One lemma for each kind of request: the buffers of a request that fits hold it afterwards, and the
rest of the shared memory is as it was.
-/

namespace AerialBridge

open Bytes Bytes.Parser

variable {l : Layout} {forceTable0 : Bool} {mem mem' : Mem} {i j : Nat}

/-! ## Reading a message -/

theorem Layout.Untouched.trans {bufs : List Buf} {mem'' : Mem} (h : l.Untouched bufs mem mem')
    (h' : l.Untouched bufs mem' mem'') : l.Untouched bufs mem mem'' :=
  fun k hk ↦ (h' k hk).trans (h k hk)

theorem Layout.untouched_store {b : Buf} {bufs : List Buf} (hb : b ∈ bufs) {bs : List UInt8}
    (hlen : bs.length ≤ b.size) : l.Untouched bufs mem (mem.store (l.addr b) bs) := by
  intro k hk
  have hout := hk b hb
  by_cases hlt : k < l.addr b
  · exact Mem.store_of_lt _ _ hlt
  · exact Mem.store_of_ge _ _ (by omega)

theorem Layout.untouched_writeBack {b : Buf} {bufs : List Buf} (hb : b ∈ bufs) (f : Mem) :
    l.Untouched bufs mem (mem.writeBack (l.addr b) b.size f) := by
  intro k hk
  have hout := hk b hb
  exact if_neg (by omega)

/-- The other buffers are kept. -/
theorem Layout.Untouched.kept {bufs : List Buf} (h : l.Untouched bufs mem mem') {b : Buf}
    (hb : b ∉ bufs) : l.Kept mem mem' b := by
  intro k hlo hhi
  apply h
  intro b' hb'
  have hne : b' ≠ b := fun heq ↦ hb (heq ▸ hb')
  have hdisjoint := l.disjoint b' b hne
  omega

theorem Layout.Kept.load {b : Buf} (h : l.Kept mem mem' b) {n : Nat} (hn : n ≤ b.size) :
    mem'.load (l.addr b) n = mem.load (l.addr b) n :=
  Mem.load_congr fun k hlo hhi ↦ h k hlo (by omega)

theorem TxIpcMsg.read_kept {w : TxIpcMsg} (hw : w.InBounds)
    (h : ∀ b ∈ w.bufs, l.Kept mem mem' b) : w.read l mem' = w.read l mem := by
  have hmsg := (h _ List.mem_cons_self).load hw.message
  have hdata : ∀ b ∈ w.dataBuf, mem'.load (l.addr b) w.dataLen.toNat =
      mem.load (l.addr b) w.dataLen.toNat := fun b hb ↦
    (h b (List.mem_cons_of_mem _ (Option.mem_toList.mpr hb))).load (hw.data b hb)
  unfold TxIpcMsg.read
  cases hd : w.dataBuf with
  | none => simp only [hmsg]
  | some b =>
      rw [hd] at hdata
      simp only [hmsg, hdata b rfl]

theorem TxIpcMsg.Holds.kept {w : TxIpcMsg} {req : GatewayRequest}
    (h : w.Holds l forceTable0 mem req) (hbufs : ∀ b ∈ w.bufs, l.Kept mem mem' b) :
    w.Holds l forceTable0 mem' req where
  fits := h.fits
  inBounds := h.inBounds
  delivered := by
    rw [read_kept h.inBounds hbufs]
    exact h.delivered

/-! ## One request -/

/-- A function has written the request into its buffers and goes on to send it. -/
structure GatewayRequest.Written (l : Layout) (forceTable0 : Bool) (req : GatewayRequest)
    (mem : Mem) (i j : Nat) (w : TxIpcMsg) : Prop where
  filled : (req.fill forceTable0 l mem i j).2 = some w
  bufs : w.bufs = req.bufs i j
  untouched : l.Untouched (req.bufs i j) mem (req.fill forceTable0 l mem i j).1
  holds : w.Holds l forceTable0 (req.fill forceTable0 l mem i j).1 req

/-- A request without data whose bytes are one store at the start of the message buffer. -/
theorem GatewayRequest.written_of_store {req : GatewayRequest} {msgLen : Int}
    (hfits : req.Fits forceTable0) (hblocks : req.blocks = [])
    (hbufs : req.bufs i j = [.cpuMsg i])
    (hfill : req.fill forceTable0 l mem i j =
      (mem.store (l.addr (.cpuMsg i)) (req.encoding forceTable0),
        some ⟨req.msgId.code, 0, msgLen, 0, .cpuMsg i, none⟩))
    (hlen : msgLen = (req.encoding forceTable0).length) :
    req.Written l forceTable0 mem i j ⟨req.msgId.code, 0, msgLen, 0, .cpuMsg i, none⟩ where
  filled := by rw [hfill]
  bufs := hbufs.symm
  untouched := by
    rw [hfill, hbufs]
    exact l.untouched_store List.mem_cons_self hfits.message
  holds := {
    fits := hfits
    inBounds := ⟨by rw [hlen]; exact hfits.message, nofun⟩
    delivered := {
      msgId := rfl
      cellId := rfl
      bytes := by
        rw [hfill, hlen]
        exact Mem.load_store _ _ _
      blocks := by
        intro before p after hsplit
        rw [hblocks] at hsplit
        exact absurd hsplit.symm (List.append_ne_nil_of_right_ne_nil _ (List.cons_ne_nil _ _)) } }

/-- A P5 request that is its header. -/
theorem sendBareRequest_eq (msgId : ScfMsgId) :
    sendBareRequest msgId l mem i j =
      (mem.store (l.addr (.cpuMsg i)) (framed 0 msgId.code []),
        some ⟨msgId.code, 0, 8, 0, .cpuMsg i, none⟩) := by
  have hheaders : ∀ buf : Mem, writeHeaders buf 0 msgId.code 0 =
      buf.store 0 (framed 0 msgId.code []) := by
    intro buf
    have h := writeHeaders_store buf 0 msgId.code 0 []
    rw [Mem.store_nil] at h
    exact h
  simp only [sendBareRequest, hheaders, Mem.through_store, Nat.add_zero]

theorem configEncoding_length : configEncoding.length = 401 := by
  have hlen : (configTlvs.flatMap Tlv.encode).length = 392 := by decide +kernel
  rw [configEncoding, framed_length, List.length_cons, hlen]

-- the envelope is written before the body, the body header behind it
theorem headers_around_body (buf : Mem) (cellId : UInt8) (typeId : UInt16) (bodyLen : UInt32)
    (first : UInt8) (rest : List UInt8) :
    ((((((buf.store 0 [1]).store 1 [cellId]).store 8 [first]).store 9 rest).store 2
        (le16 typeId)).store 4 (le32 bodyLen)) =
      buf.store 0 ((⟨1, cellId, typeId, bodyLen⟩ : ScfHeader).encode ++ (first :: rest)) := by
  have hbody : (((buf.store 0 [1]).store 1 [cellId]).store 8 [first]).store 9 rest =
      ((buf.store 8 (first :: rest)).store 0 [1]).store 1 [cellId] := by
    have hone := ((buf.store 0 [1]).store 1 [cellId]).store_store 8 [first] rest
    have h1 := (buf.store 0 [1]).store_comm [cellId] (first :: rest)
      (.inl (by simp) : 1 + [cellId].length ≤ 8 ∨ _)
    have h0 := buf.store_comm [1] (first :: rest) (.inl (by simp) : 0 + [1].length ≤ 8 ∨ _)
    rw [← h0, ← h1]
    exact hone
  rw [hbody, ← writeHeaders_store]
  rfl

theorem sendConfigRequest_eq (buf : Mem) :
    sendConfigRequest buf = (buf.store 0 configEncoding, 401) := by
  have hlen : (configTlvs.flatMap Tlv.encode).length = 392 := by decide +kernel
  have hframed : configEncoding = (⟨1, 0, ScfMsgId.configRequest.code, 393⟩ : ScfHeader).encode ++
      (30 :: configTlvs.flatMap Tlv.encode) := by
    rw [configEncoding, framed, List.length_cons, hlen]
    rfl
  rw [hframed, ← headers_around_body]
  simp only [sendConfigRequest, Tlv.foldl_add, Cursor.put, hlen]
  rfl

/-- A serialiser whose result is sent. -/
theorem sendSerialized_eq {msgId : ScfMsgId} {serialize : Mem → SerializeResult}
    {bytes : List UInt8} (henc : ∀ buf, (serialize buf).Encodes buf bytes)
    (hfits : bytes.length ≤ 15000) :
    sendSerialized msgId serialize l mem i j =
      (mem.store (l.addr (.cpuMsg i)) bytes,
        some ⟨msgId.code, 0, bytes.length, 0, .cpuMsg i, none⟩) := by
  have hbuf := (henc (mem.seenFrom (l.addr (.cpuMsg i)))).buf
  have hret := (henc (mem.seenFrom (l.addr (.cpuMsg i)))).ret
  rw [staticCastInt_of_lt (by omega)] at hret
  have hpos : ¬ (bytes.length : Int) < 0 := by omega
  simp only [sendSerialized, hbuf, hret, Mem.through_store, Nat.add_zero, if_neg hpos]

/-! ## TX_DATA -/

/-- What the call leaves, when the message fits. -/
theorem sendTxDataRequest_eq (msg : TxDataRequest)
    (hfits : (msg.encoding cpuDataPool 0).length ≤ 15000) :
    sendTxDataRequest msg l mem i j =
      ((mem.store (l.addr (.cpuMsg i)) (msg.encoding cpuDataPool 0)).writeBack
          (l.addr (.cpuData j)) 576000
          (cpuDataPool.copied (mem.seenFrom (l.addr (.cpuData j))) 0 msg.pdus),
        some ⟨ScfMsgId.txDataRequest.code, 0, (msg.encoding cpuDataPool 0).length,
          cpuDataPool.offset msg.pdus, .cpuMsg i, some (.cpuData j)⟩) := by
  have henc := serializeTxDataRequest_encodes msg (mem.seenFrom (l.addr (.cpuMsg i)))
    (mem.seenFrom (l.addr (.cpuData j))) cpuDataPool 0 (by decide : 14 ≤ 15000)
  have hret := henc.ret
  rw [staticCastInt_of_lt (by omega)] at hret
  have hpos : ¬ ((msg.encoding cpuDataPool 0).length : Int) < 0 := by omega
  have hdata := serializeTxDataRequest_eq msg (mem.seenFrom (l.addr (.cpuMsg i)))
    (mem.seenFrom (l.addr (.cpuData j))) cpuDataPool 0 (by decide : 14 ≤ 15000)
  -- the offset stays inside the pool's buffer
  have hoffset : cpuDataPool.offset msg.pdus ≤ 576000 :=
    cpuDataPool.offset_le (by decide) msg.pdus
  have hwritten : staticCastInt (cpuDataPool.offset msg.pdus) = cpuDataPool.offset msg.pdus :=
    staticCastInt_of_lt (by omega)
  simp only [sendTxDataRequest, henc.buf, hret, if_neg hpos, Mem.through_store, Nat.add_zero]
  rw [hdata]
  simp only [hwritten]

theorem sendTxDataRequest_written (msg : TxDataRequest)
    (hfits : (GatewayRequest.txDataRequest msg).Fits forceTable0) :
    (GatewayRequest.txDataRequest msg).Written l forceTable0 mem i j
      ⟨ScfMsgId.txDataRequest.code, 0, (msg.encoding cpuDataPool 0).length,
        cpuDataPool.offset msg.pdus, .cpuMsg i, some (.cpuData j)⟩ := by
  have hmessage : (msg.encoding cpuDataPool 0).length ≤ 15000 := hfits.message
  have hfill : (GatewayRequest.txDataRequest msg).fill forceTable0 l mem i j = _ :=
    sendTxDataRequest_eq msg hmessage
  have hoffset : cpuDataPool.offset msg.pdus ≤ 576000 :=
    cpuDataPool.offset_le (by decide) msg.pdus
  constructor
  · rw [hfill]
  · rfl
  · rw [hfill]
    exact (l.untouched_store List.mem_cons_self hmessage).trans
      (Layout.untouched_writeBack (b := .cpuData j) (List.mem_cons_of_mem _ List.mem_cons_self) _)
  · rw [hfill]
    constructor
    · exact hfits
    · constructor
      · exact hmessage
      · intro b hb
        cases hb
        exact hoffset
    · constructor
      · rfl
      · rfl
      · -- the data buffer is another one
        have hdisjoint := l.disjoint (.cpuMsg i) (.cpuData j) nofun
        have hload := Mem.writeBack_load_disjoint
          (mem.store (l.addr (.cpuMsg i)) (msg.encoding cpuDataPool 0))
          (a := l.addr (.cpuData j)) (n := 576000) (b := l.addr (.cpuMsg i))
          (k := (msg.encoding cpuDataPool 0).length)
          (cpuDataPool.copied (mem.seenFrom (l.addr (.cpuData j))) 0 msg.pdus) (by
            simp only [Buf.size] at hdisjoint
            omega)
        exact hload.trans (Mem.load_store _ _ _)
      · -- a block is read where its bytes were copied to
        intro before p after hsplit
        change msg.pdus = before ++ p :: after at hsplit
        have hblocks := hfits.blocks msg rfl
        show List.take p.pdu.length (List.drop (alignedSum before)
          (Mem.load _ (l.addr (.cpuData j)) (Int.toNat (cpuDataPool.offset msg.pdus : Nat)))) = _
        rw [Int.toNat_natCast]
        by_cases hp : p.pdu = []
        · rw [hp]
          exact List.take_zero
        · have hoff := hblocks.offset_eq hsplit
          have hle := hblocks.le_advance hsplit hp hoff
          have hslot := Bump.slot_le_cursor cpuDataPool.advance 0 before p after
          rw [← hsplit] at hslot
          change cpuDataPool.offset before + cpuDataPool.advance (cpuDataPool.offset before) p ≤
            cpuDataPool.offset msg.pdus at hslot
          rw [← hoff, Mem.load_drop_take _ _ (by omega), Mem.writeBack_load _ _ (by omega)]
          exact copied_load_of_le_advance _ hsplit hp hle

/-! ## All requests -/

/-- Every request that fits is written, and will be sent. -/
theorem GatewayRequest.written (req : GatewayRequest) (hfits : req.Fits forceTable0) :
    ∃ w, req.Written l forceTable0 mem i j w := by
  have hmessage := hfits.message
  cases req with
  | paramRequest | startRequest | stopRequest =>
      exact ⟨_, written_of_store hfits rfl rfl (sendBareRequest_eq (j := j) _) rfl⟩
  | configRequest =>
      have hfill : fillConfigRequest l mem i j =
          (mem.store (l.addr (.cpuMsg i)) configEncoding,
            some ⟨ScfMsgId.configRequest.code, 0, (401 : Nat), 0, .cpuMsg i, none⟩) := by
        simp only [fillConfigRequest, sendConfigRequest_eq, Mem.through_store, Nat.add_zero]
      exact ⟨_, written_of_store hfits rfl rfl hfill
        (congrArg Nat.cast configEncoding_length.symm)⟩
  | dlTtiRequest msg =>
      exact ⟨_, written_of_store hfits rfl rfl (sendSerialized_eq (j := j) (fun buf ↦
        serializeDlTtiRequest_encodes forceTable0 msg buf 0 (by decide)) hmessage) rfl⟩
  | ulTtiRequest msg =>
      exact ⟨_, written_of_store hfits rfl rfl (sendSerialized_eq (j := j) (fun buf ↦
        serializeUlTtiRequest_encodes msg buf 0 (by decide)) hmessage) rfl⟩
  | ulDciRequest msg =>
      exact ⟨_, written_of_store hfits rfl rfl (sendSerialized_eq (j := j) (fun buf ↦
        serializeUlDciRequest_encodes msg buf 0 (by decide)) hmessage) rfl⟩
  | txDataRequest msg => exact ⟨_, sendTxDataRequest_written msg hfits⟩

/-- Only a request that does not fit is given up. -/
theorem GatewayRequest.not_fits_of_fill {req : GatewayRequest}
    (h : (req.fill forceTable0 l mem i j).2 = none) : ¬ req.Fits forceTable0 := by
  intro hfits
  obtain ⟨w, hwritten⟩ : ∃ w, req.Written l forceTable0 mem i j w := req.written hfits
  rw [hwritten.filled] at h
  cases h

end AerialBridge
