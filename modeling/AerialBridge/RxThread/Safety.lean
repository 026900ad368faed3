import AerialBridge.Indication.Bounds
import AerialBridge.RxThread.SlotPath

/-!
# Safety of the dispatcher

Every message is dispatched without a read outside its buffer.  The slot points it constructs are
valid for every SLOT.indication; the other indications construct theirs from the wire fields as they
are, so theirs are valid exactly when these fields are, or when nothing is constructed at all.
-/

namespace AerialBridge

open Bytes Bytes.Parser

namespace RxThread

theorem dispatchSlot_succeeds (rx : RxThread) (now : Int) (buf : List UInt8) :
    Succeeds (rx.dispatchSlot now buf) := by
  refine .ite (fun _ ↦ .pure _) fun _ ↦ ?_
  refine .bind (readAt_fixed (.bytes _) (by split <;> omega)) fun localBuf _ ↦ ?_
  refine .bind (deserializeSlotIndication_succeeds _ _ _) fun ind _ ↦ ?_
  split <;> exact .pure _

theorem dispatchParamResponse_succeeds (rx : RxThread) (buf : List UInt8) :
    Succeeds (rx.dispatchParamResponse buf) := by
  refine .ite (fun h ↦ ?_) fun _ ↦ .pure _
  exact .bind (readAt_fixed .u8 (by omega)) fun _ _ ↦ .pure _

theorem dispatchConfigResponse_succeeds (rx : RxThread) (buf : List UInt8) :
    Succeeds (rx.dispatchConfigResponse buf) := by
  refine .ite (fun h ↦ ?_) fun _ ↦ .pure _
  refine .bind (readAt_fixed .u8 (by omega)) fun errorCode _ ↦ ?_
  refine .bind ?_ fun _ _ ↦ .pure _
  refine .ite (fun h10 ↦ ?_) fun _ ↦ .pure _
  exact .bind (readAt_fixed .u8 (by omega)) fun _ _ ↦ .pure _

theorem dispatchErrorIndication_succeeds (rx : RxThread) (buf : List UInt8) :
    Succeeds (rx.dispatchErrorIndication buf) := by
  refine .ite (fun h ↦ ?_) fun _ ↦ .pure _
  refine .bind (readAt_fixed .u16 (by omega)) fun sfn _ ↦ ?_
  refine .bind (readAt_fixed .u16 (by omega)) fun slot _ ↦ ?_
  refine .bind (readAt_fixed .u8 (by omega)) fun messageId _ ↦ ?_
  exact .bind (readAt_fixed .u8 (by omega)) fun _ _ ↦ .pure _

theorem dispatchMessage_succeeds (rx : RxThread) (ocudu : Ocudu) (now : Int) (msg : NvIpcMsg) :
    Succeeds (rx.dispatchMessage ocudu now msg) := by
  unfold dispatchMessage
  split
  · exact .pure _
  · next buf hbuf =>
    refine .ite (fun _ ↦ .pure _) fun hlen ↦ ?_
    unfold dispatchBuffer
    split
    · exact dispatchSlot_succeeds rx now buf
    · exact .ite (fun _ ↦ dispatchPdus_succeeds count16_sized (crcTurn_succeeds buf)) fun _ ↦ .pure _
    · exact .ite (fun _ ↦ dispatchPdus_succeeds count16_sized (rxDataTurn_succeeds buf _ _))
        fun _ ↦ .pure _
    · exact .ite (fun _ ↦ dispatchPdus_succeeds count16_sized (uciTurn_succeeds ocudu buf))
        fun _ ↦ .pure _
    · exact .ite (fun _ ↦ dispatchPdus_succeeds count8_sized (rachTurn_succeeds ocudu buf))
        fun _ ↦ .pure _
    · exact .ite (fun _ ↦ dispatchPdus_succeeds count8_sized (srsTurn_succeeds ocudu buf))
        fun _ ↦ .pure _
    · exact dispatchParamResponse_succeeds rx buf
    · exact dispatchConfigResponse_succeeds rx buf
    · exact .pure _
    · exact dispatchErrorIndication_succeeds rx buf
    · exact .pure _

/-- The dispatcher reads no byte past the end of the message, whatever the message claims. -/
theorem dispatchMessage_reads_inside (rx : RxThread) (ocudu : Ocudu) (now : Int) (msg : NvIpcMsg) :
    ∃ trace, rx.dispatchMessage ocudu now msg = .ok trace :=
  dispatchMessage_succeeds rx ocudu now msg

end RxThread

/-! ## Slot points -/

namespace ScfMsgId

/-- The indications that carry an SFN and a slot. -/
def CarriesSlot : ScfMsgId → Prop
  | slotIndication | crcIndication | rxDataIndication | rachIndication | uciIndication
  | srsIndication | errorIndication => True
  | _ => False

/-- The bytes a message needs before a slot point is constructed from it. -/
def headerLength : ScfMsgId → Nat
  | slotIndication => 12
  | rachIndication | srsIndication => 13
  | _ => 14

end ScfMsgId

namespace RxThread

variable (rx : RxThread)

/-- The notifier that the indication would be handed to is registered. -/
def Listens : ScfMsgId → Prop
  | .slotIndication => rx.slotNotifier = true
  | .errorIndication => rx.errorNotifier = true
  | _ => rx.indNotifier = true

/-- The message is dropped before its SFN and slot are looked at. -/
def Ignores (kind : ScfMsgId) (msg : NvIpcMsg) : Prop :=
  msg.msgBuf = none ∨ msg.msgLen ≤ 0 ∨ 1000000 < msg.msgLen ∨ ¬ rx.Listens kind ∨
    msg.msgLen < kind.headerLength

/-- The wire fields are an SFN and a slot of a numerology the message may be constructed with: any
from the configured one up to 4 for a SLOT.indication, the configured one otherwise. -/
def InRange (kind : ScfMsgId) (msg : NvIpcMsg) : Prop :=
  ∀ buf ∈ msg.msgBuf, (wireSfn buf).toNat ≤ 1023 ∧
    (wireSlot buf).toNat < nofSlotsPerFrame (if kind = .slotIndication then 4 else rx.numerology)

/-- The slot points of a trace are valid, and there is no notifier call for fields out of range. -/
def SafeTrace (kind : ScfMsgId) (msg : NvIpcMsg) (trace : List Effect) : Prop :=
  (∀ sp ∈ slotPoints trace, sp.Valid) ∧ (¬ rx.InRange kind msg → notifications trace = [])

theorem safeTrace_nil (kind : ScfMsgId) (msg : NvIpcMsg) : rx.SafeTrace kind msg [] :=
  ⟨fun _ h ↦ absurd h List.not_mem_nil, fun _ ↦ rfl⟩

theorem slotTrace_safe (hn : rx.numerology ≤ 4) (now : Int) {msg : NvIpcMsg} {buf : List UInt8}
    (hbuf : msg.msgBuf = some buf) :
    rx.SafeTrace .slotIndication msg (rx.slotTrace now buf) := by
  unfold slotTrace
  by_cases ha : Accepted buf
  · rw [if_pos ha]
    constructor
    -- an accepted message constructs one slot point, valid at its inferred numerology
    · intro sp hsp
      rw [slotPoints_slotPoint, slotPoints_notify, slotPoints_nil, List.mem_singleton] at hsp
      rw [hsp]
      exact slotIndicationPoint_valid hn ha
    -- and its fields are in range, so nothing is asked of its notifier calls
    · intro hr
      refine absurd (fun b hb ↦ ?_) hr
      rw [hbuf, Option.mem_some_iff] at hb
      rw [← hb]
      exact ha
  · rw [if_neg ha]
    exact rx.safeTrace_nil _ _

/-- A trace that constructs the wire point with the configured numerology is safe exactly when the
wire fields are in range. -/
theorem safeTrace_wirePoint_iff {kind : ScfMsgId} (hk : kind ≠ .slotIndication) {msg : NvIpcMsg}
    {buf : List UInt8} (hbuf : msg.msgBuf = some buf) {trace : List Effect}
    (hsp : slotPoints trace = [wirePoint rx.numerology buf]) :
    rx.SafeTrace kind msg trace ↔ rx.InRange kind msg := by
  have hrange : rx.InRange kind msg ↔ (wirePoint rx.numerology buf).Valid := by
    unfold InRange
    rw [hbuf, if_neg hk]
    simp only [Option.mem_some_iff, forall_eq']
    rfl
  rw [SafeTrace, hsp, hrange]
  constructor
  · intro h
    exact h.1 _ (List.mem_singleton.mpr rfl)
  · intro h
    refine ⟨fun sp hm ↦ ?_, fun hr ↦ absurd h hr⟩
    rw [List.mem_singleton.mp hm]
    exact h

/-- A walk over PDUs leaves no trace of a short message and constructs the wire point of others. -/
theorem dispatchPdus_safeTrace_iff {kind : ScfMsgId} (hk : kind ≠ .slotIndication) {msg : NvIpcMsg}
    {buf : List UInt8} (hbuf : msg.msgBuf = some buf) {σ : Type} {count : Parser Nat}
    {countSize : Nat} (start : Nat → σ) {turn : SlotPoint → σ → Except ReadFault (Turn σ Effect)}
    (hturn : ∀ sp s, Ensures (turn sp s) NoSlotPoint) :
    Ensures (dispatchPdus count countSize buf rx.numerology start turn) fun trace ↦
      (rx.SafeTrace kind msg trace ↔ buf.length < 12 + countSize ∨ rx.InRange kind msg) := by
  by_cases h : buf.length < 12 + countSize
  · rw [dispatchPdus_short count rx.numerology start turn h]
    exact Ensures.pure (iff_of_true (rx.safeTrace_nil _ _) (.inl h))
  · intro trace htrace
    have hsp := dispatchPdus_slotPoints count rx.numerology start hturn (by omega) trace htrace
    rw [rx.safeTrace_wirePoint_iff hk hbuf hsp, or_iff_right h]

/-- Without a registered notifier there is no trace. -/
theorem listening_safeTrace_iff {kind : ScfMsgId} {msg : NvIpcMsg} {listens : Bool}
    {x : Except ReadFault (List Effect)} {c : Prop}
    (hx : Ensures x fun trace ↦ (rx.SafeTrace kind msg trace ↔ c)) :
    Ensures (if listens then x else pure []) fun trace ↦
      (rx.SafeTrace kind msg trace ↔ ¬ listens = true ∨ c) := by
  by_cases h : listens = true
  · rw [if_pos h]
    intro trace htrace
    exact (hx trace htrace).trans (or_iff_right (not_not.mpr h)).symm
  · rw [if_neg h]
    exact .pure (iff_of_true (rx.safeTrace_nil _ _) (.inl h))

theorem dispatchSlot_safeTrace (hn : rx.numerology ≤ 4) (now : Int) {msg : NvIpcMsg}
    {buf : List UInt8} (hbuf : msg.msgBuf = some buf) :
    Ensures (rx.dispatchSlot now buf) fun trace ↦ rx.SafeTrace .slotIndication msg trace := by
  by_cases h : rx.slotNotifier = true ∧ 12 ≤ buf.length
  · rw [dispatchSlot_eq hn h.1 now h.2]
    exact .pure (rx.slotTrace_safe hn now hbuf)
  · unfold dispatchSlot
    rw [if_pos (by grind)]
    exact .pure (rx.safeTrace_nil _ _)

theorem dispatchErrorIndication_safeTrace_iff {msg : NvIpcMsg} {buf : List UInt8}
    (hbuf : msg.msgBuf = some buf) :
    Ensures (rx.dispatchErrorIndication buf) fun trace ↦
      (rx.SafeTrace .errorIndication msg trace ↔
        ¬ rx.errorNotifier = true ∨ buf.length < 14 ∨ rx.InRange .errorIndication msg) := by
  unfold dispatchErrorIndication
  by_cases h : rx.errorNotifier = true ∧ 14 ≤ buf.length
  -- the slot point is constructed from the wire fields without a check
  · rw [if_pos h, readAt_u16 (by omega : 8 + 2 ≤ buf.length), ok_bind,
      readAt_u16 (by omega : 10 + 2 ≤ buf.length), ok_bind]
    refine .bind (.trivial _) fun messageId _ ↦ .bind (.trivial _) fun errorCode _ ↦ .pure ?_
    rw [rx.safeTrace_wirePoint_iff (by decide) hbuf rfl, or_iff_right (not_not.mpr h.1),
      or_iff_right (by omega)]
  · rw [if_neg h]
    exact .pure (iff_of_true (rx.safeTrace_nil _ _) (by grind))

/-- The safety of the trace of each kind of indication, for a message whose buffer is looked at. -/
theorem dispatchBuffer_safeTrace_iff (hn : rx.numerology ≤ 4) (ocudu : Ocudu) (now : Int)
    {kind : ScfMsgId} {msg : NvIpcMsg} {buf : List UInt8} (hbuf : msg.msgBuf = some buf)
    (hid : ScfMsgId.ofCode msg.msgId = some kind) (hk : kind.CarriesSlot) :
    Ensures (rx.dispatchBuffer ocudu now msg buf) fun trace ↦
      (rx.SafeTrace kind msg trace ↔ kind = .slotIndication ∨ ¬ rx.Listens kind ∨
        buf.length < kind.headerLength ∨ rx.InRange kind msg) := by
  unfold dispatchBuffer
  rw [hid]
  -- one case for each kind that carries a slot; the others are excluded by `hk`
  cases kind with
  | slotIndication =>
      intro trace htrace
      exact iff_of_true (rx.dispatchSlot_safeTrace hn now hbuf trace htrace) (.inl rfl)
  | crcIndication =>
      rw [or_iff_right (by decide)]
      exact rx.listening_safeTrace_iff
        (rx.dispatchPdus_safeTrace_iff (by decide) hbuf id (crcTurn_noSlotPoint buf))
  | rxDataIndication =>
      rw [or_iff_right (by decide)]
      exact rx.listening_safeTrace_iff
        (rx.dispatchPdus_safeTrace_iff (by decide) hbuf _ (rxDataTurn_noSlotPoint buf _ _))
  | uciIndication =>
      rw [or_iff_right (by decide)]
      exact rx.listening_safeTrace_iff
        (rx.dispatchPdus_safeTrace_iff (by decide) hbuf id (uciTurn_noSlotPoint ocudu buf))
  | rachIndication =>
      rw [or_iff_right (by decide)]
      exact rx.listening_safeTrace_iff
        (rx.dispatchPdus_safeTrace_iff (by decide) hbuf id (rachTurn_noSlotPoint ocudu buf))
  | srsIndication =>
      rw [or_iff_right (by decide)]
      exact rx.listening_safeTrace_iff
        (rx.dispatchPdus_safeTrace_iff (by decide) hbuf id (srsTurn_noSlotPoint ocudu buf))
  | errorIndication =>
      rw [or_iff_right (by decide)]
      exact rx.dispatchErrorIndication_safeTrace_iff hbuf
  | _ => exact absurd hk id

theorem dispatchMessage_safeTrace_iff (hn : rx.numerology ≤ 4) (ocudu : Ocudu) (now : Int)
    {kind : ScfMsgId} {msg : NvIpcMsg} (hid : ScfMsgId.ofCode msg.msgId = some kind)
    (hk : kind.CarriesSlot) :
    Ensures (rx.dispatchMessage ocudu now msg) fun trace ↦
      (rx.SafeTrace kind msg trace ↔
        kind = .slotIndication ∨ rx.Ignores kind msg ∨ rx.InRange kind msg) := by
  unfold dispatchMessage
  split
  · next hbuf => exact .pure (iff_of_true (rx.safeTrace_nil _ _) (.inr (.inl (.inl hbuf))))
  · next buf hbuf =>
    have hlength := msg.msgBuf_length buf hbuf
    by_cases h : msg.msgLen ≤ 0 ∨ 1000000 < msg.msgLen
    · rw [if_pos h]
      refine .pure (iff_of_true (rx.safeTrace_nil _ _) (.inr (.inl (.inr ?_))))
      rcases h with h | h
      · exact .inl h
      · exact .inr (.inl h)
    -- a length inside the bounds leaves the notifier and the header to be looked at
    · rw [if_neg h]
      intro trace htrace
      refine (rx.dispatchBuffer_safeTrace_iff hn ocudu now hbuf hid hk trace htrace).trans ?_
      have hshort : buf.length < kind.headerLength ↔ msg.msgLen < kind.headerLength := by omega
      rw [not_or] at h
      simp only [Ignores, hbuf, reduceCtorEq, false_or, h.1, h.2, hshort, or_assoc]

/-- Every slot point that a message constructs is valid, and fields out of range are dropped without
a notifier call, for a SLOT.indication, an ignored message or wire fields in range, and for no other
message. -/
theorem dispatchMessage_valid_slotPoints (hn : rx.numerology ≤ 4) (ocudu : Ocudu) (now : Int)
    (kind : ScfMsgId) (msg : NvIpcMsg) (hid : ScfMsgId.ofCode msg.msgId = some kind)
    (hk : kind.CarriesSlot) :
    ∃ trace, rx.dispatchMessage ocudu now msg = .ok trace ∧
      (rx.SafeTrace kind msg trace ↔
        kind = .slotIndication ∨ rx.Ignores kind msg ∨ rx.InRange kind msg) := by
  obtain ⟨trace, htrace⟩ := dispatchMessage_succeeds rx ocudu now msg
  exact ⟨trace, htrace, rx.dispatchMessage_safeTrace_iff hn ocudu now hid hk trace htrace⟩

/-- The last slot of a hyper frame at 30 kHz. -/
theorem dispatchMessage_valid_slotPoints_last :
    ∃ trace, RxThread.dispatchMessage ⟨1, true, true, true, true⟩ exampleOcudu 0
        ⟨0x86, 0, some [1, 0, 0x86, 0, 6, 0, 0, 0, 0xFF, 3, 19, 0, 0, 0], 14, false, 0, by simp⟩ =
          .ok trace ∧ ∀ sp ∈ slotPoints trace, sp.Valid := by
  obtain ⟨trace, htrace, hsafe⟩ := dispatchMessage_valid_slotPoints ⟨1, true, true, true, true⟩
    (by decide) exampleOcudu 0 .crcIndication
    ⟨0x86, 0, some [1, 0, 0x86, 0, 6, 0, 0, 0, 0xFF, 3, 19, 0, 0, 0], 14, false, 0, by simp⟩
    (by decide) trivial
  refine ⟨trace, htrace, (hsafe.mpr (.inr (.inr ?_))).1⟩
  simp only [InRange, Option.mem_some_iff, forall_eq']
  decide

/-- A CRC.indication of SFN 1024 constructs a slot point outside the hyper frame. -/
theorem dispatchMessage_invalid_slotPoint :
    ¬ ∀ (rx : RxThread) (ocudu : Ocudu) (now : Int) (kind : ScfMsgId) (msg : NvIpcMsg),
      rx.numerology ≤ 4 → ScfMsgId.ofCode msg.msgId = some kind → kind.CarriesSlot →
      ∀ trace, rx.dispatchMessage ocudu now msg = .ok trace → rx.SafeTrace kind msg trace := by
  intro h
  have hsafe := h ⟨1, true, true, true, true⟩ exampleOcudu 0 .crcIndication
    ⟨0x86, 0, some [1, 0, 0x86, 0, 6, 0, 0, 0, 0, 4, 0, 0, 0, 0], 14, false, 0, by simp⟩
    (by decide) (by decide) trivial [.slotPoint ⟨1, 1024, 0⟩] rfl
  exact absurd (hsafe.1 ⟨1, 1024, 0⟩ List.mem_cons_self) (by decide)

end RxThread

end AerialBridge
