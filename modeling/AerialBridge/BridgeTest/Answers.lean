import AerialBridge.BridgeTest.Loop

/-!
# What the connection test answers

In every run each drained queue is answered by one pair of requests, once a SLOT.indication has been
seen, and both carry the slot that was seen last.  The first of the two is what the bridge writes
for an empty request; the second is three bytes shorter.
-/

namespace AerialBridge

open Bytes Bytes.Parser Transition

/-! ## What has been seen -/

namespace NvIpcMsg

def isSlotInd (msg : NvIpcMsg) : Bool := ScfMsgId.ofCode msg.msgId = some .slotIndication

def isErrorInd (msg : NvIpcMsg) : Bool := ScfMsgId.ofCode msg.msgId = some .errorIndication

/-- The SFN and the slot of a SLOT.indication. -/
def point (msg : NvIpcMsg) : UInt16 × UInt16 :=
  (wireSfn (msg.msgBuf.getD []), wireSlot (msg.msgBuf.getD []))

end NvIpcMsg

/-- The slot of the last SLOT.indication that is long enough to have one. -/
def lastPoint (msgs : List NvIpcMsg) : UInt16 × UInt16 :=
  ((msgs.filter fun msg ↦ msg.isSlotInd && decide (12 ≤ msg.msgLen)).getLast?.map
    NvIpcMsg.point).getD (0, 0)

/-- The counts behind these messages. -/
def BridgeTestCounts.seen (msgs : List NvIpcMsg) : BridgeTestCounts where
  slotCount := UInt32.ofNat (msgs.countP NvIpcMsg.isSlotInd)
  msgCount := UInt32.ofNat msgs.length
  errorCount := UInt32.ofNat (msgs.countP NvIpcMsg.isErrorInd)
  currentSfn := (lastPoint msgs).1
  currentSlot := (lastPoint msgs).2

theorem readAt_u16_ok {buf : List UInt8} {i : Nat} {value : UInt16}
    (h : readAt u16 buf i = .ok value) : value = peek16 buf i := by
  by_cases hlen : i + 2 ≤ buf.length
  · rw [readAt_u16 hlen] at h
    cases h
    rfl
  · exfalso
    -- fewer than two bytes are left
    have hdrop : (buf.drop i).length < 2 := by
      rw [List.length_drop]
      omega
    unfold readAt at h
    match hbytes : buf.drop i, hdrop with
    | [], _ => rw [hbytes] at h; cases h
    | [_], _ => rw [hbytes] at h; cases h
    | _ :: _ :: _, hlt => exact absurd hlt (by simp)

theorem lastPoint_concat (msgs : List NvIpcMsg) (msg : NvIpcMsg) :
    lastPoint (msgs ++ [msg]) =
      if msg.isSlotInd = true ∧ 12 ≤ msg.msgLen then msg.point else lastPoint msgs := by
  unfold lastPoint
  rw [List.filter_append]
  by_cases h : msg.isSlotInd = true ∧ 12 ≤ msg.msgLen
  · rw [if_pos h, List.filter_cons_of_pos (by simpa using h), List.filter_nil,
      List.getLast?_concat]
    rfl
  · rw [if_neg h, List.filter_cons_of_neg (by simpa using h), List.filter_nil, List.append_nil]

theorem BridgeTestCounts.seen_concat (msgs : List NvIpcMsg) (msg : NvIpcMsg) :
    seen (msgs ++ [msg]) = {
      slotCount := (seen msgs).slotCount + if msg.isSlotInd then 1 else 0
      msgCount := (seen msgs).msgCount + 1
      errorCount := (seen msgs).errorCount + if msg.isErrorInd then 1 else 0
      currentSfn := (lastPoint (msgs ++ [msg])).1
      currentSlot := (lastPoint (msgs ++ [msg])).2 } := by
  have hcount : ∀ p : NvIpcMsg → Bool, UInt32.ofNat ((msgs ++ [msg]).countP p) =
      UInt32.ofNat (msgs.countP p) + if p msg then 1 else 0 := by
    intro p
    rw [List.countP_append, List.countP_singleton, UInt32.ofNat_add]
    cases p msg with
    | true | false => rfl
  rw [seen, hcount, hcount, List.length_append, UInt32.ofNat_add]
  rfl

theorem BridgeTestCounts.seen_other {msgs : List NvIpcMsg} {msg : NvIpcMsg}
    (hslot : msg.isSlotInd = false) (herror : msg.isErrorInd = false) :
    seen (msgs ++ [msg]) = { seen msgs with msgCount := (seen msgs).msgCount + 1 } := by
  have hnot : ¬ (msg.isSlotInd = true ∧ 12 ≤ msg.msgLen) := by simp [hslot]
  rw [seen_concat, lastPoint_concat, if_neg hnot, hslot, herror]
  simp [seen]

/-- The counts are those of all messages that have been handled. -/
theorem BridgeTestCounts.onMessage_seen {msgs : List NvIpcMsg} {msg : NvIpcMsg}
    {c : BridgeTestCounts} {lines : List BridgeTestLine}
    (h : (seen msgs).onMessage msg = .ok (c, lines)) : c = seen (msgs ++ [msg]) := by
  have hslot : ∀ id, ScfMsgId.ofCode msg.msgId = id →
      msg.isSlotInd = decide (id = some .slotIndication) := by
    intro id hid
    rw [NvIpcMsg.isSlotInd, hid]
  have herror : ∀ id, ScfMsgId.ofCode msg.msgId = id →
      msg.isErrorInd = decide (id = some .errorIndication) := by
    intro id hid
    rw [NvIpcMsg.isErrorInd, hid]
  unfold onMessage at h
  dsimp only at h
  split at h
  · next hid =>
    rw [seen_concat, lastPoint_concat, hslot _ hid, herror _ hid]
    -- a shorter message is counted, but leaves the point as it was
    by_cases hlen : 12 ≤ msg.msgLen
    · rw [if_pos hlen] at h
      cases hsfn : readAt u16 (msg.msgBuf.getD []) 8 with
      | error fault => rw [hsfn] at h; cases h
      | ok sfn =>
          rw [hsfn, ok_bind] at h
          cases hs : readAt u16 (msg.msgBuf.getD []) 10 with
          | error fault => rw [hs] at h; cases h
          | ok slot =>
              rw [hs, ok_bind] at h
              cases h
              rw [readAt_u16_ok hsfn, readAt_u16_ok hs]
              simp [hlen, NvIpcMsg.point, wireSfn, wireSlot, seen]
    · rw [if_neg hlen] at h
      cases h
      simp [hlen, seen]
  · next hid =>
    cases h
    rw [seen_concat, lastPoint_concat, hslot _ hid, herror _ hid]
    simp [seen]
  · next hid =>
    cases h
    rw [seen_other (hslot _ hid) (herror _ hid)]
  · next hid =>
    cases h
    rw [seen_other (hslot _ hid) (herror _ hid)]
  · next hid =>
    cases h
    rw [seen_other (hslot _ hid) (herror _ hid)]
  · next hnot hnotError _ _ _ =>
    cases h
    have hslot' : msg.isSlotInd = false := decide_eq_false hnot
    have herror' : msg.isErrorInd = false := decide_eq_false hnotError
    rw [seen_other hslot' herror']

/-- An indication that L1 sends with a buffer is handled. -/
theorem BridgeTestCounts.onMessage_succeeds (c : BridgeTestCounts) {msg : NvIpcMsg}
    (hbuf : msg.msgBuf.isSome = true) : Succeeds (c.onMessage msg) := by
  obtain ⟨buf, hbuf⟩ := Option.isSome_iff_exists.mp hbuf
  have hlen := msg.msgBuf_length buf hbuf
  unfold onMessage
  dsimp only
  split
  · refine .ite (fun h ↦ ?_) fun _ ↦ .pure _
    rw [hbuf, Option.getD_some]
    exact .bind (readAt_fixed .u16 (by omega)) fun sfn _ ↦
      .bind (readAt_fixed .u16 (by omega)) fun slot _ ↦ .pure _
  all_goals exact .pure _

/-! ## The requests -/

/-- SFN, slot, and two counts that are zero. -/
def emptyBody (point : UInt16 × UInt16) : List UInt8 := le16 point.1 ++ (le16 point.2 ++ [0, 0])

/-- Nothing of the buffer's old bytes is sent. -/
theorem BridgeTestCounts.emptyRequest_eq (c : BridgeTestCounts) (typeId : ScfMsgId) (buf : Mem) :
    c.emptyRequest typeId buf =
      framed 0 typeId.code (emptyBody (c.currentSfn, c.currentSlot)) := rfl

/-- The requests without PDUs that OCUDU could make for the slot. -/
def emptyDlTti (point : UInt16 × UInt16) : DlTtiRequest := ⟨⟨1, point.1, point.2⟩, []⟩

def emptyUlTti (point : UInt16 × UInt16) : UlTtiRequest := ⟨⟨1, point.1, point.2⟩, []⟩

/-- The bridge itself writes the same for an empty DL_TTI.request. -/
theorem emptyBody_dlTti (point : UInt16 × UInt16) :
    framed 0 ScfMsgId.dlTtiRequest.code (emptyBody point) =
      (emptyDlTti point).encoding false 0 := rfl

/-- `scf_ul_tti_req` has five counts behind the slot, of which two are there. -/
theorem emptyBody_ulTti (point : UInt16 × UInt16) :
    (framed 0 ScfMsgId.ulTtiRequest.code (emptyBody point)).length + 3 =
      ((emptyUlTti point).encoding 0).length := rfl

/-! ## The log of a run -/

def receivedBy (log : List BridgeTestEvent) : List NvIpcMsg :=
  log.filterMap fun e ↦ match e with
    | .recv msg => msg
    | _ => none

def releasedBy (log : List BridgeTestEvent) : List NvIpcMsg :=
  log.filterMap fun e ↦ match e with
    | .release msg _ => some msg
    | _ => none

namespace BridgeTestEvents

variable (before : List BridgeTestEvent)

/-- A SLOT.indication has been seen, as far as the counter knows. -/
def SlotSeen : Prop := (BridgeTestCounts.seen (releasedBy before)).slotCount ≠ 0

/-- The last drained queue has its answer, or needs none. -/
def Settled : Prop :=
  match before.getLast? with
  | none | some .semPost => True
  | some (.recv none) => ¬ SlotSeen before
  | _ => False

/-- The next message may be taken. -/
def Draining : Prop :=
  match before.getLast? with
  | some .semWake | some (.release _ _) => True
  | _ => False

/-- `send_empty_request` has come to its end, with or without a buffer. -/
def Requested (typeId : ScfMsgId) : Prop :=
  match before.getLast? with
  | some (.allocate typeId' granted) => typeId' = typeId ∧ granted = false
  | some (.sent typeId' _) => typeId' = typeId
  | _ => False

/-- Which event may follow which.  A drained queue is followed by one pair of requests as soon as a
SLOT.indication has been seen; what they carry is the slot seen last. -/
def Permits : BridgeTestEvent → Prop
  | .semWake => Settled before
  | .recv _ => Draining before
  | .release msg _ => before.getLast? = some (.recv (some msg))
  | .allocate .dlTtiRequest _ => before.getLast? = some (.recv none) ∧ SlotSeen before
  | .sent .dlTtiRequest bytes => before.getLast? = some (.allocate .dlTtiRequest true) ∧
      bytes = (emptyDlTti (lastPoint (releasedBy before))).encoding false 0
  | .allocate .ulTtiRequest _ => Requested before .dlTtiRequest
  | .sent .ulTtiRequest bytes => before.getLast? = some (.allocate .ulTtiRequest true) ∧
      bytes = framed 0 ScfMsgId.ulTtiRequest.code (emptyBody (lastPoint (releasedBy before))) ∧
      bytes.length + 3 = ((emptyUlTti (lastPoint (releasedBy before))).encoding 0).length
  | .semPost => Requested before .ulTtiRequest
  | .allocate _ _ | .sent _ _ => False

end BridgeTestEvents

open BridgeTestEvents

/-- What has just been done when `main` stands here. -/
def BridgeTestPc.After (log : List BridgeTestEvent) : BridgeTestPc → Prop
  | .testRunning | .waiting => Settled log
  | .retestRunning => log.getLast? = some .semWake
  | .recv => Draining log
  | .handle msg => log.getLast? = some (.recv (some msg))
  | .sendDlTti => log.getLast? = some (.recv none) ∧ SlotSeen log
  | .sendUlTti => Requested log .dlTtiRequest
  | .post => Requested log .ulTtiRequest
  | .ended => True

def BridgeTestPc.held : BridgeTestPc → List NvIpcMsg
  | .handle msg => [msg]
  | _ => []

namespace BridgeTestState

structure Follows (s : BridgeTestState) : Prop where
  counts : s.counts = .seen (releasedBy s.log)
  received : receivedBy s.log = releasedBy s.log ++ s.pc.held
  admissible : Admissible Permits s.log
  after : s.pc.After s.log

theorem receivedBy_concat (log : List BridgeTestEvent) (e : BridgeTestEvent) :
    receivedBy (log ++ [e]) = receivedBy log ++ receivedBy [e] := List.filterMap_append

theorem releasedBy_concat (log : List BridgeTestEvent) (e : BridgeTestEvent) :
    releasedBy (log ++ [e]) = releasedBy log ++ releasedBy [e] := List.filterMap_append

variable {s t : BridgeTestState}

theorem Follows.keep (h : s.Follows) (hheld : t.pc.held = s.pc.held)
    (hafter : t.pc.After s.log) (hcounts : t.counts = s.counts) (hlog : t.log = s.log) :
    t.Follows := by
  constructor
  · rw [hcounts, hlog, h.counts]
  · rw [hlog, h.received, hheld]
  · rw [hlog]
    exact h.admissible
  · rw [hlog]
    exact hafter

/-- One event more, which takes and releases nothing. -/
theorem Follows.event (h : s.Follows) {e : BridgeTestEvent} (he : Permits s.log e)
    (hreceived : receivedBy [e] = []) (hreleased : releasedBy [e] = [])
    (hheld : t.pc.held = s.pc.held) (hafter : t.pc.After (s.log ++ [e]))
    (hcounts : t.counts = s.counts) (hlog : t.log = s.log ++ [e]) : t.Follows := by
  have hrel : releasedBy t.log = releasedBy s.log := by
    rw [hlog, releasedBy_concat, hreleased, List.append_nil]
  constructor
  · rw [hcounts, hrel, h.counts]
  · rw [hrel, hlog, receivedBy_concat, hreceived, List.append_nil, h.received, hheld]
  · rw [hlog]
    exact h.admissible.concat he
  · rw [hlog]
    exact hafter

/-- `send_empty_request` between two places where no message is in hand. -/
theorem Follows.request (h : s.Follows) {typeId : ScfMsgId}
    (hallocate : ∀ granted, Permits s.log (.allocate typeId granted))
    (hsent : ∀ buf, Permits (s.log ++ [.allocate typeId true])
      (.sent typeId (s.counts.emptyRequest typeId buf)))
    (hheld : t.pc.held = s.pc.held) (hafter : ∀ log, Requested log typeId → t.pc.After log)
    (hcounts : t.counts = s.counts) (buf : Option Mem)
    (hlog : t.log = s.log ++ s.sendEmptyRequest typeId buf) : t.Follows := by
  have hrel : releasedBy t.log = releasedBy s.log := by
    rw [hlog, releasedBy, List.filterMap_append]
    cases buf with
    | none | some _ => exact List.append_nil _
  have hrec : receivedBy t.log = receivedBy s.log := by
    rw [hlog, receivedBy, List.filterMap_append]
    cases buf with
    | none | some _ => exact List.append_nil _
  constructor
  · rw [hcounts, hrel, h.counts]
  · rw [hrec, hrel, hheld, h.received]
  · rw [hlog]
    cases buf with
    | none => exact h.admissible.concat (hallocate false)
    | some buf =>
        -- the allocation first, then what is sent
        have htwo := (h.admissible.concat (hallocate true)).concat (hsent buf)
        rw [List.append_assoc] at htwo
        exact htwo
  · apply hafter
    rw [hlog]
    cases buf with
    | none | some _ => simp [Requested, sendEmptyRequest]

/-- The pair of requests carries the slot of the last message that has been released. -/
theorem Follows.point (h : s.Follows) :
    (s.counts.currentSfn, s.counts.currentSlot) = lastPoint (releasedBy s.log) := by
  rw [h.counts]
  rfl

theorem Follows.permits_sent (h : s.Follows) {typeId : ScfMsgId}
    (hkind : typeId = .dlTtiRequest ∨ typeId = .ulTtiRequest) (buf : Mem) :
    Permits (s.log ++ [.allocate typeId true])
      (.sent typeId (s.counts.emptyRequest typeId buf)) := by
  have hrel : releasedBy (s.log ++ [.allocate typeId true]) = releasedBy s.log := by
    rw [releasedBy_concat]
    exact List.append_nil _
  have hlast : (s.log ++ [BridgeTestEvent.allocate typeId true]).getLast? =
      some (.allocate typeId true) := List.getLast?_concat
  rw [BridgeTestCounts.emptyRequest_eq, h.point]
  rcases hkind with rfl | rfl
  · refine ⟨hlast, ?_⟩
    rw [hrel]
    exact emptyBody_dlTti _
  · refine ⟨hlast, ?_, ?_⟩
    · rw [hrel]
    · rw [hrel]
      exact emptyBody_ulTti _

theorem main_follows {wakes : Bool} {got : Option NvIpcMsg} {buf : Option Mem} (h : s.Follows)
    (hstep : s.main wakes got buf = some t) : t.Follows := by
  obtain ⟨pc, running, counts, log⟩ := s
  have hafter := h.after
  cases pc with
  | testRunning =>
      cases hstep
      cases running with
      | true => exact h.keep rfl hafter rfl rfl
      | false => exact h.keep rfl trivial rfl rfl
  | waiting =>
      simp only [main, Option.ite_none_right_eq_some] at hstep
      cases hstep.2
      have hpermits : Permits log .semWake := hafter
      exact h.event hpermits rfl rfl rfl List.getLast?_concat rfl rfl
  | retestRunning =>
      cases hstep
      change log.getLast? = some .semWake at hafter
      cases running with
      | true => exact h.keep rfl (by simp [BridgeTestPc.After, Draining, hafter]) rfl rfl
      | false => exact h.keep rfl trivial rfl rfl
  | recv =>
      have hpermits : ∀ msg, Permits log (.recv msg) := fun _ ↦ hafter
      cases got with
      | none =>
          cases hstep
          -- the counter decides whether the drained queue is answered
          have hrel : releasedBy (log ++ [.recv none]) = releasedBy log := by
            rw [releasedBy_concat]
            exact List.append_nil _
          have hcounts : counts = .seen (releasedBy log) := h.counts
          by_cases hseen : 0 < counts.slotCount
          · refine h.event (hpermits none) rfl rfl ?_ ?_ rfl rfl
            · rw [if_pos hseen]
              rfl
            · rw [if_pos hseen]
              refine ⟨List.getLast?_concat, ?_⟩
              rw [SlotSeen, hrel, ← hcounts]
              exact (UInt32.ne_of_lt hseen).symm
          · refine h.event (hpermits none) rfl rfl ?_ ?_ rfl rfl
            · rw [if_neg hseen]
              rfl
            · rw [if_neg hseen]
              have hzero : counts.slotCount = 0 := by
                apply UInt32.toNat_inj.mp
                have hlt := mt UInt32.lt_iff_toNat_lt.mpr hseen
                exact Nat.le_zero.mp (Nat.not_lt.mp hlt)
              have hnot : ¬ SlotSeen (log ++ [.recv none]) := by
                rw [SlotSeen, hrel, ← hcounts]
                exact not_not.mpr hzero
              simpa [BridgeTestPc.After, Settled] using hnot
      | some msg =>
          cases hstep
          have hrel : releasedBy (log ++ [.recv (some msg)]) = releasedBy log := by
            rw [releasedBy_concat]
            exact List.append_nil _
          constructor
          · exact h.counts.trans (congrArg _ hrel.symm)
          · rw [receivedBy_concat, h.received, hrel]
            exact congrArg (· ++ [msg]) (List.append_nil _)
          · exact h.admissible.concat (hpermits (some msg))
          · exact List.getLast?_concat
  | handle msg =>
      cases hmessage : counts.onMessage msg with
      | error fault =>
          simp only [main, hmessage] at hstep
          cases hstep
      | ok result =>
          obtain ⟨counts', lines⟩ := result
          simp only [main, hmessage] at hstep
          cases hstep
          have hcounts : counts = .seen (releasedBy log) := h.counts
          rw [hcounts] at hmessage
          have hrel : releasedBy (log ++ [.release msg lines]) = releasedBy log ++ [msg] :=
            releasedBy_concat log (.release msg lines)
          have hpermits : Permits log (.release msg lines) := hafter
          constructor
          · rw [hrel]
            exact BridgeTestCounts.onMessage_seen hmessage
          · have hreceived : receivedBy log = releasedBy log ++ [msg] := h.received
            rw [receivedBy_concat, hreceived, hrel]
            rfl
          · exact h.admissible.concat hpermits
          · simp [BridgeTestPc.After, Draining]
  | sendDlTti =>
      cases hstep
      have hpermits : ∀ granted, Permits log (.allocate .dlTtiRequest granted) := fun _ ↦ hafter
      exact h.request hpermits (h.permits_sent (.inl rfl)) rfl (fun _ ↦ id) rfl buf rfl
  | sendUlTti =>
      cases hstep
      have hpermits : ∀ granted, Permits log (.allocate .ulTtiRequest granted) := fun _ ↦ hafter
      exact h.request hpermits (h.permits_sent (.inr rfl)) rfl (fun _ ↦ id) rfl buf rfl
  | post =>
      cases hstep
      have hpermits : Permits log .semPost := hafter
      exact h.event hpermits rfl rfl rfl (by simp [BridgeTestPc.After, Settled]) rfl rfl
  | ended => cases hstep

theorem step_follows {l : BridgeTestLabel} (h : s.Follows) (hstep : s.step l = some t) :
    t.Follows := by
  cases l with
  | main wakes got buf => exact main_follows h hstep
  | signal =>
      cases hstep
      exact h.keep rfl h.after rfl rfl

theorem init_follows : init.Follows where
  counts := rfl
  received := rfl
  admissible := .nil
  after := trivial

/-- Whatever nvIPC answers, the log follows the protocol: each drained queue is answered by one
DL_TTI.request and one UL_TTI.request, once a SLOT.indication has been seen and as far as buffers are
granted; both are for the slot seen last, the first as the bridge writes an empty request and the
second three bytes short of it.  Each message that is received is counted and released once, in
order; as long as they have buffers, only the semaphore can hold `main` up. -/
theorem bridgeTest_answers {ls : List BridgeTestLabel} (h : Run step Anywhere init ls s) :
    Admissible Permits s.log ∧ s.counts = .seen (releasedBy s.log) ∧
      receivedBy s.log = releasedBy s.log ++ s.pc.held ∧
      ((∀ msg ∈ receivedBy s.log, msg.msgBuf.isSome = true) → ∀ got buf,
        (s.main true got buf).isSome = true ∨ s.pc = .ended) := by
  have hfollows : s.Follows :=
    h.invariant (fun _ _ _ hs _ hstep ↦ step_follows hs hstep) init_follows
  refine ⟨hfollows.admissible, hfollows.counts, hfollows.received, fun hbufs got buf ↦ ?_⟩
  have hreceived := hfollows.received
  obtain ⟨pc, running, counts, log⟩ := s
  cases pc with
  | testRunning | waiting | retestRunning | sendDlTti | sendUlTti | post => exact .inl rfl
  | recv =>
      cases got with
      | none | some _ => exact .inl rfl
  | handle msg =>
      have hmem : msg ∈ receivedBy log := by
        rw [hreceived]
        exact List.mem_append_right _ List.mem_cons_self
      obtain ⟨result, hresult⟩ := counts.onMessage_succeeds (hbufs msg hmem)
      exact .inl (by simp only [main, hresult, Option.isSome_some])
  | ended => exact .inr rfl

section Example

/-- A SLOT.indication of SFN 5 and slot 3. -/
def slotIndication53 : NvIpcMsg where
  msgId := 0x82
  cellId := 0
  msgBuf := some [1, 0, 0x82, 0, 4, 0, 0, 0, 5, 0, 3, 0]
  msgLen := 12
  hasData := false
  dataLen := 0
  msgBuf_length := by
    intro buf hbuf
    cases hbuf
    rfl

/-- Wakeup, drain, and the answer, for the second half of which there is no buffer. -/
def slotAnswered : List BridgeTestLabel :=
  List.replicate 3 (BridgeTestLabel.main true none none) ++
    [BridgeTestLabel.main true (some slotIndication53) none] ++
    List.replicate 2 (BridgeTestLabel.main true none none) ++
    [BridgeTestLabel.main true none (some .zeros)] ++
    List.replicate 2 (BridgeTestLabel.main true none none)

theorem bridgeTest_answers_slot : ∃ s, Run step Anywhere init slotAnswered s ∧
    s.counts = ⟨1, 1, 0, 5, 3⟩ ∧ Admissible Permits [.semWake, .recv (some slotIndication53),
      .release slotIndication53 [.slotInd 1 5 3], .recv none, .allocate .dlTtiRequest true,
      .sent .dlTtiRequest [1, 0, 0x80, 0, 6, 0, 0, 0, 5, 0, 3, 0, 0, 0],
      .allocate .ulTtiRequest false, .semPost] := by
  have hrun : Run step Anywhere init slotAnswered
      ⟨.testRunning, true, ⟨1, 1, 0, 5, 3⟩, [.semWake, .recv (some slotIndication53),
        .release slotIndication53 [.slotInd 1 5 3], .recv none, .allocate .dlTtiRequest true,
        .sent .dlTtiRequest [1, 0, 0x80, 0, 6, 0, 0, 0, 5, 0, 3, 0, 0, 0],
        .allocate .ulTtiRequest false, .semPost]⟩ := .of_follow rfl
  exact ⟨_, hrun, rfl, (bridgeTest_answers hrun).1⟩

end Example

end BridgeTestState

end AerialBridge
