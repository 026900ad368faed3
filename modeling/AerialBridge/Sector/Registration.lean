import AerialBridge.RxThread.RunLoop
import AerialBridge.RxThread.Told

/-!
# Notifiers

All sector adaptors hand the notifiers that they are given to one RX thread, which keeps one pointer
of each kind and starts before there are any.  A call goes to the notifier that was registered last,
by whichever sector; the cell that a message names plays no part.
-/

namespace AerialBridge

open Bytes Bytes.Parser

/-- The setters of a sector's P5 and P7 adaptors. -/
inductive NotifierSetter
  | setP5ResponsesNotifier
  | setP5ErrorIndicationNotifier
  | setP7SlotIndicationNotifier
  | setP7ErrorIndicationNotifier
  | setP7IndicationsNotifier
  deriving DecidableEq, Repr

def NotifierSetter.kind : NotifierSetter → NotifierKind
  | setP5ResponsesNotifier => .p5Notifier
  | setP5ErrorIndicationNotifier | setP7ErrorIndicationNotifier => .errorNotifier
  | setP7SlotIndicationNotifier => .slotNotifier
  | setP7IndicationsNotifier => .indNotifier

/-! ## Listening -/

namespace RxThread

def listens (rx : RxThread) : NotifierKind → Bool
  | .slotNotifier => rx.slotNotifier
  | .indNotifier => rx.indNotifier
  | .errorNotifier => rx.errorNotifier
  | .p5Notifier => rx.p5Notifier

/-- An RX thread with all notifiers. -/
def listening (numerology : Nat) : RxThread := ⟨numerology, true, true, true, true⟩

/-- An RX thread without any. -/
def deaf (numerology : Nat) : RxThread := ⟨numerology, false, false, false, false⟩

theorem listening_listens (numerology : Nat) (k : NotifierKind) :
    (listening numerology).listens k = true := by
  cases k <;> rfl

theorem deaf_listens (numerology : Nat) (k : NotifierKind) :
    (deaf numerology).listens k = false := by
  cases k <;> rfl

variable (rx : RxThread)

/-- Nothing but the notifier that a message is for decides what is done with it. -/
theorem dispatchMessage_congr {rx rx' : RxThread} (hnumerology : rx.numerology = rx'.numerology)
    {msg : NvIpcMsg} (h : ∀ k, msg.told = some k → rx.listens k = rx'.listens k) (ocudu : Ocudu)
    (now : Int) : rx.dispatchMessage ocudu now msg = rx'.dispatchMessage ocudu now msg := by
  have hsame {k : NotifierKind} {id : ScfMsgId} (hid : ScfMsgId.ofCode msg.msgId = some id)
      (htold : id.told = some k) : rx.listens k = rx'.listens k := by
    apply h
    rw [NvIpcMsg.told, hid]
    exact htold
  unfold dispatchMessage
  split
  · rfl
  · next buf _ =>
    refine if_congr Iff.rfl rfl ?_
    unfold dispatchBuffer
    split
    · next hid =>
      have hslot : rx.slotNotifier = rx'.slotNotifier := hsame hid rfl
      rw [dispatchSlot, dispatchSlot, hslot, hnumerology]
    · next hid =>
      have hind : rx.indNotifier = rx'.indNotifier := hsame hid rfl
      rw [hind, hnumerology]
    · next hid =>
      have hind : rx.indNotifier = rx'.indNotifier := hsame hid rfl
      rw [hind, hnumerology]
    · next hid =>
      have hind : rx.indNotifier = rx'.indNotifier := hsame hid rfl
      rw [hind, hnumerology]
    · next hid =>
      have hind : rx.indNotifier = rx'.indNotifier := hsame hid rfl
      rw [hind, hnumerology]
    · next hid =>
      have hind : rx.indNotifier = rx'.indNotifier := hsame hid rfl
      rw [hind, hnumerology]
    · next hid =>
      have hp5 : rx.p5Notifier = rx'.p5Notifier := hsame hid rfl
      rw [dispatchParamResponse, dispatchParamResponse, hp5]
    · next hid =>
      have hp5 : rx.p5Notifier = rx'.p5Notifier := hsame hid rfl
      rw [dispatchConfigResponse, dispatchConfigResponse, hp5]
    · next hid =>
      have hp5 : rx.p5Notifier = rx'.p5Notifier := hsame hid rfl
      rw [hp5]
    · next hid =>
      have herror : rx.errorNotifier = rx'.errorNotifier := hsame hid rfl
      rw [dispatchErrorIndication, dispatchErrorIndication, herror, hnumerology]
    · rfl

theorem deaf_silent (numerology : Nat) (ocudu : Ocudu) (now : Int) (msg : NvIpcMsg) :
    Ensures ((deaf numerology).dispatchMessage ocudu now msg) fun trace ↦
      notifications trace = [] := by
  unfold dispatchMessage
  split
  · exact .pure rfl
  · next buf _ =>
    refine .ite (.pure rfl) ?_
    unfold dispatchBuffer
    split
    · rw [dispatchSlot, if_pos (.inl rfl)]
      exact .pure rfl
    -- no record is decoded for a notifier that is not there
    · exact .pure rfl
    · exact .pure rfl
    · exact .pure rfl
    · exact .pure rfl
    · exact .pure rfl
    · rw [dispatchParamResponse, if_neg fun h ↦ Bool.false_ne_true h.1]
      exact .pure rfl
    · refine .ite (.bind (.trivial _) fun errorCode _ ↦
        .bind (logConfigResponseInvalid_silent errorCode buf) fun invalid hinvalid ↦ .pure ?_)
        (.pure rfl)
      rw [List.cons_append, notifications_log, notifications_append, hinvalid]
      rfl
    · exact .pure rfl
    · rw [dispatchErrorIndication, if_neg fun h ↦ Bool.false_ne_true h.1]
      exact .pure rfl
    · exact .pure rfl

theorem calls_congr {rx rx' : RxThread} (hnumerology : rx.numerology = rx'.numerology)
    {msg : NvIpcMsg} (h : ∀ k, msg.told = some k → rx.listens k = rx'.listens k) (ocudu : Ocudu)
    (now : Int) : rx.calls ocudu now msg = rx'.calls ocudu now msg := by
  rw [calls, calls, dispatchMessage_congr hnumerology h]

/-- What holds of every trace holds of the calls. -/
theorem calls_ensures {P : List Notification → Prop} (hnil : P []) (ocudu : Ocudu) (now : Int)
    {msg : NvIpcMsg}
    (h : Ensures (rx.dispatchMessage ocudu now msg) fun trace ↦ P (notifications trace)) :
    P (rx.calls ocudu now msg) := by
  unfold calls
  split
  · next trace htrace => exact h trace htrace
  · exact hnil

theorem calls_told (ocudu : Ocudu) (now : Int) (msg : NvIpcMsg) :
    ∀ call ∈ rx.calls ocudu now msg, msg.told = some call.kind :=
  rx.calls_ensures (P := fun calls ↦ ∀ call ∈ calls, msg.told = some call.kind)
    (fun _ hcall ↦ by cases hcall) ocudu now (rx.dispatchMessage_tells ocudu now msg)

/-- Without the notifier that a message is for, no call is made. -/
theorem calls_of_silent (ocudu : Ocudu) (now : Int) {msg : NvIpcMsg}
    (h : ∀ k, msg.told = some k → rx.listens k = false) : rx.calls ocudu now msg = [] := by
  have hdeaf : rx.calls ocudu now msg = (deaf rx.numerology).calls ocudu now msg :=
    calls_congr (show rx.numerology = (deaf rx.numerology).numerology from rfl)
      (fun k htold ↦ (h k htold).trans (deaf_listens _ k).symm) ocudu now
  rw [hdeaf]
  exact (deaf rx.numerology).calls_ensures (P := fun calls ↦ calls = []) rfl ocudu now
    (deaf_silent rx.numerology ocudu now msg)

/-- Whichever notifiers there are, each is called as if all of them were there. -/
theorem calls_eq_filter (ocudu : Ocudu) (now : Int) (msg : NvIpcMsg) :
    rx.calls ocudu now msg =
      ((listening rx.numerology).calls ocudu now msg).filter fun call ↦ rx.listens call.kind := by
  by_cases h : ∃ k, msg.told = some k ∧ rx.listens k = false
  · obtain ⟨k, htold, hfalse⟩ := h
    have hsilent : rx.calls ocudu now msg = [] := rx.calls_of_silent ocudu now fun k' htold' ↦ by
      rw [← Option.some.inj (htold.symm.trans htold')]
      exact hfalse
    rw [hsilent, eq_comm, List.filter_eq_nil_iff]
    intro call hcall
    have hkind := (listening rx.numerology).calls_told ocudu now msg call hcall
    rw [← Option.some.inj (htold.symm.trans hkind), hfalse]
    exact Bool.false_ne_true
  · have hlistens (k : NotifierKind) (htold : msg.told = some k) : rx.listens k = true := by
      by_contra hfalse
      exact h ⟨k, htold, Bool.not_eq_true _ ▸ hfalse⟩
    have hsame : rx.calls ocudu now msg = (listening rx.numerology).calls ocudu now msg :=
      calls_congr (show rx.numerology = (listening rx.numerology).numerology from rfl)
        (fun k htold ↦ (hlistens k htold).trans (listening_listens _ k).symm) ocudu now
    rw [hsame, eq_comm, List.filter_eq_self]
    intro call hcall
    exact hlistens call.kind ((listening rx.numerology).calls_told ocudu now msg call hcall)

/-- The cell that a message names plays no part. -/
theorem calls_cellId (ocudu : Ocudu) (now : Int) (msg : NvIpcMsg) (cellId : Int) :
    rx.calls ocudu now { msg with cellId := cellId } = rx.calls ocudu now msg := by
  obtain ⟨msgId, cell, msgBuf, msgLen, hasData, dataLen, hlength⟩ := msg
  cases msgBuf with
  | none => rfl
  | some buf =>
    unfold calls dispatchMessage
    by_cases hlen : msgLen ≤ 0 ∨ 1000000 < msgLen
    · simp only [if_pos hlen]
    · simp only [if_neg hlen, dispatchBuffer]
      cases hid : ScfMsgId.ofCode msgId with
      -- the log names the cell
      | none => rfl
      | some id => cases id <;> rfl

end RxThread

/-! ## The adaptor -/

/-- A notifier is registered through the adaptor of a sector, or a message of L1 is dispatched. -/
inductive AdaptorEvent (N : Type)
  | register (cellId : Nat) (setter : NotifierSetter) (notifier : N)
  | message (msg : NvIpcMsg) (now : Int)

namespace AdaptorEvent

variable {N : Type}

/-- `get_sector_adaptor` has a sector for the cell, and its setter is one for this kind. -/
def registers (numCells : Nat) (k : NotifierKind) : AdaptorEvent N → Option N
  | register cellId setter notifier =>
      if cellId < numCells ∧ setter.kind = k then some notifier else none
  | message _ _ => none

def relabel (f : Int → Int) : AdaptorEvent N → AdaptorEvent N
  | register cellId setter notifier => register cellId setter notifier
  | message msg now => message { msg with cellId := f msg.cellId } now

end AdaptorEvent

/-- The RX thread's pointers, and the calls that have been made through them. -/
structure Notifiers (N : Type) where
  pointer : NotifierKind → Option N
  made : List (N × Notification)

section

variable {N : Type} (numCells numerology : Nat) (ocudu : Ocudu)

namespace Notifiers

def start : Notifiers N := ⟨fun _ ↦ none, []⟩

def rx (s : Notifiers N) : RxThread :=
  ⟨numerology, (s.pointer .slotNotifier).isSome, (s.pointer .indNotifier).isSome,
    (s.pointer .errorNotifier).isSome, (s.pointer .p5Notifier).isSome⟩

/-- The call, if its pointer is not null. -/
def call (s : Notifiers N) (c : Notification) : Option (N × Notification) :=
  (s.pointer c.kind).map fun notifier ↦ (notifier, c)

def handle (s : Notifiers N) : AdaptorEvent N → Option (Notifiers N)
  -- for any other cell `get_sector_adaptor` throws `std::out_of_range`
  | .register cellId setter notifier =>
      some (if cellId < numCells then
        { s with pointer := Function.update s.pointer setter.kind (some notifier) } else s)
  | .message msg now => do
      let made ← ((s.rx numerology).calls ocudu now msg).mapM s.call
      pure { s with made := s.made ++ made }

/-- One event after the other; a registration does not come between the test of a pointer and the
calls through it. -/
def handleAll (s : Notifiers N) (events : List (AdaptorEvent N)) : Option (Notifiers N) :=
  events.foldlM (fun s e ↦ handle numCells numerology ocudu s e) s

end Notifiers

/-- The notifier of a kind that was registered last. -/
def lastRegistered (history : List (AdaptorEvent N)) (k : NotifierKind) : Option N :=
  (history.filterMap (AdaptorEvent.registers numCells k)).getLast?

/-- Of all that a message has to say, what has somebody to say it to. -/
def told (history : List (AdaptorEvent N)) : AdaptorEvent N → List (N × Notification)
  | .register _ _ _ => []
  | .message msg now =>
      ((RxThread.listening numerology).calls ocudu now msg).filterMap fun c ↦
        (lastRegistered numCells history c.kind).map fun notifier ↦ (notifier, c)

def toldFrom (history : List (AdaptorEvent N)) : List (AdaptorEvent N) → List (N × Notification)
  | [] => []
  | e :: es => told numCells numerology ocudu history e ++ toldFrom (history ++ [e]) es

variable {numCells numerology ocudu}

theorem lastRegistered_append (history : List (AdaptorEvent N)) (e : AdaptorEvent N)
    (k : NotifierKind) :
    lastRegistered numCells (history ++ [e]) k =
      (e.registers numCells k).or (lastRegistered numCells history k) := by
  unfold lastRegistered
  rw [List.filterMap_append, List.getLast?_append]
  cases h : e.registers numCells k with
  | none => rw [List.filterMap_cons_none h]; rfl
  | some notifier => rw [List.filterMap_cons_some h]; rfl

theorem Notifiers.rx_listens (s : Notifiers N) (k : NotifierKind) :
    (s.rx numerology).listens k = (s.pointer k).isSome := by
  cases k <;> rfl

theorem mapM_filter_isSome {α β : Type} (f : α → Option β) (xs : List α) :
    (xs.filter fun x ↦ (f x).isSome).mapM f = some (xs.filterMap f) := by
  induction xs with
  | nil => rfl
  | cons x xs ih =>
    cases h : f x with
    | none => rw [List.filter_cons_of_neg (by simp [h]), List.filterMap_cons_none h, ih]
    | some y =>
      rw [List.filter_cons_of_pos (by simp [h]), List.filterMap_cons_some h, List.mapM_cons, h, ih]
      rfl

/-- One event: the pointers stay those of the notifiers registered last, and the calls are those
that have somebody to be made to. -/
theorem handle_lastRegistered (history : List (AdaptorEvent N)) (made : List (N × Notification))
    (e : AdaptorEvent N) :
    (⟨lastRegistered numCells history, made⟩ : Notifiers N).handle numCells numerology ocudu e =
      some ⟨lastRegistered numCells (history ++ [e]),
        made ++ told numCells numerology ocudu history e⟩ := by
  cases e with
  | register cellId setter notifier =>
    rw [Notifiers.handle, told, List.append_nil]
    congr 1
    by_cases hcell : cellId < numCells
    · rw [if_pos hcell]
      congr 1
      funext k
      rw [lastRegistered_append, AdaptorEvent.registers]
      by_cases hk : setter.kind = k
      · subst hk
        rw [if_pos ⟨hcell, rfl⟩, Function.update_self]
        rfl
      · rw [if_neg fun h ↦ hk h.2, Function.update_of_ne (Ne.symm hk)]
        rfl
    · -- there is no sector to register with
      rw [if_neg hcell]
      congr 1
      funext k
      rw [lastRegistered_append, AdaptorEvent.registers, if_neg fun h ↦ hcell h.1]
      rfl
  | message msg now =>
    have hpointer : lastRegistered numCells (history ++ [.message msg now]) =
        lastRegistered numCells history := by
      funext k
      exact lastRegistered_append history (.message msg now) k
    -- of all calls, those with a pointer are made, and each through its own
    have hcalls (s : Notifiers N) : ((s.rx numerology).calls ocudu now msg).mapM s.call =
        some (((RxThread.listening numerology).calls ocudu now msg).filterMap s.call) := by
      rw [RxThread.calls_eq_filter, ← mapM_filter_isSome]
      congr 1
      refine List.filter_congr fun c _ ↦ ?_
      rw [s.rx_listens, Notifiers.call, Option.isSome_map]
    rw [Notifiers.handle, hcalls, hpointer]
    rfl

theorem handleAll_lastRegistered (history : List (AdaptorEvent N))
    (made : List (N × Notification)) (events : List (AdaptorEvent N)) :
    (⟨lastRegistered numCells history, made⟩ : Notifiers N).handleAll numCells numerology ocudu
        events =
      some ⟨lastRegistered numCells (history ++ events),
        made ++ toldFrom numCells numerology ocudu history events⟩ := by
  induction events generalizing history made with
  | nil =>
    rw [toldFrom, List.append_nil, List.append_nil]
    rfl
  | cons e es ih =>
    have hhistory : history ++ e :: es = history ++ [e] ++ es := by simp
    rw [Notifiers.handleAll, List.foldlM_cons, handle_lastRegistered]
    show Notifiers.handleAll numCells numerology ocudu _ es = _
    rw [ih, toldFrom, hhistory, List.append_assoc made]

theorem lastRegistered_relabel (f : Int → Int) (history : List (AdaptorEvent N)) :
    lastRegistered numCells (history.map (AdaptorEvent.relabel f)) =
      lastRegistered numCells history := by
  funext k
  unfold lastRegistered
  rw [List.filterMap_map]
  congr 2
  funext e
  cases e <;> rfl

theorem toldFrom_relabel (f : Int → Int) (history events : List (AdaptorEvent N)) :
    toldFrom numCells numerology ocudu (history.map (AdaptorEvent.relabel f))
        (events.map (AdaptorEvent.relabel f)) =
      toldFrom numCells numerology ocudu history events := by
  induction events generalizing history with
  | nil => rfl
  | cons e es ih =>
    have hrest := ih (history ++ [e])
    rw [List.map_append, List.map_singleton] at hrest
    have htold : told numCells numerology ocudu (history.map (AdaptorEvent.relabel f))
        (e.relabel f) = told numCells numerology ocudu history e := by
      cases e with
      | register _ _ _ => rfl
      | message msg now =>
        rw [AdaptorEvent.relabel, told, told, RxThread.calls_cellId, lastRegistered_relabel]
    rw [List.map_cons, toldFrom, toldFrom, htold, hrest]

/-- However registrations through the sectors and messages follow on each other, no call is made
through a null pointer; each call that a message asks for is made to the notifier of its kind that
was registered last, by whichever sector, and is lost when there is none; and the cells that the
messages name could be any others. -/
theorem notifiers_lastRegistered (numCells numerology : Nat) (ocudu : Ocudu)
    (events : List (AdaptorEvent N)) :
    Notifiers.start.handleAll numCells numerology ocudu events =
        some ⟨lastRegistered numCells events, toldFrom numCells numerology ocudu [] events⟩ ∧
      ∀ f : Int → Int,
        Notifiers.start.handleAll numCells numerology ocudu (events.map (AdaptorEvent.relabel f)) =
          Notifiers.start.handleAll numCells numerology ocudu events := by
  have hrun (events : List (AdaptorEvent N)) :
      Notifiers.start.handleAll numCells numerology ocudu events =
        some ⟨lastRegistered numCells events, toldFrom numCells numerology ocudu [] events⟩ :=
    handleAll_lastRegistered [] [] events
  refine ⟨hrun events, fun f ↦ ?_⟩
  rw [hrun, hrun, lastRegistered_relabel]
  exact congrArg (fun made ↦ some (Notifiers.mk (lastRegistered numCells events) made))
    (toldFrom_relabel f [] events)

end

end AerialBridge
