import AerialBridge.Indication.Traces
import AerialBridge.RxThread.Dispatch

/-!
# Whom a message is for

The RX thread keeps a pointer to one notifier of each kind.  A message is for one of them by its id,
and whatever it holds, it makes calls of that one only.
-/

namespace AerialBridge

open Bytes Bytes.Parser

/-- The pointers that the RX thread keeps. -/
inductive NotifierKind
  | slotNotifier
  | indNotifier
  | errorNotifier
  | p5Notifier
  deriving DecidableEq, Repr

/-- Whose member function a call is. -/
def Notification.kind : Notification → NotifierKind
  | onSlotIndication _ => .slotNotifier
  | onCrcIndication _ _ | onRxDataIndication _ _ | onRachIndication _ _ | onUciIndication _ _
  | onSrsIndication _ _ => .indNotifier
  | onErrorIndication _ _ _ => .errorNotifier
  | onParamResponse _ | onConfigResponse _ | onStopIndication => .p5Notifier

/-- The notifier that is told of a message. -/
def ScfMsgId.told : ScfMsgId → Option NotifierKind
  | slotIndication => some .slotNotifier
  | crcIndication | rxDataIndication | uciIndication | rachIndication | srsIndication =>
      some .indNotifier
  | errorIndication => some .errorNotifier
  | paramResponse | configResponse | stopIndication => some .p5Notifier
  | _ => none

def NvIpcMsg.told (msg : NvIpcMsg) : Option NotifierKind :=
  (ScfMsgId.ofCode msg.msgId).bind ScfMsgId.told

/-! ## Calls of one kind -/

/-- All calls of the trace are of one kind. -/
def Tells (k : NotifierKind) (trace : List Effect) : Prop :=
  ∀ call ∈ notifications trace, call.kind = k

namespace Tells

variable {k : NotifierKind}

theorem of_nil {trace : List Effect} (h : notifications trace = []) : Tells k trace := by
  intro call hcall
  rw [h] at hcall
  cases hcall

theorem of_single {trace : List Effect} {call : Notification} (h : notifications trace = [call])
    (hk : call.kind = k) : Tells k trace := by
  intro call' hcall'
  rw [h] at hcall'
  rw [List.mem_singleton.mp hcall', hk]

theorem append {xs ys : List Effect} (hx : Tells k xs) (hy : Tells k ys) : Tells k (xs ++ ys) := by
  intro call hcall
  rw [notifications_append] at hcall
  exact (List.mem_append.mp hcall).elim (hx call) (hy call)

end Tells

/-- A decoder tells the indications notifier when each of its turns does. -/
theorem dispatchPdus_tells {σ : Type} {count : Parser Nat} {countSize : Nat} {buf : List UInt8}
    {numerology : Nat} {start : Nat → σ} {turn : SlotPoint → σ → Except ReadFault (Turn σ Effect)}
    (hturn : ∀ sp s, Ensures (turn sp s) fun t ↦ Tells .indNotifier t.out) :
    Ensures (dispatchPdus count countSize buf numerology start turn) (Tells .indNotifier) :=
  dispatchPdus_ensures (.of_nil rfl) (fun _ _ ↦ .append) (fun _ ↦ .of_nil rfl) hturn

section

variable (ocudu : Ocudu) (buf : List UInt8) (numerology : Nat)

theorem dispatchCrcIndication_tells :
    Ensures (dispatchCrcIndication buf numerology) (Tells .indNotifier) :=
  dispatchPdus_tells fun sp p t ht ↦
    of_out (.of_nil rfl) (fun _ ↦ .of_single rfl rfl) (crcTurn_out buf sp p t ht)

theorem dispatchRxDataIndication_tells (hasData : Bool) (dataLen : Nat) :
    Ensures (dispatchRxDataIndication buf hasData dataLen numerology) (Tells .indNotifier) := by
  refine dispatchPdus_tells fun sp c t ht ↦ ?_
  rcases rxDataTurn_out buf hasData dataLen sp c t ht with hnil | ⟨pdu, pduLen, hout, _⟩
  · rw [hnil]
    exact .of_nil rfl
  · rw [hout]
    exact .of_single rfl rfl

theorem dispatchRachIndication_tells :
    Ensures (dispatchRachIndication ocudu buf numerology) (Tells .indNotifier) :=
  dispatchPdus_tells fun sp p t ht ↦
    of_out (.of_nil rfl) (fun _ ↦ .of_single rfl rfl) (rachTurn_out ocudu buf sp p t ht)

theorem dispatchSrsIndication_tells :
    Ensures (dispatchSrsIndication ocudu buf numerology) (Tells .indNotifier) :=
  dispatchPdus_tells fun sp p t ht ↦
    of_out (.of_nil rfl) (fun _ ↦ .of_single rfl rfl) (srsTurn_out ocudu buf sp p t ht)

theorem dispatchUciIndication_tells :
    Ensures (dispatchUciIndication ocudu buf numerology) (Tells .indNotifier) := by
  refine dispatchPdus_tells fun sp p t ht ↦ ?_
  rcases uciTurn_out ocudu buf sp p t ht with hnil | ⟨lines, pdu, fmt, hlines, hout⟩
  · rw [hnil]
    exact .of_nil rfl
  · rw [hout]
    exact .append (.of_nil hlines.notifications) (.of_single rfl rfl)

end

namespace RxThread

variable (rx : RxThread)

theorem dispatchSlot_tells (now : Int) (buf : List UInt8) :
    Ensures (rx.dispatchSlot now buf) (Tells .slotNotifier) := by
  unfold dispatchSlot
  refine .ite (.pure (.of_nil rfl)) (.bind (.trivial _) fun _ _ ↦ .bind (.trivial _) fun slot _ ↦ ?_)
  cases slot with
  | none => exact .pure (.of_nil rfl)
  | some _ => exact .pure (.of_single rfl rfl)

theorem dispatchParamResponse_tells (buf : List UInt8) :
    Ensures (rx.dispatchParamResponse buf) (Tells .p5Notifier) :=
  .ite (.bind (.trivial _) fun _ _ ↦ .pure (.of_single rfl rfl)) (.pure (.of_nil rfl))

theorem logConfigResponseInvalid_silent (errorCode : UInt8) (buf : List UInt8) :
    Ensures (logConfigResponseInvalid errorCode buf) fun trace ↦ notifications trace = [] :=
  .ite (.bind (.trivial _) fun _ _ ↦ .pure rfl) (.pure rfl)

theorem dispatchConfigResponse_tells (buf : List UInt8) :
    Ensures (rx.dispatchConfigResponse buf) (Tells .p5Notifier) := by
  unfold dispatchConfigResponse
  refine .ite (.bind (.trivial _) fun errorCode _ ↦
    .bind (logConfigResponseInvalid_silent errorCode buf) fun invalid hinvalid ↦ .pure ?_)
    (.pure (.of_nil rfl))
  rw [List.cons_append, ← List.singleton_append]
  refine .append (.of_nil rfl) (.append (.of_nil hinvalid) ?_)
  cases rx.p5Notifier with
  | true => exact .of_single rfl rfl
  | false => exact .of_nil rfl

theorem dispatchErrorIndication_tells (buf : List UInt8) :
    Ensures (rx.dispatchErrorIndication buf) (Tells .errorNotifier) :=
  .ite (.bind (.trivial _) fun _ _ ↦ .bind (.trivial _) fun _ _ ↦ .bind (.trivial _) fun _ _ ↦
    .bind (.trivial _) fun _ _ ↦ .pure (.of_single rfl rfl)) (.pure (.of_nil rfl))

/-- A message is for one notifier, and makes calls only of that one. -/
theorem dispatchMessage_tells (ocudu : Ocudu) (now : Int) (msg : NvIpcMsg) :
    Ensures (rx.dispatchMessage ocudu now msg) fun trace ↦
      ∀ call ∈ notifications trace, msg.told = some call.kind := by
  -- what a decoder tells and what its message id stands for
  have hof {k : NotifierKind} {id : ScfMsgId} {x : Except ReadFault (List Effect)}
      (hid : ScfMsgId.ofCode msg.msgId = some id) (htold : id.told = some k)
      (h : Ensures x (Tells k)) :
      Ensures x fun trace ↦ ∀ call ∈ notifications trace, msg.told = some call.kind := by
    intro trace htrace call hcall
    rw [h trace htrace call hcall, NvIpcMsg.told, hid]
    exact htold
  have hsilent {trace : List Effect} (h : notifications trace = []) :
      ∀ call ∈ notifications trace, msg.told = some call.kind := by
    intro call hcall
    rw [h] at hcall
    cases hcall
  unfold dispatchMessage
  split
  · exact .pure (hsilent rfl)
  · next buf _ =>
    refine .ite (.pure (hsilent rfl)) ?_
    unfold dispatchBuffer
    split
    · next hid => exact hof hid rfl (rx.dispatchSlot_tells now buf)
    · next hid => exact .ite (hof hid rfl (dispatchCrcIndication_tells buf _)) (.pure (hsilent rfl))
    · next hid =>
      exact .ite (hof hid rfl (dispatchRxDataIndication_tells buf _ _ _)) (.pure (hsilent rfl))
    · next hid =>
      exact .ite (hof hid rfl (dispatchUciIndication_tells ocudu buf _)) (.pure (hsilent rfl))
    · next hid =>
      exact .ite (hof hid rfl (dispatchRachIndication_tells ocudu buf _)) (.pure (hsilent rfl))
    · next hid =>
      exact .ite (hof hid rfl (dispatchSrsIndication_tells ocudu buf _)) (.pure (hsilent rfl))
    · next hid => exact hof hid rfl (rx.dispatchParamResponse_tells buf)
    · next hid => exact hof hid rfl (rx.dispatchConfigResponse_tells buf)
    · next hid =>
      refine hof hid rfl (.pure ?_)
      cases rx.p5Notifier with
      | true => exact .of_single rfl rfl
      | false => exact .of_nil rfl
    · next hid => exact hof hid rfl (rx.dispatchErrorIndication_tells buf)
    · exact .pure (hsilent rfl)

end RxThread

end AerialBridge
