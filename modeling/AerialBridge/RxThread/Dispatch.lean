import AerialBridge.Indication.Uci

/-!
# The receive thread's dispatcher

`rx_thread::dispatch_message`: one received nvIPC message, routed by its id to a decoder or, for the
P5 messages and the error indication, decoded in place.
-/

namespace AerialBridge

open Bytes Bytes.Parser

/-- `scf_msg_id`. -/
inductive ScfMsgId
  | paramRequest
  | paramResponse
  | configRequest
  | configResponse
  | startRequest
  | stopRequest
  | stopIndication
  | errorIndication
  | dlTtiRequest
  | ulTtiRequest
  | slotIndication
  | ulDciRequest
  | txDataRequest
  | rxDataIndication
  | crcIndication
  | uciIndication
  | srsIndication
  | rachIndication
  deriving DecidableEq, Repr

namespace ScfMsgId

def code : ScfMsgId → UInt16
  | paramRequest => 0x00
  | paramResponse => 0x01
  | configRequest => 0x02
  | configResponse => 0x03
  | startRequest => 0x04
  | stopRequest => 0x05
  | stopIndication => 0x06
  | errorIndication => 0x07
  | dlTtiRequest => 0x80
  | ulTtiRequest => 0x81
  | slotIndication => 0x82
  | ulDciRequest => 0x83
  | txDataRequest => 0x84
  | rxDataIndication => 0x85
  | crcIndication => 0x86
  | uciIndication => 0x87
  | srsIndication => 0x88
  | rachIndication => 0x89

def all : List ScfMsgId :=
  [paramRequest, paramResponse, configRequest, configResponse, startRequest, stopRequest,
    stopIndication, errorIndication, dlTtiRequest, ulTtiRequest, slotIndication, ulDciRequest,
    txDataRequest, rxDataIndication, crcIndication, uciIndication, srsIndication, rachIndication]

/-- The message kind a `switch` on the 32-bit id selects. -/
def ofCode (msgId : Int) : Option ScfMsgId := all.find? fun id ↦ (id.code.toNat : Int) == msgId

theorem ofCode_code (id : ScfMsgId) : ofCode id.code.toNat = some id := by
  cases id <;> decide

end ScfMsgId

/-- `nv_ipc_msg_t`: the message buffer, when there is one, holds `msg_len` bytes.  Of the data buffer
only its presence and the announced length matter here. -/
structure NvIpcMsg where
  msgId : Int
  cellId : Int
  msgBuf : Option (List UInt8)
  msgLen : Int
  hasData : Bool
  dataLen : Int
  msgBuf_length : ∀ buf ∈ msgBuf, buf.length = msgLen.toNat
  deriving DecidableEq

/-- The configured numerology and which of the four notifiers are registered. -/
structure RxThread where
  numerology : Nat
  slotNotifier : Bool
  indNotifier : Bool
  errorNotifier : Bool
  p5Notifier : Bool
  deriving DecidableEq, Repr

namespace RxThread

/-- The SLOT.indication is decoded from a local copy of at most 16 bytes. -/
def dispatchSlot (rx : RxThread) (now : Int) (buf : List UInt8) : Except ReadFault (List Effect) :=
  if !rx.slotNotifier ∨ buf.length < 12 then pure [] else do
    let localBuf ← readAt (bytes (if buf.length < 16 then buf.length else 16)) buf 0
    match ← deserializeSlotIndication localBuf rx.numerology now with
    | some (sp, ind) => pure [.slotPoint sp, .notify (.onSlotIndication ind)]
    | none => pure []

def dispatchParamResponse (rx : RxThread) (buf : List UInt8) : Except ReadFault (List Effect) :=
  if rx.p5Notifier ∧ 9 ≤ buf.length then do
    let errorCode ← readAt u8 buf 8
    pure [.notify (.onParamResponse errorCode)]
  else pure []

def logConfigResponseInvalid (errorCode : UInt8) (buf : List UInt8) :
    Except ReadFault (List Effect) :=
  if errorCode ≠ 0 ∧ 10 ≤ buf.length then do
    let numInvalid ← readAt u8 buf 9
    pure [.log .always (.configResponseInvalid numInvalid)]
  else pure []

def dispatchConfigResponse (rx : RxThread) (buf : List UInt8) : Except ReadFault (List Effect) :=
  if 9 ≤ buf.length then do
    let errorCode ← readAt u8 buf 8
    let invalid ← logConfigResponseInvalid errorCode buf
    pure (.log .always (.configResponse errorCode) :: invalid ++
      if rx.p5Notifier then [.notify (.onConfigResponse errorCode)] else [])
  else pure []

def dispatchErrorIndication (rx : RxThread) (buf : List UInt8) : Except ReadFault (List Effect) :=
  if rx.errorNotifier ∧ 14 ≤ buf.length then do
    let sfn ← readAt u16 buf 8
    let slot ← readAt u16 buf 10
    let sp : SlotPoint := ⟨rx.numerology, sfn, slot⟩
    let messageId ← readAt u8 buf 12
    let errorCode ← readAt u8 buf 13
    pure [.slotPoint sp, .notify (.onErrorIndication sp messageId errorCode)]
  else pure []

/-- The `switch` over the message id; `data_len` is widened from `int32_t` to `size_t`. -/
def dispatchBuffer (rx : RxThread) (ocudu : Ocudu) (now : Int) (msg : NvIpcMsg) (buf : List UInt8) :
    Except ReadFault (List Effect) :=
  match ScfMsgId.ofCode msg.msgId with
  | some .slotIndication => rx.dispatchSlot now buf
  | some .crcIndication =>
      if rx.indNotifier then dispatchCrcIndication buf rx.numerology else pure []
  | some .rxDataIndication =>
      if rx.indNotifier then
        dispatchRxDataIndication buf msg.hasData (msg.dataLen % 2 ^ 64).toNat rx.numerology
      else pure []
  | some .uciIndication =>
      if rx.indNotifier then dispatchUciIndication ocudu buf rx.numerology else pure []
  | some .rachIndication =>
      if rx.indNotifier then dispatchRachIndication ocudu buf rx.numerology else pure []
  | some .srsIndication =>
      if rx.indNotifier then dispatchSrsIndication ocudu buf rx.numerology else pure []
  | some .paramResponse => rx.dispatchParamResponse buf
  | some .configResponse => rx.dispatchConfigResponse buf
  | some .stopIndication => pure (if rx.p5Notifier then [.notify .onStopIndication] else [])
  | some .errorIndication => rx.dispatchErrorIndication buf
  | _ => pure [.log .always (.unknownMessage msg.msgId msg.cellId)]

def dispatchMessage (rx : RxThread) (ocudu : Ocudu) (now : Int) (msg : NvIpcMsg) :
    Except ReadFault (List Effect) :=
  match msg.msgBuf with
  | none => pure []
  | some buf =>
      if msg.msgLen ≤ 0 ∨ 1000000 < msg.msgLen then pure []
      else rx.dispatchBuffer ocudu now msg buf

end RxThread

end AerialBridge
