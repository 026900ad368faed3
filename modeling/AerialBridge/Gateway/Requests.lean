import AerialBridge.Bytes.Pointers
import AerialBridge.Request.TxDataPlacement
import AerialBridge.Request.Encoding
import AerialBridge.Sector.Tlv

/-!
# The request gateways

Each `send_*` function of `aerial_p5_gateway` and `aerial_p7_gateway` takes buffers from the
transport, writes its message through their pointers and hands them over.  The buffers lie side by
side in one shared memory; a request that fits them is the only thing that a message depends on, and
nothing outside its own buffers is written.
-/

namespace AerialBridge

open Bytes Bytes.Parser

/-- A buffer of the CPU_MSG or the CPU_DATA pool. -/
inductive Buf
  | cpuMsg (i : Nat)
  | cpuData (i : Nat)
  deriving DecidableEq, Repr

def Buf.size : Buf → Nat
  | .cpuMsg _ => 15000
  | .cpuData _ => 576000

/-- Where the buffers lie in the shared memory: no two of them overlap. -/
structure Layout where
  addr : Buf → Nat
  disjoint : ∀ b b', b ≠ b' → addr b + b.size ≤ addr b' ∨ addr b' + b'.size ≤ addr b

/-- The `nv_ipc_msg_t` that is handed to `tx_send`. -/
structure TxIpcMsg where
  msgId : UInt16
  cellId : UInt8
  msgLen : Int
  dataLen : Int
  msgBuf : Buf
  dataBuf : Option Buf
  deriving DecidableEq

/-- What L1 reads of a message. -/
structure L1Msg where
  msgId : UInt16
  cellId : UInt8
  bytes : List UInt8
  data : List UInt8

namespace TxIpcMsg

def bufs (w : TxIpcMsg) : List Buf := w.msgBuf :: w.dataBuf.toList

def read (l : Layout) (mem : Mem) (w : TxIpcMsg) : L1Msg where
  msgId := w.msgId
  cellId := w.cellId
  bytes := mem.load (l.addr w.msgBuf) w.msgLen.toNat
  data :=
    match w.dataBuf with
    | some b => mem.load (l.addr b) w.dataLen.toNat
    | none => []

end TxIpcMsg

/-- A call of one of the gateways' functions.  Nothing of the P5 requests is read. -/
inductive GatewayRequest
  | paramRequest
  | configRequest
  | startRequest
  | stopRequest
  | dlTtiRequest (msg : DlTtiRequest)
  | ulTtiRequest (msg : UlTtiRequest)
  | ulDciRequest (msg : UlDciRequest)
  | txDataRequest (msg : TxDataRequest)

/-! ## From `tx_allocate` to `tx_send` -/

/-- What a function does with the buffers `cpuMsg i` and `cpuData j`: the memory that it leaves, and
the message that it sends, or `none` where it releases the buffers instead. -/
abbrev Fill := Layout → Mem → Nat → Nat → Mem × Option TxIpcMsg

/-- A P5 request that is its header. -/
def sendBareRequest (msgId : ScfMsgId) : Fill := fun l mem i _ ↦
  let buf := l.addr (.cpuMsg i)
  (mem.through buf (writeHeaders (mem.seenFrom buf) 0 msgId.code 0),
    some ⟨msgId.code, 0, 8, 0, .cpuMsg i, none⟩)

def sendParamRequest : Fill := sendBareRequest .paramRequest

def sendStartRequest : Fill := sendBareRequest .startRequest

def sendStopRequest : Fill := sendBareRequest .stopRequest

/-- `send_config_request`, whose message is `sendConfigRequest`. -/
def fillConfigRequest : Fill := fun l mem i _ ↦
  let buf := l.addr (.cpuMsg i)
  let (f, msgLen) := sendConfigRequest (mem.seenFrom buf)
  (mem.through buf f, some ⟨ScfMsgId.configRequest.code, 0, msgLen, 0, .cpuMsg i, none⟩)

/-- A P7 request without data: a negative result of the serialiser gives the buffer back. -/
def sendSerialized (msgId : ScfMsgId) (serialize : Mem → SerializeResult) : Fill := fun l mem i _ ↦
  let buf := l.addr (.cpuMsg i)
  let r := serialize (mem.seenFrom buf)
  (mem.through buf r.buf,
    if r.ret < 0 then none else some ⟨msgId.code, 0, r.ret, 0, .cpuMsg i, none⟩)

def sendDlTtiRequest (forceTable0 : Bool) (msg : DlTtiRequest) : Fill :=
  sendSerialized .dlTtiRequest fun buf ↦ serializeDlTtiRequest forceTable0 msg buf 15000 0

def sendUlTtiRequest (msg : UlTtiRequest) : Fill :=
  sendSerialized .ulTtiRequest fun buf ↦ serializeUlTtiRequest msg buf 15000 0

def sendUlDciRequest (msg : UlDciRequest) : Fill :=
  sendSerialized .ulDciRequest fun buf ↦ serializeUlDciRequest msg buf 15000 0

/-- The only request with data.  Blocks are copied below `data_buf_len` only. -/
def sendTxDataRequest (msg : TxDataRequest) : Fill := fun l mem i j ↦
  let buf := l.addr (.cpuMsg i)
  let dataBuf := l.addr (.cpuData j)
  let r := serializeTxDataRequest msg (mem.seenFrom buf) 15000 (mem.seenFrom dataBuf) cpuDataPool 0
  ((mem.through buf r.buf).writeBack dataBuf 576000 r.dataBuf,
    if r.ret < 0 then none
    else some ⟨ScfMsgId.txDataRequest.code, 0, r.ret, staticCastInt r.dataBytesWritten, .cpuMsg i,
      some (.cpuData j)⟩)

namespace GatewayRequest

def msgId : GatewayRequest → ScfMsgId
  | paramRequest => .paramRequest
  | configRequest => .configRequest
  | startRequest => .startRequest
  | stopRequest => .stopRequest
  | dlTtiRequest _ => .dlTtiRequest
  | ulTtiRequest _ => .ulTtiRequest
  | ulDciRequest _ => .ulDciRequest
  | txDataRequest _ => .txDataRequest

/-- The buffers that `tx_allocate` gives for the request. -/
def bufs (i j : Nat) : GatewayRequest → List Buf
  | txDataRequest _ => [.cpuMsg i, .cpuData j]
  | _ => [.cpuMsg i]

def fill (forceTable0 : Bool) : GatewayRequest → Fill
  | paramRequest => sendParamRequest
  | configRequest => fillConfigRequest
  | startRequest => sendStartRequest
  | stopRequest => sendStopRequest
  | dlTtiRequest msg => sendDlTtiRequest forceTable0 msg
  | ulTtiRequest msg => sendUlTtiRequest msg
  | ulDciRequest msg => sendUlDciRequest msg
  | txDataRequest msg => sendTxDataRequest msg

end GatewayRequest

/-! ## What a message has to hold -/

def configEncoding : List UInt8 :=
  framed 0 ScfMsgId.configRequest.code (30 :: configTlvs.flatMap Tlv.encode)

namespace GatewayRequest

def encoding (forceTable0 : Bool) : GatewayRequest → List UInt8
  | configRequest => configEncoding
  | dlTtiRequest msg => msg.encoding forceTable0 0
  | ulTtiRequest msg => msg.encoding 0
  | ulDciRequest msg => msg.encoding 0
  | txDataRequest msg => msg.encoding cpuDataPool 0
  | bare => framed 0 bare.msgId.code []

/-- The transport blocks that go with the message. -/
def blocks : GatewayRequest → List TxDataReqPdu
  | txDataRequest msg => msg.pdus
  | _ => []

/-- The message fits its buffer, and the blocks theirs. -/
structure Fits (forceTable0 : Bool) (req : GatewayRequest) : Prop where
  message : (req.encoding forceTable0).length ≤ 15000
  blocks : ∀ msg, req = txDataRequest msg → msg.Fits cpuDataPool

/-- The message is the request's encoding, and its blocks stand in the data one behind the other,
each from a multiple of 32 on. -/
structure DeliveredBy (forceTable0 : Bool) (req : GatewayRequest) (m : L1Msg) : Prop where
  msgId : m.msgId = req.msgId.code
  cellId : m.cellId = 0
  bytes : m.bytes = req.encoding forceTable0
  blocks : ∀ before p after, req.blocks = before ++ p :: after →
    (m.data.drop (alignedSum before)).take p.pdu.length = p.pdu

end GatewayRequest

/-- The lengths stay inside the buffers. -/
structure TxIpcMsg.InBounds (w : TxIpcMsg) : Prop where
  message : w.msgLen.toNat ≤ w.msgBuf.size
  data : ∀ b ∈ w.dataBuf, w.dataLen.toNat ≤ b.size

/-- The buffers of the message hold the request, which fits them. -/
structure TxIpcMsg.Holds (l : Layout) (forceTable0 : Bool) (mem : Mem) (req : GatewayRequest)
    (w : TxIpcMsg) : Prop where
  fits : req.Fits forceTable0
  inBounds : w.InBounds
  delivered : req.DeliveredBy forceTable0 (w.read l mem)

/-- The buffer is as it was. -/
def Layout.Kept (l : Layout) (mem mem' : Mem) (b : Buf) : Prop :=
  ∀ k, l.addr b ≤ k → k < l.addr b + b.size → mem' k = mem k

/-- The memory is as it was outside these buffers. -/
def Layout.Untouched (l : Layout) (bufs : List Buf) (mem mem' : Mem) : Prop :=
  ∀ k, (∀ b ∈ bufs, k < l.addr b ∨ l.addr b + b.size ≤ k) → mem' k = mem k

end AerialBridge
