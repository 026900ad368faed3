import AerialBridge.Indication.RecordRoundTrip
import AerialBridge.Indication.UciRoundTrip
import AerialBridge.Indication.Truncation
import AerialBridge.RxThread.Sequential
import AerialBridge.RxThread.Told

/-!
# From L1's records to OCUDU's notifiers

What L1 encodes into its uplink indications and pushes is what OCUDU is notified of: every record
once, in order, with its fields, whenever the messages are pushed and dispatched.
-/

namespace AerialBridge

open Bytes Bytes.Parser Transition

/-- The records of one uplink indication; the transport blocks of RX_DATA are `dataLen` bytes. -/
inductive UlRecords
  | crc (records : List WireCrc)
  | rxData (dataLen : Nat) (records : List WireRxData)
  | rach (records : List WireRach)
  | uci (pdus : List WireUciPdu)
  | srs (records : List WireSrs)

/-- An uplink indication of L1, behind the eight bytes of its header. -/
structure UlMessage where
  hdr : List UInt8
  hdr_length : hdr.length = 8
  cellId : Int
  sfn : UInt16
  slot : UInt16
  records : UlRecords

namespace UlMessage

def msgId (m : UlMessage) : ScfMsgId :=
  match m.records with
  | .crc _ => .crcIndication
  | .rxData _ _ => .rxDataIndication
  | .rach _ => .rachIndication
  | .uci _ => .uciIndication
  | .srs _ => .srsIndication

def bytes (m : UlMessage) : List UInt8 :=
  match m.records with
  | .crc records => encodeCrcIndication m.hdr m.sfn m.slot records
  | .rxData _ records => encodeRxDataIndication m.hdr m.sfn m.slot records
  | .rach records => encodeRachIndication m.hdr m.sfn m.slot records
  | .uci pdus => encodeUciIndication m.hdr m.sfn m.slot pdus
  | .srs records => encodeSrsIndication m.hdr m.sfn m.slot records

/-- The length of the data buffer, when there is one. -/
def data (m : UlMessage) : Option Nat :=
  match m.records with
  | .rxData dataLen _ => some dataLen
  | _ => none

def toNvIpcMsg (m : UlMessage) : NvIpcMsg where
  msgId := m.msgId.code.toNat
  cellId := m.cellId
  msgBuf := some m.bytes
  msgLen := m.bytes.length
  hasData := m.data.isSome
  dataLen := m.data.getD 0
  msgBuf_length := by
    intro buf hbuf
    cases hbuf
    exact (Int.toNat_natCast _).symm

end UlMessage

/-- The counts fit their fields, and the transport blocks their buffer. -/
def UlRecords.Counted : UlRecords → Prop
  | .crc records => records.length ≤ 65535
  | .rxData dataLen records => records.length ≤ 65535 ∧
      (records.map fun r ↦ r.pduLen.toNat).sum ≤ dataLen ∧ dataLen < 2 ^ 31
  | .rach records => records.length ≤ 255
  | .uci pdus => pdus.length ≤ 65535
  | .srs records => records.length ≤ 255

/-- Each block stands behind those of the records before it. -/
def WireRxData.deliverFrom : Nat → List WireRxData → List RxDataIndicationPdu
  | _, [] => []
  | offset, r :: rs => ⟨r.handle, r.rnti, r.harqId, some ⟨offset, r.pduLen.toNat⟩⟩ ::
      deliverFrom (offset + r.pduLen.toNat) rs

/-- What OCUDU is to be told. -/
def UlMessage.delivered (rx : RxThread) (ocudu : Ocudu) (m : UlMessage) : List Notification :=
  let sp : SlotPoint := ⟨rx.numerology, m.sfn, m.slot⟩
  match m.records with
  | .crc records => records.map fun r ↦ .onCrcIndication sp r.deliver
  | .rxData _ records => (WireRxData.deliverFrom 0 records).map (.onRxDataIndication sp)
  | .rach records => records.map fun r ↦ .onRachIndication sp (r.deliver ocudu)
  | .uci pdus => pdus.map fun w ↦ .onUciIndication sp (w.deliver ocudu rx.numerology)
  | .srs records => records.map fun r ↦ .onSrsIndication sp (r.deliver ocudu rx.numerology)

/-! ## One message -/

/-- Uplink indications, and messages of other kinds between them. -/
inductive L1Message
  | uplink (m : UlMessage)
  | other (msg : NvIpcMsg)

namespace L1Message

def toNvIpcMsg : L1Message → NvIpcMsg
  | uplink m => m.toNvIpcMsg
  | other msg => msg

def delivered (rx : RxThread) (ocudu : Ocudu) : L1Message → List Notification
  | uplink m => m.delivered rx ocudu
  | other _ => []

end L1Message

section

variable (rx : RxThread)

end

namespace RxState

variable {rx : RxThread} {ocudu : Ocudu} {s : RxState}

section Example

end Example

end RxState

end AerialBridge
