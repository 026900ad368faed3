import AerialBridge.Request.Encoding
import AerialBridge.RxThread.Safety
import AerialBridge.Transition.Run

/-!
# The connection test

`main` of the connection test behind its START.request: whenever it is woken it drains the queue,
counts what it sees, and answers with an empty DL_TTI.request and an empty UL_TTI.request for the
slot that it has seen last.  What nvIPC answers comes with the steps, and a signal may arrive at any
time.
-/

namespace AerialBridge

open Bytes Bytes.Parser Transition

/-- What is kept between two messages. -/
structure BridgeTestCounts where
  slotCount : UInt32
  msgCount : UInt32
  errorCount : UInt32
  currentSfn : UInt16
  currentSlot : UInt16
  deriving DecidableEq, Repr

/-- What is printed of a message. -/
inductive BridgeTestLine
  | slotInd (count : UInt32) (sfn slot : UInt16)
  | errorIndication (cellId : Int)
  | paramResponse
  | configResponse
  | stopIndication
  | message (msgId cellId msgLen : Int)
  deriving DecidableEq, Repr

/-- The `switch` over the id of a message.  `msg_buf` is not tested: a message without a buffer has
no bytes to copy from. -/
def BridgeTestCounts.onMessage (c : BridgeTestCounts) (msg : NvIpcMsg) :
    Except ReadFault (BridgeTestCounts × List BridgeTestLine) :=
  let c := { c with msgCount := c.msgCount + 1 }
  match ScfMsgId.ofCode msg.msgId with
  | some .slotIndication =>
      let c := { c with slotCount := c.slotCount + 1 }
      if 12 ≤ msg.msgLen then do
        let buf := msg.msgBuf.getD []
        let sfn ← readAt u16 buf 8
        let slot ← readAt u16 buf 10
        pure ({ c with currentSfn := sfn, currentSlot := slot },
          if c.slotCount ≤ 10 ∨ c.slotCount % 1000 = 0 then [.slotInd c.slotCount sfn slot] else [])
      else pure (c, [])
  | some .errorIndication =>
      let c := { c with errorCount := c.errorCount + 1 }
      pure (c, if c.errorCount ≤ 5 then [.errorIndication msg.cellId] else [])
  | some .paramResponse => pure (c, [.paramResponse])
  | some .configResponse => pure (c, [.configResponse])
  | some .stopIndication => pure (c, [.stopIndication])
  | _ => pure (c, [.message msg.msgId msg.cellId msg.msgLen])

/-- `send_empty_request` fills 64 bytes of its buffer, of which 14 are sent. -/
def BridgeTestCounts.emptyRequest (c : BridgeTestCounts) (typeId : ScfMsgId) (buf : Mem) :
    List UInt8 :=
  let buf := buf.store 0 (List.replicate 64 0)
  let buf := buf.store 0 [1]
  let buf := buf.store 1 [0]
  let buf := buf.store 2 (le16 typeId.code)
  let buf := buf.store 4 (le32 6)
  let buf := buf.store 8 (le16 c.currentSfn)
  let buf := buf.store 10 (le16 c.currentSlot)
  let buf := buf.store 12 [0]
  let buf := buf.store 13 [0]
  buf.load 0 14

inductive BridgeTestPc
  | testRunning
  | waiting
  | retestRunning
  | recv
  | handle (msg : NvIpcMsg)
  | sendDlTti
  | sendUlTti
  | post
  | ended

inductive BridgeTestEvent
  | semWake
  | recv (msg : Option NvIpcMsg)
  | release (msg : NvIpcMsg) (lines : List BridgeTestLine)
  | allocate (typeId : ScfMsgId) (granted : Bool)
  | sent (typeId : ScfMsgId) (bytes : List UInt8)
  | semPost

structure BridgeTestState where
  pc : BridgeTestPc
  running : Bool
  counts : BridgeTestCounts
  log : List BridgeTestEvent

/-- A step of `main` comes with nvIPC's answers: whether `rx_sem_wait` comes back, what `rx_recv`
hands out, and the buffer that `tx_allocate` gives, with the bytes left in it. -/
inductive BridgeTestLabel
  | main (wakes : Bool) (got : Option NvIpcMsg) (buf : Option Mem)
  | signal

namespace BridgeTestState

/-- The loop is about to begin. -/
def init : BridgeTestState := ⟨.testRunning, true, ⟨0, 0, 0, 0, 0⟩, []⟩

def sendEmptyRequest (s : BridgeTestState) (typeId : ScfMsgId) : Option Mem → List BridgeTestEvent
  | some buf => [.allocate typeId true, .sent typeId (s.counts.emptyRequest typeId buf)]
  | none => [.allocate typeId false]

def main (s : BridgeTestState) (wakes : Bool) (got : Option NvIpcMsg) (buf : Option Mem) :
    Option BridgeTestState :=
  match s.pc with
  | .testRunning => some { s with pc := if s.running then .waiting else .ended }
  | .waiting =>
      if wakes then some { s with pc := .retestRunning, log := s.log ++ [.semWake] } else none
  | .retestRunning => some { s with pc := if s.running then .recv else .ended }
  | .recv =>
      match got with
      -- no request is sent before the first SLOT.indication
      | none => some { s with
          pc := if 0 < s.counts.slotCount then .sendDlTti else .testRunning
          log := s.log ++ [.recv none] }
      | some msg => some { s with pc := .handle msg, log := s.log ++ [.recv (some msg)] }
  | .handle msg =>
      match s.counts.onMessage msg with
      | .ok (counts, lines) =>
          some { s with pc := .recv, counts := counts, log := s.log ++ [.release msg lines] }
      | .error _ => none
  | .sendDlTti =>
      some { s with pc := .sendUlTti, log := s.log ++ s.sendEmptyRequest .dlTtiRequest buf }
  | .sendUlTti => some { s with pc := .post, log := s.log ++ s.sendEmptyRequest .ulTtiRequest buf }
  | .post => some { s with pc := .testRunning, log := s.log ++ [.semPost] }
  | .ended => none

def step (s : BridgeTestState) : BridgeTestLabel → Option BridgeTestState
  | .main wakes got buf => s.main wakes got buf
  | .signal => some { s with running := false }

end BridgeTestState

end AerialBridge
