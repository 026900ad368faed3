import AerialBridge.Gateway.Messages
import AerialBridge.Transition.Ownership
import AerialBridge.Transition.Run

/-!
# Gateways that are called at once

The gateways hold no lock: what several threads do with them goes through the operations of the
transport.  Any number of threads call any functions, each with its own place in the function it is
in.  nvIPC and L1 are not the bridge's code: what they answer and do comes with the labels, and what
the bridge relies on is said of them as a condition on runs.
-/

namespace AerialBridge

open Bytes Transition Ownership

/-- Where a calling thread stands in a `send_*` function. -/
inductive GatewayPc
  | idle
  | allocating (req : GatewayRequest)
  | filling (req : GatewayRequest) (i j : Nat)
  | releasing (req : GatewayRequest) (i j : Nat)
  | sending (req : GatewayRequest) (w : TxIpcMsg)

/-- What a thread does: it calls a function or `on_last_message`, and in a function it takes the
answer of `tx_allocate`, writes the message or gives its buffers back, and sends it.  The answer of
`tx_send_msg` is one that `tx_send` drops. -/
inductive GatewayAct
  | call (req : GatewayRequest)
  | onLastMessage
  | allocate (got : Option (Nat × Nat))
  | go
  | send (accepted : Bool)

/-- The operations of the transport, as they went. -/
inductive TxEvent
  | denied (req : GatewayRequest)
  | granted (req : GatewayRequest) (i j : Nat)
  | released (req : GatewayRequest) (i j : Nat)
  | sent (req : GatewayRequest) (w : TxIpcMsg) (accepted : Bool)
  | posted

/-- What the threads do, and what L1 receives, reads and gives back. -/
inductive GatewayEvent (C : Type)
  | tx (c : C) (e : TxEvent)
  | received (w : TxIpcMsg) (m : L1Msg)
  | freed (w : TxIpcMsg)

/-- One step of a thread. -/
def GatewayPc.act (l : Layout) (forceTable0 : Bool) (mem : Mem) :
    GatewayPc → GatewayAct → Option (Mem × GatewayPc × Option TxEvent)
  | .idle, .call req => some (mem, .allocating req, none)
  | .idle, .onLastMessage => some (mem, .idle, some .posted)
  | .allocating req, .allocate none => some (mem, .idle, some (.denied req))
  | .allocating req, .allocate (some (i, j)) => some (mem, .filling req i j, some (.granted req i j))
  | .filling req i j, .go =>
      match req.fill forceTable0 l mem i j with
      | (mem', some w) => some (mem', .sending req w, none)
      | (mem', none) => some (mem', .releasing req i j, none)
  | .releasing req i j, .go => some (mem, .idle, some (.released req i j))
  | .sending req w, .send accepted => some (mem, .idle, some (.sent req w accepted))
  | _, _ => none

structure GatewayState (C : Type) where
  mem : Mem
  pc : C → GatewayPc
  log : List (GatewayEvent C)

inductive GatewayLabel (C : Type)
  | thread (c : C) (act : GatewayAct)
  | l1Recv (w : TxIpcMsg)
  | l1Release (w : TxIpcMsg)
  -- nvIPC or L1 writes into the shared memory
  | others (mem : Mem)

namespace GatewayState

variable {C : Type} [DecidableEq C]

def init (mem : Mem) : GatewayState C := ⟨mem, fun _ ↦ .idle, []⟩

/-- Thread `c` goes on to `pc`, with what it has done. -/
def moveTo (s : GatewayState C) (c : C) (mem : Mem) (pc : GatewayPc) (o : Option TxEvent) :
    GatewayState C :=
  ⟨mem, Function.update s.pc c pc, s.log ++ o.toList.map (.tx c)⟩

def step (l : Layout) (forceTable0 : Bool) (s : GatewayState C) :
    GatewayLabel C → Option (GatewayState C)
  | .thread c act => ((s.pc c).act l forceTable0 s.mem act).map fun (mem, pc, o) ↦
      s.moveTo c mem pc o
  | .l1Recv w => some { s with log := s.log ++ [.received w (w.read l s.mem)] }
  | .l1Release w => some { s with log := s.log ++ [.freed w] }
  | .others mem => some { s with mem := mem }

end GatewayState

/-! ## What the log says -/

section Log

variable {C : Type}

/-- The messages that nvIPC has accepted from `tx_send_msg`, with their requests. -/
def accepted (log : List (GatewayEvent C)) : List (GatewayRequest × TxIpcMsg) :=
  log.filterMap fun e ↦ match e with
    | .tx _ (.sent req w true) => some (req, w)
    | _ => none

/-- The messages that nvIPC has not accepted.  Nobody gives their buffers back. -/
def refused (log : List (GatewayEvent C)) : List TxIpcMsg :=
  log.filterMap fun e ↦ match e with
    | .tx _ (.sent _ w false) => some w
    | _ => none

/-- The messages that L1 has received, and what it read. -/
def received (log : List (GatewayEvent C)) : List (TxIpcMsg × L1Msg) :=
  log.filterMap fun e ↦ match e with
    | .received w m => some (w, m)
    | _ => none

/-- What waits for L1, when it receives in order. -/
def queue (log : List (GatewayEvent C)) : List TxIpcMsg :=
  ((accepted log).map Prod.snd).drop (received log).length

/-- The messages that L1 has received and not released. -/
def withL1 (log : List (GatewayEvent C)) : List TxIpcMsg :=
  log.foldl (fun ws e ↦ match e with
    | .received w _ => ws ++ [w]
    | .freed w => ws.erase w
    | _ => ws) []

/-- The buffers that nvIPC has granted and not got back. -/
def lent (log : List (GatewayEvent C)) : List Buf :=
  log.foldl (fun bufs e ↦ match e with
    | .tx _ (.granted req i j) => bufs ++ req.bufs i j
    | .tx _ (.released req i j) => bufs.diff (req.bufs i j)
    | .freed w => bufs.diff w.bufs
    | _ => bufs) []

end Log

/-! ## What the bridge relies on -/

/-- The call that a thread is in. -/
def GatewayPc.requests : GatewayPc → List GatewayRequest
  | idle => []
  | allocating req | filling req _ _ | releasing req _ _ | sending req _ => [req]

section

variable {C : Type} (l : Layout) (s : GatewayState C)

/-- A buffer is granted to one at a time. -/
def ExclusiveGrants : GatewayLabel C → Prop
  | .thread c (.allocate (some (i, j))) => ∀ req, s.pc c = .allocating req →
      ∀ b ∈ req.bufs i j, b ∉ lent s.log
  | _ => True

/-- L1 receives the accepted messages, each once and in their order. -/
def L1RecvInOrder : GatewayLabel C → Prop
  | .l1Recv w => (received s.log).map Prod.fst ++ [w] <+: (accepted s.log).map Prod.snd
  | _ => True

/-- L1 gives back what it has received, once. -/
def L1Owns : GatewayLabel C → Prop
  | .l1Release w => w ∈ withL1 s.log
  | _ => True

/-- Nobody else writes into a buffer that nvIPC has lent. -/
def LentKept : GatewayLabel C → Prop
  | .others mem => ∀ b ∈ lent s.log, l.Kept s.mem mem b
  | _ => True

/-- One thread at a time is in `send_tx_data_request`, which counts its calls in a static variable
without a lock. -/
def TxDataAlone : GatewayLabel C → Prop
  | .thread _ (.call (.txDataRequest _)) => ∀ c msg, .txDataRequest msg ∉ (s.pc c).requests
  | _ => True

instance : (label : GatewayLabel C) → Decidable (L1RecvInOrder s label)
  | .l1Recv w => inferInstanceAs
      (Decidable ((received s.log).map Prod.fst ++ [w] <+: (accepted s.log).map Prod.snd))
  | .thread _ _ | .l1Release _ | .others _ => .isTrue trivial

instance : (label : GatewayLabel C) → Decidable (L1Owns s label)
  | .l1Release w => inferInstanceAs (Decidable (w ∈ withL1 s.log))
  | .thread _ _ | .l1Recv _ | .others _ => .isTrue trivial

structure NvIpcLends (label : GatewayLabel C) : Prop where
  exclusiveGrants : ExclusiveGrants s label
  l1RecvInOrder : L1RecvInOrder s label
  l1Owns : L1Owns s label
  lentKept : LentKept l s label
  txDataAlone : TxDataAlone s label

/-- Every call is for a request that fits its buffers. -/
def CallsFit (forceTable0 : Bool) : GatewayLabel C → Prop
  | .thread _ (.call req) => req.Fits forceTable0
  | _ => True

end

structure LendsAndFits {C : Type} (l : Layout) (forceTable0 : Bool) (s : GatewayState C)
    (label : GatewayLabel C) : Prop where
  lends : NvIpcLends l s label
  fits : CallsFit forceTable0 label

/-! ## The steps one by one -/

inductive GatewayMove (l : Layout) (forceTable0 : Bool) (mem : Mem) :
    GatewayPc → GatewayAct → Mem → GatewayPc → Option TxEvent → Prop
  | call (req : GatewayRequest) :
      GatewayMove l forceTable0 mem .idle (.call req) mem (.allocating req) none
  | post : GatewayMove l forceTable0 mem .idle .onLastMessage mem .idle (some .posted)
  | deny (req : GatewayRequest) : GatewayMove l forceTable0 mem (.allocating req) (.allocate none)
      mem .idle (some (.denied req))
  | grant (req : GatewayRequest) (i j : Nat) :
      GatewayMove l forceTable0 mem (.allocating req) (.allocate (some (i, j))) mem
        (.filling req i j) (some (.granted req i j))
  | fill {req : GatewayRequest} {i j : Nat} {w : TxIpcMsg}
      (hw : (req.fill forceTable0 l mem i j).2 = some w) :
      GatewayMove l forceTable0 mem (.filling req i j) .go (req.fill forceTable0 l mem i j).1
        (.sending req w) none
  | giveUp {req : GatewayRequest} {i j : Nat} (hw : (req.fill forceTable0 l mem i j).2 = none) :
      GatewayMove l forceTable0 mem (.filling req i j) .go (req.fill forceTable0 l mem i j).1
        (.releasing req i j) none
  | release (req : GatewayRequest) (i j : Nat) :
      GatewayMove l forceTable0 mem (.releasing req i j) .go mem .idle (some (.released req i j))
  | send (req : GatewayRequest) (w : TxIpcMsg) (accepted : Bool) :
      GatewayMove l forceTable0 mem (.sending req w) (.send accepted) mem .idle
        (some (.sent req w accepted))

theorem GatewayPc.act_move {l : Layout} {forceTable0 : Bool} {mem mem' : Mem} {pc pc' : GatewayPc}
    {act : GatewayAct} {o : Option TxEvent}
    (h : pc.act l forceTable0 mem act = some (mem', pc', o)) :
    GatewayMove l forceTable0 mem pc act mem' pc' o := by
  cases pc with
  | idle =>
      cases act with
      | call req =>
          cases h
          exact .call req
      | onLastMessage =>
          cases h
          exact .post
      | allocate _ | go | send _ => cases h
  | allocating req =>
      cases act with
      | allocate got =>
          cases got with
          | none =>
              cases h
              exact .deny req
          | some bufs =>
              cases h
              exact .grant req _ _
      | call _ | onLastMessage | go | send _ => cases h
  | filling req i j =>
      cases act with
      | go =>
          rw [GatewayPc.act] at h
          cases hfill : req.fill forceTable0 l mem i j with
          | mk mem₁ w? =>
              rw [hfill] at h
              cases w? with
              | none =>
                  cases h
                  have hmove := GatewayMove.giveUp (congrArg Prod.snd hfill)
                  rwa [hfill] at hmove
              | some w =>
                  cases h
                  have hmove := GatewayMove.fill (congrArg Prod.snd hfill)
                  rwa [hfill] at hmove
      | call _ | onLastMessage | allocate _ | send _ => cases h
  | releasing req i j =>
      cases act with
      | go =>
          cases h
          exact .release req i j
      | call _ | onLastMessage | allocate _ | send _ => cases h
  | sending req w =>
      cases act with
      | send accepted =>
          cases h
          exact .send req w accepted
      | call _ | onLastMessage | allocate _ | go => cases h

namespace GatewayState

variable {C : Type} [DecidableEq C] {l : Layout} {forceTable0 : Bool} {s t : GatewayState C}
  {c c' : C} {mem : Mem} {pc : GatewayPc} {o : Option TxEvent}

@[simp] theorem moveTo_pc : (s.moveTo c mem pc o).pc c = pc := Function.update_self _ _ _

theorem moveTo_pc_ne (h : c' ≠ c) : (s.moveTo c mem pc o).pc c' = s.pc c' :=
  Function.update_of_ne h _ _

/-- A step of thread `c` is one of its function's. -/
theorem step_thread {act : GatewayAct} (hstep : s.step l forceTable0 (.thread c act) = some t) :
    ∃ mem pc o, GatewayMove l forceTable0 s.mem (s.pc c) act mem pc o ∧ t = s.moveTo c mem pc o := by
  obtain ⟨⟨mem, pc, o⟩, hact, rfl⟩ := Option.map_eq_some_iff.mp hstep
  exact ⟨mem, pc, o, GatewayPc.act_move hact, rfl⟩

end GatewayState

section Example

/-- A message buffer and a data buffer in turn. -/
def exampleLayout : Layout where
  addr
    | .cpuMsg i => 591000 * i
    | .cpuData i => 591000 * i + 15000
  disjoint := by
    intro b b' hne
    cases b <;> cases b' <;>
      simp only [Buf.size, ne_eq, Buf.cpuMsg.injEq, Buf.cpuData.injEq] at * <;> omega

def exampleTxData : GatewayRequest := .txDataRequest twoBlocks

def exampleTxMsg : TxIpcMsg :=
  ⟨ScfMsgId.txDataRequest.code, 0, 50, 96, .cpuMsg 1, some (.cpuData 0)⟩

def exampleStopMsg : TxIpcMsg := ⟨ScfMsgId.stopRequest.code, 0, 8, 0, .cpuMsg 2, none⟩

/-- Two threads call at once; nvIPC does not accept the PARAM.request, and L1 reads and releases the
other two messages. -/
def exampleCalls : List (GatewayLabel Bool) :=
  [.thread true (.call .paramRequest), .thread false (.call exampleTxData),
    .thread false (.allocate (some (1, 0))), .thread true (.allocate (some (0, 0))),
    .thread true .go, .thread false .go, .thread false (.send true), .thread true (.send false),
    .l1Recv exampleTxMsg, .thread true (.call .stopRequest),
    .thread true (.allocate (some (2, 0))), .l1Release exampleTxMsg, .thread true .go,
    .thread true (.send true), .thread true .onLastMessage, .l1Recv exampleStopMsg,
    .l1Release exampleStopMsg]

/-- A run through `exampleCalls` that leaves nothing under way. -/
structure ExampleRun (s : GatewayState Bool) : Prop where
  run : Run (GatewayState.step exampleLayout false) (LendsAndFits exampleLayout false)
    (.init .zeros) exampleCalls s
  idle : ∀ c, s.pc c = .idle
  queue : queue s.log = []
  withL1 : withL1 s.log = []
  received : (received s.log).length = 2
  refused : (refused s.log).flatMap TxIpcMsg.bufs = [.cpuMsg 0]
  accepted : (accepted s.log).map Prod.fst = [exampleTxData, .stopRequest]

theorem exampleTxData_fits : exampleTxData.Fits false where
  message := by
    show (twoBlocks.encoding cpuDataPool 0).length ≤ 15000
    rw [TxDataRequest.encoding_length]
    decide
  blocks := by
    intro msg hmsg before p after hsplit _
    cases hmsg
    rcases before with _ | ⟨b, _ | ⟨b', bs⟩⟩
    · injection hsplit with hp _
      rw [← hp]
      decide
    · injection hsplit with hb hrest
      injection hrest with hp _
      rw [← hb, ← hp]
      decide
    · injection hsplit with _ hrest
      injection hrest with _ hnil
      exact absurd hnil.symm (List.append_ne_nil_of_right_ne_nil _ (List.cons_ne_nil _ _))

theorem exampleRun : ∃ s, ExampleRun s := by
  have hfits : GatewayRequest.paramRequest.Fits false := ⟨by decide, nofun⟩
  have hfits' : GatewayRequest.stopRequest.Fits false := ⟨by decide, nofun⟩
  -- what a thread does without nvIPC, and what it sends and posts, needs nothing of others
  have hgo {s : GatewayState Bool} {c : Bool} :
      LendsAndFits exampleLayout false s (.thread c .go) :=
    ⟨⟨trivial, trivial, trivial, trivial, trivial⟩, trivial⟩
  have hsend {s : GatewayState Bool} {c answer : Bool} :
      LendsAndFits exampleLayout false s (.thread c (.send answer)) :=
    ⟨⟨trivial, trivial, trivial, trivial, trivial⟩, trivial⟩
  have hpost {s : GatewayState Bool} {c : Bool} :
      LendsAndFits exampleLayout false s (.thread c .onLastMessage) :=
    ⟨⟨trivial, trivial, trivial, trivial, trivial⟩, trivial⟩
  have hgrant {s : GatewayState Bool} {c : Bool} {i j : Nat}
      (h : ExclusiveGrants s (.thread c (.allocate (some (i, j))))) :
      LendsAndFits exampleLayout false s (.thread c (.allocate (some (i, j)))) :=
    ⟨⟨h, trivial, trivial, trivial, trivial⟩, trivial⟩
  have hrecv {s : GatewayState Bool} {w : TxIpcMsg} (h : L1RecvInOrder s (.l1Recv w)) :
      LendsAndFits exampleLayout false s (.l1Recv w) :=
    ⟨⟨trivial, h, trivial, trivial, trivial⟩, trivial⟩
  have hrelease {s : GatewayState Bool} {w : TxIpcMsg} (h : L1Owns s (.l1Release w)) :
      LendsAndFits exampleLayout false s (.l1Release w) :=
    ⟨⟨trivial, trivial, h, trivial, trivial⟩, trivial⟩
  refine ⟨_, .cons ⟨⟨trivial, trivial, trivial, trivial, trivial⟩, hfits⟩ rfl
    (.cons ⟨⟨trivial, trivial, trivial, trivial, ?_⟩, exampleTxData_fits⟩ rfl
    (.cons (hgrant ?_) rfl (.cons (hgrant ?_) rfl (.cons hgo rfl (.cons hgo rfl
    (.cons hsend rfl (.cons hsend rfl (.cons (hrecv (by decide +kernel)) rfl
    (.cons ⟨⟨trivial, trivial, trivial, trivial, trivial⟩, hfits'⟩ rfl
    (.cons (hgrant ?_) rfl (.cons (hrelease (by decide +kernel)) rfl (.cons hgo rfl
    (.cons hsend rfl (.cons hpost rfl (.cons (hrecv (by decide +kernel)) rfl
    (.cons (hrelease (by decide +kernel)) rfl (.nil _))))))))))))))))), ?_, rfl, rfl, rfl, rfl, rfl⟩
  · intro c msg
    cases c with
    | false => exact List.not_mem_nil
    | true =>
        intro hmem
        cases List.mem_singleton.mp hmem
  · intro req hreq
    cases hreq
    decide
  · intro req hreq
    cases hreq
    decide
  · intro req hreq
    cases hreq
    decide
  · intro c
    cases c with
    | false | true => rfl

end Example
end AerialBridge
