import AerialBridge.Transition.Leases
import Mathlib.Data.List.TakeWhile
import Mathlib.Tactic

/-!
# The adaptor and what it owns

An `aerial_fapi_adaptor` connects to nvIPC and starts the RX thread while it is constructed, and
gives both back in its destructor.  Its members clean up after themselves as well, and when the
constructor throws they are all that does.
-/

namespace AerialBridge

open Transition

/-! ## Configuration -/

structure NvipcTransportConfig where
  shmPrefix : List UInt8
  yamlPath : List UInt8

structure RxThreadConfig where
  cpuCore : Int
  priority : Int
  numerology : Nat

structure AerialBridgeConfig where
  nvipc : NvipcTransportConfig
  rx : RxThreadConfig

namespace AerialBridgeConfig

/-- The plugin's own defaults, and those of its options: the prefix is `nvipc`. -/
def defaults : AerialBridgeConfig where
  nvipc := ⟨[0x6e, 0x76, 0x69, 0x70, 0x63], []⟩
  rx := ⟨-1, 90, 1⟩

/-- What `on_configuration_validation` has to say against a configuration. -/
def validationError (cfg : AerialBridgeConfig) : Option String :=
  if cfg.nvipc.shmPrefix = [] then some "[aerial_bridge] nvIPC prefix must not be empty\n"
  else if 4 < cfg.rx.numerology then
    some ("[aerial_bridge] Invalid numerology " ++ toString cfg.rx.numerology ++ " (must be 0-4)\n")
  else none

def onConfigurationValidation (cfg : AerialBridgeConfig) : Bool := cfg.validationError.isNone

theorem defaults_valid : defaults.onConfigurationValidation = true := rfl

theorem numerology_le {cfg : AerialBridgeConfig} (h : cfg.onConfigurationValidation = true) :
    cfg.rx.numerology ≤ 4 := by
  unfold onConfigurationValidation validationError at h
  by_contra hlarge
  rw [if_pos (Nat.lt_of_not_le hlarge)] at h
  split at h <;> cases h

end AerialBridgeConfig

/-! ## nvIPC -/

/-- What nvIPC's header defines. -/
structure NvIpcHeader where
  nameMaxLen : Nat
  moduleMac : Int
  transportShm : Int

structure NvIpcConfig where
  moduleType : Int
  ipcTransport : Int
  shmPrefix : List UInt8

/-- The characters of a C string. -/
def cString (buf : List UInt8) : List UInt8 := buf.takeWhile (· ≠ 0)

/-- `std::strncpy` fills up with zeros, and writes none when there is no room for one. -/
def strncpy (dest src : List UInt8) (n : Nat) : List UInt8 :=
  (cString src).take n ++ List.replicate (n - (cString src).length) 0 ++ dest.drop n

/-- What is answered while an adaptor is constructed: what `load_nv_ipc_yaml_config` makes of the
file, whether `create_nv_ipc_interface` has an interface, and whether there is a thread to start. -/
structure Answers where
  loaded : Option NvIpcConfig
  creates : Bool
  starts : Bool

/-- The configuration that `connect` asks for an interface with. -/
def NvIpcHeader.ipcConfig (n : NvIpcHeader) (cfg : NvipcTransportConfig) (a : Answers) :
    Option NvIpcConfig :=
  if cfg.yamlPath ≠ [] then a.loaded
  else
    let zeroed : List UInt8 := List.replicate n.nameMaxLen 0
    some ⟨n.moduleMac, n.transportShm, strncpy zeroed cfg.shmPrefix (n.nameMaxLen - 1)⟩

inductive NvipcOp
  | txAllocate
  | txSend
  | txRelease
  | txTtiSemPost
  | rxTtiSemWait
  | rxRecvMsg
  | rxRelease

/-- How a thread is started: the core it is pinned to and its `SCHED_FIFO` priority, if any. -/
structure ThreadStart where
  numerology : Nat
  cpuCore : Option Int
  fifoPriority : Option Int

def RxThreadConfig.threadStart (cfg : RxThreadConfig) : ThreadStart where
  numerology := cfg.numerology
  cpuCore := if 0 ≤ cfg.cpuCore then some cfg.cpuCore else none
  fifoPriority := if 0 < cfg.priority then some cfg.priority else none

/-- The interfaces of nvIPC, and the threads that the process has started and not detached. -/
structure Outside where
  ipcs : List (LeaseEvent NvIpcConfig NvipcOp)
  nextIpc : Nat
  threads : List (LeaseEvent ThreadStart Empty)
  nextThread : Nat

namespace Outside

def start : Outside := ⟨[], 0, [], 0⟩

def createInterface (w : Outside) (cfg : NvIpcConfig) : Outside :=
  { w with ipcs := w.ipcs ++ [.acquire w.nextIpc cfg], nextIpc := w.nextIpc + 1 }

def ipcDestroy (w : Outside) (ipc : Nat) : Outside := { w with ipcs := w.ipcs ++ [.release ipc] }

def ipcCall (w : Outside) (ipc : Nat) (op : NvipcOp) : Outside :=
  { w with ipcs := w.ipcs ++ [.use ipc op] }

def startThread (w : Outside) (how : ThreadStart) : Outside :=
  { w with threads := w.threads ++ [.acquire w.nextThread how], nextThread := w.nextThread + 1 }

def detachThread (w : Outside) (thread : Nat) : Outside :=
  { w with threads := w.threads ++ [.release thread] }

end Outside

/-! ## The members -/

/-- An `nvipc_transport`; the interface is null or one of those created. -/
structure NvipcTransport where
  ipc : Option Nat
  connected : Bool

namespace NvipcTransport

def fresh : NvipcTransport := ⟨none, false⟩

def connect (n : NvIpcHeader) (t : NvipcTransport) (cfg : NvipcTransportConfig) (a : Answers)
    (w : Outside) : Bool × NvipcTransport × Outside :=
  if t.connected then (true, t, w)
  else match n.ipcConfig cfg a with
    | none => (false, t, w)
    | some ipcCfg =>
        if a.creates then (true, ⟨some w.nextIpc, true⟩, w.createInterface ipcCfg)
        else (false, { t with ipc := none }, w)

def disconnect (t : NvipcTransport) (w : Outside) : NvipcTransport × Outside :=
  match t.ipc with
  | some ipc => (⟨none, false⟩, w.ipcDestroy ipc)
  | none => (t, w)

/-- The transmit and receive functions; none of them tests the pointer. -/
def call (t : NvipcTransport) (op : NvipcOp) (w : Outside) : Option Outside :=
  t.ipc.map fun ipc ↦ w.ipcCall ipc op

/-- Without an interface, a transport is as it was. -/
theorem connect_fresh (n : NvIpcHeader) (cfg : NvipcTransportConfig) (a : Answers) (w : Outside) :
    fresh.connect n cfg a w = (false, fresh, w) ∨
      ∃ ipcCfg, fresh.connect n cfg a w =
        (true, ⟨some w.nextIpc, true⟩, w.createInterface ipcCfg) := by
  unfold connect
  cases n.ipcConfig cfg a with
  | none => exact .inl rfl
  | some ipcCfg =>
    cases hcreates : a.creates with
    | false => exact .inl rfl
    | true => exact .inr ⟨ipcCfg, rfl⟩

@[simp] theorem disconnect_interface (ipc : Nat) (connected : Bool) (w : Outside) :
    disconnect ⟨some ipc, connected⟩ w = (⟨none, false⟩, w.ipcDestroy ipc) := rfl

@[simp] theorem disconnect_null (connected : Bool) (w : Outside) :
    disconnect ⟨none, connected⟩ w = (⟨none, connected⟩, w) := rfl

end NvipcTransport

/-- An `rx_thread`'s `running_` and `thread_`, which is a thread as long as it is joinable. -/
structure RxThreadMembers where
  running : Bool
  thread : Option Nat

namespace RxThreadMembers

def fresh : RxThreadMembers := ⟨false, none⟩

/-- `start`, with `false` when the thread's constructor throws; `running_` is set by then.
Assigning to a joinable thread ends the process. -/
def start (r : RxThreadMembers) (cfg : RxThreadConfig) (a : Answers) (w : Outside) :
    Option (Bool × RxThreadMembers × Outside) :=
  if r.running then some (true, r, w)
  else if a.starts then
    if r.thread.isSome then none
    else some (true, ⟨true, some w.nextThread⟩, w.startThread cfg.threadStart)
  else some (false, { r with running := true }, w)

def stop (r : RxThreadMembers) (w : Outside) : RxThreadMembers × Outside :=
  if r.running then
    match r.thread with
    | some thread => (⟨false, none⟩, w.detachThread thread)
    | none => (⟨false, none⟩, w)
  else (r, w)

/-- `~rx_thread`.  A thread that is joinable after `stop` ends the process. -/
def destroy (r : RxThreadMembers) (w : Outside) : Option Outside :=
  let (r, w) := r.stop w
  if r.thread.isSome then none else some w

theorem start_fresh (cfg : RxThreadConfig) (a : Answers) (w : Outside) :
    fresh.start cfg a w = some (if a.starts then
      (true, ⟨true, some w.nextThread⟩, w.startThread cfg.threadStart)
      else (false, ⟨true, none⟩, w)) := by
  cases hstarts : a.starts <;> simp [start, fresh, hstarts]

@[simp] theorem stop_running (thread : Nat) (w : Outside) :
    stop ⟨true, some thread⟩ w = (⟨false, none⟩, w.detachThread thread) := rfl

/-- Nothing is left to do for a thread that did not start, or that is detached. -/
@[simp] theorem destroy_noThread (running : Bool) (w : Outside) :
    destroy ⟨running, none⟩ w = some w := by
  cases running <;> rfl

end RxThreadMembers

/-! ## The adaptor -/

structure AerialFapiAdaptor where
  transport : NvipcTransport
  rx : RxThreadMembers
  sectors : Nat

inductive AdaptorError
  | connectFailed (shmPrefix : List UInt8)
  | threadFailed
  | invalidCell (cellId : Nat)

namespace AerialFapiAdaptor

/-- The members' destructors, in the order opposite to that of their declaration; the sectors own
nothing. -/
def destroyMembers (a : AerialFapiAdaptor) (w : Outside) : Option Outside := do
  let w ← a.rx.destroy w
  pure (a.transport.disconnect w).2

/-- The constructor; what it throws leaves the members to be destroyed. -/
def construct (n : NvIpcHeader) (nvipcCfg : NvipcTransportConfig) (rxCfg : RxThreadConfig)
    (numCells : Nat) (a : Answers) (w : Outside) :
    Option (Except AdaptorError AerialFapiAdaptor × Outside) := do
  let (connected, transport, w) := NvipcTransport.fresh.connect n nvipcCfg a w
  if !connected then
    let w ← destroyMembers ⟨transport, .fresh, 0⟩ w
    pure (.error (.connectFailed nvipcCfg.shmPrefix), w)
  else
    let (started, rx, w) ← RxThreadMembers.fresh.start rxCfg a w
    if !started then
      let w ← destroyMembers ⟨transport, rx, numCells⟩ w
      pure (.error .threadFailed, w)
    else
      pure (.ok ⟨transport, rx, numCells⟩, w)

/-- The destructor, with those of the members. -/
def destroy (a : AerialFapiAdaptor) (w : Outside) : Option Outside :=
  let (rx, w) := a.rx.stop w
  let (transport, w) := a.transport.disconnect w
  destroyMembers ⟨transport, rx, a.sectors⟩ w

/-- Which of the sectors it is. -/
def getSectorAdaptor (a : AerialFapiAdaptor) (cellId : Nat) : Except AdaptorError Nat :=
  if a.sectors ≤ cellId then .error (.invalidCell cellId) else .ok cellId

end AerialFapiAdaptor

end AerialBridge
