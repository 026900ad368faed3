import AerialBridge.RxThread.Safety

/-!
# `rx_thread::run_loop`

The thread sleeps on nvIPC's semaphore and drains its queue after each wakeup, testing `running_`
around the wait and nowhere else.  nvIPC is not the bridge's code: whether `rx_sem_wait` comes back
and what `rx_recv` hands out are arguments of a step.
-/

namespace AerialBridge

/-- The notifier calls that a message makes when it is dispatched at time `now`. -/
def RxThread.calls (rx : RxThread) (ocudu : Ocudu) (now : Int) (msg : NvIpcMsg) :
    List Notification :=
  match rx.dispatchMessage ocudu now msg with
  | .ok trace => notifications trace
  | .error _ => []

/-- Where the RX thread stands in `run_loop`: at a test of `running_`, before or inside
`rx_sem_wait`, before `rx_recv`, or with a received message in its hands.  In `handle` the notifier
calls are the ones `dispatch_message` has left to make; `rx_release` follows the last one. -/
inductive RxPc
  | testRunning
  | semWait
  | waiting
  | retestRunning
  | recv
  | dispatch (msg : NvIpcMsg)
  | handle (calls : List Notification) (msg : NvIpcMsg)
  | ended

/-- The RX thread's transport operations and notifier calls, and the end of the handle.  Of
`rx_sem_wait` both ends count: the thread comes back from it through nvIPC. -/
inductive ShutdownEvent
  | semWait
  | semWake
  | recv (msg : Option NvIpcMsg)
  | notified (call : Notification)
  | release (msg : NvIpcMsg)
  | ipcDestroy

/-- The messages `rx_recv` has handed out. -/
def receivedMessages (log : List ShutdownEvent) : List NvIpcMsg :=
  log.filterMap fun e ↦ match e with
    | .recv msg => msg
    | _ => none

def releasedMessages (log : List ShutdownEvent) : List NvIpcMsg :=
  log.filterMap fun e ↦ match e with
    | .release msg => some msg
    | _ => none

theorem receivedMessages_append (xs ys : List ShutdownEvent) :
    receivedMessages (xs ++ ys) = receivedMessages xs ++ receivedMessages ys :=
  List.filterMap_append

theorem releasedMessages_append (xs ys : List ShutdownEvent) :
    releasedMessages (xs ++ ys) = releasedMessages xs ++ releasedMessages ys :=
  List.filterMap_append

instance : (pc : RxPc) → Decidable (pc = .recv)
  | .recv => .isTrue rfl
  | .testRunning | .semWait | .waiting | .retestRunning | .dispatch _ | .handle _ _ | .ended =>
      .isFalse nofun

instance : (pc : RxPc) → Decidable (pc = .waiting)
  | .waiting => .isTrue rfl
  | .testRunning | .semWait | .recv | .retestRunning | .dispatch _ | .handle _ _ | .ended =>
      .isFalse nofun

namespace RxPc

/-- One step of the loop: where it leads, and what it does. -/
def runLoop (rx : RxThread) (ocudu : Ocudu) (now : Int) (running wakes : Bool)
    (got : Option NvIpcMsg) : RxPc → Option (RxPc × Option ShutdownEvent)
  | .testRunning => some (if running then .semWait else .ended, none)
  | .semWait => some (.waiting, some .semWait)
  | .waiting => if wakes then some (.retestRunning, some .semWake) else none
  | .retestRunning => some (if running then .recv else .ended, none)
  | .recv =>
      match got with
      | none => some (.testRunning, some (.recv none))
      | some msg => some (.dispatch msg, some (.recv (some msg)))
  | .dispatch msg =>
      match rx.dispatchMessage ocudu now msg with
      | .ok trace => some (.handle (notifications trace) msg, none)
      | .error _ => none
  | .handle (call :: calls) msg => some (.handle calls msg, some (.notified call))
  | .handle [] msg => some (.recv, some (.release msg))
  | .ended => none

/-- The message in the RX thread's hands. -/
def held : RxPc → List NvIpcMsg
  | .dispatch msg | .handle _ msg => [msg]
  | _ => []

end RxPc

/-- The steps of the loop one by one. -/
inductive RxMove (rx : RxThread) (ocudu : Ocudu) (now : Int) (running wakes : Bool)
    (got : Option NvIpcMsg) : RxPc → RxPc → Option ShutdownEvent → Prop
  | goOn (h : running = true) : RxMove rx ocudu now running wakes got .testRunning .semWait none
  | leave (h : running = false) : RxMove rx ocudu now running wakes got .testRunning .ended none
  | sleep : RxMove rx ocudu now running wakes got .semWait .waiting (some .semWait)
  | wake (h : wakes = true) :
      RxMove rx ocudu now running wakes got .waiting .retestRunning (some .semWake)
  | drain (h : running = true) : RxMove rx ocudu now running wakes got .retestRunning .recv none
  | leaveAwake (h : running = false) :
      RxMove rx ocudu now running wakes got .retestRunning .ended none
  | drained (h : got = none) :
      RxMove rx ocudu now running wakes got .recv .testRunning (some (.recv none))
  | receive (msg : NvIpcMsg) (h : got = some msg) :
      RxMove rx ocudu now running wakes got .recv (.dispatch msg) (some (.recv (some msg)))
  | dispatch (msg : NvIpcMsg) : RxMove rx ocudu now running wakes got (.dispatch msg)
      (.handle (rx.calls ocudu now msg) msg) none
  | notify (call : Notification) (calls : List Notification) (msg : NvIpcMsg) :
      RxMove rx ocudu now running wakes got (.handle (call :: calls) msg) (.handle calls msg)
        (some (.notified call))
  | release (msg : NvIpcMsg) :
      RxMove rx ocudu now running wakes got (.handle [] msg) .recv (some (.release msg))

section

variable {rx : RxThread} {ocudu : Ocudu} {now : Int} {running wakes : Bool} {got : Option NvIpcMsg}
  {pc pc' : RxPc} {o : Option ShutdownEvent}

theorem RxPc.runLoop_dispatch (msg : NvIpcMsg) :
    RxPc.runLoop rx ocudu now running wakes got (.dispatch msg) =
      some (.handle (rx.calls ocudu now msg) msg, none) := by
  obtain ⟨trace, htrace⟩ := rx.dispatchMessage_succeeds ocudu now msg
  simp only [RxPc.runLoop, RxThread.calls, htrace]

/-- What a step can be. -/
theorem RxPc.runLoop_move (h : pc.runLoop rx ocudu now running wakes got = some (pc', o)) :
    RxMove rx ocudu now running wakes got pc pc' o := by
  cases pc with
  | testRunning =>
      cases h
      cases hrunning : running with
      | true => exact .goOn rfl
      | false => exact .leave rfl
  | semWait =>
      cases h
      exact .sleep
  | waiting =>
      rw [RxPc.runLoop] at h
      cases hwakes : wakes with
      | true =>
          rw [hwakes] at h
          cases h
          exact .wake rfl
      | false =>
          rw [hwakes] at h
          cases h
  | retestRunning =>
      cases h
      cases hrunning : running with
      | true => exact .drain rfl
      | false => exact .leaveAwake rfl
  | recv =>
      cases got with
      | none =>
          cases h
          exact .drained rfl
      | some msg =>
          cases h
          exact .receive msg rfl
  | dispatch msg =>
      rw [RxPc.runLoop_dispatch] at h
      cases h
      exact .dispatch msg
  | handle calls msg =>
      cases calls with
      | nil =>
          cases h
          exact .release msg
      | cons call calls =>
          cases h
          exact .notify call calls msg
  | ended => cases h

/-- Messages are held from `rx_recv` to `rx_release`. -/
theorem RxMove.held (h : RxMove rx ocudu now running wakes got pc pc' o) :
    pc.held ++ receivedMessages o.toList = releasedMessages o.toList ++ pc'.held := by
  cases h <;> rfl

/-- The thread is blocked in its sleep only, and ended where it was told to. -/
theorem RxPc.runLoop_isSome (hwaiting : pc = .waiting → wakes = true) (hended : pc ≠ .ended) :
    (pc.runLoop rx ocudu now running wakes got).isSome := by
  cases pc with
  | waiting =>
      rw [RxPc.runLoop, if_pos (hwaiting rfl)]
      rfl
  | recv =>
      cases got with
      | none | some _ => rfl
  | dispatch msg =>
      rw [RxPc.runLoop_dispatch]
      rfl
  | handle calls msg =>
      cases calls with
      | nil | cons _ _ => rfl
  | testRunning | semWait | retestRunning => rfl
  | ended => exact absurd rfl hended

end

section Example

def stopIndication : NvIpcMsg := ⟨0x06, 0, some [1, 0, 6, 0, 0, 0, 0, 0], 8, false, 0, by simp⟩

def exampleRx : RxThread := ⟨1, true, true, true, true⟩

end Example

end AerialBridge
