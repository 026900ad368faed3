import AerialBridge.RxThread.RunLoop
import AerialBridge.Transition.Run

/-!
# Shutting the RX thread down

`rx_thread::run_loop` beside `~aerial_fapi_adaptor`, which stops the thread by clearing `running_`
and detaching it, then destroys the nvIPC handle.  The thread tests `running_` around its semaphore
wait and nowhere else, so what it still does with the handle depends on where it is suspended.
-/

namespace AerialBridge

open Transition

/-- Where the destroying thread stands: in `rx_thread::stop`, then in
`nvipc_transport::disconnect`. -/
inductive AdaptorPc
  | alive
  | testRunning
  | clearRunning
  | detach
  | testIpc
  | ipcDestroy
  | clearIpc
  | gone
  deriving DecidableEq, Repr

structure ShutdownState where
  rxPc : RxPc
  adaptorPc : AdaptorPc
  running : Bool
  joinable : Bool
  ipc : Bool
  sem : Nat
  queue : List NvIpcMsg
  log : List ShutdownEvent

/-- The two threads take their steps in any order; L1 queues messages and posts the semaphore.  The
clock is the one the RX thread reads when it dispatches. -/
inductive ShutdownLabel
  | rx (now : Int)
  | adaptor
  | push (msg : NvIpcMsg)
  | semPost

namespace ShutdownState

/-- The adaptor is connected and the RX thread has just been started. -/
def init : ShutdownState := ⟨.testRunning, .alive, true, true, true, 0, [], []⟩

/-- nvIPC hands out what is queued, and lets the thread go on when a post is pending.  A transport
operation on a destroyed handle is undefined; the log shows it. -/
def runLoop (rx : RxThread) (ocudu : Ocudu) (now : Int) (s : ShutdownState) :
    Option ShutdownState :=
  (s.rxPc.runLoop rx ocudu now s.running (0 < s.sem) s.queue.head?).map fun move ↦ { s with
    rxPc := move.1
    sem := match move.2 with
      | some .semWake => s.sem - 1
      | _ => s.sem
    queue := match move.2 with
      | some (.recv _) => s.queue.tail
      | _ => s.queue
    log := s.log ++ move.2.toList }

/-- `~aerial_fapi_adaptor`.  The members' own destructors call `stop` and `disconnect` again and find
nothing left to do. -/
def destroyAdaptor (s : ShutdownState) : Option ShutdownState :=
  match s.adaptorPc with
  | .alive => some { s with adaptorPc := .testRunning }
  | .testRunning => some { s with adaptorPc := if s.running then .clearRunning else .testIpc }
  | .clearRunning => some { s with adaptorPc := .detach, running := false }
  -- a thread that is not joinable is left alone
  | .detach => some { s with adaptorPc := .testIpc, joinable := false }
  | .testIpc => some { s with adaptorPc := if s.ipc then .ipcDestroy else .gone }
  | .ipcDestroy => some { s with adaptorPc := .clearIpc, log := s.log ++ [.ipcDestroy] }
  | .clearIpc => some { s with adaptorPc := .gone, ipc := false }
  | .gone => none

def step (rx : RxThread) (ocudu : Ocudu) (s : ShutdownState) : ShutdownLabel → Option ShutdownState
  | .rx now => s.runLoop rx ocudu now
  | .adaptor => s.destroyAdaptor
  | .push msg => some { s with queue := s.queue ++ [msg] }
  | .semPost => some { s with sem := s.sem + 1 }

end ShutdownState

/-- The handle is destroyed only when all received messages have been released, and the RX thread
does nothing after that. -/
def Quiescent (before : List ShutdownEvent) : ShutdownEvent → Prop
  | .ipcDestroy => releasedMessages before = receivedMessages before
  | _ => .ipcDestroy ∉ before

/-- The RX thread is at one of its tests of `running_`, or has left `run_loop`. -/
def RxPc.AtTest : RxPc → Prop
  | .testRunning | .retestRunning | .ended => True
  | _ => False

/-- The handle is destroyed only while the RX thread is at a test. -/
def DestroysAtTest (s : ShutdownState) : ShutdownLabel → Prop
  | .adaptor => s.adaptorPc = .ipcDestroy → s.rxPc.AtTest
  | _ => True

instance : (pc : RxPc) → Decidable pc.AtTest
  | .testRunning | .retestRunning | .ended => .isTrue trivial
  | .semWait | .waiting | .recv | .dispatch _ | .handle _ _ => .isFalse id

instance (s : ShutdownState) : (l : ShutdownLabel) → Decidable (DestroysAtTest s l)
  | .adaptor => inferInstanceAs (Decidable (_ → _))
  | .rx _ | .push _ | .semPost => .isTrue trivial

/-! ## What the steps do -/

theorem RxPc.held_of_atTest {pc : RxPc} (h : pc.AtTest) : pc.held = [] := by
  cases pc with
  | dispatch _ | handle _ _ => exact h.elim
  | _ => rfl

/-- `stop` has run, or had nothing to do. -/
def AdaptorPc.PastStop : AdaptorPc → Prop
  | .alive | .testRunning | .clearRunning => False
  | _ => True

namespace ShutdownState

variable {rx : RxThread} {ocudu : Ocudu} {s t : ShutdownState} {ls : List ShutdownLabel}

/-- A step of the RX thread and the event it logs: messages are held from `rx_recv` to `rx_release`,
and at a test nothing happens but the choice of the next place. -/
structure RxStep (s t : ShutdownState) (o : Option ShutdownEvent) : Prop where
  adaptorPc : t.adaptorPc = s.adaptorPc
  running : t.running = s.running
  log : t.log = s.log ++ o.toList
  moved : s.rxPc.held ++ receivedMessages o.toList = releasedMessages o.toList ++ t.rxPc.held
  not_destroy : o ≠ some .ipcDestroy
  at_test : s.rxPc.AtTest → o = none ∧ (s.running = false → t.rxPc.AtTest)

theorem runLoop_spec {now : Int} (hstep : s.runLoop rx ocudu now = some t) :
    ∃ o, RxStep s t o := by
  obtain ⟨⟨pc, o⟩, hmove, rfl⟩ := Option.map_eq_some_iff.mp hstep
  have hrx := RxPc.runLoop_move hmove
  refine ⟨o, rfl, rfl, rfl, hrx.held, ?_, ?_⟩
  · intro ho
    generalize s.rxPc = before at hrx
    rw [ho] at hrx
    cases hrx
  · intro htest
    generalize s.rxPc = before at hrx htest
    cases hrx with
    | goOn h | drain h => exact ⟨rfl, fun hrunning ↦ absurd (h.symm.trans hrunning) nofun⟩
    | leave h | leaveAwake h => exact ⟨rfl, fun _ ↦ trivial⟩
    | sleep | wake | drained | receive | dispatch | notify | release => exact htest.elim

/-- A step of the destroying thread. -/
structure AdaptorStep (s t : ShutdownState) : Prop where
  rxPc : t.rxPc = s.rxPc
  log : t.log = s.log ∧ s.adaptorPc ≠ .ipcDestroy ∨
    t.log = s.log ++ [.ipcDestroy] ∧ s.adaptorPc = .ipcDestroy
  running : s.running = false → t.running = false
  stopped : (s.adaptorPc.PastStop → s.running = false) → t.adaptorPc.PastStop → t.running = false

theorem destroyAdaptor_spec (hstep : s.destroyAdaptor = some t) : AdaptorStep s t := by
  obtain ⟨rxPc, pc, running, joinable, ipc, sem, queue, log⟩ := s
  cases pc with
  | alive =>
      cases hstep
      exact ⟨rfl, .inl ⟨rfl, nofun⟩, id, fun _ ↦ nofun⟩
  | testRunning =>
      cases hstep
      refine ⟨rfl, .inl ⟨rfl, nofun⟩, id, fun _ h ↦ ?_⟩
      cases running with
      | false => rfl
      | true => cases h
  | clearRunning =>
      cases hstep
      exact ⟨rfl, .inl ⟨rfl, nofun⟩, fun _ ↦ rfl, fun _ _ ↦ rfl⟩
  | detach | testIpc | clearIpc =>
      cases hstep
      exact ⟨rfl, .inl ⟨rfl, nofun⟩, id, fun h _ ↦ h trivial⟩
  | ipcDestroy =>
      cases hstep
      exact ⟨rfl, .inr ⟨rfl, rfl⟩, id, fun h _ ↦ h trivial⟩
  | gone => cases hstep

/-! ## Runs -/

/-- What has been received is released, or in the RX thread's hands. -/
def MessagesHeld (s : ShutdownState) : Prop :=
  receivedMessages s.log = releasedMessages s.log ++ s.rxPc.held

/-- Once the handle is destroyed the RX thread only has tests left, which will end it. -/
structure Quiet (s : ShutdownState) : Prop where
  messagesHeld : s.MessagesHeld
  stopped : s.adaptorPc.PastStop → s.running = false
  at_test : .ipcDestroy ∈ s.log → s.running = false ∧ s.rxPc.AtTest
  quiescent : Admissible Quiescent s.log

theorem rxStep_messagesHeld {o : Option ShutdownEvent} (h : s.MessagesHeld) (hstep : RxStep s t o) :
    t.MessagesHeld := by
  unfold MessagesHeld at *
  rw [hstep.log, receivedMessages_append, releasedMessages_append, h, List.append_assoc,
    hstep.moved, List.append_assoc]

theorem adaptorStep_messagesHeld (h : s.MessagesHeld) (hstep : AdaptorStep s t) :
    t.MessagesHeld := by
  unfold MessagesHeld at *
  rw [hstep.rxPc]
  rcases hstep.log with ⟨hlog, _⟩ | ⟨hlog, _⟩
  · rw [hlog, h]
  · rw [hlog, receivedMessages_append, releasedMessages_append, h]
    simp [receivedMessages, releasedMessages]

theorem step_messagesHeld (h : s.MessagesHeld) (l : ShutdownLabel)
    (hstep : s.step rx ocudu l = some t) : t.MessagesHeld := by
  cases l with
  | rx now =>
      obtain ⟨o, hrx⟩ := runLoop_spec hstep
      exact rxStep_messagesHeld h hrx
  | adaptor => exact adaptorStep_messagesHeld h (destroyAdaptor_spec hstep)
  | push msg | semPost =>
      cases hstep
      exact h

theorem rxStep_quiet {o : Option ShutdownEvent} (h : s.Quiet) (hstep : RxStep s t o) :
    t.Quiet where
  messagesHeld := rxStep_messagesHeld h.messagesHeld hstep
  stopped := by
    rw [hstep.adaptorPc, hstep.running]
    exact h.stopped
  at_test := by
    intro hmem
    rw [hstep.log, List.mem_append] at hmem
    rcases hmem with hmem | hmem
    · have htest := h.at_test hmem
      rw [hstep.running]
      exact ⟨htest.1, (hstep.at_test htest.2).2 htest.1⟩
    · exact absurd (Option.mem_toList.mp hmem) hstep.not_destroy
  quiescent := by
    rw [hstep.log]
    cases o with
    | none => simpa using h.quiescent
    | some e =>
        apply h.quiescent.concat
        -- an RX thread that logs an event is not at a test, so the handle is still there
        have halive : .ipcDestroy ∉ s.log := fun hmem ↦
          nomatch (hstep.at_test (h.at_test hmem).2).1
        cases e with
        | ipcDestroy => exact absurd rfl hstep.not_destroy
        | _ => exact halive

theorem adaptorStep_quiet (h : s.Quiet) (hok : s.adaptorPc = .ipcDestroy → s.rxPc.AtTest)
    (hstep : AdaptorStep s t) : t.Quiet where
  messagesHeld := adaptorStep_messagesHeld h.messagesHeld hstep
  stopped := hstep.stopped h.stopped
  at_test := by
    rw [hstep.rxPc]
    rcases hstep.log with ⟨hlog, _⟩ | ⟨hlog, hpc⟩
    · rw [hlog]
      intro hmem
      have htest := h.at_test hmem
      exact ⟨hstep.running htest.1, htest.2⟩
    · intro _
      have hpast : s.adaptorPc.PastStop := by
        rw [hpc]
        trivial
      exact ⟨hstep.running (h.stopped hpast), hok hpc⟩
  quiescent := by
    rcases hstep.log with ⟨hlog, _⟩ | ⟨hlog, hpc⟩
    · rw [hlog]
      exact h.quiescent
    · rw [hlog]
      apply h.quiescent.concat
      show releasedMessages s.log = receivedMessages s.log
      rw [h.messagesHeld, RxPc.held_of_atTest (hok hpc)]
      exact (List.append_nil _).symm

theorem step_quiet (h : s.Quiet) (l : ShutdownLabel) (hok : DestroysAtTest s l)
    (hstep : s.step rx ocudu l = some t) : t.Quiet := by
  cases l with
  | rx now =>
      obtain ⟨o, hrx⟩ := runLoop_spec hstep
      exact rxStep_quiet h hrx
  | adaptor => exact adaptorStep_quiet h hok (destroyAdaptor_spec hstep)
  | push msg | semPost =>
      cases hstep
      exact ⟨h.messagesHeld, h.stopped, h.at_test, h.quiescent⟩

theorem init_messagesHeld : init.MessagesHeld := rfl

theorem init_quiet : init.Quiet := ⟨init_messagesHeld, nofun, nofun, .nil⟩

/-- A thread that still logs an event after the handle is gone breaks the quiet. -/
theorem not_quiescent_of_event {log : List ShutdownEvent} {e : ShutdownEvent}
    (he : e ≠ .ipcDestroy) : ¬ Admissible Quiescent (log ++ [.ipcDestroy] ++ [e]) := by
  intro h
  have hpermitted := h (log ++ [.ipcDestroy]) e [] rfl
  have hmem : .ipcDestroy ∈ log ++ [ShutdownEvent.ipcDestroy] :=
    List.mem_append_right log (List.mem_singleton_self _)
  cases e with
  | ipcDestroy => exact he rfl
  | _ => exact hpermitted hmem

/-- A message in the RX thread's hands when the handle is destroyed has not been released. -/
theorem not_quiescent_of_held (h : s.MessagesHeld) (hheld : s.rxPc.held ≠ []) :
    ¬ Admissible Quiescent (s.log ++ [.ipcDestroy]) := by
  intro hadm
  have hpermitted : releasedMessages s.log = receivedMessages s.log := hadm s.log .ipcDestroy [] rfl
  rw [h] at hpermitted
  exact hheld (List.self_eq_append_right.mp hpermitted)

/-- Wherever else the RX thread is suspended, it can go on and break the quiet. -/
theorem exists_not_quiescent (h : s.MessagesHeld) (hpc : s.adaptorPc = .ipcDestroy)
    (htest : ¬ s.rxPc.AtTest) :
    ∃ ls t, Run (step rx ocudu) Anywhere s ls t ∧ ¬ Admissible Quiescent t.log := by
  obtain ⟨rxPc, adaptorPc, running, joinable, ipc, sem, queue, log⟩ := s
  have hdestroy : adaptorPc = .ipcDestroy := hpc
  subst hdestroy
  cases rxPc with
  | testRunning | retestRunning | ended => exact absurd trivial htest
  | semWait =>
      exact ⟨[.adaptor, .rx 0], _, .cons trivial rfl (.single trivial rfl),
        not_quiescent_of_event nofun⟩
  | waiting =>
      exact ⟨[.adaptor, .semPost, .rx 0], _,
        .cons trivial rfl (.cons trivial rfl (.single trivial rfl)), not_quiescent_of_event nofun⟩
  | recv =>
      cases queue with
      | nil =>
          exact ⟨[.adaptor, .rx 0], _, .cons trivial rfl (.single trivial rfl),
            not_quiescent_of_event nofun⟩
      | cons msg msgs =>
          exact ⟨[.adaptor, .rx 0], _, .cons trivial rfl (.single trivial rfl),
            not_quiescent_of_event nofun⟩
  | dispatch msg =>
      exact ⟨[.adaptor], _, .single trivial rfl, not_quiescent_of_held h (List.cons_ne_nil _ _)⟩
  | handle calls msg =>
      exact ⟨[.adaptor], _, .single trivial rfl, not_quiescent_of_held h (List.cons_ne_nil _ _)⟩

/-- Shutting down is quiet in every run that destroys the handle while the RX thread is at a test of
`running_`; where it is destroyed with the RX thread anywhere else, the run can be continued to one
that is not. -/
theorem shutdown_quiescent (rx : RxThread) (ocudu : Ocudu) :
    (∀ ls s, Run (step rx ocudu) DestroysAtTest init ls s → Admissible Quiescent s.log) ∧
      ∀ ls s, Run (step rx ocudu) Anywhere init ls s → s.adaptorPc = .ipcDestroy →
        ¬ s.rxPc.AtTest →
        ∃ ls' t, Run (step rx ocudu) Anywhere s ls' t ∧ ¬ Admissible Quiescent t.log := by
  apply And.intro
  · intro ls s hrun
    exact (hrun.invariant (fun _ l _ hs hok hstep ↦ step_quiet hs l hok hstep) init_quiet).quiescent
  · intro ls s hrun hpc htest
    have hheld := hrun.invariant (fun _ l _ hs _ hstep ↦ step_messagesHeld hs l hstep)
      init_messagesHeld
    exact exists_not_quiescent hheld hpc htest

section Example

/-- L1 sends a STOP.indication, and the RX thread has it in its hands. -/
def stopReceived : List ShutdownLabel :=
  [.push stopIndication, .semPost, .rx 0, .rx 0, .rx 0, .rx 0, .rx 0]

/-- Dispatch, notifier call and release. -/
def stopHandled : List ShutdownLabel := [.rx 0, .rx 0, .rx 0]

/-- The destroying thread, up to and including `ipc_destroy`. -/
def throughDestroy : List ShutdownLabel :=
  [.adaptor, .adaptor, .adaptor, .adaptor, .adaptor, .adaptor]

/-- The queue is drained before the destroying thread begins. -/
theorem shutdown_quiescent_drained :
    Admissible Quiescent [.semWait, .semWake, .recv (some stopIndication),
      .notified .onStopIndication, .release stopIndication, .recv none, .ipcDestroy] := by
  have hrun : Run (step exampleRx exampleOcudu) DestroysAtTest init
      (stopReceived ++ (stopHandled ++ (.rx 0 :: throughDestroy)))
      ⟨.testRunning, .clearIpc, false, false, true, 0, [],
        [.semWait, .semWake, .recv (some stopIndication), .notified .onStopIndication,
          .release stopIndication, .recv none, .ipcDestroy]⟩ := .of_follow rfl
  exact (shutdown_quiescent exampleRx exampleOcudu).1 _ _ hrun

/-- Suspended before the dispatch, the RX thread calls the notifier after the handle is gone. -/
theorem stop_notified_after_destroy :
    ¬ ∀ (rx : RxThread) (ocudu : Ocudu) (ls : List ShutdownLabel) (s : ShutdownState),
      Run (step rx ocudu) Anywhere init ls s → Admissible Quiescent s.log := by
  intro h
  have hrun : Run (step exampleRx exampleOcudu) Anywhere init
      (stopReceived ++ (throughDestroy ++ stopHandled))
      ⟨.recv, .clearIpc, false, false, true, 0, [],
        [.semWait, .semWake, .recv (some stopIndication), .ipcDestroy, .notified .onStopIndication,
          .release stopIndication]⟩ := .of_follow rfl
  have hpermitted := h _ _ _ _ hrun [.semWait, .semWake, .recv (some stopIndication), .ipcDestroy]
    (.notified .onStopIndication) [.release stopIndication] rfl
  apply hpermitted
  simp

end Example

end ShutdownState

end AerialBridge
