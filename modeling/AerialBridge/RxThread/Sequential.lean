import AerialBridge.RxThread.RunLoop
import AerialBridge.Transition.Run

/-!
# One message after the other

The RX thread from its start on, as long as the nvIPC handle is there.  L1 pushes messages and posts
the semaphore at any time, `stop` may clear `running_` at any time, and nvIPC answers as it likes;
what the thread does with messages is still done one message after the other: it receives the
message, makes the calls that dispatching it gives, and releases it.
-/

namespace AerialBridge

open Transition

/-- The RX thread and what L1 has done: the messages it has pushed, those among them that it has
posted the semaphore for, and the number of posts. -/
structure RxState where
  pc : RxPc
  running : Bool
  log : List ShutdownEvent
  pushed : List NvIpcMsg
  announced : List NvIpcMsg
  posts : Nat

/-- A step of the RX thread takes the clock and nvIPC's answers with it. -/
inductive RxLabel
  | run (now : Int) (wakes : Bool) (got : Option NvIpcMsg)
  | stop
  | push (msg : NvIpcMsg)
  | post

namespace RxState

/-- The RX thread has just been started. -/
def init : RxState := ⟨.testRunning, true, [], [], [], 0⟩

def step (rx : RxThread) (ocudu : Ocudu) (s : RxState) : RxLabel → Option RxState
  | .run now wakes got => (s.pc.runLoop rx ocudu now s.running wakes got).map fun move ↦
      { s with pc := move.1, log := s.log ++ move.2.toList }
  | .stop => some { s with running := false }
  | .push msg => some { s with pushed := s.pushed ++ [msg] }
  | .post => some { s with announced := s.pushed, posts := s.posts + 1 }

/-- nvIPC hands out each message that L1 has pushed once, in the order in which they were pushed. -/
def RecvInOrder (s : RxState) : RxLabel → Prop
  | .run _ _ (some msg) => s.pc = .recv → receivedMessages s.log ++ [msg] <+: s.pushed
  | _ => True

instance (s : RxState) : (l : RxLabel) → Decidable (s.RecvInOrder l)
  | .run _ _ (some msg) =>
      inferInstanceAs (Decidable (_ → receivedMessages s.log ++ [msg] <+: s.pushed))
  | .run _ _ none | .stop | .push _ | .post => .isTrue trivial

end RxState

/-- What is done with messages: `rx_recv`, the notifier calls and `rx_release`. -/
def ShutdownEvent.handles : ShutdownEvent → Bool
  | .recv (some _) | .notified _ | .release _ => true
  | _ => false

def handling (log : List ShutdownEvent) : List ShutdownEvent := log.filter ShutdownEvent.handles

theorem handling_append (xs ys : List ShutdownEvent) :
    handling (xs ++ ys) = handling xs ++ handling ys := List.filter_append xs ys

/-- All that is done with a message dispatched at the given time. -/
def handled (rx : RxThread) (ocudu : Ocudu) (m : NvIpcMsg × Int) : List ShutdownEvent :=
  .recv (some m.1) :: ((rx.calls ocudu m.2 m.1).map .notified ++ [.release m.1])

/-- What has been done with the message that is in the RX thread's hands. -/
def RxPc.Begun (rx : RxThread) (ocudu : Ocudu) (events : List ShutdownEvent) : RxPc → Prop
  | .dispatch msg => events = [.recv (some msg)]
  | .handle calls msg => ∃ now made, rx.calls ocudu now msg = made ++ calls ∧
      events = .recv (some msg) :: made.map .notified
  | _ => events = []

/-- The messages that are done with, and what the RX thread has begun. -/
structure Sequential (rx : RxThread) (ocudu : Ocudu) (pc : RxPc) (log : List ShutdownEvent)
    (done : List (NvIpcMsg × Int)) : Prop where
  begun : ∃ events, handling log = done.flatMap (handled rx ocudu) ++ events ∧
    pc.Begun rx ocudu events
  released : releasedMessages log = done.map Prod.fst

section

variable {rx : RxThread} {ocudu : Ocudu} {now : Int} {running wakes : Bool} {got : Option NvIpcMsg}
  {pc pc' : RxPc} {o : Option ShutdownEvent} {log : List ShutdownEvent}

/-- A step that does nothing with messages. -/
theorem Sequential.keep {done : List (NvIpcMsg × Int)} (h : Sequential rx ocudu pc log done)
    (hhandles : handling o.toList = []) (hreleased : releasedMessages o.toList = [])
    (hpc : ∀ events, pc.Begun rx ocudu events → pc'.Begun rx ocudu events) :
    Sequential rx ocudu pc' (log ++ o.toList) done where
  begun := by
    obtain ⟨events, hevents, hbegun⟩ := h.begun
    refine ⟨events, ?_, hpc events hbegun⟩
    rw [handling_append, hhandles, List.append_nil, hevents]
  released := by
    rw [releasedMessages_append, hreleased, List.append_nil, h.released]

theorem RxMove.sequential {done : List (NvIpcMsg × Int)} (h : Sequential rx ocudu pc log done)
    (hmove : RxMove rx ocudu now running wakes got pc pc' o) :
    ∃ done', Sequential rx ocudu pc' (log ++ o.toList) done' := by
  cases hmove with
  | goOn | leave | sleep | wake | drain | leaveAwake | drained =>
      exact ⟨done, h.keep rfl rfl fun _ ↦ id⟩
  | receive msg =>
      obtain ⟨⟨events, hevents, hnone⟩, hreleased⟩ := h
      change events = [] at hnone
      refine ⟨done, ⟨[.recv (some msg)], ?_, rfl⟩, ?_⟩
      · rw [handling_append, hevents, hnone, List.append_nil]
        rfl
      · rw [releasedMessages_append, hreleased]
        exact List.append_nil _
  | dispatch msg =>
      refine ⟨done, h.keep rfl rfl fun events hbegun ↦ ⟨now, [], ?_, hbegun⟩⟩
      rw [List.nil_append]
  | notify call calls msg =>
      obtain ⟨⟨events, hevents, time, made, hcalls, hmade⟩, hreleased⟩ := h
      refine ⟨done, ⟨.recv (some msg) :: (made ++ [call]).map .notified, ?_, time,
        made ++ [call], ?_, rfl⟩, ?_⟩
      · rw [handling_append, hevents, hmade, List.append_assoc, List.map_append]
        rfl
      · rw [hcalls, List.append_assoc]
        rfl
      · rw [releasedMessages_append, hreleased]
        exact List.append_nil _
  | release msg =>
      obtain ⟨⟨events, hevents, time, made, hcalls, hmade⟩, hreleased⟩ := h
      -- the last call is made, and the release ends what is done with the message
      refine ⟨done ++ [(msg, time)], ⟨[], ?_, rfl⟩, ?_⟩
      · rw [handling_append, hevents, hmade, List.append_nil, List.flatMap_append,
          List.flatMap_singleton, handled, hcalls, List.append_nil, List.append_assoc]
        rfl
      · rw [releasedMessages_append, hreleased, List.map_append]
        rfl

end

/-! ## Runs -/

namespace RxState

variable {rx : RxThread} {ocudu : Ocudu} {s t : RxState} {ok : RxState → RxLabel → Prop}
  {ls : List RxLabel}

/-- A step of the RX thread is one of the loop's, and its event goes into the log. -/
theorem step_run {now : Int} {wakes : Bool} {got : Option NvIpcMsg}
    (hstep : s.step rx ocudu (.run now wakes got) = some t) :
    ∃ o, RxMove rx ocudu now s.running wakes got s.pc t.pc o ∧
      t = { s with pc := t.pc, log := s.log ++ o.toList } := by
  obtain ⟨⟨pc, o⟩, hmove, rfl⟩ := Option.map_eq_some_iff.mp hstep
  exact ⟨o, RxPc.runLoop_move hmove, rfl⟩

/-- What has been received is released, or in the RX thread's hands. -/
def MessagesHeld (s : RxState) : Prop :=
  receivedMessages s.log = releasedMessages s.log ++ s.pc.held

theorem step_messagesHeld (h : s.MessagesHeld) {l : RxLabel}
    (hstep : s.step rx ocudu l = some t) : t.MessagesHeld := by
  unfold MessagesHeld at *
  cases l with
  | run now wakes got =>
      obtain ⟨o, hmove, ht⟩ := step_run hstep
      rw [ht, receivedMessages_append, releasedMessages_append, h, List.append_assoc, hmove.held,
        List.append_assoc]
  | stop | push msg | post =>
      cases hstep
      exact h

theorem step_sequential {done : List (NvIpcMsg × Int)} (h : Sequential rx ocudu s.pc s.log done)
    {l : RxLabel} (hstep : s.step rx ocudu l = some t) :
    ∃ done', Sequential rx ocudu t.pc t.log done' := by
  cases l with
  | run now wakes got =>
      obtain ⟨o, hmove, ht⟩ := step_run hstep
      rw [ht]
      exact hmove.sequential h
  | stop | push msg | post =>
      cases hstep
      exact ⟨done, h⟩

/-- What has been received is a first part of what L1 has pushed. -/
def ReceivedInOrder (s : RxState) : Prop := receivedMessages s.log <+: s.pushed

theorem step_receivedInOrder (h : s.ReceivedInOrder) {l : RxLabel} (hok : s.RecvInOrder l)
    (hstep : s.step rx ocudu l = some t) : t.ReceivedInOrder := by
  unfold ReceivedInOrder at *
  cases l with
  | run now wakes got =>
      obtain ⟨o, hmove, ht⟩ := step_run hstep
      rw [ht, receivedMessages_append]
      generalize hbefore : s.pc = before at hmove
      generalize t.pc = after at hmove
      cases hmove with
      | receive msg hgot =>
          subst hgot
          exact hok hbefore
      | goOn | leave | sleep | wake | drain | leaveAwake | drained | dispatch | notify | release =>
          exact (List.append_nil (receivedMessages s.log)).symm ▸ h
  | push msg =>
      cases hstep
      exact h.trans (List.prefix_append _ _)
  | stop | post =>
      cases hstep
      exact h

theorem run_receivedInOrder (h : Run (step rx ocudu) RecvInOrder init ls s) : s.ReceivedInOrder :=
  h.invariant (fun _ _ _ hs hok hstep ↦ step_receivedInOrder hs hok hstep) List.nil_prefix

theorem run_messagesHeld (h : Run (step rx ocudu) ok init ls s) : s.MessagesHeld :=
  h.invariant (fun _ _ _ hs _ hstep ↦ step_messagesHeld hs hstep) rfl

theorem run_sequential (h : Run (step rx ocudu) ok init ls s) :
    ∃ done, Sequential rx ocudu s.pc s.log done := by
  have hinit : ∃ done, Sequential rx ocudu init.pc init.log done := ⟨[], ⟨[], rfl, rfl⟩, rfl⟩
  apply h.invariant _ hinit
  rintro s l t ⟨done, hdone⟩ _ hstep
  exact step_sequential hdone hstep

/-- Whatever L1 does and nvIPC answers, the messages that have been received are handled whole, one
after the other, in the order in which they were received: the RX thread has handled all of them
but the one in its hands, of which it has made a first part of the calls. -/
theorem rxThread_sequential (rx : RxThread) (ocudu : Ocudu) {ls : List RxLabel} {s : RxState}
    (h : Run (step rx ocudu) Anywhere init ls s) :
    ∃ (done : List (NvIpcMsg × Int)) (events : List ShutdownEvent),
      handling s.log = done.flatMap (handled rx ocudu) ++ events ∧
      s.pc.Begun rx ocudu events ∧
      receivedMessages s.log = done.map Prod.fst ++ s.pc.held := by
  obtain ⟨done, ⟨events, hevents, hbegun⟩, hreleased⟩ := run_sequential h
  refine ⟨done, events, hevents, hbegun, ?_⟩
  rw [run_messagesHeld h, hreleased]

section Example

/-- An L1 that announces a STOP.indication, and an RX thread that finds it there and nothing more. -/
def stopHandled : List RxLabel :=
  [RxLabel.push stopIndication, .post] ++ List.replicate 4 (RxLabel.run 0 true none) ++
    RxLabel.run 0 true (some stopIndication) :: List.replicate 6 (RxLabel.run 0 true none)

theorem rxThread_sequential_stop : ∃ s,
    Run (step exampleRx exampleOcudu) Anywhere init stopHandled s ∧ ∃ done : List (NvIpcMsg × Int),
      handling s.log = done.flatMap (handled exampleRx exampleOcudu) ∧
      done.map Prod.fst = [stopIndication] := by
  have hrun : Run (step exampleRx exampleOcudu) Anywhere init stopHandled
      ⟨.waiting, true, [.semWait, .semWake, .recv (some stopIndication),
        .notified .onStopIndication, .release stopIndication, .recv none, .semWait],
        [stopIndication], [stopIndication], 1⟩ := .of_follow rfl
  obtain ⟨done, events, hevents, hbegun, hreceived⟩ := rxThread_sequential _ _ hrun
  have hnone : events = [] := hbegun
  rw [hnone, List.append_nil] at hevents
  change [stopIndication] = done.map Prod.fst ++ [] at hreceived
  rw [List.append_nil] at hreceived
  exact ⟨_, hrun, done, hevents, hreceived.symm⟩

end Example

end RxState

end AerialBridge
