import AerialBridge.RxThread.Sequential
import AerialBridge.Transition.Inevitably
import Mathlib.Data.Prod.Lex

/-!
# No message is slept over

The RX thread drains the queue after each wakeup and sleeps on the semaphore, which L1 posts after
it has pushed.  When nvIPC's queue and semaphore are what they are called, a message that L1 has
posted for is never left behind by a sleeping thread, and left to itself the thread always comes to
rest.
-/

namespace AerialBridge

open Transition

/-- How often the thread has come back from `rx_sem_wait`. -/
def wakeups (log : List ShutdownEvent) : Nat :=
  (log.filter fun e ↦ match e with
    | .semWake => true
    | _ => false).length

theorem wakeups_append (xs ys : List ShutdownEvent) :
    wakeups (xs ++ ys) = wakeups xs + wakeups ys := by
  rw [wakeups, List.filter_append, List.length_append]
  rfl

/-- On the way to the semaphore, with the queue behind it. -/
def RxPc.GoesToWait : RxPc → Prop
  | .testRunning | .semWait | .waiting => True
  | _ => False

/-- How far it is to the end of the loop's body, once what is queued is drained. -/
def RxPc.place : RxPc → Nat
  | .dispatch _ => 6
  | .handle _ _ | .retestRunning => 5
  | .recv => 4
  | .testRunning => 3
  | .semWait => 2
  | .waiting => 1
  | .ended => 0

def RxPc.callsLeft : RxPc → Nat
  | .handle calls _ => calls.length
  | _ => 0

namespace RxState

/-- `rx_recv` comes back without a message only when all that was pushed has been handed out. -/
def RecvExhaustive (s : RxState) : RxLabel → Prop
  | .run _ _ none => s.pc = .recv → receivedMessages s.log = s.pushed
  | _ => True

/-- `rx_sem_wait` comes back once for a post. -/
def WakesPosted (s : RxState) : RxLabel → Prop
  | .run _ true _ => s.pc = .waiting → wakeups s.log < s.posts
  | _ => True

/-- What the bridge relies on: nvIPC has a queue and a semaphore. -/
structure NvIpcKeeps (s : RxState) (l : RxLabel) : Prop where
  recvInOrder : s.RecvInOrder l
  recvExhaustive : s.RecvExhaustive l
  wakesPosted : s.WakesPosted l

/-- The RX thread goes on, with a post that is pending waking it. -/
def GoesOn (s : RxState) : RxLabel → Prop
  | .run now wakes got => s.NvIpcKeeps (.run now wakes got) ∧
      (s.pc = .waiting → wakeups s.log < s.posts → wakes = true)
  | _ => False

/-- No post is pending; or the thread was told to leave its loop. -/
def AtRest (s : RxState) : Prop :=
  (s.pc = .waiting ∧ wakeups s.log = s.posts) ∨ (s.pc = .ended ∧ s.running = false)

instance (s : RxState) : (l : RxLabel) → Decidable (s.RecvExhaustive l)
  | .run _ _ none => inferInstanceAs (Decidable (_ → receivedMessages s.log = s.pushed))
  | .run _ _ (some _) | .stop | .push _ | .post => .isTrue trivial

instance (s : RxState) : (l : RxLabel) → Decidable (s.WakesPosted l)
  | .run _ true _ => inferInstanceAs (Decidable (_ → wakeups s.log < s.posts))
  | .run _ false _ | .stop | .push _ | .post => .isTrue trivial

instance (s : RxState) (l : RxLabel) : Decidable (s.NvIpcKeeps l) :=
  decidable_of_iff (s.RecvInOrder l ∧ s.RecvExhaustive l ∧ s.WakesPosted l)
    ⟨fun h ↦ ⟨h.1, h.2.1, h.2.2⟩, fun h ↦ ⟨h.1, h.2, h.3⟩⟩

/-- Without a post to wake it, a thread on the way to the semaphore has received what was posted
for. -/
structure Woken (s : RxState) : Prop where
  announced : s.announced <+: s.pushed
  wakeups_le : wakeups s.log ≤ s.posts
  woken : s.pc.GoesToWait → wakeups s.log = s.posts → s.announced <+: receivedMessages s.log
  ended : s.pc = .ended → s.running = false

variable {rx : RxThread} {ocudu : Ocudu} {s t : RxState} {ls : List RxLabel}

theorem init_woken : init.Woken where
  announced := List.nil_prefix
  wakeups_le := Nat.le_refl 0
  woken := fun _ _ ↦ List.nil_prefix
  ended := nofun

/-- A step that neither receives nor is woken changes only where the thread stands. -/
theorem Woken.move {pc : RxPc} {o : Option ShutdownEvent} (h : s.Woken)
    (hreceived : receivedMessages o.toList = []) (hwakeups : wakeups o.toList = 0)
    (hpc : pc.GoesToWait → s.pc.GoesToWait ∨ s.announced <+: receivedMessages s.log)
    (hended : pc = .ended → s.running = false) :
    ({ s with pc := pc, log := s.log ++ o.toList } : RxState).Woken := by
  have hlog : receivedMessages (s.log ++ o.toList) = receivedMessages s.log := by
    rw [receivedMessages_append, hreceived, List.append_nil]
  have hcount : wakeups (s.log ++ o.toList) = wakeups s.log := by
    rw [wakeups_append, hwakeups, Nat.add_zero]
  constructor
  · exact h.announced
  · rw [hcount]
    exact h.wakeups_le
  · intro hwait hposts
    rw [hcount] at hposts
    rw [hlog]
    exact (hpc hwait).elim (fun hbefore ↦ h.woken hbefore hposts) id
  · exact hended

theorem run_woken {now : Int} {wakes : Bool} {got : Option NvIpcMsg} (h : s.Woken)
    (hok : s.NvIpcKeeps (.run now wakes got))
    (hstep : s.step rx ocudu (.run now wakes got) = some t) : t.Woken := by
  obtain ⟨o, hmove, ht⟩ := step_run hstep
  rw [ht]
  generalize hbefore : s.pc = before at hmove
  generalize t.pc = after at hmove
  cases hmove with
  | goOn | sleep =>
      refine h.move rfl rfl (fun _ ↦ .inl ?_) nofun
      rw [hbefore]
      trivial
  | leave hrunning | leaveAwake hrunning => exact h.move rfl rfl nofun fun _ ↦ hrunning
  | wake hwakes =>
      subst hwakes
      have hposts := hok.wakesPosted hbefore
      constructor
      · exact h.announced
      · rw [wakeups_append]
        exact hposts
      · nofun
      · nofun
  | drain | dispatch | notify | release => exact h.move rfl rfl nofun nofun
  | drained hgot =>
      subst hgot
      refine h.move rfl rfl (fun _ ↦ .inr ?_) nofun
      -- nothing is queued, so nothing that has been posted for
      rw [hok.recvExhaustive hbefore]
      exact h.announced
  | receive msg hgot =>
      constructor
      · exact h.announced
      · rw [wakeups_append]
        exact h.wakeups_le
      · nofun
      · nofun

theorem step_woken {l : RxLabel} (h : s.Woken) (hok : s.NvIpcKeeps l)
    (hstep : s.step rx ocudu l = some t) : t.Woken := by
  cases l with
  | run now wakes got => exact run_woken h hok hstep
  | stop =>
      cases hstep
      exact ⟨h.announced, h.wakeups_le, h.woken, fun _ ↦ rfl⟩
  | push msg =>
      cases hstep
      exact ⟨h.announced.trans (List.prefix_append _ _), h.wakeups_le, h.woken, h.ended⟩
  | post =>
      cases hstep
      refine ⟨List.prefix_refl _, Nat.le_succ_of_le h.wakeups_le, ?_, h.ended⟩
      -- a post is pending
      intro _ hposts
      exact absurd (Nat.lt_succ_of_le h.wakeups_le) (Nat.not_lt_of_ge hposts.ge)

/-- A thread that waits has nothing in its hands. -/
theorem Woken.announced_released (h : s.Woken) (hheld : s.MessagesHeld) (hpc : s.pc = .waiting)
    (hposts : wakeups s.log = s.posts) : s.announced <+: releasedMessages s.log := by
  have hreceived : s.announced <+: receivedMessages s.log := by
    apply h.woken _ hposts
    rw [hpc]
    trivial
  rw [MessagesHeld, hpc] at hheld
  rw [hheld] at hreceived
  exact (List.append_nil (releasedMessages s.log)) ▸ hreceived

/-- A thread that sleeps on the semaphore with no post pending has received, handled and released
every message that L1 has posted for. -/
theorem rxThread_noLostWakeup (rx : RxThread) (ocudu : Ocudu)
    (h : Run (step rx ocudu) NvIpcKeeps init ls s) (hpc : s.pc = .waiting)
    (hposts : wakeups s.log = s.posts) : s.announced <+: releasedMessages s.log := by
  have hwoken : s.Woken :=
    h.invariant (fun _ _ _ hs hok hstep ↦ step_woken hs hok hstep) init_woken
  exact hwoken.announced_released (run_messagesHeld h) hpc hposts

/-! ## The RX thread left to itself -/

/-- The posts, the messages, the rest of the loop's body and the calls that are left. -/
def rank (s : RxState) : ℕ ×ₗ ℕ ×ₗ ℕ ×ₗ ℕ :=
  toLex (s.posts - wakeups s.log, toLex (s.pushed.length - (receivedMessages s.log).length,
    toLex (s.pc.place, s.pc.callsLeft)))

/-- Between two wakeups and two messages the thread moves on in its loop. -/
theorem rank_move {pc : RxPc} {o : Option ShutdownEvent}
    (hreceived : receivedMessages o.toList = []) (hwakeups : wakeups o.toList = 0)
    (hplace : pc.place < s.pc.place ∨ pc.place = s.pc.place ∧ pc.callsLeft < s.pc.callsLeft) :
    ({ s with pc := pc, log := s.log ++ o.toList } : RxState).rank < s.rank := by
  have hlog : receivedMessages (s.log ++ o.toList) = receivedMessages s.log := by
    rw [receivedMessages_append, hreceived, List.append_nil]
  have hcount : wakeups (s.log ++ o.toList) = wakeups s.log := by
    rw [wakeups_append, hwakeups, Nat.add_zero]
  simp only [rank, hlog, hcount, Prod.Lex.toLex_lt_toLex, true_and, lt_irrefl, false_or]
  exact hplace

theorem run_rank {now : Int} {wakes : Bool} {got : Option NvIpcMsg}
    (hok : s.NvIpcKeeps (.run now wakes got))
    (hstep : s.step rx ocudu (.run now wakes got) = some t) : t.rank < s.rank := by
  obtain ⟨o, hmove, ht⟩ := step_run hstep
  rw [ht]
  generalize hbefore : s.pc = before at hmove
  generalize t.pc = after at hmove
  cases hmove with
  | goOn | leave | sleep | drain | leaveAwake | drained | dispatch | release =>
      apply rank_move rfl rfl
      rw [hbefore]
      exact .inl (by simp [RxPc.place])
  | notify call calls msg =>
      apply rank_move rfl rfl
      rw [hbefore]
      exact .inr ⟨rfl, Nat.lt_succ_self _⟩
  | wake hwakes =>
      subst hwakes
      have hposts := hok.wakesPosted hbefore
      have hcount : wakeups (s.log ++ [.semWake]) = wakeups s.log + 1 := wakeups_append _ _
      apply Prod.Lex.toLex_lt_toLex.mpr
      left
      show s.posts - wakeups (s.log ++ [.semWake]) < s.posts - wakeups s.log
      omega
  | receive msg hgot =>
      subst hgot
      have hlength := (hok.recvInOrder hbefore).length_le
      have hcount : wakeups (s.log ++ [.recv (some msg)]) = wakeups s.log := wakeups_append _ _
      have hlog : receivedMessages (s.log ++ [.recv (some msg)]) = receivedMessages s.log ++ [msg] :=
        receivedMessages_append _ _
      rw [List.length_append, List.length_singleton] at hlength
      simp only [rank, Option.toList_some, hlog, hcount, List.length_append, List.length_singleton,
        Prod.Lex.toLex_lt_toLex, true_and, lt_irrefl, false_or]
      left
      omega

/-- nvIPC can answer as it should, whatever the thread asks. -/
theorem exists_goesOn (h : s.ReceivedInOrder) : ∃ l, s.GoesOn l := by
  obtain ⟨rest, hrest⟩ := h
  refine ⟨.run 0 (decide (wakeups s.log < s.posts)) rest.head?, ⟨?_, ?_, ?_⟩, ?_⟩
  · cases rest with
    | nil => trivial
    | cons msg rest =>
        intro _
        exact ⟨rest, by rw [← hrest, List.append_assoc]; rfl⟩
  · cases rest with
    | nil =>
        intro _
        rw [← hrest, List.append_nil]
    | cons msg rest => trivial
  · by_cases hposts : wakeups s.log < s.posts
    · rw [decide_eq_true hposts]
      exact fun _ ↦ hposts
    · rw [decide_eq_false hposts]
      trivial
  · exact fun _ hposts ↦ decide_eq_true hposts

theorem goesOn_step {l : RxLabel} (h : s.Woken) (hrest : ¬ s.AtRest) (hl : s.GoesOn l) :
    ∃ t, s.step rx ocudu l = some t ∧ s.NvIpcKeeps l ∧ t.rank < s.rank := by
  cases l with
  | run now wakes got =>
      have hsome : (s.pc.runLoop rx ocudu now s.running wakes got).isSome := by
        apply RxPc.runLoop_isSome
        · intro hpc
          apply hl.2 hpc
          exact Nat.lt_of_le_of_ne h.wakeups_le fun hposts ↦ hrest (.inl ⟨hpc, hposts⟩)
        · exact fun hpc ↦ hrest (.inr ⟨hpc, h.ended hpc⟩)
      obtain ⟨move, hmove⟩ := Option.isSome_iff_exists.mp hsome
      have hstep : s.step rx ocudu (.run now wakes got) =
          some { s with pc := move.1, log := s.log ++ move.2.toList } := by
        rw [step, hmove]
        rfl
      exact ⟨_, hstep, hl.1, run_rank hl.1 hstep⟩
  | stop | push msg | post => exact hl.elim

/-- From any state of any run, the RX thread comes to rest however its steps and nvIPC's answers go:
asleep with no post pending and all that was posted for handled, or out of its loop because it was
told to stop. -/
theorem rxThread_comesToRest (rx : RxThread) (ocudu : Ocudu)
    (h : Run (step rx ocudu) NvIpcKeeps init ls s) :
    Inevitably (step rx ocudu) GoesOn
      (fun t ↦ (t.pc = .waiting ∧ wakeups t.log = t.posts ∧
          t.announced <+: releasedMessages t.log) ∨
        (t.pc = .ended ∧ t.running = false)) s := by
  have hinv : s.Woken ∧ s.MessagesHeld ∧ s.ReceivedInOrder :=
    ⟨h.invariant (fun _ _ _ hs hok hstep ↦ step_woken hs hok hstep) init_woken,
      run_messagesHeld h, run_receivedInOrder (h.imp fun _ _ hok ↦ hok.recvInOrder)⟩
  refine Inevitably.of_rank wellFounded_lt rank
    (fun s ↦ s.Woken ∧ s.MessagesHeld ∧ s.ReceivedInOrder) ?_ ?_ hinv
  · exact fun s hs ↦ .inr (exists_goesOn hs.2.2)
  · rintro s l ⟨hwoken, hheld, hreceived⟩ hrest hl
    have hrest' : ¬ s.AtRest := by
      rintro (⟨hpc, hposts⟩ | hended)
      · exact hrest (.inl ⟨hpc, hposts, hwoken.announced_released hheld hpc hposts⟩)
      · exact hrest (.inr hended)
    obtain ⟨t, hstep, hok, hrank⟩ := goesOn_step hwoken hrest' hl
    exact ⟨t, hstep, ⟨step_woken hwoken hok hstep, step_messagesHeld hheld hstep,
      step_receivedInOrder hreceived hok.recvInOrder hstep⟩, hrank⟩

section Example

/-- The message that was posted for is handled, and the thread sleeps when L1 pushes another. -/
def asleepWithPush : List RxLabel := stopHandled ++ [RxLabel.push stopIndication]

theorem rxThread_noLostWakeup_push : ∃ s,
    Run (step exampleRx exampleOcudu) NvIpcKeeps init asleepWithPush s ∧
      s.pushed = [stopIndication, stopIndication] ∧ s.announced = [stopIndication] ∧
      s.announced <+: releasedMessages s.log := by
  have hrun : Run (step exampleRx exampleOcudu) NvIpcKeeps init asleepWithPush
      ⟨.waiting, true, [.semWait, .semWake, .recv (some stopIndication),
        .notified .onStopIndication, .release stopIndication, .recv none, .semWait],
        [stopIndication, stopIndication], [stopIndication], 1⟩ := .of_follow rfl
  exact ⟨_, hrun, rfl, rfl, rxThread_noLostWakeup _ _ hrun rfl rfl⟩

/-- The thread was told to stop while it slept, and L1 has posted for two messages. -/
def stoppedWithPost : List RxLabel :=
  [.run 0 true none, .run 0 true none, .stop, .push stopIndication, .push stopIndication, .post]

theorem rxThread_comesToRest_stop : ∃ s,
    Run (step exampleRx exampleOcudu) NvIpcKeeps init stoppedWithPost s ∧
      Inevitably (step exampleRx exampleOcudu) GoesOn
        (fun t ↦ (t.pc = .waiting ∧ wakeups t.log = t.posts ∧
            t.announced <+: releasedMessages t.log) ∨
          (t.pc = .ended ∧ t.running = false)) s := by
  have hrun : Run (step exampleRx exampleOcudu) NvIpcKeeps init stoppedWithPost
      ⟨.waiting, false, [.semWait], [stopIndication, stopIndication],
        [stopIndication, stopIndication], 1⟩ := .of_follow rfl
  exact ⟨_, hrun, rxThread_comesToRest _ _ hrun⟩

end Example

end RxState

end AerialBridge
