import AerialBridge.Gateway.Buffers

/-!
# What reaches L1

However the calls of several threads are interleaved, L1 reads the accepted messages in the order in
which they were sent, each as its request's encoding: while a thread writes, the buffers of the
messages that are under way are others.
-/

namespace AerialBridge

open Bytes Transition Ownership

/-- What a thread has in its hands is good to send. -/
def GatewayPc.Sound (l : Layout) (forceTable0 : Bool) (mem : Mem) : GatewayPc → Prop
  | idle => True
  | allocating req | filling req _ _ => req.Fits forceTable0
  | releasing _ _ _ => False
  | sending req w => w.Holds l forceTable0 mem req

theorem GatewayPc.Sound.kept {l : Layout} {forceTable0 : Bool} {mem mem' : Mem} {pc : GatewayPc}
    (h : pc.Sound l forceTable0 mem) (hkept : ∀ b ∈ pc.bufs, l.Kept mem mem' b) :
    pc.Sound l forceTable0 mem' := by
  cases pc with
  | sending req w => exact TxIpcMsg.Holds.kept h hkept
  | idle | allocating _ | filling _ _ _ | releasing _ _ _ => exact h

namespace GatewayState

variable {C : Type} [DecidableEq C] {l : Layout} {forceTable0 : Bool} {s t : GatewayState C} {c : C}
  {mem : Mem} {pc : GatewayPc} {o : Option TxEvent}

/-- What was accepted is what L1 has read and what waits for it, in this order. -/
structure Delivers (l : Layout) (forceTable0 : Bool) (s : GatewayState C)
    (done pending : List (GatewayRequest × TxIpcMsg)) : Prop where
  accepted : accepted s.log = done ++ pending
  read : List.Forall₂ (fun x y ↦ y.1 = x.2 ∧ x.1.Fits forceTable0 ∧ x.1.DeliveredBy forceTable0 y.2)
    done (received s.log)
  waiting : ∀ x ∈ pending, x.2.Holds l forceTable0 s.mem x.1

/-- The buffers of every message that is under way hold what was sent. -/
structure Sound (l : Layout) (forceTable0 : Bool) (s : GatewayState C) : Prop where
  callers : ∀ c, (s.pc c).Sound l forceTable0 s.mem
  delivers : ∃ done pending, s.Delivers l forceTable0 done pending
  withL1 : ∀ w ∈ withL1 s.log, (w, w.read l s.mem) ∈ received s.log ∧
    ∃ req, w.Holds l forceTable0 s.mem req

omit [DecidableEq C] in
/-- The messages that are still to be received are those that wait. -/
theorem Delivers.queue_eq {done pending : List (GatewayRequest × TxIpcMsg)}
    (h : s.Delivers l forceTable0 done pending) : queue s.log = pending.map Prod.snd := by
  rw [queue, h.accepted, ← h.read.length_eq, List.map_append, ← List.length_map Prod.snd,
    List.drop_left]

omit [DecidableEq C] in
theorem Delivers.kept {done pending : List (GatewayRequest × TxIpcMsg)}
    (h : s.Delivers l forceTable0 done pending) (hkept : ∀ b ∈ s.held .queue, l.Kept s.mem mem b) :
    ∀ x ∈ pending, x.2.Holds l forceTable0 mem x.1 := by
  intro x hx
  apply (h.waiting x hx).kept
  intro b hb
  apply hkept
  show b ∈ (queue s.log).flatMap TxIpcMsg.bufs
  rw [h.queue_eq]
  exact List.mem_flatMap.mpr ⟨x.2, List.mem_map_of_mem hx, hb⟩

omit [DecidableEq C] in
theorem Sound.withL1_kept (h : s.Sound l forceTable0)
    (hkept : ∀ b ∈ s.held .l1, l.Kept s.mem mem b) {w : TxIpcMsg}
    (hw : w ∈ AerialBridge.withL1 s.log) :
    (w, w.read l mem) ∈ received s.log ∧ ∃ req, w.Holds l forceTable0 mem req := by
  obtain ⟨hread, req, hholds⟩ := h.withL1 w hw
  have hbufs : ∀ b ∈ w.bufs, l.Kept s.mem mem b :=
    fun b hb ↦ hkept b (List.mem_flatMap.mpr ⟨w, hw, hb⟩)
  rw [TxIpcMsg.read_kept hholds.inBounds hbufs]
  exact ⟨hread, req, hholds.kept hbufs⟩

omit [DecidableEq C] in
/-- What lies elsewhere `c` does not write. -/
theorem kept_of_untouched (hs : s.Accounted) (hmem : l.Untouched (s.pc c).bufs s.mem mem)
    {p : BufPlace C} (hp : p ≠ .caller c) : ∀ b ∈ s.held p, l.Kept s.mem mem b :=
  fun _ hb ↦ hmem.kept fun hmine ↦
    hp (hs.owned.place_unique (p := p) (q := .caller c) hb hmine)

/-- What `c` writes into its buffers changes nothing that is under way. -/
theorem Sound.quiet (h : s.Sound l forceTable0) (hs : s.Accounted)
    (hmem : l.Untouched (s.pc c).bufs s.mem mem) (hpc : pc.Sound l forceTable0 mem)
    (ho : ∀ e ∈ o, AerialBridge.accepted [.tx c e] = []) :
    (s.moveTo c mem pc o).Sound l forceTable0 where
  callers := by
    intro c'
    show ((s.moveTo c mem pc o).pc c').Sound l forceTable0 mem
    by_cases hc : c' = c
    · rw [hc, moveTo_pc]
      exact hpc
    · rw [moveTo_pc_ne hc]
      have hplace : BufPlace.caller c' ≠ .caller c := fun heq ↦ hc (by cases heq; rfl)
      exact (h.callers c').kept (kept_of_untouched hs hmem hplace)
  delivers := by
    obtain ⟨done, pending, hdelivers⟩ := h.delivers
    refine ⟨done, pending, ?_, ?_, hdelivers.kept (kept_of_untouched hs hmem nofun)⟩
    · rw [moveTo_accepted ho]
      exact hdelivers.accepted
    · rw [moveTo_received]
      exact hdelivers.read
  withL1 := by
    intro w hw
    rw [moveTo_withL1] at hw
    rw [moveTo_received]
    exact h.withL1_kept (kept_of_untouched hs hmem nofun) hw

theorem Sound.silent (h : s.Sound l forceTable0) (hs : s.Accounted)
    (hmem : l.Untouched (s.pc c).bufs s.mem mem) (hpc : pc.Sound l forceTable0 mem) :
    (s.moveTo c mem pc none).Sound l forceTable0 :=
  h.quiet hs hmem hpc fun e he ↦ absurd he (Option.not_mem_none e)

omit [DecidableEq C] in
/-- What others write lies outside of all that is lent. -/
theorem Sound.others (h : s.Sound l forceTable0) (hs : s.Accounted)
    (hkept : ∀ b ∈ lent s.log, l.Kept s.mem mem b) :
    ({ s with mem := mem } : GatewayState C).Sound l forceTable0 := by
  have hplace : ∀ p, ∀ b ∈ s.held p, l.Kept s.mem mem b :=
    fun p b hb ↦ hkept b ((hs.owned.pool_iff b).mpr ⟨p, hb⟩)
  obtain ⟨done, pending, hdelivers⟩ := h.delivers
  exact ⟨fun c ↦ (h.callers c).kept (hplace (.caller c)),
    ⟨done, pending, hdelivers.accepted, hdelivers.read, hdelivers.kept (hplace .queue)⟩,
    fun w hw ↦ h.withL1_kept (hplace .l1) hw⟩

/-- A message that is accepted joins those that wait. -/
theorem Sound.accept (h : s.Sound l forceTable0) {req : GatewayRequest} {w : TxIpcMsg}
    (hw : w.Holds l forceTable0 s.mem req) :
    (s.moveTo c s.mem .idle (some (.sent req w true))).Sound l forceTable0 where
  callers := by
    intro c'
    by_cases hc : c' = c
    · rw [hc, moveTo_pc]
      trivial
    · rw [moveTo_pc_ne hc]
      exact h.callers c'
  delivers := by
    obtain ⟨done, pending, hdelivers⟩ := h.delivers
    refine ⟨done, pending ++ [(req, w)], ?_, ?_, ?_⟩
    · show AerialBridge.accepted (s.log ++ [GatewayEvent.tx c (.sent req w true)]) = _
      rw [accepted_append, hdelivers.accepted, List.append_assoc]
      rfl
    · rw [moveTo_received]
      exact hdelivers.read
    · intro x hx
      rcases List.mem_append.mp hx with hx | hx
      · exact hdelivers.waiting x hx
      · rw [List.mem_singleton.mp hx]
        exact hw
  withL1 := by
    intro w' hw'
    rw [moveTo_withL1] at hw'
    rw [moveTo_received]
    exact h.withL1 w' hw'

theorem thread_sound (h : s.Sound l forceTable0) (hs : s.Accounted) {act : GatewayAct}
    (hfits : CallsFit forceTable0 (.thread c act))
    (hstep : s.step l forceTable0 (.thread c act) = some t) : t.Sound l forceTable0 := by
  have hcaller := h.callers c
  obtain ⟨mem, pc, o, hmove, rfl⟩ := step_thread hstep
  generalize hpc : s.pc c = before at hmove
  rw [hpc] at hcaller
  have hsame : l.Untouched (s.pc c).bufs s.mem s.mem := fun _ _ ↦ rfl
  cases hmove with
  | call req => exact h.silent hs hsame hfits
  | post => exact h.quiet hs hsame trivial fun e he ↦ by cases he; rfl
  | deny req => exact h.quiet hs hsame trivial fun e he ↦ by cases he; rfl
  | grant req i j => exact h.quiet hs hsame hcaller fun e he ↦ by cases he; rfl
  | @fill req i j w hw =>
      obtain ⟨w', hwritten⟩ : ∃ w', req.Written l forceTable0 s.mem i j w' := req.written hcaller
      rw [hwritten.filled] at hw
      cases hw
      refine h.silent hs ?_ hwritten.holds
      rw [hpc]
      exact hwritten.untouched
  | giveUp hw => exact absurd hcaller (GatewayRequest.not_fits_of_fill hw)
  | release => exact hcaller.elim
  | send req w answer =>
      cases answer with
      | true => exact h.accept hcaller
      | false => exact h.quiet hs hsame trivial fun e he ↦ by cases he; rfl

omit [DecidableEq C] in
/-- L1 reads the message that waits longest. -/
theorem Sound.recv (h : s.Sound l forceTable0) {w : TxIpcMsg}
    (hnext : (received s.log).map Prod.fst ++ [w] <+: (accepted s.log).map Prod.snd) :
    ({ s with log := s.log ++ [GatewayEvent.received w (w.read l s.mem)] } : GatewayState C).Sound
      l forceTable0 := by
  have haccepted : AerialBridge.accepted (s.log ++ [GatewayEvent.received w (w.read l s.mem)]) =
      AerialBridge.accepted s.log := (accepted_append _ _).trans (List.append_nil _)
  obtain ⟨done, pending, hdelivers⟩ := h.delivers
  obtain ⟨req, rest, rfl⟩ : ∃ req rest, pending = (req, w) :: rest := by
    obtain ⟨rest, hrest⟩ := hnext
    have hqueue := hdelivers.queue_eq
    have hlength : (received s.log).length = ((received s.log).map Prod.fst).length :=
      (List.length_map _).symm
    rw [queue, ← hrest, List.append_assoc, hlength, List.drop_left] at hqueue
    obtain ⟨x, pending', rfl, hx, -⟩ := List.map_eq_cons_iff.mp hqueue.symm
    exact ⟨x.1, pending', by rw [← hx]⟩
  have hholds := hdelivers.waiting _ List.mem_cons_self
  constructor
  · exact h.callers
  · refine ⟨done ++ [(req, w)], rest, ?_, ?_, ?_⟩
    · rw [haccepted, hdelivers.accepted, List.append_assoc]
      rfl
    · rw [received_append]
      exact List.rel_append hdelivers.read (.cons ⟨rfl, hholds.fits, hholds.delivered⟩ .nil)
    · exact fun x hx ↦ hdelivers.waiting x (List.mem_cons_of_mem _ hx)
  · intro w' hw'
    rw [withL1_concat] at hw'
    rw [received_append]
    rcases List.mem_append.mp hw' with hw' | hw'
    · obtain ⟨hread, hold⟩ := h.withL1 w' hw'
      exact ⟨List.mem_append_left _ hread, hold⟩
    · rw [List.mem_singleton.mp hw']
      exact ⟨List.mem_append_right _ (List.mem_singleton_self _), req, hholds⟩

omit [DecidableEq C] in
theorem Sound.free (h : s.Sound l forceTable0) (w : TxIpcMsg) :
    ({ s with log := s.log ++ [GatewayEvent.freed w] } : GatewayState C).Sound l forceTable0 := by
  have haccepted : AerialBridge.accepted (s.log ++ [GatewayEvent.freed w]) =
      AerialBridge.accepted s.log :=
    (accepted_append _ _).trans (List.append_nil _)
  have hreceived : received (s.log ++ [GatewayEvent.freed w]) = received s.log :=
    (received_append _ _).trans (List.append_nil _)
  obtain ⟨done, pending, hdelivers⟩ := h.delivers
  refine ⟨h.callers, ⟨done, pending, ?_, ?_, hdelivers.waiting⟩, ?_⟩
  · rw [haccepted]
    exact hdelivers.accepted
  · rw [hreceived]
    exact hdelivers.read
  · intro w' hw'
    rw [withL1_concat] at hw'
    rw [hreceived]
    exact h.withL1 w' (List.mem_of_mem_erase hw')

theorem step_sound (h : s.Sound l forceTable0) (hs : s.Accounted) {label : GatewayLabel C}
    (hok : LendsAndFits l forceTable0 s label) (hstep : s.step l forceTable0 label = some t) :
    t.Sound l forceTable0 := by
  cases label with
  | thread c act => exact thread_sound h hs hok.fits hstep
  | l1Recv w =>
      cases hstep
      exact h.recv hok.lends.l1RecvInOrder
  | l1Release w =>
      cases hstep
      exact h.free w
  | others mem =>
      cases hstep
      exact h.others hs hok.lends.lentKept

theorem run_sound {ls : List (GatewayLabel C)}
    (h : Run (step l forceTable0) (LendsAndFits l forceTable0) (init mem) ls s) :
    s.Sound l forceTable0 := by
  have hinit : (init mem : GatewayState C).Sound l forceTable0 :=
    ⟨fun _ ↦ trivial, ⟨[], [], rfl, .nil, nofun⟩, nofun⟩
  have hboth : s.Sound l forceTable0 ∧ s.Accounted := by
    apply h.invariant _ ⟨hinit, init_accounted mem⟩
    rintro s label t ⟨hsound, hs⟩ hok hstep
    exact ⟨step_sound hsound hs hok hstep, step_accounted hs hok.lends hstep⟩
  exact hboth.1

end GatewayState

/-- When the calls fit and nvIPC and L1 keep to what the bridge relies on, L1 has read a first part
of the accepted messages in the order in which they were sent, each as its request's encoding and
blocks; the rest waits for L1 as it was sent, and what L1 has not released still reads the same. -/
theorem gateway_delivers_inOrder {C : Type} [DecidableEq C] {l : Layout} {forceTable0 : Bool}
    {mem : Mem} {ls : List (GatewayLabel C)} {s : GatewayState C}
    (h : Run (GatewayState.step l forceTable0) (LendsAndFits l forceTable0) (.init mem) ls s) :
    (∃ done pending, accepted s.log = done ++ pending ∧
      List.Forall₂ (fun x y ↦ y.1 = x.2 ∧ x.1.DeliveredBy forceTable0 y.2) done
        (received s.log) ∧
      ∀ x ∈ pending, x.1.DeliveredBy forceTable0 (x.2.read l s.mem)) ∧
      ∀ w ∈ withL1 s.log, (w, w.read l s.mem) ∈ received s.log := by
  have hsound := GatewayState.run_sound h
  obtain ⟨done, pending, hdelivers⟩ := hsound.delivers
  constructor
  · exact ⟨done, pending, hdelivers.accepted, hdelivers.read.imp fun _ _ hxy ↦ ⟨hxy.1, hxy.2.2⟩,
      fun x hx ↦ (hdelivers.waiting x hx).delivered⟩
  · exact fun w hw ↦ (hsound.withL1 w hw).1

theorem gateway_delivers_inOrder_two : ∃ s done, ExampleRun s ∧
    done.map Prod.fst = [exampleTxData, .stopRequest] ∧
    List.Forall₂ (fun x y ↦ y.1 = x.2 ∧ x.1.DeliveredBy false y.2) done (received s.log) := by
  obtain ⟨s, hs⟩ := exampleRun
  obtain ⟨⟨done, pending, haccepted, hread, -⟩, -⟩ := gateway_delivers_inOrder hs.run
  have hrequests := hs.accepted
  rw [haccepted, List.map_append] at hrequests
  -- L1 has received as many messages as were accepted
  have hpending : pending = [] := by
    have hlength := congrArg List.length hrequests
    rw [List.length_append, List.length_map, hread.length_eq, hs.received, List.length_map]
      at hlength
    exact List.length_eq_zero_iff.mp (Nat.add_left_cancel hlength)
  rw [hpending] at hrequests
  exact ⟨s, done, hs, (List.append_nil _).symm.trans hrequests, hread⟩

end AerialBridge
