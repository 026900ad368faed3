import AerialBridge.Gateway.Interleaving

/-!
# Where the buffers are

A buffer that nvIPC has granted is with the thread that asked for it, or in a message that waits for
L1 or is with it, or in a message that nvIPC did not accept, for `tx_send` does not look at the
answer and nobody gives it back.
-/

namespace AerialBridge

open Bytes Transition Ownership

/-- Who can hold a buffer. -/
inductive BufPlace (C : Type)
  | caller (c : C)
  | refused
  | queue
  | l1
  deriving DecidableEq

def GatewayPc.bufs : GatewayPc → List Buf
  | idle | allocating _ => []
  | filling req i j | releasing req i j => req.bufs i j
  | sending _ w => w.bufs

def GatewayState.held {C : Type} (s : GatewayState C) : BufPlace C → List Buf
  | .caller c => (s.pc c).bufs
  | .refused => (refused s.log).flatMap TxIpcMsg.bufs
  | .queue => (queue s.log).flatMap TxIpcMsg.bufs
  | .l1 => (withL1 s.log).flatMap TxIpcMsg.bufs

theorem GatewayRequest.bufs_nodup (req : GatewayRequest) (i j : Nat) : (req.bufs i j).Nodup := by
  cases req <;> simp [bufs]

/-- A message that is sent has the buffers that were allocated for it. -/
theorem GatewayRequest.fill_bufs {l : Layout} {forceTable0 : Bool} {mem : Mem} {i j : Nat}
    {req : GatewayRequest} {w : TxIpcMsg} (h : (req.fill forceTable0 l mem i j).2 = some w) :
    w.bufs = req.bufs i j := by
  have hserialized : ∀ {msgId : ScfMsgId} {serialize : Mem → SerializeResult},
      (sendSerialized msgId serialize l mem i j).2 = some w → w.bufs = [.cpuMsg i] := by
    intro msgId serialize h
    simp only [sendSerialized, Option.ite_none_left_eq_some, Option.some.injEq] at h
    rw [← h.2]
    rfl
  cases req with
  | paramRequest | startRequest | stopRequest | configRequest =>
      cases h
      rfl
  | dlTtiRequest _ | ulTtiRequest _ | ulDciRequest _ => exact hserialized h
  | txDataRequest msg =>
      simp only [fill, sendTxDataRequest, Option.ite_none_left_eq_some, Option.some.injEq] at h
      rw [← h.2]
      rfl

/-! ## Logs that grow -/

section Log

variable {C : Type} {c : C} (log : List (GatewayEvent C))

theorem accepted_append (log' : List (GatewayEvent C)) :
    accepted (log ++ log') = accepted log ++ accepted log' := List.filterMap_append

theorem refused_append (log' : List (GatewayEvent C)) :
    refused (log ++ log') = refused log ++ refused log' := List.filterMap_append

theorem received_append (log' : List (GatewayEvent C)) :
    received (log ++ log') = received log ++ received log' := List.filterMap_append

/-- L1's part of the log, when a thread has done something. -/
theorem received_tx (e : TxEvent) : received (log ++ [GatewayEvent.tx c e]) = received log := by
  rw [received_append]
  exact List.append_nil _

theorem withL1_concat (e : GatewayEvent C) : withL1 (log ++ [e]) = match e with
    | .received w _ => withL1 log ++ [w]
    | .freed w => (withL1 log).erase w
    | .tx _ _ => withL1 log := by
  rw [withL1, List.foldl_append]
  cases e <;> rfl

theorem lent_tx (e : TxEvent) : lent (log ++ [GatewayEvent.tx c e]) = match e with
    | .granted req i j => lent log ++ req.bufs i j
    | .released req i j => (lent log).diff (req.bufs i j)
    | _ => lent log := by
  rw [lent, List.foldl_append]
  cases e <;> rfl

end Log

namespace GatewayState

variable {C : Type} [DecidableEq C] {l : Layout} {forceTable0 : Bool} {s t : GatewayState C}
  {c : C} {mem : Mem} {pc : GatewayPc} {o : Option TxEvent}

theorem moveTo_received : received (s.moveTo c mem pc o).log = received s.log := by
  cases o with
  | none => exact congrArg received (List.append_nil s.log)
  | some e => exact received_tx s.log e

theorem moveTo_withL1 : withL1 (s.moveTo c mem pc o).log = withL1 s.log := by
  cases o with
  | none => exact congrArg withL1 (List.append_nil s.log)
  | some e => exact withL1_concat s.log (.tx c e)

theorem moveTo_accepted (ho : ∀ e ∈ o, accepted [.tx c e] = []) :
    accepted (s.moveTo c mem pc o).log = accepted s.log := by
  cases o with
  | none => exact congrArg accepted (List.append_nil s.log)
  | some e => exact (accepted_append s.log [.tx c e]).trans (ho e rfl ▸ List.append_nil _)

theorem moveTo_refused (ho : ∀ e ∈ o, refused [.tx c e] = []) :
    refused (s.moveTo c mem pc o).log = refused s.log := by
  cases o with
  | none => exact congrArg refused (List.append_nil s.log)
  | some e => exact (refused_append s.log [.tx c e]).trans (ho e rfl ▸ List.append_nil _)

/-- Without a send nothing changes but what the thread has. -/
theorem moveTo_held (ho : ∀ e ∈ o, accepted [.tx c e] = [] ∧ refused [.tx c e] = [])
    {p : BufPlace C} (hp : p ≠ .caller c) : (s.moveTo c mem pc o).held p = s.held p := by
  cases p with
  | caller c' => exact congrArg GatewayPc.bufs (moveTo_pc_ne fun heq ↦ hp (congrArg _ heq))
  | refused => exact congrArg (List.flatMap TxIpcMsg.bufs) (moveTo_refused fun e he ↦ (ho e he).2)
  | queue =>
      show (queue _).flatMap _ = (queue _).flatMap _
      rw [queue, queue, moveTo_accepted fun e he ↦ (ho e he).1, moveTo_received]
  | l1 => exact congrArg (List.flatMap TxIpcMsg.bufs) moveTo_withL1

/-- What is lent lies at one place, and there once; and L1 has received in order. -/
structure Accounted (s : GatewayState C) : Prop where
  owned : Owned (· ∈ lent s.log) s.held
  nodup : (lent s.log).Nodup
  inOrder : (received s.log).map Prod.fst <+: (accepted s.log).map Prod.snd

omit [DecidableEq C] in
theorem init_accounted (mem : Mem) : (init mem : GatewayState C).Accounted where
  owned := by
    have hheld : (init mem : GatewayState C).held = fun _ ↦ [] := by
      funext p
      cases p with
      | caller _ | refused | queue | l1 => rfl
    have hlent : (· ∈ lent (init mem : GatewayState C).log) = fun _ ↦ False := by
      funext b
      exact eq_false List.not_mem_nil
    rw [hheld, hlent]
    exact Owned.nothing .refused
  nodup := .nil
  inOrder := List.nil_prefix

/-- A step after which everything is where it was. -/
theorem Accounted.kept (h : s.Accounted) (hpc : pc.bufs = (s.pc c).bufs)
    (ho : ∀ e ∈ o, accepted [.tx c e] = [] ∧ refused [.tx c e] = [])
    (hlent : lent (s.moveTo c mem pc o).log = lent s.log) :
    (s.moveTo c mem pc o).Accounted := by
  have hheld : (s.moveTo c mem pc o).held = s.held := by
    funext p
    by_cases hp : p = .caller c
    · rw [hp]
      exact (congrArg GatewayPc.bufs moveTo_pc).trans hpc
    · exact moveTo_held ho hp
  constructor
  · rw [hheld, hlent]
    exact h.owned
  · rw [hlent]
    exact h.nodup
  · rw [moveTo_received, moveTo_accepted fun e he ↦ (ho e he).1]
    exact h.inOrder

/-- A step that nvIPC has no part in. -/
theorem Accounted.silent (h : s.Accounted) (hpc : pc.bufs = (s.pc c).bufs) :
    (s.moveTo c mem pc none).Accounted := by
  apply h.kept hpc
  · exact fun e he ↦ absurd he (Option.not_mem_none e)
  · exact congrArg lent (List.append_nil s.log)

theorem Accounted.grant (h : s.Accounted) {req : GatewayRequest} {i j : Nat}
    (hpc : s.pc c = .allocating req) (hnew : ∀ b ∈ req.bufs i j, b ∉ lent s.log) :
    (s.moveTo c mem (.filling req i j) (some (.granted req i j))).Accounted := by
  have hlent : lent (s.log ++ [GatewayEvent.tx c (.granted req i j)]) =
      lent s.log ++ req.bufs i j := lent_tx s.log _
  have ho : ∀ e ∈ some (TxEvent.granted req i j), accepted [.tx c e] = [] ∧
      refused [.tx c e] = [] := by
    rintro e ⟨⟩
    exact ⟨rfl, rfl⟩
  constructor
  · show Owned (· ∈ lent (s.log ++ [GatewayEvent.tx c (.granted req i j)])) _
    apply h.owned.enters (.caller c) (req.bufs i j) _ (req.bufs_nodup i j) hnew
    · intro b
      rw [hlent, List.mem_append]
    · constructor
      · show ((s.moveTo c mem _ _).pc c).bufs.Perm (_ ++ (s.pc c).bufs)
        rw [moveTo_pc, hpc]
        exact .of_eq (List.append_nil _).symm
      · exact fun p hp ↦ .of_eq (moveTo_held ho hp)
  · show (lent (s.log ++ [GatewayEvent.tx c (.granted req i j)])).Nodup
    rw [hlent]
    exact List.nodup_append.mpr ⟨h.nodup, req.bufs_nodup i j, fun b hb b' hb' heq ↦
      hnew b' hb' (heq ▸ hb)⟩
  · rw [moveTo_received, moveTo_accepted fun e he ↦ (ho e he).1]
    exact h.inOrder

/-- `tx_release` gives the buffers back. -/
theorem Accounted.release (h : s.Accounted) {req : GatewayRequest} {i j : Nat}
    (hpc : s.pc c = .releasing req i j) :
    (s.moveTo c mem .idle (some (.released req i j))).Accounted := by
  have hlent : lent (s.log ++ [GatewayEvent.tx c (.released req i j)]) =
      (lent s.log).diff (req.bufs i j) := lent_tx s.log _
  have ho : ∀ e ∈ some (TxEvent.released req i j), accepted [.tx c e] = [] ∧
      refused [.tx c e] = [] := by
    rintro e ⟨⟩
    exact ⟨rfl, rfl⟩
  constructor
  · show Owned (· ∈ lent (s.log ++ [GatewayEvent.tx c (.released req i j)])) _
    apply h.owned.leaves (.caller c) (req.bufs i j)
    · constructor
      · show (s.pc c).bufs.Perm (_ ++ ((s.moveTo c mem _ _).pc c).bufs)
        rw [moveTo_pc, hpc]
        exact .of_eq (List.append_nil _).symm
      · exact fun p hp ↦ .of_eq (moveTo_held ho hp).symm
    · intro b
      rw [hlent]
      exact h.nodup.mem_sdiff_iff
  · show (lent (s.log ++ [GatewayEvent.tx c (.released req i j)])).Nodup
    rw [hlent]
    exact h.nodup.diff
  · rw [moveTo_received, moveTo_accepted fun e he ↦ (ho e he).1]
    exact h.inOrder

omit [DecidableEq C] in
/-- What is accepted waits behind what has been accepted before. -/
theorem Accounted.queue_accepted (h : s.Accounted) (req : GatewayRequest) (w : TxIpcMsg) :
    queue (s.log ++ [GatewayEvent.tx c (.sent req w true)]) = queue s.log ++ [w] := by
  have hlength := h.inOrder.length_le
  rw [List.length_map] at hlength
  rw [queue, accepted_append, received_tx, List.map_append, List.drop_append_of_le_length hlength]
  rfl

/-- `tx_send` hands the buffers over, or leaves them where nobody gives them back. -/
theorem Accounted.send (h : s.Accounted) {req : GatewayRequest} {w : TxIpcMsg}
    (hpc : s.pc c = .sending req w) (answer : Bool) :
    (s.moveTo c mem .idle (some (.sent req w answer))).Accounted := by
  have hlent : lent (s.log ++ [GatewayEvent.tx c (.sent req w answer)]) = lent s.log :=
    lent_tx s.log _
  have hleaves : ∀ {t : GatewayState C}, t.pc = (s.moveTo c mem .idle none).pc →
      (s.held (.caller c)).Perm (w.bufs ++ t.held (.caller c)) := by
    intro t ht
    show (s.pc c).bufs.Perm (_ ++ (t.pc c).bufs)
    rw [ht, moveTo_pc, hpc]
    exact .of_eq (List.append_nil _).symm
  have hothers : ∀ {t : GatewayState C} {c'}, t.pc = (s.moveTo c mem .idle none).pc →
      BufPlace.caller c' ≠ .caller c → t.held (.caller c') = s.held (.caller c') := by
    intro t c' ht hc
    show (t.pc c').bufs = (s.pc c').bufs
    rw [ht, moveTo_pc_ne fun heq ↦ hc (congrArg _ heq)]
  have hl1 : (s.moveTo c mem .idle (some (.sent req w answer))).held .l1 = s.held .l1 :=
    congrArg (List.flatMap TxIpcMsg.bufs) moveTo_withL1
  constructor
  · show Owned (· ∈ lent (s.log ++ [GatewayEvent.tx c (.sent req w answer)])) _
    rw [hlent]
    cases answer with
    | true =>
        have hrefused : refused (s.log ++ [GatewayEvent.tx c (.sent req w true)]) = refused s.log :=
          (refused_append _ _).trans (List.append_nil _)
        refine h.owned.moves (.caller c) .queue w.bufs ⟨nofun, hleaves rfl, ?_, ?_⟩
        · show ((queue (s.log ++ [GatewayEvent.tx c (.sent req w true)])).flatMap _).Perm _
          rw [h.queue_accepted, List.flatMap_append, List.flatMap_singleton]
          exact List.perm_append_comm
        · intro p hcaller hqueue
          cases p with
          | caller c' => exact .of_eq (hothers rfl hcaller)
          | refused => exact .of_eq (congrArg (List.flatMap TxIpcMsg.bufs) hrefused)
          | queue => exact absurd rfl hqueue
          | l1 => exact .of_eq hl1
    | false =>
        have hrefused : refused (s.log ++ [GatewayEvent.tx c (.sent req w false)]) =
            refused s.log ++ [w] := refused_append _ _
        have haccepted : accepted (s.log ++ [GatewayEvent.tx c (.sent req w false)]) = accepted s.log :=
          (accepted_append _ _).trans (List.append_nil _)
        refine h.owned.moves (.caller c) .refused w.bufs ⟨nofun, hleaves rfl, ?_, ?_⟩
        · show ((refused (s.log ++ [GatewayEvent.tx c (.sent req w false)])).flatMap _).Perm _
          rw [hrefused, List.flatMap_append, List.flatMap_singleton]
          exact List.perm_append_comm
        · intro p hcaller hplace
          cases p with
          | caller c' => exact .of_eq (hothers rfl hcaller)
          | refused => exact absurd rfl hplace
          | queue =>
              show ((queue (s.log ++ [GatewayEvent.tx c (.sent req w false)])).flatMap _).Perm
                ((queue s.log).flatMap _)
              rw [queue, queue, haccepted, received_tx]
          | l1 => exact .of_eq hl1
  · show (lent (s.log ++ [GatewayEvent.tx c (.sent req w answer)])).Nodup
    rw [hlent]
    exact h.nodup
  · rw [moveTo_received]
    show _ <+: (accepted (s.log ++ [GatewayEvent.tx c (.sent req w answer)])).map Prod.snd
    rw [accepted_append, List.map_append]
    exact h.inOrder.trans (List.prefix_append _ _)

theorem thread_accounted (h : s.Accounted) {act : GatewayAct}
    (hok : NvIpcLends l s (.thread c act)) (hstep : s.step l forceTable0 (.thread c act) = some t) :
    t.Accounted := by
  obtain ⟨mem, pc, o, hmove, rfl⟩ := step_thread hstep
  generalize hpc : s.pc c = before at hmove
  cases hmove with
  | call | giveUp => exact h.silent (hpc ▸ rfl)
  | fill hw => exact h.silent ((GatewayRequest.fill_bufs hw).trans (congrArg GatewayPc.bufs hpc.symm))
  | post | deny =>
      apply h.kept (hpc ▸ rfl)
      · rintro e ⟨⟩
        exact ⟨rfl, rfl⟩
      · exact lent_tx s.log _
  | grant req i j => exact h.grant hpc (hok.exclusiveGrants req hpc)
  | release req i j => exact h.release hpc
  | send req w answer => exact h.send hpc answer

omit [DecidableEq C] in
/-- L1 receives what waits longest. -/
theorem Accounted.recv (h : s.Accounted) {w : TxIpcMsg} {m : L1Msg}
    (hnext : (received s.log).map Prod.fst ++ [w] <+: (accepted s.log).map Prod.snd) :
    ({ s with log := s.log ++ [GatewayEvent.received w m] } : GatewayState C).Accounted := by
  have haccepted : accepted (s.log ++ [GatewayEvent.received w m]) = accepted s.log :=
    (accepted_append _ _).trans (List.append_nil _)
  have hrefused : refused (s.log ++ [GatewayEvent.received w m]) = refused s.log :=
    (refused_append _ _).trans (List.append_nil _)
  have hqueue : queue s.log = w :: queue (s.log ++ [GatewayEvent.received w m]) := by
    obtain ⟨rest, hrest⟩ := hnext
    have hlength : (received s.log).length = ((received s.log).map Prod.fst).length :=
      (List.length_map _).symm
    rw [queue, queue, haccepted, received_append, List.length_append, ← hrest, List.append_assoc,
      hlength, List.drop_left, List.drop_append]
    simp [received]
  have hl1 : withL1 (s.log ++ [GatewayEvent.received w m]) = withL1 s.log ++ [w] :=
    withL1_concat s.log _
  have hlent : lent (s.log ++ [GatewayEvent.received w m]) = lent s.log := by
    rw [lent, List.foldl_append]
    rfl
  constructor
  · show Owned (· ∈ lent (s.log ++ [GatewayEvent.received w m])) _
    rw [hlent]
    classical
    refine h.owned.moves .queue .l1 w.bufs ⟨nofun, ?_, ?_, ?_⟩
    · show ((queue s.log).flatMap _).Perm
        (_ ++ (queue (s.log ++ [GatewayEvent.received w m])).flatMap _)
      rw [hqueue, List.flatMap_cons]
    · show ((withL1 (s.log ++ [GatewayEvent.received w m])).flatMap _).Perm _
      rw [hl1, List.flatMap_append, List.flatMap_singleton]
      exact List.perm_append_comm
    · intro p hp hq
      cases p with
      | queue => exact absurd rfl hp
      | l1 => exact absurd rfl hq
      | caller c' => exact .refl _
      | refused => exact .of_eq (congrArg (List.flatMap TxIpcMsg.bufs) hrefused)
  · show (lent (s.log ++ [GatewayEvent.received w m])).Nodup
    rw [hlent]
    exact h.nodup
  · show (received (s.log ++ [GatewayEvent.received w m])).map Prod.fst <+:
      (accepted (s.log ++ _)).map Prod.snd
    rw [haccepted, received_append, List.map_append]
    exact hnext

omit [DecidableEq C] in
theorem Accounted.free (h : s.Accounted) {w : TxIpcMsg} (hw : w ∈ withL1 s.log) :
    ({ s with log := s.log ++ [GatewayEvent.freed w] } : GatewayState C).Accounted := by
  have haccepted : accepted (s.log ++ [GatewayEvent.freed w]) = accepted s.log :=
    (accepted_append _ _).trans (List.append_nil _)
  have hreceived : received (s.log ++ [GatewayEvent.freed w]) = received s.log :=
    (received_append _ _).trans (List.append_nil _)
  have hrefused : refused (s.log ++ [GatewayEvent.freed w]) = refused s.log :=
    (refused_append _ _).trans (List.append_nil _)
  have hl1 : withL1 (s.log ++ [GatewayEvent.freed w]) = (withL1 s.log).erase w := withL1_concat s.log _
  have hlent : lent (s.log ++ [GatewayEvent.freed w]) = (lent s.log).diff w.bufs := by
    rw [lent, List.foldl_append]
    rfl
  constructor
  · show Owned (· ∈ lent (s.log ++ [GatewayEvent.freed w])) _
    apply h.owned.leaves .l1 w.bufs
    · constructor
      · show ((withL1 s.log).flatMap _).Perm
          (_ ++ (withL1 (s.log ++ [GatewayEvent.freed w])).flatMap _)
        rw [hl1]
        exact (List.perm_cons_erase hw).flatMap_right TxIpcMsg.bufs
      · intro p hp
        cases p with
        | l1 => exact absurd rfl hp
        | caller c' => exact .refl _
        | refused => exact .of_eq (congrArg (List.flatMap TxIpcMsg.bufs) hrefused.symm)
        | queue =>
            show ((queue s.log).flatMap _).Perm ((queue (s.log ++ [GatewayEvent.freed w])).flatMap _)
            rw [queue, queue, haccepted, hreceived]
    · intro b
      rw [hlent]
      exact h.nodup.mem_sdiff_iff
  · show (lent (s.log ++ [GatewayEvent.freed w])).Nodup
    rw [hlent]
    exact h.nodup.diff
  · show (received (s.log ++ [GatewayEvent.freed w])).map Prod.fst <+:
      (accepted (s.log ++ _)).map Prod.snd
    rw [haccepted, hreceived]
    exact h.inOrder

theorem step_accounted (h : s.Accounted) {label : GatewayLabel C} (hok : NvIpcLends l s label)
    (hstep : s.step l forceTable0 label = some t) : t.Accounted := by
  cases label with
  | thread c act => exact thread_accounted h hok hstep
  | l1Recv w =>
      cases hstep
      exact h.recv hok.l1RecvInOrder
  | l1Release w =>
      cases hstep
      exact h.free hok.l1Owns
  | others mem =>
      cases hstep
      exact ⟨h.owned, h.nodup, h.inOrder⟩

theorem run_accounted {mem : Mem} {ls : List (GatewayLabel C)}
    (h : Run (step l forceTable0) (NvIpcLends l) (init mem) ls s) : s.Accounted :=
  h.invariant (fun _ _ _ hs hok hstep ↦ step_accounted hs hok hstep) (init_accounted mem)

end GatewayState

/-- When nvIPC grants no buffer that it has not got back, each buffer that it has granted is back or
in one place: with a thread, in a message that waits for L1 or is with it, or in a message whose
sending was refused.  When the threads are out of their functions and L1 has received and released
everything, only these last ones are left. -/
theorem gateway_buffers_conserved {C : Type} [DecidableEq C] {l : Layout} {forceTable0 : Bool}
    {mem : Mem} {ls : List (GatewayLabel C)} {s : GatewayState C}
    (h : Run (GatewayState.step l forceTable0) (NvIpcLends l) (.init mem) ls s) :
    (∀ p, (s.held p).Nodup) ∧ (∀ b p q, b ∈ s.held p → b ∈ s.held q → p = q) ∧
      (∀ b, b ∈ lent s.log ↔ ∃ p, b ∈ s.held p) ∧
      ((∀ c, (s.pc c).bufs = []) → queue s.log = [] → withL1 s.log = [] →
        (lent s.log).Perm ((refused s.log).flatMap TxIpcMsg.bufs)) := by
  have hs := GatewayState.run_accounted h
  refine ⟨hs.owned.nodup, fun b p q hp hq ↦ hs.owned.place_unique hp hq, hs.owned.pool_iff, ?_⟩
  intro hidle hqueue hl1
  apply (List.perm_ext_iff_of_nodup hs.nodup (hs.owned.nodup .refused)).mpr
  intro b
  rw [hs.owned.pool_iff]
  constructor
  · rintro ⟨p, hp⟩
    cases p with
    | refused => exact hp
    | caller c =>
        change b ∈ (s.pc c).bufs at hp
        rw [hidle c] at hp
        cases hp
    | queue =>
        change b ∈ (queue s.log).flatMap _ at hp
        rw [hqueue] at hp
        cases hp
    | l1 =>
        change b ∈ (withL1 s.log).flatMap _ at hp
        rw [hl1] at hp
        cases hp
  · exact fun hb ↦ ⟨.refused, hb⟩

theorem gateway_buffers_conserved_refused : ∃ s, ExampleRun s ∧ (lent s.log).Perm [.cpuMsg 0] := by
  obtain ⟨s, hs⟩ := exampleRun
  have hconserved := gateway_buffers_conserved (hs.run.imp fun _ _ hok ↦ hok.lends)
  have hlent := hconserved.2.2.2 (fun c ↦ by rw [hs.idle]; rfl) hs.queue hs.withL1
  rw [hs.refused] at hlent
  exact ⟨s, hs, hlent⟩

end AerialBridge
