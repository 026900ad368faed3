import AerialBridge.Gateway.Delivery

/-!
# What a thread does with nvIPC

A thread's calls do what they do one after another, whatever other threads get in between: a call
allocates and sends, gives up without buffers, or gives them back when its serialiser refuses; and
`on_last_message` posts when everything before it is done.
-/

namespace AerialBridge

open Bytes Transition

/-- What a thread calls: a request's function or `on_last_message`. -/
inductive GatewayItem
  | request (req : GatewayRequest)
  | lastMessage

/-- All that a call does with nvIPC.  Only a request that does not fit is given up after its buffers
were granted. -/
inductive Serves (l : Layout) (forceTable0 : Bool) : GatewayItem → List TxEvent → Prop
  | denied (req : GatewayRequest) : Serves l forceTable0 (.request req) [.denied req]
  | sent {req : GatewayRequest} {i j : Nat} {w : TxIpcMsg} (mem : Mem)
      (hw : (req.fill forceTable0 l mem i j).2 = some w) (answer : Bool) :
      Serves l forceTable0 (.request req) [.granted req i j, .sent req w answer]
  | released {req : GatewayRequest} (i j : Nat) (hfits : ¬ req.Fits forceTable0) :
      Serves l forceTable0 (.request req) [.granted req i j, .released req i j]
  | posted : Serves l forceTable0 .lastMessage [.posted]

/-- What the call that a thread is in has done so far. -/
def GatewayPc.Begun (l : Layout) (forceTable0 : Bool) (events : List TxEvent) : GatewayPc → Prop
  | idle | allocating _ => events = []
  | filling req i j => events = [.granted req i j]
  | releasing req i j => events = [.granted req i j] ∧ ¬ req.Fits forceTable0
  | sending req w => ∃ mem i j, events = [.granted req i j] ∧
      (req.fill forceTable0 l mem i j).2 = some w

def GatewayAct.items : GatewayAct → List GatewayItem
  | call req => [.request req]
  | onLastMessage => [.lastMessage]
  | allocate _ | go | send _ => []

section

variable {C : Type} [DecidableEq C]

/-- What thread `c` calls. -/
def GatewayLabel.items (c : C) : GatewayLabel C → List GatewayItem
  | thread c' act => if c' = c then act.items else []
  | l1Recv _ | l1Release _ | others _ => []

/-- What thread `c` has done with nvIPC. -/
def eventsOf (c : C) (log : List (GatewayEvent C)) : List TxEvent :=
  log.filterMap fun e ↦ match e with
    | .tx c' e => if c' = c then some e else none
    | _ => none

theorem eventsOf_append (c : C) (log log' : List (GatewayEvent C)) :
    eventsOf c (log ++ log') = eventsOf c log ++ eventsOf c log' := List.filterMap_append

theorem eventsOf_tx (c c' : C) (o : Option TxEvent) :
    eventsOf c (o.toList.map (.tx c')) = if c' = c then o.toList else [] := by
  cases o with
  | none => exact (ite_self []).symm
  | some e =>
      show eventsOf c [.tx c' e] = _
      rw [eventsOf]
      split <;> simp_all

end

/-- The calls that are done, and what the one that a thread is in has begun. -/
structure InProgramOrder (l : Layout) (forceTable0 : Bool) (pc : GatewayPc)
    (events : List TxEvent) (items : List GatewayItem) (done : List (GatewayItem × List TxEvent)) :
    Prop where
  serves : ∀ d ∈ done, Serves l forceTable0 d.1 d.2
  events : ∃ begun, events = done.flatMap Prod.snd ++ begun ∧ pc.Begun l forceTable0 begun
  items : items = done.map Prod.fst ++ pc.requests.map .request

namespace InProgramOrder

variable {l : Layout} {forceTable0 : Bool} {pc : GatewayPc} {events begun : List TxEvent}
  {items : List GatewayItem} {done : List (GatewayItem × List TxEvent)}

/-- A call goes on. -/
theorem goesOn (h : InProgramOrder l forceTable0 pc events items done)
    (hevents : events = done.flatMap Prod.snd ++ begun) {pc' : GatewayPc} {o : Option TxEvent}
    (hbegun : pc'.Begun l forceTable0 (begun ++ o.toList)) {act : GatewayAct}
    (hitems : pc.requests.map .request ++ act.items = pc'.requests.map .request) :
    InProgramOrder l forceTable0 pc' (events ++ o.toList) (items ++ act.items) done where
  serves := h.serves
  events := ⟨begun ++ o.toList, by rw [hevents, List.append_assoc], hbegun⟩
  items := by rw [h.items, List.append_assoc, hitems]

/-- A call ends with what it does last. -/
theorem ends (h : InProgramOrder l forceTable0 pc events items done) {item : GatewayItem}
    {last : TxEvent} (hevents : events = done.flatMap Prod.snd ++ begun)
    (hserves : Serves l forceTable0 item (begun ++ [last])) {act : GatewayAct}
    (hitems : pc.requests.map .request ++ act.items = [item]) :
    InProgramOrder l forceTable0 .idle (events ++ [last]) (items ++ act.items)
      (done ++ [(item, begun ++ [last])]) where
  serves := by
    intro d hd
    rcases List.mem_append.mp hd with hd | hd
    · exact h.serves d hd
    · rw [List.mem_singleton.mp hd]
      exact hserves
  events := by
    refine ⟨[], ?_, rfl⟩
    rw [hevents, List.append_assoc, List.flatMap_append, List.flatMap_singleton, List.append_nil]
  items := by
    rw [h.items, List.append_assoc, hitems, List.map_append]
    exact (List.append_nil _).symm

theorem move (h : InProgramOrder l forceTable0 pc events items done) {mem mem' : Mem}
    {act : GatewayAct} {pc' : GatewayPc} {o : Option TxEvent}
    (hmove : GatewayMove l forceTable0 mem pc act mem' pc' o) :
    ∃ done', InProgramOrder l forceTable0 pc' (events ++ o.toList) (items ++ act.items) done' := by
  obtain ⟨begun, hevents, hbegun⟩ := h.events
  cases hmove with
  | call req =>
      refine ⟨done, h.goesOn hevents ?_ rfl⟩
      exact (List.append_nil begun).trans hbegun
  | post =>
      change begun = [] at hbegun
      subst hbegun
      exact ⟨_, h.ends hevents .posted rfl⟩
  | deny req =>
      change begun = [] at hbegun
      subst hbegun
      exact ⟨_, h.ends hevents (.denied req) rfl⟩
  | grant req i j =>
      refine ⟨done, h.goesOn hevents ?_ rfl⟩
      exact congrArg (· ++ [.granted req i j]) hbegun
  | @fill req i j w hw =>
      refine ⟨done, h.goesOn hevents ?_ rfl⟩
      exact ⟨mem, i, j, (List.append_nil begun).trans hbegun, hw⟩
  | giveUp hw =>
      refine ⟨done, h.goesOn hevents ?_ rfl⟩
      exact ⟨(List.append_nil begun).trans hbegun, GatewayRequest.not_fits_of_fill hw⟩
  | release req i j =>
      obtain ⟨rfl, hfits⟩ := hbegun
      exact ⟨_, h.ends hevents (.released i j hfits) rfl⟩
  | send req w answer =>
      obtain ⟨mem, i, j, rfl, hw⟩ := hbegun
      exact ⟨_, h.ends hevents (.sent mem hw answer) rfl⟩

end InProgramOrder

/-! ## Runs -/

namespace GatewayState

variable {C : Type} [DecidableEq C] {l : Layout} {forceTable0 : Bool} {s t : GatewayState C}

theorem step_inProgramOrder {c : C} {items : List GatewayItem}
    {done : List (GatewayItem × List TxEvent)}
    (h : InProgramOrder l forceTable0 (s.pc c) (eventsOf c s.log) items done)
    {label : GatewayLabel C} (hstep : s.step l forceTable0 label = some t) :
    ∃ done', InProgramOrder l forceTable0 (t.pc c) (eventsOf c t.log) (items ++ label.items c)
      done' := by
  cases label with
  | thread c' act =>
      obtain ⟨mem, pc, o, hmove, rfl⟩ := step_thread hstep
      have hlog : eventsOf c (s.moveTo c' mem pc o).log =
          eventsOf c s.log ++ if c' = c then o.toList else [] :=
        (eventsOf_append c _ _).trans (congrArg _ (eventsOf_tx c c' o))
      rw [hlog, GatewayLabel.items]
      by_cases hc : c' = c
      · subst hc
        rw [if_pos rfl, if_pos rfl, moveTo_pc]
        exact h.move hmove
      · rw [if_neg hc, if_neg hc, moveTo_pc_ne (Ne.symm hc), List.append_nil, List.append_nil]
        exact ⟨done, h⟩
  | l1Recv w | l1Release w =>
      cases hstep
      rw [eventsOf_append, GatewayLabel.items, List.append_nil]
      exact ⟨done, (List.append_nil (eventsOf c s.log)).symm ▸ h⟩
  | others mem =>
      cases hstep
      rw [GatewayLabel.items, List.append_nil]
      exact ⟨done, h⟩

theorem run_inProgramOrder {c : C} {ok : GatewayState C → GatewayLabel C → Prop}
    {ls : List (GatewayLabel C)} (h : Run (step l forceTable0) ok s ls t) {items : List GatewayItem}
    {done : List (GatewayItem × List TxEvent)}
    (hs : InProgramOrder l forceTable0 (s.pc c) (eventsOf c s.log) items done) :
    ∃ done', InProgramOrder l forceTable0 (t.pc c) (eventsOf c t.log)
      (items ++ ls.flatMap (GatewayLabel.items c)) done' := by
  induction h generalizing items done with
  | nil s => exact ⟨done, (List.append_nil items).symm ▸ hs⟩
  | cons _ hstep _ ih =>
      obtain ⟨done', hdone'⟩ := step_inProgramOrder hs hstep
      rw [List.flatMap_cons, ← List.append_assoc]
      exact ih hdone'

end GatewayState

/-- Whatever nvIPC answers and other threads do, what a thread has done with nvIPC is what its calls
do, whole and in the order of its program, and the beginning of the one that it is in. -/
theorem gateway_calls_inOrder {C : Type} [DecidableEq C] {l : Layout} {forceTable0 : Bool}
    {mem : Mem} {ls : List (GatewayLabel C)} {s : GatewayState C}
    (h : Run (GatewayState.step l forceTable0) TxDataAlone (.init mem) ls s) (c : C) :
    ∃ (done : List (GatewayItem × List TxEvent)) (begun : List TxEvent),
      (∀ d ∈ done, Serves l forceTable0 d.1 d.2) ∧
      eventsOf c s.log = done.flatMap Prod.snd ++ begun ∧
      (s.pc c).Begun l forceTable0 begun ∧
      ls.flatMap (GatewayLabel.items c) =
        done.map Prod.fst ++ (s.pc c).requests.map .request := by
  have hinit : InProgramOrder l forceTable0 .idle [] [] [] := ⟨nofun, ⟨[], rfl, rfl⟩, rfl⟩
  obtain ⟨done, hdone⟩ := GatewayState.run_inProgramOrder (c := c) h hinit
  obtain ⟨begun, hevents, hbegun⟩ := hdone.events
  exact ⟨done, begun, hdone.serves, hevents, hbegun, hdone.items⟩

theorem gateway_calls_inOrder_two : ∃ s, ExampleRun s ∧
    ∃ done : List (GatewayItem × List TxEvent), eventsOf true s.log = done.flatMap Prod.snd ∧
      (∀ d ∈ done, Serves exampleLayout false d.1 d.2) ∧
      done.map Prod.fst = [.request .paramRequest, .request .stopRequest, .lastMessage] := by
  obtain ⟨s, hs⟩ := exampleRun
  have hrun := hs.run.imp fun _ _ hok ↦ hok.lends.txDataAlone
  obtain ⟨done, begun, hserves, hevents, hbegun, hitems⟩ := gateway_calls_inOrder hrun true
  rw [hs.idle] at hbegun hitems
  change begun = [] at hbegun
  rw [hbegun, List.append_nil] at hevents
  exact ⟨s, hs, done, hevents, hserves, (List.append_nil _).symm.trans hitems.symm⟩

end AerialBridge
