import AerialBridge.RxThread.Dispatch
import AerialBridge.Transition.Run

/-!
# The startup sequence

`aerial_sector_adaptor::start` beside L1 and the RX thread: CONFIG_REQUEST, a sleep of two seconds,
START_REQUEST.  Nothing ties the second request to the CONFIG_RESPONSE, which arrives on the other
thread, so which runs keep the documented order depends on what happens around each execution.
-/

namespace AerialBridge

open Bytes Bytes.Parser Transition

/-- The part of a CONFIG_RESPONSE body that the RX thread looks at. -/
structure ConfigResponse where
  errorCode : UInt8
  numInvalid : UInt8
  deriving DecidableEq, Repr

def ConfigResponse.toBuf (r : ConfigResponse) : List UInt8 :=
  [1, 0] ++ le16 ScfMsgId.configResponse.code ++ le32 2 ++ [r.errorCode, r.numInvalid]

def ConfigResponse.toNvIpcMsg (r : ConfigResponse) : NvIpcMsg :=
  ⟨ScfMsgId.configResponse.code.toNat, 0, some r.toBuf, r.toBuf.length, false, 0, by simp⟩

/-- What happens around one execution of `start`: whether `tx_allocate` has a buffer for either
request, and what L1 answers to the CONFIG_REQUEST, if it answers at all. -/
structure Surroundings where
  allocatesConfig : Bool
  answer : Option ConfigResponse
  allocatesStart : Bool
  deriving DecidableEq, Repr

/-- Where the calling thread stands in `start`; `idle` between two executions. -/
inductive SectorPc
  | idle
  | allocateConfig
  | sendConfig
  | sleepFor
  | sleeping (wakeAt : Nat)
  | allocateStart
  | sendStart
  deriving DecidableEq, Repr

/-- A request of the given execution of `start`. -/
inductive StartupRequest
  | config (execution : Nat)
  | start (execution : Nat)
  deriving DecidableEq, Repr

/-- A request goes out, or the RX thread has dispatched the answer to an execution's CONFIG_REQUEST
with the given effects. -/
inductive StartupEvent
  | sent (request : StartupRequest)
  | received (execution : Nat) (trace : List Effect)
  deriving DecidableEq, Repr

/-- `now` is in milliseconds.  An answer stays in `toRx` while L1 works on it and while the RX
thread has not come to it; neither `toL1` nor `toRx` need be taken from in order, and a request or
an answer that is lost is one that L1 does not answer. -/
structure SectorState where
  pc : SectorPc
  now : Nat
  execution : Nat
  toL1 : List StartupRequest
  toRx : List (Nat × ConfigResponse)
  log : List StartupEvent
  deriving DecidableEq, Repr

/-- The calling thread, L1 and the RX thread take their steps in any order, and time passes. -/
inductive StartupLabel
  | caller
  | l1 (i : Nat)
  | rx (i : Nat)
  | elapse (ms : Nat)
  deriving DecidableEq, Repr

namespace SectorState

def init : SectorState := ⟨.idle, 0, 0, [], [], []⟩

variable (rx : RxThread) (ocudu : Ocudu) (env : Nat → Surroundings)

/-- `start`.  A request for which there is no buffer is reported and skipped. -/
def start (s : SectorState) : Option SectorState :=
  match s.pc with
  | .idle => some { s with pc := .allocateConfig }
  | .allocateConfig =>
      some { s with pc := if (env s.execution).allocatesConfig then .sendConfig else .sleepFor }
  | .sendConfig =>
      some { s with
        pc := .sleepFor
        toL1 := s.toL1 ++ [.config s.execution]
        log := s.log ++ [.sent (.config s.execution)] }
  | .sleepFor => some { s with pc := .sleeping (s.now + 2000) }
  | .sleeping wakeAt => if wakeAt ≤ s.now then some { s with pc := .allocateStart } else none
  | .allocateStart =>
      if (env s.execution).allocatesStart then some { s with pc := .sendStart }
      else some { s with pc := .idle, execution := s.execution + 1 }
  | .sendStart =>
      some { s with
        pc := .idle
        execution := s.execution + 1
        toL1 := s.toL1 ++ [.start s.execution]
        log := s.log ++ [.sent (.start s.execution)] }

/-- L1 takes a request.  A START_REQUEST has no answer. -/
def l1 (s : SectorState) (i : Nat) : Option SectorState :=
  match s.toL1[i]? with
  | none => none
  | some (.config n) =>
      match (env n).answer with
      | some r => some { s with toL1 := s.toL1.eraseIdx i, toRx := s.toRx ++ [(n, r)] }
      | none => some { s with toL1 := s.toL1.eraseIdx i }
  | some (.start _) => some { s with toL1 := s.toL1.eraseIdx i }

/-- The RX thread takes an answer. -/
def receive (s : SectorState) (i : Nat) : Option SectorState :=
  match s.toRx[i]? with
  | none => none
  | some (n, r) =>
      match rx.dispatchMessage ocudu s.now r.toNvIpcMsg with
      | .ok trace =>
          some { s with toRx := s.toRx.eraseIdx i, log := s.log ++ [.received n trace] }
      | .error _ => none

def step (s : SectorState) : StartupLabel → Option SectorState
  | .caller => s.start env
  | .l1 i => s.l1 env i
  | .rx i => s.receive rx ocudu i
  | .elapse ms => some { s with now := s.now + ms }

end SectorState

/-- The RX thread has received a CONFIG_RESPONSE with error code 0 for the CONFIG_REQUEST of
execution `n`. -/
def Acknowledged (n : Nat) (log : List StartupEvent) : Prop :=
  ∃ trace, .received n trace ∈ log ∧ .log .always (.configResponse 0) ∈ trace

/-- The documented order: a START_REQUEST only after its execution's CONFIG_REQUEST has been
acknowledged. -/
def AfterConfig (before : List StartupEvent) : StartupEvent → Prop
  | .sent (.start n) => Acknowledged n before
  | _ => True

/-- The CONFIG_REQUEST gets a buffer and L1 answers it with error code 0. -/
def Surroundings.Cooperate (w : Surroundings) : Prop :=
  w.allocatesConfig = true ∧ w.answer.map ConfigResponse.errorCode = some 0

/-- Of the current execution, neither the CONFIG_REQUEST nor an answer to it is still under way. -/
def SectorState.Delivered (s : SectorState) : Prop :=
  .config s.execution ∉ s.toL1 ∧ s.execution ∉ s.toRx.map Prod.fst

/-- START_REQUEST is only sent in an execution whose surroundings cooperate, and not before the
answer is through. -/
def Timely (env : Nat → Surroundings) (s : SectorState) : StartupLabel → Prop
  | .caller => s.pc = .sendStart → (env s.execution).Cooperate ∧ s.Delivered
  | _ => True

/-- The sleep is long enough: the clock does not come to its end before L1 and the RX thread are
through with the request of this execution. -/
def AnsweredInSleep (s : SectorState) : StartupLabel → Prop
  | .elapse ms => ∀ wakeAt, s.pc = .sleeping wakeAt → ¬ s.Delivered → s.now + ms < wakeAt
  | _ => True

instance (w : Surroundings) : Decidable w.Cooperate :=
  inferInstanceAs (Decidable (_ ∧ _))

instance (s : SectorState) : Decidable s.Delivered :=
  inferInstanceAs (Decidable (_ ∧ _))

instance (env : Nat → Surroundings) (s : SectorState) :
    (l : StartupLabel) → Decidable (Timely env s l)
  | .caller => inferInstanceAs (Decidable (_ → _))
  | .l1 _ | .rx _ | .elapse _ => .isTrue trivial

/-! ## The answer on the RX thread -/

/-- What the RX thread does with an answer. -/
def RxThread.configResponseTrace (rx : RxThread) (r : ConfigResponse) : List Effect :=
  .log .always (.configResponse r.errorCode) ::
    (if r.errorCode ≠ 0 then [.log .always (.configResponseInvalid r.numInvalid)] else []) ++
    if rx.p5Notifier then [.notify (.onConfigResponse r.errorCode)] else []

theorem RxThread.dispatchMessage_configResponse (rx : RxThread) (ocudu : Ocudu) (now : Int)
    (r : ConfigResponse) :
    rx.dispatchMessage ocudu now r.toNvIpcMsg = .ok (rx.configResponseTrace r) := by
  show rx.dispatchConfigResponse r.toBuf = _
  have hcode : readAt u8 r.toBuf 8 = .ok r.errorCode := rfl
  have hinvalid : readAt u8 r.toBuf 9 = .ok r.numInvalid := rfl
  unfold dispatchConfigResponse logConfigResponseInvalid configResponseTrace
  have hlen : r.toBuf.length = 10 := rfl
  rw [hlen, if_pos (by decide), hcode, ok_bind]
  by_cases h0 : r.errorCode = 0
  · rw [if_neg (fun h ↦ h.1 h0), if_neg (not_not.mpr h0)]
    rfl
  · rw [if_pos ⟨h0, by decide⟩, hinvalid, if_pos h0]
    rfl

theorem configResponse_zero_mem_iff (rx : RxThread) (r : ConfigResponse) :
    .log .always (.configResponse 0) ∈ rx.configResponseTrace r ↔ r.errorCode = 0 := by
  unfold RxThread.configResponseTrace
  by_cases h0 : r.errorCode = 0
  · simp [h0]
  · have h0' : ¬ 0 = r.errorCode := fun h ↦ h0 h.symm
    cases rx.p5Notifier <;> simp [h0, h0']

/-! ## Where the answers are -/

/-- The executions whose CONFIG_REQUEST, if it gets a buffer, has been sent. -/
def SectorPc.begun (execution : Nat) : SectorPc → Nat
  | .idle | .allocateConfig | .sendConfig => execution
  | _ => execution + 1

namespace SectorState

variable (rx : RxThread) (env : Nat → Surroundings)

/-- What the RX thread makes of L1's answer to execution `n`. -/
def answerTo (n : Nat) : Option (Nat × List Effect) :=
  (env n).answer.map fun r ↦ (n, rx.configResponseTrace r)

def answerToRequest : StartupRequest → Option (Nat × List Effect)
  | .config n => answerTo rx env n
  | .start _ => none

def receivedAnswer : StartupEvent → Option (Nat × List Effect)
  | .sent _ => none
  | .received n trace => some (n, trace)

/-- All answers there have been or will be to the requests sent so far. -/
def answers (log : List StartupEvent) (toRx : List (Nat × ConfigResponse))
    (toL1 : List StartupRequest) : List (Nat × List Effect) :=
  log.filterMap receivedAnswer ++ toRx.map (fun p ↦ (p.1, rx.configResponseTrace p.2)) ++
    toL1.filterMap (answerToRequest rx env)

/-- The answer that execution `n` brings about. -/
def dueFrom (n : Nat) : Option (Nat × List Effect) :=
  if (env n).allocatesConfig then answerTo rx env n else none

/-- The answers due to the first `k` executions. -/
def due (k : Nat) : List (Nat × List Effect) := (List.range k).filterMap (dueFrom rx env)

/-- Every answer is at exactly one place. -/
structure Accounted (s : SectorState) : Prop where
  answers_perm : (answers rx env s.log s.toRx s.toL1).Perm (due rx env (s.pc.begun s.execution))
  allocated : s.pc = .sendConfig → (env s.execution).allocatesConfig = true

theorem filterMap_option {α β : Type} (f : α → Option β) (o : Option α) :
    o.toList.filterMap f = (o.bind f).toList := by
  cases o with
  | none => rfl
  | some a =>
      rw [Option.toList_some, List.filterMap_cons, Option.bind_some]
      cases f a with
      | none => rfl
      | some b => rfl

theorem due_succ (k : Nat) :
    due rx env (k + 1) = due rx env k ++ (dueFrom rx env k).toList := by
  unfold due
  rw [List.range_succ, List.filterMap_append]
  exact congrArg (_ ++ ·) (filterMap_option (dueFrom rx env) (some k))

variable {rx env} {ocudu : Ocudu} {s t : SectorState}

/-- A request that is sent puts its answer behind all others. -/
theorem answers_sent (log : List StartupEvent) (toRx : List (Nat × ConfigResponse))
    (toL1 : List StartupRequest) (o : Option StartupRequest) :
    answers rx env (log ++ (o.map .sent).toList) toRx (toL1 ++ o.toList) =
      answers rx env log toRx toL1 ++ (o.bind (answerToRequest rx env)).toList := by
  have hsent : (o.map StartupEvent.sent).toList.filterMap receivedAnswer = [] := by
    cases o with
    | none => rfl
    | some request => rfl
  unfold answers
  rw [List.filterMap_append, List.filterMap_append, hsent, filterMap_option, List.append_nil,
    List.append_assoc _ (toL1.filterMap _), ← List.append_assoc _ (toL1.filterMap _)]

/-- A step of the calling thread and the request it sends. -/
structure CallerStep (rx : RxThread) (env : Nat → Surroundings) (s t : SectorState)
    (o : Option StartupRequest) : Prop where
  log : t.log = s.log ++ (o.map .sent).toList
  toRx : t.toRx = s.toRx
  toL1 : t.toL1 = s.toL1 ++ o.toList
  due_eq : (s.pc = .sendConfig → (env s.execution).allocatesConfig = true) →
    due rx env (t.pc.begun t.execution) =
      due rx env (s.pc.begun s.execution) ++ (o.bind (answerToRequest rx env)).toList
  allocated : t.pc = .sendConfig → (env t.execution).allocatesConfig = true
  sent_start_iff : ∀ n, o = some (.start n) ↔ s.pc = .sendStart ∧ s.execution = n

theorem start_spec (rx : RxThread) (hstep : s.start env = some t) :
    ∃ o, CallerStep rx env s t o := by
  obtain ⟨pc, now, execution, toL1, toRx, log⟩ := s
  have hlog : log = log ++ [] := (List.append_nil log).symm
  have htoL1 : toL1 = toL1 ++ [] := (List.append_nil toL1).symm
  have hdue (k : Nat) : due rx env k = due rx env k ++ [] := (List.append_nil _).symm
  cases pc with
  | idle | sleepFor =>
      cases hstep
      exact ⟨none, hlog, rfl, htoL1, fun _ ↦ hdue _, nofun, by simp⟩
  | allocateConfig =>
      cases hstep
      by_cases halloc : (env execution).allocatesConfig = true
      · rw [if_pos halloc]
        exact ⟨none, hlog, rfl, htoL1, fun _ ↦ hdue _, fun _ ↦ halloc, by simp⟩
      · rw [if_neg halloc]
        refine ⟨none, hlog, rfl, htoL1, fun _ ↦ ?_, nofun, by simp⟩
        show due rx env (execution + 1) = due rx env execution ++ []
        rw [due_succ, dueFrom, if_neg halloc]
        rfl
  -- only here does an answer fall due, and the execution has allocated its config buffer
  | sendConfig =>
      cases hstep
      refine ⟨some (.config execution), rfl, rfl, rfl, fun halloc ↦ ?_, nofun, by simp⟩
      show due rx env (execution + 1) = due rx env execution ++ (answerTo rx env execution).toList
      rw [due_succ, dueFrom, if_pos (halloc rfl)]
  | sleeping wakeAt =>
      simp only [start, Option.ite_none_right_eq_some] at hstep
      cases hstep.2
      exact ⟨none, hlog, rfl, htoL1, fun _ ↦ hdue _, nofun, by simp⟩
  | allocateStart =>
      simp only [start] at hstep
      split at hstep <;>
      · cases hstep
        exact ⟨none, hlog, rfl, htoL1, fun _ ↦ hdue _, nofun, by simp⟩
  | sendStart =>
      cases hstep
      exact ⟨some (.start execution), rfl, rfl, rfl, fun _ ↦ hdue _, nofun, by simp⟩

/-- A step of L1 or the RX thread: it leaves the calling thread alone, and brings neither a request
nor, for an execution that has none under way, an answer. -/
structure Onward (rx : RxThread) (env : Nat → Surroundings) (s t : SectorState) : Prop where
  pc : t.pc = s.pc
  now : t.now = s.now
  execution : t.execution = s.execution
  answers_perm : (answers rx env t.log t.toRx t.toL1).Perm (answers rx env s.log s.toRx s.toL1)
  delivered : s.Delivered → t.Delivered

theorem perm_eraseIdx {α : Type} {xs : List α} {i : Nat} {x : α} (h : xs[i]? = some x) :
    xs.Perm (x :: xs.eraseIdx i) := by
  obtain ⟨hi, rfl⟩ := List.getElem?_eq_some_iff.mp h
  exact (List.getElem_cons_eraseIdx_perm hi).symm

/-- The answer that L1 sends moves from the request to the answers under way. -/
theorem answers_l1 (log : List StartupEvent) (toRx : List (Nat × ConfigResponse))
    {toL1 : List StartupRequest} {i : Nat} {request : StartupRequest}
    (hi : toL1[i]? = some request) {o : Option (Nat × ConfigResponse)}
    (ho : o.map (fun p ↦ (p.1, rx.configResponseTrace p.2)) = answerToRequest rx env request) :
    (answers rx env log (toRx ++ o.toList) (toL1.eraseIdx i)).Perm
      (answers rx env log toRx toL1) := by
  have hmap : o.toList.map (fun p ↦ (p.1, rx.configResponseTrace p.2)) =
      (answerToRequest rx env request).toList := by
    rw [← ho]
    cases o with
    | none => rfl
    | some p => rfl
  have htake : (toL1.filterMap (answerToRequest rx env)).Perm
      ((answerToRequest rx env request).toList ++
        (toL1.eraseIdx i).filterMap (answerToRequest rx env)) := by
    refine ((perm_eraseIdx hi).filterMap _).trans (List.Perm.of_eq ?_)
    rw [List.filterMap_cons]
    cases answerToRequest rx env request with
    | none => rfl
    | some a => rfl
  unfold answers
  rw [List.map_append, hmap, List.append_assoc, List.append_assoc, List.append_assoc]
  exact (htake.symm.append_left _).append_left _

theorem l1_spec (rx : RxThread) {i : Nat} (hstep : s.l1 env i = some t) :
    t.log = s.log ∧ Onward rx env s t := by
  obtain ⟨pc, now, execution, toL1, toRx, log⟩ := s
  have hsub : (toL1.eraseIdx i).Sublist toL1 := List.eraseIdx_sublist toL1 i
  have hquiet : ∀ {request}, toL1[i]? = some request → answerToRequest rx env request = none →
      Onward rx env ⟨pc, now, execution, toL1, toRx, log⟩
        ⟨pc, now, execution, toL1.eraseIdx i, toRx, log⟩ := by
    intro request hi hnone
    have hperm : (answers rx env log (toRx ++ []) (toL1.eraseIdx i)).Perm
        (answers rx env log toRx toL1) := answers_l1 log toRx hi (o := none) hnone.symm
    rw [List.append_nil] at hperm
    exact ⟨rfl, rfl, rfl, hperm, fun h ↦ ⟨fun hmem ↦ h.1 (hsub.subset hmem), h.2⟩⟩
  simp only [l1] at hstep
  split at hstep
  · cases hstep
  · next n hi =>
    split at hstep
    · next r hanswer =>
      cases hstep
      refine ⟨rfl, rfl, rfl, rfl, answers_l1 log toRx hi (o := some (n, r)) ?_, fun h ↦ ?_⟩
      · rw [answerToRequest, answerTo, hanswer]
        rfl
      · -- the request of an execution that is through is not the one taken
        have hne : n ≠ execution := by
          rintro rfl
          exact h.1 (List.mem_of_getElem? hi)
        refine ⟨fun hmem ↦ h.1 (hsub.subset hmem), fun hmem ↦ ?_⟩
        rw [List.map_append, List.mem_append] at hmem
        rcases hmem with hmem | hmem
        · exact h.2 hmem
        · exact hne (List.mem_singleton.mp hmem).symm
    · next hanswer =>
      cases hstep
      exact ⟨rfl, hquiet hi (by rw [answerToRequest, answerTo, hanswer]; rfl)⟩
  · next n hi =>
    cases hstep
    exact ⟨rfl, hquiet hi rfl⟩

theorem receive_spec (env : Nat → Surroundings) {i : Nat}
    (hstep : s.receive rx ocudu i = some t) :
    (∃ n trace, t.log = s.log ++ [.received n trace]) ∧ Onward rx env s t := by
  obtain ⟨pc, now, execution, toL1, toRx, log⟩ := s
  simp only [receive, rx.dispatchMessage_configResponse] at hstep
  split at hstep
  · cases hstep
  · next n r hi =>
    cases hstep
    refine ⟨⟨_, _, rfl⟩, rfl, rfl, rfl, ?_, fun h ↦ ⟨h.1, fun hmem ↦ h.2 ?_⟩⟩
    · have htake := (perm_eraseIdx hi).map fun p ↦ (p.1, rx.configResponseTrace p.2)
      unfold answers
      rw [List.filterMap_append, List.append_assoc (log.filterMap receivedAnswer)]
      exact (htake.symm.append_left _).append_right _
    · exact ((List.eraseIdx_sublist toRx i).map Prod.fst).subset hmem

theorem init_accounted : Accounted rx env init := ⟨List.Perm.refl _, nofun⟩

theorem Accounted.onward (h : Accounted rx env s) (hon : Onward rx env s t) :
    Accounted rx env t where
  answers_perm := by
    rw [hon.pc, hon.execution]
    exact hon.answers_perm.trans h.answers_perm
  allocated := by
    rw [hon.pc, hon.execution]
    exact h.allocated

theorem step_accounted (h : Accounted rx env s) (l : StartupLabel)
    (hstep : s.step rx ocudu env l = some t) : Accounted rx env t := by
  cases l with
  | caller =>
      obtain ⟨o, hcaller⟩ := start_spec rx hstep
      apply Accounted.mk _ hcaller.allocated
      rw [hcaller.log, hcaller.toRx, hcaller.toL1, answers_sent, hcaller.due_eq h.allocated]
      exact h.answers_perm.append_right _
  | l1 i => exact h.onward (l1_spec rx hstep).2
  | rx i => exact h.onward (receive_spec env hstep).2
  | elapse ms =>
      cases hstep
      exact ⟨h.answers_perm, h.allocated⟩

/-- A step logs at most one event, and a START_REQUEST exactly where the calling thread sends it. -/
theorem step_log (l : StartupLabel) (hstep : s.step rx ocudu env l = some t) :
    ∃ o : Option StartupEvent, t.log = s.log ++ o.toList ∧
      ∀ n, o = some (.sent (.start n)) ↔ l = .caller ∧ s.pc = .sendStart ∧ s.execution = n := by
  cases l with
  | caller =>
      obtain ⟨o, hcaller⟩ := start_spec rx hstep
      refine ⟨o.map .sent, hcaller.log, fun n ↦ ?_⟩
      rw [and_iff_right rfl, ← hcaller.sent_start_iff]
      cases o <;> simp
  | l1 i =>
      obtain ⟨hlog, _⟩ := l1_spec rx hstep
      exact ⟨none, hlog.trans (List.append_nil _).symm, by simp⟩
  | rx i =>
      obtain ⟨⟨n, trace, hlog⟩, _⟩ := receive_spec env hstep
      exact ⟨some (.received n trace), hlog, by simp⟩
  | elapse ms =>
      cases hstep
      exact ⟨none, (List.append_nil _).symm, by simp⟩

theorem answerTo_eq_some_iff {n : Nat} {a : Nat × List Effect} :
    answerTo rx env n = some a ↔
      a.1 = n ∧ ∃ r, (env n).answer = some r ∧ rx.configResponseTrace r = a.2 := by
  cases a with
  | mk m trace => cases h : (env n).answer <;> simp [answerTo, h, eq_comm]

theorem dueFrom_eq_some_iff {n : Nat} {a : Nat × List Effect} :
    dueFrom rx env n = some a ↔ (env n).allocatesConfig = true ∧ answerTo rx env n = some a := by
  unfold dueFrom
  rw [Option.ite_none_right_eq_some]

theorem due_nodup (k : Nat) : (due rx env k).Nodup := by
  apply List.Nodup.filterMap _ List.nodup_range
  intro n m a hn hm
  have hn' := (answerTo_eq_some_iff.mp (dueFrom_eq_some_iff.mp hn).2).1
  have hm' := (answerTo_eq_some_iff.mp (dueFrom_eq_some_iff.mp hm).2).1
  exact hn'.symm.trans hm'

theorem mem_due_iff {k n : Nat} {trace : List Effect} :
    (n, trace) ∈ due rx env k ↔
      n < k ∧ (env n).allocatesConfig = true ∧ answerTo rx env n = some (n, trace) := by
  unfold due
  rw [List.mem_filterMap]
  apply Iff.intro
  · intro ⟨m, hm, heq⟩
    have hdue := dueFrom_eq_some_iff.mp heq
    have hmn : n = m := (answerTo_eq_some_iff.mp hdue.2).1
    rw [← hmn] at hm hdue
    exact ⟨List.mem_range.mp hm, hdue⟩
  · intro ⟨hlt, hdue⟩
    exact ⟨n, List.mem_range.mpr hlt, dueFrom_eq_some_iff.mpr hdue⟩

theorem mem_received_iff {n : Nat} {trace : List Effect} {log : List StartupEvent} :
    (n, trace) ∈ log.filterMap receivedAnswer ↔ .received n trace ∈ log := by
  rw [List.mem_filterMap]
  apply Iff.intro
  · intro ⟨e, he, heq⟩
    cases e with
    | sent _ => cases heq
    | received m trace' =>
        cases heq
        exact he
  · intro he
    exact ⟨_, he, rfl⟩

theorem mem_toRx_iff {n : Nat} {toRx : List (Nat × ConfigResponse)} :
    n ∈ toRx.map Prod.fst ↔
      ∃ trace, (n, trace) ∈ toRx.map fun p ↦ (p.1, rx.configResponseTrace p.2) := by
  simp

theorem mem_answers_iff (h : Accounted rx env s)
    (hbegun : s.pc.begun s.execution = s.execution + 1) (trace : List Effect) :
    (s.execution, trace) ∈ answers rx env s.log s.toRx s.toL1 ↔
      (env s.execution).allocatesConfig = true ∧
        answerTo rx env s.execution = some (s.execution, trace) := by
  rw [h.answers_perm.mem_iff, hbegun, mem_due_iff]
  exact and_iff_right (Nat.lt_succ_self _)

/-- An answer that has been received is at no other place. -/
theorem delivered_of_received (h : Accounted rx env s)
    (hbegun : s.pc.begun s.execution = s.execution + 1) {trace : List Effect}
    (hreceived : .received s.execution trace ∈ s.log) : s.Delivered := by
  have hfirst := mem_received_iff.mpr hreceived
  have hmem := mem_answers_iff h hbegun
  have hdue := ((hmem trace).mp (List.mem_append_left _ (List.mem_append_left _ hfirst))).2
  have hnodup : (answers rx env s.log s.toRx s.toL1).Nodup :=
    h.answers_perm.nodup_iff.mpr (due_nodup _)
  rw [answers, List.append_assoc] at hnodup
  have hfresh := (List.nodup_append.mp hnodup).2.2 _ hfirst
  apply And.intro
  · intro hconfig
    have hlast : (s.execution, trace) ∈ s.toL1.filterMap (answerToRequest rx env) :=
      List.mem_filterMap.mpr ⟨_, hconfig, hdue⟩
    exact hfresh _ (List.mem_append_right _ hlast) rfl
  · intro hresponse
    obtain ⟨trace', hmiddle⟩ := mem_toRx_iff.mp hresponse
    have hdue' := ((hmem trace').mp (List.mem_append_left _ (List.mem_append_right _ hmiddle))).2
    exact hfresh _ (List.mem_append_left _ hmiddle) (Option.some.inj (hdue.symm.trans hdue'))

/-- Once the CONFIG_REQUEST of the current execution is behind, the RX thread has seen error code 0
if and only if L1 has given it and nothing is under way. -/
theorem acknowledged_iff (h : Accounted rx env s)
    (hbegun : s.pc.begun s.execution = s.execution + 1) :
    Acknowledged s.execution s.log ↔ (env s.execution).Cooperate ∧ s.Delivered := by
  have hmem := mem_answers_iff h hbegun
  apply Iff.intro
  · intro ⟨trace, hreceived, hzero⟩
    have hfirst := mem_received_iff.mpr hreceived
    have hdue := (hmem trace).mp (List.mem_append_left _ (List.mem_append_left _ hfirst))
    obtain ⟨r, hr, rfl⟩ := (answerTo_eq_some_iff.mp hdue.2).2
    have hcode : r.errorCode = 0 := (configResponse_zero_mem_iff rx r).mp hzero
    refine ⟨⟨hdue.1, ?_⟩, delivered_of_received h hbegun hreceived⟩
    rw [hr, ← hcode]
    rfl
  · intro ⟨⟨halloc, hanswer⟩, hconfig, hresponse⟩
    obtain ⟨r, hr, hcode⟩ := Option.map_eq_some_iff.mp hanswer
    have hto : answerTo rx env s.execution = some (s.execution, rx.configResponseTrace r) :=
      answerTo_eq_some_iff.mpr ⟨rfl, r, hr, rfl⟩
    have hall := (hmem _).mpr ⟨halloc, hto⟩
    rw [answers, List.mem_append, List.mem_append] at hall
    rcases hall with (hfirst | hmiddle) | hlast
    · exact ⟨_, mem_received_iff.mp hfirst, (configResponse_zero_mem_iff rx r).mpr hcode⟩
    · exact absurd (mem_toRx_iff.mpr ⟨_, hmiddle⟩) hresponse
    · obtain ⟨request, hrequest, hsome⟩ := List.mem_filterMap.mp hlast
      cases request with
      | config n =>
          have hn : s.execution = n := (answerTo_eq_some_iff.mp hsome).1
          rw [← hn] at hrequest
          exact absurd hrequest hconfig
      | start n => cases hsome

end SectorState

/-! ## Runs -/

section Runs

variable {rx : RxThread} {ocudu : Ocudu} {env : Nat → Surroundings} {s t : SectorState}
  {ls : List StartupLabel}

open SectorState

/-- One timely step keeps the documented order. -/
theorem admissible_step (hs : Accounted rx env s) (hlog : Admissible AfterConfig s.log)
    (l : StartupLabel) (htimely : Timely env s l) (hstep : step rx ocudu env s l = some t) :
    Admissible AfterConfig t.log := by
  obtain ⟨o, hlog', hstart⟩ := step_log l hstep
  rw [hlog']
  cases o with
  | none => simpa using hlog
  | some e =>
      apply hlog.concat
      cases e with
      | received n trace => trivial
      | sent request =>
          cases request with
          | config n => trivial
          | start n =>
              obtain ⟨rfl, hpc, rfl⟩ := (hstart n).mp rfl
              exact (acknowledged_iff hs (by rw [hpc]; rfl)).mpr (htimely hpc)

theorem log_extends (h : Run (step rx ocudu env) Anywhere s ls t) : s.log <+: t.log := by
  apply h.invariant _ (List.prefix_refl s.log)
  intro u l v hu _ hstep
  obtain ⟨o, hlog, _⟩ := step_log l hstep
  rw [hlog]
  exact hu.trans (List.prefix_append u.log o.toList)

/-- A run that has kept the documented order took only timely steps: before each START_REQUEST the
log was a prefix of the one the run ends with. -/
theorem timely_of_admissible (h : Run (step rx ocudu env) Anywhere s ls t)
    (hs : Accounted rx env s) (hlog : Admissible AfterConfig t.log) :
    Run (step rx ocudu env) (Timely env) s ls t := by
  induction h with
  | nil s => exact .nil s
  | @cons s s' t l ls _ hstep hrun ih =>
      refine .cons ?_ hstep (ih (step_accounted hs l hstep) hlog)
      cases l with
      | caller =>
          intro hpc
          apply (acknowledged_iff hs (by rw [hpc]; rfl)).mp
          obtain ⟨o, hsent, hstart⟩ := step_log .caller hstep
          obtain ⟨after, hafter⟩ := log_extends hrun
          rw [(hstart s.execution).mpr ⟨rfl, hpc, rfl⟩] at hsent
          have hfinal : t.log = s.log ++ .sent (.start s.execution) :: after := by
            rw [← hafter, hsent]
            simp
          exact hlog _ _ _ hfinal
      | l1 _ | rx _ | elapse _ => trivial

/-- Before the end of the sleep the answer may be under way, behind it nothing is. -/
structure SleptLongEnough (s : SectorState) : Prop where
  asleep : ∀ wakeAt, s.pc = .sleeping wakeAt → s.Delivered ∨ s.now < wakeAt
  awake : s.pc = .allocateStart ∨ s.pc = .sendStart → s.Delivered

theorem sleptLongEnough_step (hs : SleptLongEnough s) (l : StartupLabel)
    (hanswered : AnsweredInSleep s l) (hstep : step rx ocudu env s l = some t) :
    SleptLongEnough t := by
  have honward : Onward rx env s t → SleptLongEnough t := by
    intro hon
    constructor
    · intro wakeAt hpc
      rw [hon.pc] at hpc
      rw [hon.now]
      exact (hs.asleep wakeAt hpc).imp_left hon.delivered
    · intro hpc
      rw [hon.pc] at hpc
      exact hon.delivered (hs.awake hpc)
  cases l with
  | l1 i => exact honward (l1_spec rx hstep).2
  | rx i => exact honward (receive_spec env hstep).2
  | elapse ms =>
      cases hstep
      refine ⟨fun wakeAt hpc ↦ ?_, hs.awake⟩
      by_cases hdelivered : s.Delivered
      · exact .inl hdelivered
      · exact .inr (hanswered wakeAt hpc hdelivered)
  | caller =>
      obtain ⟨pc, now, execution, toL1, toRx, log⟩ := s
      cases pc with
      | idle | sendConfig | sendStart =>
          cases hstep
          exact ⟨by simp, by simp⟩
      | allocateConfig =>
          cases hstep
          exact ⟨by intro _; split <;> simp, by split <;> simp⟩
      | sleepFor =>
          cases hstep
          refine ⟨fun wakeAt hpc ↦ .inr ?_, by simp⟩
          rw [← SectorPc.sleeping.inj hpc]
          exact Nat.lt_add_of_pos_right (by decide)
      | sleeping wakeAt =>
          simp only [step, start, Option.ite_none_right_eq_some] at hstep
          obtain ⟨hover, hstep⟩ := hstep
          cases hstep
          refine ⟨by simp, fun _ ↦ ?_⟩
          exact (hs.asleep wakeAt rfl).resolve_right (not_lt.mpr hover)
      | allocateStart =>
          simp only [step, start] at hstep
          split at hstep
          · cases hstep
            exact ⟨by simp, fun _ ↦ hs.awake (.inl rfl)⟩
          · cases hstep
            exact ⟨by simp, by simp⟩

/-- When each answer comes within the two seconds of the sleep, nothing of an execution is
under way once that is over. -/
theorem timely_of_answeredInSleep (henv : ∀ n, (env n).Cooperate)
    (h : Run (step rx ocudu env) AnsweredInSleep s ls t) (hs : SleptLongEnough s) :
    Run (step rx ocudu env) (Timely env) s ls t := by
  induction h with
  | nil s => exact .nil s
  | @cons s s' t l ls hok hstep _ ih =>
      refine .cons ?_ hstep (ih (sleptLongEnough_step hs l hok hstep))
      cases l with
      | caller => exact fun hpc ↦ ⟨henv s.execution, hs.awake (.inr hpc)⟩
      | l1 _ | rx _ | elapse _ => trivial

/-- A run keeps the documented order exactly when START_REQUEST is only ever sent in an execution
whose CONFIG_REQUEST got a buffer, was answered with error code 0 and is answered by then.  With
surroundings that cooperate it does so when each answer comes within the sleep. -/
theorem start_afterConfig_iff (h : Run (step rx ocudu env) Anywhere init ls s) :
    (Admissible AfterConfig s.log ↔ Run (step rx ocudu env) (Timely env) init ls s) ∧
      ((∀ n, (env n).Cooperate) → Run (step rx ocudu env) AnsweredInSleep init ls s →
        Run (step rx ocudu env) (Timely env) init ls s) := by
  refine ⟨⟨timely_of_admissible h init_accounted, fun htimely ↦ ?_⟩, fun henv hanswered ↦ ?_⟩
  · have hstep (s : SectorState) (l : StartupLabel) (t : SectorState)
        (hs : Accounted rx env s ∧ Admissible AfterConfig s.log) (hok : Timely env s l)
        (hst : step rx ocudu env s l = some t) :
        Accounted rx env t ∧ Admissible AfterConfig t.log :=
      ⟨step_accounted hs.1 l hst, admissible_step hs.1 hs.2 l hok hst⟩
    exact (htimely.invariant hstep ⟨init_accounted, .nil⟩).2
  · exact timely_of_answeredInSleep henv hanswered ⟨nofun, by simp [init]⟩

end Runs

section Example

open SectorState

/-- One execution of `start`; the RX thread has the answer when the sleep begins. -/
def promptExecution : List StartupLabel :=
  [.caller, .caller, .caller, .l1 0, .rx 0, .caller, .elapse 2000, .caller, .caller, .caller]

def exampleThread : RxThread := ⟨1, true, true, true, true⟩

/-- The state after a prompt execution in which L1 has answered `r`. -/
def afterPromptExecution (r : ConfigResponse) : SectorState :=
  ⟨.idle, 2000, 1, [.start 0], [],
    [.sent (.config 0), .received 0 (exampleThread.configResponseTrace r), .sent (.start 0)]⟩

/-- L1 accepts the configuration. -/
theorem start_afterConfig_accepted :
    Run (step exampleThread exampleOcudu fun _ ↦ ⟨true, some ⟨0, 0⟩, true⟩) Anywhere init
        promptExecution (afterPromptExecution ⟨0, 0⟩) ∧
      Admissible AfterConfig (afterPromptExecution ⟨0, 0⟩).log :=
  have hrun : Run _ Anywhere init promptExecution (afterPromptExecution ⟨0, 0⟩) :=
    .of_follow (by decide +kernel)
  ⟨hrun, (start_afterConfig_iff hrun).1.mpr (.of_follow (by decide +kernel))⟩

/-- L1 answers the CONFIG_REQUEST with error code 1, and START_REQUEST is sent all the same. -/
theorem start_sent_after_failed_config :
    ¬ ∀ (rx : RxThread) (ocudu : Ocudu) (env : Nat → Surroundings) (ls : List StartupLabel)
        (s : SectorState), Run (step rx ocudu env) Anywhere init ls s →
      Admissible AfterConfig s.log := by
  intro h
  have hrun : Run (step exampleThread exampleOcudu fun _ ↦ ⟨true, some ⟨1, 3⟩, true⟩) Anywhere init
      promptExecution (afterPromptExecution ⟨1, 3⟩) := .of_follow (by decide +kernel)
  have hpermitted : Acknowledged 0 [.sent (.config 0),
      .received 0 (exampleThread.configResponseTrace ⟨1, 3⟩)] :=
    h _ _ _ _ _ hrun _ (.sent (.start 0)) [] rfl
  obtain ⟨trace, hmem, hzero⟩ := hpermitted
  have htrace : trace = exampleThread.configResponseTrace ⟨1, 3⟩ := by simpa using hmem
  rw [htrace, configResponse_zero_mem_iff] at hzero
  cases hzero

end Example

end AerialBridge
