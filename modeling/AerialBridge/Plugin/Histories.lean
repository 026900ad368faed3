import AerialBridge.Plugin.Adaptor

/-!
# The plugin over time

The plugin makes adaptors for whoever asks, and they are destroyed in any order.  Some constructors
throw half-way.  However it goes, the interfaces that are open and the threads that are attached are
those of the adaptors that there are.
-/

namespace AerialBridge

open Transition

/-! ## What is held -/

/-- The interfaces and the threads are accounted for. -/
structure Outside.Accounts (w : Outside) (ipcs threads : List Nat) : Prop where
  ipcs : Holds w.ipcs w.nextIpc ipcs
  threads : Holds w.threads w.nextThread threads

namespace Outside.Accounts

variable {w : Outside} {ipcs threads : List Nat} {ipc thread : Nat}

theorem start : Outside.start.Accounts [] [] := ⟨.nil, .nil⟩

theorem createInterface (h : w.Accounts ipcs threads) (cfg : NvIpcConfig) :
    (w.createInterface cfg).Accounts (ipcs ++ [w.nextIpc]) threads :=
  ⟨h.ipcs.acquire cfg, h.threads⟩

theorem ipcDestroy (h : w.Accounts ipcs threads) (hipc : ipc ∈ ipcs) :
    (w.ipcDestroy ipc).Accounts (ipcs.erase ipc) threads :=
  ⟨h.ipcs.release hipc, h.threads⟩

theorem ipcCall (h : w.Accounts ipcs threads) (hipc : ipc ∈ ipcs) (op : NvipcOp) :
    (w.ipcCall ipc op).Accounts ipcs threads :=
  ⟨h.ipcs.use hipc op, h.threads⟩

theorem startThread (h : w.Accounts ipcs threads) (how : ThreadStart) :
    (w.startThread how).Accounts ipcs (threads ++ [w.nextThread]) :=
  ⟨h.ipcs, h.threads.acquire how⟩

theorem detachThread (h : w.Accounts ipcs threads) (hthread : thread ∈ threads) :
    (w.detachThread thread).Accounts ipcs (threads.erase thread) :=
  ⟨h.ipcs, h.threads.release hthread⟩

theorem nextIpc_notMem (h : w.Accounts ipcs threads) : w.nextIpc ∉ ipcs :=
  fun hmem ↦ absurd (h.ipcs.lt_next hmem) (Nat.lt_irrefl w.nextIpc)

end Outside.Accounts

/-- What a thread has been started with. -/
def Outside.Started (w : Outside) (how : ThreadStart) : Prop := ∃ id, .acquire id how ∈ w.threads

theorem started_startThread (w : Outside) (how how' : ThreadStart) :
    (w.startThread how').Started how ↔ w.Started how ∨ how = how' := by
  simp [Outside.Started, Outside.startThread, exists_or]

theorem started_detachThread (w : Outside) (thread : Nat) (how : ThreadStart) :
    (w.detachThread thread).Started how ↔ w.Started how := by
  simp [Outside.Started, Outside.detachThread]

/-! ## One adaptor -/

namespace AerialFapiAdaptor

/-- The adaptor has an interface and a running thread. -/
structure Up (a : AerialFapiAdaptor) (ipc thread : Nat) : Prop where
  transport : a.transport = ⟨some ipc, true⟩
  rx : a.rx = ⟨true, some thread⟩

variable {w : Outside} {ipcs threads : List Nat}

/-- A constructor that throws gives back what it has got. -/
theorem construct_accounts (h : w.Accounts ipcs threads) (n : NvIpcHeader)
    (nvipcCfg : NvipcTransportConfig) (rxCfg : RxThreadConfig) (numCells : Nat) (a : Answers) :
    (∃ e w', construct n nvipcCfg rxCfg numCells a w = some (.error e, w') ∧
        w'.Accounts ipcs threads ∧ w'.threads = w.threads) ∨
      ∃ adaptor w', construct n nvipcCfg rxCfg numCells a w = some (.ok adaptor, w') ∧
        adaptor.Up w.nextIpc w.nextThread ∧ adaptor.sectors = numCells ∧
        w'.Accounts (ipcs ++ [w.nextIpc]) (threads ++ [w.nextThread]) ∧
        w'.threads = (w.startThread rxCfg.threadStart).threads := by
  unfold construct
  rcases NvipcTransport.connect_fresh n nvipcCfg a w with hfresh | ⟨ipcCfg, hconnect⟩
  · refine .inl ⟨.connectFailed nvipcCfg.shmPrefix, w, ?_, h, rfl⟩
    rw [hfresh]
    rfl
  · simp only [hconnect, RxThreadMembers.start_fresh]
    have hconnected := h.createInterface ipcCfg
    cases a.starts with
    | false =>
      -- `running_` is set and there is no thread: what is left to give back is the interface
      refine .inl ⟨.threadFailed, (w.createInterface ipcCfg).ipcDestroy w.nextIpc, ?_, ?_, rfl⟩
      · simp [destroyMembers]
      · have hdestroyed := hconnected.ipcDestroy
          (List.mem_append_right ipcs (List.mem_singleton_self w.nextIpc))
        rw [List.erase_append_right _ h.nextIpc_notMem, List.erase_cons_head,
          List.append_nil] at hdestroyed
        exact hdestroyed
    | true =>
      exact .inr ⟨⟨⟨some w.nextIpc, true⟩, ⟨true, some w.nextThread⟩, numCells⟩,
        (w.createInterface ipcCfg).startThread rxCfg.threadStart, rfl, ⟨rfl, rfl⟩, rfl,
        hconnected.startThread rxCfg.threadStart, rfl⟩

/-- What the destructor has given back, the members' destructors leave alone. -/
theorem Up.destroy {a : AerialFapiAdaptor} {ipc thread : Nat} (hup : a.Up ipc thread)
    (w : Outside) : a.destroy w = some ((w.detachThread thread).ipcDestroy ipc) := by
  simp [AerialFapiAdaptor.destroy, destroyMembers, hup.transport, hup.rx]

end AerialFapiAdaptor

/-! ## The plugin -/

/-- The numerology of the first cell's `scs_common`, if there is a cell. -/
def AerialBridgeConfig.withCells (cfg : AerialBridgeConfig) : List Nat → AerialBridgeConfig
  | [] => cfg
  | scsCommon :: _ => { cfg with rx := { cfg.rx with numerology := scsCommon } }

/-- The plugin and the adaptors that are left of those it has made, the oldest first. -/
structure Plugin where
  cfg : AerialBridgeConfig
  adaptors : List AerialFapiAdaptor
  outside : Outside

/-- The options are parsed, an adaptor is made for cells of these subcarrier spacings, one transmits
or receives, or one is destroyed. -/
inductive PluginCall
  | parse (cfg : AerialBridgeConfig)
  | createFapiAdaptor (cells : List Nat) (a : Answers)
  | transportCall (i : Nat) (op : NvipcOp)
  | destroy (i : Nat)

namespace Plugin

def constructed : Plugin := ⟨.defaults, [], .start⟩

/-- An `unsigned`, and one for no cell. -/
def numCells (cells : List Nat) : Nat :=
  if cells.length % 2 ^ 32 = 0 then 1 else cells.length % 2 ^ 32

/-- What a first cell makes of the configuration stays for the adaptors after it.  There is no next
state where the process ends or a null pointer is used. -/
def step (n : NvIpcHeader) (s : Plugin) : PluginCall → Option Plugin
  | .parse cfg => some { s with cfg := cfg }
  | .createFapiAdaptor cells a =>
      let cfg := s.cfg.withCells cells
      (AerialFapiAdaptor.construct n cfg.nvipc cfg.rx (numCells cells) a s.outside).map fun made ↦
        match made with
        | (.ok adaptor, w) => ⟨cfg, s.adaptors ++ [adaptor], w⟩
        | (.error _, w) => ⟨cfg, s.adaptors, w⟩
  | .transportCall i op => do
      let adaptor ← s.adaptors[i]?
      let w ← adaptor.transport.call op s.outside
      pure { s with outside := w }
  | .destroy i => do
      let adaptor ← s.adaptors[i]?
      let w ← adaptor.destroy s.outside
      pure { s with adaptors := s.adaptors.eraseIdx i, outside := w }

/-- The application goes on only with options that the plugin finds valid, its cells have a
subcarrier spacing, and it uses the adaptors that it has. -/
def Lawful (s : Plugin) : PluginCall → Prop
  | .parse cfg => cfg.onConfigurationValidation = true
  | .createFapiAdaptor cells _ => ∀ scsCommon ∈ cells, scsCommon ≤ 4
  | .transportCall i _ | .destroy i => i < s.adaptors.length

instance (s : Plugin) : (call : PluginCall) → Decidable (s.Lawful call)
  | .parse cfg => inferInstanceAs (Decidable (cfg.onConfigurationValidation = true))
  | .createFapiAdaptor cells _ => inferInstanceAs (Decidable (∀ scsCommon ∈ cells, scsCommon ≤ 4))
  | .transportCall i _ | .destroy i => inferInstanceAs (Decidable (i < s.adaptors.length))

def ipcs (s : Plugin) : List Nat := s.adaptors.filterMap fun a ↦ a.transport.ipc

def threads (s : Plugin) : List Nat := s.adaptors.filterMap fun a ↦ a.rx.thread

/-- All that is held, an adaptor holds. -/
structure Accounted (s : Plugin) : Prop where
  outside : s.outside.Accounts s.ipcs s.threads
  up : ∀ a ∈ s.adaptors, (∃ ipc thread, a.Up ipc thread) ∧ 0 < a.sectors
  numerology : s.cfg.rx.numerology ≤ 4
  started : ∀ how, s.outside.Started how → how.numerology ≤ 4

theorem numCells_pos (cells : List Nat) : 0 < numCells cells := by
  unfold numCells
  split <;> omega

theorem withCells_numerology {cfg : AerialBridgeConfig} (hcfg : cfg.rx.numerology ≤ 4)
    {cells : List Nat} (hcells : ∀ scsCommon ∈ cells, scsCommon ≤ 4) :
    (cfg.withCells cells).rx.numerology ≤ 4 := by
  cases cells with
  | nil => exact hcfg
  | cons scsCommon _ => exact hcells scsCommon List.mem_cons_self

section

variable {s : Plugin} {n : NvIpcHeader}

theorem constructed_accounted : constructed.Accounted where
  outside := .start
  up _ h := by cases h
  numerology := AerialBridgeConfig.numerology_le AerialBridgeConfig.defaults_valid
  started _ h := by
    obtain ⟨_, hmem⟩ := h
    cases hmem

theorem Accounted.createFapiAdaptor (h : s.Accounted) {cells : List Nat}
    (hcells : ∀ scsCommon ∈ cells, scsCommon ≤ 4) (a : Answers) :
    ∃ t, s.step n (.createFapiAdaptor cells a) = some t ∧ t.Accounted := by
  have hnumerology := withCells_numerology h.numerology hcells
  have hstarted (w : Outside) (hw : w.threads = s.outside.threads) :
      ∀ how, w.Started how → how.numerology ≤ 4 := fun how ⟨id, hid⟩ ↦
    h.started how ⟨id, hw ▸ hid⟩
  rcases AerialFapiAdaptor.construct_accounts h.outside n (s.cfg.withCells cells).nvipc
    (s.cfg.withCells cells).rx (numCells cells) a with
    ⟨e, w, hmade, haccounts, hthreads⟩ | ⟨adaptor, w, hmade, hup, hsectors, haccounts, hthreads⟩
  · refine ⟨⟨s.cfg.withCells cells, s.adaptors, w⟩, ?_, haccounts, h.up, hnumerology,
      hstarted w hthreads⟩
    simp only [step, hmade, Option.map_some]
  · refine ⟨⟨s.cfg.withCells cells, s.adaptors ++ [adaptor], w⟩, ?_, ?_, ?_, hnumerology, ?_⟩
    · simp only [step, hmade, Option.map_some]
    · simpa [ipcs, threads, hup.transport, hup.rx] using haccounts
    · intro a' ha'
      cases List.mem_append.mp ha' with
      | inl hold => exact h.up a' hold
      | inr hnew =>
        rw [List.mem_singleton.mp hnew, hsectors]
        exact ⟨⟨_, _, hup⟩, numCells_pos cells⟩
    · -- of the threads, only the last one is new
      rintro how ⟨id, hid⟩
      have hhow : (s.outside.startThread (s.cfg.withCells cells).rx.threadStart).Started how :=
        ⟨id, hthreads ▸ hid⟩
      cases (started_startThread _ _ _).mp hhow with
      | inl hold => exact h.started how hold
      | inr heq => exact heq ▸ hnumerology

theorem Accounted.transportCall (h : s.Accounted) {i : Nat} (hi : i < s.adaptors.length)
    (op : NvipcOp) : ∃ t, s.step n (.transportCall i op) = some t ∧ t.Accounted := by
  have ha : s.adaptors[i]? = some s.adaptors[i] := List.getElem?_eq_getElem hi
  obtain ⟨⟨ipc, thread, hup⟩, _⟩ := h.up _ (List.getElem_mem hi)
  have hipc : s.adaptors[i].transport.ipc = some ipc := by rw [hup.transport]
  have hmem : ipc ∈ s.ipcs := List.mem_filterMap.mpr ⟨_, List.getElem_mem hi, hipc⟩
  refine ⟨{ s with outside := s.outside.ipcCall ipc op }, ?_, h.outside.ipcCall hmem op, h.up,
    h.numerology, h.started⟩
  rw [step, ha]
  simp [NvipcTransport.call, hipc]

theorem Accounted.destroy (h : s.Accounted) {i : Nat} (hi : i < s.adaptors.length) :
    ∃ t, s.step n (.destroy i) = some t ∧ t.Accounted := by
  have ha : s.adaptors[i]? = some s.adaptors[i] := List.getElem?_eq_getElem hi
  obtain ⟨⟨ipc, thread, hup⟩, _⟩ := h.up _ (List.getElem_mem hi)
  have hipc : s.adaptors[i].transport.ipc = some ipc := by rw [hup.transport]
  have hthread : s.adaptors[i].rx.thread = some thread := by rw [hup.rx]
  have hipcMem : ipc ∈ s.ipcs := List.mem_filterMap.mpr ⟨_, List.getElem_mem hi, hipc⟩
  have hthreadMem : thread ∈ s.threads := List.mem_filterMap.mpr ⟨_, List.getElem_mem hi, hthread⟩
  have hipcs : (s.adaptors.eraseIdx i).filterMap (fun a ↦ a.transport.ipc) = s.ipcs.erase ipc :=
    Holders.filterMap_eraseIdx ha hipc h.outside.ipcs.nodup
  have hthreads : (s.adaptors.eraseIdx i).filterMap (fun a ↦ a.rx.thread) = s.threads.erase thread :=
    Holders.filterMap_eraseIdx ha hthread h.outside.threads.nodup
  refine ⟨⟨s.cfg, s.adaptors.eraseIdx i, (s.outside.detachThread thread).ipcDestroy ipc⟩, ?_, ?_, ?_,
    h.numerology, fun how hhow ↦ h.started how ((started_detachThread _ _ _).mp hhow)⟩
  · rw [step, ha]
    simp [hup.destroy]
  · show Outside.Accounts _ ((s.adaptors.eraseIdx i).filterMap _)
      ((s.adaptors.eraseIdx i).filterMap _)
    rw [hipcs, hthreads]
    exact (h.outside.detachThread hthreadMem).ipcDestroy hipcMem
  · exact fun a ha' ↦ h.up a (List.mem_of_mem_eraseIdx ha')

/-- A lawful call has a next state, and everything stays accounted for. -/
theorem Accounted.step (h : s.Accounted) {call : PluginCall} (hlawful : s.Lawful call) :
    ∃ t, s.step n call = some t ∧ t.Accounted := by
  cases call with
  | parse cfg =>
    exact ⟨{ s with cfg := cfg }, rfl, h.outside, h.up, AerialBridgeConfig.numerology_le hlawful,
      h.started⟩
  | createFapiAdaptor cells a => exact h.createFapiAdaptor hlawful a
  | transportCall i op => exact h.transportCall hlawful op
  | destroy i => exact h.destroy hlawful

end

end Plugin

/-- However adaptors are made, used and destroyed, and however often a constructor throws before
there is an interface or a thread: the interfaces that have been created and not destroyed, and the
threads that have been started and not detached, are those of the adaptors that there are, one each;
none is used or given up when it is not held; all threads run with a numerology that there is; and
the next call neither ends the process nor goes through a null pointer. -/
theorem plugin_accounted (n : NvIpcHeader) {calls : List PluginCall} {s : Plugin}
    (h : Run (Plugin.step n) Plugin.Lawful .constructed calls s) :
    Admissible Leased s.outside.ipcs ∧ Admissible Leased s.outside.threads ∧
      (∀ ipc, Live s.outside.ipcs ipc ↔ ∃ a ∈ s.adaptors, a.transport.ipc = some ipc) ∧
      (∀ thread, Live s.outside.threads thread ↔ ∃ a ∈ s.adaptors, a.rx.thread = some thread) ∧
      (s.adaptors.Pairwise fun a a' ↦
        a.transport.ipc ≠ a'.transport.ipc ∧ a.rx.thread ≠ a'.rx.thread) ∧
      (∀ a ∈ s.adaptors, a.transport.connected = true ∧ a.rx.running = true ∧
        a.getSectorAdaptor 0 = .ok 0) ∧
      (∀ how, s.outside.Started how → how.numerology ≤ 4) ∧
      ∀ call, s.Lawful call → (s.step n call).isSome = true := by
  have hs : s.Accounted := h.invariant (fun _ _ _ hs hlawful hstep ↦ by
    obtain ⟨t, ht, haccounted⟩ := hs.step hlawful
    rw [hstep] at ht
    exact Option.some.inj ht ▸ haccounted) Plugin.constructed_accounted
  -- what the numbers in the log stand for: the adaptors' own members
  have hipc : ∀ a ∈ s.adaptors, ∃ ipc, a.transport.ipc = some ipc := fun a ha ↦ by
    obtain ⟨⟨ipc, _, hup⟩, _⟩ := hs.up a ha
    exact ⟨ipc, by rw [hup.transport]⟩
  have hthread : ∀ a ∈ s.adaptors, ∃ thread, a.rx.thread = some thread := fun a ha ↦ by
    obtain ⟨⟨_, thread, hup⟩, _⟩ := hs.up a ha
    exact ⟨thread, by rw [hup.rx]⟩
  refine ⟨hs.outside.ipcs.leased, hs.outside.threads.leased, fun ipc ↦ ?_, fun thread ↦ ?_, ?_, ?_,
    hs.started, fun call hlawful ↦ ?_⟩
  · exact (hs.outside.ipcs.live ipc).trans List.mem_filterMap
  · exact (hs.outside.threads.live thread).trans List.mem_filterMap
  · exact (Holders.pairwise_ne hs.outside.ipcs.nodup hipc).and
      (Holders.pairwise_ne hs.outside.threads.nodup hthread)
  · intro a ha
    obtain ⟨⟨_, _, hup⟩, hsectors⟩ := hs.up a ha
    rw [hup.transport, hup.rx]
    exact ⟨rfl, rfl, if_neg (Nat.not_le_of_lt hsectors)⟩
  · obtain ⟨t, ht, _⟩ := hs.step (n := n) hlawful
    rw [ht]
    rfl

section

def exampleHeader : NvIpcHeader := ⟨32, 1, 2⟩

/-- The first thread does not start; of the two adaptors after it, the older one is destroyed. -/
def exampleHistory : List PluginCall :=
  [.createFapiAdaptor [1] ⟨none, true, false⟩, .createFapiAdaptor [1, 1] ⟨none, true, true⟩,
    .createFapiAdaptor [] ⟨none, true, true⟩, .transportCall 0 .txAllocate, .destroy 0,
    .transportCall 0 .rxTtiSemWait]

def afterExample : Plugin :=
  ((follow (Plugin.step exampleHeader) Plugin.Lawful .constructed exampleHistory).getD .constructed)

theorem plugin_accounted_three :
    (∀ ipc, Live afterExample.outside.ipcs ipc ↔
      ∃ a ∈ afterExample.adaptors, a.transport.ipc = some ipc) ∧
    afterExample.adaptors.map (fun a ↦ (a.transport.ipc, a.rx.thread)) = [(some 2, some 1)] := by
  have hrun : Run (Plugin.step exampleHeader) Plugin.Lawful .constructed exampleHistory
      afterExample := Run.of_follow rfl
  exact ⟨(plugin_accounted exampleHeader hrun).2.2.1, rfl⟩

end

end AerialBridge
