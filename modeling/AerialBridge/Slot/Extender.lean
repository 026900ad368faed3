import AerialBridge.Slot.SlotPoint

/-!
# The slot point extender

`slot_point_extender_adaptor` follows the received slots by their wrap-aware differences, but never
by less than one slot.  Its run is the run of a cyclic unwrapper, so the extended slot projects to
the raw slot moved on by the slips of the stream.
-/

namespace AerialBridge

open Cyclic

/-- The state of `slot_point_extender_adaptor`. -/
structure SlotPointExtenderAdaptor where
  lastSlot : Option SlotPoint
  lastExtendedSlot : Option SlotPointExtended
  deriving DecidableEq, Repr

namespace SlotPointExtenderAdaptor

def init : SlotPointExtenderAdaptor := ⟨none, none⟩

/-- `on_slot_indication`: the new state and the indication handed to the notifier; `none` when the
slot subtraction is undefined. -/
def onSlotIndication (a : SlotPointExtenderAdaptor) (msg : SlotIndication) :
    Option (SlotPointExtenderAdaptor × SlotIndication) :=
  let rawSlot := msg.slot.withoutHyperSfn
  match a.lastSlot, a.lastExtendedSlot with
  | some lastSlot, some lastExtendedSlot => do
      let delta ← rawSlot.sub lastSlot
      let delta := if delta ≤ 0 then 1 else delta
      let extended := lastExtendedSlot.add delta
      pure (⟨some rawSlot, some extended⟩, ⟨extended, msg.timePoint⟩)
  | _, _ =>
      let extended := SlotPointExtended.ofSlotPoint rawSlot
      pure (⟨some rawSlot, some extended⟩, ⟨extended, msg.timePoint⟩)

/-- A stream of indications: the final state and everything the notifier was given. -/
def run (a : SlotPointExtenderAdaptor) :
    List SlotIndication → Option (SlotPointExtenderAdaptor × List SlotIndication)
  | [] => some (a, [])
  | msg :: msgs => do
      let (a, out) ← a.onSlotIndication msg
      let (a, outs) ← a.run msgs
      pure (a, out :: outs)

/-- The adaptor holds the counts of an unwrapper. -/
structure Follows (numerology : Nat) (u : Unwrapped) (a : SlotPointExtenderAdaptor) : Prop where
  slot : ∃ s : SlotPoint, a.lastSlot = some s ∧ s.numerology = numerology ∧ s.Valid ∧ u.raw = s.count
  extended : a.lastExtendedSlot = some ⟨numerology, u.ext⟩

end SlotPointExtenderAdaptor

open SlotPointExtenderAdaptor

/-- The count of the slot an indication carries, its hyper SFN removed. -/
def rawCount (msg : SlotIndication) : Int := msg.slot.withoutHyperSfn.count

theorem onSlotIndication_init (msg : SlotIndication) (h : msg.slot.numerology ≤ 4) :
    ∃ a out, init.onSlotIndication msg = some (a, out) ∧
      out.slot = ⟨msg.slot.numerology, rawCount msg⟩ ∧
      Follows msg.slot.numerology ⟨rawCount msg, rawCount msg⟩ a :=
  ⟨_, _, rfl, rfl, ⟨_, rfl, rfl, msg.slot.valid_withoutHyperSfn h, rfl⟩, rfl⟩

theorem onSlotIndication_follows {numerology : Nat} {u : Unwrapped} {a : SlotPointExtenderAdaptor}
    (hf : Follows numerology u a) (hn : numerology ≤ 4) (msg : SlotIndication)
    (hm : msg.slot.numerology = numerology) :
    ∃ a' out, a.onSlotIndication msg = some (a', out) ∧
      out.slot = ⟨numerology, (u.step (nofSlotsPerHyperFrame numerology) (rawCount msg)).ext⟩ ∧
      Follows numerology (u.step (nofSlotsPerHyperFrame numerology) (rawCount msg)) a' := by
  obtain ⟨s, hs, hsn, -, hraw⟩ := hf.slot
  have hvalid := msg.slot.valid_withoutHyperSfn (by omega)
  -- equal numerologies: the subtraction is defined and is the cyclic difference
  have hsub : msg.slot.withoutHyperSfn.sub s =
      some (diff (nofSlotsPerHyperFrame numerology) (rawCount msg) u.raw) := by
    have hnum : msg.slot.withoutHyperSfn.numerology = numerology := hm
    rw [SlotPoint.sub, hnum, if_pos hsn.symm, hraw]
    rfl
  refine ⟨⟨some msg.slot.withoutHyperSfn,
    some ⟨numerology, (u.step (nofSlotsPerHyperFrame numerology) (rawCount msg)).ext⟩⟩,
    ⟨_, msg.timePoint⟩, ?_, rfl, ⟨_, rfl, hm, hvalid, rfl⟩, rfl⟩
  simp only [onSlotIndication, hs, hf.extended, hsub]
  rfl

/-- A run of the adaptor is the run of its unwrapper. -/
theorem run_follows {numerology : Nat} {u : Unwrapped} {a : SlotPointExtenderAdaptor}
    (hf : Follows numerology u a) (hn : numerology ≤ 4) (msgs : List SlotIndication)
    (hm : ∀ m ∈ msgs, m.slot.numerology = numerology) :
    ∃ a' outs, a.run msgs = some (a', outs) ∧
      Follows numerology (u.run (nofSlotsPerHyperFrame numerology) (msgs.map rawCount)) a' ∧
      outs.map SlotIndication.slot =
        (u.exts (nofSlotsPerHyperFrame numerology) (msgs.map rawCount)).map
          (SlotPointExtended.mk numerology) := by
  induction msgs generalizing u a with
  | nil => exact ⟨a, [], rfl, hf, rfl⟩
  | cons msg msgs ih =>
      -- one indication is one step of the unwrapper, and the invariant carries on
      obtain ⟨a', out, hstep, hout, hf'⟩ :=
        onSlotIndication_follows hf hn msg (hm msg List.mem_cons_self)
      obtain ⟨a'', outs, hrun, hf'', houts⟩ :=
        ih hf' (fun m h ↦ hm m (List.mem_cons_of_mem msg h))
      refine ⟨a'', out :: outs, ?_, hf'', ?_⟩
      · simp only [run, hstep, hrun, Option.bind_eq_bind, Option.bind_some, Option.pure_def]
      · simp only [List.map_cons, Unwrapped.exts, hout, houts]

/-- The unwrapper that the first indication of a stream starts. -/
def startAt (msg : SlotIndication) : Unwrapped := ⟨rawCount msg, rawCount msg⟩

theorem run_init {numerology : Nat} (hn : numerology ≤ 4) (msg : SlotIndication)
    (msgs : List SlotIndication) (hm : ∀ m ∈ msg :: msgs, m.slot.numerology = numerology) :
    ∃ a outs, init.run (msg :: msgs) = some (a, outs) ∧
      Follows numerology
        ((startAt msg).run (nofSlotsPerHyperFrame numerology) (msgs.map rawCount)) a ∧
      outs.map SlotIndication.slot =
        (rawCount msg ::
          (startAt msg).exts (nofSlotsPerHyperFrame numerology) (msgs.map rawCount)).map
            (SlotPointExtended.mk numerology) := by
  have hmsg := hm msg List.mem_cons_self
  obtain ⟨a, out, hfirst, hout, hf⟩ := onSlotIndication_init msg (by omega)
  rw [hmsg] at hout hf
  obtain ⟨a', outs, hrun, hf', houts⟩ :=
    run_follows hf hn msgs (fun m h ↦ hm m (List.mem_cons_of_mem msg h))
  refine ⟨a', out :: outs, ?_, hf', ?_⟩
  · simp only [run, hfirst, hrun, Option.bind_eq_bind, Option.bind_some, Option.pure_def]
  · simp only [List.map_cons, hout, houts, startAt]

theorem getLastD_map_rawCount (msg : SlotIndication) (msgs : List SlotIndication) :
    (msgs.map rawCount).getLastD (startAt msg).raw = rawCount (msgs.getLastD msg) := by
  rw [List.getLastD_eq_getLast?, List.getLastD_eq_getLast?, List.getLast?_map]
  cases msgs.getLast? <;> rfl

/-- After every stream the extended slot projects to the last received slot moved on by the slips of
the stream; a stream in which each slot is ahead of the one before has none. -/
theorem slotPointExtender_projection (numerology : Nat) (hn : numerology ≤ 4) (msg : SlotIndication)
    (msgs : List SlotIndication) (hm : ∀ m ∈ msg :: msgs, m.slot.numerology = numerology) :
    ∃ a outs s e, init.run (msg :: msgs) = some (a, outs) ∧
      a.lastSlot = some s ∧ a.lastExtendedSlot = some e ∧
      s = (msgs.getLastD msg).slot.withoutHyperSfn ∧
      outs.getLast?.map SlotIndication.slot = some e ∧
      e.withoutHyperSfn = (SlotPointExtended.mk numerology (s.count +
        slips (nofSlotsPerHyperFrame numerology) (rawCount msg) (msgs.map rawCount))).withoutHyperSfn ∧
      (Ahead (nofSlotsPerHyperFrame numerology) (rawCount msg) (msgs.map rawCount) →
        e.withoutHyperSfn = s) := by
  obtain ⟨a, outs, hrun, hf, houts⟩ := run_init hn msg msgs hm
  obtain ⟨s, hs, hsn, hvalid, hraw⟩ := hf.slot
  have hlast : (msgs.getLastD msg).slot.numerology = numerology := by
    apply hm
    cases msgs <;> simp [List.getLastD]
  have hcount : s.count = (msgs.getLastD msg).slot.withoutHyperSfn.count := by
    rw [run_raw] at hraw
    rw [getLastD_map_rawCount, rawCount] at hraw
    exact_mod_cast hraw.symm
  have hslot : s = (msgs.getLastD msg).slot.withoutHyperSfn := by
    apply SlotPoint.eq_of_count hvalid _ (hsn.trans hlast.symm) hcount
    exact SlotPointExtended.valid_withoutHyperSfn _ (by omega)
  -- the unwrapper starts in step with its counter, so its slips are those of the stream
  have hext := run_modEq (nofSlotsPerHyperFrame numerology) (startAt msg) (msgs.map rawCount) 0
    (by simp [startAt])
  rw [hraw, zero_add] at hext
  have hproj := SlotPointExtended.withoutHyperSfn_congr hext
  refine ⟨a, outs, s, _, hrun, hs, hf.extended, hslot, ?_, hproj, ?_⟩
  · have hl := congrArg List.getLast? houts
    rw [List.getLast?_map, List.getLast?_map, List.getLast?_cons, ← List.getLastD_eq_getLast?,
      show rawCount msg = (startAt msg).ext from rfl, exts_getLastD] at hl
    exact hl
  · intro hahead
    have hslips := slips_of_ahead _ (startAt msg).raw _ hahead
    rw [hproj, hslips, add_zero, ← hsn]
    exact SlotPointExtended.withoutHyperSfn_ofSlotPoint hvalid

theorem slotPointExtender_projection_forward :
    ∃ a outs s e, init.run [⟨⟨1, 20478⟩, 0⟩, ⟨⟨1, 20480⟩, 1000⟩] = some (a, outs) ∧
      a.lastSlot = some s ∧ a.lastExtendedSlot = some e ∧ e.withoutHyperSfn = s := by
  obtain ⟨a, outs, s, e, hrun, hs, he, -, -, -, hahead⟩ :=
    slotPointExtender_projection 1 (by decide) ⟨⟨1, 20478⟩, 0⟩ [⟨⟨1, 20480⟩, 1000⟩] (by decide)
  exact ⟨a, outs, s, e, hrun, hs, he, hahead ⟨by decide, trivial⟩⟩

/-- A stream of consecutive slots is extended to consecutive slots. -/
theorem run_isChain {numerology : Nat} (hn : numerology ≤ 4) (msg : SlotIndication)
    (msgs : List SlotIndication) (hm : ∀ m ∈ msg :: msgs, m.slot.numerology = numerology)
    (h : ((msg :: msgs).map rawCount).IsChain
      fun a b ↦ b ≡ a + 1 [ZMOD nofSlotsPerHyperFrame numerology]) :
    ∃ a outs, init.run (msg :: msgs) = some (a, outs) ∧ outs.length = (msg :: msgs).length ∧
      outs.IsChain fun x y ↦ y.slot = x.slot.add 1 := by
  obtain ⟨a, outs, hrun, -, houts⟩ := run_init hn msg msgs hm
  have hN : 2 < nofSlotsPerHyperFrame numerology := by
    have hp := nofSlotsPerFrame_pos numerology
    rw [nofSlotsPerHyperFrame]
    omega
  have hexts := exts_isChain hN (startAt msg) (msgs.map rawCount) h
  refine ⟨a, outs, hrun, ?_, ?_⟩
  · have hlen := congrArg List.length houts
    simpa using hlen
  · have hslots : (outs.map SlotIndication.slot).IsChain fun x y ↦ y = x.add 1 := by
      rw [houts, List.isChain_map]
      apply List.IsChain.imp _ hexts
      rintro x y rfl
      rfl
    exact (List.isChain_map _).mp hslots

/-- A repeated slot leaves the extended slot one ahead of the received one. -/
theorem slotPointExtender_repeat :
    ¬ ∀ (msgs : List SlotIndication) (a : SlotPointExtenderAdaptor) (outs : List SlotIndication),
      (∀ m ∈ msgs, m.slot.numerology = 1) → init.run msgs = some (a, outs) →
        a.lastExtendedSlot.map SlotPointExtended.withoutHyperSfn = a.lastSlot := by
  intro h
  have hrun := h [⟨⟨1, 7⟩, 0⟩, ⟨⟨1, 7⟩, 500⟩] ⟨some ⟨1, 0, 7⟩, some ⟨1, 8⟩⟩
    [⟨⟨1, 7⟩, 0⟩, ⟨⟨1, 8⟩, 500⟩] (by decide) (by decide)
  exact absurd hrun (by decide)

end AerialBridge
