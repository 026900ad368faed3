import AerialBridge.Bytes.Related
import AerialBridge.Indication.Decoders

/-!
# The trace of a decoder PDU by PDU

`pduEffects` is the walk of `dispatchPdus` with the effects of each PDU kept apart, so that a result
can speak of the notifier calls of one PDU of a message.
-/

namespace AerialBridge

open Bytes Bytes.Parser

/-- The effects of the PDUs that the walk of `dispatchPdus` enters, one list for each PDU. -/
def pduEffects {σ : Type} (count : Parser Nat) (countSize : Nat) (buf : List UInt8)
    (numerology : Nat) (start : Nat → σ)
    (turn : SlotPoint → σ → Except ReadFault (Turn σ Effect)) :
    Except ReadFault (List (List Effect)) :=
  if buf.length < scfHdrSize + 4 + countSize then pure [] else do
    let sfn ← readAt u16 buf scfHdrSize
    let slot ← readAt u16 buf (scfHdrSize + 2)
    let numPdus ← readAt count buf (scfHdrSize + 4)
    turns (turn ⟨numerology, sfn, slot⟩) numPdus (start (scfHdrSize + 4 + countSize))

theorem notifications_flatten (outs : List (List Effect)) :
    notifications outs.flatten = (outs.map notifications).flatten := by
  induction outs with
  | nil => rfl
  | cons out outs ih =>
      rw [List.flatten_cons, notifications_append, ih, List.map_cons, List.flatten_cons]

section

variable {σ : Type} {count : Parser Nat} {countSize : Nat} {buf : List UInt8} {numerology : Nat}
  {start : Nat → σ} {turn : SlotPoint → σ → Except ReadFault (Turn σ Effect)}

theorem pduEffects_short (h : buf.length < 12 + countSize) :
    pduEffects count countSize buf numerology start turn = .ok [] := by
  unfold pduEffects
  rw [if_pos (by rw [scfHdrSize]; omega)]
  rfl

theorem pduEffects_eq {n : Nat} (h : 12 + countSize ≤ buf.length)
    (hcount : readAt count buf 12 = .ok n) :
    pduEffects count countSize buf numerology start turn =
      turns (turn (wirePoint numerology buf)) n (start (12 + countSize)) := by
  unfold pduEffects
  rw [scfHdrSize, if_neg (by omega), readAt_u16 (by omega : 8 + 2 ≤ buf.length), ok_bind,
    readAt_u16 (by omega : 8 + 2 + 2 ≤ buf.length), ok_bind, hcount, ok_bind]
  rfl

/-- The notifier calls of a decoder are those of the PDUs it enters, in their order. -/
theorem dispatchPdus_pduEffects (hcount : Sized count countSize) {outs : List (List Effect)}
    (h : pduEffects count countSize buf numerology start turn = .ok outs) :
    ∃ trace, dispatchPdus count countSize buf numerology start turn = .ok trace ∧
      notifications trace = (outs.map notifications).flatten := by
  by_cases hlen : buf.length < 12 + countSize
  · rw [pduEffects_short hlen, Except.ok.injEq] at h
    subst h
    exact ⟨[], dispatchPdus_short count numerology start turn hlen, rfl⟩
  · obtain ⟨n, hn⟩ := readAt_fixed hcount.fixed (not_lt.mp hlen)
    rw [pduEffects_eq (not_lt.mp hlen) hn] at h
    obtain ⟨u, hloop⟩ := loop_turns h
    refine ⟨_, dispatchPdus_eq (not_lt.mp hlen) hn hloop, ?_⟩
    rw [notifications_slotPoint]
    exact notifications_flatten outs

end

end AerialBridge
