import AerialBridge.Bytes.Reader

/-!
# Counted loops that may leave early

The decoders walk a buffer with loops of at most `n` turns; a turn either leaves the loop or goes on
from a new state and emits some output.
-/

namespace Bytes

variable {σ ω ε α : Type}

inductive Turn (σ ω : Type)
  | exit (s : σ)
  | next (s : σ) (out : List ω)

def Turn.out : Turn σ ω → List ω
  | .exit _ => []
  | .next _ out => out

/-- At most `n` turns of `body`, with everything they emit. -/
def loop (body : σ → Except ε (Turn σ ω)) : Nat → σ → Except ε (σ × List ω)
  | 0, s => .ok (s, [])
  | n + 1, s => do
      match ← body s with
      | .exit t => pure (t, [])
      | .next t out =>
          let (u, outs) ← loop body n t
          pure (u, out ++ outs)

theorem loop_exit {body : σ → Except ε (Turn σ ω)} {s t : σ} (h : body s = .ok (.exit t)) (n : Nat) :
    loop body (n + 1) s = .ok (t, []) := by
  rw [loop, h]
  rfl

theorem loop_next {body : σ → Except ε (Turn σ ω)} {s t u : σ} {out outs : List ω} {n : Nat}
    (h : body s = .ok (.next t out)) (hl : loop body n t = .ok (u, outs)) :
    loop body (n + 1) s = .ok (u, out ++ outs) := by
  rw [loop, h]
  simp only [ok_bind, hl, pure_eq_ok]

/-- A loop whose body never faults does not fault. -/
theorem loop_succeeds {body : σ → Except ε (Turn σ ω)} (h : ∀ s, Succeeds (body s)) (n : Nat)
    (s : σ) : Succeeds (loop body n s) := by
  induction n generalizing s with
  | zero => exact .pure _
  | succ n ih =>
      obtain ⟨t, ht⟩ := h s
      cases t with
      | exit t => exact ⟨_, loop_exit ht n⟩
      | next t out =>
          obtain ⟨r, hr⟩ := ih t
          exact ⟨_, loop_next ht hr⟩

/-- A loop that ran at least one turn left it there or went on from it. -/
theorem loop_cases {body : σ → Except ε (Turn σ ω)} {s u : σ} {outs : List ω} {n : Nat}
    (h : loop body (n + 1) s = .ok (u, outs)) :
    (body s = .ok (.exit u) ∧ outs = []) ∨
      ∃ t out rest, body s = .ok (.next t out) ∧ loop body n t = .ok (u, rest) ∧
        outs = out ++ rest := by
  rw [loop] at h
  cases hb : body s with
  | error e =>
      rw [hb] at h
      cases h
  | ok t =>
      rw [hb, ok_bind] at h
      cases t with
      | exit t =>
          cases h
          exact .inl ⟨rfl, rfl⟩
      | next t out =>
          cases hr : loop body n t with
          | error e =>
              simp only [hr] at h
              cases h
          | ok r =>
              simp only [hr, ok_bind, pure_eq_ok, Except.ok.injEq, Prod.mk.injEq] at h
              obtain ⟨rfl, rfl⟩ := h
              exact .inr ⟨t, out, r.2, rfl, hr, rfl⟩

/-- A property of outputs that is closed under appending holds of what a loop emits. -/
theorem loop_ensures {body : σ → Except ε (Turn σ ω)} {Q : List ω → Prop} (hnil : Q [])
    (happ : ∀ xs ys, Q xs → Q ys → Q (xs ++ ys)) (h : ∀ s, Ensures (body s) fun t ↦ Q t.out)
    (n : Nat) (s : σ) : Ensures (loop body n s) fun r ↦ Q r.2 := by
  induction n generalizing s with
  | zero => exact Ensures.pure hnil
  | succ n ih =>
      rintro ⟨u, outs⟩ hl
      rcases loop_cases hl with ⟨-, rfl⟩ | ⟨t, out, rest, hb, hr, rfl⟩
      · exact hnil
      · exact happ out rest (h s _ hb) (ih t _ hr)

/-- The outputs of the turns of a loop, one list for each turn that went on. -/
def turns (body : σ → Except ε (Turn σ ω)) : Nat → σ → Except ε (List (List ω))
  | 0, _ => .ok []
  | n + 1, s => do
      match ← body s with
      | .exit _ => pure []
      | .next t out =>
          let outs ← turns body n t
          pure (out :: outs)

theorem turns_exit {body : σ → Except ε (Turn σ ω)} {s t : σ} (h : body s = .ok (.exit t)) (n : Nat) :
    turns body n s = .ok [] := by
  cases n with
  | zero => rfl
  | succ n =>
      rw [turns, h]
      rfl

theorem turns_next {body : σ → Except ε (Turn σ ω)} {s t : σ} {out : List ω} {outs : List (List ω)}
    {n : Nat} (h : body s = .ok (.next t out)) (hl : turns body n t = .ok outs) :
    turns body (n + 1) s = .ok (out :: outs) := by
  rw [turns, h]
  simp only [ok_bind, hl, pure_eq_ok]

/-- A loop emits what its turns emit, one behind the other. -/
theorem loop_turns {body : σ → Except ε (Turn σ ω)} {s : σ} {outs : List (List ω)} {n : Nat}
    (h : turns body n s = .ok outs) : ∃ u, loop body n s = .ok (u, outs.flatten) := by
  induction n generalizing s outs with
  | zero =>
      cases h
      exact ⟨s, rfl⟩
  | succ n ih =>
      rw [turns] at h
      cases hb : body s with
      | error e =>
          rw [hb] at h
          cases h
      | ok t =>
          rw [hb, ok_bind] at h
          cases t with
          | exit t =>
              cases h
              exact ⟨t, loop_exit hb n⟩
          | next t out =>
              cases hr : turns body n t with
              | error e =>
                  simp only [hr] at h
                  cases h
              | ok rest =>
                  simp only [hr, ok_bind, pure_eq_ok, Except.ok.injEq] at h
                  obtain ⟨u, hu⟩ := ih hr
                  subst h
                  rw [List.flatten_cons]
                  exact ⟨u, loop_next hb hu⟩

/-- A loop over the encodings of a list visits each of them and ends behind the last; `f` is what is
observed of the outputs. -/
theorem loop_encoded {γ : Type} {body : Nat → Except ε (Turn Nat ω)} {buf : List UInt8}
    {enc : α → List UInt8} {f : List ω → List γ} {val : α → γ} (hnil : f [] = [])
    (happ : ∀ xs ys, f (xs ++ ys) = f xs ++ f ys) (xs : List α)
    (h : ∀ x ∈ xs, ∀ i rest, buf.drop i = enc x ++ rest →
      ∃ out, body i = .ok (.next (i + (enc x).length) out) ∧ f out = [val x])
    {i : Nat} {rest : List UInt8} (hb : buf.drop i = xs.flatMap enc ++ rest) :
    ∃ out, loop body xs.length i = .ok (i + (xs.flatMap enc).length, out) ∧ f out = xs.map val := by
  induction xs generalizing i with
  | nil => exact ⟨[], rfl, hnil⟩
  | cons x xs ih =>
      rw [List.flatMap_cons, List.append_assoc] at hb
      -- the turn for `x` ends where the encoding of the next element begins
      obtain ⟨out, hturn, hout⟩ := h x List.mem_cons_self i _ hb
      obtain ⟨outs, hloop, houts⟩ :=
        ih (fun y hy ↦ h y (List.mem_cons_of_mem x hy)) (drop_past hb rfl)
      refine ⟨out ++ outs, ?_, ?_⟩
      · rw [List.flatMap_cons, List.length_append, ← Nat.add_assoc]
        exact loop_next hturn hloop
      · rw [happ, hout, houts]
        rfl

end Bytes
