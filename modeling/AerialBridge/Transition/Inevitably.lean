import AerialBridge.Transition.Run
import Mathlib.Order.WellFounded

/-!
# What a thread left to itself comes to

A thread takes its own steps, whose labels also bring the answers of its surroundings.  It comes to
a state with `P` inevitably when there is always such a step until it is there, and every way of
taking them leads there after finitely many.
-/

namespace Transition

variable {σ ℓ : Type*}

/-- Whatever labels of its own the thread takes, it comes to a state that satisfies `P`. -/
inductive Inevitably (step : σ → ℓ → Option σ) (own : σ → ℓ → Prop) (P : σ → Prop) : σ → Prop
  | now {s : σ} (h : P s) : Inevitably step own P s
  | later {s : σ} (next : ℓ → σ) (hsome : ∃ l, own s l)
      (hnext : ∀ l, own s l → step s l = some (next l))
      (h : ∀ l, own s l → Inevitably step own P (next l)) : Inevitably step own P s

namespace Inevitably

variable {step : σ → ℓ → Option σ} {own : σ → ℓ → Prop} {P : σ → Prop} {s : σ}

/-- When the thread's steps preserve an invariant under which there is one to take, and each of them
leads further down in a well-founded order. -/
theorem of_rank {α : Type*} {below : α → α → Prop} (hwf : WellFounded below) (rank : σ → α)
    (Inv : σ → Prop)
    (hsome : ∀ s, Inv s → P s ∨ ∃ l, own s l)
    (hstep : ∀ s l, Inv s → ¬ P s → own s l →
      ∃ t, step s l = some t ∧ Inv t ∧ below (rank t) (rank s))
    (hs : Inv s) : Inevitably step own P s := by
  generalize hr : rank s = r
  induction r using hwf.induction generalizing s with
  | _ r ih =>
      by_cases hP : P s
      · exact .now hP
      · have hown := (hsome s hs).resolve_left hP
        have hnext : ∀ l, own s l → step s l = some ((step s l).getD s) := by
          intro l hl
          obtain ⟨t, ht, _⟩ := hstep s l hs hP hl
          rw [ht, Option.getD_some]
        refine .later (fun l ↦ (step s l).getD s) hown hnext fun l hl ↦ ?_
        obtain ⟨t, ht, hinv, hbelow⟩ := hstep s l hs hP hl
        rw [ht, Option.getD_some]
        exact ih _ (hr ▸ hbelow) hinv rfl

end Inevitably

end Transition
