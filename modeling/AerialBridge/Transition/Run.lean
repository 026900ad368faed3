import Mathlib.Data.List.Basic

/-!
# Runs of a labelled step function

A step function says which labels a state can take and where they lead.  A run takes a list of
labels one after another, each in a state that allows it; what every step preserves, every run
preserves.  The second half is about the log a run leaves behind: which events may follow which.
-/

namespace Transition

variable {σ ℓ ε : Type*}

/-- The labels are enabled one after another, and `ok` in the states they are taken in. -/
inductive Run (step : σ → ℓ → Option σ) (ok : σ → ℓ → Prop) : σ → List ℓ → σ → Prop
  | nil (s : σ) : Run step ok s [] s
  | cons {s s' s'' : σ} {l : ℓ} {ls : List ℓ} (hok : ok s l) (hstep : step s l = some s')
      (hrun : Run step ok s' ls s'') : Run step ok s (l :: ls) s''

/-- Any label may be taken wherever it is enabled. -/
def Anywhere (_ : σ) (_ : ℓ) : Prop := True

instance (s : σ) (l : ℓ) : Decidable (Anywhere s l) := .isTrue trivial

namespace Run

variable {step : σ → ℓ → Option σ} {ok : σ → ℓ → Prop} {s s' : σ} {ls : List ℓ}

theorem single {l : ℓ} (hok : ok s l) (hstep : step s l = some s') : Run step ok s [l] s' :=
  .cons hok hstep (.nil s')

/-- What each step preserves, a run preserves. -/
theorem invariant {Inv : σ → Prop}
    (hinv : ∀ s l s', Inv s → ok s l → step s l = some s' → Inv s')
    (h : Run step ok s ls s') (hs : Inv s) : Inv s' := by
  induction h with
  | nil _ => exact hs
  | cons hok hstep _ ih => exact ih (hinv _ _ _ hs hok hstep)

theorem append {t : σ} {ls' : List ℓ} (h : Run step ok s ls s') (h' : Run step ok s' ls' t) :
    Run step ok s (ls ++ ls') t := by
  induction h with
  | nil _ => exact h'
  | cons hok hstep _ ih => exact .cons hok hstep (ih h')

theorem imp {ok' : σ → ℓ → Prop} (h : Run step ok s ls s')
    (himp : ∀ s l, ok s l → ok' s l) : Run step ok' s ls s' := by
  induction h with
  | nil _ => exact .nil _
  | cons hok hstep _ ih => exact .cons (himp _ _ hok) hstep ih

/-- When each step adds at the end of a queue what comes in and removes at its front what goes out,
then what came in over a run is what went out and what still waits. -/
theorem conserved {α : Type*} (queue : σ → List α) (ins outs : ℓ → List α)
    (hstep : ∀ s l s', step s l = some s' → queue s ++ ins l = outs l ++ queue s')
    (h : Run step ok s ls s') : queue s ++ ls.flatMap ins = ls.flatMap outs ++ queue s' := by
  induction h with
  | nil _ => exact List.append_nil _
  | cons _ hs _ ih =>
    rw [List.flatMap_cons, List.flatMap_cons, ← List.append_assoc, hstep _ _ _ hs,
      List.append_assoc, ih, List.append_assoc]

end Run

/-- The run through `ls`, when all its labels are enabled and `ok`. -/
def follow (step : σ → ℓ → Option σ) (ok : σ → ℓ → Prop) [∀ s l, Decidable (ok s l)] (s : σ) :
    List ℓ → Option σ
  | [] => some s
  | l :: ls => if ok s l then (step s l).bind fun s' ↦ follow step ok s' ls else none

theorem Run.of_follow {step : σ → ℓ → Option σ} {ok : σ → ℓ → Prop} [∀ s l, Decidable (ok s l)]
    {s s' : σ} {ls : List ℓ} (h : follow step ok s ls = some s') : Run step ok s ls s' := by
  induction ls generalizing s with
  | nil =>
      cases h
      exact .nil _
  | cons l ls ih =>
      rw [follow] at h
      split at h
      next hok =>
        cases hstep : step s l with
        | none => simp [hstep] at h
        | some t =>
            rw [hstep] at h
            exact .cons hok hstep (ih h)
      next => cases h

/-! ## Logs -/

/-- Every event of the log is one that the events before it permit. -/
def Admissible (permits : List ε → ε → Prop) (log : List ε) : Prop :=
  ∀ before e after, log = before ++ e :: after → permits before e

namespace Admissible

variable {permits : List ε → ε → Prop} {log : List ε}

theorem nil : Admissible permits [] := by
  intro before e after h
  simp at h

theorem concat {e : ε} (h : Admissible permits log) (he : permits log e) :
    Admissible permits (log ++ [e]) := by
  intro before e' after heq
  rcases List.eq_nil_or_concat after with rfl | ⟨after', last, rfl⟩
  · have hlast := List.append_inj' heq rfl
    rw [← hlast.1, ← List.singleton_inj.1 hlast.2]
    exact he
  · rw [List.concat_eq_append, ← List.cons_append, ← List.append_assoc] at heq
    exact h before e' after' (List.append_inj_left' heq rfl)

end Admissible

end Transition
