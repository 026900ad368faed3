import Mathlib.Tactic

/-!
# Edits one after another

Each of several edits gets through when what it needs is there.  Where no edit bears on what a later
one needs, it is seen beforehand whether all of them get through.  Where it does not matter which of
them is made first, making all of them again and again is making each of them again and again.
-/

namespace Edits

variable {α ρ ε : Type} {step : α → ρ → Except ε α} {Needs : ρ → α → Prop} {made : α → ρ → α}

theorem foldlM_eq_ok_iff (hok : ∀ a r, Needs r a → step a r = .ok (made a r))
    (hfail : ∀ a r, ¬ Needs r a → ∃ e, step a r = .error e) {rs : List ρ}
    (hlater : rs.Pairwise fun r r' ↦ ∀ a, Needs r' (made a r) ↔ Needs r' a) {a a' : α} :
    rs.foldlM step a = .ok a' ↔ (∀ r ∈ rs, Needs r a) ∧ a' = rs.foldl made a := by
  induction rs generalizing a with
  | nil =>
    show Except.ok a = Except.ok a' ↔ _
    simp [eq_comm]
  | cons r rs ih =>
    obtain ⟨hhead, htail⟩ := List.pairwise_cons.mp hlater
    show (step a r >>= fun b ↦ rs.foldlM step b) = _ ↔ _
    rw [List.forall_mem_cons, List.foldl_cons]
    by_cases hneeds : Needs r a
    · have hrest : (∀ r' ∈ rs, Needs r' (made a r)) ↔ ∀ r' ∈ rs, Needs r' a :=
        forall₂_congr fun r' hr' ↦ hhead r' hr' a
      rw [hok a r hneeds]
      show rs.foldlM step (made a r) = _ ↔ _
      rw [ih htail, hrest, and_iff_right hneeds]
    · obtain ⟨e, he⟩ := hfail a r hneeds
      rw [he]
      exact iff_of_false (fun heq ↦ by cases heq) fun hall ↦ hneeds hall.1.1

theorem commute_foldl {f : α → α} {rs : List ρ}
    (h : ∀ r ∈ rs, Function.Commute f fun a ↦ made a r) :
    Function.Commute f fun a ↦ rs.foldl made a := by
  induction rs with
  | nil => exact Function.Commute.id_right
  | cons r rs ih =>
    have hrest := ih fun r' hr' ↦ h r' (List.mem_cons_of_mem r hr')
    exact hrest.comp_right (h r List.mem_cons_self)

theorem iterate_foldl {rs : List ρ}
    (h : rs.Pairwise fun r r' ↦ Function.Commute (fun a ↦ made a r) fun a ↦ made a r') (n : ℕ)
    (a : α) :
    (fun a ↦ rs.foldl made a)^[n] a = rs.foldl (fun a r ↦ (fun a ↦ made a r)^[n] a) a := by
  induction rs generalizing a with
  | nil => exact congrFun (Function.iterate_id n) a
  | cons r rs ih =>
    obtain ⟨hhead, htail⟩ := List.pairwise_cons.mp h
    have hcommute : Function.Commute (fun a ↦ rs.foldl made a) fun a ↦ made a r :=
      (commute_foldl hhead).symm
    calc ((fun a ↦ rs.foldl made a) ∘ fun a ↦ made a r)^[n] a
        = (fun a ↦ rs.foldl made a)^[n] ((fun a ↦ made a r)^[n] a) := by
          rw [hcommute.comp_iterate]
          rfl
      _ = _ := ih htail _

end Edits
