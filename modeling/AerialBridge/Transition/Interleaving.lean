import Mathlib.Algebra.BigOperators.Group.Finset.Piecewise
import Mathlib.Data.List.Basic

/-!
# Interleavings

Threads take the steps of their programs one at a time, in any order.  An interleaving is the list
of all steps, each with its thread; what one thread did is the part of the list that bears its name.
-/

namespace Transition

variable {T α : Type} [DecidableEq T]

/-- What one thread did, in its order. -/
def doneBy (t : T) (order : List (T × α)) : List α :=
  (order.filter fun m ↦ m.1 = t).map Prod.snd

/-- Each thread did what its program says. -/
def Interleaves (threads : T → List α) (order : List (T × α)) : Prop :=
  ∀ t, doneBy t order = threads t

@[simp] theorem doneBy_nil (t : T) : doneBy t ([] : List (T × α)) = [] := rfl

theorem doneBy_append (t : T) (xs ys : List (T × α)) :
    doneBy t (xs ++ ys) = doneBy t xs ++ doneBy t ys := by
  rw [doneBy, List.filter_append, List.map_append]
  rfl

theorem doneBy_cons (t : T) (m : T × α) (ms : List (T × α)) :
    doneBy t (m :: ms) = (if m.1 = t then [m.2] else []) ++ doneBy t ms := by
  rw [doneBy, List.filter_cons]
  by_cases h : m.1 = t
  · rw [if_pos h, if_pos (decide_eq_true h)]
    rfl
  · rw [if_neg h, if_neg (by simpa using h)]
    rfl

theorem doneBy_sublist {t : T} {xs ys : List (T × α)} (h : xs.Sublist ys) :
    (doneBy t xs).Sublist (doneBy t ys) := (h.filter _).map _

theorem mem_of_mem_doneBy {t : T} {a : α} {order : List (T × α)} (h : a ∈ doneBy t order) :
    a ∈ order.map Prod.snd := by
  obtain ⟨m, hm, rfl⟩ := List.mem_map.mp h
  exact List.mem_map_of_mem (List.mem_filter.mp hm).1

/-- A sum over all steps can be taken thread by thread. -/
theorem sum_doneBy {M : Type} [AddCommMonoid M] [Fintype T] (f : α → M) (order : List (T × α)) :
    ((order.map Prod.snd).map f).sum = ∑ t, ((doneBy t order).map f).sum := by
  induction order with
  | nil => simp
  | cons m ms ih =>
      -- the first step counts for its own thread and for no other
      have hone : ∀ t, ((doneBy t (m :: ms)).map f).sum =
          (if m.1 = t then f m.2 else 0) + ((doneBy t ms).map f).sum := by
        intro t
        rw [doneBy_cons, List.map_append, List.sum_append]
        by_cases h : m.1 = t
        · rw [if_pos h, if_pos h, List.map_singleton, List.sum_singleton]
        · rw [if_neg h, if_neg h]
          rfl
      rw [Finset.sum_congr rfl fun t _ ↦ hone t, Finset.sum_add_distrib, Finset.sum_ite_eq,
        if_pos (Finset.mem_univ _), ← ih]
      rfl

theorem Interleaves.sum {M : Type} [AddCommMonoid M] [Fintype T] {threads : T → List α}
    {order : List (T × α)} (h : Interleaves threads order) (f : α → M) :
    ((order.map Prod.snd).map f).sum = ∑ t, ((threads t).map f).sum := by
  rw [sum_doneBy]
  exact Finset.sum_congr rfl fun t _ ↦ by rw [h t]

theorem Interleaves.length [Fintype T] {threads : T → List α} {order : List (T × α)}
    (h : Interleaves threads order) : order.length = ∑ t, (threads t).length := by
  have hone : ∀ xs : List α, (xs.map fun _ ↦ 1).sum = xs.length := by
    intro xs
    rw [List.map_const', List.sum_replicate_nat, Nat.mul_one]
  have hsum := h.sum fun _ ↦ 1
  simp only [hone, List.length_map] at hsum
  exact hsum

end Transition
