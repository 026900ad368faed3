import Mathlib.Tactic

/-!
# Bump allocation

Items are laid out one behind the other: each moves a cursor by an amount that may depend on where
the cursor stands.  Every position below the final cursor lies in the slot of exactly one item, the
one it was passed by.
-/

namespace Bump

variable {α : Type} (adv : Nat → α → Nat)

/-- Where the cursor stands behind the items. -/
def cursor (c : Nat) : List α → Nat
  | [] => c
  | x :: xs => cursor (c + adv c x) xs

theorem cursor_append (c : Nat) (xs ys : List α) :
    cursor adv c (xs ++ ys) = cursor adv (cursor adv c xs) ys := by
  induction xs generalizing c with
  | nil => rfl
  | cons x xs ih => exact ih _

theorem cursor_concat (c : Nat) (xs : List α) (x : α) :
    cursor adv c (xs ++ [x]) = cursor adv c xs + adv (cursor adv c xs) x := by
  rw [cursor_append]
  rfl

theorem cursor_mono (c : Nat) (xs : List α) : c ≤ cursor adv c xs := by
  induction xs generalizing c with
  | nil => exact le_rfl
  | cons x xs ih => exact le_trans (Nat.le_add_right _ _) (ih _)

/-- An item ends no later than any item behind it begins. -/
theorem slot_le_cursor (c : Nat) (xs : List α) (x : α) (ys : List α) :
    cursor adv c xs + adv (cursor adv c xs) x ≤ cursor adv c (xs ++ x :: ys) := by
  rw [cursor_append]
  exact cursor_mono adv _ ys

/-- A position that the cursor passes lies in the slot of an item. -/
theorem exists_slot {c y : Nat} {xs : List α} (hc : c ≤ y) (hy : y < cursor adv c xs) :
    ∃ before x after, xs = before ++ x :: after ∧ cursor adv c before ≤ y ∧
      y < cursor adv c before + adv (cursor adv c before) x := by
  induction xs generalizing c with
  | nil => exact absurd hy (Nat.not_lt.mpr hc)
  | cons x xs ih =>
      by_cases h : y < c + adv c x
      · exact ⟨[], x, xs, rfl, hc, h⟩
      · obtain ⟨before, z, after, rfl, hle, hlt⟩ := ih (Nat.le_of_not_lt h) hy
        exact ⟨x :: before, z, after, rfl, hle, hlt⟩

/-- Advances that are multiples of `k` keep the cursor at a multiple of `k`. -/
theorem dvd_cursor {k : Nat} (hk : ∀ c x, k ∣ adv c x) {c : Nat} (hc : k ∣ c) (xs : List α) :
    k ∣ cursor adv c xs := by
  induction xs generalizing c with
  | nil => exact hc
  | cons x xs ih => exact ih (Dvd.dvd.add hc (hk c x))

/-- An invariant of the cursor that every advance keeps. -/
theorem cursor_induction {P : Nat → Prop} (h : ∀ c x, P c → P (c + adv c x)) {c : Nat} (hc : P c)
    (xs : List α) : P (cursor adv c xs) := by
  induction xs generalizing c with
  | nil => exact hc
  | cons x xs ih => exact ih (h c x hc)

end Bump
