import AerialBridge.Transition.Run
import Mathlib.Data.List.Nodup

/-!
# Leases

Things are acquired, each under a number of its own, used while they are held, and released once.
Who keeps a table of what he holds keeps the log in order when the table has every number that is
live, and has it once.
-/

namespace Transition

/-- What happens to the thing of a number; `c` is what it was acquired with. -/
inductive LeaseEvent (C U : Type*)
  | acquire (id : ℕ) (c : C)
  | use (id : ℕ) (u : U)
  | release (id : ℕ)

variable {C U : Type*}

def LeaseEvent.id : LeaseEvent C U → ℕ
  | acquire id _ | use id _ | release id => id

/-- Acquired and not released. -/
def Live (log : List (LeaseEvent C U)) (id : ℕ) : Prop :=
  (∃ c, .acquire id c ∈ log) ∧ .release id ∉ log

/-- Numbers are new when they are given out; nothing is used or released that is not held. -/
def Leased (before : List (LeaseEvent C U)) : LeaseEvent C U → Prop
  | .acquire id _ => ∀ e ∈ before, e.id ≠ id
  | .use id _ | .release id => Live before id

/-- A table of the numbers that are held, next to the log; the numbers from `next` on are new. -/
structure Holds (log : List (LeaseEvent C U)) (next : ℕ) (held : List ℕ) : Prop where
  leased : Admissible Leased log
  nodup : held.Nodup
  live : ∀ id, Live log id ↔ id ∈ held
  below : ∀ e ∈ log, e.id < next

section

variable {log : List (LeaseEvent C U)} {id id' : ℕ}

theorem live_nil : ¬ Live ([] : List (LeaseEvent C U)) id := fun h ↦ by
  obtain ⟨⟨c, hc⟩, _⟩ := h
  cases hc

theorem live_acquire (c : C) :
    Live (log ++ [.acquire id' c]) id ↔ Live log id ∨ id = id' ∧ .release id ∉ log := by
  simp [Live, or_and_right, exists_or]

theorem live_use (u : U) : Live (log ++ [.use id' u]) id ↔ Live log id := by
  simp [Live]

theorem live_release : Live (log ++ [.release id']) id ↔ Live log id ∧ id ≠ id' := by
  simp [Live, and_assoc]

end

namespace Holds

variable {log : List (LeaseEvent C U)} {next id : ℕ} {held : List ℕ}

theorem nil : Holds ([] : List (LeaseEvent C U)) 0 [] :=
  ⟨.nil, .nil, fun _ ↦ iff_of_false live_nil List.not_mem_nil, fun _ h ↦ by cases h⟩

theorem lt_next (h : Holds log next held) (hid : id ∈ held) : id < next := by
  obtain ⟨⟨c, hc⟩, _⟩ := (h.live id).mpr hid
  exact h.below _ hc

theorem below_concat (h : Holds log next held) {e : LeaseEvent C U} {next' : ℕ} (hle : next ≤ next')
    (he : e.id < next') : ∀ e' ∈ log ++ [e], e'.id < next' := by
  intro e' he'
  cases List.mem_append.mp he' with
  | inl hold => exact Nat.lt_of_lt_of_le (h.below e' hold) hle
  | inr hnew => rw [List.mem_singleton.mp hnew]; exact he

theorem acquire (h : Holds log next held) (c : C) :
    Holds (log ++ [.acquire next c]) (next + 1) (held ++ [next]) where
  leased := h.leased.concat fun e he ↦ Nat.ne_of_lt (h.below e he)
  nodup := by
    have hnew : next ∉ held := fun hmem ↦ absurd (h.lt_next hmem) (Nat.lt_irrefl next)
    exact List.nodup_append.mpr ⟨h.nodup, List.nodup_singleton next,
      fun _ hid _ hnext heq ↦ hnew (List.mem_singleton.mp hnext ▸ heq ▸ hid)⟩
  live id := by
    rw [live_acquire, h.live, List.mem_append, List.mem_singleton]
    refine or_congr_right (and_iff_left_of_imp fun heq hmem ↦ ?_)
    -- what has been released has an older number
    exact absurd (h.below _ hmem) (heq ▸ Nat.lt_irrefl next)
  below := h.below_concat (Nat.le_succ next) (Nat.lt_succ_self next)

theorem use (h : Holds log next held) (hid : id ∈ held) (u : U) :
    Holds (log ++ [.use id u]) next held where
  leased := h.leased.concat ((h.live id).mpr hid)
  nodup := h.nodup
  live id := (live_use u).trans (h.live id)
  below := h.below_concat (Nat.le_refl next) (h.lt_next hid)

theorem release (h : Holds log next held) (hid : id ∈ held) :
    Holds (log ++ [.release id]) next (held.erase id) where
  leased := h.leased.concat ((h.live id).mpr hid)
  nodup := h.nodup.erase id
  live id' := by rw [live_release, h.live, h.nodup.mem_erase_iff, and_comm]
  below := h.below_concat (Nat.le_refl next) (h.lt_next hid)

end Holds

/-! ## Holders -/

namespace Holders

variable {α : Type*} {f : α → Option ℕ} {xs : List α}

/-- With a holder goes what it holds. -/
theorem filterMap_eraseIdx {i id : ℕ} {x : α} (hx : xs[i]? = some x) (hid : f x = some id)
    (hnodup : (xs.filterMap f).Nodup) :
    (xs.eraseIdx i).filterMap f = (xs.filterMap f).erase id := by
  induction xs generalizing i with
  | nil => cases hx
  | cons y ys ih =>
    cases i with
    | zero =>
      cases hx
      rw [List.filterMap_cons_some hid, List.erase_cons_head]
      rfl
    | succ i =>
      rw [List.eraseIdx_cons_succ]
      cases hy : f y with
      | none =>
        rw [List.filterMap_cons_none hy] at hnodup ⊢
        rw [List.filterMap_cons_none hy]
        exact ih hx hnodup
      | some id' =>
        rw [List.filterMap_cons_some hy] at hnodup ⊢
        rw [List.filterMap_cons_some hy]
        obtain ⟨hnew, hrest⟩ := List.nodup_cons.mp hnodup
        have hmem : id ∈ ys.filterMap f :=
          List.mem_filterMap.mpr ⟨x, List.mem_of_getElem? hx, hid⟩
        have hne : id' ≠ id := fun heq ↦ hnew (heq ▸ hmem)
        rw [List.erase_cons_tail (by simpa using hne), ih hx hrest]

/-- No two holders hold the same. -/
theorem pairwise_ne (h : (xs.filterMap f).Nodup)
    (hsome : ∀ x ∈ xs, ∃ id, f x = some id) : xs.Pairwise fun x y ↦ f x ≠ f y := by
  refine (List.pairwise_filterMap.mp h).imp_of_mem fun {x y} hx hy hne heq ↦ ?_
  obtain ⟨id, hid⟩ := hsome x hx
  exact hne id hid id (heq ▸ hid) rfl

end Holders

end Transition
