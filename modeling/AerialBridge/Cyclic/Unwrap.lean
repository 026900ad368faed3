import Mathlib.Tactic
import Mathlib.Data.Int.ModEq

/-!
# Unwrapping a cyclic counter

A counter modulo `n` is followed by its signed wrap-aware differences.  An unwrapper that advances
by each difference stays congruent to the counter; one that advances by at least one falls out of
step by the slip of every difference that is not positive, and by nothing else.
-/

namespace Cyclic

/-- The signed difference of two counts modulo `n`, in `[-n/2, n/2)` for even `n`. -/
def diff (n : Nat) (a b : Int) : Int := Int.bmod (a - b) n

/-- The advance made for a difference: itself, but at least one. -/
def advance (d : Int) : Int := if d ≤ 0 then 1 else d

/-- How far an advance overshoots its difference. -/
def slip (d : Int) : Int := advance d - d

/-- A raw count and the unbounded count that follows it. -/
structure Unwrapped where
  raw : Int
  ext : Int

def Unwrapped.step (n : Nat) (u : Unwrapped) (raw : Int) : Unwrapped :=
  ⟨raw, u.ext + advance (diff n raw u.raw)⟩

def Unwrapped.run (n : Nat) : Unwrapped → List Int → Unwrapped
  | u, [] => u
  | u, raw :: raws => (u.step n raw).run n raws

/-- The unbounded counts after each raw count of a stream. -/
def Unwrapped.exts (n : Nat) : Unwrapped → List Int → List Int
  | _, [] => []
  | u, raw :: raws => (u.step n raw).ext :: (u.step n raw).exts n raws

/-- The total slip of a stream of raw counts that starts from `raw`. -/
def slips (n : Nat) : Int → List Int → Int
  | _, [] => 0
  | raw, raw' :: raws => slip (diff n raw' raw) + slips n raw' raws

/-- Each raw count is ahead of the one before it. -/
def Ahead (n : Nat) : Int → List Int → Prop
  | _, [] => True
  | raw, raw' :: raws => 0 < diff n raw' raw ∧ Ahead n raw' raws

theorem diff_modEq (n : Nat) (a b : Int) : diff n a b ≡ a - b [ZMOD n] :=
  Int.bmod_emod

theorem slip_of_pos {d : Int} (h : 0 < d) : slip d = 0 := by
  rw [slip, advance, if_neg (not_le.mpr h), sub_self]

theorem step_modEq (n : Nat) (u : Unwrapped) (raw s : Int) (h : u.ext ≡ u.raw + s [ZMOD n]) :
    (u.step n raw).ext ≡ raw + (s + slip (diff n raw u.raw)) [ZMOD n] := by
  have hd := diff_modEq n raw u.raw
  have hsum := (h.add hd).add_right (slip (diff n raw u.raw))
  have hadv : advance (diff n raw u.raw) = diff n raw u.raw + slip (diff n raw u.raw) := by
    rw [slip]; omega
  calc
    u.ext + advance (diff n raw u.raw)
        = u.ext + diff n raw u.raw + slip (diff n raw u.raw) := by rw [hadv]; omega
    _ ≡ u.raw + s + (raw - u.raw) + slip (diff n raw u.raw) [ZMOD n] := hsum
    _ = raw + (s + slip (diff n raw u.raw)) := by omega

/-- The unbounded count is the last raw count plus the slips of the run, modulo `n`. -/
theorem run_modEq (n : Nat) (u : Unwrapped) (raws : List Int) (s : Int)
    (h : u.ext ≡ u.raw + s [ZMOD n]) :
    (u.run n raws).ext ≡ (u.run n raws).raw + (s + slips n u.raw raws) [ZMOD n] := by
  induction raws generalizing u s with
  | nil => simpa [Unwrapped.run, slips] using h
  | cons raw raws ih =>
      -- one step adds its own slip; the rest of the run starts from there
      have hstep := step_modEq n u raw s h
      have hrun := ih (u.step n raw) (s + slip (diff n raw u.raw)) hstep
      rw [add_assoc] at hrun
      exact hrun

theorem slips_of_ahead (n : Nat) (raw : Int) (raws : List Int) (h : Ahead n raw raws) :
    slips n raw raws = 0 := by
  induction raws generalizing raw with
  | nil => rfl
  | cons raw' raws ih => rw [slips, slip_of_pos h.1, ih raw' h.2, add_zero]

theorem run_raw (n : Nat) (u : Unwrapped) (raws : List Int) :
    (u.run n raws).raw = raws.getLastD u.raw := by
  induction raws generalizing u with
  | nil => rfl
  | cons raw raws ih => rw [Unwrapped.run, ih]; cases raws <;> rfl

theorem exts_getLastD (n : Nat) (u : Unwrapped) (raws : List Int) :
    (u.exts n raws).getLastD u.ext = (u.run n raws).ext := by
  induction raws generalizing u with
  | nil => rfl
  | cons raw raws ih =>
      rw [Unwrapped.run, ← ih]
      cases raws <;> rfl

@[simp] theorem exts_length (n : Nat) (u : Unwrapped) (raws : List Int) :
    (u.exts n raws).length = raws.length := by
  induction raws generalizing u with
  | nil => rfl
  | cons raw raws ih => rw [Unwrapped.exts, List.length_cons, List.length_cons, ih]

/-- Two counts one apart, modulo `n`, differ by one. -/
theorem diff_succ {n : Nat} (hn : 2 < n) {a b : Int} (h : a ≡ b + 1 [ZMOD n]) : diff n a b = 1 := by
  have hd : a - b ≡ 1 [ZMOD n] := by
    have := h.sub_right b
    rwa [show b + 1 - b = 1 by omega] at this
  rw [diff, Int.bmod_def, hd, Int.emod_eq_of_lt (by omega) (by omega), if_pos (by omega)]

/-- An unwrapper that follows a counter one step at a time counts by one. -/
theorem exts_isChain {n : Nat} (hn : 2 < n) (u : Unwrapped) (raws : List Int)
    (h : (u.raw :: raws).IsChain fun a b ↦ b ≡ a + 1 [ZMOD n]) :
    (u.ext :: u.exts n raws).IsChain fun x y ↦ y = x + 1 := by
  induction raws generalizing u with
  | nil => exact List.isChain_singleton _
  | cons raw raws ih =>
      rw [List.isChain_cons_cons] at h
      rw [Unwrapped.exts, List.isChain_cons_cons]
      refine ⟨?_, ih (u.step n raw) h.2⟩
      show u.ext + advance (diff n raw u.raw) = u.ext + 1
      rw [diff_succ hn h.1]
      rfl

end Cyclic
