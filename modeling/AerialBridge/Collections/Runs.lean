import Mathlib.Tactic

/-!
# Runs of consecutive numbers

A list of numbers is cut into runs that count up by one, each kept as its first and last number.
The runs spell the list out again, and those of an ascending list are as long as they can be.
-/

namespace Runs

/-- The runs of a list whose pending run goes from `start` to `prev`, each passed to `emit`. -/
def runsFrom {γ : Type} (emit : Nat → Nat → γ) (start prev : Nat) : List Nat → List γ
  | [] => [emit start prev]
  | value :: values =>
    if value = prev + 1 then runsFrom emit start value values
    else emit start prev :: runsFrom emit value value values

def runs {γ : Type} (emit : Nat → Nat → γ) : List Nat → List γ
  | [] => []
  | value :: values => runsFrom emit value value values

/-- The numbers of a run. -/
def spell (first last : Nat) : List Nat := List.range' first (last + 1 - first)

@[simp] theorem spell_self (n : Nat) : spell n n = [n] := by simp [spell]

theorem mem_spell {first last n : Nat} : n ∈ spell first last ↔ first ≤ n ∧ n ≤ last := by
  rw [spell, List.mem_range'_1]
  omega

theorem spell_succ {first last : Nat} (h : first ≤ last) :
    spell first (last + 1) = spell first last ++ [last + 1] := by
  have hlen : last + 1 + 1 - first = last + 1 - first + 1 := by omega
  have hlast : first + (last + 1 - first) = last + 1 := by omega
  rw [spell, spell, hlen, List.range'_1_concat, hlast]

section Emit

variable {γ δ : Type} (emit : Nat → Nat → γ)

theorem map_runsFrom (f : γ → δ) (start prev : Nat) (values : List Nat) :
    (runsFrom emit start prev values).map f =
      runsFrom (fun a b ↦ f (emit a b)) start prev values := by
  induction values generalizing start prev with
  | nil => rfl
  | cons value values ih =>
    by_cases h : value = prev + 1
    · rw [runsFrom, runsFrom, if_pos h, if_pos h, ih]
    · rw [runsFrom, runsFrom, if_neg h, if_neg h, List.map_cons, ih]

theorem map_runs (f : γ → δ) (values : List Nat) :
    (runs emit values).map f = runs (fun a b ↦ f (emit a b)) values := by
  cases values with
  | nil => rfl
  | cons value values => exact map_runsFrom emit f value value values

end Emit

/-! ## What the runs are -/

theorem flatMap_runsFrom {start prev : Nat} (h : start ≤ prev) (values : List Nat) :
    (runsFrom Prod.mk start prev values).flatMap (fun r ↦ spell r.1 r.2) =
      spell start prev ++ values := by
  induction values generalizing start prev with
  | nil => simp [runsFrom]
  | cons value values ih =>
    by_cases hv : value = prev + 1
    · rw [runsFrom, if_pos hv, hv, ih (by omega), spell_succ h, List.append_assoc]
      rfl
    · rw [runsFrom, if_neg hv, List.flatMap_cons, ih le_rfl, spell_self]
      rfl

/-- The runs spell out the list. -/
theorem flatMap_runs (values : List Nat) :
    (runs Prod.mk values).flatMap (fun r ↦ spell r.1 r.2) = values := by
  cases values with
  | nil => rfl
  | cons value values =>
    rw [runs, flatMap_runsFrom le_rfl, spell_self]
    rfl

theorem runsFrom_le {start prev : Nat} (h : start ≤ prev) (values : List Nat) :
    ∀ r ∈ runsFrom Prod.mk start prev values, r.1 ≤ r.2 := by
  induction values generalizing start prev with
  | nil => simp [runsFrom, h]
  | cons value values ih =>
    by_cases hv : value = prev + 1
    · rw [runsFrom, if_pos hv]
      exact ih (by omega)
    · rw [runsFrom, if_neg hv, List.forall_mem_cons]
      exact ⟨h, ih le_rfl⟩

theorem runs_le (values : List Nat) : ∀ r ∈ runs Prod.mk values, r.1 ≤ r.2 := by
  cases values with
  | nil => simp [runs]
  | cons value values => exact runsFrom_le le_rfl values

/-- The end of a run is a number of the list. -/
theorem runs_last_mem {values : List Nat} {r : Nat × Nat} (h : r ∈ runs Prod.mk values) :
    r.2 ∈ values := by
  rw [← flatMap_runs values]
  exact List.mem_flatMap.mpr ⟨r, h, mem_spell.mpr ⟨runs_le values r h, le_rfl⟩⟩

theorem runsFrom_first {start prev : Nat} {values : List Nat} (h : start ≤ prev)
    (hasc : (prev :: values).Pairwise (· < ·)) :
    ∀ r ∈ runsFrom Prod.mk start prev values, start ≤ r.1 := by
  induction values generalizing start prev with
  | nil => simp [runsFrom]
  | cons value values ih =>
    have hlt : prev < value := (List.pairwise_cons.mp hasc).1 value List.mem_cons_self
    have htail := (List.pairwise_cons.mp hasc).2
    by_cases hv : value = prev + 1
    · rw [runsFrom, if_pos hv]
      exact ih (by omega) htail
    · rw [runsFrom, if_neg hv, List.forall_mem_cons]
      exact ⟨le_rfl, fun r hr ↦ le_trans (by omega) (ih le_rfl htail r hr)⟩

theorem runsFrom_apart {start prev : Nat} {values : List Nat} (h : start ≤ prev)
    (hasc : (prev :: values).Pairwise (· < ·)) :
    (runsFrom Prod.mk start prev values).Pairwise fun r r' ↦ r.2 + 1 < r'.1 := by
  induction values generalizing start prev with
  | nil => simp [runsFrom]
  | cons value values ih =>
    have hlt : prev < value := (List.pairwise_cons.mp hasc).1 value List.mem_cons_self
    have htail := (List.pairwise_cons.mp hasc).2
    by_cases hv : value = prev + 1
    · rw [runsFrom, if_pos hv]
      exact ih (by omega) htail
    · rw [runsFrom, if_neg hv, List.pairwise_cons]
      apply And.intro
      · intro r hr
        have hfirst := runsFrom_first le_rfl htail r hr
        show prev + 1 < r.1
        omega
      · exact ih le_rfl htail

/-- Between two runs of an ascending list a number is missing. -/
theorem runs_apart {values : List Nat} (hasc : values.Pairwise (· < ·)) :
    (runs Prod.mk values).Pairwise fun r r' ↦ r.2 + 1 < r'.1 := by
  cases values with
  | nil => exact List.Pairwise.nil
  | cons value values => exact runsFrom_apart le_rfl hasc

example : runs Prod.mk [3, 4, 5, 8, 10, 11] = [(3, 5), (8, 8), (10, 11)] := by decide

end Runs
