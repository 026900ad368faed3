import Mathlib.Tactic
import Mathlib.Logic.Function.Basic

/-!
# Sampled events

Events pass gates that count them in 32-bit counters and let some of them through.  What passes one
gate depends on the events at that gate alone.
-/

namespace Sampling

variable {α β ε γ : Type}

/-- A gate: the counter after an event, and whether the event is let through. -/
abbrev Gate := UInt32 → UInt32 × Bool

/-- Counts every event, with wrap-around, and lets through those whose number is admitted. -/
def counting (admits : UInt32 → Bool) : Gate := fun c ↦ (c + 1, admits (c + 1))

/-- Lets the first `n` events through and stops counting. -/
def first (n : UInt32) : Gate := fun c ↦ if c < n then (c + 1, true) else (c, false)

/-- The events let through by one gate, each with the counter behind it. -/
def sampleFrom (gate : Gate) (c : UInt32) : List α → List (UInt32 × α)
  | [] => []
  | x :: xs =>
    if (gate c).2 then ((gate c).1, x) :: sampleFrom gate (gate c).1 xs
    else sampleFrom gate (gate c).1 xs

/-- The events let through by several gates, each with the counter of its gate. -/
def passFrom [DecidableEq γ] (gateOf : ε → γ) (gates : γ → Gate) (counters : γ → UInt32) :
    List ε → List (UInt32 × ε)
  | [] => []
  | e :: es =>
    let r := gates (gateOf e) (counters (gateOf e))
    (if r.2 then [(r.1, e)] else []) ++
      passFrom gateOf gates (Function.update counters (gateOf e) r.1) es

/-- What passes a gate is sampled from the events at that gate. -/
theorem passFrom_filter [DecidableEq γ] (gateOf : ε → γ) (gates : γ → Gate)
    (counters : γ → UInt32) (es : List ε) (g : γ) :
    (passFrom gateOf gates counters es).filter (fun p ↦ gateOf p.2 = g) =
      sampleFrom (gates g) (counters g) (es.filter fun e ↦ gateOf e = g) := by
  induction es generalizing counters with
  | nil => rfl
  | cons e es ih =>
    rw [passFrom, List.filter_append, ih]
    by_cases h : gateOf e = g
    · subst h
      rw [Function.update_self, List.filter_cons_of_pos (by simp), sampleFrom]
      by_cases hpass : (gates (gateOf e) (counters (gateOf e))).2 = true
      · simp [hpass]
      · simp [hpass]
    · rw [Function.update_of_ne (Ne.symm h), List.filter_cons_of_neg (by simpa using h)]
      by_cases hpass : (gates (gateOf e) (counters (gateOf e))).2 = true
      · simp [hpass, h]
      · simp [hpass]

theorem mem_of_mem_passFrom [DecidableEq γ] {gateOf : ε → γ} {gates : γ → Gate}
    {counters : γ → UInt32} {es : List ε} {p : UInt32 × ε}
    (h : p ∈ passFrom gateOf gates counters es) : p.2 ∈ es := by
  induction es generalizing counters with
  | nil => cases h
  | cons e es ih =>
    rw [passFrom, List.mem_append] at h
    cases h with
    | inl hhead =>
      have hp : p.2 = e := by
        by_cases hpass : (gates (gateOf e) (counters (gateOf e))).2 = true
        · rw [if_pos hpass, List.mem_singleton] at hhead
          rw [hhead]
        · rw [if_neg hpass] at hhead
          cases hhead
      rw [hp]
      exact List.mem_cons_self
    | inr htail => exact List.mem_cons_of_mem _ (ih htail)

theorem sampleFrom_map (gate : Gate) (c : UInt32) (f : α → β) (xs : List α) :
    sampleFrom gate c (xs.map f) = (sampleFrom gate c xs).map fun p ↦ (p.1, f p.2) := by
  induction xs generalizing c with
  | nil => rfl
  | cons x xs ih =>
    rw [List.map_cons, sampleFrom, sampleFrom, ih]
    by_cases h : (gate c).2 = true
    · simp [h]
    · simp [h]

theorem sampleFrom_sublist (gate : Gate) (c : UInt32) (xs : List α) :
    ((sampleFrom gate c xs).map Prod.snd).Sublist xs := by
  induction xs generalizing c with
  | nil => exact List.Sublist.refl _
  | cons x xs ih =>
    rw [sampleFrom]
    by_cases h : (gate c).2 = true
    · rw [if_pos h]
      exact (ih _).cons_cons x
    · rw [if_neg h]
      exact (ih _).cons x

theorem sampleFrom_counting_cons (admits : UInt32 → Bool) (c : UInt32) (x : α) (xs : List α) :
    sampleFrom (counting admits) c (x :: xs) =
      if admits (c + 1) = true then (c + 1, x) :: sampleFrom (counting admits) (c + 1) xs
      else sampleFrom (counting admits) (c + 1) xs := rfl

theorem add_ofNat_succ (c : UInt32) (i : Nat) :
    c + UInt32.ofNat (i + 1 + 1) = c + 1 + UInt32.ofNat (i + 1) := by
  rw [UInt32.add_assoc, UInt32.ofNat_add (i + 1) 1, UInt32.add_comm 1]
  rfl

/-- Which numbers are let through depends on how many events there are, and on nothing else. -/
theorem sampleFrom_numbers (admits : UInt32 → Bool) (c : UInt32) (xs : List α) :
    (sampleFrom (counting admits) c xs).map Prod.fst =
      ((List.range xs.length).map fun i ↦ c + UInt32.ofNat (i + 1)).filter admits := by
  induction xs generalizing c with
  | nil => rfl
  | cons x xs ih =>
    have hnumbers : (List.range (xs.length + 1)).map (fun i ↦ c + UInt32.ofNat (i + 1)) =
        (c + 1) :: (List.range xs.length).map fun i ↦ c + 1 + UInt32.ofNat (i + 1) := by
      rw [List.range_succ_eq_map, List.map_cons, List.map_map]
      exact congrArg _ (List.map_congr_left fun i _ ↦ add_ofNat_succ c i)
    rw [sampleFrom_counting_cons, List.length_cons, hnumbers, List.filter_cons, ← ih]
    by_cases h : admits (c + 1) = true
    · rw [if_pos h, if_pos h]
      rfl
    · rw [if_neg h, if_neg h]

/-- What a counting gate lets through is numbered by its place, and what follows is sampled from the
rest of the list. -/
theorem sampleFrom_split {admits : UInt32 → Bool} {c v : UInt32} {xs : List α} {x : α}
    {after : List (UInt32 × α)} :
    (∃ before, sampleFrom (counting admits) c xs = before ++ (v, x) :: after) ↔
      ∃ i, xs[i]? = some x ∧ v = c + UInt32.ofNat (i + 1) ∧ admits v = true ∧
        after = sampleFrom (counting admits) v (xs.drop (i + 1)) := by
  induction xs generalizing c with
  | nil => simp [sampleFrom]
  | cons y ys ih =>
    rw [sampleFrom_counting_cons]
    constructor
    · rintro ⟨before, hsplit⟩
      by_cases h : admits (c + 1) = true
      · rw [if_pos h] at hsplit
        -- the item at which the sample is split is the first one or behind it
        cases before with
        | nil =>
          obtain ⟨hhead, htail⟩ := List.cons.inj hsplit
          obtain ⟨rfl, rfl⟩ := Prod.mk.inj hhead
          exact ⟨0, rfl, rfl, h, htail.symm⟩
        | cons b before =>
          obtain ⟨i, hi, hv, ha, hafter⟩ := ih.mp ⟨before, (List.cons.inj hsplit).2⟩
          exact ⟨i + 1, hi, hv.trans (add_ofNat_succ c i).symm, ha, hafter⟩
      · rw [if_neg h] at hsplit
        obtain ⟨i, hi, hv, ha, hafter⟩ := ih.mp ⟨before, hsplit⟩
        exact ⟨i + 1, hi, hv.trans (add_ofNat_succ c i).symm, ha, hafter⟩
    · rintro ⟨i, hi, hv, ha, hafter⟩
      cases i with
      | zero =>
        have hv' : v = c + 1 := hv
        subst hv'
        rw [if_pos ha]
        exact ⟨[], by rw [hafter, Option.some.inj hi]; rfl⟩
      | succ i =>
        obtain ⟨before, hsplit⟩ := ih.mpr ⟨i, hi, hv.trans (add_ofNat_succ c i), ha, hafter⟩
        by_cases h : admits (c + 1) = true
        · rw [if_pos h]
          exact ⟨(c + 1, y) :: before, by rw [hsplit]; rfl⟩
        · rw [if_neg h]
          exact ⟨before, hsplit⟩

/-- The numbers of the events that a counting gate lets through. -/
theorem mem_sampleFrom_counting {admits : UInt32 → Bool} {c v : UInt32} {xs : List α} {x : α} :
    (v, x) ∈ sampleFrom (counting admits) c xs ↔
      ∃ i, xs[i]? = some x ∧ v = c + UInt32.ofNat (i + 1) ∧ admits v = true := by
  constructor
  · intro hmem
    obtain ⟨before, after, hsplit⟩ := List.append_of_mem hmem
    obtain ⟨i, hi, hv, ha, _⟩ := sampleFrom_split.mp ⟨before, hsplit⟩
    exact ⟨i, hi, hv, ha⟩
  · rintro ⟨i, hi, hv, ha⟩
    obtain ⟨before, hsplit⟩ := sampleFrom_split.mpr ⟨i, hi, hv, ha, rfl⟩
    rw [hsplit]
    exact List.mem_append_right _ List.mem_cons_self

/-- Of two counting gates the stricter one lets through what it admits of the other. -/
theorem sampleFrom_filter {admits admits' : UInt32 → Bool} {p : UInt32 → Bool}
    (h : ∀ v, (admits v && p v) = admits' v) (c : UInt32) (xs : List α) :
    (sampleFrom (counting admits) c xs).filter (fun q ↦ p q.1) =
      sampleFrom (counting admits') c xs := by
  induction xs generalizing c with
  | nil => rfl
  | cons x xs ih =>
    have hc := h (c + 1)
    have hrest := ih (c + 1)
    show (if admits (c + 1) = true then (c + 1, x) :: sampleFrom (counting admits) (c + 1) xs
        else sampleFrom (counting admits) (c + 1) xs).filter _ =
      if admits' (c + 1) = true then (c + 1, x) :: sampleFrom (counting admits') (c + 1) xs
        else sampleFrom (counting admits') (c + 1) xs
    cases ha : admits (c + 1) <;> cases hp : p (c + 1) <;> rw [ha, hp] at hc <;>
      simp [← hc, hp, hrest]

/-- Which elements stand in a sample of a counter that starts at zero. -/
theorem mem_map_sampleFrom {admits : UInt32 → Bool} {xs : List α} {x : α} :
    x ∈ (sampleFrom (counting admits) 0 xs).map Prod.snd ↔
      ∃ i, xs[i]? = some x ∧ admits (UInt32.ofNat (i + 1)) = true := by
  constructor
  · intro h
    obtain ⟨⟨v, y⟩, hmem, rfl⟩ := List.mem_map.mp h
    obtain ⟨i, hi, hv, ha⟩ := mem_sampleFrom_counting.mp hmem
    rw [UInt32.zero_add] at hv
    exact ⟨i, hi, hv ▸ ha⟩
  · rintro ⟨i, hi, ha⟩
    exact List.mem_map.mpr ⟨(UInt32.ofNat (i + 1), x),
      mem_sampleFrom_counting.mpr ⟨i, hi, (UInt32.zero_add _).symm, ha⟩, rfl⟩

/-- A limited sample is the start of the list as long as the counter does not wrap around. -/
theorem sampleFrom_limit_iff {n : UInt32} (hn : n.toNat + 1 < 2 ^ 32) {xs : List α}
    (hnodup : xs.Nodup) :
    (∀ x, x ∈ (sampleFrom (counting fun v ↦ decide (v ≤ n)) 0 xs).map Prod.snd ↔
      x ∈ xs.take n.toNat) ↔ xs.length < 2 ^ 32 := by
  have htake : ∀ x, x ∈ xs.take n.toNat ↔ ∃ i, xs[i]? = some x ∧ i < n.toNat := by
    intro x
    rw [List.mem_iff_getElem?]
    simp only [List.getElem?_take]
    grind
  constructor
  · intro hsame
    by_contra hlong
    have hlt : 2 ^ 32 - 1 < xs.length := by omega
    have hget : xs[2 ^ 32 - 1]? = some xs[2 ^ 32 - 1] := List.getElem?_eq_getElem hlt
    -- the counter is back at zero behind 2^32 elements
    have hzero : decide (UInt32.ofNat (2 ^ 32 - 1 + 1) ≤ n) = true := by
      apply decide_eq_true
      exact UInt32.zero_le
    have hin := (hsame _).mp (mem_map_sampleFrom.mpr ⟨2 ^ 32 - 1, hget, hzero⟩)
    obtain ⟨i, hi, hin⟩ := (htake _).mp hin
    have heq : 2 ^ 32 - 1 = i := (List.getElem?_inj hlt hnodup).mp (hget.trans hi.symm)
    omega
  · intro hshort x
    have hadmits : ∀ i, i < xs.length →
        (decide (UInt32.ofNat (i + 1) ≤ n) = true ↔ i < n.toNat) := by
      intro i hi
      rw [decide_eq_true_iff, UInt32.le_iff_toNat_le, UInt32.toNat_ofNat_of_lt']
      · omega
      · show i + 1 < 2 ^ 32
        omega
    rw [mem_map_sampleFrom, htake]
    exact exists_congr fun i ↦ and_congr_right fun hi ↦
      hadmits i (List.getElem?_eq_some_iff.mp hi).1

theorem sampleFrom_first (n c : UInt32) (hc : c ≤ n) (xs : List α) :
    (sampleFrom (first n) c xs).map Prod.snd = xs.take (n.toNat - c.toNat) := by
  induction xs generalizing c with
  | nil => simp [sampleFrom]
  | cons x xs ih =>
    rw [sampleFrom]
    by_cases h : c < n
    · have hlt : c.toNat < n.toNat := UInt32.lt_iff_toNat_lt.mp h
      have hsucc : (c + 1).toNat = c.toNat + 1 := by
        rw [UInt32.toNat_add]
        exact Nat.mod_eq_of_lt (lt_of_le_of_lt hlt n.toNat_lt)
      have hgate : first n c = (c + 1, true) := if_pos h
      have hle : c + 1 ≤ n := by
        rw [UInt32.le_iff_toNat_le, hsucc]
        exact hlt
      obtain ⟨k, hk⟩ : ∃ k, n.toNat - c.toNat = k + 1 := ⟨n.toNat - c.toNat - 1, by omega⟩
      rw [hgate, if_pos rfl, List.map_cons, ih _ hle, hk, List.take_succ_cons, hsucc]
      congr 2
      omega
    · have heq : n.toNat - c.toNat = 0 := by
        have hle : n.toNat ≤ c.toNat := by simpa [UInt32.lt_iff_toNat_lt] using h
        omega
      have hgate : first n c = (c, false) := if_neg h
      rw [hgate, if_neg Bool.false_ne_true, ih _ hc, heq]
      rfl

end Sampling
