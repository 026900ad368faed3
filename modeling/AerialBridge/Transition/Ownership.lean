import Mathlib.Data.List.Nodup
import Mathlib.Data.List.Perm.Basic

/-!
# Tokens and where they are

The tokens of a pool lie at places, each token at one place and there once.  A step that takes
tokens from one place and puts them down at another keeps this, and so do one that brings new tokens
to a place and one that takes some away for good; over a run no token is lost, and none is at two
places.
-/

namespace Ownership

variable {P T : Type*} [DecidableEq P] [DecidableEq T]

/-- What lies at each place is the part of the pool that an owner function puts there. -/
def Owned (pool : T → Prop) (held : P → List T) : Prop :=
  ∃ owner : T → P, ∀ p t, (pool t ∧ owner t = p → (held p).count t = 1) ∧
    (¬ (pool t ∧ owner t = p) → (held p).count t = 0)

/-- The tokens `ts` go from `p` to `q`; nothing else moves. -/
structure Moves (held held' : P → List T) (p q : P) (ts : List T) : Prop where
  ne : p ≠ q
  leaves : (held p).Perm (ts ++ held' p)
  arrives : (held' q).Perm (ts ++ held q)
  rest : ∀ r, r ≠ p → r ≠ q → (held' r).Perm (held r)

/-- The tokens `ts` come to `p`. -/
structure Enters (held held' : P → List T) (p : P) (ts : List T) : Prop where
  arrives : (held' p).Perm (ts ++ held p)
  rest : ∀ r, r ≠ p → (held' r).Perm (held r)

namespace Owned

variable {pool pool' : T → Prop} {held held' : P → List T} {p q : P} {t : T}

omit [DecidableEq P] in
theorem nodup (h : Owned pool held) (p : P) : (held p).Nodup := by
  obtain ⟨owner, howner⟩ := h
  rw [List.nodup_iff_count_le_one]
  intro t
  by_cases ht : pool t ∧ owner t = p
  · exact Nat.le_of_eq ((howner p t).1 ht)
  · rw [(howner p t).2 ht]
    exact Nat.zero_le 1

omit [DecidableEq P] in
/-- A token is at one place. -/
theorem place_unique (h : Owned pool held) (hp : t ∈ held p) (hq : t ∈ held q) : p = q := by
  obtain ⟨owner, howner⟩ := h
  have hplace : ∀ r, t ∈ held r → owner t = r := by
    intro r hr
    by_contra hne
    have hzero := (howner r t).2 fun hr' ↦ hne hr'.2
    exact List.count_eq_zero.mp hzero hr
  exact (hplace p hp).symm.trans (hplace q hq)

omit [DecidableEq P] in
/-- The tokens of the pool are those that lie somewhere. -/
theorem pool_iff (h : Owned pool held) (t : T) : pool t ↔ ∃ p, t ∈ held p := by
  obtain ⟨owner, howner⟩ := h
  constructor
  · intro ht
    have hone := (howner (owner t) t).1 ⟨ht, rfl⟩
    exact ⟨owner t, List.count_pos_iff.mp (by omega)⟩
  · rintro ⟨p, hp⟩
    by_contra hnot
    have hzero := (howner p t).2 fun hr ↦ hnot hr.1
    exact List.count_eq_zero.mp hzero hp

omit [DecidableEq P] in
theorem nothing (p₀ : P) : Owned (fun _ ↦ False) fun (_ : P) ↦ ([] : List T) :=
  ⟨fun _ ↦ p₀, fun _ _ ↦ ⟨fun h ↦ h.1.elim, fun _ ↦ List.count_nil⟩⟩

theorem enters (p : P) (ts : List T) (h : Owned pool held) (henters : Enters held held' p ts)
    (hnodup : ts.Nodup) (hnew : ∀ t ∈ ts, ¬ pool t) (hpool : ∀ t, pool' t ↔ pool t ∨ t ∈ ts) :
    Owned pool' held' := by
  obtain ⟨owner, howner⟩ := h
  have harrives : ∀ t, (held' p).count t = ts.count t + (held p).count t := fun t ↦ by
    rw [henters.arrives.count_eq, List.count_append]
  refine ⟨fun t ↦ if t ∈ ts then p else owner t, fun r t ↦ ?_⟩
  have hr := howner r t
  rw [hpool]
  by_cases ht : t ∈ ts
  · -- a new token lies nowhere before
    have hnowhere : ∀ r, (held r).count t = 0 := fun r ↦ (howner r t).2 fun h ↦ hnew t ht h.1
    simp only [or_true, true_and, ht]
    by_cases hrp : r = p
    · rw [hrp, harrives, hnowhere, List.count_eq_one_of_mem hnodup ht]
      exact ⟨fun _ ↦ rfl, fun hnot ↦ absurd rfl hnot⟩
    · rw [(henters.rest r hrp).count_eq, hnowhere]
      exact ⟨fun h ↦ absurd h.symm hrp, fun _ ↦ rfl⟩
  · have hsame : (held' r).count t = (held r).count t := by
      by_cases hrp : r = p
      · rw [hrp, harrives, List.count_eq_zero.mpr ht, Nat.zero_add]
      · exact (henters.rest r hrp).count_eq t
    simp only [hsame, or_false, ht]
    exact hr

omit [DecidableEq P] in
/-- What leaves is what would come back. -/
theorem leaves (p : P) (ts : List T) (h : Owned pool held) (hleaves : Enters held' held p ts)
    (hpool : ∀ t, pool' t ↔ pool t ∧ t ∉ ts) : Owned pool' held' := by
  obtain ⟨owner, howner⟩ := h
  have hsum : ∀ t, (held p).count t = ts.count t + (held' p).count t := fun t ↦ by
    rw [hleaves.arrives.count_eq, List.count_append]
  refine ⟨owner, fun r t ↦ ?_⟩
  have hr := howner r t
  have hp := howner p t
  rw [hpool]
  by_cases ht : t ∈ ts
  · have hpos : 0 < ts.count t := List.count_pos_iff.mpr ht
    have hcount := hsum t
    have hat : pool t ∧ owner t = p := by
      by_contra hnot
      have hzero := hp.2 hnot
      omega
    have hone := hp.1 hat
    refine ⟨fun h ↦ absurd ht h.1.2, fun _ ↦ ?_⟩
    by_cases hrp : r = p
    · rw [hrp]
      omega
    · rw [← (hleaves.rest r hrp).count_eq]
      exact hr.2 fun h ↦ hrp (h.2.symm.trans hat.2)
  · have hsame : (held' r).count t = (held r).count t := by
      by_cases hrp : r = p
      · have hcount := hsum t
        rw [List.count_eq_zero.mpr ht] at hcount
        rw [hrp]
        omega
      · exact ((hleaves.rest r hrp).count_eq t).symm
    simp only [hsame, ht, not_false_eq_true, and_true]
    exact hr

theorem moves (p q : P) (ts : List T) (h : Owned pool held) (hmoves : Moves held held' p q ts) :
    Owned pool held' := by
  obtain ⟨owner, howner⟩ := h
  have hleaves : ∀ t, (held p).count t = ts.count t + (held' p).count t := fun t ↦ by
    rw [hmoves.leaves.count_eq, List.count_append]
  have harrives : ∀ t, (held' q).count t = ts.count t + (held q).count t := fun t ↦ by
    rw [hmoves.arrives.count_eq, List.count_append]
  -- a token that moves belongs to `p` before and to `q` after
  refine ⟨fun t ↦ if t ∈ ts then q else owner t, fun r t ↦ ?_⟩
  have hr := howner r t
  have hp := howner p t
  have hq := howner q t
  by_cases ht : t ∈ ts
  · have hpos : 0 < ts.count t := List.count_pos_iff.mpr ht
    have hat : pool t ∧ owner t = p := by
      by_contra hnot
      have hzero := hp.2 hnot
      have hsum := hleaves t
      omega
    have hone := hp.1 hat
    have hout : ts.count t = 1 ∧ (held' p).count t = 0 := by
      have hsum := hleaves t
      omega
    have hnotq : (held q).count t = 0 := hq.2 fun h ↦ hmoves.ne (hat.2.symm.trans h.2)
    simp only [if_pos ht]
    by_cases hrq : r = q
    · subst hrq
      exact ⟨fun _ ↦ by rw [harrives]; omega, fun hnot ↦ absurd ⟨hat.1, rfl⟩ hnot⟩
    · refine ⟨fun h ↦ absurd h.2.symm hrq, fun _ ↦ ?_⟩
      by_cases hrp : r = p
      · rw [hrp]
        exact hout.2
      · rw [(hmoves.rest r hrp hrq).count_eq]
        exact hr.2 fun h ↦ hrp (h.2.symm.trans hat.2)
  · have hzero : ts.count t = 0 := List.count_eq_zero.mpr ht
    have hsame : (held' r).count t = (held r).count t := by
      by_cases hrp : r = p
      · have hsum := hleaves t
        rw [hrp]
        omega
      · by_cases hrq : r = q
        · have hsum := harrives t
          rw [hrq]
          omega
        · exact (hmoves.rest r hrp hrq).count_eq t
    simp only [if_neg ht, hsame]
    exact hr

end Owned

end Ownership
