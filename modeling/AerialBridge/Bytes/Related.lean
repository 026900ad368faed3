import AerialBridge.Bytes.Loop

/-!
# Two runs side by side

`Related x y R` says that two computations both succeed and return values that `R` relates.  A reader
of a fixed size gives the same value wherever it finds the same bytes, so two runs over buffers that
share a window agree on what they read in it.
-/

namespace Bytes

variable {α β γ δ ε : Type}

/-- The bytes of a buffer from `lo` up to `hi`. -/
def window (buf : List UInt8) (lo hi : Nat) : List UInt8 := (buf.take hi).drop lo

theorem length_window {buf : List UInt8} {hi : Nat} (h : hi ≤ buf.length) (lo : Nat) :
    (window buf lo hi).length = hi - lo := by
  rw [window, List.length_drop, List.length_take, Nat.min_eq_left h]

theorem window_add (buf : List UInt8) (lo hi n : Nat) :
    window buf (lo + n) hi = (window buf lo hi).drop n := by
  rw [window, window, List.drop_drop]

theorem window_eq_take (buf : List UInt8) (lo n : Nat) :
    window buf lo (lo + n) = (buf.drop lo).take n := by
  rw [window, List.drop_take, Nat.add_sub_cancel_left]

theorem drop_eq_window_append {buf : List UInt8} {lo hi : Nat} (h : lo ≤ hi) :
    buf.drop lo = window buf lo hi ++ buf.drop hi := by
  have hsplit : buf.drop lo = (buf.drop lo).take (hi - lo) ++ (buf.drop lo).drop (hi - lo) :=
    (List.take_append_drop (hi - lo) (buf.drop lo)).symm
  rw [List.drop_drop, show lo + (hi - lo) = hi by omega] at hsplit
  rw [window, List.drop_take]
  exact hsplit

/-- Both computations succeed, and `R` relates what they return. -/
def Related (x : Except ε α) (y : Except ε β) (R : α → β → Prop) : Prop :=
  ∃ a b, x = .ok a ∧ y = .ok b ∧ R a b

theorem Related.pure {R : α → β → Prop} {a : α} {b : β} (h : R a b) :
    Related (Pure.pure a : Except ε α) (Pure.pure b) R :=
  ⟨a, b, rfl, rfl, h⟩

theorem Related.bind {x : Except ε α} {y : Except ε β} {f : α → Except ε γ} {g : β → Except ε δ}
    {Q : α → β → Prop} {R : γ → δ → Prop} (h : Related x y Q)
    (hfg : ∀ a b, Q a b → Related (f a) (g b) R) : Related (x >>= f) (y >>= g) R := by
  obtain ⟨a, b, ha, hb, hab⟩ := h
  rw [ha, hb]
  exact hfg a b hab

theorem Related.ite {c d : Prop} [Decidable c] [Decidable d] {x x' : Except ε α}
    {y y' : Except ε β} {R : α → β → Prop} (hcd : c ↔ d) (ht : c → d → Related x y R)
    (hf : ¬ c → ¬ d → Related x' y' R) :
    Related (if c then x else x') (if d then y else y') R := by
  by_cases hc : c
  · have hd := hcd.mp hc
    rw [if_pos hc, if_pos hd]
    exact ht hc hd
  · have hd := fun hd ↦ hc (hcd.mpr hd)
    rw [if_neg hc, if_neg hd]
    exact hf hc hd

theorem Related.mapM {f g : α → Except ε β} {xs : List α}
    (h : ∀ x ∈ xs, Related (f x) (g x) Eq) : Related (xs.mapM f) (xs.mapM g) Eq := by
  induction xs with
  | nil => exact .pure rfl
  | cons x xs ih =>
      rw [List.mapM_cons, List.mapM_cons]
      apply Related.bind (h x List.mem_cons_self)
      rintro b _ rfl
      apply Related.bind (ih fun y hy ↦ h y (List.mem_cons_of_mem x hy))
      rintro bs _ rfl
      exact .pure rfl

/-- Where two buffers hold the same bytes, a reader of a fixed size reads the same value. -/
theorem Related.readAt {p : Parser α} {n : Nat} (hp : Sized p n) {buf buf' : List UInt8}
    {i hi i' hi' : Nat} (hw : window buf i hi = window buf' i' hi')
    (hn : n ≤ (window buf i hi).length) (h : i ≤ hi) (h' : i' ≤ hi') :
    Related (readAt p buf i) (readAt p buf' i') Eq := by
  obtain ⟨a, ha⟩ := hp ((window buf i hi).take n) (by rw [List.length_take]; omega)
  -- the value is that of the first `n` bytes of the window in both
  have hread : ∀ (b : List UInt8) (j hj : Nat), window b j hj = window buf i hi → j ≤ hj →
      Bytes.readAt p b j = .ok a := by
    intro b j hj hb hle
    have hdrop : b.drop j = (window buf i hi).take n ++ ((window buf i hi).drop n ++ b.drop hj) := by
      rw [← List.append_assoc, List.take_append_drop, ← hb]
      exact drop_eq_window_append hle
    exact readAt_parses ha hdrop
  exact ⟨a, a, hread buf i hi rfl h, hread buf' i' hi' hw.symm h', rfl⟩

end Bytes
