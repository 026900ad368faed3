import AerialBridge.Bytes.Loop

/-!
# Loops over truncated encodings

A loop over the encodings of a list, run on the first `k` bytes of its buffer: it visits the elements
that lie wholly within them as before and meets at most one that is cut.
-/

namespace Bytes

variable {σ ω ε α γ : Type}

/-! ## The first bytes of a buffer -/

theorem take_drop_whole {buf bs rest : List UInt8} {k p : Nat} (h : buf.drop p = bs ++ rest)
    (hk : p + bs.length ≤ k) :
    (buf.take k).drop p = bs ++ rest.take (k - p - bs.length) := by
  rw [List.drop_take, h, List.take_append, List.take_of_length_le (by omega)]

theorem take_drop_cut {buf bs rest : List UInt8} {k p : Nat} (h : buf.drop p = bs ++ rest)
    (hk : k ≤ p + bs.length) : (buf.take k).drop p = bs.take (k - p) := by
  rw [List.drop_take, h, List.take_append_of_le_length (by omega)]

/-! ## Which elements a cut reaches -/

/-- How many of the encodings lie wholly within the first `c` bytes. -/
def wholeCount (enc : α → List UInt8) : Nat → List α → Nat
  | _, [] => 0
  | c, x :: xs => if (enc x).length ≤ c then wholeCount enc (c - (enc x).length) xs + 1 else 0

/-- What `part` makes of the element that is cut and the number of its bytes that are left. -/
def cutPart (enc : α → List UInt8) (part : α → Nat → List γ) : Nat → List α → List γ
  | _, [] => []
  | c, x :: xs =>
      if (enc x).length ≤ c then cutPart enc part (c - (enc x).length) xs else part x c

theorem cutPart_nil (enc : α → List UInt8) (xs : List α) (c : Nat) :
    cutPart enc (fun _ _ ↦ ([] : List γ)) c xs = [] := by
  induction xs generalizing c with
  | nil => rfl
  | cons x xs ih =>
      rw [cutPart]
      split
      · exact ih _
      · rfl

/-- Of no bytes at all nothing is whole. -/
theorem wholeCount_zero {enc : α → List UInt8} {xs : List α} (h : ∀ x ∈ xs, 0 < (enc x).length) :
    wholeCount enc 0 xs = 0 := by
  cases xs with
  | nil => rfl
  | cons x xs => exact if_neg (not_le.mpr (h x List.mem_cons_self))

theorem cutPart_zero {enc : α → List UInt8} {part : α → Nat → List γ} {xs : List α}
    (h : ∀ x ∈ xs, 0 < (enc x).length) (hpart : ∀ x ∈ xs, part x 0 = []) :
    cutPart enc part 0 xs = [] := by
  cases xs with
  | nil => rfl
  | cons x xs =>
      rw [cutPart, if_neg (not_le.mpr (h x List.mem_cons_self))]
      exact hpart x List.mem_cons_self

section

variable {body : List UInt8 → σ → Except ε (Turn σ ω)} {pos : σ → Nat} {buf : List UInt8}
  {enc : α → List UInt8} {f : List ω → List γ}

/-- A loop over whole encodings makes one observation for each. -/
theorem loop_visits (hnil : f [] = []) (happ : ∀ xs ys, f (xs ++ ys) = f xs ++ f ys) (xs : List α)
    (hturn : ∀ x ∈ xs, ∀ s, ∃ t v, pos t = pos s + (enc x).length ∧
      ∀ b rest, b.drop (pos s) = enc x ++ rest →
        ∃ out, body b s = .ok (.next t out) ∧ f out = [v])
    {s : σ} {rest : List UInt8} (hb : buf.drop (pos s) = xs.flatMap enc ++ rest) :
    ∃ u out, loop (body buf) xs.length s = .ok (u, out) ∧ (f out).length = xs.length := by
  induction xs generalizing s with
  | nil => exact ⟨s, [], rfl, by rw [hnil]; rfl⟩
  | cons x xs ih =>
      rw [List.flatMap_cons, List.append_assoc] at hb
      obtain ⟨t, v, ht, hx⟩ := hturn x List.mem_cons_self s
      obtain ⟨out, hout, hv⟩ := hx buf _ hb
      have hnext := drop_past hb rfl
      rw [← ht] at hnext
      obtain ⟨u, outs, hloop, hlen⟩ := ih (fun y hy ↦ hturn y (List.mem_cons_of_mem x hy)) hnext
      refine ⟨u, out ++ outs, loop_next hout hloop, ?_⟩
      rw [happ, hv, List.length_append, hlen, List.length_singleton, List.length_cons, Nat.add_comm]

/-- On the first `k` bytes the loop makes the observations of the whole elements, the same as before,
and what a turn on the cut element leaves. -/
theorem loop_cut (hnil : f [] = []) (happ : ∀ xs ys, f (xs ++ ys) = f xs ++ f ys)
    {part : α → Nat → List γ} {k : Nat} (xs : List α)
    (hturn : ∀ x ∈ xs, ∀ s, ∃ t v, pos t = pos s + (enc x).length ∧
      ∀ b rest, b.drop (pos s) = enc x ++ rest →
        ∃ out, body b s = .ok (.next t out) ∧ f out = [v])
    (hcut : ∀ x ∈ xs, ∀ s b c n, b.drop (pos s) = (enc x).take c → c < (enc x).length →
      ∃ u out, loop (body b) (n + 1) s = .ok (u, out) ∧ f out = part x c)
    {s : σ} {rest : List UInt8} (hb : buf.drop (pos s) = xs.flatMap enc ++ rest) (hs : pos s ≤ k) :
    ∃ u out u' out', loop (body buf) xs.length s = .ok (u, out) ∧
      loop (body (buf.take k)) xs.length s = .ok (u', out') ∧ (f out).length = xs.length ∧
      f out' = (f out).take (wholeCount enc (k - pos s) xs) ++ cutPart enc part (k - pos s) xs := by
  induction xs generalizing s with
  | nil => exact ⟨s, [], s, [], rfl, rfl, by rw [hnil]; rfl, by rw [hnil]; rfl⟩
  | cons x xs ih =>
      rw [List.flatMap_cons, List.append_assoc] at hb
      obtain ⟨t, v, ht, hx⟩ := hturn x List.mem_cons_self s
      obtain ⟨out, hout, hv⟩ := hx buf _ hb
      have hnext := drop_past hb rfl
      rw [← ht] at hnext
      by_cases hk : pos t ≤ k
      -- the element is whole: both loops take the same turn and go on
      · obtain ⟨u, outs, u', outs', hloop, hloop', hlen, hnot⟩ :=
          ih (fun y hy ↦ hturn y (List.mem_cons_of_mem x hy))
            (fun y hy ↦ hcut y (List.mem_cons_of_mem x hy)) hnext hk
        obtain ⟨out', hout', hv'⟩ := hx (buf.take k) _ (take_drop_whole hb (by omega))
        refine ⟨u, out ++ outs, u', out' ++ outs', loop_next hout hloop, loop_next hout' hloop', ?_, ?_⟩
        · rw [happ, hv, List.length_append, hlen, List.length_singleton, List.length_cons,
            Nat.add_comm]
        · have hwhole : (enc x).length ≤ k - pos s := by omega
          rw [wholeCount, cutPart, if_pos hwhole, if_pos hwhole, happ, happ, hv, hv', hnot, ht,
            Nat.sub_add_eq]
          rfl
      -- the element is cut: whatever its turn does, the loop ends there
      · obtain ⟨u, outs, hloop, hlen⟩ :=
          loop_visits hnil happ xs (fun y hy ↦ hturn y (List.mem_cons_of_mem x hy)) hnext
        obtain ⟨u', out', hloop', hpart⟩ := hcut x List.mem_cons_self s (buf.take k) (k - pos s)
          xs.length (take_drop_cut hb (by omega)) (by omega)
        refine ⟨u, out ++ outs, u', out', loop_next hout hloop, hloop', ?_, ?_⟩
        · rw [happ, hv, List.length_append, hlen, List.length_singleton, List.length_cons,
            Nat.add_comm]
        · have hwhole : ¬ (enc x).length ≤ k - pos s := by omega
          rw [wholeCount, cutPart, if_neg hwhole, if_neg hwhole, hpart]
          rfl

end

end Bytes
