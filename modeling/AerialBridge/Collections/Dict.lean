import Mathlib.Tactic

/-!
# Dictionaries in insertion order

Entries with distinct keys, in the order in which the keys were first stored.  Storing under a key
that is there changes its value where it stands.
-/

/-- A dictionary; no key has two entries. -/
structure Dict (K V : Type) where
  entries : List (K × V)
  nodup : (entries.map Prod.fst).Nodup

namespace Dict

variable {K V : Type} [DecidableEq K]

/-- The entries once `f` has been applied to what stands under `k`. -/
def upsert (k : K) (f : Option V → V) : List (K × V) → List (K × V)
  | [] => [(k, f none)]
  | e :: es => if e.1 = k then (k, f (some e.2)) :: es else e :: upsert k f es

theorem keys_upsert (k : K) (f : Option V → V) (es : List (K × V)) :
    (upsert k f es).map Prod.fst =
      if k ∈ es.map Prod.fst then es.map Prod.fst else es.map Prod.fst ++ [k] := by
  induction es with
  | nil => rfl
  | cons e es ih =>
    by_cases h : e.1 = k
    · simp [upsert, h]
    · rw [upsert, if_neg h, List.map_cons, ih, List.map_cons]
      by_cases hk : k ∈ es.map Prod.fst
      · rw [if_pos hk, if_pos (List.mem_cons_of_mem _ hk)]
      · have hk' : k ∉ e.1 :: es.map Prod.fst := by
          rw [List.mem_cons, not_or]
          exact ⟨Ne.symm h, hk⟩
        rw [if_neg hk, if_neg hk', List.cons_append]

theorem lookup_cons (k : K) (e : K × V) (es : List (K × V)) :
    (e :: es).lookup k = if k = e.1 then some e.2 else es.lookup k := by
  rw [List.lookup_cons]
  by_cases h : k = e.1
  · rw [if_pos h, beq_iff_eq.mpr h]
  · rw [if_neg h, beq_eq_false_iff_ne.mpr h]

theorem lookup_upsert (k k' : K) (f : Option V → V) (es : List (K × V)) :
    (upsert k f es).lookup k' = if k' = k then some (f (es.lookup k)) else es.lookup k' := by
  induction es with
  | nil =>
    rw [upsert, lookup_cons, List.lookup_nil, List.lookup_nil]
  | cons e es ih =>
    by_cases h : e.1 = k
    · subst h
      rw [upsert, if_pos rfl, lookup_cons, lookup_cons, lookup_cons, if_pos rfl]
      by_cases h' : k' = e.1
      · rw [if_pos h', if_pos h']
      · rw [if_neg h', if_neg h', if_neg h']
    · rw [upsert, if_neg h, lookup_cons, lookup_cons, lookup_cons, if_neg (Ne.symm h), ih]
      by_cases h' : k' = e.1
      · rw [if_pos h', if_pos h', if_neg fun hk ↦ h (h'.symm.trans hk)]
      · rw [if_neg h', if_neg h']

def empty : Dict K V := ⟨[], List.nodup_nil⟩

def get? (d : Dict K V) (k : K) : Option V := d.entries.lookup k

def contains (d : Dict K V) (k : K) : Bool := (d.get? k).isSome

def keys (d : Dict K V) : List K := d.entries.map Prod.fst

def update (d : Dict K V) (k : K) (f : Option V → V) : Dict K V where
  entries := upsert k f d.entries
  nodup := by
    rw [keys_upsert]
    split
    · exact d.nodup
    · rename_i h
      exact List.nodup_append_comm.mp (List.nodup_cons.mpr ⟨h, d.nodup⟩)

/-- `d[k] = v`. -/
def set (d : Dict K V) (k : K) (v : V) : Dict K V := d.update k fun _ ↦ v

/-- `d.setdefault(k, []).append(v)`. -/
def append {W : Type} (d : Dict K (List W)) (k : K) (w : W) : Dict K (List W) :=
  d.update k fun vs ↦ vs.getD [] ++ [w]

/-- The dictionary that a comprehension builds: a later entry replaces an earlier one. -/
def ofList (es : List (K × V)) : Dict K V := es.foldl (fun d e ↦ d.set e.1 e.2) empty

theorem get?_update (d : Dict K V) (k k' : K) (f : Option V → V) :
    (d.update k f).get? k' = if k' = k then some (f (d.get? k)) else d.get? k' :=
  lookup_upsert k k' f d.entries

theorem get?_set (d : Dict K V) (k k' : K) (v : V) :
    (d.set k v).get? k' = if k' = k then some v else d.get? k' :=
  d.get?_update k k' _

/-- An append extends the list of its key, which is the empty one before the first append, and keeps
every other list. -/
theorem get?_append_of {W : Type} {P Q : K → List W → Prop} {d : Dict K (List W)} {k : K} {w : W}
    (hd : ∀ k' ws, d.get? k' = some ws → P k' ws) (hnil : P k [])
    (hkeep : ∀ k' ws, P k' ws → Q k' ws) (hsnoc : ∀ ws, P k ws → Q k (ws ++ [w])) {k' : K}
    {ws : List W} (h : (d.append k w).get? k' = some ws) : Q k' ws := by
  rw [append, get?_update] at h
  split at h
  · rename_i heq
    cases h
    rw [heq]
    apply hsnoc
    cases hold : d.get? k with
    | none => exact hnil
    | some old => exact hd k old hold
  · exact hkeep k' ws (hd k' ws h)

theorem mem_entries_iff (d : Dict K V) {k : K} {v : V} :
    (k, v) ∈ d.entries ↔ d.get? k = some v := by
  obtain ⟨es, hnodup⟩ := d
  show (k, v) ∈ es ↔ es.lookup k = some v
  induction es with
  | nil => simp
  | cons e es ih =>
    rw [List.map_cons, List.nodup_cons] at hnodup
    rw [List.mem_cons, lookup_cons, ih hnodup.2]
    by_cases h : k = e.1
    · subst h
      have hnone : es.lookup e.1 ≠ some v := fun hsome ↦
        hnodup.1 (List.mem_map.mpr ⟨(e.1, v), (ih hnodup.2).mpr hsome, rfl⟩)
      simp [hnone, Prod.ext_iff, eq_comm]
    · have hne : (k, v) ≠ e := fun he ↦ h (congrArg Prod.fst he)
      simp [h, hne]

theorem mem_keys_iff (d : Dict K V) {k : K} : k ∈ d.keys ↔ ∃ v, d.get? k = some v := by
  simp only [keys, List.mem_map, Prod.exists, exists_and_right, exists_eq_right, mem_entries_iff]

/-- A comprehension keeps the last value of each key. -/
theorem get?_ofList (es : List (K × V)) (k : K) :
    (ofList es).get? k = ((es.filter (·.1 = k)).getLast?).map Prod.snd := by
  induction es using List.reverseRecOn with
  | nil => rfl
  | append_singleton es e ih =>
    have hstep : ofList (es ++ [e]) = (ofList es).set e.1 e.2 := by
      simp [ofList]
    rw [hstep, get?_set, ih, List.filter_append]
    by_cases h : k = e.1
    · simp [h]
    · simp [h, Ne.symm h]

/-! ## Comprehensions over a list -/

section Comprehension

variable {α : Type}

/-- `x` stands in the list, and nothing behind it has its key. -/
def LastOf (key : α → K) (xs : List α) (x : α) : Prop :=
  ∃ before after, xs = before ++ x :: after ∧ ∀ y ∈ after, key y ≠ key x

/-- `{key(x): val(x) for x in xs}`. -/
def comprehend (key : α → K) (val : α → V) (xs : List α) : Dict K V :=
  ofList (xs.map fun x ↦ (key x, val x))

variable {key : α → K} {val : α → V} {xs : List α}

omit [DecidableEq K] in
theorem LastOf.mem {x : α} (h : LastOf key xs x) : x ∈ xs := by
  obtain ⟨before, after, rfl, _⟩ := h
  exact List.mem_append_right _ List.mem_cons_self

omit [DecidableEq K] in
theorem lastOf_filterMap {β : Type} {f : β → Option α} {ys : List β} {x : α} :
    LastOf key (ys.filterMap f) x ↔ ∃ before y after, ys = before ++ y :: after ∧ f y = some x ∧
      ∀ z ∈ after, ∀ w, f z = some w → key w ≠ key x := by
  constructor
  · rintro ⟨before, after, hsplit, hafter⟩
    obtain ⟨ys₁, ys₂, rfl, _, hys₂⟩ := List.filterMap_eq_append_iff.mp hsplit
    obtain ⟨ys₃, y, ys₄, rfl, _, hy, hys₄⟩ := List.filterMap_eq_cons_iff.mp hys₂
    refine ⟨ys₁ ++ ys₃, y, ys₄, by simp, hy, fun z hz w hw ↦ hafter w ?_⟩
    rw [← hys₄]
    exact List.mem_filterMap.mpr ⟨z, hz, hw⟩
  · rintro ⟨before, y, after, rfl, hy, hafter⟩
    refine ⟨before.filterMap f, after.filterMap f, ?_, fun w hw ↦ ?_⟩
    · rw [List.filterMap_append, List.filterMap_cons, hy]
    · obtain ⟨z, hz, hzw⟩ := List.mem_filterMap.mp hw
      exact hafter z hz w hzw

theorem getLast?_key {k : K} {x : α} :
    (xs.filter fun y ↦ key y = k).getLast? = some x ↔ key x = k ∧ LastOf key xs x := by
  rw [List.getLast?_filter, List.find?_eq_some_iff_append]
  constructor
  · rintro ⟨hk, after, before, hsplit, hafter⟩
    have hk' : key x = k := of_decide_eq_true hk
    have hxs : xs = before.reverse ++ x :: after.reverse := by
      rw [← List.reverse_reverse xs, hsplit]
      simp
    refine ⟨hk', before.reverse, after.reverse, hxs, fun y hy ↦ ?_⟩
    rw [hk']
    simpa using hafter y (List.mem_reverse.mp hy)
  · rintro ⟨hk, before, after, hsplit, hafter⟩
    refine ⟨decide_eq_true hk, after.reverse, before.reverse, ?_, fun y hy ↦ ?_⟩
    · rw [hsplit]
      simp
    · rw [← hk]
      simpa using hafter y (List.mem_reverse.mp hy)

theorem get?_comprehend {k : K} {v : V} :
    (comprehend key val xs).get? k = some v ↔ ∃ x, LastOf key xs x ∧ key x = k ∧ val x = v := by
  have hfilter : (xs.map fun x ↦ (key x, val x)).filter (fun e ↦ e.1 = k) =
      (xs.filter fun y ↦ key y = k).map fun x ↦ (key x, val x) := List.filter_map
  rw [comprehend, get?_ofList, hfilter, List.getLast?_map, Option.map_map, Option.map_eq_some_iff]
  constructor
  · rintro ⟨x, hx, hv⟩
    have hlast := getLast?_key.mp hx
    exact ⟨x, hlast.2, hlast.1, hv⟩
  · rintro ⟨x, hlast, hk, hv⟩
    exact ⟨x, getLast?_key.mpr ⟨hk, hlast⟩, hv⟩

omit [DecidableEq K] in
/-- When no two elements have the same key, each is the last of its own. -/
theorem lastOf_iff_mem (h : (xs.map key).Nodup) {x : α} : LastOf key xs x ↔ x ∈ xs := by
  constructor
  · exact LastOf.mem
  · intro hx
    obtain ⟨before, after, rfl⟩ := List.append_of_mem hx
    refine ⟨before, after, rfl, fun y hy heq ↦ ?_⟩
    rw [List.map_append, List.map_cons, List.nodup_append, List.nodup_cons] at h
    exact h.2.1.1 (heq ▸ List.mem_map_of_mem hy)

omit [DecidableEq K] in
theorem LastOf.filter {p : α → Bool} {x : α} (h : LastOf key xs x) (hp : p x = true) :
    LastOf key (xs.filter p) x := by
  obtain ⟨before, after, rfl, hafter⟩ := h
  refine ⟨before.filter p, after.filter p, ?_, fun y hy ↦ hafter y (List.mem_filter.mp hy).1⟩
  rw [List.filter_append, List.filter_cons_of_pos hp]

omit [DecidableEq K] in
/-- Where no key is repeated, a key stands for its element. -/
theorem key_mem_iff (h : (xs.map key).Nodup) {ys : List α} (hys : ys.Sublist xs) {x : α}
    (hx : x ∈ xs) : key x ∈ ys.map key ↔ x ∈ ys := by
  constructor
  · intro hk
    obtain ⟨y, hy, hkey⟩ := List.mem_map.mp hk
    rw [← List.inj_on_of_nodup_map h (hys.subset hy) hx hkey]
    exact hy
  · exact List.mem_map_of_mem

/-- Parts of a list have the same keys when they have the same elements. -/
theorem keys_eq_iff (h : (xs.map key).Nodup) {ys zs : List α} (hys : ys.Sublist xs)
    (hzs : zs.Sublist xs) :
    (ys.map key).toFinset = (zs.map key).toFinset ↔ ∀ x, x ∈ ys ↔ x ∈ zs := by
  rw [Finset.ext_iff]
  simp only [List.mem_toFinset]
  constructor
  · intro hsame x
    by_cases hx : x ∈ xs
    · rw [← key_mem_iff h hys hx, hsame, key_mem_iff h hzs hx]
    · exact iff_of_false (fun hy ↦ hx (hys.subset hy)) (fun hz ↦ hx (hzs.subset hz))
  · intro hsame k
    simp only [List.mem_map, hsame]

/-- Every entry of a dictionary is one of another. -/
def Within (d e : Dict K V) : Prop := ∀ k v, d.get? k = some v → e.get? k = some v

/-- Parts of a list without repeated keys. -/
theorem within_iff_subset {ys zs : List α} (h : (xs.map key).Nodup) (hys : ys.Sublist xs)
    (hzs : zs.Sublist xs) :
    (comprehend key val ys).Within (comprehend key val zs) ↔ ∀ x ∈ ys, x ∈ zs := by
  have hysKeys := (hys.map key).nodup h
  have hzsKeys := (hzs.map key).nodup h
  constructor
  · intro hwithin x hx
    obtain ⟨y, hy, hkey, _⟩ := get?_comprehend.mp (hwithin (key x) (val x)
      (get?_comprehend.mpr ⟨x, (lastOf_iff_mem hysKeys).mpr hx, rfl, rfl⟩))
    rw [← key_mem_iff h hzs (hys.subset hx), ← hkey]
    exact List.mem_map_of_mem hy.mem
  · intro hsub k v hget
    obtain ⟨x, hx, hk, hv⟩ := get?_comprehend.mp hget
    exact get?_comprehend.mpr ⟨x, (lastOf_iff_mem hzsKeys).mpr (hsub x hx.mem), hk, hv⟩

/-- Filtering keeps the entries exactly when it keeps the last element of each key, if elements that
agree in key and value are kept or dropped together. -/
theorem within_filter_iff {p : α → Bool}
    (h : ∀ x ∈ xs, ∀ y ∈ xs, key x = key y → val x = val y → p x = p y) :
    (comprehend key val xs).Within (comprehend key val (xs.filter p)) ↔
      ∀ x, LastOf key xs x → p x = true := by
  constructor
  · intro hwithin x hx
    obtain ⟨y, hy, hkey, hval⟩ := get?_comprehend.mp (hwithin (key x) (val x)
      (get?_comprehend.mpr ⟨x, hx, rfl, rfl⟩))
    obtain ⟨hmem, hp⟩ := List.mem_filter.mp hy.mem
    rw [h x hx.mem y hmem hkey.symm hval.symm]
    exact hp
  · intro hlast k v hget
    obtain ⟨x, hx, hk, hv⟩ := get?_comprehend.mp hget
    exact get?_comprehend.mpr ⟨x, hx.filter (hlast x hx), hk, hv⟩

end Comprehension

theorem upsert_of_not_mem {k : K} {es : List (K × V)} (h : k ∉ es.map Prod.fst)
    (f : Option V → V) : upsert k f es = es ++ [(k, f none)] := by
  induction es with
  | nil => rfl
  | cons e es ih =>
    rw [List.map_cons, List.mem_cons, not_or] at h
    rw [upsert, if_neg (Ne.symm h.1), ih h.2]
    rfl

/-- A comprehension over distinct keys keeps its entries in order. -/
theorem entries_ofList {es : List (K × V)} (h : (es.map Prod.fst).Nodup) :
    (ofList es).entries = es := by
  induction es using List.reverseRecOn with
  | nil => rfl
  | append_singleton es e ih =>
    rw [List.map_append, List.nodup_append] at h
    have hkey : e.1 ∉ es.map Prod.fst := fun hmem ↦
      h.2.2 e.1 hmem e.1 List.mem_cons_self rfl
    have hstep : ofList (es ++ [e]) = (ofList es).set e.1 e.2 := by
      simp [ofList]
    rw [hstep, set, update]
    show upsert e.1 _ (ofList es).entries = _
    rw [ih h.1, upsert_of_not_mem hkey]

theorem flatMap_upsert_perm {W γ : Type} (k : K) (w : W) (g : K → W → γ)
    (es : List (K × List W)) :
    ((upsert k (fun ws ↦ ws.getD [] ++ [w]) es).flatMap fun e ↦ e.2.map (g e.1)).Perm
      ((es.flatMap fun e ↦ e.2.map (g e.1)) ++ [g k w]) := by
  induction es with
  | nil => simp [upsert]
  | cons e es ih =>
    by_cases h : e.1 = k
    · subst h
      rw [upsert, if_pos rfl, List.flatMap_cons, List.flatMap_cons, Option.getD_some,
        List.map_append, List.append_assoc, List.append_assoc]
      exact (List.perm_append_comm).append_left _
    · rw [upsert, if_neg h, List.flatMap_cons, List.flatMap_cons, List.append_assoc]
      exact ih.append_left _

/-- What the entries stand for gains what the appended value stands for. -/
theorem flatMap_append_perm {W γ : Type} (d : Dict K (List W)) (k : K) (w : W) (g : K → W → γ) :
    ((d.append k w).entries.flatMap fun e ↦ e.2.map (g e.1)).Perm
      ((d.entries.flatMap fun e ↦ e.2.map (g e.1)) ++ [g k w]) :=
  flatMap_upsert_perm k w g d.entries

/-! ## Several assignments -/

/-- What stands under a key. -/
def valueAt (es : List (K × V)) (k : K) : Option V := es.lookup k

theorem valueAt_upsert (k k' : K) (f : Option V → V) (es : List (K × V)) :
    valueAt (upsert k f es) k' = if k' = k then some (f (valueAt es k)) else valueAt es k' :=
  lookup_upsert k k' f es

theorem mem_keys_of_valueAt {es : List (K × V)} {k : K} {v : V} (h : valueAt es k = some v) :
    k ∈ es.map Prod.fst := by
  induction es with
  | nil => cases h
  | cons e es ih =>
    rw [valueAt, lookup_cons] at h
    by_cases hk : k = e.1
    · rw [hk]
      exact List.mem_cons_self
    · rw [if_neg hk] at h
      exact List.mem_cons_of_mem _ (ih h)

/-- Each of the keys is given its value, one after another. -/
def assign (sets : List (K × V)) (es : List (K × V)) : List (K × V) :=
  sets.foldl (fun es e ↦ upsert e.1 (fun _ ↦ e.2) es) es

theorem assign_cons (e : K × V) (sets es : List (K × V)) :
    assign (e :: sets) es = assign sets (upsert e.1 (fun _ ↦ e.2) es) := rfl

/-- A value that stands there already is not moved. -/
theorem upsert_of_valueAt {k : K} {v : V} {es : List (K × V)} (h : valueAt es k = some v) :
    upsert k (fun _ ↦ v) es = es := by
  induction es with
  | nil => cases h
  | cons e es ih =>
    rw [valueAt, lookup_cons] at h
    by_cases hk : e.1 = k
    · rw [if_pos hk.symm] at h
      rw [upsert, if_pos hk, ← hk, ← Option.some.inj h]
    · rw [if_neg (Ne.symm hk)] at h
      rw [upsert, if_neg hk, ih h]

theorem valueAt_assign_of_not_mem {k : K} {sets : List (K × V)} (h : k ∉ sets.map Prod.fst)
    (es : List (K × V)) : valueAt (assign sets es) k = valueAt es k := by
  induction sets generalizing es with
  | nil => rfl
  | cons e sets ih =>
    rw [List.map_cons, List.mem_cons, not_or] at h
    rw [assign_cons, ih h.2, valueAt_upsert, if_neg h.1]

theorem valueAt_assign_of_mem {e : K × V} {sets : List (K × V)} (hnodup : (sets.map Prod.fst).Nodup)
    (h : e ∈ sets) (es : List (K × V)) : valueAt (assign sets es) e.1 = some e.2 := by
  induction sets generalizing es with
  | nil => cases h
  | cons e' sets ih =>
    rw [List.map_cons, List.nodup_cons] at hnodup
    rcases List.mem_cons.mp h with rfl | hmem
    · rw [assign_cons, valueAt_assign_of_not_mem hnodup.1, valueAt_upsert, if_pos rfl]
    · exact ih hnodup.2 hmem _

/-- Where all the values stand already, nothing changes. -/
theorem assign_of_valueAt {sets es : List (K × V)} (h : ∀ e ∈ sets, valueAt es e.1 = some e.2) :
    assign sets es = es := by
  induction sets with
  | nil => rfl
  | cons e sets ih =>
    rw [assign_cons, upsert_of_valueAt (h e List.mem_cons_self)]
    exact ih fun e' he' ↦ h e' (List.mem_cons_of_mem _ he')

/-- The keys that are there keep their order, and new ones come behind them. -/
theorem keys_assign (sets es : List (K × V)) :
    es.map Prod.fst <+: (assign sets es).map Prod.fst := by
  induction sets generalizing es with
  | nil => exact List.prefix_rfl
  | cons e sets ih =>
    refine List.IsPrefix.trans ?_ (ih _)
    rw [keys_upsert]
    by_cases h : e.1 ∈ es.map Prod.fst
    · rw [if_pos h]
    · rw [if_neg h]
      exact List.prefix_append _ _

end Dict
