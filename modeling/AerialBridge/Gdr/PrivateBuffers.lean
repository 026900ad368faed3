import AerialBridge.Bytes.Pointers
import AerialBridge.Gdr.Stub

/-!
# Mappings as private buffers

What GDRCopy promises its callers: each mapping is an array of its own, zero at first.  The stub's
mappings lie in one memory and its pages come and go, and still every run reads what it would read
from such arrays.
-/

namespace AerialBridge

open Bytes Transition

/-- The array with some of its bytes replaced. -/
def overwrite (bytes : List UInt8) (offset : Nat) (data : List UInt8) : List UInt8 :=
  bytes.take offset ++ (data ++ bytes.drop (offset + data.length))

/-- The arrays of the mappings that are held, and what has been read. -/
structure PrivateBuffers where
  buffers : List (GdrMapping × List UInt8)
  read : List (List UInt8)
  deriving DecidableEq, Repr

namespace PrivateBuffers

def start : PrivateBuffers := ⟨[], []⟩

def bytesOf (p : PrivateBuffers) (m : GdrMapping) : List UInt8 :=
  ((p.buffers.find? fun e ↦ e.1 = m).map Prod.snd).getD []

def call (p : PrivateBuffers) : GdrCall → PrivateBuffers
  | .map _ none => p
  | .map size (some page) =>
      { p with buffers := (⟨page, size⟩, List.replicate size.toNat 0) :: p.buffers }
  | .unmap m => { p with buffers := p.buffers.filter fun e ↦ e.1 ≠ m }
  | .copyToMapping m offset data =>
      { p with buffers := p.buffers.map fun e ↦
          if e.1 = m then (m, overwrite e.2 offset data) else e }
  | .copyFromMapping m offset size =>
      { p with read := p.read ++ [((p.bytesOf m).drop offset).take size] }

end PrivateBuffers

/-! ## Parts of a load -/

theorem load_add (mem : Mem) (a i j : Nat) :
    mem.load a (i + j) = mem.load a i ++ mem.load (a + i) j := by
  unfold Mem.load
  rw [List.range_add, List.map_append, List.map_map]
  simp only [Function.comp_def, Nat.add_assoc]

theorem load_store_overwrite (mem : Mem) (a : Nat) {offset n : Nat} {data : List UInt8}
    (h : offset + data.length ≤ n) :
    (mem.store (a + offset) data).load a n = overwrite (mem.load a n) offset data := by
  obtain ⟨rest, rfl⟩ := Nat.exists_eq_add_of_le h
  have hbefore : (mem.store (a + offset) data).load a offset = mem.load a offset :=
    Mem.load_store_disjoint mem data (.inl le_rfl)
  have hafter : (mem.store (a + offset) data).load (a + offset + data.length) rest =
      mem.load (a + offset + data.length) rest :=
    Mem.load_store_disjoint mem data (.inr le_rfl)
  have htake : (mem.load a (offset + data.length + rest)).take offset = mem.load a offset := by
    rw [Nat.add_assoc, load_add]
    exact List.take_left' (Mem.load_length _ _ _)
  have hdrop : (mem.load a (offset + data.length + rest)).drop (offset + data.length) =
      mem.load (a + offset + data.length) rest := by
    rw [load_add, ← Nat.add_assoc]
    exact List.drop_left' (Mem.load_length _ _ _)
  rw [overwrite, htake, hdrop, Nat.add_assoc, load_add, load_add, hbefore, Mem.load_store, hafter]

/-! ## The pages of a mapping -/

namespace GdrMapping

def pageCount (m : GdrMapping) : Nat := pagesOf (gdrAllocSize m.size)

def pages (m : GdrMapping) : Finset Nat := Finset.Ico m.page (m.page + m.pageCount)

/-- The mapping came about. -/
def Mapped (m : GdrMapping) : Prop := 0 < m.page ∧ 0 < (gdrAllocSize m.size).toNat

theorem Mapped.pageCount_pos {m : GdrMapping} (h : m.Mapped) : 0 < m.pageCount :=
  (gdrAllocSize_spec h.2).2.2.2

theorem Mapped.size_le {m : GdrMapping} (h : m.Mapped) : m.size.toNat ≤ m.pageCount * 4096 := by
  obtain ⟨hle, heq, _, _⟩ := gdrAllocSize_spec h.2
  exact hle.trans heq.le

/-- Mappings without a common page have no common byte. -/
theorem Mapped.apart {m m' : GdrMapping} (h : m.Mapped) (h' : m'.Mapped)
    (hdisjoint : Disjoint m.pages m'.pages) :
    m.va + m.pageCount * 4096 ≤ m'.va ∨ m'.va + m'.pageCount * 4096 ≤ m.va := by
  have hpos := h.pageCount_pos
  have hpos' := h'.pageCount_pos
  unfold va
  by_contra hover
  -- the later one of the two first pages belongs to both
  have hmem : max m.page m'.page ∈ m.pages ∧ max m.page m'.page ∈ m'.pages := by
    unfold pages
    rw [Finset.mem_Ico, Finset.mem_Ico]
    omega
  exact Finset.disjoint_left.mp hdisjoint hmem.1 hmem.2

end GdrMapping

/-! ## The process and the arrays -/

/-- The process has the pages of the mappings that are held, and each mapping holds its array. -/
structure Simulates (s : GdrProcess) (p : PrivateBuffers) : Prop where
  held : p.buffers.map Prod.fst = s.held
  mapped : ∀ m ∈ s.held, m.Mapped
  apart : s.held.Pairwise fun m m' ↦ Disjoint m.pages m'.pages
  pages : ∀ n, n ∈ s.pages ↔ ∃ m ∈ s.held, n ∈ m.pages
  bytes : ∀ e ∈ p.buffers, s.mem.load e.1.va e.1.size.toNat = e.2
  read : s.read = p.read

namespace Simulates

variable {s : GdrProcess} {p : PrivateBuffers}

theorem start : Simulates .start .start where
  held := rfl
  mapped _ h := by cases h
  apart := .nil
  pages _ := iff_of_false (Finset.notMem_empty _) fun ⟨_, h, _⟩ ↦ by cases h
  bytes _ h := by cases h
  read := rfl

theorem disjoint (h : Simulates s p) {m m' : GdrMapping} (hm : m ∈ s.held) (hm' : m' ∈ s.held)
    (hne : m ≠ m') : Disjoint m.pages m'.pages := by
  have hsymm : Std.Symm fun m m' : GdrMapping ↦ Disjoint m.pages m'.pages := ⟨fun _ _ hd ↦ hd.symm⟩
  exact h.apart.forall hm hm' hne

theorem mem_held (h : Simulates s p) {e : GdrMapping × List UInt8} (he : e ∈ p.buffers) :
    e.1 ∈ s.held := h.held ▸ List.mem_map_of_mem he

/-- A store within the pages of one mapping leaves the others alone. -/
theorem load_store (h : Simulates s p) {e : GdrMapping × List UInt8} (he : e ∈ p.buffers)
    {m : GdrMapping} (hm : m.Mapped) (hdisjoint : Disjoint m.pages e.1.pages) {offset : Nat}
    {data : List UInt8} (hfit : offset + data.length ≤ m.pageCount * 4096) :
    (s.mem.store (m.va + offset) data).load e.1.va e.1.size.toNat = e.2 := by
  have hmapped := h.mapped e.1 (h.mem_held he)
  have hsize := hmapped.size_le
  have hclear := hm.apart hmapped hdisjoint
  rw [Mem.load_store_disjoint _ _ (by omega)]
  exact h.bytes e he

theorem map (h : Simulates s p) {size : UInt64} {page : Nat}
    (hgrants : s.Grants (gdrAllocSize size) page) :
    Simulates { s with
      pages := s.pages ∪ Finset.Ico page (page + pagesOf (gdrAllocSize size))
      mem := s.mem.store (page * 4096) (List.replicate (gdrAllocSize size).toNat 0)
      held := ⟨page, size⟩ :: s.held } (p.call (.map size (some page))) := by
  obtain ⟨halloc, hpage, _, hfree⟩ := hgrants
  have hnew : (⟨page, size⟩ : GdrMapping).Mapped := ⟨hpage, halloc⟩
  obtain ⟨hsize, hwhole, _, _⟩ := gdrAllocSize_spec halloc
  have hdisjoint : ∀ m ∈ s.held, Disjoint (⟨page, size⟩ : GdrMapping).pages m.pages := by
    intro m hm
    refine Finset.disjoint_left.mpr fun n hn hnm ↦ ?_
    exact Finset.disjoint_left.mp hfree hn ((h.pages n).mpr ⟨m, hm, hnm⟩)
  constructor
  case held => exact congrArg (List.cons _) h.held
  case mapped =>
    intro m hm
    cases List.mem_cons.mp hm with
    | inl heq => exact heq ▸ hnew
    | inr hmem => exact h.mapped m hmem
  case apart => exact List.pairwise_cons.mpr ⟨hdisjoint, h.apart⟩
  case pages =>
    intro n
    rw [Finset.mem_union, h.pages, List.exists_mem_cons_iff, or_comm]
    rfl
  case bytes =>
    intro e he
    cases List.mem_cons.mp he with
    | inl heq =>
      subst heq
      show (s.mem.store (page * 4096) _).load (page * 4096) size.toNat = _
      -- the zeros of the rest of the last page come behind those of the array
      have hzeros : List.replicate (gdrAllocSize size).toNat (0 : UInt8) =
          [] ++ List.replicate size.toNat 0 ++
            List.replicate ((gdrAllocSize size).toNat - size.toNat) 0 := by
        rw [List.nil_append, ← List.replicate_add, Nat.add_sub_cancel' hsize]
      have hload := Mem.load_store_part s.mem (page * 4096) [] (List.replicate size.toNat 0)
        (List.replicate ((gdrAllocSize size).toNat - size.toNat) 0)
      rw [List.length_replicate, List.length_nil, Nat.add_zero] at hload
      rw [hzeros]
      exact hload
    | inr hmem =>
      have hfit : 0 + (List.replicate (gdrAllocSize size).toNat (0 : UInt8)).length ≤
          (⟨page, size⟩ : GdrMapping).pageCount * 4096 := by
        rw [List.length_replicate, Nat.zero_add]
        exact hwhole.le
      have hload := h.load_store hmem hnew (hdisjoint _ (h.mem_held hmem)) hfit
      rw [Nat.add_zero] at hload
      exact hload
  case read => exact h.read

theorem unmap (h : Simulates s p) {m : GdrMapping} (hm : m ∈ s.held) :
    Simulates { s with
      pages := if m.va = 0 then s.pages else
        s.pages \ Finset.Ico m.page (m.page + pagesOf (gdrSize m.size))
      held := s.held.erase m } (p.call (.unmap m)) := by
  have hmapped := h.mapped m hm
  obtain ⟨_, _, hsame, _⟩ := gdrAllocSize_spec hmapped.2
  have hva : m.va ≠ 0 := by
    have hpage := hmapped.1
    unfold GdrMapping.va
    omega
  -- what is unmapped is what was mapped
  have hpages : Finset.Ico m.page (m.page + pagesOf (gdrSize m.size)) = m.pages := by
    rw [hsame]
    rfl
  have hnodup : s.held.Nodup := by
    refine h.apart.imp_of_mem fun {a b} ha _ hd heq ↦ ?_
    have hpos := (h.mapped a ha).pageCount_pos
    have hfirst : a.page ∈ a.pages := Finset.mem_Ico.mpr ⟨le_rfl, by omega⟩
    exact Finset.disjoint_left.mp hd hfirst (heq ▸ hfirst)
  have hheld (m' : GdrMapping) : m' ∈ s.held.erase m ↔ m' ∈ s.held ∧ m' ≠ m := by
    rw [hnodup.mem_erase_iff, and_comm]
  constructor
  case held =>
    show (p.buffers.filter fun e ↦ e.1 ≠ m).map Prod.fst = s.held.erase m
    rw [hnodup.erase_eq_filter, ← h.held, List.filter_map]
    congr 1
    refine List.filter_congr fun e _ ↦ ?_
    simp only [Function.comp_apply, ne_eq, decide_not, bne, beq_eq_decide]
  case mapped => exact fun m' hm' ↦ h.mapped m' ((hheld m').mp hm').1
  case apart => exact h.apart.sublist List.erase_sublist
  case pages =>
    intro n
    rw [if_neg hva, hpages, Finset.mem_sdiff, h.pages]
    constructor
    · rintro ⟨⟨m', hm', hn⟩, hnot⟩
      exact ⟨m', (hheld m').mpr ⟨hm', fun heq ↦ hnot (heq ▸ hn)⟩, hn⟩
    · rintro ⟨m', hm', hn⟩
      obtain ⟨hin, hne⟩ := (hheld m').mp hm'
      exact ⟨⟨m', hin, hn⟩, Finset.disjoint_left.mp (h.disjoint hin hm hne) hn⟩
  case bytes => exact fun e he ↦ h.bytes e (List.mem_filter.mp he).1
  case read => exact h.read

theorem copyToMapping (h : Simulates s p) {m : GdrMapping} (hm : m ∈ s.held) {offset : Nat}
    {data : List UInt8} (hfit : offset + data.length ≤ m.size.toNat) :
    Simulates { s with mem := s.mem.store (m.va + offset) data }
      (p.call (.copyToMapping m offset data)) := by
  have hmapped := h.mapped m hm
  have hsize := hmapped.size_le
  constructor
  case held =>
    show (p.buffers.map fun e ↦ if e.1 = m then (m, overwrite e.2 offset data) else e).map Prod.fst =
      s.held
    rw [List.map_map, ← h.held]
    refine List.map_congr_left fun e _ ↦ ?_
    by_cases he : e.1 = m
    · rw [Function.comp_apply, if_pos he]
      exact he.symm
    · rw [Function.comp_apply, if_neg he]
  case mapped => exact h.mapped
  case apart => exact h.apart
  case pages => exact h.pages
  case bytes =>
    intro e' he'
    obtain ⟨e, he, rfl⟩ := List.mem_map.mp he'
    by_cases heq : e.1 = m
    · rw [if_pos heq]
      show (s.mem.store (m.va + offset) data).load m.va m.size.toNat = overwrite e.2 offset data
      rw [load_store_overwrite s.mem m.va hfit, ← heq, h.bytes e he]
    · rw [if_neg heq]
      have hdisjoint := h.disjoint hm (h.mem_held he) (Ne.symm heq)
      exact h.load_store he hmapped hdisjoint (by omega)
  case read => exact h.read

theorem copyFromMapping (h : Simulates s p) {m : GdrMapping} (hm : m ∈ s.held) {offset size : Nat}
    (hfit : offset + size ≤ m.size.toNat) :
    Simulates { s with read := s.read ++ [s.mem.load (m.va + offset) size] }
      (p.call (.copyFromMapping m offset size)) where
  held := h.held
  mapped := h.mapped
  apart := h.apart
  pages := h.pages
  bytes := h.bytes
  read := by
    show s.read ++ _ = p.read ++ [((p.bytesOf m).drop offset).take size]
    have hbytes : p.bytesOf m = s.mem.load m.va m.size.toNat := by
      have hkey : m ∈ p.buffers.map Prod.fst := h.held ▸ hm
      obtain ⟨e, he, heq⟩ := List.mem_map.mp hkey
      cases hfind : p.buffers.find? (fun e ↦ e.1 = m) with
      | none => exact absurd heq (by simpa using List.find?_eq_none.mp hfind e he)
      | some found =>
        have hfound : found.1 = m := by simpa using List.find?_some hfind
        rw [PrivateBuffers.bytesOf, hfind, ← hfound]
        exact (h.bytes found (List.mem_of_find?_eq_some hfind)).symm
    rw [hbytes, h.read, Mem.load_drop_take s.mem m.va hfit]

/-- Every call of the stub is one on the arrays. -/
theorem step (h : Simulates s p) {call : GdrCall} (hlawful : s.Lawful call) {s' : GdrProcess}
    (hstep : s.step call = some s') : Simulates s' (p.call call) := by
  cases call with
  | map size answer =>
    cases answer with
    | none =>
      cases hstep
      exact h
    | some page =>
      by_cases hgrants : s.Grants (gdrAllocSize size) page
      · rw [GdrProcess.step, if_pos hgrants] at hstep
        cases hstep
        exact h.map hgrants
      · rw [GdrProcess.step, if_neg hgrants] at hstep
        cases hstep
  | unmap m =>
    cases hstep
    exact h.unmap hlawful
  | copyToMapping m offset data =>
    cases hstep
    exact h.copyToMapping hlawful.1 hlawful.2
  | copyFromMapping m offset size =>
    cases hstep
    exact h.copyFromMapping hlawful.1 hlawful.2

theorem run (h : Simulates s p) {calls : List GdrCall} {s' : GdrProcess}
    (hrun : Run GdrProcess.step GdrProcess.Lawful s calls s') :
    Simulates s' (calls.foldl PrivateBuffers.call p) := by
  induction hrun generalizing p with
  | nil _ => exact h
  | cons hlawful hstep _ ih => exact ih (h.step hlawful hstep)

end Simulates

/-- The process as its callers see it: each mapping that is held is an array of its own, with room
for what was asked for, and what has been read is what the arrays gave.  The pages are those of the
mappings that are held, no page being part of two. -/
structure HoldsArrays (s : GdrProcess) (p : PrivateBuffers) : Prop where
  held : s.held = p.buffers.map Prod.fst
  read : s.read = p.read
  bytes : ∀ e ∈ p.buffers, s.mem.load e.1.va e.1.size.toNat = e.2
  room : ∀ m ∈ s.held, m.size.toNat ≤ m.pageCount * 4096
  apart : s.held.Pairwise fun m m' ↦ Disjoint m.pages m'.pages
  pages : ∀ n, n ∈ s.pages ↔ ∃ m ∈ s.held, n ∈ m.pages
  released : s.held = [] → s.pages = ∅

/-- Every run, whatever pages the kernel chooses and whatever sizes wrap around, is one on arrays
that are private to their mappings, and leaves no page behind once all are unmapped. -/
theorem gdr_mappings_private {calls : List GdrCall} {s : GdrProcess}
    (h : Run GdrProcess.step GdrProcess.Lawful .start calls s) :
    HoldsArrays s (calls.foldl PrivateBuffers.call .start) := by
  have hsim := Simulates.start.run h
  constructor
  case held => exact hsim.held.symm
  case read => exact hsim.read
  case bytes => exact hsim.bytes
  case room => exact fun m hm ↦ (hsim.mapped m hm).size_le
  case apart => exact hsim.apart
  case pages => exact hsim.pages
  case released =>
    intro hnil
    refine Finset.eq_empty_of_forall_notMem fun n hn ↦ ?_
    obtain ⟨m, hm, _⟩ := (hsim.pages n).mp hn
    rw [hnil] at hm
    cases hm

/-- Two mappings, the second of no bytes, and one that is too large; the first is unmapped. -/
def twoMappings : List GdrCall :=
  [.map 5000 (some 16), .map 0 (some 18), .map 18446744073709551615 none,
    .copyToMapping ⟨16, 5000⟩ 4998 [1, 2], .copyFromMapping ⟨16, 5000⟩ 4997 3, .unmap ⟨16, 5000⟩]

theorem gdr_mappings_private_two :
    ∃ s, HoldsArrays s (twoMappings.foldl PrivateBuffers.call .start) := by
  have hsome : (follow GdrProcess.step GdrProcess.Lawful .start twoMappings).isSome = true := by
    decide +kernel
  obtain ⟨s, hs⟩ := Option.isSome_iff_exists.mp hsome
  exact ⟨s, gdr_mappings_private (Run.of_follow hs)⟩

end AerialBridge
