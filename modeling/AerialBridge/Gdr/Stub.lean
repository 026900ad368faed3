import AerialBridge.Bytes.Memory
import AerialBridge.Transition.Run

/-!
# The GDRCopy stub

`gdr_stub.cpp` stands in for GDRCopy: a mapping of device memory is a private mapping of zeroed
pages, and copying to and from it is `memcpy`.  The stub keeps no books.  The kernel unmaps whole
pages, and which ones is worked out a second time from the size that the caller gives to
`gdr_unmap`.
-/

namespace AerialBridge

open Bytes

/-- The bytes that a size stands for, in `gdr_map` and in `gdr_unmap`. -/
def gdrSize (size : UInt64) : UInt64 := if size > 0 then size else 4096

/-- What `gdr_map` asks the kernel for. -/
def gdrAllocSize (size : UInt64) : UInt64 := (gdrSize size + 4095) &&& ~~~4095

/-- The pages that the kernel maps or unmaps for a length. -/
def pagesOf (len : UInt64) : Nat := (len.toNat + 4095) / 4096

/-- A mapping as its caller knows it, by its address, which is that of a page, and its size. -/
structure GdrMapping where
  page : Nat
  size : UInt64
  deriving DecidableEq, Repr

def GdrMapping.va (m : GdrMapping) : Nat := m.page * 4096

/-- The process: its pages as far as the stub maps them, its memory, the mappings that its threads
hold, and what they have read from them. -/
structure GdrProcess where
  pages : Finset Nat
  mem : Mem
  held : List GdrMapping
  read : List (List UInt8)

/-- A call, with the kernel's answer to `mmap`: no address, or that of a page. -/
inductive GdrCall
  | map (size : UInt64) (answer : Option Nat)
  | unmap (m : GdrMapping)
  | copyToMapping (m : GdrMapping) (offset : Nat) (data : List UInt8)
  | copyFromMapping (m : GdrMapping) (offset size : Nat)
  deriving Repr

namespace GdrProcess

def start : GdrProcess := ⟨∅, .zeros, [], []⟩

/-- What the kernel may answer: pages of the address space that are free, and none for an empty
mapping. -/
def Grants (s : GdrProcess) (len : UInt64) (page : Nat) : Prop :=
  0 < len.toNat ∧ 0 < page ∧ (page + pagesOf len) * 4096 ≤ 2 ^ 64 ∧
    Disjoint (Finset.Ico page (page + pagesOf len)) s.pages

instance (s : GdrProcess) (len : UInt64) (page : Nat) : Decidable (s.Grants len page) :=
  inferInstanceAs (Decidable (_ ∧ _ ∧ _ ∧ _))

def step (s : GdrProcess) : GdrCall → Option GdrProcess
  -- `MAP_FAILED`: the address is null and the call fails
  | .map _ none => some s
  | .map size (some page) =>
      let allocSize := gdrAllocSize size
      if s.Grants allocSize page then
        some { s with
          pages := s.pages ∪ Finset.Ico page (page + pagesOf allocSize)
          mem := s.mem.store (page * 4096) (List.replicate allocSize.toNat 0)
          held := ⟨page, size⟩ :: s.held }
      else none
  | .unmap m =>
      some { s with
        pages := if m.va = 0 then s.pages else
          s.pages \ Finset.Ico m.page (m.page + pagesOf (gdrSize m.size))
        held := s.held.erase m }
  | .copyToMapping m offset data => some { s with mem := s.mem.store (m.va + offset) data }
  | .copyFromMapping m offset size =>
      some { s with read := s.read ++ [s.mem.load (m.va + offset) size] }

/-- Callers unmap what they hold, with the size that they asked for, and copy within it. -/
def Lawful (s : GdrProcess) : GdrCall → Prop
  | .map _ _ => True
  | .unmap m => m ∈ s.held
  | .copyToMapping m offset data => m ∈ s.held ∧ offset + data.length ≤ m.size.toNat
  | .copyFromMapping m offset size => m ∈ s.held ∧ offset + size ≤ m.size.toNat

instance (s : GdrProcess) (call : GdrCall) : Decidable (s.Lawful call) := by
  cases call <;> unfold Lawful <;> infer_instance

end GdrProcess

/-! ## Whole pages -/

theorem mask_bits : ∀ i < 64, (~~~(4095#64)).getLsbD i = !decide (i < 12) := by decide

/-- The mask rounds down to a page. -/
theorem toNat_and_mask (x : UInt64) : (x &&& ~~~4095).toNat = x.toNat / 4096 * 4096 := by
  have hbits : (x &&& ~~~4095).toBitVec = x.toBitVec >>> 12 <<< 12 := by
    apply BitVec.eq_of_getLsbD_eq
    intro i hi
    show (x.toBitVec &&& ~~~(4095#64)).getLsbD i = _
    rw [BitVec.getLsbD_and, mask_bits i hi, BitVec.getLsbD_shiftLeft, BitVec.getLsbD_ushiftRight]
    by_cases hlow : i < 12
    · simp [hlow]
    · have hsame : 12 + (i - 12) = i := by omega
      simp [hlow, hi, hsame]
  have hnat := congrArg BitVec.toNat hbits
  rw [BitVec.toNat_shiftLeft, BitVec.toNat_ushiftRight, Nat.shiftLeft_eq,
    Nat.shiftRight_eq_div_pow] at hnat
  have hlt := x.toNat_lt
  have hfit : x.toNat / 2 ^ 12 * 2 ^ 12 < 2 ^ 64 := by omega
  have hx : x.toBitVec.toNat = x.toNat := rfl
  rw [hx, Nat.mod_eq_of_lt hfit] at hnat
  exact hnat

theorem toNat_gdrSize (size : UInt64) :
    (gdrSize size).toNat = if 0 < size.toNat then size.toNat else 4096 := by
  unfold gdrSize
  have hpos : size > 0 ↔ 0 < size.toNat := UInt64.lt_iff_toNat_lt
  by_cases h : size > 0
  · rw [if_pos h, if_pos (hpos.mp h)]
  · rw [if_neg h, if_neg (mt hpos.mpr h)]
    rfl

theorem toNat_gdrAllocSize (size : UInt64) :
    (gdrAllocSize size).toNat = ((gdrSize size).toNat + 4095) % 2 ^ 64 / 4096 * 4096 := by
  unfold gdrAllocSize
  rw [toNat_and_mask, UInt64.toNat_add]
  rfl

section

variable {size : UInt64} (h : 0 < (gdrAllocSize size).toNat)

include h

/-- What is mapped holds what was asked for, and is unmapped page by page.  A size that wraps around
when it is rounded up is not mapped at all. -/
theorem gdrAllocSize_spec :
    size.toNat ≤ (gdrAllocSize size).toNat ∧
      (gdrAllocSize size).toNat = pagesOf (gdrAllocSize size) * 4096 ∧
      pagesOf (gdrSize size) = pagesOf (gdrAllocSize size) ∧
      0 < pagesOf (gdrAllocSize size) := by
  have halloc := toNat_gdrAllocSize size
  have hsize := toNat_gdrSize size
  have hlt := (gdrSize size).toNat_lt
  unfold pagesOf
  -- the sum does not wrap around, as a page would be left of it
  have hfit : (gdrSize size).toNat + 4095 < 2 ^ 64 := by omega
  rw [Nat.mod_eq_of_lt hfit] at halloc
  split at hsize <;> omega

end

end AerialBridge
