import AerialBridge.Request.Messages
import AerialBridge.Request.Writer

/-!
# Packed structs of the request PDUs

The structs of the wire format that several PDUs share, each with its bytes and the parser that
reads it back.
-/

namespace AerialBridge

open Bytes Bytes.Parser

/-! ## Codes -/

/-- `cp == cyclic_prefix::NORMAL ? 0 : 1`. -/
def CyclicPrefix.code : CyclicPrefix → UInt8
  | .normal => 0
  | .extended => 1

def CyclicPrefix.ofCode (code : UInt8) : CyclicPrefix := if code = 0 then .normal else .extended

theorem CyclicPrefix.ofCode_code (cp : CyclicPrefix) : CyclicPrefix.ofCode cp.code = cp := by
  cases cp <;> rfl

/-- `flag ? 1 : 0`. -/
def flagByte (b : Bool) : UInt8 := if b then 1 else 0

theorem flagByte_ne_zero (b : Bool) : (flagByte b != 0) = b := by
  cases b <;> rfl

/-- The value that is left of a 32-bit one in a 16-bit field. -/
def held16 (x : UInt32) : UInt32 := x.toUInt16.toUInt32

/-! ## Structs -/

structure ScfBwp where
  bwpSize : UInt16
  bwpStart : UInt16
  scs : UInt8
  cyclicPrefix : UInt8
  deriving DecidableEq, Repr

def ScfBwp.encode (b : ScfBwp) : List UInt8 :=
  le16 b.bwpSize ++ (le16 b.bwpStart ++ ([b.scs] ++ [b.cyclicPrefix]))

def scfBwp : Parser ScfBwp := do
  let bwpSize ← u16
  let bwpStart ← u16
  let scs ← u8
  let cyclicPrefix ← u8
  pure ⟨bwpSize, bwpStart, scs, cyclicPrefix⟩

theorem scfBwp_parses (w : ScfBwp) : Parses scfBwp w.encode w :=
  .bind (.u16 _) <| .bind (.u16 _) <| .bind (.u8 _) <| .last (.u8 _)

@[simp] theorem ScfBwp.encode_length (b : ScfBwp) : b.encode.length = 6 := rfl

/-- The BWP block of a PDU. -/
def ScfBwp.of (bwp : Interval UInt32) (scs : UInt8) (cp : CyclicPrefix) : ScfBwp :=
  ⟨bwp.length.toUInt16, bwp.start.toUInt16, scs, cp.code⟩

/-- What a BWP block says; its 16-bit fields hold the values modulo their width. -/
structure ScfBwp.Carries (w : ScfBwp) (bwp : Interval UInt32) (scs : UInt8) (cp : CyclicPrefix) :
    Prop where
  start : w.bwpStart.toNat = bwp.start.toNat % 2 ^ 16
  size : w.bwpSize.toNat = bwp.length.toNat % 2 ^ 16
  scs : w.scs = scs
  cyclicPrefix : CyclicPrefix.ofCode w.cyclicPrefix = cp

theorem ScfBwp.of_carries (bwp : Interval UInt32) (scs : UInt8) (cp : CyclicPrefix) :
    (ScfBwp.of bwp scs cp).Carries bwp scs cp where
  start := UInt32.toNat_toUInt16 _
  size := UInt32.toNat_toUInt16 _
  scs := rfl
  cyclicPrefix := CyclicPrefix.ofCode_code cp

/-- `scf_tx_precoding_beamforming` and `scf_rx_beamforming`, with the indices behind them. -/
structure ScfBeamforming where
  numPrgs : UInt16
  prgSize : UInt16
  digBfInterfaces : UInt8
  idx : List UInt16
  deriving DecidableEq, Repr

/-- The smallest block: no PRGs. -/
def noBeamforming : ScfBeamforming := ⟨0, 0, 0, []⟩

def ScfBeamforming.encode (b : ScfBeamforming) : List UInt8 :=
  le16 b.numPrgs ++ (le16 b.prgSize ++ ([b.digBfInterfaces] ++ b.idx.flatMap le16))

/-- `perPrg` indices follow for each PRG. -/
def scfBeamforming (perPrg : UInt8 → Nat) : Parser ScfBeamforming := do
  let numPrgs ← u16
  let prgSize ← u16
  let digBfInterfaces ← u8
  let idx ← u16.times (numPrgs.toNat * perPrg digBfInterfaces)
  pure ⟨numPrgs, prgSize, digBfInterfaces, idx⟩

/-- A precoding index and one beam index for each interface. -/
def scfTxPrecodingBeamforming : Parser ScfBeamforming := scfBeamforming fun n ↦ 1 + n.toNat

def scfRxBeamforming : Parser ScfBeamforming := scfBeamforming UInt8.toNat

theorem scfBeamforming_parses (perPrg : UInt8 → Nat) :
    Parses (scfBeamforming perPrg) noBeamforming.encode noBeamforming := by
  intro rest
  have hzero : (0 : UInt16).toNat = 0 := rfl
  simp [scfBeamforming, ScfBeamforming.encode, noBeamforming, hzero, Parser.times]

theorem scfTxPrecodingBeamforming_parses :
    Parses scfTxPrecodingBeamforming noBeamforming.encode noBeamforming :=
  scfBeamforming_parses _

theorem scfRxBeamforming_parses :
    Parses scfRxBeamforming noBeamforming.encode noBeamforming :=
  scfBeamforming_parses _

@[simp] theorem noBeamforming_encode_length : noBeamforming.encode.length = 5 := rfl

/-- The RB bitmap, which resource allocation type 1 does not use. -/
def zeroRbBitmap : List UInt8 := List.replicate 36 0

@[simp] theorem zeroRbBitmap_length : zeroRbBitmap.length = 36 := rfl

end AerialBridge
