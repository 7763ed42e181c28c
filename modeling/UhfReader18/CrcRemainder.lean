import UhfReader18.ErrorDetection
import UhfReader18.PolynomialRegister

/-!
# The CRC as a remainder

CRC-16/MCRF4XX is defined by polynomials over the field of two elements: the message, its
first sixteen coefficients flipped by the preset, is divided by `X ^ 16 + X ^ 12 + X ^ 5 + 1`.
Bytes are read from their lowest bit, and so is the remainder. `crc16_eq_remainder` says that
the loop of `crc16` computes this, without the register ever growing beyond sixteen bits.
-/

open Polynomial

namespace UhfReader18

/-- The message as a polynomial: its bits in order, the first one for the highest power. -/
noncomputable def messagePolynomial (raw : Bytes) : (ZMod 2)[X] :=
  ShiftRegister.ofMessage (bits raw)

/-- The polynomial of the preset. -/
noncomputable def presetPolynomial : (ZMod 2)[X] := ∑ k ∈ Finset.range 16, X ^ k

noncomputable def crcModulus : (ZMod 2)[X] := X ^ 16 + X ^ 12 + X ^ 5 + 1

/-- The taps are the modulus without its highest power, read backwards. -/
theorem modulus_crcRegister : crcRegister.modulus = crcModulus := by
  have htaps : ∀ k ∈ Finset.range 16,
      ShiftRegister.coefficient (crcPolynomial.testBit (16 - 1 - k)) =
        if k = 0 ∨ k = 5 ∨ k = 12 then 1 else 0 := by decide
  have hlow : ShiftRegister.toPolynomial 16 crcPolynomial = 1 + X ^ 5 + X ^ 12 := by
    rw [ShiftRegister.toPolynomial, Finset.sum_congr rfl fun k hk => by rw [htaps k hk]]
    simp [Finset.sum_range_succ]
  show X ^ 16 + ShiftRegister.toPolynomial 16 crcPolynomial = crcModulus
  rw [hlow, crcModulus]
  ring

theorem toPolynomial_crcPreset :
    ShiftRegister.toPolynomial 16 crcPreset = presetPolynomial := by
  have hones : ∀ k ∈ Finset.range 16,
      ShiftRegister.coefficient (crcPreset.testBit (16 - 1 - k)) = 1 := by decide
  refine Finset.sum_congr rfl fun k hk => ?_
  rw [hones k hk, C_1, one_mul]

/-! ## The register stays small -/

theorem foldl_crcByte_lt (raw : Bytes) : raw.foldl crcByte crcPreset < 2 ^ 16 := by
  rw [foldl_crcByte]
  exact crcRegister.feed_lt (by decide) _

/-- Within a byte: after the byte is mixed in, and after each of the shifts. -/
theorem iterate_crcBit_lt (raw : Bytes) (byte : UInt8) (k : ℕ) :
    crcBit^[k] (raw.foldl crcByte crcPreset ^^^ byte.toNat) < 2 ^ 16 := by
  have hbyte : byte.toNat < 2 ^ 16 := byte.toNat_lt.trans (by decide)
  exact crcRegister.iterate_lt (Nat.xor_lt_two_pow (foldl_crcByte_lt raw) hbyte) k

/-- `crc16` is the remainder of the message, moved up by sixteen and its first sixteen
coefficients flipped, read backwards. Before every byte, when it is mixed in and after every
shift, the register is below `2 ^ 16`. -/
theorem crc16_eq_remainder (raw : Bytes) :
    crc16 raw = ShiftRegister.reversedBits 16
      ((messagePolynomial raw * X ^ 16 + presetPolynomial * X ^ (8 * raw.length)) %ₘ
        crcModulus) ∧
    (∀ before, before <+: raw → before.foldl crcByte crcPreset < 2 ^ 16) ∧
    (∀ before byte after, raw = before ++ byte :: after → ∀ k ≤ 8,
      crcBit^[k] (before.foldl crcByte crcPreset ^^^ byte.toNat) < 2 ^ 16) := by
  refine ⟨?_, fun before _ => foldl_crcByte_lt before,
    fun before byte _ _ k _ => iterate_crcBit_lt before byte k⟩
  have hpreset : crcPreset < 2 ^ crcRegister.width := by decide
  have hfeed := crcRegister.feed_eq_reversedBits hpreset (bits raw)
  rw [modulus_crcRegister, length_bits] at hfeed
  rw [crc16_eq_feed, hfeed, messagePolynomial, ← toPolynomial_crcPreset]
  rfl

end UhfReader18
