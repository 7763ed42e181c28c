import Mathlib.Algebra.CharP.Two
import Mathlib.Algebra.Field.ZMod
import Mathlib.Algebra.Polynomial.Div
import UhfReader18.ShiftRegister

/-!
# Shift registers as polynomial division

The bits of a register are the coefficients of a polynomial over the field of two elements,
the lowest bit belonging to the highest power. A shift is then a multiplication by `X`, and
flipping the taps takes away the modulus as soon as the product has its degree. Feeding a
message therefore divides: what is in the register is the remainder.

Results:
1. `toPolynomial_step`: a shift multiplies by `X` modulo `modulus`.
2. `toPolynomial_feed`: the register is a remainder of the message behind what was in it.
3. `feed_eq_reversedBits`: the number in the register is this remainder, read backwards.
-/

open Polynomial

namespace ShiftRegister

/-- A bit as a coefficient. -/
def coefficient (b : Bool) : ZMod 2 := b.toNat

theorem coefficient_xor (a b : Bool) :
    coefficient (xor a b) = coefficient a + coefficient b := by
  cases a <;> cases b <;> rfl

theorem coefficient_and (a b : Bool) :
    coefficient (a && b) = coefficient a * coefficient b := by
  cases a <;> cases b <;> rfl

@[simp]
theorem decide_coefficient (b : Bool) : decide (coefficient b = 1) = b := by
  cases b <;> rfl

/-- The polynomial of a number of `width` bits, the lowest bit for the highest power. -/
noncomputable def toPolynomial (width r : ℕ) : (ZMod 2)[X] :=
  ∑ k ∈ Finset.range width, C (coefficient (r.testBit (width - 1 - k))) * X ^ k

/-- The polynomial of a list of bits, the first bit for the highest power. -/
noncomputable def ofMessage : List Bool → (ZMod 2)[X]
  | [] => 0
  | b :: bits => C (coefficient b) * X ^ bits.length + ofMessage bits

/-- The number whose lowest bit is the coefficient of the highest of `width` powers. -/
noncomputable def reversedBits (width : ℕ) (p : (ZMod 2)[X]) : ℕ :=
  ofBits ((List.range width).map fun i => decide (p.coeff (width - 1 - i) = 1))

theorem coeff_toPolynomial (width r n : ℕ) :
    (toPolynomial width r).coeff n =
      if n < width then coefficient (r.testBit (width - 1 - n)) else 0 := by
  simp [toPolynomial, coeff_X_pow]

theorem degree_toPolynomial_lt (width r : ℕ) : (toPolynomial width r).degree < width := by
  rw [degree_lt_iff_coeff_zero]
  intro n hn
  rw [coeff_toPolynomial, if_neg (Nat.not_lt.mpr hn)]

@[simp]
theorem toPolynomial_zero (width : ℕ) : toPolynomial width 0 = 0 := by
  simp [toPolynomial, coefficient]

theorem toPolynomial_xor (width r s : ℕ) :
    toPolynomial width (r ^^^ s) = toPolynomial width r + toPolynomial width s := by
  ext n
  rw [coeff_add, coeff_toPolynomial, coeff_toPolynomial, coeff_toPolynomial]
  split
  · rw [Nat.testBit_xor, coefficient_xor]
  · rw [add_zero]

theorem reversedBits_toPolynomial {width r : ℕ} (h : r < 2 ^ width) :
    reversedBits width (toPolynomial width r) = r := by
  have hbits : ∀ i ∈ List.range width,
      decide ((toPolynomial width r).coeff (width - 1 - i) = 1) = r.testBit i := by
    intro i hi
    have hlt : i < width := List.mem_range.mp hi
    have hback : width - 1 - (width - 1 - i) = i := by omega
    rw [coeff_toPolynomial, if_pos (by omega), decide_coefficient, hback]
  have hlow := ofBits_map_testBit_append h []
  rw [List.append_nil] at hlow
  rw [reversedBits, List.map_congr_left hbits, hlow]
  rfl

variable (reg : ShiftRegister)

/-- What the register divides by. -/
noncomputable def modulus : (ZMod 2)[X] := X ^ reg.width + toPolynomial reg.width reg.taps

theorem monic_modulus : reg.modulus.Monic :=
  monic_X_pow_add (degree_toPolynomial_lt _ _)

theorem degree_modulus : reg.modulus.degree = reg.width := by
  rw [modulus, degree_add_eq_left_of_degree_lt, degree_X_pow]
  rw [degree_X_pow]
  exact degree_toPolynomial_lt _ _

/-- A bit that is fed in is added for the highest power. -/
theorem toPolynomial_toNat (b : Bool) :
    X * toPolynomial reg.width b.toNat = C (coefficient b) * X ^ reg.width := by
  obtain ⟨n, hn⟩ : ∃ n, reg.width = n + 1 := ⟨_, (Nat.sub_add_cancel reg.pos).symm⟩
  cases b with
  | false => simp [coefficient]
  | true =>
    have hone : toPolynomial (n + 1) 1 = X ^ n := by
      ext k
      rw [coeff_toPolynomial, coeff_X_pow]
      rcases Nat.lt_trichotomy k n with hlt | rfl | hgt
      · have hbit : Nat.testBit 1 (n + 1 - 1 - k) = false :=
          Nat.testBit_lt_two_pow (Nat.one_lt_two_pow (by omega))
        rw [if_pos (Nat.lt_succ_of_lt hlt), if_neg hlt.ne, hbit]
        rfl
      · simp [coefficient]
      · rw [if_neg (by omega), if_neg hgt.ne']
    rw [hn, Bool.toNat_true, hone, pow_succ']
    simp [coefficient]

/-- A shift multiplies by `X` and takes the modulus away if the product has its degree. -/
theorem toPolynomial_step {r : ℕ} (h : r < 2 ^ reg.width) :
    toPolynomial reg.width (reg.step r) =
      X * toPolynomial reg.width r + C (coefficient (r.testBit 0)) * reg.modulus := by
  have hlost : r.testBit reg.width = false := Nat.testBit_lt_two_pow h
  ext k
  rw [coeff_add, coeff_C_mul, modulus, coeff_add, coeff_X_pow, coeff_toPolynomial,
    coeff_toPolynomial]
  simp only [testBit_step, coefficient_xor, coefficient_and]
  cases k with
  | zero =>
    -- the highest bit of the register is empty after the shift, so it is that of the taps
    rw [coeff_X_mul_zero, if_pos reg.pos, if_neg reg.pos.ne]
    have htop : reg.width - 1 - 0 + 1 = reg.width := Nat.sub_add_cancel reg.pos
    rw [htop, hlost, zero_add, if_pos reg.pos]
    simp [coefficient]
  | succ k =>
    rw [coeff_X_mul, coeff_toPolynomial]
    rcases Nat.lt_trichotomy (k + 1) reg.width with hlt | heq | hgt
    · have hbit : reg.width - 1 - (k + 1) + 1 = reg.width - 1 - k := by omega
      rw [if_pos hlt, if_pos hlt, if_neg hlt.ne, if_pos (Nat.lt_of_succ_lt hlt), zero_add, hbit]
    · -- the power of the modulus: both bits are the one that leaves the register
      have hlow : reg.width - 1 - k = 0 := by omega
      rw [if_neg heq.not_lt, if_neg heq.not_lt, if_pos heq, if_pos (by omega), hlow, add_zero,
        mul_one, CharTwo.add_self_eq_zero]
    · rw [if_neg hgt.not_gt, if_neg hgt.not_gt, if_neg hgt.ne', if_neg (by omega), add_zero,
        mul_zero, add_zero]

/-- Feeding one bit. -/
theorem toPolynomial_feed_bit {r : ℕ} (h : r < 2 ^ reg.width) (b : Bool) :
    ∃ c, toPolynomial reg.width (reg.step (r ^^^ b.toNat)) =
      X * toPolynomial reg.width r + C (coefficient b) * X ^ reg.width + c * reg.modulus := by
  refine ⟨C (coefficient ((r ^^^ b.toNat).testBit 0)), ?_⟩
  rw [reg.toPolynomial_step (Nat.xor_lt_two_pow h (reg.toNat_lt b)), toPolynomial_xor, mul_add,
    toPolynomial_toNat]

/-- What is in the register differs from the message, put behind what was in it and moved up
by the width of the register, by a multiple of the modulus. -/
theorem exists_toPolynomial_feed {r : ℕ} (h : r < 2 ^ reg.width) (bits : List Bool) :
    ∃ q, toPolynomial reg.width (reg.feed r bits) + reg.modulus * q =
      ofMessage bits * X ^ reg.width + toPolynomial reg.width r * X ^ bits.length := by
  induction bits generalizing r with
  | nil => exact ⟨0, by simp [feed, ofMessage]⟩
  | cons b bits ih =>
    obtain ⟨q, hq⟩ := ih (reg.step_lt (Nat.xor_lt_two_pow h (reg.toNat_lt b)))
    obtain ⟨c, hc⟩ := reg.toPolynomial_feed_bit h b
    refine ⟨q - c * X ^ bits.length, ?_⟩
    show toPolynomial reg.width (reg.feed (reg.step (r ^^^ b.toNat)) bits) + _ = _
    rw [mul_sub, ← add_sub_assoc, hq, hc, ofMessage, List.length_cons]
    ring

/-- The register is the remainder of the message behind what was in it. -/
theorem toPolynomial_feed {r : ℕ} (h : r < 2 ^ reg.width) (bits : List Bool) :
    toPolynomial reg.width (reg.feed r bits) =
      (ofMessage bits * X ^ reg.width + toPolynomial reg.width r * X ^ bits.length) %ₘ
        reg.modulus := by
  obtain ⟨q, hq⟩ := reg.exists_toPolynomial_feed h bits
  have hdegree : (toPolynomial reg.width (reg.feed r bits)).degree < reg.modulus.degree := by
    rw [degree_modulus]
    exact degree_toPolynomial_lt _ _
  exact (div_modByMonic_unique q _ reg.monic_modulus ⟨hq, hdegree⟩).2.symm

/-- The number in the register is the remainder, read backwards. -/
theorem feed_eq_reversedBits {r : ℕ} (h : r < 2 ^ reg.width) (bits : List Bool) :
    reg.feed r bits = reversedBits reg.width
      ((ofMessage bits * X ^ reg.width + toPolynomial reg.width r * X ^ bits.length) %ₘ
        reg.modulus) := by
  rw [← reg.toPolynomial_feed h, reversedBits_toPolynomial (reg.feed_lt h bits)]

end ShiftRegister
