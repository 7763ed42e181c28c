import Mathlib.Data.Int.Bitwise
import Mathlib.Tactic.Common

/-!
# Two numbers in the bits of one

A program keeps two numbers in one as `code << width | index` and reads them back with a shift
and a mask. Its integers have no size, and the `|` does not cut the index to its `width` bits:
the bits of a larger index fall on those of the code, and a negative index has all of them.

Results:
1. `upper_join`, `lower_join`: what is read back.
2. `join_eq_add`: with an index of `width` bits, `|` is a sum.
3. `join_nonneg_iff`, `join_lt_iff`: the sign and the size of the result are those of the index.
-/

namespace BitFields

/-- `code << width | index`. -/
def join (width : ℕ) (code index : ℤ) : ℤ :=
  Int.lor (code <<< (width : ℤ)) index

/-- `n >> width`. -/
def upper (width : ℕ) (n : ℤ) : ℤ :=
  n >>> (width : ℤ)

/-- `n & mask`, the mask having `width` bits. -/
def lower (width : ℕ) (n : ℤ) : ℤ :=
  Int.land n (2 ^ width - 1 : ℕ)

variable {width : ℕ} {code index : ℕ}

theorem join_natCast : join width code index = (code <<< width ||| index : ℕ) := by
  rw [join, Int.shiftLeft_natCast]
  rfl

theorem upper_natCast : upper width index = (index >>> width : ℕ) :=
  Int.shiftRight_natCast index width

theorem lower_natCast : lower width index = (index % 2 ^ width : ℕ) := by
  show ((index &&& 2 ^ width - 1 : ℕ) : ℤ) = (index % 2 ^ width : ℕ)
  rw [Nat.and_two_pow_sub_one_eq_mod]

/-! ## What is read back -/

/-- The upper bits of the index fall on the code. -/
theorem upper_join : upper width (join width code index) = (code ||| index >>> width : ℕ) := by
  rw [join_natCast, upper_natCast, Nat.shiftRight_or_distrib, Nat.shiftLeft_shiftRight]

theorem lower_join : lower width (join width code index) = (index % 2 ^ width : ℕ) := by
  have hcode : code <<< width % 2 ^ width = 0 := by
    rw [Nat.shiftLeft_eq, Nat.mul_mod_left]
  rw [join_natCast, lower_natCast, Nat.or_mod_two_pow, hcode, Nat.zero_or]

/-- An index of `width` bits leaves those of the code alone. -/
theorem join_eq_add (h : index < 2 ^ width) : join width code index = 2 ^ width * code + index := by
  rw [join_natCast, ← Nat.shiftLeft_add_eq_or_of_lt h, Nat.shiftLeft_eq, Nat.mul_comm]
  push_cast
  rfl

/-! ## How large the result is -/

/-- The sign of the index is the sign of the result. -/
theorem join_nonneg_iff {index : ℤ} : 0 ≤ join width code index ↔ 0 ≤ index := by
  cases index with
  | ofNat n =>
    have hjoin : 0 ≤ join width code n := by
      rw [join_natCast]
      exact Int.natCast_nonneg _
    exact iff_of_true hjoin (Int.natCast_nonneg n)
  | negSucc n =>
    have hjoin : join width code (Int.negSucc n) =
        Int.negSucc (Nat.ldiff n (code <<< width)) := by
      rw [join, Int.shiftLeft_natCast]
      rfl
    rw [hjoin]
    exact iff_of_false (Int.negSucc_not_nonneg _).mp (Int.negSucc_not_nonneg _).mp

/-- A code of `size` bits leaves the size of the result to the index. -/
theorem join_lt_iff {size : ℕ} (hcode : code < 2 ^ size) :
    join width code index < 2 ^ (size + width) ↔ index < 2 ^ (size + width) := by
  have hshift : code <<< width < 2 ^ (size + width) := by
    rw [Nat.shiftLeft_eq, Nat.pow_add]
    exact Nat.mul_lt_mul_of_pos_right hcode (Nat.two_pow_pos width)
  have hbits : (code <<< width ||| index) < 2 ^ (size + width) ↔ index < 2 ^ (size + width) :=
    ⟨lt_of_le_of_lt Nat.right_le_or, Nat.or_lt_two_pow hshift⟩
  rw [join_natCast, ← hbits]
  exact_mod_cast Iff.rfl

end BitFields
