import UhfReader18.BitFields
import UhfReader18.Constants

/-!
# The band code

The four bits of a band code stand in the two top bits of two bytes, above the two channel
indices. `FreqBand.pack` writes the bytes and `FreqBand.unpack` reads them. There are six bits
for an index, but `pack` looks at neither of the two: only `bytes` refuses what is no byte. So
an index of more than six bits changes the band code, or is lost in it.

Results:
1. `pack_spec`: `pack` answers exactly when both indices are bytes.
2. `unpack_of_pack`: what is read when it answers, with the bits that leak.
3. `packUndone_iff`: `unpack` undoes `pack` unless `pack` takes an index of more than six bits.
-/

namespace UhfReader18

open BitFields

/-- A code of two bits above an index gives a byte exactly if the index is one. -/
theorem join_byte_iff {code : ℕ} (hcode : code < 4) {index : ℤ} :
    0 ≤ join 6 code index ∧ join 6 code index ≤ 255 ↔ 0 ≤ index ∧ index ≤ 255 := by
  rw [join_nonneg_iff]
  refine and_congr_right fun h0 => ?_
  obtain ⟨n, rfl⟩ := Int.eq_ofNat_of_zero_le h0
  have hlt : join 6 code n < 2 ^ (2 + 6) ↔ n < 2 ^ (2 + 6) :=
    join_lt_iff (show code < 2 ^ 2 from hcode)
  omega

namespace FreqBand

theorem maxIndex_lt (band : FreqBand) : band.maxIndex < 64 := by
  cases band <;> decide

/-- A band code has two bits. The upper bits of the four-bit code are always 0. -/
theorem value_parts (band : FreqBand) :
    band.value >>> 2 = ((0 : ℕ) : ℤ) ∧
      Int.land band.value 0b11 = (band.value.toNat : ℤ) ∧ band.value.toNat < 4 := by
  cases band <;> decide

theorem join_value (band : FreqBand) : join 2 (0 : ℕ) (band.value.toNat : ℤ) = band.value := by
  cases band <;> decide

variable {band : FreqBand} {maxIndex minIndex : ℤ} {maxFre minFre : UInt8}

/-! ## What is packed -/

theorem pack_join (band : FreqBand) (maxIndex minIndex : ℤ) :
    band.pack maxIndex minIndex =
      bytesOf [join 6 (0 : ℕ) maxIndex, join 6 band.value.toNat minIndex] := by
  obtain ⟨hupper, hlower, _⟩ := band.value_parts
  unfold pack
  simp only [hupper, hlower]
  rfl

/-- `pack` takes every index that is a byte, and nothing else. -/
theorem pack_spec (band : FreqBand) (maxIndex minIndex : ℤ) :
    band.pack maxIndex minIndex =
      if (0 ≤ maxIndex ∧ maxIndex ≤ 255) ∧ 0 ≤ minIndex ∧ minIndex ≤ 255 then
        .ok [byteOf (join 6 (0 : ℕ) maxIndex), byteOf (join 6 band.value.toNat minIndex)]
      else .error ⟨.valueError, "bytes must be in range(0, 256)"⟩ := by
  have hrange : (∀ n ∈ [join 6 (0 : ℕ) maxIndex, join 6 band.value.toNat minIndex],
      0 ≤ n ∧ n ≤ 255) ↔ (0 ≤ maxIndex ∧ maxIndex ≤ 255) ∧ 0 ≤ minIndex ∧ minIndex ≤ 255 := by
    simp only [List.forall_mem_cons, join_byte_iff (show 0 < 4 by decide),
      join_byte_iff band.value_parts.2.2, List.not_mem_nil, false_imp_iff, implies_true, and_true]
  rw [band.pack_join, bytesOf]
  exact if_congr hrange rfl rfl

theorem bytes_of_pack {raw : Bytes} (h : band.pack maxIndex minIndex = .ok raw) :
    (0 ≤ maxIndex ∧ maxIndex ≤ 255) ∧ 0 ≤ minIndex ∧ minIndex ≤ 255 := by
  rw [pack_spec] at h
  split at h
  · next hrange => exact hrange
  · cases h

/-- Above indices of six bits, the two halves of the band code stand alone. -/
theorem pack_eq (band : FreqBand) (hmax : 0 ≤ maxIndex ∧ maxIndex < 64)
    (hmin : 0 ≤ minIndex ∧ minIndex < 64) :
    band.pack maxIndex minIndex =
      bytesOf [64 * (band.value / 4) + maxIndex, 64 * (band.value % 4) + minIndex] := by
  obtain ⟨hi, rfl⟩ := Int.eq_ofNat_of_zero_le hmax.1
  obtain ⟨lo, rfl⟩ := Int.eq_ofNat_of_zero_le hmin.1
  have hhi : hi < 2 ^ 6 := Int.ofNat_lt.mp hmax.2
  have hlo : lo < 2 ^ 6 := Int.ofNat_lt.mp hmin.2
  have hdiv : ((0 : ℕ) : ℤ) = band.value / 4 := by cases band <;> rfl
  have hmod : (band.value.toNat : ℤ) = band.value % 4 := by cases band <;> rfl
  rw [pack_join, join_eq_add hhi, join_eq_add hlo, hdiv, hmod]
  rfl

/-! ## What is read -/

theorem unpack_eq (maxFre minFre : ℤ) :
    unpack maxFre minFre =
      (enumOrNone members value (join 2 (upper 6 maxFre) (upper 6 minFre)),
        lower 6 maxFre, lower 6 minFre) :=
  rfl

/-- The bits of an index from the seventh on are read as bits of the band code. -/
theorem unpack_of_pack {hi lo : ℕ} (h : band.pack hi lo = .ok [maxFre, minFre]) :
    unpack (ord maxFre) (ord minFre) =
      (enumOrNone members value (join 2 (hi >>> 6 : ℕ) (band.value.toNat ||| lo >>> 6 : ℕ)),
        ((hi % 64 : ℕ) : ℤ), ((lo % 64 : ℕ) : ℤ)) := by
  rw [pack_join] at h
  obtain ⟨hmax, hmin⟩ : ord maxFre = join 6 (0 : ℕ) hi ∧ ord minFre = join 6 band.value.toNat lo :=
    List.cons_eq_cons.mp (map_ord_of_bytesOf h) |>.imp_right List.head_eq_of_cons_eq
  rw [unpack_eq, hmax, hmin, upper_join, upper_join, lower_join, lower_join, Nat.zero_or]
  rfl

/-- With six bits for each index nothing leaks. -/
theorem unpack_pack (band : FreqBand) (hmax : 0 ≤ maxIndex ∧ maxIndex < 64)
    (hmin : 0 ≤ minIndex ∧ minIndex < 64) :
    ∃ maxFre minFre, band.pack maxIndex minIndex = .ok [maxFre, minFre] ∧
      unpack (ord maxFre) (ord minFre) = (some band, maxIndex, minIndex) := by
  obtain ⟨hi, rfl⟩ := Int.eq_ofNat_of_zero_le hmax.1
  obtain ⟨lo, rfl⟩ := Int.eq_ofNat_of_zero_le hmin.1
  have hhi : hi < 64 := Int.ofNat_lt.mp hmax.2
  have hlo : lo < 64 := Int.ofNat_lt.mp hmin.2
  have hpack := band.pack_spec hi lo
  rw [if_pos (by omega)] at hpack
  refine ⟨_, _, hpack, ?_⟩
  rw [unpack_of_pack hpack, Nat.shiftRight_eq_zero hi 6 hhi, Nat.shiftRight_eq_zero lo 6 hlo,
    Nat.or_zero, join_value, enumOrNone_value value_injective band.mem_members,
    Nat.mod_eq_of_lt hhi, Nat.mod_eq_of_lt hlo]

/-- An index that is given back has the six bits that are read. -/
theorem lt_of_unpack_pack (hpack : band.pack maxIndex minIndex = .ok [maxFre, minFre])
    (h : unpack (ord maxFre) (ord minFre) = (some band, maxIndex, minIndex)) :
    maxIndex < 64 ∧ minIndex < 64 := by
  obtain ⟨hmax, hmin⟩ := bytes_of_pack hpack
  obtain ⟨hi, rfl⟩ := Int.eq_ofNat_of_zero_le hmax.1
  obtain ⟨lo, rfl⟩ := Int.eq_ofNat_of_zero_le hmin.1
  rw [unpack_of_pack hpack, Prod.mk.injEq, Prod.mk.injEq] at h
  obtain ⟨_, hhi, hlo⟩ := h
  rw [← hhi, ← hlo]
  exact ⟨Int.ofNat_lt.mpr (Nat.mod_lt hi (by decide)), Int.ofNat_lt.mpr (Nat.mod_lt lo (by decide))⟩

/-! ## When `unpack` undoes `pack` -/

/-- `pack` raises, or `unpack` gives back the band and both indices; no other band is read. -/
structure PackUndone (band : FreqBand) (maxIndex minIndex : ℤ) : Prop where
  undone : (∃ e, band.pack maxIndex minIndex = .error e) ∨
    ∃ maxFre minFre, band.pack maxIndex minIndex = .ok [maxFre, minFre] ∧
      unpack (ord maxFre) (ord minFre) = (some band, maxIndex, minIndex)
  sameBand : ∀ maxFre minFre other, band.pack maxIndex minIndex = .ok [maxFre, minFre] →
    (unpack (ord maxFre) (ord minFre)).1 = some other → other = band

theorem packUndone_of_error {e : PyError} (h : band.pack maxIndex minIndex = .error e) :
    band.PackUndone maxIndex minIndex where
  undone := .inl ⟨e, h⟩
  sameBand := by
    intro maxFre minFre other hpack
    rw [h] at hpack
    cases hpack

theorem packUndone_of_lt (hmax : 0 ≤ maxIndex ∧ maxIndex < 64)
    (hmin : 0 ≤ minIndex ∧ minIndex < 64) : band.PackUndone maxIndex minIndex := by
  obtain ⟨maxFre, minFre, hpack, hunpack⟩ := band.unpack_pack hmax hmin
  refine ⟨.inr ⟨maxFre, minFre, hpack, hunpack⟩, ?_⟩
  intro maxFre' minFre' other hpack' hother
  rw [hpack] at hpack'
  cases hpack'
  rw [hunpack] at hother
  exact (Option.some.inj hother).symm

/-- `unpack` undoes `pack` exactly when an index is no byte, so that there is nothing to undo,
or both indices have six bits. -/
theorem packUndone_iff (band : FreqBand) (maxIndex minIndex : ℤ) :
    band.PackUndone maxIndex minIndex ↔
      (maxIndex < 0 ∨ 255 < maxIndex ∨ minIndex < 0 ∨ 255 < minIndex) ∨
        (0 ≤ maxIndex ∧ maxIndex < 64) ∧ 0 ≤ minIndex ∧ minIndex < 64 := by
  constructor
  · rintro ⟨⟨e, herror⟩ | ⟨maxFre, minFre, hpack, hunpack⟩, _⟩
    · left
      by_contra hrange
      rw [pack_spec, if_pos (by omega)] at herror
      cases herror
    · right
      obtain ⟨hmax, hmin⟩ := bytes_of_pack hpack
      obtain ⟨hhi, hlo⟩ := lt_of_unpack_pack hpack hunpack
      exact ⟨⟨hmax.1, hhi⟩, hmin.1, hlo⟩
  · rintro (hrange | ⟨hmax, hmin⟩)
    · have herror := band.pack_spec maxIndex minIndex
      rw [if_neg (by omega)] at herror
      exact packUndone_of_error herror
    · exact packUndone_of_lt hmax hmin

/-- A minimal index of 64 turns the user band into the Chinese one. -/
theorem not_packUndone :
    user.pack 0 64 = .ok [0, 64] ∧ unpack (ord 0) (ord 64) = (some chinese2, 0, 0) ∧
      ¬ user.PackUndone 0 64 := by
  have hpack : user.pack 0 64 = .ok [0, 64] := by decide
  have hunpack : unpack (ord 0) (ord 64) = (some chinese2, 0, 0) := by decide
  refine ⟨hpack, hunpack, fun h => ?_⟩
  have hother : chinese2 = user := h.sameBand 0 64 chinese2 hpack (congrArg Prod.fst hunpack)
  cases hother

end FreqBand

end UhfReader18
