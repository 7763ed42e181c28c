import UhfReader18.Frame
import UhfReader18.ShiftRegister

/-!
# What the CRC detects

The inner loop of `crc16` is a shift register, and the whole of it feeds the bits of the
bytes into that register, the lowest bit of a byte first. A frame with its CRC leaves the
register empty.

Results:
1. `crc16_eq_zero_iff`: the register is empty exactly after the CRC of what came before.
2. `residue_rule`: comparing the CRC is the same as testing for an empty register.
3. `validateFrame_detects`: which damage to a frame cannot go unnoticed.
-/

namespace UhfReader18

/-! ## The register -/

/-- The register of `crc16`. -/
def crcRegister : ShiftRegister where
  width := 16
  taps := crcPolynomial
  pos := by decide
  top := by decide
  fits := by decide

/-- The bits of a byte string: bytes in order, the lowest bit of a byte first. -/
def bits (raw : Bytes) : List Bool :=
  raw.flatMap fun b => (List.range 8).map b.toNat.testBit

theorem bits_cons (b : UInt8) (raw : Bytes) :
    bits (b :: raw) = (List.range 8).map b.toNat.testBit ++ bits raw :=
  List.flatMap_cons

theorem bits_append (raw raw' : Bytes) : bits (raw ++ raw') = bits raw ++ bits raw' :=
  List.flatMap_append

@[simp]
theorem length_bits (raw : Bytes) : (bits raw).length = 8 * raw.length := by
  induction raw with
  | nil => rfl
  | cons b raw ih =>
    rw [bits_cons, List.length_append, List.length_map, List.length_range, ih, List.length_cons]
    omega

theorem ofBits_bits (raw : Bytes) : ShiftRegister.ofBits (bits raw) = fromBytesLittle raw := by
  induction raw with
  | nil => rfl
  | cons b raw ih =>
    rw [bits_cons, ShiftRegister.ofBits_map_testBit_append b.toNat_lt, ih]
    rfl

/-- One pass of the outer loop feeds the bits of a byte. -/
theorem crcByte_eq_feed (crc : ℕ) (b : UInt8) :
    crcByte crc b = crcRegister.feed crc (bits [b]) := by
  rw [ShiftRegister.feed_eq_iterate, ofBits_bits, length_bits]
  rfl

theorem foldl_crcByte (crc : ℕ) (raw : Bytes) :
    raw.foldl crcByte crc = crcRegister.feed crc (bits raw) := by
  induction raw generalizing crc with
  | nil => rfl
  | cons b raw ih =>
    rw [List.foldl_cons, ih, crcByte_eq_feed, ← ShiftRegister.feed_append, ← bits_append]
    rfl

/-- `crc16` feeds all bits into the register; the mask at the end changes nothing. -/
theorem crc16_eq_feed (raw : Bytes) : crc16 raw = crcRegister.feed crcPreset (bits raw) := by
  have hlt : crcRegister.feed crcPreset (bits raw) < 2 ^ 16 :=
    crcRegister.feed_lt (by decide) _
  rw [crc16, foldl_crcByte]
  exact (Nat.and_two_pow_sub_one_eq_mod _ 16).trans (Nat.mod_eq_of_lt hlt)

/-! ## The residue -/

theorem crc16_append (raw tail : Bytes) :
    crc16 (raw ++ tail) = crcRegister.feed (crc16 raw) (bits tail) := by
  rw [crc16_eq_feed, crc16_eq_feed, bits_append, ShiftRegister.feed_append]

/-- The register is empty exactly after the CRC of what came before. -/
theorem crc16_append_eq_zero_iff (raw : Bytes) {tail : Bytes} (htail : tail.length = 2) :
    crc16 (raw ++ tail) = 0 ↔ fromBytesLittle tail = crc16 raw := by
  have hwidth : (bits tail).length ≤ crcRegister.width := by
    rw [length_bits, htail]
    exact le_rfl
  rw [crc16_append, crcRegister.feed_eq_zero_iff (crc16_lt raw) hwidth, ofBits_bits]

theorem crc16_eq_zero_iff {raw : Bytes} (hlen : 2 ≤ raw.length) :
    crc16 raw = 0 ↔
      fromBytesLittle (raw.drop (raw.length - 2)) = crc16 (raw.take (raw.length - 2)) := by
  have htail : (raw.drop (raw.length - 2)).length = 2 := by
    rw [List.length_drop, Nat.sub_sub_self hlen]
  rw [← crc16_append_eq_zero_iff _ htail, List.take_append_drop]

theorem crc16_withCrc (payload : Bytes) : crc16 (withCrc payload) = 0 := by
  rw [withCrc, crc16_append_eq_zero_iff _ (length_littleEndian 2 _),
    fromBytesLittle_littleEndian (crc16_lt payload)]

/-- The library compares a received CRC with a computed one, the reader tests the residue:
the two rules are the same on every byte string, every frame that is built has residue zero,
and among strings whose length byte is at least `minFrameLength` and one less than their length,
which is what `validateFrame` asks of it, exactly those with residue zero are accepted. -/
theorem residue_rule :
    (∀ raw : Bytes, 2 ≤ raw.length →
      (crc16 raw = 0 ↔
        fromBytesLittle (raw.drop (raw.length - 2)) = crc16 (raw.take (raw.length - 2)))) ∧
    (∀ address command data raw, buildCommandFrame address command data = .ok raw →
      crc16 raw = 0) ∧
    (∀ readerAddress command status data raw,
      buildResponseFrame readerAddress command status data = .ok raw → crc16 raw = 0) ∧
    ∀ (first : UInt8) (tail : Bytes), minFrameLength ≤ ord first →
      ((first :: tail).length : ℤ) = ord first + 1 →
      ((∃ response, validateFrame (first :: tail) = .ok response) ↔
        crc16 (first :: tail) = 0) := by
  refine ⟨fun raw hlen => crc16_eq_zero_iff hlen, ?_, ?_, ?_⟩
  · intro address command data raw h
    rcases buildCommandFrame_cases address command data with
      ⟨f, rfl, rfl, rfl⟩ | ⟨_, text, he⟩
    · rw [buildCommandFrame_raw] at h
      cases h
      exact crc16_withCrc f.payload
    · rw [he] at h
      cases h
  · intro readerAddress command status data raw h
    obtain ⟨f, _, _, _, _, rfl⟩ := buildResponseFrame_ok_iff.mp h
    exact crc16_withCrc f.payload
  · intro first tail hmin htotal
    constructor
    · rintro ⟨response, h⟩
      obtain ⟨f, hraw, _⟩ := validateFrame_ok_iff.mp h
      rw [hraw]
      exact crc16_withCrc f.payload
    · intro hzero
      have hlen : 2 ≤ (first :: tail).length := by
        unfold minFrameLength at hmin
        omega
      obtain ⟨f, hraw⟩ := exists_raw hmin htotal ((crc16_eq_zero_iff hlen).mp hzero)
      exact ⟨_, hraw ▸ validateFrame_raw f⟩

/-! ## Damaged frames -/

/-- The polynomial has an odd number of taps: it is divisible by `x + 1`. -/
theorem parity_crcRegister : ShiftRegister.parity crcRegister.width crcRegister.taps = true := by
  decide

/-- The register of a one does not come back to one within the bits of the longest frame. -/
theorem avoidsOne_crcRegister : crcRegister.avoidsOne 2047 1 = true := by
  decide +kernel

/-- Damage that cannot go unnoticed: up to three bits, any odd number of bits, and any number
of bits within 16 consecutive positions. -/
theorem validateFrame_detects (raw raw' : Bytes) (response : RfidResponse)
    (hvalid : validateFrame raw = .ok response) (hlen : raw'.length = raw.length)
    (hdamage : let flipped := ShiftRegister.differing (bits raw) (bits raw')
      flipped.card = 1 ∨ flipped.card = 2 ∨ flipped.card = 3 ∨ Odd flipped.card ∨
        flipped.Nonempty ∧ ∃ start, ∀ i ∈ flipped, start ≤ i ∧ i < start + 16) :
    ∃ text, validateFrame raw' = .error ⟨.frameError, text⟩ := by
  obtain ⟨f, rfl, rfl⟩ := validateFrame_ok_iff.mp hvalid
  rcases validateFrame_cases raw' with ⟨f', rfl⟩ | herror
  swap
  · exact herror
  exfalso
  have hempty : crcRegister.feed crcPreset (bits f.raw) = 0 := by
    rw [← crc16_eq_feed]
    exact crc16_withCrc f.payload
  have hempty' : crcRegister.feed crcPreset (bits f'.raw) = 0 := by
    rw [← crc16_eq_feed]
    exact crc16_withCrc f'.payload
  have hbits : (bits f.raw).length = (bits f'.raw).length := by
    rw [length_bits, length_bits, hlen]
  have hshort : (bits f.raw).length ≤ 2047 + 1 := by
    have hfits := f.fits
    rw [length_bits, f.length_raw]
    omega
  refine crcRegister.feed_ne_zero parity_crcRegister avoidsOne_crcRegister hbits hshort hempty ?_
    hempty'
  rcases hdamage with hone | htwo | hthree | hodd | hburst
  · exact Or.inr (Or.inl (hone ▸ by decide))
  · exact Or.inl htwo
  · exact Or.inr (Or.inl (hthree ▸ by decide))
  · exact Or.inr (Or.inl hodd)
  · exact Or.inr (Or.inr hburst)

/-- A bit of the status and a bit of the CRC are flipped. -/
theorem validateFrame_detects_two_bits :
    ∃ text, validateFrame [0x05, 0x01, 0x0F, 0x01, 0x62, 0x34] = .error ⟨.frameError, text⟩ :=
  validateFrame_detects [0x05, 0x01, 0x0F, 0x00, 0x62, 0xB4] _
    { length := 5, readerAddress := 1, command := 0x0F, status := 0, data := [], crc := 0xB462 }
    (by decide +kernel) rfl (Or.inr (Or.inl (by decide +kernel)))

end UhfReader18
