import UhfReader18.Python

/-!
# The CRC-16 of the frames

The source keeps the register in an unbounded integer, so the register is a
natural number here.
-/

namespace UhfReader18

def crcPreset : ℕ := 0xFFFF
def crcPolynomial : ℕ := 0x8408

/-- One pass of the inner loop of `crc16`. -/
def crcBit (crc : ℕ) : ℕ :=
  if crc &&& 1 ≠ 0 then (crc >>> 1) ^^^ crcPolynomial else crc >>> 1

/-- One pass of the outer loop: a byte is mixed in and shifted through. -/
def crcByte (crc : ℕ) (byte : UInt8) : ℕ :=
  crcBit^[8] (crc ^^^ byte.toNat)

def crc16 (data : Bytes) : ℕ :=
  data.foldl crcByte crcPreset &&& 0xFFFF

theorem crc16_lt (data : Bytes) : crc16 data < 256 ^ 2 := by
  have h : crc16 data ≤ 0xFFFF := Nat.and_le_right
  omega

/-- The published check value of the CRC. -/
example : crc16 [0x31, 0x32, 0x33, 0x34, 0x35, 0x36, 0x37, 0x38, 0x39] = 0x6F91 := by
  decide +kernel

end UhfReader18
