import Mathlib.Data.List.DropRight
import UhfReader18.Python

/-!
# Python text

Strings as the package reads and writes them: `str` and `int`, `repr`, ASCII, and the
addresses of `ipaddress`. A string is a list of characters.

Results:
1. `pyInt_intText`: `int` reads what `str` writes.
2. `IPv4Address.parse_text`: an address is read back from its text.
3. `decodeAscii_encodeAscii`: ASCII survives the wire.
-/

namespace UhfReader18

/-- A Python `str`. -/
abbrev Text := List Char

/-! ## Integers -/

/-- The zeros of Unicode 14. Each is followed by the other nine digits of its script. -/
def decimalZeros : List ℕ :=
  [0x30, 0x660, 0x6F0, 0x7C0, 0x966, 0x9E6, 0xA66, 0xAE6, 0xB66, 0xBE6, 0xC66, 0xCE6, 0xD66,
   0xDE6, 0xE50, 0xED0, 0xF20, 0x1040, 0x1090, 0x17E0, 0x1810, 0x1946, 0x19D0, 0x1A80, 0x1A90,
   0x1B50, 0x1BB0, 0x1C40, 0x1C50, 0xA620, 0xA8D0, 0xA900, 0xA9D0, 0xA9F0, 0xAA50, 0xABF0,
   0xFF10, 0x104A0, 0x10D30, 0x11066, 0x110F0, 0x11136, 0x111D0, 0x112F0, 0x11450, 0x114D0,
   0x11650, 0x116C0, 0x11730, 0x118E0, 0x11950, 0x11C50, 0x11D50, 0x11DA0, 0x16A60, 0x16AC0,
   0x16B50, 0x1D7CE, 0x1D7D8, 0x1D7E2, 0x1D7EC, 0x1D7F6, 0x1E140, 0x1E2F0, 0x1E950, 0x1FBF0]

/-- The white space of Unicode outside ASCII. -/
def isUnicodeSpace (c : Char) : Bool :=
  c.toNat ∈ [0x85, 0xA0, 0x1680, 0x2028, 0x2029, 0x202F, 0x205F, 0x3000] ∨
    0x2000 ≤ c.toNat ∧ c.toNat ≤ 0x200A

/-- What `int` sees of a character. -/
def toAscii (c : Char) : Char :=
  if c.toNat < 127 then c
  else if isUnicodeSpace c then ' '
  else
    match decimalZeros.find? fun first => first ≤ c.toNat ∧ c.toNat < first + 10 with
    | some first => Nat.digitChar (c.toNat - first)
    | none => '?'

/-- The white space `int` skips: tab to carriage return, and the space. -/
def isSpace (c : Char) : Bool :=
  c = ' ' ∨ 9 ≤ c.toNat ∧ c.toNat ≤ 13

/-- Integers with more digits are not converted, either way. -/
def maxStrDigits : ℕ := 4300

/-- A sign, and what follows it. -/
def splitSign : Text → Bool × Text
  | '-' :: digits => (true, digits)
  | '+' :: digits => (false, digits)
  | digits => (false, digits)

/-- Decimal digits, between which single underscores may stand. -/
def natOfDigits (digits : Text) : Option ℕ :=
  let groups := digits.splitOn '_'
  if groups.all (fun group => group ≠ [] ∧ group.all Char.isDigit) ∧
      groups.flatten.length ≤ maxStrDigits then
    some (Nat.ofDigitChars 10 groups.flatten 0)
  else none

/-- `int(text)`; `none` where it raises `ValueError`. -/
def pyInt (text : Text) : Option ℤ :=
  let (negative, digits) := splitSign (((text.map toAscii).dropWhile isSpace).rdropWhile isSpace)
  (natOfDigits digits).map fun n => if negative then -(n : ℤ) else n

/-- The decimal digits of an integer. -/
def intText (n : ℤ) : Text :=
  if n < 0 then '-' :: Nat.toDigits 10 n.natAbs else Nat.toDigits 10 n.natAbs

/-- `str(n)`. -/
def strInt (n : ℤ) : Except PyError Text :=
  if (Nat.toDigits 10 n.natAbs).length ≤ maxStrDigits then .ok (intText n)
  else .error ⟨.valueError, "Exceeds the limit (4300 digits) for integer string conversion"⟩

theorem natOfDigits_toDigits {n : ℕ} (h : (Nat.toDigits 10 n).length ≤ maxStrDigits) :
    natOfDigits (Nat.toDigits 10 n) = some n := by
  have hgroups : (Nat.toDigits 10 n).splitOn '_' = [Nat.toDigits 10 n] :=
    List.splitOn_eq_singleton Nat.underscore_not_in_toDigits
  have hdigits : ∀ c ∈ Nat.toDigits 10 n, c.isDigit :=
    fun c hc => Nat.isDigit_of_mem_toDigits (by decide) (by decide) hc
  have hvalid : [Nat.toDigits 10 n].all (fun group => group ≠ [] ∧ group.all Char.isDigit) ∧
      [Nat.toDigits 10 n].flatten.length ≤ maxStrDigits := by
    rw [List.flatten_singleton, List.all_eq_true, List.forall_mem_singleton, decide_eq_true_eq]
    exact ⟨⟨Nat.toDigits_ne_nil, List.all_eq_true.mpr hdigits⟩, h⟩
  simp only [natOfDigits, hgroups]
  rw [if_pos hvalid, List.flatten_singleton, Nat.ofDigitChars_ten_toDigits]

theorem mem_intText {n : ℤ} {c : Char} (h : c ∈ intText n) : c = '-' ∨ c.isDigit := by
  have hdigit : ∀ c ∈ Nat.toDigits 10 n.natAbs, c.isDigit :=
    fun c hc => Nat.isDigit_of_mem_toDigits (by decide) (by decide) hc
  unfold intText at h
  split at h
  · exact (List.mem_cons.mp h).imp_right (hdigit c)
  · exact Or.inr (hdigit c h)

theorem isDigit_bounds {c : Char} (h : c.isDigit) : 48 ≤ c.toNat ∧ c.toNat ≤ 57 :=
  Char.isDigit_iff_toNat.mp h

/-- The characters of a number are plain. -/
theorem intText_bounds {n : ℤ} {c : Char} (h : c ∈ intText n) : 33 ≤ c.toNat ∧ c.toNat < 124 := by
  rcases mem_intText h with rfl | hdigit
  · decide
  · have := isDigit_bounds hdigit
    omega

theorem splitSign_intText (n : ℤ) :
    splitSign (intText n) = (decide (n < 0), Nat.toDigits 10 n.natAbs) := by
  unfold intText
  split
  · next hneg => simp [splitSign, hneg]
  · next hpos =>
    cases hdigits : Nat.toDigits 10 n.natAbs with
    | nil => exact absurd hdigits Nat.toDigits_ne_nil
    | cons c digits =>
      have hdigit : c.isDigit :=
        Nat.isDigit_of_mem_toDigits (by decide) (by decide) (hdigits ▸ List.mem_cons_self)
      unfold splitSign
      split
      · next heq => cases heq; exact absurd hdigit (by decide)
      · next heq => cases heq; exact absurd hdigit (by decide)
      · simp [hpos]

/-- `int` reads back what `str` writes. -/
theorem pyInt_intText {n : ℤ} {text : Text} (h : strInt n = .ok text) :
    text = intText n ∧ pyInt text = some n := by
  unfold strInt at h
  split at h
  · next hlength =>
    cases h
    refine ⟨rfl, ?_⟩
    have hplain : (intText n).map toAscii = intText n := by
      refine (List.map_congr_left fun c hc => ?_).trans (List.map_id _)
      have hbounds := intText_bounds hc
      exact if_pos (by omega)
    have hnospace : ∀ c ∈ intText n, ¬ isSpace c := by
      intro c hc
      have hbounds := intText_bounds hc
      have hspace : c ≠ ' ' := by
        rintro rfl
        exact absurd hbounds.1 (by decide)
      simp only [isSpace, hspace, false_or, decide_eq_true_eq]
      omega
    have hstart : (intText n).dropWhile isSpace = intText n :=
      List.dropWhile_eq_self_iff.mpr fun hlen => hnospace _ (List.getElem_mem hlen)
    have hend : (intText n).rdropWhile isSpace = intText n :=
      List.rdropWhile_eq_self_iff.mpr fun hne => hnospace _ (List.getLast_mem hne)
    simp only [pyInt, hplain, hstart, hend, splitSign_intText, natOfDigits_toDigits hlength,
      decide_eq_true_eq]
    split
    · exact congrArg some (show -(n.natAbs : ℤ) = n by omega)
    · exact congrArg some (show (n.natAbs : ℤ) = n by omega)
  · cases h

theorem ofDigitChars_lt {digits : Text} (h : ∀ c ∈ digits, c.isDigit) (init : ℕ) :
    Nat.ofDigitChars 10 digits init < (init + 1) * 10 ^ digits.length := by
  induction digits generalizing init with
  | nil =>
    rw [Nat.ofDigitChars_nil, List.length_nil]
    omega
  | cons c digits ih =>
    rw [List.forall_mem_cons] at h
    have hbounds := isDigit_bounds h.1
    have hzero : '0'.toNat = 48 := rfl
    have hnext : 10 * init + (c.toNat - '0'.toNat) + 1 ≤ (init + 1) * 10 := by omega
    rw [Nat.ofDigitChars_cons, List.length_cons, Nat.pow_succ']
    calc Nat.ofDigitChars 10 digits (10 * init + (c.toNat - '0'.toNat))
        < (10 * init + (c.toNat - '0'.toNat) + 1) * 10 ^ digits.length := ih h.2 _
      _ ≤ (init + 1) * 10 * 10 ^ digits.length := Nat.mul_le_mul_right _ hnext
      _ = (init + 1) * (10 * 10 ^ digits.length) := Nat.mul_assoc _ _ _

theorem length_toDigits_of_natOfDigits {digits : Text} {n : ℕ} (h : natOfDigits digits = some n) :
    (Nat.toDigits 10 n).length ≤ maxStrDigits := by
  unfold natOfDigits at h
  simp only at h
  split at h
  · next hgroups =>
    obtain ⟨hall, hlength⟩ := hgroups
    have hdigit : ∀ c ∈ (digits.splitOn '_').flatten, c.isDigit := by
      intro c hc
      obtain ⟨group, hgroup, hc⟩ := List.mem_flatten.mp hc
      have hvalid := of_decide_eq_true (List.all_eq_true.mp hall group hgroup)
      exact List.all_eq_true.mp hvalid.2 c hc
    have hlt := ofDigitChars_lt hdigit 0
    rw [Option.some.inj h, Nat.zero_add, Nat.one_mul] at hlt
    exact (Nat.length_toDigits_le_iff (by decide) (by decide)).mpr
      (hlt.trans_le (Nat.pow_le_pow_right (by decide) hlength))
  · cases h

/-- A number that `int` has read is short enough for `str`. -/
theorem strInt_of_pyInt {text : Text} {n : ℤ} (h : pyInt text = some n) :
    strInt n = .ok (intText n) := by
  unfold pyInt at h
  generalize splitSign (((text.map toAscii).dropWhile isSpace).rdropWhile isSpace) = signed at h
  obtain ⟨negative, digits⟩ := signed
  simp only at h
  cases hdigits : natOfDigits digits with
  | none =>
    rw [hdigits] at h
    cases h
  | some m =>
    rw [hdigits] at h
    have hn : (if negative then -(m : ℤ) else m) = n := Option.some.inj h
    have hnat : n.natAbs = m := by
      split at hn <;> omega
    exact if_pos (hnat ▸ length_toDigits_of_natOfDigits hdigits)

/-! ## `repr` -/

/-- The controls, format characters, separators and private characters of Unicode 14 from 127
on: the first and the last of each range. Unassigned characters are not among them; which these
are changes with the version. -/
def unprintableRanges : List (ℕ × ℕ) :=
  [(0x7F, 0xA0), (0xAD, 0xAD), (0x600, 0x605), (0x61C, 0x61C), (0x6DD, 0x6DD), (0x70F, 0x70F),
   (0x890, 0x891), (0x8E2, 0x8E2), (0x1680, 0x1680), (0x180E, 0x180E), (0x2000, 0x200F),
   (0x2028, 0x202F), (0x205F, 0x2064), (0x2066, 0x206F), (0x3000, 0x3000), (0xE000, 0xF8FF),
   (0xFEFF, 0xFEFF), (0xFFF9, 0xFFFB), (0x110BD, 0x110BD), (0x110CD, 0x110CD),
   (0x13430, 0x13438), (0x1BCA0, 0x1BCA3), (0x1D173, 0x1D17A), (0xE0001, 0xE0001),
   (0xE0020, 0xE007F), (0xF0000, 0xFFFFD), (0x100000, 0x10FFFD)]

/-- `c.isprintable()`. -/
def isPrintable (c : Char) : Bool :=
  if c.toNat < 127 then 32 ≤ c.toNat
  else ¬ unprintableRanges.any fun (first, last) => first ≤ c.toNat ∧ c.toNat ≤ last

/-- The code of a character in hexadecimal, behind the letter for its size. -/
def escapeText (code : ℕ) : Text :=
  let (letter, width) := if code < 0x100 then ('x', 2) else if code < 0x10000 then ('u', 4)
    else ('U', 8)
  '\\' :: letter :: (Nat.toDigits 16 code).leftpad width '0'

/-- A character of a `repr`. -/
def reprChar (quote c : Char) : Text :=
  if c = quote ∨ c = '\\' then ['\\', c]
  else if c = '\n' then ['\\', 'n']
  else if c = '\r' then ['\\', 'r']
  else if c = '\t' then ['\\', 't']
  else if isPrintable c then [c]
  else escapeText c.toNat

/-- `repr(text)`, in single quotes unless only these occur in it. -/
def reprText (text : Text) : String :=
  let quote := if '\'' ∈ text ∧ '"' ∉ text then '"' else '\''
  String.ofList ([quote] ++ text.flatMap (reprChar quote) ++ [quote])

/-! ## ASCII -/

def isAscii (text : Text) : Prop := ∀ c ∈ text, c.toNat < 128

instance (text : Text) : Decidable (isAscii text) :=
  List.decidableBAll _ text

/-- The code of a character below 128. -/
def asciiByte (c : Char) : UInt8 := UInt8.ofNat c.toNat

/-- `text.encode("ascii")`. -/
def encodeAscii (text : Text) : Except PyError Bytes :=
  if isAscii text then .ok (text.map asciiByte)
  else .error ⟨.unicodeEncodeError, "'ascii' codec can't encode: ordinal not in range(128)"⟩

/-- `data.decode("ascii")`. -/
def decodeAscii (data : Bytes) : Except PyError Text :=
  if data.all (· < 128) then .ok (data.map fun b => Char.ofNat b.toNat)
  else .error ⟨.unicodeDecodeError, "'ascii' codec can't decode: ordinal not in range(128)"⟩

theorem isAscii_cons {c : Char} {text : Text} :
    isAscii (c :: text) ↔ c.toNat < 128 ∧ isAscii text :=
  List.forall_mem_cons

theorem isAscii_append {text text' : Text} :
    isAscii (text ++ text') ↔ isAscii text ∧ isAscii text' :=
  List.forall_mem_append

theorem toNat_asciiByte {c : Char} (h : c.toNat < 128) : (asciiByte c).toNat = c.toNat := by
  rw [asciiByte, UInt8.toNat_ofNat', Nat.mod_eq_of_lt (by omega)]

theorem asciiByte_injOn {c d : Char} (hc : c.toNat < 128) (hd : d.toNat < 128)
    (h : asciiByte c = asciiByte d) : c = d := by
  have hnat := congrArg UInt8.toNat h
  rw [toNat_asciiByte hc, toNat_asciiByte hd] at hnat
  exact Char.toNat_inj.mp hnat

theorem encodeAscii_ok {text : Text} (h : isAscii text) :
    encodeAscii text = .ok (text.map asciiByte) :=
  if_pos h

theorem decodeAscii_encodeAscii {text : Text} (h : isAscii text) :
    decodeAscii (text.map asciiByte) = .ok text := by
  unfold decodeAscii
  rw [if_pos, List.map_map]
  · refine congrArg Except.ok ((List.map_congr_left fun c hc => ?_).trans (List.map_id text))
    simp [toNat_asciiByte (h c hc)]
  · rw [List.all_eq_true]
    intro b hb
    obtain ⟨c, hc, rfl⟩ := List.mem_map.mp hb
    rw [decide_eq_true_eq, UInt8.lt_iff_toNat_lt, toNat_asciiByte (h c hc)]
    exact h c hc

theorem kind_of_decodeAscii {data : Bytes} {e : PyError} (h : decodeAscii data = .error e) :
    e.kind = .unicodeDecodeError := by
  unfold decodeAscii at h
  split at h
  · cases h
  · cases h
    rfl

/-- A decoded text is that of its bytes. -/
theorem encode_of_decodeAscii {data : Bytes} {text : Text} (h : decodeAscii data = .ok text) :
    isAscii text ∧ text.map asciiByte = data := by
  unfold decodeAscii at h
  split at h
  swap
  · cases h
  next hall =>
  cases h
  have hcode : ∀ b ∈ data, (Char.ofNat b.toNat).toNat = b.toNat ∧ b.toNat < 128 := by
    intro b hb
    have hlt : b.toNat < 128 :=
      UInt8.lt_iff_toNat_lt.mp (of_decide_eq_true (List.all_eq_true.mp hall b hb))
    have hvalid : b.toNat.isValidChar := Or.inl (by omega)
    rw [Char.ofNat, dif_pos hvalid]
    exact ⟨rfl, hlt⟩
  constructor
  · intro c hc
    obtain ⟨b, hb, rfl⟩ := List.mem_map.mp hc
    rw [(hcode b hb).1]
    exact (hcode b hb).2
  · rw [List.map_map]
    refine (List.map_congr_left fun b hb => ?_).trans (List.map_id data)
    rw [Function.comp_apply, asciiByte, (hcode b hb).1, UInt8.ofNat_toNat]
    rfl

/-! ## Addresses -/

/-- An `ipaddress.IPv4Address`: four bytes, most significant first. -/
structure IPv4Address where
  a : UInt8
  b : UInt8
  c : UInt8
  d : UInt8
  deriving DecidableEq, Repr

namespace IPv4Address

/-- `str(address)`. -/
def text (self : IPv4Address) : Text :=
  ['.'].intercalate ([self.a, self.b, self.c, self.d].map fun octet => Nat.toDigits 10 octet.toNat)

/-- `_parse_octet`. -/
def parseOctet (octet : Text) : Except String UInt8 := do
  if octet = [] then
    throw "Empty octet not permitted"
  if ¬ octet.all Char.isDigit then
    throw s!"Only decimal digits permitted in {reprText octet}"
  if octet.length > 3 then
    throw s!"At most 3 characters permitted in {reprText octet}"
  if octet ≠ ['0'] ∧ octet.head? = some '0' then
    throw s!"Leading zeros are not permitted in {reprText octet}"
  let n := Nat.ofDigitChars 10 octet 0
  if n > 255 then
    throw s!"Octet {n} (> 255) not permitted"
  return UInt8.ofNat n

/-- `IPv4Address(text)`. -/
def parse (text : Text) : Except PyError IPv4Address :=
  if '/' ∈ text then .error ⟨.valueError, s!"Unexpected '/' in {reprText text}"⟩
  else if text = [] then .error ⟨.valueError, "Address cannot be empty"⟩
  else
    match text.splitOn '.' with
    | [a, b, c, d] =>
      let octets : Except String IPv4Address := do
        return ⟨← parseOctet a, ← parseOctet b, ← parseOctet c, ← parseOctet d⟩
      octets.mapError fun message => ⟨.valueError, s!"{message} in {reprText text}"⟩
    | _ => .error ⟨.valueError, s!"Expected 4 octets in {reprText text}"⟩

theorem parseOctet_toDigits (octet : UInt8) :
    parseOctet (Nat.toDigits 10 octet.toNat) = .ok octet := by
  have hall : ∀ n < 256, parseOctet (Nat.toDigits 10 n) = .ok (UInt8.ofNat n) := by
    decide +kernel
  rw [hall _ octet.toNat_lt, UInt8.ofNat_toNat]

theorem text_eq (self : IPv4Address) :
    self.text = Nat.toDigits 10 self.a.toNat ++ '.' :: (Nat.toDigits 10 self.b.toNat ++
      '.' :: (Nat.toDigits 10 self.c.toNat ++ '.' :: Nat.toDigits 10 self.d.toNat)) := by
  simp [text, List.intercalate]

theorem mem_text {self : IPv4Address} {c : Char} (h : c ∈ self.text) : c = '.' ∨ c.isDigit := by
  have hdigit : ∀ octet : UInt8, c ∈ Nat.toDigits 10 octet.toNat → c.isDigit :=
    fun octet hc => Nat.isDigit_of_mem_toDigits (by decide) (by decide) hc
  simp only [text_eq, List.mem_append, List.mem_cons] at h
  rcases h with h | h | h | h | h | h | h
  · exact Or.inr (hdigit _ h)
  · exact Or.inl h
  · exact Or.inr (hdigit _ h)
  · exact Or.inl h
  · exact Or.inr (hdigit _ h)
  · exact Or.inl h
  · exact Or.inr (hdigit _ h)

/-- The characters of an address are plain. -/
theorem text_bounds {self : IPv4Address} {c : Char} (h : c ∈ self.text) :
    46 ≤ c.toNat ∧ c.toNat < 124 ∧ c ≠ '/' := by
  rcases mem_text h with rfl | hdigit
  · decide
  · have hbounds := isDigit_bounds hdigit
    refine ⟨by omega, by omega, ?_⟩
    rintro rfl
    exact absurd hbounds.1 (by decide)

/-- Four octets of at most three digits. -/
theorem length_text_le (self : IPv4Address) : self.text.length ≤ 15 := by
  have hoctet : ∀ octet : UInt8, (Nat.toDigits 10 octet.toNat).length ≤ 3 := fun octet =>
    (Nat.length_toDigits_le_iff (by decide) (by decide)).mpr
      (octet.toNat_lt.trans_le (by decide))
  simp only [text_eq, List.length_append, List.length_cons]
  have ha := hoctet self.a
  have hb := hoctet self.b
  have hc := hoctet self.c
  have hd := hoctet self.d
  omega

/-- An address is read back from its text. -/
theorem parse_text (self : IPv4Address) : parse self.text = .ok self := by
  have hslash : '/' ∉ self.text := fun h => (text_bounds h).2.2 rfl
  have hnil : self.text ≠ [] := by
    rw [text_eq]
    exact List.append_ne_nil_of_left_ne_nil Nat.toDigits_ne_nil _
  have hdot : ∀ octet : UInt8, '.' ∉ Nat.toDigits 10 octet.toNat := fun octet h =>
    absurd (Nat.isDigit_of_mem_toDigits (by decide) (by decide) h) (by decide)
  have hsplit : self.text.splitOn '.' =
      [self.a, self.b, self.c, self.d].map fun octet => Nat.toDigits 10 octet.toNat := by
    refine List.splitOn_intercalate '.' ?_ (List.cons_ne_nil _ _)
    intro octet hoctet
    obtain ⟨n, _, rfl⟩ := List.mem_map.mp hoctet
    exact hdot n
  rw [parse, if_neg hslash, if_neg hnil, hsplit]
  simp only [List.map_cons, List.map_nil, parseOctet_toDigits, bind, Except.bind]
  rfl

end IPv4Address

end UhfReader18
