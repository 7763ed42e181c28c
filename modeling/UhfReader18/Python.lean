import Mathlib.Algebra.Order.Ring.Int
import Mathlib.Control.Monad.Basic
import Mathlib.Data.List.Basic
import Mathlib.Tactic.Common

/-!
# The Python operations the package is written in

Byte strings, the exceptions that leave a function, and the conversions between
integers, bytes and text that the source calls. Integers are unbounded, as in
Python, so a conversion to bytes can fail and says so.
-/

namespace UhfReader18

/-- A Python `bytes` or `bytearray`. -/
abbrev Bytes := List UInt8

/-! ## Exceptions -/

/-- The exception classes raised or handled by the package. -/
inductive ExcKind
  | frameError
  | valueError
  | typeError
  | indexError
  | overflowError
  | connectionError
  | timeoutError
  | runtimeError
  | unicodeEncodeError
  | unicodeDecodeError
  | keyError
  deriving DecidableEq, Repr

/-- A raised exception: its class and its text. -/
structure PyError where
  kind : ExcKind
  message : String
  deriving DecidableEq, Repr

/-- Code that returns has returned from its first step. -/
theorem bind_eq_ok {ε α β : Type} {x : Except ε α} {f : α → Except ε β} {b : β}
    (h : (x >>= f) = .ok b) : ∃ a, x = .ok a ∧ f a = .ok b := by
  cases x with
  | error e => cases h
  | ok a => exact ⟨a, rfl, h⟩

theorem bind_eq_ok_iff {α β : Type} {x : Except PyError α} {f : α → Except PyError β} {b : β} :
    (x >>= f) = .ok b ↔ ∃ a, x = .ok a ∧ f a = .ok b := by
  refine ⟨bind_eq_ok, ?_⟩
  rintro ⟨a, rfl, h⟩
  exact h

theorem map_eq_ok_iff {α β : Type} {x : Except PyError α} {f : α → β} {b : β} :
    x.map f = .ok b ↔ ∃ a, x = .ok a ∧ f a = b := by
  cases x with
  | error e => exact iff_of_false nofun nofun
  | ok a =>
    constructor
    · intro h
      exact ⟨a, rfl, Except.ok.inj h⟩
    · rintro ⟨_, ha, rfl⟩
      cases ha
      rfl

/-- A comprehension that returns has computed a result for every element. -/
theorem mem_of_mapM_eq_ok {ε α β : Type} {f : α → Except ε β} {items : List α}
    {results : List β} (h : items.mapM f = .ok results) {a : α} (ha : a ∈ items) :
    ∃ b ∈ results, f a = .ok b := by
  induction items generalizing results with
  | nil => exact absurd ha List.not_mem_nil
  | cons head items ih =>
    rw [List.mapM_cons] at h
    obtain ⟨b, hb, h⟩ := bind_eq_ok h
    obtain ⟨bs, hbs, h⟩ := bind_eq_ok h
    cases h
    rcases List.mem_cons.mp ha with rfl | ha
    · exact ⟨b, List.mem_cons_self, hb⟩
    · obtain ⟨b', hb', hf⟩ := ih hbs ha
      exact ⟨b', List.mem_cons_of_mem b hb', hf⟩

theorem exists_mapM_eq_ok {α β : Type} {f : α → Except PyError β} {items : List α}
    (h : ∀ a ∈ items, ∃ b, f a = .ok b) : ∃ results, items.mapM f = .ok results := by
  induction items with
  | nil => exact ⟨[], rfl⟩
  | cons head items ih =>
    rw [List.forall_mem_cons] at h
    obtain ⟨b, hb⟩ := h.1
    obtain ⟨bs, hbs⟩ := ih h.2
    exact ⟨b :: bs, by simp [List.mapM_cons, hb, hbs, bind, Except.bind, pure, Except.pure]⟩

/-- A comprehension raises what its first element that raises does. -/
theorem mapM_eq_find? {ε α β : Type} {f : α → Except ε β} {g : α → β} {bad : α → Bool}
    {error : α → ε} {items : List α} (hgood : ∀ a, bad a = false → f a = .ok (g a))
    (hbad : ∀ a, bad a = true → f a = .error (error a)) :
    items.mapM f =
      match items.find? bad with
      | none => .ok (items.map g)
      | some a => .error (error a) := by
  induction items with
  | nil => rfl
  | cons head items ih =>
    rw [List.mapM_cons, List.find?_cons]
    cases hhead : bad head with
    | true =>
      rw [hbad head hhead]
      rfl
    | false =>
      rw [hgood head hhead, ih]
      cases items.find? bad <;> rfl

/-- Every result of a comprehension is that of some element. -/
theorem exists_of_mem_mapM_eq_ok {ε α β : Type} {f : α → Except ε β} {items : List α}
    {results : List β} (h : items.mapM f = .ok results) {b : β} (hb : b ∈ results) :
    ∃ a ∈ items, f a = .ok b := by
  induction items generalizing results with
  | nil =>
    cases h
    exact absurd hb List.not_mem_nil
  | cons head items ih =>
    rw [List.mapM_cons] at h
    obtain ⟨b', hb', h⟩ := bind_eq_ok h
    obtain ⟨bs, hbs, h⟩ := bind_eq_ok h
    cases h
    rcases List.mem_cons.mp hb with rfl | hb
    · exact ⟨head, List.mem_cons_self, hb'⟩
    · obtain ⟨a, ha, hf⟩ := ih hbs hb
      exact ⟨a, List.mem_cons_of_mem head ha, hf⟩

/-- The results of a comprehension are in the order of its elements. -/
theorem map_of_mapM_eq_ok {α β γ : Type} {f : α → Except PyError β} {items : List α}
    {results : List β} (h : items.mapM f = .ok results) {g : α → γ} {key : β → γ}
    (hkey : ∀ a b, f a = .ok b → key b = g a) : results.map key = items.map g := by
  induction items generalizing results with
  | nil =>
    cases h
    rfl
  | cons head items ih =>
    rw [List.mapM_cons] at h
    obtain ⟨b, hb, h⟩ := bind_eq_ok h
    obtain ⟨bs, hbs, h⟩ := bind_eq_ok h
    cases h
    rw [List.map_cons, List.map_cons, hkey head b hb, ih hbs]

/-- How a call ended for a caller that does not read exception texts: the
returned value, or the class of the exception. -/
def outcome {α : Type*} : Except PyError α → α ⊕ ExcKind
  | .ok a => .inl a
  | .error e => .inr e.kind

@[simp]
theorem outcome_ok {α : Type*} (a : α) : outcome (.ok a : Except PyError α) = .inl a := rfl

@[simp]
theorem outcome_error {α : Type*} (e : PyError) :
    outcome (.error e : Except PyError α) = .inr e.kind := rfl

theorem outcome_eq_inl_iff {α : Type*} {result : Except PyError α} {a : α} :
    outcome result = .inl a ↔ result = .ok a := by
  cases result <;> simp [outcome]

theorem outcome_eq_inr_iff {α : Type*} {result : Except PyError α} {kind : ExcKind} :
    outcome result = .inr kind ↔ ∃ text, result = .error ⟨kind, text⟩ := by
  cases result with
  | ok a => simp
  | error e =>
    obtain ⟨kind', text⟩ := e
    simp [eq_comm]

theorem outcome_map {α β : Type*} (f : α → β) (result : Except PyError α) :
    outcome (result.map f) = (outcome result).map f id := by
  cases result <;> rfl

/-! ## Integers and bytes -/

/-- A byte as the integer Python gives for `raw[i]`. -/
def ord (b : UInt8) : ℤ := b.toNat

theorem ord_nonneg (b : UInt8) : 0 ≤ ord b :=
  Int.natCast_nonneg _

theorem ord_le (b : UInt8) : ord b ≤ 255 := by
  have h := b.toNat_lt
  unfold ord
  omega

theorem ord_injective : Function.Injective ord := by
  intro a b h
  exact UInt8.toNat_inj.mp (Int.ofNat_inj.mp h)

/-- `raw[i]`. -/
def index (raw : Bytes) (i : ℕ) : Except PyError ℤ :=
  match raw[i]? with
  | some b => .ok (ord b)
  | none => .error ⟨.indexError, "index out of range"⟩

/-- The byte of an integer in `0..255`. -/
def byteOf (n : ℤ) : UInt8 := UInt8.ofNat n.toNat

theorem ord_byteOf {n : ℤ} (h0 : 0 ≤ n) (h1 : n ≤ 255) : ord (byteOf n) = n := by
  unfold ord byteOf
  rw [UInt8.toNat_ofNat', Nat.mod_eq_of_lt (by omega)]
  omega

@[simp]
theorem byteOf_ord (b : UInt8) : byteOf (ord b) = b :=
  ord_injective (ord_byteOf (ord_nonneg b) (ord_le b))

/-- `bytes([...])`. -/
def bytesOf (values : List ℤ) : Except PyError Bytes :=
  if ∀ n ∈ values, 0 ≤ n ∧ n ≤ 255 then .ok (values.map byteOf)
  else .error ⟨.valueError, "bytes must be in range(0, 256)"⟩

/-- The `width` low bytes of `n`, least significant first. -/
def littleEndian : ℕ → ℕ → Bytes
  | 0, _ => []
  | width + 1, n => UInt8.ofNat (n % 256) :: littleEndian width (n / 256)

/-- `n.to_bytes(width, "little")`. -/
def toBytesLittle (n : ℤ) (width : ℕ) : Except PyError Bytes :=
  if n < 0 then .error ⟨.overflowError, "can't convert negative int to unsigned"⟩
  else if n.toNat < 256 ^ width then .ok (littleEndian width n.toNat)
  else .error ⟨.overflowError, "int too big to convert"⟩

/-- `int.from_bytes(raw, "little")`. -/
def fromBytesLittle : Bytes → ℕ
  | [] => 0
  | b :: raw => b.toNat + 256 * fromBytesLittle raw

theorem bytesOf_ok {values : List ℤ} (h : ∀ n ∈ values, 0 ≤ n ∧ n ≤ 255) :
    bytesOf values = .ok (values.map byteOf) :=
  if_pos h

theorem bytesOf_map_ord (raw : Bytes) : bytesOf (raw.map ord) = .ok raw := by
  rw [bytesOf_ok]
  · simp [Function.comp_def]
  · intro n hn
    obtain ⟨b, _, rfl⟩ := List.mem_map.mp hn
    exact ⟨ord_nonneg b, ord_le b⟩

/-- Bytes that `bytes([...])` gives are the integers it was given. -/
theorem map_ord_of_bytesOf {values : List ℤ} {raw : Bytes} (h : bytesOf values = .ok raw) :
    raw.map ord = values := by
  unfold bytesOf at h
  split at h
  · next hrange =>
    cases h
    rw [List.map_map]
    refine (List.map_congr_left fun n hn => ?_).trans (List.map_id values)
    exact ord_byteOf (hrange n hn).1 (hrange n hn).2
  · cases h

theorem bytesOf_eq_ok_iff {values : List ℤ} {raw : Bytes} :
    bytesOf values = .ok raw ↔ raw.map ord = values := by
  refine ⟨map_ord_of_bytesOf, ?_⟩
  rintro rfl
  exact bytesOf_map_ord raw

/-- Four bytes with the given values. -/
theorem exists_four {data : Bytes} {n0 n1 n2 n3 : ℤ} (h : data.map ord = [n0, n1, n2, n3]) :
    ∃ b0 b1 b2 b3, data = [b0, b1, b2, b3] ∧ ord b0 = n0 ∧ ord b1 = n1 ∧ ord b2 = n2 ∧
      ord b3 = n3 := by
  obtain ⟨b0, rest, rfl, h0, h⟩ := List.map_eq_cons_iff.mp h
  obtain ⟨b1, rest, rfl, h1, h⟩ := List.map_eq_cons_iff.mp h
  obtain ⟨b2, rest, rfl, h2, h⟩ := List.map_eq_cons_iff.mp h
  obtain ⟨b3, rfl, h3⟩ := List.map_eq_singleton_iff.mp h
  exact ⟨b0, b1, b2, b3, rfl, h0, h1, h2, h3⟩

/-- Six bytes with the given values. -/
theorem exists_six {data : Bytes} {n0 n1 n2 n3 n4 n5 : ℤ}
    (h : data.map ord = [n0, n1, n2, n3, n4, n5]) :
    ∃ b0 b1 b2 b3 b4 b5, data = [b0, b1, b2, b3, b4, b5] ∧ ord b0 = n0 ∧ ord b1 = n1 ∧
      ord b2 = n2 ∧ ord b3 = n3 ∧ ord b4 = n4 ∧ ord b5 = n5 := by
  obtain ⟨b0, rest, rfl, h0, h⟩ := List.map_eq_cons_iff.mp h
  obtain ⟨b1, rest, rfl, h1, h⟩ := List.map_eq_cons_iff.mp h
  obtain ⟨b2, b3, b4, b5, rfl, h2, h3, h4, h5⟩ := exists_four h
  exact ⟨b0, b1, b2, b3, b4, b5, rfl, h0, h1, h2, h3, h4, h5⟩

@[simp]
theorem length_littleEndian (width n : ℕ) : (littleEndian width n).length = width := by
  induction width generalizing n with
  | zero => rfl
  | succ width ih => rw [littleEndian, List.length_cons, ih]

theorem toBytesLittle_ok {n width : ℕ} (h : n < 256 ^ width) :
    toBytesLittle n width = .ok (littleEndian width n) := by
  unfold toBytesLittle
  rw [if_neg (by omega), Int.toNat_natCast, if_pos h]

theorem fromBytesLittle_littleEndian {width n : ℕ} (h : n < 256 ^ width) :
    fromBytesLittle (littleEndian width n) = n := by
  induction width generalizing n with
  | zero =>
    rw [Nat.pow_zero] at h
    rw [littleEndian, fromBytesLittle]
    omega
  | succ width ih =>
    have hdiv : n / 256 < 256 ^ width :=
      Nat.div_lt_of_lt_mul (by rwa [Nat.pow_succ, Nat.mul_comm] at h)
    rw [littleEndian, fromBytesLittle, ih hdiv, UInt8.toNat_ofNat', Nat.mod_mod]
    omega

theorem littleEndian_fromBytesLittle (raw : Bytes) :
    littleEndian raw.length (fromBytesLittle raw) = raw := by
  induction raw with
  | nil => rfl
  | cons b raw ih =>
    have hb := b.toNat_lt
    have hmod : (b.toNat + 256 * fromBytesLittle raw) % 256 = b.toNat := by omega
    have hdiv : (b.toNat + 256 * fromBytesLittle raw) / 256 = fromBytesLittle raw := by omega
    rw [List.length_cons, littleEndian, fromBytesLittle, hmod, hdiv, ih, UInt8.ofNat_toNat]

/-! ## Text -/

/-- `f"{n:0{width}X}"`. -/
def formatHex (width : ℕ) (n : ℤ) : String :=
  let sign := if n < 0 then "-" else ""
  let digits := (Nat.toDigits 16 n.natAbs).map Char.toUpper
  sign ++ String.ofList (List.replicate (width - sign.length - digits.length) '0' ++ digits)

/-- `s.title()` for ASCII text: a letter is a capital where no letter stands before
it. -/
def titleChars : Bool → List Char → List Char
  | _, [] => []
  | afterLetter, c :: cs =>
    (if afterLetter then c.toLower else c.toUpper) :: titleChars c.isAlpha cs

def title (s : String) : String := String.ofList (titleChars false s.toList)

end UhfReader18
