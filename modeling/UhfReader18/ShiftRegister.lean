import Mathlib.Algebra.Group.Even
import Mathlib.Data.Finset.Card
import Mathlib.Data.Finset.Range
import Mathlib.Data.Nat.Bits
import Mathlib.Data.Nat.Bitwise
import Mathlib.Logic.Function.Iterate
import Mathlib.Tactic.Common

/-!
# Shift registers with feedback

A register shifts towards its low end. A one that leaves it flips the taps, and a bit that is
fed in is added to the low end before the shift. All of this is linear, so that what two
inputs do to the register differs by what their difference does to an empty one. A check
value computed by a register therefore detects a difference exactly if the difference does
not leave the empty register empty.

Results:
1. `feed_xor`: feeding is linear.
2. `feed_eq_iterate`: bits may be added all at once, before the shifts.
3. `feed_burst_ne_zero`: a burst no longer than the register is not lost.
4. `feed_odd_ne_zero`: with an odd number of taps, an odd number of ones is not lost.
5. `feed_pair_ne_zero`: two ones are not lost, unless so many shifts lie between them that
   the register of a one comes back to one.
6. `feed_ne_zero`: the three together, in terms of the positions at which inputs differ.
-/

/-- The highest bit is among the taps. -/
structure ShiftRegister where
  width : ℕ
  taps : ℕ
  pos : 0 < width
  top : taps.testBit (width - 1) = true
  fits : taps < 2 ^ width

namespace ShiftRegister

variable (reg : ShiftRegister)

/-- One shift. -/
def step (r : ℕ) : ℕ :=
  if r &&& 1 ≠ 0 then (r >>> 1) ^^^ reg.taps else r >>> 1

/-- Bits are fed in one by one. -/
def feed (r : ℕ) (bits : List Bool) : ℕ :=
  bits.foldl (fun r b => reg.step (r ^^^ b.toNat)) r

/-- The number of a list of bits, lowest first. -/
def ofBits : List Bool → ℕ
  | [] => 0
  | b :: bits => Nat.bit b (ofBits bits)

/-! ## One shift -/

theorem testBit_step (r i : ℕ) :
    (reg.step r).testBit i = (r.testBit (i + 1) ^^ (r.testBit 0 && reg.taps.testBit i)) := by
  have hodd : (r &&& 1 ≠ 0) ↔ r.testBit 0 = true := by
    rw [Nat.and_one_is_mod, Nat.testBit_zero, decide_eq_true_iff]
    omega
  unfold step
  by_cases h : r &&& 1 ≠ 0
  · rw [if_pos h, Nat.testBit_xor, Nat.testBit_shiftRight, hodd.mp h, Bool.true_and,
      Nat.add_comm 1 i]
  · have heven : r.testBit 0 = false := by simpa using mt hodd.mpr h
    rw [if_neg h, Nat.testBit_shiftRight, heven, Bool.false_and, Bool.xor_false, Nat.add_comm 1 i]

@[simp]
theorem step_zero : reg.step 0 = 0 := rfl

theorem step_xor (r s : ℕ) : reg.step (r ^^^ s) = reg.step r ^^^ reg.step s := by
  refine Nat.eq_of_testBit_eq fun i => ?_
  simp only [testBit_step, Nat.testBit_xor]
  cases r.testBit 0 <;> cases s.testBit 0 <;> cases reg.taps.testBit i <;>
    cases r.testBit (i + 1) <;> cases s.testBit (i + 1) <;> rfl

theorem step_bit (b : Bool) (n : ℕ) : reg.step (Nat.bit b n) = reg.step b.toNat ^^^ n := by
  refine Nat.eq_of_testBit_eq fun i => ?_
  have hbit : ∀ b : Bool, Nat.bit b 0 = b.toNat := fun b => by cases b <;> rfl
  rw [Nat.testBit_xor, testBit_step, testBit_step, ← hbit, Nat.testBit_bit_zero,
    Nat.testBit_bit_succ, Nat.testBit_bit_zero, Nat.testBit_bit_succ, Nat.zero_testBit,
    Bool.false_xor, Bool.xor_comm]

theorem toNat_lt (b : Bool) : b.toNat < 2 ^ reg.width :=
  b.toNat_lt.trans_le (Nat.le_self_pow reg.pos.ne' 2)

theorem step_lt {r : ℕ} (h : r < 2 ^ reg.width) : reg.step r < 2 ^ reg.width := by
  have hshift : r >>> 1 < 2 ^ reg.width := by
    rw [Nat.shiftRight_eq_div_pow]
    exact (Nat.div_le_self r _).trans_lt h
  unfold step
  split
  · exact Nat.xor_lt_two_pow hshift reg.fits
  · exact hshift

/-- A shift does not empty a register: the highest bit tells whether a one has left it. -/
theorem step_ne_zero {r : ℕ} (h : r < 2 ^ reg.width) (hr : r ≠ 0) : reg.step r ≠ 0 := by
  intro hzero
  have hempty : ∀ i, (r.testBit (i + 1) ^^ (r.testBit 0 && reg.taps.testBit i)) = false := by
    intro i
    rw [← testBit_step, hzero, Nat.zero_testBit]
  have hlow : r.testBit 0 = false := by
    have hhigh : r.testBit (reg.width - 1 + 1) = false := by
      rw [Nat.sub_add_cancel reg.pos]
      exact Nat.testBit_lt_two_pow h
    simpa [hhigh, reg.top] using hempty (reg.width - 1)
  refine hr (Nat.zero_of_testBit_eq_false fun i => ?_)
  cases i with
  | zero => exact hlow
  | succ i => simpa [hlow] using hempty i

/-! ## Many shifts -/

@[simp]
theorem iterate_zero (n : ℕ) : reg.step^[n] 0 = 0 :=
  Function.iterate_fixed reg.step_zero n

theorem iterate_lt {r : ℕ} (h : r < 2 ^ reg.width) (n : ℕ) :
    reg.step^[n] r < 2 ^ reg.width := by
  induction n generalizing r with
  | zero => exact h
  | succ n ih => exact ih (reg.step_lt h)

theorem iterate_ne_zero {r : ℕ} (h : r < 2 ^ reg.width) (hr : r ≠ 0) (n : ℕ) :
    reg.step^[n] r ≠ 0 := by
  induction n generalizing r with
  | zero => exact hr
  | succ n ih => exact ih (reg.step_lt h) (reg.step_ne_zero h hr)

/-! ## Feeding -/

theorem feed_append (r : ℕ) (bits bits' : List Bool) :
    reg.feed r (bits ++ bits') = reg.feed (reg.feed r bits) bits' :=
  List.foldl_append

theorem feed_lt {r : ℕ} (h : r < 2 ^ reg.width) (bits : List Bool) :
    reg.feed r bits < 2 ^ reg.width := by
  induction bits generalizing r with
  | nil => exact h
  | cons b bits ih =>
    exact ih (reg.step_lt (Nat.xor_lt_two_pow h (reg.toNat_lt b)))

/-- Feeding is linear. -/
theorem feed_xor {bits bits' : List Bool} (h : bits.length = bits'.length) (r s : ℕ) :
    reg.feed (r ^^^ s) (List.zipWith xor bits bits') = reg.feed r bits ^^^ reg.feed s bits' := by
  induction bits generalizing bits' r s with
  | nil =>
    cases List.length_eq_zero_iff.mp h.symm
    rfl
  | cons b bits ih =>
    cases bits' with
    | nil => cases h
    | cons b' bits' =>
      have hbit : (xor b b').toNat = b.toNat ^^^ b'.toNat := by
        cases b <;> cases b' <;> rfl
      have hmix : r ^^^ s ^^^ (b.toNat ^^^ b'.toNat) = (r ^^^ b.toNat) ^^^ (s ^^^ b'.toNat) := by
        ac_rfl
      have hstep := ih (Nat.succ.inj h) (reg.step (r ^^^ b.toNat)) (reg.step (s ^^^ b'.toNat))
      rw [← step_xor, ← hmix, ← hbit] at hstep
      exact hstep

/-- The bits may be added all at once, before the shifts. -/
theorem feed_eq_iterate (r : ℕ) (bits : List Bool) :
    reg.feed r bits = reg.step^[bits.length] (r ^^^ ofBits bits) := by
  induction bits generalizing r with
  | nil => exact (Nat.xor_zero r).symm
  | cons b bits ih =>
    have hlow : reg.step (r ^^^ Nat.bit b (ofBits bits)) =
        reg.step (r ^^^ b.toNat) ^^^ ofBits bits := by
      rw [step_xor, step_bit, ← Nat.xor_assoc, ← step_xor]
    rw [List.length_cons, Function.iterate_succ_apply, ofBits, hlow]
    exact ih _

@[simp]
theorem ofBits_replicate_false (n : ℕ) : ofBits (List.replicate n false) = 0 := by
  induction n with
  | zero => rfl
  | succ n ih => rw [List.replicate_succ, ofBits, ih]; rfl

theorem ofBits_lt (bits : List Bool) : ofBits bits < 2 ^ bits.length := by
  induction bits with
  | nil => exact Nat.zero_lt_one
  | cons b bits ih => exact Nat.bit_lt_two_pow_succ_iff.mpr ih

theorem ofBits_ne_zero {bits : List Bool} (h : true ∈ bits) : ofBits bits ≠ 0 := by
  induction bits with
  | nil => cases h
  | cons b bits ih =>
    rw [ofBits, Ne, Nat.bit_eq_zero_iff]
    rintro ⟨hzero, rfl⟩
    rcases List.mem_cons.mp h with hb | hmem
    · cases hb
    · exact ih hmem hzero

/-- The low bits of a number, in front of others. -/
theorem ofBits_map_testBit_append {n r : ℕ} (h : r < 2 ^ n) (rest : List Bool) :
    ofBits ((List.range n).map r.testBit ++ rest) = r + 2 ^ n * ofBits rest := by
  induction n generalizing r with
  | zero =>
    have hzero : r = 0 := by omega
    rw [hzero, List.range_zero, List.map_nil, List.nil_append]
    omega
  | succ n ih =>
    have hshift : (fun i => r.testBit (i + 1)) = (r / 2).testBit := by
      funext i
      rw [Nat.testBit_succ]
    have hlow : (r.testBit 0).toNat = r % 2 := by
      rw [Nat.testBit_zero]
      rcases Nat.mod_two_eq_zero_or_one r with hr | hr <;> simp [hr]
    have hdouble : 2 ^ n * 2 * ofBits rest = 2 * (2 ^ n * ofBits rest) := by
      rw [Nat.mul_comm (2 ^ n) 2, Nat.mul_assoc]
    rw [List.range_succ_eq_map, List.map_cons, List.map_map, List.cons_append, ofBits,
      Nat.bit_val, hlow]
    show 2 * ofBits ((List.range n).map (fun i => r.testBit (i + 1)) ++ rest) + r % 2 = _
    rw [hshift, ih (by omega : r / 2 < 2 ^ n), Nat.pow_succ, hdouble]
    omega

/-- Zeros only shift. -/
theorem feed_replicate_false (r n : ℕ) :
    reg.feed r (List.replicate n false) = reg.step^[n] r := by
  rw [feed_eq_iterate, ofBits_replicate_false, Nat.xor_zero, List.length_replicate]

/-- As many bits as the register is wide empty it only if they are what it holds. -/
theorem feed_eq_zero_iff {r : ℕ} (h : r < 2 ^ reg.width) {bits : List Bool}
    (hlen : bits.length ≤ reg.width) : reg.feed r bits = 0 ↔ ofBits bits = r := by
  have hbits : ofBits bits < 2 ^ reg.width :=
    (ofBits_lt bits).trans_le (Nat.pow_le_pow_right Nat.two_pos hlen)
  rw [feed_eq_iterate]
  constructor
  · intro hzero
    by_contra hne
    exact reg.iterate_ne_zero (Nat.xor_lt_two_pow h hbits)
      (fun hxor => hne (Nat.xor_eq_zero_iff.mp hxor).symm) _ hzero
  · rintro rfl
    rw [Nat.xor_self, iterate_zero]

/-! ## Bursts -/

/-- A burst no longer than the register is not lost, whatever zeros are around it. -/
theorem feed_burst_ne_zero {burst : List Bool} (hlen : burst.length ≤ reg.width)
    (hburst : true ∈ burst) (before after : ℕ) :
    reg.feed 0 (List.replicate before false ++ burst ++ List.replicate after false) ≠ 0 := by
  have hpos : (0 : ℕ) < 2 ^ reg.width := Nat.two_pow_pos _
  have hseen : reg.feed 0 burst ≠ 0 := fun hzero =>
    ofBits_ne_zero hburst ((reg.feed_eq_zero_iff hpos hlen).mp hzero)
  rw [feed_append, feed_append, feed_replicate_false, feed_replicate_false, iterate_zero]
  exact reg.iterate_ne_zero (reg.feed_lt hpos burst) hseen after

/-! ## Parity -/

/-- Whether the number of ones among the low `n` bits is odd. -/
def parity : ℕ → ℕ → Bool
  | 0, _ => false
  | n + 1, r => r.testBit 0 ^^ parity n (r >>> 1)

@[simp]
theorem parity_zero (n : ℕ) : parity n 0 = false := by
  induction n with
  | zero => rfl
  | succ n ih => rw [parity, Nat.zero_shiftRight, ih]; rfl

theorem parity_xor (n r s : ℕ) : parity n (r ^^^ s) = (parity n r ^^ parity n s) := by
  induction n generalizing r s with
  | zero => rfl
  | succ n ih =>
    rw [parity, parity, parity, Nat.testBit_xor, Nat.shiftRight_xor_distrib, ih,
      Bool.xor_assoc, Bool.xor_assoc, Bool.xor_left_comm (s.testBit 0)]

theorem parity_succ_of_lt {n r : ℕ} (h : r < 2 ^ n) : parity (n + 1) r = parity n r := by
  induction n generalizing r with
  | zero =>
    have hzero : r = 0 := by omega
    rw [hzero, parity_zero, parity_zero]
  | succ n ih =>
    have hshift : r >>> 1 < 2 ^ n := by
      rw [Nat.shiftRight_eq_div_pow]
      omega
    rw [parity, ih hshift]
    rfl

/-- With an odd number of taps, a shift keeps the parity. -/
theorem parity_step (hodd : parity reg.width reg.taps = true) {r : ℕ} (h : r < 2 ^ reg.width) :
    parity reg.width (reg.step r) = parity reg.width r := by
  have hsplit : parity reg.width r = (r.testBit 0 ^^ parity reg.width (r >>> 1)) := by
    rw [← parity_succ_of_lt h, parity]
  rw [hsplit]
  unfold step
  by_cases hlow : r &&& 1 ≠ 0
  · have hone : r.testBit 0 = true := by
      rw [Nat.testBit_zero, decide_eq_true_iff, ← Nat.and_one_is_mod]
      rw [Nat.and_one_is_mod] at hlow ⊢
      omega
    rw [if_pos hlow, parity_xor, hodd, hone, Bool.xor_comm]
  · have hzero : r.testBit 0 = false := by
      rw [Nat.and_one_is_mod] at hlow
      rw [Nat.testBit_zero, decide_eq_false_iff_not]
      omega
    rw [if_neg hlow, hzero, Bool.false_xor]

theorem parity_feed (hodd : parity reg.width reg.taps = true) {r : ℕ} (h : r < 2 ^ reg.width)
    (bits : List Bool) :
    parity reg.width (reg.feed r bits) =
      (parity reg.width r ^^ decide (Odd (bits.count true))) := by
  induction bits generalizing r with
  | nil => simp [feed]
  | cons b bits ih =>
    have hmixed := Nat.xor_lt_two_pow h (reg.toNat_lt b)
    have hparity : parity reg.width b.toNat = b := by
      cases b
      · exact parity_zero _
      · obtain ⟨n, hn⟩ : ∃ n, reg.width = n + 1 := ⟨_, (Nat.sub_add_cancel reg.pos).symm⟩
        rw [hn]
        simp [parity]
    show parity reg.width (reg.feed (reg.step (r ^^^ b.toNat)) bits) = _
    rw [ih (reg.step_lt hmixed), reg.parity_step hodd hmixed, parity_xor, hparity]
    cases b
    · simp
    · by_cases hcount : Odd (bits.count true) <;> simp [hcount, Nat.odd_add_one]

/-- An odd number of ones is not lost. -/
theorem feed_odd_ne_zero (hodd : parity reg.width reg.taps = true) {bits : List Bool}
    (hbits : Odd (bits.count true)) : reg.feed 0 bits ≠ 0 := by
  intro hzero
  have hparity := reg.parity_feed hodd (Nat.two_pow_pos _) bits
  rw [hzero, parity_zero, decide_eq_true hbits] at hparity
  cases hparity

/-! ## Two ones -/

/-- From `r`, the register is not at one after any of the next `n` shifts. -/
def avoidsOne : ℕ → ℕ → Bool
  | 0, _ => true
  | n + 1, r => reg.step r != 1 && avoidsOne n (reg.step r)

theorem iterate_ne_one {n r : ℕ} (h : reg.avoidsOne n r = true) {k : ℕ} (hk : k < n) :
    reg.step^[k + 1] r ≠ 1 := by
  induction n generalizing r k with
  | zero => omega
  | succ n ih =>
    rw [avoidsOne, Bool.and_eq_true, bne_iff_ne] at h
    cases k with
    | zero => exact h.1
    | succ k => exact ih h.2 (Nat.lt_of_succ_lt_succ hk)

/-- Two ones are not lost while the register of a one has not come back to one. -/
theorem feed_pair_ne_zero {n : ℕ} (h : reg.avoidsOne n 1 = true) (before after : ℕ) {gap : ℕ}
    (hgap : gap < n) :
    reg.feed 0 (List.replicate before false ++ true :: List.replicate gap false ++
      true :: List.replicate after false) ≠ 0 := by
  have hone : (1 : ℕ) < 2 ^ reg.width := Nat.one_lt_two_pow reg.pos.ne'
  have hback : reg.step^[gap + 1] 1 ^^^ 1 ≠ 0 := fun hzero =>
    reg.iterate_ne_one h hgap (Nat.xor_eq_zero_iff.mp hzero)
  have hstep : ∀ (r m : ℕ), reg.feed r (true :: List.replicate m false) =
      reg.step^[m + 1] (r ^^^ 1) := fun r m => reg.feed_replicate_false _ m
  rw [feed_append, feed_append, feed_replicate_false, iterate_zero, hstep, hstep, Nat.zero_xor]
  exact reg.iterate_ne_zero (Nat.xor_lt_two_pow (reg.iterate_lt hone _) hone) hback _

/-! ## Positions -/

/-- The positions at which two inputs differ. -/
def differing (bits bits' : List Bool) : Finset ℕ :=
  (Finset.range bits.length).filter fun i => bits[i]? ≠ bits'[i]?

/-- The positions of the ones. -/
def ones (bits : List Bool) : Finset ℕ :=
  (Finset.range bits.length).filter fun i => bits[i]? = some true

theorem mem_ones {bits : List Bool} {i : ℕ} : i ∈ ones bits ↔ bits[i]? = some true := by
  rw [ones, Finset.mem_filter, Finset.mem_range, and_iff_right_iff_imp]
  exact fun h => (List.getElem?_eq_some_iff.mp h).1

theorem ones_zipWith_xor {bits bits' : List Bool} (h : bits.length = bits'.length) :
    ones (List.zipWith xor bits bits') = differing bits bits' := by
  ext i
  rw [mem_ones, differing, Finset.mem_filter, Finset.mem_range]
  by_cases hi : i < bits.length
  · have hi' : i < bits'.length := h ▸ hi
    rw [List.getElem?_zipWith, List.getElem?_eq_getElem hi, List.getElem?_eq_getElem hi']
    cases bits[i] <;> cases bits'[i] <;> simp [hi]
  · simp [hi]

theorem card_ones (bits : List Bool) : (ones bits).card = bits.count true := by
  induction bits using List.reverseRecOn with
  | nil => rfl
  | append_singleton bits b ih =>
    have hold : (Finset.range bits.length).filter
        (fun i => (bits ++ [b])[i]? = some true) = ones bits := by
      refine Finset.filter_congr fun i hi => ?_
      rw [List.getElem?_append_left (Finset.mem_range.mp hi)]
    have hlast : (bits ++ [b])[bits.length]? = some b := by simp
    have hnew : bits.length ∉ ones bits := by
      rw [mem_ones, List.getElem?_eq_none le_rfl]
      exact nofun
    rw [ones, List.length_append, List.length_singleton, Finset.range_add_one,
      Finset.filter_insert, hold, hlast, List.count_append, List.count_singleton, ← ih]
    cases b
    · simp
    · simp [Finset.card_insert_of_notMem hnew]

theorem eq_replicate_false {bits : List Bool} (h : true ∉ bits) :
    bits = List.replicate bits.length false :=
  List.eq_replicate_of_mem fun b hb => by
    cases b with
    | false => rfl
    | true => exact absurd hb h

/-- Ones within `n` consecutive positions are a burst. -/
theorem exists_burst {bits : List Bool} {start n : ℕ}
    (h : ∀ i ∈ ones bits, start ≤ i ∧ i < start + n) :
    ∃ before after, bits = List.replicate before false ++ (bits.drop start).take n ++
      List.replicate after false := by
  have hbefore : true ∉ bits.take start := by
    intro hmem
    obtain ⟨i, hi⟩ := List.mem_iff_getElem?.mp hmem
    rw [List.getElem?_take] at hi
    split at hi
    · have hrange := h i (mem_ones.mpr hi)
      omega
    · cases hi
  have hafter : true ∉ (bits.drop start).drop n := by
    intro hmem
    obtain ⟨i, hi⟩ := List.mem_iff_getElem?.mp hmem
    rw [List.getElem?_drop, List.getElem?_drop] at hi
    have hrange := h _ (mem_ones.mpr hi)
    omega
  refine ⟨(bits.take start).length, ((bits.drop start).drop n).length, ?_⟩
  rw [← eq_replicate_false hbefore, ← eq_replicate_false hafter, List.append_assoc,
    List.take_append_drop, List.take_append_drop]

/-- Two ones have zeros before, between and after them. -/
theorem exists_pair {bits : List Bool} (h : bits.count true = 2) :
    ∃ before gap after, before + gap + after + 2 = bits.length ∧
      bits = List.replicate before false ++ true :: List.replicate gap false ++
        true :: List.replicate after false := by
  have hsplit : ∀ {rest : List Bool}, 0 < rest.count true → ∃ n rest',
      rest = List.replicate n false ++ true :: rest' ∧
      rest.count true = rest'.count true + 1 := by
    intro rest hpos
    obtain ⟨zeros, rest', rfl, hzeros⟩ :=
      List.eq_append_cons_of_mem (List.count_pos_iff.mp hpos)
    refine ⟨zeros.length, rest', by rw [← eq_replicate_false hzeros], ?_⟩
    rw [List.count_append, List.count_cons_self, List.count_eq_zero.mpr hzeros, Nat.zero_add]
  obtain ⟨before, rest, rfl, hrest⟩ := hsplit (by omega : 0 < bits.count true)
  obtain ⟨gap, zeros, rfl, hzeros⟩ := hsplit (by omega : 0 < rest.count true)
  have hnone : true ∉ zeros := List.count_eq_zero.mp (by omega)
  refine ⟨before, gap, zeros.length, ?_, ?_⟩
  · simp only [List.length_append, List.length_replicate, List.length_cons]
    omega
  · rw [← eq_replicate_false hnone, List.append_assoc, List.cons_append]

/-- Inputs that differ in two or in an odd number of positions, or only within as many
positions as the register is wide, do not both leave a register empty. -/
theorem feed_ne_zero (hodd : parity reg.width reg.taps = true) {n : ℕ}
    (havoids : reg.avoidsOne n 1 = true) {r : ℕ} {bits bits' : List Bool}
    (hlen : bits.length = bits'.length) (hshort : bits.length ≤ n + 1)
    (hempty : reg.feed r bits = 0)
    (h : (differing bits bits').card = 2 ∨ Odd (differing bits bits').card ∨
      (differing bits bits').Nonempty ∧
        ∃ start, ∀ i ∈ differing bits bits', start ≤ i ∧ i < start + reg.width) :
    reg.feed r bits' ≠ 0 := by
  intro hempty'
  have hxor := reg.feed_xor hlen r r
  rw [hempty, hempty', Nat.xor_self, Nat.xor_self] at hxor
  rw [← ones_zipWith_xor hlen] at h
  rcases h with hpair | hcount | ⟨⟨i, hi⟩, start, hburst⟩
  · rw [card_ones] at hpair
    obtain ⟨before, gap, after, htotal, heq⟩ := exists_pair hpair
    rw [List.length_zipWith] at htotal
    have hgap : gap < n := by omega
    rw [heq] at hxor
    exact reg.feed_pair_ne_zero havoids before after hgap hxor
  · rw [card_ones] at hcount
    exact reg.feed_odd_ne_zero hodd hcount hxor
  · obtain ⟨before, after, heq⟩ := exists_burst hburst
    have hrange := hburst i hi
    have hmem : true ∈ ((List.zipWith xor bits bits').drop start).take reg.width := by
      refine List.mem_iff_getElem?.mpr ⟨i - start, ?_⟩
      rw [List.getElem?_take_of_lt (by omega), List.getElem?_drop,
        Nat.add_sub_cancel' hrange.1]
      exact mem_ones.mp hi
    rw [heq] at hxor
    exact reg.feed_burst_ne_zero (List.length_take_le _ _) hmem before after hxor

end ShiftRegister
