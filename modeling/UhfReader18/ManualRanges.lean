import UhfReader18.AllOrNothing

/-!
# The ranges of the manual

Section 8.4 of the manual gives every byte of a data block a range, and reserves bits of
three of them. `Manual.InRange` states that on the bytes of a block, with no regard to how a
client comes by them.

The setters check numbers and classes. `WiegandFormat` and `ModeState` are open: an instance
can carry bits that have no name, and these go to the wire with the others.

Results:
1. `SetterCall.inRange_iff`: an accepted block is in the ranges if and only if the flags of
   the call are named ones.
2. `SetterCall.sent_inRange_iff`: the same for every frame a setter writes.
-/

namespace UhfReader18

namespace Manual

/-- Bits `low` to 7 of a byte are zero. -/
def Reserved (low : ℕ) (b : UInt8) : Prop :=
  ∀ i, low ≤ i → i ≤ 7 → b.toNat.testBit i = false

/-- The highest channel number of a band code (8.4.2); the other codes are reserved. -/
def channelLimit : ℤ → Option ℤ
  | 0b0000 => some 62
  | 0b0001 => some 19
  | 0b0010 => some 49
  | 0b0011 => some 31
  | _ => none

/-- The data blocks of 8.4.2 to 8.4.9 and of 8.4.11 to 8.4.13. -/
def InRange : Command → Bytes → Prop
  | .setRegion, [maxFre, minFre] =>
    -- two bits of each byte are the band code, the others the channel number
    ∃ limit, channelLimit (4 * (ord maxFre / 64) + ord minFre / 64) = some limit ∧
      ord minFre % 64 ≤ ord maxFre % 64 ∧ ord maxFre % 64 ≤ limit
  | .setAddress, [address] => ord address ≤ 0xFE
  | .setScanTime, [scanTime] => 3 ≤ ord scanTime
  | .setBaudRate, [baudRate] => ord baudRate ∈ [0, 1, 2, 5, 6]
  | .setPower, [power] => ord power ≤ 30
  | .acoustoOpticControl, [_, _, _] => True
  | .setWiegand, [wgMode, _, wgPulseWidth, wgPulseInterval] =>
    Reserved 2 wgMode ∧ 1 ≤ ord wgPulseWidth ∧ 1 ≤ ord wgPulseInterval
  | .setWorkMode, [readMode, modeState, memInven, _, wordNum, _] =>
    Reserved 2 readMode ∧ Reserved 5 modeState ∧ ord memInven ≤ 6 ∧ 1 ≤ ord wordNum ∧
      ord wordNum ≤ if modeState.toNat.testBit 4 then 4 else 32
  | .setEasAccuracy, [accuracy] => ord accuracy ≤ 8
  | .syrisResponseOffset, [offsetTime] => ord offsetTime ≤ 100
  -- 255 asks for the current value
  | .triggerOffset, [_] => True
  | _, _ => False

theorem reserved_iff_lt {low : ℕ} {b : UInt8} : Reserved low b ↔ b.toNat < 2 ^ low := by
  constructor
  · intro h
    refine Nat.lt_pow_two_of_testBit _ fun i hi => ?_
    by_cases hseven : i ≤ 7
    · exact h i hi hseven
    · have hbyte : b.toNat < 2 ^ 8 := b.toNat_lt
      exact Nat.testBit_lt_two_pow
        (hbyte.trans_le (Nat.pow_le_pow_right (by decide) (Nat.lt_of_not_le hseven)))
  · intro h i hi _
    exact Nat.testBit_lt_two_pow (h.trans_le (Nat.pow_le_pow_right (by decide) hi))

/-- Reserved bits are the ones outside the mask of the others. -/
theorem reserved_iff_and {low : ℕ} {b : UInt8} :
    Reserved low b ↔ b.toNat &&& (2 ^ low - 1) = b.toNat := by
  rw [reserved_iff_lt, Nat.and_two_pow_sub_one_eq_mod, Nat.mod_eq_iff_lt (Nat.two_pow_pos low).ne']

end Manual

theorem ModeState.hasSyris485_eq (self : ModeState) :
    self.hasSyris485 = self.value.testBit 4 := by
  have hand : self.value &&& 2 ^ 4 = (self.value.testBit 4).toNat * 2 ^ 4 :=
    Nat.and_two_pow self.value 4
  show decide (self.value &&& 2 ^ 4 = 2 ^ 4) = self.value.testBit 4
  rw [hand]
  cases self.value.testBit 4 <;> rfl

theorem FreqBand.channelLimit_value (band : FreqBand) :
    Manual.channelLimit band.value = some band.maxIndex := by
  cases band <;> rfl

/-! ## Accepted blocks -/

theorem forall_eq_some_iff {α : Type} {o : Option α} {a : α} (h : o = some a) {p : α → Prop} :
    (∀ b, o = some b → p b) ↔ p a := by
  subst h
  exact ⟨fun hall => hall a rfl, fun ha b hb => Option.some.inj hb ▸ ha⟩

theorem setRegion_inRange {maxFre minFre : UInt8} {code : FreqBand} {hi lo : ℤ}
    (hmax : 0 ≤ hi ∧ hi ≤ code.maxIndex) (hmin : 0 ≤ lo ∧ lo ≤ code.maxIndex) (hle : lo ≤ hi)
    (hhi : ord maxFre = 64 * (code.value / 4) + hi)
    (hlo : ord minFre = 64 * (code.value % 4) + lo) :
    Manual.InRange .setRegion [maxFre, minFre] := by
  have hlimit := code.maxIndex_lt
  have hdiv : 4 * (ord maxFre / 64) + ord minFre / 64 = code.value := by omega
  have hmaxIndex : ord maxFre % 64 = hi := by omega
  have hminIndex : ord minFre % 64 = lo := by omega
  refine ⟨code.maxIndex, ?_, ?_, ?_⟩
  · rw [hdiv, code.channelLimit_value]
  · rw [hmaxIndex, hminIndex]
    exact hle
  · rw [hmaxIndex]
    exact hmax.2

/-- An accepted block is in the ranges of the manual if and only if the flags of the call are
named ones. -/
theorem SetterCall.inRange_iff {call : SetterCall} {data : Bytes}
    (h : call.Accepts (data.map ord)) :
    Manual.InRange call.command data ↔ call.FlagsNamed := by
  cases call with
  | setAddress _ number
  | setPower _ number
  | setEasAccuracy _ number
  | setSyrisResponseOffset _ number =>
    obtain ⟨n, hn, h⟩ := h
    obtain ⟨b, rfl, rfl⟩ := List.map_eq_singleton_iff.mp h
    exact iff_of_true hn.2.2 trivial
  | setScanTime _ scanTime =>
    obtain ⟨n, hn, h⟩ := h
    obtain ⟨b, rfl, rfl⟩ := List.map_eq_singleton_iff.mp h
    exact iff_of_true hn.2.1 trivial
  | setTriggerOffset _ triggerS =>
    obtain ⟨n, hn, h⟩ := h
    obtain ⟨b, rfl, rfl⟩ := List.map_eq_singleton_iff.mp h
    exact Iff.rfl
  | setBaudRate _ baud =>
    obtain ⟨rate, _, h⟩ := h
    obtain ⟨b, rfl, hb⟩ := List.map_eq_singleton_iff.mp h
    refine iff_of_true (show ord b ∈ [0, 1, 2, 5, 6] from ?_) trivial
    rw [hb]
    cases rate <;> decide
  | setRegion _ band maxIndex minIndex =>
    obtain ⟨code, hi, lo, _, hmax, hmin, hle, h⟩ := h
    obtain ⟨maxFre, rest, rfl, hhi, h⟩ := List.map_eq_cons_iff.mp h
    obtain ⟨minFre, rfl, hlo⟩ := List.map_eq_singleton_iff.mp h
    exact iff_of_true (setRegion_inRange hmax.2 hmin.2 hle hhi hlo) trivial
  | acoustoOpticControl _ activeT silentT times =>
    obtain ⟨active, silent, count, _, _, _, h⟩ := h
    obtain ⟨b0, rest, rfl, _, h⟩ := List.map_eq_cons_iff.mp h
    obtain ⟨b1, rest, rfl, _, h⟩ := List.map_eq_cons_iff.mp h
    obtain ⟨b2, rfl, _⟩ := List.map_eq_singleton_iff.mp h
    exact Iff.rfl
  | setWiegand _ wgFormat dataInterval pulseWidth pulseInterval =>
    obtain ⟨flags, delay, width, interval, hflags, _, _, hwidth, hinterval, h⟩ := h
    obtain ⟨b0, b1, b2, b3, rfl, hvalue, rfl, rfl, rfl⟩ := exists_four h
    have hbits : b0.toNat = flags.value := Int.ofNat_inj.mp hvalue
    have hreserved : Manual.Reserved 2 b0 ↔
        flags.value &&& WiegandFormat.mask = flags.value := by
      rw [Manual.reserved_iff_and, hbits]
      rfl
    refine Iff.trans ?_ (forall_eq_some_iff hflags).symm
    rw [← hreserved]
    exact and_iff_left ⟨hwidth.2.1, hinterval.2.1⟩
  | setWorkMode _ workMode state memInven firstAdr wordNum tagTime =>
    obtain ⟨mode, flags, target, first, words, delay, _, hflags, _, _, _, hwords, _, h⟩ := h
    obtain ⟨b0, b1, b2, b3, b4, b5, rfl, hvalue, hstate, hmem, rfl, rfl, rfl⟩ := exists_six h
    have hbits : b1.toNat = flags.value := Int.ofNat_inj.mp hstate
    have hmode : Manual.Reserved 2 b0 := by
      have hlt : ord b0 < 4 := by
        rw [hvalue]
        cases mode <;> decide
      exact Manual.reserved_iff_lt.mpr (Int.ofNat_lt.mp hlt)
    have htarget : ord b2 ≤ 6 := by
      rw [hmem]
      cases target <;> decide
    have hreserved : Manual.Reserved 5 b1 ↔ flags.value &&& ModeState.mask = flags.value := by
      rw [Manual.reserved_iff_and, hbits]
      rfl
    rw [flags.hasSyris485_eq, ← hbits] at hwords
    refine Iff.trans ?_ (forall_eq_some_iff hflags).symm
    rw [← hreserved]
    exact ⟨fun hrange => hrange.2.1, fun hnamed => ⟨hmode, hnamed, htarget, hwords.2⟩⟩

/-! ## Frames on the wire -/

/-- Whatever a setter writes, it writes within the ranges of the manual if and only if the
flags it was given are named ones. For every client on a connection and all arguments whose
frame reaches the wire, the frame is well formed, and its data block is in the ranges of the
command just then. -/
theorem sent_inRange_iff {σ : Type} (api : SocketApi σ) (call : SetterCall)
    (client : RfidClient (σ × List IoCall)) (socket socket' : σ) (log receives : List IoCall)
    (frame : Bytes) (hbefore : client.socket = some (socket, log))
    (hafter : (call.perform (recorded api) client).2.socket =
      some (socket', log ++ .sendall frame :: receives)) :
    ∃ f : CommandFrame, frame = f.raw ∧ ord f.command = call.command.value ∧
      (Manual.InRange call.command f.data ↔ call.FlagsNamed) := by
  have haccepted : ∃ address payload, (CommandCall.setter call).Accepts address payload := by
    by_contra hnone
    push Not at hnone
    -- a rejected call would have left the record as it was
    obtain ⟨e, hperform⟩ : ∃ e, (CommandCall.setter call).perform (recorded api) client =
        (.error e, client) := CommandCall.perform_rejected (recorded api) (Or.inr hnone)
    have hsame : (call.perform (recorded api) client).2 = client := congrArg Prod.snd hperform
    rw [hsame, hbefore, Option.some.injEq, Prod.mk.injEq] at hafter
    exact absurd hafter.2 (by simp)
  obtain ⟨address, payload, h⟩ := haccepted
  obtain ⟨f, _, hcommand, rfl, socket'', receives', hwritten, _⟩ :=
    CommandCall.perform_accepted api hbefore h
  have hsent : (call.perform (recorded api) client).2.socket = _ := hwritten
  rw [hsent, List.append_assoc, Option.some.injEq, Prod.mk.injEq] at hafter
  have hframe := List.head_eq_of_cons_eq (List.append_cancel_left hafter.2)
  exact ⟨f, (IoCall.sendall.inj hframe).symm, hcommand, SetterCall.inRange_iff h.2⟩

/-- A socket to a reader that never answers. -/
def unanswered : SocketApi Unit where
  sendall _ socket := (.ok (), socket)
  recv _ socket := (.error timedOut, socket)

/-- A format with one named flag. -/
theorem sent_inRange_34bit :
    let call : SetterCall := .setWiegand (.int 0) (.member (.wiegandFormat ⟨1⟩) "" "") (.int 30)
      (.int 10) (.int 15)
    ∃ f : CommandFrame,
      (call.perform (recorded unanswered) { socket := some ((), []) }).2.socket =
        some ((), [.sendall f.raw, .recv 4096]) ∧
      Manual.InRange .setWiegand f.data := by
  intro call
  have hafter : (call.perform (recorded unanswered) { socket := some ((), []) }).2.socket =
      some ((), [.sendall (withCrc [8, 0, 0x34, 1, 30, 10, 15]), .recv 4096]) := by
    decide +kernel
  obtain ⟨f, hframe, _, hrange⟩ := sent_inRange_iff unanswered call { socket := some ((), []) }
    () () [] [.recv 4096] _ rfl hafter
  refine ⟨f, hframe ▸ hafter, hrange.mpr fun flags hflags => ?_⟩
  cases hflags
  rfl

/-- `WiegandFormat(4)` has no name, is accepted, and sets a reserved bit on the wire. -/
theorem not_sent_inRange :
    let call : SetterCall := .setWiegand (.int 0) (.member (.wiegandFormat ⟨4⟩) "" "") (.int 30)
      (.int 10) (.int 15)
    (call.perform (recorded unanswered) { socket := some ((), []) }).2.socket =
        some ((), [.sendall (withCrc [8, 0, 0x34, 4, 30, 10, 15]), .recv 4096]) ∧
      ¬ Manual.InRange .setWiegand [4, 30, 10, 15] := by
  refine ⟨by decide +kernel, fun hrange => ?_⟩
  have hbit := hrange.1 2 (by decide) (by decide)
  exact absurd hbit (by decide)

end UhfReader18
