import UhfReader18.Setters

/-!
# The arguments a setter accepts

What a setter checks is spread over `_require`, `_require_range`, a comparison of two
arguments, and what `bytes` makes of numbers that are no bytes. `SetterCall.Accepts` says in
one place which arguments are accepted, and which numbers stand in the data block then, in
the order of the manual.

Results:
1. `SetterCall.data_eq_ok_iff`: a setter encodes exactly the accepted arguments, as the
   manual lays them out.
2. `SetterCall.Accepts.exists_data`: it rejects no accepted argument.
-/

namespace UhfReader18

/-- The arguments of a call are accepted, with these numbers as its data block. -/
def SetterCall.Accepts : SetterCall → List ℤ → Prop
  | setAddress _ newAdr, payload => ∃ n, newAdr.Within 0x00 0xFE n ∧ payload = [n]
  | setPower _ power, payload => ∃ n, power.Within 0 30 n ∧ payload = [n]
  | setScanTime _ scanTime, payload => ∃ n, scanTime.Within 3 255 n ∧ payload = [n]
  | setRegion _ band maxIndex minIndex, payload =>
    ∃ code hi lo, band.freqBand? = some code ∧ maxIndex.Within 0 code.maxIndex hi ∧
      minIndex.Within 0 code.maxIndex lo ∧ lo ≤ hi ∧
      payload = [64 * (code.value / 4) + hi, 64 * (code.value % 4) + lo]
  | setBaudRate _ baud, payload =>
    ∃ rate, baud.readerBaudRate? = some rate ∧ payload = [rate.value]
  | acoustoOpticControl _ activeT silentT times, payload =>
    ∃ active silent count, activeT.Within 0 0xFF active ∧ silentT.Within 0 0xFF silent ∧
      times.Within 0 0xFF count ∧ payload = [active, silent, count]
  | setWiegand _ wgFormat dataInterval pulseWidth pulseInterval, payload =>
    -- a flag is accepted with any bits that fit in its byte
    ∃ flags delay width interval, wgFormat.wiegandFormat? = some flags ∧ flags.value ≤ 255 ∧
      dataInterval.Within 0 0xFF delay ∧ pulseWidth.Within 1 0xFF width ∧
      pulseInterval.Within 1 0xFF interval ∧
      payload = [(flags.value : ℤ), delay, width, interval]
  | setWorkMode _ workMode state memInven firstAdr wordNum tagTime, payload =>
    ∃ mode flags target first words delay, workMode.workMode? = some mode ∧
      state.modeState? = some flags ∧ flags.value ≤ 255 ∧ memInven.memInven? = some target ∧
      firstAdr.Within 0 0xFF first ∧
      wordNum.Within 1 (if flags.hasSyris485 then 4 else 32) words ∧
      tagTime.Within 0 0xFF delay ∧
      payload = [mode.value, (flags.value : ℤ), target.value, first, words, delay]
  | setEasAccuracy _ accuracy, payload => ∃ n, accuracy.Within 0 8 n ∧ payload = [n]
  | setSyrisResponseOffset _ offsetMs, payload => ∃ n, offsetMs.Within 0 100 n ∧ payload = [n]
  | setTriggerOffset _ triggerS, payload => ∃ n, triggerS.Within 0 0xFF n ∧ payload = [n]

/-- A setter encodes exactly the accepted arguments, as the manual lays them out. -/
theorem SetterCall.data_eq_ok_iff {call : SetterCall} {data : Bytes} :
    call.data = .ok data ↔ call.Accepts (data.map ord) := by
  cases call with
  | setAddress _ number
  | setPower _ number
  | setScanTime _ number
  | setEasAccuracy _ number
  | setSyrisResponseOffset _ number
  | setTriggerOffset _ number =>
    -- one number is checked and sent
    exact bind_eq_ok_iff.trans (exists_congr fun n =>
      and_congr requireRange_eq_ok_iff bytesOf_eq_ok_iff)
  | setBaudRate _ baud =>
    exact bind_eq_ok_iff.trans (exists_congr fun rate =>
      and_congr require_eq_ok_iff bytesOf_eq_ok_iff)
  | setRegion _ band maxIndex minIndex => exact setRegionData_eq_ok_iff
  | acoustoOpticControl _ activeT silentT times =>
    show acoustoOpticControlData activeT silentT times = .ok data ↔ _
    unfold acoustoOpticControlData Accepts
    simp only [bind_eq_ok_iff, requireRange_eq_ok_iff, bytesOf_eq_ok_iff]
    constructor
    · rintro ⟨active, hactive, silent, hsilent, count, hcount, h⟩
      exact ⟨active, silent, count, hactive, hsilent, hcount, h⟩
    · rintro ⟨active, silent, count, hactive, hsilent, hcount, h⟩
      exact ⟨active, hactive, silent, hsilent, count, hcount, h⟩
  | setWiegand _ wgFormat dataInterval pulseWidth pulseInterval =>
    exact setWiegandData_eq_ok_iff
  | setWorkMode _ workMode state memInven firstAdr wordNum tagTime =>
    exact setWorkModeData_eq_ok_iff

theorem PyValue.Within.isByte {value : PyValue} {lo hi n : ℤ} (h : value.Within lo hi n)
    (hlo : 0 ≤ lo) (hhi : hi ≤ 255) : IsByte n :=
  ⟨hlo.trans h.2.1, h.2.2.trans hhi⟩

/-- The data block of an accepted call are some bytes, six of them at most. -/
theorem SetterCall.Accepts.isBlock {call : SetterCall} {payload : List ℤ}
    (h : call.Accepts payload) : payload.length ≤ 6 ∧ ∀ n ∈ payload, IsByte n := by
  cases call with
  | setAddress _ number
  | setPower _ number
  | setScanTime _ number
  | setEasAccuracy _ number
  | setSyrisResponseOffset _ number
  | setTriggerOffset _ number =>
    obtain ⟨n, hn, rfl⟩ := h
    exact ⟨by simp, List.forall_mem_singleton.mpr (hn.isByte (by decide) (by decide))⟩
  | setBaudRate _ baud =>
    obtain ⟨rate, _, rfl⟩ := h
    refine ⟨by simp, List.forall_mem_singleton.mpr ?_⟩
    cases rate <;> exact ⟨by decide, by decide⟩
  | setRegion _ band maxIndex minIndex =>
    obtain ⟨code, hi, lo, _, hmax, hmin, _, rfl⟩ := h
    have hlimit := code.maxIndex_lt
    have hcode : 0 ≤ code.value ∧ code.value < 4 := by cases code <;> decide
    have hhi := hmax.2
    have hlo := hmin.2
    refine ⟨by simp, ?_⟩
    simp only [List.forall_mem_cons]
    exact ⟨⟨by omega, by omega⟩, ⟨by omega, by omega⟩, fun _ hn => absurd hn List.not_mem_nil⟩
  | acoustoOpticControl _ activeT silentT times =>
    obtain ⟨active, silent, count, hactive, hsilent, hcount, rfl⟩ := h
    refine ⟨by simp, ?_⟩
    simp only [List.forall_mem_cons]
    exact ⟨hactive.isByte le_rfl le_rfl, hsilent.isByte le_rfl le_rfl,
      hcount.isByte le_rfl le_rfl, fun _ hn => absurd hn List.not_mem_nil⟩
  | setWiegand _ wgFormat dataInterval pulseWidth pulseInterval =>
    obtain ⟨flags, delay, width, interval, _, hflags, hdelay, hwidth, hinterval, rfl⟩ := h
    refine ⟨by simp, ?_⟩
    simp only [List.forall_mem_cons]
    exact ⟨⟨Int.natCast_nonneg _, Int.ofNat_le.mpr hflags⟩, hdelay.isByte le_rfl le_rfl,
      hwidth.isByte Int.one_nonneg le_rfl, hinterval.isByte Int.one_nonneg le_rfl,
      fun _ hn => absurd hn List.not_mem_nil⟩
  | setWorkMode _ workMode state memInven firstAdr wordNum tagTime =>
    obtain ⟨mode, flags, target, first, words, delay, _, _, hflags, _, hfirst, hwords, hdelay,
      rfl⟩ := h
    have hmode : IsByte mode.value := by cases mode <;> exact ⟨by decide, by decide⟩
    have htarget : IsByte target.value := by cases target <;> exact ⟨by decide, by decide⟩
    have hmax : (if flags.hasSyris485 then 4 else 32 : ℤ) ≤ 255 := by split <;> decide
    refine ⟨by simp, ?_⟩
    simp only [List.forall_mem_cons]
    exact ⟨hmode, ⟨Int.natCast_nonneg _, Int.ofNat_le.mpr hflags⟩, htarget,
      hfirst.isByte le_rfl le_rfl, hwords.isByte Int.one_nonneg hmax, hdelay.isByte le_rfl le_rfl,
      fun _ hn => absurd hn List.not_mem_nil⟩

theorem map_ord_byteOf {values : List ℤ} (h : ∀ n ∈ values, IsByte n) :
    (values.map byteOf).map ord = values :=
  map_ord_of_bytesOf (bytesOf_ok h)

/-- A setter encodes the arguments it accepts. -/
theorem SetterCall.Accepts.exists_data {call : SetterCall} {payload : List ℤ}
    (h : call.Accepts payload) : ∃ data, call.data = .ok data ∧ data.map ord = payload := by
  have hord := map_ord_byteOf h.isBlock.2
  refine ⟨payload.map byteOf, ?_, hord⟩
  rw [data_eq_ok_iff, hord]
  exact h

end UhfReader18
