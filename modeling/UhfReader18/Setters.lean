import UhfReader18.Reader

/-!
# Setters and getters agree

What a reader holds is a record of settings. A setter that is accepted replaces the
settings it is about by its arguments, and nothing else; the getters read the record.
Between the two stand the encoders of the setters, the decoders of the two getters, and the
bytes of the reader.

Results:
1. `setRegionData_eq_ok_iff`, `setWiegandData_eq_ok_iff`, `setWorkModeData_eq_ok_iff`: what
   the setters with several arguments encode.
2. `SetterCall.effect`: what a setter puts on the wire changes the settings of a reader to
   its arguments.
3. `Ready.perform`: a setter call changes the settings if and only if it is accepted.
4. `setters_read_back`: after any run of setter calls the getters return the settings.
-/

namespace UhfReader18

/-! ## Settings -/

/-- The parameters of a reader. -/
structure Settings where
  address : ℤ
  band : Option FreqBand
  maxIndex : ℤ
  minIndex : ℤ
  power : ℤ
  scanTime : ℤ
  wiegandFormat : WiegandFormat
  wgDataInterval : ℤ
  wgPulseWidth : ℤ
  wgPulseInterval : ℤ
  workMode : WorkMode
  state : ModeState
  memInven : Option MemInven
  firstAdr : ℤ
  wordNum : ℤ
  tagTime : ℤ
  easAccuracy : ℤ
  syrisOffset : ℤ
  deriving DecidableEq, Repr

/-- The parameters as the two getters return them. -/
def Settings.of (info : ReaderInfo) (work : WorkModeInfo) : Settings where
  address := info.address
  band := info.band
  maxIndex := info.maxIndex
  minIndex := info.minIndex
  power := info.power
  scanTime := info.scanTime
  wiegandFormat := work.wiegandFormat
  wgDataInterval := work.wgDataInterval
  wgPulseWidth := work.wgPulseWidth
  wgPulseInterval := work.wgPulseInterval
  workMode := work.workMode
  state := work.state
  memInven := work.memInven
  firstAdr := work.firstAdr
  wordNum := work.wordNum
  tagTime := work.tagTime
  easAccuracy := work.easAccuracy
  syrisOffset := work.syrisOffset

/-- A call of one of the setters. -/
inductive SetterCall
  | setAddress (currentAdr newAdr : PyValue)
  | setPower (adr power : PyValue)
  | setScanTime (adr scanTime : PyValue)
  | setRegion (adr band maxIndex minIndex : PyValue)
  | setBaudRate (adr baud : PyValue)
  | acoustoOpticControl (adr activeT silentT times : PyValue)
  | setWiegand (adr wgFormat dataInterval pulseWidth pulseInterval : PyValue)
  | setWorkMode (adr workMode state memInven firstAdr wordNum tagTime : PyValue)
  | setEasAccuracy (adr accuracy : PyValue)
  | setSyrisResponseOffset (adr offsetMs : PyValue)
  | setTriggerOffset (adr triggerS : PyValue)
  deriving DecidableEq

namespace SetterCall

def perform {σ : Type} (api : SocketApi σ) :
    SetterCall → RfidClient σ → Except PyError RfidResponse × RfidClient σ
  | setAddress currentAdr newAdr => UhfReader18.setAddress api currentAdr newAdr
  | setPower adr power => UhfReader18.setPower api adr power
  | setScanTime adr scanTime => UhfReader18.setScanTime api adr scanTime
  | setRegion adr band maxIndex minIndex => UhfReader18.setRegion api adr band maxIndex minIndex
  | setBaudRate adr baud => UhfReader18.setBaudRate api adr baud
  | acoustoOpticControl adr activeT silentT times =>
    UhfReader18.acoustoOpticControl api adr activeT silentT times
  | setWiegand adr wgFormat dataInterval pulseWidth pulseInterval =>
    UhfReader18.setWiegand api adr wgFormat dataInterval pulseWidth pulseInterval
  | setWorkMode adr workMode state memInven firstAdr wordNum tagTime =>
    UhfReader18.setWorkMode api adr workMode state memInven firstAdr wordNum tagTime
  | setEasAccuracy adr accuracy => UhfReader18.setEasAccuracy api adr accuracy
  | setSyrisResponseOffset adr offsetMs => UhfReader18.setSyrisResponseOffset api adr offsetMs
  | setTriggerOffset adr triggerS => UhfReader18.setTriggerOffset api adr triggerS

/-- What a setter call is meant to do: put its arguments in the place of the settings it is
about. -/
def apply : SetterCall → Settings → Settings
  | setAddress _ newAdr, s => { s with address := newAdr.int?.getD s.address }
  | setPower _ power, s => { s with power := power.int?.getD s.power }
  | setScanTime _ scanTime, s => { s with scanTime := scanTime.int?.getD s.scanTime }
  | setRegion _ band maxIndex minIndex, s =>
    { s with
      band := band.freqBand?
      maxIndex := maxIndex.int?.getD s.maxIndex
      minIndex := minIndex.int?.getD s.minIndex }
  | setWiegand _ wgFormat dataInterval pulseWidth pulseInterval, s =>
    { s with
      wiegandFormat := wgFormat.wiegandFormat?.getD s.wiegandFormat
      wgDataInterval := dataInterval.int?.getD s.wgDataInterval
      wgPulseWidth := pulseWidth.int?.getD s.wgPulseWidth
      wgPulseInterval := pulseInterval.int?.getD s.wgPulseInterval }
  | setWorkMode _ workMode state memInven firstAdr wordNum tagTime, s =>
    { s with
      workMode := workMode.workMode?.getD s.workMode
      state := state.modeState?.getD s.state
      memInven := memInven.memInven?
      firstAdr := firstAdr.int?.getD s.firstAdr
      wordNum := wordNum.int?.getD s.wordNum
      tagTime := tagTime.int?.getD s.tagTime }
  | setEasAccuracy _ accuracy, s => { s with easAccuracy := accuracy.int?.getD s.easAccuracy }
  | setSyrisResponseOffset _ offsetMs, s =>
    { s with syrisOffset := offsetMs.int?.getD s.syrisOffset }
  | setBaudRate _ _, s => s
  | acoustoOpticControl _ _ _ _, s => s
  | setTriggerOffset _ _, s => s

/-- Flag arguments carry named flags only. -/
def FlagsNamed : SetterCall → Prop
  | setWiegand _ wgFormat _ _ _ => ∀ f, wgFormat.wiegandFormat? = some f →
    f.value &&& WiegandFormat.mask = f.value
  | setWorkMode _ _ state _ _ _ _ => ∀ f, state.modeState? = some f →
    f.value &&& ModeState.mask = f.value
  | _ => True

/-- The settings a call is about are its arguments. -/
def Stored : SetterCall → Settings → Prop
  | setAddress _ newAdr, s => newAdr.int? = some s.address
  | setPower _ power, s => power.int? = some s.power
  | setScanTime _ scanTime, s => scanTime.int? = some s.scanTime
  | setRegion _ band maxIndex minIndex, s =>
    (∃ code, band.freqBand? = some code ∧ s.band = some code) ∧
      maxIndex.int? = some s.maxIndex ∧ minIndex.int? = some s.minIndex
  | setWiegand _ wgFormat dataInterval pulseWidth pulseInterval, s =>
    wgFormat.wiegandFormat? = some s.wiegandFormat ∧
      dataInterval.int? = some s.wgDataInterval ∧ pulseWidth.int? = some s.wgPulseWidth ∧
      pulseInterval.int? = some s.wgPulseInterval
  | setWorkMode _ workMode state memInven firstAdr wordNum tagTime, s =>
    workMode.workMode? = some s.workMode ∧ state.modeState? = some s.state ∧
      (∃ target, memInven.memInven? = some target ∧ s.memInven = some target) ∧
      firstAdr.int? = some s.firstAdr ∧ wordNum.int? = some s.wordNum ∧
      tagTime.int? = some s.tagTime
  | setEasAccuracy _ accuracy, s => accuracy.int? = some s.easAccuracy
  | setSyrisResponseOffset _ offsetMs, s => offsetMs.int? = some s.syrisOffset
  | setBaudRate _ _, _ => True
  | acoustoOpticControl _ _ _ _, _ => True
  | setTriggerOffset _ _, _ => True

/-! ## What a setter sends -/

def adr : SetterCall → PyValue
  | setAddress currentAdr _ => currentAdr
  | setPower adr _ => adr
  | setScanTime adr _ => adr
  | setRegion adr _ _ _ => adr
  | setBaudRate adr _ => adr
  | acoustoOpticControl adr _ _ _ => adr
  | setWiegand adr _ _ _ _ => adr
  | setWorkMode adr _ _ _ _ _ _ => adr
  | setEasAccuracy adr _ => adr
  | setSyrisResponseOffset adr _ => adr
  | setTriggerOffset adr _ => adr

def command : SetterCall → Command
  | setAddress _ _ => .setAddress
  | setPower _ _ => .setPower
  | setScanTime _ _ => .setScanTime
  | setRegion _ _ _ _ => .setRegion
  | setBaudRate _ _ => .setBaudRate
  | acoustoOpticControl _ _ _ _ => .acoustoOpticControl
  | setWiegand _ _ _ _ _ => .setWiegand
  | setWorkMode _ _ _ _ _ _ _ => .setWorkMode
  | setEasAccuracy _ _ => .setEasAccuracy
  | setSyrisResponseOffset _ _ => .syrisResponseOffset
  | setTriggerOffset _ _ => .triggerOffset

def data : SetterCall → Except PyError Bytes
  | setAddress _ newAdr => setAddressData newAdr
  | setPower _ power => setPowerData power
  | setScanTime _ scanTime => setScanTimeData scanTime
  | setRegion _ band maxIndex minIndex => setRegionData band maxIndex minIndex
  | setBaudRate _ baud => setBaudRateData baud
  | acoustoOpticControl _ activeT silentT times => acoustoOpticControlData activeT silentT times
  | setWiegand _ wgFormat dataInterval pulseWidth pulseInterval =>
    setWiegandData wgFormat dataInterval pulseWidth pulseInterval
  | setWorkMode _ workMode state memInven firstAdr wordNum tagTime =>
    setWorkModeData workMode state memInven firstAdr wordNum tagTime
  | setEasAccuracy _ accuracy => setEasAccuracyData accuracy
  | setSyrisResponseOffset _ offsetMs => setSyrisResponseOffsetData offsetMs
  | setTriggerOffset _ triggerS => setTriggerOffsetData triggerS

/-- Every setter checks and encodes its arguments, and then runs its command. -/
theorem exists_perform_eq (call : SetterCall) :
    ∃ action, ∀ (σ : Type) (api : SocketApi σ) (self : RfidClient σ),
      call.perform api self = setter api call.adr call.command call.data action self := by
  cases call <;> exact ⟨_, fun _ _ _ => rfl⟩

end SetterCall

/-! ## What the getters decode -/

/-- The work mode in the two low bits of a byte. -/
def WorkMode.ofByte (b : UInt8) : WorkMode :=
  (enumOrNone members value (Int.land (ord b) 0b11)).getD .answer

namespace Reader

variable (self : Reader)

def decodedInfo : ReaderInfo where
  address := ord self.address
  version := s!"{ord self.version}.{ord self.subVersion}"
  readerModel := enumOrNone ReaderType.members ReaderType.value (ord self.readerType)
  protocols := ⟨(ord self.protocols).toNat &&& Protocol.mask⟩
  band := (FreqBand.unpack (ord self.maxFre) (ord self.minFre)).1
  maxIndex := (FreqBand.unpack (ord self.maxFre) (ord self.minFre)).2.1
  minIndex := (FreqBand.unpack (ord self.maxFre) (ord self.minFre)).2.2
  power := ord self.power
  scanTime := ord self.scanTime
  raw := self.info

def decodedWorkMode : WorkModeInfo where
  wiegandFormat := ⟨(ord self.wgMode).toNat &&& WiegandFormat.mask⟩
  wgDataInterval := ord self.wgDataInterval
  wgPulseWidth := ord self.wgPulseWidth
  wgPulseInterval := ord self.wgPulseInterval
  workMode := WorkMode.ofByte self.readMode
  state := ⟨(ord self.modeState).toNat &&& ModeState.mask⟩
  memInven := enumOrNone MemInven.members MemInven.value (ord self.memInven)
  firstAdr := ord self.firstAdr
  wordNum := ord self.wordNum
  tagTime := ord self.tagTime
  easAccuracy := ord self.accuracy
  syrisOffset := ord self.offsetTime
  raw := self.workMode

/-- The settings a reader holds. -/
def settings : Settings := .of self.decodedInfo self.decodedWorkMode

theorem fromBytes_info : ReaderInfo.fromBytes (ord self.address) self.info =
    .ok self.decodedInfo := by
  rfl

end Reader

/-- Two bits are always a work mode. -/
theorem WorkMode.enumOf_ofByte (b : UInt8) :
    enumOf "WorkMode" members value (Int.land (ord b) 0b11) = .ok (ofByte b) := by
  have hbits : ∀ n < 4, (enumOrNone members value ((n : ℕ) : ℤ)).isSome := by decide
  have hland : Int.land (ord b) 0b11 = ((b.toNat &&& 3 : ℕ) : ℤ) := rfl
  obtain ⟨m, hm⟩ := Option.isSome_iff_exists.mp
    (hbits (b.toNat &&& 3) (Nat.lt_succ_of_le Nat.and_le_right))
  rw [← hland] at hm
  rw [enumOf, ofByte, hm]
  rfl

/-- The fields of a payload of at least twelve bytes; the bytes after these are ignored. -/
theorem WorkModeInfo.fromBytes_cons (b0 b1 b2 b3 b4 b5 b6 b7 b8 b9 b10 b11 : UInt8)
    (rest : Bytes) :
    fromBytes (b0 :: b1 :: b2 :: b3 :: b4 :: b5 :: b6 :: b7 :: b8 :: b9 :: b10 :: b11 :: rest) =
      .ok {
        wiegandFormat := ⟨b0.toNat &&& WiegandFormat.mask⟩
        wgDataInterval := ord b1
        wgPulseWidth := ord b2
        wgPulseInterval := ord b3
        workMode := WorkMode.ofByte b4
        state := ⟨b5.toNat &&& ModeState.mask⟩
        memInven := enumOrNone MemInven.members MemInven.value (ord b6)
        firstAdr := ord b7
        wordNum := ord b8
        tagTime := ord b9
        easAccuracy := ord b10
        syrisOffset := ord b11
        raw :=
          b0 :: b1 :: b2 :: b3 :: b4 :: b5 :: b6 :: b7 :: b8 :: b9 :: b10 :: b11 :: rest } := by
  have hmode := WorkMode.enumOf_ofByte b4
  have hlong : ¬ (b0 :: b1 :: b2 :: b3 :: b4 :: b5 :: b6 :: b7 :: b8 :: b9 :: b10 :: b11 ::
      rest).length < 12 := Nat.not_lt.mpr (Nat.le_add_left 12 rest.length)
  unfold fromBytes
  rw [if_neg hlong]
  simp only [index, List.getElem?_cons_zero, List.getElem?_cons_succ, bind, Except.bind, pure,
    Except.pure, hmode]
  rfl

theorem Reader.fromBytes_workMode (self : Reader) :
    WorkModeInfo.fromBytes self.workMode = .ok self.decodedWorkMode :=
  WorkModeInfo.fromBytes_cons _ _ _ _ _ _ _ _ _ _ _ _ []

theorem WorkMode.ofByte_value (m : WorkMode) : ofByte (byteOf m.value) = m := by
  cases m <;> decide

/-! ## What a setter encodes -/

/-- An index within a band has six bits. -/
theorem PyValue.Within.index {value : PyValue} {band : FreqBand} {index : ℤ}
    (h : value.Within 0 band.maxIndex index) : 0 ≤ index ∧ index < 64 :=
  ⟨h.2.1, lt_of_le_of_lt h.2.2 band.maxIndex_lt⟩

theorem setRegionData_eq_ok_iff {band maxIndex minIndex : PyValue} {data : Bytes} :
    setRegionData band maxIndex minIndex = .ok data ↔
      ∃ code hi lo, band.freqBand? = some code ∧ maxIndex.Within 0 code.maxIndex hi ∧
        minIndex.Within 0 code.maxIndex lo ∧ lo ≤ hi ∧
        data.map ord = [64 * (code.value / 4) + hi, 64 * (code.value % 4) + lo] := by
  have hpack : ∀ (code : FreqBand) {hi lo : ℤ}, maxIndex.Within 0 code.maxIndex hi →
      minIndex.Within 0 code.maxIndex lo →
      (code.pack hi lo = .ok data ↔
        data.map ord = [64 * (code.value / 4) + hi, 64 * (code.value % 4) + lo]) := by
    intro code hi lo hmax hmin
    rw [code.pack_eq hmax.index hmin.index, bytesOf_eq_ok_iff]
  unfold setRegionData
  simp only [bind_eq_ok_iff, require_eq_ok_iff, requireRange_eq_ok_iff]
  constructor
  · rintro ⟨code, hcode, hi, hmax, lo, hmin, h⟩
    split at h
    · cases h
    · next hle =>
      exact ⟨code, hi, lo, hcode, hmax, hmin, not_lt.mp hle, (hpack code hmax hmin).mp h⟩
  · rintro ⟨code, hi, lo, hcode, hmax, hmin, hle, h⟩
    refine ⟨code, hcode, hi, hmax, lo, hmin, ?_⟩
    rw [if_neg (not_lt.mpr hle)]
    exact (hpack code hmax hmin).mpr h

/-- A number among those `bytes` has accepted is a byte. -/
theorem le_of_mem_ord {data : Bytes} {values : List ℤ} (h : data.map ord = values) {n : ℤ}
    (hn : n ∈ values) : n ≤ 255 := by
  rw [← h] at hn
  obtain ⟨b, _, rfl⟩ := List.mem_map.mp hn
  exact ord_le b

theorem setWiegandData_eq_ok_iff {wgFormat dataInterval pulseWidth pulseInterval : PyValue}
    {data : Bytes} :
    setWiegandData wgFormat dataInterval pulseWidth pulseInterval = .ok data ↔
      ∃ flags delay width interval, wgFormat.wiegandFormat? = some flags ∧ flags.value ≤ 255 ∧
        dataInterval.Within 0 0xFF delay ∧ pulseWidth.Within 1 0xFF width ∧
        pulseInterval.Within 1 0xFF interval ∧
        data.map ord = [(flags.value : ℤ), delay, width, interval] := by
  unfold setWiegandData
  simp only [bind_eq_ok_iff, require_eq_ok_iff, requireRange_eq_ok_iff, bytesOf_eq_ok_iff]
  constructor
  · rintro ⟨flags, hflags, delay, hdelay, width, hwidth, interval, hinterval, h⟩
    have hbyte : (flags.value : ℤ) ≤ 255 := le_of_mem_ord h List.mem_cons_self
    exact ⟨flags, delay, width, interval, hflags, Int.ofNat_le.mp hbyte, hdelay, hwidth,
      hinterval, h⟩
  · rintro ⟨flags, delay, width, interval, hflags, _, hdelay, hwidth, hinterval, h⟩
    exact ⟨flags, hflags, delay, hdelay, width, hwidth, interval, hinterval, h⟩

theorem setWorkModeData_eq_ok_iff {workMode state memInven firstAdr wordNum tagTime : PyValue}
    {data : Bytes} :
    setWorkModeData workMode state memInven firstAdr wordNum tagTime = .ok data ↔
      ∃ mode flags target first words delay, workMode.workMode? = some mode ∧
        state.modeState? = some flags ∧ flags.value ≤ 255 ∧ memInven.memInven? = some target ∧
        firstAdr.Within 0 0xFF first ∧
        wordNum.Within 1 (if flags.hasSyris485 then 4 else 32) words ∧
        tagTime.Within 0 0xFF delay ∧
        data.map ord = [mode.value, (flags.value : ℤ), target.value, first, words, delay] := by
  unfold setWorkModeData
  simp only [bind_eq_ok_iff, require_eq_ok_iff, requireRange_eq_ok_iff, bytesOf_eq_ok_iff]
  constructor
  · rintro ⟨mode, hmode, flags, hflags, target, htarget, first, hfirst, words, hwords, delay,
      hdelay, h⟩
    have hbyte : (flags.value : ℤ) ≤ 255 :=
      le_of_mem_ord h (List.mem_cons_of_mem _ List.mem_cons_self)
    exact ⟨mode, flags, target, first, words, delay, hmode, hflags, Int.ofNat_le.mp hbyte,
      htarget, hfirst, hwords, hdelay, h⟩
  · rintro ⟨mode, flags, target, first, words, delay, hmode, hflags, _, htarget, hfirst, hwords,
      hdelay, h⟩
    exact ⟨mode, hmode, flags, hflags, target, htarget, first, hfirst, words, hwords, delay,
      hdelay, h⟩

/-! ## What a setter does to a reader -/

/-- A setter with one number sends it as one byte. -/
theorem oneByte_eq_ok {value : PyValue} {lo hi : ℤ} {name : String} {data : Bytes}
    (h : (do let n ← requireRange value lo hi name; bytesOf [n]) = .ok data) :
    ∃ b, data = [b] ∧ value.int? = some (ord b) := by
  obtain ⟨n, hn, h⟩ := bind_eq_ok h
  obtain ⟨b, rfl, rfl⟩ := List.map_eq_singleton_iff.mp (map_ord_of_bytesOf h)
  exact ⟨b, rfl, (requireRange_eq_ok_iff.mp hn).1⟩

theorem setRegionData_eq_ok {band maxIndex minIndex : PyValue} {data : Bytes}
    (h : setRegionData band maxIndex minIndex = .ok data) :
    ∃ code hi lo maxFre minFre, band.freqBand? = some code ∧ maxIndex.int? = some hi ∧
      minIndex.int? = some lo ∧ data = [maxFre, minFre] ∧
      FreqBand.unpack (ord maxFre) (ord minFre) = (some code, hi, lo) := by
  obtain ⟨code, hi, lo, hcode, hmax, hmin, _, h⟩ := setRegionData_eq_ok_iff.mp h
  obtain ⟨maxFre, minFre, hpack, hunpack⟩ := code.unpack_pack hmax.index hmin.index
  refine ⟨code, hi, lo, maxFre, minFre, hcode, hmax.1, hmin.1, ?_, hunpack⟩
  rw [← bytesOf_eq_ok_iff, ← code.pack_eq hmax.index hmin.index, hpack] at h
  exact (Except.ok.inj h).symm

theorem setWiegandData_eq_ok {wgFormat dataInterval pulseWidth pulseInterval : PyValue}
    {data : Bytes} (h : setWiegandData wgFormat dataInterval pulseWidth pulseInterval = .ok data) :
    ∃ f b0 b1 b2 b3, wgFormat.wiegandFormat? = some f ∧ (f.value : ℤ) = ord b0 ∧
      dataInterval.int? = some (ord b1) ∧ pulseWidth.int? = some (ord b2) ∧
      pulseInterval.int? = some (ord b3) ∧ data = [b0, b1, b2, b3] := by
  obtain ⟨f, _, _, _, hf, _, h1, h2, h3, h⟩ := setWiegandData_eq_ok_iff.mp h
  obtain ⟨b0, b1, b2, b3, rfl, hvalue, rfl, rfl, rfl⟩ := exists_four h
  exact ⟨f, b0, b1, b2, b3, hf, hvalue.symm, h1.1, h2.1, h3.1, rfl⟩

theorem setWorkModeData_eq_ok {workMode state memInven firstAdr wordNum tagTime : PyValue}
    {data : Bytes}
    (h : setWorkModeData workMode state memInven firstAdr wordNum tagTime = .ok data) :
    ∃ m f t b0 b1 b2 b3 b4 b5, workMode.workMode? = some m ∧ state.modeState? = some f ∧
      memInven.memInven? = some t ∧ m.value = ord b0 ∧ (f.value : ℤ) = ord b1 ∧
      t.value = ord b2 ∧ firstAdr.int? = some (ord b3) ∧ wordNum.int? = some (ord b4) ∧
      tagTime.int? = some (ord b5) ∧ data = [b0, b1, b2, b3, b4, b5] := by
  obtain ⟨m, f, t, _, _, _, hm, hf, _, ht, h3, h4, h5, h⟩ := setWorkModeData_eq_ok_iff.mp h
  obtain ⟨b0, b1, b2, b3, b4, b5, rfl, hmode, hvalue, hmem, rfl, rfl, rfl⟩ := exists_six h
  exact ⟨m, f, t, b0, b1, b2, b3, b4, b5, hm, hf, ht, hmode.symm, hvalue.symm, hmem.symm, h3.1,
    h4.1, h5.1, rfl⟩

/-- What a setter puts on the wire makes a reader replace the settings the call is about by
its arguments. -/
theorem SetterCall.effect {call : SetterCall} (hflags : call.FlagsNamed) {bytes : Bytes}
    (h : call.data = .ok bytes) (reader : Reader) :
    ∃ reader' answer, reader.execute call.command bytes = some (reader', answer) ∧
      reader'.settings = call.apply reader.settings := by
  cases call with
  | setAddress _ number
  | setPower _ number
  | setScanTime _ number
  | setEasAccuracy _ number
  | setSyrisResponseOffset _ number =>
    -- one number, and one byte of the reader that takes it
    obtain ⟨b, rfl, hint⟩ := oneByte_eq_ok h
    refine ⟨_, _, rfl, ?_⟩
    simp only [apply, hint, Option.getD_some]
    rfl
  | setRegion adr band maxIndex minIndex =>
    obtain ⟨code, hi, lo, maxFre, minFre, hband, hmax, hmin, rfl, hunpack⟩ :=
      setRegionData_eq_ok h
    refine ⟨_, _, rfl, ?_⟩
    simp only [apply, hband, hmax, hmin, Option.getD_some, Reader.settings, Settings.of,
      Reader.decodedInfo, hunpack]
    rfl
  | setBaudRate adr baud =>
    obtain ⟨rate, _, h⟩ := bind_eq_ok h
    obtain ⟨b, rfl, _⟩ := List.map_eq_singleton_iff.mp (map_ord_of_bytesOf h)
    exact ⟨_, _, rfl, rfl⟩
  | acoustoOpticControl adr activeT silentT times =>
    obtain ⟨n1, _, h⟩ := bind_eq_ok h
    obtain ⟨n2, _, h⟩ := bind_eq_ok h
    obtain ⟨n3, _, h⟩ := bind_eq_ok h
    obtain ⟨b0, rest, rfl, _, hrest⟩ := List.map_eq_cons_iff.mp (map_ord_of_bytesOf h)
    obtain ⟨b1, rest, rfl, _, hrest⟩ := List.map_eq_cons_iff.mp hrest
    obtain ⟨b2, rfl, _⟩ := List.map_eq_singleton_iff.mp hrest
    exact ⟨_, _, rfl, rfl⟩
  | setWiegand adr wgFormat dataInterval pulseWidth pulseInterval =>
    obtain ⟨f, b0, b1, b2, b3, hf, hvalue, h1, h2, h3, rfl⟩ := setWiegandData_eq_ok h
    refine ⟨_, _, rfl, ?_⟩
    have hnamed := hflags f hf
    have hbits : (ord b0).toNat = f.value := by
      rw [← hvalue, Int.toNat_natCast]
    simp only [apply, hf, h1, h2, h3, Option.getD_some, Reader.settings, Settings.of,
      Reader.decodedWorkMode, hbits, hnamed]
    rfl
  | setWorkMode adr workMode state memInven firstAdr wordNum tagTime =>
    obtain ⟨m, f, t, b0, b1, b2, b3, b4, b5, hm, hf, ht, hmode, hvalue, hmem, h3, h4, h5, rfl⟩ :=
      setWorkModeData_eq_ok h
    refine ⟨_, _, rfl, ?_⟩
    have hnamed := hflags f hf
    have hbits : (ord b1).toNat = f.value := by
      rw [← hvalue, Int.toNat_natCast]
    have hdecode : WorkMode.ofByte b0 = m := by
      rw [← m.ofByte_value, hmode, byteOf_ord]
    have htarget : enumOrNone MemInven.members MemInven.value (ord b2) = some t := by
      rw [← hmem, enumOrNone_value MemInven.value_injective t.mem_members]
    simp only [apply, hm, hf, ht, h3, h4, h5, Option.getD_some, Reader.settings, Settings.of,
      Reader.decodedWorkMode, hbits, hnamed, hdecode, htarget]
    rfl
  | setTriggerOffset adr triggerS =>
    obtain ⟨b, rfl, _⟩ := oneByte_eq_ok h
    exact ⟨_, _, rfl, rfl⟩

/-- The arguments of a call that passes its checks are what it stores. -/
theorem SetterCall.stored_apply {call : SetterCall} {bytes : Bytes} (h : call.data = .ok bytes)
    (s : Settings) : call.Stored (call.apply s) := by
  cases call with
  | setAddress _ number
  | setPower _ number
  | setScanTime _ number
  | setEasAccuracy _ number
  | setSyrisResponseOffset _ number =>
    obtain ⟨b, _, hint⟩ := oneByte_eq_ok h
    simp [Stored, apply, hint]
  | setRegion adr band maxIndex minIndex =>
    obtain ⟨code, hi, lo, _, _, hband, hmax, hmin, _⟩ := setRegionData_eq_ok h
    simp [Stored, apply, hband, hmax, hmin]
  | setWiegand adr wgFormat dataInterval pulseWidth pulseInterval =>
    obtain ⟨f, _, _, _, _, hf, _, h1, h2, h3, _⟩ := setWiegandData_eq_ok h
    simp [Stored, apply, hf, h1, h2, h3]
  | setWorkMode adr workMode state memInven firstAdr wordNum tagTime =>
    obtain ⟨m, f, t, _, _, _, _, _, _, hm, hf, ht, _, _, _, h3, h4, h5, _⟩ :=
      setWorkModeData_eq_ok h
    simp [Stored, apply, hm, hf, ht, h3, h4, h5]
  | setBaudRate => trivial
  | acoustoOpticControl => trivial
  | setTriggerOffset => trivial

/-- No two setters share a setting. -/
theorem SetterCall.Stored.apply {call later : SetterCall} {s : Settings} (h : call.Stored s)
    (hother : later.command ≠ call.command) : call.Stored (later.apply s) := by
  cases later <;> cases call <;> first | exact h | exact absurd rfl hother

/-- After a run of calls, the settings are the arguments of the last call about them. -/
theorem SetterCall.stored_foldl {call : SetterCall} {bytes : Bytes} (h : call.data = .ok bytes)
    {after : List SetterCall} (hlast : ∀ later ∈ after, later.command ≠ call.command)
    (before : List SetterCall) (s : Settings) :
    call.Stored ((before ++ call :: after).foldl (fun s call => call.apply s) s) := by
  rw [List.foldl_append, List.foldl_cons]
  have hstored := call.stored_apply h (before.foldl (fun s call => call.apply s) s)
  revert hstored
  generalize call.apply (before.foldl (fun s call => call.apply s) s) = settings
  intro hstored
  induction after generalizing settings with
  | nil => exact hstored
  | cons later after ih =>
    rw [List.forall_mem_cons] at hlast
    exact ih hlast.2 _ (hstored.apply hlast.1)

/-! ## Calls on a connection -/

section Calls

variable {delivery : Delivery}

/-- An address that reaches the reader with a given address. -/
def Reaches (address : ℤ) (adr : PyValue) : Prop :=
  adr.int? = some address ∨ adr.int? = some 0xFF

/-- A command without a mistake in its arguments is written. -/
theorem commandFrame_byte {adr : PyValue} {address : UInt8} (hadr : adr.int? = some (ord address))
    (command : Command) (data : Bytes) (hfits : data.length ≤ 251) :
    ∃ f : CommandFrame, f.address = address ∧ command.value = ord f.command ∧ f.data = data ∧
      commandFrame adr command.object data = .ok (command, f.raw) := by
  obtain ⟨hlo, hhi⟩ := command.value_bounds
  have hvalue : ord (byteOf command.value) = command.value := ord_byteOf (by omega) hhi
  refine ⟨⟨address, byteOf command.value, data, hfits⟩, rfl, hvalue.symm, rfl, ?_⟩
  have haddress : requireAddress adr = .ok (ord address) := by
    simp [requireAddress, requireRange, hadr, ord_nonneg, ord_le]
  have hcommand : require PyValue.command? "Command" command.object "command" = .ok command := rfl
  have hraw := buildCommandFrame_raw ⟨address, byteOf command.value, data, hfits⟩
  rw [hvalue] at hraw
  simp only [commandFrame, bind, Except.bind, haddress, hcommand, hraw]
  rfl

/-- Where a command goes: to a reader it is meant for, which may know it or not, or past it. -/
theorem Ready.run_frame {reader : Reader} {client : RfidClient (Peer Reader)}
    (h : Ready delivery reader client) {adr : PyValue} {command : Command} {f : CommandFrame}
    (hvalue : command.value = ord f.command)
    (haccepted : commandFrame adr command.object f.data = .ok (command, f.raw))
    (action : String) :
    ∃ result client' reader', UhfReader18.run (peerApi (readerBehaviour delivery)) adr command
        f.data action client = (result, client') ∧ Ready delivery reader' client' ∧
      (result = .error timedOut ∧ reader' = reader ∧
          ¬ ((f.address = reader.address ∨ ord f.address = 0xFF) ∧
            (reader.execute command f.data).isSome) ∨
        ∃ answer, reader.execute command f.data = some (reader', answer) ∧
          result = .ok (reader.reply command answer).response) := by
  have hhandle := reader.handle_raw hvalue
  by_cases hreach : f.address = reader.address ∨ ord f.address = 0xFF
  · rw [if_pos hreach] at hhandle
    cases hexecute : reader.execute command f.data with
    | none =>
      rw [hexecute] at hhandle
      obtain ⟨client', hrun, hready⟩ := h.exchange haccepted hhandle
        fun reply hreply => by cases hreply
      refine ⟨.error timedOut, client', reader, ?_, hready, Or.inl ⟨rfl, rfl, ?_⟩⟩
      · simp only [UhfReader18.run, hrun]
        rfl
      · rintro ⟨_, hsome⟩
        cases hsome
    | some executed =>
      obtain ⟨reader', answer⟩ := executed
      rw [hexecute] at hhandle
      obtain ⟨client', hrun, hready⟩ := h.exchange haccepted hhandle fun reply hreply => by
        cases hreply
        exact reader.reply_answers command answer
      refine ⟨.ok (reader.reply command answer).response, client', reader', ?_, hready,
        Or.inr ⟨answer, rfl, rfl⟩⟩
      simp only [UhfReader18.run, hrun]
      rfl
  · rw [if_neg hreach] at hhandle
    obtain ⟨client', hrun, hready⟩ := h.exchange haccepted hhandle
      fun reply hreply => by cases hreply
    refine ⟨.error timedOut, client', reader, ?_, hready,
      Or.inl ⟨rfl, rfl, fun hboth => hreach hboth.1⟩⟩
    simp only [UhfReader18.run, hrun]
    rfl

/-- How running a command ends: rejected, without an answer, or executed. -/
theorem Ready.run {reader : Reader} {client : RfidClient (Peer Reader)}
    (h : Ready delivery reader client) (adr : PyValue) (command : Command) (data : Bytes)
    (action : String) :
    ∃ result client' reader', UhfReader18.run (peerApi (readerBehaviour delivery)) adr command
        data action client = (result, client') ∧ Ready delivery reader' client' ∧
      ((∃ e, result = .error e) ∧ reader' = reader ∨
        ∃ answer response, reader.execute command data = some (reader', answer) ∧
          result = .ok response) := by
  rcases commandFrame_cases adr command.object data with
    ⟨code, f, _, hcode, hvalue, rfl, _, haccepted⟩ | ⟨e, he, _⟩
  · cases hcode
    obtain ⟨result, client', reader', hrun, hready, hend⟩ := h.run_frame hvalue haccepted action
    refine ⟨result, client', reader', hrun, hready, ?_⟩
    rcases hend with ⟨he, hsame, _⟩ | ⟨answer, hexecute, hok⟩
    · exact Or.inl ⟨⟨_, he⟩, hsame⟩
    · exact Or.inr ⟨answer, _, hexecute, hok⟩
  · obtain ⟨peer, hsocket⟩ := h.socket
    refine ⟨.error e, client, reader, ?_, h, Or.inl ⟨⟨e, rfl⟩, rfl⟩⟩
    simp only [UhfReader18.run, sendCommand_rejected _ hsocket he]

/-- A getter that reaches the reader decodes what the reader answers. -/
theorem Ready.getter {α : Type} {reader : Reader} {client : RfidClient (Peer Reader)}
    (h : Ready delivery reader client) {adr : PyValue} (hadr : Reaches (ord reader.address) adr)
    {command : Command} {answer : AnswerData}
    (hexecute : reader.execute command [] = some (reader, answer))
    (decode : RfidResponse → Except PyError α) (action : String) :
    ∃ client', UhfReader18.getter (peerApi (readerBehaviour delivery)) adr command decode action
        client = (decode (reader.reply command answer).response, client') ∧
      Ready delivery reader client' := by
  obtain ⟨address, hint, hreach⟩ :
      ∃ b : UInt8, adr.int? = some (ord b) ∧ (b = reader.address ∨ ord b = 0xFF) := by
    rcases hadr with hadr | hadr
    · exact ⟨reader.address, hadr, Or.inl rfl⟩
    · exact ⟨0xFF, hadr, Or.inr rfl⟩
  obtain ⟨f, haddress, hvalue, hdata, haccepted⟩ := commandFrame_byte hint command []
    (by decide)
  rw [← hdata] at haccepted hexecute
  obtain ⟨result, client', reader', hrun, hready, hend⟩ := h.run_frame hvalue haccepted action
  rw [hdata] at hrun
  rcases hend with ⟨_, _, hmissed⟩ | ⟨answer', hexecute', rfl⟩
  · exact absurd ⟨haddress ▸ hreach, hexecute ▸ rfl⟩ hmissed
  · obtain ⟨rfl, rfl⟩ := Prod.mk.inj (Option.some.inj (hexecute.symm.trans hexecute'))
    refine ⟨client', ?_, hready⟩
    simp only [UhfReader18.getter, hrun]

/-- A setter that returns has replaced the settings it is about by its arguments. One that
raises has changed nothing. -/
theorem Ready.perform {reader : Reader} {client : RfidClient (Peer Reader)}
    (h : Ready delivery reader client) {call : SetterCall} (hflags : call.FlagsNamed) :
    ∃ result client' reader', call.perform (peerApi (readerBehaviour delivery)) client =
        (result, client') ∧ Ready delivery reader' client' ∧
      ((∃ e, result = .error e) ∧ reader' = reader ∨
        (∃ response, result = .ok response) ∧ (∃ bytes, call.data = .ok bytes) ∧
          reader'.settings = call.apply reader.settings) := by
  obtain ⟨action, hperform⟩ := call.exists_perform_eq
  rw [hperform]
  cases hcall : call.data with
  | error e => exact ⟨.error e, client, reader, rfl, h, Or.inl ⟨⟨e, rfl⟩, rfl⟩⟩
  | ok bytes =>
    obtain ⟨result, client', reader', hrun, hready, hend⟩ :=
      h.run call.adr call.command bytes action
    refine ⟨result, client', reader', hrun, hready, ?_⟩
    rcases hend with herror | ⟨answer, response, hexecute, hok⟩
    · exact Or.inl herror
    · obtain ⟨stored, _, hstored, hsettings⟩ := SetterCall.effect hflags hcall reader
      obtain ⟨rfl, _⟩ := Prod.mk.inj (Option.some.inj (hstored.symm.trans hexecute))
      exact Or.inr ⟨⟨response, hok⟩, ⟨bytes, rfl⟩, hsettings⟩

end Calls

/-! ## Runs of setters -/

/-- Performs setter calls one after another, and keeps those that return. -/
def runSetters {σ : Type} (api : SocketApi σ) :
    List SetterCall → RfidClient σ → List SetterCall × RfidClient σ
  | [], client => ([], client)
  | call :: calls, client =>
    match call.perform api client with
    | (.error _, client) => runSetters api calls client
    | (.ok _, client) =>
      let (accepted, client) := runSetters api calls client
      (call :: accepted, client)

theorem Ready.runSetters {delivery : Delivery} {calls : List SetterCall}
    (hflags : ∀ call ∈ calls, call.FlagsNamed) {reader : Reader}
    {client : RfidClient (Peer Reader)} (h : Ready delivery reader client) :
    ∃ accepted client' reader', UhfReader18.runSetters (peerApi (readerBehaviour delivery)) calls
        client = (accepted, client') ∧ Ready delivery reader' client' ∧
      reader'.settings = accepted.foldl (fun s call => call.apply s) reader.settings ∧
      ∀ call ∈ accepted, ∃ bytes, call.data = .ok bytes := by
  induction calls generalizing reader client with
  | nil => exact ⟨[], client, reader, rfl, h, rfl, fun call hcall => absurd hcall List.not_mem_nil⟩
  | cons call calls ih =>
    rw [List.forall_mem_cons] at hflags
    obtain ⟨result, client', reader', hperform, hready, hend⟩ := h.perform hflags.1
    obtain ⟨accepted, client'', reader'', hrun, hready', hsettings, hdata⟩ := ih hflags.2 hready
    rcases hend with ⟨⟨e, rfl⟩, rfl⟩ | ⟨⟨response, rfl⟩, hcall, happly⟩
    · exact ⟨accepted, client'', reader'', by simp only [UhfReader18.runSetters, hperform, hrun],
        hready', hsettings, hdata⟩
    · refine ⟨call :: accepted, client'', reader'', ?_, hready', ?_,
        List.forall_mem_cons.mpr ⟨hcall, hdata⟩⟩
      · simp only [UhfReader18.runSetters, hperform, hrun]
      · rw [List.foldl_cons, ← happly, hsettings]

/-- Last write wins. After any run of setter calls the two getters return, for every
parameter, the argument of the last accepted setter, or what the reader had to begin with. -/
theorem setters_read_back (delivery : Delivery) (reader : Reader) (calls : List SetterCall)
    (hflags : ∀ call ∈ calls, call.FlagsNamed) :
    ∃ accepted client settings,
      runSetters (peerApi (readerBehaviour delivery)) calls { socket := some ⟨reader, []⟩ } =
        (accepted, client) ∧
      settings = accepted.foldl (fun s call => call.apply s) reader.settings ∧
      (∀ before call after, accepted = before ++ call :: after →
        (∀ later ∈ after, later.command ≠ call.command) → call.Stored settings) ∧
      ∀ adr adr', Reaches settings.address adr → Reaches settings.address adr' →
        ∃ info work client' client'',
          getReaderInfo (peerApi (readerBehaviour delivery)) adr client = (.ok info, client') ∧
          getWorkMode (peerApi (readerBehaviour delivery)) adr' client' = (.ok work, client'') ∧
          Settings.of info work = settings := by
  obtain ⟨accepted, client, reader', hrun, hready, hsettings, hdata⟩ :=
    Ready.runSetters hflags (UpToDate.connected _ reader)
  refine ⟨accepted, client, reader'.settings, hrun, hsettings, ?_, ?_⟩
  · rintro before call after rfl hlast
    obtain ⟨bytes, hbytes⟩ := hdata call (List.mem_append_right before List.mem_cons_self)
    exact hsettings ▸ call.stored_foldl hbytes hlast before reader.settings
  · intro adr adr' hadr hadr'
    have hexecute : reader'.execute .getReaderInfo [] = some (reader', ⟨reader'.info, _⟩) := rfl
    have hexecute' : reader'.execute .getWorkMode [] = some (reader', ⟨reader'.workMode, _⟩) := rfl
    obtain ⟨client', hinfo, hready'⟩ := hready.getter hadr hexecute
      (fun response => ReaderInfo.fromBytes response.readerAddress response.data)
      "Get reader info"
    obtain ⟨client'', hwork, _⟩ := hready'.getter hadr' hexecute'
      (fun response => WorkModeInfo.fromBytes response.data) "Get work mode"
    refine ⟨reader'.decodedInfo, reader'.decodedWorkMode, client', client'', ?_, ?_, rfl⟩
    · exact hinfo.trans (congrArg (·, client') reader'.fromBytes_info)
    · exact hwork.trans (congrArg (·, client'') reader'.fromBytes_workMode)

/-- The address, the power and the Wiegand parameters of a reader are set twice, and its region
and work mode once. One call is rejected, one misses the reader, and the getters see what the
others left. -/
theorem setters_read_back_twice :
    let whole : Delivery := ⟨fun raw => [raw].filter (· ≠ []), by simp, fun raw => by
      cases raw <;> simp⟩
    let api := peerApi (readerBehaviour whole)
    let reader : Reader := ⟨0, 2, 1, 9, 3, 62, 64, 30, 10, 0, 30, 10, 15, 0, 0, 4, 0, 1, 0, 8, 0⟩
    let wiegand (adr format pulseWidth : ℤ) : SetterCall :=
      .setWiegand (.int adr) (.member (.wiegandFormat ⟨format.toNat⟩) "" "") (.int 30)
        (.int pulseWidth) (.int 15)
    let calls : List SetterCall :=
      [.setPower (.int 0) (.int 20), .setPower (.int 0) (.int 31), wiegand 0 1 12,
       .setAddress (.int 0xFF) (.int 7), .setPower (.int 0) (.int 26), .setPower (.int 7) (.int 25),
       .setRegion (.int 7) (.member (.freqBand .us) "" "") (.int 49) (.int 0),
       .setWorkMode (.int 7) (.member (.workMode .scan) "" "") (.member (.modeState ⟨2⟩) "" "")
         (.member (.memInven .epc) "" "") (.int 2) (.int 6) (.int 5), wiegand 7 3 11]
    ∃ client info work client' client'',
      (runSetters api calls { socket := some ⟨reader, []⟩ }).2 = client ∧
      getReaderInfo api (.int 7) client = (.ok info, client') ∧
      getWorkMode api (.int 7) client' = (.ok work, client'') ∧
      info.address = 7 ∧ info.power = 25 ∧ info.maxIndex = 49 ∧
      work.wiegandFormat = ⟨3⟩ ∧ work.wgPulseWidth = 11 ∧ work.workMode = .scan ∧
      work.state = ⟨2⟩ ∧ work.memInven = some .epc ∧ work.wordNum = 6 := by
  intro whole api reader wiegand calls
  have hflags : ∀ call ∈ calls, call.FlagsNamed := by
    simp [calls, wiegand, SetterCall.FlagsNamed, PyValue.wiegandFormat?, PyValue.modeState?,
      WiegandFormat.mask, ModeState.mask]
  obtain ⟨accepted, client, settings, hrun, hsettings, _, hread⟩ :=
    setters_read_back whole reader calls hflags
  have haccepted : (runSetters api calls { socket := some ⟨reader, []⟩ }).1 =
      (calls.eraseIdx 4).eraseIdx 1 := by
    decide +kernel
  rw [hrun] at haccepted
  subst haccepted
  have hvalue : settings.address = 7 ∧ settings.power = 25 ∧ settings.maxIndex = 49 ∧
      settings.wiegandFormat = ⟨3⟩ ∧ settings.wgPulseWidth = 11 ∧ settings.workMode = .scan ∧
      settings.state = ⟨2⟩ ∧ settings.memInven = some .epc ∧ settings.wordNum = 6 := by
    rw [hsettings]
    decide +kernel
  obtain ⟨info, work, client', client'', hinfo, hwork, rfl⟩ :=
    hread (.int 7) (.int 7) (Or.inl (hvalue.1 ▸ rfl)) (Or.inl (hvalue.1 ▸ rfl))
  exact ⟨client, info, work, client', client'', by rw [hrun], hinfo, hwork, hvalue⟩

end UhfReader18
