import UhfReader18.ManualRanges

/-!
# What Get WorkMode returns, passed back

`WorkModeInfo.from_bytes` takes every byte a reader may send. The two setters only take what
the manual allows, so a reader that answers outside the manual's ranges gives fields that the
setters reject. Inside the ranges the setters write the bytes that were read.

Results:
1. `data_wiegandCall`, `data_workModeCall`: what the setters make of the fields.
2. `work_mode_passed_back`: both together, for every payload, on the wire.
-/

namespace UhfReader18

theorem map_ord_eq_iff {data bytes : Bytes} : data.map ord = bytes.map ord ↔ data = bytes :=
  (List.map_injective_iff.mpr ord_injective).eq_iff

/-! ## A setter call as a whole -/

namespace SetterCall

/-- On every connection the call writes one frame, to this address and with these data, and
only receives afterwards. -/
def Writes (call : SetterCall) (address : ℤ) (data : Bytes) : Prop :=
  ∀ (σ : Type) (api : SocketApi σ) (client : RfidClient (σ × List IoCall)) (socket : σ)
    (log : List IoCall), client.socket = some (socket, log) →
    ∃ f : CommandFrame, ord f.address = address ∧ ord f.command = call.command.value ∧
      f.data = data ∧
      Received (log ++ [.sendall f.raw]) (call.perform (recorded api) client).2

/-- The call raises and does nothing. -/
def Rejected (call : SetterCall) : Prop :=
  ∀ (σ : Type) (api : SocketApi σ) (client : RfidClient σ),
    ∃ e, call.perform api client = (.error e, client)

theorem writes_of_data {call : SetterCall} {address : ℤ}
    (haddress : call.adr.Within 0x00 0xFF address) {data : Bytes} (h : call.data = .ok data) :
    call.Writes address data := by
  intro σ api client socket log hsocket
  have haccepted : (CommandCall.setter call).Accepts address (data.map ord) :=
    ⟨haddress, data_eq_ok_iff.mp h⟩
  obtain ⟨f, hadr, hcommand, hdata, hreceived⟩ :=
    CommandCall.perform_accepted api hsocket haccepted
  exact ⟨f, hadr, hcommand, map_ord_eq_iff.mp hdata, hreceived⟩

theorem rejected_of_data {call : SetterCall} (h : ∀ data, call.data ≠ .ok data) :
    call.Rejected := by
  intro σ api client
  obtain ⟨action, hperform⟩ := call.exists_perform_eq
  cases hdata : call.data with
  | ok data => exact absurd hdata (h data)
  | error e =>
    refine ⟨e, ?_⟩
    rw [hperform, hdata]
    rfl

/-- A setter that encodes its arguments under one condition writes or is rejected. -/
theorem writes_or_rejected {call : SetterCall} {address : ℤ}
    (haddress : call.adr.Within 0x00 0xFF address) {accepted : Prop} {bytes : Bytes}
    (h : ∀ data, call.data = .ok data ↔ accepted ∧ data = bytes) :
    (accepted → call.Writes address bytes) ∧ (¬ accepted → call.Rejected) :=
  ⟨fun haccepted => writes_of_data haddress ((h bytes).mpr ⟨haccepted, rfl⟩),
    fun hother => rejected_of_data fun data hdata => hother ((h data).mp hdata).1⟩

end SetterCall

theorem PyValue.within_int {n lo hi m : ℤ} :
    (PyValue.int n).Within lo hi m ↔ m = n ∧ lo ≤ n ∧ n ≤ hi := by
  unfold Within int?
  constructor
  · rintro ⟨hn, hrange⟩
    cases hn
    exact ⟨rfl, hrange⟩
  · rintro ⟨rfl, hrange⟩
    exact ⟨rfl, hrange⟩

/-! ## The fields of a payload -/

/-- Two bits and six reserved ones are the code of their work mode. -/
theorem WorkMode.value_ofByte {b : UInt8} (h : Manual.Reserved 2 b) :
    (ofByte b).value = ord b := by
  have hcodes : ∀ n < 4, (ofByte (UInt8.ofNat n)).value = ord (UInt8.ofNat n) := by decide
  have hcode := hcodes b.toNat (Manual.reserved_iff_lt.mp h)
  rwa [UInt8.ofNat_toNat] at hcode

/-! ## Passing the fields on -/

section Calls

variable (info : WorkModeInfo) (adr : PyValue) (str repr : Member → String)

/-- A member of an enum as an argument, with what Python prints for it. -/
def Member.object (m : Member) : PyValue := .member m (str m) (repr m)

/-- `set_wiegand` with the decoded fields. -/
def WorkModeInfo.wiegandCall : SetterCall :=
  .setWiegand adr ((Member.wiegandFormat info.wiegandFormat).object str repr)
    (.int info.wgDataInterval) (.int info.wgPulseWidth) (.int info.wgPulseInterval)

/-- The decoded target as an argument: `None` where the code is unknown. -/
def WorkModeInfo.memInvenObject : PyValue :=
  match info.memInven with
  | some target => (Member.memInven target).object str repr
  | none => .other "None" "None"

/-- `set_work_mode` with the decoded fields. -/
def WorkModeInfo.workModeCall : SetterCall :=
  .setWorkMode adr ((Member.workMode info.workMode).object str repr)
    ((Member.modeState info.state).object str repr) (info.memInvenObject str repr)
    (.int info.firstAdr) (.int info.wordNum) (.int info.tagTime)

end Calls

section Bytes

variable {info : WorkModeInfo} {b0 b1 b2 b3 b4 b5 : UInt8}

/-- Fields that come from four bytes are accepted if two of these are not 0, and are written
as they came. -/
theorem data_wiegandCall (hmode : (info.wiegandFormat.value : ℤ) = ord b0)
    (hdelay : info.wgDataInterval = ord b1) (hwidth : info.wgPulseWidth = ord b2)
    (hinterval : info.wgPulseInterval = ord b3) (adr : PyValue) (str repr : Member → String)
    {data : Bytes} :
    (info.wiegandCall adr str repr).data = .ok data ↔
      (1 ≤ ord b2 ∧ 1 ≤ ord b3) ∧ data = [b0, b1, b2, b3] := by
  have hbyte : info.wiegandFormat.value ≤ 255 := Int.ofNat_le.mp (hmode ▸ ord_le b0)
  refine setWiegandData_eq_ok_iff.trans ?_
  rw [hdelay, hwidth, hinterval]
  simp only [PyValue.within_int]
  constructor
  · rintro ⟨flags, _, _, _, hflags, _, ⟨rfl, _⟩, ⟨rfl, hlow, _⟩, ⟨rfl, hlow', _⟩, h⟩
    cases hflags
    rw [hmode] at h
    exact ⟨⟨hlow, hlow'⟩, map_ord_eq_iff.mp h⟩
  · rintro ⟨⟨hlow, hlow'⟩, rfl⟩
    refine ⟨_, _, _, _, rfl, hbyte, ⟨rfl, ord_nonneg b1, ord_le b1⟩, ⟨rfl, hlow, ord_le b2⟩,
      ⟨rfl, hlow', ord_le b3⟩, ?_⟩
    rw [hmode]
    rfl

/-- Fields that come from six bytes are accepted if the number of words is in its range, and
are written as they came. -/
theorem data_workModeCall {target : MemInven} (hmode : info.workMode.value = ord b0)
    (hstate : info.state.value = b1.toNat) (hknown : info.memInven = some target)
    (htarget : target.value = ord b2) (hfirst : info.firstAdr = ord b3)
    (hwords : info.wordNum = ord b4) (hdelay : info.tagTime = ord b5) (adr : PyValue)
    (str repr : Member → String) {data : Bytes} :
    (info.workModeCall adr str repr).data = .ok data ↔
      (1 ≤ ord b4 ∧ ord b4 ≤ if b1.toNat.testBit 4 then 4 else 32) ∧
        data = [b0, b1, b2, b3, b4, b5] := by
  have hobject : info.memInvenObject str repr = (Member.memInven target).object str repr := by
    rw [WorkModeInfo.memInvenObject, hknown]
  have hbyte : info.state.value ≤ 255 := hstate ▸ Nat.le_of_lt_succ b1.toNat_lt
  refine setWorkModeData_eq_ok_iff.trans ?_
  rw [hfirst, hwords, hdelay, hobject]
  simp only [PyValue.within_int]
  constructor
  · rintro ⟨_, flags, _, _, _, _, hcode, hflags, _, hmem, ⟨rfl, _⟩, ⟨rfl, hrange⟩, ⟨rfl, _⟩, h⟩
    cases hcode
    cases hflags
    cases hmem
    rw [ModeState.hasSyris485_eq, hstate] at hrange
    rw [hmode, hstate, htarget] at h
    exact ⟨hrange, map_ord_eq_iff.mp h⟩
  · rintro ⟨hrange, rfl⟩
    refine ⟨_, _, _, _, _, _, rfl, rfl, hbyte, rfl, ⟨rfl, ord_nonneg b3, ord_le b3⟩,
      ⟨rfl, ?_⟩, ⟨rfl, ord_nonneg b5, ord_le b5⟩, ?_⟩
    · rw [ModeState.hasSyris485_eq, hstate]
      exact hrange
    · rw [hmode, hstate, htarget]
      rfl

end Bytes

/-- Twelve bytes and more. -/
theorem exists_twelve {payload : Bytes} (h : 12 ≤ payload.length) :
    ∃ b0 b1 b2 b3 b4 b5 b6 b7 b8 b9 b10 b11 rest, payload =
      b0 :: b1 :: b2 :: b3 :: b4 :: b5 :: b6 :: b7 :: b8 :: b9 :: b10 :: b11 :: rest := by
  match payload, h with
  | b0 :: b1 :: b2 :: b3 :: b4 :: b5 :: b6 :: b7 :: b8 :: b9 :: b10 :: b11 :: rest, _ =>
    exact ⟨b0, b1, b2, b3, b4, b5, b6, b7, b8, b9, b10, b11, rest, rfl⟩

/-- What Get WorkMode returns can be passed back. For every payload of at least twelve bytes
whose target is a known code and whose reserved bits are zero: `set_wiegand` writes the bytes
0 to 3 again if neither the pulse width nor the pulse interval is 0, and rejects the decoded
fields otherwise; `set_work_mode` writes the bytes 4 to 9 again if the number of words is in
the range the mode allows, and rejects the fields otherwise. -/
theorem work_mode_passed_back (payload : Bytes) (hlen : 12 ≤ payload.length)
    (hknown : ∃ target : MemInven, target.value = ord payload[6])
    (hwgMode : Manual.Reserved 2 payload[0]) (hreadMode : Manual.Reserved 2 payload[4])
    (hmodeState : Manual.Reserved 5 payload[5]) :
    ∃ info, WorkModeInfo.fromBytes payload = .ok info ∧
      ∀ (adr : PyValue) (address : ℤ) (str repr : Member → String),
        adr.Within 0x00 0xFF address →
        (1 ≤ ord payload[2] ∧ 1 ≤ ord payload[3] →
          (info.wiegandCall adr str repr).Writes address (payload.take 4)) ∧
        (¬ (1 ≤ ord payload[2] ∧ 1 ≤ ord payload[3]) →
          (info.wiegandCall adr str repr).Rejected) ∧
        (1 ≤ ord payload[8] ∧ ord payload[8] ≤ (if payload[5].toNat.testBit 4 then 4 else 32) →
          (info.workModeCall adr str repr).Writes address ((payload.drop 4).take 6)) ∧
        (¬ (1 ≤ ord payload[8] ∧
            ord payload[8] ≤ (if payload[5].toNat.testBit 4 then 4 else 32)) →
          (info.workModeCall adr str repr).Rejected) := by
  obtain ⟨b0, b1, b2, b3, b4, b5, b6, b7, b8, b9, b10, b11, rest, rfl⟩ := exists_twelve hlen
  obtain ⟨target, htarget⟩ := hknown
  have hmem : enumOrNone MemInven.members MemInven.value (ord b6) = some target :=
    (congrArg _ htarget.symm).trans
      (enumOrNone_value MemInven.value_injective target.mem_members)
  have hformat : ((b0.toNat &&& WiegandFormat.mask : ℕ) : ℤ) = ord b0 :=
    congrArg Nat.cast (Manual.reserved_iff_and.mp hwgMode)
  refine ⟨_, WorkModeInfo.fromBytes_cons b0 b1 b2 b3 b4 b5 b6 b7 b8 b9 b10 b11 rest,
    fun adr address str repr hadr => ?_⟩
  refine and_assoc.mp ⟨SetterCall.writes_or_rejected ?_ fun data => ?_,
    SetterCall.writes_or_rejected ?_ fun data => ?_⟩
  · exact hadr
  · exact data_wiegandCall hformat rfl rfl rfl adr str repr
  · exact hadr
  · exact data_workModeCall (WorkMode.value_ofByte hreadMode)
      (Manual.reserved_iff_and.mp hmodeState) hmem htarget rfl rfl rfl adr str repr

/-- A payload in all the ranges, written back to the reader at address 0. -/
theorem work_mode_passed_back_default :
    ∃ info, WorkModeInfo.fromBytes [0, 30, 10, 15, 0, 2, 1, 0, 4, 0, 8, 0] = .ok info ∧
      ∀ str repr, (info.wiegandCall (.int 0) str repr).Writes 0 [0, 30, 10, 15] ∧
        (info.workModeCall (.int 0) str repr).Writes 0 [0, 2, 1, 0, 4, 0] := by
  have hreserved : Manual.Reserved 2 0 ∧ Manual.Reserved 5 2 :=
    ⟨Manual.reserved_iff_lt.mpr (by decide), Manual.reserved_iff_lt.mpr (by decide)⟩
  obtain ⟨info, hinfo, hcalls⟩ :=
    work_mode_passed_back [0, 30, 10, 15, 0, 2, 1, 0, 4, 0, 8, 0] (by decide)
      ⟨.epc, rfl⟩ hreserved.1 hreserved.1 hreserved.2
  refine ⟨info, hinfo, fun str repr => ?_⟩
  obtain ⟨hwiegand, _, hwork, _⟩ := hcalls (.int 0) 0 str repr ⟨rfl, by decide, by decide⟩
  exact ⟨hwiegand (by decide), hwork (by decide)⟩

/-- A reader may answer with a pulse width of 0, and with five words in Syris mode. Its target
is known and its reserved bits are zero; the fields are decoded, and both setters reject
them. -/
theorem not_work_mode_passed_back :
    let payload : Bytes := [0, 30, 0, 15, 0, 18, 1, 0, 5, 0, 8, 0]
    (∃ target : MemInven, target.value = ord payload[6]) ∧ Manual.Reserved 2 payload[0] ∧
      Manual.Reserved 2 payload[4] ∧ Manual.Reserved 5 payload[5] ∧
      ∃ info, WorkModeInfo.fromBytes payload = .ok info ∧
        ∀ str repr, (info.wiegandCall (.int 0) str repr).Rejected ∧
          (info.workModeCall (.int 0) str repr).Rejected := by
  intro payload
  refine ⟨⟨.epc, rfl⟩, Manual.reserved_iff_lt.mpr (by decide),
    Manual.reserved_iff_lt.mpr (by decide), Manual.reserved_iff_lt.mpr (by decide), _,
    WorkModeInfo.fromBytes_cons 0 30 0 15 0 18 1 0 5 0 8 0 [], fun str repr => ⟨?_, ?_⟩⟩
  · refine SetterCall.rejected_of_data fun data h => ?_
    obtain ⟨_, _, width, _, _, _, _, ⟨hwidth, hlow, _⟩, _⟩ := setWiegandData_eq_ok_iff.mp h
    cases hwidth
    exact absurd hlow (by decide)
  · refine SetterCall.rejected_of_data fun data h => ?_
    obtain ⟨_, flags, _, _, words, _, _, hflags, _, _, _, ⟨hwords, _, hhigh⟩, _⟩ :=
      setWorkModeData_eq_ok_iff.mp h
    cases hflags
    cases hwords
    exact absurd hhigh (by decide)

end UhfReader18
