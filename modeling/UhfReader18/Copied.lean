import UhfReader18.Line
import UhfReader18.WorkModeReadBack

/-!
# Settings copied to another reader

What the getters return of one reader on a line is passed to the setters of another one. The
getters decode every byte a reader may send, the setters take what the manual allows. So a copy
may be partial: each setter takes the settings it is about as a whole, or none of them.

Results:
1. `isOk_copyCalls`: which of the setters accept what was decoded.
2. `foldl_copyCalls`: what they make of the settings of the reader they are for.
3. `UpToDate.runSetters_one`: calls for one reader on a line change no other one.
4. `settings_copied`: a copy from one reader on a line to another one.
-/

namespace UhfReader18

/-! ## The calls of a copy -/

section CopyCalls

variable (info : ReaderInfo) (work : WorkModeInfo) (adr : PyValue) (str repr : Member → String)

/-- The decoded band as an argument: `None` where the code is unknown. -/
def ReaderInfo.bandObject : PyValue :=
  info.band.elim (.other "None" "None") fun band => (Member.freqBand band).object str repr

/-- The setters for everything that was decoded, but the address. -/
def copyCalls : List SetterCall :=
  [.setRegion adr (info.bandObject str repr) (.int info.maxIndex) (.int info.minIndex),
   .setPower adr (.int info.power),
   .setScanTime adr (.int info.scanTime),
   work.wiegandCall adr str repr,
   work.workModeCall adr str repr,
   .setEasAccuracy adr (.int work.easAccuracy),
   .setSyrisResponseOffset adr (.int work.syrisOffset)]

end CopyCalls

namespace Settings

variable (s t : Settings)

def channelsFit : Bool :=
  s.band.any fun band => s.minIndex ≤ s.maxIndex ∧ s.maxIndex ≤ band.maxIndex

def powerFits : Bool := s.power ≤ 30

def scanTimeFits : Bool := 3 ≤ s.scanTime

def pulsesFit : Bool := 1 ≤ s.wgPulseWidth ∧ 1 ≤ s.wgPulseInterval

def wordsFit : Bool :=
  s.memInven.isSome ∧ 1 ≤ s.wordNum ∧ s.wordNum ≤ if s.state.hasSyris485 then 4 else 32

def accuracyFits : Bool := s.easAccuracy ≤ 8

def offsetFits : Bool := s.syrisOffset ≤ 100

/-- Which setters take these settings, in the order of `copyCalls`. -/
def fits : List Bool :=
  [s.channelsFit, s.powerFits, s.scanTimeFits, s.pulsesFit, s.wordsFit, s.accuracyFits,
   s.offsetFits]

/-- The settings `t` after a copy of `s`. -/
def onto : Settings where
  address := t.address
  band := if s.channelsFit then s.band else t.band
  maxIndex := if s.channelsFit then s.maxIndex else t.maxIndex
  minIndex := if s.channelsFit then s.minIndex else t.minIndex
  power := if s.powerFits then s.power else t.power
  scanTime := if s.scanTimeFits then s.scanTime else t.scanTime
  wiegandFormat := if s.pulsesFit then s.wiegandFormat else t.wiegandFormat
  wgDataInterval := if s.pulsesFit then s.wgDataInterval else t.wgDataInterval
  wgPulseWidth := if s.pulsesFit then s.wgPulseWidth else t.wgPulseWidth
  wgPulseInterval := if s.pulsesFit then s.wgPulseInterval else t.wgPulseInterval
  workMode := if s.wordsFit then s.workMode else t.workMode
  state := if s.wordsFit then s.state else t.state
  memInven := if s.wordsFit then s.memInven else t.memInven
  firstAdr := if s.wordsFit then s.firstAdr else t.firstAdr
  wordNum := if s.wordsFit then s.wordNum else t.wordNum
  tagTime := if s.wordsFit then s.tagTime else t.tagTime
  easAccuracy := if s.accuracyFits then s.easAccuracy else t.easAccuracy
  syrisOffset := if s.offsetFits then s.syrisOffset else t.syrisOffset

/-- A copy is complete if all settings fit. -/
theorem onto_of_fits {s : Settings} (h : ∀ fits ∈ s.fits, fits = true) (t : Settings) :
    s.onto t = { s with address := t.address } := by
  simp only [fits, List.forall_mem_cons] at h
  obtain ⟨hchannels, hpower, hscanTime, hpulses, hwords, haccuracy, hoffset, _⟩ := h
  simp only [onto, hchannels, hpower, hscanTime, hpulses, hwords, haccuracy, hoffset, if_true]

end Settings

/-! ## Which calls are accepted -/

theorem isOk_iff_exists {α : Type} {result : Except PyError α} :
    result.isOk = true ↔ ∃ value, result = .ok value := by
  cases result with
  | ok value => exact iff_of_true rfl ⟨value, rfl⟩
  | error e =>
    refine iff_of_false Bool.false_ne_true ?_
    rintro ⟨_, h⟩
    cases h

theorem SetterCall.isOk_data_iff {call : SetterCall} :
    call.data.isOk = true ↔ ∃ payload, call.Accepts payload := by
  rw [isOk_iff_exists]
  constructor
  · rintro ⟨data, hdata⟩
    exact ⟨_, data_eq_ok_iff.mp hdata⟩
  · rintro ⟨payload, haccepts⟩
    obtain ⟨data, hdata, _⟩ := haccepts.exists_data
    exact ⟨data, hdata⟩

/-- A number of which one byte is sent. -/
theorem exists_within_int {n lo hi : ℤ} :
    (∃ payload : List ℤ, ∃ m, (PyValue.int n).Within lo hi m ∧ payload = [m]) ↔
      lo ≤ n ∧ n ≤ hi := by
  simp only [PyValue.within_int]
  constructor
  · rintro ⟨_, m, ⟨rfl, hrange⟩, _⟩
    exact hrange
  · exact fun hrange => ⟨[n], n, ⟨rfl, hrange⟩, rfl⟩

section Accepted

variable (source : Reader) (adr : PyValue) (str repr : Member → String)

theorem isOk_regionCall :
    (SetterCall.setRegion adr (source.decodedInfo.bandObject str repr)
      (.int source.decodedInfo.maxIndex) (.int source.decodedInfo.minIndex)).data.isOk =
      source.settings.channelsFit := by
  have hlow : 0 ≤ source.decodedInfo.minIndex := Int.natCast_nonneg (source.minFre.toNat &&& 63)
  have hhigh : 0 ≤ source.decodedInfo.maxIndex := Int.natCast_nonneg (source.maxFre.toNat &&& 63)
  rw [Bool.eq_iff_iff, SetterCall.isOk_data_iff]
  simp only [SetterCall.Accepts, PyValue.within_int]
  show _ ↔ (source.decodedInfo.band.any fun band =>
    source.decodedInfo.minIndex ≤ source.decodedInfo.maxIndex ∧
      source.decodedInfo.maxIndex ≤ band.maxIndex) = true
  unfold ReaderInfo.bandObject
  cases source.decodedInfo.band with
  | none =>
    refine iff_of_false ?_ Bool.false_ne_true
    rintro ⟨_, _, _, _, hband, _⟩
    cases hband
  | some band =>
    refine Iff.trans ?_ decide_eq_true_iff.symm
    constructor
    · rintro ⟨_, _, hi, lo, hband, ⟨rfl, _, hmax⟩, ⟨rfl, _⟩, hle, _⟩
      cases hband
      exact ⟨hle, hmax⟩
    · rintro ⟨hle, hmax⟩
      exact ⟨_, band, _, _, rfl, ⟨rfl, hhigh, hmax⟩, ⟨rfl, hlow, hle.trans hmax⟩, hle, rfl⟩

theorem isOk_powerCall :
    (SetterCall.setPower adr (.int source.decodedInfo.power)).data.isOk =
      source.settings.powerFits := by
  rw [Bool.eq_iff_iff, SetterCall.isOk_data_iff]
  refine exists_within_int.trans ((and_iff_right ?_).trans decide_eq_true_iff.symm)
  exact ord_nonneg source.power

theorem isOk_scanTimeCall :
    (SetterCall.setScanTime adr (.int source.decodedInfo.scanTime)).data.isOk =
      source.settings.scanTimeFits := by
  rw [Bool.eq_iff_iff, SetterCall.isOk_data_iff]
  refine exists_within_int.trans ((and_iff_left ?_).trans decide_eq_true_iff.symm)
  exact ord_le source.scanTime

theorem isOk_accuracyCall :
    (SetterCall.setEasAccuracy adr (.int source.decodedWorkMode.easAccuracy)).data.isOk =
      source.settings.accuracyFits := by
  rw [Bool.eq_iff_iff, SetterCall.isOk_data_iff]
  refine exists_within_int.trans ((and_iff_right ?_).trans decide_eq_true_iff.symm)
  exact ord_nonneg source.accuracy

theorem isOk_offsetCall :
    (SetterCall.setSyrisResponseOffset adr (.int source.decodedWorkMode.syrisOffset)).data.isOk =
      source.settings.offsetFits := by
  rw [Bool.eq_iff_iff, SetterCall.isOk_data_iff]
  refine exists_within_int.trans ((and_iff_right ?_).trans decide_eq_true_iff.symm)
  exact ord_nonneg source.offsetTime

theorem isOk_wiegandCall :
    (source.decodedWorkMode.wiegandCall adr str repr).data.isOk = source.settings.pulsesFit := by
  rw [Bool.eq_iff_iff, SetterCall.isOk_data_iff]
  refine Iff.trans ?_ decide_eq_true_iff.symm
  simp only [WorkModeInfo.wiegandCall, SetterCall.Accepts, PyValue.within_int]
  constructor
  · rintro ⟨_, _, _, _, _, _, _, _, ⟨rfl, hwidth, _⟩, ⟨rfl, hinterval, _⟩, _⟩
    exact ⟨hwidth, hinterval⟩
  · rintro ⟨hwidth, hinterval⟩
    -- only named flags were decoded
    have hflags : source.decodedWorkMode.wiegandFormat.value ≤ 255 :=
      Nat.and_le_right.trans (by decide)
    exact ⟨_, _, _, _, _, rfl, hflags, ⟨rfl, ord_nonneg _, ord_le _⟩, ⟨rfl, hwidth, ord_le _⟩,
      ⟨rfl, hinterval, ord_le _⟩, rfl⟩

theorem isOk_workModeCall :
    (source.decodedWorkMode.workModeCall adr str repr).data.isOk = source.settings.wordsFit := by
  rw [Bool.eq_iff_iff, SetterCall.isOk_data_iff]
  refine Iff.trans ?_ decide_eq_true_iff.symm
  simp only [WorkModeInfo.workModeCall, SetterCall.Accepts, PyValue.within_int]
  show _ ↔ source.decodedWorkMode.memInven.isSome ∧ 1 ≤ source.decodedWorkMode.wordNum ∧
    source.decodedWorkMode.wordNum ≤ if source.decodedWorkMode.state.hasSyris485 then 4 else 32
  unfold WorkModeInfo.memInvenObject
  cases source.decodedWorkMode.memInven with
  | none =>
    refine iff_of_false ?_ fun h => Bool.false_ne_true h.1
    rintro ⟨_, _, _, _, _, _, _, _, _, _, htarget, _⟩
    cases htarget
  | some target =>
    constructor
    · rintro ⟨_, _, flags, _, _, _, _, _, hflags, _, _, _, ⟨rfl, hwords⟩, _⟩
      cases hflags
      exact ⟨rfl, hwords⟩
    · rintro ⟨_, hwords⟩
      have hflags : source.decodedWorkMode.state.value ≤ 255 :=
        Nat.and_le_right.trans (by decide)
      exact ⟨_, _, _, target, _, _, _, rfl, rfl, hflags, rfl, ⟨rfl, ord_nonneg _, ord_le _⟩,
        ⟨rfl, hwords⟩, ⟨rfl, ord_nonneg _, ord_le _⟩, rfl⟩

/-- The setters accept what fits. -/
theorem isOk_copyCalls :
    (copyCalls source.decodedInfo source.decodedWorkMode adr str repr).map
      (fun call => call.data.isOk) = source.settings.fits := by
  simp only [copyCalls, List.map_cons, List.map_nil, isOk_regionCall, isOk_powerCall,
    isOk_scanTimeCall, isOk_wiegandCall, isOk_workModeCall, isOk_accuracyCall, isOk_offsetCall,
    Settings.fits]

end Accepted

/-! ## What the calls do -/

theorem SetterCall.on_of_isOk {call : SetterCall} {s : Settings} {accepted : Bool}
    (hok : call.data.isOk = accepted) (hadr : call.adr.int? = some s.address) :
    call.on s = if accepted then call.apply s else s :=
  if_congr ((and_iff_left hadr).trans (hok ▸ Iff.rfl)) rfl rfl

theorem freqBand?_bandObject (info : ReaderInfo) (str repr : Member → String) :
    (info.bandObject str repr).freqBand? = info.band := by
  unfold ReaderInfo.bandObject
  cases info.band <;> rfl

theorem memInven?_memInvenObject (work : WorkModeInfo) (str repr : Member → String) :
    (work.memInvenObject str repr).memInven? = work.memInven := by
  unfold WorkModeInfo.memInvenObject
  cases work.memInven <;> rfl

section On

variable (source : Reader) {adr : PyValue} (str repr : Member → String) {t : Settings}
variable (hadr : adr.int? = some t.address)
include hadr

theorem on_regionCall :
    (SetterCall.setRegion adr (source.decodedInfo.bandObject str repr)
      (.int source.decodedInfo.maxIndex) (.int source.decodedInfo.minIndex)).on t =
    { t with
      band := (source.settings.onto t).band
      maxIndex := (source.settings.onto t).maxIndex
      minIndex := (source.settings.onto t).minIndex } := by
  rw [SetterCall.on_of_isOk (isOk_regionCall source adr str repr) hadr, SetterCall.apply,
    freqBand?_bandObject, Settings.onto]
  cases source.settings.channelsFit <;> rfl

theorem on_powerCall :
    (SetterCall.setPower adr (.int source.decodedInfo.power)).on t =
    { t with power := (source.settings.onto t).power } := by
  rw [SetterCall.on_of_isOk (isOk_powerCall source adr) hadr, Settings.onto]
  cases source.settings.powerFits <;> rfl

theorem on_scanTimeCall :
    (SetterCall.setScanTime adr (.int source.decodedInfo.scanTime)).on t =
    { t with scanTime := (source.settings.onto t).scanTime } := by
  rw [SetterCall.on_of_isOk (isOk_scanTimeCall source adr) hadr, Settings.onto]
  cases source.settings.scanTimeFits <;> rfl

theorem on_wiegandCall :
    (source.decodedWorkMode.wiegandCall adr str repr).on t =
    { t with
      wiegandFormat := (source.settings.onto t).wiegandFormat
      wgDataInterval := (source.settings.onto t).wgDataInterval
      wgPulseWidth := (source.settings.onto t).wgPulseWidth
      wgPulseInterval := (source.settings.onto t).wgPulseInterval } := by
  rw [SetterCall.on_of_isOk (isOk_wiegandCall source adr str repr) hadr, Settings.onto]
  cases source.settings.pulsesFit <;> rfl

theorem on_workModeCall :
    (source.decodedWorkMode.workModeCall adr str repr).on t =
    { t with
      workMode := (source.settings.onto t).workMode
      state := (source.settings.onto t).state
      memInven := (source.settings.onto t).memInven
      firstAdr := (source.settings.onto t).firstAdr
      wordNum := (source.settings.onto t).wordNum
      tagTime := (source.settings.onto t).tagTime } := by
  rw [SetterCall.on_of_isOk (isOk_workModeCall source adr str repr) hadr,
    WorkModeInfo.workModeCall, SetterCall.apply, memInven?_memInvenObject, Settings.onto]
  cases source.settings.wordsFit <;> rfl

theorem on_accuracyCall :
    (SetterCall.setEasAccuracy adr (.int source.decodedWorkMode.easAccuracy)).on t =
    { t with easAccuracy := (source.settings.onto t).easAccuracy } := by
  rw [SetterCall.on_of_isOk (isOk_accuracyCall source adr) hadr, Settings.onto]
  cases source.settings.accuracyFits <;> rfl

theorem on_offsetCall :
    (SetterCall.setSyrisResponseOffset adr (.int source.decodedWorkMode.syrisOffset)).on t =
    { t with syrisOffset := (source.settings.onto t).syrisOffset } := by
  rw [SetterCall.on_of_isOk (isOk_offsetCall source adr) hadr, Settings.onto]
  cases source.settings.offsetFits <;> rfl

/-- A copy puts the settings of the source that fit in the place of the others' own. Each call
is about other settings, and none of them about the address. -/
theorem foldl_copyCalls :
    (copyCalls source.decodedInfo source.decodedWorkMode adr str repr).foldl
      (fun t call => call.on t) t = source.settings.onto t := by
  simp only [copyCalls, List.foldl_cons, List.foldl_nil]
  rw [on_regionCall, on_powerCall, on_scanTimeCall, on_wiegandCall, on_workModeCall,
    on_accuracyCall, on_offsetCall]
  · rfl
  -- each call is still for the reader with the settings the calls before have left
  all_goals exact hadr

end On

theorem copyCalls_flagsNamed (source : Reader) (adr : PyValue) (str repr : Member → String) :
    ∀ call ∈ copyCalls source.decodedInfo source.decodedWorkMode adr str repr,
      call.FlagsNamed := by
  have hmasked (n mask : ℕ) : (n &&& mask) &&& mask = n &&& mask := by
    rw [Nat.and_assoc, Nat.and_self]
  simp only [copyCalls, List.forall_mem_cons]
  refine ⟨trivial, trivial, trivial, ?_, ?_, trivial, trivial,
    fun call hcall => absurd hcall List.not_mem_nil⟩
  · rintro flags ⟨⟩
    exact hmasked _ _
  · rintro flags ⟨⟩
    exact hmasked _ _

/-! ## Calls for one reader on the line -/

section OneReader

variable {calls : List SetterCall} {address : ℤ}

/-- The calls are for one address, and none of them changes an address. -/
structure ForOne (address : ℤ) (calls : List SetterCall) : Prop where
  adr : ∀ call ∈ calls, call.adr.int? = some address
  keep : ∀ call ∈ calls, ∀ s, (call.apply s).address = s.address

theorem ForOne.tail {call : SetterCall} (h : ForOne address (call :: calls)) :
    ForOne address calls :=
  ⟨fun other hother => h.adr other (List.mem_cons_of_mem _ hother),
    fun other hother => h.keep other (List.mem_cons_of_mem _ hother)⟩

theorem ForOne.on_address {call : SetterCall} (h : ForOne address (call :: calls)) (s : Settings) :
    (call.on s).address = s.address := by
  unfold SetterCall.on
  split
  · exact h.keep call List.mem_cons_self s
  · rfl

theorem ForOne.map_address {call : SetterCall} (h : ForOne address (call :: calls))
    (line : List Settings) :
    (line.map call.on).map Settings.address = line.map Settings.address := by
  rw [List.map_map]
  exact List.map_congr_left fun s _ => h.on_address s

/-- The other readers keep their settings. -/
theorem ForOne.foldl_on (h : ForOne address calls) {s : Settings} (hother : s.address ≠ address) :
    calls.foldl (fun s call => call.on s) s = s := by
  induction calls with
  | nil => rfl
  | cons call calls ih =>
    have hnot : ¬ call.IsFor s := fun hfor =>
      hother (Option.some.inj (hfor.2.symm.trans (h.adr call List.mem_cons_self)))
    rw [List.foldl_cons, SetterCall.on, if_neg hnot]
    exact ih h.tail

theorem ForOne.foldl_address (h : ForOne address calls) (s : Settings) :
    (calls.foldl (fun s call => call.on s) s).address = s.address := by
  induction calls generalizing s with
  | nil => rfl
  | cons call calls ih =>
    rw [List.foldl_cons, ih h.tail]
    exact h.on_address s

theorem ForOne.stayApart (h : ForOne address calls) {line : List Settings}
    (hnodup : (line.map Settings.address).Nodup) : StayApart calls line := by
  induction calls generalizing line with
  | nil => exact hnodup
  | cons call calls ih => exact ⟨hnodup, ih h.tail ((h.map_address line).symm ▸ hnodup)⟩

/-- Where there is a reader at the address, the accepted calls return. -/
theorem ForOne.returning (h : ForOne address calls) {line : List Settings}
    (hthere : address ∈ line.map Settings.address) :
    UhfReader18.returning calls line = calls.filter fun call => call.data.isOk := by
  induction calls generalizing line with
  | nil => rfl
  | cons call calls ih =>
    have hrest := ih h.tail ((h.map_address line).symm ▸ hthere)
    have hfor : (∃ s ∈ line, call.IsFor s) ↔ call.data.isOk = true := by
      obtain ⟨s, hs, hat⟩ := List.mem_map.mp hthere
      refine ⟨fun ⟨_, _, hfor⟩ => hfor.1, fun hok => ⟨s, hs, hok, ?_⟩⟩
      rw [hat]
      exact h.adr call List.mem_cons_self
    rw [UhfReader18.returning, List.filter_cons, hrest]
    exact if_congr hfor rfl rfl

/-- Calls for one reader on the line: those return that are accepted, and only this reader
changes. -/
theorem UpToDate.runSetters_one {delivery : Delivery} {readers : List Reader}
    {client : RfidClient (Peer (List Reader))}
    (h : UpToDate (lineBehaviour delivery) readers client)
    (hnodup : (readers.map Reader.address).Nodup) {target : Reader} (htarget : target ∈ readers)
    (hsingle : ord target.address ≠ 0xFF) (hone : ForOne (ord target.address) calls)
    (hflags : ∀ call ∈ calls, call.FlagsNamed) :
    ∃ client' readers', runSetters (peerApi (lineBehaviour delivery)) calls client =
        (calls.filter fun call => call.data.isOk, client') ∧
      UpToDate (lineBehaviour delivery) readers' client' ∧ (readers'.map Reader.address).Nodup ∧
      ∀ reader ∈ readers, ∃ reader' ∈ readers', ord reader'.address = ord reader.address ∧
        reader'.settings =
          if reader = target then calls.foldl (fun s call => call.on s) target.settings
          else reader.settings := by
  have hapart : StayApart calls (readers.map Reader.settings) :=
    hone.stayApart (map_address_settings readers ▸ hnodup.map ord_injective)
  have hto : ∀ call ∈ calls, call.adr.int? ≠ some 0xFF := fun call hcall heq =>
    hsingle (Option.some.inj ((hone.adr call hcall).symm.trans heq))
  obtain ⟨client', readers', hrun, hcurrent, hnodup', hline⟩ :=
    h.runSetters_line hflags hto hapart
  have hthere : ord target.address ∈ (readers.map Reader.settings).map Settings.address := by
    rw [map_address_settings]
    exact List.mem_map_of_mem (List.mem_map_of_mem htarget)
  rw [hone.returning hthere] at hrun
  refine ⟨client', readers', hrun, hcurrent, hnodup', fun reader hreader => ?_⟩
  have hmem := List.mem_map_of_mem hreader (f := fun reader =>
    calls.foldl (fun s call => call.on s) reader.settings)
  rw [← hline] at hmem
  obtain ⟨reader', hreader', hsettings⟩ := List.mem_map.mp hmem
  refine ⟨reader', hreader', ?_, hsettings.trans ?_⟩
  · exact (congrArg Settings.address hsettings).trans (hone.foldl_address reader.settings)
  · split
    · next heq => rw [heq]
    · next hne =>
      refine hone.foldl_on fun heq => hne ?_
      exact List.inj_on_of_nodup_map hnodup hreader htarget (ord_injective heq)

end OneReader

theorem forOne_copyCalls (info : ReaderInfo) (work : WorkModeInfo) {adr : PyValue} {address : ℤ}
    (hadr : adr.int? = some address) (str repr : Member → String) :
    ForOne address (copyCalls info work adr str repr) := by
  constructor <;> simp only [copyCalls, List.forall_mem_cons]
  · exact ⟨hadr, hadr, hadr, hadr, hadr, hadr, hadr, fun _ h => absurd h List.not_mem_nil⟩
  · exact ⟨fun _ => rfl, fun _ => rfl, fun _ => rfl, fun _ => rfl, fun _ => rfl, fun _ => rfl,
      fun _ => rfl, fun _ h => absurd h List.not_mem_nil⟩

/-! ## A copy -/

/-- One reader on a line is read, and what was read is passed to the setters of another one. All
of these return if and only if all settings are in the ranges the setters take. The other
reader then has the settings that are in these ranges, each setter's as a whole, and its own
ones in the place of the others; its address and all other readers are as they were. Where all
return, the copy is complete. -/
theorem settings_copied (delivery : Delivery) (readers : List Reader)
    (hnodup : (readers.map Reader.address).Nodup)
    (hsingle : ∀ reader ∈ readers, ord reader.address ≠ 0xFF) {source target : Reader}
    (hsource : source ∈ readers) (htarget : target ∈ readers) {adr adr' : PyValue}
    (hadr : adr.int? = some (ord source.address)) (hadr' : adr'.int? = some (ord target.address))
    (str repr : Member → String) :
    ∃ info work asked read accepted copied,
      getReaderInfo (peerApi (lineBehaviour delivery)) adr { socket := some ⟨readers, []⟩ } =
        (.ok info, asked) ∧
      getWorkMode (peerApi (lineBehaviour delivery)) adr asked = (.ok work, read) ∧
      Settings.of info work = source.settings ∧
      runSetters (peerApi (lineBehaviour delivery)) (copyCalls info work adr' str repr) read =
        (accepted, copied) ∧
      (accepted = copyCalls info work adr' str repr ↔ ∀ fits ∈ source.settings.fits, fits = true) ∧
      (accepted = copyCalls info work adr' str repr → source.settings.onto target.settings =
        { source.settings with address := ord target.address }) ∧
      ∀ reader ∈ readers, ∀ adr, adr.int? = some (ord reader.address) →
        ∃ info' work' client client',
          getReaderInfo (peerApi (lineBehaviour delivery)) adr copied = (.ok info', client) ∧
          getWorkMode (peerApi (lineBehaviour delivery)) adr client = (.ok work', client') ∧
          Settings.of info' work' =
            if reader = target then source.settings.onto target.settings else reader.settings := by
  obtain ⟨asked, read, hinfo, hwork, hcurrent⟩ :=
    (UpToDate.connected (lineBehaviour delivery) readers).settings_line hnodup hsource
      (hsingle source hsource) hadr
  let calls := copyCalls source.decodedInfo source.decodedWorkMode adr' str repr
  have hone : ForOne (ord target.address) calls := forOne_copyCalls _ _ hadr' str repr
  obtain ⟨copied, readers', hrun, hcurrent', hnodup', hafter⟩ :=
    hcurrent.runSetters_one hnodup htarget (hsingle target htarget) hone
      (copyCalls_flagsNamed source adr' str repr)
  have hall : calls.filter (fun call => call.data.isOk) = calls ↔
      ∀ fits ∈ source.settings.fits, fits = true := by
    rw [List.filter_eq_self, ← isOk_copyCalls source adr' str repr, List.forall_mem_map]
  refine ⟨_, _, asked, read, _, copied, hinfo, hwork, rfl, hrun, hall,
    fun heq => Settings.onto_of_fits (hall.mp heq) target.settings,
    fun reader hreader adr hadr => ?_⟩
  obtain ⟨reader', hreader', haddress, hsettings⟩ := hafter reader hreader
  rw [foldl_copyCalls source str repr hadr'] at hsettings
  obtain ⟨client, client', hinfo', hwork', _⟩ := hcurrent'.settings_line hnodup' hreader'
    (haddress ▸ hsingle reader hreader) (haddress ▸ hadr)
  exact ⟨_, _, client, client', hinfo', hwork', hsettings⟩

/-- The power of the reader that is read is above 30 dBm. The other one gets its band and its
scan time, and keeps its own power. -/
theorem settings_copied_partly :
    let whole : Delivery := ⟨fun raw => [raw].filter (· ≠ []), by simp, fun raw => by
      cases raw <;> simp⟩
    let api := peerApi (lineBehaviour whole)
    let first : Reader :=
      ⟨1, 2, 1, 9, 3, 49, 128, 33, 12, 0, 30, 10, 15, 0, 0, 4, 0, 1, 0, 8, 0⟩
    let second : Reader := ⟨2, 2, 1, 9, 3, 62, 64, 30, 10, 0, 30, 10, 15, 0, 0, 4, 0, 1, 0, 8, 0⟩
    ∃ info work asked read accepted copied info' work' client client',
      getReaderInfo api (.int 1) { socket := some ⟨[first, second], []⟩ } = (.ok info, asked) ∧
      getWorkMode api (.int 1) asked = (.ok work, read) ∧
      runSetters api (copyCalls info work (.int 2) (fun _ => "") fun _ => "") read =
        (accepted, copied) ∧
      accepted ≠ copyCalls info work (.int 2) (fun _ => "") (fun _ => "") ∧
      getReaderInfo api (.int 2) copied = (.ok info', client) ∧
      getWorkMode api (.int 2) client = (.ok work', client') ∧
      info'.address = 2 ∧ info'.band = some .us ∧ info'.scanTime = 12 ∧ info'.power = 30 := by
  intro whole api first second
  obtain ⟨info, work, asked, read, accepted, copied, hinfo, hwork, _, hrun, hall, _, hread⟩ :=
    settings_copied whole [first, second] (by decide) (by decide)
      (show first ∈ [first, second] by decide) (show second ∈ [first, second] by decide)
      (show (PyValue.int 1).int? = some (ord first.address) from rfl)
      (show (PyValue.int 2).int? = some (ord second.address) from rfl) (fun _ => "") (fun _ => "")
  obtain ⟨info', work', client, client', hinfo', hwork', hsettings⟩ :=
    hread second (by decide) (.int 2) rfl
  rw [if_pos rfl] at hsettings
  refine ⟨info, work, asked, read, accepted, copied, info', work', client, client', hinfo, hwork,
    hrun, fun heq => absurd (hall.mp heq) (by decide +kernel), hinfo', hwork', ?_⟩
  have hvalue : (first.settings.onto second.settings).address = 2 ∧
      (first.settings.onto second.settings).band = some .us ∧
      (first.settings.onto second.settings).scanTime = 12 ∧
      (first.settings.onto second.settings).power = 30 := by
    decide +kernel
  rwa [← hsettings] at hvalue

end UhfReader18
