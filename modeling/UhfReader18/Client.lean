import UhfReader18.Constants
import UhfReader18.Stream

/-!
# The command client

`client.py`. A client holds a socket, a stream buffer and a queue of responses that
no command has examined yet. All three outlive a call that raises.

The socket is a parameter: what `sendall` and `recv` do to its state is the peer's
business. A method takes the client and gives it back, changed or not, together with
what it returned or raised.

Results:
1. `examine_cons`: one response leaves the queue, whether it is returned or not.
2. `commandFrame_cases`: what is checked before anything is sent.
-/

namespace UhfReader18

/-! ## Decoded answers -/

/-- Status text for an error message. -/
def statusText (status : ℤ) : String :=
  match enumOrNone Status.members Status.value status with
  | some s => title (s.name.replace "_" " ")
  | none => s!"Unknown (0x{formatHex 2 status})"

def RfidResponse.ok (self : RfidResponse) : Bool := self.status = Status.success.value

/-- Decoded Get Reader Info. -/
structure ReaderInfo where
  address : ℤ
  version : String
  readerModel : Option ReaderType
  protocols : Protocol
  band : Option FreqBand
  maxIndex : ℤ
  minIndex : ℤ
  power : ℤ
  scanTime : ℤ
  raw : Bytes
  deriving DecidableEq, Repr

def ReaderInfo.fromBytes (address : ℤ) (data : Bytes) : Except PyError ReaderInfo := do
  if data.length < 7 then
    throw ⟨.valueError, s!"Unexpected info response length: {data.length} bytes"⟩
  let (band, maxIndex, minIndex) := FreqBand.unpack (← index data 4) (← index data 5)
  return {
    address := address
    version := s!"{← index data 0}.{← index data 1}"
    readerModel := enumOrNone ReaderType.members ReaderType.value (← index data 2)
    protocols := ⟨(← index data 3).toNat &&& Protocol.mask⟩
    band := band
    maxIndex := maxIndex
    minIndex := minIndex
    power := ← index data 6
    scanTime := ← if data.length > 7 then index data 7 else pure 0
    raw := data }

/-- Decoded Get WorkMode. -/
structure WorkModeInfo where
  wiegandFormat : WiegandFormat
  wgDataInterval : ℤ
  wgPulseWidth : ℤ
  wgPulseInterval : ℤ
  workMode : WorkMode
  state : ModeState
  memInven : Option MemInven
  firstAdr : ℤ
  wordNum : ℤ
  tagTime : ℤ
  easAccuracy : ℤ
  syrisOffset : ℤ
  raw : Bytes
  deriving DecidableEq, Repr

def WorkModeInfo.fromBytes (data : Bytes) : Except PyError WorkModeInfo := do
  if data.length < 12 then
    throw ⟨.valueError, s!"Unexpected work-mode response length: {data.length} bytes"⟩
  return {
    wiegandFormat := ⟨(← index data 0).toNat &&& WiegandFormat.mask⟩
    wgDataInterval := ← index data 1
    wgPulseWidth := ← index data 2
    wgPulseInterval := ← index data 3
    workMode := ← enumOf "WorkMode" WorkMode.members WorkMode.value
      (Int.land (← index data 4) 0b11)
    state := ⟨(← index data 5).toNat &&& ModeState.mask⟩
    memInven := enumOrNone MemInven.members MemInven.value (← index data 6)
    firstAdr := ← index data 7
    wordNum := ← index data 8
    tagTime := ← index data 9
    easAccuracy := ← index data 10
    syrisOffset := ← index data 11
    raw := data }

/-! ## Input validation -/

/-- `_require` for the class `kind`, whose instances `cast` recognises. -/
def require {α : Type} (cast : PyValue → Option α) (kind : String) (value : PyValue)
    (name : String) : Except PyError α :=
  match cast value with
  | some instance' => .ok instance'
  | none => .error ⟨.typeError, s!"{name} must be {kind}, got {value.repr}"⟩

/-- `_require_range`; the number is the one the caller goes on with. -/
def requireRange (value : PyValue) (lo hi : ℤ) (name : String) : Except PyError ℤ :=
  match value.int? with
  | none => .error ⟨.typeError, s!"{name} must be int, got {value.repr}"⟩
  | some n =>
    if lo ≤ n ∧ n ≤ hi then .ok n
    else .error ⟨.valueError, s!"{name} must be {lo}-{hi}, got {value.str}"⟩

/-- 0xFF is the broadcast address. -/
def requireAddress (adr : PyValue) : Except PyError ℤ :=
  requireRange adr 0x00 0xFF "adr"

/-! ## The client -/

/-- What the client uses of a socket. Whether a call returns or raises, the socket goes
on in a new state. -/
structure SocketApi (σ : Type) where
  sendall : Bytes → σ → Except PyError Unit × σ
  recv : ℕ → σ → Except PyError Bytes × σ

structure RfidClient (σ : Type) where
  socket : Option σ := none
  stream : StreamBuffer := {}
  responses : List RfidResponse := []

section Client

variable {σ : Type} (api : SocketApi σ)

/-- `created` is what `socket.create_connection` returns or raises. -/
def RfidClient.connect (created : Except PyError σ) (self : RfidClient σ) :
    Except PyError Unit × RfidClient σ :=
  match self.socket with
  | some _ => (.ok (), self)
  | none =>
    match created with
    | .error e => (.error e, self)
    | .ok socket => (.ok (), { self with socket := some socket })

def RfidClient.close (self : RfidClient σ) : RfidClient σ :=
  { self with socket := none, stream := self.stream.reset, responses := [] }

/-- The checks of `_send_command` in front of the wire, and the frame it writes. -/
def commandFrame (address command : PyValue) (data : Bytes) : Except PyError (Command × Bytes) := do
  let address ← requireAddress address
  let command ← require PyValue.command? "Command" command "command"
  let raw ← buildCommandFrame address command.value data
  return (command, raw)

/-- The loop of `_send_command` that waits for a response, at most `passes` times. -/
def receiveLoop : ℕ → σ → RfidClient σ → Except PyError Unit × RfidClient σ
  | 0, _, self => (.ok (), self)
  | passes + 1, socket, self =>
    if self.responses ≠ [] then (.ok (), self)
    else
      match api.recv 4096 socket with
      | (.error e, socket) => (.error e, { self with socket := some socket })
      | (.ok chunk, socket) =>
        let self := { self with socket := some socket }
        if chunk = [] then
          (.error ⟨.connectionError, "No response from reader"⟩, self)
        else
          match self.stream.feed chunk with
          | .error e => (.error e, self)
          | .ok (stream, parsed) =>
            let self := { self with stream := stream }
            match parsed.errors with
            | text :: _ => (.error ⟨.connectionError, s!"Invalid reader response: {text}"⟩, self)
            | [] =>
              -- judged for the whole chunk, before its frames are queued
              if parsed.heartbeats ≠ [] then
                (.error ⟨.connectionError, "Unexpected heartbeat while waiting for response"⟩,
                  self)
              else
                receiveLoop passes socket
                  { self with responses := self.responses ++ parsed.frames }

/-- A frame counts as the response to a command when it carries its command byte, or
says that the command was unreadable. -/
def RfidResponse.Answers (frame : RfidResponse) (command : Command) : Prop :=
  frame.command = command.value ∨
    frame.command = 0 ∧ frame.status = Status.illegalCommandOrCrcError.value

instance (frame : RfidResponse) (command : Command) : Decidable (frame.Answers command) :=
  inferInstanceAs (Decidable (_ ∨ _))

/-- The first response in the queue, if it answers the command. -/
def examine (command : Command) (self : RfidClient σ) :
    Except PyError RfidResponse × RfidClient σ :=
  match self.responses with
  | [] => (.error ⟨.indexError, "pop from an empty deque"⟩, self)
  | frame :: responses =>
    let self := { self with responses := responses }
    if frame.command ≠ command.value ∧
        ¬ (frame.command = 0 ∧ frame.status = Status.illegalCommandOrCrcError.value) then
      (.error ⟨.connectionError, s!"Unexpected response command 0x{formatHex 2 frame.command}; " ++
        s!"expected 0x{formatHex 2 command.value}"⟩, self)
    else
      (.ok frame, self)

/-- 256 passes of the loop suffice: `Tracks.receive`. -/
def sendCommand (address command : PyValue) (data : Bytes) (self : RfidClient σ) :
    Except PyError RfidResponse × RfidClient σ :=
  match self.socket with
  | none => (.error ⟨.connectionError, "Not connected; call connect() first"⟩, self)
  | some socket =>
    match commandFrame address command data with
    | .error e => (.error e, self)
    | .ok (command, raw) =>
      match api.sendall raw socket with
      | (.error e, socket) => (.error e, { self with socket := some socket })
      | (.ok (), socket) =>
        match receiveLoop api 256 socket { self with socket := some socket } with
        | (.error e, self) => (.error e, self)
        | (.ok (), self) => examine command self

/-- `_run`: a command that counts as failed unless the reader reports success. -/
def run (adr : PyValue) (command : Command) (data : Bytes) (action : String)
    (self : RfidClient σ) : Except PyError RfidResponse × RfidClient σ :=
  match sendCommand api adr command.object data self with
  | (.error e, self) => (.error e, self)
  | (.ok response, self) =>
    if response.ok then (.ok response, self)
    else (.error ⟨.runtimeError, s!"{action} failed: {statusText response.status}"⟩, self)

/-! ## Commands -/

/-- A getter decodes the response to a command without data. -/
def getter {α : Type} (adr : PyValue) (command : Command)
    (decode : RfidResponse → Except PyError α) (action : String) (self : RfidClient σ) :
    Except PyError α × RfidClient σ :=
  match run api adr command [] action self with
  | (.error e, self) => (.error e, self)
  | (.ok response, self) => (decode response, self)

/-- A setter checks and encodes its arguments before it sends anything. -/
def setter (adr : PyValue) (command : Command) (data : Except PyError Bytes) (action : String)
    (self : RfidClient σ) : Except PyError RfidResponse × RfidClient σ :=
  match data with
  | .error e => (.error e, self)
  | .ok data => run api adr command data action self

def getReaderInfo (adr : PyValue := .int 0) :
    RfidClient σ → Except PyError ReaderInfo × RfidClient σ :=
  getter api adr .getReaderInfo
    (fun response => ReaderInfo.fromBytes response.readerAddress response.data) "Get reader info"

def getWorkMode (adr : PyValue := .int 0) :
    RfidClient σ → Except PyError WorkModeInfo × RfidClient σ :=
  getter api adr .getWorkMode (fun response => WorkModeInfo.fromBytes response.data)
    "Get work mode"

def discoverAddress (self : RfidClient σ) :
    Except PyError (ReaderInfo × ℤ) × RfidClient σ :=
  match getReaderInfo api (.int 0xFF) self with
  | (.error e, self) =>
    if e.kind = .timeoutError ∨ e.kind = .connectionError then
      (.error ⟨.connectionError,
        "Reader did not respond to broadcast; check power and serial wiring"⟩, self)
    else (.error e, self)
  | (.ok info, self) => (.ok (info, info.address), self)

def setAddressData (newAdr : PyValue) : Except PyError Bytes := do
  let newAdr ← requireRange newAdr 0x00 0xFE "new_adr"
  bytesOf [newAdr]

def setAddress (currentAdr newAdr : PyValue) :
    RfidClient σ → Except PyError RfidResponse × RfidClient σ :=
  setter api currentAdr .setAddress (setAddressData newAdr) "Set address"

def setPowerData (power : PyValue) : Except PyError Bytes := do
  let power ← requireRange power 0 30 "power"
  bytesOf [power]

def setPower (adr power : PyValue) : RfidClient σ → Except PyError RfidResponse × RfidClient σ :=
  setter api adr .setPower (setPowerData power) "Set power"

def setScanTimeData (scanTime : PyValue) : Except PyError Bytes := do
  let scanTime ← requireRange scanTime 3 255 "scan_time"
  bytesOf [scanTime]

def setScanTime (adr scanTime : PyValue) :
    RfidClient σ → Except PyError RfidResponse × RfidClient σ :=
  setter api adr .setScanTime (setScanTimeData scanTime) "Set scan time"

def setRegionData (band maxIndex minIndex : PyValue) : Except PyError Bytes := do
  let band ← require PyValue.freqBand? "FreqBand" band "band"
  let maxNumber ← requireRange maxIndex 0 band.maxIndex "max_index"
  let minNumber ← requireRange minIndex 0 band.maxIndex "min_index"
  if minNumber > maxNumber then
    throw ⟨.valueError, s!"min_index {minIndex.str} exceeds max_index {maxIndex.str}"⟩
  band.pack maxNumber minNumber

def setRegion (adr band maxIndex minIndex : PyValue) :
    RfidClient σ → Except PyError RfidResponse × RfidClient σ :=
  setter api adr .setRegion (setRegionData band maxIndex minIndex) "Set region"

def setBaudRateData (baud : PyValue) : Except PyError Bytes := do
  let baud ← require PyValue.readerBaudRate? "ReaderBaudRate" baud "baud"
  bytesOf [baud.value]

def setBaudRate (adr baud : PyValue) :
    RfidClient σ → Except PyError RfidResponse × RfidClient σ :=
  setter api adr .setBaudRate (setBaudRateData baud) "Set baud rate"

def acoustoOpticControlData (activeT silentT times : PyValue) : Except PyError Bytes := do
  let activeT ← requireRange activeT 0 0xFF "active_t"
  let silentT ← requireRange silentT 0 0xFF "silent_t"
  let times ← requireRange times 0 0xFF "times"
  bytesOf [activeT, silentT, times]

def acoustoOpticControl (adr activeT silentT times : PyValue) :
    RfidClient σ → Except PyError RfidResponse × RfidClient σ :=
  setter api adr .acoustoOpticControl (acoustoOpticControlData activeT silentT times)
    "Acousto-optic control"

def setWiegandData (wgFormat dataInterval pulseWidth pulseInterval : PyValue) :
    Except PyError Bytes := do
  let wgFormat ← require PyValue.wiegandFormat? "WiegandFormat" wgFormat "wg_format"
  let dataInterval ← requireRange dataInterval 0 0xFF "data_interval"
  let pulseWidth ← requireRange pulseWidth 1 0xFF "pulse_width"
  let pulseInterval ← requireRange pulseInterval 1 0xFF "pulse_interval"
  bytesOf [(wgFormat.value : ℤ), dataInterval, pulseWidth, pulseInterval]

def setWiegand (adr wgFormat dataInterval pulseWidth pulseInterval : PyValue) :
    RfidClient σ → Except PyError RfidResponse × RfidClient σ :=
  setter api adr .setWiegand (setWiegandData wgFormat dataInterval pulseWidth pulseInterval)
    "Set Wiegand"

def setWorkModeData (workMode state memInven firstAdr wordNum tagTime : PyValue) :
    Except PyError Bytes := do
  let workMode ← require PyValue.workMode? "WorkMode" workMode "work_mode"
  let state ← require PyValue.modeState? "ModeState" state "state"
  let memInven ← require PyValue.memInven? "MemInven" memInven "mem_inven"
  let firstAdr ← requireRange firstAdr 0 0xFF "first_adr"
  let wordMax := if state.hasSyris485 then 4 else 32
  let wordNum ← requireRange wordNum 1 wordMax "word_num"
  let tagTime ← requireRange tagTime 0 0xFF "tag_time"
  bytesOf [workMode.value, (state.value : ℤ), memInven.value, firstAdr, wordNum, tagTime]

def setWorkMode (adr workMode state memInven firstAdr wordNum tagTime : PyValue) :
    RfidClient σ → Except PyError RfidResponse × RfidClient σ :=
  setter api adr .setWorkMode
    (setWorkModeData workMode state memInven firstAdr wordNum tagTime) "Set work mode"

def setEasAccuracyData (accuracy : PyValue) : Except PyError Bytes := do
  let accuracy ← requireRange accuracy 0 8 "accuracy"
  bytesOf [accuracy]

def setEasAccuracy (adr accuracy : PyValue) :
    RfidClient σ → Except PyError RfidResponse × RfidClient σ :=
  setter api adr .setEasAccuracy (setEasAccuracyData accuracy) "Set EAS accuracy"

def setSyrisResponseOffsetData (offsetMs : PyValue) : Except PyError Bytes := do
  let offsetMs ← requireRange offsetMs 0 100 "offset_ms"
  bytesOf [offsetMs]

def setSyrisResponseOffset (adr offsetMs : PyValue) :
    RfidClient σ → Except PyError RfidResponse × RfidClient σ :=
  setter api adr .syrisResponseOffset (setSyrisResponseOffsetData offsetMs) "Set Syris offset"

def setTriggerOffsetData (triggerS : PyValue) : Except PyError Bytes := do
  let triggerS ← requireRange triggerS 0 0xFF "trigger_s"
  bytesOf [triggerS]

def setTriggerOffset (adr triggerS : PyValue) :
    RfidClient σ → Except PyError RfidResponse × RfidClient σ :=
  setter api adr .triggerOffset (setTriggerOffsetData triggerS) "Set trigger offset"

end Client

/-- Examining a queue takes its first response and returns it or raises. -/
theorem examine_cons {σ : Type} {self : RfidClient σ} {frame : RfidResponse}
    {responses : List RfidResponse} (h : self.responses = frame :: responses)
    (command : Command) :
    ∃ result, examine command self = (result, { self with responses := responses }) ∧
      (result = .ok frame ∧ frame.Answers command ∨
        ∃ text, result = .error ⟨.connectionError, text⟩ ∧ ¬ frame.Answers command) := by
  unfold examine RfidResponse.Answers
  rw [h]
  simp only
  split
  · next hother => exact ⟨_, rfl, Or.inr ⟨_, rfl, by tauto⟩⟩
  · next hanswers => exact ⟨_, rfl, Or.inl ⟨rfl, by tauto⟩⟩

/-! ## What the checks let through -/

theorem require_cases {α : Type} (cast : PyValue → Option α) (kind : String) (value : PyValue)
    (name : String) :
    (∃ a, cast value = some a ∧ require cast kind value name = .ok a) ∨
      cast value = none ∧ ∃ text, require cast kind value name = .error ⟨.typeError, text⟩ := by
  unfold require
  cases hcast : cast value with
  | some a => exact Or.inl ⟨a, rfl, rfl⟩
  | none => exact Or.inr ⟨rfl, _, rfl⟩

theorem requireRange_cases (value : PyValue) (lo hi : ℤ) (name : String) :
    (∃ n, value.int? = some n ∧ lo ≤ n ∧ n ≤ hi ∧ requireRange value lo hi name = .ok n) ∨
      (∀ n, value.int? = some n → ¬ (lo ≤ n ∧ n ≤ hi)) ∧
        ∃ e, requireRange value lo hi name = .error e ∧
          (e.kind = .typeError ∨ e.kind = .valueError) := by
  unfold requireRange
  cases hint : value.int? with
  | none => exact Or.inr ⟨fun n hn => (Option.some_ne_none n hn.symm).elim, _, rfl, Or.inl rfl⟩
  | some n =>
    by_cases hrange : lo ≤ n ∧ n ≤ hi
    · exact Or.inl ⟨n, rfl, hrange.1, hrange.2, if_pos hrange⟩
    · refine Or.inr ⟨fun m hm => ?_, _, if_neg hrange, Or.inr rfl⟩
      rw [← Option.some.inj hm]
      exact hrange

theorem require_eq_ok_iff {α : Type} {cast : PyValue → Option α} {kind : String}
    {value : PyValue} {name : String} {a : α} :
    require cast kind value name = .ok a ↔ cast value = some a := by
  rcases require_cases cast kind value name with ⟨b, hcast, hok⟩ | ⟨hcast, text, he⟩
  · rw [hok, hcast, Except.ok.injEq, Option.some.injEq]
  · rw [he, hcast]
    exact iff_of_false (fun h => by cases h) (fun h => by cases h)

/-- The value is an `int`, no `bool`, and the number `n` in the range. -/
def PyValue.Within (value : PyValue) (lo hi n : ℤ) : Prop :=
  value.int? = some n ∧ lo ≤ n ∧ n ≤ hi

theorem requireRange_eq_ok_iff {value : PyValue} {lo hi n : ℤ} {name : String} :
    requireRange value lo hi name = .ok n ↔ value.Within lo hi n := by
  unfold PyValue.Within
  rcases requireRange_cases value lo hi name with ⟨m, hint, hlo, hhi, hok⟩ | ⟨hno, e, he, _⟩
  · rw [hok, hint, Except.ok.injEq, Option.some.injEq]
    exact ⟨fun h => ⟨h, h ▸ hlo, h ▸ hhi⟩, fun h => h.1⟩
  · rw [he]
    exact iff_of_false (fun h => by cases h) fun h => hno n h.1 h.2

/-- A command is written, with its address, its code and its data in a frame, or rejected
with a `TypeError` or a `ValueError`. -/
theorem commandFrame_cases (address command : PyValue) (data : Bytes) :
    (∃ code, ∃ f : CommandFrame, address.int? = some (ord f.address) ∧
        command.command? = some code ∧ code.value = ord f.command ∧ data = f.data ∧
        requireAddress address = .ok (ord f.address) ∧
        commandFrame address command data = .ok (code, f.raw)) ∨
      ∃ e, commandFrame address command data = .error e ∧
        (e.kind = .typeError ∨ e.kind = .valueError) := by
  unfold commandFrame
  rcases requireRange_cases address 0x00 0xFF "adr" with
    ⟨n, hint, hlo, hhi, hok⟩ | ⟨_, e, he, hkind⟩
  · have haddress : requireAddress address = .ok n := hok
    rcases require_cases PyValue.command? "Command" command "command" with
      ⟨code, hcode, hok'⟩ | ⟨_, text, he⟩
    · rcases buildCommandFrame_cases n code.value data with
        ⟨f, rfl, hvalue, rfl⟩ | ⟨_, text, he⟩
      · refine Or.inl ⟨code, f, hint, hcode, hvalue, rfl, haddress, ?_⟩
        simp only [bind, Except.bind, haddress, hok', hvalue, buildCommandFrame_raw]
        rfl
      · refine Or.inr ⟨⟨.valueError, text⟩, ?_, Or.inr rfl⟩
        simp only [bind, Except.bind, haddress, hok', he]
    · refine Or.inr ⟨⟨.typeError, text⟩, ?_, Or.inl rfl⟩
      simp only [bind, Except.bind, haddress, he]
  · refine Or.inr ⟨e, ?_, hkind⟩
    simp only [bind, Except.bind, requireAddress, he]

end UhfReader18
