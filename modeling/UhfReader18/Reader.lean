import UhfReader18.BandCode
import UhfReader18.Peer

/-!
# A reader and its settings

The reader at the other end of a connection, as the manual describes it: it accepts every
well-formed command to its address or to the broadcast address, stores the parameters, and
answers with its old address. Its settings are a record of numbers and enums. The client
encodes arguments in ten setters and decodes them in two getters; the reader only ever sees
bytes.

Results:
1. `parseCommand_raw`: a reader reads the command that was sent.
2. `UpToDate.exchange`: a command is written, and the one answer to it is returned.
3. `Ready.exchange`: a command reaches the reader, and its answer is returned.
-/

namespace UhfReader18

/-! ## The reader -/

/-- The address of a reader, its eight bytes of reader information and its twelve bytes of
work-mode parameters. -/
structure Reader where
  address : UInt8
  version : UInt8
  subVersion : UInt8
  readerType : UInt8
  protocols : UInt8
  maxFre : UInt8
  minFre : UInt8
  power : UInt8
  scanTime : UInt8
  wgMode : UInt8
  wgDataInterval : UInt8
  wgPulseWidth : UInt8
  wgPulseInterval : UInt8
  readMode : UInt8
  modeState : UInt8
  memInven : UInt8
  firstAdr : UInt8
  wordNum : UInt8
  tagTime : UInt8
  accuracy : UInt8
  offsetTime : UInt8
  deriving DecidableEq

/-- The data of an answer; short enough for a frame that is no heartbeat. -/
abbrev AnswerData := { data : Bytes // data.length ≤ 80 }

namespace Reader

variable (self : Reader)

def info : Bytes :=
  [self.version, self.subVersion, self.readerType, self.protocols, self.maxFre, self.minFre,
   self.power, self.scanTime]

def workMode : Bytes :=
  [self.wgMode, self.wgDataInterval, self.wgPulseWidth, self.wgPulseInterval, self.readMode,
   self.modeState, self.memInven, self.firstAdr, self.wordNum, self.tagTime, self.accuracy,
   self.offsetTime]

/-- What the reader does with a well-formed command; `none` for a command it does not
answer. -/
def execute : Command → Bytes → Option (Reader × AnswerData)
  | .getReaderInfo, [] => some (self, ⟨self.info, by simp [info]⟩)
  | .getWorkMode, [] => some (self, ⟨self.workMode, by simp [workMode]⟩)
  | .setAddress, [address] => some ({ self with address := address }, ⟨[], by simp⟩)
  | .setRegion, [maxFre, minFre] =>
    some ({ self with maxFre := maxFre, minFre := minFre }, ⟨[], by simp⟩)
  | .setPower, [power] => some ({ self with power := power }, ⟨[], by simp⟩)
  | .setScanTime, [scanTime] => some ({ self with scanTime := scanTime }, ⟨[], by simp⟩)
  | .setBaudRate, [_] => some (self, ⟨[], by simp⟩)
  | .acoustoOpticControl, [_, _, _] => some (self, ⟨[], by simp⟩)
  | .setWiegand, [wgMode, wgDataInterval, wgPulseWidth, wgPulseInterval] =>
    some ({ self with
      wgMode := wgMode, wgDataInterval := wgDataInterval
      wgPulseWidth := wgPulseWidth, wgPulseInterval := wgPulseInterval }, ⟨[], by simp⟩)
  | .setWorkMode, [readMode, modeState, memInven, firstAdr, wordNum, tagTime] =>
    some ({ self with
      readMode := readMode, modeState := modeState, memInven := memInven
      firstAdr := firstAdr, wordNum := wordNum, tagTime := tagTime }, ⟨[], by simp⟩)
  | .setEasAccuracy, [accuracy] => some ({ self with accuracy := accuracy }, ⟨[], by simp⟩)
  | .syrisResponseOffset, [offsetTime] =>
    some ({ self with offsetTime := offsetTime }, ⟨[], by simp⟩)
  | .triggerOffset, [triggerTime] => some (self, ⟨[triggerTime], by simp⟩)
  | _, _ => none

/-- A successful answer. -/
def reply (command : Command) (data : AnswerData) : Reply where
  frame := ⟨self.address, byteOf command.value, 0, data.1, data.2.trans (by decide)⟩
  notHeartbeat := by
    intro hbeat
    have hfirst : byteOf (data.1.length + 5) = byteOf heartbeatMarker :=
      List.head_eq_of_cons_eq hbeat
    have hshort := data.2
    have hord := congrArg ord hfirst
    rw [ord_byteOf (by omega) (by omega)] at hord
    have hmarker : ord (byteOf heartbeatMarker) = 86 := rfl
    omega

end Reader

/-- A length byte that counts the data leaves room for them. -/
theorem fits_of_length {raw : Bytes} {length address command : UInt8} {data : Bytes}
    (h : ord length = data.length + 4 ∧ withCrc (length :: address :: command :: data) = raw) :
    data.length ≤ 251 := by
  have hle := ord_le length
  have hlength := h.1
  omega

/-- The command a frame on the wire carries, if its length and its CRC are right. -/
def parseCommand (raw : Bytes) : Option CommandFrame :=
  match raw with
  | length :: address :: command :: rest =>
    let data := rest.take (rest.length - 2)
    if h : ord length = data.length + 4 ∧ withCrc (length :: address :: command :: data) = raw then
      some ⟨address, command, data, fits_of_length h⟩
    else none
  | _ => none

theorem parseCommand_raw (f : CommandFrame) : parseCommand f.raw = some f := by
  have hrest : (f.data ++ littleEndian 2 (crc16 f.payload)).take
      ((f.data ++ littleEndian 2 (crc16 f.payload)).length - 2) = f.data := by
    rw [List.length_append, length_littleEndian, Nat.add_sub_cancel, List.take_left]
  have hraw : f.raw = byteOf (f.data.length + 4) :: f.address :: f.command ::
      (f.data ++ littleEndian 2 (crc16 f.payload)) := rfl
  rw [hraw, parseCommand]
  simp only [hrest]
  rw [dif_pos ⟨f.ord_length, rfl⟩]

namespace Reader

/-- The reader at the end of a bus: it acts on well-formed commands to its address or to all
readers. -/
def handle (self : Reader) (raw : Bytes) : Reader × Option Reply :=
  match parseCommand raw with
  | none => (self, none)
  | some f =>
    if f.address = self.address ∨ ord f.address = 0xFF then
      match enumOrNone Command.members Command.value (ord f.command) with
      | none => (self, none)
      | some command =>
        match self.execute command f.data with
        | none => (self, none)
        | some (reader, data) => (reader, some (self.reply command data))
    else (self, none)

end Reader

/-- What the reader makes of a command as the client writes it. -/
theorem Reader.handle_raw (self : Reader) {f : CommandFrame} {command : Command}
    (hcommand : command.value = ord f.command) :
    self.handle f.raw =
      if f.address = self.address ∨ ord f.address = 0xFF then
        match self.execute command f.data with
        | none => (self, none)
        | some (reader, data) => (reader, some (self.reply command data))
      else (self, none) := by
  simp only [handle, parseCommand_raw, ← hcommand, command.decode_value]

theorem Reader.reply_answers (self : Reader) (command : Command) (data : AnswerData) :
    (self.reply command data).response.Answers command := by
  obtain ⟨hlo, hhi⟩ := command.value_bounds
  exact Or.inl (ord_byteOf (by omega) hhi)

/-- How answers are cut into chunks on their way. -/
structure Delivery where
  cut : Bytes → List Bytes
  nonempty : ∀ raw, ∀ chunk ∈ cut raw, chunk ≠ []
  flatten_eq : ∀ raw, (cut raw).flatten = raw

/-- A connection to a reader. -/
def readerBehaviour (delivery : Delivery) : Behaviour Reader where
  react raw reader :=
    match reader.handle raw with
    | (reader, none) => (reader, [])
    | (reader, some reply) => (reader, (delivery.cut reply.raw).map .ok)
  silence := some timedOut

/-! ## One command -/

/-- The client is connected, and every answer received has been examined. -/
def UpToDate {ρ : Type} (behaviour : Behaviour ρ) (state : ρ) (client : RfidClient (Peer ρ)) :
    Prop :=
  ∃ peer received, peer.state = state ∧ (∀ e, .error e ∉ peer.inbox) ∧
    Tracks behaviour peer client received (parsed none received).frames.length ∧
    Clean (parsed none received) ∧ leftover none received = []

theorem UpToDate.connected {ρ : Type} (behaviour : Behaviour ρ) (state : ρ) :
    UpToDate behaviour state { socket := some ⟨state, []⟩ } := by
  refine ⟨⟨state, []⟩, [], rfl, fun e he => absurd he List.not_mem_nil, ?_, ?_, leftover_nil _⟩
  · rw [parsed_nil]
    refine .connect Idle.fresh ?_ fun arrival harrival => absurd harrival List.not_mem_nil
    rw [arrived_nil, parsed_nil]
    exact ⟨rfl, rfl⟩
  · rw [parsed_nil]
    exact ⟨rfl, rfl⟩

theorem UpToDate.socket {ρ : Type} {behaviour : Behaviour ρ} {state : ρ}
    {client : RfidClient (Peer ρ)} (h : UpToDate behaviour state client) :
    ∃ peer, client.socket = some peer := by
  obtain ⟨peer, _, _, _, htrack, _⟩ := h
  exact ⟨peer, htrack.socket⟩

/-- A command is written, and at most one answer arrives. It is returned if it answers the
command; without an answer the call times out. -/
theorem UpToDate.exchange {ρ : Type} {behaviour : Behaviour ρ} {state state' : ρ}
    {client : RfidClient (Peer ρ)} (h : UpToDate behaviour state client)
    (hsilence : behaviour.silence = some timedOut) {address command : PyValue} {data : Bytes}
    {code : Command} {raw : Bytes} (haccepted : commandFrame address command data = .ok (code, raw))
    {arrivals : List (Except PyError Bytes)}
    (hreact : behaviour.react raw state = (state', arrivals))
    {answer : Option Reply} (harrived : arrived arrivals = (answer.map Reply.raw).getD [])
    (harrives : ∀ arrival ∈ arrivals, behaviour.Arrives arrival)
    (hdata' : ∀ e, .error e ∉ arrivals)
    (hanswers : ∀ reply, answer = some reply → reply.response.Answers code) :
    ∃ client', sendCommand (peerApi behaviour) address command data client =
        ((answer.map fun reply => Except.ok reply.response).getD (.error timedOut), client') ∧
      UpToDate behaviour state' client' := by
  obtain ⟨peer, received, rfl, hdata, htrack, hclean, hsettled⟩ := h
  -- the answer, if there is one, is the next frame
  have hparsed : parsed none (received ++ arrived arrivals) =
      parsed none received ++ { frames := (answer.map Reply.response).toList } := by
    rw [parsed_append, hsettled, List.nil_append, harrived]
    cases answer with
    | none => exact congrArg _ (parsed_nil none)
    | some reply => exact congrArg _ (parsed_reply reply).1
  have hsettled' : leftover none (received ++ arrived arrivals) = [] := by
    rw [leftover_append, hsettled, List.nil_append, harrived]
    cases answer with
    | none => exact leftover_nil none
    | some reply => exact (parsed_reply reply).2
  have hclean' : Clean (parsed none (received ++ arrived arrivals)) := by
    rw [hparsed]
    exact clean_append.mpr ⟨hclean, rfl, rfl⟩
  have hframes : (parsed none (received ++ arrived arrivals)).frames =
      (parsed none received).frames ++ (answer.map Reply.response).toList := by
    rw [hparsed]
    rfl
  have hdata'' : ∀ e, .error e ∉ peer.inbox ++ arrivals := fun e he =>
    (List.mem_append.mp he).elim (hdata e) (hdata' e)
  obtain ⟨result, peer', client', hrun, hstate, hkept, hend⟩ :=
    htrack.sendCommand _ haccepted hreact hclean' harrives (Nat.le_refl _)
  have hinbox : ∀ e, .error e ∉ peer'.inbox := fun e he => hdata'' e (hkept e he)
  rcases hend with ⟨frame, hframe, htrack', hresult⟩ | ⟨htrack', hqueue, hresult, hempty⟩
  · rw [hframes, List.getElem?_append_right (Nat.le_refl _), Nat.sub_self] at hframe
    cases answer with
    | none => cases hframe
    | some reply =>
      cases hframe
      refine ⟨client', ?_, peer', _, hstate, hinbox, ?_, hclean', hsettled'⟩
      · rcases hresult with ⟨rfl, _⟩ | ⟨text, _, hother⟩
        · exact hrun
        · exact absurd (hanswers reply rfl) hother
      · rw [hframes, List.length_append]
        exact htrack'
  · have hall := htrack'.all_examined (hempty hdata'') hqueue
    cases answer with
    | none =>
      refine ⟨client', ?_, peer', _, hstate, hinbox, ?_, hclean', hsettled'⟩
      · rw [hrun, hresult, Behaviour.silent, hsilence]
        rfl
      · rw [hframes, Option.map_none, Option.toList_none, List.append_nil]
        exact htrack'
    | some reply =>
      rw [hframes, List.length_append] at hall
      exact absurd hall (by simp)

section Exchange

variable {delivery : Delivery}

/-- The client is connected to this reader, and up to date. -/
abbrev Ready (delivery : Delivery) : Reader → RfidClient (Peer Reader) → Prop :=
  UpToDate (readerBehaviour delivery)

/-- What a reader makes arrive is its answer, in chunks. -/
theorem readerBehaviour_react (delivery : Delivery) {reader reader' : Reader} {raw : Bytes}
    {answer : Option Reply} (h : reader.handle raw = (reader', answer)) :
    ∃ arrivals, (readerBehaviour delivery).react raw reader = (reader', arrivals) ∧
      arrived arrivals = (answer.map Reply.raw).getD [] ∧
      (∀ arrival ∈ arrivals, (readerBehaviour delivery).Arrives arrival) ∧
      ∀ e, .error e ∉ arrivals := by
  cases answer with
  | none =>
    exact ⟨[], by simp only [readerBehaviour, h], rfl,
      fun arrival harrival => absurd harrival List.not_mem_nil,
      fun e he => absurd he List.not_mem_nil⟩
  | some reply =>
    refine ⟨(delivery.cut reply.raw).map .ok, by simp only [readerBehaviour, h], ?_, ?_, ?_⟩
    · rw [arrived_map_ok, delivery.flatten_eq]
      rfl
    · intro arrival harrival
      obtain ⟨chunk, hchunk, rfl⟩ := List.mem_map.mp harrival
      exact delivery.nonempty _ chunk hchunk
    · intro e he
      obtain ⟨chunk, _, heq⟩ := List.mem_map.mp he
      cases heq

/-- A command reaches the reader. Its answer is returned if it answers the command; without
an answer the call times out. -/
theorem Ready.exchange {reader : Reader} {client : RfidClient (Peer Reader)}
    (h : Ready delivery reader client) {address command : PyValue} {data : Bytes} {code : Command}
    {raw : Bytes} (haccepted : commandFrame address command data = .ok (code, raw))
    {reader' : Reader} {answer : Option Reply} (hhandle : reader.handle raw = (reader', answer))
    (hanswers : ∀ reply, answer = some reply → reply.response.Answers code) :
    ∃ client', sendCommand (peerApi (readerBehaviour delivery)) address command data client =
        ((answer.map fun reply => Except.ok reply.response).getD (.error timedOut), client') ∧
      Ready delivery reader' client' := by
  obtain ⟨arrivals, hreact, harrived, harrives, hdata⟩ := readerBehaviour_react delivery hhandle
  exact UpToDate.exchange h rfl haccepted hreact harrived harrives hdata hanswers

end Exchange

end UhfReader18
