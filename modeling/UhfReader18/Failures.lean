import UhfReader18.AllOrNothing

/-!
# How commands fail

A command may be rejected before anything is sent, the socket may raise, what arrives may be no
response, and a response may report a failure or be too short to decode. No other exception
leaves a command method: the buffer never raises, the queue is never empty when a response is
taken from it, and no byte of a response is looked up that is not there.

Results:
1. `receiveLoop_queued`: the loop of `_send_command` is left with a response or an exception.
2. `CommandCall.perform_raises`: the exceptions of the command methods.
-/

namespace UhfReader18

/-! ## Classes of exceptions -/

/-- Every exception of the computation is one of these. -/
def RaisesOnly {α : Type} (P : PyError → Prop) (x : Except PyError α) : Prop :=
  ∀ e, x = .error e → P e

/-- What is raised for an argument. -/
def IsArgumentError (e : PyError) : Prop := e.kind = .typeError ∨ e.kind = .valueError

section

variable {α β : Type} {P : PyError → Prop}

theorem RaisesOnly.ok (a : α) : RaisesOnly P (.ok a : Except PyError α) :=
  fun _ h => by cases h

theorem RaisesOnly.error {e : PyError} (h : P e) : RaisesOnly P (.error e : Except PyError α) :=
  fun _ he => Except.error.inj he ▸ h

theorem RaisesOnly.bind {x : Except PyError α} {next : α → Except PyError β}
    (h : RaisesOnly P x) (hnext : ∀ a, RaisesOnly P (next a)) : RaisesOnly P (x >>= next) := by
  cases x with
  | error e => exact fun e' he => Except.error.inj he ▸ h e rfl
  | ok a => exact hnext a

end

theorem require_raisesOnly {α : Type} (cast : PyValue → Option α) (kind : String)
    (value : PyValue) (name : String) :
    RaisesOnly IsArgumentError (require cast kind value name) := by
  rcases require_cases cast kind value name with ⟨a, _, hok⟩ | ⟨_, text, he⟩
  · exact hok ▸ .ok a
  · exact he ▸ .error (Or.inl rfl)

theorem requireRange_raisesOnly (value : PyValue) (lo hi : ℤ) (name : String) :
    RaisesOnly IsArgumentError (requireRange value lo hi name) := by
  rcases requireRange_cases value lo hi name with ⟨n, _, _, _, hok⟩ | ⟨_, e, he, hkind⟩
  · exact hok ▸ .ok n
  · exact he ▸ .error hkind

theorem bytesOf_raisesOnly (values : List ℤ) : RaisesOnly IsArgumentError (bytesOf values) := by
  unfold bytesOf
  split
  · exact .ok _
  · exact .error (Or.inr rfl)

/-- Whatever a setter objects to, it is a `TypeError` or a `ValueError`. -/
theorem SetterCall.data_raisesOnly (call : SetterCall) : RaisesOnly IsArgumentError call.data := by
  have hrange := requireRange_raisesOnly
  have hbytes := bytesOf_raisesOnly
  have hone (value : PyValue) (lo hi : ℤ) (name : String) :
      RaisesOnly IsArgumentError (do bytesOf [← requireRange value lo hi name]) :=
    (hrange value lo hi name).bind fun _ => hbytes _
  cases call with
  | setAddress _ newAdr => exact hone _ _ _ _
  | setPower _ power => exact hone _ _ _ _
  | setScanTime _ scanTime => exact hone _ _ _ _
  | setRegion _ band maxIndex minIndex =>
    refine (require_raisesOnly _ _ _ _).bind fun band => (hrange _ _ _ _).bind fun maxNumber =>
      (hrange _ _ _ _).bind fun minNumber => ?_
    split
    · exact .error (Or.inr rfl)
    · exact hbytes _
  | setBaudRate _ baud => exact (require_raisesOnly _ _ _ _).bind fun _ => hbytes _
  | acoustoOpticControl _ activeT silentT times =>
    exact (hrange _ _ _ _).bind fun _ => (hrange _ _ _ _).bind fun _ =>
      (hrange _ _ _ _).bind fun _ => hbytes _
  | setWiegand _ wgFormat dataInterval pulseWidth pulseInterval =>
    exact (require_raisesOnly _ _ _ _).bind fun _ => (hrange _ _ _ _).bind fun _ =>
      (hrange _ _ _ _).bind fun _ => (hrange _ _ _ _).bind fun _ => hbytes _
  | setWorkMode _ workMode state memInven firstAdr wordNum tagTime =>
    exact (require_raisesOnly _ _ _ _).bind fun _ => (require_raisesOnly _ _ _ _).bind fun _ =>
      (require_raisesOnly _ _ _ _).bind fun _ => (hrange _ _ _ _).bind fun _ =>
        (hrange _ _ _ _).bind fun _ => (hrange _ _ _ _).bind fun _ => hbytes _
  | setEasAccuracy _ accuracy => exact hone _ _ _ _
  | setSyrisResponseOffset _ offsetMs => exact hone _ _ _ _
  | setTriggerOffset _ triggerS => exact hone _ _ _ _

/-! ## Decoding -/

theorem index_raisesOnly {P : PyError → Prop} {raw : Bytes} {i : ℕ} (h : i < raw.length) :
    RaisesOnly P (index raw i) := by
  unfold index
  rw [List.getElem?_eq_getElem h]
  exact .ok _

/-- Seven bytes are enough for the reader information. -/
theorem ReaderInfo.fromBytes_raisesOnly (address : ℤ) (data : Bytes) :
    RaisesOnly (fun e => data.length < 7 ∧
      e = ⟨.valueError, s!"Unexpected info response length: {data.length} bytes"⟩)
      (fromBytes address data) := by
  by_cases hshort : data.length < 7
  · intro e he
    rw [fromBytes, if_pos hshort] at he
    exact ⟨hshort, (Except.error.inj he).symm⟩
  have hbyte {P : PyError → Prop} (i : ℕ) (hi : i < 7) : RaisesOnly P (index data i) :=
    index_raisesOnly (hi.trans_le (Nat.not_lt.mp hshort))
  unfold fromBytes
  rw [if_neg hshort]
  refine (hbyte 4 (by decide)).bind fun _ => (hbyte 5 (by decide)).bind fun _ => ?_
  refine (hbyte 0 (by decide)).bind fun _ => (hbyte 1 (by decide)).bind fun _ => ?_
  refine (hbyte 2 (by decide)).bind fun _ => (hbyte 3 (by decide)).bind fun _ => ?_
  refine (hbyte 6 (by decide)).bind fun _ => ?_
  dsimp only
  split
  · next hlong => exact (index_raisesOnly hlong).bind fun _ => .ok _
  · exact .ok _

/-- Twelve bytes are enough for the work mode, and every byte has one. -/
theorem WorkModeInfo.fromBytes_raisesOnly (data : Bytes) :
    RaisesOnly (fun e => data.length < 12 ∧
      e = ⟨.valueError, s!"Unexpected work-mode response length: {data.length} bytes"⟩)
      (fromBytes data) := by
  by_cases hshort : data.length < 12
  · intro e he
    rw [fromBytes, if_pos hshort] at he
    exact ⟨hshort, (Except.error.inj he).symm⟩
  · obtain ⟨front, rest, hdata, hfront⟩ :
        ∃ front rest, data = front ++ rest ∧ front.length = 12 :=
      ⟨data.take 12, data.drop 12, (List.take_append_drop 12 data).symm,
        List.length_take_of_le (Nat.not_lt.mp hshort)⟩
    match front with
    | [b0, b1, b2, b3, b4, b5, b6, b7, b8, b9, b10, b11] =>
      rw [hdata]
      exact (fromBytes_cons b0 b1 b2 b3 b4 b5 b6 b7 b8 b9 b10 b11 rest) ▸ .ok _

/-! ## The socket and the loop -/

section

variable {σ : Type} {api : SocketApi σ}

/-- The states a socket goes through while chunks are read from it. -/
inductive ReadOn (api : SocketApi σ) : σ → σ → Prop
  | here (socket : σ) : ReadOn api socket socket
  | chunk {socket next last : σ} {chunk : Bytes} : api.recv 4096 socket = (.ok chunk, next) →
      ReadOn api next last → ReadOn api socket last

/-- A call that writes `raw` has had `e` raised by its socket, by `sendall` or, behind what it
has read, by `recv`. -/
inductive Raised (api : SocketApi σ) (raw : Bytes) (self after : RfidClient σ) (e : PyError) : Prop
  | sendall {socket last : σ} : self.socket = some socket →
      api.sendall raw socket = (.error e, last) → after.socket = some last →
      Raised api raw self after e
  | recv {socket sent now last : σ} : self.socket = some socket →
      api.sendall raw socket = (.ok (), sent) → ReadOn api sent now →
      api.recv 4096 now = (.error e, last) → after.socket = some last →
      Raised api raw self after e

theorem receiveLoop_raises {passes : ℕ} {socket : σ} {self after : RfidClient σ} {e : PyError}
    (h : receiveLoop api passes socket self = (.error e, after)) :
    (∃ now last, ReadOn api socket now ∧ api.recv 4096 now = (.error e, last) ∧
      after.socket = some last) ∨ e.kind = .connectionError := by
  induction passes generalizing socket self with
  | zero => cases h
  | succ passes ih =>
    unfold receiveLoop at h
    split at h
    · cases h
    cases hrecv : api.recv 4096 socket with
    | mk result state =>
      rw [hrecv] at h
      cases result with
      | error e' =>
        cases h
        exact Or.inl ⟨socket, state, .here socket, hrecv, rfl⟩
      | ok chunk =>
        simp only [StreamBuffer.feed_eq] at h
        split at h
        · cases h
          exact Or.inr rfl
        split at h
        · cases h
          exact Or.inr rfl
        split at h
        · cases h
          exact Or.inr rfl
        · refine (ih h).imp_left ?_
          rintro ⟨now, last, hread, hraised⟩
          exact ⟨now, last, .chunk hrecv hread, hraised⟩

/-- The loop is not left without a response: a buffer that is settled is full before the passes
are used up. -/
theorem receiveLoop_queued {passes : ℕ} {socket : σ} {self after : RfidClient σ}
    (hsettled : Settled self) (hroom : 256 ≤ self.stream.buffer.length + passes)
    (h : receiveLoop api passes socket self = (.ok (), after)) : after.responses ≠ [] := by
  induction passes generalizing socket self with
  | zero =>
    have hshort := length_leftover_le self.stream.allowedReaders self.stream.buffer
    rw [hsettled] at hshort
    exact absurd (hroom.trans hshort) (by decide)
  | succ passes ih =>
    by_cases hqueue : self.responses ≠ []
    · rw [receiveLoop_of_responses api _ socket hqueue] at h
      cases h
      exact hqueue
    have hnil : self.responses = [] := not_not.mp hqueue
    cases hrecv : api.recv 4096 socket with
    | mk result state =>
      cases result with
      | error e =>
        rw [receiveLoop, if_neg hqueue, hrecv] at h
        cases h
      | ok chunk =>
        by_cases hchunk : chunk = []
        · rw [receiveLoop, if_neg hqueue] at h
          simp only [hrecv, hchunk, if_true] at h
          cases h
        by_cases hclean : Clean (parsed self.stream.allowedReaders (self.stream.buffer ++ chunk))
        swap
        · obtain ⟨result, hloop, ⟨text, rfl⟩, _⟩ := receiveLoop_unclean hnil hrecv hchunk hclean
          rw [hloop] at h
          cases h
        rw [receiveLoop_chunk passes hnil hrecv hchunk hclean] at h
        by_cases hframes :
            (parsed self.stream.allowedReaders (self.stream.buffer ++ chunk)).frames = []
        · -- nothing is complete: all of the chunk waits in the buffer
          have hsettled' : Settled { self.fed state chunk with responses := (parsed
              self.stream.allowedReaders (self.stream.buffer ++ chunk)).frames } :=
            leftover_leftover _ _
          refine ih hsettled' ?_ h
          show 256 ≤ (leftover self.stream.allowedReaders
            (self.stream.buffer ++ chunk)).length + passes
          have hgrows := List.length_pos_iff.mpr hchunk
          rw [leftover_of_quiet (hclean.eq_empty hframes), List.length_append]
          omega
        · rw [receiveLoop_of_responses api passes state hframes] at h
          cases h
          exact hframes

/-- How `_send_command` may fail. -/
theorem sendCommand_raises {self after : RfidClient σ} (hsettled : Settled self)
    {address command : PyValue} {data : Bytes} {e : PyError}
    (h : sendCommand api address command data self = (.error e, after)) :
    commandFrame address command data = .error e ∧ after = self ∨
      (∃ code raw, commandFrame address command data = .ok (code, raw) ∧
        Raised api raw self after e) ∨ e.kind = .connectionError := by
  unfold sendCommand at h
  cases hsocket : self.socket with
  | none =>
    rw [hsocket] at h
    cases h
    exact Or.inr (Or.inr rfl)
  | some socket =>
    rw [hsocket] at h
    cases hframe : commandFrame address command data with
    | error e' =>
      simp only [hframe] at h
      cases h
      exact Or.inl ⟨rfl, rfl⟩
    | ok checked =>
      simp only [hframe] at h
      cases hsend : api.sendall checked.2 socket with
      | mk result state =>
        cases result with
        | error e' =>
          simp only [hsend] at h
          cases h
          exact Or.inr (Or.inl ⟨_, _, rfl, .sendall hsocket hsend rfl⟩)
        | ok _ =>
          simp only [hsend] at h
          cases hloop : receiveLoop api 256 state { self with socket := some state } with
          | mk result client =>
            cases result with
            | error e' =>
              simp only [hloop] at h
              cases h
              refine Or.inr ((receiveLoop_raises hloop).imp_left ?_)
              rintro ⟨now, last, hread, hraised, hlast⟩
              exact ⟨_, _, rfl, .recv hsocket hsend hread hraised hlast⟩
            | ok _ =>
              simp only [hloop] at h
              have hqueue : client.responses ≠ [] :=
                receiveLoop_queued (show Settled { self with socket := some state } from hsettled)
                  (Nat.le_add_left 256 _) hloop
              obtain ⟨frame, responses, hresponses⟩ := List.exists_cons_of_ne_nil hqueue
              obtain ⟨result, hexamine, hresult⟩ := examine_cons hresponses checked.1
              rw [hexamine] at h
              rcases hresult with ⟨rfl, _⟩ | ⟨text, rfl, _⟩
              · cases h
              · cases h
                exact Or.inr (Or.inr rfl)

/-- How a command with a status may fail. -/
theorem run_raises {self after : RfidClient σ} (hsettled : Settled self) {adr : PyValue}
    {command : Command} {data : Bytes} {action : String} {e : PyError}
    (h : run api adr command data action self = (.error e, after)) :
    commandFrame adr command.object data = .error e ∧ after = self ∨
      (∃ code raw, commandFrame adr command.object data = .ok (code, raw) ∧
        Raised api raw self after e) ∨
      e.kind = .connectionError ∨ ∃ status : ℤ, status ≠ Status.success.value ∧
        e = ⟨.runtimeError, s!"{action} failed: {statusText status}"⟩ := by
  unfold run at h
  cases hsend : sendCommand api adr command.object data self with
  | mk result client =>
    cases result with
    | error e' =>
      simp only [hsend] at h
      cases h
      rcases sendCommand_raises hsettled hsend with h | h | h
      · exact Or.inl h
      · exact Or.inr (Or.inl h)
      · exact Or.inr (Or.inr (Or.inl h))
    | ok response =>
      simp only [hsend] at h
      split at h
      · cases h
      · next hstatus =>
        cases h
        exact Or.inr (Or.inr (Or.inr
          ⟨response.status, fun heq => hstatus (decide_eq_true heq), rfl⟩))

theorem getter_raises {α : Type} {self after : RfidClient σ} {adr : PyValue} {command : Command}
    {decode : RfidResponse → Except PyError α} {action : String} {e : PyError}
    (h : getter api adr command decode action self = (.error e, after)) :
    run api adr command [] action self = (.error e, after) ∨
      ∃ response, decode response = .error e := by
  unfold getter at h
  cases hrun : run api adr command [] action self with
  | mk result client =>
    cases result with
    | error e' =>
      simp only [hrun] at h
      cases h
      exact Or.inl rfl
    | ok response =>
      simp only [hrun] at h
      exact Or.inr ⟨response, congrArg Prod.fst h⟩

end

/-! ## The command methods -/

/-- How a call may fail, and the client after it. -/
inductive Fails {σ : Type} (api : SocketApi σ) (call : CommandCall) (client : RfidClient σ) :
    PyError → RfidClient σ → Prop
  | rejected {e : PyError} : (∀ address payload, ¬ call.Accepts address payload) →
      IsArgumentError e → Fails api call client e client
  | raised {e : PyError} {after : RfidClient σ} {data raw : Bytes} {code : Command} :
      call.data = .ok data → commandFrame call.adr call.command.object data = .ok (code, raw) →
      Raised api raw client after e → Fails api call client e after
  | connection {e : PyError} {after : RfidClient σ} : e.kind = .connectionError →
      Fails api call client e after
  | status {after : RfidClient σ} (action : String) (status : ℤ) :
      status ≠ Status.success.value →
      Fails api call client ⟨.runtimeError, s!"{action} failed: {statusText status}"⟩ after
  | shortInfo {after : RfidClient σ} (data : Bytes) : call.command = .getReaderInfo →
      data.length < 7 → Fails api call client
        ⟨.valueError, s!"Unexpected info response length: {data.length} bytes"⟩ after
  | shortWorkMode {after : RfidClient σ} (data : Bytes) : call.command = .getWorkMode →
      data.length < 12 → Fails api call client
        ⟨.valueError, s!"Unexpected work-mode response length: {data.length} bytes"⟩ after

section

variable {σ : Type} {api : SocketApi σ} {client after : RfidClient σ} {call : CommandCall}
  {e : PyError}

/-- A command that is not written has an argument that is not accepted. -/
theorem CommandCall.not_accepts {data : Bytes} (hdata : call.data = .ok data)
    (h : commandFrame call.adr call.command.object data = .error e) :
    (∀ address payload, ¬ call.Accepts address payload) ∧ IsArgumentError e := by
  constructor
  · rintro address payload ⟨⟨hint, hlo, hhi⟩, hpayload⟩
    obtain ⟨data', hdata', rfl⟩ := hpayload.exists_data
    cases hdata.symm.trans hdata'
    rw [← ord_byteOf hlo hhi] at hint
    have hshort : data.length ≤ 6 := List.length_map ord ▸ hpayload.length_le
    obtain ⟨f, _, _, _, hframe⟩ :=
      commandFrame_byte hint call.command data (hshort.trans (by decide))
    rw [hframe] at h
    cases h
  · rcases commandFrame_cases call.adr call.command.object data with
      ⟨_, f, _, _, _, _, _, hframe⟩ | ⟨e', he, hkind⟩
    · rw [hframe] at h
      cases h
    · cases he.symm.trans h
      exact hkind

theorem Fails.of_run (hsettled : Settled client) {data : Bytes} (hdata : call.data = .ok data)
    {action : String}
    (h : run api call.adr call.command data action client = (.error e, after)) :
    Fails api call client e after := by
  rcases run_raises hsettled h with ⟨hframe, rfl⟩ | hraised | hkind | ⟨status, hstatus, rfl⟩
  · obtain ⟨hrejected, hargument⟩ := CommandCall.not_accepts hdata hframe
    exact .rejected hrejected hargument
  · obtain ⟨code, raw, hframe, hsocket⟩ := hraised
    exact .raised hdata hframe hsocket
  · exact .connection hkind
  · exact .status action status hstatus

/-- The information of a reader, asked for by one of two methods. -/
theorem Fails.of_getReaderInfo (hsettled : Settled client)
    (hcommand : call.command = .getReaderInfo) (hdata : call.data = .ok [])
    (h : getReaderInfo api call.adr client = (.error e, after)) :
    Fails api call client e after := by
  rcases getter_raises h with hrun | ⟨response, hdecode⟩
  · exact .of_run hsettled hdata (hcommand ▸ hrun)
  · obtain ⟨hshort, rfl⟩ := ReaderInfo.fromBytes_raisesOnly _ _ e hdecode
    exact .shortInfo response.data hcommand hshort

/-- What a call without its value raises, the method has raised. -/
theorem raised_of_map {α : Type} {result : Except PyError α × RfidClient σ}
    (h : result.map (Except.map fun _ => ()) id = (.error e, after)) :
    result = (.error e, after) := by
  rcases result with ⟨e' | a, client⟩
  · cases h
    rfl
  · cases h

/-- The exceptions of the command methods. From every client a program can have, on any socket
and with any arguments, a call that raises has been rejected with a `TypeError` or `ValueError`
and left the client as it was, or raises what the socket has raised during this call, a
`ConnectionError`, a `RuntimeError` with the status of a response that is no success, or the
`ValueError` of a getter whose response is too short. -/
theorem CommandCall.perform_raises (hreachable : Reachable api client)
    (h : call.perform api client = (.error e, after)) : Fails api call client e after := by
  have hsettled := hreachable.settled
  cases call with
  | getReaderInfo adr =>
    exact .of_getReaderInfo hsettled rfl rfl (raised_of_map h)
  | getWorkMode adr =>
    rcases getter_raises (raised_of_map h) with hrun | ⟨response, hdecode⟩
    · exact .of_run hsettled rfl hrun
    · obtain ⟨hshort, rfl⟩ := WorkModeInfo.fromBytes_raisesOnly _ e hdecode
      exact .shortWorkMode response.data rfl hshort
  | discoverAddress =>
    have hdiscover := raised_of_map h
    cases hinfo : UhfReader18.getReaderInfo api (.int 0xFF) client with
    | mk result client' =>
      cases result with
      | error e' =>
        simp only [hinfo] at hdiscover
        split at hdiscover
        · cases hdiscover
          exact .connection rfl
        · cases hdiscover
          exact .of_getReaderInfo hsettled rfl rfl hinfo
      | ok info =>
        simp only [hinfo] at hdiscover
        cases hdiscover
  | setter call =>
    cases hdata : call.data with
    | error e' =>
      have hperform :=
        perform_of_error api (show (CommandCall.setter call).data = .error e' from hdata) client
      rw [hperform] at h
      cases h
      refine .rejected (fun address payload haccepts => ?_) (call.data_raisesOnly e hdata)
      obtain ⟨data, hok, _⟩ := haccepts.2.exists_data
      cases hdata.symm.trans hok
    | ok data =>
      obtain ⟨action, hperform⟩ := call.exists_perform_eq
      have hset : call.perform api client = (.error e, after) := raised_of_map h
      rw [hperform, hdata] at hset
      exact .of_run hsettled hdata hset

end

/-- A reader that does not answer. -/
theorem CommandCall.perform_raises_timeout :
    let api : SocketApi Unit := ⟨fun _ s => (.ok (), s), fun _ s =>
      (.error ⟨.timeoutError, "timed out"⟩, s)⟩
    let call : CommandCall := .getWorkMode (.int 0)
    call.perform api { socket := some () } =
        (.error ⟨.timeoutError, "timed out"⟩, { socket := some () }) ∧
      Fails api call { socket := some () } ⟨.timeoutError, "timed out"⟩ { socket := some () } := by
  intro api call
  have hperform : call.perform api { socket := some () } =
      (.error ⟨.timeoutError, "timed out"⟩, { socket := some () }) := by
    have hloop : receiveLoop api 256 () { socket := some () } =
        (.error ⟨.timeoutError, "timed out"⟩, { socket := some () }) := rfl
    obtain ⟨f, _, _, _, hframe⟩ :=
      commandFrame_byte (show (PyValue.int 0).int? = some (ord 0) from rfl) .getWorkMode []
        (by decide)
    have hwrite : api.sendall f.raw () = (.ok (), ()) := rfl
    have hsend : sendCommand api (.int 0) Command.getWorkMode.object [] { socket := some () } =
        (.error ⟨.timeoutError, "timed out"⟩, { socket := some () }) := by
      simp only [sendCommand, hframe, hwrite, hloop]
    show (UhfReader18.getWorkMode api (.int 0) { socket := some () }).map
      (Except.map fun _ => ()) id = _
    rw [UhfReader18.getWorkMode, getter, run, hsend]
    rfl
  exact ⟨hperform, CommandCall.perform_raises (.connect (.ok ()) .fresh) hperform⟩

end UhfReader18
