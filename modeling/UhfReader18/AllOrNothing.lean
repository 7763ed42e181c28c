import UhfReader18.Accepted

/-!
# A command is written whole or not at all

Each public method checks its own arguments, `_send_command` checks the address and the
command, and `build_command_frame` and `bytes` check once more. Whichever of them rejects a
call, nothing has been written by then. A call that none of them rejects writes one frame.

The calls on the socket are recorded by a socket that passes them on.

Results:
1. `CommandCall.perform_forget`: the record changes nothing.
2. `CommandCall.perform_rejected`, `CommandCall.perform_accepted`: the two cases.
3. `CommandCall.all_or_nothing`: for every client and every call.
-/

namespace UhfReader18

/-! ## A record of the calls -/

/-- A call on a socket. -/
inductive IoCall
  | sendall (raw : Bytes)
  | recv (size : ℕ)
  deriving DecidableEq

section Recorded

variable {σ : Type} (api : SocketApi σ)

/-- The socket with a record of the calls on it, the oldest first. -/
def recorded : SocketApi (σ × List IoCall) where
  sendall raw socket :=
    let (result, state) := api.sendall raw socket.1
    (result, state, socket.2 ++ [.sendall raw])
  recv size socket :=
    let (result, state) := api.recv size socket.1
    (result, state, socket.2 ++ [.recv size])

/-- The client without the record. -/
def RfidClient.forget (self : RfidClient (σ × List IoCall)) : RfidClient σ where
  socket := self.socket.map Prod.fst
  stream := self.stream
  responses := self.responses

variable {api}

theorem recorded_sendall {raw : Bytes} {socket state : σ} {result : Except PyError Unit}
    (h : api.sendall raw socket = (result, state)) (log : List IoCall) :
    (recorded api).sendall raw (socket, log) = (result, state, log ++ [.sendall raw]) := by
  simp only [recorded, h]

theorem recorded_recv {size : ℕ} {socket state : σ} {result : Except PyError Bytes}
    (h : api.recv size socket = (result, state)) (log : List IoCall) :
    (recorded api).recv size (socket, log) = (result, state, log ++ [.recv size]) := by
  simp only [recorded, h]

theorem receiveLoop_forget (passes : ℕ) (socket : σ) (log : List IoCall)
    (self : RfidClient (σ × List IoCall)) :
    receiveLoop api passes socket self.forget =
      (receiveLoop (recorded api) passes (socket, log) self).map id RfidClient.forget := by
  induction passes generalizing socket log self with
  | zero => rfl
  | succ passes ih =>
    unfold receiveLoop
    by_cases hresponses : self.responses ≠ []
    · rw [if_pos hresponses, if_pos (show self.forget.responses ≠ [] from hresponses)]
      rfl
    rw [if_neg hresponses, if_neg (show ¬ self.forget.responses ≠ [] from hresponses)]
    rcases hrecv : api.recv 4096 socket with ⟨_ | chunk, state⟩
    · rw [recorded_recv hrecv]
      rfl
    rw [recorded_recv hrecv]
    have hstream : self.forget.stream = self.stream := rfl
    simp only [StreamBuffer.feed_eq, hstream]
    split
    · rfl
    split
    · rfl
    split
    · rfl
    · exact ih state (log ++ [.recv 4096])
        { self.fed (state, log ++ [.recv 4096]) chunk with
          responses := self.responses ++
            (parsed self.stream.allowedReaders (self.stream.buffer ++ chunk)).frames }

theorem examine_forget (command : Command) (self : RfidClient (σ × List IoCall)) :
    examine command self.forget = (examine command self).map id RfidClient.forget := by
  unfold examine
  have hresponses : self.forget.responses = self.responses := rfl
  rw [hresponses]
  split
  · rfl
  · simp only
    split <;> rfl

theorem sendCommand_forget (address command : PyValue) (data : Bytes)
    (self : RfidClient (σ × List IoCall)) :
    sendCommand api address command data self.forget =
      (sendCommand (recorded api) address command data self).map id RfidClient.forget := by
  unfold sendCommand
  cases hsocket : self.socket with
  | none =>
    have hforget : self.forget.socket = none := congrArg (Option.map Prod.fst) hsocket
    rw [hforget]
    rfl
  | some recording =>
    obtain ⟨socket, log⟩ := recording
    have hforget : self.forget.socket = some socket := congrArg (Option.map Prod.fst) hsocket
    rw [hforget]
    simp only
    rcases commandFrame address command data with e | ⟨code, raw⟩
    · rfl
    simp only
    rcases hsend : api.sendall raw socket with ⟨_ | _, state⟩
    · rw [recorded_sendall hsend]
      rfl
    rw [recorded_sendall hsend]
    have hloop : receiveLoop api 256 state { self.forget with socket := some state } = _ :=
      receiveLoop_forget 256 state (log ++ [.sendall raw])
        { self with socket := some (state, log ++ [.sendall raw]) }
    simp only [hloop]
    generalize receiveLoop (recorded api) 256 (state, log ++ [.sendall raw])
      ⟨some (state, log ++ [.sendall raw]), self.stream, self.responses⟩ = loop
    rcases loop with ⟨_ | _, client⟩
    · rfl
    · exact examine_forget code client

/-! ## What is recorded -/

/-- Nothing but calls of `recv` has been recorded after `log`. -/
def Received (log : List IoCall) (self : RfidClient (σ × List IoCall)) : Prop :=
  ∃ socket receives, self.socket = some (socket, log ++ receives) ∧
    ∀ call ∈ receives, call = .recv 4096

theorem Received.start {log : List IoCall} {self : RfidClient (σ × List IoCall)} {socket : σ}
    (h : self.socket = some (socket, log)) : Received log self :=
  ⟨socket, [], by rw [h, List.append_nil], fun _ hcall => absurd hcall List.not_mem_nil⟩

theorem Received.of_recv {log : List IoCall} {self : RfidClient (σ × List IoCall)}
    (h : Received (log ++ [.recv 4096]) self) : Received log self := by
  obtain ⟨socket, receives, hsocket, hreceives⟩ := h
  refine ⟨socket, .recv 4096 :: receives, ?_, List.forall_mem_cons.mpr ⟨rfl, hreceives⟩⟩
  rw [hsocket, List.append_assoc, List.singleton_append]

theorem received_receiveLoop (passes : ℕ) {socket : σ} {log : List IoCall}
    {self : RfidClient (σ × List IoCall)} (hsocket : self.socket = some (socket, log)) :
    Received log (receiveLoop (recorded api) passes (socket, log) self).2 := by
  induction passes generalizing socket log self with
  | zero => exact .start hsocket
  | succ passes ih =>
    unfold receiveLoop
    split
    · exact .start hsocket
    rcases hrecv : api.recv 4096 socket with ⟨_ | chunk, state⟩
    · rw [recorded_recv hrecv]
      exact .of_recv (.start rfl)
    rw [recorded_recv hrecv]
    simp only [StreamBuffer.feed_eq]
    refine .of_recv ?_
    split
    · exact .start rfl
    split
    · exact .start rfl
    split
    · exact .start rfl
    · exact ih rfl

theorem Received.examine {log : List IoCall} {self : RfidClient (σ × List IoCall)}
    (h : Received log self) (command : Command) : Received log (examine command self).2 := by
  unfold UhfReader18.examine
  split
  · exact h
  · simp only
    split <;> exact h

/-- An accepted command writes its frame, and then only receives. -/
theorem received_sendCommand {self : RfidClient (σ × List IoCall)} {socket : σ}
    {log : List IoCall} (hsocket : self.socket = some (socket, log)) {address command : PyValue}
    {data raw : Bytes} {code : Command}
    (haccepted : commandFrame address command data = .ok (code, raw)) :
    Received (log ++ [.sendall raw])
      (sendCommand (recorded api) address command data self).2 := by
  unfold sendCommand
  simp only [hsocket, haccepted]
  rcases hsend : api.sendall raw socket with ⟨_ | _, state⟩
  · rw [recorded_sendall hsend]
    exact .start rfl
  rw [recorded_sendall hsend]
  have hloop : Received (log ++ [.sendall raw]) (receiveLoop (recorded api) 256
      (state, log ++ [.sendall raw])
      { self with socket := some (state, log ++ [.sendall raw]) }).2 :=
    received_receiveLoop 256 rfl
  simp only
  generalize receiveLoop (recorded api) 256 (state, log ++ [.sendall raw])
    ⟨some (state, log ++ [.sendall raw]), self.stream, self.responses⟩ = loop at hloop ⊢
  rcases loop with ⟨_ | _, client⟩
  · exact hloop
  · exact hloop.examine code

end Recorded

/-! ## A method sends one command -/

/-- Whatever has raised, raises on. -/
def Raises {α β : Type} (after : Except PyError α → Except PyError β) : Prop :=
  ∀ e, ∃ e', after (.error e) = .error e'

/-- A method sends the command, and all it does afterwards is to judge how that ended: it may
reject a response, but it returns nothing where the command has raised. -/
def Sends {α : Type} (adr : PyValue) (command : Command) (data : Bytes)
    (method : ∀ σ : Type, SocketApi σ → RfidClient σ → Except PyError α × RfidClient σ) : Prop :=
  ∃ judge, Raises judge ∧ ∀ (σ : Type) (api : SocketApi σ) (self : RfidClient σ),
    method σ api self = (sendCommand api adr command.object data self).map judge id

section Sends

variable {α : Type} {adr : PyValue} {command : Command} {data : Bytes}
  {method : ∀ σ : Type, SocketApi σ → RfidClient σ → Except PyError α × RfidClient σ}

theorem sends_run (adr : PyValue) (command : Command) (data : Bytes) (action : String) :
    Sends adr command data fun _ api => run api adr command data action := by
  refine ⟨fun result => result >>= fun response =>
    if response.ok then .ok response
    else .error ⟨.runtimeError, s!"{action} failed: {statusText response.status}"⟩,
    fun e => ⟨e, rfl⟩, fun σ api self => ?_⟩
  show run api adr command data action self = _
  unfold run
  rcases sendCommand api adr command.object data self with ⟨_ | response, client⟩
  · rfl
  · simp only [Prod.map, bind, Except.bind]
    split <;> rfl

theorem Sends.map {β : Type} (h : Sends adr command data method)
    {after : Except PyError α → Except PyError β} (hafter : Raises after) :
    Sends adr command data fun σ api self => (method σ api self).map after id := by
  obtain ⟨judge, hjudge, hmethod⟩ := h
  refine ⟨fun result => after (judge result), fun e => ?_, fun σ api self => ?_⟩
  · obtain ⟨e', he⟩ := hjudge e
    obtain ⟨e'', he'⟩ := hafter e'
    exact ⟨e'', (congrArg after he).trans he'⟩
  · show (method σ api self).map after id = _
    rw [hmethod]
    rfl

theorem raises_map {α β : Type} (f : α → β) : Raises (Except.map (ε := PyError) f) :=
  fun e => ⟨e, rfl⟩

theorem sends_getter (adr : PyValue) (command : Command)
    (decode : RfidResponse → Except PyError α) (action : String) :
    Sends adr command [] fun _ api => getter api adr command decode action := by
  have hmap := (sends_run adr command [] action).map
    (show Raises fun result => result >>= decode from fun e => ⟨e, rfl⟩)
  obtain ⟨judge, hjudge, hmethod⟩ := hmap
  refine ⟨judge, hjudge, fun σ api self => ?_⟩
  refine Eq.trans ?_ (hmethod σ api self)
  show getter api adr command decode action self =
    (run api adr command [] action self).map (fun result => result >>= decode) id
  unfold getter
  rcases run api adr command [] action self with ⟨_ | _, client⟩ <;> rfl

theorem sends_getReaderInfo (adr : PyValue) :
    Sends adr .getReaderInfo [] fun _ api => getReaderInfo api adr :=
  sends_getter adr .getReaderInfo _ _

/-- A silent or broken connection is reported as one kind of error. -/
theorem sends_discoverAddress :
    Sends (.int 0xFF) .getReaderInfo [] fun _ api => discoverAddress api := by
  let after (result : Except PyError ReaderInfo) : Except PyError (ReaderInfo × ℤ) :=
    match result with
    | .error e =>
      if e.kind = .timeoutError ∨ e.kind = .connectionError then
        .error ⟨.connectionError,
          "Reader did not respond to broadcast; check power and serial wiring"⟩
      else .error e
    | .ok info => .ok (info, info.address)
  have hafter : Raises after := by
    intro e
    simp only [after]
    split <;> exact ⟨_, rfl⟩
  obtain ⟨judge, hjudge, hmethod⟩ := (sends_getReaderInfo (.int 0xFF)).map hafter
  refine ⟨judge, hjudge, fun σ api self => ?_⟩
  refine Eq.trans ?_ (hmethod σ api self)
  show discoverAddress api self = (getReaderInfo api (.int 0xFF) self).map after id
  unfold discoverAddress
  rcases getReaderInfo api (.int 0xFF) self with ⟨_ | _, client⟩
  · simp only [Prod.map, after]
    split <;> rfl
  · rfl

end Sends

/-! ## The commands -/

/-- A call of one of the public command methods. -/
inductive CommandCall
  | getReaderInfo (adr : PyValue)
  | getWorkMode (adr : PyValue)
  | discoverAddress
  | setter (call : SetterCall)
  deriving DecidableEq

namespace CommandCall

/-- The call, without the value it returns. -/
def perform {σ : Type} (api : SocketApi σ) (call : CommandCall) (self : RfidClient σ) :
    Except PyError Unit × RfidClient σ :=
  match call with
  | getReaderInfo adr => (UhfReader18.getReaderInfo api adr self).map (·.map fun _ => ()) id
  | getWorkMode adr => (UhfReader18.getWorkMode api adr self).map (·.map fun _ => ()) id
  | discoverAddress => (UhfReader18.discoverAddress api self).map (·.map fun _ => ()) id
  | setter call => (call.perform api self).map (·.map fun _ => ()) id

def adr : CommandCall → PyValue
  | getReaderInfo adr => adr
  | getWorkMode adr => adr
  | discoverAddress => .int 0xFF
  | setter call => call.adr

def command : CommandCall → Command
  | getReaderInfo _ => .getReaderInfo
  | getWorkMode _ => .getWorkMode
  | discoverAddress => .getReaderInfo
  | setter call => call.command

def data : CommandCall → Except PyError Bytes
  | setter call => call.data
  | _ => .ok []

/-- The data block of an accepted call. -/
def AcceptsData : CommandCall → List ℤ → Prop
  | setter call, payload => call.Accepts payload
  | _, payload => payload = []

/-- All arguments of the call are accepted, and these are its address and its data block. -/
def Accepts (call : CommandCall) (address : ℤ) (payload : List ℤ) : Prop :=
  call.adr.Within 0x00 0xFF address ∧ call.AcceptsData payload

theorem acceptsData_of_data {call : CommandCall} {data : Bytes} (h : call.data = .ok data) :
    call.AcceptsData (data.map ord) := by
  cases call with
  | setter call => exact SetterCall.data_eq_ok_iff.mp h
  | getReaderInfo | getWorkMode | discoverAddress =>
    cases h
    rfl

theorem AcceptsData.exists_data {call : CommandCall} {payload : List ℤ}
    (h : call.AcceptsData payload) : ∃ data, call.data = .ok data ∧ data.map ord = payload := by
  cases call with
  | setter call => exact SetterCall.Accepts.exists_data h
  | getReaderInfo | getWorkMode | discoverAddress => exact ⟨[], rfl, h.symm⟩

/-- A call whose arguments are encoded sends one command. -/
theorem sends_perform {call : CommandCall} {data : Bytes} (h : call.data = .ok data) :
    Sends call.adr call.command data fun _ api => call.perform api := by
  cases call with
  | getReaderInfo adr =>
    cases h
    exact (sends_getter adr .getReaderInfo _ _).map (raises_map _)
  | getWorkMode adr =>
    cases h
    exact (sends_getter adr .getWorkMode _ _).map (raises_map _)
  | discoverAddress =>
    cases h
    exact sends_discoverAddress.map (raises_map _)
  | setter call =>
    obtain ⟨action, hperform⟩ := call.exists_perform_eq
    obtain ⟨judge, hjudge, hmethod⟩ :=
      (sends_run call.adr call.command data action).map (raises_map fun _ => ())
    refine ⟨judge, hjudge, fun σ api self => ?_⟩
    refine Eq.trans ?_ (hmethod σ api self)
    show (call.perform api self).map (Except.map fun _ => ()) id = _
    rw [hperform, (show call.data = .ok data from h)]
    rfl

/-- A call whose arguments are not encoded does nothing. -/
theorem perform_of_error {σ : Type} (api : SocketApi σ) {call : CommandCall} {e : PyError}
    (h : call.data = .error e) (self : RfidClient σ) :
    call.perform api self = (.error e, self) := by
  cases call with
  | getReaderInfo | getWorkMode | discoverAddress => cases h
  | setter call =>
    obtain ⟨action, hperform⟩ := call.exists_perform_eq
    show (call.perform api self).map (Except.map fun _ => ()) id = _
    rw [hperform, (show call.data = .error e from h)]
    rfl

/-- The record changes nothing. -/
theorem perform_forget {σ : Type} (api : SocketApi σ) (call : CommandCall)
    (self : RfidClient (σ × List IoCall)) :
    call.perform api self.forget = (call.perform (recorded api) self).map id RfidClient.forget := by
  cases hdata : call.data with
  | error e =>
    rw [perform_of_error api hdata, perform_of_error (recorded api) hdata]
    rfl
  | ok data =>
    obtain ⟨judge, _, hperform⟩ := sends_perform hdata
    calc call.perform api self.forget
        = (sendCommand api call.adr call.command.object data self.forget).map judge id :=
          hperform σ api self.forget
      _ = ((sendCommand (recorded api) call.adr call.command.object data self).map id
            RfidClient.forget).map judge id := by rw [sendCommand_forget]
      _ = ((sendCommand (recorded api) call.adr call.command.object data self).map judge
            id).map id RfidClient.forget := rfl
      _ = (call.perform (recorded api) self).map id RfidClient.forget :=
          congrArg (Prod.map id RfidClient.forget) (hperform _ (recorded api) self).symm

/-- A call that is not accepted, or comes without a connection, raises and does nothing. -/
theorem perform_rejected {σ : Type} (api : SocketApi σ) {call : CommandCall}
    {self : RfidClient σ}
    (h : self.socket = none ∨ ∀ address payload, ¬ call.Accepts address payload) :
    ∃ e, call.perform api self = (.error e, self) := by
  cases hdata : call.data with
  | error e => exact ⟨e, perform_of_error api hdata self⟩
  | ok data =>
    obtain ⟨judge, hjudge, hperform⟩ := sends_perform hdata
    have hraises : ∀ e, sendCommand api call.adr call.command.object data self =
        (.error e, self) → ∃ e', call.perform api self = (.error e', self) := by
      intro e hsend
      obtain ⟨e', he⟩ := hjudge e
      refine ⟨e', (hperform σ api self).trans ?_⟩
      rw [hsend, ← he]
      rfl
    cases hsocket : self.socket with
    | none => exact hraises _ (sendCommand_not_connected api _ _ _ hsocket)
    | some socket =>
      rcases h with hnone | hrejected
      · exact absurd (hsocket.symm.trans hnone) (Option.some_ne_none socket)
      rcases commandFrame_cases call.adr call.command.object data with
        ⟨_, f, hint, _⟩ | ⟨e, he, _⟩
      · exact absurd ⟨⟨hint, ord_nonneg _, ord_le _⟩, acceptsData_of_data hdata⟩
          (hrejected (ord f.address) (data.map ord))
      · exact hraises e (sendCommand_rejected api hsocket he)

end CommandCall

/-- Len, address, command code and payload, followed by their CRC. -/
def IsFrame (frame : Bytes) (address code : ℤ) (payload : List ℤ) : Prop :=
  ∃ header : Bytes, header.map ord = (payload.length + 4 : ℤ) :: address :: code :: payload ∧
    frame = withCrc header

theorem CommandCall.AcceptsData.length_le {call : CommandCall} {payload : List ℤ}
    (h : call.AcceptsData payload) : payload.length ≤ 6 := by
  cases call with
  | setter call => exact (show call.Accepts payload from h).isBlock.1
  | getReaderInfo | getWorkMode | discoverAddress =>
    rw [show payload = [] from h]
    exact Nat.zero_le 6

theorem CommandFrame.isFrame (f : CommandFrame) :
    IsFrame f.raw (ord f.address) (ord f.command) (f.data.map ord) := by
  refine ⟨f.payload, ?_, rfl⟩
  rw [CommandFrame.payload, List.map_cons, List.map_cons, List.map_cons, f.ord_length,
    List.length_map]

/-- An accepted call on a connection writes its frame, and then only receives. -/
theorem CommandCall.perform_accepted {σ : Type} (api : SocketApi σ) {call : CommandCall}
    {self : RfidClient (σ × List IoCall)} {socket : σ} {log : List IoCall}
    (hsocket : self.socket = some (socket, log)) {address : ℤ} {payload : List ℤ}
    (h : call.Accepts address payload) :
    ∃ f : CommandFrame, ord f.address = address ∧ ord f.command = call.command.value ∧
      f.data.map ord = payload ∧
      Received (log ++ [.sendall f.raw]) (call.perform (recorded api) self).2 := by
  obtain ⟨⟨hint, hlo, hhi⟩, hpayload⟩ := h
  obtain ⟨data, hdata, rfl⟩ := hpayload.exists_data
  have hshort : data.length ≤ 6 := List.length_map ord ▸ hpayload.length_le
  have hbyte := ord_byteOf hlo hhi
  rw [← hbyte] at hint
  obtain ⟨f, haddress, hvalue, rfl, haccepted⟩ :=
    commandFrame_byte hint call.command data (hshort.trans (by decide))
  obtain ⟨judge, _, hperform⟩ := sends_perform hdata
  refine ⟨f, ?_, hvalue.symm, rfl, ?_⟩
  · rw [haddress, hbyte]
  · rw [show call.perform (recorded api) self = _ from hperform _ (recorded api) self]
    exact received_sendCommand hsocket haccepted

/-- Commands are all or nothing on the wire. For every client and every call of a command:
without a connection, or if an argument is not accepted, the call raises, makes no call on
the socket, and leaves the client as it was. Otherwise it writes one complete frame with one
`sendall`, and only `recv` is called afterwards. -/
theorem CommandCall.all_or_nothing {σ : Type} (api : SocketApi σ) (call : CommandCall)
    (client : RfidClient (σ × List IoCall)) :
    (client.socket = none ∨ (∀ address payload, ¬ call.Accepts address payload) →
      ∃ e, call.perform (recorded api) client = (.error e, client)) ∧
    ∀ socket log, client.socket = some (socket, log) →
      ∀ address payload, call.Accepts address payload →
        ∃ frame socket' receives, IsFrame frame address call.command.value payload ∧
          (call.perform (recorded api) client).2.socket =
            some (socket', log ++ .sendall frame :: receives) ∧
          ∀ receive ∈ receives, receive = .recv 4096 := by
  refine ⟨perform_rejected (recorded api), fun socket log hsocket address payload h => ?_⟩
  obtain ⟨f, rfl, hvalue, rfl, socket', receives, hafter, hreceives⟩ :=
    perform_accepted api hsocket h
  refine ⟨f.raw, socket', receives, hvalue ▸ f.isFrame, ?_, hreceives⟩
  rw [hafter, List.append_assoc, List.singleton_append]

end UhfReader18
