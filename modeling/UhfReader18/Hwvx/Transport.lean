import UhfReader18.Hwvx.Config
import UhfReader18.Stateful

/-!
# Datagrams

`hwvx/transport.py`. The sockets and the network are a parameter: what happens to a datagram
is not the package's business. What a program has sent stays sent when it raises.

Results:
1. `receive_of_timeout`, `receive_of_data`: what a receive makes of a datagram.
2. `splitOn_framed`: a command, or a reply, falls apart at its one bar.
-/

namespace UhfReader18.Hwvx

open Stateful

/-- What the package uses of UDP sockets. A socket is named by its number. -/
structure UdpApi (σ : Type) where
  socket : EStateM PyError σ ℕ
  /-- `setsockopt(SOL_SOCKET, SO_BROADCAST, 1)`. -/
  setsockopt : ℕ → EStateM PyError σ Unit
  settimeout : ℕ → ℕ → EStateM PyError σ Unit
  sendto : ℕ → Bytes → Text × ℕ → EStateM PyError σ Unit
  /-- A datagram, cut off after so many bytes, and where it comes from. -/
  recvfrom : ℕ → ℕ → EStateM PyError σ (Bytes × Text)
  close : ℕ → EStateM PyError σ Unit

/-- `_port_or_zero`. -/
def portOrZero (text : Text) : ℤ := (pyInt text).getD 0

/-- What is made of one reply to a search: where it comes from, and what follows its `A`. -/
def searchResult (address : IPv4Address) (body : Text) : SearchResult :=
  let parts := body.splitOn '/'
  let result : SearchResult := { ipAddress := some address }
  let result :=
    match parts with
    | mac :: port :: _ => { result with macAddress := mac, portNumber := portOrZero port }
    | _ => result
  match parts with
  | _ :: _ :: _ :: _ :: username :: deviceName :: _ =>
    { result with username := username, deviceName := deviceName }
  | _ => result

structure HwVxNetworking where
  sock : ℕ
  target : Text × ℕ
  deriving DecidableEq, Repr

namespace HwVxNetworking

variable {σ : Type} (api : UdpApi σ)

/-- `HwVxNetworking(ip_address)`. Where an option cannot be set, nobody holds the socket. -/
def init (ipAddress : Text) : EStateM PyError σ HwVxNetworking := do
  let sock ← api.socket
  api.setsockopt sock
  api.settimeout sock recvTimeout
  return ⟨sock, (ipAddress, udpPort)⟩

variable (self : HwVxNetworking)

def send (command : Text) : EStateM PyError σ Unit := do
  let data ← ofExcept (encodeAscii command)
  api.sendto self.sock data self.target

/-- The next datagram, or an empty string if none comes in time. -/
def receive : EStateM PyError σ Text := do
  try
    let (data, _) ← api.recvfrom self.sock recvBuffer
    ofExcept (decodeAscii data)
  catch e =>
    if e.kind = .timeoutError then return [] else throw e

/-- Sends the command, at most `retries` times, until a reply begins with `A`; returns what
follows the `A`. -/
def request (command : Text) : ℕ → EStateM PyError σ Text
  | 0 => throw ⟨.timeoutError, s!"No response for command: {String.ofList command}"⟩
  | retries + 1 => do
    self.send api command
    match ← self.receive api with
    | 'A' :: body => return body
    | _ => request command retries

/-- Sends `command|check` and takes the value from the reply `A{value}|{check}`. -/
def requestSingle (command check : Text) : EStateM PyError σ Text := do
  let reply ← self.request api (command ++ '|' :: check) 5
  match reply.splitOn '|' with
  | [value, token] =>
    if token = check then return value
    else throw ⟨.valueError,
      s!"Unexpected reply for {String.ofList command}: {String.ofList reply}"⟩
  | _ => throw ⟨.valueError,
      s!"Unexpected reply for {String.ofList command}: {String.ofList reply}"⟩

/-- `_collect_search_results`, at most `passes` times through its loop: replies are collected
until none comes in time or one does not begin with `A`. -/
def collectSearchResults : ℕ → EStateM PyError σ (List SearchResult)
  | 0 => return []
  | passes + 1 => do
    let arrival ← try
        let datagram ← api.recvfrom self.sock recvBuffer
        pure (some datagram)
      catch e =>
        if e.kind = .timeoutError then pure none else throw e
    match arrival with
    | none => return []
    | some (data, address) =>
      match ← ofExcept (decodeAscii data) with
      | 'A' :: body =>
        let result := searchResult (← ofExcept (IPv4Address.parse address)) body
        return result :: (← collectSearchResults passes)
      | _ => return []

/-- Asks for an echo and collects the answers. -/
def search : EStateM PyError σ (List SearchResult) := do
  self.send api ['X']
  self.collectSearchResults api 255

/-- Asks each address for an echo, on one socket. -/
def searchTargets (ipAddresses : List Text) : EStateM PyError σ (List SearchResult) := do
  forM ipAddresses fun ipAddress => api.sendto self.sock [asciiByte 'X'] (ipAddress, udpPort)
  self.collectSearchResults api 255

def close : EStateM PyError σ Unit :=
  api.close self.sock

/-- `with HwVxNetworking(ip_address) as net: ...`. The socket is closed, also when the body
raises. -/
def withOpen {α : Type} (ipAddress : Text) (body : HwVxNetworking → EStateM PyError σ α) :
    EStateM PyError σ α := do
  let net ← init api ipAddress
  try
    body net
  finally
    net.close api

/-! ## Sending and receiving -/

variable {api} {s s' : σ} {I : σ → Prop}

theorem send_of_ascii {command : Text} (h : isAscii command) :
    self.send api command s = api.sendto self.sock (command.map asciiByte) self.target s := by
  unfold send
  rw [encodeAscii_ok h]
  rfl

/-- A command that cannot be encoded is not sent. -/
theorem send_of_not_ascii {command : Text} (h : ¬ isAscii command) (api : UdpApi σ) (s : σ) :
    ∃ e, self.send api command s = .error e s := by
  unfold send encodeAscii
  rw [if_neg h]
  exact ⟨_, rfl⟩

theorem receive_of_timeout {e : PyError} (h : api.recvfrom self.sock recvBuffer s = .error e s')
    (hkind : e.kind = .timeoutError) : self.receive api s = .ok [] s' := by
  simp only [receive, bind, EStateM.bind, tryCatch, tryCatchThe, MonadExceptOf.tryCatch,
    EStateM.tryCatch, h, hkind, if_true]
  rfl

theorem receive_of_error {e : PyError} (h : api.recvfrom self.sock recvBuffer s = .error e s')
    (hkind : e.kind ≠ .timeoutError) : self.receive api s = .error e s' := by
  simp only [receive, bind, EStateM.bind, tryCatch, tryCatchThe, MonadExceptOf.tryCatch,
    EStateM.tryCatch, h, hkind, if_false]
  rfl

theorem receive_of_data {data : Bytes} {sender : Text}
    (h : api.recvfrom self.sock recvBuffer s = .ok (data, sender) s') :
    self.receive api s =
      match decodeAscii data with
      | .ok text => .ok text s'
      | .error e => .error e s' := by
  cases hdecode : decodeAscii data with
  | ok text =>
    simp only [receive, bind, EStateM.bind, tryCatch, tryCatchThe, MonadExceptOf.tryCatch,
      EStateM.tryCatch, h, ofExcept, hdecode]
    rfl
  | error e =>
    have hkind : e.kind ≠ .timeoutError := by
      rw [kind_of_decodeAscii hdecode]
      decide
    simp only [receive, bind, EStateM.bind, tryCatch, tryCatchThe, MonadExceptOf.tryCatch,
      EStateM.tryCatch, h, ofExcept, hdecode, throw_apply, hkind, if_false]
    rfl

theorem collect_of_timeout {e : PyError} (passes : ℕ)
    (h : api.recvfrom self.sock recvBuffer s = .error e s') (hkind : e.kind = .timeoutError) :
    self.collectSearchResults api (passes + 1) s = .ok [] s' := by
  simp only [collectSearchResults, bind, EStateM.bind, tryCatch, tryCatchThe,
    MonadExceptOf.tryCatch, EStateM.tryCatch, h, hkind, if_true]
  rfl

theorem collect_of_data {data : Bytes} {sender : Text} (passes : ℕ)
    (h : api.recvfrom self.sock recvBuffer s = .ok (data, sender) s') :
    self.collectSearchResults api (passes + 1) s =
      (do
        match ← ofExcept (decodeAscii data) with
        | 'A' :: body =>
          let result := searchResult (← ofExcept (IPv4Address.parse sender)) body
          return result :: (← self.collectSearchResults api passes)
        | _ => return [] : EStateM PyError σ (List SearchResult)) s' := by
  simp only [collectSearchResults, bind, EStateM.bind, tryCatch, tryCatchThe,
    MonadExceptOf.tryCatch, EStateM.tryCatch, h, pure, EStateM.pure]

/-- Beyond its request, reading a value sends and receives nothing. -/
theorem requestSingle_preserves {command check : Text}
    (h : Preserves I (self.request api (command ++ '|' :: check) 5)) :
    Preserves I (self.requestSingle api command check) := by
  refine h.bind fun reply => ?_
  split
  · split
    · exact Preserves.pure _
    · exact Preserves.throw _
  · exact Preserves.throw _

end HwVxNetworking

/-- A text without a bar, a bar and a text without a bar. -/
theorem splitOn_framed {value check : Text} (hvalue : '|' ∉ value) (hcheck : '|' ∉ check) :
    (value ++ '|' :: check).splitOn '|' = [value, check] := by
  rw [List.splitOn_append_cons_self_of_not_mem hvalue, List.splitOn_eq_singleton hcheck]

end UhfReader18.Hwvx
