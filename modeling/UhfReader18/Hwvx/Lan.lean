import UhfReader18.Hwvx.Device

/-!
# A network with one module

A module at the other end of the datagrams keeps one string per setting code. `S` commands
store, `G` commands ask, and a reboot changes nothing. Datagrams to the module may be lost.

Results:
1. `send_ok`, `receive_ok`: what the two halves of a request do on this network.
-/

namespace UhfReader18.Hwvx

/-! ## The module -/

/-- The bytes of an ASCII text. -/
def asciiBytes (text : Text) : Bytes := text.map asciiByte

/-- The setting code an `S` command writes, and the value. -/
def written (datagram : Bytes) : Option (Bytes × Bytes) :=
  match datagram with
  | kind :: c :: c' :: rest =>
    if kind = asciiByte 'S' ∧ asciiByte '|' ∈ rest then
      some ([c, c'], rest.takeWhile (· ≠ asciiByte '|'))
    else none
  | _ => none

/-- What the module answers to a `G` command. -/
def answer (settings : Bytes → Bytes) (datagram : Bytes) : Option Bytes :=
  match datagram with
  | kind :: c :: c' :: bar :: check =>
    if kind = asciiByte 'G' ∧ bar = asciiByte '|' then
      some (asciiByte 'A' :: settings [c, c'] ++ asciiByte '|' :: check)
    else none
  | _ => none

/-- A network with one module. `fates` says which of the next datagrams arrive; after them,
all do. -/
structure Lan where
  address : Text
  settings : Bytes → Bytes
  inbox : ℕ → List Bytes
  sockets : ℕ
  fates : List Bool
  delivered : List Bytes

/-- A datagram arrives. To a command other than `G` the module replies as `other` says, always
the same to the same command. -/
def Lan.deliver (other : Bytes → List Bytes) (sock : ℕ) (datagram : Bytes) (lan : Lan) : Lan :=
  { lan with
    settings := Keyed.writes (written datagram).toList lan.settings
    inbox := Function.update lan.inbox sock
      (lan.inbox sock ++ ((answer lan.settings datagram).map ([·])).getD (other datagram))
    delivered := lan.delivered ++ [datagram] }

def Lan.transmit (other : Bytes → List Bytes) (sock : ℕ) (datagram : Bytes) (lan : Lan) : Lan :=
  match lan.fates with
  | [] => lan.deliver other sock datagram
  | arrives :: fates =>
    let lan := { lan with fates := fates }
    if arrives then lan.deliver other sock datagram else lan

def lanApi (other : Bytes → List Bytes) : UdpApi Lan where
  socket lan :=
    .ok lan.sockets { lan with
      sockets := lan.sockets + 1
      inbox := Function.update lan.inbox lan.sockets [] }
  setsockopt _ lan := .ok () lan
  settimeout _ _ lan := .ok () lan
  sendto sock datagram _ lan := .ok () (lan.transmit other sock datagram)
  recvfrom sock size lan :=
    match lan.inbox sock with
    | [] => .error ⟨.timeoutError, "timed out"⟩ lan
    | datagram :: inbox =>
      .ok (datagram.take size, lan.address)
        { lan with inbox := Function.update lan.inbox sock inbox }
  close _ lan := .ok () lan

/-! ## Sending and receiving -/

theorem asciiBytes_injOn {text text' : Text} (h : isAscii text) (h' : isAscii text')
    (heq : asciiBytes text = asciiBytes text') : text = text' := by
  have hdecode := congrArg decodeAscii heq
  unfold asciiBytes at hdecode
  rw [decodeAscii_encodeAscii h, decodeAscii_encodeAscii h'] at hdecode
  exact Except.ok.inj hdecode

theorem send_ok (other : Bytes → List Bytes) (net : HwVxNetworking) {command : Text}
    (hascii : isAscii command) (lan : Lan) :
    net.send (lanApi other) command lan =
      .ok () (lan.transmit other net.sock (asciiBytes command)) :=
  net.send_of_ascii hascii

theorem receive_ok {other : Bytes → List Bytes} {net : HwVxNetworking} {text : Text}
    (hascii : isAscii text) (hfits : text.length ≤ recvBuffer) {lan : Lan} {inbox : List Bytes}
    (hinbox : lan.inbox net.sock = asciiBytes text :: inbox) :
    net.receive (lanApi other) lan =
      .ok text { lan with inbox := Function.update lan.inbox net.sock inbox } := by
  have hwhole : (asciiBytes text).take recvBuffer = asciiBytes text :=
    List.take_of_length_le (by rwa [asciiBytes, List.length_map])
  have hdecode : decodeAscii (asciiBytes text) = .ok text := decodeAscii_encodeAscii hascii
  have harrives : (lanApi other).recvfrom net.sock recvBuffer lan =
      .ok (asciiBytes text, lan.address)
        { lan with inbox := Function.update lan.inbox net.sock inbox } := by
    simp only [lanApi, hinbox, hwhole]
  rw [net.receive_of_data harrives, hdecode]

end UhfReader18.Hwvx
