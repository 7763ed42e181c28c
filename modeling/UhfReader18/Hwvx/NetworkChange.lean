import UhfReader18.Hwvx.Selection

/-!
# Changing the network to the end

A change of the network is six commands on a socket, the last of which restarts the module:
what comes before it does not take effect. Two receives stand between the commands, only to
drain replies; yet a reply that is no ASCII raises there, and the rest is not sent. Such a
change is left half done, with the new addresses set and the module not restarted.

Results:
1. `pushNetwork_of_legible`, `pushNetwork_of_not_legible`: how the six commands end.
2. `changeNetwork_completes_iff`: a change is carried out to the end exactly if what its
   receives read is ASCII.
-/

namespace UhfReader18.Hwvx

open Stateful HwVxDevice

variable (net : HwVxNetworking)

/-- The commands of a change, in order. -/
def networkCommands (opener : Text) (newIp subnetMask gatewayIp : IPv4Address) : List Text :=
  [opener, ['L'], "SGI".toList ++ gatewayIp.text ++ "|23".toList,
   "SNM".toList ++ subnetMask.text ++ "|24".toList, "SIP".toList ++ newIp.text ++ "|25".toList,
   ['E']]

/-- What a change sends over one socket. -/
def networkDatagrams (opener : Text) (newIp subnetMask gatewayIp : IPv4Address) :
    List Datagram :=
  (networkCommands opener newIp subnetMask gatewayIp).map net.datagram

/-- The change returns, with the whole sequence sent: over the socket of the device, and then,
unless it broadcasts already, over one more socket that broadcasts. -/
def Completes (self : HwVxDevice) (newIp subnetMask gatewayIp : IPv4Address) (tap : Tap) :
    Prop :=
  ∃ after, self.changeNetwork tapApi newIp subnetMask gatewayIp tap = .ok () after ∧
    after.sent = tap.sent ++ networkDatagrams self.net ['X'] newIp subnetMask gatewayIp ++
      if self.broadcast then []
      else networkDatagrams ⟨tap.sockets, self.broadcastIp.text, udpPort⟩ ('W' :: self.mac)
        newIp subnetMask gatewayIp

/-! ## One socket -/

variable {opener : Text} (newIp subnetMask gatewayIp : IPv4Address)

/-- The last drain and the restart. -/
theorem drain_restart (tap : Tap) :
    (do
      let _ ← net.receive tapApi
      net.send tapApi ['E'] : EStateM PyError Tap Unit) tap =
      match nextText tap.arrivals with
      | .ok _ => .ok () (tap.next.record net ['E'])
      | .error e => .error e tap.next := by
  have hdrain := receive_tap net tap
  cases hnext : nextText tap.arrivals with
  | error e =>
    rw [hnext] at hdrain
    exact bind_of_error hdrain _
  | ok text =>
    rw [hnext] at hdrain
    exact (bind_of_ok hdrain _).trans (send_tap net (by decide) tap.next)

/-- The sequence is sent as far as the receives return. -/
theorem pushNetwork_tap (hopener : isAscii opener) (tap : Tap) :
    pushNetwork tapApi net opener newIp subnetMask gatewayIp tap =
      match nextText tap.arrivals, nextText tap.arrivals.tail with
      | .ok _, .ok _ => .ok () ⟨tap.arrivals.tail.tail,
          tap.sent ++ networkDatagrams net opener newIp subnetMask gatewayIp, tap.sockets⟩
      | .ok _, .error e => .error e ⟨tap.arrivals.tail.tail,
          tap.sent ++ (networkDatagrams net opener newIp subnetMask gatewayIp).take 5,
          tap.sockets⟩
      | .error e, _ => .error e ⟨tap.arrivals.tail,
          tap.sent ++ (networkDatagrams net opener newIp subnetMask gatewayIp).take 2,
          tap.sockets⟩ := by
  have hset {code check : Text} (hcode : isAscii code) (hcheck : isAscii check)
      (address : IPv4Address) (tap : Tap) :=
    send_tap net (isAscii_addressCommand hcode hcheck address) tap
  have hdrain := receive_tap net ((tap.record net opener).record net ['L'])
  rw [pushNetwork, bind_of_ok (send_tap net hopener tap), bind_of_ok (send_tap net (by decide) _)]
  rw [Tap.arrivals_record, Tap.arrivals_record] at hdrain
  cases hfirst : nextText tap.arrivals with
  | error e =>
    rw [hfirst] at hdrain
    rw [bind_of_error hdrain]
    simp [networkDatagrams, networkCommands, Tap.record, Tap.next]
  | ok text =>
    rw [hfirst] at hdrain
    rw [bind_of_ok hdrain, bind_of_ok (hset (by decide) (by decide) gatewayIp _),
      bind_of_ok (hset (by decide) (by decide) subnetMask _),
      bind_of_ok (hset (by decide) (by decide) newIp _)]
    rw [drain_restart net]
    have hnext : ∀ c c' c'' : Text, ((((((tap.record net opener).record net ['L']).next.record net
        c).record net c').record net c'').arrivals) = tap.arrivals.tail := fun _ _ _ => rfl
    rw [hnext]
    cases nextText tap.arrivals.tail with
    | error e => simp [networkDatagrams, networkCommands, Tap.record, Tap.next]
    | ok text' => simp [networkDatagrams, networkCommands, Tap.record, Tap.next]

theorem pushNetwork_of_legible {tap : Tap} (hopener : isAscii opener)
    (h : Legible 2 tap.arrivals) :
    pushNetwork tapApi net opener newIp subnetMask gatewayIp tap = .ok () ⟨tap.arrivals.tail.tail,
      tap.sent ++ networkDatagrams net opener newIp subnetMask gatewayIp, tap.sockets⟩ := by
  obtain ⟨⟨text, hfirst⟩, ⟨text', hsecond⟩, -⟩ := h
  rw [pushNetwork_tap net newIp subnetMask gatewayIp hopener, hfirst, hsecond]

theorem pushNetwork_of_not_legible {tap : Tap} (hopener : isAscii opener)
    (h : ¬ Legible 2 tap.arrivals) :
    ∃ e after, pushNetwork tapApi net opener newIp subnetMask gatewayIp tap = .error e after := by
  rw [pushNetwork_tap net newIp subnetMask gatewayIp hopener]
  cases hfirst : nextText tap.arrivals with
  | error e => exact ⟨_, _, rfl⟩
  | ok text =>
    cases hsecond : nextText tap.arrivals.tail with
    | error e => exact ⟨_, _, rfl⟩
    | ok text' => exact absurd ⟨⟨text, hfirst⟩, ⟨text', hsecond⟩, trivial⟩ h

/-! ## Both sockets -/

theorem fallback_of_legible {address : Text} {tap : Tap} (hopener : isAscii opener)
    (h : Legible 2 tap.arrivals) :
    HwVxNetworking.withOpen tapApi address (fun broadcast =>
        pushNetwork tapApi broadcast opener newIp subnetMask gatewayIp) tap =
      .ok () ⟨tap.arrivals.tail.tail, tap.sent ++ networkDatagrams ⟨tap.sockets, address, udpPort⟩
        opener newIp subnetMask gatewayIp, tap.sockets + 1⟩ := by
  rw [withOpen_tap]
  exact pushNetwork_of_legible _ newIp subnetMask gatewayIp hopener h

theorem fallback_of_not_legible {address : Text} {tap : Tap} (hopener : isAscii opener)
    (h : ¬ Legible 2 tap.arrivals) :
    ∃ e after, HwVxNetworking.withOpen tapApi address (fun broadcast =>
      pushNetwork tapApi broadcast opener newIp subnetMask gatewayIp) tap = .error e after := by
  rw [withOpen_tap]
  exact pushNetwork_of_not_legible _ newIp subnetMask gatewayIp hopener h

theorem legible_four_iff (arrivals : List Arrival) :
    Legible 4 arrivals ↔ Legible 2 arrivals ∧ Legible 2 arrivals.tail.tail := by
  simp only [Legible, and_true, and_assoc]

/-- How many receives a change of the network makes. -/
def HwVxDevice.drains (self : HwVxDevice) : ℕ := if self.broadcast then 2 else 4

/-- A change of the network is carried out to the end exactly if everything its receives read
is ASCII, or nothing. What the replies say does not matter then. -/
theorem changeNetwork_completes_iff (self : HwVxDevice) (hmac : isAscii self.mac)
    (newIp subnetMask gatewayIp : IPv4Address) (tap : Tap) :
    Completes self newIp subnetMask gatewayIp tap ↔ Legible self.drains tap.arrivals := by
  have hecho : isAscii ['X'] := by decide
  have hselect : isAscii ('W' :: self.mac) := isAscii_cons.mpr ⟨by decide, hmac⟩
  unfold Completes changeNetwork HwVxDevice.drains
  by_cases hmain : Legible 2 tap.arrivals
  swap
  · -- the main socket already raises
    obtain ⟨e, after, hraise⟩ :=
      pushNetwork_of_not_legible self.net newIp subnetMask gatewayIp hecho hmain
    refine iff_of_false ?_ fun h => hmain ?_
    · rintro ⟨after', hrun, -⟩
      rw [bind_of_error hraise] at hrun
      cases hrun
    · split at h
      · exact h
      · exact ((legible_four_iff _).mp h).1
  obtain ⟨pushed, hpushed⟩ : ∃ pushed : Tap, pushed = ⟨tap.arrivals.tail.tail,
    tap.sent ++ networkDatagrams self.net ['X'] newIp subnetMask gatewayIp, tap.sockets⟩ := ⟨_, rfl⟩
  have hfirst := pushNetwork_of_legible self.net newIp subnetMask gatewayIp hecho hmain
  rw [← hpushed] at hfirst
  rw [bind_of_ok hfirst]
  cases self.broadcast with
  | true =>
    refine iff_of_true ⟨pushed, rfl, ?_⟩ hmain
    rw [hpushed]
    exact (List.append_nil _).symm
  | false =>
    have harrivals : tap.arrivals.tail.tail = pushed.arrivals := by rw [hpushed]
    simp only [Bool.false_eq_true, if_false]
    rw [legible_four_iff, and_iff_right hmain, harrivals]
    constructor
    · rintro ⟨after, hrun, -⟩
      by_contra hfallback
      obtain ⟨e, after', hraise⟩ :=
        fallback_of_not_legible newIp subnetMask gatewayIp hselect hfallback
      rw [hrun] at hraise
      cases hraise
    · intro hfallback
      refine ⟨_, fallback_of_legible newIp subnetMask gatewayIp hselect hfallback, ?_⟩
      rw [hpushed]

/-- When the second drain raises, the module has the new addresses and is not restarted. -/
theorem changeNetwork_half_done (self : HwVxDevice) {tap : Tap} {text : Text} {e : PyError}
    (hfirst : nextText tap.arrivals = .ok text) (hsecond : nextText tap.arrivals.tail = .error e) :
    self.changeNetwork tapApi newIp subnetMask gatewayIp tap = .error e ⟨tap.arrivals.tail.tail,
      tap.sent ++ (networkDatagrams self.net ['X'] newIp subnetMask gatewayIp).take 5,
      tap.sockets⟩ := by
  have hecho : isAscii ['X'] := by decide
  have hpush := pushNetwork_tap self.net newIp subnetMask gatewayIp hecho tap
  rw [hfirst, hsecond] at hpush
  exact bind_of_error hpush _

/-- A device that sends to `10.0.0.2` and then broadcasts. -/
def unicastDevice : HwVxDevice where
  ip := ⟨10, 0, 0, 2⟩
  broadcast := false
  broadcastIp := ⟨10, 0, 0, 255⟩
  net := ⟨0, "10.0.0.2".toList, udpPort⟩
  mac := "0.0.0.0.0.1".toList

/-- The module answers the echo and the gateway. To the broadcast it answers once more, at the
new address, and then it is silent. -/
def plainAnswers : Tap where
  arrivals :=
    [some ("A0.0.0.0.0.1/6000".toList.map asciiByte, ⟨10, 0, 0, 2⟩),
     some ("A|23".toList.map asciiByte, ⟨10, 0, 0, 2⟩),
     some ("A".toList.map asciiByte, ⟨10, 0, 0, 50⟩), none]
  sockets := 1

/-- The answers are drained, and the change is carried out over both sockets. -/
theorem changeNetwork_completes_drained :
    Completes unicastDevice ⟨10, 0, 0, 50⟩ ⟨255, 255, 0, 0⟩ ⟨10, 0, 0, 1⟩ plainAnswers := by
  have hmac : isAscii unicastDevice.mac := by decide
  refine (changeNetwork_completes_iff unicastDevice hmac ⟨10, 0, 0, 50⟩ ⟨255, 255, 0, 0⟩
    ⟨10, 0, 0, 1⟩ plainAnswers).mpr ?_
  exact ⟨⟨"A0.0.0.0.0.1/6000".toList, rfl⟩, ⟨"A|23".toList, rfl⟩, ⟨"A".toList, rfl⟩, ⟨[], rfl⟩,
    trivial⟩

/-- The module answers the new address with a byte that is no ASCII. -/
def garbledAnswer : Tap where
  arrivals := [none, some ([0xFF], ⟨10, 0, 0, 2⟩)]
  sockets := 1

/-- The change raises with everything sent but the restart. -/
theorem not_changeNetwork_completes :
    ¬ Completes unicastDevice ⟨10, 0, 0, 50⟩ ⟨255, 255, 0, 0⟩ ⟨10, 0, 0, 1⟩ garbledAnswer ∧
    ∃ e after, unicastDevice.changeNetwork tapApi ⟨10, 0, 0, 50⟩ ⟨255, 255, 0, 0⟩ ⟨10, 0, 0, 1⟩
      garbledAnswer = .error e after ∧
      after.sent = (networkDatagrams unicastDevice.net ['X'] ⟨10, 0, 0, 50⟩ ⟨255, 255, 0, 0⟩
        ⟨10, 0, 0, 1⟩).take 5 := by
  have hraise := changeNetwork_half_done ⟨10, 0, 0, 50⟩ ⟨255, 255, 0, 0⟩ ⟨10, 0, 0, 1⟩
    unicastDevice (show nextText garbledAnswer.arrivals = .ok [] from rfl) rfl
  refine ⟨?_, _, _, hraise, rfl⟩
  rintro ⟨after, hrun, -⟩
  rw [hraise] at hrun
  cases hrun

end UhfReader18.Hwvx
