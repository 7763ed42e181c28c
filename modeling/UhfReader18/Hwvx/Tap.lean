import UhfReader18.Hwvx.Device

/-!
# A network as a device sees it

Whatever modules there are and whatever becomes of their datagrams, a device only sees what
its calls of `recvfrom` return, one after another. A tap says that beforehand and records what
is sent.

Results:
1. `request_tap`: a request returns exactly if one of the coming arrivals answers it in time.
2. `collect_tap`: a search returns the replies up to the first arrival that is none.
3. `Stable.program`: every method keeps what sending, receiving and opening a socket keep.
-/

namespace UhfReader18.Hwvx

open Stateful

/-- A datagram that was sent: by which socket, where to, and what is in it. -/
structure Datagram where
  sock : ℕ
  target : Text × ℕ
  data : Bytes
  deriving DecidableEq, Repr

/-- What one call of `recvfrom` sees: a datagram and its sender, or nothing in time. -/
abbrev Arrival := Option (Bytes × IPv4Address)

structure Tap where
  arrivals : List Arrival
  sent : List Datagram := []
  sockets : ℕ := 0

/-- After the last arrival nothing comes any more. -/
def tapApi : UdpApi Tap where
  socket tap := .ok tap.sockets { tap with sockets := tap.sockets + 1 }
  setsockopt _ tap := .ok () tap
  settimeout _ _ tap := .ok () tap
  sendto sock data target tap := .ok () { tap with sent := tap.sent ++ [⟨sock, target, data⟩] }
  recvfrom _ size tap :=
    match tap.arrivals with
    | [] => .error ⟨.timeoutError, "timed out"⟩ tap
    | none :: arrivals => .error ⟨.timeoutError, "timed out"⟩ { tap with arrivals := arrivals }
    | some (data, address) :: arrivals =>
      .ok (data.take size, address.text) { tap with arrivals := arrivals }
  close _ tap := .ok () tap

/-- The text of a received datagram, cut to the size of the buffer. -/
def received (data : Bytes) : Except PyError Text := decodeAscii (data.take recvBuffer)

/-! ## Sending and receiving -/

/-- The datagram of a command. -/
def HwVxNetworking.datagram (net : HwVxNetworking) (command : Text) : Datagram :=
  ⟨net.sock, net.target, command.map asciiByte⟩

/-- The network with one more datagram on record. -/
def Tap.record (tap : Tap) (net : HwVxNetworking) (command : Text) : Tap :=
  { tap with sent := tap.sent ++ [net.datagram command] }

@[simp]
theorem Tap.arrivals_record (tap : Tap) (net : HwVxNetworking) (command : Text) :
    (tap.record net command).arrivals = tap.arrivals := rfl

@[simp]
theorem Tap.sent_record (tap : Tap) (net : HwVxNetworking) (command : Text) :
    (tap.record net command).sent = tap.sent ++ [net.datagram command] := rfl

variable (net : HwVxNetworking)

theorem send_tap {command : Text} (hascii : isAscii command) (tap : Tap) :
    net.send tapApi command tap = .ok () (tap.record net command) :=
  net.send_of_ascii hascii

/-- The text of the next arrival; nothing to read is an empty text. -/
def nextText : List Arrival → Except PyError Text
  | some (data, _) :: _ => received data
  | _ => .ok []

/-- The network after one more receive. -/
def Tap.next (tap : Tap) : Tap := { tap with arrivals := tap.arrivals.tail }

@[simp]
theorem Tap.arrivals_next (tap : Tap) : tap.next.arrivals = tap.arrivals.tail := rfl

@[simp]
theorem Tap.sent_next (tap : Tap) : tap.next.sent = tap.sent := rfl

theorem receive_tap (tap : Tap) :
    net.receive tapApi tap =
      match nextText tap.arrivals with
      | .ok text => .ok text tap.next
      | .error e => .error e tap.next := by
  obtain ⟨arrivals, sent, sockets⟩ := tap
  rcases arrivals with _ | ⟨_ | ⟨data, address⟩, arrivals⟩
  · exact net.receive_of_timeout rfl rfl
  · exact net.receive_of_timeout rfl rfl
  · exact net.receive_of_data rfl

/-! ## Requests -/

/-- What follows the `A` of a reply; `none` if it does not begin with one. -/
def replyBody : Text → Option Text
  | 'A' :: body => some body
  | _ => none

theorem replyBody_of_ne {text : Text} (h : ∀ body, text ≠ 'A' :: body) : replyBody text = none := by
  unfold replyBody
  split
  · next body => exact absurd rfl (h body)
  · rfl

/-- What a request makes of the coming arrivals: the body of the first reply that begins with
`A`, if it is among the first `retries`, and the arrivals after it. -/
def answered : ℕ → List Arrival → Option (Text × List Arrival)
  | 0, _ => none
  | retries + 1, arrivals =>
    match nextText arrivals with
    | .ok text =>
      match replyBody text with
      | some body => some (body, arrivals.tail)
      | none => answered retries arrivals.tail
    | .error _ => none

/-- One attempt of a request. -/
theorem request_succ_tap {command : Text} (hascii : isAscii command) (retries : ℕ) (tap : Tap) :
    net.request tapApi command (retries + 1) tap =
      match nextText tap.arrivals with
      | .ok text =>
        match replyBody text with
        | some body => .ok body (tap.record net command).next
        | none => net.request tapApi command retries (tap.record net command).next
      | .error e => .error e (tap.record net command).next := by
  have hreceive := receive_tap net (tap.record net command)
  rw [Tap.arrivals_record] at hreceive
  rw [HwVxNetworking.request, bind_of_ok (send_tap net hascii tap)]
  cases hnext : nextText tap.arrivals with
  | error e =>
    rw [hnext] at hreceive
    exact bind_of_error hreceive _
  | ok text =>
    rw [hnext] at hreceive
    rw [bind_of_ok hreceive]
    dsimp only
    split
    · rfl
    · next hother => rw [replyBody_of_ne hother]

/-- The network after a command was sent `n` times and only `rest` is still to come. -/
def Tap.after (tap : Tap) (net : HwVxNetworking) (n : ℕ) (command : Text)
    (rest : List Arrival) : Tap :=
  { tap with
    arrivals := rest
    sent := tap.sent ++ List.replicate n (net.datagram command) }

@[simp]
theorem Tap.arrivals_after (tap : Tap) (n : ℕ) (command : Text) (rest : List Arrival) :
    (tap.after net n command rest).arrivals = rest := rfl

theorem Tap.after_record (tap : Tap) (n : ℕ) (command : Text) (rest : List Arrival) :
    (tap.record net command).next.after net n command rest =
      tap.after net (n + 1) command rest := by
  simp only [Tap.after, Tap.record, Tap.next, List.append_assoc, List.replicate_succ,
    List.singleton_append]

/-- How a request may end. -/
def Requested (command : Text) (retries : ℕ) (tap : Tap) :
    Option (Text × List Arrival) → Prop
  | some (body, rest) =>
    ∃ n, net.request tapApi command retries tap = .ok body (tap.after net (n + 1) command rest)
  | none => ∃ e after, net.request tapApi command retries tap = .error e after

/-- A request returns exactly if it is answered, and has then sent the command at least
once. -/
theorem request_tap {command : Text} (hascii : isAscii command) (retries : ℕ) (tap : Tap) :
    Requested net command retries tap (answered retries tap.arrivals) := by
  induction retries generalizing tap with
  | zero => exact ⟨_, _, rfl⟩
  | succ retries ih =>
    have hstep := request_succ_tap net hascii retries tap
    rw [answered]
    cases hnext : nextText tap.arrivals with
    | error e =>
      rw [hnext] at hstep
      exact ⟨_, _, hstep⟩
    | ok text =>
      rw [hnext] at hstep
      dsimp only at hstep ⊢
      cases hbody : replyBody text with
      | some body =>
        rw [hbody] at hstep
        exact ⟨0, hstep⟩
      | none =>
        -- no reply, or none in time: the command is sent again
        rw [hbody] at hstep
        have hrest := ih (tap.record net command).next
        rw [Tap.arrivals_next, Tap.arrivals_record] at hrest
        cases hanswer : answered retries tap.arrivals.tail with
        | none =>
          rw [hanswer] at hrest
          obtain ⟨e, after, hrun⟩ := hrest
          exact ⟨e, after, hstep.trans hrun⟩
        | some answer =>
          rw [hanswer] at hrest
          obtain ⟨n, hrun⟩ := hrest
          exact ⟨n + 1, by rw [hstep, hrun, Tap.after_record]⟩

/-! ## Searches -/

/-- What a search makes of the coming arrivals: the modules found, and the arrivals after it;
`none` where a datagram is no ASCII. -/
def collected : ℕ → List Arrival → Option (List SearchResult × List Arrival)
  | 0, arrivals => some ([], arrivals)
  | _ + 1, [] => some ([], [])
  | _ + 1, none :: arrivals => some ([], arrivals)
  | passes + 1, some (data, address) :: arrivals =>
    match received data with
    | .ok text =>
      match replyBody text with
      | some body =>
        (collected passes arrivals).map fun found =>
          (searchResult address body :: found.1, found.2)
      | none => some ([], arrivals)
    | .error _ => none

/-- One pass of a search that sees a datagram. -/
theorem collect_succ_tap (passes : ℕ) (data : Bytes) (address : IPv4Address)
    (arrivals : List Arrival) (sent : List Datagram) (sockets : ℕ) :
    net.collectSearchResults tapApi (passes + 1)
        ⟨some (data, address) :: arrivals, sent, sockets⟩ =
      match received data with
      | .ok text =>
        match replyBody text with
        | some body =>
          match net.collectSearchResults tapApi passes ⟨arrivals, sent, sockets⟩ with
          | .ok results after => .ok (searchResult address body :: results) after
          | .error e after => .error e after
        | none => .ok [] ⟨arrivals, sent, sockets⟩
      | .error e => .error e ⟨arrivals, sent, sockets⟩ := by
  rw [net.collect_of_data passes rfl, received, address.parse_text]
  cases decodeAscii (data.take recvBuffer) with
  | error e => rfl
  | ok text =>
    by_cases hreply : ∃ body, text = 'A' :: body
    · obtain ⟨body, rfl⟩ := hreply
      simp only [ofExcept, bind, EStateM.bind, replyBody, pure, EStateM.pure]
      cases net.collectSearchResults tapApi passes ⟨arrivals, sent, sockets⟩ <;> rfl
    · rw [not_exists] at hreply
      simp only [ofExcept, bind, EStateM.bind, replyBody_of_ne hreply, pure, EStateM.pure]

/-- How a search may end. -/
def Searched (passes : ℕ) (tap : Tap) : Option (List SearchResult × List Arrival) → Prop
  | some (results, rest) =>
    net.collectSearchResults tapApi passes tap = .ok results { tap with arrivals := rest }
  | none => ∃ e after, net.collectSearchResults tapApi passes tap = .error e after

/-- A search goes through the arrivals up to the first that is no reply. -/
theorem collect_tap (passes : ℕ) (tap : Tap) :
    Searched net passes tap (collected passes tap.arrivals) := by
  induction passes generalizing tap with
  | zero => exact rfl
  | succ passes ih =>
    obtain ⟨arrivals, sent, sockets⟩ := tap
    rcases arrivals with _ | ⟨_ | ⟨data, address⟩, arrivals⟩
    · exact rfl
    · exact rfl
    · have hrest := ih ⟨arrivals, sent, sockets⟩
      have hstep := collect_succ_tap net passes data address arrivals sent sockets
      simp only [collected]
      cases hreceived : received data with
      | error e =>
        rw [hreceived] at hstep
        exact ⟨_, _, hstep⟩
      | ok text =>
        rw [hreceived] at hstep
        simp only at hstep ⊢
        cases hbody : replyBody text with
        | none =>
          rw [hbody] at hstep
          exact hstep
        | some body =>
          rw [hbody] at hstep
          simp only at hstep hrest ⊢
          cases hfound : collected passes arrivals with
          | none =>
            rw [hfound] at hrest
            obtain ⟨e, after, hrun⟩ := hrest
            rw [hrun] at hstep
            exact ⟨e, after, hstep⟩
          | some found =>
            rw [hfound] at hrest
            have hrun : net.collectSearchResults tapApi passes ⟨arrivals, sent, sockets⟩ =
                .ok found.1 ⟨found.2, sent, sockets⟩ := hrest
            rw [hrun] at hstep
            exact hstep

theorem search_tap {tap : Tap} {results : List SearchResult} {rest : List Arrival}
    (h : collected 255 tap.arrivals = some (results, rest)) :
    net.search tapApi tap = .ok results (tap.after net 1 ['X'] rest) := by
  have hsearched := collect_tap net 255 (tap.record net ['X'])
  rw [Tap.arrivals_record, h] at hsearched
  exact (bind_of_ok (send_tap net (by decide) tap) _).trans hsearched

theorem search_tap_error {tap : Tap} (h : collected 255 tap.arrivals = none) :
    ∃ e after, net.search tapApi tap = .error e after := by
  have hsearched := collect_tap net 255 (tap.record net ['X'])
  rw [Tap.arrivals_record, h] at hsearched
  obtain ⟨e, after, hrun⟩ := hsearched
  exact ⟨e, after, (bind_of_ok (send_tap net (by decide) tap) _).trans hrun⟩

/-! ## Invariants -/

section

variable {net} {P Q E : Tap → Prop} {command : Text}

/-- A command is sent, unless it cannot be encoded. -/
theorem send_triple (hrecord : ∀ tap, P tap → isAscii command → Q (tap.record net command))
    (hraise : ∀ tap, P tap → ¬ isAscii command → E tap) :
    Triple P (net.send tapApi command) (fun _ => Q) (fun _ => E) := by
  intro tap h
  by_cases hascii : isAscii command
  · rw [send_tap net hascii]
    exact hrecord tap h hascii
  · obtain ⟨e, hrun⟩ := net.send_of_not_ascii hascii tapApi tap
    rw [hrun]
    exact hraise tap h hascii

/-- The next arrival is read, unless it is no ASCII. -/
theorem receive_triple (hread : ∀ tap text, P tap → nextText tap.arrivals = .ok text → Q tap.next)
    (hraise : ∀ tap e, P tap → nextText tap.arrivals = .error e → E tap.next) :
    Triple P (net.receive tapApi) (fun _ => Q) (fun _ => E) := by
  intro tap h
  rw [receive_tap]
  cases hnext : nextText tap.arrivals with
  | ok text => exact hread tap text h hnext
  | error e => exact hraise tap e h hnext

/-- Opening and closing add nothing: the body runs on the next socket. -/
theorem withOpen_tap {α : Type} (ipAddress : Text)
    (body : HwVxNetworking → EStateM PyError Tap α) (tap : Tap) :
    HwVxNetworking.withOpen tapApi ipAddress body tap =
      body ⟨tap.sockets, (ipAddress, udpPort)⟩ { tap with sockets := tap.sockets + 1 } := by
  have hinit : HwVxNetworking.init tapApi ipAddress tap =
      .ok ⟨tap.sockets, (ipAddress, udpPort)⟩ { tap with sockets := tap.sockets + 1 } := rfl
  unfold HwVxNetworking.withOpen
  rw [bind_of_ok hinit]
  cases hbody : body ⟨tap.sockets, (ipAddress, udpPort)⟩
      { tap with sockets := tap.sockets + 1 } <;>
    simp [tryFinally, tryFinally', hbody, HwVxNetworking.close, tapApi, Functor.map, EStateM.map]

/-- The body runs on the next socket, which is closed after it. -/
theorem withOpen_triple {ipAddress : Text} {α : Type}
    {body : HwVxNetworking → EStateM PyError Tap α} (Opened : ℕ → Tap → Prop)
    (hopen : ∀ tap, P tap → Opened tap.sockets { tap with sockets := tap.sockets + 1 })
    (hbody : ∀ sock,
      Triple (Opened sock) (body ⟨sock, (ipAddress, udpPort)⟩) (fun _ => Q) (fun _ => E)) :
    Triple P (HwVxNetworking.withOpen tapApi ipAddress body) (fun _ => Q) (fun _ => E) := by
  intro tap h
  rw [withOpen_tap]
  exact hbody tap.sockets _ (hopen tap h)

end

variable {net} {I : Tap → Prop} {command : Text}

theorem send_preserves_tap (hrecord : ∀ tap, I tap → I (tap.record net command)) :
    Preserves I (net.send tapApi command) :=
  send_triple (fun tap h _ => hrecord tap h) fun _ h _ => h

theorem receive_preserves_tap (hnext : ∀ tap, I tap → I tap.next) :
    Preserves I (net.receive tapApi) :=
  receive_triple (fun tap _ h _ => hnext tap h) fun tap _ h _ => hnext tap h

theorem request_preserves_tap (hrecord : ∀ tap, I tap → I (tap.record net command))
    (hnext : ∀ tap, I tap → I tap.next) (retries : ℕ) :
    Preserves I (net.request tapApi command retries) := by
  induction retries with
  | zero => exact fun _ h => h
  | succ retries ih =>
    refine (send_preserves_tap hrecord).bind fun _ => ?_
    refine (receive_preserves_tap hnext).bind fun text => ?_
    split
    · exact Preserves.pure _
    · exact ih

theorem collect_preserves_tap (hnext : ∀ tap, I tap → I tap.next) (passes : ℕ) :
    Preserves I (net.collectSearchResults tapApi passes) := by
  induction passes with
  | zero => exact Preserves.pure _
  | succ passes ih =>
    rintro ⟨arrivals, sent, sockets⟩ h
    rcases arrivals with _ | ⟨_ | ⟨data, address⟩, arrivals⟩
    · exact h
    · exact hnext _ h
    · have hafter : I ⟨arrivals, sent, sockets⟩ := hnext _ h
      rw [collect_succ_tap]
      cases received data with
      | error e => exact hafter
      | ok text =>
        dsimp only
        cases replyBody text with
        | none => exact hafter
        | some body =>
          have hrest := ih _ hafter
          cases hrun : net.collectSearchResults tapApi passes ⟨arrivals, sent, sockets⟩ <;>
            rw [hrun] at hrest <;> exact hrest

theorem search_preserves_tap (hrecord : ∀ tap, I tap → I (tap.record net ['X']))
    (hnext : ∀ tap, I tap → I tap.next) : Preserves I (net.search tapApi) :=
  (send_preserves_tap hrecord).bind fun _ => collect_preserves_tap hnext 255

/-! ## Whole calls -/

/-- What stays true when a device sends over an open socket, receives, or opens a socket. -/
structure Stable (I : Tap → Prop) : Prop where
  record : ∀ (tap : Tap) (net : HwVxNetworking) (command : Text),
    net.sock < tap.sockets → I tap → I (tap.record net command)
  next : ∀ tap, I tap → I tap.next
  opened : ∀ tap : Tap, I tap → I { tap with sockets := tap.sockets + 1 }

/-- The sockets below `n` are open. -/
def Open (n : ℕ) (I : Tap → Prop) (tap : Tap) : Prop := n ≤ tap.sockets ∧ I tap

theorem Open.forget {α : Type} {program : EStateM PyError Tap α} {P : Tap → Prop} {n : ℕ}
    (h : Triple P program (fun _ => Open n I) (fun _ => Open n I)) :
    Triple P program (fun _ => I) (fun _ => I) :=
  h.weaken (fun _ htap => htap) (fun _ _ htap => htap.2) fun _ _ htap => htap.2

namespace Stable

variable {n : ℕ} (h : Stable I) (hsock : net.sock < n)
include h hsock

theorem send (command : Text) : Preserves (Open n I) (net.send tapApi command) :=
  send_preserves_tap fun tap htap =>
    ⟨htap.1, h.record tap net command (hsock.trans_le htap.1) htap.2⟩

omit hsock in
theorem receive : Preserves (Open n I) (net.receive tapApi) :=
  receive_preserves_tap fun tap htap => ⟨htap.1, h.next tap htap.2⟩

theorem request (command : Text) (retries : ℕ) :
    Preserves (Open n I) (net.request tapApi command retries) :=
  request_preserves_tap
    (fun tap htap => ⟨htap.1, h.record tap net command (hsock.trans_le htap.1) htap.2⟩)
    (fun tap htap => ⟨htap.1, h.next tap htap.2⟩) retries

theorem search : Preserves (Open n I) (net.search tapApi) :=
  search_preserves_tap
    (fun tap htap => ⟨htap.1, h.record tap net ['X'] (hsock.trans_le htap.1) htap.2⟩)
    fun tap htap => ⟨htap.1, h.next tap htap.2⟩

theorem pushNetwork (opener : Text) (newIp subnetMask gatewayIp : IPv4Address) :
    Preserves (Open n I)
      (HwVxDevice.pushNetwork tapApi net opener newIp subnetMask gatewayIp) :=
  (h.send hsock opener).bind fun _ => (h.send hsock _).bind fun _ => h.receive.bind fun _ =>
    (h.send hsock _).bind fun _ => (h.send hsock _).bind fun _ => (h.send hsock _).bind fun _ =>
      h.receive.bind fun _ => h.send hsock _

theorem sendConfigPass (wire : String → Option Text) :
    Preserves (Open n I) (HwVxDevice.sendConfigPass (net.send tapApi) wire) := by
  refine (h.send hsock ['L']).bind fun _ => ?_
  refine Preserves.bind (Preserves.forM fun name _ => ?_) fun _ => h.send hsock ['E']
  exact Preserves.ofExcept_bind fun command _ => h.send hsock command

omit hsock in
theorem withOpen {α : Type} {ipAddress : Text} {body : HwVxNetworking → EStateM PyError Tap α}
    (hbody : ∀ sock, Preserves (Open (sock + 1) I) (body ⟨sock, (ipAddress, udpPort)⟩)) :
    Preserves (Open n I) (HwVxNetworking.withOpen tapApi ipAddress body) := by
  refine withOpen_triple (fun sock tap => n ≤ sock ∧ Open (sock + 1) I tap)
    (fun tap htap => ⟨htap.1, le_refl _, h.opened tap htap.2⟩) fun sock => ?_
  -- `n` is not above the new socket, which is at the number of sockets before
  by_cases hn : n ≤ sock
  · have hopen : ∀ tap, Open (sock + 1) I tap → Open n I tap := fun _ htap =>
      ⟨(hn.trans (Nat.le_succ sock)).trans htap.1, htap.2⟩
    exact (hbody sock).weaken (fun _ htap => htap.2) (fun _ => hopen) fun _ => hopen
  · exact fun _ htap => absurd htap.1 hn

omit hsock

variable {device : HwVxDevice} (hdevice : device.net.sock < n)
include hdevice

theorem getConfig : Preserves (Open n I) (device.getConfig tapApi) :=
  HwVxDevice.getConfig_preserves fun _ _ =>
    device.net.requestSingle_preserves (h.request hdevice _ 5)

theorem saveConfig (cfg : DeviceConfig) : Preserves (Open n I) (device.saveConfig tapApi cfg) := by
  refine Preserves.ofExcept_bind fun wire _ => (h.sendConfigPass hdevice _).bind fun _ => ?_
  split
  · exact Preserves.pure _
  · exact h.withOpen fun sock => (h.send (Nat.lt_succ_self sock) _).bind fun _ =>
      h.sendConfigPass (Nat.lt_succ_self sock) _

theorem changeNetwork (newIp subnetMask gatewayIp : IPv4Address) :
    Preserves (Open n I) (device.changeNetwork tapApi newIp subnetMask gatewayIp) := by
  refine (h.pushNetwork hdevice ['X'] newIp subnetMask gatewayIp).bind fun _ => ?_
  split
  · exact Preserves.pure _
  · exact h.withOpen fun sock =>
      h.pushNetwork (Nat.lt_succ_self sock) _ newIp subnetMask gatewayIp

theorem setDhcp (enabled : Bool) : Preserves (Open n I) (device.setDhcp tapApi enabled) :=
  (h.send hdevice _).bind fun _ => (h.send hdevice _).bind fun _ => h.send hdevice _

theorem reboot : Preserves (Open n I) (device.reboot tapApi) :=
  h.send hdevice ['E']

omit hdevice

/-- Every call keeps what is stable, and of the device what does not depend on its MAC. -/
theorem program {D : HwVxDevice → Prop}
    (hmac : ∀ (self : HwVxDevice) mac, D self → D { self with mac := mac })
    (operation : Operation) :
    Preserves (fun state : HwVxDevice × Tap =>
        (D state.1 ∧ state.1.net.sock < n) ∧ Open n I state.2)
      (operation.program tapApi) := by
  refine Preserves.get_bind fun ⟨device, tap⟩ hstate => ?_
  have hdevice : device.net.sock < n := hstate.1.2
  have honNet {α : Type} {body : EStateM PyError Tap α} (hbody : Preserves (Open n I) body) :=
    HwVxDevice.onNet_preserves (D := fun device => D device ∧ device.net.sock < n) hbody
  cases operation with
  | connect =>
    exact Preserves.bind (HwVxDevice.connect_preserves
      (D := fun device => D device ∧ device.net.sock < n)
      (fun self mac hself => ⟨hmac self mac hself.1, hself.2⟩)
      (fun _ hself => h.search hself.2) (fun _ hself => h.request hself.2 _ 3)
      fun _ hself => h.request hself.2 _ 3) fun _ => Preserves.pure _
  | getConfig => exact (honNet (h.getConfig hdevice)).bind fun _ => Preserves.pure _
  | saveConfig cfg => exact honNet (h.saveConfig hdevice cfg)
  | changeNetwork newIp subnetMask gatewayIp =>
    exact honNet (h.changeNetwork hdevice newIp subnetMask gatewayIp)
  | setDhcp enabled => exact honNet (h.setDhcp hdevice enabled)
  | reboot => exact honNet (h.reboot hdevice)

end Stable

end UhfReader18.Hwvx
