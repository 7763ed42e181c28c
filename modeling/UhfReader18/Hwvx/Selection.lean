import UhfReader18.Hwvx.Tap

/-!
# Writes to the whole network

A write that is sent to the broadcast address reaches every module, unless a `W` with a MAC has
selected one of them on the same socket. The device sends there over its own socket, if it was
made to, and over the socket of the second pass of a save or of a change of the network.

Results:
1. `step_iff`: a call writes to the whole network unselected exactly if its socket is not
   selected on, or a second pass has no MAC to select.
2. `selected_first_iff`: a run does exactly if one of its calls does.
   `new_device_unselected`: the first call on a new device may.
-/

namespace UhfReader18.Hwvx

open Stateful HwVxDevice

/-! ## What is sent -/

/-- An `S` command, or the `E`. -/
def Datagram.IsWrite (d : Datagram) : Prop :=
  d.data.head? = some (asciiByte 'S') ∨ d.data = [asciiByte 'E']

/-- A `W` with a MAC. -/
def Datagram.IsSelect (d : Datagram) : Prop :=
  d.data.head? = some (asciiByte 'W') ∧ d.data.tail ≠ []

def SelectedOn (sent : List Datagram) (sock : ℕ) : Prop :=
  ∃ w ∈ sent, w.sock = sock ∧ w.IsSelect

/-- Every write to the address comes after a select on its socket. -/
def SelectedFirst (address : Text) (sent : List Datagram) : Prop :=
  ∀ before d after, sent = before ++ d :: after → d.target.1 = address → d.IsWrite →
    SelectedOn before d.sock

/-- What is sent over the socket to the address is sent to a selected module. -/
def Covered (address : Text) (net : HwVxNetworking) (sent : List Datagram) : Prop :=
  net.target.1 = address → SelectedOn sent net.sock

/-- None of the next arrivals makes a receive raise. -/
def Legible : ℕ → List Arrival → Prop
  | 0, _ => True
  | n + 1, arrivals => (∃ text, nextText arrivals = .ok text) ∧ Legible n arrivals.tail

theorem selectedOn_concat {sent : List Datagram} {d : Datagram} {sock : ℕ} :
    SelectedOn (sent ++ [d]) sock ↔ SelectedOn sent sock ∨ d.sock = sock ∧ d.IsSelect := by
  simp [SelectedOn, or_and_right, exists_or]

theorem selectedFirst_nil (address : Text) : SelectedFirst address [] := by
  intro before d after h
  simp at h

theorem selectedFirst_concat {address : Text} {sent : List Datagram} {d : Datagram} :
    SelectedFirst address (sent ++ [d]) ↔
      SelectedFirst address sent ∧ (d.target.1 = address → d.IsWrite → SelectedOn sent d.sock) := by
  constructor
  · intro h
    refine ⟨fun before d' after hsent => ?_, h sent d [] rfl⟩
    exact h before d' (after ++ [d]) (by rw [hsent, List.append_assoc, List.cons_append])
  · rintro ⟨hsent, hd⟩ before d' after heq
    rcases List.eq_nil_or_concat after with rfl | ⟨after, last, rfl⟩
    · -- the write is the last datagram
      obtain ⟨rfl, hlast⟩ := List.append_inj' heq rfl
      cases hlast
      exact hd
    · refine hsent before d' after ?_
      have hsplit : sent ++ [d] = (before ++ d' :: after) ++ [last] := by
        rw [heq, List.concat_eq_append, List.append_assoc, List.cons_append]
      exact (List.append_inj' hsplit rfl).1

/-! ## Commands -/

variable {address : Text} {net : HwVxNetworking} {C : Prop}

/-- Commands of another kind than `S` and `E` write nothing. -/
theorem not_isWrite_of_kind {kind : Char} (hset : asciiByte kind ≠ asciiByte 'S')
    (hreboot : asciiByte kind ≠ asciiByte 'E') (text : Text) :
    ¬ (net.datagram (kind :: text)).IsWrite := by
  rintro (h | h)
  · exact hset (Option.some.inj h)
  · exact hreboot (List.head_eq_of_cons_eq h)

theorem isSelect_iff {mac : Text} : (net.datagram ('W' :: mac)).IsSelect ↔ mac ≠ [] := by
  simp [Datagram.IsSelect, HwVxNetworking.datagram]

theorem not_isSelect_of_kind {kind : Char} (hselect : asciiByte kind ≠ asciiByte 'W')
    (text : Text) : ¬ (net.datagram (kind :: text)).IsSelect :=
  fun h => hselect (Option.some.inj h.1)

theorem Covered.record {tap : Tap} (h : Covered address net tap.sent) (net' : HwVxNetworking)
    (command : Text) : Covered address net (tap.record net' command).sent :=
  fun htarget => selectedOn_concat.mpr (Or.inl (h htarget))

/-- What is written over a covered socket reaches a selected module. -/
theorem SelectedFirst.record_covered {tap : Tap} (h : SelectedFirst address tap.sent)
    (hcovered : Covered address net tap.sent) (command : Text) :
    SelectedFirst address (tap.record net command).sent :=
  selectedFirst_concat.mpr ⟨h, fun htarget _ => hcovered htarget⟩

theorem SelectedFirst.record_harmless {tap : Tap} {command : Text}
    (h : SelectedFirst address tap.sent) (hharmless : ¬ (net.datagram command).IsWrite) :
    SelectedFirst address (tap.record net command).sent :=
  selectedFirst_concat.mpr ⟨h, fun _ hwrite => absurd hwrite hharmless⟩

theorem request_harmless {command : Text} (hharmless : ¬ (net.datagram command).IsWrite)
    (retries : ℕ) :
    Preserves (fun tap => SelectedFirst address tap.sent)
      (net.request tapApi command retries) :=
  request_preserves_tap (fun _ h => h.record_harmless hharmless) (fun _ h => h) retries

/-! ## Passes over a covered socket -/

/-- No write was unselected, and none will be over this socket. -/
structure Clear (address : Text) (net : HwVxNetworking) (tap : Tap) : Prop where
  safe : SelectedFirst address tap.sent
  covered : Covered address net tap.sent

theorem Clear.send (command : Text) {R : Tap → Prop}
    (hrecord : ∀ tap, R tap → R (tap.record net command)) :
    Triple (fun tap => Clear address net tap ∧ R tap) (net.send tapApi command)
      (fun _ tap => Clear address net tap ∧ R tap) (fun _ tap => SelectedFirst address tap.sent) :=
  send_triple
    (fun tap h _ => ⟨⟨h.1.safe.record_covered h.1.covered command, h.1.covered.record net command⟩,
      hrecord tap h.2⟩)
    fun _ h _ => h.1.safe

/-- A receive that returns has used up one legible arrival. -/
theorem Clear.receive (n : ℕ) :
    Triple (fun tap => Clear address net tap ∧ (Legible (n + 1) tap.arrivals → C))
      (net.receive tapApi) (fun _ tap => Clear address net tap ∧ (Legible n tap.arrivals → C))
      (fun _ tap => SelectedFirst address tap.sent) :=
  receive_triple
    (fun _ text h hnext =>
      ⟨⟨h.1.safe, h.1.covered⟩, fun hlegible => h.2 ⟨⟨text, hnext⟩, hlegible⟩⟩)
    fun _ _ h _ => h.1.safe

/-- Before the first write of a change: its socket will be covered, if it comes to a write. -/
structure Opening (address : Text) (net : HwVxNetworking) (C : Prop) (tap : Tap)
    (sent : List Datagram) : Prop where
  safe : SelectedFirst address tap.sent
  covered : Legible 1 tap.arrivals → Covered address net sent
  later : Legible 3 tap.arrivals → C

/-- A change of the network receives once before its writes and once after them. -/
theorem pushNetwork_safe (C : Prop) {opener : Text} (hopener : ¬ (net.datagram opener).IsWrite)
    (newIp subnetMask gatewayIp : IPv4Address) :
    Triple (fun tap => Opening address net C tap (tap.record net opener).sent)
      (pushNetwork tapApi net opener newIp subnetMask gatewayIp)
      (fun _ tap => SelectedFirst address tap.sent ∧ (Legible 1 tap.arrivals → C))
      (fun _ tap => SelectedFirst address tap.sent) := by
  have hlogin : ¬ (net.datagram ['L']).IsWrite := not_isWrite_of_kind (by decide) (by decide) []
  have hopened : Triple (fun tap => Opening address net C tap (tap.record net opener).sent)
      (net.send tapApi opener) (fun _ tap => Opening address net C tap tap.sent)
      (fun _ tap => SelectedFirst address tap.sent) :=
    send_triple (fun _ h _ => ⟨h.safe.record_harmless hopener, h.covered, h.later⟩)
      fun _ h _ => h.safe
  have hloggedIn : Triple (fun tap => Opening address net C tap tap.sent)
      (net.send tapApi ['L']) (fun _ tap => Opening address net C tap tap.sent)
      (fun _ tap => SelectedFirst address tap.sent) :=
    send_triple (fun _ h _ => ⟨h.safe.record_harmless hlogin,
      fun hlegible => (h.covered hlegible).record net ['L'], h.later⟩) fun _ h _ => h.safe
  have hdrained : Triple (fun tap => Opening address net C tap tap.sent) (net.receive tapApi)
      (fun _ tap => Clear address net tap ∧ (Legible 2 tap.arrivals → C))
      (fun _ tap => SelectedFirst address tap.sent) :=
    receive_triple (fun _ text h hnext => ⟨⟨h.safe, h.covered ⟨⟨text, hnext⟩, trivial⟩⟩,
      fun hlegible => h.later ⟨⟨text, hnext⟩, hlegible⟩⟩) fun _ _ h _ => h.safe
  refine hopened.bind fun _ => hloggedIn.bind fun _ => hdrained.bind fun _ => ?_
  have hwrite (n : ℕ) (command : Text) :
      Triple (fun tap => Clear address net tap ∧ (Legible n tap.arrivals → C))
        (net.send tapApi command)
        (fun _ tap => Clear address net tap ∧ (Legible n tap.arrivals → C))
        (fun _ tap => SelectedFirst address tap.sent) := Clear.send command fun _ h => h
  refine (hwrite 2 _).bind fun _ => (hwrite 2 _).bind fun _ => (hwrite 2 _).bind fun _ =>
    (Clear.receive 1).bind fun _ => ?_
  exact (hwrite 1 _).post fun _ _ h => ⟨h.1.safe, h.2⟩

/-! ## Saving -/

/-- The commands of the pass that write these fields can be encoded. -/
def Writable (wire : String → Option Text) (names : List String) : Prop :=
  ∀ name ∈ names, ∃ command, configCommand wire name = .ok command ∧ isAscii command

variable {wire : String → Option Text}

theorem configCommand_head {name : String} {command : Text}
    (h : configCommand wire name = .ok command) : ∃ rest, command = 'S' :: rest := by
  obtain ⟨row, -, h⟩ := bind_eq_ok h
  obtain ⟨value, -, h⟩ := bind_eq_ok h
  cases h
  exact ⟨_, rfl⟩

/-- The command of a pass for one field. -/
theorem writeField_triple {P Q E : Tap → Prop} {name : String}
    (hrecord : ∀ tap command, P tap → configCommand wire name = .ok command → isAscii command →
      Q (tap.record net command))
    (hraise : ∀ tap, P tap → ¬ Writable wire [name] → E tap) :
    Triple P (do net.send tapApi (← ofExcept (configCommand wire name)))
      (fun _ => Q) (fun _ => E) := by
  have hwritable : ∀ command, configCommand wire name = .ok command →
      Writable wire [name] → isAscii command := by
    intro command hcommand h
    obtain ⟨command', hcommand', hascii⟩ := h name List.mem_cons_self
    rw [hcommand] at hcommand'
    cases hcommand'
    exact hascii
  cases hcommand : configCommand wire name with
  | error e =>
    refine fun tap h => hraise tap h fun hwrite => ?_
    obtain ⟨command, hok, -⟩ := hwrite name List.mem_cons_self
    rw [hcommand] at hok
    cases hok
  | ok command =>
    exact send_triple (fun tap h hascii => hrecord tap command h hcommand hascii)
      fun tap h hascii => hraise tap h fun hwrite => hascii (hwritable command hcommand hwrite)

theorem Writable.cons {name : String} {names : List String} {command : Text}
    (hcommand : configCommand wire name = .ok command) (hascii : isAscii command)
    (h : Writable wire names) : Writable wire (name :: names) :=
  List.forall_mem_cons.mpr ⟨⟨command, hcommand, hascii⟩, h⟩

/-- Fields are written until one of them cannot be. -/
theorem writeFields_safe (names : List String) :
    Triple (fun tap => Clear address net tap ∧ (Writable wire names → C))
      (forM names fun name => do net.send tapApi (← ofExcept (configCommand wire name)))
      (fun _ tap => Clear address net tap ∧ C) (fun _ tap => SelectedFirst address tap.sent) := by
  induction names with
  | nil => exact Triple.pure fun _ h => ⟨h.1, h.2 fun _ hname => absurd hname List.not_mem_nil⟩
  | cons name names ih =>
    rw [List.forM_cons]
    refine Triple.bind (writeField_triple (fun tap command h hcommand hascii => ?_)
      fun _ h _ => h.1.safe) fun _ => ih
    exact ⟨⟨h.1.safe.record_covered h.1.covered command, h.1.covered.record net command⟩,
      fun hnames => h.2 (hnames.cons hcommand hascii)⟩

/-- Before a pass of a save: its socket is covered, if it comes to a write. -/
structure Passing (address : Text) (net : HwVxNetworking) (wire : String → Option Text) (C : Prop)
    (tap : Tap) : Prop where
  safe : SelectedFirst address tap.sent
  covered : Writable wire (setOrder.take 1) → Covered address net tap.sent
  later : Writable wire setOrder → C

theorem sendConfigPass_safe (C : Prop) :
    Triple (Passing address net wire C) (sendConfigPass (net.send tapApi) wire)
      (fun _ tap => SelectedFirst address tap.sent ∧ C)
      (fun _ tap => SelectedFirst address tap.sent) := by
  have hlogin : ¬ (net.datagram ['L']).IsWrite := not_isWrite_of_kind (by decide) (by decide) []
  have hloggedIn : Triple (Passing address net wire C) (net.send tapApi ['L'])
      (fun _ => Passing address net wire C) (fun _ tap => SelectedFirst address tap.sent) :=
    send_triple (fun _ h _ => ⟨h.safe.record_harmless hlogin,
      fun hfirst => (h.covered hfirst).record net ['L'], h.later⟩) fun _ h _ => h.safe
  refine hloggedIn.bind fun _ => ?_
  refine Triple.bind (Q := fun _ tap => Clear address net tap ∧ C) ?_ fun _ =>
    (Clear.send ['E'] fun _ h => h).post fun _ _ h => ⟨h.1.safe, h.2⟩
  rw [show setOrder = "username" :: setOrder.tail from rfl, List.forM_cons]
  refine Triple.bind (writeField_triple (fun tap command h hcommand hascii => ?_)
    fun _ h _ => h.safe) fun _ => writeFields_safe setOrder.tail
  have hnone : Writable wire [] := fun _ hname => absurd hname List.not_mem_nil
  have hcovered := h.covered (hnone.cons hcommand hascii)
  exact ⟨⟨h.safe.record_covered hcovered command, hcovered.record net command⟩,
    fun hnames => h.later (hnames.cons hcommand hascii)⟩

/-! ## Calls -/

/-- What a call needs so that it writes nothing to the whole network unselected: a module
selected on its socket, if it comes to writing, and a MAC for the second pass, if it comes to
that. -/
def Guarded (self : HwVxDevice) (tap : Tap) : Operation → Prop
  | .connect | .getConfig => True
  | .saveConfig cfg =>
    ∀ wire, cfg.toWire = .ok wire →
      (Writable (Keyed.dict wire) (setOrder.take 1) →
        Covered self.broadcastIp.text self.net tap.sent) ∧
      (Writable (Keyed.dict wire) setOrder → self.broadcast = false → self.mac ≠ [])
  | .changeNetwork .. =>
    (Legible 1 tap.arrivals → Covered self.broadcastIp.text self.net tap.sent) ∧
      (Legible 3 tap.arrivals → self.broadcast = false → self.mac ≠ [])
  | .setDhcp _ | .reboot => Covered self.broadcastIp.text self.net tap.sent

theorem covered_select {mac : Text} (hmac : mac ≠ []) (tap : Tap) :
    Covered address net (tap.record net ('W' :: mac)).sent :=
  fun _ => selectedOn_concat.mpr (Or.inr ⟨rfl, isSelect_iff.mpr hmac⟩)

theorem changeNetwork_safe (self : HwVxDevice) (newIp subnetMask gatewayIp : IPv4Address) :
    Triple (fun tap => SelectedFirst self.broadcastIp.text tap.sent ∧
        Guarded self tap (.changeNetwork newIp subnetMask gatewayIp))
      (self.changeNetwork tapApi newIp subnetMask gatewayIp)
      (fun _ tap => SelectedFirst self.broadcastIp.text tap.sent)
      (fun _ tap => SelectedFirst self.broadcastIp.text tap.sent) := by
  have hfirst : Triple (fun tap => Opening self.broadcastIp.text self.net
      (self.broadcast = false → self.mac ≠ []) tap (tap.record self.net ['X']).sent) _ _ _ :=
    pushNetwork_safe _ (not_isWrite_of_kind (by decide) (by decide) []) newIp subnetMask gatewayIp
  refine Triple.bind (hfirst.pre fun _ h => ⟨h.1, fun hlegible => ?_, h.2.2⟩) fun _ => ?_
  · exact (h.2.1 hlegible).record self.net ['X']
  cases hbroadcast : self.broadcast with
  | true => exact Triple.pure fun _ h => h.1
  | false =>
    refine withOpen_triple (fun _ tap => SelectedFirst self.broadcastIp.text tap.sent ∧
      (Legible 1 tap.arrivals → self.mac ≠ [])) (fun _ h => ⟨h.1, fun hl => h.2 hl rfl⟩)
      fun sock => ?_
    refine (pushNetwork_safe True (not_isWrite_of_kind (by decide) (by decide) self.mac)
      newIp subnetMask gatewayIp).weaken (fun _ h => ⟨h.1, fun hl => ?_, fun _ => trivial⟩)
      (fun _ _ h => h.1) fun _ _ h => h
    exact covered_select (h.2 hl) _

theorem saveConfig_safe (self : HwVxDevice) (cfg : DeviceConfig) :
    Triple (fun tap => SelectedFirst self.broadcastIp.text tap.sent ∧
        Guarded self tap (.saveConfig cfg))
      (self.saveConfig tapApi cfg)
      (fun _ tap => SelectedFirst self.broadcastIp.text tap.sent)
      (fun _ tap => SelectedFirst self.broadcastIp.text tap.sent) := by
  refine Triple.ofExcept_bind (fun wire hwire => ?_) fun _ _ _ h => h.1
  have hfirst : Triple (Passing self.broadcastIp.text self.net (Keyed.dict wire)
      (self.broadcast = false → self.mac ≠ [])) _ _ _ := sendConfigPass_safe _
  refine (hfirst.pre fun _ h => ⟨h.1, (h.2 wire hwire).1, (h.2 wire hwire).2⟩).bind fun _ => ?_
  cases hbroadcast : self.broadcast with
  | true => exact Triple.pure fun _ h => h.1
  | false =>
    refine withOpen_triple (fun _ tap =>
      SelectedFirst self.broadcastIp.text tap.sent ∧ self.mac ≠ [])
      (fun _ h => ⟨h.1, h.2 rfl⟩) fun sock => ?_
    refine Triple.bind (send_triple (Q := Clear self.broadcastIp.text
      ⟨sock, (self.broadcastIp.text, udpPort)⟩) (fun tap h _ => ⟨h.1.record_harmless
        (not_isWrite_of_kind (by decide) (by decide) self.mac), covered_select h.2 tap⟩)
      fun _ h _ => h.1) fun _ => ?_
    exact (sendConfigPass_safe True).weaken
      (fun _ h => ⟨h.safe, fun _ => h.covered, fun _ => trivial⟩) (fun _ _ h => h.1) fun _ _ h => h

/-! ## Unguarded calls -/

theorem not_covered_iff {sent : List Datagram} :
    ¬ Covered address net sent ↔ net.target.1 = address ∧ ¬ SelectedOn sent net.sock := by
  simp [Covered]

/-- A command that selects nothing leaves the socket uncovered. -/
theorem not_covered_record {tap : Tap} {command : Text} (h : ¬ Covered address net tap.sent)
    (hselect : ¬ (net.datagram command).IsSelect) :
    ¬ Covered address net (tap.record net command).sent := by
  rw [not_covered_iff] at h ⊢
  refine ⟨h.1, fun hselected => ?_⟩
  rcases selectedOn_concat.mp hselected with hselected | ⟨-, hselected⟩
  · exact h.2 hselected
  · exact hselect hselected

/-- A write over an uncovered socket reaches the whole network. -/
theorem not_selectedFirst_record {tap : Tap} {command : Text}
    (h : ¬ Covered address net tap.sent) (hwrite : (net.datagram command).IsWrite) :
    ¬ SelectedFirst address (tap.record net command).sent := by
  rw [not_covered_iff] at h
  exact fun hfirst => h.2 ((selectedFirst_concat.mp hfirst).2 h.1 hwrite)

theorem isWrite_of_set (text : Text) : (net.datagram ('S' :: text)).IsWrite :=
  Or.inl rfl

theorem isAscii_addressCommand {code check : Text} (hcode : isAscii code) (hcheck : isAscii check)
    (address : IPv4Address) : isAscii (code ++ address.text ++ check) := by
  have haddress : isAscii address.text :=
    fun c hc => (IPv4Address.text_bounds hc).2.1.trans (by decide)
  rw [isAscii_append, isAscii_append]
  exact ⟨⟨hcode, haddress⟩, hcheck⟩

/-- An unselected write stays on record. -/
theorem stable_not_selectedFirst (address : Text) :
    Stable fun tap => ¬ SelectedFirst address tap.sent where
  record _ _ _ _ h := fun hfirst => h (selectedFirst_concat.mp hfirst).1
  next _ h := h
  opened _ h := h

/-- Every socket that was sent over is open. -/
def Fresh (tap : Tap) : Prop := ∀ d ∈ tap.sent, d.sock < tap.sockets

theorem stable_fresh : Stable Fresh where
  record tap net command hsock h d hd := by
    rcases List.mem_append.mp hd with hd | hd
    · exact h d hd
    · rw [List.mem_singleton.mp hd]
      exact hsock
  next _ h := h
  opened tap h d hd := (h d hd).trans (Nat.lt_succ_self _)

/-- Nothing was selected on a new socket. -/
theorem Fresh.not_covered {tap : Tap} (h : Fresh tap) :
    ¬ Covered address ⟨tap.sockets, (address, udpPort)⟩ tap.sent := by
  refine not_covered_iff.mpr ⟨rfl, ?_⟩
  rintro ⟨w, hw, hsock, -⟩
  exact absurd hsock (h w hw).ne

variable {n : ℕ}

/-- The socket is open and not covered. -/
structure Exposed (n : ℕ) (address : Text) (net : HwVxNetworking) (tap : Tap) : Prop where
  opened : n ≤ tap.sockets
  uncovered : ¬ Covered address net tap.sent

theorem Exposed.send {R : Tap → Prop} {command : Text} (hascii : isAscii command)
    (hcommand : ¬ (net.datagram command).IsSelect)
    (hrecord : ∀ tap, R tap → R (tap.record net command)) :
    Triple (fun tap => Exposed n address net tap ∧ R tap) (net.send tapApi command)
      (fun _ tap => Exposed n address net tap ∧ R tap)
      (fun _ => Open n fun tap => ¬ SelectedFirst address tap.sent) :=
  send_triple
    (fun tap h _ => ⟨⟨h.1.opened, not_covered_record h.1.uncovered hcommand⟩, hrecord tap h.2⟩)
    fun _ _ hraise => absurd hascii hraise

theorem Exposed.stays {command : Text} (hascii : isAscii command)
    (hcommand : ¬ (net.datagram command).IsSelect) :
    Triple (Exposed n address net) (net.send tapApi command) (fun _ => Exposed n address net)
      (fun _ => Open n fun tap => ¬ SelectedFirst address tap.sent) :=
  (Exposed.send (R := fun _ => True) hascii hcommand fun _ h => h).weaken
    (fun _ h => ⟨h, trivial⟩) (fun _ _ h => h.1) fun _ _ h => h

theorem Exposed.write {text : Text} (hascii : isAscii ('S' :: text)) :
    Triple (Exposed n address net) (net.send tapApi ('S' :: text))
      (fun _ => Open n fun tap => ¬ SelectedFirst address tap.sent)
      (fun _ => Open n fun tap => ¬ SelectedFirst address tap.sent) :=
  send_triple (fun _ h _ => ⟨h.opened, not_selectedFirst_record h.uncovered (isWrite_of_set text)⟩)
    fun _ _ hraise => absurd hascii hraise

/-- A receive returns if the next arrival is legible. -/
theorem receive_legible (k : ℕ) {P : Tap → Prop} (hnext : ∀ tap, P tap → P tap.next) :
    Triple (fun tap => P tap ∧ Legible (k + 1) tap.arrivals) (net.receive tapApi)
      (fun _ tap => P tap ∧ Legible k tap.arrivals) (fun _ _ => False) := by
  refine receive_triple (fun tap _ h _ => ⟨hnext tap h.1, h.2.2⟩) fun tap e h hraise => ?_
  obtain ⟨text, htext⟩ := h.2.1
  rw [hraise] at htext
  cases htext

/-- A change of the network whose first receive returns writes. -/
theorem pushNetwork_unselected (hsock : net.sock < n) {opener : Text} (hascii : isAscii opener)
    (hopener : ¬ (net.datagram opener).IsSelect) (newIp subnetMask gatewayIp : IPv4Address) :
    Triple (fun tap => Exposed n address net tap ∧ Legible 1 tap.arrivals)
      (pushNetwork tapApi net opener newIp subnetMask gatewayIp)
      (fun _ => Open n fun tap => ¬ SelectedFirst address tap.sent)
      (fun _ => Open n fun tap => ¬ SelectedFirst address tap.sent) := by
  have hlogin : ¬ (net.datagram ['L']).IsSelect := not_isSelect_of_kind (by decide) []
  have hdrained : Triple (fun tap => Exposed n address net tap ∧ Legible 1 tap.arrivals)
      (net.receive tapApi) (fun _ => Exposed n address net)
      (fun _ => Open n fun tap => ¬ SelectedFirst address tap.sent) :=
    ((receive_legible 0 fun _ h => ⟨h.opened, h.uncovered⟩).post fun _ _ h => h.1).raise
  have hgateway : isAscii ("SGI".toList ++ gatewayIp.text ++ "|23".toList) :=
    isAscii_addressCommand (by decide) (by decide) gatewayIp
  have hrest := stable_not_selectedFirst address
  exact (Exposed.send hascii hopener fun _ h => h).bind fun _ =>
    (Exposed.send (by decide) hlogin fun _ h => h).bind fun _ => hdrained.bind fun _ =>
      (Exposed.write hgateway).bind fun _ => (hrest.send hsock _).bind fun _ =>
        (hrest.send hsock _).bind fun _ => hrest.receive.bind fun _ => hrest.send hsock _

/-- A change of the network returns if both its receives do. -/
theorem pushNetwork_returns (k : ℕ) {I : Tap → Prop} (h : Stable I) (hsock : net.sock < n)
    {opener : Text} (hascii : isAscii opener) (newIp subnetMask gatewayIp : IPv4Address) :
    Triple (fun tap => Open n I tap ∧ Legible (k + 2) tap.arrivals)
      (pushNetwork tapApi net opener newIp subnetMask gatewayIp)
      (fun _ tap => Open n I tap ∧ Legible k tap.arrivals) (fun _ _ => False) := by
  have hsend (k : ℕ) {command : Text} (hascii : isAscii command) :
      Triple (fun tap => Open n I tap ∧ Legible k tap.arrivals) (net.send tapApi command)
        (fun _ tap => Open n I tap ∧ Legible k tap.arrivals) (fun _ _ => False) :=
    send_triple (fun tap htap _ => ⟨⟨htap.1.1, h.record tap net command
      (hsock.trans_le htap.1.1) htap.1.2⟩, htap.2⟩) fun _ _ hraise => absurd hascii hraise
  have hreceive (k : ℕ) :
      Triple (fun tap => Open n I tap ∧ Legible (k + 1) tap.arrivals) (net.receive tapApi)
        (fun _ tap => Open n I tap ∧ Legible k tap.arrivals) (fun _ _ => False) :=
    receive_legible k fun tap htap => ⟨htap.1, h.next tap htap.2⟩
  have hset {code check : Text} (hcode : isAscii code) (hcheck : isAscii check)
      (ip : IPv4Address) := hsend (k + 1) (isAscii_addressCommand hcode hcheck ip)
  exact (hsend _ hascii).bind fun _ => (hsend _ (by decide)).bind fun _ =>
    (hreceive _).bind fun _ => (hset (by decide) (by decide) gatewayIp).bind fun _ =>
      (hset (by decide) (by decide) subnetMask).bind fun _ =>
        (hset (by decide) (by decide) newIp).bind fun _ => (hreceive _).bind fun _ =>
          hsend _ (by decide)

variable {wire : String → Option Text}

/-- A pass whose first field can be written writes. -/
theorem sendConfigPass_unselected (hsock : net.sock < n)
    (hfirst : Writable wire (setOrder.take 1)) :
    Triple (Exposed n address net) (sendConfigPass (net.send tapApi) wire)
      (fun _ => Open n fun tap => ¬ SelectedFirst address tap.sent)
      (fun _ => Open n fun tap => ¬ SelectedFirst address tap.sent) := by
  have hrest := stable_not_selectedFirst address
  have hlogin : ¬ (net.datagram ['L']).IsSelect := not_isSelect_of_kind (by decide) []
  refine (Exposed.stays (by decide) hlogin).bind fun _ => ?_
  refine Triple.bind ?_ fun _ => hrest.send hsock ['E']
  rw [show setOrder = "username" :: setOrder.tail from rfl, List.forM_cons]
  obtain ⟨command, hcommand, hascii⟩ := hfirst "username" List.mem_cons_self
  obtain ⟨text, rfl⟩ := configCommand_head hcommand
  refine Triple.bind (Triple.ofExcept_bind (fun command' hcommand' => ?_) fun e hraise => ?_)
    fun _ => Preserves.forM fun name _ => Preserves.ofExcept_bind fun command _ =>
      hrest.send hsock command
  · rw [hcommand] at hcommand'
    cases hcommand'
    exact Exposed.write hascii
  · rw [hcommand] at hraise
    cases hraise

/-- A pass returns if all its fields can be written. -/
theorem sendConfigPass_returns {I : Tap → Prop} (h : Stable I) (hsock : net.sock < n)
    (hall : Writable wire setOrder) :
    Triple (Open n I) (sendConfigPass (net.send tapApi) wire) (fun _ => Open n I)
      (fun _ _ => False) := by
  have hsend {command : Text} (hascii : isAscii command) :
      Triple (Open n I) (net.send tapApi command) (fun _ => Open n I) (fun _ _ => False) :=
    send_triple (fun tap htap _ => ⟨htap.1, h.record tap net command
      (hsock.trans_le htap.1) htap.2⟩) fun _ _ hraise => absurd hascii hraise
  refine (hsend (by decide)).bind fun _ => Triple.bind (Triple.forM fun name hname => ?_)
    fun _ => hsend (by decide)
  obtain ⟨command, hcommand, hascii⟩ := hall name hname
  rw [hcommand]
  exact hsend hascii

/-- A new socket is exposed. -/
theorem Fresh.exposed {tap : Tap} (h : Fresh tap) :
    Exposed (tap.sockets + 1) address ⟨tap.sockets, (address, udpPort)⟩
      { tap with sockets := tap.sockets + 1 } :=
  ⟨le_refl _, h.not_covered⟩

theorem changeNetwork_unselected {self : HwVxDevice} (hself : self.net.sock < n)
    (newIp subnetMask gatewayIp : IPv4Address) :
    Triple (fun tap => Open n Fresh tap ∧
        ¬ Guarded self tap (.changeNetwork newIp subnetMask gatewayIp))
      (self.changeNetwork tapApi newIp subnetMask gatewayIp)
      (fun _ tap => ¬ SelectedFirst self.broadcastIp.text tap.sent)
      (fun _ tap => ¬ SelectedFirst self.broadcastIp.text tap.sent) := by
  rintro tap ⟨hopen, hguard⟩
  have hrest := stable_not_selectedFirst self.broadcastIp.text
  by_cases hmain : Legible 1 tap.arrivals → Covered self.broadcastIp.text self.net tap.sent
  · -- the first pass returns, and the second selects nothing
    have hfallback : Legible 3 tap.arrivals ∧ self.broadcast = false ∧ self.mac = [] := by
      by_contra hnone
      refine hguard ⟨hmain, fun hlegible hbroadcast hmac => hnone ⟨hlegible, hbroadcast, hmac⟩⟩
    obtain ⟨hlegible, hbroadcast, hmac⟩ := hfallback
    have hecho : isAscii ['X'] := by decide
    have hreturns := pushNetwork_returns 1 stable_fresh hself hecho newIp subnetMask gatewayIp
    refine Triple.bind hreturns.raise (fun _ => ?_) tap ⟨hopen, hlegible⟩
    rw [hbroadcast, hmac]
    refine withOpen_triple (fun sock tap =>
      Exposed (sock + 1) self.broadcastIp.text ⟨sock, (self.broadcastIp.text, udpPort)⟩ tap ∧
        Legible 1 tap.arrivals) (fun tap h => ⟨h.1.2.exposed, h.2⟩) fun sock => ?_
    exact Open.forget (pushNetwork_unselected (Nat.lt_succ_self sock) (by decide)
      (fun hselect => isSelect_iff.mp hselect rfl) newIp subnetMask gatewayIp)
  · -- the first pass writes over a socket that is not covered
    rw [Classical.not_imp] at hmain
    have hselect : ¬ (self.net.datagram ['X']).IsSelect := not_isSelect_of_kind (by decide) []
    refine Open.forget (Triple.bind (pushNetwork_unselected hself (by decide) hselect newIp
      subnetMask gatewayIp) fun _ => ?_) tap ⟨⟨hopen.1, hmain.2⟩, hmain.1⟩
    split
    · exact Preserves.pure _
    · exact hrest.withOpen fun sock => hrest.pushNetwork (Nat.lt_succ_self sock) _ newIp subnetMask
        gatewayIp

theorem saveConfig_unselected {self : HwVxDevice} (hself : self.net.sock < n) (cfg : DeviceConfig) :
    Triple (fun tap => Open n Fresh tap ∧ ¬ Guarded self tap (.saveConfig cfg))
      (self.saveConfig tapApi cfg)
      (fun _ tap => ¬ SelectedFirst self.broadcastIp.text tap.sent)
      (fun _ tap => ¬ SelectedFirst self.broadcastIp.text tap.sent) := by
  rintro tap ⟨hopen, hguard⟩
  have hrest := stable_not_selectedFirst self.broadcastIp.text
  simp only [Guarded, not_forall] at hguard
  obtain ⟨wire, hwire, hguard⟩ := hguard
  refine Triple.ofExcept_bind (P := fun s => s = tap) (fun wire' hwire' => ?_)
    (fun e hraise => ?_) tap rfl
  swap
  · rw [hwire] at hraise
    cases hraise
  rw [hwire] at hwire'
  cases hwire'
  rintro tap rfl
  by_cases hmain : Writable (Keyed.dict wire) (setOrder.take 1) →
      Covered self.broadcastIp.text self.net tap.sent
  · have hfallback : Writable (Keyed.dict wire) setOrder ∧ self.broadcast = false ∧
        self.mac = [] := by
      by_contra hnone
      refine hguard ⟨hmain, fun hall hbroadcast hmac => hnone ⟨hall, hbroadcast, hmac⟩⟩
    obtain ⟨hall, hbroadcast, hmac⟩ := hfallback
    refine Triple.bind (sendConfigPass_returns stable_fresh hself hall).raise (fun _ => ?_) tap
      hopen
    rw [hbroadcast, hmac]
    refine withOpen_triple (fun sock tap =>
      Exposed (sock + 1) self.broadcastIp.text ⟨sock, (self.broadcastIp.text, udpPort)⟩ tap)
      (fun tap h => Fresh.exposed (And.right h)) fun sock => ?_
    have hfirst : Writable (Keyed.dict wire) (setOrder.take 1) :=
      fun name hname => hall name (List.mem_of_mem_take hname)
    exact Open.forget ((Exposed.stays (by decide) fun hselect => isSelect_iff.mp hselect rfl).bind
      fun _ => sendConfigPass_unselected (Nat.lt_succ_self sock) hfirst)
  · rw [Classical.not_imp] at hmain
    refine Open.forget (Triple.bind (sendConfigPass_unselected hself hmain.1) fun _ => ?_) tap
      ⟨hopen.1, hmain.2⟩
    split
    · exact Preserves.pure _
    · exact hrest.withOpen fun sock => (hrest.send (Nat.lt_succ_self sock) _).bind fun _ =>
        hrest.sendConfigPass (Nat.lt_succ_self sock) _

/-! ## One call -/

/-- The commands of `set_dhcp` and `reboot` all go over the device's own socket. -/
theorem setDhcp_safe (self : HwVxDevice) (enabled : Bool) :
    Triple (Clear address self.net) (self.setDhcp tapApi enabled)
      (fun _ tap => SelectedFirst address tap.sent)
      (fun _ tap => SelectedFirst address tap.sent) := by
  have hsend (command : Text) : Triple (Clear address self.net) (self.net.send tapApi command)
      (fun _ => Clear address self.net) (fun _ tap => SelectedFirst address tap.sent) :=
    (Clear.send (R := fun _ => True) command fun _ h => h).weaken (fun _ h => ⟨h, trivial⟩)
      (fun _ _ h => h.1) fun _ _ h => h
  exact (hsend _).bind fun _ => (hsend _).bind fun _ =>
    (hsend _).post fun _ _ h => h.safe

theorem setDhcp_unselected {self : HwVxDevice} (hself : self.net.sock < n) (enabled : Bool) :
    Triple (Exposed n address self.net) (self.setDhcp tapApi enabled)
      (fun _ tap => ¬ SelectedFirst address tap.sent)
      (fun _ tap => ¬ SelectedFirst address tap.sent) := by
  have hlogin : ¬ (self.net.datagram ['L']).IsSelect := not_isSelect_of_kind (by decide) []
  refine Open.forget ((Exposed.stays (by decide) hlogin).bind fun _ =>
    (Exposed.write ?_).bind fun _ => (stable_not_selectedFirst address).send hself ['E'])
  cases enabled <;> decide

theorem reboot_iff (self : HwVxDevice) {tap : Tap} (h : SelectedFirst address tap.sent) :
    SelectedFirst address (finalState (self.reboot tapApi tap)).sent ↔
      Covered address self.net tap.sent := by
  have hrun : self.reboot tapApi tap = .ok () (tap.record self.net ['E']) :=
    send_tap self.net (by decide) tap
  rw [hrun]
  constructor
  · intro hfirst
    by_contra huncovered
    exact not_selectedFirst_record huncovered (Or.inr rfl) hfirst
  · exact fun hcovered => h.record_covered hcovered ['E']

theorem getConfig_harmless (self : HwVxDevice) :
    Preserves (fun tap => SelectedFirst address tap.sent) (self.getConfig tapApi) :=
  getConfig_preserves fun _ _ => self.net.requestSingle_preserves
    (request_harmless (not_isWrite_of_kind (by decide) (by decide) _) 5)

theorem connect_harmless :
    Preserves (fun state : HwVxDevice × Tap => True ∧ SelectedFirst address state.2.sent)
      (HwVxDevice.connect tapApi) :=
  connect_preserves (D := fun _ => True) (fun _ _ h => h)
    (fun _ _ => search_preserves_tap
      (fun _ h => h.record_harmless (not_isWrite_of_kind (by decide) (by decide) [])) fun _ h => h)
    (fun _ _ => request_harmless (not_isWrite_of_kind (by decide) (by decide) _) 3)
    fun _ _ => request_harmless (not_isWrite_of_kind (by decide) (by decide) []) 3

/-- The device and the network, ready for the next call. -/
structure Ready (broadcastIp : IPv4Address) (state : HwVxDevice × Tap) : Prop where
  ip : state.1.broadcastIp = broadcastIp
  opened : state.1.net.sock < state.2.sockets
  fresh : Fresh state.2

variable {broadcastIp : IPv4Address} {state : HwVxDevice × Tap}

theorem Ready.step (h : Ready broadcastIp state) (operation : Operation) :
    Ready broadcastIp (finalState (operation.program tapApi state)) := by
  have hend := (stable_fresh.program (D := fun self => self.broadcastIp = broadcastIp)
    (fun _ _ hself => hself) operation).finalState (s := state)
    ⟨⟨h.ip, h.opened⟩, le_refl _, h.fresh⟩
  exact ⟨hend.1.1, hend.1.2.trans_le hend.2.1, hend.2.2⟩

/-- Unselected writes stay on record. -/
theorem Ready.selectedFirst_of_step (h : Ready broadcastIp state) {operation : Operation}
    (hafter : SelectedFirst address (finalState (operation.program tapApi state)).2.sent) :
    SelectedFirst address state.2.sent := by
  by_contra hbefore
  have hend := ((stable_not_selectedFirst address).program (D := fun _ => True)
    (fun _ _ hself => hself) operation).finalState (s := state)
    ⟨⟨trivial, h.opened⟩, le_refl _, hbefore⟩
  exact hend.2.2 hafter

/-- A call writes to the whole network unselected exactly if it is not guarded. -/
theorem step_iff (h : Ready broadcastIp state)
    (hsafe : SelectedFirst broadcastIp.text state.2.sent) (operation : Operation) :
    SelectedFirst broadcastIp.text (finalState (operation.program tapApi state)).2.sent ↔
      Guarded state.1 state.2 operation := by
  obtain ⟨self, tap⟩ := state
  obtain ⟨rfl, hopen, hfresh⟩ := h
  have hcall {body : EStateM PyError Tap Unit} {guard : Prop}
      (hguarded : guard → SelectedFirst self.broadcastIp.text (finalState (body tap)).sent)
      (hunguarded : ¬ guard → ¬ SelectedFirst self.broadcastIp.text (finalState (body tap)).sent) :
      SelectedFirst self.broadcastIp.text (finalState (onNet body (self, tap))).2.sent ↔ guard := by
    rw [finalState_onNet]
    exact ⟨fun hfirst => by_contra fun hguard => hunguarded hguard hfirst, hguarded⟩
  cases operation with
  | connect =>
    have hend : Preserves (fun state : HwVxDevice × Tap =>
        True ∧ SelectedFirst self.broadcastIp.text state.2.sent)
        (discard (HwVxDevice.connect tapApi)) := connect_harmless.bind fun _ => Preserves.pure _
    exact iff_of_true (hend.finalState ⟨trivial, hsafe⟩).2 trivial
  | getConfig =>
    have hend : Preserves (fun tap => SelectedFirst self.broadcastIp.text tap.sent)
        (self.getConfig tapApi) := getConfig_harmless self
    have hend' := (onNet_preserves (D := fun _ => True) hend).bind
      fun _ => Preserves.pure PUnit.unit
    exact iff_of_true (hend'.finalState (s := (self, tap)) ⟨trivial, hsafe⟩).2 trivial
  | saveConfig cfg =>
    exact hcall (fun hguard => (saveConfig_safe self cfg).finalState ⟨hsafe, hguard⟩)
      fun hguard => (saveConfig_unselected hopen cfg).finalState ⟨⟨le_refl _, hfresh⟩, hguard⟩
  | changeNetwork newIp subnetMask gatewayIp =>
    exact hcall
      (fun hguard => (changeNetwork_safe self newIp subnetMask gatewayIp).finalState
        ⟨hsafe, hguard⟩)
      fun hguard => (changeNetwork_unselected hopen newIp subnetMask gatewayIp).finalState
        ⟨⟨le_refl _, hfresh⟩, hguard⟩
  | setDhcp enabled =>
    exact hcall (fun hguard => (setDhcp_safe self enabled).finalState ⟨hsafe, hguard⟩)
      fun hguard => (setDhcp_unselected hopen enabled).finalState ⟨le_refl _, hguard⟩
  | reboot =>
    exact hcall (reboot_iff self hsafe).mpr fun hguard => mt (reboot_iff self hsafe).mp hguard

/-! ## Runs -/

/-- Every call is guarded in the state it is made in. -/
def AllGuarded : List Operation → HwVxDevice × Tap → Prop
  | [], _ => True
  | operation :: operations, state =>
    Guarded state.1 state.2 operation ∧
      AllGuarded operations (finalState (operation.program tapApi state))

theorem selectedFirst_of_run {operations : List Operation} (h : Ready broadcastIp state)
    (hend : SelectedFirst address (Operation.run tapApi operations state).2.sent) :
    SelectedFirst address state.2.sent := by
  induction operations generalizing state with
  | nil => exact hend
  | cons operation operations ih => exact h.selectedFirst_of_step (ih (h.step operation) hend)

theorem run_iff (operations : List Operation) (h : Ready broadcastIp state)
    (hsafe : SelectedFirst broadcastIp.text state.2.sent) :
    SelectedFirst broadcastIp.text (Operation.run tapApi operations state).2.sent ↔
      AllGuarded operations state := by
  induction operations generalizing state with
  | nil => exact iff_of_true hsafe trivial
  | cons operation operations ih =>
    have hstep := step_iff h hsafe operation
    constructor
    · intro hend
      have hafter := selectedFirst_of_run (h.step operation) hend
      exact ⟨hstep.mp hafter, (ih (h.step operation) hafter).mp hend⟩
    · rintro ⟨hguard, hguards⟩
      exact (ih (h.step operation) (hstep.mpr hguard)).mpr hguards

/-- Whatever arrives: in a run of calls on a new device, every write to the broadcast address
comes after a select of a MAC on its socket exactly if all the calls are guarded. -/
theorem selected_first_iff (ipAddress : IPv4Address) (macAddress : Text) (broadcast : Bool)
    (broadcastIp : IPv4Address) (arrivals : List Arrival) (operations : List Operation) :
    ∃ device tap,
      HwVxDevice.init tapApi ipAddress macAddress broadcast broadcastIp { arrivals := arrivals } =
        .ok device tap ∧
      (SelectedFirst broadcastIp.text (Operation.run tapApi operations (device, tap)).2.sent ↔
        AllGuarded operations (device, tap)) := by
  refine ⟨_, _, rfl, run_iff operations ⟨rfl, Nat.zero_lt_one, ?_⟩ (selectedFirst_nil _)⟩
  exact fun _ hd => absurd hd List.not_mem_nil

/-- With nothing arriving, a change of the network on a new device, or a restart of one that is
to go to all modules, writes to every module there is. -/
theorem new_device_unselected :
    (∃ device tap,
      HwVxDevice.init tapApi ⟨192, 168, 1, 100⟩ [] false lanBroadcast { arrivals := [] } =
        .ok device tap ∧
      ¬ SelectedFirst lanBroadcast.text (Operation.run tapApi
        [.changeNetwork ⟨10, 0, 0, 2⟩ ⟨255, 255, 255, 0⟩ ⟨10, 0, 0, 1⟩] (device, tap)).2.sent) ∧
    ∃ device tap,
      HwVxDevice.init tapApi ⟨192, 168, 1, 100⟩ "AA".toList true lanBroadcast { arrivals := [] } =
        .ok device tap ∧
      ¬ SelectedFirst lanBroadcast.text
        (Operation.run tapApi [.reboot] (device, tap)).2.sent := by
  have hfresh : Fresh { arrivals := [], sockets := 1 } :=
    fun _ hd => absurd hd List.not_mem_nil
  have hlegible : Legible 3 [] := ⟨⟨[], rfl⟩, ⟨[], rfl⟩, ⟨[], rfl⟩, trivial⟩
  refine ⟨⟨_, _, rfl, fun hfirst => ?_⟩, _, _, rfl, fun hfirst => ?_⟩
  · have hguards := (run_iff _ ⟨rfl, Nat.zero_lt_one, hfresh⟩ (selectedFirst_nil _)).mp hfirst
    exact hguards.1.2 hlegible rfl rfl
  · have hguards := (run_iff _ ⟨rfl, Nat.zero_lt_one, hfresh⟩ (selectedFirst_nil _)).mp hfirst
    obtain ⟨w, hw, -⟩ := hguards.1 rfl
    exact absurd hw List.not_mem_nil

end UhfReader18.Hwvx
