import UhfReader18.Hwvx.Device

/-!
# Whose reply a request returns

A module that answers every command but `E`, in order and without loss, but maybe late. A
request returns the next reply that begins with `A`, and all of them do, so that whose reply it
is depends on how many replies wait on the socket when the request is made.

Results:
1. `request_reads_next`: the reply returned is the next one that was not read.
2. `reply_correspondence`: in every run, a request returns a reply to its own command exactly if
   no reply was waiting. `stale_reply_after_set_dhcp`: after `set_dhcp`, two are.
3. `ownReply_of_prompt`: if no reply is late and the calls read the replies to what they send,
   every request returns the reply to its own command.
-/

namespace UhfReader18.Hwvx

open Stateful HwVxDevice

/-! ## The module -/

/-- Socket by socket, the commands the module answers and how many of its replies were read.
Where a reply waits, `delays` says of the next receives whether they time out before it. -/
structure Responder where
  asked : ℕ → List Bytes
  taken : ℕ → ℕ
  delays : List Bool
  sockets : ℕ

/-- A new network, before the first socket. -/
def Responder.start (delays : List Bool) : Responder :=
  { asked := fun _ => [], taken := fun _ => 0, delays := delays, sockets := 0 }

/-- The module has to answer one more command. -/
def Responder.ask (w : Responder) (sock : ℕ) (command : Bytes) : Responder :=
  if command = [asciiByte 'E'] then w
  else { w with asked := Function.update w.asked sock (w.asked sock ++ [command]) }

/-- All replies to what was sent over the socket have been read. -/
def Responder.Drained (w : Responder) (sock : ℕ) : Prop := (w.asked sock).length ≤ w.taken sock

variable (content : ℕ → ℕ → Bytes) (address : IPv4Address)

/-- The reply to the command number `i` on a socket. -/
def replyTo (sock i : ℕ) : Bytes := asciiByte 'A' :: content sock i

def responderApi : UdpApi Responder where
  socket w :=
    .ok w.sockets { w with
      asked := Function.update w.asked w.sockets []
      taken := Function.update w.taken w.sockets 0
      sockets := w.sockets + 1 }
  setsockopt _ w := .ok () w
  settimeout _ _ w := .ok () w
  sendto sock command _ w := .ok () (w.ask sock command)
  recvfrom sock size w :=
    if (w.asked sock).length ≤ w.taken sock then .error ⟨.timeoutError, "timed out"⟩ w
    else if w.delays.head? = some true then
      .error ⟨.timeoutError, "timed out"⟩ { w with delays := w.delays.tail }
    else
      .ok ((replyTo content sock (w.taken sock)).take size, address.text) { w with
        taken := Function.update w.taken sock (w.taken sock + 1)
        delays := w.delays.tail }
  close _ w := .ok () w

/-! ## Requests -/

/-- The requests a call makes, each with the network it finds. -/
inductive Calls {σ : Type} (api : UdpApi σ) :
    Operation → HwVxDevice × σ → HwVxNetworking → Text → ℕ → σ → Prop
  | select {state : HwVxDevice × σ} {r : SearchResult} {self : HwVxDevice} {s : σ} :
      chooseModule api state = .ok r (self, s) →
      Calls api .connect state self.net ('W' :: self.mac) 3 s
  | login {state : HwVxDevice × σ} {r : SearchResult} {self : HwVxDevice} {s s' : σ} {body : Text} :
      chooseModule api state = .ok r (self, s) →
      self.net.request api ('W' :: self.mac) 3 s = .ok body s' →
      Calls api .connect state self.net ['L'] 3 s'
  | get {self : HwVxDevice} {s s' : σ} {rows rest : List Setting} {row : Setting}
      {raw : List (String × Text)} :
      settings = rows ++ row :: rest →
      (rows.mapM fun row => do
        return (row.name, ← self.net.requestSingle api row.getCommand row.getCheck) :
          EStateM PyError σ (List (String × Text))) s = .ok raw s' →
      Calls api .getConfig (self, s) self.net (row.getCommand ++ '|' :: row.getCheck) 5 s'

/-- The request has returned the reply to a command it has sent itself: one that was not read
before, to a command that was not sent before. -/
def OwnReply (net : HwVxNetworking) (command : Text) (w : Responder) (body : Text)
    (w' : Responder) : Prop :=
  ∃ i, w.taken net.sock ≤ i ∧ i < w'.taken net.sock ∧ (w.asked net.sock).length ≤ i ∧
    (w'.asked net.sock)[i]? = some (command.map asciiByte) ∧
    decodeAscii ((replyTo content net.sock i).take recvBuffer) = .ok ('A' :: body)

variable {content address} {net : HwVxNetworking} {command : Text}

theorem Responder.taken_ask (w : Responder) (sock : ℕ) (data : Bytes) :
    (w.ask sock data).taken = w.taken := by
  unfold ask
  split <;> rfl

theorem Responder.asked_ask (w : Responder) (sock : ℕ) {data : Bytes}
    (hdata : data ≠ [asciiByte 'E']) : (w.ask sock data).asked sock = w.asked sock ++ [data] := by
  rw [ask, if_neg hdata]
  exact Function.update_self ..

/-- A reply begins with `A`. -/
theorem head_of_reply {sock i : ℕ} {text : Text}
    (h : decodeAscii ((replyTo content sock i).take recvBuffer) = .ok text) :
    ∃ body, text = 'A' :: body := by
  obtain ⟨hascii, hbytes⟩ := encode_of_decodeAscii h
  cases text with
  | nil => cases hbytes
  | cons c body =>
    have hc : asciiByte c = asciiByte 'A' := List.head_eq_of_cons_eq hbytes
    exact ⟨body, by rw [asciiByte_injOn (hascii c List.mem_cons_self) (by decide) hc]⟩

/-- A receive that returns has timed out, or has read the next reply. -/
theorem receive_responder {w w' : Responder} {text : Text}
    (h : net.receive (responderApi content address) w = .ok text w') :
    w'.asked = w.asked ∧
      (text = [] ∧ w'.taken = w.taken ∨
        w.taken net.sock < (w.asked net.sock).length ∧
          w'.taken net.sock = w.taken net.sock + 1 ∧
          decodeAscii ((replyTo content net.sock (w.taken net.sock)).take recvBuffer) =
            .ok text) := by
  by_cases hdrained : (w.asked net.sock).length ≤ w.taken net.sock
  · -- there is no reply that was not read
    have hnone : (responderApi content address).recvfrom net.sock recvBuffer w =
        .error ⟨.timeoutError, "timed out"⟩ w := if_pos hdrained
    rw [net.receive_of_timeout hnone rfl] at h
    cases h
    exact ⟨rfl, Or.inl ⟨rfl, rfl⟩⟩
  by_cases hlate : w.delays.head? = some true
  · -- there is one, but it is late
    have hnone : (responderApi content address).recvfrom net.sock recvBuffer w =
        .error ⟨.timeoutError, "timed out"⟩ { w with delays := w.delays.tail } :=
      (if_neg hdrained).trans (if_pos hlate)
    rw [net.receive_of_timeout hnone rfl] at h
    cases h
    exact ⟨rfl, Or.inl ⟨rfl, rfl⟩⟩
  · have hreply : (responderApi content address).recvfrom net.sock recvBuffer w =
        .ok ((replyTo content net.sock (w.taken net.sock)).take recvBuffer, address.text) { w with
          taken := Function.update w.taken net.sock (w.taken net.sock + 1)
          delays := w.delays.tail } := (if_neg hdrained).trans (if_neg hlate)
    rw [net.receive_of_data hreply] at h
    split at h
    · next hdecode =>
      cases h
      exact ⟨rfl, Or.inr ⟨not_le.mp hdrained, Function.update_self .., hdecode⟩⟩
    · cases h

theorem send_responder {w w' : Responder}
    (h : net.send (responderApi content address) command w = .ok () w') :
    w' = w.ask net.sock (command.map asciiByte) := by
  by_cases hascii : isAscii command
  · rw [net.send_of_ascii hascii] at h
    cases h
    rfl
  · obtain ⟨e, hraise⟩ := net.send_of_not_ascii hascii (responderApi content address) w
    rw [hraise] at h
    cases h

/-- What a request has done when it returns. -/
structure Returned (content : ℕ → ℕ → Bytes) (net : HwVxNetworking) (command : Text)
    (w : Responder) (body : Text) (w' : Responder) : Prop where
  resent : ∃ n, w'.asked net.sock =
    w.asked net.sock ++ List.replicate (n + 1) (command.map asciiByte)
  taken : w'.taken net.sock = w.taken net.sock + 1
  waiting : w.taken net.sock < (w'.asked net.sock).length
  text : decodeAscii ((replyTo content net.sock (w.taken net.sock)).take recvBuffer) =
    .ok ('A' :: body)

/-- The reply returned is the next one that was not read. -/
theorem request_reads_next (hcommand : command.map asciiByte ≠ [asciiByte 'E']) {retries : ℕ}
    {w w' : Responder} {body : Text}
    (h : net.request (responderApi content address) command retries w = .ok body w') :
    Returned content net command w body w' := by
  induction retries generalizing w with
  | zero => cases h
  | succ retries ih =>
    rw [HwVxNetworking.request] at h
    obtain ⟨_, asked, hsend, h⟩ := exists_of_bind_eq_ok h
    obtain ⟨text, received, hreceive, h⟩ := exists_of_bind_eq_ok h
    cases send_responder hsend
    obtain ⟨hasked, hreply⟩ := receive_responder hreceive
    rw [w.taken_ask] at hreply
    have hsent : received.asked net.sock = w.asked net.sock ++ [command.map asciiByte] := by
      rw [hasked, w.asked_ask net.sock hcommand]
    rcases hreply with ⟨rfl, htaken⟩ | ⟨hwaiting, htaken, hdecode⟩
    · -- nothing came in time: the command is sent again
      have hrest := ih h
      obtain ⟨n, hresent⟩ := hrest.resent
      refine ⟨⟨n + 1, ?_⟩, ?_, ?_, ?_⟩
      · rw [hresent, hsent, List.append_assoc]
        rfl
      · rw [hrest.taken, htaken]
      · exact htaken ▸ hrest.waiting
      · exact htaken ▸ hrest.text
    · obtain ⟨body', rfl⟩ := head_of_reply hdecode
      cases h
      refine ⟨⟨0, hsent⟩, htaken, ?_, hdecode⟩
      rwa [hasked]

/-- It answers the request's own command exactly if no reply was waiting. -/
theorem Returned.ownReply_iff {w w' : Responder} {body : Text}
    (h : Returned content net command w body w') :
    OwnReply content net command w body w' ↔ w.Drained net.sock := by
  constructor
  · rintro ⟨i, hlow, hhigh, hown, -, -⟩
    rw [h.taken] at hhigh
    exact hown.trans (by omega)
  · intro hdrained
    have htaken := h.taken
    refine ⟨w.taken net.sock, le_refl _, by omega, hdrained, ?_, h.text⟩
    obtain ⟨n, hresent⟩ := h.resent
    have hwaiting := h.waiting
    rw [hresent, List.length_append, List.length_replicate] at hwaiting
    have hdrained' : (w.asked net.sock).length ≤ w.taken net.sock := hdrained
    rw [hresent, List.getElem?_append_right hdrained', List.getElem?_replicate, if_pos (by omega)]

/-! ## Runs -/

/-- The requests made in a run of calls. -/
inductive RunCalls {σ : Type} (api : UdpApi σ) :
    List Operation → HwVxDevice × σ → HwVxNetworking → Text → ℕ → σ → Prop
  | here {operation : Operation} {operations : List Operation} {state : HwVxDevice × σ}
      {net : HwVxNetworking} {command : Text} {retries : ℕ} {s : σ} :
      Calls api operation state net command retries s →
      RunCalls api (operation :: operations) state net command retries s
  | later {operation : Operation} {operations : List Operation} {state : HwVxDevice × σ}
      {net : HwVxNetworking} {command : Text} {retries : ℕ} {s : σ} :
      RunCalls api operations (finalState (operation.program api state)) net command retries s →
      RunCalls api (operation :: operations) state net command retries s

/-- What begins with another letter is no reboot. -/
theorem answered_of_kind {kind : Char} (hkind : asciiByte kind ≠ asciiByte 'E') (text : Text) :
    (kind :: text).map asciiByte ≠ [asciiByte 'E'] :=
  fun heq => hkind (List.head_eq_of_cons_eq heq)

/-- No request is a reboot. -/
theorem Calls.answered {σ : Type} {api : UdpApi σ} {operation : Operation}
    {state : HwVxDevice × σ} {retries : ℕ} {s : σ}
    (h : Calls api operation state net command retries s) :
    command.map asciiByte ≠ [asciiByte 'E'] := by
  cases h with
  | select => exact answered_of_kind (by decide) _
  | login => exact answered_of_kind (by decide) _
  | get => exact answered_of_kind (by decide) _

theorem RunCalls.answered {σ : Type} {api : UdpApi σ} {operations : List Operation}
    {state : HwVxDevice × σ} {retries : ℕ} {s : σ}
    (h : RunCalls api operations state net command retries s) :
    command.map asciiByte ≠ [asciiByte 'E'] := by
  induction h with
  | here hcall => exact hcall.answered
  | later _ ih => exact ih

/-- Whatever is late: in a run of calls on a new device, a request that returns has returned the
reply to its own command exactly if no reply was waiting on its socket when it was made. -/
theorem reply_correspondence (content : ℕ → ℕ → Bytes) (address ipAddress : IPv4Address)
    (macAddress : Text) (broadcast : Bool) (broadcastIp : IPv4Address) (delays : List Bool)
    (operations : List Operation) :
    ∃ device start,
      HwVxDevice.init (responderApi content address) ipAddress macAddress broadcast broadcastIp
          (Responder.start delays) = .ok device start ∧
      ∀ net command retries w body w',
        RunCalls (responderApi content address) operations (device, start) net command retries w →
        net.request (responderApi content address) command retries w = .ok body w' →
        (OwnReply content net command w body w' ↔ w.Drained net.sock) :=
  ⟨_, _, rfl, fun _ _ _ _ _ _ hcall hrun =>
    (request_reads_next hcall.answered hrun).ownReply_iff⟩

/-- Replies that only say how many came before. -/
def numbered (_ i : ℕ) : Bytes := [asciiByte '0' + UInt8.ofNat i]

/-- A select that is answered late, after a second one. -/
theorem reply_correspondence_late_select :
    ∃ device start w body w',
      HwVxDevice.init (responderApi numbered ⟨192, 168, 1, 100⟩) ⟨192, 168, 1, 100⟩ ['M']
          false lanBroadcast (Responder.start [true]) = .ok device start ∧
      RunCalls (responderApi numbered ⟨192, 168, 1, 100⟩) [.connect] (device, start)
        device.net ['W', 'M'] 3 w ∧
      device.net.request (responderApi numbered ⟨192, 168, 1, 100⟩) ['W', 'M'] 3 w =
        .ok body w' ∧
      OwnReply numbered device.net ['W', 'M'] w body w' := by
  obtain ⟨device, start, hinit, hown⟩ := reply_correspondence numbered
    ⟨192, 168, 1, 100⟩ ⟨192, 168, 1, 100⟩ ['M'] false lanBroadcast [true] [.connect]
  cases hinit
  refine ⟨_, _, _, _, _, rfl, .here (.select rfl), rfl, ?_⟩
  exact (hown _ _ _ _ _ _ (.here (.select rfl)) rfl).mpr (Nat.zero_le _)

/-- After `set_dhcp` two replies wait, to the login and to the setting, and `connect` takes the
first for the reply to its select. -/
theorem stale_reply_after_set_dhcp :
    ∃ device start w w',
      HwVxDevice.init (responderApi numbered ⟨192, 168, 1, 100⟩) ⟨192, 168, 1, 100⟩
          ['M'] false lanBroadcast (Responder.start []) = .ok device start ∧
      RunCalls (responderApi numbered ⟨192, 168, 1, 100⟩) [.setDhcp true, .connect]
        (device, start) device.net ['W', 'M'] 3 w ∧
      (w.asked device.net.sock)[0]? = some [asciiByte 'L'] ∧
      device.net.request (responderApi numbered ⟨192, 168, 1, 100⟩) ['W', 'M'] 3 w =
        .ok ['0'] w' ∧
      ¬ OwnReply numbered device.net ['W', 'M'] w ['0'] w' := by
  refine ⟨_, _, _, _, rfl, .later (.here (.select rfl)), rfl, rfl, ?_⟩
  rintro ⟨i, -, hread, hown, -, -⟩
  have hasked : 2 ≤ i := hown
  have htaken : i < 1 := hread
  omega

/-! ## Calls that leave no reply waiting -/

/-- Nothing waits on the socket, and no reply will be late. -/
structure Prompt (sock : ℕ) (w : Responder) : Prop where
  read : (w.asked sock).length = w.taken sock
  delays : w.delays = []

/-- The next receive takes the last reply there is. -/
structure OneWaiting (sock : ℕ) (w : Responder) : Prop where
  waiting : (w.asked sock).length = w.taken sock + 1
  delays : w.delays = []

variable {sock : ℕ}

theorem Prompt.recvfrom {w : Responder} (h : Prompt sock w) :
    (responderApi content address).recvfrom sock recvBuffer w =
      .error ⟨.timeoutError, "timed out"⟩ w :=
  if_pos h.read.le

theorem OneWaiting.recvfrom {w : Responder} (h : OneWaiting sock w) (content : ℕ → ℕ → Bytes)
    (address : IPv4Address) :
    ∃ w', (responderApi content address).recvfrom sock recvBuffer w =
      .ok ((replyTo content sock (w.taken sock)).take recvBuffer, address.text) w' ∧
      Prompt sock w' := by
  have hwaiting : ¬ (w.asked sock).length ≤ w.taken sock := by
    rw [h.waiting]
    omega
  have hprompt : ¬ w.delays.head? = some true := by
    rw [h.delays]
    exact fun hlate => by cases hlate
  refine ⟨_, (if_neg hwaiting).trans (if_neg hprompt), ?_, ?_⟩
  · show (w.asked sock).length = Function.update w.taken sock (w.taken sock + 1) sock
    rw [Function.update_self, h.waiting]
  · show w.delays.tail = []
    rw [h.delays]
    rfl

theorem send_prompt (hcommand : command.map asciiByte ≠ [asciiByte 'E']) :
    Triple (Prompt net.sock) (net.send (responderApi content address) command)
      (fun _ => OneWaiting net.sock) (fun _ => Prompt net.sock) := by
  intro w h
  by_cases hascii : isAscii command
  · rw [net.send_of_ascii hascii]
    show OneWaiting net.sock (w.ask net.sock (command.map asciiByte))
    refine ⟨?_, ?_⟩
    · rw [w.asked_ask net.sock hcommand, w.taken_ask, List.length_append, h.read]
      rfl
    · unfold Responder.ask
      split <;> exact h.delays
  · obtain ⟨e, hraise⟩ := net.send_of_not_ascii hascii (responderApi content address) w
    rw [hraise]
    exact h

theorem receive_prompt :
    Triple (OneWaiting net.sock) (net.receive (responderApi content address))
      (fun text w => (∃ body, text = 'A' :: body) ∧ Prompt net.sock w)
      (fun _ => Prompt net.sock) := by
  intro w h
  obtain ⟨w', hreply, hw'⟩ := h.recvfrom content address
  rw [net.receive_of_data hreply]
  cases hdecode : decodeAscii ((replyTo content net.sock (w.taken net.sock)).take recvBuffer) with
  | ok text => exact ⟨head_of_reply hdecode, hw'⟩
  | error e => exact hw'

/-- A prompt request leaves nothing waiting. -/
theorem request_prompt (hcommand : command.map asciiByte ≠ [asciiByte 'E']) (retries : ℕ) :
    Preserves (Prompt net.sock) (net.request (responderApi content address) command retries) := by
  cases retries with
  | zero => exact fun _ h => h
  | succ retries =>
    refine (send_prompt hcommand).bind fun _ => receive_prompt.bind fun text => ?_
    -- whatever the reply is of, it begins with `A`, so that the command is not sent again
    rintro w ⟨⟨body, rfl⟩, hw⟩
    show Prompt net.sock w
    exact hw

/-- So does a search. -/
theorem search_prompt :
    Preserves (Prompt net.sock) (net.search (responderApi content address)) := by
  refine (send_prompt (by decide)).bind fun _ => ?_
  intro w h
  obtain ⟨w', hreply, hw'⟩ := h.recvfrom content address
  rw [net.collect_of_data 254 hreply]
  -- the only reply there is has been read, and the next receive ends the search
  have hlast : Preserves (Prompt net.sock)
      (net.collectSearchResults (responderApi content address) 254) := by
    intro w hw
    rw [net.collect_of_timeout 253 hw.recvfrom rfl]
    exact hw
  refine Preserves.ofExcept_bind (I := Prompt net.sock) (fun text _ => ?_) w' hw'
  split
  · exact Preserves.ofExcept_bind fun _ _ => hlast.bind fun _ => Preserves.pure _
  · exact Preserves.pure _

/-- The calls that send nothing, but `E`, that they do not read the reply to. -/
inductive ReadsReplies : Operation → Prop
  | connect : ReadsReplies .connect
  | getConfig : ReadsReplies .getConfig
  | reboot : ReadsReplies .reboot

/-- The device has its network, and nothing waits there. -/
def AllRead (net : HwVxNetworking) (state : HwVxDevice × Responder) : Prop :=
  state.1.net = net ∧ Prompt net.sock state.2

variable {operation : Operation} {operations : List Operation} {state : HwVxDevice × Responder}

theorem requestSingle_prompt (row : Setting) :
    Preserves (Prompt net.sock)
      (net.requestSingle (responderApi content address) row.getCommand row.getCheck) :=
  net.requestSingle_preserves (request_prompt (answered_of_kind (by decide) _) 5)

theorem onNet_prompt {α : Type} {program : EStateM PyError Responder α}
    (h : Preserves (Prompt net.sock) program) : Preserves (AllRead net) (onNet program) :=
  onNet_preserves (D := fun self => self.net = net) h

theorem chooseModule_prompt :
    Preserves (AllRead net) (chooseModule (responderApi content address)) :=
  chooseModule_preserves (D := fun self => self.net = net) (fun _ _ hself => hself)
    fun _ hself => hself ▸ search_prompt

theorem connect_prompt : Preserves (AllRead net) (connect (responderApi content address)) :=
  connect_preserves (D := fun self => self.net = net) (fun _ _ hself => hself)
    (fun _ hself => hself ▸ search_prompt)
    (fun _ hself => hself ▸ request_prompt (answered_of_kind (by decide) _) 3)
    fun _ hself => hself ▸ request_prompt (by decide) 3

theorem program_prompt (h : ReadsReplies operation) :
    Preserves (AllRead net) (operation.program (responderApi content address)) := by
  refine Preserves.get_bind fun ⟨self, w⟩ hself => ?_
  obtain ⟨rfl, -⟩ := hself
  cases h with
  | connect => exact connect_prompt.bind fun _ => Preserves.pure _
  | getConfig =>
    exact (onNet_prompt (getConfig_preserves fun row _ => requestSingle_prompt row)).bind
      fun _ => Preserves.pure _
  | reboot => exact onNet_prompt fun _ hw => hw

/-- Within a call, too, nothing waits when a request is made. -/
theorem Calls.prompt {net' : HwVxNetworking} {retries : ℕ} {w : Responder}
    (h : Calls (responderApi content address) operation state net' command retries w)
    (hstate : AllRead net state) : AllRead net ⟨state.1, w⟩ ∧ net' = net := by
  cases h with
  | select hchoose =>
    obtain ⟨hnet, hprompt⟩ := Triple.of_ok chooseModule_prompt hstate hchoose
    exact ⟨⟨hstate.1, hprompt⟩, hnet⟩
  | login hchoose hselect =>
    obtain ⟨rfl, hprompt⟩ := Triple.of_ok chooseModule_prompt hstate hchoose
    have hselected :=
      Triple.of_ok (request_prompt (answered_of_kind (by decide) _) 3) hprompt hselect
    exact ⟨⟨hstate.1, hselected⟩, rfl⟩
  | get hrows hraw =>
    obtain ⟨rfl, hprompt⟩ := hstate
    have hread := Triple.of_ok (Preserves.mapM fun row _ =>
      (requestSingle_prompt row).bind fun _ => Preserves.pure _) hprompt hraw
    exact ⟨⟨rfl, hread⟩, rfl⟩

/-- If no reply is late, a request in a run of such calls finds nothing waiting. -/
theorem drained_of_prompt {net' : HwVxNetworking} {retries : ℕ} {w : Responder}
    (h : RunCalls (responderApi content address) operations state net' command retries w)
    (hreads : ∀ operation ∈ operations, ReadsReplies operation) (hstate : AllRead net state) :
    w.Drained net'.sock := by
  induction h with
  | here hcall =>
    obtain ⟨hprompt, rfl⟩ := hcall.prompt hstate
    exact hprompt.2.read.le
  | later _ ih =>
    rw [List.forall_mem_cons] at hreads
    exact ih hreads.2 (Preserves.finalState (program_prompt hreads.1) hstate)

theorem init_prompt {ipAddress broadcastIp : IPv4Address} {macAddress : Text} {broadcast : Bool}
    {device : HwVxDevice} {start : Responder}
    (h : HwVxDevice.init (responderApi content address) ipAddress macAddress broadcast broadcastIp
      (Responder.start []) = .ok device start) : AllRead device.net (device, start) := by
  cases h
  exact ⟨rfl, rfl, rfl⟩

/-- So it returns the reply to its own command. -/
theorem ownReply_of_prompt {net' : HwVxNetworking} {retries : ℕ} {w w' : Responder} {body : Text}
    (h : RunCalls (responderApi content address) operations state net' command retries w)
    (hreads : ∀ operation ∈ operations, ReadsReplies operation) (hstate : AllRead net state)
    (hrun : net'.request (responderApi content address) command retries w = .ok body w') :
    OwnReply content net' command w body w' :=
  (request_reads_next h.answered hrun).ownReply_iff.mpr (drained_of_prompt h hreads hstate)

end UhfReader18.Hwvx
