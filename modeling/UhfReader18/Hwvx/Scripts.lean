import UhfReader18.Hwvx.NetworkChange
import UhfReader18.Hwvx.Sockets

/-!
# What a device sends

Every method of a device has a script: the datagrams it sends, in order, and how often it may
send each. On any network, a call that returns has sent its script, and a call that raises has
sent the beginning of it.

Results:
1. `request_follows`: a request is sent at least once, and not more often than it says.
2. `program_script`: every call follows the script of its method.
-/

namespace UhfReader18.Hwvx

open Stateful

variable {σ : Type}

/-! ## Scripts -/

/-- The datagrams among the calls of a network. -/
def datagrams (acts : List Act) : List Datagram :=
  acts.filterMap fun
    | .sent datagram => some datagram
    | _ => none

/-- These commands, each sent once. -/
def HwVxNetworking.once (net : HwVxNetworking) (commands : List Text) : List (Datagram × ℕ) :=
  commands.map fun command => (net.datagram command, 1)

/-- The commands of a pass of a configuration. -/
def passCommands (wire : String → Option Text) : List Text :=
  ['L'] :: ((setOrder.filterMap fun name => (configCommand wire name).toOption) ++ [['E']])

/-- The script of a method: what it sends, and how often at most. `connect` ends up with
`mac`; a fallback uses the socket `sock`. -/
def Operation.script (self : HwVxDevice) (mac : Text) (sock : ℕ) :
    Operation → List (Datagram × ℕ)
  | connect =>
    (if self.mac = [] then self.net.once [['X']] else []) ++
      [(self.net.datagram ('W' :: mac), 3), (self.net.datagram ['L'], 3)]
  | getConfig =>
    settings.map fun row => (self.net.datagram (row.getCommand ++ '|' :: row.getCheck), 5)
  | saveConfig cfg =>
    match cfg.toWire with
    | .error _ => []
    | .ok wire =>
      self.net.once (passCommands (Keyed.dict wire)) ++
        if self.broadcast then []
        else HwVxNetworking.once ⟨sock, (self.broadcastIp.text, udpPort)⟩
          (('W' :: self.mac) :: passCommands (Keyed.dict wire))
  | changeNetwork newIp subnetMask gatewayIp =>
    self.net.once (networkCommands ['X'] newIp subnetMask gatewayIp) ++
      if self.broadcast then []
      else HwVxNetworking.once ⟨sock, (self.broadcastIp.text, udpPort)⟩
        (networkCommands ('W' :: self.mac) newIp subnetMask gatewayIp)
  | setDhcp enabled =>
    self.net.once
      [['L'], "SDH".toList ++ (if enabled then ['1'] else ['0']) ++ "|28".toList, ['E']]
  | reboot => self.net.once [['E']]

/-! ## One socket -/

/-- What is on record of the datagrams. -/
def sentBy (state : σ × List Act) : List Datagram := datagrams state.2

variable {api : UdpApi σ} (net : HwVxNetworking)

theorem datagrams_concat (acts : List Act) (act : Act) :
    datagrams (acts ++ [act]) = datagrams acts ++ datagrams [act] :=
  List.filterMap_append

/-- Calls that send nothing. -/
theorem note_silent {α : Type} {returned raised : Act} (hreturn : datagrams [returned] = [])
    (hraise : datagrams [raised] = []) (call : EStateM PyError σ α) (before : List Datagram) :
    Preserves (sentBy · = before) (note returned raised call) := by
  rintro ⟨s, acts⟩ hacts
  have hsame {act : Act} (hact : datagrams [act] = []) : datagrams (acts ++ [act]) = before := by
    rw [datagrams_concat, hact, List.append_nil]
    exact hacts
  simp only [note]
  cases call s with
  | ok a s' => exact hsame hreturn
  | error e s' => exact hsame hraise

theorem send_follows (command : Text) :
    Follows sentBy (script (net.once [command])) (net.send (noted api) command) := by
  have hword : [net.datagram command] ∈ script (net.once [command]) := by
    rw [HwVxNetworking.once, List.map_singleton, script_cons, script_nil, mul_one]
    exact replicate_mem_upTo (le_refl 1) (le_refl 1)
  rintro ⟨s, acts⟩
  by_cases hascii : isAscii command
  · rw [net.send_of_ascii hascii]
    have hsent : datagrams (acts ++ [.sent (net.datagram command)]) =
        datagrams acts ++ [net.datagram command] := datagrams_concat acts _
    show Recorded sentBy _ (datagrams acts) (note _ _ _ (s, acts))
    simp only [note]
    cases api.sendto net.sock (command.map asciiByte) net.target s with
    | ok u s' => exact ⟨_, hword, hsent⟩
    | error e s' => exact ⟨_, hword, _, List.prefix_refl _, hsent⟩
  · obtain ⟨e, hraise⟩ := net.send_of_not_ascii hascii (noted api) (s, acts)
    rw [hraise]
    exact ⟨_, hword, [], List.nil_prefix, (List.append_nil _).symm⟩

theorem receive_follows : Follows sentBy 1 (net.receive (noted api)) :=
  Follows.of_preserves fun before => receive_preserves fun _ =>
    note_silent rfl rfl _ before

theorem collect_follows (passes : ℕ) :
    Follows sentBy 1 (net.collectSearchResults (noted api) passes) :=
  Follows.of_preserves fun before =>
    collect_preserves (fun _ => note_silent rfl rfl _ before) passes

theorem upTo_step {ι : Type} {a : ι} {n : ℕ} {word : List ι}
    (h : word ∈ script [(a, 1)] * (1 + upTo a n)) : word ∈ upTo a (n + 1) := by
  rw [script_cons, script_nil, mul_one, Language.mem_mul] at h
  obtain ⟨_, ⟨k, hpos, hle, rfl⟩, rest, hrest, rfl⟩ := h
  have hk : k = 1 := Nat.le_antisymm hle hpos
  subst hk
  rcases hrest with hnil | ⟨k, hpos', hle', rfl⟩
  · rw [(Language.mem_one rest).mp hnil]
    exact replicate_mem_upTo (le_refl 1) (Nat.le_add_left 1 n)
  · rw [← List.replicate_add, Nat.add_comm 1 k]
    exact replicate_mem_upTo (Nat.le_add_left 1 k) (Nat.succ_le_succ hle')

/-- A request sends its command until it is answered, and no more often than it says. -/
theorem request_follows (command : Text) (retries : ℕ) :
    Follows sentBy (upTo (net.datagram command) (retries + 1))
      (net.request (noted api) command (retries + 1)) := by
  induction retries with
  | zero =>
    refine Follows.mono ?_ fun word => upTo_step
    refine (send_follows net command).bind fun _ => (receive_follows net).one_bind fun reply => ?_
    split
    · exact (Follows.pure _).mono fun word => Or.inl
    · exact Follows.throw ⟨[], Or.inl Language.nil_mem_one⟩ _
  | succ retries ih =>
    refine Follows.mono ?_ fun word => upTo_step
    refine (send_follows net command).bind fun _ => (receive_follows net).one_bind fun reply => ?_
    split
    · exact (Follows.pure _).mono fun word => Or.inl
    · exact ih.mono fun word => Or.inr

theorem requestSingle_follows (command check : Text) :
    Follows sentBy (upTo (net.datagram (command ++ '|' :: check)) 5)
      (net.requestSingle (noted api) command check) := by
  refine (request_follows net (command ++ '|' :: check) 4).bind_one fun reply => ?_
  split
  · split
    · exact Follows.pure _
    · exact Follows.throw ⟨[], Language.nil_mem_one⟩ _
  · exact Follows.throw ⟨[], Language.nil_mem_one⟩ _

theorem search_follows :
    Follows sentBy (script (net.once [['X']])) (net.search (noted api)) :=
  (send_follows net ['X']).bind_one fun _ => collect_follows net 255

theorem once_cons (command : Text) (commands : List Text) :
    script (net.once (command :: commands)) =
      script (net.once [command]) * script (net.once commands) := by
  rw [← script_append]
  rfl

theorem once_append (commands commands' : List Text) :
    script (net.once (commands ++ commands')) =
      script (net.once commands) * script (net.once commands') := by
  rw [← script_append, HwVxNetworking.once, List.map_append]
  rfl

/-- Commands sent one after another. -/
theorem sends_follow {α : Type} {commands : List Text} {command : Text}
    {next : EStateM PyError (σ × List Act) α}
    (h : Follows sentBy (script (net.once commands)) next) :
    Follows sentBy (script (net.once (command :: commands)))
      (do net.send (noted api) command; next) := by
  rw [once_cons]
  exact (send_follows net command).bind fun _ => h

theorem sendConfigPass_follows (wire : String → Option Text) :
    Follows sentBy (script (net.once (passCommands wire)))
      (HwVxDevice.sendConfigPass (net.send (noted api)) wire) := by
  have hfields : Follows sentBy
      (script (setOrder.flatMap fun name => net.once (configCommand wire name).toOption.toList))
      (forM setOrder fun name => do
        net.send (noted api) (← ofExcept (configCommand wire name))) := by
    refine Follows.forM fun name _ => ?_
    cases configCommand wire name with
    | ok command => exact send_follows net command
    | error e => exact Follows.throw ⟨[], Language.nil_mem_one⟩ e
  have hcommands :
      setOrder.flatMap (fun name => net.once (configCommand wire name).toOption.toList) =
        net.once (setOrder.filterMap fun name => (configCommand wire name).toOption) := by
    rw [HwVxNetworking.once, List.filterMap_eq_flatMap_toList, List.map_flatMap]
    rfl
  rw [hcommands] at hfields
  refine sends_follow net ?_
  rw [once_append]
  exact hfields.bind fun _ => send_follows net ['E']

theorem pushNetwork_follows (opener : Text) (newIp subnetMask gatewayIp : IPv4Address) :
    Follows sentBy (script (net.once (networkCommands opener newIp subnetMask gatewayIp)))
      (HwVxDevice.pushNetwork (noted api) net opener newIp subnetMask gatewayIp) :=
  sends_follow net (sends_follow net ((receive_follows net).one_bind fun _ =>
    sends_follow net (sends_follow net (sends_follow net ((receive_follows net).one_bind fun _ =>
      send_follows net ['E'])))))

/-- Opening a socket sends nothing. -/
theorem init_silent (ipAddress : Text) (before : List Datagram) :
    Triple (sentBy · = before) (HwVxNetworking.init (noted api) ipAddress)
      (fun net s => net.target = (ipAddress, udpPort) ∧ sentBy s = before)
      (fun _ s => sentBy s = before) := by
  have hsocket : Preserves (sentBy · = before) (noted api).socket := by
    rintro ⟨s, acts⟩ hacts
    simp only [noted]
    cases api.socket s with
    | ok sock s' => exact (datagrams_concat acts _).trans ((List.append_nil _).trans hacts)
    | error e s' => exact hacts
  exact Triple.bind hsocket fun sock =>
    Triple.bind (note_silent rfl rfl (api.setsockopt sock) before) fun _ =>
      Triple.bind (note_silent rfl rfl (api.settimeout sock recvTimeout) before) fun _ =>
        Triple.pure fun _ hs => ⟨rfl, hs⟩

/-- A block around another socket sends what its body sends. -/
theorem withOpen_follows {α : Type} {ipAddress : Text}
    {L : HwVxNetworking → Language Datagram}
    {body : HwVxNetworking → EStateM PyError (σ × List Act) α}
    (hbody : ∀ net, Follows sentBy (L net) (body net)) :
    Follows sentBy (⨆ sock, L ⟨sock, (ipAddress, udpPort)⟩)
      (HwVxNetworking.withOpen (noted api) ipAddress body) := by
  have hinit : Follows sentBy 1 (HwVxNetworking.init (noted api) ipAddress) :=
    Follows.of_preserves fun before => (init_silent ipAddress before).post fun _ _ h => h.2
  intro s
  obtain ⟨word, hword⟩ := (hbody ⟨0, (ipAddress, udpPort)⟩ s).exists_mem
  rw [← one_mul (⨆ sock, L ⟨sock, (ipAddress, udpPort)⟩)]
  refine (hinit s).bind (fun net s' hrun => ?_) ⟨word, Language.mem_iSup.mpr ⟨0, hword⟩⟩
  have hnet : net = ⟨net.sock, (ipAddress, udpPort)⟩ := by
    have htarget := ((init_silent ipAddress (sentBy s)).of_ok rfl hrun).1
    rw [← htarget]
  have hclose (before : List Datagram) : Preserves (sentBy · = before) (net.close (noted api)) :=
    note_silent rfl rfl (api.close net.sock) before
  have hblock := Follows.finalize (hbody net) hclose
  refine (hblock s').mono fun word hword => Language.mem_iSup.mpr ⟨net.sock, ?_⟩
  rw [← hnet]
  exact hword

/-! ## Calls -/

section

variable (self : HwVxDevice) (mac : Text)

/-- The words of a script, whatever socket a fallback uses. -/
def Operation.words (operation : Operation) : Language Datagram :=
  ⨆ sock, Stateful.script (operation.script self mac sock)

theorem getConfig_follows :
    Follows sentBy (script (Operation.getConfig.script self mac 0)) (self.getConfig (noted api)) :=
  (Follows.mapM fun row _ =>
    (requestSingle_follows self.net row.getCommand row.getCheck).bind_one fun _ =>
      Follows.pure _).bind_one fun _ => Follows.ofExcept _

/-- A method that does the same again over another socket, unless it broadcasts already. -/
theorem fallback_follows {commands fallback : List Text}
    {program : EStateM PyError (σ × List Act) Unit}
    {body : HwVxNetworking → EStateM PyError (σ × List Act) Unit}
    (hprogram : Follows sentBy (script (self.net.once commands)) program)
    (hbody : ∀ net, Follows sentBy (script (HwVxNetworking.once net fallback)) (body net)) :
    Follows sentBy
      (⨆ sock, script (self.net.once commands ++ if self.broadcast then []
        else HwVxNetworking.once ⟨sock, (self.broadcastIp.text, udpPort)⟩ fallback))
      (do
        program
        if self.broadcast then
          return
        HwVxNetworking.withOpen (noted api) self.broadcastIp.text body) := by
  simp only [script_append, ← Language.mul_iSup]
  refine hprogram.bind fun _ => ?_
  split
  · exact (Follows.pure _).mono fun word hword => Language.mem_iSup.mpr ⟨0, hword⟩
  · exact withOpen_follows hbody

theorem saveConfig_follows (cfg : DeviceConfig) :
    Follows sentBy ((Operation.saveConfig cfg).words self mac)
      (self.saveConfig (noted api) cfg) := by
  rw [Operation.words, HwVxDevice.saveConfig]
  simp only [Operation.script]
  cases cfg.toWire with
  | error e => exact Follows.throw ⟨[], Language.mem_iSup.mpr ⟨0, Language.nil_mem_one⟩⟩ e
  | ok wire =>
    exact fallback_follows self (sendConfigPass_follows self.net _) fun net =>
      sends_follow net (sendConfigPass_follows net _)

theorem changeNetwork_follows (newIp subnetMask gatewayIp : IPv4Address) :
    Follows sentBy ((Operation.changeNetwork newIp subnetMask gatewayIp).words self mac)
      (self.changeNetwork (noted api) newIp subnetMask gatewayIp) :=
  fallback_follows self (pushNetwork_follows self.net _ _ _ _) fun net =>
    pushNetwork_follows net _ _ _ _

theorem setDhcp_follows (enabled : Bool) :
    Follows sentBy ((Operation.setDhcp enabled).words self mac)
      (self.setDhcp (noted api) enabled) :=
  (sends_follow self.net (sends_follow self.net (send_follows self.net ['E']))).mono
    fun _ hword => Language.mem_iSup.mpr ⟨0, hword⟩

/-- What is on record, seen from a device. -/
def sentOn (state : HwVxDevice × σ × List Act) : List Datagram := sentBy state.2

theorem onNet_follows {α : Type} {L : Language Datagram}
    {program : EStateM PyError (σ × List Act) α} (h : Follows sentBy L program) :
    Follows sentOn L (HwVxDevice.onNet program) := by
  rintro ⟨self, s⟩
  have hrun := h s
  cases hend : program s <;> rw [hend] at hrun
  · rw [HwVxDevice.onNet_ok hend]
    exact hrun
  · rw [HwVxDevice.onNet_error hend]
    exact hrun

theorem chooseModule_follows (s : σ × List Act) :
    Recorded sentOn (script (if self.mac = [] then self.net.once [['X']] else [])) (sentBy s)
      (HwVxDevice.chooseModule (noted api) (self, s)) := by
  rw [HwVxDevice.chooseModule, Stateful.get_bind]
  dsimp only
  by_cases hmac : self.mac = []
  · rw [if_neg (not_not_intro hmac), if_pos hmac]
    refine (onNet_follows (search_follows self.net)).bind_one (fun results => ?_) (self, s)
    split
    · exact Follows.throw ⟨[], Language.nil_mem_one⟩ _
    · exact fun state => ⟨[], Language.nil_mem_one, (List.append_nil _).symm⟩
  · rw [if_pos hmac, if_neg hmac]
    have hpure : Follows sentOn 1 (pure { macAddress := self.mac, ipAddress := some self.ip } :
        EStateM PyError (HwVxDevice × σ × List Act) SearchResult) := Follows.pure _
    exact hpure (self, s)

/-- The selection of a module and the login. -/
def selectLogin (api : UdpApi σ) (r : SearchResult) (device : HwVxDevice) :
    EStateM PyError (HwVxDevice × σ × List Act) SearchResult := do
  let _ ← HwVxDevice.onNet (device.net.request (noted api) ('W' :: device.mac) 3)
  let _ ← HwVxDevice.onNet (device.net.request (noted api) ['L'] 3)
  return r

theorem selectLogin_follows (api : UdpApi σ) (r : SearchResult) (device : HwVxDevice) :
    Follows sentOn
      (script [(device.net.datagram ('W' :: device.mac), 3), (device.net.datagram ['L'], 3)])
      (selectLogin api r device) := by
  rw [script_cons, script_cons, script_nil]
  exact (onNet_follows (request_follows device.net _ 2)).bind fun _ =>
    (onNet_follows (request_follows device.net _ 2)).bind fun _ => Follows.pure r

theorem selectLogin_keeps (r : SearchResult) (device : HwVxDevice) (s : σ × List Act) :
    (finalState (selectLogin api r device (device, s))).1 = device := by
  have honNet {α : Type} (program : EStateM PyError (σ × List Act) α) :
      Preserves (fun state : HwVxDevice × σ × List Act => state.1 = device ∧ True)
        (HwVxDevice.onNet program) :=
    HwVxDevice.onNet_preserves (D := fun self => self = device) (preserves_true program)
  have hkeep : Preserves (fun state : HwVxDevice × σ × List Act => state.1 = device ∧ True)
      (selectLogin api r device) :=
    (honNet _).bind fun _ => (honNet _).bind fun _ => Preserves.pure r
  exact (hkeep.finalState (s := (device, s)) ⟨rfl, trivial⟩).1

/-- A connection searches unless it has a MAC, and selects the MAC the device then has. -/
theorem connect_follows (api : UdpApi σ) (s : σ × List Act) :
    Recorded sentOn
      (Operation.connect.words self (finalState (HwVxDevice.connect (noted api) (self, s))).1.mac)
      (sentBy s) (HwVxDevice.connect (noted api) (self, s)) := by
  generalize hmac : (finalState (HwVxDevice.connect (noted api) (self, s))).1.mac = mac
  have hwords : ∀ word ∈ script (if self.mac = [] then self.net.once [['X']] else []) *
      script [(self.net.datagram ('W' :: mac), 3), (self.net.datagram ['L'], 3)],
      word ∈ Operation.connect.words self mac := by
    rw [← script_append]
    exact fun word hword => Language.mem_iSup.mpr ⟨0, hword⟩
  refine Recorded.mono ?_ hwords
  have hnet : Preserves (fun state => state.1.net = self.net ∧ True)
      (HwVxDevice.chooseModule (noted api)) :=
    HwVxDevice.chooseModule_preserves (D := fun device => device.net = self.net)
      (fun _ _ h => h) fun _ _ => preserves_true _
  refine (chooseModule_follows self s).bind (fun r state hchosen => ?_) ?_
  · obtain ⟨device, s'⟩ := state
    have hrun : HwVxDevice.connect (noted api) (self, s) = selectLogin api r device (device, s') :=
      bind_of_ok hchosen _
    obtain ⟨hsame, _⟩ := hnet.of_ok ⟨rfl, trivial⟩ hchosen
    rw [hrun, selectLogin_keeps] at hmac
    subst hmac
    have hrest := selectLogin_follows api r device (device, s')
    rw [hsame] at hrest
    exact hrest
  · obtain ⟨word, hword⟩ := (selectLogin_follows api {} ⟨self.ip, self.broadcast,
      self.broadcastIp, self.net, mac⟩ (self, s)).exists_mem
    exact ⟨word, hword⟩

theorem program_follows (operation : Operation) (s : σ × List Act) :
    Recorded sentOn
      (operation.words self (finalState (operation.program (noted api) (self, s))).1.mac)
      (sentBy s) (operation.program (noted api) (self, s)) := by
  cases operation with
  | connect =>
    have hconnect := connect_follows self api s
    have hprogram : Operation.connect.program (noted api) (self, s) =
        (HwVxDevice.connect (noted api) >>= fun _ => pure ()) (self, s) := rfl
    rw [hprogram]
    cases hrun : HwVxDevice.connect (noted api) (self, s) <;> rw [hrun] at hconnect
    · rw [bind_of_ok hrun]
      exact hconnect
    · rw [bind_of_error hrun]
      exact hconnect
  | getConfig =>
    have : Nonempty DeviceConfig := ⟨Field.default⟩
    exact ((onNet_follows (getConfig_follows self [])).bind_one
      (fun _ => Follows.pure ()) (self, s)).mono fun _ hword => Language.mem_iSup.mpr ⟨0, hword⟩
  | saveConfig cfg => exact onNet_follows (saveConfig_follows self _ cfg) (self, s)
  | changeNetwork newIp subnetMask gatewayIp =>
    exact onNet_follows (changeNetwork_follows self _ newIp subnetMask gatewayIp) (self, s)
  | setDhcp enabled => exact onNet_follows (setDhcp_follows self _ enabled) (self, s)
  | reboot =>
    exact (onNet_follows (send_follows self.net ['E']) (self, s)).mono fun _ hword =>
      Language.mem_iSup.mpr ⟨0, hword⟩

theorem sum_once (net : HwVxNetworking) (commands : List Text) :
    ((net.once commands).map Prod.snd).sum = commands.length := by
  induction commands with
  | nil => rfl
  | cons command commands ih =>
    rw [HwVxNetworking.once, List.map_cons, List.map_cons, List.sum_cons, List.length_cons,
      Nat.add_comm _ 1]
    exact congrArg (1 + ·) ih

theorem length_passCommands_le (wire : String → Option Text) : (passCommands wire).length ≤ 22 := by
  have hfields : (setOrder.filterMap fun name => (configCommand wire name).toOption).length ≤ 20 :=
    List.length_filterMap_le _ _
  rw [passCommands, List.length_cons, List.length_append]
  exact Nat.add_le_add_right (Nat.add_le_add_right hfields 1) 1

/-- No script is longer than the one that asks for every setting five times. -/
theorem sum_script_le (sock : ℕ) (operation : Operation) :
    ((operation.script self mac sock).map Prod.snd).sum ≤ 110 := by
  cases operation with
  | connect =>
    rw [Operation.script, List.map_append, List.sum_append]
    split
    · rw [sum_once]
      exact (by decide : 1 + (3 + (3 + 0)) ≤ 110)
    · exact (by decide : 0 + (3 + (3 + 0)) ≤ 110)
  | getConfig =>
    have hfive : ((settings.map fun _ => 5).sum) ≤ 110 := by decide
    rw [Operation.script, List.map_map]
    exact hfive
  | saveConfig cfg =>
    rw [Operation.script]
    split
    · exact Nat.zero_le 110
    · next wire _ =>
      have hpass := length_passCommands_le (Keyed.dict wire)
      rw [List.map_append, List.sum_append, sum_once]
      split
      · exact (Nat.add_le_add_right hpass 0).trans (by decide)
      · rw [sum_once, List.length_cons]
        exact (Nat.add_le_add hpass (Nat.add_le_add_right hpass 1)).trans (by decide)
  | changeNetwork newIp subnetMask gatewayIp =>
    rw [Operation.script, List.map_append, List.sum_append, sum_once]
    split
    · exact (by decide : 6 + 0 ≤ 110)
    · rw [sum_once]
      exact (by decide : 6 + 6 ≤ 110)
  | setDhcp enabled =>
    rw [Operation.script, sum_once]
    exact (by decide : 3 ≤ 110)
  | reboot =>
    rw [Operation.script, sum_once]
    exact (by decide : 1 ≤ 110)

end

/-- A call of a device, on any network, follows the script of its method: if it returns it has
sent the script, and if it raises it has sent the beginning of it. It never sends more than
110 datagrams. -/
theorem program_script (api : UdpApi σ) (operation : Operation) (self : HwVxDevice) (s : σ)
    (acts : List Act) :
    let result := operation.program (noted api) (self, s, acts)
    ∃ sock sent word, datagrams (finalState result).2.2 = datagrams acts ++ sent ∧
      word ∈ script (operation.script self (finalState result).1.mac sock) ∧ sent <+: word ∧
      (∀ state, result = .ok () state → sent = word) ∧ sent.length ≤ 110 := by
  intro result
  have hresult : Recorded sentOn (operation.words self (finalState result).1.mac) (datagrams acts)
      result := program_follows self operation (s, acts)
  have hshort {sock : ℕ} {word sent : List Datagram}
      (hword : word ∈ script (operation.script self (finalState result).1.mac sock))
      (hsent : sent <+: word) : sent.length ≤ 110 :=
    calc sent.length ≤ word.length := hsent.length_le
      _ ≤ _ := length_le_of_mem_script hword
      _ ≤ 110 := sum_script_le self _ sock operation
  generalize result = ended at hresult hshort ⊢
  cases ended with
  | ok u state =>
    obtain ⟨word, hword, hlog⟩ := hresult
    obtain ⟨sock, hword⟩ := Language.mem_iSup.mp hword
    exact ⟨sock, word, word, hlog, hword, List.prefix_refl word, fun _ _ => rfl,
      hshort hword (List.prefix_refl word)⟩
  | error e state =>
    obtain ⟨word, hword, sent, hsent, hlog⟩ := hresult
    obtain ⟨sock, hword⟩ := Language.mem_iSup.mp hword
    exact ⟨sock, sent, word, hlog, hword, hsent, nofun, hshort hword hsent⟩

end UhfReader18.Hwvx
