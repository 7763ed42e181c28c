import UhfReader18.Hwvx.Scripts

/-!
# Other modules on the network

Several devices configure modules on one network, one call after another. A module that none of
them is for hears what goes to the broadcast address. It obeys that while it is selected, and
a `W` with another MAC ends this. But a fallback sends its `W` once, and waits for no reply.

Results:
1. `Foreign.introduced_script`: what a call sends to the broadcast address begins with its `W`.
2. `Neighbour.Run.of_introduced`: such a call leaves a module alone that is not selected, or that
   gets the `W`.
3. `neighbour_untouched`: so do all calls of devices for other modules, and no others are safe.
-/

namespace UhfReader18.Hwvx

open Stateful

/-! ## A module that hears the others -/

/-- What changes of a module. -/
structure Neighbour where
  selected : Bool
  settings : Bytes → Bytes

section Neighbour

variable (address : Text) (mac : Bytes) (broadcast : Text → Prop)

/-- The datagram goes to the module, or to all. -/
def Hears (d : Datagram) : Prop := d.target.1 = address ∨ broadcast d.target.1

/-- What a datagram may do to the module. It obeys what is addressed to it, and while it is
selected also what is addressed to all, in whatever way. `sure` says that it misses no `W`. -/
inductive Neighbour.Step (sure : Prop) (m : Neighbour) (d : Datagram) : Neighbour → Prop
  | misses (h : sure → Hears address broadcast d → ¬ d.IsSelect) : Step sure m d m
  | select (hhears : Hears address broadcast d) (h : d.IsSelect) :
    Step sure m d { m with selected := d.data.tail = mac }
  | obeys (hhears : Hears address broadcast d) (h : ¬ d.IsSelect)
    (hobeys : d.target.1 = address ∨ m.selected = true) (settings : Bytes → Bytes)
    (selected : Bool) (hselected : selected = true → m.selected = true) :
    Step sure m d ⟨selected, settings⟩

/-- What datagrams one after another may do to the module. -/
inductive Neighbour.Run (sure : Prop) : List Datagram → Neighbour → Neighbour → Prop
  | nil (m : Neighbour) : Run sure [] m m
  | cons {m m' m'' : Neighbour} {d : Datagram} {sent : List Datagram}
    (h : Step address mac broadcast sure m d m') (hrun : Run sure sent m' m'') :
    Run sure (d :: sent) m m''

/-- Not addressed to the module, and no `W` with its MAC. -/
def Harmless (d : Datagram) : Prop :=
  d.target.1 ≠ address ∧ (d.IsSelect → d.data.tail ≠ mac)

/-- What the module hears of these datagrams begins with a `W` for another one. -/
def Introduced : List Datagram → Prop
  | [] => True
  | d :: sent => ¬ Hears address broadcast d ∧ Introduced sent ∨
    (Hears address broadcast d ∧ d.IsSelect ∧ Harmless address mac d) ∧
      ∀ d ∈ sent, Harmless address mac d

variable {address mac broadcast} {sure : Prop} {m m' : Neighbour} {d : Datagram}
variable {sent more : List Datagram}

theorem Neighbour.Run.append_iff {m'' : Neighbour} :
    Neighbour.Run address mac broadcast sure (sent ++ more) m m'' ↔
      ∃ m', Neighbour.Run address mac broadcast sure sent m m' ∧
        Neighbour.Run address mac broadcast sure more m' m'' := by
  induction sent generalizing m with
  | nil =>
    refine ⟨fun h => ⟨m, .nil m, h⟩, ?_⟩
    rintro ⟨_, ⟨⟩, h⟩
    exact h
  | cons d sent ih =>
    constructor
    · rintro (_ | ⟨hstep, hrun⟩)
      obtain ⟨m', hfirst, hrest⟩ := ih.mp hrun
      exact ⟨m', .cons hstep hfirst, hrest⟩
    · rintro ⟨m', _ | ⟨hstep, hfirst⟩, hrest⟩
      exact .cons hstep (ih.mpr ⟨m', hfirst, hrest⟩)

/-- What a module does not hear changes nothing. -/
theorem Neighbour.Step.of_not_hears (h : Neighbour.Step address mac broadcast sure m d m')
    (hnot : ¬ Hears address broadcast d) : m' = m := by
  cases h with
  | misses => rfl
  | select hhears => exact absurd hhears hnot
  | obeys hhears => exact absurd hhears hnot

/-- A module that is not selected stays as it is under what is harmless. -/
theorem Neighbour.Step.of_harmless (h : Neighbour.Step address mac broadcast sure m d m')
    (hharmless : Harmless address mac d) (hselected : m.selected = false) : m' = m := by
  cases h with
  | misses => rfl
  | select hhears hselect =>
    rw [decide_eq_false (hharmless.2 hselect), ← hselected]
  | obeys hhears hselect hobeys =>
    rcases hobeys with haddress | hobeys
    · exact absurd haddress hharmless.1
    · exact absurd (hselected.symm.trans hobeys) Bool.false_ne_true

theorem Neighbour.Run.of_harmless (h : Neighbour.Run address mac broadcast sure sent m m')
    (hharmless : ∀ d ∈ sent, Harmless address mac d) (hselected : m.selected = false) :
    m' = m := by
  induction h with
  | nil => rfl
  | cons hstep _ ih =>
    rw [List.forall_mem_cons] at hharmless
    obtain rfl := hstep.of_harmless hharmless.1 hselected
    exact ih hharmless.2 hselected

/-- Where it gets the `W` for the other one, or is not selected, the settings stay. -/
theorem Neighbour.Run.of_introduced (h : Neighbour.Run address mac broadcast sure sent m m')
    (hintroduced : Introduced address mac broadcast sent) (hguard : m.selected = false ∨ sure) :
    m'.settings = m.settings ∧ (m'.selected = false ∨ sure) := by
  induction h with
  | nil m => exact ⟨rfl, hguard⟩
  | cons hstep hrun ih =>
    rcases hintroduced with ⟨hnot, hrest⟩ | ⟨⟨hhears, hselect, hharmless⟩, hrest⟩
    · obtain rfl := hstep.of_not_hears hnot
      exact ih hrest hguard
    · -- the `W` ends a selection, if it arrives
      cases hstep with
      | misses hmisses =>
        have hselected := hguard.resolve_right fun hsure => hmisses hsure hhears hselect
        obtain rfl := hrun.of_harmless hrest hselected
        exact ⟨rfl, Or.inl hselected⟩
      | select =>
        have hother := hharmless.2 hselect
        obtain rfl := hrun.of_harmless hrest (decide_eq_false hother)
        exact ⟨rfl, Or.inl (decide_eq_false hother)⟩
      | obeys _ hnot => exact absurd hselect hnot

/-- A module that may miss everything may be left as it is. -/
theorem Neighbour.Run.missed (sent : List Datagram) (m : Neighbour) :
    Neighbour.Run address mac broadcast False sent m m := by
  induction sent with
  | nil => exact .nil m
  | cons d sent ih => exact .cons (.misses False.elim) ih

/-- A module that may miss a `W` is only safe from calls that send it nothing else. -/
theorem Neighbour.untouched_iff :
    (∀ m m' : Neighbour, Neighbour.Run address mac broadcast False sent m m' →
      m'.settings = m.settings) ↔ ∀ d ∈ sent, Hears address broadcast d → d.IsSelect := by
  constructor
  · intro h d hd hhears
    by_contra hselect
    obtain ⟨before, after, rfl⟩ := List.append_of_mem hd
    -- selected before, it misses every `W` and obeys this command
    have hobeys : Neighbour.Step address mac broadcast False ⟨true, fun _ => []⟩ d
        ⟨true, fun _ => [0]⟩ := .obeys hhears hselect (Or.inr rfl) _ true id
    have hrun := h ⟨true, fun _ => []⟩ ⟨true, fun _ => [0]⟩ <| Neighbour.Run.append_iff.mpr
      ⟨_, .missed before _, .cons hobeys (.missed after _)⟩
    cases congrFun hrun []
  · intro h m m' hrun
    induction hrun with
    | nil => rfl
    | cons hstep _ ih =>
      rw [List.forall_mem_cons] at h
      refine (ih h.2).trans ?_
      cases hstep with
      | misses => rfl
      | select => rfl
      | obeys hhears hselect => exact absurd (h.1 hhears) hselect

theorem introduced_of_not_hears (h : ∀ d ∈ sent, ¬ Hears address broadcast d)
    (hmore : Introduced address mac broadcast more) :
    Introduced address mac broadcast (sent ++ more) := by
  induction sent with
  | nil => exact hmore
  | cons d sent ih =>
    rw [List.forall_mem_cons] at h
    exact Or.inl ⟨h.1, ih h.2⟩

theorem Introduced.of_beginning (h : Introduced address mac broadcast more)
    (hstart : sent <+: more) :
    Introduced address mac broadcast sent := by
  induction more generalizing sent with
  | nil =>
    rw [List.prefix_nil.mp hstart]
    trivial
  | cons d more ih =>
    cases sent with
    | nil => trivial
    | cons d' sent =>
      obtain ⟨rfl, hrest⟩ := List.cons_prefix_cons.mp hstart
      rcases h with ⟨hnot, h⟩ | ⟨hselect, h⟩
      · exact Or.inl ⟨hnot, ih h hrest⟩
      · exact Or.inr ⟨hselect, fun d hd => h d (hrest.subset hd)⟩

end Neighbour

/-! ## Devices for other modules -/

section Devices

/-- The device is for another module: it has that module's MAC, and sends to its address. -/
structure Foreign (address : Text) (mac : Bytes) (broadcast : Text → Prop) (device : HwVxDevice) :
    Prop where
  unicast : device.broadcast = false
  own : device.net.target.1 ≠ address ∧ ¬ broadcast device.net.target.1
  fallback : device.broadcastIp.text ≠ address
  known : device.mac ≠ []
  other : device.mac.map asciiByte ≠ mac

variable {address : Text} {mac : Bytes} {broadcast : Text → Prop} {self : HwVxDevice}
variable {word : List Datagram}

/-- What goes to the address of the device is not heard. -/
theorem Foreign.introduced_own (h : Foreign address mac broadcast self)
    {items : List (Datagram × ℕ)} (hitems : ∀ item ∈ items, item.1.target = self.net.target)
    (hword : word ∈ script items) : Introduced address mac broadcast word := by
  rw [← List.append_nil word]
  refine introduced_of_not_hears (fun d hd hhears => ?_) trivial
  obtain ⟨item, hitem, rfl⟩ := exists_of_mem_script hword hd
  rw [Hears, hitems item hitem] at hhears
  exact hhears.elim h.own.1 h.own.2

theorem target_of_mem_once {net : HwVxNetworking} {commands : List Text} {item : Datagram × ℕ}
    (h : item ∈ net.once commands) : item.1.target = net.target := by
  obtain ⟨command, _, rfl⟩ := List.mem_map.mp h
  rfl

theorem not_isSelect_of_mem_once {net : HwVxNetworking} {commands : List Text}
    (hcommands : ∀ command ∈ commands, ¬ (net.datagram command).IsSelect) {item : Datagram × ℕ}
    (h : item ∈ net.once commands) : ¬ item.1.IsSelect := by
  obtain ⟨command, hcommand, rfl⟩ := List.mem_map.mp h
  exact hcommands command hcommand

/-- A fallback begins with a `W`. -/
theorem Foreign.introduced_fallback (h : Foreign address mac broadcast self) {sock : ℕ}
    {commands : List Text}
    (hcommands : ∀ net : HwVxNetworking, ∀ command ∈ commands, ¬ (net.datagram command).IsSelect)
    (hword : word ∈ script (HwVxNetworking.once ⟨sock, (self.broadcastIp.text, udpPort)⟩
      (('W' :: self.mac) :: commands))) : Introduced address mac broadcast word := by
  let net : HwVxNetworking := ⟨sock, (self.broadcastIp.text, udpPort)⟩
  have htarget : ∀ d ∈ word, d.target = net.target := by
    intro d hd
    obtain ⟨item, hitem, rfl⟩ := exists_of_mem_script hword hd
    exact target_of_mem_once hitem
  by_cases hbroadcast : broadcast self.broadcastIp.text
  · rw [once_cons, Language.mem_mul] at hword
    obtain ⟨first, hfirst, rest, hrest, rfl⟩ := hword
    have hsingle : first = [net.datagram ('W' :: self.mac)] := by
      rw [HwVxNetworking.once, List.map_singleton, script_cons, script_nil, mul_one] at hfirst
      obtain ⟨k, hpos, hle, rfl⟩ := hfirst
      rw [Nat.le_antisymm hle hpos]
      rfl
    subst hsingle
    refine Or.inr ⟨⟨Or.inr hbroadcast, isSelect_iff.mpr h.known, h.fallback, fun _ => h.other⟩,
      fun d hd => ⟨?_, fun hselect => ?_⟩⟩
    · rw [htarget d (List.mem_append_right _ hd)]
      exact h.fallback
    · obtain ⟨item, hitem, rfl⟩ := exists_of_mem_script hrest hd
      exact absurd hselect (not_isSelect_of_mem_once (hcommands net) hitem)
  · rw [← List.append_nil word]
    refine introduced_of_not_hears (fun d hd hhears => ?_) trivial
    rw [Hears, htarget d hd] at hhears
    exact hhears.elim h.fallback hbroadcast

/-- The commands of a pass, and those of a change after its first, select nothing. -/
theorem not_isSelect_of_mem_pass {wire : String → Option Text} (net : HwVxNetworking)
    {command : Text} (h : command ∈ passCommands wire) : ¬ (net.datagram command).IsSelect := by
  rw [passCommands, List.mem_cons, List.mem_append, List.mem_filterMap, List.mem_singleton] at h
  rcases h with rfl | ⟨name, _, hname⟩ | rfl
  · exact not_isSelect_of_kind (by decide) []
  · cases hcommand : configCommand wire name with
    | error e =>
      rw [hcommand] at hname
      cases hname
    | ok text =>
      rw [hcommand] at hname
      cases hname
      obtain ⟨rest, rfl⟩ := configCommand_head hcommand
      exact not_isSelect_of_kind (by decide) rest
  · exact not_isSelect_of_kind (by decide) []

theorem not_isSelect_of_mem_network (net : HwVxNetworking)
    (newIp subnetMask gatewayIp : IPv4Address) {command : Text}
    (h : command ∈ (networkCommands [] newIp subnetMask gatewayIp).tail) :
    ¬ (net.datagram command).IsSelect := by
  have hkinds : command.head? = some 'L' ∨ command.head? = some 'S' ∨ command.head? = some 'E' := by
    revert command
    simp [networkCommands]
  obtain ⟨kind, rest, rfl⟩ : ∃ kind rest, command = kind :: rest := by
    cases command with
    | nil => simp at hkinds
    | cons kind rest => exact ⟨kind, rest, rfl⟩
  refine not_isSelect_of_kind ?_ rest
  rcases hkinds with hkind | hkind | hkind <;> cases hkind <;> decide

/-- What the script of a method sends to the broadcast address begins with the `W`. -/
theorem Foreign.introduced_script (h : Foreign address mac broadcast self) (operation : Operation)
    {sock : ℕ} (hword : word ∈ script (operation.script self self.mac sock)) :
    Introduced address mac broadcast word := by
  have hboth {commands fallback : List Text}
      (hfallback : ∀ net : HwVxNetworking, ∀ command ∈ fallback,
        ¬ (net.datagram command).IsSelect)
      (hword : word ∈ script (self.net.once commands ++ if self.broadcast then []
        else HwVxNetworking.once ⟨sock, (self.broadcastIp.text, udpPort)⟩
          (('W' :: self.mac) :: fallback))) : Introduced address mac broadcast word := by
    rw [h.unicast, script_append, Language.mem_mul] at hword
    obtain ⟨first, hfirst, rest, hrest, rfl⟩ := hword
    refine introduced_of_not_hears (fun d hd hhears => ?_) (h.introduced_fallback hfallback hrest)
    obtain ⟨item, hitem, rfl⟩ := exists_of_mem_script hfirst hd
    rw [Hears, target_of_mem_once hitem] at hhears
    exact hhears.elim h.own.1 h.own.2
  cases operation with
  | connect =>
    refine h.introduced_own (fun item hitem => ?_) hword
    rw [Operation.script, if_neg h.known] at hitem
    rcases hitem with _ | ⟨_, _ | ⟨_, ⟨⟩⟩⟩ <;> rfl
  | getConfig =>
    refine h.introduced_own (fun item hitem => ?_) hword
    obtain ⟨row, _, rfl⟩ := List.mem_map.mp hitem
    rfl
  | saveConfig cfg =>
    rw [Operation.script] at hword
    split at hword
    · rw [(Language.mem_one word).mp hword]
      trivial
    · exact hboth (fun net command => not_isSelect_of_mem_pass net) hword
  | changeNetwork newIp subnetMask gatewayIp =>
    exact hboth (fun net command => not_isSelect_of_mem_network net newIp subnetMask gatewayIp)
      hword
  | setDhcp enabled => exact h.introduced_own (fun item => target_of_mem_once) hword
  | reboot => exact h.introduced_own (fun item => target_of_mem_once) hword

/-! ## Calls of several devices -/

section Calls

variable {σ : Type} (api : UdpApi σ)

/-- A device with a MAC keeps all it has. -/
theorem connect_keeps (hknown : self.mac ≠ []) (s : σ × List Act) :
    (finalState (HwVxDevice.connect (noted api) (self, s))).1 = self := by
  let r : SearchResult := { macAddress := self.mac, ipAddress := some self.ip }
  have hchosen : HwVxDevice.chooseModule (noted api) (self, s) = .ok r (self, s) := by
    rw [HwVxDevice.chooseModule, Stateful.get_bind]
    dsimp only
    rw [if_pos hknown]
    rfl
  have hrun : HwVxDevice.connect (noted api) (self, s) = selectLogin api r self (self, s) :=
    bind_of_ok hchosen _
  rw [hrun, selectLogin_keeps]

theorem finalState_discard {τ α : Type} (program : EStateM PyError τ α) (s : τ) :
    finalState ((discard program : EStateM PyError τ Unit) s) = finalState (program s) := by
  have hdiscard : (discard program : EStateM PyError τ Unit) s =
      (program >>= fun _ => pure ()) s := rfl
  rw [hdiscard]
  cases hrun : program s with
  | ok a s' =>
    rw [bind_of_ok hrun]
    rfl
  | error e s' =>
    rw [bind_of_error hrun]
    rfl

theorem program_keeps (hknown : self.mac ≠ []) (operation : Operation) (s : σ × List Act) :
    (finalState (operation.program (noted api) (self, s))).1 = self := by
  have honNet {α : Type} (program : EStateM PyError (σ × List Act) α) :
      (finalState (HwVxDevice.onNet program (self, s))).1 = self :=
    congrArg Prod.fst (HwVxDevice.finalState_onNet program s)
  cases operation with
  | connect => exact (congrArg Prod.fst (finalState_discard _ _)).trans (connect_keeps api hknown s)
  | getConfig => exact (congrArg Prod.fst (finalState_discard _ _)).trans (honNet _)
  | saveConfig cfg => exact honNet _
  | changeNetwork newIp subnetMask gatewayIp => exact honNet _
  | setDhcp enabled => exact honNet _
  | reboot => exact honNet _

/-- Calls of several devices on one network, one after another, whether they return or raise. -/
def performCalls {ι : Type} [DecidableEq ι] (calls : List (ι × Operation))
    (start : (ι → HwVxDevice) × σ × List Act) : (ι → HwVxDevice) × σ × List Act :=
  calls.foldl (fun state call =>
    let (device, s) := finalState (call.2.program (noted api) (state.1 call.1, state.2))
    (Function.update state.1 call.1 device, s)) start

/-- One call of a device for another module. -/
theorem Foreign.program (h : Foreign address mac broadcast self) (operation : Operation) (s : σ)
    (acts : List Act) :
    ∃ sent s', finalState (operation.program (noted api) (self, s, acts)) = (self, s') ∧
      datagrams s'.2 = datagrams acts ++ sent ∧ Introduced address mac broadcast sent := by
  have hkeeps := program_keeps api h.known operation (s, acts)
  have hfollows : Recorded sentOn
      (operation.words self (finalState (operation.program (noted api) (self, s, acts))).1.mac)
      (datagrams acts) (operation.program (noted api) (self, s, acts)) :=
    program_follows self operation (s, acts)
  rw [hkeeps] at hfollows
  obtain ⟨word, hword, sent, hstart, hdatagrams⟩ := hfollows.exists_beginning
  obtain ⟨sock, hword⟩ := Language.mem_iSup.mp hword
  exact ⟨sent, _, Prod.ext hkeeps rfl, hdatagrams,
    (h.introduced_script operation hword).of_beginning hstart⟩

/-- Calls of devices for other modules: after each of them the settings are as they were, and a
selection has been ended or was none. -/
theorem performCalls_untouched {ι : Type} [DecidableEq ι] {devices : ι → HwVxDevice}
    (hforeign : ∀ i, Foreign address mac broadcast (devices i)) (calls : List (ι × Operation))
    (s : σ) (acts : List Act) :
    ∃ sent, datagrams (performCalls api calls (devices, s, acts)).2.2 = datagrams acts ++ sent ∧
      ∀ sure : Prop, ∀ m m' : Neighbour, (m.selected = false ∨ sure) →
        Neighbour.Run address mac broadcast sure sent m m' → m'.settings = m.settings := by
  induction calls generalizing s acts with
  | nil =>
    refine ⟨[], (List.append_nil _).symm, fun sure m m' _ hrun => ?_⟩
    cases hrun
    rfl
  | cons call calls ih =>
    obtain ⟨first, ⟨s', acts'⟩, hfinal, hfirst, hintroduced⟩ :=
      (hforeign call.1).program api call.2 s acts
    obtain ⟨rest, hrest, hsettings⟩ := ih s' acts'
    have hcall : performCalls api (call :: calls) (devices, s, acts) =
        performCalls api calls (devices, s', acts') := by
      rw [performCalls, List.foldl_cons]
      dsimp only
      rw [hfinal, Function.update_eq_self]
      rfl
    refine ⟨first ++ rest, ?_, fun sure m m' hguard hrun => ?_⟩
    · rw [hcall, hrest, hfirst, List.append_assoc]
    · obtain ⟨between, hbefore, hafter⟩ := Neighbour.Run.append_iff.mp hrun
      obtain ⟨hsame, hguard'⟩ := hbefore.of_introduced hintroduced hguard
      exact (hsettings sure between m' hguard' hafter).trans hsame

end Calls

end Devices

/-- Several devices on one network, none of them for this module, are called one after another,
in any order, on any network and whatever the modules reply. What they send changes none of its
settings, if it is not selected to begin with or gets every `W` that goes to all; and this in
whatever way it obeys the commands it is selected for. Selected, and with a `W` that may get
lost, it is safe only from calls that send nothing else to all. -/
theorem neighbour_untouched {σ ι : Type} [DecidableEq ι] (api : UdpApi σ) {address : Text}
    {mac : Bytes} {broadcast : Text → Prop} {devices : ι → HwVxDevice}
    (hforeign : ∀ i, Foreign address mac broadcast (devices i)) (calls : List (ι × Operation))
    (s : σ) :
    let sent := datagrams (performCalls api calls (devices, s, [])).2.2
    (∀ sure : Prop, ∀ m m' : Neighbour, (m.selected = false ∨ sure) →
      Neighbour.Run address mac broadcast sure sent m m' → m'.settings = m.settings) ∧
    ((∀ m m' : Neighbour, Neighbour.Run address mac broadcast False sent m m' →
      m'.settings = m.settings) ↔ ∀ d ∈ sent, Hears address broadcast d → d.IsSelect) := by
  intro sent
  obtain ⟨sent', hsent, hsettings⟩ := performCalls_untouched api hforeign calls s []
  have hsame : sent = sent' := hsent
  rw [hsame]
  exact ⟨hsettings, Neighbour.untouched_iff⟩

/-- Two modules get new addresses. A third one is left alone, unless it has been selected before
and misses the `W` of one of the fallbacks. -/
theorem neighbour_untouched_two :
    let device : Bool → HwVxDevice := fun second =>
      { ip := ⟨10, 0, 0, if second then 2 else 1⟩
        broadcast := false
        broadcastIp := HwVxDevice.lanBroadcast
        net := ⟨if second then 1 else 0, ((⟨10, 0, 0, if second then 2 else 1⟩ : IPv4Address).text,
          udpPort)⟩
        mac := if second then ['0', 'B'] else ['0', 'A'] }
    let address := (⟨10, 0, 0, 3⟩ : IPv4Address).text
    let mac := ['0', 'C'].map asciiByte
    let broadcast := fun target => target = HwVxDevice.lanBroadcast.text
    let change : Operation := .changeNetwork ⟨10, 0, 0, 9⟩ ⟨255, 0, 0, 0⟩ ⟨10, 0, 0, 1⟩
    let sent := datagrams
      (performCalls tapApi [(false, change), (true, change)] (device, ⟨[], [], 2⟩, [])).2.2
    (∀ m m' : Neighbour, m.selected = false →
      Neighbour.Run address mac broadcast False sent m m' → m'.settings = m.settings) ∧
    ¬ ∀ m m' : Neighbour, Neighbour.Run address mac broadcast False sent m m' →
      m'.settings = m.settings := by
  intro device address mac broadcast change sent
  have hforeign : ∀ second, Foreign address mac broadcast (device second) := by
    rintro (_ | _) <;> exact ⟨rfl, by decide, by decide, by decide, by decide⟩
  obtain ⟨huntouched, hexact⟩ := neighbour_untouched tapApi hforeign
    [(false, change), (true, change)] ⟨[], [], 2⟩
  refine ⟨fun m m' hselected => huntouched False m m' (Or.inl hselected), fun hall => ?_⟩
  -- the new address in a fallback, which the module takes if it has missed the `W` before
  let write : Datagram :=
    ⟨2, (HwVxDevice.lanBroadcast.text, udpPort), "SIP10.0.0.9|25".toList.map asciiByte⟩
  have hwrite : write ∈ sent := by decide +kernel
  exact absurd (hexact.mp hall write hwrite (Or.inr rfl)).1 (by decide)

end UhfReader18.Hwvx
