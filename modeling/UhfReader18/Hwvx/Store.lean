import UhfReader18.Hwvx.SavedConfig

/-!
# What a module keeps over whole runs

Calls of a device, one after another, whether they return or raise, over a network that loses
datagrams and against a module that may reply as it likes. Of the datagrams of a call some
arrive, and what arrives is stored, so the configuration of the module is the one it had with
some of the writes of the calls, in their order.

Results:
1. `Operation.program_within`: what one call may store.
2. `stored_run`: after any run a reading gives the configuration the module had, with some of
   the writes.
3. `stored_run_last`: where every write of every call arrives at least once, the reading gives
   the last values written.
-/

namespace UhfReader18.Hwvx

open Stateful

variable {other : Bytes → List Bytes}

/-! ## What a call is meant to write -/

/-- The field of a name. -/
def Field.named? (name : String) : Option Field := Field.all.find? (·.name = name)

/-- The fields of `_SET_ORDER`. -/
def writtenFields : List Field := setOrder.filterMap Field.named?

/-- What a call writes, in order. A configuration that is not accepted is not written. -/
def Operation.fields : Operation → List (Field × Value)
  | saveConfig cfg =>
    match cfg.toWire with
    | .ok _ => writtenFields.map fun f => (f, cfg f)
    | .error _ => []
  | changeNetwork newIp subnetMask gatewayIp =>
    [(.gatewayIp, .ip gatewayIp), (.subnetMask, .ip subnetMask), (.ipAddress, .ip newIp)]
  | setDhcp enabled => [(.dhcp, dhcpValue enabled)]
  | connect => []
  | getConfig => []
  | reboot => []

/-- A configuration after a call. -/
def Operation.apply (operation : Operation) (cfg : DeviceConfig) : DeviceConfig :=
  Keyed.writes operation.fields cfg

/-- The code of the setting that holds a field. -/
def Field.code (f : Field) : Bytes := asciiBytes (((byField f.name).map Setting.code).getD [])

/-- A value of a field, as the module stores it. -/
def stored (item : Field × Value) : Bytes × Bytes :=
  (item.1.code, asciiBytes ((dump item.2).toOption.getD []))

theorem code_eq {row : Setting} (hrow : row ∈ settings) {f : Field} (hname : row.name = f.name) :
    f.code = asciiBytes row.code := by
  rw [Field.code, ← hname, byField_name hrow]
  rfl

theorem stored_eq {row : Setting} (hrow : row ∈ settings) {f : Field} (hname : row.name = f.name)
    {v : Value} {text : Text} (hdump : dump v = .ok text) :
    stored (f, v) = (asciiBytes row.code, asciiBytes text) := by
  rw [stored, code_eq hrow hname, hdump]
  rfl

/-! ## What may be stored -/

/-- What was delivered in between was stored, and it is some of these items, in order. -/
def Stored (items : List (Bytes × Bytes)) (lan lan' : Lan) : Prop :=
  ∃ arrived, lan'.delivered = lan.delivered ++ arrived ∧
    lan'.settings = Keyed.writes (arrived.filterMap written) lan.settings ∧
    (arrived.filterMap written).Sublist items

theorem graded_stored : Graded Stored where
  refl _ := ⟨[], (List.append_nil _).symm, rfl, List.Sublist.refl _⟩
  trans := by
    rintro items items' lan lan' lan'' ⟨arrived, hdelivered, hsettings, hitems⟩
      ⟨arrived', hdelivered', hsettings', hitems'⟩
    refine ⟨arrived ++ arrived', ?_, ?_, ?_⟩
    · rw [hdelivered', hdelivered, List.append_assoc]
    · rw [hsettings', hsettings, List.filterMap_append, Keyed.writes_append]
    · rw [List.filterMap_append]
      exact hitems.append hitems'
  mono := fun hitems ⟨arrived, hdelivered, hsettings, h⟩ =>
    ⟨arrived, hdelivered, hsettings, h.trans hitems⟩

theorem stored_deliver (sock : ℕ) (datagram : Bytes) (lan : Lan) :
    Stored (written datagram).toList lan (lan.deliver other sock datagram) := by
  have hone : [datagram].filterMap written = (written datagram).toList := by
    cases hwritten : written datagram <;> simp [hwritten]
  exact ⟨[datagram], rfl, by rw [hone]; rfl, hone ▸ List.Sublist.refl _⟩

theorem stored_transmit (sock : ℕ) (datagram : Bytes) (lan : Lan) :
    Stored (written datagram).toList lan (lan.transmit other sock datagram) := by
  unfold Lan.transmit
  split
  · exact stored_deliver sock datagram lan
  · next arrives fates _ =>
    cases arrives
    · exact graded_stored.mono (List.nil_sublist _) (graded_stored.refl lan)
    · exact stored_deliver sock datagram { lan with fates := fates }

/-! ## Datagrams -/

section

variable (net : HwVxNetworking)

theorem send_within (command : Text) :
    Within Stored (written (asciiBytes command)).toList (net.send (lanApi other) command) := by
  intro lan
  by_cases hascii : isAscii command
  · rw [net.send_of_ascii hascii]
    exact stored_transmit net.sock _ lan
  · obtain ⟨e, hraise⟩ := net.send_of_not_ascii hascii (lanApi other) lan
    rw [hraise]
    exact graded_stored.mono (List.nil_sublist _) (graded_stored.refl lan)

/-- A command of another kind than `S` stores nothing. -/
theorem send_within_nil {kind : Char} (hkind : asciiByte kind ≠ asciiByte 'S') (text : Text) :
    Within Stored [] (net.send (lanApi other) (kind :: text)) := by
  have hnone : written (asciiBytes (kind :: text)) = none := by
    unfold written
    split
    · next heq => exact if_neg fun h => hkind ((List.head_eq_of_cons_eq heq).trans h.1)
    · rfl
  have hsend : Within Stored _ (net.send (lanApi other) (kind :: text)) := send_within net _
  rw [hnone] at hsend
  exact hsend

theorem recvfrom_within (sock size : ℕ) : Within Stored [] ((lanApi other).recvfrom sock size) := by
  intro lan
  simp only [lanApi]
  split <;> exact ⟨[], (List.append_nil _).symm, rfl, List.Sublist.refl _⟩

/-- What a receive leaves behind is what the socket left behind. -/
theorem finalState_receive {σ : Type} (api : UdpApi σ) (s : σ) :
    finalState (net.receive api s) = finalState (api.recvfrom net.sock recvBuffer s) := by
  cases hrun : api.recvfrom net.sock recvBuffer s with
  | ok arrival s' =>
    rw [net.receive_of_data hrun]
    cases decodeAscii arrival.1 <;> rfl
  | error e s' =>
    by_cases hkind : e.kind = .timeoutError
    · rw [net.receive_of_timeout hrun hkind]
      rfl
    · rw [net.receive_of_error hrun hkind]
      rfl

theorem receive_within : Within Stored [] (net.receive (lanApi other)) := by
  intro lan
  rw [finalState_receive]
  exact recvfrom_within net.sock recvBuffer lan

theorem request_within {kind : Char} (hkind : asciiByte kind ≠ asciiByte 'S') (text : Text)
    (retries : ℕ) : Within Stored [] (net.request (lanApi other) (kind :: text) retries) := by
  induction retries with
  | zero => exact Within.throw graded_stored _
  | succ retries ih =>
    refine Within.nil_bind graded_stored (send_within_nil net hkind text) fun _ => ?_
    refine Within.nil_bind graded_stored (receive_within net) fun reply => ?_
    split
    · exact Within.pure graded_stored _
    · exact ih

theorem collect_within (passes : ℕ) :
    Within Stored [] (net.collectSearchResults (lanApi other) passes) := by
  induction passes with
  | zero => exact Within.pure graded_stored _
  | succ passes ih =>
    refine Within.nil_bind graded_stored ?_ fun arrival => ?_
    · intro lan
      have hread : Within Stored [] ((lanApi other).recvfrom net.sock recvBuffer) :=
        recvfrom_within net.sock recvBuffer
      specialize hread lan
      simp only [bind, EStateM.bind, tryCatch, tryCatchThe, MonadExceptOf.tryCatch,
        EStateM.tryCatch]
      cases hrun : (lanApi other).recvfrom net.sock recvBuffer lan with
      | ok datagram lan' =>
        rw [hrun] at hread
        exact hread
      | error e lan' =>
        rw [hrun] at hread
        dsimp only
        split <;> exact hread
    · split
      · exact Within.pure graded_stored _
      · refine Within.ofExcept_bind graded_stored fun reply _ => ?_
        split
        · refine Within.ofExcept_bind graded_stored fun address _ => ?_
          exact Within.nil_bind graded_stored ih fun _ => Within.pure graded_stored _
        · exact Within.pure graded_stored _

theorem search_within : Within Stored [] (net.search (lanApi other)) :=
  Within.nil_bind graded_stored (send_within_nil net (by decide) []) fun _ =>
    collect_within net 255

theorem requestSingle_within {kind : Char} (hkind : asciiByte kind ≠ asciiByte 'S')
    (text check : Text) :
    Within Stored [] (net.requestSingle (lanApi other) (kind :: text) check) := by
  refine Within.nil_bind graded_stored (request_within net hkind _ 5) fun reply => ?_
  split
  · split
    · exact Within.pure graded_stored _
    · exact Within.throw graded_stored _
  · exact Within.throw graded_stored _

/-- Opening and closing a socket store nothing. -/
theorem withOpen_within {α : Type} {ipAddress : Text} {items : List (Bytes × Bytes)}
    {body : HwVxNetworking → EStateM PyError Lan α}
    (h : ∀ net, Within Stored items (body net)) :
    Within Stored items (HwVxNetworking.withOpen (lanApi other) ipAddress body) := by
  refine Within.nil_bind graded_stored ?_ fun net =>
    Within.finalize graded_stored (h net) graded_stored.refl
  refine Within.nil_bind graded_stored ?_ fun _ => Within.pure graded_stored _
  exact fun lan => ⟨[], (List.append_nil _).symm, rfl, List.Sublist.refl _⟩

end

/-! ## Calls -/

section

variable (self : HwVxDevice)

theorem getConfig_within : Within Stored [] (self.getConfig (lanApi other)) := by
  refine Within.nil_bind graded_stored (Within.mapM graded_stored fun row _ => ?_) fun raw =>
    Within.ofExcept graded_stored _
  exact Within.nil_bind graded_stored (requestSingle_within self.net (by decide) _ _) fun _ =>
    Within.pure graded_stored _

theorem named?_name (f : Field) : Field.named? f.name = some f := by
  have hall : ∀ f ∈ Field.all, Field.named? f.name = some f := by decide
  exact hall f f.mem_all

/-- What a pass writes is the written fields of the configuration. -/
theorem flatMap_setOrder (cfg : DeviceConfig) :
    setOrder.flatMap (fun name => ((Field.named? name).map fun f => stored (f, cfg f)).toList) =
      (writtenFields.map fun f => (f, cfg f)).map stored := by
  rw [writtenFields, List.map_map, List.map_filterMap, List.filterMap_eq_flatMap_toList]
  rfl

variable {cfg : DeviceConfig}

/-- A pass of a configuration may store its fields, in order. -/
theorem sendConfigPass_within {wire : List (String × Text)}
    (hexact : ∀ f, (cfg f).isExact f.kind) (hwire : cfg.toWire = .ok wire)
    (net : HwVxNetworking) :
    Within Stored ((writtenFields.map fun f => (f, cfg f)).map stored)
      (HwVxDevice.sendConfigPass (net.send (lanApi other)) (Keyed.dict wire)) := by
  rw [← flatMap_setOrder]
  refine Within.nil_bind graded_stored (send_within_nil net (by decide) []) fun _ => ?_
  refine Within.bind_nil graded_stored (Within.forM graded_stored fun name hname => ?_) fun _ =>
    send_within_nil net (by decide) []
  obtain ⟨f, row, hrow, text, rfl, hrowname, hdump, hascii, hbar, hcommand⟩ :=
    exists_configCommand hexact hwire hname
  have hwritten := written_setCommand hrow hascii hbar
  rw [named?_name, hcommand]
  show Within Stored [stored (f, cfg f)] (net.send (lanApi other) (row.setCommand text))
  rw [stored_eq hrow hrowname hdump]
  have hsend : Within Stored _ (net.send (lanApi other) (row.setCommand text)) :=
    send_within net _
  rw [hwritten] at hsend
  exact hsend

theorem saveConfig_within (hexact : ∀ f, (cfg f).isExact f.kind) :
    Within Stored (((Operation.saveConfig cfg).fields ++ (Operation.saveConfig cfg).fields).map
      stored) (self.saveConfig (lanApi other) cfg) := by
  refine Within.ofExcept_bind graded_stored fun wire hwire => ?_
  have hfields : (Operation.saveConfig cfg).fields = writtenFields.map fun f => (f, cfg f) := by
    rw [Operation.fields, hwire]
  rw [hfields, List.map_append]
  refine Within.bind graded_stored (sendConfigPass_within hexact hwire self.net) fun _ => ?_
  split
  · exact Within.mono graded_stored (Within.pure graded_stored _) (List.nil_sublist _)
  · exact withOpen_within fun net =>
      Within.nil_bind graded_stored (send_within_nil net (by decide) self.mac) fun _ =>
        sendConfigPass_within hexact hwire net

theorem address_plain (address : IPv4Address) : isAscii address.text ∧ '|' ∉ address.text :=
  dump_plain (show (Value.ip address).isExact .ipv4Address from rfl) rfl nofun

/-- The command that writes an address. -/
theorem send_address_within (net : HwVxNetworking) {row : Setting} (hrow : row ∈ settings)
    {f : Field} (hname : row.name = f.name) (address : IPv4Address) :
    Within Stored [stored (f, .ip address)]
      (net.send (lanApi other) (row.setCommand address.text)) := by
  have hsend : Within Stored _ (net.send (lanApi other) (row.setCommand address.text)) :=
    send_within net _
  have hplain := address_plain address
  rw [written_setCommand hrow hplain.1 hplain.2] at hsend
  rw [stored_eq hrow hname rfl]
  exact hsend

theorem pushNetwork_within (net : HwVxNetworking) {kind : Char}
    (hkind : asciiByte kind ≠ asciiByte 'S') (text : Text)
    (newIp subnetMask gatewayIp : IPv4Address) :
    Within Stored ((Operation.changeNetwork newIp subnetMask gatewayIp).fields.map stored)
      (HwVxDevice.pushNetwork (lanApi other) net (kind :: text) newIp subnetMask gatewayIp) := by
  refine Within.nil_bind graded_stored (send_within_nil net hkind text) fun _ => ?_
  refine Within.nil_bind graded_stored (send_within_nil net (by decide) []) fun _ => ?_
  refine Within.nil_bind graded_stored (receive_within net) fun _ => ?_
  refine Within.bind graded_stored (send_address_within net
    (show (⟨"gateway_ip", "GI".toList, "14".toList, "23".toList⟩ : Setting) ∈ settings by decide)
    rfl gatewayIp) fun _ => ?_
  refine Within.bind graded_stored (send_address_within net
    (show (⟨"subnet_mask", "NM".toList, "15".toList, "24".toList⟩ : Setting) ∈ settings by decide)
    rfl subnetMask) fun _ => ?_
  refine Within.bind_nil graded_stored (send_address_within net
    (show (⟨"ip_address", "IP".toList, "04".toList, "25".toList⟩ : Setting) ∈ settings by decide)
    rfl newIp) fun _ => ?_
  exact Within.nil_bind graded_stored (receive_within net) fun _ =>
    send_within_nil net (by decide) []

theorem changeNetwork_within (newIp subnetMask gatewayIp : IPv4Address) :
    Within Stored (((Operation.changeNetwork newIp subnetMask gatewayIp).fields ++
      (Operation.changeNetwork newIp subnetMask gatewayIp).fields).map stored)
      (self.changeNetwork (lanApi other) newIp subnetMask gatewayIp) := by
  rw [List.map_append]
  refine Within.bind graded_stored
    (pushNetwork_within self.net (by decide) [] newIp subnetMask gatewayIp) fun _ => ?_
  split
  · exact Within.mono graded_stored (Within.pure graded_stored _) (List.nil_sublist _)
  · exact withOpen_within fun net =>
      pushNetwork_within net (by decide) self.mac newIp subnetMask gatewayIp

theorem setDhcp_within (enabled : Bool) :
    Within Stored ((Operation.setDhcp enabled).fields.map stored)
      (self.setDhcp (lanApi other) enabled) := by
  have hwritten : ∀ enabled : Bool,
      (written (asciiBytes ("SDH".toList ++ (if enabled then ['1'] else ['0']) ++
        "|28".toList))).toList = (Operation.setDhcp enabled).fields.map stored := by
    decide +kernel
  refine Within.nil_bind graded_stored (send_within_nil self.net (by decide) []) fun _ => ?_
  rw [← hwritten]
  exact Within.bind_nil graded_stored (send_within self.net _) fun _ =>
    send_within_nil self.net (by decide) []

end

/-! ## Runs -/

/-- What may be stored, seen from a device and its network. -/
def StoredOn (items : List (Bytes × Bytes)) (state state' : HwVxDevice × Lan) : Prop :=
  Stored items state.2 state'.2

theorem graded_storedOn : Graded StoredOn := graded_stored.comap Prod.snd

theorem onNet_within {α : Type} {items : List (Bytes × Bytes)} {program : EStateM PyError Lan α}
    (h : Within Stored items program) : Within StoredOn items (HwVxDevice.onNet program) := by
  rintro ⟨self, lan⟩
  rw [HwVxDevice.finalState_onNet]
  exact h lan

theorem connect_within : Within StoredOn [] (HwVxDevice.connect (lanApi other)) := by
  have hnil {α : Type} (a : α) :
      Within StoredOn [] (pure a : EStateM PyError (HwVxDevice × Lan) α) :=
    Within.pure graded_storedOn a
  have hrequest (net : HwVxNetworking) {kind : Char} (hkind : asciiByte kind ≠ asciiByte 'S')
      (text : Text) :
      Within StoredOn [] (HwVxDevice.onNet (net.request (lanApi other) (kind :: text) 3)) :=
    onNet_within (request_within net hkind text 3)
  refine Within.nil_bind graded_storedOn ?_ fun r => ?_
  · refine Within.get_bind fun ⟨self, lan⟩ => ?_
    dsimp only
    split
    · exact hnil _
    · refine Within.nil_bind graded_storedOn (onNet_within (search_within self.net))
        fun results => ?_
      split
      · exact Within.throw graded_storedOn _
      · exact fun state => graded_storedOn.refl state
  · refine Within.get_bind fun ⟨self, lan⟩ => ?_
    exact Within.nil_bind graded_storedOn (hrequest self.net (by decide) self.mac) fun _ =>
      Within.nil_bind graded_storedOn (hrequest self.net (by decide) []) fun _ => hnil _

/-- The configurations a program saves: of the annotated types, and with strings that fit a
reply. -/
def Operation.Readable : Operation → Prop
  | saveConfig cfg => (∀ f, (cfg f).isExact f.kind) ∧
      ∀ f ∈ writtenFields, ∀ text, dump (cfg f) = .ok text → text.length + 4 ≤ recvBuffer
  | _ => True

/-- A call stores no more than its fields, at most twice over. -/
theorem Operation.program_within {operation : Operation} (h : operation.Readable) :
    Within StoredOn ((operation.fields ++ operation.fields).map stored)
      (operation.program (lanApi other)) := by
  have hnil {α : Type} (a : α) :
      Within StoredOn [] (pure a : EStateM PyError (HwVxDevice × Lan) α) :=
    Within.pure graded_storedOn a
  refine Within.get_bind fun ⟨self, lan⟩ => ?_
  cases operation with
  | connect => exact Within.nil_bind graded_storedOn connect_within fun _ => hnil _
  | getConfig =>
    exact Within.nil_bind graded_storedOn (onNet_within (getConfig_within self)) fun _ => hnil _
  | saveConfig cfg => exact onNet_within (saveConfig_within self h.1)
  | changeNetwork newIp subnetMask gatewayIp =>
    exact onNet_within (changeNetwork_within self newIp subnetMask gatewayIp)
  | setDhcp enabled =>
    refine Within.mono graded_storedOn (onNet_within (setDhcp_within self enabled)) ?_
    exact (List.sublist_append_left _ _).map stored
  | reboot => exact onNet_within (send_within_nil self.net (by decide) [])

theorem run_cons (operation : Operation) (operations : List Operation)
    (state : HwVxDevice × Lan) :
    Operation.run (lanApi other) (operation :: operations) state =
      Operation.run (lanApi other) operations
        (finalState (operation.program (lanApi other) state)) :=
  rfl

theorem run_within {operations : List Operation} (h : ∀ operation ∈ operations, operation.Readable)
    (state : HwVxDevice × Lan) :
    StoredOn ((operations.flatMap fun operation => operation.fields ++ operation.fields).map stored)
      state (Operation.run (lanApi other) operations state) := by
  induction operations generalizing state with
  | nil => exact graded_storedOn.refl state
  | cons operation operations ih =>
    rw [List.forall_mem_cons] at h
    rw [run_cons, List.flatMap_cons, List.map_append]
    exact graded_storedOn.trans (Operation.program_within h.1 state) (ih h.2 _)

/-! ## Configurations -/

/-- The module has a configuration: a reading would parse its values. -/
def Represents (store : Bytes → Bytes) (cfg : DeviceConfig) : Prop :=
  ∀ f, Reads store f (cfg f)

/-- A value of a field that can be written and read back. -/
structure Representable (item : Field × Value) : Prop where
  isExact : item.2.isExact item.1.kind
  exists_text : ∃ text, dump item.2 = .ok text ∧ isAscii text ∧ '|' ∉ text ∧
    text.length + 4 ≤ recvBuffer

/-- One write to the module is one write to its configuration. -/
theorem Represents.update {store : Bytes → Bytes} {cfg : DeviceConfig} (h : Represents store cfg)
    {item : Field × Value} (hitem : Representable item) :
    Represents (Function.update store (stored item).1 (stored item).2)
      (Function.update cfg item.1 item.2) := by
  obtain ⟨f, v⟩ := item
  obtain ⟨text, hdump, hascii, hbar, hfits⟩ := hitem.exists_text
  obtain ⟨row, hrow, hname⟩ := exists_setting f f.mem_all
  rw [stored_eq hrow hname hdump]
  intro f'
  by_cases hf : f' = f
  · subst hf
    rw [Function.update_self]
    exact ⟨row, hrow, text, hname, ⟨Function.update_self _ _ _, hascii, hbar, hfits⟩,
      parse_dump hitem.isExact hdump⟩
  · obtain ⟨row', hrow', text', hname', hholds, hparse⟩ := h f'
    rw [Function.update_of_ne hf]
    refine ⟨row', hrow', text', hname', ⟨?_, hholds.ascii, hholds.noBar, hholds.fits⟩, hparse⟩
    rw [Function.update_of_ne, hholds.stored]
    intro hcode
    cases eq_of_asciiBytes_code hrow' hrow hcode
    exact hf (Field.name_injective (hname'.symm.trans hname))

theorem Represents.writes {store : Bytes → Bytes} {cfg : DeviceConfig} (h : Represents store cfg)
    {items : List (Field × Value)} (hitems : ∀ item ∈ items, Representable item) :
    Represents (Keyed.writes (items.map stored) store) (Keyed.writes items cfg) := by
  induction items generalizing store cfg with
  | nil => exact h
  | cons item items ih =>
    rw [List.forall_mem_cons] at hitems
    rw [List.map_cons, Keyed.writes_cons, Keyed.writes_cons]
    exact ih (h.update hitems.1) hitems.2

theorem mem_writtenFields {f : Field} (h : f ∈ writtenFields) : f.name ∈ setOrder := by
  have hall : ∀ f ∈ writtenFields, f.name ∈ setOrder := by decide
  exact hall f h

/-- What a call writes can be read back. -/
theorem Operation.representable {operation : Operation} (h : operation.Readable) :
    ∀ item ∈ operation.fields, Representable item := by
  have haddress : ∀ address : IPv4Address, ∃ text, dump (.ip address) = .ok text ∧
      isAscii text ∧ '|' ∉ text ∧ text.length + 4 ≤ recvBuffer := by
    intro address
    have hplain := address_plain address
    exact ⟨address.text, rfl, hplain.1, hplain.2,
      (Nat.add_le_add_right address.length_text_le 4).trans (by decide)⟩
  intro item hitem
  cases operation with
  | saveConfig cfg =>
    obtain ⟨hexact, hfits⟩ := h
    rw [fields] at hitem
    split at hitem
    · next wire hwire =>
      obtain ⟨f, hf, rfl⟩ := List.mem_map.mp hitem
      obtain ⟨text, _, hdump⟩ := DeviceConfig.toWire_eq_ok hwire f
      obtain ⟨_, hvalid, _⟩ := bind_eq_ok hwire
      obtain ⟨hascii, hbar⟩ := dump_plain (hexact f) hdump fun text hstr =>
        DeviceConfig.plain_of_validate hvalid hstr
      exact ⟨hexact f, text, hdump, hascii, hbar, hfits f hf text hdump⟩
    · cases hitem
  | changeNetwork newIp subnetMask gatewayIp =>
    simp only [fields, List.mem_cons, List.not_mem_nil, or_false] at hitem
    rcases hitem with rfl | rfl | rfl <;> exact ⟨rfl, haddress _⟩
  | setDhcp enabled =>
    cases List.mem_singleton.mp hitem
    cases enabled
    · exact ⟨by decide, "0".toList, by decide, by decide, by decide, by decide⟩
    · exact ⟨by decide, "1".toList, by decide, by decide, by decide, by decide⟩
  | connect => cases hitem
  | getConfig => cases hitem
  | reboot => cases hitem

/-! ## Reading after a run -/

/-- A new device, that reads the configuration. -/
def readAnew {σ : Type} (api : UdpApi σ) (ipAddress : IPv4Address) :
    EStateM PyError σ DeviceConfig := do
  let device ← HwVxDevice.init api ipAddress
  device.getConfig api

/-- A reading without loss gives the configuration the module has. -/
theorem readAnew_eq (other : Bytes → List Bytes) (lan : Lan) {cfg : DeviceConfig}
    (h : Represents lan.settings cfg) (hfates : lan.fates = []) (ipAddress : IPv4Address) :
    ∃ lan', readAnew (lanApi other) ipAddress lan = .ok cfg lan' := by
  let device : HwVxDevice :=
    ⟨ipAddress, false, HwVxDevice.lanBroadcast, ⟨lan.sockets, (ipAddress.text, udpPort)⟩, []⟩
  let opened : Lan := { lan with
    sockets := lan.sockets + 1
    inbox := Function.update lan.inbox lan.sockets [] }
  have hinit : HwVxDevice.init (lanApi other) ipAddress [] false HwVxDevice.lanBroadcast lan =
      .ok device opened := rfl
  have hquiet : Quiet lan.settings device.net.sock opened :=
    ⟨hfates, Function.update_self _ _ _, rfl⟩
  have hread : Triple (Quiet lan.settings device.net.sock) (device.getConfig (lanApi other))
      (fun cfg' lan' => cfg' = cfg ∧ Quiet lan.settings device.net.sock lan')
      (fun _ _ => False) := getConfig_quiet h
  obtain ⟨_, lan', hrun, rfl, _⟩ := hread.exists_ok hquiet
  rw [readAnew, bind_of_ok hinit]
  exact ⟨lan', hrun⟩

/-- Calls do not write the MAC, and only `set_dhcp` writes DHCP. -/
theorem Operation.not_mem_fields (operation : Operation) :
    ∀ item ∈ operation.fields, item.1 ≠ .macAddress ∧
      (item.1 = .dhcp → ∃ enabled, operation = .setDhcp enabled) := by
  intro item hitem
  cases operation with
  | saveConfig cfg =>
    rw [fields] at hitem
    split at hitem
    · obtain ⟨f, hf, rfl⟩ := List.mem_map.mp hitem
      obtain ⟨hmac, hdhcp⟩ := (mem_setOrder f f.mem_all).mp (mem_writtenFields hf)
      exact ⟨hmac, fun h => absurd h hdhcp⟩
    · cases hitem
  | changeNetwork newIp subnetMask gatewayIp =>
    simp only [fields, List.mem_cons, List.not_mem_nil, or_false] at hitem
    rcases hitem with rfl | rfl | rfl <;> exact ⟨nofun, nofun⟩
  | setDhcp enabled =>
    cases List.mem_singleton.mp hitem
    exact ⟨nofun, fun _ => ⟨enabled, rfl⟩⟩
  | connect => cases hitem
  | getConfig => cases hitem
  | reboot => cases hitem

/-- Whatever is lost of a run of calls that save readable configurations, and whatever replies
the module has to commands other than `G`, the configuration it has afterwards is the one it had
before with some of the writes of the calls, in their order. The MAC is never written, and DHCP
only by `set_dhcp`. -/
theorem stored_run (other : Bytes → List Bytes) (operations : List Operation)
    (hreadable : ∀ operation ∈ operations, operation.Readable) (device : HwVxDevice) (lan : Lan)
    {cfg : DeviceConfig} (h : Represents lan.settings cfg) (ipAddress : IPv4Address) :
    ∃ done cfg' lan',
      readAnew (lanApi other) ipAddress
        { (Operation.run (lanApi other) operations (device, lan)).2 with fates := [] } =
          .ok cfg' lan' ∧
      done.Sublist (operations.flatMap fun operation => operation.fields ++ operation.fields) ∧
      cfg' = Keyed.writes done cfg ∧ cfg' .macAddress = cfg .macAddress ∧
      ((∀ enabled, .setDhcp enabled ∉ operations) → cfg' .dhcp = cfg .dhcp) := by
  let after := (Operation.run (lanApi other) operations (device, lan)).2
  obtain ⟨arrived, _, hsettings, hitems⟩ : Stored _ lan after :=
    run_within hreadable (device, lan)
  obtain ⟨done, hdone, hmap⟩ := List.sublist_map_iff.mp hitems
  have hfrom : ∀ item ∈ done, ∃ operation ∈ operations, item ∈ operation.fields := by
    intro item hitem
    obtain ⟨operation, hoperation, hmem⟩ := List.mem_flatMap.mp (hdone.subset hitem)
    exact ⟨operation, hoperation, (List.mem_append.mp hmem).elim id id⟩
  have hrepresents : Represents after.settings (Keyed.writes done cfg) := by
    rw [hsettings, hmap]
    refine h.writes fun item hitem => ?_
    obtain ⟨operation, hoperation, hmem⟩ := hfrom item hitem
    exact operation.representable (hreadable operation hoperation) item hmem
  obtain ⟨lan', hread⟩ := readAnew_eq other { after with fates := [] } hrepresents rfl ipAddress
  refine ⟨done, _, lan', hread, hdone, rfl, ?_, fun hdhcp => ?_⟩
  · refine Keyed.writes_eq_of_forall_ne (fun item hitem => ?_) cfg
    obtain ⟨operation, _, hmem⟩ := hfrom item hitem
    exact (operation.not_mem_fields item hmem).1
  · refine Keyed.writes_eq_of_forall_ne (fun item hitem heq => ?_) cfg
    obtain ⟨operation, hoperation, hmem⟩ := hfrom item hitem
    obtain ⟨enabled, rfl⟩ := (operation.not_mem_fields item hmem).2 heq
    exact hdhcp enabled hoperation

/-- A module that holds the default of every field. -/
def factoryStore : Bytes → Bytes :=
  Keyed.writes (Field.all.map fun f => stored (f, f.default)) fun _ => []

theorem represents_factoryStore : Represents factoryStore Field.default := by
  have hall : ∀ f ∈ Field.all, ∃ row ∈ settings, row.name = f.name ∧
      ∃ text ∈ (dump f.default).toOption,
        factoryStore (asciiBytes row.code) = asciiBytes text ∧ isAscii text ∧ '|' ∉ text ∧
          text.length + 4 ≤ recvBuffer ∧ parse f.kind text = .ok f.default := by
    decide +kernel
  intro f
  obtain ⟨row, hrow, hname, text, _, hstored, hascii, hbar, hfits, hparse⟩ := hall f f.mem_all
  exact ⟨row, hrow, text, hname, ⟨hstored, hascii, hbar, hfits⟩, hparse⟩

/-- A device, and a network that loses most of its datagrams. -/
def lossyStart : HwVxDevice × Lan :=
  (⟨⟨192, 168, 0, 7⟩, false, ⟨255, 255, 255, 255⟩, ⟨0, ([], 0)⟩, "00-1A".toList⟩,
    { address := []
      settings := factoryStore
      inbox := fun _ => []
      sockets := 1
      fates := List.replicate 6 false ++ List.replicate 12 true
      delivered := [] })

/-- The first pass of a change of network is lost, its second arrives, and no module answers
when the device connects. -/
theorem stored_run_lossy : ∃ done cfg' lan',
    readAnew (lanApi fun _ => []) ⟨10, 0, 0, 9⟩
      { (Operation.run (lanApi fun _ => [])
          [.changeNetwork ⟨10, 0, 0, 9⟩ ⟨255, 0, 0, 0⟩ ⟨10, 0, 0, 1⟩, .connect]
          lossyStart).2 with fates := [] } = .ok cfg' lan' ∧
      cfg' = Keyed.writes done Field.default ∧ cfg' .dhcp = Field.default .dhcp := by
  obtain ⟨done, cfg', lan', hread, _, hcfg, _, hdhcp⟩ :=
    stored_run (fun _ => [])
      [.changeNetwork ⟨10, 0, 0, 9⟩ ⟨255, 0, 0, 0⟩ ⟨10, 0, 0, 1⟩, .connect]
      (by simp [Operation.Readable]) lossyStart.1 lossyStart.2 represents_factoryStore
      ⟨10, 0, 0, 9⟩
  exact ⟨done, cfg', lan', hread, hcfg, hdhcp (by simp)⟩

/-! ## Writes that arrive -/

/-- Every write of the call arrives, in one of its passes at least. -/
def Operation.Arrives (other : Bytes → List Bytes) (operation : Operation)
    (state : HwVxDevice × Lan) : Prop :=
  ∀ item ∈ operation.fields,
    some (stored item) ∈ ((finalState (operation.program (lanApi other) state)).2.delivered.drop
      state.2.delivered.length).map written

instance (operation : Operation) (state : HwVxDevice × Lan) :
    Decidable (operation.Arrives other state) :=
  inferInstanceAs (Decidable (∀ item ∈ operation.fields, some (stored item) ∈ List.map _ _))

/-- Every write of every call of a run arrives. -/
def AllArrive (other : Bytes → List Bytes) : List Operation → HwVxDevice × Lan → Prop
  | [], _ => True
  | operation :: operations, state => operation.Arrives other state ∧
      AllArrive other operations (finalState (operation.program (lanApi other) state))

/-- A call writes a setting once. -/
theorem Operation.nodup_fields (operation : Operation) :
    ((operation.fields.map stored).map Prod.fst).Nodup := by
  cases operation with
  | saveConfig cfg =>
    have hcodes : (writtenFields.map Field.code).Nodup := by decide +kernel
    rw [fields]
    split
    · rw [List.map_map, List.map_map]
      exact hcodes
    · exact List.nodup_nil
  | changeNetwork newIp subnetMask gatewayIp =>
    have hcodes : ([Field.gatewayIp, .subnetMask, .ipAddress].map Field.code).Nodup := by
      decide +kernel
    exact hcodes
  | setDhcp enabled => exact List.nodup_singleton _
  | connect => exact List.nodup_nil
  | getConfig => exact List.nodup_nil
  | reboot => exact List.nodup_nil

/-- A call whose writes arrive has stored its fields, however often and whatever else was
lost. -/
theorem Operation.settings_of_arrives {operation : Operation} (h : operation.Readable)
    {state : HwVxDevice × Lan} (harrives : operation.Arrives other state) :
    (finalState (operation.program (lanApi other) state)).2.settings =
      Keyed.writes (operation.fields.map stored) state.2.settings := by
  obtain ⟨arrived, hdelivered, hsettings, hitems⟩ : StoredOn _ state
      (finalState (operation.program (lanApi other) state)) := operation.program_within h state
  rw [hsettings]
  refine Keyed.writes_eq_of_mem_iff operation.nodup_fields (fun item => ?_) _
  constructor
  · intro hitem
    have hmem := hitems.subset hitem
    rw [List.map_append, List.mem_append, or_self] at hmem
    exact hmem
  · intro hitem
    obtain ⟨field, hfield, rfl⟩ := List.mem_map.mp hitem
    have hwritten := harrives field hfield
    rw [hdelivered, List.drop_left] at hwritten
    obtain ⟨datagram, hdatagram, heq⟩ := List.mem_map.mp hwritten
    exact List.mem_filterMap.mpr ⟨datagram, hdatagram, heq⟩

theorem Represents.run {operations : List Operation}
    (hreadable : ∀ operation ∈ operations, operation.Readable) {state : HwVxDevice × Lan}
    (harrive : AllArrive other operations state) {cfg : DeviceConfig}
    (h : Represents state.2.settings cfg) :
    Represents (Operation.run (lanApi other) operations state).2.settings
      (operations.foldl (fun cfg operation => operation.apply cfg) cfg) := by
  induction operations generalizing state cfg with
  | nil => exact h
  | cons operation operations ih =>
    rw [List.forall_mem_cons] at hreadable
    refine ih hreadable.2 harrive.2 ?_
    rw [Operation.settings_of_arrives hreadable.1 harrive.1]
    exact h.writes (operation.representable hreadable.1)

/-- The last value written is the value that is read. If of every call of a run each write
arrives at least once, and the configurations saved are readable, the configuration read
afterwards is what the calls, one after another, make of the one before, whatever else is lost,
whatever replies the module has to commands other than `G`, and also where calls raise. -/
theorem stored_run_last (other : Bytes → List Bytes) (operations : List Operation)
    (hreadable : ∀ operation ∈ operations, operation.Readable) (device : HwVxDevice) (lan : Lan)
    (harrive : AllArrive other operations (device, lan)) {cfg : DeviceConfig}
    (h : Represents lan.settings cfg) (ipAddress : IPv4Address) :
    ∃ lan', readAnew (lanApi other) ipAddress
        { (Operation.run (lanApi other) operations (device, lan)).2 with fates := [] } =
      .ok (operations.foldl (fun cfg operation => operation.apply cfg) cfg) lan' :=
  readAnew_eq other { (Operation.run (lanApi other) operations (device, lan)).2 with fates := [] }
    (Represents.run hreadable harrive h) rfl ipAddress

/-- A configuration, a change of network whose first pass is lost, and DHCP. -/
theorem stored_run_last_lossy : ∃ lan',
    readAnew (lanApi fun _ => []) ⟨10, 0, 0, 9⟩
      { (Operation.run (lanApi fun _ => [])
          [.changeNetwork ⟨10, 0, 0, 9⟩ ⟨255, 0, 0, 0⟩ ⟨10, 0, 0, 1⟩, .connect, .setDhcp true]
          lossyStart).2 with fates := [] } =
      .ok (Keyed.writes [(.gatewayIp, .ip ⟨10, 0, 0, 1⟩), (.subnetMask, .ip ⟨255, 0, 0, 0⟩),
        (.ipAddress, .ip ⟨10, 0, 0, 9⟩), (.dhcp, dhcpValue true)] Field.default) lan' :=
  stored_run_last (fun _ => [])
    [.changeNetwork ⟨10, 0, 0, 9⟩ ⟨255, 0, 0, 0⟩ ⟨10, 0, 0, 1⟩, .connect, .setDhcp true]
    (by simp [Operation.Readable]) lossyStart.1 lossyStart.2
    ⟨by decide +kernel, by decide +kernel, by decide +kernel, trivial⟩ represents_factoryStore
    ⟨10, 0, 0, 9⟩

end UhfReader18.Hwvx
