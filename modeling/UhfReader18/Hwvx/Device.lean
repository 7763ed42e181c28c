import UhfReader18.Hwvx.Config
import UhfReader18.Hwvx.Transport

/-!
# Operations on a network module

`hwvx/device.py`: how a module is found and its settings are read and saved. A table has one
row per setting. Saving sends one command per written field, first to the address of the
module and then, in case that address is among the changes, to all modules, with the MAC of
the one that is meant.

Results:
1. `exists_setting`: every field has a row.
2. `mem_setOrder`: every field but the MAC and DHCP is written.
3. `connect_preserves`, `getConfig_preserves`: both keep what their requests keep.
-/

namespace UhfReader18.Hwvx

open Stateful

/-- A row of the table: the field, the code of the setting, and the check tokens of the two
commands about it. -/
structure Setting where
  name : String
  code : Text
  getCheck : Text
  setCheck : Text
  deriving DecidableEq, Repr

/-- `_SETTINGS`. -/
def settings : List Setting :=
  [⟨"username", "ON".toList, "01".toList, "12".toList⟩,
   ⟨"device_name", "DN".toList, "02".toList, "13".toList⟩,
   ⟨"mac_address", "FE".toList, "03".toList, "".toList⟩,
   ⟨"ip_address", "IP".toList, "04".toList, "25".toList⟩,
   ⟨"port_number", "PN".toList, "05".toList, "15".toList⟩,
   ⟨"protocol", "TP".toList, "06".toList, "14".toList⟩,
   ⟨"work_mode", "RM".toList, "07".toList, "16".toList⟩,
   ⟨"connection_mode", "CM".toList, "08".toList, "1D".toList⟩,
   ⟨"connection_timeout", "CT".toList, "09".toList, "1E".toList⟩,
   ⟨"rts", "FC".toList, "0A".toList, "17".toList⟩,
   ⟨"dtr_mode", "DT".toList, "0B".toList, "18".toList⟩,
   ⟨"baud_rate", "BR".toList, "0C".toList, "19".toList⟩,
   ⟨"parity", "PR".toList, "0D".toList, "1A".toList⟩,
   ⟨"data_bits", "BB".toList, "0E".toList, "1B".toList⟩,
   ⟨"reconnect", "RC".toList, "0F".toList, "1C".toList⟩,
   ⟨"max_length", "ML".toList, "10".toList, "1F".toList⟩,
   ⟨"max_delay", "MD".toList, "11".toList, "20".toList⟩,
   ⟨"remote_ip", "DI".toList, "12".toList, "21".toList⟩,
   ⟨"remote_port", "DP".toList, "13".toList, "22".toList⟩,
   ⟨"gateway_ip", "GI".toList, "14".toList, "23".toList⟩,
   ⟨"subnet_mask", "NM".toList, "15".toList, "24".toList⟩,
   ⟨"dhcp", "DH".toList, "16".toList, "".toList⟩]

/-- `_SET_ORDER`: the IP address comes last. -/
def setOrder : List String :=
  ["username", "device_name", "protocol", "port_number", "work_mode", "rts", "dtr_mode",
   "baud_rate", "parity", "data_bits", "reconnect", "connection_mode", "connection_timeout",
   "max_length", "max_delay", "remote_ip", "remote_port", "gateway_ip", "subnet_mask",
   "ip_address"]

/-- `_BY_FIELD`. -/
def byField : String → Option Setting :=
  Keyed.dict (settings.map fun row => (row.name, row))

/-- `d[key]`. -/
def lookup {α : Type} (d : String → Option α) (key : String) : Except PyError α :=
  match d key with
  | some a => .ok a
  | none => .error ⟨.keyError, s!"'{key}'"⟩

/-! ## The table -/

theorem names_nodup : (settings.map Setting.name).Nodup := by
  decide

theorem code_injective :
    ∀ row ∈ settings, ∀ row' ∈ settings, row.code = row'.code → row = row' := by
  decide

/-- Codes and checks are two plain characters. -/
theorem setting_plain : ∀ row ∈ settings, row.code.length = 2 ∧ isAscii row.code ∧
    row.getCheck.length = 2 ∧ isAscii row.getCheck ∧ '|' ∉ row.getCheck ∧
    isAscii row.setCheck := by
  decide

/-- Every row is about a field. -/
theorem exists_field : ∀ row ∈ settings, ∃ f ∈ Field.all, f.name = row.name := by
  decide

theorem eq_of_name {row row' : Setting} (h : row ∈ settings) (h' : row' ∈ settings)
    (hname : row.name = row'.name) : row = row' :=
  List.inj_on_of_nodup_map names_nodup h h' hname

theorem byField_name {row : Setting} (h : row ∈ settings) : byField row.name = some row := by
  refine Keyed.dict_eq_some ?_ (List.mem_map.mpr ⟨row, h, rfl⟩)
  rw [List.map_map]
  exact names_nodup

/-- Every field but the MAC and DHCP is written. -/
theorem mem_setOrder : ∀ f ∈ Field.all, f.name ∈ setOrder ↔ f ≠ .macAddress ∧ f ≠ .dhcp := by
  decide

theorem exists_setOrder : ∀ name ∈ setOrder, ∃ f ∈ Field.all, f.name = name := by
  decide

theorem exists_setting : ∀ f ∈ Field.all, ∃ row ∈ settings, row.name = f.name := by
  decide

structure HwVxDevice where
  ip : IPv4Address
  broadcast : Bool
  broadcastIp : IPv4Address
  net : HwVxNetworking
  mac : Text
  deriving DecidableEq, Repr

/-- The command that reads a setting, without its check. -/
def Setting.getCommand (row : Setting) : Text := 'G' :: row.code

/-- The command that writes a setting. -/
def Setting.setCommand (row : Setting) (value : Text) : Text :=
  'S' :: row.code ++ value ++ '|' :: row.setCheck

/-- The command of one pass that writes a field. -/
def configCommand (wire : String → Option Text) (name : String) : Except PyError Text := do
  let row ← lookup byField name
  return row.setCommand (← lookup wire name)

namespace HwVxDevice

/-- `_LAN_BROADCAST`. -/
def lanBroadcast : IPv4Address := ⟨255, 255, 255, 255⟩

variable {σ : Type} (api : UdpApi σ)

/-- `HwVxDevice(ip_address, mac_address=..., broadcast=..., broadcast_ip=...)`. -/
def init (ipAddress : IPv4Address) (macAddress : Text := []) (broadcast : Bool := false)
    (broadcastIp : IPv4Address := lanBroadcast) : EStateM PyError σ HwVxDevice := do
  let net ← HwVxNetworking.init api (if broadcast then broadcastIp else ipAddress).text
  return ⟨ipAddress, broadcast, broadcastIp, net, macAddress⟩

/-- A program of the network, run by a method that may also change the device. -/
def onNet {α : Type} (program : EStateM PyError σ α) : EStateM PyError (HwVxDevice × σ) α :=
  fun (self, s) =>
    match program s with
    | .ok a s => .ok a (self, s)
    | .error e s => .error e (self, s)

/-- The module `connect` goes on with: the caller's if it has given a MAC, and otherwise the
first one that is found. -/
def chooseModule : EStateM PyError (HwVxDevice × σ) SearchResult := do
  let (self, _) ← get
  if self.mac ≠ [] then
    return { macAddress := self.mac, ipAddress := some self.ip }
  match ← onNet (self.net.search api) with
  | [] => throw ⟨.connectionError, s!"No reader found at {String.ofList self.ip.text}"⟩
  | r :: _ =>
    modify fun (self, s) => ({ self with mac := r.macAddress }, s)
    return r

/-- Searches, selects and logs in. The MAC stays with the device, also when a request fails. -/
def connect : EStateM PyError (HwVxDevice × σ) SearchResult := do
  let r ← chooseModule api
  let (self, _) ← get
  let _ ← onNet (self.net.request api ('W' :: self.mac) 3)
  let _ ← onNet (self.net.request api ['L'] 3)
  return r

variable (self : HwVxDevice)

def getConfig : EStateM PyError σ DeviceConfig := do
  let raw ← settings.mapM fun row => do
    return (row.name, ← self.net.requestSingle api row.getCommand row.getCheck)
  ofExcept (DeviceConfig.fromWire (Keyed.dict raw))

/-- `_send_config_pass`: login, all commands in order, and a reboot. -/
def sendConfigPass (send : Text → EStateM PyError σ Unit) (wire : String → Option Text) :
    EStateM PyError σ Unit := do
  send ['L']
  forM setOrder fun name => do
    send (← ofExcept (configCommand wire name))
  send ['E']

def saveConfig (cfg : DeviceConfig) : EStateM PyError σ Unit := do
  let wire ← ofExcept cfg.toWire
  sendConfigPass (self.net.send api) (Keyed.dict wire)
  if self.broadcast then
    return
  HwVxNetworking.withOpen api self.broadcastIp.text fun broadcast => do
    broadcast.send api ('W' :: self.mac)
    sendConfigPass (broadcast.send api) (Keyed.dict wire)

/-- `_push_network`: the IP address comes last. -/
def pushNetwork (net : HwVxNetworking) (opener : Text)
    (newIp subnetMask gatewayIp : IPv4Address) : EStateM PyError σ Unit := do
  net.send api opener
  net.send api ['L']
  let _ ← net.receive api
  net.send api ("SGI".toList ++ gatewayIp.text ++ "|23".toList)
  net.send api ("SNM".toList ++ subnetMask.text ++ "|24".toList)
  net.send api ("SIP".toList ++ newIp.text ++ "|25".toList)
  let _ ← net.receive api
  net.send api ['E']

def changeNetwork (newIp subnetMask gatewayIp : IPv4Address) : EStateM PyError σ Unit := do
  pushNetwork api self.net ['X'] newIp subnetMask gatewayIp
  if self.broadcast then
    return
  HwVxNetworking.withOpen api self.broadcastIp.text fun broadcast =>
    pushNetwork api broadcast ('W' :: self.mac) newIp subnetMask gatewayIp

def setDhcp (enabled : Bool) : EStateM PyError σ Unit := do
  self.net.send api ['L']
  self.net.send api ("SDH".toList ++ (if enabled then ['1'] else ['0']) ++ "|28".toList)
  self.net.send api ['E']

def reboot : EStateM PyError σ Unit :=
  self.net.send api ['E']

/-! ## What `connect` and `get_config` keep -/

section

variable {api self} {α : Type} {program : EStateM PyError σ α} {s s' : σ}

theorem onNet_ok {a : α} (h : program s = .ok a s') :
    onNet program (self, s) = .ok a (self, s') := by
  simp only [onNet, h]

theorem onNet_error {e : PyError} (h : program s = .error e s') :
    onNet program (self, s) = .error e (self, s') := by
  simp only [onNet, h]

theorem finalState_onNet (program : EStateM PyError σ α) (s : σ) :
    finalState (onNet program (self, s)) = (self, finalState (program s)) := by
  cases hrun : program s with
  | ok a s' =>
    rw [onNet_ok hrun]
    rfl
  | error e s' =>
    rw [onNet_error hrun]
    rfl

end

section

variable {api} {D : HwVxDevice → Prop} {I : σ → Prop}

theorem onNet_preserves {α : Type} {program : EStateM PyError σ α} (h : Preserves I program) :
    Preserves (fun state => D state.1 ∧ I state.2) (onNet program) := by
  rintro ⟨self, s⟩ ⟨hself, hs⟩
  have hend := h s hs
  cases hrun : program s with
  | ok a s' =>
    rw [hrun] at hend
    rw [onNet_ok hrun]
    exact ⟨hself, hend⟩
  | error e s' =>
    rw [hrun] at hend
    rw [onNet_error hrun]
    exact ⟨hself, hend⟩

theorem getConfig_preserves {self : HwVxDevice}
    (hget : ∀ row ∈ settings,
      Preserves I (self.net.requestSingle api row.getCommand row.getCheck)) :
    Preserves I (self.getConfig api) := by
  refine Preserves.bind (Preserves.mapM fun row hrow => ?_) fun raw => Preserves.ofExcept _
  exact (hget row hrow).bind fun _ => Preserves.pure _

variable (hmac : ∀ self mac, D self → D { self with mac := mac })
  (hsearch : ∀ self, D self → Preserves I (self.net.search api))
include hmac hsearch

theorem chooseModule_preserves :
    Preserves (fun state => D state.1 ∧ I state.2) (chooseModule api) := by
  refine Preserves.get_bind fun ⟨self, s⟩ hself => ?_
  dsimp only
  split
  · exact Preserves.pure _
  · refine (onNet_preserves (hsearch self hself.1)).bind fun results => ?_
    split
    · exact Preserves.throw _
    · exact fun state hstate => ⟨hmac _ _ hstate.1, hstate.2⟩

/-- `connect` keeps what its search and its two requests keep. -/
theorem connect_preserves
    (hselect : ∀ self, D self → Preserves I (self.net.request api ('W' :: self.mac) 3))
    (hlogin : ∀ self, D self → Preserves I (self.net.request api ['L'] 3)) :
    Preserves (fun state => D state.1 ∧ I state.2) (connect api) := by
  refine (chooseModule_preserves hmac hsearch).bind fun r => ?_
  refine Preserves.get_bind fun ⟨self, s⟩ hself => ?_
  exact (onNet_preserves (hselect self hself.1)).bind fun _ =>
    (onNet_preserves (hlogin self hself.1)).bind fun _ => Preserves.pure _

end

end HwVxDevice

/-- A call of a method of a device. -/
inductive Operation
  | connect
  | getConfig
  | saveConfig (cfg : DeviceConfig)
  | changeNetwork (newIp subnetMask gatewayIp : IPv4Address)
  | setDhcp (enabled : Bool)
  | reboot

namespace Operation

open HwVxDevice

variable {σ : Type} (api : UdpApi σ)

/-- The method, without what it returns. -/
def program (operation : Operation) : EStateM PyError (HwVxDevice × σ) Unit := do
  let (self, _) ← get
  match operation with
  | connect => discard (HwVxDevice.connect api)
  | getConfig => discard (onNet (self.getConfig api))
  | saveConfig cfg => onNet (self.saveConfig api cfg)
  | changeNetwork newIp subnetMask gatewayIp =>
    onNet (self.changeNetwork api newIp subnetMask gatewayIp)
  | setDhcp enabled => onNet (self.setDhcp api enabled)
  | reboot => onNet (self.reboot api)

/-- The device and the network after calls one after another, whether they return or raise. -/
def run (operations : List Operation) (start : HwVxDevice × σ) : HwVxDevice × σ :=
  operations.foldl (fun state operation => finalState (operation.program api state)) start

end Operation

end UhfReader18.Hwvx
