import UhfReader18.Hwvx.Constants
import UhfReader18.Keyed

/-!
# The configuration of a network module

`hwvx/config.py`. A configuration has 22 fields. Python does not enforce their annotations,
so a field may hold any value, and `validate` has to find out. On the wire every field is a
string: `toWire` writes the strings and `fromWire` reads them.

Results:
1. `parse_dump`: a value of the annotated type is read back from its string.
2. `DeviceConfig.plain_of_validate`: the strings of a validated configuration are plain ASCII.
-/

namespace UhfReader18.Hwvx

/-- A module found by a search. -/
structure SearchResult where
  macAddress : Text := []
  portNumber : ℤ := 0
  ipAddress : Option IPv4Address := none
  username : Text := []
  deviceName : Text := []
  deriving DecidableEq, Repr

/-! ## Values and types -/

/-- A value of one of the classes that other classes derive from. -/
inductive Builtin
  | str (text : Text)
  | int (n : ℤ)
  | ip (address : IPv4Address)
  deriving DecidableEq, Repr

/-- What `str(value)`, `f"{value}"` and `repr(value)` give for a value of a class that has a say
in it, or raise. -/
structure Texts where
  str : Except PyError Text
  format : Except PyError Text
  repr : Except PyError Text
  deriving DecidableEq

/-- What a field may hold. A member of an enum that is not one of the module's, a value of a
class derived from `str`, `int` or `IPv4Address`, and a value of a class not listed come with
their texts. `number` is the `int` that an enum member is, and `written` is `str` of its
`.value`, which may be anything. A value of a derived class compares as the builtin it is. -/
inductive Value
  | str (text : Text)
  | int (n : ℤ)
  | bool (b : Bool)
  | ip (address : IPv4Address)
  | member (m : EnumMember)
  | intEnum (number : ℤ) (written : Except PyError Text) (texts : Texts)
  | derived (base : Builtin) (texts : Texts)
  | other (texts : Texts)
  deriving DecidableEq

/-- The types fields are annotated with. -/
inductive Kind
  | str
  | int
  | ipv4Address
  | intEnum (cls : EnumClass)
  deriving DecidableEq, Repr

/-- `kind.__name__`. -/
def Kind.name : Kind → String
  | str => "str"
  | int => "int"
  | ipv4Address => "IPv4Address"
  | intEnum cls => cls.name

namespace Value

/-- What a value stands for in a comparison; booleans and members of enums are numbers. -/
def builtin? : Value → Option Builtin
  | str text => some (.str text)
  | int n => some (.int n)
  | bool b => some (.int (if b then 1 else 0))
  | ip address => some (.ip address)
  | member m => some (.int m.value)
  | intEnum number _ _ => some (.int number)
  | derived base _ => some base
  | other _ => none

/-- The number of a value that is an `int`. -/
def int? (self : Value) : Option ℤ :=
  match self.builtin? with
  | some (.int n) => some n
  | _ => none

/-- The characters of a value that is a `str`. -/
def text? (self : Value) : Option Text :=
  match self.builtin? with
  | some (.str text) => some text
  | _ => none

/-- `isinstance(value, kind)`. -/
def isInstance (self : Value) : Kind → Bool
  | .str => self.text?.isSome
  | .int => self.int?.isSome
  | .ipv4Address =>
    match self.builtin? with
    | some (.ip _) => true
    | _ => false
  | .intEnum cls =>
    match self with
    | member m => m.cls = cls
    | _ => false

/-- `str(value)`; the enums of the module are written with their names. -/
def toStr : Value → Except PyError Text
  | str text => .ok text
  | int n => strInt n
  | bool b => .ok (if b then "True" else "False").toList
  | ip address => .ok address.text
  | member m => .ok s!"{m.cls.name}.{m.name}".toList
  | intEnum _ _ texts => texts.str
  | derived _ texts => texts.str
  | other texts => texts.str

/-- `f"{value}"`. Before Python 3.11 it is the number of an enum member. -/
def format : Value → Except PyError Text
  | intEnum _ _ texts => texts.format
  | derived _ texts => texts.format
  | other texts => texts.format
  | value => value.toStr

/-- `repr(value)`. -/
def repr : Value → Except PyError Text
  | .str text => .ok (reprText text).toList
  | int n => strInt n
  | bool b => .ok (if b then "True" else "False").toList
  | ip address => .ok ("IPv4Address('".toList ++ address.text ++ "')".toList)
  | member m => .ok s!"<{m.cls.name}.{m.name}: {m.value}>".toList
  | intEnum _ _ texts => texts.repr
  | derived _ texts => texts.repr
  | other texts => texts.repr

/-- `type(value) is kind`: an `int` is not a `bool` and no enum member. -/
def isExact : Value → Kind → Bool
  | str _, .str => true
  | int _, .int => true
  | ip _, .ipv4Address => true
  | member m, .intEnum cls => m.cls = cls
  | _, _ => false

end Value

/-! ## Fields -/

/-- The fields of `DeviceConfig`. -/
inductive Field
  | username
  | deviceName
  | macAddress
  | ipAddress
  | portNumber
  | protocol
  | workMode
  | remoteIp
  | remotePort
  | gatewayIp
  | subnetMask
  | dhcp
  | baudRate
  | parity
  | dataBits
  | dtrMode
  | rts
  | connectionMode
  | connectionTimeout
  | reconnect
  | maxLength
  | maxDelay
  deriving DecidableEq, Repr, Inhabited

namespace Field

/-- `fields(cls)`: in the order of their declaration. -/
def all : List Field :=
  [username, deviceName, macAddress, ipAddress, portNumber, protocol, workMode, remoteIp,
   remotePort, gatewayIp, subnetMask, dhcp, baudRate, parity, dataBits, dtrMode, rts,
   connectionMode, connectionTimeout, reconnect, maxLength, maxDelay]

def name : Field → String
  | username => "username"
  | deviceName => "device_name"
  | macAddress => "mac_address"
  | ipAddress => "ip_address"
  | portNumber => "port_number"
  | protocol => "protocol"
  | workMode => "work_mode"
  | remoteIp => "remote_ip"
  | remotePort => "remote_port"
  | gatewayIp => "gateway_ip"
  | subnetMask => "subnet_mask"
  | dhcp => "dhcp"
  | baudRate => "baud_rate"
  | parity => "parity"
  | dataBits => "data_bits"
  | dtrMode => "dtr_mode"
  | rts => "rts"
  | connectionMode => "connection_mode"
  | connectionTimeout => "connection_timeout"
  | reconnect => "reconnect"
  | maxLength => "max_length"
  | maxDelay => "max_delay"

/-- The annotation of a field. -/
def kind : Field → Kind
  | username => .str
  | deviceName => .str
  | macAddress => .str
  | ipAddress => .ipv4Address
  | portNumber => .int
  | protocol => .intEnum .netProtocol
  | workMode => .intEnum .netWorkMode
  | remoteIp => .ipv4Address
  | remotePort => .int
  | gatewayIp => .ipv4Address
  | subnetMask => .ipv4Address
  | dhcp => .intEnum .toggle
  | baudRate => .intEnum .baudRate
  | parity => .intEnum .parity
  | dataBits => .intEnum .dataBits
  | dtrMode => .intEnum .toggle
  | rts => .intEnum .toggle
  | connectionMode => .intEnum .toggle
  | connectionTimeout => .int
  | reconnect => .int
  | maxLength => .int
  | maxDelay => .int

def default : Field → Value
  | username => .str []
  | deviceName => .str []
  | macAddress => .str []
  | ipAddress => .ip ⟨0, 0, 0, 0⟩
  | portNumber => .int 0
  | protocol => .member ⟨.netProtocol, "TCP", 1, by decide⟩
  | workMode => .member ⟨.netWorkMode, "SERVER", 0, by decide⟩
  | remoteIp => .ip ⟨0, 0, 0, 0⟩
  | remotePort => .int 0
  | gatewayIp => .ip ⟨0, 0, 0, 0⟩
  | subnetMask => .ip ⟨255, 255, 255, 0⟩
  | dhcp => .member ⟨.toggle, "DISABLED", 0, by decide⟩
  | baudRate => .member ⟨.baudRate, "BAUD_9600", 3, by decide⟩
  | parity => .member ⟨.parity, "NONE", 0, by decide⟩
  | dataBits => .member ⟨.dataBits, "EIGHT", 1, by decide⟩
  | dtrMode => .member ⟨.toggle, "DISABLED", 0, by decide⟩
  | rts => .member ⟨.toggle, "DISABLED", 0, by decide⟩
  | connectionMode => .member ⟨.toggle, "DISABLED", 0, by decide⟩
  | connectionTimeout => .int 0
  | reconnect => .int 0
  | maxLength => .int 0
  | maxDelay => .int 0

theorem mem_all (f : Field) : f ∈ all := by
  cases f <;> decide

theorem nodup_all : all.Nodup := by
  decide

theorem name_injective : Function.Injective name := by
  have h : ∀ f ∈ all, ∀ f' ∈ all, f.name = f'.name → f = f' := by decide
  exact fun f f' => h f f.mem_all f' f'.mem_all

/-- Every default is of the annotated type. -/
theorem isExact_default (f : Field) : f.default.isExact f.kind := by
  cases f <;> decide

end Field

/-- The value of `dhcp` after `set_dhcp`. -/
def dhcpValue (enabled : Bool) : Value :=
  if enabled then .member ⟨.toggle, "ENABLED", 1, by decide⟩
  else .member ⟨.toggle, "DISABLED", 0, by decide⟩

/-- A configuration: a value for every field. -/
abbrev DeviceConfig := Field → Value

/-! ## Strings and values -/

def parseInt (text : Text) : Except PyError ℤ :=
  match pyInt text with
  | some n => .ok n
  | none => .error ⟨.valueError, "not an integer"⟩

def parseEnum (cls : EnumClass) (text : Text) : Except PyError EnumMember := do
  let number ← parseInt text
  match cls.find number with
  | some m => return m
  | none => throw ⟨.valueError, s!"not in {(cls.members.map Prod.snd).mergeSort}"⟩

/-- `_parse`: one wire string as a value of the type. -/
def parse (kind : Kind) (text : Text) : Except PyError Value :=
  match kind with
  | .str => .ok (.str text)
  | .ipv4Address => (IPv4Address.parse text).map .ip
  | .int => (parseInt text).map .int
  | .intEnum cls => (parseEnum cls text).map .member

/-- `_dump`: `str` of the `.value` of an enum member, and `str` of anything else. -/
def dump : Value → Except PyError Text
  | .member m => strInt m.value
  | .intEnum _ written _ => written
  | value => value.toStr

theorem parseInt_eq_ok_iff {n : ℤ} {text : Text} : parseInt text = .ok n ↔ pyInt text = some n := by
  unfold parseInt
  cases pyInt text with
  | none => exact iff_of_false nofun nofun
  | some k => rw [Except.ok.injEq, Option.some.injEq]

theorem parseInt_strInt {n : ℤ} {text : Text} (h : strInt n = .ok text) :
    parseInt text = .ok n :=
  parseInt_eq_ok_iff.mpr (pyInt_intText h).2

/-- A value of the annotated type is read back from its string. -/
theorem parse_dump {v : Value} {kind : Kind} {text : Text} (hexact : v.isExact kind)
    (h : dump v = .ok text) : parse kind text = .ok v := by
  unfold Value.isExact at hexact
  split at hexact
  · cases h
    rfl
  · next n =>
    have hn : parseInt text = .ok n := parseInt_strInt h
    rw [parse, hn]
    rfl
  · next address =>
    cases h
    exact congrArg (Except.map Value.ip) address.parse_text
  · next m cls =>
    have hclass : m.cls = cls := of_decide_eq_true hexact
    have hn : parseInt text = .ok m.value := parseInt_strInt h
    rw [parse, parseEnum, hn, ← hclass]
    simp only [bind, Except.bind, EnumClass.find_value]
    rfl
  · cases hexact

/-- Only a number can be too long for a string. -/
theorem exists_dump {v : Value} {kind : Kind} (hexact : v.isExact kind) (hkind : kind ≠ .int) :
    ∃ text, dump v = .ok text := by
  unfold Value.isExact at hexact
  split at hexact
  · exact ⟨_, rfl⟩
  · exact absurd rfl hkind
  · exact ⟨_, rfl⟩
  · next m cls =>
    have hshort : ∀ member ∈ m.cls.members,
        (Nat.toDigits 10 member.2.natAbs).length ≤ maxStrDigits := by
      cases m.cls <;> decide
    exact ⟨_, if_pos (hshort _ m.mem)⟩
  · cases hexact

/-- Numbers and addresses are plain text. -/
theorem dump_plain {v : Value} {kind : Kind} {text : Text} (hexact : v.isExact kind)
    (h : dump v = .ok text)
    (hstr : ∀ text, v = .str text → isAscii text ∧ '|' ∉ text) : isAscii text ∧ '|' ∉ text := by
  have hplain : ∀ {text : Text}, (∀ c ∈ text, c.toNat < 124) → isAscii text ∧ '|' ∉ text :=
    fun hbound => ⟨fun c hc => (hbound c hc).trans (by decide),
      fun hbar => absurd (hbound '|' hbar) (by decide)⟩
  have hnumber : ∀ {n : ℤ} {text : Text}, strInt n = .ok text → isAscii text ∧ '|' ∉ text := by
    intro n text hn
    obtain ⟨rfl, _⟩ := pyInt_intText hn
    exact hplain fun c hc => (intText_bounds hc).2
  unfold Value.isExact at hexact
  split at hexact
  · cases h
    exact hstr text rfl
  · exact hnumber h
  · next address =>
    cases h
    exact hplain fun c hc => (IPv4Address.text_bounds hc).2.1
  · exact hnumber h
  · cases hexact

/-! ## Validation -/

/-- The line for a rule that the value of a field breaks. -/
def showProblem (f : Field) (v : Value) (broken : Bool) (rule : String) :
    Except PyError (List String) := do
  if broken then
    return [s!"{f.name}: {String.ofList (← v.repr)} {rule}"]
  return []

/-- The errors of one field: its type, and the framing rules for strings. -/
def checkField (f : Field) (v : Value) : Except PyError (List String) := do
  if ¬ v.isInstance f.kind then
    showProblem f v true s!"must be {f.kind.name}"
  else
    match v.text? with
    | some text =>
      let delimiter ← showProblem f v ('|' ∈ text) "must not contain '|'"
      let encoding ← showProblem f v (¬ isAscii text) "must be ASCII"
      return delimiter ++ encoding
    | none => return []

/-- The error of a number that is out of range. -/
def checkRange (cfg : DeviceConfig) (inRange : ℤ → Bool) (range : String) (f : Field) :
    Except PyError (List String) := do
  match (cfg f).int? with
  | some n =>
    if inRange n then return []
    else return [s!"{f.name}: {String.ofList (← (cfg f).format)} must be {range}"]
  | none => return []

def portMax : ℤ := 65535

def checkPort (cfg : DeviceConfig) : Field → Except PyError (List String) :=
  checkRange cfg (fun port => 1 ≤ port ∧ port ≤ portMax) s!"1-{portMax}"

def checkCount (cfg : DeviceConfig) : Field → Except PyError (List String) :=
  checkRange cfg (fun n => 0 ≤ n) "a non-negative integer"

/-- Every problem of every field, in one exception. -/
def DeviceConfig.validate (cfg : DeviceConfig) : Except PyError Unit := do
  let types ← Field.all.mapM fun f => checkField f (cfg f)
  let ports ← [Field.portNumber, .remotePort].mapM (checkPort cfg)
  let counts ← [Field.connectionTimeout, .reconnect, .maxLength, .maxDelay].mapM (checkCount cfg)
  let errors := (types ++ ports ++ counts).flatten
  if errors ≠ [] then
    throw ⟨.valueError, "Invalid configuration:\n  " ++ "\n  ".intercalate errors⟩

/-- A comprehension of error lists has none exactly if every element has none. -/
theorem mapM_flatten_eq_nil_iff {α : Type} {items : List α}
    {check : α → Except PyError (List String)} :
    (∃ errors, items.mapM check = .ok errors ∧ errors.flatten = []) ↔
      ∀ a ∈ items, check a = .ok [] := by
  constructor
  · rintro ⟨errors, hrun, hempty⟩ a ha
    obtain ⟨found, hfound, hcheck⟩ := mem_of_mapM_eq_ok hrun ha
    rw [hcheck, List.flatten_eq_nil_iff.mp hempty found hfound]
  · intro h
    obtain ⟨errors, hrun⟩ := exists_mapM_eq_ok fun a ha => ⟨[], h a ha⟩
    refine ⟨errors, hrun, List.flatten_eq_nil_iff.mpr fun found hfound => ?_⟩
    obtain ⟨a, ha, hcheck⟩ := exists_of_mem_mapM_eq_ok hrun hfound
    exact Except.ok.inj (hcheck.symm.trans (h a ha))

/-- A configuration is accepted exactly if no check finds an error. -/
theorem DeviceConfig.validate_eq_ok_iff {cfg : DeviceConfig} :
    cfg.validate = .ok () ↔
      (∀ f, checkField f (cfg f) = .ok []) ∧
        (∀ f ∈ [Field.portNumber, .remotePort], checkPort cfg f = .ok []) ∧
        ∀ f ∈ [Field.connectionTimeout, .reconnect, .maxLength, .maxDelay],
          checkCount cfg f = .ok [] := by
  have hall : (∀ f, checkField f (cfg f) = .ok []) ↔
      ∀ f ∈ Field.all, checkField f (cfg f) = .ok [] :=
    ⟨fun h f _ => h f, fun h f => h f f.mem_all⟩
  rw [hall, ← mapM_flatten_eq_nil_iff, ← mapM_flatten_eq_nil_iff, ← mapM_flatten_eq_nil_iff]
  constructor
  · intro h
    obtain ⟨types, htypes, h⟩ := bind_eq_ok h
    obtain ⟨ports, hports, h⟩ := bind_eq_ok h
    obtain ⟨counts, hcounts, h⟩ := bind_eq_ok h
    have hempty : (types ++ ports ++ counts).flatten = [] := by
      by_contra hne
      simp only [if_pos hne] at h
      cases h
    rw [List.flatten_append, List.flatten_append, List.append_eq_nil_iff,
      List.append_eq_nil_iff] at hempty
    exact ⟨⟨types, htypes, hempty.1.1⟩, ⟨ports, hports, hempty.1.2⟩, counts, hcounts, hempty.2⟩
  · rintro ⟨⟨types, htypes, htypes'⟩, ⟨ports, hports, hports'⟩, counts, hcounts, hcounts'⟩
    have hempty : (types ++ ports ++ counts).flatten = [] := by
      rw [List.flatten_append, List.flatten_append, htypes', hports', hcounts']
      rfl
    unfold validate
    simp only [htypes, hports, hcounts, bind, Except.bind, if_neg (not_not_intro hempty)]
    rfl

theorem showProblem_eq_nil_iff {f : Field} {v : Value} {broken : Bool} {rule : String} :
    showProblem f v broken rule = .ok [] ↔ broken = false := by
  cases broken with
  | false => exact iff_of_true rfl rfl
  | true =>
    refine iff_of_false (fun h => ?_) Bool.true_eq_false.mp
    obtain ⟨shown, _, h⟩ := bind_eq_ok h
    cases h

/-- A field is accepted exactly if its value is of the type and a string keeps the framing
rules. -/
theorem checkField_eq_nil_iff {f : Field} {v : Value} :
    checkField f v = .ok [] ↔
      v.isInstance f.kind = true ∧ ∀ text, v.text? = some text → isAscii text ∧ '|' ∉ text := by
  unfold checkField
  by_cases htype : v.isInstance f.kind
  swap
  · rw [if_pos htype, showProblem_eq_nil_iff]
    exact iff_of_false Bool.noConfusion fun h => htype h.1
  rw [if_neg (not_not_intro htype)]
  cases htext : v.text? with
  | none => exact iff_of_true rfl ⟨htype, fun text h => by cases h⟩
  | some text =>
    constructor
    · intro h
      obtain ⟨delimiter, hdelimiter, h⟩ := bind_eq_ok h
      obtain ⟨encoding, hencoding, h⟩ := bind_eq_ok h
      obtain ⟨rfl, rfl⟩ := List.append_eq_nil_iff.mp (Except.ok.inj h)
      rw [showProblem_eq_nil_iff, decide_eq_false_iff_not] at hdelimiter hencoding
      refine ⟨htype, fun content hcontent => ?_⟩
      cases hcontent
      exact ⟨not_not.mp hencoding, hdelimiter⟩
    · rintro ⟨_, hrules⟩
      obtain ⟨hascii, hbar⟩ := hrules text rfl
      have hdelimiter : showProblem f v ('|' ∈ text) "must not contain '|'" = .ok [] :=
        showProblem_eq_nil_iff.mpr (decide_eq_false hbar)
      have hencoding : showProblem f v (¬ isAscii text) "must be ASCII" = .ok [] :=
        showProblem_eq_nil_iff.mpr (decide_eq_false (not_not_intro hascii))
      simp only [hdelimiter, hencoding]
      rfl

/-- A number is accepted exactly if it is in range; other values are left to `checkField`. -/
theorem checkRange_eq_nil_iff {cfg : DeviceConfig} {inRange : ℤ → Bool} {range : String}
    {f : Field} :
    checkRange cfg inRange range f = .ok [] ↔
      ∀ n, (cfg f).int? = some n → inRange n = true := by
  unfold checkRange
  cases (cfg f).int? with
  | none => exact iff_of_true rfl fun n h => by cases h
  | some n =>
    by_cases hrange : inRange n
    · simp only [if_pos hrange]
      exact iff_of_true rfl fun n' h => Option.some.inj h ▸ hrange
    · simp only [if_neg hrange]
      refine iff_of_false (fun h => ?_) fun h => hrange (h n rfl)
      obtain ⟨shown, _, h⟩ := bind_eq_ok h
      cases h

/-- The strings of a validated configuration keep the framing rules. -/
theorem DeviceConfig.plain_of_validate {cfg : DeviceConfig} (h : cfg.validate = .ok ())
    {f : Field} {text : Text} (hstr : cfg f = .str text) : isAscii text ∧ '|' ∉ text := by
  have hcheck := checkField_eq_nil_iff.mp ((validate_eq_ok_iff.mp h).1 f)
  exact hcheck.2 text (by rw [hstr]; rfl)

/-! ## The wire boundary -/

/-- The items of the dictionary of wire strings. -/
def DeviceConfig.toWire (cfg : DeviceConfig) : Except PyError (List (String × Text)) := do
  cfg.validate
  Field.all.mapM fun f => do return (f.name, ← dump (cfg f))

/-- What `from_wire` makes of the string of one field; `none` if there is no string. -/
def parseField (raw : String → Option Text) (f : Field) : Option (Except PyError Value) :=
  (raw f.name).map (parse f.kind)

/-- The line of one field in the error report. -/
def parseProblem (raw : String → Option Text) (f : Field) : Option String :=
  match raw f.name with
  | none => none
  | some text =>
    match parse f.kind text with
    | .ok _ => none
    | .error e => some s!"{f.name}: {reprText text} ({e.message})"

def DeviceConfig.fromWire (raw : String → Option Text) : Except PyError DeviceConfig :=
  let errors := Field.all.filterMap (parseProblem raw)
  if errors ≠ [] then
    .error ⟨.valueError, "Device returned unparseable settings:\n  " ++ "\n  ".intercalate errors⟩
  else
    .ok fun f =>
      match parseField raw f with
      | some (.ok value) => value
      | _ => f.default

theorem DeviceConfig.toWire_eq_ok {cfg : DeviceConfig} {wire : List (String × Text)}
    (h : cfg.toWire = .ok wire) (f : Field) :
    ∃ text, Keyed.dict wire f.name = some text ∧ dump (cfg f) = .ok text := by
  obtain ⟨_, _, h⟩ := bind_eq_ok h
  have hnames : wire.map Prod.fst = Field.all.map Field.name := by
    refine map_of_mapM_eq_ok h fun f item hitem => ?_
    obtain ⟨text, _, hitem⟩ := bind_eq_ok hitem
    cases hitem
    rfl
  obtain ⟨item, hmem, hitem⟩ := mem_of_mapM_eq_ok h f.mem_all
  obtain ⟨text, htext, hitem⟩ := bind_eq_ok hitem
  cases hitem
  refine ⟨text, Keyed.dict_eq_some ?_ hmem, htext⟩
  rw [hnames]
  exact Field.nodup_all.map Field.name_injective

/-- A validated configuration whose values have strings has a wire form. -/
theorem DeviceConfig.exists_toWire {cfg : DeviceConfig} (hvalid : cfg.validate = .ok ())
    (h : ∀ f, ∃ text, dump (cfg f) = .ok text) : ∃ wire, cfg.toWire = .ok wire := by
  unfold toWire
  rw [hvalid]
  refine exists_mapM_eq_ok fun f _ => ?_
  obtain ⟨text, htext⟩ := h f
  exact ⟨(f.name, text), by rw [htext]; rfl⟩

/-- A string that is there has been parsed. -/
theorem DeviceConfig.parse_of_fromWire {raw : String → Option Text} {cfg : DeviceConfig}
    (h : fromWire raw = .ok cfg) {f : Field} {text : Text} (hraw : raw f.name = some text) :
    parse f.kind text = .ok (cfg f) := by
  unfold fromWire at h
  by_cases hnone : Field.all.filterMap (parseProblem raw) = []
  swap
  · simp only [if_pos hnone] at h
    cases h
  simp only [if_neg (not_not_intro hnone)] at h
  cases h
  have hproblem : parseProblem raw f = none :=
    List.filterMap_eq_nil_iff.mp hnone f f.mem_all
  cases hparse : parse f.kind text with
  | error e =>
    simp only [parseProblem, hraw, hparse] at hproblem
    cases hproblem
  | ok v => simp only [parseField, hraw, hparse, Option.map_some]

theorem DeviceConfig.fromWire_eq_ok {raw : String → Option Text} {cfg : DeviceConfig}
    (h : ∀ f : Field, ∃ text, raw f.name = some text ∧ parse f.kind text = .ok (cfg f)) :
    fromWire raw = .ok cfg := by
  have hnone : Field.all.filterMap (parseProblem raw) = [] := by
    rw [List.filterMap_eq_nil_iff]
    intro f _
    obtain ⟨text, hraw, hparse⟩ := h f
    simp only [parseProblem, hraw, hparse]
  unfold fromWire
  simp only [hnone]
  rw [if_neg (not_not_intro rfl)]
  refine congrArg Except.ok (funext fun f => ?_)
  obtain ⟨text, hraw, hparse⟩ := h f
  simp only [parseField, hraw, hparse, Option.map_some]

end UhfReader18.Hwvx
