import UhfReader18.Hwvx.Device

/-!
# What validation lets through

`validate` and `_parse` decide separately what a configuration may hold. The first looks at
types and ranges, the second at strings, and neither asks the other.

Results:
1. `validate_gate`: which accepted configurations survive the wire. A boolean is an `int` for
   `validate` and no number for `from_wire`.
2. `read_modify_write`: which configurations that were read can be saved. Ports and counts are
   read without regard to their range.
-/

namespace UhfReader18.Hwvx

/-! ## Accepted values on the wire -/

/-- `v == w`. A value of a class not listed is equal to no other. -/
def Value.Equals (v w : Value) : Prop :=
  v.builtin? ≠ none ∧ v.builtin? = w.builtin?

instance (v w : Value) : Decidable (v.Equals w) :=
  inferInstanceAs (Decidable (_ ∧ _))

/-- `from_wire` reads an equal value from the string of this one. -/
def Value.ReadsBack (v : Value) (kind : Kind) : Prop :=
  ∃ text w, dump v = .ok text ∧ parse kind text = .ok w ∧ v.Equals w

/-- The string of a value says what the value stands for: it is no boolean, a number is short
enough for `str`, and where a class has its own say in the string, it is the string itself, or
what is read from it is the number or the address. -/
def Value.faithful : Value → Bool
  | str _ => true
  | int n => (Nat.toDigits 10 n.natAbs).length ≤ maxStrDigits
  | bool _ => false
  | ip _ => true
  | member _ => true
  | intEnum n written _ => written.toOption.any fun text => pyInt text = some n
  | derived (.str content) texts => texts.str.toOption.any fun text => text = content
  | derived (.int n) texts => texts.str.toOption.any fun text => pyInt text = some n
  | derived (.ip address) texts =>
    texts.str.toOption.any fun text => IPv4Address.parse text = .ok address
  | other _ => false

theorem strInt_eq_ok_iff {n : ℤ} :
    (∃ text, strInt n = .ok text) ↔ (Nat.toDigits 10 n.natAbs).length ≤ maxStrDigits := by
  unfold strInt
  split
  · next h => exact iff_of_true ⟨_, rfl⟩ h
  · next h => exact iff_of_false (fun ⟨_, hrun⟩ => by cases hrun) h

/-- The string of an enum member is always there. -/
theorem strInt_member (m : EnumMember) : ∃ text, strInt m.value = .ok text := by
  have hexact : (Value.member m).isExact (.intEnum m.cls) := decide_eq_true rfl
  exact exists_dump hexact nofun

theorem Value.equals_of_builtin {v w : Value} {base : Builtin} (hv : v.builtin? = some base)
    (hw : w.builtin? = some base) : v.Equals w :=
  ⟨by rw [hv]; exact Option.some_ne_none base, hv.trans hw.symm⟩

/-- Only the string of a value and the builtin it is equal to matter. -/
theorem readsBack_of_dump_iff {v : Value} {kind : Kind} {base : Builtin}
    (hvalue : v.builtin? = some base) {good : Text → Prop} [DecidablePred good]
    (hparse : ∀ text, (∃ w, parse kind text = .ok w ∧ w.builtin? = some base) ↔ good text) :
    v.ReadsBack kind ↔ (dump v).toOption.any (fun text => good text) = true := by
  constructor
  · rintro ⟨text, w, hdump, hw, heq⟩
    rw [hdump]
    exact decide_eq_true ((hparse text).mp ⟨w, hw, heq.2.symm.trans hvalue⟩)
  · intro hgood
    cases hdump : dump v with
    | error e =>
      rw [hdump] at hgood
      cases hgood
    | ok text =>
      rw [hdump] at hgood
      obtain ⟨w, hw, hbase⟩ := (hparse text).mpr (of_decide_eq_true hgood)
      exact ⟨text, w, hdump, hw, Value.equals_of_builtin hvalue hbase⟩

theorem exists_parse_str_iff (content text : Text) :
    (∃ w, parse .str text = .ok w ∧ w.builtin? = some (.str content)) ↔ text = content := by
  constructor
  · rintro ⟨_, hparse, hw⟩
    cases hparse
    exact Builtin.str.inj (Option.some.inj hw)
  · rintro rfl
    exact ⟨.str text, rfl, rfl⟩

theorem exists_parse_int_iff (n : ℤ) (text : Text) :
    (∃ w, parse .int text = .ok w ∧ w.builtin? = some (.int n)) ↔ pyInt text = some n := by
  rw [← parseInt_eq_ok_iff]
  constructor
  · rintro ⟨_, hparse, hw⟩
    obtain ⟨k, hk, rfl⟩ := map_eq_ok_iff.mp hparse
    cases hw
    exact hk
  · intro hn
    exact ⟨.int n, map_eq_ok_iff.mpr ⟨n, hn, rfl⟩, rfl⟩

theorem exists_parse_ip_iff (address : IPv4Address) (text : Text) :
    (∃ w, parse .ipv4Address text = .ok w ∧ w.builtin? = some (.ip address)) ↔
      IPv4Address.parse text = .ok address := by
  constructor
  · rintro ⟨_, hparse, hw⟩
    obtain ⟨address', haddress, rfl⟩ := map_eq_ok_iff.mp hparse
    cases hw
    exact haddress
  · intro haddress
    exact ⟨.ip address, map_eq_ok_iff.mpr ⟨address, haddress, rfl⟩, rfl⟩

/-- A value that is dumped as a number is read as that number. -/
theorem readsBack_number_iff {v : Value} {n : ℤ} (hdump : dump v = strInt n)
    (hvalue : v.builtin? = some (.int n)) :
    v.ReadsBack .int ↔ (Nat.toDigits 10 n.natAbs).length ≤ maxStrDigits := by
  rw [← strInt_eq_ok_iff]
  constructor
  · rintro ⟨text, w, htext, _⟩
    exact ⟨text, hdump ▸ htext⟩
  · rintro ⟨text, htext⟩
    obtain ⟨w, hparse, hw⟩ := (exists_parse_int_iff n text).mpr (pyInt_intText htext).2
    exact ⟨text, w, hdump.trans htext, hparse, Value.equals_of_builtin hvalue hw⟩

/-- An accepted value survives the wire exactly if its string is faithful. -/
theorem readsBack_iff {v : Value} {kind : Kind} (h : v.isInstance kind = true) :
    v.ReadsBack kind ↔ v.faithful = true := by
  cases kind with
  | str =>
    cases v with
    | str text =>
      exact iff_of_true ⟨text, .str text, rfl, rfl, Value.equals_of_builtin rfl rfl⟩ rfl
    | derived base texts =>
      cases base with
      | str content => exact readsBack_of_dump_iff rfl (exists_parse_str_iff content)
      | _ => cases h
    | _ => cases h
  | int =>
    cases v with
    | int n =>
      rw [Value.faithful, decide_eq_true_eq]
      exact readsBack_number_iff rfl rfl
    | bool b =>
      -- `int` reads neither `True` nor `False`
      refine iff_of_false ?_ Bool.false_ne_true
      rintro ⟨_, _, hdump, hparse, _⟩
      cases b <;> cases hdump <;> cases hparse
    | member m =>
      obtain ⟨text, htext⟩ := strInt_member m
      exact iff_of_true
        ((readsBack_number_iff rfl rfl).mpr (strInt_eq_ok_iff.mp ⟨text, htext⟩)) rfl
    | intEnum n written texts => exact readsBack_of_dump_iff rfl (exists_parse_int_iff n)
    | derived base texts =>
      cases base with
      | int n => exact readsBack_of_dump_iff rfl (exists_parse_int_iff n)
      | _ => cases h
    | _ => cases h
  | ipv4Address =>
    cases v with
    | ip address =>
      exact iff_of_true ⟨address.text, .ip address, rfl,
        congrArg (Except.map Value.ip) address.parse_text, Value.equals_of_builtin rfl rfl⟩ rfl
    | derived base texts =>
      cases base with
      | ip address => exact readsBack_of_dump_iff rfl (exists_parse_ip_iff address)
      | _ => cases h
    | _ => cases h
  | intEnum cls =>
    cases v with
    | member m =>
      have hexact : (Value.member m).isExact (.intEnum cls) := h
      obtain ⟨text, hdump⟩ := exists_dump hexact fun hint => by cases hint
      exact iff_of_true
        ⟨text, .member m, hdump, parse_dump hexact hdump, Value.equals_of_builtin rfl rfl⟩ rfl
    | _ => cases h

/-! ## Accepted configurations on the wire -/

theorem isInstance_of_validate {cfg : DeviceConfig} (h : cfg.validate = .ok ()) (f : Field) :
    (cfg f).isInstance f.kind = true :=
  (checkField_eq_nil_iff.mp ((DeviceConfig.validate_eq_ok_iff.mp h).1 f)).1

/-- A configuration survives the wire exactly if every field does. -/
theorem fromWire_toWire_iff {cfg : DeviceConfig} (hvalid : cfg.validate = .ok ()) :
    (∃ wire cfg', cfg.toWire = .ok wire ∧ DeviceConfig.fromWire (Keyed.dict wire) = .ok cfg' ∧
      ∀ f, (cfg f).Equals (cfg' f)) ↔ ∀ f, (cfg f).ReadsBack f.kind := by
  constructor
  · rintro ⟨wire, cfg', hwire, hread, heq⟩ f
    obtain ⟨text, hraw, hdump⟩ := DeviceConfig.toWire_eq_ok hwire f
    exact ⟨text, cfg' f, hdump, DeviceConfig.parse_of_fromWire hread hraw, heq f⟩
  · intro h
    choose text value hdump hparse heq using h
    obtain ⟨wire, hwire⟩ := DeviceConfig.exists_toWire hvalid fun f => ⟨text f, hdump f⟩
    refine ⟨wire, value, hwire, DeviceConfig.fromWire_eq_ok fun f => ?_, heq⟩
    obtain ⟨text', hraw, hdump'⟩ := DeviceConfig.toWire_eq_ok hwire f
    cases (hdump f).symm.trans hdump'
    exact ⟨text f, hraw, hparse f⟩

/-- The gate to the wire. A configuration that `validate` accepts is turned into strings that
`from_wire` reads as an equal configuration exactly if the string of every field is faithful.
Of a configuration that `validate` rejects nothing is sent. -/
theorem validate_gate (cfg : DeviceConfig) :
    (cfg.validate = .ok () →
      ((∃ wire cfg', cfg.toWire = .ok wire ∧
          DeviceConfig.fromWire (Keyed.dict wire) = .ok cfg' ∧ ∀ f, (cfg f).Equals (cfg' f)) ↔
        ∀ f, (cfg f).faithful = true)) ∧
    ∀ e, cfg.validate = .error e → ∀ {σ : Type} (api : UdpApi σ) (device : HwVxDevice) (s : σ),
      device.saveConfig api cfg s = .error e s := by
  constructor
  · intro hvalid
    rw [fromWire_toWire_iff hvalid]
    exact forall_congr' fun f => readsBack_iff (isInstance_of_validate hvalid f)
  · intro e hinvalid σ api device s
    have hwire : cfg.toWire = .error e := by
      unfold DeviceConfig.toWire
      rw [hinvalid]
      rfl
    unfold HwVxDevice.saveConfig
    rw [hwire]
    rfl

/-- A member of another enum whose value is its number and a value of a class derived from `str`
come through. -/
theorem validate_gate_mixed :
    let name := "gate 7".toList
    let number := "6000".toList
    let cfg : DeviceConfig := fun f =>
      match f with
      | .username => .derived (.str name) ⟨.ok name, .ok name, .ok "Name('gate 7')".toList⟩
      | .portNumber =>
        .intEnum 6000 (.ok number) ⟨.ok number, .ok number, .ok "<Port.DATA: 6000>".toList⟩
      | .remotePort => .int 65535
      | f => f.default
    ∃ wire cfg', cfg.toWire = .ok wire ∧ DeviceConfig.fromWire (Keyed.dict wire) = .ok cfg' ∧
      ∀ f, (cfg f).Equals (cfg' f) := by
  intro name number cfg
  have hfaithful : ∀ f ∈ Field.all, (cfg f).faithful = true := by decide +kernel
  exact ((validate_gate cfg).1 (by decide +kernel)).mpr fun f => hfaithful f f.mem_all

/-- Not the number of a member is written but its value. -/
example (texts : Texts) :
    (Value.intEnum 6000 (.ok "six thousand".toList) texts).faithful = false := rfl

/-- A boolean as a port is accepted, and cannot be read back. -/
theorem validate_gate_bool :
    ¬ ∀ cfg : DeviceConfig, cfg.validate = .ok () →
      ∃ wire cfg', cfg.toWire = .ok wire ∧
        DeviceConfig.fromWire (Keyed.dict wire) = .ok cfg' ∧ ∀ f, (cfg f).Equals (cfg' f) := by
  intro h
  let cfg : DeviceConfig := fun f =>
    match f with
    | .portNumber => .bool true
    | .remotePort => .int 6000
    | f => f.default
  have hvalid : cfg.validate = .ok () := by decide +kernel
  have hport := (fromWire_toWire_iff hvalid).mp (h cfg hvalid) .portNumber
  exact absurd ((readsBack_iff rfl).mp hport) Bool.false_ne_true

/-! ## Configurations that were read -/

theorem cls_of_parseEnum {cls : EnumClass} {text : Text} {m : EnumMember}
    (h : parseEnum cls text = .ok m) : m.cls = cls := by
  obtain ⟨number, _, hfind⟩ := bind_eq_ok h
  split at hfind
  · next m' hfound =>
    cases hfind
    obtain ⟨member, _, rfl⟩ := Option.map_eq_some_iff.mp hfound
    rfl
  · cases hfind

/-- A parsed value is of the type, and has a string. -/
theorem parse_eq_ok {kind : Kind} {text : Text} {v : Value} (h : parse kind text = .ok v) :
    v.isExact kind = true ∧ (∃ text', dump v = .ok text') ∧
      ∀ content, v.text? = some content → content = text := by
  cases kind with
  | str =>
    cases h
    exact ⟨rfl, ⟨text, rfl⟩, fun content hcontent => (Option.some.inj hcontent).symm⟩
  | int =>
    obtain ⟨n, hnumber, rfl⟩ := map_eq_ok_iff.mp h
    exact ⟨rfl, ⟨_, strInt_of_pyInt (parseInt_eq_ok_iff.mp hnumber)⟩, nofun⟩
  | ipv4Address =>
    obtain ⟨address, _, rfl⟩ := map_eq_ok_iff.mp h
    exact ⟨rfl, ⟨address.text, rfl⟩, nofun⟩
  | intEnum cls =>
    obtain ⟨m, hmember, rfl⟩ := map_eq_ok_iff.mp h
    exact ⟨decide_eq_true (cls_of_parseEnum hmember), strInt_member m, nofun⟩

theorem isInstance_of_isExact {v : Value} {kind : Kind} (h : v.isExact kind = true) :
    v.isInstance kind = true := by
  unfold Value.isExact at h
  split at h
  · rfl
  · rfl
  · rfl
  · exact h
  · cases h

/-- The numbers `validate` looks at are in their ranges. -/
structure DeviceConfig.InRange (cfg : DeviceConfig) : Prop where
  ports : ∀ f ∈ [Field.portNumber, .remotePort], ∀ n, (cfg f).int? = some n → 1 ≤ n ∧ n ≤ portMax
  counts : ∀ f ∈ [Field.connectionTimeout, .reconnect, .maxLength, .maxDelay],
    ∀ n, (cfg f).int? = some n → 0 ≤ n

theorem validate_iff_inRange {cfg : DeviceConfig}
    (h : ∀ f, (cfg f).isInstance f.kind = true ∧
      ∀ text, (cfg f).text? = some text → isAscii text ∧ '|' ∉ text) :
    cfg.validate = .ok () ↔ cfg.InRange := by
  have hfields : ∀ f, checkField f (cfg f) = .ok [] := fun f => checkField_eq_nil_iff.mpr (h f)
  rw [DeviceConfig.validate_eq_ok_iff]
  constructor
  · rintro ⟨_, hports, hcounts⟩
    refine ⟨fun f hf n hn => ?_, fun f hf n hn => ?_⟩
    · exact of_decide_eq_true (checkRange_eq_nil_iff.mp (hports f hf) n hn)
    · exact of_decide_eq_true (checkRange_eq_nil_iff.mp (hcounts f hf) n hn)
  · intro hrange
    refine ⟨hfields, fun f hf => ?_, fun f hf => ?_⟩
    · exact checkRange_eq_nil_iff.mpr fun n hn => decide_eq_true (hrange.ports f hf n hn)
    · exact checkRange_eq_nil_iff.mpr fun n hn => decide_eq_true (hrange.counts f hf n hn)

/-- Reading, and writing back. A configuration that `from_wire` has read from plain strings for
all settings is accepted by `validate` exactly if its ports and counts are in range, and then
it comes back from its own strings unchanged. -/
theorem read_modify_write (raw : String → Option Text) (cfg : DeviceConfig)
    (hraw : ∀ f : Field, ∃ text, raw f.name = some text ∧ isAscii text ∧ '|' ∉ text)
    (hread : DeviceConfig.fromWire raw = .ok cfg) :
    (cfg.validate = .ok () ↔ cfg.InRange) ∧
      (cfg.InRange → ∃ wire, cfg.toWire = .ok wire ∧
        DeviceConfig.fromWire (Keyed.dict wire) = .ok cfg) := by
  have hparsed : ∀ f, ∃ text, (isAscii text ∧ '|' ∉ text) ∧ parse f.kind text = .ok (cfg f) := by
    intro f
    obtain ⟨text, htext, hplain⟩ := hraw f
    exact ⟨text, hplain, DeviceConfig.parse_of_fromWire hread htext⟩
  have hexact : ∀ f, (cfg f).isExact f.kind = true := fun f =>
    let ⟨_, _, hparse⟩ := hparsed f
    (parse_eq_ok hparse).1
  have hvalid : cfg.validate = .ok () ↔ cfg.InRange := by
    refine validate_iff_inRange fun f => ⟨isInstance_of_isExact (hexact f), ?_⟩
    obtain ⟨text, hplain, hparse⟩ := hparsed f
    intro content hcontent
    exact (parse_eq_ok hparse).2.2 content hcontent ▸ hplain
  refine ⟨hvalid, fun hrange => ?_⟩
  obtain ⟨wire, hwire⟩ := DeviceConfig.exists_toWire (hvalid.mpr hrange) fun f =>
    let ⟨_, _, hparse⟩ := hparsed f
    (parse_eq_ok hparse).2.1
  refine ⟨wire, hwire, DeviceConfig.fromWire_eq_ok fun f => ?_⟩
  obtain ⟨text, htext, hdump⟩ := DeviceConfig.toWire_eq_ok hwire f
  exact ⟨text, htext, parse_dump (hexact f) hdump⟩

/-- Strings for all settings: an address where one is due, and otherwise a number. -/
def uniformSettings (number : Text) (name : String) : Option Text :=
  if name ∈ ["ip_address", "remote_ip", "gateway_ip", "subnet_mask"] then some "10.0.0.1".toList
  else some number

theorem uniformSettings_plain {number : Text} (hascii : isAscii number) (hbar : '|' ∉ number)
    (f : Field) :
    ∃ text, uniformSettings number f.name = some text ∧ isAscii text ∧ '|' ∉ text := by
  unfold uniformSettings
  split
  · exact ⟨_, rfl, by decide, by decide⟩
  · exact ⟨number, rfl, hascii, hbar⟩

/-- A module whose ports and counts are one. -/
theorem read_modify_write_ones :
    ∃ cfg wire, DeviceConfig.fromWire (uniformSettings "1".toList) = .ok cfg ∧
      cfg.validate = .ok () ∧ cfg.toWire = .ok wire ∧
      DeviceConfig.fromWire (Keyed.dict wire) = .ok cfg := by
  have hread : (DeviceConfig.fromWire (uniformSettings "1".toList)).toOption.any
      (fun cfg => cfg.validate = .ok ()) := by decide +kernel
  cases hcfg : DeviceConfig.fromWire (uniformSettings "1".toList) with
  | error e =>
    rw [hcfg] at hread
    cases hread
  | ok cfg =>
    rw [hcfg] at hread
    have hvalid : cfg.validate = .ok () := of_decide_eq_true hread
    obtain ⟨hiff, hback⟩ := read_modify_write _ cfg
      (uniformSettings_plain (by decide) (by decide)) hcfg
    obtain ⟨wire, hwire, hagain⟩ := hback (hiff.mp hvalid)
    exact ⟨cfg, wire, rfl, hvalid, hwire, hagain⟩

/-- A module whose ports are zero can be read and cannot be saved. -/
theorem read_modify_write_zeros :
    ¬ ∀ (raw : String → Option Text) (cfg : DeviceConfig),
      (∀ f : Field, ∃ text, raw f.name = some text ∧ isAscii text ∧ '|' ∉ text) →
      DeviceConfig.fromWire raw = .ok cfg →
      cfg.validate = .ok () ∧ ∃ wire, cfg.toWire = .ok wire ∧
        DeviceConfig.fromWire (Keyed.dict wire) = .ok cfg := by
  intro h
  have hread : (DeviceConfig.fromWire (uniformSettings "0".toList)).toOption.any
      (fun cfg => cfg.validate ≠ .ok ()) := by decide +kernel
  cases hcfg : DeviceConfig.fromWire (uniformSettings "0".toList) with
  | error e =>
    rw [hcfg] at hread
    cases hread
  | ok cfg =>
    rw [hcfg] at hread
    have hinvalid : cfg.validate ≠ .ok () := of_decide_eq_true hread
    exact hinvalid (h _ cfg (uniformSettings_plain (by decide) (by decide)) hcfg).1

end UhfReader18.Hwvx
