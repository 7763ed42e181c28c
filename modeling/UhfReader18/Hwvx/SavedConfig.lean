import UhfReader18.Hwvx.Lan

/-!
# Saving a configuration and reading it back

`save_config` writes twenty settings, once or twice over; `get_config` asks for all 22. What
arrives twice is stored twice, and what is lost of one pass may arrive in the other.

Results:
1. `saveConfig_preserves`: whatever is lost, the module only stores values of the saved
   configuration, each under its own code.
2. `getConfig_quiet`: a reading without loss parses what the module has stored.
3. `saved_config_read_back`: a configuration whose commands all arrived is read back.
-/

namespace UhfReader18.Hwvx

open Stateful

variable {other : Bytes → List Bytes}

/-! ## Saving -/

/-- The item an `S` command of a configuration writes. -/
def IsItem (cfg : DeviceConfig) (item : Bytes × Bytes) : Prop :=
  ∃ row ∈ settings, ∃ f : Field, ∃ text, f.name = row.name ∧ row.name ∈ setOrder ∧
    dump (cfg f) = .ok text ∧ item = (asciiBytes row.code, asciiBytes text)

/-- A datagram of `save_config`. What it writes is of the configuration, and it asks for
nothing. -/
structure IsSaveDatagram (cfg : DeviceConfig) (datagram : Bytes) : Prop where
  items : ∀ item ∈ written datagram, IsItem cfg item
  asks_nothing : ∀ store, answer store datagram = none

/-- Since `start`, the module has stored what was delivered, and that is of the
configuration. A module that only answers questions has not replied. -/
structure Saving (other : Bytes → List Bytes) (cfg : DeviceConfig) (start lan : Lan) : Prop where
  settings_eq : lan.settings = Keyed.writes (lan.delivered.filterMap written) start.settings
  items : ∀ datagram ∈ lan.delivered, ∀ item ∈ written datagram, IsItem cfg item
  silent : (∀ datagram, other datagram = []) →
    ∀ sock, start.inbox sock = [] → lan.inbox sock = []

variable {cfg : DeviceConfig} {start : Lan}

theorem Saving.deliver {lan : Lan} (h : Saving other cfg start lan) (sock : ℕ)
    {datagram : Bytes} (hsave : IsSaveDatagram cfg datagram) :
    Saving other cfg start (lan.deliver other sock datagram) := by
  refine ⟨?_, ?_, ?_⟩
  · show Keyed.writes (written datagram).toList lan.settings =
      Keyed.writes ((lan.delivered ++ [datagram]).filterMap written) start.settings
    have hlast : [datagram].filterMap written = (written datagram).toList := by
      cases hwritten : written datagram <;> simp [hwritten]
    rw [List.filterMap_append, Keyed.writes_append, ← h.settings_eq, hlast]
  · intro d hd
    rcases List.mem_append.mp hd with hd | hd
    · exact h.items d hd
    · rw [List.mem_singleton.mp hd]
      exact hsave.items
  · intro hother sock' hstart
    have hinbox := h.silent hother sock' hstart
    show Function.update lan.inbox sock _ sock' = []
    rw [hsave.asks_nothing, hother]
    by_cases hsock : sock' = sock
    · rw [hsock, Function.update_self, ← hsock, hinbox]
      rfl
    · rw [Function.update_of_ne hsock, hinbox]

theorem Saving.transmit {lan : Lan} (h : Saving other cfg start lan) (sock : ℕ)
    {datagram : Bytes} (hsave : IsSaveDatagram cfg datagram) :
    Saving other cfg start (lan.transmit other sock datagram) := by
  unfold Lan.transmit
  split
  · exact h.deliver sock hsave
  · next arrives fates _ =>
    have hsame : Saving other cfg start { lan with fates := fates } :=
      ⟨h.settings_eq, h.items, h.silent⟩
    cases arrives
    · exact hsame
    · exact hsame.deliver sock hsave

/-- Sending a datagram of `save_config` keeps the invariant. -/
theorem send_preserves (net : HwVxNetworking) {command : Text}
    (hsave : IsSaveDatagram cfg (asciiBytes command)) :
    Preserves (Saving other cfg start) (net.send (lanApi other) command) := by
  intro lan h
  by_cases hascii : isAscii command
  · rw [net.send_of_ascii hascii]
    exact h.transmit net.sock hsave
  · obtain ⟨e, hraise⟩ := net.send_of_not_ascii hascii (lanApi other) lan
    rw [hraise]
    exact h

/-- A new socket has no replies waiting. -/
theorem socket_preserves (other : Bytes → List Bytes) :
    Preserves (Saving other cfg start) (lanApi other).socket := by
  intro lan h
  refine ⟨h.settings_eq, h.items, fun hother sock hstart => ?_⟩
  have hinbox := h.silent hother sock hstart
  show Function.update lan.inbox lan.sockets [] sock = []
  by_cases hsock : sock = lan.sockets
  · rw [hsock, Function.update_self]
  · rw [Function.update_of_ne hsock, hinbox]

theorem answer_of_kind {kind : UInt8} (hkind : kind ≠ asciiByte 'G') (store : Bytes → Bytes)
    (rest : Bytes) : answer store (kind :: rest) = none := by
  unfold answer
  split
  · next heq => exact if_neg fun h => hkind ((List.head_eq_of_cons_eq heq).trans h.1)
  · rfl

/-- Commands of another kind than `S` and `G` write nothing and ask for nothing. -/
theorem isSaveDatagram_of_kind {kind : Char} (hset : asciiByte kind ≠ asciiByte 'S')
    (hget : asciiByte kind ≠ asciiByte 'G') (text : Text) :
    IsSaveDatagram cfg (asciiBytes (kind :: text)) := by
  refine ⟨?_, fun store => answer_of_kind hget store _⟩
  have hnone : written (asciiBytes (kind :: text)) = none := by
    unfold written
    split
    · next heq => exact if_neg fun h => hset ((List.head_eq_of_cons_eq heq).trans h.1)
    · rfl
  rw [hnone]
  exact fun item hitem => by cases hitem

theorem takeWhile_asciiBytes {text : Text} (hascii : isAscii text) (hbar : '|' ∉ text)
    (rest : Bytes) :
    (asciiBytes text ++ asciiByte '|' :: rest).takeWhile (· ≠ asciiByte '|') =
      asciiBytes text := by
  rw [List.takeWhile_append_of_pos]
  · simp
  · intro b hb
    obtain ⟨c, hc, rfl⟩ := List.mem_map.mp hb
    simp only [ne_eq, decide_not, Bool.not_eq_eq_eq_not, Bool.not_true, decide_eq_false_iff_not]
    intro heq
    rw [asciiByte_injOn (hascii c hc) (by decide) heq] at hc
    exact hbar hc

/-- An `S` command writes the value under the code. -/
theorem written_setCommand {row : Setting} (hrow : row ∈ settings) {text : Text}
    (hascii : isAscii text) (hbar : '|' ∉ text) :
    written (asciiBytes (row.setCommand text)) = some (asciiBytes row.code, asciiBytes text) := by
  obtain ⟨hlength, _⟩ := setting_plain row hrow
  obtain ⟨c, c', hcode⟩ := List.length_eq_two.mp hlength
  have hbytes : asciiBytes (row.setCommand text) =
      asciiByte 'S' :: asciiByte c :: asciiByte c' ::
        (asciiBytes text ++ asciiByte '|' :: asciiBytes row.setCheck) := by
    simp [asciiBytes, Setting.setCommand, hcode]
  rw [hbytes, written, if_pos ⟨rfl, List.mem_append_right _ List.mem_cons_self⟩,
    takeWhile_asciiBytes hascii hbar, hcode]
  rfl

/-- The command of a pass for one name: it writes the string of the field under the code of
the row, and all of it is plain. -/
theorem exists_configCommand {wire : List (String × Text)}
    (hexact : ∀ f, (cfg f).isExact f.kind) (hwire : cfg.toWire = .ok wire) {name : String}
    (hname : name ∈ setOrder) :
    ∃ f : Field, ∃ row ∈ settings, ∃ text, f.name = name ∧ row.name = name ∧
      dump (cfg f) = .ok text ∧ isAscii text ∧ '|' ∉ text ∧
      configCommand (Keyed.dict wire) name = .ok (row.setCommand text) := by
  obtain ⟨f, hf, rfl⟩ := exists_setOrder name hname
  obtain ⟨row, hrow, hrowname⟩ := exists_setting f hf
  obtain ⟨text, htext, hdump⟩ := DeviceConfig.toWire_eq_ok hwire f
  obtain ⟨_, hvalid, _⟩ := bind_eq_ok hwire
  obtain ⟨hascii, hbar⟩ := dump_plain (hexact f) hdump fun text hstr =>
    DeviceConfig.plain_of_validate hvalid hstr
  have hlookup : byField f.name = some row := hrowname ▸ byField_name hrow
  refine ⟨f, row, hrow, text, rfl, hrowname, hdump, hascii, hbar, ?_⟩
  simp only [configCommand, lookup, hlookup, htext, bind, Except.bind, pure, Except.pure]

theorem sendConfigPass_preserves {wire : List (String × Text)}
    (hexact : ∀ f, (cfg f).isExact f.kind) (hwire : cfg.toWire = .ok wire)
    (net : HwVxNetworking) :
    Preserves (Saving other cfg start)
      (HwVxDevice.sendConfigPass (net.send (lanApi other)) (Keyed.dict wire)) := by
  have hlogin : IsSaveDatagram cfg (asciiBytes ['L']) :=
    isSaveDatagram_of_kind (by decide) (by decide) []
  have hreboot : IsSaveDatagram cfg (asciiBytes ['E']) :=
    isSaveDatagram_of_kind (by decide) (by decide) []
  refine Preserves.bind (send_preserves net hlogin) fun _ => ?_
  refine Preserves.bind (Preserves.forM fun name hname => ?_) fun _ =>
    send_preserves net hreboot
  obtain ⟨f, row, hrow, text, hf, hrowname, hdump, hascii, hbar, hcommand⟩ :=
    exists_configCommand hexact hwire hname
  rw [hcommand]
  refine send_preserves net ⟨?_, fun store => answer_of_kind (by decide) store _⟩
  rw [written_setCommand hrow hascii hbar]
  intro item hitem
  cases hitem
  exact ⟨row, hrow, f, text, hf.trans hrowname.symm, hrowname ▸ hname, hdump, rfl⟩

/-- Saving only makes the module store values of the configuration. -/
theorem saveConfig_preserves (hexact : ∀ f, (cfg f).isExact f.kind) (device : HwVxDevice) :
    Preserves (Saving other cfg start) (device.saveConfig (lanApi other) cfg) := by
  have hselect : IsSaveDatagram cfg (asciiBytes ('W' :: device.mac)) :=
    isSaveDatagram_of_kind (by decide) (by decide) device.mac
  refine Preserves.ofExcept_bind fun wire hwire => ?_
  refine Preserves.bind (sendConfigPass_preserves hexact hwire device.net) fun _ => ?_
  split
  · exact Preserves.pure _
  · refine Preserves.bind ?_ fun net => Preserves.finalize ?_ ?_
    · exact Preserves.bind (socket_preserves other) fun _ => Preserves.pure _
    · exact Preserves.bind (send_preserves net hselect) fun _ =>
        sendConfigPass_preserves hexact hwire net
    · exact fun _ h => h

/-! ## Reading -/

/-- The module holds a text under the code of a row, and its answer fits the buffer. -/
structure Holds (store : Bytes → Bytes) (row : Setting) (text : Text) : Prop where
  stored : store (asciiBytes row.code) = asciiBytes text
  ascii : isAscii text
  noBar : '|' ∉ text
  fits : text.length + 4 ≤ recvBuffer

/-- No datagram will be lost, no reply is waiting, and the module holds `store`. -/
structure Quiet (store : Bytes → Bytes) (sock : ℕ) (lan : Lan) : Prop where
  fates : lan.fates = []
  inbox : lan.inbox sock = []
  settings : lan.settings = store

variable {store : Bytes → Bytes} {net : HwVxNetworking}

/-- The command that asks for a setting. -/
def Setting.question (row : Setting) : Text := row.getCommand ++ '|' :: row.getCheck

theorem answer_question {row : Setting} (hrow : row ∈ settings) {text : Text}
    (h : Holds store row text) :
    isAscii row.question ∧ written (asciiBytes row.question) = none ∧
      answer store (asciiBytes row.question) =
        some (asciiBytes ('A' :: text ++ '|' :: row.getCheck)) := by
  obtain ⟨hlength, hcode, _, hcheck, _⟩ := setting_plain row hrow
  obtain ⟨c, c', heq⟩ := List.length_eq_two.mp hlength
  have hbytes : asciiBytes row.question =
      asciiByte 'G' :: asciiByte c :: asciiByte c' :: asciiByte '|' ::
        asciiBytes row.getCheck := by
    simp [asciiBytes, Setting.question, Setting.getCommand, heq]
  have hkind : asciiByte 'G' ≠ asciiByte 'S' := by decide
  refine ⟨?_, ?_, ?_⟩
  · show isAscii ('G' :: row.code ++ '|' :: row.getCheck)
    rw [isAscii_append, isAscii_cons, isAscii_cons]
    exact ⟨⟨by decide, hcode⟩, by decide, hcheck⟩
  · rw [hbytes, written, if_neg fun h => hkind h.1]
  · have hstored := h.stored
    rw [heq] at hstored
    rw [hbytes, answer, if_pos ⟨rfl, rfl⟩]
    simp only [asciiBytes, List.map_cons, List.map_nil] at hstored ⊢
    simp [hstored]

/-- The reply to a question is plain text and fits the buffer. -/
theorem Holds.reply {row : Setting} (hrow : row ∈ settings) {text : Text}
    (h : Holds store row text) : isAscii ('A' :: text ++ '|' :: row.getCheck) ∧
      ('A' :: text ++ '|' :: row.getCheck).length ≤ recvBuffer := by
  obtain ⟨_, _, hlength, hcheck, _⟩ := setting_plain row hrow
  have hfits := h.fits
  constructor
  · rw [isAscii_append, isAscii_cons, isAscii_cons]
    exact ⟨⟨by decide, h.ascii⟩, by decide, hcheck⟩
  · simp only [List.length_append, List.length_cons]
    omega

/-- A question is answered with what the module holds. -/
theorem request_quiet {row : Setting} (hrow : row ∈ settings) {text : Text}
    (h : Holds store row text) (retries : ℕ) :
    Triple (Quiet store net.sock) (net.request (lanApi other) row.question (retries + 1))
      (fun body lan => body = text ++ '|' :: row.getCheck ∧ Quiet store net.sock lan)
      (fun _ _ => False) := by
  obtain ⟨hascii, hwritten, hanswer⟩ := answer_question hrow h
  obtain ⟨hreply, hfits⟩ := h.reply hrow
  intro lan ⟨hfates, hinbox, hstore⟩
  let asked := lan.deliver other net.sock (asciiBytes row.question)
  have harrives : lan.transmit other net.sock (asciiBytes row.question) = asked := by
    unfold Lan.transmit
    rw [hfates]
  have hsend := send_ok other net hascii lan
  rw [harrives] at hsend
  have hqueue : asked.inbox net.sock = [asciiBytes ('A' :: text ++ '|' :: row.getCheck)] := by
    simp [asked, Lan.deliver, hinbox, hstore, hanswer]
  have hrun : net.request (lanApi other) row.question (retries + 1) lan =
      .ok (text ++ '|' :: row.getCheck)
        { asked with inbox := Function.update asked.inbox net.sock [] } := by
    rw [HwVxNetworking.request, bind_of_ok hsend, bind_of_ok (receive_ok hreply hfits hqueue)]
    rfl
  rw [hrun]
  refine ⟨rfl, hfates, Function.update_self _ _ _, ?_⟩
  show Keyed.writes (written (asciiBytes row.question)).toList lan.settings = store
  rw [hwritten, hstore]
  rfl

/-- `request_single` takes the value out of the reply. -/
theorem requestSingle_quiet {row : Setting} (hrow : row ∈ settings) {text : Text}
    (h : Holds store row text) :
    Triple (Quiet store net.sock)
      (net.requestSingle (lanApi other) row.getCommand row.getCheck)
      (fun value lan => value = text ∧ Quiet store net.sock lan) (fun _ _ => False) := by
  obtain ⟨_, _, _, _, hbar, _⟩ := setting_plain row hrow
  refine Triple.bind (request_quiet hrow h 4) fun body => ?_
  rintro lan ⟨rfl, hquiet⟩
  rw [splitOn_framed h.noBar hbar]
  simp only [if_true]
  exact ⟨rfl, hquiet⟩

/-- What the module holds for a field parses as a value. -/
def Reads (store : Bytes → Bytes) (f : Field) (v : Value) : Prop :=
  ∃ row ∈ settings, ∃ text, row.name = f.name ∧ Holds store row text ∧ parse f.kind text = .ok v

/-- What the module holds for the rows is read as a configuration. -/
theorem exists_texts {cfg : DeviceConfig} (h : ∀ f, Reads store f (cfg f)) :
    ∃ text : Setting → Text, (∀ row ∈ settings, Holds store row (text row)) ∧
      DeviceConfig.fromWire (Keyed.dict (settings.map fun row => (row.name, text row))) =
        .ok cfg := by
  have hrows : ∀ row ∈ settings, ∃ text, Holds store row text ∧
      ∀ f : Field, f.name = row.name → parse f.kind text = .ok (cfg f) := by
    intro row hrow
    obtain ⟨f, _, hf⟩ := exists_field row hrow
    obtain ⟨row', hrow', text, hname, hholds, hparse⟩ := h f
    cases eq_of_name hrow' hrow (hname.trans hf)
    refine ⟨text, hholds, fun f' hf' => ?_⟩
    cases Field.name_injective (hf'.trans hf.symm)
    exact hparse
  choose! text hholds hparse using hrows
  refine ⟨text, hholds, DeviceConfig.fromWire_eq_ok fun f => ?_⟩
  obtain ⟨row, hrow, hname⟩ := exists_setting f f.mem_all
  refine ⟨text row, ?_, hparse row hrow f hname.symm⟩
  rw [← hname]
  refine Keyed.dict_eq_some ?_ (List.mem_map.mpr ⟨row, hrow, rfl⟩)
  rw [List.map_map]
  exact names_nodup

/-- A reading without loss parses what the module holds. -/
theorem getConfig_quiet {device : HwVxDevice} {cfg : DeviceConfig}
    (h : ∀ f, Reads store f (cfg f)) :
    Triple (Quiet store device.net.sock) (device.getConfig (lanApi other))
      (fun cfg' lan => cfg' = cfg ∧ Quiet store device.net.sock lan) (fun _ _ => False) := by
  obtain ⟨text, hholds, hread⟩ := exists_texts h
  have hanswers : ∀ row ∈ settings, Triple (Quiet store device.net.sock)
      (do return (row.name,
        ← device.net.requestSingle (lanApi other) row.getCommand row.getCheck))
      (fun item lan => item = (row.name, text row) ∧ Quiet store device.net.sock lan)
      (fun _ _ => False) := by
    intro row hrow
    refine Triple.bind (requestSingle_quiet hrow (hholds row hrow)) fun value => Triple.pure ?_
    rintro lan ⟨rfl, hquiet⟩
    exact ⟨rfl, hquiet⟩
  refine Triple.bind (Triple.mapM hanswers) fun raw => ?_
  rintro lan ⟨rfl, hquiet⟩
  rw [hread]
  exact ⟨rfl, hquiet⟩

/-! ## Saving and reading back -/

/-- The `S` commands of one pass of `save_config`, as datagrams. -/
def DeviceConfig.setCommands (cfg : DeviceConfig) : Except PyError (List Bytes) := do
  let wire ← cfg.toWire
  setOrder.mapM fun name => do encodeAscii (← configCommand (Keyed.dict wire) name)

theorem isAscii_setCommand {row : Setting} (hrow : row ∈ settings) {text : Text}
    (hascii : isAscii text) : isAscii (row.setCommand text) := by
  obtain ⟨_, hcode, _, _, _, hcheck⟩ := setting_plain row hrow
  rw [Setting.setCommand, isAscii_append, isAscii_append, isAscii_cons, isAscii_cons]
  exact ⟨⟨⟨by decide, hcode⟩, hascii⟩, by decide, hcheck⟩

/-- The pass of a configuration has a command for every name, and what it writes is of the
configuration. -/
theorem exists_setCommands (hexact : ∀ f, (cfg f).isExact f.kind)
    (hvalid : cfg.validate = .ok ())
    (hdump : ∀ f : Field, f.name ∈ setOrder → ∃ text, dump (cfg f) = .ok text) :
    ∃ commands, cfg.setCommands = .ok commands ∧
      ∀ f : Field, f.name ∈ setOrder → ∃ row ∈ settings, ∃ text, row.name = f.name ∧
        dump (cfg f) = .ok text ∧ isAscii text ∧ '|' ∉ text ∧
        asciiBytes (row.setCommand text) ∈ commands := by
  have hall : ∀ f, ∃ text, dump (cfg f) = .ok text := by
    intro f
    by_cases hint : f.kind = .int
    · have hwritten : f.name ∈ setOrder := by
        revert hint
        cases f <;> decide
      exact hdump f hwritten
    · exact exists_dump (hexact f) hint
  obtain ⟨wire, hwire⟩ := DeviceConfig.exists_toWire hvalid hall
  have hcommand : ∀ name ∈ setOrder, ∃ datagram,
      (do encodeAscii (← configCommand (Keyed.dict wire) name)) = .ok datagram := by
    intro name hname
    obtain ⟨f, row, hrow, text, _, _, _, hascii, _, hcommand⟩ :=
      exists_configCommand hexact hwire hname
    rw [hcommand]
    exact ⟨_, encodeAscii_ok (isAscii_setCommand hrow hascii)⟩
  obtain ⟨commands, hcommands⟩ := exists_mapM_eq_ok hcommand
  refine ⟨commands, ?_, ?_⟩
  · unfold DeviceConfig.setCommands
    rw [hwire]
    exact hcommands
  · intro f hf
    obtain ⟨f', row, hrow, text, hname, hrowname, htext, hascii, hbar, hcommand⟩ :=
      exists_configCommand hexact hwire hf
    cases Field.name_injective hname
    obtain ⟨datagram, hmem, hdatagram⟩ := mem_of_mapM_eq_ok hcommands hf
    rw [hcommand] at hdatagram
    cases (encodeAscii_ok (isAscii_setCommand hrow hascii)).symm.trans hdatagram
    exact ⟨row, hrow, text, hrowname, htext, hascii, hbar, hmem⟩

/-- Rows are told apart by the bytes of their codes. -/
theorem eq_of_asciiBytes_code {row row' : Setting} (h : row ∈ settings) (h' : row' ∈ settings)
    (heq : asciiBytes row.code = asciiBytes row'.code) : row = row' :=
  code_injective row h row' h'
    (asciiBytes_injOn (setting_plain row h).2.1 (setting_plain row' h').2.1 heq)

theorem Saving.isItem {lan : Lan} (h : Saving other cfg start lan) {item : Bytes × Bytes}
    (hitem : item ∈ lan.delivered.filterMap written) : IsItem cfg item := by
  obtain ⟨datagram, hdatagram, hwritten⟩ := List.mem_filterMap.mp hitem
  exact h.items datagram hdatagram item hwritten

/-- A code that no command of the configuration writes keeps its value. -/
theorem Saving.settings_unwritten {lan : Lan} (h : Saving other cfg start lan) {row : Setting}
    (hrow : row ∈ settings) (hunwritten : row.name ∉ setOrder) :
    lan.settings (asciiBytes row.code) = start.settings (asciiBytes row.code) := by
  rw [h.settings_eq]
  refine Keyed.writes_eq_of_forall_ne ?_ start.settings
  intro item hitem hcode
  obtain ⟨row', hrow', f, text, _, hwritten, _, rfl⟩ := h.isItem hitem
  cases eq_of_asciiBytes_code hrow' hrow hcode
  exact hunwritten hwritten

/-- A field whose command has arrived is stored, whatever else has. -/
theorem Saving.settings_written {lan : Lan} (h : Saving other cfg start lan) {row : Setting}
    (hrow : row ∈ settings) {f : Field} (hname : row.name = f.name) {text : Text}
    (hdump : dump (cfg f) = .ok text) (hascii : isAscii text) (hbar : '|' ∉ text)
    (hdelivered : asciiBytes (row.setCommand text) ∈ lan.delivered) :
    lan.settings (asciiBytes row.code) = asciiBytes text := by
  rw [h.settings_eq]
  refine Keyed.writes_eq_of_agree
    (List.mem_filterMap.mpr ⟨_, hdelivered, written_setCommand hrow hascii hbar⟩) ?_ _
  -- any other write to the code is a repetition of the command
  intro item hitem hcode
  obtain ⟨row', hrow', f', text', hname', _, hdump', rfl⟩ := h.isItem hitem
  cases eq_of_asciiBytes_code hrow' hrow hcode
  cases Field.name_injective (hname'.trans hname)
  cases hdump.symm.trans hdump'
  rfl

/-- Saved settings are read back. Whatever is lost of the datagrams of `save_config`, if every
`S` command arrives in at least one of the passes that are sent, a later reading without loss
returns the saved value of each of the twenty written fields, and the MAC and DHCP as the
module had them. The reading starts without replies to other commands in its socket: the
module has given none, or the socket is another one. -/
theorem saved_config_read_back (other : Bytes → List Bytes) (cfg : DeviceConfig)
    (hexact : ∀ f, (cfg f).isExact f.kind) (hvalid : cfg.validate = .ok ())
    (hfits : ∀ f : Field, f.name ∈ setOrder →
      ∃ text, dump (cfg f) = .ok text ∧ text.length + 4 ≤ recvBuffer) :
    ∃ commands, cfg.setCommands = .ok commands ∧
      ∀ (device : HwVxDevice) (lan : Lan), lan.delivered = [] →
        let saved := finalState (device.saveConfig (lanApi other) cfg lan)
        (∀ command ∈ commands, command ∈ saved.delivered) →
        ∀ (reading : HwVxDevice) (mac dhcp : Value),
          (lan.inbox reading.net.sock = [] ∧ (∀ datagram, other datagram = []) ∨
            saved.inbox reading.net.sock = []) →
          Reads lan.settings .macAddress mac → Reads lan.settings .dhcp dhcp →
          ∃ cfg' lan', reading.getConfig (lanApi other) { saved with fates := [] } =
              .ok cfg' lan' ∧
            (∀ f, f ≠ .macAddress → f ≠ .dhcp → cfg' f = cfg f) ∧
            cfg' .macAddress = mac ∧ cfg' .dhcp = dhcp := by
  obtain ⟨commands, hcommands, hcommand⟩ := exists_setCommands hexact hvalid
    fun f hf => (hfits f hf).imp fun _ h => h.1
  refine ⟨commands, hcommands, ?_⟩
  intro device lan hfresh saved hdelivered reading mac dhcp hwaiting hmac hdhcp
  have hstart : Saving other cfg lan lan :=
    ⟨by rw [hfresh]; rfl, fun datagram h => absurd (hfresh ▸ h) List.not_mem_nil,
      fun _ _ hinbox => hinbox⟩
  have hsaving : Saving other cfg lan saved :=
    (saveConfig_preserves hexact device).finalState hstart
  have hinbox : saved.inbox reading.net.sock = [] :=
    hwaiting.elim (fun h => hsaving.silent h.2 _ h.1) id
  -- a setting that is not written is held as before
  have hkept : ∀ {f : Field} {v : Value}, f.name ∉ setOrder → Reads lan.settings f v →
      Reads saved.settings f v := by
    rintro f v hunwritten ⟨row, hrow, text, hname, ⟨hstored, hascii, hbar, hfit⟩, hparse⟩
    refine ⟨row, hrow, text, hname, ⟨?_, hascii, hbar, hfit⟩, hparse⟩
    rw [hsaving.settings_unwritten hrow (hname ▸ hunwritten), hstored]
  let cfg' := Function.update (Function.update cfg .macAddress mac) .dhcp dhcp
  have hwritten : ∀ f, f ≠ .macAddress → f ≠ .dhcp → cfg' f = cfg f := fun f hmac hdhcp => by
    simp only [cfg', Function.update_of_ne hdhcp, Function.update_of_ne hmac]
  have hreads : ∀ f, Reads saved.settings f (cfg' f) := by
    intro f
    by_cases hf : f.name ∈ setOrder
    · obtain ⟨row, hrow, text, hname, hdump, hascii, hbar, hmem⟩ := hcommand f hf
      obtain ⟨text', hdump', hfit⟩ := hfits f hf
      cases hdump.symm.trans hdump'
      obtain ⟨hnotmac, hnotdhcp⟩ := (mem_setOrder f f.mem_all).mp hf
      rw [hwritten f hnotmac hnotdhcp]
      exact ⟨row, hrow, text, hname,
        ⟨hsaving.settings_written hrow hname hdump hascii hbar (hdelivered _ hmem), hascii, hbar,
          hfit⟩, parse_dump (hexact f) hdump⟩
    · by_cases hf' : f = .macAddress
      · subst hf'
        exact hkept hf hmac
      · by_cases hf'' : f = .dhcp
        · subst hf''
          exact hkept hf hdhcp
        · exact absurd ((mem_setOrder f f.mem_all).mpr ⟨hf', hf''⟩) hf
  have hquiet : Quiet saved.settings reading.net.sock { saved with fates := [] } :=
    ⟨rfl, hinbox, rfl⟩
  obtain ⟨_, lan', hrun, rfl, _⟩ := (getConfig_quiet hreads).exists_ok hquiet
  exact ⟨cfg', lan', hrun, hwritten, rfl, rfl⟩

/-- The first pass loses its first half and the second pass the other half. -/
theorem saved_config_read_back_halves :
    let chatty : Bytes → List Bytes := fun _ => [asciiBytes ['A']]
    let cfg : DeviceConfig := fun f =>
      match f with
      | .username => .str "gate 7".toList
      | .ipAddress => .ip ⟨192, 168, 0, 250⟩
      | .portNumber => .int 6000
      | .remotePort => .int 65535
      | .maxDelay => .int 1000000
      | f => f.default
    let device : HwVxDevice := ⟨⟨192, 168, 0, 7⟩, false, ⟨255, 255, 255, 255⟩, ⟨0, ([], 0)⟩, []⟩
    let reading : HwVxDevice := ⟨⟨192, 168, 0, 250⟩, false, ⟨255, 255, 255, 255⟩, ⟨2, ([], 0)⟩, []⟩
    let lan : Lan :=
      { address := []
        settings := fun code =>
          if code = asciiBytes "FE".toList then asciiBytes "00-1A".toList
          else if code = asciiBytes "DH".toList then asciiBytes "1".toList
          else []
        inbox := fun _ => []
        sockets := 1
        fates := List.replicate 12 false ++ List.replicate 23 true ++ List.replicate 10 false
        delivered := [] }
    let saved := finalState (device.saveConfig (lanApi chatty) cfg lan)
    ∃ cfg' lan', reading.getConfig (lanApi chatty) { saved with fates := [] } = .ok cfg' lan' ∧
      cfg' .username = .str "gate 7".toList ∧ cfg' .ipAddress = .ip ⟨192, 168, 0, 250⟩ ∧
      cfg' .maxDelay = .int 1000000 ∧ cfg' .macAddress = .str "00-1A".toList := by
  intro chatty cfg device reading lan saved
  have hexact : ∀ f, (cfg f).isExact f.kind := by
    have hall : ∀ f ∈ Field.all, (cfg f).isExact f.kind := by decide +kernel
    exact fun f => hall f f.mem_all
  have hfits : ∀ f : Field, f.name ∈ setOrder →
      ∃ text, dump (cfg f) = .ok text ∧ text.length + 4 ≤ recvBuffer := by
    have hall : ∀ f ∈ Field.all, (dump (cfg f)).toOption.any (·.length + 4 ≤ recvBuffer) := by
      decide +kernel
    intro f _
    have hf := hall f f.mem_all
    cases hdump : dump (cfg f) with
    | ok text =>
      rw [hdump] at hf
      exact ⟨text, rfl, of_decide_eq_true hf⟩
    | error e =>
      rw [hdump] at hf
      cases hf
  obtain ⟨commands, hcommands, hread⟩ :=
    saved_config_read_back chatty cfg hexact (by decide +kernel) hfits
  have hdelivered : ∀ command ∈ commands, command ∈ saved.delivered := by
    have hall : cfg.setCommands.toOption.any (·.all (· ∈ saved.delivered)) := by decide +kernel
    rw [hcommands] at hall
    simpa [Except.toOption] using hall
  obtain ⟨cfg', lan', hrun, hwritten, hmac, _⟩ := hread device lan rfl hdelivered reading
    (.str "00-1A".toList) (.member ⟨.toggle, "ENABLED", 1, by decide⟩)
    (Or.inr (by decide +kernel))
    ⟨⟨"mac_address", "FE".toList, "03".toList, "".toList⟩, by decide, "00-1A".toList, rfl,
      ⟨by decide +kernel, by decide, by decide, by decide⟩, rfl⟩
    ⟨⟨"dhcp", "DH".toList, "16".toList, "".toList⟩, by decide, "1".toList, rfl,
      ⟨by decide +kernel, by decide, by decide, by decide⟩, by decide +kernel⟩
  refine ⟨cfg', lan', hrun, ?_, ?_, ?_, hmac⟩
  · exact hwritten .username (by decide) (by decide)
  · exact hwritten .ipAddress (by decide) (by decide)
  · exact hwritten .maxDelay (by decide) (by decide)

end UhfReader18.Hwvx
