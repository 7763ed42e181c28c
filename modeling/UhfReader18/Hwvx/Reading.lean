import UhfReader18.Hwvx.Lan
import UhfReader18.Hwvx.Tap

/-!
# Reading settings among stale replies

`get_config` asks 22 times on one socket, and asks again when nothing comes in time, so that
replies may be late, doubled or out of order. What it returns for a field was sent for that
field: a reply carries the check of its request, and no two rows have the same.

Results:
1. `request_reads`: the body of a reply is of a datagram that was still to come.
2. `requestSingle_reads`: a value is one that was sent in reply to a request for its row.
3. `get_config_own_fields`: so is what a configuration is made of.
-/

namespace UhfReader18.Hwvx

open Stateful HwVxDevice

/-- Every datagram still to come is as `A` says, in what a receive returns of it: a datagram
with more than 1024 bytes is cut off. -/
def Arriving (A : Bytes → Prop) (tap : Tap) : Prop :=
  ∀ data address, some (data, address) ∈ tap.arrivals → A (data.take recvBuffer)

/-- The reply to a request for a row, with the value `v`. -/
def Setting.reply (row : Setting) (v : Bytes) : Bytes :=
  asciiByte 'A' :: v ++ asciiByte '|' :: asciiBytes row.getCheck

/-- What is received does not begin with `A`, or has no bar, or is the reply to a request for a
row, with a value the module has sent for it. A reply may be cut off if its value has no bar. -/
def Allowed (sent : Setting → Bytes → Prop) (data : Bytes) : Prop :=
  data.head? ≠ some (asciiByte 'A') ∨ asciiByte '|' ∉ data ∨
    ∃ row ∈ settings, ∃ v, sent row v ∧
      (data = row.reply v ∨ asciiByte '|' ∉ v ∧ data <+: row.reply v)

/-! ## Replies -/

variable {A : Bytes → Prop} {net : HwVxNetworking}

theorem Arriving.next {tap : Tap} (h : Arriving A tap) : Arriving A tap.next :=
  fun data address hmem => h data address (List.mem_of_mem_tail hmem)

theorem receive_reads :
    Triple (Arriving A) (net.receive tapApi)
      (fun text tap => (text ≠ [] → ∃ data, A data ∧ decodeAscii data = .ok text) ∧ Arriving A tap)
      (fun _ => Arriving A) := by
  intro tap h
  rw [receive_tap]
  cases hnext : nextText tap.arrivals with
  | error e => exact h.next
  | ok text =>
    refine ⟨fun hne => ?_, h.next⟩
    rcases harrivals : tap.arrivals with _ | ⟨_ | ⟨data, address⟩, rest⟩
    · rw [harrivals] at hnext
      cases hnext
      exact absurd rfl hne
    · rw [harrivals] at hnext
      cases hnext
      exact absurd rfl hne
    · rw [harrivals] at hnext
      exact ⟨_, h data address (harrivals ▸ List.mem_cons_self), hnext⟩

/-- The body of a reply is of a datagram that was still to come. -/
theorem request_reads (command : Text) (retries : ℕ) :
    Triple (Arriving A) (net.request tapApi command retries)
      (fun body tap => (∃ data, A data ∧ decodeAscii data = .ok ('A' :: body)) ∧ Arriving A tap)
      (fun _ => Arriving A) := by
  induction retries with
  | zero => exact fun _ h => h
  | succ retries ih =>
    have hsend : Preserves (Arriving A) (net.send tapApi command) :=
      send_preserves_tap fun _ h => h
    refine Triple.bind hsend fun _ => receive_reads.bind fun text => ?_
    split
    · next body => exact Triple.pure fun _ h => ⟨h.1 (List.cons_ne_nil _ _), h.2⟩
    · exact ih.pre fun _ h => h.2

/-! ## Values -/

theorem getCheck_injective :
    ∀ row ∈ settings, ∀ row' ∈ settings, row.getCheck = row'.getCheck → row = row' := by
  decide

/-- A reply that was cut off and still has a bar and the check of a row was not cut off. -/
theorem eq_reply_of_beginning {row row' : Setting} (hrow : row ∈ settings)
    (hrow' : row' ∈ settings) {v value : Bytes} (hbar : asciiByte '|' ∉ v)
    (h : row.reply value <+: row'.reply v) : row.reply value = row'.reply v := by
  obtain ⟨rest, heq⟩ := h
  have hchecks : ∀ row ∈ settings,
      asciiByte '|' ∉ asciiBytes row.getCheck ∧ (asciiBytes row.getCheck).length = 2 := by decide
  have hbytes : v ++ asciiByte '|' :: asciiBytes row'.getCheck =
      value ++ asciiByte '|' :: (asciiBytes row.getCheck ++ rest) := by
    rw [← List.cons_append, ← List.append_assoc]
    exact (List.cons.inj heq).2.symm
  obtain ⟨-, -, hend⟩ :=
    (List.append_cons_inj_of_notMem hbar (hchecks row' hrow').1).mp hbytes
  -- both checks have two bytes, so that nothing is missing
  have hrest : rest = [] := by
    have hlength := congrArg List.length hend
    rw [List.length_append, (hchecks row hrow).2, (hchecks row' hrow').2] at hlength
    exact List.length_eq_zero_iff.mp (Nat.add_eq_left.mp hlength.symm)
  rw [← heq, hrest, List.append_nil]

variable {sent : Setting → Bytes → Prop}

/-- A whole datagram, in what is received of it. Of a reply that does not fit only a value without
a bar can be told. -/
theorem allowed_take {data : Bytes}
    (h : data.head? ≠ some (asciiByte 'A') ∨ asciiByte '|' ∉ data ∨
      ∃ row ∈ settings, ∃ v, sent row v ∧ data = row.reply v ∧
        (asciiByte '|' ∉ v ∨ data.length ≤ recvBuffer)) :
    Allowed sent (data.take recvBuffer) := by
  rcases h with hhead | hbar | ⟨row, hrow, v, hsent, hdata, hvalue⟩
  · exact Or.inl (by rwa [List.head?_take, if_neg (by decide)])
  · exact Or.inr (Or.inl fun hmem => hbar (List.mem_of_mem_take hmem))
  · refine Or.inr (Or.inr ⟨row, hrow, v, hsent, ?_⟩)
    rcases hvalue with hbar | hfits
    · exact Or.inr ⟨hbar, hdata ▸ List.take_prefix _ _⟩
    · exact Or.inl (by rw [List.take_of_length_le hfits, hdata])

/-- A reply with a bar and the check of a row was sent for that row. -/
theorem sent_of_reply {row : Setting} (hrow : row ∈ settings) {data : Bytes} {value : Text}
    (hallowed : Allowed sent data)
    (hdecode : decodeAscii data = .ok ('A' :: value ++ '|' :: row.getCheck)) :
    ∃ v, sent row v ∧ decodeAscii v = .ok value := by
  obtain ⟨hascii, rfl⟩ := encode_of_decodeAscii hdecode
  have hreply : ('A' :: value ++ '|' :: row.getCheck).map asciiByte =
      row.reply (asciiBytes value) :=
    List.map_append
  rcases hallowed with hhead | hbar | ⟨row', hrow', v, hsent, hdata⟩
  · exact absurd rfl hhead
  · refine absurd (List.mem_map_of_mem ?_) hbar
    exact List.mem_append_right _ List.mem_cons_self
  · have hwhole : row.reply (asciiBytes value) = row'.reply v := by
      rw [hreply] at hdata
      rcases hdata with heq | ⟨hbar, hbeginning⟩
      · exact heq
      · exact eq_reply_of_beginning hrow hrow' hbar hbeginning
    obtain ⟨_, _, hlength, hcheck, _⟩ := setting_plain row hrow
    obtain ⟨_, _, hlength', hcheck', _⟩ := setting_plain row' hrow'
    have hbytes : asciiBytes value ++ asciiByte '|' :: asciiBytes row.getCheck =
        v ++ asciiByte '|' :: asciiBytes row'.getCheck := (List.cons.inj hwhole).2
    -- both checks have two characters, so that the two ends are the same
    obtain ⟨rfl, hend⟩ := List.append_inj' hbytes (by simp [asciiBytes, hlength, hlength'])
    have hsame := asciiBytes_injOn hcheck hcheck' (List.cons.inj hend).2
    cases getCheck_injective row hrow row' hrow' hsame
    refine ⟨_, hsent, decodeAscii_encodeAscii ?_⟩
    exact fun c hc => hascii c (List.mem_append_left _ (List.mem_cons_of_mem _ hc))

/-- A value was sent in reply to a request for its row. -/
theorem requestSingle_reads {row : Setting} (hrow : row ∈ settings) :
    Triple (Arriving (Allowed sent)) (net.requestSingle tapApi row.getCommand row.getCheck)
      (fun value tap => (∃ v, sent row v ∧ decodeAscii v = .ok value) ∧ Arriving (Allowed sent) tap)
      (fun _ => Arriving (Allowed sent)) := by
  refine (request_reads _ 5).bind fun reply => ?_
  split
  · next value token hsplit =>
    split
    · next htoken =>
      refine Triple.pure fun tap h => ⟨?_, h.2⟩
      obtain ⟨data, hallowed, hdecode⟩ := h.1
      have hreply : reply = value ++ '|' :: row.getCheck := by
        have hjoin : ['|'].intercalate (reply.splitOn '|') = reply := List.intercalate_splitOn '|'
        rw [hsplit, htoken, List.intercalate_cons_cons, List.intercalate_singleton] at hjoin
        rw [← hjoin, List.append_assoc, List.singleton_append]
      rw [hreply] at hdecode
      exact sent_of_reply hrow hallowed hdecode
    · exact fun _ h => h.2
  · exact fun _ h => h.2

/-- What is read for a row was sent for it. -/
def ReadFor (sent : Setting → Bytes → Prop) (row : Setting) (item : String × Text) : Prop :=
  item.1 = row.name ∧ ∃ v, sent row v ∧ decodeAscii v = .ok item.2

theorem exists_read {rows : List Setting} {raw : List (String × Text)}
    (h : List.Forall₂ (ReadFor sent) rows raw) :
    raw.map Prod.fst = rows.map Setting.name ∧
      ∀ row ∈ rows, ∃ item ∈ raw, ReadFor sent row item := by
  induction h with
  | nil => exact ⟨rfl, fun _ hrow => absurd hrow List.not_mem_nil⟩
  | cons hread _ ih =>
    refine ⟨congrArg₂ List.cons hread.1 ih.1, List.forall_mem_cons.mpr ⟨?_, fun row hrow => ?_⟩⟩
    · exact ⟨_, List.mem_cons_self, hread⟩
    · obtain ⟨item, hitem, hrow⟩ := ih.2 row hrow
      exact ⟨item, List.mem_cons_of_mem _ hitem, hrow⟩

/-- Whatever is lost, doubled, late or out of order, and wherever a receive times out: if
`get_config` returns, the value of every field was sent in reply to a request for that field.
What the socket receives has to be no reply, or to have no bar, or to be a reply to one of the
requests, which is whole or has a value without a bar. -/
theorem get_config_own_fields (sent : Setting → Bytes → Prop) (device : HwVxDevice) (tap : Tap)
    (harriving : Arriving (Allowed sent) tap) (cfg : DeviceConfig) (tap' : Tap)
    (h : device.getConfig tapApi tap = .ok cfg tap') (f : Field) :
    ∃ row ∈ settings, row.name = f.name ∧ ∃ v text, sent row v ∧ decodeAscii v = .ok text ∧
      parse f.kind text = .ok (cfg f) := by
  have hrows : ∀ row ∈ settings, Triple (Arriving (Allowed sent))
      (do return (row.name,
        ← device.net.requestSingle tapApi row.getCommand row.getCheck))
      (fun item tap => ReadFor sent row item ∧ Arriving (Allowed sent) tap)
      (fun _ _ => True) := by
    intro row hrow
    refine Triple.bind ((requestSingle_reads hrow).weaken (fun _ h => h) (fun _ _ h => h)
      fun _ _ _ => trivial) fun value => Triple.pure fun _ h => ⟨⟨rfl, h.1⟩, h.2⟩
  have hall : Triple (Arriving (Allowed sent)) (device.getConfig tapApi)
      (fun cfg _ => ∃ raw, List.Forall₂ (ReadFor sent) settings raw ∧
        DeviceConfig.fromWire (Keyed.dict raw) = .ok cfg) (fun _ _ => True) := by
    refine Triple.bind (Triple.mapM_forall₂ hrows) fun raw tap hread => ?_
    cases hfrom : DeviceConfig.fromWire (Keyed.dict raw) with
    | error e => trivial
    | ok cfg => exact ⟨raw, hread.1, hfrom⟩
  have hend := hall tap harriving
  rw [h] at hend
  obtain ⟨raw, hread, hfrom⟩ := hend
  obtain ⟨hnames, hitems⟩ := exists_read hread
  obtain ⟨row, hrow, hname⟩ := exists_setting f f.mem_all
  obtain ⟨⟨name, text⟩, hitem, hitemName, v, hsent, hdecode⟩ := hitems row hrow
  have hraw : Keyed.dict raw f.name = some text := by
    rw [← hname, ← hitemName]
    exact Keyed.dict_eq_some (hnames ▸ names_nodup) hitem
  exact ⟨row, hrow, hname, v, text, hsent, hdecode, DeviceConfig.parse_of_fromWire hfrom hraw⟩

/-- A value for a row: an address where one is needed, and otherwise the number 1. -/
def exampleValue (row : Setting) : Bytes :=
  asciiBytes (if row.name ∈ ["ip_address", "remote_ip", "gateway_ip", "subnet_mask"] then
    "10.0.0.1".toList else ['1'])

/-- Nothing comes in time for the first request; a datagram that is no reply comes before the
answer to the second. -/
def exampleTap : Tap :=
  { arrivals := none :: some (asciiBytes "?|01".toList, ⟨10, 0, 0, 9⟩) ::
      settings.map fun row => some (row.reply (exampleValue row), ⟨10, 0, 0, 2⟩) }

/-- A run with a timeout and a datagram out of place reads the settings that were sent. -/
theorem get_config_own_fields_late :
    ∃ cfg tap', HwVxDevice.getConfig tapApi
        ⟨⟨10, 0, 0, 2⟩, false, lanBroadcast, ⟨0, ("10.0.0.2".toList, udpPort)⟩, []⟩ exampleTap =
      .ok cfg tap' ∧
      ∃ row ∈ settings, row.name = "port_number" ∧ ∃ v text, v = exampleValue row ∧
        decodeAscii v = .ok text ∧ parse .int text = .ok (cfg .portNumber) := by
  have hreturns : (match HwVxDevice.getConfig tapApi
      ⟨⟨10, 0, 0, 2⟩, false, lanBroadcast, ⟨0, ("10.0.0.2".toList, udpPort)⟩, []⟩ exampleTap with
      | .ok _ _ => true
      | .error _ _ => false) = true := by decide +kernel
  split at hreturns
  · next cfg tap' hrun =>
    refine ⟨cfg, tap', hrun, ?_⟩
    refine get_config_own_fields (fun row v => v = exampleValue row) _ exampleTap ?_ cfg tap' hrun
      .portNumber
    intro data address hmem
    refine allowed_take ?_
    rcases List.mem_cons.mp hmem with hnone | hmem
    · cases hnone
    rcases List.mem_cons.mp hmem with hother | hmem
    · cases hother
      exact Or.inl (by decide)
    · obtain ⟨row, hrow, hreply⟩ := List.mem_map.mp hmem
      cases hreply
      have hfits : ∀ row ∈ settings, (row.reply (exampleValue row)).length ≤ recvBuffer := by decide
      exact Or.inr (Or.inr ⟨row, hrow, _, rfl, rfl, Or.inr (hfits row hrow)⟩)
  · cases hreturns

end UhfReader18.Hwvx
