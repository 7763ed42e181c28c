import Mathlib.Data.List.DropRight
import UhfReader18.Constants
import UhfReader18.Stream
import UhfReader18.Text

/-!
# Report lines

How the server shows a response: the texts of `frame.py`, and the line `handle_client` writes
for a frame, one `key=value` for each of the fields it was started with.

Results:
1. `nameOf_inj`: the text of a command or status byte stands for no other byte.
2. `reportLine_eq_iff`: what a line tells about the frame and the connection it is about.
-/

namespace UhfReader18

/-! ## `frame.py` -/

def unknownText (code : ℤ) : String := s!"UNKNOWN(0x{formatHex 2 code})"

/-- The name of the member with a received code. -/
def nameOf {α : Type} (members : List α) (value : α → ℤ) (name : α → String) (code : ℤ) :
    String :=
  match enumOrNone members value code with
  | some member => name member
  | none => unknownText code

/-- `data.hex().upper()`. -/
def hexUpper (data : Bytes) : String :=
  String.join (data.map fun b => formatHex 2 (ord b))

/-- `hex_readable` of `utils.py`; with a space also `data.hex(" ").upper()`. -/
def hexReadable (data : Bytes) (separator : String := " ") : String :=
  separator.intercalate (data.map fun b => formatHex 2 (ord b))

namespace RfidResponse

/-- Opaque report data as uppercase hex without trailing NULs. -/
def tag (self : RfidResponse) : String := hexUpper (self.data.rdropWhile (· = 0))

def commandName (self : RfidResponse) : String :=
  nameOf Command.members Command.value Command.name self.command

def statusName (self : RfidResponse) : String :=
  nameOf Status.members Status.value Status.name self.status

end RfidResponse

def Heartbeat.hexReadable (self : Heartbeat) : String := UhfReader18.hexReadable self.raw

/-! ## The line of a frame -/

/-- The other end of a connection the server has accepted. -/
structure PeerAddress where
  host : IPv4Address
  port : UInt16
  deriving DecidableEq, Repr

/-- `f"{peer[0]}:{peer[1]}"`. -/
def PeerAddress.text (self : PeerAddress) : String :=
  s!"{String.ofList self.host.text}:{self.port.toNat}"

def availableFields : List String := ["tag", "reader", "cmd", "status", "peer"]

/-- The `values` of a frame. -/
def frameValues (peer : PeerAddress) (frame : RfidResponse) : List (String × String) :=
  [("tag", frame.tag),
   ("reader", s!"0x{formatHex 2 frame.readerAddress}"),
   ("cmd", frame.commandName),
   ("status", frame.statusName),
   ("peer", peer.text)]

/-- `f"{key}={values[key]}"`. -/
def fieldText (values : List (String × String)) (key : String) : Except PyError String :=
  match values.lookup key with
  | some value => .ok s!"{key}={value}"
  | none => .error ⟨.keyError, reprText key.toList⟩

def reportLine (peer : PeerAddress) (fields : List String) (frame : RfidResponse) :
    Except PyError String := do
  let parts ← fields.mapM (fieldText (frameValues peer frame))
  return " | ".intercalate parts

/-! ## What the texts stand for -/

/-- A hexadecimal digit as `:02X` writes it. -/
def upperDigit (n : ℕ) : Char := (Nat.digitChar n).toUpper

theorem upperDigit_inj : ∀ i < 16, ∀ j < 16, upperDigit i = upperDigit j → i = j := by
  decide

theorem upperDigit_ne_space : ∀ i < 16, upperDigit i ≠ ' ' := by
  decide

theorem toList_formatHex_two (b : UInt8) :
    (formatHex 2 (ord b)).toList = [upperDigit (b.toNat / 16), upperDigit (b.toNat % 16)] := by
  have hsign : ¬ ord b < 0 := not_lt.mpr (ord_nonneg b)
  have habs : (ord b).natAbs = b.toNat := rfl
  simp only [formatHex, hsign, if_false, habs, String.empty_append, String.toList_ofList,
    String.length_empty]
  rcases Nat.lt_or_ge b.toNat 16 with hlt | hge
  · rw [Nat.toDigits_of_lt_base hlt, Nat.div_eq_of_lt hlt, Nat.mod_eq_of_lt hlt]
    rfl
  · have hdiv : b.toNat / 16 < 16 := Nat.div_lt_of_lt_mul b.toNat_lt
    rw [Nat.toDigits_of_base_le (by decide) hge, Nat.toDigits_of_lt_base hdiv]
    rfl

theorem upperDigits_inj {b c : UInt8}
    (hhigh : upperDigit (b.toNat / 16) = upperDigit (c.toNat / 16))
    (hlow : upperDigit (b.toNat % 16) = upperDigit (c.toNat % 16)) : b = c := by
  have hdiv : b.toNat / 16 = c.toNat / 16 :=
    upperDigit_inj _ (Nat.div_lt_of_lt_mul b.toNat_lt) _ (Nat.div_lt_of_lt_mul c.toNat_lt) hhigh
  have hmod : b.toNat % 16 = c.toNat % 16 :=
    upperDigit_inj _ (Nat.mod_lt _ (by decide)) _ (Nat.mod_lt _ (by decide)) hlow
  refine UInt8.toNat_inj.mp ?_
  rw [← Nat.div_add_mod b.toNat 16, hdiv, hmod, Nat.div_add_mod]

theorem formatHex_two_inj {b c : UInt8} (h : formatHex 2 (ord b) = formatHex 2 (ord c)) :
    b = c := by
  have hlist := congrArg String.toList h
  rw [toList_formatHex_two, toList_formatHex_two] at hlist
  obtain ⟨hhigh, hlow⟩ := List.cons.inj hlist
  exact upperDigits_inj hhigh (List.cons.inj hlow).1

theorem toList_hexUpper (data : Bytes) :
    (hexUpper data).toList =
      data.flatMap fun b => [upperDigit (b.toNat / 16), upperDigit (b.toNat % 16)] := by
  rw [hexUpper, String.toList_join, List.flatMap_map]
  exact List.flatMap_congr fun b _ => toList_formatHex_two b

theorem hexUpper_injective : Function.Injective hexUpper := by
  intro data data' h
  have hlist := congrArg String.toList h
  rw [toList_hexUpper, toList_hexUpper] at hlist
  clear h
  induction data generalizing data' with
  | nil =>
    cases data' with
    | nil => rfl
    | cons c data' => cases hlist
  | cons b data ih =>
    cases data' with
    | nil => cases hlist
    | cons c data' =>
      simp only [List.flatMap_cons, List.cons_append, List.nil_append, List.cons.injEq] at hlist
      obtain ⟨hhigh, hlow, hrest⟩ := hlist
      rw [upperDigits_inj hhigh hlow, ih hrest]

/-- A text in which no space occurs. -/
def NoSpace (text : String) : Prop := ' ' ∉ text.toList

instance (text : String) : Decidable (NoSpace text) :=
  inferInstanceAs (Decidable (_ ∉ _))

theorem NoSpace.append {s t : String} (hs : NoSpace s) (ht : NoSpace t) : NoSpace (s ++ t) := by
  unfold NoSpace at *
  rw [String.toList_append, List.mem_append]
  exact fun h => h.elim hs ht

theorem noSpace_formatHex_two (b : UInt8) : NoSpace (formatHex 2 (ord b)) := by
  unfold NoSpace
  rw [toList_formatHex_two]
  intro h
  rcases List.mem_cons.mp h with h | h
  · exact upperDigit_ne_space _ (Nat.div_lt_of_lt_mul b.toNat_lt) h.symm
  · exact upperDigit_ne_space _ (Nat.mod_lt _ (by decide)) (List.mem_singleton.mp h).symm

theorem noSpace_hexUpper (data : Bytes) : NoSpace (hexUpper data) := by
  induction data with
  | nil => exact List.not_mem_nil
  | cons b data ih =>
    rw [hexUpper, List.map_cons, String.join_cons]
    exact (noSpace_formatHex_two b).append ih

theorem toList_unknownText (b : UInt8) :
    (unknownText (ord b)).toList = "UNKNOWN(".toList ++
      ['0', 'x', upperDigit (b.toNat / 16), upperDigit (b.toNat % 16), ')'] := by
  show ("UNKNOWN(0x" ++ formatHex 2 (ord b) ++ ")").toList = _
  rw [String.toList_append, String.toList_append, toList_formatHex_two]
  rfl

theorem unknownText_inj {b c : UInt8} (h : unknownText (ord b) = unknownText (ord c)) : b = c := by
  have hlist := congrArg String.toList h
  rw [toList_unknownText, toList_unknownText, List.append_cancel_left_eq] at hlist
  simp only [List.cons.injEq, true_and, and_true] at hlist
  exact upperDigits_inj hlist.1 hlist.2

/-- The names of an enum, as `nameOf` needs them: no two are the same, and none looks like the
text of a byte without a name. -/
structure Naming {α : Type} (members : List α) (name : α → String) : Prop where
  nodup : (members.map name).Nodup
  known : ∀ member ∈ members, ¬ "UNKNOWN(".toList <+: (name member).toList
  noSpace : ∀ member ∈ members, NoSpace (name member)

section Naming

variable {α : Type} {members : List α} {value : α → ℤ} {name : α → String}

/-- The text of a command or status byte stands for no other byte. -/
theorem nameOf_inj (hnaming : Naming members name) {b c : UInt8}
    (h : nameOf members value name (ord b) = nameOf members value name (ord c)) : b = c := by
  have hunknown : ∀ b : UInt8, "UNKNOWN(".toList <+: (unknownText (ord b)).toList := by
    intro b
    rw [toList_unknownText]
    exact List.prefix_append _ _
  unfold nameOf at h
  cases hb : enumOrNone members value (ord b) with
  | none =>
    cases hc : enumOrNone members value (ord c) with
    | none =>
      rw [hb, hc] at h
      exact unknownText_inj h
    | some member =>
      rw [hb, hc] at h
      have htext : unknownText (ord b) = name member := h
      exact absurd (htext ▸ hunknown b) (hnaming.known member (enumOrNone_eq_some hc).1)
  | some member =>
    cases hc : enumOrNone members value (ord c) with
    | none =>
      rw [hb, hc] at h
      have htext : name member = unknownText (ord c) := h
      exact absurd (htext ▸ hunknown c) (hnaming.known member (enumOrNone_eq_some hb).1)
    | some member' =>
      rw [hb, hc] at h
      obtain ⟨hmem, hvalue⟩ := enumOrNone_eq_some hb
      obtain ⟨hmem', hvalue'⟩ := enumOrNone_eq_some hc
      cases List.inj_on_of_nodup_map hnaming.nodup hmem hmem' h
      exact ord_injective (hvalue.symm.trans hvalue')

theorem noSpace_nameOf (hnaming : Naming members name) (b : UInt8) :
    NoSpace (nameOf members value name (ord b)) := by
  unfold nameOf
  cases hb : enumOrNone members value (ord b) with
  | none =>
    have hopen : NoSpace "UNKNOWN(0x" := by decide
    have hclose : NoSpace ")" := by decide
    exact (hopen.append (noSpace_formatHex_two b)).append hclose
  | some member => exact hnaming.noSpace member (enumOrNone_eq_some hb).1

end Naming

theorem Command.naming : Naming Command.members Command.name :=
  ⟨by decide, by decide, by decide⟩

theorem Status.naming : Naming Status.members Status.name :=
  ⟨by decide, by decide, by decide⟩

/-- What stands in front of a first separator is recovered, and so is what follows it. -/
theorem append_cons_inj {α : Type} {s : α} {x y more more' : List α} (hx : s ∉ x) (hy : s ∉ y)
    (h : x ++ s :: more = y ++ s :: more') : x = y ∧ more = more' := by
  induction x generalizing y with
  | nil =>
    cases y with
    | nil => exact ⟨rfl, (List.cons.inj h).2⟩
    | cons b y =>
      have hb : s = b := (List.cons.inj h).1
      exact absurd (hb ▸ List.mem_cons_self) hy
  | cons a x ih =>
    cases y with
    | nil =>
      have ha : a = s := (List.cons.inj h).1
      exact absurd (ha ▸ List.mem_cons_self) hx
    | cons b y =>
      obtain ⟨rfl, hrest⟩ := List.cons.inj h
      obtain ⟨rfl, hmore⟩ := ih (fun hs => hx (List.mem_cons_of_mem _ hs))
        (fun hs => hy (List.mem_cons_of_mem _ hs)) hrest
      exact ⟨rfl, hmore⟩

theorem PeerAddress.toList_text (self : PeerAddress) :
    self.text.toList = self.host.text ++ ':' :: Nat.toDigits 10 self.port.toNat := by
  show (String.ofList self.host.text ++ ":" ++ toString self.port.toNat).toList = _
  rw [String.toList_append, String.toList_append, String.toList_ofList, Nat.toString_eq_repr,
    Nat.toList_repr, List.append_assoc]
  rfl

/-- The text of an address and a port stands for no other. -/
theorem PeerAddress.text_injective : Function.Injective PeerAddress.text := by
  intro peer peer' h
  have hcolon : ∀ host : IPv4Address, ':' ∉ host.text := by
    intro host hmem
    rcases IPv4Address.mem_text hmem with hdot | hdigit
    · exact absurd hdot (by decide)
    · exact absurd hdigit (by decide)
  have hlist := congrArg String.toList h
  rw [PeerAddress.toList_text, PeerAddress.toList_text] at hlist
  obtain ⟨hhost, hport⟩ := append_cons_inj (hcolon peer.host) (hcolon peer'.host) hlist
  have haddress : peer.host = peer'.host := by
    have hparse := congrArg IPv4Address.parse hhost
    rw [IPv4Address.parse_text, IPv4Address.parse_text] at hparse
    exact Except.ok.inj hparse
  have hnumber := congrArg (fun digits => Nat.ofDigitChars 10 digits 0) hport
  simp only [Nat.ofDigitChars_ten_toDigits] at hnumber
  obtain ⟨host, port⟩ := peer
  obtain ⟨host', port'⟩ := peer'
  cases haddress
  cases UInt16.toNat_inj.mp hnumber
  rfl

theorem PeerAddress.noSpace_text (self : PeerAddress) : NoSpace self.text := by
  unfold NoSpace
  rw [PeerAddress.toList_text, List.mem_append, List.mem_cons]
  rintro (h | h | h)
  · exact absurd (IPv4Address.text_bounds h).1 (by decide)
  · exact absurd h (by decide)
  · exact absurd (Nat.isDigit_of_mem_toDigits (by decide) (by decide) h) (by decide)

/-! ## What a line tells -/

/-- Texts joined with a separator are recovered where the separator begins with a character
that occurs in none of them. -/
theorem intercalate_inj {α : Type} {s : α} {sep : List α} {parts parts' : List (List α)}
    (hlength : parts.length = parts'.length) (hparts : ∀ part ∈ parts, s ∉ part)
    (hparts' : ∀ part ∈ parts', s ∉ part)
    (h : (s :: sep).intercalate parts = (s :: sep).intercalate parts') : parts = parts' := by
  induction parts generalizing parts' with
  | nil => exact (List.length_eq_zero_iff.mp hlength.symm).symm
  | cons part parts ih =>
    cases parts' with
    | nil => cases hlength
    | cons part' parts' =>
      rw [List.forall_mem_cons] at hparts hparts'
      have hrest : parts.length = parts'.length := Nat.succ.inj hlength
      cases parts with
      | nil =>
        obtain rfl : parts' = [] := List.length_eq_zero_iff.mp hrest.symm
        rw [List.intercalate_singleton, List.intercalate_singleton] at h
        rw [h]
      | cons next parts =>
        have hne : parts' ≠ [] := List.ne_nil_of_length_eq_add_one hrest.symm
        rw [List.intercalate_cons_cons, List.intercalate_cons_of_ne_nil hne, List.append_assoc,
          List.append_assoc] at h
        obtain ⟨rfl, hmore⟩ := append_cons_inj hparts.1 hparts'.1 h
        rw [ih hrest hparts.2 hparts'.2 (List.append_cancel_left hmore)]

/-- The value of a field, for a field there is. -/
def fieldValue (peer : PeerAddress) (frame : RfidResponse) (key : String) : String :=
  ((frameValues peer frame).lookup key).getD ""

/-- The line, where all fields have a value. -/
def lineText (peer : PeerAddress) (fields : List String) (frame : RfidResponse) : String :=
  " | ".intercalate (fields.map fun key => key ++ "=" ++ fieldValue peer frame key)

/-- The first field without a value. -/
def unknownField? (fields : List String) : Option String :=
  fields.find? fun key => key ∉ availableFields

def keyErrorOf (key : String) : PyError := ⟨.keyError, reprText key.toList⟩

theorem unknownField?_eq_none_iff {fields : List String} :
    unknownField? fields = none ↔ ∀ key ∈ fields, key ∈ availableFields := by
  simp [unknownField?, List.find?_eq_none]

theorem fieldText_available {peer : PeerAddress} {frame : RfidResponse} {key : String}
    (h : key ∈ availableFields) :
    fieldText (frameValues peer frame) key = .ok (key ++ "=" ++ fieldValue peer frame key) := by
  have hall : ∀ key ∈ availableFields,
      fieldText (frameValues peer frame) key = .ok (key ++ "=" ++ fieldValue peer frame key) := by
    simp only [availableFields, List.forall_mem_cons]
    exact ⟨rfl, rfl, rfl, rfl, rfl, nofun⟩
  exact hall key h

theorem fieldText_unavailable {peer : PeerAddress} {frame : RfidResponse} {key : String}
    (h : key ∉ availableFields) :
    fieldText (frameValues peer frame) key = .error (keyErrorOf key) := by
  have hnone : (frameValues peer frame).lookup key = none :=
    List.lookup_eq_none_iff.mpr fun field hfield => by
      have hkey : field.1 ∈ availableFields := List.mem_map_of_mem (f := Prod.fst) hfield
      exact bne_iff_ne.mpr fun heq => h (heq ▸ hkey)
  rw [fieldText, hnone]
  rfl

/-- A line is written unless some field has no value. -/
theorem reportLine_eq (peer : PeerAddress) (fields : List String) (frame : RfidResponse) :
    reportLine peer fields frame =
      match unknownField? fields with
      | none => .ok (lineText peer fields frame)
      | some key => .error (keyErrorOf key) := by
  rw [reportLine, unknownField?, mapM_eq_find?
    (fun key hkey => fieldText_available (not_not.mp (of_decide_eq_false hkey)))
    (fun key hkey => fieldText_unavailable (of_decide_eq_true hkey))]
  cases fields.find? fun key => key ∉ availableFields <;> rfl

theorem noSpace_fieldValue {key : String} (h : key ∈ availableFields) (peer : PeerAddress)
    (f : ResponseFrame) : NoSpace (fieldValue peer f.response key) := by
  have hall : ∀ key ∈ availableFields, NoSpace (fieldValue peer f.response key) := by
    simp only [availableFields, List.forall_mem_cons]
    refine ⟨noSpace_hexUpper _, ?_, noSpace_nameOf Command.naming f.command,
      noSpace_nameOf Status.naming f.status, peer.noSpace_text, nofun⟩
    have hopen : NoSpace "0x" := by decide
    exact hopen.append (noSpace_formatHex_two f.readerAddress)
  exact hall key h

theorem noSpace_part {key : String} (h : key ∈ availableFields) (peer : PeerAddress)
    (f : ResponseFrame) : NoSpace (key ++ "=" ++ fieldValue peer f.response key) := by
  have hkeys : ∀ key ∈ availableFields, NoSpace (key ++ "=") := by decide
  exact (hkeys key h).append (noSpace_fieldValue h peer f)

/-- Two lines of the same fields are the same when every field has the same value in both. -/
theorem reportLine_congr_iff {fields : List String}
    (hfields : ∀ key ∈ fields, key ∈ availableFields) (peer peer' : PeerAddress)
    (f g : ResponseFrame) :
    reportLine peer fields f.response = reportLine peer' fields g.response ↔
      ∀ key ∈ fields, fieldValue peer f.response key = fieldValue peer' g.response key := by
  rw [reportLine_eq, reportLine_eq, unknownField?_eq_none_iff.mpr hfields]
  simp only [Except.ok.injEq, lineText]
  constructor
  · intro h key hkey
    have hlist := congrArg String.toList h
    have hseparator : " | ".toList = ' ' :: ['|', ' '] := rfl
    rw [String.toList_intercalate, String.toList_intercalate, List.map_map, List.map_map,
      hseparator] at hlist
    have hnoSpace : ∀ (peer : PeerAddress) (f : ResponseFrame), ∀ part ∈ fields.map (String.toList ∘
        fun key => key ++ "=" ++ fieldValue peer f.response key), ' ' ∉ part := by
      intro peer f part hpart
      obtain ⟨key, hkey, rfl⟩ := List.mem_map.mp hpart
      exact noSpace_part (hfields key hkey) peer f
    have hparts := intercalate_inj (by rw [List.length_map, List.length_map])
      (hnoSpace peer f) (hnoSpace peer' g) hlist
    have hpart := List.map_inj_left.mp hparts key hkey
    simp only [Function.comp_apply, String.toList_append, List.append_cancel_left_eq] at hpart
    exact String.toList_inj.mp hpart
  · intro h
    rw [List.map_congr_left fun key hkey => congrArg (key ++ "=" ++ ·) (h key hkey)]

/-- What a line tells. Two lines with the same fields, each of a frame on some connection, are
the same exactly when the frames and the connections agree in what the fields name: the data up
to NULs at their end, the reader, the command, the status, and the other end of the
connection. -/
theorem reportLine_eq_iff {fields : List String}
    (hfields : ∀ key ∈ fields, key ∈ availableFields) (peer peer' : PeerAddress)
    (f g : ResponseFrame) :
    reportLine peer fields f.response = reportLine peer' fields g.response ↔
      ("tag" ∈ fields → f.data.rdropWhile (· = 0) = g.data.rdropWhile (· = 0)) ∧
      ("reader" ∈ fields → f.readerAddress = g.readerAddress) ∧
      ("cmd" ∈ fields → f.command = g.command) ∧
      ("status" ∈ fields → f.status = g.status) ∧
      ("peer" ∈ fields → peer = peer') := by
  rw [reportLine_congr_iff hfields]
  have htag : fieldValue peer f.response "tag" = fieldValue peer' g.response "tag" ↔
      f.data.rdropWhile (· = 0) = g.data.rdropWhile (· = 0) := hexUpper_injective.eq_iff
  have hreader : fieldValue peer f.response "reader" = fieldValue peer' g.response "reader" ↔
      f.readerAddress = g.readerAddress :=
    ⟨fun h => formatHex_two_inj (String.append_right_inj "0x" |>.mp h), fun h => by
      show "0x" ++ formatHex 2 (ord f.readerAddress) = "0x" ++ formatHex 2 (ord g.readerAddress)
      rw [h]⟩
  have hcmd : fieldValue peer f.response "cmd" = fieldValue peer' g.response "cmd" ↔
      f.command = g.command :=
    ⟨nameOf_inj Command.naming, fun h => congrArg (fun b => nameOf _ _ Command.name (ord b)) h⟩
  have hstatus : fieldValue peer f.response "status" = fieldValue peer' g.response "status" ↔
      f.status = g.status :=
    ⟨nameOf_inj Status.naming, fun h => congrArg (fun b => nameOf _ _ Status.name (ord b)) h⟩
  have hpeer : fieldValue peer f.response "peer" = fieldValue peer' g.response "peer" ↔
      peer = peer' := PeerAddress.text_injective.eq_iff
  rw [← htag, ← hreader, ← hcmd, ← hstatus, ← hpeer]
  constructor
  · intro h
    exact ⟨h "tag", h "reader", h "cmd", h "status", h "peer"⟩
  · rintro ⟨h1, h2, h3, h4, h5⟩ key hkey
    have hall : ∀ key ∈ availableFields, key ∈ fields →
        fieldValue peer f.response key = fieldValue peer' g.response key := by
      simp only [availableFields, List.forall_mem_cons]
      exact ⟨h1, h2, h3, h4, h5, nofun⟩
    exact hall key (hfields key hkey) hkey

/-- NULs at the end of the data do not show, and neither does a field that is left out. -/
theorem reportLine_eq_iff_nul :
    reportLine ⟨⟨10, 0, 0, 1⟩, 4001⟩ ["reader", "tag"]
        (⟨1, 0xEE, 0, [0xE2, 0], by decide⟩ : ResponseFrame).response =
      reportLine ⟨⟨10, 0, 0, 2⟩, 4002⟩ ["reader", "tag"]
        (⟨1, 0x01, 0, [0xE2], by decide⟩ : ResponseFrame).response :=
  (reportLine_eq_iff (by decide) _ _ _ _).mpr
    ⟨fun _ => rfl, fun _ => rfl, by decide, by decide, by decide⟩

end UhfReader18
