import UhfReader18.Hwvx.Config

/-!
# What reading a configuration reports

`from_wire` goes through the fields in order, parses the strings that are there, catches
`ValueError` field by field and reports all of them at the end. `fromWireLoop` is this loop as
it stands; a bad field neither ends it nor touches what it does for another one, because
parsing raises nothing else (`kind_of_parse`).

Results:
1. `fromWire_eq_loop`: the loop computes `fromWire`.
2. `fromWire_report`: which fields are reported, and what the others become.
-/

namespace UhfReader18.Hwvx

/-! ## Parsing raises `ValueError` only -/

theorem kind_of_parseInt {text : Text} {e : PyError} (h : parseInt text = .error e) :
    e.kind = .valueError := by
  unfold parseInt at h
  split at h
  · cases h
  · cases h
    rfl

theorem kind_of_parseEnum {cls : EnumClass} {text : Text} {e : PyError}
    (h : parseEnum cls text = .error e) : e.kind = .valueError := by
  unfold parseEnum at h
  cases hnumber : parseInt text with
  | error e' =>
    rw [hnumber] at h
    cases h
    exact kind_of_parseInt hnumber
  | ok number =>
    rw [hnumber] at h
    simp only [bind, Except.bind] at h
    split at h
    · cases h
    · cases h
      rfl

theorem kind_of_parseAddress {text : Text} {e : PyError} (h : IPv4Address.parse text = .error e) :
    e.kind = .valueError := by
  unfold IPv4Address.parse at h
  split at h
  · cases h
    rfl
  split at h
  · cases h
    rfl
  split at h
  · next a b c d _ =>
    generalize (do
      return ⟨← IPv4Address.parseOctet a, ← IPv4Address.parseOctet b,
        ← IPv4Address.parseOctet c, ← IPv4Address.parseOctet d⟩ :
      Except String IPv4Address) = octets at h
    cases octets with
    | error message =>
      cases h
      rfl
    | ok address => cases h
  · cases h
    rfl

theorem kind_of_map {α : Type} {result : Except PyError α} {f : α → Value} {e : PyError}
    (hkind : ∀ e, result = .error e → e.kind = .valueError) (h : result.map f = .error e) :
    e.kind = .valueError := by
  cases result with
  | error e' =>
    cases h
    exact hkind e rfl
  | ok a => cases h

theorem kind_of_parse {kind : Kind} {text : Text} {e : PyError}
    (h : parse kind text = .error e) : e.kind = .valueError := by
  cases kind with
  | str => cases h
  | ipv4Address => exact kind_of_map (fun _ => kind_of_parseAddress) h
  | int => exact kind_of_map (fun _ => kind_of_parseInt) h
  | intEnum cls => exact kind_of_map (fun _ => kind_of_parseEnum) h

/-! ## The loop -/

/-- The line of a field whose string raises a `ValueError` with the given text. -/
def problemLine (f : Field) (text : Text) (message : String) : String :=
  s!"{f.name}: {reprText text} ({message})"

/-- The loop of `from_wire` over the fields: the values so far and the lines so far. Only
`ValueError` is caught. -/
def fromWireLoop (raw : String → Option Text) :
    List Field → List (Field × Value) → List String →
      Except PyError (List (Field × Value) × List String)
  | [], kwargs, errors => .ok (kwargs, errors)
  | f :: fs, kwargs, errors =>
    match raw f.name with
    | none => fromWireLoop raw fs kwargs errors
    | some text =>
      match parse f.kind text with
      | .ok value => fromWireLoop raw fs (kwargs ++ [(f, value)]) errors
      | .error ⟨.valueError, message⟩ =>
        fromWireLoop raw fs kwargs (errors ++ [problemLine f text message])
      | .error e => .error e

/-- `cls(**kwargs)`. -/
def DeviceConfig.ofKwargs (kwargs : List (Field × Value)) : DeviceConfig := fun f =>
  (Keyed.dict kwargs f).getD f.default

/-- The value of a field whose string is there and parses. -/
def parsedValue (raw : String → Option Text) (f : Field) : Option Value :=
  (parseField raw f).bind Except.toOption

/-- The loop goes through all fields, whatever their strings are. -/
theorem fromWireLoop_eq (raw : String → Option Text) (fs : List Field)
    (kwargs : List (Field × Value)) (errors : List String) :
    fromWireLoop raw fs kwargs errors =
      .ok (kwargs ++ fs.filterMap fun f => (parsedValue raw f).map fun v => (f, v),
        errors ++ fs.filterMap (parseProblem raw)) := by
  induction fs generalizing kwargs errors with
  | nil => simp [fromWireLoop]
  | cons f fs ih =>
    rw [fromWireLoop, List.filterMap_cons, List.filterMap_cons]
    cases hraw : raw f.name with
    | none =>
      simp only [parsedValue, parseProblem, parseField, hraw, Option.map_none, ih]
      rfl
    | some text =>
      simp only [parsedValue, parseProblem, parseField, hraw, Option.map_some, Option.bind_some]
      cases hparse : parse f.kind text with
      | ok value =>
        simp only [ih, List.append_assoc, List.singleton_append]
        rfl
      | error e =>
        obtain ⟨kind, message⟩ := e
        obtain rfl : kind = .valueError := kind_of_parse hparse
        simp only [ih, List.append_assoc, List.singleton_append]
        rfl

/-- The loop computes `fromWire`. -/
theorem fromWire_eq_loop (raw : String → Option Text) :
    DeviceConfig.fromWire raw = do
      let (kwargs, errors) ← fromWireLoop raw Field.all [] []
      if errors ≠ [] then
        throw ⟨.valueError,
          "Device returned unparseable settings:\n  " ++ "\n  ".intercalate errors⟩
      return DeviceConfig.ofKwargs kwargs := by
  rw [fromWireLoop_eq]
  unfold DeviceConfig.fromWire
  simp only [List.nil_append, bind, Except.bind]
  split
  · rfl
  · refine congrArg Except.ok (funext fun f => ?_)
    rw [DeviceConfig.ofKwargs, Keyed.dict_filterMap f.mem_all, parsedValue]
    cases parseField raw f with
    | none => rfl
    | some result => cases result <;> rfl

/-! ## The report -/

/-- The string of the field is there and does not parse. -/
def unparseable (raw : String → Option Text) (f : Field) : Bool :=
  match parseField raw f with
  | some (.error _) => true
  | _ => false

theorem unparseable_iff {raw : String → Option Text} {f : Field} :
    unparseable raw f = true ↔
      ∃ text message, raw f.name = some text ∧
        parse f.kind text = .error ⟨.valueError, message⟩ := by
  unfold unparseable parseField
  cases hraw : raw f.name with
  | none => simp
  | some text =>
    cases hparse : parse f.kind text with
    | ok value => simp [hparse]
    | error e =>
      obtain ⟨kind, message⟩ := e
      obtain rfl : kind = .valueError := kind_of_parse hparse
      simp [hparse]

/-- A field is reported exactly if its string does not parse. -/
theorem isSome_parseProblem (raw : String → Option Text) (f : Field) :
    (parseProblem raw f).isSome = unparseable raw f := by
  unfold parseProblem unparseable parseField
  cases raw f.name with
  | none => rfl
  | some text =>
    simp only [Option.map_some]
    cases parse f.kind text <;> rfl

theorem eq_problemLine {raw : String → Option Text} {f : Field} {line : String}
    (h : parseProblem raw f = some line) :
    ∃ text message, raw f.name = some text ∧
      parse f.kind text = .error ⟨.valueError, message⟩ ∧ line = problemLine f text message := by
  unfold parseProblem at h
  cases hraw : raw f.name with
  | none =>
    rw [hraw] at h
    cases h
  | some text =>
    rw [hraw] at h
    simp only at h
    split at h
    · cases h
    next e hparse =>
    obtain ⟨kind, message⟩ := e
    obtain rfl : kind = .valueError := kind_of_parse hparse
    cases h
    exact ⟨text, message, rfl, hparse, rfl⟩

/-- The reported lines, each with its field. -/
def problemLines (raw : String → Option Text) : List (Field × String) :=
  Field.all.filterMap fun f => (parseProblem raw f).map fun line => (f, line)

theorem map_snd_problemLines (raw : String → Option Text) :
    (problemLines raw).map Prod.snd = Field.all.filterMap (parseProblem raw) := by
  unfold problemLines
  rw [List.map_filterMap]
  refine List.filterMap_congr fun f _ => ?_
  cases parseProblem raw f <;> rfl

theorem map_fst_problemLines (raw : String → Option Text) :
    (problemLines raw).map Prod.fst = Field.all.filter (unparseable raw) := by
  unfold problemLines
  rw [List.map_filterMap, ← List.filterMap_eq_filter]
  refine List.filterMap_congr fun f _ => ?_
  rw [Option.guard, ← isSome_parseProblem]
  cases parseProblem raw f <;> rfl

theorem fromWire_of_parseable {raw : String → Option Text}
    (h : ∀ f, unparseable raw f = false) :
    DeviceConfig.fromWire raw = .ok fun f => (parsedValue raw f).getD f.default := by
  have hnone : Field.all.filterMap (parseProblem raw) = [] := by
    rw [← map_snd_problemLines, List.map_eq_nil_iff, ← List.map_eq_nil_iff (f := Prod.fst),
      map_fst_problemLines, List.filter_eq_nil_iff]
    intro f _
    simp [h f]
  unfold DeviceConfig.fromWire
  simp only [hnone]
  rw [if_neg (not_not_intro rfl)]
  refine congrArg Except.ok (funext fun f => ?_)
  unfold parsedValue
  cases parseField raw f with
  | none => rfl
  | some result => cases result <;> rfl

theorem fromWire_of_unparseable {raw : String → Option Text} {f : Field}
    (h : unparseable raw f = true) :
    DeviceConfig.fromWire raw = .error ⟨.valueError, "Device returned unparseable settings:\n  " ++
      "\n  ".intercalate ((problemLines raw).map Prod.snd)⟩ := by
  have hsome : Field.all.filterMap (parseProblem raw) ≠ [] := by
    rw [← map_snd_problemLines, Ne, List.map_eq_nil_iff, ← List.map_eq_nil_iff (f := Prod.fst),
      map_fst_problemLines]
    exact List.ne_nil_of_mem (List.mem_filter.mpr ⟨f.mem_all, h⟩)
  unfold DeviceConfig.fromWire
  simp only [if_pos hsome, map_snd_problemLines]

/-- A configuration that is returned has come from strings that all parse. -/
theorem eq_of_fromWire {raw : String → Option Text} {cfg : DeviceConfig}
    (h : DeviceConfig.fromWire raw = .ok cfg) (f : Field) :
    cfg f = (parsedValue raw f).getD f.default := by
  have hparses : ∀ f, unparseable raw f = false := by
    intro f
    by_contra hbad
    rw [fromWire_of_unparseable (Bool.eq_true_of_not_eq_false hbad)] at h
    cases h
  rw [fromWire_of_parseable hparses] at h
  cases h
  rfl

/-! ### One string, one field -/

section OneField

variable {raw raw' : String → Option Text}

theorem parsedValue_congr {f : Field} (h : raw' f.name = raw f.name) :
    parsedValue raw' f = parsedValue raw f := by
  rw [parsedValue, parseField, h, parsedValue, parseField]

theorem parseProblem_congr {f : Field} (h : raw' f.name = raw f.name) :
    parseProblem raw' f = parseProblem raw f := by
  rw [parseProblem, h, parseProblem]

theorem fromWire_congr (h : ∀ f : Field, raw' f.name = raw f.name) :
    DeviceConfig.fromWire raw' = DeviceConfig.fromWire raw := by
  have hproblem : parseProblem raw' = parseProblem raw := funext fun f => parseProblem_congr (h f)
  have hfield : parseField raw' = parseField raw := by
    funext f
    rw [parseField, h f, parseField]
  rw [DeviceConfig.fromWire, hproblem, hfield, DeviceConfig.fromWire]

end OneField

/-- `fromWire` raises exactly if the string of some field does not parse. It raises
`ValueError`, with one line for each of these fields and no other, in the order of their
declaration. Otherwise a field whose string is there is what the string parses to, and any
other field has its default. Keys that are no fields have no effect, and the string of one
field changes neither the value nor the line of another one. -/
theorem fromWire_report (raw : String → Option Text) :
    ((∃ e, DeviceConfig.fromWire raw = .error e) ↔
      ∃ (f : Field) (text : Text) (message : String), raw f.name = some text ∧
        parse f.kind text = .error ⟨.valueError, message⟩) ∧
    (∀ e, DeviceConfig.fromWire raw = .error e → ∃ lines : List (Field × String),
      e = ⟨.valueError, "Device returned unparseable settings:\n  " ++
        "\n  ".intercalate (lines.map Prod.snd)⟩ ∧
      lines.map Prod.fst = Field.all.filter (unparseable raw) ∧
      ∀ line ∈ lines, ∃ text message, raw line.1.name = some text ∧
        parse line.1.kind text = .error ⟨.valueError, message⟩ ∧
        line.2 = problemLine line.1 text message) ∧
    (∀ cfg, DeviceConfig.fromWire raw = .ok cfg → ∀ f : Field,
      (∀ text, raw f.name = some text → parse f.kind text = .ok (cfg f)) ∧
      (raw f.name = none → cfg f = f.default)) ∧
    (∀ raw' : String → Option Text, (∀ f : Field, raw' f.name = raw f.name) →
      DeviceConfig.fromWire raw' = DeviceConfig.fromWire raw) ∧
    (∀ (f g : Field) (text : Option Text), g ≠ f →
      let raw' := Function.update raw f.name text
      parseProblem raw' g = parseProblem raw g ∧
      ∀ cfg cfg', DeviceConfig.fromWire raw = .ok cfg → DeviceConfig.fromWire raw' = .ok cfg' →
        cfg' g = cfg g) := by
  refine ⟨⟨?_, ?_⟩, ?_, ?_, fun raw' => fromWire_congr, ?_⟩
  · rintro ⟨e, he⟩
    by_contra hnone
    rw [fromWire_of_parseable fun f => Bool.eq_false_of_not_eq_true fun hbad =>
      hnone ⟨f, unparseable_iff.mp hbad⟩] at he
    cases he
  · rintro ⟨f, hbad⟩
    exact ⟨_, fromWire_of_unparseable (unparseable_iff.mpr hbad)⟩
  · intro e he
    refine ⟨problemLines raw, ?_, map_fst_problemLines raw, fun line hline => ?_⟩
    · by_cases hall : ∀ f, unparseable raw f = false
      · rw [fromWire_of_parseable hall] at he
        cases he
      · obtain ⟨f, hbad⟩ := not_forall.mp hall
        rw [fromWire_of_unparseable (Bool.eq_true_of_not_eq_false hbad)] at he
        cases he
        rfl
    · obtain ⟨f, _, hf⟩ := List.mem_filterMap.mp hline
      obtain ⟨text, htext, rfl⟩ := Option.map_eq_some_iff.mp hf
      exact eq_problemLine htext
  · intro cfg hcfg f
    refine ⟨fun text hraw => DeviceConfig.parse_of_fromWire hcfg hraw, fun hraw => ?_⟩
    rw [eq_of_fromWire hcfg, parsedValue, parseField, hraw]
    rfl
  · intro f g text hne raw'
    have hsame : raw' g.name = raw g.name :=
      Function.update_of_ne (fun hname => hne (Field.name_injective hname)) text raw
    refine ⟨parseProblem_congr hsame, fun cfg cfg' hcfg hcfg' => ?_⟩
    rw [eq_of_fromWire hcfg', eq_of_fromWire hcfg, parsedValue_congr hsame]

end UhfReader18.Hwvx
