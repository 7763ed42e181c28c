import UhfReader18.Frame
import UhfReader18.PrefixCode

/-!
# Command streams

Commands go to the reader over a byte stream without separators. A command frame begins with
the number of bytes that follow, so the frames are a code whose words say how long they are,
`selfDelimiting_raw`, and the reader can find them again whatever they carry. The length byte
is just large enough for this: data of 251 bytes, the most the builder accepts, makes it 255.
-/

namespace UhfReader18

/-! ## The frames as a code -/

namespace CommandFrame

variable (f : CommandFrame)

/-- The length byte, and behind it as many bytes as it says. -/
theorem exists_raw_eq_cons :
    ∃ first tail, f.raw = first :: tail ∧ (tail.length : ℤ) = ord first := by
  refine ⟨byteOf (f.data.length + 4),
    f.address :: f.command :: f.data ++ littleEndian 2 (crc16 f.payload), rfl, ?_⟩
  rw [f.ord_length, List.length_append, length_littleEndian]
  push_cast [List.length_cons]
  omega

theorem selfDelimiting_raw : SelfDelimiting UInt8.toNat (Set.range raw) := by
  rintro w ⟨f, rfl⟩
  obtain ⟨first, tail, hraw, hlen⟩ := f.exists_raw_eq_cons
  exact ⟨first, tail, hraw, Nat.cast_injective hlen⟩

theorem raw_injective : Function.Injective raw := by
  intro f g heq
  have hlength : f.raw.length = g.raw.length := congrArg List.length heq
  have hpayload : f.payload = g.payload := by
    rw [← take_withCrc f.payload, ← take_withCrc g.payload]
    show f.raw.take (f.raw.length - 2) = g.raw.take (g.raw.length - 2)
    rw [heq]
  obtain ⟨address, command, data, hf⟩ := f
  obtain ⟨address', command', data', hg⟩ := g
  obtain ⟨_, rfl, rfl, rfl⟩ : _ ∧ address = address' ∧ command = command' ∧ data = data' := by
    simpa only [payload, List.cons.injEq] using hpayload
  rfl

end CommandFrame

/-! ## The builder -/

/-- The builder gives exactly the frames of `CommandFrame`. -/
theorem buildCommandFrame_ok_iff {address command : ℤ} {data raw : Bytes} :
    buildCommandFrame address command data = .ok raw ↔
      ∃ f : CommandFrame, address = ord f.address ∧ command = ord f.command ∧ data = f.data ∧
        raw = f.raw := by
  constructor
  · intro h
    rcases buildCommandFrame_cases address command data with ⟨f, rfl, rfl, rfl⟩ | ⟨_, text, he⟩
    · rw [buildCommandFrame_raw, Except.ok.injEq] at h
      exact ⟨f, rfl, rfl, rfl, h.symm⟩
    · rw [he] at h
      cases h
  · rintro ⟨f, rfl, rfl, rfl, rfl⟩
    exact buildCommandFrame_raw f

theorem exists_buildCommandFrame_eq_iff (address command : ℤ) (data : Bytes) :
    (∃ raw, buildCommandFrame address command data = .ok raw) ↔
      IsByte address ∧ IsByte command ∧ data.length ≤ 251 := by
  constructor
  · rintro ⟨raw, h⟩
    obtain ⟨f, rfl, rfl, rfl, _⟩ := buildCommandFrame_ok_iff.mp h
    exact ⟨isByte_ord _, isByte_ord _, f.fits⟩
  · rintro h
    rcases buildCommandFrame_cases address command data with ⟨f, rfl, rfl, rfl⟩ | ⟨hn, _⟩
    · exact ⟨_, buildCommandFrame_raw f⟩
    · exact absurd h hn

/-- Address, command and data of a command. -/
abbrev CommandTriple : Type := ℤ × ℤ × Bytes

def CommandTriple.build (c : CommandTriple) : Except PyError Bytes :=
  buildCommandFrame c.1 c.2.1 c.2.2

def CommandFrame.triple (f : CommandFrame) : CommandTriple :=
  (ord f.address, ord f.command, f.data)

/-- The frames of commands, one after another. -/
def commandStream (commands : List CommandTriple) : Except PyError Bytes := do
  let frames ← commands.mapM CommandTriple.build
  return frames.flatten

theorem CommandTriple.build_eq_ok {c : CommandTriple} {raw : Bytes} (h : c.build = .ok raw) :
    ∃ f : CommandFrame, c = f.triple ∧ raw = f.raw := by
  obtain ⟨f, haddress, hcommand, hdata, hraw⟩ := buildCommandFrame_ok_iff.mp h
  exact ⟨f, Prod.ext haddress (Prod.ext hcommand hdata), hraw⟩

/-- A stream of accepted commands is the stream of some `CommandFrame`s. -/
theorem exists_of_commandStream_eq_ok {commands : List CommandTriple} {stream : Bytes}
    (h : commandStream commands = .ok stream) :
    ∃ fs : List CommandFrame, commands = fs.map CommandFrame.triple ∧
      stream = (fs.map CommandFrame.raw).flatten := by
  induction commands generalizing stream with
  | nil =>
    cases h
    exact ⟨[], rfl, rfl⟩
  | cons c commands ih =>
    unfold commandStream at h
    rw [List.mapM_cons] at h
    obtain ⟨frames, hframes, hstream⟩ := bind_eq_ok h
    obtain ⟨raw, hraw, hframes⟩ := bind_eq_ok hframes
    obtain ⟨rest, hrest, hframes⟩ := bind_eq_ok hframes
    cases hframes
    cases hstream
    obtain ⟨f, rfl, rfl⟩ := CommandTriple.build_eq_ok hraw
    have hcommands : commandStream commands = .ok rest.flatten := by
      rw [commandStream, hrest]
      rfl
    obtain ⟨fs, rfl, hfs⟩ := ih hcommands
    exact ⟨f :: fs, rfl, by rw [List.flatten_cons, hfs, List.map_cons, List.flatten_cons]⟩

/-- Command streams can be taken apart again: lists of accepted commands with the same stream
are the same, and no frame is a proper beginning of another one. The builder accepts exactly
the commands whose address and command are bytes and whose data has at most 251 bytes, and
the first byte of a frame is the number of bytes behind it. -/
theorem commandStream_decodable :
    (∀ commands commands' stream, commandStream commands = .ok stream →
      commandStream commands' = .ok stream → commands = commands') ∧
    (∀ (c c' : CommandTriple) (raw raw' : Bytes), c.build = .ok raw → c'.build = .ok raw' →
      raw <+: raw' → raw = raw') ∧
    (∀ address command data, (∃ raw, buildCommandFrame address command data = .ok raw) ↔
      IsByte address ∧ IsByte command ∧ data.length ≤ 251) ∧
    (∀ address command data raw, buildCommandFrame address command data = .ok raw →
      ∃ first tail, raw = first :: tail ∧ (tail.length : ℤ) = ord first) := by
  refine ⟨?_, ?_, exists_buildCommandFrame_eq_iff, ?_⟩
  · intro commands commands' stream h h'
    obtain ⟨fs, rfl, rfl⟩ := exists_of_commandStream_eq_ok h
    obtain ⟨fs', rfl, heq⟩ := exists_of_commandStream_eq_ok h'
    have hfs : fs = fs' := CommandFrame.selfDelimiting_raw.map_injective
      CommandFrame.raw_injective Set.mem_range_self heq
    rw [hfs]
  · intro c c' raw raw' h h' hprefix
    obtain ⟨f, rfl, rfl⟩ := CommandTriple.build_eq_ok h
    obtain ⟨f', rfl, rfl⟩ := CommandTriple.build_eq_ok h'
    exact CommandFrame.selfDelimiting_raw.prefixFree _ (Set.mem_range_self f) _
      (Set.mem_range_self f') hprefix
  · intro address command data raw h
    obtain ⟨f, rfl, rfl, rfl, rfl⟩ := buildCommandFrame_ok_iff.mp h
    exact f.exists_raw_eq_cons

end UhfReader18
