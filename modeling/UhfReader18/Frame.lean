import UhfReader18.Checksum

/-!
# Frames: builders, the response model and its validation

`builder.py` and `frame.py`. Three layouts of a response frame are written
separately in the source: `buildResponseFrame`, `validateFrame` and
`RfidResponse.toBytes`. `ResponseFrame` is what they have in common: four header
fields and at most 250 bytes of data, so that every value of it has a frame.

Results:
1. `buildResponseFrame_ok_iff`: the builder gives the frames of `ResponseFrame`.
2. `validateFrame_raw`, `validateFrame_ok_iff`: the parser accepts exactly these,
   and reads the fields back.
3. `toBytes_response`: `toBytes` writes the same bytes again.
-/

namespace UhfReader18

def heartbeatMarker : ℤ := 0x56
def heartbeatLength : ℕ := 6

/-- Address, command, status and the two checksum bytes. -/
def minFrameLength : ℤ := 5

/-! ## `builder.py` -/

def requireByte (name : String) (value : ℤ) : Except PyError Unit :=
  if 0 ≤ value ∧ value ≤ 0xFF then .ok ()
  else .error ⟨.valueError, s!"{name} must be between 0 and 255"⟩

/-- One command frame with CRC. -/
def buildCommandFrame (address command : ℤ) (data : Bytes) : Except PyError Bytes := do
  requireByte "address" address
  requireByte "command" command
  if data.length > 251 then
    throw ⟨.valueError, "data cannot exceed 251 bytes"⟩
  let header ← bytesOf [data.length + 4, address, command]
  let payload := header ++ data
  let crc ← toBytesLittle (crc16 payload) 2
  return payload ++ crc

/-- One response-shaped frame with CRC. -/
def buildResponseFrame (readerAddress command status : ℤ) (data : Bytes) :
    Except PyError Bytes := do
  requireByte "reader_address" readerAddress
  requireByte "command" command
  requireByte "status" status
  if data.length > 250 then
    throw ⟨.valueError, "data cannot exceed 250 bytes"⟩
  let header ← bytesOf [data.length + 5, readerAddress, command, status]
  let payload := header ++ data
  let crc ← toBytesLittle (crc16 payload) 2
  return payload ++ crc

/-- The six-byte heartbeat observed from readers. -/
def buildHeartbeat : Bytes :=
  [byteOf heartbeatMarker] ++ List.replicate (heartbeatLength - 1) 0

/-- Whether data starts with one complete heartbeat. -/
def isHeartbeat (data : Bytes) : Bool :=
  heartbeatLength ≤ data.length ∧ data.take heartbeatLength = buildHeartbeat

/-! ## `frame.py` -/

/-- A parsed and CRC-validated response frame. -/
structure RfidResponse where
  length : ℤ
  readerAddress : ℤ
  command : ℤ
  status : ℤ
  data : Bytes
  crc : ℤ
  deriving DecidableEq, Repr

def RfidResponse.toBytes (self : RfidResponse) : Except PyError Bytes := do
  let header ← bytesOf [self.length, self.readerAddress, self.command, self.status]
  let payload := header ++ self.data
  return payload ++ (← toBytesLittle self.crc 2)

/-- Reader heartbeat message. -/
structure Heartbeat where
  raw : Bytes
  deriving DecidableEq, Repr

/-- Parse one complete response frame and verify length and CRC. -/
def validateFrame (raw : Bytes) : Except PyError RfidResponse := do
  if raw.isEmpty then
    throw ⟨.frameError, "Empty frame"⟩
  let length ← index raw 0
  if length < minFrameLength then
    throw ⟨.frameError, s!"Length too small: {length} (minimum {minFrameLength})"⟩
  let expected := length + 1
  if (raw.length : ℤ) ≠ expected then
    throw ⟨.frameError, s!"Length mismatch: length byte says {length} (total {expected}), " ++
      s!"got {raw.length} bytes"⟩
  let received := fromBytesLittle (raw.drop (raw.length - 2))
  let computed := crc16 (raw.take (raw.length - 2))
  if received ≠ computed then
    throw ⟨.frameError, s!"CRC mismatch: received 0x{formatHex 4 received}, " ++
      s!"computed 0x{formatHex 4 computed}"⟩
  return ⟨length, ← index raw 1, ← index raw 2, ← index raw 3,
    (raw.take (raw.length - 2)).drop 4, received⟩

/-! ## The frames they agree on -/

/-- A payload followed by its CRC, least significant byte first. -/
def withCrc (payload : Bytes) : Bytes := payload ++ littleEndian 2 (crc16 payload)

/-- The contents of a response frame. A value of this type has a frame: the
fields are bytes and the data leave room for the length byte. -/
structure ResponseFrame where
  readerAddress : UInt8
  command : UInt8
  status : UInt8
  data : Bytes
  fits : data.length ≤ 250
  deriving DecidableEq

namespace ResponseFrame

variable (f : ResponseFrame)

/-- The bytes the CRC is computed over. -/
def payload : Bytes :=
  byteOf (f.data.length + 5) :: f.readerAddress :: f.command :: f.status :: f.data

/-- The frame on the wire. -/
def raw : Bytes := withCrc f.payload

/-- The frame as the parser reports it. -/
def response : RfidResponse where
  length := f.data.length + 5
  readerAddress := ord f.readerAddress
  command := ord f.command
  status := ord f.status
  data := f.data
  crc := crc16 f.payload

@[simp]
theorem length_raw : f.raw.length = f.data.length + 6 := by
  simp [raw, withCrc, payload]

theorem fits_nil : ([] : Bytes).length ≤ 250 := by
  decide

theorem ord_length : ord (byteOf (f.data.length + 5)) = f.data.length + 5 := by
  have h := f.fits
  exact ord_byteOf (by omega) (by omega)

theorem bytesOf_header :
    bytesOf [(f.data.length : ℤ) + 5, ord f.readerAddress, ord f.command, ord f.status] =
      .ok [byteOf (f.data.length + 5), f.readerAddress, f.command, f.status] := by
  have h := bytesOf_map_ord [byteOf (f.data.length + 5), f.readerAddress, f.command, f.status]
  simpa only [List.map_cons, List.map_nil, f.ord_length] using h

end ResponseFrame

/-- The contents of a command frame, as `ResponseFrame` for responses. -/
structure CommandFrame where
  address : UInt8
  command : UInt8
  data : Bytes
  fits : data.length ≤ 251
  deriving DecidableEq

namespace CommandFrame

variable (f : CommandFrame)

def payload : Bytes :=
  byteOf (f.data.length + 4) :: f.address :: f.command :: f.data

def raw : Bytes := withCrc f.payload

theorem ord_length : ord (byteOf (f.data.length + 4)) = f.data.length + 4 := by
  have h := f.fits
  exact ord_byteOf (by omega) (by omega)

theorem bytesOf_header :
    bytesOf [(f.data.length : ℤ) + 4, ord f.address, ord f.command] =
      .ok [byteOf (f.data.length + 4), f.address, f.command] := by
  have h := bytesOf_map_ord [byteOf (f.data.length + 4), f.address, f.command]
  simpa only [List.map_cons, List.map_nil, f.ord_length] using h

end CommandFrame

/-! ## The builders -/

theorem requireByte_ord (name : String) (b : UInt8) : requireByte name (ord b) = .ok () :=
  if_pos ⟨ord_nonneg b, ord_le b⟩

/-- What `requireByte` can do: let a byte through, or raise `ValueError`. -/
theorem requireByte_cases (name : String) (value : ℤ) :
    (∃ b : UInt8, value = ord b) ∨
      ¬ (0 ≤ value ∧ value ≤ 255) ∧
        ∃ text, requireByte name value = .error ⟨.valueError, text⟩ := by
  by_cases h : 0 ≤ value ∧ value ≤ 255
  · exact Or.inl ⟨byteOf value, (ord_byteOf h.1 h.2).symm⟩
  · exact Or.inr ⟨h, _, if_neg h⟩

theorem toBytesLittle_crc16 (payload : Bytes) :
    toBytesLittle (crc16 payload) 2 = .ok (littleEndian 2 (crc16 payload)) :=
  toBytesLittle_ok (crc16_lt payload)

/-- On the fields of a `ResponseFrame` the builder gives its bytes. -/
theorem buildResponseFrame_raw (f : ResponseFrame) :
    buildResponseFrame (ord f.readerAddress) (ord f.command) (ord f.status) f.data =
      .ok f.raw := by
  unfold buildResponseFrame
  simp only [bind, Except.bind, pure, Except.pure, requireByte_ord, if_neg (not_lt.mpr f.fits),
    f.bytesOf_header, toBytesLittle_crc16]
  rfl

/-- What `buildResponseFrame` can do: build the frame of a `ResponseFrame` with
the given fields, or raise `ValueError`. -/
theorem buildResponseFrame_cases (readerAddress command status : ℤ) (data : Bytes) :
    (∃ f : ResponseFrame, readerAddress = ord f.readerAddress ∧ command = ord f.command ∧
        status = ord f.status ∧ data = f.data) ∨
      ¬ ((0 ≤ readerAddress ∧ readerAddress ≤ 255) ∧ (0 ≤ command ∧ command ≤ 255) ∧
          (0 ≤ status ∧ status ≤ 255) ∧ data.length ≤ 250) ∧
        ∃ text, buildResponseFrame readerAddress command status data =
          .error ⟨.valueError, text⟩ := by
  rcases requireByte_cases "reader_address" readerAddress with ⟨a, rfl⟩ | ⟨ha, text, he⟩
  · rcases requireByte_cases "command" command with ⟨c, rfl⟩ | ⟨hc, text, he⟩
    · rcases requireByte_cases "status" status with ⟨s, rfl⟩ | ⟨hs, text, he⟩
      · by_cases hd : data.length ≤ 250
        · exact Or.inl ⟨⟨a, c, s, data, hd⟩, rfl, rfl, rfl, rfl⟩
        · refine Or.inr ⟨fun h => hd h.2.2.2, "data cannot exceed 250 bytes", ?_⟩
          unfold buildResponseFrame
          simp only [bind, Except.bind, requireByte_ord, if_pos (not_le.mp hd)]
          rfl
      · refine Or.inr ⟨fun h => hs h.2.2.1, text, ?_⟩
        simp only [buildResponseFrame, bind, Except.bind, requireByte_ord, he]
    · refine Or.inr ⟨fun h => hc h.2.1, text, ?_⟩
      simp only [buildResponseFrame, bind, Except.bind, requireByte_ord, he]
  · refine Or.inr ⟨fun h => ha h.1, text, ?_⟩
    simp only [buildResponseFrame, bind, Except.bind, he]

/-- The builder gives exactly the frames of `ResponseFrame`. -/
theorem buildResponseFrame_ok_iff {readerAddress command status : ℤ} {data raw : Bytes} :
    buildResponseFrame readerAddress command status data = .ok raw ↔
      ∃ f : ResponseFrame, readerAddress = ord f.readerAddress ∧ command = ord f.command ∧
        status = ord f.status ∧ data = f.data ∧ raw = f.raw := by
  constructor
  · intro h
    rcases buildResponseFrame_cases readerAddress command status data with
      ⟨f, rfl, rfl, rfl, rfl⟩ | ⟨_, text, he⟩
    · rw [buildResponseFrame_raw, Except.ok.injEq] at h
      exact ⟨f, rfl, rfl, rfl, rfl, h.symm⟩
    · rw [he] at h
      cases h
  · rintro ⟨f, rfl, rfl, rfl, rfl, rfl⟩
    exact buildResponseFrame_raw f

/-- On the fields of a `CommandFrame` the builder gives its bytes. -/
theorem buildCommandFrame_raw (f : CommandFrame) :
    buildCommandFrame (ord f.address) (ord f.command) f.data = .ok f.raw := by
  unfold buildCommandFrame
  simp only [bind, Except.bind, pure, Except.pure, requireByte_ord, if_neg (not_lt.mpr f.fits),
    f.bytesOf_header, toBytesLittle_crc16]
  rfl

/-- What `buildCommandFrame` can do: build the frame of a `CommandFrame` with the given
fields, or raise `ValueError`. -/
theorem buildCommandFrame_cases (address command : ℤ) (data : Bytes) :
    (∃ f : CommandFrame, address = ord f.address ∧ command = ord f.command ∧ data = f.data) ∨
      ¬ ((0 ≤ address ∧ address ≤ 255) ∧ (0 ≤ command ∧ command ≤ 255) ∧ data.length ≤ 251) ∧
        ∃ text, buildCommandFrame address command data = .error ⟨.valueError, text⟩ := by
  rcases requireByte_cases "address" address with ⟨a, rfl⟩ | ⟨ha, text, he⟩
  · rcases requireByte_cases "command" command with ⟨c, rfl⟩ | ⟨hc, text, he⟩
    · by_cases hd : data.length ≤ 251
      · exact Or.inl ⟨⟨a, c, data, hd⟩, rfl, rfl, rfl⟩
      · refine Or.inr ⟨fun h => hd h.2.2, "data cannot exceed 251 bytes", ?_⟩
        unfold buildCommandFrame
        simp only [bind, Except.bind, requireByte_ord, if_pos (not_le.mp hd)]
        rfl
    · refine Or.inr ⟨fun h => hc h.2.1, text, ?_⟩
      simp only [buildCommandFrame, bind, Except.bind, requireByte_ord, he]
  · refine Or.inr ⟨fun h => ha h.1, text, ?_⟩
    simp only [buildCommandFrame, bind, Except.bind, he]

/-! ## The parser -/

theorem take_withCrc (payload : Bytes) :
    (withCrc payload).take ((withCrc payload).length - 2) = payload := by
  simp [withCrc]

theorem drop_withCrc (payload : Bytes) :
    (withCrc payload).drop ((withCrc payload).length - 2) = littleEndian 2 (crc16 payload) := by
  simp [withCrc]

/-- Two bytes at the end that read as the CRC of what is before them. -/
theorem eq_withCrc {raw : Bytes} (hlen : 2 ≤ raw.length)
    (hcrc : fromBytesLittle (raw.drop (raw.length - 2)) = crc16 (raw.take (raw.length - 2))) :
    raw = withCrc (raw.take (raw.length - 2)) := by
  have h := littleEndian_fromBytesLittle (raw.drop (raw.length - 2))
  rw [List.length_drop, Nat.sub_sub_self hlen] at h
  rw [withCrc, ← hcrc, h, List.take_append_drop]

/-- The parser reads a frame back. -/
theorem validateFrame_raw (f : ResponseFrame) : validateFrame f.raw = .ok f.response := by
  have hreceived : fromBytesLittle (f.raw.drop (f.raw.length - 2)) = crc16 f.payload := by
    rw [ResponseFrame.raw, drop_withCrc, fromBytesLittle_littleEndian (crc16_lt _)]
  have hcomputed : f.raw.take (f.raw.length - 2) = f.payload := by
    rw [ResponseFrame.raw, take_withCrc]
  have hindex : ∀ i (b : UInt8), f.payload[i]? = some b → index f.raw i = .ok (ord b) := by
    intro i b hb
    have hi : i < f.payload.length := (List.getElem?_eq_some_iff.mp hb).1
    rw [index, ResponseFrame.raw, withCrc, List.getElem?_append_left hi, hb]
  have hfirst : index f.raw 0 = .ok (f.data.length + 5) := by
    rw [hindex 0 _ rfl, f.ord_length]
  have hlong : ¬ ((f.data.length : ℤ) + 5 < minFrameLength) := by
    unfold minFrameLength
    omega
  have htotal : (f.raw.length : ℤ) = f.data.length + 5 + 1 := by
    rw [f.length_raw]
    omega
  have hempty : f.raw.isEmpty = false := rfl
  unfold validateFrame
  simp only [bind, Except.bind, pure, Except.pure, hempty, Bool.false_eq_true, if_false, hfirst,
    if_neg hlong, htotal, ne_eq, not_true_eq_false, hreceived, hcomputed, hindex 1 _ rfl,
    hindex 2 _ rfl, hindex 3 _ rfl]
  rfl

/-- Length and CRC are all there is to check: a block that has both right is the
frame of a `ResponseFrame`. -/
theorem exists_raw {first : UInt8} {tail : Bytes} (hmin : minFrameLength ≤ ord first)
    (htotal : ((first :: tail).length : ℤ) = ord first + 1)
    (hcrc : fromBytesLittle ((first :: tail).drop ((first :: tail).length - 2)) =
      crc16 ((first :: tail).take ((first :: tail).length - 2))) :
    ∃ f : ResponseFrame, first :: tail = f.raw := by
  have hfive : 5 ≤ tail.length := by
    unfold minFrameLength at hmin
    rw [List.length_cons] at htotal
    omega
  obtain ⟨a, c, s, rest, rfl⟩ : ∃ a c s rest, tail = a :: c :: s :: rest := by
    match tail, hfive with
    | a :: c :: s :: rest, _ => exact ⟨a, c, s, rest, rfl⟩
  have hbyte := ord_le first
  simp only [List.length_cons] at htotal hfive
  have hfits : (rest.take (rest.length - 2)).length ≤ 250 := by
    rw [List.length_take]
    omega
  refine ⟨⟨a, c, s, rest.take (rest.length - 2), hfits⟩, ?_⟩
  have hdata : ((rest.take (rest.length - 2)).length : ℤ) + 5 = ord first := by
    rw [List.length_take]
    omega
  have hpayload : (first :: a :: c :: s :: rest).take
      ((first :: a :: c :: s :: rest).length - 2) =
        first :: a :: c :: s :: rest.take (rest.length - 2) := by
    have hlen : (first :: a :: c :: s :: rest).length - 2 = rest.length - 2 + 4 := by
      simp only [List.length_cons]
      omega
    rw [hlen]
    rfl
  rw [ResponseFrame.raw, ResponseFrame.payload, hdata, byteOf_ord, ← hpayload]
  exact eq_withCrc (by simp) hcrc

/-- What `validateFrame` can do: accept the frame of a `ResponseFrame`, or raise
`FrameError`. -/
theorem validateFrame_cases (raw : Bytes) :
    (∃ f : ResponseFrame, raw = f.raw) ∨
      ∃ text, validateFrame raw = .error ⟨.frameError, text⟩ := by
  cases raw with
  | nil => exact Or.inr ⟨_, rfl⟩
  | cons first tail =>
    have hfirst : index (first :: tail) 0 = .ok (ord first) := rfl
    have hempty : (first :: tail).isEmpty = false := rfl
    by_cases hlong : ord first < minFrameLength
    · right
      unfold validateFrame
      simp only [bind, Except.bind, hempty, hfirst, if_pos hlong]
      exact ⟨_, rfl⟩
    by_cases htotal : ((first :: tail).length : ℤ) = ord first + 1
    swap
    · right
      unfold validateFrame
      simp only [bind, Except.bind, hempty, hfirst, if_neg hlong, if_pos htotal, ne_eq]
      exact ⟨_, rfl⟩
    by_cases hcrc : fromBytesLittle ((first :: tail).drop ((first :: tail).length - 2)) =
        crc16 ((first :: tail).take ((first :: tail).length - 2))
    swap
    · right
      unfold validateFrame
      simp only [bind, Except.bind, hempty, hfirst, if_neg hlong, htotal, if_pos hcrc, ne_eq]
      exact ⟨_, rfl⟩
    · exact Or.inl (exists_raw (not_lt.mp hlong) htotal hcrc)

theorem validateFrame_ok_iff {raw : Bytes} {response : RfidResponse} :
    validateFrame raw = .ok response ↔
      ∃ f : ResponseFrame, raw = f.raw ∧ response = f.response := by
  constructor
  · intro h
    rcases validateFrame_cases raw with ⟨f, rfl⟩ | ⟨text, he⟩
    · rw [validateFrame_raw, Except.ok.injEq] at h
      exact ⟨f, rfl, h.symm⟩
    · rw [he] at h
      cases h
  · rintro ⟨f, rfl, rfl⟩
    exact validateFrame_raw f

/-! ## The round trip -/

theorem toBytes_response (f : ResponseFrame) : f.response.toBytes = .ok f.raw := by
  unfold RfidResponse.toBytes ResponseFrame.response
  simp only [bind, Except.bind, pure, Except.pure, f.bytesOf_header, toBytesLittle_crc16]
  rfl

/-- `n` is the value of a byte. -/
def IsByte (n : ℤ) : Prop := 0 ≤ n ∧ n ≤ 255

theorem isByte_ord (b : UInt8) : IsByte (ord b) := ⟨ord_nonneg b, ord_le b⟩

/-- The parser accepts exactly what the builder builds, reads the builder's
arguments back, and `toBytes` gives the frame again; on everything else it
raises `FrameError`. The builder in turn builds a frame for exactly the
arguments that fit their bytes, and raises `ValueError` for all others. -/
theorem validateFrame_exact (raw : Bytes) :
    ((∃ response, validateFrame raw = .ok response) ↔
      ∃ readerAddress command status data, IsByte readerAddress ∧ IsByte command ∧
        IsByte status ∧ data.length ≤ 250 ∧
        buildResponseFrame readerAddress command status data = .ok raw) ∧
    (∀ response readerAddress command status data, validateFrame raw = .ok response →
      buildResponseFrame readerAddress command status data = .ok raw →
      response =
        { length := data.length + 5, readerAddress := readerAddress, command := command,
          status := status, data := data,
          crc := fromBytesLittle (raw.drop (raw.length - 2)) }) ∧
    (∀ response, validateFrame raw = .ok response → response.toBytes = .ok raw) ∧
    (∀ e, validateFrame raw = .error e → e.kind = .frameError) ∧
    ∀ readerAddress command status data,
      ((∃ built, buildResponseFrame readerAddress command status data = .ok built) ↔
        IsByte readerAddress ∧ IsByte command ∧ IsByte status ∧ data.length ≤ 250) ∧
      ∀ e, buildResponseFrame readerAddress command status data = .error e →
        e.kind = .valueError := by
  refine ⟨⟨?_, ?_⟩, ?_, ?_, ?_, fun readerAddress command status data => ⟨⟨?_, ?_⟩, ?_⟩⟩
  · rintro ⟨response, h⟩
    obtain ⟨f, rfl, rfl⟩ := validateFrame_ok_iff.mp h
    exact ⟨_, _, _, _, isByte_ord _, isByte_ord _, isByte_ord _, f.fits, buildResponseFrame_raw f⟩
  · rintro ⟨a, c, s, data, _, _, _, _, h⟩
    obtain ⟨f, _, _, _, _, rfl⟩ := buildResponseFrame_ok_iff.mp h
    exact ⟨_, validateFrame_raw f⟩
  · intro response a c s data h hbuilt
    obtain ⟨f, rfl, rfl, rfl, rfl, rfl⟩ := buildResponseFrame_ok_iff.mp hbuilt
    rw [validateFrame_raw, Except.ok.injEq] at h
    rw [← h, ResponseFrame.raw, drop_withCrc, fromBytesLittle_littleEndian (crc16_lt _)]
    rfl
  · intro response h
    obtain ⟨f, rfl, rfl⟩ := validateFrame_ok_iff.mp h
    exact toBytes_response f
  · intro e h
    rcases validateFrame_cases raw with ⟨f, rfl⟩ | ⟨text, he⟩
    · rw [validateFrame_raw] at h
      cases h
    · rw [he] at h
      cases h
      rfl
  · rintro ⟨built, h⟩
    obtain ⟨f, rfl, rfl, rfl, rfl, _⟩ := buildResponseFrame_ok_iff.mp h
    exact ⟨isByte_ord _, isByte_ord _, isByte_ord _, f.fits⟩
  · intro hrange
    rcases buildResponseFrame_cases readerAddress command status data with
      ⟨f, rfl, rfl, rfl, rfl⟩ | ⟨hout, _⟩
    · exact ⟨_, buildResponseFrame_raw f⟩
    · exact absurd hrange hout
  · intro e h
    rcases buildResponseFrame_cases readerAddress command status data with
      ⟨f, rfl, rfl, rfl, rfl⟩ | ⟨_, text, he⟩
    · rw [buildResponseFrame_raw] at h
      cases h
    · rw [he] at h
      cases h
      rfl

end UhfReader18
