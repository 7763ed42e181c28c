import Mathlib.Data.Set.List
import UhfReader18.Stream

/-!
# Traffic: what a stream is made of

A byte stream from a reader is a list of items: frames, heartbeats, blocks with
an intact length byte and a wrong CRC, and stray bytes too small to be a length.
`StreamBuffer` is correct when it finds these items again, however they are cut
into chunks.

Results:
1. `feedAll_items`: after every chunk exactly the complete items have been
   reported, and the pending bytes are the beginning of the next one.
2. `exists_items`: every byte stream is such a list of items and the beginning of
   one more, so that the grammar leaves nothing out.
3. `parsed_of_prefix`: of undamaged replies every prefix gives the first ones.
4. `feedAll_response`: which response frames are told from a heartbeat.
5. `feedAll_provenance`: what is emitted lies in the input at disjoint places, in
   order.
-/

namespace UhfReader18

/-! ## Items -/

/-- A block with an intact length byte whose last two bytes are not its CRC. -/
def IsDamaged (raw : Bytes) : Prop :=
  IsBlock raw ∧ raw.drop (raw.length - 2) ≠ littleEndian 2 (crc16 (raw.take (raw.length - 2)))

/-- One item of the traffic from a reader. -/
inductive Item
  | frame (raw : Bytes)
      (built : ∃ readerAddress command status data,
        buildResponseFrame readerAddress command status data = .ok raw)
      (notHeartbeat : raw.take heartbeatLength ≠ buildHeartbeat)
  | heartbeat
  | damaged (raw : Bytes) (isDamaged : IsDamaged raw)
  | stray (byte : UInt8) (small : ord byte < minFrameLength)

namespace Item

def bytes : Item → Bytes
  | frame raw _ _ => raw
  | heartbeat => buildHeartbeat
  | damaged raw _ => raw
  | stray byte _ => [byte]

/-- The frame an item is parsed to. -/
def frame? : Item → Option RfidResponse
  | frame raw _ _ => (validateFrame raw).toOption
  | _ => none

def heartbeat? : Item → Option Heartbeat
  | heartbeat => some ⟨buildHeartbeat⟩
  | _ => none

/-- Damaged blocks and stray bytes are reported as errors. -/
def isError : Item → Bool
  | damaged _ _ => true
  | stray _ _ => true
  | _ => false

/-- How the loop reports an item. -/
def event : Item → Event
  | frame raw _ _ => blockEvent none raw
  | heartbeat => .heartbeat ⟨buildHeartbeat⟩
  | damaged raw _ => blockEvent none raw
  | stray byte _ => .error (invalidLengthText (ord byte))

end Item

theorem blockEvent_raw (f : ResponseFrame) : blockEvent none f.raw = .frame f.response := by
  rw [blockEvent, validateFrame_raw]

theorem isBlock_raw {f : ResponseFrame} (h : f.raw.take heartbeatLength ≠ buildHeartbeat) :
    IsBlock f.raw := by
  refine ⟨⟨_, _, rfl, ?_, ?_⟩, h⟩
  · rw [f.ord_length]
    unfold minFrameLength
    omega
  · rw [f.ord_length, f.length_raw]
    omega

theorem IsDamaged.ne_raw {raw : Bytes} (h : IsDamaged raw) (f : ResponseFrame) : raw ≠ f.raw := by
  rintro rfl
  refine h.2 ?_
  rw [ResponseFrame.raw, drop_withCrc, take_withCrc]

/-- A block that is not damaged is a frame. -/
theorem IsBlock.damaged_or_raw {raw : Bytes} (h : IsBlock raw) :
    IsDamaged raw ∨ ∃ f : ResponseFrame, raw = f.raw := by
  by_cases hcrc : raw.drop (raw.length - 2) = littleEndian 2 (crc16 (raw.take (raw.length - 2)))
  · obtain ⟨first, tail, rfl, hmin, htotal⟩ := h.length_eq
    refine Or.inr (exists_raw hmin htotal ?_)
    rw [hcrc, fromBytesLittle_littleEndian (crc16_lt _)]
  · exact Or.inl ⟨h, hcrc⟩

theorem IsDamaged.validateFrame_error {raw : Bytes} (h : IsDamaged raw) :
    ∃ text, validateFrame raw = .error ⟨.frameError, text⟩ :=
  (validateFrame_cases raw).resolve_left fun ⟨f, hf⟩ => h.ne_raw f hf

namespace Item

/-- An item is a message on the stream. -/
theorem message (item : Item) : Message none item.bytes item.event := by
  cases item with
  | frame raw built notHeartbeat =>
    obtain ⟨a, c, s, data, hbuilt⟩ := built
    obtain ⟨f, _, _, _, _, rfl⟩ := buildResponseFrame_ok_iff.mp hbuilt
    exact .block (isBlock_raw notHeartbeat)
  | heartbeat => exact .heartbeat
  | damaged raw h => exact .block h.1
  | stray byte h => exact .stray h

theorem frame?_eq (raw : Bytes) (built notHeartbeat) :
    ∃ f : ResponseFrame, raw = f.raw ∧ (frame raw built notHeartbeat).frame? = some f.response := by
  obtain ⟨a, c, s, data, hbuilt⟩ := built
  obtain ⟨f, _, _, _, _, rfl⟩ := buildResponseFrame_ok_iff.mp hbuilt
  exact ⟨f, rfl, by rw [frame?, validateFrame_raw]; rfl⟩

/-- The loop reports a frame for a frame, a heartbeat for a heartbeat and an error
for anything else. -/
theorem event_eq (item : Item) :
    item.event.frame? = item.frame? ∧ item.event.heartbeat? = item.heartbeat? ∧
      item.event.error?.isSome = item.isError := by
  cases item with
  | frame raw built notHeartbeat =>
    obtain ⟨f, rfl, hf⟩ := frame?_eq raw built notHeartbeat
    rw [hf, event, blockEvent_raw]
    exact ⟨rfl, rfl, rfl⟩
  | heartbeat => exact ⟨rfl, rfl, rfl⟩
  | damaged raw h =>
    obtain ⟨text, he⟩ := h.validateFrame_error
    rw [event, blockEvent, he]
    exact ⟨rfl, rfl, rfl⟩
  | stray byte h => exact ⟨rfl, rfl, rfl⟩

/-- Every message on the stream is an item. -/
theorem exists_of_message {raw : Bytes} {e : Event} (h : Message none raw e) :
    ∃ item : Item, item.bytes = raw ∧ item.event = e := by
  cases h with
  | heartbeat => exact ⟨.heartbeat, rfl, rfl⟩
  | @stray byte hsmall => exact ⟨.stray byte hsmall, rfl, rfl⟩
  | block hb =>
    rcases hb.damaged_or_raw with hd | ⟨f, rfl⟩
    · exact ⟨.damaged raw hd, rfl, rfl⟩
    · exact ⟨.frame f.raw ⟨_, _, _, _, buildResponseFrame_raw f⟩ hb.not_heartbeat, rfl, rfl⟩

end Item

/-! ## Lists of items -/

/-- The items lying completely inside the first `n` bytes. -/
def completeItems : List Item → ℕ → List Item
  | [], _ => []
  | item :: items, n =>
    if item.bytes.length ≤ n then item :: completeItems items (n - item.bytes.length) else []

/-- An item as a message of the deframer. -/
def Item.toMessage (item : Item) : Bytes × Event := (item.bytes, item.event)

theorem flatMap_toMessage (items : List Item) :
    (items.map Item.toMessage).flatMap Prod.fst = items.flatMap Item.bytes := by
  rw [List.flatMap_map]
  rfl

theorem complete_toMessage {items : List Item} :
    ∀ m ∈ items.map Item.toMessage, (deframer none).Complete m := by
  intro m hm
  obtain ⟨item, _, rfl⟩ := List.mem_map.mp hm
  exact complete_iff.mpr item.message

theorem parsed_items (items : List Item) (more : Bytes) :
    parsed none (items.flatMap Item.bytes ++ more) =
      .ofEvents (items.map Item.event) ++ parsed none more := by
  rw [parsed, ← flatMap_toMessage, Deframer.messages_items complete_toMessage, List.map_append,
    ParseResult.ofEvents_append, List.map_map]
  rfl

theorem leftover_items (items : List Item) (more : Bytes) :
    leftover none (items.flatMap Item.bytes ++ more) = leftover none more := by
  rw [leftover, ← flatMap_toMessage, Deframer.pending_items complete_toMessage]
  rfl

theorem frames_items (items : List Item) :
    (ParseResult.ofEvents (items.map Item.event)).frames = items.filterMap Item.frame? := by
  simp only [ParseResult.ofEvents, List.filterMap_map]
  exact congrArg (items.filterMap ·) (funext fun item => item.event_eq.1)

theorem heartbeats_items (items : List Item) :
    (ParseResult.ofEvents (items.map Item.event)).heartbeats =
      items.filterMap Item.heartbeat? := by
  simp only [ParseResult.ofEvents, List.filterMap_map]
  exact congrArg (items.filterMap ·) (funext fun item => item.event_eq.2.1)

theorem length_errors_items (items : List Item) :
    (ParseResult.ofEvents (items.map Item.event)).errors.length =
      items.countP Item.isError := by
  simp only [ParseResult.ofEvents, List.length_filterMap_eq_countP, List.countP_map]
  exact congrArg (items.countP ·) (funext fun item => item.event_eq.2.2)

/-- Every byte stream is a list of items followed by the beginning of one more. -/
theorem exists_items (data : Bytes) :
    ∃ items : List Item, data = items.flatMap Item.bytes ++ leftover none data := by
  suffices h : ∃ items : List Item, items.map Item.toMessage = (deframer none).messages data by
    obtain ⟨items, hitems⟩ := h
    refine ⟨items, ?_⟩
    rw [← flatMap_toMessage, hitems]
    exact ((deframer none).segments_append_pending data).symm
  have hall : ∀ m ∈ (deframer none).messages data, ∃ item : Item, item.toMessage = m := by
    intro m hm
    obtain ⟨item, hbytes, hevent⟩ :=
      Item.exists_of_message (complete_iff.mp (Deframer.complete_of_mem hm))
    exact ⟨item, Prod.ext hbytes hevent⟩
  have hrange := Set.range_list_map Item.toMessage
  exact hrange.ge hall

/-! ## Reassembly -/

theorem completeItems_append {items : List Item} {k : ℕ} {part : Bytes}
    (hpart : ∀ item, items[k]? = some item → part.length < item.bytes.length) :
    completeItems items ((items.take k).flatMap Item.bytes ++ part).length = items.take k := by
  induction items generalizing k with
  | nil => simp [completeItems]
  | cons item items ih =>
    cases k with
    | zero =>
      have hlt := hpart item rfl
      rw [completeItems, if_neg]
      · rfl
      · simpa using hlt
    | succ k =>
      have hlen : ((((item :: items).take (k + 1)).flatMap Item.bytes) ++ part).length =
          item.bytes.length + ((items.take k).flatMap Item.bytes ++ part).length := by
        simp
      rw [hlen, completeItems, if_pos (Nat.le_add_right _ _), Nat.add_sub_cancel_left,
        ih hpart, List.take_succ_cons]

/-- The cut of a prefix of the traffic: some complete items, and the beginning of
the next one that waits for more bytes. -/
theorem exists_item_cut {items : List Item} {fed : Bytes}
    (hfed : fed <+: items.flatMap Item.bytes) :
    ∃ part, fed = (completeItems items fed.length).flatMap Item.bytes ++ part ∧
      leftover none part = part ∧ parsed none part = {} ∧
      (part = [] ∨ ∃ item, items[(completeItems items fed.length).length]? = some item ∧
        part <+: item.bytes ∧ part.length < item.bytes.length) := by
  rw [← flatMap_toMessage] at hfed
  obtain ⟨k, part, hk, rfl, hpart⟩ := Deframer.exists_cut hfed
  have hnext : (deframer none).next part = none :=
    Deframer.next_part complete_toMessage hpart
  have hpart' : part = [] ∨ ∃ item, items[k]? = some item ∧ part <+: item.bytes ∧
      part.length < item.bytes.length := by
    rcases hpart with h | ⟨m, hm, hpre, hlt⟩
    · exact Or.inl h
    · rw [List.getElem?_map, Option.map_eq_some_iff] at hm
      obtain ⟨item, hitem, rfl⟩ := hm
      exact Or.inr ⟨item, hitem, hpre, hlt⟩
  have hlt : ∀ item, items[k]? = some item → part.length < item.bytes.length := by
    intro item hitem
    rcases hpart' with rfl | ⟨item', hitem', _, hlt⟩
    · exact List.length_pos_iff.mpr item.message.ne_nil
    · rw [hitem] at hitem'
      cases hitem'
      exact hlt
  rw [← List.map_take, flatMap_toMessage, completeItems_append hlt]
  refine ⟨part, rfl, Deframer.pending_of_none hnext, ?_, ?_⟩
  · rw [parsed, Deframer.messages_of_none hnext]
    rfl
  · rw [List.length_take_of_le (by simpa using hk)]
    exact hpart'

/-- Reassembly of damaged traffic. Feed a concatenation of items to a fresh buffer,
cut into chunks in any way. After every chunk the frames reported are the parsed
frame items that lie completely in the bytes fed so far, in order; the heartbeats
are the complete heartbeat items; there is one error for each complete damaged or
stray item; and the buffer holds the part of the next item that has arrived. -/
theorem feedAll_items (items : List Item) (chunks : List Bytes)
    (h : chunks.flatten = items.flatMap Item.bytes) :
    ∀ k, let fed := (chunks.take k).flatten
      let complete := completeItems items fed.length
      ∃ self result, StreamBuffer.feedAll {} (chunks.take k) = .ok (self, result) ∧
        result.frames = complete.filterMap Item.frame? ∧
        result.heartbeats = complete.filterMap Item.heartbeat? ∧
        result.errors.length = complete.countP Item.isError ∧
        fed = complete.flatMap Item.bytes ++ self.buffer ∧
        (self.buffer = [] ∨ ∃ item, items[complete.length]? = some item ∧
          self.buffer <+: item.bytes ∧ self.buffer.length < item.bytes.length) := by
  intro k fed complete
  have hfed : fed <+: items.flatMap Item.bytes := by
    refine ⟨(chunks.drop k).flatten, ?_⟩
    rw [← h, ← List.flatten_append, List.take_append_drop]
  obtain ⟨part, hcut, hleft, hparsed, hpart⟩ := exists_item_cut hfed
  have hleftover : leftover none fed = part := by
    rw [hcut, leftover_items, hleft]
  have hresult : parsed none fed = .ofEvents (complete.map Item.event) := by
    conv => lhs; rw [hcut, parsed_items, hparsed, ParseResult.append_empty]
  refine ⟨_, _, StreamBuffer.feedAll_fresh none (chunks.take k), ?_, ?_, ?_, ?_, ?_⟩
  · rw [hresult, frames_items]
  · rw [hresult, heartbeats_items]
  · rw [hresult, length_errors_items]
  · show fed = complete.flatMap Item.bytes ++ leftover none fed
    rw [hleftover]
    exact hcut
  · show leftover none fed = [] ∨ ∃ item, items[complete.length]? = some item ∧
      leftover none fed <+: item.bytes ∧ (leftover none fed).length < item.bytes.length
    rw [hleftover]
    exact hpart

/-- A block of six bytes with a wrong CRC. -/
def damagedExample : Item :=
  .damaged [5, 0, 1, 0, 0, 0] ⟨⟨⟨5, _, rfl, by decide, by decide⟩, by decide⟩, by decide +kernel⟩

/-- The answer of the reader at address 1 to Get WorkMode, without data. -/
def frameExample : Item :=
  .frame [5, 1, 0x36, 0, 0xD8, 0xD5] ⟨1, 0x36, 0, [], by decide +kernel⟩ (by decide)

/-- A stray byte, a damaged block, a frame and a heartbeat, cut inside the block and inside the
frame. -/
theorem feedAll_items_damaged :
    ∃ self result,
      StreamBuffer.feedAll {}
          [[1, 5, 0], [1, 0, 0, 0, 5, 1], [0x36, 0, 0xD8, 0xD5, 0x56, 0, 0, 0, 0, 0]] =
        .ok (self, result) ∧
      result.frames = [⟨5, 1, 0x36, 0, [], 0xD5D8⟩] ∧
      result.heartbeats = [⟨buildHeartbeat⟩] ∧ result.errors.length = 2 ∧ self.buffer = [] := by
  obtain ⟨self, result, hrun, hframes, hbeats, herrors, hfed, _⟩ :=
    feedAll_items [.stray 1 (by decide), damagedExample, frameExample, .heartbeat]
      [[1, 5, 0], [1, 0, 0, 0, 5, 1], [0x36, 0, 0xD8, 0xD5, 0x56, 0, 0, 0, 0, 0]] (by decide) 3
  have hframe : [Item.stray 1 (by decide), damagedExample, frameExample, .heartbeat].filterMap
      Item.frame? = [⟨5, 1, 0x36, 0, [], 0xD5D8⟩] := by decide +kernel
  exact ⟨self, result, hrun, hframes.trans hframe, hbeats, herrors,
    List.self_eq_append_right.mp hfed⟩

/-! ## Traffic without damage -/

/-- A response frame that does not look like a heartbeat. -/
structure Reply where
  frame : ResponseFrame
  notHeartbeat : frame.raw.take heartbeatLength ≠ buildHeartbeat

namespace Reply

def raw (self : Reply) : Bytes := self.frame.raw

def response (self : Reply) : RfidResponse := self.frame.response

def item (self : Reply) : Item :=
  .frame self.raw ⟨_, _, _, _, buildResponseFrame_raw self.frame⟩ self.notHeartbeat

theorem flatMap_item (replies : List Reply) :
    (replies.map item).flatMap Item.bytes = replies.flatMap raw := by
  rw [List.flatMap_map]
  rfl

theorem ofEvents_item (replies : List Reply) :
    ParseResult.ofEvents ((replies.map item).map Item.event) =
      { frames := replies.map response } := by
  induction replies with
  | nil => rfl
  | cons reply replies ih =>
    have hevent : reply.item.event = .frame reply.response := blockEvent_raw reply.frame
    rw [List.map_cons, List.map_cons, hevent, ← List.singleton_append,
      ParseResult.ofEvents_append, ih]
    rfl

end Reply

theorem parsed_replies (replies : List Reply) (more : Bytes) :
    parsed none (replies.flatMap Reply.raw ++ more) =
      { frames := replies.map Reply.response } ++ parsed none more := by
  rw [← Reply.flatMap_item, parsed_items, Reply.ofEvents_item]

/-- The beginning of a reply waits for the rest of it. -/
theorem parsed_part {part : Bytes} {reply : Reply} (hpart : part <+: reply.raw)
    (hlt : part.length < reply.raw.length) : parsed none part = {} := by
  have hwait : (deframer none).next part = none :=
    (complete_iff.mpr reply.item.message).next_of_part hpart hlt
  rw [parsed, Deframer.messages_of_none hwait]
  rfl

/-- A prefix of replies is parsed to the first ones of them. -/
theorem parsed_of_prefix {replies : List Reply} {data : Bytes}
    (h : data <+: replies.flatMap Reply.raw) :
    ∃ k ≤ replies.length, parsed none data = { frames := (replies.take k).map Reply.response } := by
  rw [← Reply.flatMap_item, ← flatMap_toMessage] at h
  obtain ⟨k, part, hk, rfl, hpart⟩ := Deframer.exists_cut h
  have hwait : (deframer none).next part = none := Deframer.next_part complete_toMessage hpart
  rw [List.length_map, List.length_map] at hk
  refine ⟨k, hk, ?_⟩
  rw [← List.map_take, ← List.map_take, flatMap_toMessage, parsed_items, Reply.ofEvents_item,
    parsed, Deframer.messages_of_none hwait]
  exact ParseResult.append_empty _

/-- Which frames begin like a heartbeat: the length byte is the marker, and the three header
fields and the first two bytes of the data are zero. -/
theorem ResponseFrame.take_raw_eq_heartbeat_iff (f : ResponseFrame) :
    f.raw.take heartbeatLength = buildHeartbeat ↔
      f.data.length = 81 ∧ f.readerAddress = 0 ∧ f.command = 0 ∧ f.status = 0 ∧
        f.data.take 2 = [0, 0] := by
  have hraw : f.raw = byteOf (f.data.length + 5) :: f.readerAddress :: f.command :: f.status ::
      (f.data ++ littleEndian 2 (crc16 f.payload)) := rfl
  have hmarker : byteOf (f.data.length + 5) = byteOf heartbeatMarker ↔ f.data.length = 81 := by
    constructor
    · intro heq
      have hord : (f.data.length : ℤ) + 5 = 0x56 := by
        rw [← f.ord_length, heq]
        rfl
      omega
    · intro hlen
      rw [hlen]
      rfl
  have htake : f.raw.take heartbeatLength = byteOf (f.data.length + 5) :: f.readerAddress ::
      f.command :: f.status :: (f.data ++ littleEndian 2 (crc16 f.payload)).take 2 := by
    rw [hraw]
    rfl
  have hbeat : buildHeartbeat = byteOf heartbeatMarker :: 0 :: 0 :: 0 :: [0, 0] := rfl
  rw [htake, hbeat, List.cons_eq_cons, List.cons_eq_cons, List.cons_eq_cons, List.cons_eq_cons,
    hmarker]
  refine and_congr_right fun hlen => ?_
  rw [List.take_append_of_le_length (by omega)]

/-- A frame that does not begin like a heartbeat is reported as it is. -/
theorem parsed_reply (reply : Reply) :
    parsed none reply.raw = { frames := [reply.response] } ∧ leftover none reply.raw = [] := by
  have hparsed := parsed_replies [reply] []
  have hleft := leftover_items [reply.item] []
  rw [parsed_nil, ParseResult.append_empty, List.flatMap_singleton, List.append_nil] at hparsed
  rw [leftover_nil, List.flatMap_singleton, List.append_nil] at hleft
  exact ⟨hparsed, hleft⟩

/-- A response that a builder made is reported as that one frame, without a heartbeat, an
error or pending bytes and in whatever chunks it comes, except where its first six bytes are
those of a heartbeat: the marker alone tells the two apart. -/
theorem feedAll_response (readerAddress command status : ℤ) (data : Bytes)
    (hrange : IsByte readerAddress ∧ IsByte command ∧ IsByte status ∧ data.length ≤ 250) :
    ∃ raw response, buildResponseFrame readerAddress command status data = .ok raw ∧
      validateFrame raw = .ok response ∧
      ∀ chunks : List Bytes, chunks.flatten = raw →
        ∃ self result, StreamBuffer.feedAll {} chunks = .ok (self, result) ∧
          ((result = { frames := [response] } ∧ self.buffer = []) ↔
            ¬ (data.length = 81 ∧ readerAddress = 0 ∧ command = 0 ∧ status = 0 ∧
              data.take 2 = [0, 0])) := by
  obtain ⟨hreader, hcommand, hstatus, hdata⟩ := hrange
  rcases buildResponseFrame_cases readerAddress command status data with
    ⟨f, rfl, rfl, rfl, rfl⟩ | ⟨hout, _⟩
  swap
  · exact absurd ⟨hreader, hcommand, hstatus, hdata⟩ hout
  have hzero : ∀ b : UInt8, ord b = 0 ↔ b = 0 := fun b =>
    ⟨fun h => ord_injective (h.trans (by decide)), fun h => h ▸ by decide⟩
  refine ⟨f.raw, f.response, buildResponseFrame_raw f, validateFrame_raw f, ?_⟩
  intro chunks hchunks
  refine ⟨_, _, StreamBuffer.feedAll_fresh none chunks, ?_⟩
  rw [hchunks, hzero, hzero, hzero, ← f.take_raw_eq_heartbeat_iff]
  constructor
  · rintro ⟨hresult, _⟩ hbeat
    have hsplit : f.raw = [Item.heartbeat].flatMap Item.bytes ++ f.raw.drop heartbeatLength := by
      rw [List.flatMap_singleton, Item.bytes, ← hbeat, List.take_append_drop]
    rw [hsplit, parsed_items] at hresult
    exact List.cons_ne_nil _ _ (congrArg ParseResult.heartbeats hresult)
  · intro hbeat
    exact parsed_reply ⟨f, hbeat⟩

/-- A long answer that does not begin with zeros, in two chunks. -/
theorem feedAll_response_long :
    ∃ raw response, buildResponseFrame 0 0 0 (1 :: List.replicate 80 0) = .ok raw ∧
      validateFrame raw = .ok response ∧
      ∃ self result, StreamBuffer.feedAll {} [raw.take 5, raw.drop 5] = .ok (self, result) ∧
        result = { frames := [response] } ∧ self.buffer = [] := by
  obtain ⟨raw, response, hbuilt, hvalid, hfeed⟩ :=
    feedAll_response 0 0 0 (1 :: List.replicate 80 0)
      ⟨isByte_ord 0, isByte_ord 0, isByte_ord 0, by decide⟩
  obtain ⟨self, result, hrun, hiff⟩ := hfeed [raw.take 5, raw.drop 5] (by simp)
  exact ⟨raw, response, hbuilt, hvalid, self, result, hrun, hiff.mpr (by decide)⟩

/-- Some responses are mistaken for a heartbeat: 81 bytes of zeros from the reader with
address zero. -/
theorem feedAll_response_mistaken :
    ¬ ∀ (readerAddress command status : ℤ) (data : Bytes),
      IsByte readerAddress ∧ IsByte command ∧ IsByte status ∧ data.length ≤ 250 →
      ∃ raw response, buildResponseFrame readerAddress command status data = .ok raw ∧
        validateFrame raw = .ok response ∧
        ∀ chunks : List Bytes, chunks.flatten = raw →
          ∃ self result, StreamBuffer.feedAll {} chunks = .ok (self, result) ∧
            result.frames = [response] ∧ result.heartbeats = [] ∧ result.errors = [] ∧
            self.buffer = [] := by
  intro h
  obtain ⟨raw, response, hbuilt, _, hfeed⟩ :=
    h 0 0 0 (List.replicate 81 0) ⟨isByte_ord 0, isByte_ord 0, isByte_ord 0, by decide⟩
  obtain ⟨self, result, hrun, _, hbeats, _⟩ := hfeed [raw] (by simp)
  rw [StreamBuffer.feedAll_fresh] at hrun
  cases hrun
  have hraw : raw = buildHeartbeat ++ raw.drop heartbeatLength := by
    have hbeat : (buildResponseFrame 0 0 0 (List.replicate 81 0)).toOption.all
        (fun raw => raw.take heartbeatLength = buildHeartbeat) := by decide +kernel
    rw [hbuilt] at hbeat
    rw [← of_decide_eq_true hbeat, List.take_append_drop]
  have hsplit : [raw].flatten =
      [Item.heartbeat].flatMap Item.bytes ++ raw.drop heartbeatLength := by
    rw [List.flatten_singleton, List.flatMap_singleton]
    exact hraw
  rw [hsplit, parsed_items] at hbeats
  exact List.cons_ne_nil _ _ hbeats

/-! ## Provenance -/

open Deframer (Span)

/-- `raw` stands in `input` at `span`. -/
structure Occupies (input : Bytes) (span : Span) (raw : Bytes) : Prop where
  stop_eq : span.stop = span.start + raw.length
  within : span.stop ≤ input.length
  bytes_eq : (input.drop span.start).take raw.length = raw

/-- A frame is reported only for a valid frame from an allowed reader. -/
theorem Message.of_frame {allowedReaders : Option (Finset ℤ)} {raw : Bytes}
    {frame : RfidResponse} (h : Message allowedReaders raw (.frame frame)) :
    validateFrame raw = .ok frame ∧ frame.toBytes = .ok raw ∧
      ∀ readers, allowedReaders = some readers → frame.readerAddress ∈ readers := by
  generalize hevent : Event.frame frame = event at h
  cases h with
  | heartbeat => cases hevent
  | stray _ => cases hevent
  | block hb =>
    rcases validateFrame_cases raw with ⟨f, rfl⟩ | ⟨text, he⟩
    · rw [blockEvent, validateFrame_raw] at hevent
      have hframe : frame = f.response := by
        cases allowedReaders with
        | none => cases hevent; rfl
        | some readers =>
          simp only at hevent
          split at hevent
          · cases hevent; rfl
          · cases hevent
      refine ⟨hframe ▸ validateFrame_raw f, hframe ▸ toBytes_response f, ?_⟩
      rintro readers rfl
      simp only at hevent
      split at hevent
      · next hin => rw [hframe]; exact hin
      · cases hevent
    · rw [blockEvent, he] at hevent
      cases hevent

theorem Message.of_heartbeat {allowedReaders : Option (Finset ℤ)} {raw : Bytes}
    {heartbeat : Heartbeat} (h : Message allowedReaders raw (.heartbeat heartbeat)) :
    raw = buildHeartbeat ∧ heartbeat = ⟨buildHeartbeat⟩ := by
  generalize hevent : Event.heartbeat heartbeat = event at h
  cases h with
  | heartbeat => cases hevent; exact ⟨rfl, rfl⟩
  | stray _ => cases hevent
  | block hb =>
    unfold blockEvent at hevent
    split at hevent
    · cases hevent
    · split at hevent
      · split at hevent <;> cases hevent
      · cases hevent

/-- The messages in `input`, each with the place it takes. -/
def placed (allowedReaders : Option (Finset ℤ)) (input : Bytes) : List (Span × Event) :=
  Deframer.spans 0 ((deframer allowedReaders).messages input)

/-- A placed event was reported for the bytes at its place. -/
theorem exists_of_mem_placed {allowedReaders : Option (Finset ℤ)} {input : Bytes}
    {p : Span × Event} (hp : p ∈ placed allowedReaders input) :
    ∃ raw, Message allowedReaders raw p.2 ∧ Occupies input p.1 raw ∧
      p.1.stop ≤ input.length - (leftover allowedReaders input).length := by
  obtain ⟨before, m, after, hms, hevent, hstart, hstop⟩ := Deframer.exists_of_mem_spans hp
  have hinput := (deframer allowedReaders).segments_append_pending input
  rw [hms, List.flatMap_append, List.flatMap_cons] at hinput
  have hmem : m ∈ (deframer allowedReaders).messages input := by
    rw [hms]
    exact List.mem_append_right _ List.mem_cons_self
  have hm : Message allowedReaders m.1 m.2 :=
    complete_iff.mp (Deframer.complete_of_mem hmem)
  rw [Nat.zero_add] at hstart
  have hlen := congrArg List.length hinput
  simp only [List.length_append] at hlen
  refine ⟨m.1, hevent ▸ hm, ⟨hstop, by omega, ?_⟩, ?_⟩
  · rw [hstart, ← hinput]
    simp only [List.append_assoc, List.drop_left, List.take_left]
  · unfold leftover
    omega

/-- The placed events that `select` picks, each with its place. -/
def selected {β : Type} (select : Event → Option β) (events : List (Span × Event)) :
    List (Span × β) :=
  events.filterMap fun p => (select p.2).map (Prod.mk p.1)

theorem mem_selected {β : Type} {select : Event → Option β} {events : List (Span × Event)}
    {q : Span × β} (hq : q ∈ selected select events) :
    ∃ p ∈ events, p.1 = q.1 ∧ select p.2 = some q.2 := by
  obtain ⟨p, hp, hsel⟩ := List.mem_filterMap.mp hq
  obtain ⟨b, hb, rfl⟩ := Option.map_eq_some_iff.mp hsel
  exact ⟨p, hp, rfl, hb⟩

theorem map_snd_selected {β : Type} (select : Event → Option β)
    (allowedReaders : Option (Finset ℤ)) (input : Bytes) :
    (selected select (placed allowedReaders input)).map Prod.snd =
      (((deframer allowedReaders).messages input).map Prod.snd).filterMap select := by
  rw [← Deframer.map_snd_spans 0, List.filterMap_map, selected, List.map_filterMap]
  refine List.filterMap_congr fun p _ => ?_
  rw [Option.map_map]
  exact Option.map_id'

theorem selected_pairwise {β : Type} (select : Event → Option β)
    (allowedReaders : Option (Finset ℤ)) (input : Bytes) :
    (selected select (placed allowedReaders input)).Pairwise fun p q => p.1.Before q.1 := by
  refine (Deframer.spans_pairwise 0 _).filterMap _ ?_
  intro p q hpq p' hp' q' hq'
  obtain ⟨b, _, rfl⟩ := Option.map_eq_some_iff.mp hp'
  obtain ⟨b', _, rfl⟩ := Option.map_eq_some_iff.mp hq'
  exact hpq

theorem selected_disjoint {β γ : Type} {select : Event → Option β} {select' : Event → Option γ}
    (hne : ∀ e, select e = none ∨ select' e = none) {allowedReaders : Option (Finset ℤ)}
    {input : Bytes} {p : Span × β} {q : Span × γ}
    (hp : p ∈ selected select (placed allowedReaders input))
    (hq : q ∈ selected select' (placed allowedReaders input)) :
    p.1.Before q.1 ∨ q.1.Before p.1 := by
  obtain ⟨p', hp', hpspan, hpsel⟩ := mem_selected hp
  obtain ⟨q', hq', hqspan, hqsel⟩ := mem_selected hq
  have hdiff : p' ≠ q' := by
    rintro rfl
    rcases hne p'.2 with h | h
    · rw [h] at hpsel; cases hpsel
    · rw [h] at hqsel; cases hqsel
  rw [← hpspan, ← hqspan]
  exact Deframer.spans_disjoint hp' hq' hdiff

theorem eq_frame_of_frame? {e : Event} {f : RfidResponse} (h : e.frame? = some f) :
    e = .frame f := by
  cases e <;> cases h
  rfl

theorem eq_heartbeat_of_heartbeat? {e : Event} {h : Heartbeat} (he : e.heartbeat? = some h) :
    e = .heartbeat h := by
  cases e <;> cases he
  rfl

/-- Nothing is invented, duplicated or overlapped. Whatever is fed, in whatever
chunks, to a fresh buffer with any allow-list: every reported frame and heartbeat
has its own place in the input, which holds exactly its bytes; the places are
disjoint and, for the frames and for the heartbeats, in order; the buffer holds the
input behind all of them; and every reported frame is valid and from an allowed
reader. -/
theorem feedAll_provenance (allowedReaders : Option (Finset ℤ)) (chunks : List Bytes) :
    ∃ self result,
      StreamBuffer.feedAll { allowedReaders := allowedReaders } chunks = .ok (self, result) ∧
      ∃ (frames : List (Span × RfidResponse)) (heartbeats : List (Span × Heartbeat))
        (stop : ℕ),
        frames.map Prod.snd = result.frames ∧
        heartbeats.map Prod.snd = result.heartbeats ∧
        (∀ p ∈ frames, ∃ raw, p.2.toBytes = .ok raw ∧ Occupies chunks.flatten p.1 raw ∧
          validateFrame raw = .ok p.2 ∧
          ∀ readers, allowedReaders = some readers → p.2.readerAddress ∈ readers) ∧
        (∀ q ∈ heartbeats, q.2.raw = [0x56, 0, 0, 0, 0, 0] ∧
          Occupies chunks.flatten q.1 q.2.raw) ∧
        frames.Pairwise (fun p q => p.1.Before q.1) ∧
        heartbeats.Pairwise (fun p q => p.1.Before q.1) ∧
        (∀ p ∈ frames, ∀ q ∈ heartbeats, p.1.Before q.1 ∨ q.1.Before p.1) ∧
        stop ≤ chunks.flatten.length ∧ self.buffer = chunks.flatten.drop stop ∧
        (∀ p ∈ frames, p.1.stop ≤ stop) ∧ ∀ q ∈ heartbeats, q.1.stop ≤ stop := by
  let input := chunks.flatten
  refine ⟨_, _, StreamBuffer.feedAll_fresh allowedReaders chunks,
    selected Event.frame? (placed allowedReaders input),
    selected Event.heartbeat? (placed allowedReaders input),
    input.length - (leftover allowedReaders input).length,
    map_snd_selected _ _ _, map_snd_selected _ _ _, ?_, ?_, selected_pairwise _ _ _,
    selected_pairwise _ _ _, ?_, Nat.sub_le _ _, ?_, ?_, ?_⟩
  · intro p hp
    obtain ⟨p', hp', hspan, hsel⟩ := mem_selected hp
    obtain ⟨raw, hm, hocc, _⟩ := exists_of_mem_placed hp'
    rw [eq_frame_of_frame? hsel] at hm
    obtain ⟨hvalid, hbytes, hallowed⟩ := hm.of_frame
    exact ⟨raw, hbytes, hspan ▸ hocc, hvalid, hallowed⟩
  · intro q hq
    obtain ⟨q', hq', hspan, hsel⟩ := mem_selected hq
    obtain ⟨raw, hm, hocc, _⟩ := exists_of_mem_placed hq'
    rw [eq_heartbeat_of_heartbeat? hsel] at hm
    obtain ⟨hraw, hbeat⟩ := hm.of_heartbeat
    rw [hbeat]
    exact ⟨rfl, hspan ▸ hraw ▸ hocc⟩
  · intro p hp q hq
    exact selected_disjoint (by rintro (_ | _ | _) <;> simp [Event.frame?, Event.heartbeat?]) hp hq
  · have hinput := (deframer allowedReaders).segments_append_pending input
    have hsuffix : leftover allowedReaders input <:+ input := ⟨_, hinput⟩
    exact List.suffix_iff_eq_drop.mp hsuffix
  · intro p hp
    obtain ⟨p', hp', hspan, _⟩ := mem_selected hp
    obtain ⟨_, _, _, hstop⟩ := exists_of_mem_placed hp'
    exact hspan ▸ hstop
  · intro q hq
    obtain ⟨q', hq', hspan, _⟩ := mem_selected hq
    obtain ⟨_, _, _, hstop⟩ := exists_of_mem_placed hq'
    exact hspan ▸ hstop

end UhfReader18
