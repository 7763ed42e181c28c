import Mathlib.Data.Finset.Sort
import UhfReader18.Deframer
import UhfReader18.Frame

/-!
# TCP stream reassembly

`stream.py`. `StreamBuffer.feed` is a loop over a buffer with two ways to wait
for more bytes and five ways to consume some. `nextMessage` is the decision one
pass of the loop makes on the front of the buffer, and `deframer` says that it is
a deframing rule: bytes that arrive later never change a decision.

Results:
1. `feed_eq`: `feed` runs this rule over the pending bytes and the new ones. It
   never raises and its passes suffice.
2. `feedAll_chunking`: how a stream is cut into chunks does not matter.
3. `leftover_of_quiet`: data that completes no message is kept whole.
4. `nextMessage_eq_none_iff`, `after_fresh_waiting`: what is kept between calls is the
   beginning of one message, in every run of calls.
-/

namespace UhfReader18

/-! ## `stream.py` -/

@[ext]
structure ParseResult where
  frames : List RfidResponse := []
  heartbeats : List Heartbeat := []
  errors : List String := []
  deriving DecidableEq, Repr

/-- The bytes not consumed yet and the addresses let through, if restricted. -/
structure StreamBuffer where
  buffer : Bytes := []
  allowedReaders : Option (Finset ℤ) := none
  deriving DecidableEq

def invalidLengthText (length : ℤ) : String :=
  s!"Invalid length byte: 0x{formatHex 2 length} (too small, discarding byte)"

/-- The readers of an allow-list, as the message of an unknown reader lists them. -/
def listedReaders (readers : Finset ℤ) : String :=
  ", ".intercalate ((readers.sort (· ≤ ·)).map fun reader => s!"0x{formatHex 2 reader}")

def unknownReaderText (readers : Finset ℤ) (readerAddress : ℤ) : String :=
  s!"Unknown reader address: 0x{formatHex 2 readerAddress} (allowed: {listedReaders readers})"

/-- One pass of the loop of `feed`; `none` where the loop ends. -/
def feedPass (allowedReaders : Option (Finset ℤ)) (buffer : Bytes) (result : ParseResult) :
    Except PyError (Option (Bytes × ParseResult)) :=
  match buffer with
  | [] => .ok none
  | first :: _ =>
    -- 0x56 is also a legal length: only the exact marker is a heartbeat
    if ord first = heartbeatMarker ∧ buffer.length < heartbeatLength then
      .ok none
    else if ord first = heartbeatMarker ∧ buffer.take heartbeatLength = buildHeartbeat then
      .ok (some (buffer.drop heartbeatLength,
        { result with
          heartbeats := result.heartbeats ++ [⟨buffer.take heartbeatLength⟩] }))
    else
      let length := ord first
      if length < minFrameLength then
        .ok (some (buffer.drop 1,
          { result with errors := result.errors ++ [invalidLengthText length] }))
      else
        let total := (length + 1).toNat
        if buffer.length < total then
          .ok none
        else
          let raw := buffer.take total
          let buffer := buffer.drop total
          match validateFrame raw with
          | .error ⟨.frameError, text⟩ =>
            .ok (some (buffer, { result with errors := result.errors ++ [text] }))
          | .error e => .error e
          | .ok frame =>
            match allowedReaders with
            | some readers =>
              if frame.readerAddress ∉ readers then
                .ok (some (buffer, { result with
                  errors := result.errors ++ [unknownReaderText readers frame.readerAddress] }))
              else
                .ok (some (buffer, { result with frames := result.frames ++ [frame] }))
            | none => .ok (some (buffer, { result with frames := result.frames ++ [frame] }))

/-- The loop of `feed`, at most `passes` times. -/
def feedLoop (allowedReaders : Option (Finset ℤ)) :
    ℕ → Bytes → ParseResult → Except PyError (Bytes × ParseResult)
  | 0, buffer, result => .ok (buffer, result)
  | passes + 1, buffer, result =>
    match feedPass allowedReaders buffer result with
    | .error e => .error e
    | .ok none => .ok (buffer, result)
    | .ok (some (buffer, result)) => feedLoop allowedReaders passes buffer result

/-- Every pass that goes on removes a byte, so the loop runs at most once for each
byte in the buffer; `feed_eq` shows that it has ended by then. -/
def StreamBuffer.feed (self : StreamBuffer) (data : Bytes) :
    Except PyError (StreamBuffer × ParseResult) :=
  let buffer := self.buffer ++ data
  match feedLoop self.allowedReaders buffer.length buffer {} with
  | .error e => .error e
  | .ok (buffer, result) => .ok ({ self with buffer := buffer }, result)

def StreamBuffer.pendingBytes (self : StreamBuffer) : ℕ := self.buffer.length

def StreamBuffer.reset (self : StreamBuffer) : StreamBuffer :=
  { self with buffer := [] }

/-! ## What a pass decides -/

/-- What one message on the stream is reported as. -/
inductive Event
  | frame (frame : RfidResponse)
  | heartbeat (heartbeat : Heartbeat)
  | error (text : String)
  deriving DecidableEq, Repr

def Event.frame? : Event → Option RfidResponse
  | frame f => some f
  | _ => none

def Event.heartbeat? : Event → Option Heartbeat
  | heartbeat h => some h
  | _ => none

def Event.error? : Event → Option String
  | error text => some text
  | _ => none

namespace ParseResult

/-- The result of a `feed` that saw the given events. -/
def ofEvents (events : List Event) : ParseResult where
  frames := events.filterMap Event.frame?
  heartbeats := events.filterMap Event.heartbeat?
  errors := events.filterMap Event.error?

instance : Append ParseResult where
  append r s := ⟨r.frames ++ s.frames, r.heartbeats ++ s.heartbeats, r.errors ++ s.errors⟩

@[simp]
theorem frames_append (r s : ParseResult) : (r ++ s).frames = r.frames ++ s.frames := rfl

@[simp]
theorem heartbeats_append (r s : ParseResult) :
    (r ++ s).heartbeats = r.heartbeats ++ s.heartbeats := rfl

@[simp]
theorem errors_append (r s : ParseResult) : (r ++ s).errors = r.errors ++ s.errors := rfl

@[simp]
theorem ofEvents_nil : ofEvents [] = {} := rfl

@[simp]
theorem append_empty (r : ParseResult) : r ++ ({} : ParseResult) = r := by
  ext1 <;> simp

@[simp]
theorem empty_append (r : ParseResult) : ({} : ParseResult) ++ r = r := rfl

theorem append_assoc (r s t : ParseResult) : r ++ s ++ t = r ++ (s ++ t) := by
  ext1 <;> simp

theorem ofEvents_append (events events' : List Event) :
    ofEvents (events ++ events') = ofEvents events ++ ofEvents events' := by
  ext1 <;> exact List.filterMap_append

theorem append_frame (r : ParseResult) (f : RfidResponse) :
    r ++ ofEvents [.frame f] = { r with frames := r.frames ++ [f] } := by
  ext1 <;> simp [ofEvents, Event.frame?, Event.heartbeat?, Event.error?]

theorem append_heartbeat (r : ParseResult) (h : Heartbeat) :
    r ++ ofEvents [.heartbeat h] = { r with heartbeats := r.heartbeats ++ [h] } := by
  ext1 <;> simp [ofEvents, Event.frame?, Event.heartbeat?, Event.error?]

theorem append_error (r : ParseResult) (text : String) :
    r ++ ofEvents [.error text] = { r with errors := r.errors ++ [text] } := by
  ext1 <;> simp [ofEvents, Event.frame?, Event.heartbeat?, Event.error?]

/-- A result that reports nothing saw nothing. -/
theorem eq_nil_of_ofEvents_eq_empty {events : List Event} (h : ofEvents events = {}) :
    events = [] := by
  cases events with
  | nil => rfl
  | cons event events =>
    cases event with
    | frame f => exact absurd (congrArg frames h) (List.cons_ne_nil _ _)
    | heartbeat b => exact absurd (congrArg heartbeats h) (List.cons_ne_nil _ _)
    | error text => exact absurd (congrArg errors h) (List.cons_ne_nil _ _)

end ParseResult

/-- How a complete block is reported. -/
def blockEvent (allowedReaders : Option (Finset ℤ)) (raw : Bytes) : Event :=
  match validateFrame raw with
  | .error e => .error e.message
  | .ok frame =>
    match allowedReaders with
    | some readers =>
      if frame.readerAddress ∈ readers then .frame frame
      else .error (unknownReaderText readers frame.readerAddress)
    | none => .frame frame

/-- The message at the front of the buffer: how many bytes it takes and how it is
reported. -/
def nextMessage (allowedReaders : Option (Finset ℤ)) (buffer : Bytes) : Option (ℕ × Event) :=
  match buffer with
  | [] => none
  | first :: _ =>
    if ord first = heartbeatMarker ∧ buffer.length < heartbeatLength then none
    else if ord first = heartbeatMarker ∧ buffer.take heartbeatLength = buildHeartbeat then
      some (heartbeatLength, .heartbeat ⟨buildHeartbeat⟩)
    else if ord first < minFrameLength then some (1, .error (invalidLengthText (ord first)))
    else if buffer.length < (ord first + 1).toNat then none
    else some ((ord first + 1).toNat,
      blockEvent allowedReaders (buffer.take (ord first + 1).toNat))

/-- A pass of the loop acts on the decision of `nextMessage`. -/
theorem feedPass_eq (allowedReaders : Option (Finset ℤ)) (buffer : Bytes)
    (result : ParseResult) :
    feedPass allowedReaders buffer result =
      .ok ((nextMessage allowedReaders buffer).map fun m =>
        (buffer.drop m.1, result ++ .ofEvents [m.2])) := by
  cases buffer with
  | nil => rfl
  | cons first tail =>
    unfold feedPass nextMessage
    simp only
    split
    · rfl
    split
    · next h => rw [Option.map_some, ParseResult.append_heartbeat, h.2]
    split
    · rw [Option.map_some, ParseResult.append_error]
    split
    · rfl
    rw [Option.map_some]
    unfold blockEvent
    rcases validateFrame_cases ((first :: tail).take (ord first + 1).toNat) with
      ⟨f, hf⟩ | ⟨text, he⟩
    · rw [hf, validateFrame_raw]
      cases allowedReaders with
      | none => rw [ParseResult.append_frame]
      | some readers =>
        by_cases hin : f.response.readerAddress ∈ readers
        · simp only [hin, not_true_eq_false, if_true, if_false, ParseResult.append_frame]
        · simp only [hin, not_false_eq_true, if_true, if_false, ParseResult.append_error]
    · rw [he, ParseResult.append_error]

/-! ## The loop as a deframer -/

theorem length_buildHeartbeat : buildHeartbeat.length = heartbeatLength := rfl

/-- A block: its length byte allows a frame, it is not a heartbeat, and it is as
long as its length byte says. -/
structure IsBlock (raw : Bytes) : Prop where
  length_eq : ∃ first tail, raw = first :: tail ∧ minFrameLength ≤ ord first ∧
    (raw.length : ℤ) = ord first + 1
  not_heartbeat : raw.take heartbeatLength ≠ buildHeartbeat

/-- The three kinds of messages on the stream, each with the bytes it takes. -/
inductive Message (allowedReaders : Option (Finset ℤ)) : Bytes → Event → Prop
  | heartbeat : Message allowedReaders buildHeartbeat (.heartbeat ⟨buildHeartbeat⟩)
  | stray {byte : UInt8} : ord byte < minFrameLength →
      Message allowedReaders [byte] (.error (invalidLengthText (ord byte)))
  | block {raw : Bytes} : IsBlock raw →
      Message allowedReaders raw (blockEvent allowedReaders raw)

theorem IsBlock.six_le {raw : Bytes} (h : IsBlock raw) : heartbeatLength ≤ raw.length := by
  obtain ⟨first, tail, rfl, hmin, hlen⟩ := h.length_eq
  unfold minFrameLength at hmin
  unfold heartbeatLength
  omega

theorem take_eq_heartbeat_iff {raw : Bytes} (more : Bytes) (h : heartbeatLength ≤ raw.length) :
    (raw ++ more).take heartbeatLength = buildHeartbeat ↔
      raw.take heartbeatLength = buildHeartbeat := by
  rw [List.take_append_of_le_length h]

/-- A message is recognised whatever follows it. -/
theorem nextMessage_append {allowedReaders : Option (Finset ℤ)} {raw : Bytes} {event : Event}
    (h : Message allowedReaders raw event) (more : Bytes) :
    nextMessage allowedReaders (raw ++ more) = some (raw.length, event) := by
  cases h with
  | heartbeat => rfl
  | @stray byte hsmall =>
    have hmarker : ord byte ≠ heartbeatMarker := by
      unfold minFrameLength at hsmall
      unfold heartbeatMarker
      omega
    unfold nextMessage
    simp [hmarker, hsmall]
  | block hb =>
    have hsix := hb.six_le
    have hbeat := (take_eq_heartbeat_iff more hsix).not.mpr hb.not_heartbeat
    obtain ⟨first, tail, rfl, hmin, hlen⟩ := hb.length_eq
    have htotal : (ord first + 1).toNat = (first :: tail).length := by
      rw [← hlen, Int.toNat_natCast]
    have hshort : ¬ (first :: (tail ++ more)).length < heartbeatLength := by
      rw [← List.cons_append, List.length_append]
      omega
    have hwhole : ¬ (first :: (tail ++ more)).length < (first :: tail).length := by
      rw [← List.cons_append, List.length_append]
      omega
    rw [List.cons_append] at hbeat
    unfold nextMessage
    simp only [List.cons_append, hshort, and_false, if_false, hbeat, not_lt.mpr hmin, htotal,
      hwhole]
    rw [← List.cons_append, List.take_left]

/-- What `nextMessage` takes is a message at the front of the buffer. -/
theorem exists_of_nextMessage {allowedReaders : Option (Finset ℤ)} {buffer : Bytes} {n : ℕ}
    {event : Event} (h : nextMessage allowedReaders buffer = some (n, event)) :
    ∃ raw more, buffer = raw ++ more ∧ raw.length = n ∧ Message allowedReaders raw event := by
  cases buffer with
  | nil => cases h
  | cons first tail =>
    unfold nextMessage at h
    simp only at h
    split at h
    · cases h
    next hshort =>
    split at h
    · next hbeat =>
      cases h
      refine ⟨_, (first :: tail).drop heartbeatLength, ?_, length_buildHeartbeat, .heartbeat⟩
      rw [← hbeat.2, List.take_append_drop]
    next hbeat =>
    split at h
    · next hsmall =>
      cases h
      exact ⟨[first], tail, rfl, rfl, .stray hsmall⟩
    next hlarge =>
    split at h
    · cases h
    next hlen =>
    cases h
    have hle : (ord first + 1).toNat ≤ (first :: tail).length := not_lt.mp hlen
    have hfirst := ord_nonneg first
    have hsix : heartbeatLength ≤ (ord first + 1).toNat := by
      unfold minFrameLength at hlarge
      unfold heartbeatLength
      omega
    have htake : (first :: tail).take (ord first + 1).toNat =
        first :: tail.take (ord first).toNat := by
      rw [Int.toNat_add hfirst (by omega), Int.toNat_one, List.take_succ_cons]
    refine ⟨(first :: tail).take (ord first + 1).toNat,
      (first :: tail).drop (ord first + 1).toNat, (List.take_append_drop _ _).symm,
      List.length_take_of_le hle, .block ⟨⟨first, _, htake, not_lt.mp hlarge, ?_⟩, ?_⟩⟩
    · rw [List.length_take_of_le hle]
      omega
    · rw [List.take_take, min_eq_left hsix]
      intro heq
      have hhead : first = byteOf heartbeatMarker := List.head_eq_of_cons_eq heq
      exact hbeat ⟨hhead ▸ rfl, heq⟩

theorem Message.ne_nil {allowedReaders : Option (Finset ℤ)} {raw : Bytes} {event : Event}
    (h : Message allowedReaders raw event) : raw ≠ [] := by
  cases h with
  | heartbeat => exact List.cons_ne_nil _ _
  | stray _ => exact List.cons_ne_nil _ _
  | block hb =>
    obtain ⟨first, tail, rfl, _, _⟩ := hb.length_eq
    exact List.cons_ne_nil _ _

/-- The rule the loop of `feed` runs. -/
def deframer (allowedReaders : Option (Finset ℤ)) : Deframer UInt8 Event where
  next := nextMessage allowedReaders
  pos h := by
    obtain ⟨raw, more, rfl, rfl, hm⟩ := exists_of_nextMessage h
    exact List.length_pos_iff.mpr hm.ne_nil
  within h := by
    obtain ⟨raw, more, rfl, rfl, hm⟩ := exists_of_nextMessage h
    rw [List.length_append]
    exact Nat.le_add_right _ _
  self h := by
    obtain ⟨raw, more, rfl, rfl, hm⟩ := exists_of_nextMessage h
    rw [List.take_left, ← List.append_nil raw, nextMessage_append hm, List.append_nil]
  stable h more := by
    obtain ⟨raw, more', rfl, rfl, hm⟩ := exists_of_nextMessage h
    rw [List.append_assoc, nextMessage_append hm]

theorem complete_iff {allowedReaders : Option (Finset ℤ)} {raw : Bytes} {event : Event} :
    (deframer allowedReaders).Complete (raw, event) ↔ Message allowedReaders raw event := by
  constructor
  · intro h
    obtain ⟨raw', more, heq, hlen, hm⟩ := exists_of_nextMessage h
    have hmore : more = [] := by
      have hlength := congrArg List.length heq
      rw [List.length_append, hlen] at hlength
      exact List.length_eq_zero_iff.mp (by simpa using hlength)
    simp only at heq
    rw [heq, hmore, List.append_nil]
    exact hm
  · intro hm
    have h := nextMessage_append hm []
    rw [List.append_nil] at h
    exact h

/-! ## `feed` runs the deframer -/

theorem feedLoop_eq (allowedReaders : Option (Finset ℤ)) (passes : ℕ) (buffer : Bytes)
    (result : ParseResult) (h : buffer.length ≤ passes) :
    feedLoop allowedReaders passes buffer result =
      .ok ((deframer allowedReaders).pending buffer,
        result ++ .ofEvents (((deframer allowedReaders).messages buffer).map Prod.snd)) := by
  induction passes generalizing buffer result with
  | zero =>
    obtain rfl : buffer = [] := List.length_eq_zero_iff.mp (Nat.le_zero.mp h)
    simp [feedLoop]
  | succ passes ih =>
    rw [feedLoop, feedPass_eq]
    cases hn : nextMessage allowedReaders buffer with
    | none =>
      have hd : (deframer allowedReaders).next buffer = none := hn
      simp [Deframer.pending_of_none hd, Deframer.messages_of_none hd]
    | some m =>
      obtain ⟨n, event⟩ := m
      have hd : (deframer allowedReaders).next buffer = some (n, event) := hn
      have hdrop := (deframer allowedReaders).length_drop_lt hd
      simp only [Option.map_some]
      rw [ih _ _ (by omega), Deframer.pending_of_some hd, Deframer.messages_of_some hd,
        List.map_cons, ParseResult.append_assoc, ← ParseResult.ofEvents_append]
      rfl

/-- What the loop reports when it runs over `data`. -/
def parsed (allowedReaders : Option (Finset ℤ)) (data : Bytes) : ParseResult :=
  .ofEvents (((deframer allowedReaders).messages data).map Prod.snd)

/-- What the loop leaves in the buffer when it runs over `data`. -/
def leftover (allowedReaders : Option (Finset ℤ)) (data : Bytes) : Bytes :=
  (deframer allowedReaders).pending data

theorem parsed_append (allowedReaders : Option (Finset ℤ)) (a b : Bytes) :
    parsed allowedReaders (a ++ b) =
      parsed allowedReaders a ++ parsed allowedReaders (leftover allowedReaders a ++ b) := by
  unfold parsed leftover
  rw [Deframer.messages_append, List.map_append, ParseResult.ofEvents_append]

/-- More data takes no frame back. -/
theorem length_frames_le_append (allowedReaders : Option (Finset ℤ)) (a b : Bytes) :
    (parsed allowedReaders a).frames.length ≤ (parsed allowedReaders (a ++ b)).frames.length := by
  rw [parsed_append, ParseResult.frames_append, List.length_append]
  exact Nat.le_add_right _ _

theorem leftover_append (allowedReaders : Option (Finset ℤ)) (a b : Bytes) :
    leftover allowedReaders (a ++ b) =
      leftover allowedReaders (leftover allowedReaders a ++ b) :=
  Deframer.pending_append _ a b

@[simp]
theorem parsed_leftover (allowedReaders : Option (Finset ℤ)) (a : Bytes) :
    parsed allowedReaders (leftover allowedReaders a) = {} := by
  unfold parsed leftover
  rw [Deframer.messages_pending]
  rfl

@[simp]
theorem leftover_leftover (allowedReaders : Option (Finset ℤ)) (a : Bytes) :
    leftover allowedReaders (leftover allowedReaders a) = leftover allowedReaders a :=
  Deframer.pending_pending _ a

/-- Data that completes no message is kept whole. -/
theorem leftover_of_quiet {allowedReaders : Option (Finset ℤ)} {data : Bytes}
    (h : parsed allowedReaders data = {}) : leftover allowedReaders data = data := by
  have hevents := ParseResult.eq_nil_of_ofEvents_eq_empty h
  rw [List.map_eq_nil_iff] at hevents
  exact (deframer allowedReaders).pending_eq_of_messages_nil hevents

/-- What waits in the buffer between calls, `nextMessage_eq_none_iff`: nothing, or the
beginning of a block that is not a heartbeat. -/
inductive Waiting : Bytes → Prop
  | empty : Waiting []
  | part {first : UInt8} {tail : Bytes} :
      minFrameLength ≤ ord first →
      ((first :: tail).length : ℤ) ≤ ord first →
      (heartbeatLength ≤ (first :: tail).length →
        (first :: tail).take heartbeatLength ≠ buildHeartbeat) →
      Waiting (first :: tail)

theorem Waiting.length_le {buffer : Bytes} (h : Waiting buffer) : buffer.length ≤ 255 := by
  cases h with
  | empty => exact Nat.zero_le _
  | @part first tail _ hlen _ => exact Nat.cast_le.mp (hlen.trans (ord_le first))

/-- Each of the three ways to end the loop leaves a buffer of this kind, and each of the
ways to go on is barred by one of its conditions. -/
theorem nextMessage_eq_none_iff (allowedReaders : Option (Finset ℤ)) (buffer : Bytes) :
    nextMessage allowedReaders buffer = none ↔ Waiting buffer := by
  constructor
  · intro hwait
    cases buffer with
    | nil => exact .empty
    | cons first tail =>
      unfold nextMessage at hwait
      simp only at hwait
      split at hwait
      · -- the exit before the length is looked at: the marker itself is a large length
        next hshort =>
        have hlt : (first :: tail).length < 6 := hshort.2
        have hmarker : ord first = 0x56 := hshort.1
        refine .part ?_ ?_ fun hsix => absurd hshort.2 (Nat.not_lt.mpr hsix)
        · rw [hmarker]
          decide
        · omega
      next hshort =>
      split at hwait
      · cases hwait
      next hbeat =>
      split at hwait
      · cases hwait
      next hlarge =>
      split at hwait
      · next hlen =>
        refine .part (not_lt.mp hlarge) (by omega) fun _ heq => hbeat ⟨?_, heq⟩
        have hhead : first = byteOf heartbeatMarker := List.head_eq_of_cons_eq heq
        exact hhead ▸ rfl
      · cases hwait
  · rintro (_ | ⟨hlarge, hlen, hbeat⟩)
    · rfl
    next first tail =>
      have hpart : (first :: tail).length < (ord first + 1).toNat := by omega
      unfold nextMessage
      simp only [not_lt.mpr hlarge, hpart, if_true, if_false]
      split
      · rfl
      next hshort =>
      rw [if_neg]
      rintro ⟨hmarker, heq⟩
      exact hbeat (Nat.not_lt.mp fun hlt => hshort ⟨hmarker, hlt⟩) heq

theorem blockEvent_ne_heartbeat (allowedReaders : Option (Finset ℤ)) (raw : Bytes)
    (h : Heartbeat) : blockEvent allowedReaders raw ≠ .heartbeat h := by
  unfold blockEvent
  split
  · nofun
  · split
    · split <;> nofun
    · nofun

/-- `is_heartbeat` says where the loop takes a heartbeat. -/
theorem isHeartbeat_iff (allowedReaders : Option (Finset ℤ)) (buffer : Bytes) :
    isHeartbeat buffer ↔
      nextMessage allowedReaders buffer = some (heartbeatLength, .heartbeat ⟨buildHeartbeat⟩) := by
  rw [isHeartbeat, decide_eq_true_iff]
  constructor
  · rintro ⟨_, htake⟩
    have h := nextMessage_append (.heartbeat : Message allowedReaders _ _)
      (buffer.drop heartbeatLength)
    rwa [← htake, List.take_append_drop, htake] at h
  · intro h
    obtain ⟨raw, more, rfl, hlength, hmessage⟩ := exists_of_nextMessage h
    generalize he : Event.heartbeat ⟨buildHeartbeat⟩ = event at hmessage
    cases hmessage with
    | heartbeat =>
      exact ⟨List.length_append ▸ Nat.le_add_right _ _, rfl⟩
    | stray _ => cases he
    | block _ => exact absurd he.symm (blockEvent_ne_heartbeat _ _ _)

theorem waiting_leftover (allowedReaders : Option (Finset ℤ)) (data : Bytes) :
    Waiting (leftover allowedReaders data) :=
  (nextMessage_eq_none_iff allowedReaders _).mp ((deframer allowedReaders).next_pending data)

/-- What waits in the buffer is shorter than the longest block. -/
theorem length_leftover_le (allowedReaders : Option (Finset ℤ)) (data : Bytes) :
    (leftover allowedReaders data).length ≤ 255 :=
  (waiting_leftover allowedReaders data).length_le

@[simp]
theorem parsed_nil (allowedReaders : Option (Finset ℤ)) : parsed allowedReaders [] = {} := by
  unfold parsed
  rw [Deframer.messages_nil]
  rfl

@[simp]
theorem leftover_nil (allowedReaders : Option (Finset ℤ)) : leftover allowedReaders [] = [] :=
  Deframer.pending_nil _

namespace StreamBuffer

/-- `feed` runs the loop over the pending bytes and the new ones and keeps what is
left. It never raises. -/
theorem feed_eq (self : StreamBuffer) (data : Bytes) :
    self.feed data =
      .ok ({ self with buffer := leftover self.allowedReaders (self.buffer ++ data) },
        parsed self.allowedReaders (self.buffer ++ data)) := by
  simp only [feed, feedLoop_eq _ _ _ _ (Nat.le_refl (self.buffer ++ data).length),
    ParseResult.empty_append]
  rfl

/-! ### Any calls -/

/-- A call that changes the buffer. -/
inductive BufferCall
  | feed (data : Bytes)
  | reset
  deriving DecidableEq, Repr

/-- The buffer after calls, in order. -/
def after (self : StreamBuffer) : List BufferCall → Except PyError StreamBuffer
  | [] => .ok self
  | .feed data :: calls =>
    match self.feed data with
    | .error e => .error e
    | .ok (self, _) => self.after calls
  | .reset :: calls => self.reset.after calls

theorem waiting_feed {self self' : StreamBuffer} {data : Bytes} {result : ParseResult}
    (h : self.feed data = .ok (self', result)) : Waiting self'.buffer := by
  rw [feed_eq] at h
  cases h
  exact waiting_leftover _ _

/-- Waiting bytes complete no message by themselves. -/
theorem feed_nil_of_waiting {self : StreamBuffer} (h : Waiting self.buffer) :
    self.feed [] = .ok (self, {}) := by
  have hwait : (deframer self.allowedReaders).next self.buffer = none :=
    (nextMessage_eq_none_iff _ _).mpr h
  rw [feed_eq, List.append_nil, leftover, parsed, Deframer.pending_of_none hwait,
    Deframer.messages_of_none hwait]
  rfl

/-- Calls on a buffer with waiting bytes all return, and leave waiting bytes again. -/
theorem exists_after_eq {self : StreamBuffer} (h : Waiting self.buffer) (calls : List BufferCall) :
    ∃ self', self.after calls = .ok self' ∧ Waiting self'.buffer := by
  induction calls generalizing self with
  | nil => exact ⟨self, rfl, h⟩
  | cons call calls ih =>
    cases call with
    | feed data =>
      obtain ⟨self', hself', hwaiting⟩ := ih (waiting_feed (self.feed_eq data))
      refine ⟨self', ?_, hwaiting⟩
      rw [after, feed_eq]
      exact hself'
    | reset => exact ih .empty

/-- After any calls on a fresh buffer, what is pending is the beginning of one message: at
most as many bytes as its length byte says, and a further call without data reports nothing
and changes nothing. -/
theorem after_fresh_waiting (allowedReaders : Option (Finset ℤ)) (calls : List BufferCall) :
    ∃ self, after { allowedReaders := allowedReaders } calls = .ok self ∧
      Waiting self.buffer ∧ self.buffer.length ≤ 255 ∧ self.feed [] = .ok (self, {}) := by
  have hfresh : Waiting ({ allowedReaders := allowedReaders } : StreamBuffer).buffer := .empty
  obtain ⟨self, hself, hwaiting⟩ := exists_after_eq hfresh calls
  exact ⟨self, hself, hwaiting, hwaiting.length_le, feed_nil_of_waiting hwaiting⟩

/-! ### Chunks -/

/-- Feed chunks one after another and collect what is reported. -/
def feedAll (self : StreamBuffer) : List Bytes → Except PyError (StreamBuffer × ParseResult)
  | [] => .ok (self, {})
  | chunk :: chunks =>
    match self.feed chunk with
    | .error e => .error e
    | .ok (self, first) =>
      match feedAll self chunks with
      | .error e => .error e
      | .ok (self, rest) => .ok (self, first ++ rest)

/-- After a first run of the loop, feeding chunks is feeding their concatenation. -/
theorem feedAll_leftover (allowedReaders : Option (Finset ℤ)) (fed : Bytes)
    (chunks : List Bytes) :
    feedAll ⟨leftover allowedReaders fed, allowedReaders⟩ chunks =
      .ok (⟨leftover allowedReaders (fed ++ chunks.flatten), allowedReaders⟩,
        parsed allowedReaders (leftover allowedReaders fed ++ chunks.flatten)) := by
  induction chunks generalizing fed with
  | nil => simp [feedAll]
  | cons chunk chunks ih =>
    have hchunk : leftover allowedReaders (leftover allowedReaders fed ++ chunk) =
        leftover allowedReaders (fed ++ chunk) := (leftover_append _ _ _).symm
    simp only [feedAll, feed_eq, hchunk, ih, List.flatten_cons, ← List.append_assoc]
    rw [parsed_append _ (leftover allowedReaders fed ++ chunk), hchunk]

theorem feedAll_fresh (allowedReaders : Option (Finset ℤ)) (chunks : List Bytes) :
    feedAll { allowedReaders := allowedReaders } chunks =
      .ok (⟨leftover allowedReaders chunks.flatten, allowedReaders⟩,
        parsed allowedReaders chunks.flatten) := by
  have h := feedAll_leftover allowedReaders [] chunks
  simpa using h

/-- How a byte stream is cut into chunks changes nothing: two ways of feeding it to
a fresh buffer report the same frames, heartbeats and errors and leave the same
bytes. -/
theorem feedAll_chunking (allowedReaders : Option (Finset ℤ)) (chunks chunks' : List Bytes)
    (h : chunks.flatten = chunks'.flatten) :
    ∃ self result,
      feedAll { allowedReaders := allowedReaders } chunks = .ok (self, result) ∧
      feedAll { allowedReaders := allowedReaders } chunks' = .ok (self, result) := by
  refine ⟨_, _, feedAll_fresh allowedReaders chunks, ?_⟩
  rw [feedAll_fresh, h]

/-- A heartbeat and half a frame, cut inside the heartbeat and fed at once. -/
theorem feedAll_chunking_heartbeat :
    ∃ self result,
      feedAll { allowedReaders := some {1} } [[0x56, 0], [], [0, 0, 0, 0, 5, 1]] =
        .ok (self, result) ∧
      feedAll { allowedReaders := some {1} } [[0x56, 0, 0, 0, 0, 0, 5, 1]] = .ok (self, result) :=
  feedAll_chunking (some {1}) [[0x56, 0], [], [0, 0, 0, 0, 5, 1]]
    [[0x56, 0, 0, 0, 0, 0, 5, 1]] (by decide)

end StreamBuffer

end UhfReader18
