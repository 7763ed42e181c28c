import UhfReader18.Stream

/-!
# The allow-list

A `StreamBuffer` with `allowed_readers` looks at the address of a frame only after the
bytes of the frame are removed. Next to a buffer without the list, fed with the same chunks,
it therefore cuts the stream in the same places and keeps the same bytes. The two differ in
one thing: a frame of a reader outside the list is an error there.

Results:
1. `deframer_relabels`: the list only changes what a message is reported as.
2. `feedEach_allowList`: call by call, the list is a filter on the frames.
-/

namespace UhfReader18

/-- What the list makes of a message: a frame of a reader outside it is an error. -/
def Event.restrict (readers : Finset ℤ) : Event → Event
  | .frame f =>
    if f.readerAddress ∈ readers then .frame f
    else .error (unknownReaderText readers f.readerAddress)
  | .heartbeat h => .heartbeat h
  | .error text => .error text

theorem blockEvent_some (readers : Finset ℤ) (raw : Bytes) :
    blockEvent (some readers) raw = (blockEvent none raw).restrict readers := by
  unfold blockEvent
  cases validateFrame raw with
  | error e => rfl
  | ok frame => rfl

theorem nextMessage_some (readers : Finset ℤ) (buffer : Bytes) :
    nextMessage (some readers) buffer =
      (nextMessage none buffer).map fun m => (m.1, m.2.restrict readers) := by
  cases buffer with
  | nil => rfl
  | cons first tail =>
    unfold nextMessage
    simp only
    split
    · rfl
    split
    · rfl
    split
    · rfl
    split
    · rfl
    rw [Option.map_some, blockEvent_some]

/-- With the list and without it, the loop takes the same messages. -/
theorem deframer_relabels (readers : Finset ℤ) :
    Deframer.Relabels (Event.restrict readers) (deframer none) (deframer (some readers)) :=
  nextMessage_some readers

theorem leftover_some (readers : Finset ℤ) (data : Bytes) :
    leftover (some readers) data = leftover none data :=
  (deframer_relabels readers).pending_eq data

/-! ## What a call returns -/

/-- What a call returns with the list, `restricted`, when the same call returns `whole`
without it. -/
structure ParseResult.Filtered (readers : Finset ℤ) (whole restricted : ParseResult) : Prop where
  frames : restricted.frames = whole.frames.filter fun f => f.readerAddress ∈ readers
  heartbeats : restricted.heartbeats = whole.heartbeats
  /-- The errors are kept in order, and each frame filtered out is one more. -/
  errors_sublist : whole.errors.Sublist restricted.errors
  errors_perm : restricted.errors.Perm (whole.errors ++
    (whole.frames.filter fun f => f.readerAddress ∉ readers).map fun f =>
      unknownReaderText readers f.readerAddress)

namespace ParseResult

theorem Filtered.length_errors {readers : Finset ℤ} {whole restricted : ParseResult}
    (h : Filtered readers whole restricted) :
    restricted.errors.length = whole.errors.length +
      (whole.frames.filter fun f => f.readerAddress ∉ readers).length := by
  rw [h.errors_perm.length_eq, List.length_append, List.length_map]

theorem Filtered.append {readers : Finset ℤ} {r r' s s' : ParseResult}
    (hr : Filtered readers r r') (hs : Filtered readers s s') :
    Filtered readers (r ++ s) (r' ++ s') := by
  constructor
  · rw [frames_append, frames_append, hr.frames, hs.frames, List.filter_append]
  · rw [heartbeats_append, heartbeats_append, hr.heartbeats, hs.heartbeats]
  · exact hr.errors_sublist.append hs.errors_sublist
  · rw [errors_append, errors_append, frames_append, List.filter_append, List.map_append,
      List.append_assoc r.errors]
    refine (hr.errors_perm.append hs.errors_perm).trans ?_
    rw [List.append_assoc]
    exact (List.perm_append_comm_assoc _ _ _).append_left _

/-- One message: only a frame of a reader outside the list is reported differently. -/
theorem filtered_ofEvents_singleton (readers : Finset ℤ) (event : Event) :
    Filtered readers (ofEvents [event]) (ofEvents [event.restrict readers]) := by
  cases event with
  | frame f =>
    have hframe : ofEvents [.frame f] = { frames := [f] } := rfl
    by_cases hin : f.readerAddress ∈ readers
    · rw [Event.restrict, if_pos hin, hframe]
      exact ⟨by simp [hin], rfl, List.Sublist.refl _, by simp [hin]⟩
    · have herror : ofEvents [.error (unknownReaderText readers f.readerAddress)] =
        { errors := [unknownReaderText readers f.readerAddress] } := rfl
      rw [Event.restrict, if_neg hin, hframe, herror]
      exact ⟨by simp [hin], rfl, List.nil_sublist _, by simp [hin]⟩
  | heartbeat h => exact ⟨rfl, rfl, List.Sublist.refl _, List.Perm.refl _⟩
  | error text => exact ⟨rfl, rfl, List.Sublist.refl _, List.Perm.refl _⟩

theorem filtered_ofEvents (readers : Finset ℤ) (events : List Event) :
    Filtered readers (ofEvents events) (ofEvents (events.map (Event.restrict readers))) := by
  induction events with
  | nil => exact ⟨rfl, rfl, List.Sublist.refl _, List.Perm.refl _⟩
  | cons event events ih =>
    have h := (filtered_ofEvents_singleton readers event).append ih
    rw [← ofEvents_append, ← ofEvents_append] at h
    exact h

end ParseResult

theorem filtered_parsed (readers : Finset ℤ) (data : Bytes) :
    (parsed none data).Filtered readers (parsed (some readers) data) := by
  unfold parsed
  rw [(deframer_relabels readers).messages_eq, List.map_map]
  have h := ParseResult.filtered_ofEvents readers (((deframer none).messages data).map Prod.snd)
  rw [List.map_map] at h
  exact h

/-! ## Two buffers in step -/

namespace StreamBuffer

/-- Feed chunks one after another: what is pending after each call, and what the call
returned. -/
def feedEach (self : StreamBuffer) : List Bytes → Except PyError (List (Bytes × ParseResult))
  | [] => .ok []
  | chunk :: chunks =>
    match self.feed chunk with
    | .error e => .error e
    | .ok (self, result) =>
      match feedEach self chunks with
      | .error e => .error e
      | .ok rest => .ok ((self.buffer, result) :: rest)

/-- Two buffers that hold the same bytes, one of them with the list, hold the same bytes
after every call. -/
theorem feedEach_restrict (readers : Finset ℤ) (buffer : Bytes) (chunks : List Bytes) :
    ∃ whole restricted,
      feedEach ⟨buffer, none⟩ chunks = .ok whole ∧
      feedEach ⟨buffer, some readers⟩ chunks = .ok restricted ∧
      List.Forall₂ (fun w r => r.1 = w.1 ∧ w.2.Filtered readers r.2) whole restricted := by
  induction chunks generalizing buffer with
  | nil => exact ⟨[], [], rfl, rfl, .nil⟩
  | cons chunk chunks ih =>
    obtain ⟨whole, restricted, hwhole, hrestricted, hall⟩ :=
      ih (leftover none (buffer ++ chunk))
    refine ⟨(leftover none (buffer ++ chunk), parsed none (buffer ++ chunk)) :: whole,
      (leftover none (buffer ++ chunk), parsed (some readers) (buffer ++ chunk)) :: restricted,
      ?_, ?_, .cons ⟨rfl, filtered_parsed readers (buffer ++ chunk)⟩ hall⟩
    · simp only [feedEach, feed_eq, hwhole]
    · simp only [feedEach, feed_eq, leftover_some, hrestricted]

/-- The allow-list is a filter. Fed with the same chunks, a fresh buffer with a list and one
without keep the same bytes after every call, and each call reports the same heartbeats, the
frames of the readers in the list in the same order, and the same errors with one more for
each frame filtered out. -/
theorem feedEach_allowList (readers : Finset ℤ) (chunks : List Bytes) :
    ∃ whole restricted,
      feedEach { allowedReaders := none } chunks = .ok whole ∧
      feedEach { allowedReaders := some readers } chunks = .ok restricted ∧
      List.Forall₂ (fun w r => r.1 = w.1 ∧ w.2.Filtered readers r.2 ∧
        r.2.errors.length = w.2.errors.length +
          (w.2.frames.filter fun f => f.readerAddress ∉ readers).length) whole restricted := by
  obtain ⟨whole, restricted, hwhole, hrestricted, hall⟩ := feedEach_restrict readers [] chunks
  exact ⟨whole, restricted, hwhole, hrestricted,
    hall.imp fun _ _ h => ⟨h.1, h.2, h.2.length_errors⟩⟩

end StreamBuffer

end UhfReader18
