import UhfReader18.Peer

/-!
# How the answer is cut into chunks

A peer sends a byte stream and closes its end, and one command is called on a fresh
connection. TCP may cut the stream anywhere, and one `recv` returns at most 4096 bytes.

The loop of `_send_command` judges a chunk as a whole: an error or a heartbeat behind a
complete answer fails the command if it comes in the same chunk, and is never seen if it
comes in a later one. The chunk that completes the answer reaches at most 4095 bytes
behind it.

Results:
1. `exists_verdict`: the outcome of a call is the verdict on the messages up to the end of
   the first chunk that completes one.
2. `freshCall_cut_iff`: the outcome is the same for all cuts if and only if the first item
   of the stream is not the answer, or all items that are complete within 4095 bytes
   behind it are frames.
3. `not_freshCall_cut`: a stray byte behind the answer is enough to make a difference.
-/

namespace UhfReader18

/-! ## Cutting a stream -/

/-- What one `recv(4096)` can return while the stream goes on. -/
def IsRead (chunk : Bytes) : Prop := chunk ≠ [] ∧ chunk.length ≤ 4096

instance (chunk : Bytes) : Decidable (IsRead chunk) := inferInstanceAs (Decidable (_ ∧ _))

/-- A way to cut a stream into what the calls of `recv` return. -/
structure Cut (stream : Bytes) where
  chunks : List Bytes
  isRead : ∀ chunk ∈ chunks, IsRead chunk
  flatten_eq : chunks.flatten = stream

/-- The stream in some chunks, and byte by byte behind them. -/
def Cut.bytewise {stream : Bytes} (chunks : List Bytes) (rest : Bytes)
    (hchunks : ∀ chunk ∈ chunks, IsRead chunk) (h : chunks.flatten ++ rest = stream) :
    Cut stream where
  chunks := chunks ++ rest.map ([·])
  isRead := by
    rw [List.forall_mem_append, List.forall_mem_map]
    exact ⟨hchunks, fun _ _ => ⟨List.cons_ne_nil _ _, Nat.le_add_left 1 4095⟩⟩
  flatten_eq := by
    rw [List.flatten_append, ← h]
    exact congrArg _ (List.flatMap_singleton' rest)

/-- A client that has just connected to a peer with these chunks. -/
def connected (chunks : List Bytes) : RfidClient (Peer Unit) :=
  { socket := some ⟨(), chunks.map .ok⟩ }

/-- A command on a fresh connection. -/
def freshCall (address command : PyValue) (data : Bytes) {stream : Bytes} (cut : Cut stream) :
    Except PyError RfidResponse :=
  (sendCommand (peerApi closing) address command data (connected cut.chunks)).1

/-- Where the first item is the answer to the command, all items that are complete within
4095 bytes behind it are frames. -/
def Uniform (code : Command) : List Item → Prop
  | [] => True
  | first :: items => (∃ frame, first.frame? = some frame ∧ frame.Answers code) →
      ∀ item ∈ completeItems items 4095, item.frame?.isSome

/-! ## The verdict on a chunk -/

/-- What is reported for `data`, in order. -/
def events (data : Bytes) : List Event := ((deframer none).messages data).map Prod.snd

theorem parsed_eq_ofEvents (data : Bytes) : parsed none data = .ofEvents (events data) := rfl

theorem events_append (a b : Bytes) :
    events (a ++ b) = events a ++ events (leftover none a ++ b) := by
  unfold events leftover
  rw [Deframer.messages_append, List.map_append]

theorem events_items (items : List Item) (more : Bytes) :
    events (items.flatMap Item.bytes ++ more) = items.map Item.event ++ events more := by
  rw [events, ← flatMap_toMessage, Deframer.messages_items complete_toMessage, List.map_append,
    List.map_map]
  rfl

theorem events_item (item : Item) : events item.bytes = [item.event] := by
  have h := events_items [item] []
  rw [List.flatMap_singleton, List.append_nil] at h
  rw [h, events, Deframer.messages_nil]
  rfl

/-- A part of an item completes nothing. -/
theorem events_part {item : Item} {part : Bytes} (hpart : part <+: item.bytes)
    (hshort : part.length < item.bytes.length) : events part = [] := by
  have hcomplete : (deframer none).Complete item.toMessage := complete_iff.mpr item.message
  rw [events, Deframer.messages_of_none (hcomplete.next_of_part hpart hshort)]
  rfl

/-- What the beginning of a stream completes: the items that lie in it. -/
theorem events_beginning {items : List Item} {tail fed : Bytes} (htail : events tail = [])
    (hfed : fed <+: items.flatMap Item.bytes ++ tail) :
    events fed = (completeItems items fed.length).map Item.event := by
  induction items generalizing fed with
  | nil =>
    obtain ⟨more, hmore⟩ := hfed
    rw [List.flatMap_nil, List.nil_append] at hmore
    rw [← hmore, events_append] at htail
    exact (List.append_eq_nil_iff.mp htail).1
  | cons item items ih =>
    rw [List.flatMap_cons, List.append_assoc] at hfed
    rw [completeItems]
    split
    · next hwhole =>
      obtain ⟨rest, rfl⟩ := List.prefix_of_prefix_length_le (List.prefix_append _ _) hfed hwhole
      have hone := events_items [item] rest
      rw [List.flatMap_singleton] at hone
      rw [hone, List.length_append, Nat.add_sub_cancel_left,
        ih ((List.prefix_append_right_inj _).mp hfed)]
      rfl
    · next hshort =>
      have hpart : fed <+: item.bytes :=
        List.prefix_of_prefix_length_le hfed (List.prefix_append _ _) (Nat.le_of_not_le hshort)
      rw [events_part hpart (Nat.lt_of_not_le hshort), List.map_nil]

/-- Items that lie in the first `n` bytes of a stream are completed by these bytes. -/
theorem mem_events_take {items : List Item} {item : Item} {n : ℕ}
    (h : item ∈ completeItems items n) (tail : Bytes) :
    item.event ∈ events ((items.flatMap Item.bytes ++ tail).take n) := by
  induction items generalizing n with
  | nil => cases h
  | cons first items ih =>
    rw [completeItems] at h
    split at h
    swap
    · cases h
    next hfits =>
    have hfirst := events_items [first]
      ((items.flatMap Item.bytes ++ tail).take (n - first.bytes.length))
    rw [List.flatMap_singleton] at hfirst
    rw [List.flatMap_cons, List.append_assoc, List.take_append, List.take_of_length_le hfits,
      hfirst, List.map_singleton, List.singleton_append, List.mem_cons]
    exact (List.mem_cons.mp h).imp (congrArg Item.event) ih

theorem mem_completeItems_of_le {items : List Item} {item : Item} {m n : ℕ} (hle : m ≤ n)
    (h : item ∈ completeItems items m) : item ∈ completeItems items n := by
  induction items generalizing m n with
  | nil => exact h
  | cons first items ih =>
    rw [completeItems] at h ⊢
    split at h
    · next hfits =>
      rw [if_pos (hfits.trans hle), List.mem_cons]
      exact (List.mem_cons.mp h).imp_right (ih (Nat.sub_le_sub_right hle _))
    · cases h

/-- Bytes that complete nothing are the beginning of one message. -/
theorem length_le_of_quiet {data : Bytes} (h : events data = []) : data.length ≤ 255 := by
  have hkept : leftover none data = data :=
    leftover_of_quiet (by rw [parsed_eq_ofEvents, h]; rfl)
  rw [← hkept]
  exact length_leftover_le none data

/-- How a command ends that sees these messages at once. -/
def verdict (code : Command) : List Event → RfidResponse ⊕ ExcKind
  | .frame frame :: rest =>
    if frame.Answers code ∧ ∀ event ∈ rest, event.frame?.isSome then .inl frame
    else .inr .connectionError
  | _ => .inr .connectionError

theorem verdict_cases (code : Command) (evs : List Event) :
    (∃ frame, verdict code evs = .inl frame) ∨ verdict code evs = .inr .connectionError := by
  unfold verdict
  split
  · split
    · exact Or.inl ⟨_, rfl⟩
    · exact Or.inr rfl
  · exact Or.inr rfl

theorem clean_ofEvents_iff (evs : List Event) :
    Clean (.ofEvents evs) ↔ ∀ event ∈ evs, event.frame?.isSome := by
  unfold Clean ParseResult.ofEvents
  simp only [List.filterMap_eq_nil_iff, ← forall_and]
  refine forall_congr' fun event => ?_
  cases event <;> simp [Event.frame?, Event.heartbeat?, Event.error?]

theorem verdict_of_unclean {code : Command} {evs : List Event} (h : ¬ Clean (.ofEvents evs)) :
    verdict code evs = .inr .connectionError := by
  rw [clean_ofEvents_iff] at h
  rcases evs with _ | ⟨frame | beat | text, rest⟩
  · rfl
  · refine if_neg fun hverdict => h ?_
    rw [List.forall_mem_cons]
    exact ⟨rfl, hverdict.2⟩
  · rfl
  · rfl

theorem verdict_of_clean {code : Command} {frame : RfidResponse} {rest : List Event}
    (h : Clean (.ofEvents (.frame frame :: rest))) :
    verdict code (.frame frame :: rest) =
      if frame.Answers code then .inl frame else .inr .connectionError := by
  rw [clean_ofEvents_iff, List.forall_mem_cons] at h
  exact if_congr ⟨And.left, fun hanswers => ⟨hanswers, h.2⟩⟩ rfl rfl

/-! ## One call -/

/-- How waiting ends that sees the messages of `data` at once. -/
def Judged (data : Bytes) (result : Except PyError Unit) (client : RfidClient (Peer Unit)) : Prop :=
  (∃ text, result = .error ⟨.connectionError, text⟩) ∧ ¬ Clean (parsed none data) ∨
    result = .ok () ∧ Clean (parsed none data) ∧ client.responses = (parsed none data).frames

/-- A chunk that completes a message ends the waiting. -/
theorem judged_of_chunk (passes : ℕ) {chunk : Bytes} (inbox : List (Except PyError Bytes))
    (self : RfidClient (Peer Unit)) (hunrestricted : self.stream.allowedReaders = none)
    (hresponses : self.responses = []) (hchunk : IsRead chunk)
    (hevents : events (self.stream.buffer ++ chunk) ≠ []) :
    ∃ result self', receiveLoop (peerApi closing) (passes + 1) ⟨(), .ok chunk :: inbox⟩ self =
      (result, self') ∧ Judged (self.stream.buffer ++ chunk) result self' := by
  have hrecv := recv_of_length_le closing hchunk.2 () inbox
  by_cases hclean : Clean (parsed none (self.stream.buffer ++ chunk))
  · have hstep := receiveLoop_chunk passes hresponses hrecv hchunk.1
      (by rw [hunrestricted]; exact hclean)
    unfold RfidClient.fed at hstep
    rw [hunrestricted] at hstep
    have hframes : (parsed none (self.stream.buffer ++ chunk)).frames ≠ [] := fun hnone =>
      hevents (ParseResult.eq_nil_of_ofEvents_eq_empty (hclean.eq_empty hnone))
    refine ⟨_, _, hstep.trans (receiveLoop_of_responses _ _ _ hframes), Or.inr ⟨rfl, hclean, rfl⟩⟩
  · obtain ⟨result, hstep, hraised, _⟩ := receiveLoop_unclean hresponses hrecv hchunk.1
      (by rw [hunrestricted]; exact hclean)
    exact ⟨result, _, hstep passes, Or.inl ⟨hraised, hclean⟩⟩

/-- A chunk that completes nothing is kept, and the waiting goes on. -/
theorem receiveLoop_quiet (passes : ℕ) {chunk : Bytes} (inbox : List (Except PyError Bytes))
    (self : RfidClient (Peer Unit)) (hunrestricted : self.stream.allowedReaders = none)
    (hresponses : self.responses = []) (hchunk : IsRead chunk)
    (hquiet : events (self.stream.buffer ++ chunk) = []) :
    receiveLoop (peerApi closing) (passes + 1) ⟨(), .ok chunk :: inbox⟩ self =
      receiveLoop (peerApi closing) passes ⟨(), inbox⟩
        { socket := some ⟨(), inbox⟩
          stream := { self.stream with buffer := self.stream.buffer ++ chunk } } := by
  have hparsed : parsed none (self.stream.buffer ++ chunk) = {} := by
    rw [parsed_eq_ofEvents, hquiet]
    rfl
  have hstep := receiveLoop_chunk passes hresponses (recv_of_length_le closing hchunk.2 () inbox)
    hchunk.1 (by rw [hunrestricted, hparsed]; exact ⟨rfl, rfl⟩)
  unfold RfidClient.fed at hstep
  rw [hunrestricted, hparsed, leftover_of_quiet hparsed] at hstep
  exact hstep

/-- The passes that are left are enough for what is waiting. -/
theorem exists_passes {passes : ℕ} {data chunk : Bytes} (hquiet : events data = [])
    (hpasses : 256 ≤ passes + data.length) (hchunk : chunk ≠ []) :
    ∃ n, passes = n + 1 ∧ 256 ≤ n + (data ++ chunk).length := by
  have hshort := length_le_of_quiet hquiet
  have hpos := List.length_pos_iff.mpr hchunk
  refine ⟨passes - 1, by omega, ?_⟩
  rw [List.length_append]
  omega

theorem events_of_append {a b : Bytes} (h : events (a ++ b) = []) : events a = [] := by
  rw [events_append] at h
  exact (List.append_eq_nil_iff.mp h).1

/-- Waiting takes the chunks up to the first one that completes a message. -/
theorem judged_of_chunks (passes : ℕ) {quiets : List Bytes} {chunk : Bytes} (more : List Bytes)
    (self : RfidClient (Peer Unit)) (hunrestricted : self.stream.allowedReaders = none)
    (hresponses : self.responses = [])
    (hpasses : 256 ≤ passes + self.stream.buffer.length)
    (hquiets : ∀ quiet ∈ quiets, IsRead quiet) (hchunk : IsRead chunk)
    (hquiet : events (self.stream.buffer ++ quiets.flatten) = [])
    (hevents : events (self.stream.buffer ++ quiets.flatten ++ chunk) ≠ []) :
    ∃ result self', receiveLoop (peerApi closing) passes
        ⟨(), (quiets ++ chunk :: more).map .ok⟩ self = (result, self') ∧
      Judged (self.stream.buffer ++ quiets.flatten ++ chunk) result self' := by
  induction quiets generalizing passes self with
  | nil =>
    rw [List.flatten_nil, List.append_nil] at hquiet hevents ⊢
    obtain ⟨passes, rfl, _⟩ := exists_passes hquiet hpasses hchunk.1
    exact judged_of_chunk passes (more.map .ok) self hunrestricted hresponses hchunk hevents
  | cons first quiets ih =>
    rw [List.flatten_cons, ← List.append_assoc] at hquiet hevents ⊢
    rw [List.forall_mem_cons] at hquiets
    have hkept := events_of_append hquiet
    obtain ⟨passes, rfl, hpasses'⟩ :=
      exists_passes (events_of_append hkept) hpasses hquiets.1.1
    have hstep := receiveLoop_quiet passes ((quiets ++ chunk :: more).map .ok) self hunrestricted
      hresponses hquiets.1 hkept
    rw [List.cons_append, List.map_cons, hstep]
    exact ih passes _ hunrestricted rfl hpasses' hquiets.2 hquiet hevents

/-- Without such a chunk the waiting comes to the end of the stream. -/
theorem closed_of_chunks (passes : ℕ) {quiets : List Bytes} (self : RfidClient (Peer Unit))
    (hunrestricted : self.stream.allowedReaders = none) (hresponses : self.responses = [])
    (hpasses : 256 ≤ passes + self.stream.buffer.length)
    (hquiets : ∀ quiet ∈ quiets, IsRead quiet)
    (hquiet : events (self.stream.buffer ++ quiets.flatten) = []) :
    ∃ text self', receiveLoop (peerApi closing) passes ⟨(), quiets.map .ok⟩ self =
      (.error ⟨.connectionError, text⟩, self') := by
  induction quiets generalizing passes self with
  | nil =>
    rw [List.flatten_nil, List.append_nil] at hquiet
    obtain ⟨passes, rfl, _⟩ := exists_passes hquiet hpasses (List.cons_ne_nil 0 [])
    exact ⟨_, _, receiveLoop_silence closing passes hresponses rfl⟩
  | cons first quiets ih =>
    rw [List.flatten_cons, ← List.append_assoc] at hquiet
    rw [List.forall_mem_cons] at hquiets
    have hkept := events_of_append hquiet
    obtain ⟨passes, rfl, hpasses'⟩ :=
      exists_passes (events_of_append hkept) hpasses hquiets.1.1
    have hstep := receiveLoop_quiet passes (quiets.map .ok) self hunrestricted hresponses
      hquiets.1 hkept
    rw [List.map_cons, hstep]
    exact ih passes _ hunrestricted rfl hpasses' hquiets.2 hquiet

/-- Either no chunk completes a message, or there is a first one that does. -/
theorem exists_first_chunk (before : Bytes) (chunks : List Bytes) (hbefore : events before = []) :
    events (before ++ chunks.flatten) = [] ∨
      ∃ quiets chunk more, chunks = quiets ++ chunk :: more ∧
        events (before ++ quiets.flatten) = [] ∧
        events (before ++ quiets.flatten ++ chunk) ≠ [] := by
  induction chunks generalizing before with
  | nil => exact Or.inl (by rw [List.flatten_nil, List.append_nil]; exact hbefore)
  | cons chunk chunks ih =>
    by_cases hevents : events (before ++ chunk) = []
    · rw [List.flatten_cons, ← List.append_assoc]
      refine (ih (before ++ chunk) hevents).imp_right ?_
      rintro ⟨quiets, first, more, rfl, hquiet, hfirst⟩
      refine ⟨chunk :: quiets, first, more, rfl, ?_, ?_⟩
      · rw [List.flatten_cons, ← List.append_assoc]
        exact hquiet
      · rw [List.flatten_cons, ← List.append_assoc]
        exact hfirst
    · refine Or.inr ⟨[], chunk, chunks, rfl, ?_, ?_⟩
      · rw [List.flatten_nil, List.append_nil]
        exact hbefore
      · rw [List.flatten_nil, List.append_nil]
        exact hevents

/-- The peer takes the command; what it sends is already under way. -/
theorem sendall_closing (raw : Bytes) (chunks : List Bytes) :
    (peerApi closing).sendall raw ⟨(), chunks.map .ok⟩ = (.ok (), ⟨(), chunks.map .ok⟩) := by
  simp [peerApi, closing]

/-- The call ends with the verdict on what the waiting saw. -/
theorem outcome_of_judged {address command : PyValue} {data raw fed : Bytes} {code : Command}
    {chunks : List Bytes} (haccepted : commandFrame address command data = .ok (code, raw))
    (hevents : events fed ≠ []) {result : Except PyError Unit} {self' : RfidClient (Peer Unit)}
    (hrun : receiveLoop (peerApi closing) 256 ⟨(), chunks.map .ok⟩ (connected chunks) =
      (result, self')) (hjudged : Judged fed result self') :
    outcome (sendCommand (peerApi closing) address command data (connected chunks)).1 =
      verdict code (events fed) := by
  rcases hjudged with ⟨⟨text, rfl⟩, hunclean⟩ | ⟨rfl, hclean, hresponses⟩
  · rw [parsed_eq_ofEvents] at hunclean
    rw [verdict_of_unclean hunclean]
    unfold connected at hrun
    simp only [sendCommand, connected, haccepted, sendall_closing, hrun]
    rfl
  · -- the first message is a frame, and it is examined
    rw [parsed_eq_ofEvents] at hclean hresponses
    obtain ⟨frame, rest, heq⟩ : ∃ frame rest, events fed = .frame frame :: rest := by
      cases hfirst : events fed with
      | nil => exact absurd hfirst hevents
      | cons event rest =>
        have hmem : event ∈ events fed := by
          rw [hfirst]
          exact List.mem_cons_self
        have hframe := (clean_ofEvents_iff _).mp hclean event hmem
        obtain ⟨frame, hframe⟩ := Option.isSome_iff_exists.mp hframe
        exact ⟨frame, rest, by rw [eq_frame_of_frame? hframe]⟩
    rw [heq] at hclean hresponses ⊢
    rw [verdict_of_clean hclean]
    have hqueue : self'.responses = frame :: rest.filterMap Event.frame? := hresponses
    unfold connected at hrun
    obtain ⟨result, hexamine, hresult⟩ := examine_cons hqueue code
    simp only [sendCommand, connected, haccepted, sendall_closing, hrun, hexamine]
    rcases hresult with ⟨rfl, hanswers⟩ | ⟨text, rfl, hother⟩
    · rw [if_pos hanswers, outcome_ok]
    · rw [if_neg hother, outcome_error]

/-- A call ends with the verdict on what has come with the first chunk that completes a
message. -/
theorem outcome_of_chunks {address command : PyValue} {data raw : Bytes} {code : Command}
    (haccepted : commandFrame address command data = .ok (code, raw)) {stream : Bytes}
    (cut : Cut stream) {quiets : List Bytes} {chunk : Bytes} {more : List Bytes}
    (hchunks : cut.chunks = quiets ++ chunk :: more) (hquiet : events quiets.flatten = [])
    (hevents : events (quiets.flatten ++ chunk) ≠ []) :
    outcome (freshCall address command data cut) =
      verdict code (events (quiets.flatten ++ chunk)) := by
  have hreads := cut.isRead
  rw [hchunks, List.forall_mem_append, List.forall_mem_cons] at hreads
  obtain ⟨result, self', hrun, hjudged⟩ :=
    judged_of_chunks 256 more (connected cut.chunks) rfl rfl (Nat.le_add_right _ _) hreads.1
      hreads.2.1 hquiet hevents
  rw [← hchunks] at hrun
  exact outcome_of_judged haccepted hevents hrun hjudged

/-- A call ends with the verdict on a beginning of the stream. It is the whole stream, if that
completes no message. Otherwise it completes one, and without its last chunk it would not. -/
theorem exists_verdict {address command : PyValue} {data raw stream : Bytes} {code : Command}
    (haccepted : commandFrame address command data = .ok (code, raw)) (cut : Cut stream) :
    ∃ fed, fed <+: stream ∧
      outcome (freshCall address command data cut) = verdict code (events fed) ∧
      (events stream = [] ∧ fed = stream ∨ events fed ≠ [] ∧
        ∃ quiet chunk, fed = quiet ++ chunk ∧ events quiet = [] ∧ chunk.length ≤ 4096) := by
  have hnone : events [] = [] := by rw [events, Deframer.messages_nil, List.map_nil]
  rcases exists_first_chunk [] cut.chunks hnone with hquiet | ⟨quiets, chunk, more, hchunks,
    hquiet, hevents⟩
  · rw [List.nil_append, cut.flatten_eq] at hquiet
    refine ⟨stream, List.prefix_rfl, ?_, Or.inl ⟨hquiet, rfl⟩⟩
    have hflat : events ((connected cut.chunks).stream.buffer ++ cut.chunks.flatten) = [] := by
      rw [cut.flatten_eq]
      exact hquiet
    obtain ⟨text, self', hrun⟩ :=
      closed_of_chunks 256 (connected cut.chunks) rfl rfl (Nat.le_add_right _ _) cut.isRead hflat
    rw [hquiet]
    unfold connected at hrun
    simp only [freshCall, sendCommand, connected, haccepted, sendall_closing, hrun]
    rfl
  · rw [List.nil_append] at hquiet hevents
    have hchunk : IsRead chunk := by
      refine cut.isRead chunk ?_
      rw [hchunks]
      exact List.mem_append_right _ List.mem_cons_self
    refine ⟨quiets.flatten ++ chunk, ⟨more.flatten, ?_⟩,
      outcome_of_chunks haccepted cut hchunks hquiet hevents,
      Or.inr ⟨hevents, _, chunk, rfl, hquiet, hchunk.2⟩⟩
    rw [← cut.flatten_eq, hchunks, List.flatten_append, List.flatten_cons, List.append_assoc]

/-! ## All cuts of a stream -/

/-- A beginning of the stream that completes nothing ends inside the first item, so one more
chunk reaches at most 4095 bytes behind that item. -/
theorem length_le_of_last_chunk {first : Item} {items : List Item} {tail quiet chunk : Bytes}
    (htail : events tail = [])
    (hstream : quiet ++ chunk <+: (first :: items).flatMap Item.bytes ++ tail)
    (hquiet : events quiet = []) (hchunk : chunk.length ≤ 4096) :
    (quiet ++ chunk).length - first.bytes.length ≤ 4095 := by
  have hshort : quiet.length < first.bytes.length := by
    rw [events_beginning htail ((List.prefix_append _ _).trans hstream)] at hquiet
    refine Nat.lt_of_not_le fun hwhole => ?_
    rw [completeItems, if_pos hwhole] at hquiet
    cases hquiet
  rw [List.length_append]
  omega

/-- When the items are uniform, what has come with the first chunk that completes a message
gets the verdict of the first item alone. -/
theorem verdict_of_uniform {code : Command} {first : Item} {items : List Item}
    {tail quiet chunk : Bytes} (h : Uniform code (first :: items)) (htail : events tail = [])
    (hstream : quiet ++ chunk <+: (first :: items).flatMap Item.bytes ++ tail)
    (hquiet : events quiet = []) (hchunk : chunk.length ≤ 4096)
    (hevents : events (quiet ++ chunk) ≠ []) :
    verdict code (events (quiet ++ chunk)) = verdict code [first.event] := by
  have hreach := length_le_of_last_chunk htail hstream hquiet hchunk
  rw [events_beginning htail hstream, completeItems] at hevents ⊢
  split
  swap
  · next hshort =>
    rw [if_neg hshort] at hevents
    exact absurd rfl hevents
  rw [List.map_cons]
  cases hevent : first.event with
  | heartbeat beat => rfl
  | error text => rfl
  | frame frame =>
    have hframe : first.frame? = some frame := by
      rw [← first.event_eq.1, hevent]
      rfl
    by_cases hanswers : frame.Answers code
    · -- everything the chunk reaches is a frame, so only the first one counts
      have hframes := h ⟨frame, hframe, hanswers⟩
      have hrest : ∀ event ∈ (completeItems items ((quiet ++ chunk).length -
          first.bytes.length)).map Item.event, event.frame?.isSome := by
        rw [List.forall_mem_map]
        intro item hitem
        rw [item.event_eq.1]
        exact hframes item (mem_completeItems_of_le hreach hitem)
      rw [verdict, verdict, if_pos ⟨hanswers, hrest⟩,
        if_pos ⟨hanswers, fun event hevent => absurd hevent List.not_mem_nil⟩]
    · rw [verdict, verdict, if_neg fun h => hanswers h.1, if_neg fun h => hanswers h.1]

/-- When the items are uniform, only the first message counts. -/
theorem outcome_of_uniform {address command : PyValue} {data raw tail : Bytes} {code : Command}
    {items : List Item} (haccepted : commandFrame address command data = .ok (code, raw))
    (htail : events tail = []) (h : Uniform code items)
    (cut : Cut (items.flatMap Item.bytes ++ tail)) :
    outcome (freshCall address command data cut) =
      verdict code ((items.map Item.event).take 1) := by
  have hall : events (items.flatMap Item.bytes ++ tail) = items.map Item.event := by
    rw [events_items, htail, List.append_nil]
  obtain ⟨fed, hfed, hverdict, hend⟩ := exists_verdict haccepted cut
  rw [hverdict]
  rcases hend with ⟨hquiet, rfl⟩ | ⟨hevents, quiet, chunk, rfl, hquiet, hchunk⟩
  · rw [hquiet] at hall ⊢
    rw [← hall, List.take_nil]
  · cases items with
    | nil =>
      obtain ⟨more, hmore⟩ := hfed
      rw [List.flatMap_nil, List.nil_append] at hmore
      rw [← hmore] at htail
      exact absurd (events_of_append htail) hevents
    | cons first items => exact verdict_of_uniform h htail hfed hquiet hchunk hevents

/-- The answer in a chunk of its own, and whatever comes behind it byte by byte. -/
theorem outcome_apart {address command : PyValue} {data raw rest : Bytes} {code : Command}
    (haccepted : commandFrame address command data = .ok (code, raw)) {answer : Item}
    {frame : RfidResponse} (hframe : answer.frame? = some frame) (hanswers : frame.Answers code)
    (hread : IsRead answer.bytes) :
    ∃ cut : Cut (answer.bytes ++ rest),
      outcome (freshCall address command data cut) = .inl frame := by
  have hone : events ([].flatten ++ answer.bytes) = [.frame frame] := by
    rw [List.flatten_nil, List.nil_append, events_item,
      eq_frame_of_frame? (answer.event_eq.1.trans hframe)]
  refine ⟨.bytewise [answer.bytes] rest ?_ ?_, ?_⟩
  · rw [List.forall_mem_singleton]
    exact hread
  · rw [List.flatten_singleton]
  · have hnone : events ([] : List Bytes).flatten = [] := events_part (List.nil_prefix)
      (List.length_pos_iff.mpr answer.message.ne_nil)
    rw [outcome_of_chunks haccepted _ rfl hnone (by rw [hone]; exact List.cons_ne_nil _ _), hone,
      verdict, if_pos ⟨hanswers, fun event hevent => absurd hevent List.not_mem_nil⟩]

/-- The answer but for its last byte, and then as much as one `recv` can return. -/
theorem outcome_together {address command : PyValue} {data raw part rest : Bytes} {last : UInt8}
    {code : Command} (haccepted : commandFrame address command data = .ok (code, raw))
    {answer odd : Item} (hanswer : answer.bytes = part ++ [last]) (hread : IsRead part)
    (hodd : odd.event ∈ events (rest.take 4095)) (hnoFrame : ¬ odd.frame?.isSome) :
    ∃ cut : Cut (answer.bytes ++ rest),
      outcome (freshCall address command data cut) = .inr .connectionError := by
  have hpart : events part = [] := by
    refine events_part (hanswer ▸ List.prefix_append _ _) ?_
    rw [hanswer, List.length_append]
    exact Nat.lt_succ_self _
  have hreach : events ([part].flatten ++ last :: rest.take 4095) =
      answer.event :: events (rest.take 4095) := by
    have hfirst := events_items [answer] (rest.take 4095)
    rw [List.flatMap_singleton, hanswer, List.append_assoc] at hfirst
    rw [List.flatten_singleton]
    exact hfirst
  refine ⟨.bytewise [part, last :: rest.take 4095] (rest.drop 4095) ?_ ?_, ?_⟩
  · rw [List.forall_mem_cons, List.forall_mem_singleton]
    refine ⟨hread, List.cons_ne_nil _ _, Nat.succ_le_succ ?_⟩
    exact List.length_take_le _ _
  · rw [hanswer]
    simp
  · rw [outcome_of_chunks haccepted _ rfl (by rw [List.flatten_singleton]; exact hpart)
      (by rw [hreach]; exact List.cons_ne_nil _ _), hreach]
    refine verdict_of_unclean fun hclean => hnoFrame ?_
    rw [← odd.event_eq.1]
    exact (clean_ofEvents_iff _).mp hclean _ (List.mem_cons_of_mem _ hodd)

theorem isRead_of_length {chunk : Bytes} {n : ℕ} (h : chunk.length = n) (hpos : 0 < n)
    (hle : n ≤ 256) : IsRead chunk :=
  ⟨List.length_pos_iff.mp (h ▸ hpos), h.le.trans (hle.trans (by decide))⟩

/-- An answer has more than one byte and fits in one chunk. -/
theorem isRead_of_frame? {item : Item} {frame : RfidResponse} (h : item.frame? = some frame) :
    ∃ part last, item.bytes = part ++ [last] ∧ IsRead part ∧ IsRead item.bytes := by
  cases item with
  | heartbeat => cases h
  | damaged _ _ => cases h
  | stray _ _ => cases h
  | frame raw built notHeartbeat =>
    obtain ⟨f, rfl, _⟩ := Item.frame?_eq raw built notHeartbeat
    have hne : f.raw ≠ [] := List.append_ne_nil_of_left_ne_nil (List.cons_ne_nil _ _) _
    have hpart : f.raw.dropLast.length = f.data.length + 5 := by
      rw [List.length_dropLast, f.length_raw]
      rfl
    have hsmall : f.data.length + 6 ≤ 256 := Nat.add_le_add_right f.fits 6
    exact ⟨_, _, (List.dropLast_concat_getLast hne).symm,
      isRead_of_length hpart (Nat.succ_pos _) (Nat.le_of_succ_le hsmall),
      isRead_of_length f.length_raw (Nat.succ_pos _) hsmall⟩

/-- If all cuts end the same way, the items are uniform. -/
theorem uniform_of_cut_invariant {address command : PyValue} {data raw tail : Bytes}
    {code : Command} {items : List Item}
    (haccepted : commandFrame address command data = .ok (code, raw))
    (h : ∀ cut cut' : Cut (items.flatMap Item.bytes ++ tail),
      outcome (freshCall address command data cut) =
        outcome (freshCall address command data cut')) : Uniform code items := by
  cases items with
  | nil => trivial
  | cons answer items =>
    rintro ⟨frame, hframe, hanswers⟩ odd hodd
    by_contra hnoFrame
    rw [List.flatMap_cons, List.append_assoc] at h
    obtain ⟨part, last, hanswer, hpart, hwhole⟩ := isRead_of_frame? hframe
    obtain ⟨apart, hreturned⟩ := outcome_apart haccepted hframe hanswers hwhole
    obtain ⟨together, hraised⟩ :=
      outcome_together haccepted hanswer hpart (mem_events_take hodd tail) hnoFrame
    have hsame := h apart together
    rw [hreturned, hraised] at hsame
    cases hsame

/-- When TCP fragmentation decides nothing. A command that is written returns or raises
`ConnectionError`, and it ends the same way for all cuts of the stream into what `recv(4096)`
returns if and only if the first item of the stream is not the answer to it, or all items that
are complete within 4095 bytes behind the answer are frames. A rejected call ends the same way
always. -/
theorem freshCall_cut_iff (address command : PyValue) (data stream : Bytes) :
    (∀ code raw, commandFrame address command data = .ok (code, raw) → ∀ cut : Cut stream,
      (∃ frame, freshCall address command data cut = .ok frame) ∨
        ∃ text, freshCall address command data cut = .error ⟨.connectionError, text⟩) ∧
    ((∀ cut cut' : Cut stream, outcome (freshCall address command data cut) =
        outcome (freshCall address command data cut')) ↔
      ∀ code raw items tail, commandFrame address command data = .ok (code, raw) →
        stream = items.flatMap Item.bytes ++ tail → Uniform code items) := by
  refine ⟨fun code raw haccepted cut => ?_, fun h => ?_, fun h cut cut' => ?_⟩
  · obtain ⟨fed, _, hverdict, _⟩ := exists_verdict haccepted cut
    rcases verdict_cases code (events fed) with ⟨frame, hframe⟩ | hraised
    · exact Or.inl ⟨frame, outcome_eq_inl_iff.mp (hverdict.trans hframe)⟩
    · exact Or.inr (outcome_eq_inr_iff.mp (hverdict.trans hraised))
  · rintro code raw items tail haccepted rfl
    exact uniform_of_cut_invariant haccepted h
  · cases hframe : commandFrame address command data with
    | error e =>
      have hrejected : ∀ cut : Cut stream, freshCall address command data cut = .error e :=
        fun cut => congrArg Prod.fst (sendCommand_rejected _ rfl hframe)
      rw [hrejected cut, hrejected cut']
    | ok accepted =>
      obtain ⟨code, raw⟩ := accepted
      obtain ⟨items, tail, htail, rfl⟩ : ∃ (items : List Item) (tail : Bytes),
          events tail = [] ∧ stream = items.flatMap Item.bytes ++ tail := by
        obtain ⟨items, hitems⟩ := exists_items stream
        refine ⟨items, leftover none stream, ?_, hitems⟩
        rw [events, leftover, Deframer.messages_pending, List.map_nil]
      have huniform := h code raw items tail hframe rfl
      rw [outcome_of_uniform hframe htail huniform cut,
        outcome_of_uniform hframe htail huniform cut']

/-- The answer of the reader at address 1 to Get WorkMode, and a stray byte behind it. -/
def strayBehindAnswer : Bytes := [5, 1, 0x36, 0, 0xD8, 0xD5, 0]

/-- The stray byte fails the command if it comes in the same chunk as the answer. -/
theorem not_freshCall_cut :
    ¬ ∀ (address command : PyValue) (data stream : Bytes) (cut cut' : Cut stream),
      outcome (freshCall address command data cut) =
        outcome (freshCall address command data cut') := by
  intro h
  have hsame := h (.int 1) Command.getWorkMode.object [] strayBehindAnswer
    ⟨[strayBehindAnswer], by decide, by decide⟩
    ⟨[strayBehindAnswer.take 6, strayBehindAnswer.drop 6], by decide, by decide⟩
  revert hsame
  decide +kernel

end UhfReader18
