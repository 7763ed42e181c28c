import UhfReader18.ReceiveLoop
import UhfReader18.Traffic

/-!
# Where responses come from

A client on any connection: the other end may send anything, in any chunks, calls of `recv` may
time out or fail, and the program may go on after an exception. The bytes received are noted by
a socket that passes them on.

Results:
1. `Extends.sendCommand`: the note changes nothing.
2. `History.accounted`: the stream buffer and the queue are what is left of the bytes received.
3. `history_provenance`: the responses a client has returned since it was connected stand in
   the bytes received since then, each in a place of its own, in order.
-/

namespace UhfReader18

open Deframer (Span)

variable {σ : Type} (api : SocketApi σ)

/-! ## Sockets that do the same -/

section

variable {τ : Type} {f : τ → σ} {api : SocketApi σ} {api' : SocketApi τ}

/-- The socket `api'` does what `api` does, and keeps more. -/
structure Extends (f : τ → σ) (api' : SocketApi τ) (api : SocketApi σ) : Prop where
  sendall : ∀ raw socket, api.sendall raw (f socket) = (api'.sendall raw socket).map id f
  recv : ∀ size socket, api.recv size (f socket) = (api'.recv size socket).map id f

/-- A client, with another socket. -/
def RfidClient.through (f : τ → σ) (self : RfidClient τ) : RfidClient σ where
  socket := self.socket.map f
  stream := self.stream
  responses := self.responses

variable (h : Extends f api' api)
include h

theorem Extends.receiveLoop (passes : ℕ) (socket : τ) (self : RfidClient τ) :
    receiveLoop api passes (f socket) (self.through f) =
      (receiveLoop api' passes socket self).map id (RfidClient.through f) := by
  induction passes generalizing socket self with
  | zero => rfl
  | succ passes ih =>
    unfold UhfReader18.receiveLoop
    by_cases hresponses : self.responses ≠ []
    · rw [if_pos hresponses, if_pos (show (self.through f).responses ≠ [] from hresponses)]
      rfl
    rw [if_neg hresponses, if_neg (show ¬ (self.through f).responses ≠ [] from hresponses), h.recv]
    rcases api'.recv 4096 socket with ⟨_ | chunk, state⟩
    · rfl
    have hstream : (self.through f).stream = self.stream := rfl
    simp only [Prod.map, id, StreamBuffer.feed_eq, hstream]
    split
    · rfl
    split
    · rfl
    split
    · rfl
    · exact ih state { self.fed state chunk with
        responses := self.responses ++
          (parsed self.stream.allowedReaders (self.stream.buffer ++ chunk)).frames }

omit h in
theorem examine_through (command : Command) (self : RfidClient τ) :
    examine command (self.through f) = (examine command self).map id (RfidClient.through f) := by
  unfold examine
  have hresponses : (self.through f).responses = self.responses := rfl
  rw [hresponses]
  split
  · rfl
  · simp only
    split <;> rfl

/-- Every command returns or raises the same. -/
theorem Extends.sendCommand (address command : PyValue) (data : Bytes) (self : RfidClient τ) :
    sendCommand api address command data (self.through f) =
      (sendCommand api' address command data self).map id (RfidClient.through f) := by
  unfold UhfReader18.sendCommand
  cases hsocket : self.socket with
  | none =>
    rw [show (self.through f).socket = none from congrArg (Option.map f) hsocket]
    rfl
  | some socket =>
    rw [show (self.through f).socket = some (f socket) from congrArg (Option.map f) hsocket]
    simp only
    rcases commandFrame address command data with e | ⟨code, raw⟩
    · rfl
    simp only [h.sendall]
    rcases api'.sendall raw socket with ⟨_ | _, state⟩
    · rfl
    have hloop : UhfReader18.receiveLoop api 256 (f state)
        { self.through f with socket := some (f state) } = _ :=
      h.receiveLoop 256 state { self with socket := some state }
    simp only [Prod.map, id, hloop]
    generalize UhfReader18.receiveLoop api' 256 state
      ⟨some state, self.stream, self.responses⟩ = loop
    rcases loop with ⟨_ | _, client⟩
    · rfl
    · exact examine_through code client

end

/-! ## A note of the bytes received -/

/-- The socket with a note of the bytes received from it. -/
def tapped : SocketApi (σ × Bytes) where
  sendall raw socket :=
    let (result, state) := api.sendall raw socket.1
    (result, state, socket.2)
  recv size socket :=
    match api.recv size socket.1 with
    | (.ok chunk, state) => (.ok chunk, state, socket.2 ++ chunk)
    | (.error e, state) => (.error e, state, socket.2)

/-- The note changes nothing. -/
theorem extends_tapped : Extends Prod.fst (tapped api) api := by
  refine ⟨fun raw socket => rfl, fun size socket => ?_⟩
  show api.recv size socket.1 = ((tapped api).recv size socket).map id Prod.fst
  simp only [tapped]
  rcases api.recv size socket.1 with ⟨_ | chunk, state⟩ <;> rfl

variable {api}

theorem tapped_recv {size : ℕ} {socket state : σ} {chunk : Bytes}
    (h : api.recv size socket = (.ok chunk, state)) (received : Bytes) :
    (tapped api).recv size (socket, received) = (.ok chunk, state, received ++ chunk) := by
  simp only [tapped, h]

theorem tapped_recv_error {size : ℕ} {socket state : σ} {e : PyError}
    (h : api.recv size socket = (.error e, state)) (received : Bytes) :
    (tapped api).recv size (socket, received) = (.error e, state, received) := by
  simp only [tapped, h]

/-! ## Histories -/

/-- A client, with the responses its commands have returned since it was made or closed. -/
inductive History (api : SocketApi σ) : RfidClient (σ × Bytes) → List RfidResponse → Prop
  | fresh : History api {} []
  | connect {self : RfidClient (σ × Bytes)} {returned : List RfidResponse}
      (created : Except PyError σ) : History api self returned →
      History api (self.connect (created.map fun socket => (socket, []))).2 returned
  | close {self : RfidClient (σ × Bytes)} {returned : List RfidResponse} :
      History api self returned → History api self.close []
  | sendCommand {self : RfidClient (σ × Bytes)} {returned : List RfidResponse}
      (address command : PyValue) (data : Bytes) : History api self returned →
      History api (sendCommand (tapped api) address command data self).2
        (returned ++ (sendCommand (tapped api) address command data self).1.toOption.toList)

/-- The buffer waits behind what was received, and the responses returned and queued are frames
of what was received: some of them, in order, each once. -/
structure Traced (received : Bytes) (returned : List RfidResponse)
    (client : RfidClient (σ × Bytes)) : Prop where
  stream_eq : client.stream = ⟨leftover none received, none⟩
  responses : (returned ++ client.responses).Sublist (parsed none received).frames

/-- A client that is not connected has nothing left of earlier connections. -/
structure Unconnected (returned : List RfidResponse) (client : RfidClient (σ × Bytes)) :
    Prop where
  stream_eq : client.stream = ⟨[], none⟩
  responses_eq : client.responses = []
  returned_eq : returned = []

/-- What a history leaves behind. -/
def Accounted (returned : List RfidResponse) (self : RfidClient (σ × Bytes)) : Prop :=
  match self.socket with
  | none => Unconnected returned self
  | some (_, received) => Traced received returned self

variable {received chunk : Bytes} {returned : List RfidResponse} {self : RfidClient (σ × Bytes)}

/-- A chunk is run through the buffer. Its frames are queued or dropped. -/
theorem Traced.fed (h : Traced received returned self) (hqueue : self.responses = [])
    (state : σ) {responses : List RfidResponse}
    (hresponses : responses.Sublist
      (parsed self.stream.allowedReaders (self.stream.buffer ++ chunk)).frames) :
    Traced (received ++ chunk) returned
      { self.fed (state, received ++ chunk) chunk with responses := responses } := by
  have hreturned : returned.Sublist (parsed none received).frames := by
    have hsub := h.responses
    rwa [hqueue, List.append_nil] at hsub
  refine ⟨?_, ?_⟩
  · show (⟨leftover self.stream.allowedReaders (self.stream.buffer ++ chunk),
      self.stream.allowedReaders⟩ : StreamBuffer) = ⟨leftover none (received ++ chunk), none⟩
    rw [h.stream_eq, leftover_append none received chunk]
  · rw [h.stream_eq] at hresponses
    rw [parsed_append, ParseResult.frames_append]
    exact hreturned.append hresponses

/-- How the loop of `_send_command` may end: everything received is accounted for. -/
theorem Traced.receiveLoop (h : Traced received returned self) (passes : ℕ) {socket : σ}
    (hsocket : self.socket = some (socket, received)) :
    Accounted returned (receiveLoop (tapped api) passes (socket, received) self).2 := by
  have hnow : ∀ {received : Bytes} {self : RfidClient (σ × Bytes)} {state : σ},
      self.socket = some (state, received) → Traced received returned self →
      Accounted returned self := by
    intro received self state hsocket h
    rw [Accounted, hsocket]
    exact h
  induction passes generalizing socket received self with
  | zero => exact hnow hsocket h
  | succ passes ih =>
    unfold UhfReader18.receiveLoop
    by_cases hqueue : self.responses ≠ []
    · rw [if_pos hqueue]
      exact hnow hsocket h
    rw [if_neg hqueue]
    have hnil : self.responses = [] := not_not.mp hqueue
    rcases hrecv : api.recv 4096 socket with ⟨_ | chunk, state⟩
    · rw [tapped_recv_error hrecv]
      exact hnow rfl ⟨h.stream_eq, h.responses⟩
    rw [tapped_recv hrecv]
    have hdropped : Traced (received ++ chunk) returned
        { self.fed (state, received ++ chunk) chunk with responses := [] } :=
      h.fed hnil state (List.nil_sublist _)
    simp only [StreamBuffer.feed_eq]
    split
    · next hempty =>
      rw [hempty, List.append_nil]
      exact hnow rfl ⟨h.stream_eq, h.responses⟩
    split
    · exact hnow rfl (hnil ▸ hdropped)
    split
    · exact hnow rfl (hnil ▸ hdropped)
    · refine ih ?_ rfl
      rw [hnil, List.nil_append]
      exact h.fed hnil state (List.Sublist.refl _)

/-- A command that returns a response takes it off the queue. -/
theorem Accounted.examine (h : Accounted returned self) (command : Command) :
    Accounted (returned ++ (examine command self).1.toOption.toList) (examine command self).2 := by
  cases hqueue : self.responses with
  | nil =>
    have hexamine : UhfReader18.examine command self =
        (.error ⟨.indexError, "pop from an empty deque"⟩, self) := by
      rw [UhfReader18.examine, hqueue]
    rw [hexamine]
    exact (List.append_nil returned).symm ▸ h
  | cons frame responses =>
    obtain ⟨result, hexamine, hresult⟩ := examine_cons hqueue command
    rw [hexamine]
    unfold Accounted at h ⊢
    cases hsocket : self.socket with
    | none =>
      rw [hsocket] at h
      exact absurd (hqueue.symm.trans h.responses_eq) (List.cons_ne_nil _ _)
    | some tap =>
      rw [hsocket] at h
      refine ⟨h.stream_eq, ?_⟩
      have hsub := h.responses
      rw [hqueue] at hsub
      rcases hresult with ⟨rfl, _⟩ | ⟨text, rfl, _⟩
      · show (returned ++ [frame] ++ responses).Sublist _
        rwa [List.append_assoc]
      · show (returned ++ [] ++ responses).Sublist _
        rw [List.append_nil]
        exact ((List.sublist_cons_self frame responses).append_left returned).trans hsub

theorem Accounted.sendCommand (h : Accounted returned self) (address command : PyValue)
    (data : Bytes) :
    Accounted (returned ++ (sendCommand (tapped api) address command data self).1.toOption.toList)
      (sendCommand (tapped api) address command data self).2 := by
  have hraised : ∀ {self : RfidClient (σ × Bytes)} (e : PyError), Accounted returned self →
      Accounted (returned ++ (Except.error e : Except PyError RfidResponse).toOption.toList)
        self := fun e h => (List.append_nil returned).symm ▸ h
  unfold UhfReader18.sendCommand
  cases hsocket : self.socket with
  | none => exact hraised _ h
  | some tap =>
    obtain ⟨socket, received⟩ := tap
    rw [Accounted, hsocket] at h
    have hsame : ∀ state : σ, Accounted returned { self with socket := some (state, received) } :=
      fun state => ⟨h.stream_eq, h.responses⟩
    simp only
    rcases commandFrame address command data with e | ⟨code, raw⟩
    · refine hraised e ?_
      rw [Accounted, hsocket]
      exact h
    simp only
    rcases hsend : (tapped api).sendall raw (socket, received) with ⟨e | _, state, received'⟩
    · cases congrArg (fun r => r.2.2) hsend
      exact hraised e (hsame state)
    cases congrArg (fun r => r.2.2) hsend
    have hloop : Accounted returned (UhfReader18.receiveLoop (tapped api) 256 (state, received)
        { self with socket := some (state, received) }).2 :=
      Traced.receiveLoop (hsame state) 256 rfl
    simp only
    generalize UhfReader18.receiveLoop (tapped api) 256 (state, received)
      ⟨some (state, received), self.stream, self.responses⟩ = loop at hloop ⊢
    rcases loop with ⟨e | _, client⟩
    · exact hraised e hloop
    · exact hloop.examine code

/-- Whatever has happened, everything a client has is accounted for. -/
theorem History.accounted (h : History api self returned) : Accounted returned self := by
  induction h with
  | fresh => exact ⟨rfl, rfl, rfl⟩
  | @connect self returned created _ ih =>
    unfold RfidClient.connect
    cases hsocket : self.socket with
    | some tap => exact ih
    | none =>
      rw [Accounted, hsocket] at ih
      obtain ⟨hstream, hqueue, rfl⟩ := ih
      cases created with
      | error e =>
        show Accounted [] self
        rw [Accounted, hsocket]
        exact ⟨hstream, hqueue, rfl⟩
      | ok socket =>
        refine ⟨?_, ?_⟩
        · show self.stream = ⟨leftover none [], none⟩
          rw [hstream, leftover_nil]
        · show ([] ++ self.responses).Sublist _
          rw [hqueue]
          exact List.nil_sublist _
  | @close self returned _ ih =>
    refine ⟨?_, rfl, rfl⟩
    show (⟨[], self.stream.allowedReaders⟩ : StreamBuffer) = ⟨[], none⟩
    have hnone : self.stream.allowedReaders = none := by
      unfold Accounted at ih
      split at ih
      · exact congrArg StreamBuffer.allowedReaders ih.stream_eq
      · exact congrArg StreamBuffer.allowedReaders ih.stream_eq
    rw [hnone]
  | sendCommand address command data _ ih => exact ih.sendCommand address command data

/-- No response is made up, taken twice, put before an earlier one or left over from an earlier
connection. Whatever the other end of a connection sends, and however calls have ended, the
responses that the commands of a client have returned since it was connected, and after them
those that wait in its queue, stand in the bytes received on this connection: each is valid,
has a place of its own that holds exactly its bytes, and the places are in order. What the
stream buffer holds is the end of the bytes received, behind all of them. -/
theorem history_provenance (h : History api self returned) {socket : σ} {received : Bytes}
    (hsocket : self.socket = some (socket, received)) :
    ∃ places : List (Span × RfidResponse),
      places.map Prod.snd = returned ++ self.responses ∧
      (∀ p ∈ places, ∃ raw, p.2.toBytes = .ok raw ∧ validateFrame raw = .ok p.2 ∧
        Occupies received p.1 raw ∧ p.1.stop ≤ received.length - self.stream.buffer.length) ∧
      places.Pairwise (fun p q => p.1.Before q.1) ∧ self.stream.buffer <:+ received := by
  have htraced : Traced received returned self := by
    have haccounted := h.accounted
    rwa [Accounted, hsocket] at haccounted
  have hbuffer : self.stream.buffer = leftover none received :=
    congrArg StreamBuffer.buffer htraced.stream_eq
  have hframes : (parsed none received).frames =
      (selected Event.frame? (placed none received)).map Prod.snd :=
    (map_snd_selected _ _ _).symm
  have hsub := htraced.responses
  rw [hframes] at hsub
  obtain ⟨places, hplaces, hmap⟩ := List.sublist_map_iff.mp hsub
  refine ⟨places, hmap.symm, fun p hp => ?_, (selected_pairwise _ _ _).sublist hplaces, ?_⟩
  · obtain ⟨p', hp', hspan, hselect⟩ := mem_selected (hplaces.subset hp)
    obtain ⟨raw, hmessage, hplace, hstop⟩ := exists_of_mem_placed hp'
    rw [eq_frame_of_frame? hselect] at hmessage
    obtain ⟨hvalid, hbytes, _⟩ := hmessage.of_frame
    exact ⟨raw, hbytes, hvalid, hspan ▸ hplace, hbuffer ▸ hspan ▸ hstop⟩
  · exact hbuffer ▸ ⟨_, (deframer none).segments_append_pending received⟩

/-- Two answers in one chunk: one is returned, the other one waits. -/
theorem history_provenance_waiting :
    let answer := (buildResponseFrame 0 0x21 0 (List.replicate 8 0)).toOption.getD []
    let api : SocketApi Unit := ⟨fun _ s => (.ok (), s), fun _ s => (.ok (answer ++ answer), s)⟩
    let after := sendCommand (tapped api) (.int 0) Command.getReaderInfo.object []
      { socket := some ((), []) }
    ∃ places : List (Span × RfidResponse),
      places.map Prod.snd = after.1.toOption.toList ++ after.2.responses ∧ places.length = 2 ∧
      places.Pairwise fun p q => p.1.Before q.1 := by
  intro answer api after
  have hconnected : History api { socket := some ((), []) } [] :=
    History.connect (.ok ()) History.fresh
  have hhistory : History api after.2 ([] ++ after.1.toOption.toList) :=
    hconnected.sendCommand (.int 0) Command.getReaderInfo.object []
  have hsocket : after.2.socket = some ((), answer ++ answer) := by decide +kernel
  have hlength : (after.1.toOption.toList ++ after.2.responses).length = 2 := by decide +kernel
  clear_value after
  obtain ⟨places, hmap, _, horder, _⟩ := history_provenance hhistory hsocket
  refine ⟨places, hmap, ?_, horder⟩
  rw [← hlength, ← List.length_map (f := Prod.snd), hmap]
  rfl

end UhfReader18
