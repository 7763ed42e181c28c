import UhfReader18.ReceiveLoop
import UhfReader18.Traffic

/-!
# The peer at the other end of the connection

A peer has a state of its own, reacts to what the client writes, and has an inbox:
what has arrived, in the pieces it came in, and what `recv` will raise between them. A
piece larger than what the client asks for is read in parts. When the inbox is empty,
`recv` sees the end of the stream or runs into the timeout.

`Tracks` is the invariant of a connection. The responses of one connection can sit in
three places: in the inbox, as part of a frame in the stream buffer, and in the queue.
Together they are the frames received and not examined yet, in order.

Results:
1. `Tracks.connect`, `Tracks.arrive`, `Tracks.receive`, `Tracks.examine`: each step of a
   command keeps the invariant.
2. `Tracks.sendCommand`: a command examines the oldest frame that has not been
   examined, or raises because no such frame comes.
-/

namespace UhfReader18

/-! ## Peers -/

structure Peer (ρ : Type) where
  state : ρ
  inbox : List (Except PyError Bytes) := []

/-- How a peer behaves: what it makes of the bytes written to it, with what arrives
because of them, and what `recv` raises when nothing arrives (`none` if the peer has
closed the connection). -/
structure Behaviour (ρ : Type) where
  react : Bytes → ρ → ρ × List (Except PyError Bytes)
  silence : Option PyError

/-- What can stand in an inbox: some data, or that nothing arrived in time. -/
def Behaviour.Arrives {ρ : Type} (self : Behaviour ρ) : Except PyError Bytes → Prop
  | .ok chunk => chunk ≠ []
  | .error e => self.silence = some e

/-- What a command raises when nothing arrives. -/
def Behaviour.silent {ρ : Type} (self : Behaviour ρ) : PyError :=
  self.silence.getD ⟨.connectionError, "No response from reader"⟩

def timedOut : PyError := ⟨.timeoutError, "timed out"⟩

/-- A peer that has sent everything at the start and closes its end. -/
def closing : Behaviour Unit where
  react _ state := (state, [])
  silence := none

section Peer

variable {ρ : Type} (behaviour : Behaviour ρ)

/-- The inbox when `size` bytes of `chunk` have been read, with `inbox` behind it. -/
def afterRead (size : ℕ) (chunk : Bytes) (inbox : List (Except PyError Bytes)) :
    List (Except PyError Bytes) :=
  if chunk.length ≤ size then inbox else .ok (chunk.drop size) :: inbox

/-- The client's end of a connection to a peer. -/
def peerApi : SocketApi (Peer ρ) where
  sendall raw peer :=
    let (state, arrivals) := behaviour.react raw peer.state
    (.ok (), { state := state, inbox := peer.inbox ++ arrivals })
  recv size peer :=
    match peer.inbox with
    | .ok chunk :: inbox =>
      (.ok (chunk.take size), { peer with inbox := afterRead size chunk inbox })
    | .error e :: inbox => (.error e, { peer with inbox := inbox })
    | [] =>
      match behaviour.silence with
      | none => (.ok [], peer)
      | some e => (.error e, peer)

/-- The bytes in an inbox. -/
def arrived (inbox : List (Except PyError Bytes)) : Bytes :=
  inbox.flatMap fun arrival => arrival.toOption.getD []

@[simp]
theorem arrived_nil : arrived [] = [] := rfl

@[simp]
theorem arrived_ok (chunk : Bytes) (inbox : List (Except PyError Bytes)) :
    arrived (.ok chunk :: inbox) = chunk ++ arrived inbox := rfl

@[simp]
theorem arrived_error (e : PyError) (inbox : List (Except PyError Bytes)) :
    arrived (.error e :: inbox) = arrived inbox := rfl

@[simp]
theorem arrived_append (a b : List (Except PyError Bytes)) :
    arrived (a ++ b) = arrived a ++ arrived b :=
  List.flatMap_append

theorem arrived_map_ok (chunks : List Bytes) : arrived (chunks.map .ok) = chunks.flatten := by
  induction chunks with
  | nil => rfl
  | cons chunk chunks ih => rw [List.map_cons, arrived_ok, ih, List.flatten_cons]

/-- Reading a part of a chunk leaves the rest of it. -/
theorem take_append_arrived (size : ℕ) (chunk : Bytes) (inbox : List (Except PyError Bytes)) :
    chunk.take size ++ arrived (afterRead size chunk inbox) = chunk ++ arrived inbox := by
  unfold afterRead
  split
  · next hfits => rw [List.take_of_length_le hfits]
  · rw [arrived_ok, ← List.append_assoc, List.take_append_drop]

theorem error_mem_afterRead {size : ℕ} {chunk : Bytes} {inbox : List (Except PyError Bytes)}
    {e : PyError} (h : .error e ∈ afterRead size chunk inbox) : .error e ∈ inbox := by
  unfold afterRead at h
  split at h
  · exact h
  · exact (List.mem_cons.mp h).resolve_left fun heq => by cases heq

theorem Behaviour.arrives_afterRead {size : ℕ} {chunk : Bytes}
    {inbox : List (Except PyError Bytes)} (h : ∀ arrival ∈ inbox, behaviour.Arrives arrival) :
    ∀ arrival ∈ afterRead size chunk inbox, behaviour.Arrives arrival := by
  unfold afterRead
  split
  · exact h
  · next hlong =>
    rw [List.forall_mem_cons]
    exact ⟨List.drop_eq_nil_iff.not.mpr hlong, h⟩

/-- A chunk that is not larger than what is asked for is returned whole. -/
theorem recv_of_length_le {size : ℕ} {chunk : Bytes} (h : chunk.length ≤ size) (state : ρ)
    (inbox : List (Except PyError Bytes)) :
    (peerApi behaviour).recv size ⟨state, .ok chunk :: inbox⟩ = (.ok chunk, ⟨state, inbox⟩) := by
  simp only [peerApi, afterRead, if_pos h, List.take_of_length_le h]

/-! ## The receive loop -/

/-- Nothing has arrived and nothing will. -/
theorem receiveLoop_silence (passes : ℕ) {peer : Peer ρ} {self : RfidClient (Peer ρ)}
    (hresponses : self.responses = []) (hinbox : peer.inbox = []) :
    receiveLoop (peerApi behaviour) (passes + 1) peer self =
      (.error behaviour.silent, { self with socket := some peer }) := by
  rw [receiveLoop, if_neg (not_not_intro hresponses)]
  cases hsilence : behaviour.silence <;>
    simp [peerApi, hinbox, hsilence, Behaviour.silent]

theorem receiveLoop_error (passes : ℕ) {peer : Peer ρ} {self : RfidClient (Peer ρ)} {e : PyError}
    {inbox : List (Except PyError Bytes)} (hresponses : self.responses = [])
    (hinbox : peer.inbox = .error e :: inbox) :
    receiveLoop (peerApi behaviour) (passes + 1) peer self =
      (.error e, { self with socket := some { peer with inbox := inbox } }) := by
  rw [receiveLoop, if_neg (not_not_intro hresponses)]
  simp [peerApi, hinbox]

/-! ## What a connection holds -/

/-- The bytes received but not examined as part of a queued response. -/
def unread (peer : Peer ρ) (self : RfidClient (Peer ρ)) : Bytes :=
  self.stream.buffer ++ arrived peer.inbox

/-- On a connection that has brought the bytes `received` so far, `examined` of the
frames in them have been examined. Queue, stream buffer and inbox hold the others. -/
structure Tracks (peer : Peer ρ) (client : RfidClient (Peer ρ)) (received : Bytes)
    (examined : ℕ) : Prop where
  socket : client.socket = some peer
  unrestricted : client.stream.allowedReaders = none
  settled : leftover none client.stream.buffer = client.stream.buffer
  inbox : ∀ arrival ∈ peer.inbox, behaviour.Arrives arrival
  clean : Clean (parsed none (unread peer client))
  rest_eq : leftover none (unread peer client) = leftover none received
  frames_eq : client.responses ++ (parsed none (unread peer client)).frames =
    (parsed none received).frames.drop examined

/-- A client that is not connected holds nothing. -/
structure Idle {σ : Type} (client : RfidClient σ) : Prop where
  socket : client.socket = none
  unrestricted : client.stream.allowedReaders = none
  buffer : client.stream.buffer = []
  responses : client.responses = []

theorem Idle.fresh {σ : Type} : Idle ({} : RfidClient σ) := ⟨rfl, rfl, rfl, rfl⟩

theorem Idle.close {σ : Type} {self : RfidClient σ} (h : self.stream.allowedReaders = none) :
    Idle self.close := ⟨rfl, h, rfl, rfl⟩

namespace Tracks

variable {behaviour : Behaviour ρ} {peer : Peer ρ} {self : RfidClient (Peer ρ)}
  {received : Bytes} {examined : ℕ}

theorem connect (h : Idle self) (hclean : Clean (parsed none (arrived peer.inbox)))
    (hinbox : ∀ arrival ∈ peer.inbox, behaviour.Arrives arrival) :
    Tracks behaviour peer { self with socket := some peer } (arrived peer.inbox) 0 := by
  have hunread : unread peer { self with socket := some peer } = arrived peer.inbox := by
    rw [unread, h.buffer, List.nil_append]
  refine ⟨rfl, h.unrestricted, ?_, hinbox, ?_, ?_, ?_⟩
  · rw [h.buffer, leftover_nil]
  · rw [hunread]
    exact hclean
  · rw [hunread]
  · rw [hunread, h.responses, List.nil_append, List.drop_zero]

/-- More bytes arrive. -/
theorem arrive (h : Tracks behaviour peer self received examined) (state : ρ)
    (arrivals : List (Except PyError Bytes))
    (hclean : Clean (parsed none (received ++ arrived arrivals)))
    (harrivals : ∀ arrival ∈ arrivals, behaviour.Arrives arrival)
    (hexamined : examined ≤ (parsed none received).frames.length) :
    Tracks behaviour ⟨state, peer.inbox ++ arrivals⟩
      { self with socket := some ⟨state, peer.inbox ++ arrivals⟩ }
      (received ++ arrived arrivals) examined := by
  have hunread : unread ⟨state, peer.inbox ++ arrivals⟩
      { self with socket := some ⟨state, peer.inbox ++ arrivals⟩ } =
        unread peer self ++ arrived arrivals := by
    simp only [unread, arrived_append, List.append_assoc]
  rw [parsed_append, clean_append, ← h.rest_eq] at hclean
  refine ⟨rfl, h.unrestricted, h.settled, ?_, ?_, ?_, ?_⟩
  · intro arrival harrival
    exact (List.mem_append.mp harrival).elim (h.inbox arrival) (harrivals arrival)
  · rw [hunread, parsed_append]
    exact clean_append.mpr ⟨h.clean, hclean.2⟩
  · rw [hunread, leftover_append, h.rest_eq, ← leftover_append]
  · rw [hunread, parsed_append, parsed_append none received, ParseResult.frames_append,
      ParseResult.frames_append, ← List.append_assoc, h.frames_eq, h.rest_eq,
      List.drop_append_of_le_length hexamined]

/-- What is left to examine does not change when an arrival is taken from the inbox. -/
theorem take_error {e : PyError} {inbox : List (Except PyError Bytes)}
    (h : Tracks behaviour peer self received examined)
    (hinbox : peer.inbox = .error e :: inbox) :
    Tracks behaviour ⟨peer.state, inbox⟩ { self with socket := some ⟨peer.state, inbox⟩ }
      received examined := by
  have hunread : unread ⟨peer.state, inbox⟩ { self with socket := some ⟨peer.state, inbox⟩ } =
      unread peer self := by
    rw [unread, unread, hinbox, arrived_error]
  refine ⟨rfl, h.unrestricted, h.settled, fun arrival ha => h.inbox arrival ?_, ?_, ?_, ?_⟩
  · rw [hinbox]
    exact List.mem_cons_of_mem _ ha
  · rw [hunread]
    exact h.clean
  · rw [hunread, h.rest_eq]
  · rw [hunread]
    exact h.frames_eq

/-- The client with the part of a chunk that one `recv` reads run through the stream buffer. -/
theorem take_chunk (size : ℕ) {chunk : Bytes} {inbox : List (Except PyError Bytes)}
    (h : Tracks behaviour peer self received examined)
    (hinbox : peer.inbox = .ok chunk :: inbox) (hresponses : self.responses = []) :
    Tracks behaviour ⟨peer.state, afterRead size chunk inbox⟩
      { socket := some ⟨peer.state, afterRead size chunk inbox⟩
        stream := { self.stream with
          buffer := leftover none (self.stream.buffer ++ chunk.take size) }
        responses := (parsed none (self.stream.buffer ++ chunk.take size)).frames }
      received examined := by
  have hunread : unread peer self =
      self.stream.buffer ++ chunk.take size ++ arrived (afterRead size chunk inbox) := by
    rw [unread, hinbox, arrived_ok, List.append_assoc, take_append_arrived]
  have hclean := h.clean
  have hrest := h.rest_eq
  have hframes := h.frames_eq
  rw [hunread, parsed_append, clean_append] at hclean
  rw [hunread, leftover_append] at hrest
  rw [hunread, parsed_append, hresponses, List.nil_append] at hframes
  refine ⟨rfl, h.unrestricted, leftover_leftover _ _, behaviour.arrives_afterRead ?_,
    hclean.2, hrest, hframes⟩
  have harrives := h.inbox
  rw [hinbox, List.forall_mem_cons] at harrives
  exact harrives.2

/-- Waiting for a response loses nothing. Either there is one in the end, or an
exception comes out of `recv`, or nothing more arrives. -/
theorem receive (h : Tracks behaviour peer self received examined) (passes : ℕ)
    (hpasses : 256 ≤ passes + self.stream.buffer.length) :
    ∃ result peer' self', receiveLoop (peerApi behaviour) passes peer self = (result, self') ∧
      Tracks behaviour peer' self' received examined ∧ peer'.state = peer.state ∧
      (∀ e, .error e ∈ peer'.inbox → .error e ∈ peer.inbox) ∧
      (result = .ok () ∧ self'.responses ≠ [] ∨
        result = .error behaviour.silent ∧ self'.responses = [] ∧
          ((∀ e, .error e ∉ peer.inbox) → peer'.inbox = [])) := by
  induction passes generalizing peer self with
  | zero =>
    have hshort := length_leftover_le none self.stream.buffer
    rw [h.settled] at hshort
    omega
  | succ passes ih =>
    by_cases hresponses : self.responses ≠ []
    · exact ⟨_, peer, self, receiveLoop_of_responses _ _ _ hresponses, h, rfl,
        fun _ => id, Or.inl ⟨rfl, hresponses⟩⟩
    rw [not_not] at hresponses
    obtain ⟨state, inbox⟩ := peer
    rcases inbox with _ | ⟨e | chunk, inbox⟩
    · refine ⟨_, _, _, receiveLoop_silence behaviour passes hresponses rfl, ?_, rfl,
        fun _ => id, Or.inr ⟨rfl, hresponses, fun _ => rfl⟩⟩
      rw [← h.socket]
      exact h
    · have hsilence : behaviour.silence = some e := h.inbox _ List.mem_cons_self
      refine ⟨_, _, _, receiveLoop_error behaviour passes hresponses rfl, h.take_error rfl, rfl,
        fun _ => List.mem_cons_of_mem _, Or.inr ⟨?_, hresponses, fun hnone => ?_⟩⟩
      · rw [Behaviour.silent, hsilence, Option.getD_some]
      · exact absurd List.mem_cons_self (hnone e)
    -- a chunk: either what is read of it brings a frame, or it makes the buffer longer
    have hread : chunk.take 4096 ≠ [] := by
      have hchunk : chunk ≠ [] := h.inbox _ List.mem_cons_self
      simpa using hchunk
    have htrack := h.take_chunk 4096 rfl hresponses
    have hclean : Clean (parsed none (self.stream.buffer ++ chunk.take 4096)) := by
      have hall := h.clean
      rw [unread, arrived_ok, ← take_append_arrived 4096, ← List.append_assoc, parsed_append,
        clean_append] at hall
      exact hall.1
    have hrecv : (peerApi behaviour).recv 4096 ⟨state, .ok chunk :: inbox⟩ =
        (.ok (chunk.take 4096), ⟨state, afterRead 4096 chunk inbox⟩) := rfl
    have herrors : ∀ e, .error e ∈ afterRead 4096 chunk inbox → .error e ∈ .ok chunk :: inbox :=
      fun e he => List.mem_cons_of_mem _ (error_mem_afterRead he)
    have hstep := receiveLoop_chunk passes hresponses hrecv hread
      (by rw [h.unrestricted]; exact hclean)
    unfold RfidClient.fed at hstep
    rw [h.unrestricted] at hstep
    rw [hstep]
    by_cases hframes : (parsed none (self.stream.buffer ++ chunk.take 4096)).frames = []
    · have hquiet := leftover_of_quiet (hclean.eq_empty hframes)
      have hgrows : 256 ≤
          passes + (leftover none (self.stream.buffer ++ chunk.take 4096)).length := by
        have hpos := List.length_pos_iff.mpr hread
        rw [hquiet, List.length_append]
        omega
      obtain ⟨result, peer', self', hrun, htrack', hstate, hkept, hend⟩ := ih htrack hgrows
      refine ⟨result, peer', self', hrun, htrack', hstate,
        fun e he => herrors e (hkept e he), hend.imp_right fun hraised => ?_⟩
      exact ⟨hraised.1, hraised.2.1, fun hnone =>
        hraised.2.2 fun e he => hnone e (herrors e he)⟩
    · exact ⟨_, _, _, receiveLoop_of_responses _ _ _ hframes, htrack, rfl,
        herrors, Or.inl ⟨rfl, hframes⟩⟩

/-- Examining a response takes the oldest frame not examined yet. -/
theorem examine (h : Tracks behaviour peer self received examined) (command : Command)
    (hresponses : self.responses ≠ []) :
    ∃ frame result self', UhfReader18.examine command self = (result, self') ∧
      (parsed none received).frames[examined]? = some frame ∧
      Tracks behaviour peer self' received (examined + 1) ∧
      (result = .ok frame ∧ frame.Answers command ∨
        ∃ text, result = .error ⟨.connectionError, text⟩ ∧ ¬ frame.Answers command) := by
  obtain ⟨frame, responses, hqueue⟩ := List.exists_cons_of_ne_nil hresponses
  obtain ⟨result, hrun, hresult⟩ := examine_cons hqueue command
  have hframes := h.frames_eq
  rw [hqueue, List.cons_append] at hframes
  refine ⟨frame, result, _, hrun, ?_, ?_, hresult⟩
  · rw [← List.head?_drop, ← hframes, List.head?_cons]
  · refine ⟨h.socket, h.unrestricted, h.settled, h.inbox, h.clean, h.rest_eq, ?_⟩
    rw [← List.tail_drop, ← hframes, List.tail_cons]
    rfl

/-- When nothing more arrives, every frame received has been examined. -/
theorem all_examined (h : Tracks behaviour peer self received examined) (hinbox : peer.inbox = [])
    (hresponses : self.responses = []) : (parsed none received).frames.length ≤ examined := by
  have hframes := h.frames_eq
  rw [hresponses, unread, hinbox, arrived_nil, List.append_nil, ← h.settled, parsed_leftover,
    List.nil_append] at hframes
  exact List.drop_eq_nil_iff.mp hframes.symm

/-- What is still to be examined is all that counts. -/
theorem of_drop_eq {examined' : ℕ} (h : Tracks behaviour peer self received examined)
    (heq : (parsed none received).frames.drop examined =
      (parsed none received).frames.drop examined') :
    Tracks behaviour peer self received examined' :=
  ⟨h.socket, h.unrestricted, h.settled, h.inbox, h.clean, h.rest_eq, heq ▸ h.frames_eq⟩

end Tracks

/-! ## A command on a connection -/

theorem sendCommand_not_connected {σ : Type} (api : SocketApi σ) (address command : PyValue)
    (data : Bytes) {self : RfidClient σ} (h : self.socket = none) :
    sendCommand api address command data self =
      (.error ⟨.connectionError, "Not connected; call connect() first"⟩, self) := by
  rw [sendCommand, h]

/-- A rejected command changes nothing. -/
theorem sendCommand_rejected {σ : Type} (api : SocketApi σ) {address command : PyValue}
    {data : Bytes} {self : RfidClient σ} {socket : σ} {e : PyError}
    (h : self.socket = some socket) (hrejected : commandFrame address command data = .error e) :
    sendCommand api address command data self = (.error e, self) := by
  simp only [sendCommand, h, hrejected]

/-- How a command that is written ends. Either it examines the oldest frame not examined
yet and returns or rejects it, or no frame is complete and an exception says so. -/
theorem Tracks.sendCommand {peer : Peer ρ} {self : RfidClient (Peer ρ)} {received : Bytes}
    {examined : ℕ} (h : Tracks behaviour peer self received examined) {address command : PyValue}
    {data raw : Bytes} {code : Command} {state : ρ} {arrivals : List (Except PyError Bytes)}
    (haccepted : commandFrame address command data = .ok (code, raw))
    (hreact : behaviour.react raw peer.state = (state, arrivals))
    (hclean : Clean (parsed none (received ++ arrived arrivals)))
    (harrivals : ∀ arrival ∈ arrivals, behaviour.Arrives arrival)
    (hexamined : examined ≤ (parsed none received).frames.length) :
    ∃ result peer' self', UhfReader18.sendCommand (peerApi behaviour) address command data self =
        (result, self') ∧ peer'.state = state ∧
      (∀ e, .error e ∈ peer'.inbox → .error e ∈ peer.inbox ++ arrivals) ∧
      ((∃ frame, (parsed none (received ++ arrived arrivals)).frames[examined]? = some frame ∧
          Tracks behaviour peer' self' (received ++ arrived arrivals) (examined + 1) ∧
          (result = .ok frame ∧ frame.Answers code ∨
            ∃ text, result = .error ⟨.connectionError, text⟩ ∧ ¬ frame.Answers code)) ∨
        Tracks behaviour peer' self' (received ++ arrived arrivals) examined ∧
          self'.responses = [] ∧ result = .error behaviour.silent ∧
          ((∀ e, .error e ∉ peer.inbox ++ arrivals) → peer'.inbox = [])) := by
  have hsent : (peerApi behaviour).sendall raw peer =
      (.ok (), ⟨state, peer.inbox ++ arrivals⟩) := by
    simp only [peerApi, hreact]
  have htrack := h.arrive state arrivals hclean harrivals hexamined
  obtain ⟨result, peer', self', hloop, htrack', hstate, hkept, hend⟩ :=
    htrack.receive 256 (Nat.le_add_right _ _)
  rcases hend with ⟨rfl, hresponses⟩ | ⟨rfl, hresponses, hinbox⟩
  · obtain ⟨frame, result, self'', hexamine, hframe, htrack'', hresult⟩ :=
      htrack'.examine code hresponses
    refine ⟨result, peer', self'', ?_, hstate, hkept, Or.inl ⟨frame, hframe, htrack'', hresult⟩⟩
    simp only [UhfReader18.sendCommand, h.socket, haccepted, hsent, hloop, hexamine]
  · refine ⟨_, peer', self', ?_, hstate, hkept, Or.inr ⟨htrack', hresponses, rfl, hinbox⟩⟩
    simp only [UhfReader18.sendCommand, h.socket, haccepted, hsent, hloop]

end Peer

end UhfReader18
