import UhfReader18.Peer

/-!
# Sessions

A session is any sequence of `connect`, `close` and command calls. On every
connection the peer sends response frames, cut into chunks in any way, and closes
its end, possibly in the middle of a frame.

A session is meant to be simple: commands are counted from the `connect` on, and the
`k`-th command that is written gets the `k`-th frame. `expected` says this, and
`session_fifo` that the client does it.
-/

namespace UhfReader18

/-! ## What a session is meant to do -/

/-- What a peer sends on one connection: replies, and possibly the beginning of one more
before it closes its end. -/
structure Connection where
  replies : List Reply
  part : Bytes
  incomplete : part = [] ∨ ∃ reply : Reply, part <+: reply.raw ∧ part.length < reply.raw.length
  chunks : List Bytes
  nonempty : ∀ chunk ∈ chunks, chunk ≠ []
  flatten_eq : chunks.flatten = replies.flatMap Reply.raw ++ part

/-- A call in a session. `connect` comes with what the connection attempt gives. -/
inductive Call
  | connect (created : Except PyError Connection)
  | close
  | command (address command : PyValue) (data : Bytes)

/-- The outcome of the `k`-th command on a connection, if it is written. -/
def Connection.answer (self : Connection) (k : ℕ) (command : Command) : RfidResponse ⊕ ExcKind :=
  match self.replies[k]? with
  | none => .inr .connectionError
  | some reply =>
    if reply.response.Answers command then .inl reply.response else .inr .connectionError

/-- The connection in use and the number of commands written on it. -/
abbrev SessionState := Option (Connection × ℕ)

/-- The outcome of a call: what a command returns, or the class of the exception. -/
def SessionState.expect (state : SessionState) :
    Call → (Option RfidResponse ⊕ ExcKind) × SessionState
  | .connect created =>
    match state, created with
    | some _, _ => (.inl none, state)
    | none, .error e => (.inr e.kind, none)
    | none, .ok connection => (.inl none, some (connection, 0))
  | .close => (.inl none, none)
  | .command address command data =>
    match state with
    | none => (.inr .connectionError, none)
    | some (connection, k) =>
      match commandFrame address command data with
      | .error e => (.inr e.kind, state)
      | .ok (code, _) => ((connection.answer k code).map some id, some (connection, k + 1))

def expected : SessionState → List Call → List (Option RfidResponse ⊕ ExcKind)
  | _, [] => []
  | state, call :: calls => (state.expect call).1 :: expected (state.expect call).2 calls

/-! ## What the client does -/

def Connection.peer (self : Connection) : Peer Unit := ⟨(), self.chunks.map .ok⟩

/-- Make one call. -/
def perform (self : RfidClient (Peer Unit)) :
    Call → Except PyError (Option RfidResponse) × RfidClient (Peer Unit)
  | .connect created =>
    let (result, self) := self.connect (created.map Connection.peer)
    (result.map fun _ => none, self)
  | .close => (.ok none, self.close)
  | .command address command data =>
    let (result, self) := sendCommand (peerApi closing) address command data self
    (result.map some, self)

/-- Make calls one after another, whether they return or raise. -/
def session (self : RfidClient (Peer Unit)) :
    List Call → List (Except PyError (Option RfidResponse))
  | [] => []
  | call :: calls => (perform self call).1 :: session (perform self call).2 calls

/-! ## The client does it -/

/-- The bytes a peer sends are parsed to its replies. -/
theorem Connection.parsed_chunks (self : Connection) :
    parsed none self.chunks.flatten = { frames := self.replies.map Reply.response } := by
  have hpart : parsed none self.part = {} := by
    rcases self.incomplete with hnil | ⟨reply, hpart, hlt⟩
    · rw [hnil, parsed_nil]
    · exact parsed_part hpart hlt
  rw [self.flatten_eq, parsed_replies, hpart, ParseResult.append_empty]

/-- The client in a state of a session: not connected, with nothing kept, or connected and
in step with the frames of the connection. -/
def InSession (self : RfidClient (Peer Unit)) : SessionState → Prop
  | none => Idle self
  | some (connection, k) => ∃ peer, Tracks closing peer self connection.chunks.flatten k

theorem InSession.unrestricted {self : RfidClient (Peer Unit)} {state : SessionState}
    (h : InSession self state) : self.stream.allowedReaders = none := by
  cases state with
  | none => exact Idle.unrestricted h
  | some s =>
    obtain ⟨peer, htrack⟩ := h
    exact htrack.unrestricted

theorem InSession.connect {self : RfidClient (Peer Unit)} {state : SessionState}
    (h : InSession self state) (created : Except PyError Connection) :
    outcome (perform self (.connect created)).1 = (state.expect (.connect created)).1 ∧
      InSession (perform self (.connect created)).2 (state.expect (.connect created)).2 := by
  cases state with
  | some s =>
    -- already connected
    have hconnected := h
    obtain ⟨peer, htrack⟩ := hconnected
    have hrun : perform self (.connect created) = (.ok none, self) := by
      simp only [perform, RfidClient.connect, htrack.socket]
      rfl
    rw [hrun]
    exact ⟨rfl, h⟩
  | none =>
    have hidle : Idle self := h
    cases created with
    | error e =>
      have hrun : perform self (.connect (.error e)) = (.error e, self) := by
        simp only [perform, Except.map, RfidClient.connect, hidle.socket]
      rw [hrun]
      exact ⟨rfl, h⟩
    | ok connection =>
      have hrun : perform self (.connect (.ok connection)) =
          (.ok none, { self with socket := some connection.peer }) := by
        simp only [perform, Except.map, RfidClient.connect, hidle.socket]
      have harrived : arrived connection.peer.inbox = connection.chunks.flatten :=
        arrived_map_ok connection.chunks
      rw [hrun]
      refine ⟨rfl, connection.peer, ?_⟩
      rw [← harrived]
      refine .connect hidle ?_ fun arrival harrival => ?_
      · rw [harrived, connection.parsed_chunks]
        exact ⟨rfl, rfl⟩
      · obtain ⟨chunk, hchunk, rfl⟩ := List.mem_map.mp harrival
        exact connection.nonempty chunk hchunk

theorem InSession.close {self : RfidClient (Peer Unit)} {state : SessionState}
    (h : InSession self state) :
    outcome (perform self .close).1 = (state.expect .close).1 ∧
      InSession (perform self .close).2 (state.expect .close).2 :=
  ⟨rfl, Idle.close h.unrestricted⟩

/-- A command that is written examines the frame with its number, and the connection goes
on with the next one. -/
theorem InSession.written {self : RfidClient (Peer Unit)} {connection : Connection} {k : ℕ}
    (h : InSession self (some (connection, k))) {address command : PyValue} {data raw : Bytes}
    {code : Command} (haccepted : commandFrame address command data = .ok (code, raw)) :
    ∃ result self', sendCommand (peerApi closing) address command data self = (result, self') ∧
      outcome result = connection.answer k code ∧
      InSession self' (some (connection, k + 1)) := by
  obtain ⟨peer, htrack⟩ := h
  have hparsed := connection.parsed_chunks
  have hlength : (parsed none connection.chunks.flatten).frames.length =
      connection.replies.length := by
    rw [hparsed, List.length_map]
  -- behind the last frame the number of commands goes on, the number of frames does not
  have hcapped : Tracks closing peer self connection.chunks.flatten
      (min k connection.replies.length) := by
    refine htrack.of_drop_eq ?_
    rcases Nat.le_total k connection.replies.length with hle | hle
    · rw [Nat.min_eq_left hle]
    · rw [Nat.min_eq_right hle, List.drop_eq_nil_of_le (hlength ▸ hle),
        List.drop_eq_nil_of_le hlength.le]
  have hclean : Clean (parsed none (connection.chunks.flatten ++ arrived [])) := by
    rw [arrived_nil, List.append_nil, hparsed]
    exact ⟨rfl, rfl⟩
  obtain ⟨result, peer', self', hrun, _, _, hend⟩ := hcapped.sendCommand closing haccepted rfl
    hclean (fun arrival harrival => absurd harrival List.not_mem_nil)
    (hlength ▸ Nat.min_le_right _ _)
  rw [arrived_nil, List.append_nil] at hend
  refine ⟨result, self', hrun, ?_⟩
  rcases hend with ⟨frame, hframe, htrack', hresult⟩ | ⟨htrack', hresponses, rfl, hinbox⟩
  · have hlt : k < connection.replies.length := by
      obtain ⟨hlt, _⟩ := List.getElem?_eq_some_iff.mp hframe
      rw [hlength] at hlt
      exact Nat.lt_of_not_le fun hle => absurd hlt (by rw [Nat.min_eq_right hle]; omega)
    rw [Nat.min_eq_left hlt.le] at hframe htrack'
    rw [hparsed, List.getElem?_map] at hframe
    obtain ⟨reply, hreply, rfl⟩ := Option.map_eq_some_iff.mp hframe
    refine ⟨?_, peer', htrack'⟩
    rw [Connection.answer, hreply]
    rcases hresult with ⟨rfl, hanswers⟩ | ⟨text, rfl, hother⟩
    · simp only [hanswers, if_true, outcome_ok]
    · simp only [hother, if_false, outcome_error]
  · have hdata : ∀ e, .error e ∉ peer.inbox ++ [] := by
      intro e he
      rw [List.append_nil] at he
      cases htrack.inbox _ he
    have hle := htrack'.all_examined (hinbox hdata) hresponses
    rw [hlength, Nat.le_min] at hle
    refine ⟨?_, peer', htrack'.of_drop_eq ?_⟩
    · rw [Connection.answer, List.getElem?_eq_none hle.1]
      rfl
    · rw [Nat.min_eq_right hle.1, List.drop_eq_nil_of_le hlength.le,
        List.drop_eq_nil_of_le (hlength.trans_le (Nat.le_succ_of_le hle.1))]

theorem InSession.command {self : RfidClient (Peer Unit)} {state : SessionState}
    (h : InSession self state) (address command : PyValue) (data : Bytes) :
    outcome (perform self (.command address command data)).1 =
        (state.expect (.command address command data)).1 ∧
      InSession (perform self (.command address command data)).2
        (state.expect (.command address command data)).2 := by
  cases state with
  | none =>
    have hrun := sendCommand_not_connected (peerApi closing) address command data (Idle.socket h)
    simp only [perform, hrun]
    exact ⟨rfl, h⟩
  | some s =>
    obtain ⟨connection, k⟩ := s
    cases hframe : commandFrame address command data with
    | error e =>
      obtain ⟨peer, htrack⟩ := h
      have hrun := sendCommand_rejected (peerApi closing) htrack.socket hframe
      simp only [perform, hrun, SessionState.expect, hframe]
      exact ⟨rfl, peer, htrack⟩
    | ok accepted =>
      obtain ⟨code, raw⟩ := accepted
      obtain ⟨result, self', hrun, houtcome, hnext⟩ := h.written hframe
      simp only [perform, hrun, SessionState.expect, hframe, outcome_map, houtcome]
      exact ⟨trivial, hnext⟩

/-- Each call ends as expected and leaves the client ready for the next one. -/
theorem InSession.step {self : RfidClient (Peer Unit)} {state : SessionState}
    (h : InSession self state) (call : Call) :
    outcome (perform self call).1 = (state.expect call).1 ∧
      InSession (perform self call).2 (state.expect call).2 := by
  cases call with
  | connect created => exact h.connect created
  | close => exact h.close
  | command address command data => exact h.command address command data

theorem InSession.run {self : RfidClient (Peer Unit)} {state : SessionState}
    (h : InSession self state) (calls : List Call) :
    (session self calls).map outcome = expected state calls := by
  induction calls generalizing self state with
  | nil => rfl
  | cons call calls ih =>
    rw [session, expected, List.map_cons, (h.step call).1, ih (h.step call).2]

/-- FIFO sessions. In every sequence of `connect`, `close` and command calls on a new client
the `k`-th command written on a connection examines exactly the `k`-th frame of that
connection. It returns the frame if it answers the command and raises `ConnectionError`
otherwise, or when the stream ended before. Rejected calls, failed calls, `close` and a
second `connect` neither skip nor repeat a frame. -/
theorem session_fifo (calls : List Call) :
    (session {} calls).map outcome = expected none calls := by
  have hfresh : InSession {} none := Idle.fresh
  exact hfresh.run calls

end UhfReader18
