import UhfReader18.Client

/-!
# The receive loop ends

The loop of `_send_command` has no counter of its own. A socket that keeps delivering data
cannot keep it running all the same: what waits in the stream buffer is shorter than 256
bytes, and every chunk that completes nothing makes it longer.

Results:
1. `Reachable.settled`: the buffer of a client holds no complete message between commands.
2. `receiveLoop_leaves`: the loop ends after at most 256 calls of `recv`.
-/

namespace UhfReader18

variable {σ : Type} {api : SocketApi σ}

/-! ## One pass -/

/-- Only frames are reported. -/
def Clean (result : ParseResult) : Prop := result.errors = [] ∧ result.heartbeats = []

theorem clean_append {r s : ParseResult} : Clean (r ++ s) ↔ Clean r ∧ Clean s := by
  simp only [Clean, ParseResult.errors_append, ParseResult.heartbeats_append,
    List.append_eq_nil_iff]
  tauto

theorem Clean.eq_empty {r : ParseResult} (h : Clean r) (hframes : r.frames = []) : r = {} :=
  ParseResult.ext hframes h.2 h.1

/-- How the loop may end while data keeps coming, when `self` is the client it started with
and `data` what it has run through the stream buffer: the frames of `data` are queued, or the
exception is about the first error in `data` or, where there is none, about a heartbeat. -/
inductive Leaves (self : RfidClient σ) (data : Bytes) : Except PyError Unit → RfidClient σ → Prop
  | queued {after : RfidClient σ} : Clean (parsed self.stream.allowedReaders data) →
      after.responses = self.responses ++ (parsed self.stream.allowedReaders data).frames →
      after.responses ≠ [] → Leaves self data (.ok ()) after
  | parseError {after : RfidClient σ} {text : String} {texts : List String} :
      (parsed self.stream.allowedReaders data).errors = text :: texts →
      Leaves self data
        (.error ⟨.connectionError, s!"Invalid reader response: {text}"⟩) after
  | heartbeat {after : RfidClient σ} :
      (parsed self.stream.allowedReaders data).errors = [] →
      (parsed self.stream.allowedReaders data).heartbeats ≠ [] →
      Leaves self data (.error ⟨.connectionError,
        "Unexpected heartbeat while waiting for response"⟩) after

/-- Only the allow-list and the queue of the client count. -/
theorem Leaves.of_client {self self' after : RfidClient σ} {data : Bytes}
    {result : Except PyError Unit} (h : Leaves self data result after)
    (hreaders : self.stream.allowedReaders = self'.stream.allowedReaders)
    (hresponses : self.responses = self'.responses) : Leaves self' data result after := by
  cases h with
  | queued hclean hqueue hne =>
    exact .queued (hreaders ▸ hclean) (hresponses ▸ hreaders ▸ hqueue) hne
  | parseError herrors => exact .parseError (hreaders ▸ herrors)
  | heartbeat herrors hbeats => exact .heartbeat (hreaders ▸ herrors) (hreaders ▸ hbeats)

/-- The client with a chunk run through its stream buffer. -/
def RfidClient.fed (self : RfidClient σ) (socket : σ) (chunk : Bytes) : RfidClient σ :=
  { self with
    socket := some socket
    stream := { self.stream with
      buffer := leftover self.stream.allowedReaders (self.stream.buffer ++ chunk) } }

theorem receiveLoop_of_responses (api : SocketApi σ) (passes : ℕ) (socket : σ)
    {self : RfidClient σ} (h : self.responses ≠ []) :
    receiveLoop api passes socket self = (.ok (), self) := by
  cases passes with
  | zero => rfl
  | succ passes => rw [receiveLoop, if_pos h]

variable {self : RfidClient σ} {socket socket' : σ} {chunk : Bytes}

/-- A chunk that completes anything but frames ends the loop. -/
theorem receiveLoop_unclean (hresponses : self.responses = [])
    (hrecv : api.recv 4096 socket = (.ok chunk, socket')) (hchunk : chunk ≠ [])
    (hunclean : ¬ Clean (parsed self.stream.allowedReaders (self.stream.buffer ++ chunk))) :
    ∃ result, (∀ passes, receiveLoop api (passes + 1) socket self =
      (result, self.fed socket' chunk)) ∧ (∃ text, result = .error ⟨.connectionError, text⟩) ∧
      Leaves self (self.stream.buffer ++ chunk) result (self.fed socket' chunk) := by
  cases herrors : (parsed self.stream.allowedReaders (self.stream.buffer ++ chunk)).errors with
  | cons text texts =>
    refine ⟨_, fun passes => ?_, ⟨_, rfl⟩, .parseError herrors⟩
    rw [receiveLoop, if_neg (not_not_intro hresponses)]
    simp only [hrecv, hchunk, if_false, StreamBuffer.feed_eq, herrors]
    rfl
  | nil =>
    have hbeats : (parsed self.stream.allowedReaders
        (self.stream.buffer ++ chunk)).heartbeats ≠ [] := fun h => hunclean ⟨herrors, h⟩
    refine ⟨_, fun passes => ?_, ⟨_, rfl⟩, .heartbeat herrors hbeats⟩
    rw [receiveLoop, if_neg (not_not_intro hresponses)]
    simp only [hrecv, hchunk, if_false, StreamBuffer.feed_eq, herrors, if_pos hbeats]
    rfl

/-- A chunk that only completes frames queues them, and the loop goes on. -/
theorem receiveLoop_chunk (passes : ℕ) (hresponses : self.responses = [])
    (hrecv : api.recv 4096 socket = (.ok chunk, socket')) (hchunk : chunk ≠ [])
    (hclean : Clean (parsed self.stream.allowedReaders (self.stream.buffer ++ chunk))) :
    receiveLoop api (passes + 1) socket self =
      receiveLoop api passes socket' { self.fed socket' chunk with
        responses :=
          (parsed self.stream.allowedReaders (self.stream.buffer ++ chunk)).frames } := by
  rw [receiveLoop, if_neg (not_not_intro hresponses)]
  simp [hrecv, hchunk, StreamBuffer.feed_eq, hclean.1, hclean.2, hresponses, RfidClient.fed]

/-! ## Reachable clients -/

/-- The clients a program can have: methods are called in any order, on any network. -/
inductive Reachable (api : SocketApi σ) : RfidClient σ → Prop
  | fresh : Reachable api {}
  | connect {self : RfidClient σ} (created : Except PyError σ) :
      Reachable api self → Reachable api (self.connect created).2
  | close {self : RfidClient σ} : Reachable api self → Reachable api self.close
  | sendCommand {self : RfidClient σ} (address command : PyValue) (data : Bytes) :
      Reachable api self → Reachable api (sendCommand api address command data self).2

theorem run_snd (adr : PyValue) (command : Command) (data : Bytes) (action : String)
    (self : RfidClient σ) :
    (run api adr command data action self).2 =
      (sendCommand api adr command.object data self).2 := by
  unfold run
  rcases sendCommand api adr command.object data self with ⟨_ | response, client⟩
  · rfl
  · simp only
    split <;> rfl

/-- The other commands end in clients that `sendCommand` has left behind. -/
theorem Reachable.getter {α : Type} {self : RfidClient σ} (h : Reachable api self)
    (adr : PyValue) (command : Command) (decode : RfidResponse → Except PyError α)
    (action : String) : Reachable api (getter api adr command decode action self).2 := by
  have hrun : Reachable api (run api adr command [] action self).2 :=
    run_snd adr command [] action self ▸ h.sendCommand adr command.object []
  unfold UhfReader18.getter
  revert hrun
  rcases run api adr command [] action self with ⟨_ | response, client⟩ <;> exact id

theorem Reachable.setter {self : RfidClient σ} (h : Reachable api self) (adr : PyValue)
    (command : Command) (data : Except PyError Bytes) (action : String) :
    Reachable api (setter api adr command data action self).2 := by
  cases data with
  | error e => exact h
  | ok data =>
    show Reachable api (run api adr command data action self).2
    exact run_snd adr command data action self ▸ h.sendCommand adr command.object data

/-- The stream buffer holds no complete message. -/
def Settled (self : RfidClient σ) : Prop :=
  leftover self.stream.allowedReaders self.stream.buffer = self.stream.buffer

theorem Settled.receiveLoop {self : RfidClient σ} (h : Settled self) (api : SocketApi σ)
    (passes : ℕ) (socket : σ) : Settled (receiveLoop api passes socket self).2 := by
  induction passes generalizing socket self with
  | zero => exact h
  | succ passes ih =>
    unfold UhfReader18.receiveLoop
    split
    · exact h
    rcases api.recv 4096 socket with ⟨_ | chunk, socket⟩
    · exact h
    simp only [StreamBuffer.feed_eq]
    have hfed : leftover self.stream.allowedReaders
        (leftover self.stream.allowedReaders (self.stream.buffer ++ chunk)) =
          leftover self.stream.allowedReaders (self.stream.buffer ++ chunk) :=
      leftover_leftover _ _
    split
    · exact h
    split
    · exact hfed
    split
    · exact hfed
    · refine ih ?_ socket
      exact hfed

theorem Settled.sendCommand {self : RfidClient σ} (h : Settled self) (address command : PyValue)
    (data : Bytes) : Settled (sendCommand api address command data self).2 := by
  unfold UhfReader18.sendCommand
  split
  · exact h
  rcases commandFrame address command data with e | ⟨command, raw⟩
  · exact h
  next socket _ =>
  simp only
  rcases api.sendall raw socket with ⟨_ | _, socket⟩
  · exact h
  have hsocket : Settled { self with socket := some socket } := h
  have hloop := hsocket.receiveLoop api 256 socket
  simp only
  generalize UhfReader18.receiveLoop api 256 socket { self with socket := some socket } = loop
    at hloop
  rcases loop with ⟨_ | _, client⟩
  · exact hloop
  simp only
  unfold examine
  split
  · exact hloop
  · simp only
    split <;> exact hloop

/-- Between commands the buffer holds no complete message, whatever has gone wrong before. -/
theorem Reachable.settled {self : RfidClient σ} (h : Reachable api self) : Settled self := by
  induction h with
  | fresh => exact leftover_nil none
  | @connect self created _ ih =>
    unfold RfidClient.connect
    split
    · exact ih
    · cases created <;> exact ih
  | close _ _ => exact leftover_nil _
  | sendCommand address command data _ ih => exact ih.sendCommand address command data

/-! ## The loop -/

/-- The socket delivers a chunk of data at every call of `recv`, for ever. -/
structure Delivers (api : SocketApi σ) (sockets : ℕ → σ) (chunks : ℕ → Bytes) : Prop where
  recv : ∀ i, api.recv 4096 (sockets i) = (.ok (chunks i), sockets (i + 1))
  nonempty : ∀ i, chunks i ≠ []

theorem Delivers.tail {sockets : ℕ → σ} {chunks : ℕ → Bytes} (h : Delivers api sockets chunks) :
    Delivers api (fun i => sockets (i + 1)) (fun i => chunks (i + 1)) :=
  ⟨fun i => h.recv (i + 1), fun i => h.nonempty (i + 1)⟩

/-- The bytes of the first `k` chunks. -/
def firstChunks (chunks : ℕ → Bytes) (k : ℕ) : Bytes := (List.range k).flatMap chunks

theorem firstChunks_succ (chunks : ℕ → Bytes) (k : ℕ) :
    firstChunks chunks (k + 1) = chunks 0 ++ firstChunks (fun i => chunks (i + 1)) k := by
  rw [firstChunks, List.range_succ_eq_map, List.flatMap_cons, List.flatMap_map]
  rfl

theorem firstChunks_one (chunks : ℕ → Bytes) : firstChunks chunks 1 = chunks 0 :=
  (firstChunks_succ chunks 0).trans (List.append_nil _)

/-- Each chunk ends the loop or fills the buffer further, and the buffer has less than 256
bytes. -/
theorem receiveLoop_of_length {sockets : ℕ → σ} {chunks : ℕ → Bytes}
    (hdelivers : Delivers api sockets chunks) (hsettled : Settled self)
    (hsocket : self.socket = some (sockets 0)) {n : ℕ}
    (hroom : 256 ≤ self.stream.buffer.length + n) :
    ∃ k ≤ n, ∃ result after,
      (∀ passes, k ≤ passes → receiveLoop api passes (sockets 0) self = (result, after)) ∧
      after.socket = some (sockets k) ∧
      Leaves self (self.stream.buffer ++ firstChunks chunks k) result after := by
  induction n generalizing self sockets chunks with
  | zero =>
    have hlen := length_leftover_le self.stream.allowedReaders self.stream.buffer
    rw [hsettled] at hlen
    omega
  | succ n ih =>
    by_cases hresponses : self.responses = []
    swap
    · have hnone : parsed self.stream.allowedReaders
          (self.stream.buffer ++ firstChunks chunks 0) = {} := by
        rw [firstChunks, List.range_zero, List.flatMap_nil, List.append_nil, ← hsettled]
        exact parsed_leftover _ _
      have hqueue : self.responses = self.responses ++ (parsed self.stream.allowedReaders
          (self.stream.buffer ++ firstChunks chunks 0)).frames := by
        rw [hnone]
        exact (List.append_nil _).symm
      exact ⟨0, Nat.zero_le _, .ok (), self,
        fun passes _ => receiveLoop_of_responses api passes _ hresponses, hsocket,
        .queued (by rw [hnone]; exact ⟨rfl, rfl⟩) hqueue hresponses⟩
    have hone : 1 ≤ n + 1 := Nat.le_add_left 1 n
    have hpasses : ∀ {k passes : ℕ}, k + 1 ≤ passes → ∃ m, passes = m + 1 ∧ k ≤ m :=
      fun {k passes} h => ⟨passes - 1, by omega, by omega⟩
    let data := self.stream.buffer ++ chunks 0
    have hfirst : self.stream.buffer ++ firstChunks chunks 1 = data := by rw [firstChunks_one]
    by_cases hclean : Clean (parsed self.stream.allowedReaders data)
    swap
    · obtain ⟨result, hloop, _, hleaves⟩ :=
        receiveLoop_unclean hresponses (hdelivers.recv 0) (hdelivers.nonempty 0) hclean
      refine ⟨1, hone, result, self.fed (sockets 1) (chunks 0), fun passes h => ?_, rfl, ?_⟩
      · obtain ⟨m, rfl, _⟩ := hpasses h
        exact hloop m
      · rw [hfirst]
        exact hleaves
    have hgo := fun passes =>
      receiveLoop_chunk passes hresponses (hdelivers.recv 0) (hdelivers.nonempty 0) hclean
    by_cases hframes : (parsed self.stream.allowedReaders data).frames = []
    · -- nothing is complete: all of the chunk waits in the buffer
      have hkept : leftover self.stream.allowedReaders data = data :=
        leftover_of_quiet (hclean.eq_empty hframes)
      have hchunk := List.length_pos_iff.mpr (hdelivers.nonempty 0)
      have hgrows : 256 ≤ (leftover self.stream.allowedReaders data).length + n := by
        rw [hkept, List.length_append]
        omega
      have hsettled' : Settled { self.fed (sockets 1) (chunks 0) with
          responses := (parsed self.stream.allowedReaders data).frames } :=
        leftover_leftover _ _
      obtain ⟨k, hk, result, after, hloop, hsocket', hleaves⟩ :=
        ih hdelivers.tail hsettled' rfl hgrows
      refine ⟨k + 1, Nat.succ_le_succ hk, result, after, fun passes h => ?_, hsocket', ?_⟩
      · obtain ⟨m, rfl, hm⟩ := hpasses h
        rw [hgo]
        exact hloop m hm
      · have hdata : (leftover self.stream.allowedReaders data) ++
            firstChunks (fun i => chunks (i + 1)) k =
              self.stream.buffer ++ firstChunks chunks (k + 1) := by
          rw [hkept, firstChunks_succ, ← List.append_assoc]
        rw [← hdata]
        exact hleaves.of_client rfl (hframes.trans hresponses.symm)
    · refine ⟨1, hone, .ok (), { self.fed (sockets 1) (chunks 0) with
        responses := (parsed self.stream.allowedReaders data).frames }, fun passes h => ?_, rfl,
        ?_⟩
      · obtain ⟨m, rfl, _⟩ := hpasses h
        rw [hgo]
        exact receiveLoop_of_responses api m _ hframes
      · rw [hfirst]
        refine .queued hclean ?_ hframes
        rw [hresponses]
        rfl

/-- The loop ends. From every reachable client, whatever non-empty chunks the calls of `recv`
return, the loop is left after at most 256 of them: any larger number of passes gives the same
result, and the socket is then the one after the `k`-th call. What was received by then, behind
what was waiting, has brought a frame into the queue, or the `ConnectionError` is about the
first error in it or about a heartbeat in it. -/
theorem receiveLoop_leaves (api : SocketApi σ) (client : RfidClient σ)
    (hreachable : Reachable api client) (sockets : ℕ → σ) (chunks : ℕ → Bytes)
    (hdelivers : Delivers api sockets chunks) :
    ∃ k ≤ 256, ∃ result after,
      (∀ passes, k ≤ passes →
        receiveLoop api passes (sockets 0) { client with socket := some (sockets 0) } =
          (result, after)) ∧
      after.socket = some (sockets k) ∧
      Leaves client (client.stream.buffer ++ firstChunks chunks k) result after := by
  have hsettled : Settled { client with socket := some (sockets 0) } := hreachable.settled
  obtain ⟨k, hk, result, after, hloop, hsocket, hleaves⟩ :=
    receiveLoop_of_length hdelivers hsettled rfl (Nat.le_add_left 256 _)
  exact ⟨k, hk, result, after, hloop, hsocket, hleaves.of_client rfl rfl⟩

/-- A socket that counts its calls and delivers the byte 0xFF each time. -/
theorem receiveLoop_leaves_dribble :
    let api : SocketApi ℕ := ⟨fun _ calls => (.ok (), calls), fun _ calls =>
      (.ok [0xFF], calls + 1)⟩
    ∃ k ≤ 256, ∃ result after,
      (∀ passes, k ≤ passes →
        receiveLoop api passes 0 { socket := some 0 } = (result, after)) ∧
      after.socket = some k ∧
      Leaves ({} : RfidClient ℕ) (firstChunks (fun _ => [0xFF]) k) result after := by
  intro api
  exact receiveLoop_leaves api {} .fresh id (fun _ => [0xFF])
    ⟨fun _ => rfl, fun _ => List.cons_ne_nil _ _⟩

end UhfReader18
