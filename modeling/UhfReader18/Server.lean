import UhfReader18.AllowList
import UhfReader18.Interleaving
import UhfReader18.Report
import UhfReader18.Traffic

/-!
# The report server

`handle_client` and `start_server` of `server.py`. The server has a thread for every
connection it has accepted. A thread shares nothing with the others but the log, so that what
others can see of it are the results its `recv` calls come back with, the records it logs, and
the end of its connection.

Results:
1. `serverRun_iff`: the runs of the server are the interleavings of what `handle_client` does
   alone on each connection.
2. `serverLog_perm`: what is logged does not depend on how the threads are scheduled.
-/

namespace UhfReader18

open Interleaving

/-! ## `handle_client` -/

/-- What a `recv` of a connection comes back with. -/
inductive RecvResult
  /-- Empty where the other end has closed the connection. -/
  | data (chunk : Bytes)
  | reset
  /-- Any exception but `ConnectionResetError`. -/
  | raised (e : PyError)
  deriving DecidableEq, Repr

inductive Level
  | debug
  | info
  | warning
  deriving DecidableEq, Repr

structure Record where
  level : Level
  text : String
  deriving DecidableEq, Repr

/-- What a thread does that others can see. -/
inductive Action
  | log (record : Record)
  | close
  /-- The thread ends with an exception. -/
  | raise (e : PyError)
  deriving DecidableEq, Repr

section HandleClient

variable (peer : PeerAddress) (fields : List String)

def connectionText : String := s!"Connection from {peer.text}"

def heartbeatText (heartbeat : Heartbeat) : String :=
  s!"Heartbeat from {peer.text}: {heartbeat.hexReadable}"

def errorText (error : String) : String := s!"Frame error from {peer.text}: {error}"

def resetText : String := s!"Connection reset by {peer.text}"

def pendingText (pendingBytes : ℕ) : String :=
  s!"Connection closed with {pendingBytes} bytes still buffered"

def closedText : String := s!"Connection closed for {peer.text}"

/-- The lines of the frames of a chunk, up to one that cannot be written. -/
def logFrames : List RfidResponse → List Action × Option PyError
  | [] => ([], none)
  | frame :: frames =>
    match reportLine peer fields frame with
    | .error e => ([], some e)
    | .ok line =>
      let (actions, raised) := logFrames frames
      (.log ⟨.info, line⟩ :: actions, raised)

/-- The three loops over the result of a chunk. -/
def logResult (result : ParseResult) : List Action × Option PyError :=
  match logFrames peer fields result.frames with
  | (actions, some e) => (actions, some e)
  | (actions, none) =>
    (actions ++
      result.heartbeats.map (fun heartbeat => .log ⟨.debug, heartbeatText peer heartbeat⟩) ++
      result.errors.map (fun error => .log ⟨.warning, errorText peer error⟩), none)

/-- The `finally` clause, and the exception that goes on after it. -/
def finish (stream : StreamBuffer) (raised : Option PyError) : List Action :=
  (if stream.pendingBytes ≠ 0 then [.log ⟨.warning, pendingText stream.pendingBytes⟩] else []) ++
  [.close, .log ⟨.info, closedText peer⟩] ++
  (raised.map Action.raise).toList

/-- One pass of the loop: what is done after a `recv`, and the buffer the next pass goes on
with, if there is one. -/
def handlePass (stream : StreamBuffer) : RecvResult → List Action × Option StreamBuffer
  | .reset =>
    (.log ⟨.warning, resetText peer⟩ :: finish peer stream none, none)
  | .raised e => (finish peer stream (some e), none)
  | .data chunk =>
    if chunk = [] then (finish peer stream none, none)
    else
      match stream.feed chunk with
      | .error e => (finish peer stream (some e), none)
      | .ok (stream, result) =>
        match logResult peer fields result with
        | (actions, some e) => (actions ++ finish peer stream (some e), none)
        | (actions, none) => (actions, some stream)

/-- The loop, on the results its `recv` calls come back with. Where these end, it waits. -/
def handleLoop : StreamBuffer → List RecvResult → List (Act RecvResult Action)
  | _, [] => []
  | stream, result :: incoming =>
    .take result ::
      match handlePass peer fields stream result with
      | (actions, none) => actions.map .put
      | (actions, some stream) => actions.map .put ++ handleLoop stream incoming

/-- `handle_client`, up to the `recv` that has not come back. -/
def handleClient (allowedReaders : Option (Finset ℤ)) (incoming : List RecvResult) :
    List (Act RecvResult Action) :=
  .put (.log ⟨.info, connectionText peer⟩) ::
    handleLoop peer fields { allowedReaders := allowedReaders } incoming

end HandleClient

/-! ## The thread of a connection -/

/-- Where a thread is in `handle_client`: in the loop with a buffer, or past it. -/
structure Handler where
  peer : PeerAddress
  stream : Option StreamBuffer

/-- A thread goes from one `recv` to the next. -/
def handlerRule (fields : List String) : Rule Handler RecvResult Action :=
  fun handler result =>
    handler.stream.map fun stream =>
      let (actions, next) := handlePass handler.peer fields stream result
      (⟨handler.peer, next⟩, actions)

/-- A thread as it is started. -/
def newHandler (allowedReaders : Option (Finset ℤ)) (peer : PeerAddress) : Process Handler Action :=
  ⟨⟨peer, some { allowedReaders := allowedReaders }⟩, [.log ⟨.info, connectionText peer⟩]⟩

theorem script_handlerRule (fields : List String) (peer : PeerAddress) (stream : StreamBuffer)
    (todo : List Action) (incoming : List RecvResult) :
    script (handlerRule fields) ⟨⟨peer, some stream⟩, todo⟩ incoming =
      todo.map .put ++ handleLoop peer fields stream incoming := by
  induction incoming generalizing stream todo with
  | nil => exact (List.append_nil _).symm
  | cons result incoming ih =>
    rw [script, handleLoop]
    simp only [handlerRule, Option.map_some]
    cases hpass : handlePass peer fields stream result with
    | mk actions next =>
      cases next with
      | some stream => simp only [ih]
      | none =>
        -- past the loop no more input is taken
        cases incoming with
        | nil => rfl
        | cons result incoming => simp [script, handlerRule]

/-- Alone, a thread does what `handle_client` does. -/
theorem script_newHandler (fields : List String) (allowedReaders : Option (Finset ℤ))
    (peer : PeerAddress) (incoming : List RecvResult) :
    script (handlerRule fields) (newHandler allowedReaders peer) incoming =
      handleClient peer fields allowedReaders incoming :=
  script_handlerRule fields peer _ _ incoming

/-! ## `start_server` -/

/-- What happens in the server. -/
inductive ServerAct
  /-- `accept` comes back and the thread of the connection is started. -/
  | accept (peer : PeerAddress)
  /-- A `KeyboardInterrupt` leaves the loop. -/
  | interrupt
  /-- Any other exception leaves it, and `start_server` with it. -/
  | fail (e : PyError)
  /-- The thread of the `k`-th connection goes on. -/
  | handler (k : ℕ) (act : Act RecvResult Action)
  deriving DecidableEq, Repr

/-- Whether the loop still accepts connections, and the threads, in the order of their
connections. After the loop the threads go on until the interpreter ends. -/
@[ext]
structure Server where
  accepting : Bool
  threads : List (Process Handler Action)

section StartServer

variable (fields : List String) (allowedReaders : Option (Finset ℤ))

inductive ServerStep : Server → ServerAct → Server → Prop
  | accept {threads : List (Process Handler Action)} {peer : PeerAddress} :
      ServerStep ⟨true, threads⟩ (.accept peer) ⟨true, threads ++ [newHandler allowedReaders peer]⟩
  | interrupt {threads : List (Process Handler Action)} :
      ServerStep ⟨true, threads⟩ .interrupt ⟨false, threads⟩
  | fail {threads : List (Process Handler Action)} {e : PyError} :
      ServerStep ⟨true, threads⟩ (.fail e) ⟨false, threads⟩
  | handler {accepting : Bool} {threads : List (Process Handler Action)} {k : ℕ}
      {act : Act RecvResult Action} {thread thread' : Process Handler Action} :
      threads[k]? = some thread → Step (handlerRule fields) thread act thread' →
      ServerStep ⟨accepting, threads⟩ (.handler k act) ⟨accepting, threads.set k thread'⟩

/-- The runs of a server that has begun to listen. -/
abbrev ServerRun : List ServerAct → Server → Prop :=
  Run (ServerStep fields allowedReaders) ⟨true, []⟩

end StartServer

namespace ServerAct

def peer? : ServerAct → Option PeerAddress
  | accept peer => some peer
  | _ => none

/-- The loop that accepts connections is left. -/
def stops : ServerAct → Bool
  | interrupt => true
  | fail _ => true
  | _ => false

def share? (k : ℕ) : ServerAct → Option (Act RecvResult Action)
  | handler j act => if j = k then some act else none
  | _ => none

def record? : ServerAct → Option Record
  | interrupt => some ⟨.info, "Shutting down server"⟩
  | handler _ (.put (.log record)) => some record
  | _ => none

/-- What happens, as the pool of the threads sees it. -/
def pool? (allowedReaders : Option (Finset ℤ)) :
    ServerAct → Option (PoolAct Handler RecvResult Action)
  | accept peer => some (.start (newHandler allowedReaders peer))
  | handler k act => some (.act k act)
  | _ => none

end ServerAct

/-- The connections accepted, in order. -/
def peers (trace : List ServerAct) : List PeerAddress := trace.filterMap ServerAct.peer?

/-- What the thread of the `k`-th connection does. -/
def connection (k : ℕ) (trace : List ServerAct) : List (Act RecvResult Action) :=
  trace.filterMap (ServerAct.share? k)

/-- No thread goes on before its connection is accepted, and once the loop is left it does
nothing more. -/
def InOrder : List ServerAct → Prop :=
  Along fun before e =>
    match e with
    | .handler k _ => k < (peers before).length
    | _ => ∀ e' ∈ before, e'.stops = false

/-- What `start_server` logs, with all of its threads. -/
def serverLog (host : String) (port : ℤ) (trace : List ServerAct) : List Record :=
  ⟨.info, s!"Server listening on {host}:{port}"⟩ :: trace.filterMap ServerAct.record?

/-! ## Runs of the server -/

section Runs

variable {fields : List String} {allowedReaders : Option (Finset ℤ)} {trace : List ServerAct}
  {server : Server}

/-- The trace of the pool of the threads. -/
def poolTrace (allowedReaders : Option (Finset ℤ)) (trace : List ServerAct) :
    List (PoolAct Handler RecvResult Action) :=
  trace.filterMap (ServerAct.pool? allowedReaders)

theorem started_poolTrace (allowedReaders : Option (Finset ℤ)) (trace : List ServerAct) :
    started (poolTrace allowedReaders trace) = (peers trace).map (newHandler allowedReaders) := by
  rw [started, poolTrace, peers, List.filterMap_filterMap, List.map_filterMap]
  refine List.filterMap_congr fun e _ => ?_
  cases e <;> rfl

theorem share_poolTrace (allowedReaders : Option (Finset ℤ)) (k : ℕ) (trace : List ServerAct) :
    share k (poolTrace allowedReaders trace) = connection k trace := by
  rw [share, poolTrace, connection, List.filterMap_filterMap]
  refine List.filterMap_congr fun e _ => ?_
  cases e <;> rfl

theorem poolTrace_concat (allowedReaders : Option (Finset ℤ)) (trace : List ServerAct)
    (e : ServerAct) : poolTrace allowedReaders (trace ++ [e]) =
      poolTrace allowedReaders trace ++ (e.pool? allowedReaders).toList := by
  rw [poolTrace, List.filterMap_append]
  cases e <;> rfl

theorem length_started_poolTrace (allowedReaders : Option (Finset ℤ)) (trace : List ServerAct) :
    (started (poolTrace allowedReaders trace)).length = (peers trace).length := by
  rw [started_poolTrace, List.length_map]

/-- The order of a server is that of its threads, and that of the loop that accepts. -/
theorem InOrder.startedFirst (h : InOrder trace) :
    StartedFirst (poolTrace allowedReaders trace) := by
  induction trace using List.reverseRecOn with
  | nil => exact along_nil _
  | append_singleton trace e ih =>
    obtain ⟨htrace, he⟩ := along_concat_iff.mp h
    rw [poolTrace_concat]
    cases e with
    | interrupt => exact (List.append_nil _).symm ▸ ih htrace
    | fail _ => exact (List.append_nil _).symm ▸ ih htrace
    | accept peer => exact along_concat_iff.mpr ⟨ih htrace, nofun⟩
    | handler k act =>
      refine along_concat_iff.mpr ⟨ih htrace, ?_⟩
      rintro _ _ ⟨⟩
      rw [length_started_poolTrace]
      exact he

/-- No step of `start_server` is left in a run. -/
def Accepting (trace : List ServerAct) : Prop := ∀ e ∈ trace, e.stops = false

theorem accepting_concat_iff {e : ServerAct} :
    Accepting (trace ++ [e]) ↔ Accepting trace ∧ e.stops = false := by
  rw [Accepting, List.forall_mem_append, List.forall_mem_singleton]
  rfl

/-- The server runs as the pool of its threads does, and accepts until something stops it. -/
theorem serverRun_iff_pool :
    ServerRun fields allowedReaders trace server ↔
      InOrder trace ∧ PoolRun (handlerRule fields) (poolTrace allowedReaders trace) server.threads ∧
        (server.accepting = true ↔ Accepting trace) := by
  induction trace using List.reverseRecOn generalizing server with
  | nil =>
    rw [ServerRun, run_nil_iff, Server.ext_iff]
    have hpool : PoolRun (handlerRule fields) (poolTrace allowedReaders []) server.threads ↔
        server.threads = [] := run_nil_iff
    have haccepting : (server.accepting = true ↔ Accepting []) ↔ server.accepting = true :=
      iff_true_right nofun
    rw [hpool, haccepting]
    exact ⟨fun h => ⟨along_nil _, h.2, h.1⟩, fun h => ⟨h.2.2, h.2.1⟩⟩
  | append_singleton trace e ih =>
    rw [ServerRun, run_concat_iff, InOrder, along_concat_iff, poolTrace_concat,
      accepting_concat_iff]
    constructor
    · rintro ⟨server₀, hrun, hstep⟩
      obtain ⟨horder, hpool, haccepting⟩ := ih.mp hrun
      cases hstep with
      | accept =>
        have hall : Accepting trace := haccepting.mp rfl
        exact ⟨⟨horder, hall⟩, hpool.snoc .start, iff_of_true rfl ⟨hall, rfl⟩⟩
      | interrupt =>
        refine ⟨⟨horder, haccepting.mp rfl⟩, (List.append_nil _).symm ▸ hpool, ?_⟩
        exact iff_of_false nofun fun h => absurd h.2 nofun
      | fail =>
        refine ⟨⟨horder, haccepting.mp rfl⟩, (List.append_nil _).symm ▸ hpool, ?_⟩
        exact iff_of_false nofun fun h => absurd h.2 nofun
      | handler hthread hact =>
        refine ⟨⟨horder, ?_⟩, hpool.snoc (.act hthread hact), ?_⟩
        · have hlength := PoolRun.length_eq hpool
          rw [length_started_poolTrace] at hlength
          rw [← hlength]
          exact (List.getElem?_eq_some_iff.mp hthread).1
        · exact haccepting.trans (and_iff_left rfl).symm
    · rintro ⟨⟨horder, he⟩, hpool, haccepting⟩
      obtain ⟨accepting, threads⟩ := server
      cases e with
      | accept peer =>
        obtain ⟨threads₀, hpool₀, hstep⟩ := run_concat_iff.mp hpool
        cases hstep
        obtain rfl : accepting = true := haccepting.mpr ⟨he, rfl⟩
        exact ⟨⟨true, threads₀⟩, ih.mpr ⟨horder, hpool₀, iff_of_true rfl he⟩, .accept⟩
      | interrupt =>
        obtain rfl : accepting = false :=
          Bool.eq_false_iff.mpr fun h => absurd (haccepting.mp h).2 nofun
        have hpool₀ := (List.append_nil _) ▸ hpool
        exact ⟨⟨true, threads⟩, ih.mpr ⟨horder, hpool₀, iff_of_true rfl he⟩, .interrupt⟩
      | fail error =>
        obtain rfl : accepting = false :=
          Bool.eq_false_iff.mpr fun h => absurd (haccepting.mp h).2 nofun
        have hpool₀ := (List.append_nil _) ▸ hpool
        exact ⟨⟨true, threads⟩, ih.mpr ⟨horder, hpool₀, iff_of_true rfl he⟩, .fail⟩
      | handler k act =>
        obtain ⟨threads₀, hpool₀, hstep⟩ := run_concat_iff.mp hpool
        cases hstep with
        | act hthread hact =>
          refine ⟨⟨accepting, threads₀⟩, ih.mpr ⟨horder, hpool₀, ?_⟩, .handler hthread hact⟩
          exact haccepting.trans (and_iff_left rfl)

/-- The runs of the server. Whatever its connections receive and however its threads are
scheduled, a trace is a run exactly when the threads go on after they are started, nothing is
accepted after the loop is left, and each thread has done what `handle_client` does alone on
what its own connection has received, up to some point. -/
theorem serverRun_iff (fields : List String) (allowedReaders : Option (Finset ℤ))
    (trace : List ServerAct) :
    (∃ server, ServerRun fields allowedReaders trace server) ↔
      InOrder trace ∧ ∀ k peer, (peers trace)[k]? = some peer →
        connection k trace <+:
          handleClient peer fields allowedReaders (inputs (connection k trace)) := by
  have hscript : ∀ k, (∀ init, (started (poolTrace allowedReaders trace))[k]? = some init →
      share k (poolTrace allowedReaders trace) <+: script (handlerRule fields) init
        (inputs (share k (poolTrace allowedReaders trace)))) ↔
      ∀ peer, (peers trace)[k]? = some peer → connection k trace <+:
        handleClient peer fields allowedReaders (inputs (connection k trace)) := by
    intro k
    simp only [started_poolTrace, share_poolTrace, List.getElem?_map, Option.map_eq_some_iff]
    constructor
    · intro h peer hpeer
      rw [← script_newHandler]
      exact h _ ⟨peer, hpeer, rfl⟩
    · rintro h _ ⟨peer, hpeer, rfl⟩
      rw [script_newHandler]
      exact h peer hpeer
  constructor
  · rintro ⟨server, hrun⟩
    obtain ⟨horder, hpool, _⟩ := serverRun_iff_pool.mp hrun
    exact ⟨horder, fun k => (hscript k).mp ((exists_poolRun_iff.mp ⟨_, hpool⟩).2 k)⟩
  · rintro ⟨horder, hconnections⟩
    obtain ⟨pool, hpool⟩ := exists_poolRun_iff.mpr
      ⟨horder.startedFirst, fun k => (hscript k).mpr (hconnections k)⟩
    by_cases haccepting : Accepting trace
    · exact ⟨⟨true, pool⟩, serverRun_iff_pool.mpr ⟨horder, hpool, iff_of_true rfl haccepting⟩⟩
    · exact ⟨⟨false, pool⟩, serverRun_iff_pool.mpr ⟨horder, hpool, iff_of_false nofun haccepting⟩⟩

/-- What a thread has done and has still to do is what `handle_client` does alone. -/
theorem handleClient_of_run (hrun : ServerRun fields allowedReaders trace server) {k : ℕ}
    {peer : PeerAddress} {thread : Process Handler Action} (hpeer : (peers trace)[k]? = some peer)
    (hthread : server.threads[k]? = some thread) :
    handleClient peer fields allowedReaders (inputs (connection k trace)) =
      connection k trace ++ thread.todo.map .put := by
  obtain ⟨_, hpool, _⟩ := serverRun_iff_pool.mp hrun
  have hinit : (started (poolTrace allowedReaders trace))[k]? =
      some (newHandler allowedReaders peer) := by
    rw [started_poolTrace, List.getElem?_map, hpeer]
    rfl
  have hscript := (PoolRun.share_run hpool hinit hthread).script_inputs
  rwa [share_poolTrace, script_newHandler] at hscript

theorem length_threads (hrun : ServerRun fields allowedReaders trace server) :
    server.threads.length = (peers trace).length := by
  obtain ⟨_, hpool, _⟩ := serverRun_iff_pool.mp hrun
  rw [PoolRun.length_eq hpool, length_started_poolTrace]

theorem connection_beginning (hrun : ServerRun fields allowedReaders trace server) {k : ℕ}
    {peer : PeerAddress} (hpeer : (peers trace)[k]? = some peer) :
    connection k trace <+:
      handleClient peer fields allowedReaders (inputs (connection k trace)) := by
  have hlt : k < server.threads.length :=
    length_threads hrun ▸ (List.getElem?_eq_some_iff.mp hpeer).1
  rw [handleClient_of_run hrun hpeer (List.getElem?_eq_getElem hlt)]
  exact List.prefix_append _ _

/-- Every thread waits at its `recv` or has ended. -/
def Server.Idle (server : Server) : Prop := ∀ thread ∈ server.threads, thread.todo = []

theorem connection_of_idle (hrun : ServerRun fields allowedReaders trace server)
    (hidle : server.Idle) {k : ℕ} {peer : PeerAddress} (hpeer : (peers trace)[k]? = some peer) :
    connection k trace = handleClient peer fields allowedReaders (inputs (connection k trace)) := by
  have hlt : k < server.threads.length :=
    length_threads hrun ▸ (List.getElem?_eq_some_iff.mp hpeer).1
  have hthread := List.getElem?_eq_getElem hlt
  rw [handleClient_of_run hrun hpeer hthread, hidle _ (List.getElem_mem hlt), List.map_nil,
    List.append_nil]

theorem connection_eq_nil (hrun : ServerRun fields allowedReaders trace server) {k : ℕ}
    (hk : (peers trace).length ≤ k) : connection k trace = [] := by
  have horder := (serverRun_iff_pool.mp hrun).1
  rw [← share_poolTrace allowedReaders]
  exact horder.startedFirst.share_eq_nil (by rwa [length_started_poolTrace])

/-! ## The log -/

/-- What `start_server` does itself. -/
def ServerAct.main? : ServerAct → Option ServerAct
  | handler _ _ => none
  | e => some e

def Action.record? : Action → Option Record
  | log record => some record
  | _ => none

theorem peers_main (trace : List ServerAct) :
    peers trace = peers (trace.filterMap ServerAct.main?) := by
  rw [peers, peers, List.filterMap_filterMap]
  refine List.filterMap_congr fun e _ => ?_
  cases e <;> rfl

/-- The log holds what `start_server` logs itself and what its threads log. -/
theorem records_perm (allowedReaders : Option (Finset ℤ)) (trace : List ServerAct) :
    (trace.filterMap ServerAct.record?).Perm
      ((trace.filterMap ServerAct.main?).filterMap ServerAct.record? ++
        (poolOutputs (poolTrace allowedReaders trace)).filterMap Action.record?) := by
  induction trace with
  | nil => exact .nil
  | cons e trace ih =>
    cases e with
    | accept peer => exact ih
    | fail error => exact ih
    | interrupt => exact ih.cons _
    | handler k act =>
      cases act with
      | take result => exact ih
      | put action =>
        cases action with
        | close => exact ih
        | raise error => exact ih
        | log record => exact (ih.cons record).trans List.perm_middle.symm

/-- The schedule of the threads does not show. Two runs in which the server accepts the same
connections and is stopped in the same way, and in which each connection receives the same, have
once all threads are idle done the same on every connection, and logged the same records, each
as often. -/
theorem serverLog_perm (host : String) (port : ℤ) {trace' : List ServerAct} {server' : Server}
    (hrun : ServerRun fields allowedReaders trace server) (hidle : server.Idle)
    (hrun' : ServerRun fields allowedReaders trace' server') (hidle' : server'.Idle)
    (hmain : trace.filterMap ServerAct.main? = trace'.filterMap ServerAct.main?)
    (hinputs : ∀ k, inputs (connection k trace) = inputs (connection k trace')) :
    (∀ k, connection k trace = connection k trace') ∧
      (serverLog host port trace).Perm (serverLog host port trace') := by
  have hpeers : peers trace = peers trace' := by
    rw [peers_main, hmain, ← peers_main]
  have hconnection : ∀ k, connection k trace = connection k trace' := by
    intro k
    rcases Nat.lt_or_ge k (peers trace).length with hlt | hge
    · obtain ⟨peer, hpeer⟩ : ∃ peer, (peers trace)[k]? = some peer :=
        ⟨_, List.getElem?_eq_getElem hlt⟩
      rw [connection_of_idle hrun hidle hpeer, hinputs k]
      rw [hpeers] at hpeer
      exact (connection_of_idle hrun' hidle' hpeer).symm
    · rw [connection_eq_nil hrun hge, connection_eq_nil hrun' (hpeers ▸ hge)]
  refine ⟨hconnection, ?_⟩
  have houtputs : ∀ {trace : List ServerAct} {server : Server},
      ServerRun fields allowedReaders trace server →
      (poolOutputs (poolTrace allowedReaders trace)).Perm
        ((List.range (peers trace).length).flatMap fun k => outputs (connection k trace)) := by
    intro trace server hrun
    have hfirst : StartedFirst (poolTrace allowedReaders trace) :=
      (serverRun_iff_pool.mp hrun).1.startedFirst
    have hperm := hfirst.poolOutputs_perm (length_started_poolTrace allowedReaders trace).le
    simpa only [share_poolTrace] using hperm
  have hall : (poolOutputs (poolTrace allowedReaders trace)).Perm
      (poolOutputs (poolTrace allowedReaders trace')) := by
    refine (houtputs hrun).trans (.trans (.of_eq ?_) (houtputs hrun').symm)
    simp only [hpeers, hconnection]
  refine List.Perm.cons _ ?_
  refine (records_perm allowedReaders trace).trans
    (.trans ?_ (records_perm allowedReaders trace').symm)
  rw [hmain]
  exact (hall.filterMap _).append_left _

/-- Two connections, whose first records come in either order. -/
theorem serverLog_perm_two :
    let p : PeerAddress := ⟨⟨10, 0, 0, 1⟩, 4001⟩
    let q : PeerAddress := ⟨⟨10, 0, 0, 2⟩, 4002⟩
    let logs (k : ℕ) (peer : PeerAddress) : ServerAct :=
      .handler k (.put (.log ⟨.info, connectionText peer⟩))
    (serverLog "0.0.0.0" 2077 [.accept p, .accept q, logs 0 p, logs 1 q]).Perm
      (serverLog "0.0.0.0" 2077 [.accept p, .accept q, logs 1 q, logs 0 p]) := by
  intro p q logs
  have hfirst : ServerRun ["tag"] none [.accept p, .accept q]
      ⟨true, [newHandler none p, newHandler none q]⟩ :=
    (Run.nil.snoc .accept).snoc .accept
  have hrun : ServerRun ["tag"] none [.accept p, .accept q, logs 0 p, logs 1 q]
      ⟨true, [⟨⟨p, some {}⟩, []⟩, ⟨⟨q, some {}⟩, []⟩]⟩ :=
    (hfirst.snoc (.handler (k := 0) rfl .put)).snoc (.handler (k := 1) rfl .put)
  have hrun' : ServerRun ["tag"] none [.accept p, .accept q, logs 1 q, logs 0 p]
      ⟨true, [⟨⟨p, some {}⟩, []⟩, ⟨⟨q, some {}⟩, []⟩]⟩ :=
    (hfirst.snoc (.handler (k := 1) rfl .put)).snoc (.handler (k := 0) rfl .put)
  have hidle : (⟨true, [⟨⟨p, some {}⟩, []⟩, ⟨⟨q, some {}⟩, []⟩]⟩ : Server).Idle := by
    unfold Server.Idle
    simp
  refine (serverLog_perm "0.0.0.0" 2077 hrun hidle hrun' hidle rfl fun k => ?_).2
  rcases k with _ | _ | k <;> rfl

end Runs

end UhfReader18
