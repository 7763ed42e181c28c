import UhfReader18.Server

/-!
# What a connection logs

What `handle_client` logs depends on how the bytes arrive only in the order of records of
different levels: for each chunk the frames come first, then the heartbeats, then the errors.
Level by level, it is decided by the bytes alone.

Results:
1. `handleClient_logs`: what is logged on each level, and how a connection ends.
2. `mem_raise_iff`: when a thread ends with an exception.
3. `connection_items`: what the log of a running server tells about the traffic of its
   readers.
-/

namespace UhfReader18

open Interleaving

/-! ## Records of one level -/

def Action.text? (level : Level) : Action → Option String
  | log record => if record.level = level then some record.text else none
  | _ => none

/-- The texts logged on one level, in order. -/
def logged (level : Level) (actions : List Action) : List String :=
  actions.filterMap (Action.text? level)

@[simp]
theorem logged_nil (level : Level) : logged level [] = [] := rfl

@[simp]
theorem logged_append (level : Level) (actions actions' : List Action) :
    logged level (actions ++ actions') = logged level actions ++ logged level actions' :=
  List.filterMap_append

theorem logged_map {α : Type} (level level' : Level) (text : α → String) (items : List α) :
    logged level (items.map fun item => .log ⟨level', text item⟩) =
      if level' = level then items.map text else [] := by
  rw [logged, List.filterMap_map]
  by_cases h : level' = level
  · have htext : (Action.text? level ∘ fun item => .log ⟨level', text item⟩) = some ∘ text :=
      funext fun _ => if_pos h
    rw [if_pos h, htext, List.filterMap_eq_map]
  · have htext : (Action.text? level ∘ fun item => .log ⟨level', text item⟩) = fun _ => none :=
      funext fun _ => if_neg h
    rw [if_neg h, htext]
    exact List.filterMap_eq_nil_iff.mpr fun _ _ => rfl

section Connection

variable (peer : PeerAddress) (fields : List String) {allowedReaders : Option (Finset ℤ)}

/-- The actions log the given result, each kind of message in its order, and do nothing else. -/
structure Reports (result : ParseResult) (actions : List Action) : Prop where
  lines : logged .info actions = result.frames.map (lineText peer fields)
  heartbeats : logged .debug actions = result.heartbeats.map (heartbeatText peer)
  errors : logged .warning actions = result.errors.map (errorText peer)
  quiet : ∀ action ∈ actions, ∃ record, action = .log record

variable {peer fields}

theorem Reports.nil : Reports peer fields {} [] :=
  ⟨rfl, rfl, rfl, nofun⟩

theorem Reports.append {result result' : ParseResult} {actions actions' : List Action}
    (h : Reports peer fields result actions) (h' : Reports peer fields result' actions') :
    Reports peer fields (result ++ result') (actions ++ actions') := by
  constructor
  · rw [logged_append, h.lines, h'.lines, ParseResult.frames_append, List.map_append]
  · rw [logged_append, h.heartbeats, h'.heartbeats, ParseResult.heartbeats_append, List.map_append]
  · rw [logged_append, h.errors, h'.errors, ParseResult.errors_append, List.map_append]
  · exact List.forall_mem_append.mpr ⟨h.quiet, h'.quiet⟩

theorem logFrames_eq {frames : List RfidResponse} (h : unknownField? fields = none ∨ frames = []) :
    logFrames peer fields frames =
      (frames.map fun frame => .log ⟨.info, lineText peer fields frame⟩, none) := by
  induction frames with
  | nil => rfl
  | cons frame frames ih =>
    have hknown : unknownField? fields = none := h.resolve_right (List.cons_ne_nil _ _)
    rw [logFrames, reportLine_eq, hknown]
    simp only [ih (.inl hknown), List.map_cons]

/-- A chunk is reported, where its frames can be. -/
theorem logResult_eq (peer : PeerAddress) {result : ParseResult}
    (h : unknownField? fields = none ∨ result.frames = []) :
    ∃ actions, logResult peer fields result = (actions, none) ∧
      Reports peer fields result actions := by
  refine ⟨_, by rw [logResult, logFrames_eq h], ?_, ?_, ?_, ?_⟩
  · simp [logged_map]
  · simp [logged_map]
  · simp [logged_map]
  · simp only [List.forall_mem_append, List.forall_mem_map]
    exact ⟨⟨fun _ _ => ⟨_, rfl⟩, fun _ _ => ⟨_, rfl⟩⟩, fun _ _ => ⟨_, rfl⟩⟩

/-- A chunk whose frames can be written is reported, and the loop goes on. -/
theorem handleLoop_reports (peer : PeerAddress) (fed : Bytes) {chunk : Bytes} (hchunk : chunk ≠ [])
    (h : unknownField? fields = none ∨
      (parsed allowedReaders (leftover allowedReaders fed ++ chunk)).frames = [])
    (incoming : List RecvResult) :
    ∃ actions, Reports peer fields (parsed allowedReaders (leftover allowedReaders fed ++ chunk))
        actions ∧
      handleLoop peer fields ⟨leftover allowedReaders fed, allowedReaders⟩
          (.data chunk :: incoming) =
        .take (.data chunk) :: (actions.map .put ++ handleLoop peer fields
          ⟨leftover allowedReaders (fed ++ chunk), allowedReaders⟩ incoming) := by
  obtain ⟨actions, hresult, hreports⟩ := logResult_eq peer h
  refine ⟨actions, hreports, ?_⟩
  rw [handleLoop]
  simp only [handlePass, if_neg hchunk, StreamBuffer.feed_eq, hresult, ← leftover_append]

theorem frames_cons (allowedReaders : Option (Finset ℤ)) (fed chunk : Bytes)
    (chunks : List Bytes) :
    (parsed allowedReaders (leftover allowedReaders fed ++ (chunk :: chunks).flatten)).frames =
      (parsed allowedReaders (leftover allowedReaders fed ++ chunk)).frames ++
        (parsed allowedReaders
          (leftover allowedReaders (fed ++ chunk) ++ chunks.flatten)).frames := by
  rw [List.flatten_cons, ← List.append_assoc, parsed_append, ← leftover_append,
    ParseResult.frames_append]

/-- What the loop does with data, and where it goes on. -/
theorem handleLoop_data (peer : PeerAddress) (allowedReaders : Option (Finset ℤ)) (fed : Bytes)
    {chunks : List Bytes} (hchunks : ∀ chunk ∈ chunks, chunk ≠ [])
    (h : unknownField? fields = none ∨
      (parsed allowedReaders (leftover allowedReaders fed ++ chunks.flatten)).frames = [])
    (more : List RecvResult) :
    ∃ acts,
      handleLoop peer fields ⟨leftover allowedReaders fed, allowedReaders⟩
          (chunks.map .data ++ more) =
        acts ++ handleLoop peer fields
          ⟨leftover allowedReaders (fed ++ chunks.flatten), allowedReaders⟩ more ∧
      inputs acts = chunks.map .data ∧
      Reports peer fields (parsed allowedReaders (leftover allowedReaders fed ++ chunks.flatten))
        (outputs acts) := by
  induction chunks generalizing fed with
  | nil =>
    refine ⟨[], ?_, rfl, ?_⟩
    · simp
    · rw [List.flatten_nil, List.append_nil, parsed_leftover]
      exact Reports.nil
  | cons chunk chunks ih =>
    rw [List.forall_mem_cons] at hchunks
    rw [frames_cons, List.append_eq_nil_iff] at h
    obtain ⟨actions, hreports, hpass⟩ :=
      handleLoop_reports peer fed hchunks.1 (h.imp_right And.left) (chunks.map .data ++ more)
    obtain ⟨acts, hloop, hinputs, hacts⟩ := ih (fed ++ chunk) hchunks.2 (h.imp_right And.right)
    refine ⟨.take (.data chunk) :: (actions.map .put ++ acts), ?_, ?_, ?_⟩
    · rw [List.map_cons, List.cons_append, hpass, hloop, List.cons_append, List.append_assoc,
        List.append_assoc, List.flatten_cons]
    · rw [inputs_take_cons, inputs_append, inputs_map_put, List.nil_append, hinputs, List.map_cons]
    · rw [outputs_take_cons, outputs_append, outputs_map_put, List.flatten_cons,
        ← List.append_assoc, parsed_append, ← leftover_append]
      exact hreports.append hacts

/-- The loop ends with this result of `recv`. -/
def RecvResult.ends : RecvResult → Bool
  | .data chunk => chunk.isEmpty
  | .reset => true
  | .raised _ => true

theorem RecvResult.ends_or_data (result : RecvResult) :
    result.ends = true ∨ ∃ chunk, result = .data chunk ∧ chunk ≠ [] := by
  cases result with
  | data chunk =>
    by_cases hchunk : chunk = []
    · exact .inl (List.isEmpty_iff.mpr hchunk)
    · exact .inr ⟨chunk, rfl, hchunk⟩
  | reset => exact .inl rfl
  | raised e => exact .inl rfl

/-- The exception that leaves the loop. -/
def RecvResult.raised? : RecvResult → Option PyError
  | .raised e => some e
  | _ => none

/-- What is done after the loop. -/
def endActions (peer : PeerAddress) (stream : StreamBuffer) (last : RecvResult) : List Action :=
  (if last = RecvResult.reset then [.log ⟨.warning, resetText peer⟩] else []) ++
    finish peer stream last.raised?

/-- How the loop ends. -/
theorem handleLoop_last (stream : StreamBuffer) {last : RecvResult} (hlast : last.ends = true)
    (more : List RecvResult) :
    handleLoop peer fields stream (last :: more) =
      .take last :: (endActions peer stream last).map .put := by
  cases last with
  | data chunk =>
    obtain rfl : chunk = [] := List.isEmpty_iff.mp hlast
    rfl
  | reset => rfl
  | raised e => rfl

/-- The records after the loop, and the end of the connection. -/
theorem endActions_eq (peer : PeerAddress) (stream : StreamBuffer) (last : RecvResult) :
    endActions peer stream last =
      ((if last = RecvResult.reset then [resetText peer] else []) ++
          (if stream.buffer = [] then [] else [pendingText stream.buffer.length])).map
        (fun text => .log ⟨.warning, text⟩) ++
      [.close, .log ⟨.info, closedText peer⟩] ++ (last.raised?.map Action.raise).toList := by
  have hpending : (if stream.pendingBytes ≠ 0 then
      [Action.log ⟨.warning, pendingText stream.pendingBytes⟩] else []) =
      (if stream.buffer = [] then [] else [pendingText stream.buffer.length]).map
        fun text => .log ⟨.warning, text⟩ := by
    unfold StreamBuffer.pendingBytes
    by_cases h : stream.buffer = []
    · rw [if_pos h, h]
      rfl
    · rw [if_neg h, if_pos (List.length_pos_iff.mpr h).ne']
      rfl
  rw [endActions, finish, hpending, List.map_append, List.append_assoc, List.append_assoc,
    List.append_assoc]
  congr 1
  split <;> rfl

theorem logged_endActions (level : Level) (peer : PeerAddress) (stream : StreamBuffer)
    (last : RecvResult) :
    logged level (endActions peer stream last) =
      match level with
      | .info => [closedText peer]
      | .debug => []
      | .warning => (if last = RecvResult.reset then [resetText peer] else []) ++
          (if stream.buffer = [] then [] else [pendingText stream.buffer.length]) := by
  have hraise : logged level (last.raised?.map Action.raise).toList = [] := by
    cases last <;> rfl
  rw [endActions_eq, logged_append, logged_append, logged_map, hraise, List.append_nil]
  cases level with
  | debug => rfl
  | info => rfl
  | warning => exact (List.append_nil _).trans (List.map_id' _)

/-- What is done with data, and where the loop goes on. -/
theorem handleClient_data {fields : List String} (hfields : ∀ key ∈ fields, key ∈ availableFields)
    (peer : PeerAddress) (allowedReaders : Option (Finset ℤ)) {chunks : List Bytes}
    (hchunks : ∀ chunk ∈ chunks, chunk ≠ []) (more : List RecvResult) :
    ∃ loop,
      handleClient peer fields allowedReaders (chunks.map .data ++ more) =
        .put (.log ⟨.info, connectionText peer⟩) :: (loop ++ handleLoop peer fields
          ⟨leftover allowedReaders chunks.flatten, allowedReaders⟩ more) ∧
      inputs loop = chunks.map .data ∧
      Reports peer fields (parsed allowedReaders chunks.flatten) (outputs loop) := by
  obtain ⟨loop, hloop, hinputs, hreports⟩ := handleLoop_data peer allowedReaders [] hchunks
    (.inl (unknownField?_eq_none_iff.mpr hfields)) more
  rw [leftover_nil, List.nil_append] at hloop hreports
  exact ⟨loop, congrArg _ hloop, hinputs, hreports⟩

theorem logged_cons (level level' : Level) (text : String) (actions : List Action) :
    logged level (.log ⟨level', text⟩ :: actions) =
      (if level' = level then [text] else []) ++ logged level actions := by
  rw [← List.singleton_append, logged_append]
  exact congrArg (· ++ _) (logged_map level level' id [text])

/-- The results begin with the chunks, none of which ends the loop. -/
def Receives (incoming : List RecvResult) (chunks : List Bytes) (more : List RecvResult) : Prop :=
  incoming = chunks.map .data ++ more ∧ ∀ chunk ∈ chunks, chunk ≠ []

theorem receives_nil_iff {chunks : List Bytes} {more : List RecvResult} :
    Receives [] chunks more ↔ chunks = [] ∧ more = [] := by
  constructor
  · rintro ⟨h, _⟩
    obtain ⟨hchunks, hmore⟩ := List.append_eq_nil_iff.mp h.symm
    exact ⟨List.map_eq_nil_iff.mp hchunks, hmore⟩
  · rintro ⟨rfl, rfl⟩
    exact ⟨rfl, nofun⟩

theorem receives_end_iff {last : RecvResult} (hlast : last.ends = true)
    {incoming more : List RecvResult} {chunks : List Bytes} :
    Receives (last :: incoming) chunks more ↔ chunks = [] ∧ more = last :: incoming := by
  constructor
  · rintro ⟨h, hchunks⟩
    cases chunks with
    | nil => exact ⟨rfl, h.symm⟩
    | cons chunk chunks =>
      obtain ⟨rfl, _⟩ := List.cons.inj h
      exact absurd (List.isEmpty_iff.mp hlast) (hchunks chunk List.mem_cons_self)
  · rintro ⟨rfl, rfl⟩
    exact ⟨rfl, nofun⟩

theorem receives_data_iff {chunk : Bytes} (hchunk : chunk ≠ []) {incoming more : List RecvResult}
    {chunks : List Bytes} :
    Receives (.data chunk :: incoming) chunks more ↔
      chunks = [] ∧ more = .data chunk :: incoming ∨
        ∃ rest, chunks = chunk :: rest ∧ Receives incoming rest more := by
  constructor
  · rintro ⟨h, hchunks⟩
    cases chunks with
    | nil => exact .inl ⟨rfl, h.symm⟩
    | cons first rest =>
      obtain ⟨hfirst, hrest⟩ := List.cons.inj h
      cases hfirst
      exact .inr ⟨rest, rfl, hrest, (List.forall_mem_cons.mp hchunks).2⟩
  · rintro (⟨rfl, rfl⟩ | ⟨rest, rfl, rfl, hrest⟩)
    · exact ⟨rfl, nofun⟩
    · exact ⟨rfl, List.forall_mem_cons.mpr ⟨hchunk, hrest⟩⟩

theorem logFrames_logs (peer : PeerAddress) (fields : List String) (frames : List RfidResponse) :
    ∃ records : List Record, (logFrames peer fields frames).1 = records.map .log := by
  induction frames with
  | nil => exact ⟨[], rfl⟩
  | cons frame frames ih =>
    obtain ⟨records, hrecords⟩ := ih
    rw [logFrames]
    cases reportLine peer fields frame with
    | error e => exact ⟨[], rfl⟩
    | ok line => exact ⟨⟨.info, line⟩ :: records, congrArg _ hrecords⟩

theorem logResult_logs (peer : PeerAddress) (fields : List String) (result : ParseResult) :
    ∃ records : List Record, (logResult peer fields result).1 = records.map .log := by
  obtain ⟨records, hrecords⟩ := logFrames_logs peer fields result.frames
  rw [logResult]
  cases hlines : logFrames peer fields result.frames with
  | mk actions raised =>
    rw [hlines] at hrecords
    cases raised with
    | some e => exact ⟨records, hrecords⟩
    | none =>
      refine ⟨records ++
        result.heartbeats.map (fun heartbeat => ⟨.debug, heartbeatText peer heartbeat⟩) ++
        result.errors.map (fun error => ⟨.warning, errorText peer error⟩), ?_⟩
      simp only at hrecords
      simp only [hrecords, List.map_append, List.map_map]
      rfl

/-- The last things a thread does. -/
def lastActions (peer : PeerAddress) (raised : Option PyError) : List Action :=
  [.close, .log ⟨.info, closedText peer⟩] ++ (raised.map Action.raise).toList

theorem finish_eq (peer : PeerAddress) (stream : StreamBuffer) (raised : Option PyError) :
    ∃ records : List Record,
      finish peer stream raised = records.map .log ++ lastActions peer raised := by
  rw [finish, lastActions]
  split
  · exact ⟨[⟨.warning, pendingText stream.pendingBytes⟩], rfl⟩
  · exact ⟨[], rfl⟩

/-- A pass logs and goes on, or logs and ends the connection. -/
theorem handlePass_cases (peer : PeerAddress) (fields : List String) (stream : StreamBuffer)
    (result : RecvResult) :
    (∃ (records : List Record) (stream' : StreamBuffer),
      handlePass peer fields stream result = (records.map .log, some stream')) ∨
    (∃ (records : List Record) (raised : Option PyError),
      handlePass peer fields stream result =
        (records.map .log ++ lastActions peer raised, none)) := by
  have hfinish : ∀ (before : List Record) (stream : StreamBuffer) (raised : Option PyError),
      ∃ records : List Record,
        before.map .log ++ finish peer stream raised =
          records.map .log ++ lastActions peer raised := by
    intro before stream raised
    obtain ⟨records, hrecords⟩ := finish_eq peer stream raised
    exact ⟨before ++ records, by rw [hrecords, List.map_append, List.append_assoc]⟩
  cases result with
  | reset =>
    obtain ⟨records, hrecords⟩ := hfinish [⟨.warning, resetText peer⟩] stream none
    exact .inr ⟨records, none, congrArg (·, none) hrecords⟩
  | raised e =>
    obtain ⟨records, hrecords⟩ := hfinish [] stream (some e)
    exact .inr ⟨records, some e, congrArg (·, none) hrecords⟩
  | data chunk =>
    by_cases hchunk : chunk = []
    · obtain ⟨records, hrecords⟩ := hfinish [] stream none
      rw [handlePass, if_pos hchunk]
      exact .inr ⟨records, none, congrArg (·, none) hrecords⟩
    · simp only [handlePass, if_neg hchunk, StreamBuffer.feed_eq]
      obtain ⟨before, hbefore⟩ := logResult_logs peer fields
        (parsed stream.allowedReaders (stream.buffer ++ chunk))
      cases hlog : logResult peer fields
          (parsed stream.allowedReaders (stream.buffer ++ chunk)) with
      | mk actions raised =>
        rw [hlog] at hbefore
        simp only at hbefore
        cases raised with
        | none => exact .inl ⟨before, _, congrArg (·, some _) hbefore⟩
        | some e =>
          obtain ⟨records, hrecords⟩ := hfinish before
            { stream with buffer := leftover stream.allowedReaders (stream.buffer ++ chunk) }
            (some e)
          refine .inr ⟨records, some e, ?_⟩
          rw [← hrecords, ← hbefore]

theorem put_close_not_mem (records : List Record) :
    Act.put Action.close ∉
      (records.map Action.log).map (Act.put : Action → Act RecvResult Action) := by
  simp

/-- The loop of a connection closes its socket at the very end, if it does. -/
theorem handleLoop_shape (peer : PeerAddress) (fields : List String) (stream : StreamBuffer)
    (incoming : List RecvResult) :
    ∃ acts tail, handleLoop peer fields stream incoming = acts ++ tail ∧
      Act.put Action.close ∉ acts ∧
        (tail = [] ∨ ∃ raised, tail = (lastActions peer raised).map .put) := by
  induction incoming generalizing stream with
  | nil => exact ⟨[], [], rfl, List.not_mem_nil, .inl rfl⟩
  | cons result incoming ih =>
    rw [handleLoop]
    rcases handlePass_cases peer fields stream result with
      ⟨records, stream', hpass⟩ | ⟨records, raised, hpass⟩
    · obtain ⟨acts, tail, hloop, hacts, htail⟩ := ih stream'
      refine ⟨.take result :: ((records.map .log).map .put ++ acts), tail, ?_, ?_, htail⟩
      · simp only [hpass, hloop, List.cons_append, List.append_assoc]
      · rw [List.mem_cons, List.mem_append]
        rintro (h | h | h)
        · cases h
        · exact put_close_not_mem records h
        · exact hacts h
    · refine ⟨.take result :: (records.map .log).map .put,
        (lastActions peer raised).map .put, ?_, ?_, .inr ⟨raised, rfl⟩⟩
      · simp only [hpass, List.map_append, List.cons_append]
      · rw [List.mem_cons]
        rintro (h | h)
        · cases h
        · exact put_close_not_mem records h

/-- In every run a thread closes its socket at most once. It does nothing with its connection
after that: what is left is the record that says so, and an exception that goes on. -/
theorem connection_close {fields : List String} {allowedReaders : Option (Finset ℤ)}
    {trace : List ServerAct} {server : Server}
    (hrun : ServerRun fields allowedReaders trace server) {k : ℕ} {peer : PeerAddress}
    (hpeer : (peers trace)[k]? = some peer) {before after : List (Act RecvResult Action)}
    (hclose : connection k trace = before ++ .put .close :: after) :
    Act.put Action.close ∉ before ∧ ∃ raised : Option PyError,
      after <+: .put (.log ⟨.info, closedText peer⟩) ::
        (raised.map fun e => .put (.raise e)).toList := by
  have hall := connection_beginning hrun hpeer
  obtain ⟨acts, tail, hloop, hacts, htail⟩ := handleLoop_shape peer fields
    { allowedReaders := allowedReaders } (inputs (connection k trace))
  obtain ⟨rest, hrest⟩ := hall
  rw [handleClient, hloop, hclose, List.append_assoc, List.cons_append, ← List.cons_append]
    at hrest
  have hfirst : Act.put Action.close ∉ .put (.log ⟨.info, connectionText peer⟩) :: acts :=
    fun h => (List.mem_cons.mp h).elim nofun hacts
  rcases htail with rfl | ⟨raised, rfl⟩
  · rw [List.append_nil] at hrest
    exact absurd (hrest ▸ List.mem_append_right _ List.mem_cons_self) hfirst
  · have hlast : Act.put Action.close ∉ (.put (.log ⟨.info, closedText peer⟩) ::
        (raised.map fun e => .put (.raise e)).toList : List (Act RecvResult Action)) := by
      cases raised <;> simp
    have hclosing : (lastActions peer raised).map Act.put = .put .close ::
        .put (.log ⟨.info, closedText peer⟩) ::
          (raised.map fun e => (.put (.raise e) : Act RecvResult Action)).toList := by
      cases raised <;> rfl
    rw [hclosing] at hrest
    obtain ⟨rfl, _, hafter⟩ := (List.append_cons_inj_of_notMem hfirst hlast).mp hrest.symm
    exact ⟨hfirst, raised, rest, hafter.symm⟩

/-- A connection that is closed by the reader. -/
theorem connection_close_eof :
    let peer : PeerAddress := ⟨⟨10, 0, 0, 1⟩, 4001⟩
    let trace : List ServerAct :=
      [.accept peer, .handler 0 (.put (.log ⟨.info, connectionText peer⟩)),
        .handler 0 (.take (.data [])), .handler 0 (.put .close),
        .handler 0 (.put (.log ⟨.info, closedText peer⟩))]
    (∃ server, ServerRun ["tag"] none trace server) ∧
      ∃ before after, connection 0 trace = before ++ .put .close :: after ∧
        Act.put Action.close ∉ before ∧ ∃ raised : Option PyError,
          after <+: .put (.log ⟨.info, closedText peer⟩) ::
            (raised.map fun e => .put (.raise e)).toList := by
  intro peer trace
  have hrun : ServerRun ["tag"] none trace ⟨true, [⟨⟨peer, none⟩, []⟩]⟩ :=
    ((((Run.nil.snoc .accept).snoc (.handler rfl .put)).snoc (.handler rfl (.take rfl))).snoc
      (.handler rfl .put)).snoc (.handler rfl .put)
  have hclose : connection 0 trace =
      [.put (.log ⟨.info, connectionText peer⟩), .take (.data [])] ++
        .put .close :: [.put (.log ⟨.info, closedText peer⟩)] := rfl
  exact ⟨⟨_, hrun⟩, _, _, hclose, connection_close hrun rfl hclose⟩

/-! ## The traffic of the readers -/

/-- The frames an allow-list lets through. -/
def letsThrough (allowedReaders : Option (Finset ℤ)) (frame : RfidResponse) : Bool :=
  match allowedReaders with
  | none => true
  | some readers => frame.readerAddress ∈ readers

def RecvResult.bytes : RecvResult → Bytes
  | .data chunk => chunk
  | _ => []

/-- The bytes a connection has received. -/
def receivedBytes (acts : List (Act RecvResult Action)) : Bytes :=
  (inputs acts).flatMap RecvResult.bytes

/-- The connection has been closed by the other end or broken. -/
def ended (acts : List (Act RecvResult Action)) : Bool :=
  (inputs acts).any RecvResult.ends

theorem frames_parsed (allowedReaders : Option (Finset ℤ)) (data : Bytes) :
    (parsed allowedReaders data).frames =
      (parsed none data).frames.filter (letsThrough allowedReaders) := by
  cases allowedReaders with
  | none => exact (List.filter_eq_self.mpr fun _ _ => rfl).symm
  | some readers => exact (filtered_parsed readers data).frames

theorem heartbeats_parsed (allowedReaders : Option (Finset ℤ)) (data : Bytes) :
    (parsed allowedReaders data).heartbeats = (parsed none data).heartbeats := by
  cases allowedReaders with
  | none => rfl
  | some readers => exact (filtered_parsed readers data).heartbeats

/-- What a connection may receive: chunks, and then an end. -/
theorem exists_receives (incoming : List RecvResult) :
    ∃ chunks more, Receives incoming chunks more ∧
      (more = [] ∨ ∃ last rest, more = last :: rest ∧ last.ends = true) := by
  induction incoming with
  | nil => exact ⟨[], [], receives_nil_iff.mpr ⟨rfl, rfl⟩, .inl rfl⟩
  | cons result incoming ih =>
    rcases result.ends_or_data with hends | ⟨chunk, rfl, hchunk⟩
    · exact ⟨[], _, (receives_end_iff hends).mpr ⟨rfl, rfl⟩, .inr ⟨result, incoming, rfl, hends⟩⟩
    · obtain ⟨chunks, more, hreceives, hmore⟩ := ih
      exact ⟨chunk :: chunks, more,
        (receives_data_iff hchunk).mpr (.inr ⟨chunks, rfl, hreceives⟩), hmore⟩

theorem flatMap_data (chunks : List Bytes) :
    (chunks.map RecvResult.data).flatMap RecvResult.bytes = chunks.flatten := by
  rw [List.flatMap_map]
  exact List.flatMap_id'

/-- What has been logged is decided by the bytes received, and by whether the connection has
ended. -/
theorem logged_of_whole {fields : List String} (hfields : ∀ key ∈ fields, key ∈ availableFields)
    {peer : PeerAddress} {allowedReaders : Option (Finset ℤ)} {acts : List (Act RecvResult Action)}
    (hwhole : acts = handleClient peer fields allowedReaders (inputs acts)) :
    logged .info (outputs acts) =
        connectionText peer ::
          (parsed allowedReaders (receivedBytes acts)).frames.map (lineText peer fields) ++
          (if ended acts then [closedText peer] else []) ∧
      logged .debug (outputs acts) =
        (parsed allowedReaders (receivedBytes acts)).heartbeats.map (heartbeatText peer) := by
  obtain ⟨chunks, more, ⟨hincoming, hchunks⟩, hmore⟩ := exists_receives (inputs acts)
  have hdata : (chunks.map RecvResult.data).any RecvResult.ends = false := by
    rw [List.any_map, List.any_eq_false]
    intro chunk hchunk hends
    exact hchunks chunk hchunk (List.isEmpty_iff.mp hends)
  obtain ⟨loop, hacts, hinputs, hreports⟩ :=
    handleClient_data hfields peer allowedReaders hchunks more
  rw [← hincoming, ← hwhole] at hacts
  rcases hmore with rfl | ⟨last, rest, rfl, hlast⟩
  · rw [handleLoop, List.append_nil] at hacts
    have hreceived : receivedBytes acts = chunks.flatten := by
      rw [receivedBytes, hacts, inputs_put_cons, hinputs, flatMap_data]
    have hended : ended acts = false := by
      rw [ended, hacts, inputs_put_cons, hinputs, hdata]
    rw [hreceived, hended, hacts, outputs_put_cons, logged_cons, logged_cons, hreports.lines,
      hreports.heartbeats]
    exact ⟨(List.append_nil _).symm, rfl⟩
  · rw [handleLoop_last _ hlast] at hacts
    have htaken : inputs acts = chunks.map .data ++ [last] := by
      rw [hacts, inputs_put_cons, inputs_append, inputs_take_cons, inputs_map_put, hinputs]
    have hlastBytes : last.bytes = [] := by
      cases last with
      | data chunk => exact List.isEmpty_iff.mp hlast
      | reset => rfl
      | raised e => rfl
    have hreceived : receivedBytes acts = chunks.flatten := by
      rw [receivedBytes, htaken, List.flatMap_append, flatMap_data, List.flatMap_singleton,
        hlastBytes, List.append_nil]
    have hended : ended acts = true := by
      rw [ended, htaken, List.any_append, List.any_cons, hlast, Bool.true_or, Bool.or_true]
    rw [hreceived, hended, hacts, outputs_put_cons, outputs_append, outputs_take_cons,
      outputs_map_put, logged_cons, logged_cons, logged_append, logged_append, hreports.lines,
      hreports.heartbeats, logged_endActions, logged_endActions]
    exact ⟨rfl, List.append_nil _⟩

/-- What the log of a running server tells about its readers. Let the server run with available
fields, any connections and any schedule of its threads, and let a thread have logged what it
can. If the bytes it has received are the beginning of what its reader sends, then it has logged
one line for each frame that has arrived whole, if its reader is let through, and one record for
each heartbeat that has, in their order, and nothing of any other connection. -/
theorem connection_items {fields : List String} (hfields : ∀ key ∈ fields, key ∈ availableFields)
    {allowedReaders : Option (Finset ℤ)} {trace : List ServerAct} {server : Server}
    (hrun : ServerRun fields allowedReaders trace server) {k : ℕ} {peer : PeerAddress}
    {thread : Process Handler Action} (hpeer : (peers trace)[k]? = some peer)
    (hthread : server.threads[k]? = some thread) (hidle : thread.todo = []) {items : List Item}
    (hsent : receivedBytes (connection k trace) <+: items.flatMap Item.bytes) :
    let arrived := completeItems items (receivedBytes (connection k trace)).length
    logged .info (outputs (connection k trace)) =
        connectionText peer ::
          ((arrived.filterMap Item.frame?).filter (letsThrough allowedReaders)).map
            (lineText peer fields) ++
          (if ended (connection k trace) then [closedText peer] else []) ∧
      logged .debug (outputs (connection k trace)) =
        (arrived.filterMap Item.heartbeat?).map (heartbeatText peer) := by
  intro arrived
  have hwhole := handleClient_of_run hrun hpeer hthread
  rw [hidle, List.map_nil, List.append_nil] at hwhole
  obtain ⟨hinfo, hdebug⟩ := logged_of_whole hfields hwhole.symm
  obtain ⟨part, hcut, _, hparsed, _⟩ := exists_item_cut hsent
  have hitems : parsed none (receivedBytes (connection k trace)) =
      .ofEvents (arrived.map Item.event) := by
    conv => lhs; rw [hcut, parsed_items, hparsed, ParseResult.append_empty]
  rw [hinfo, hdebug, frames_parsed, heartbeats_parsed, hitems, frames_items, heartbeats_items]
  exact ⟨rfl, rfl⟩

/-- A heartbeat that has arrived, and the first byte of another one. -/
theorem connection_items_heartbeat :
    let peer : PeerAddress := ⟨⟨10, 0, 0, 1⟩, 4001⟩
    let trace : List ServerAct :=
      [.accept peer, .handler 0 (.put (.log ⟨.info, connectionText peer⟩)),
        .handler 0 (.take (.data [0x56, 0, 0, 0, 0, 0, 0x56])),
        .handler 0 (.put (.log ⟨.debug, heartbeatText peer ⟨buildHeartbeat⟩⟩))]
    (∃ server, ServerRun ["tag"] none trace server) ∧
      logged .debug (outputs (connection 0 trace)) =
        ([Item.heartbeat].filterMap Item.heartbeat?).map (heartbeatText peer) := by
  intro peer trace
  have hrun : ServerRun ["tag"] none trace ⟨true, [⟨⟨peer, some { buffer := [0x56] }⟩, []⟩]⟩ :=
    (((Run.nil.snoc .accept).snoc (.handler rfl .put)).snoc (.handler rfl (.take rfl))).snoc
      (.handler rfl .put)
  have hsent : receivedBytes (connection 0 trace) <+:
      [Item.heartbeat, .heartbeat].flatMap Item.bytes := ⟨[0, 0, 0, 0, 0], rfl⟩
  exact ⟨⟨_, hrun⟩, (connection_items (by decide) hrun (k := 0) rfl rfl rfl hsent).2⟩

end Connection

end UhfReader18
