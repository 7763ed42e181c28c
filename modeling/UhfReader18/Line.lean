import UhfReader18.Setters

/-!
# Several readers on one line

Readers with different addresses share a line (RS485). Every reader sees every command, and
acts on and answers those to its address and those to all. Setters are called for one address
at a time, which may be changed on the way.

Results:
1. `UpToDate.run_line`: a command to one address has at most one answer.
2. `UpToDate.perform_line`: a setter call changes the reader it is for, and no other.
3. `line_apart`: after any run of setter calls every reader is as if it had been alone, and
   the getters find it at its address.
-/

namespace UhfReader18

/-! ## The line -/

/-- A connection to a line of readers. -/
def lineBehaviour (delivery : Delivery) : Behaviour (List Reader) where
  react raw readers :=
    (readers.map fun reader => (reader.handle raw).1,
      (readers.filterMap fun reader => (reader.handle raw).2).flatMap fun reply =>
        (delivery.cut reply.raw).map .ok)
  silence := some timedOut

/-- The call is accepted and is for the reader with these settings. -/
def SetterCall.IsFor (call : SetterCall) (s : Settings) : Prop :=
  call.data.isOk ∧ call.adr.int? = some s.address

instance (call : SetterCall) (s : Settings) : Decidable (call.IsFor s) :=
  inferInstanceAs (Decidable (_ ∧ _))

/-- The settings of a reader after a call. -/
def SetterCall.on (call : SetterCall) (s : Settings) : Settings :=
  if call.IsFor s then call.apply s else s

/-- The calls that return, of calls one after another. -/
def returning : List SetterCall → List Settings → List SetterCall
  | [], _ => []
  | call :: calls, line =>
    if ∃ s ∈ line, call.IsFor s then call :: returning calls (line.map call.on)
    else returning calls (line.map call.on)

/-- No call gives a reader the address of another one. -/
def StayApart : List SetterCall → List Settings → Prop
  | [], line => (line.map Settings.address).Nodup
  | call :: calls, line => (line.map Settings.address).Nodup ∧ StayApart calls (line.map call.on)

theorem StayApart.nodup {calls : List SetterCall} {line : List Settings}
    (h : StayApart calls line) : (line.map Settings.address).Nodup := by
  cases calls with
  | nil => exact h
  | cons call calls => exact h.1

/-! ## One command -/

variable {delivery : Delivery}

/-- Where only readers of one address answer, at most one answers. -/
theorem exists_answer {readers : List Reader} (hnodup : (readers.map Reader.address).Nodup)
    {answer : Reader → Option Reply} {address : UInt8}
    (hsilent : ∀ reader, reader.address ≠ address → answer reader = none) :
    ∃ reply, readers.filterMap answer = reply.toList ∧
      (∀ r, reply = some r →
        ∃ reader ∈ readers, reader.address = address ∧ answer reader = some r) ∧
      (reply = none → ∀ reader ∈ readers, answer reader = none) := by
  induction readers with
  | nil => exact ⟨none, rfl, nofun, fun _ reader h => absurd h List.not_mem_nil⟩
  | cons reader readers ih =>
    rw [List.map_cons, List.nodup_cons] at hnodup
    obtain ⟨reply, hreplies, hsome, hnone⟩ := ih hnodup.2
    cases hanswer : answer reader with
    | none =>
      refine ⟨reply, ?_, fun r hr => ?_, fun hreply => ?_⟩
      · rw [List.filterMap_cons_none hanswer, hreplies]
      · obtain ⟨other, hmem, hother⟩ := hsome r hr
        exact ⟨other, List.mem_cons_of_mem _ hmem, hother⟩
      · exact List.forall_mem_cons.mpr ⟨hanswer, hnone hreply⟩
    | some r =>
      -- the other readers have other addresses
      have haddress : reader.address = address := by
        by_contra hne
        rw [hsilent reader hne] at hanswer
        cases hanswer
      have hrest : readers.filterMap answer = [] := by
        refine List.filterMap_eq_nil_iff.mpr fun other hmem => hsilent other fun heq => ?_
        exact hnodup.1 (haddress ▸ heq ▸ List.mem_map_of_mem hmem)
      refine ⟨some r, ?_, fun r' hr => ?_, nofun⟩
      · rw [List.filterMap_cons_some hanswer, hrest]
        rfl
      · cases hr
        exact ⟨reader, List.mem_cons_self, haddress, hanswer⟩

/-- What the one answer on a line makes arrive. -/
theorem lineBehaviour_react {readers : List Reader} {raw : Bytes} {reply : Option Reply}
    (h : readers.filterMap (fun reader => (reader.handle raw).2) = reply.toList) :
    ∃ arrivals, (lineBehaviour delivery).react raw readers =
        (readers.map (fun reader => (reader.handle raw).1), arrivals) ∧
      arrived arrivals = (reply.map Reply.raw).getD [] ∧
      (∀ arrival ∈ arrivals, (lineBehaviour delivery).Arrives arrival) ∧
      ∀ e, .error e ∉ arrivals := by
  refine ⟨_, rfl, ?_, fun arrival harrival => ?_, fun e he => ?_⟩
  · rw [h]
    cases reply with
    | none => rfl
    | some r =>
      rw [Option.toList_some, List.flatMap_singleton, arrived_map_ok, delivery.flatten_eq]
      rfl
  · obtain ⟨r, _, hchunk⟩ := List.mem_flatMap.mp harrival
    obtain ⟨chunk, hmem, rfl⟩ := List.mem_map.mp hchunk
    exact delivery.nonempty r.raw chunk hmem
  · obtain ⟨r, _, hchunk⟩ := List.mem_flatMap.mp he
    obtain ⟨chunk, _, heq⟩ := List.mem_map.mp hchunk
    cases heq

/-- A command to one address: the reader there answers it, if there is one that knows it, and
otherwise the call times out. -/
theorem UpToDate.run_line {readers : List Reader} {client : RfidClient (Peer (List Reader))}
    (h : UpToDate (lineBehaviour delivery) readers client)
    (hnodup : (readers.map Reader.address).Nodup) {adr : PyValue} {command : Command}
    {f : CommandFrame} (hvalue : command.value = ord f.command) (hsingle : ord f.address ≠ 0xFF)
    (haccepted : commandFrame adr command.object f.data = .ok (command, f.raw))
    (action : String) :
    ∃ result client', UhfReader18.run (peerApi (lineBehaviour delivery)) adr command f.data action
        client = (result, client') ∧
      UpToDate (lineBehaviour delivery) (readers.map fun reader => (reader.handle f.raw).1)
        client' ∧
      ((∃ reader ∈ readers, reader.address = f.address ∧ ∃ after answer,
          reader.execute command f.data = some (after, answer) ∧
          result = .ok (reader.reply command answer).response) ∨
        result = .error timedOut ∧ ∀ reader ∈ readers, reader.address = f.address →
          reader.execute command f.data = none) := by
  have hhandle (reader : Reader) := reader.handle_raw hvalue
  have hsilent : ∀ reader : Reader, reader.address ≠ f.address →
      (reader.handle f.raw).2 = none := by
    intro reader hne
    rw [hhandle reader, if_neg fun hor => hor.elim (fun heq => hne heq.symm) hsingle]
  have hat (reader : Reader) (heq : reader.address = f.address) :=
    (hhandle reader).trans (if_pos (Or.inl heq.symm))
  obtain ⟨reply, hreplies, hsome, hnone⟩ := exists_answer hnodup hsilent
  obtain ⟨arrivals, hreact, harrived, harrives, hdata⟩ := lineBehaviour_react hreplies
  cases reply with
  | none =>
    obtain ⟨client', hrun, hcurrent⟩ :=
      h.exchange rfl haccepted hreact harrived harrives hdata nofun
    refine ⟨.error timedOut, client', ?_, hcurrent, Or.inr ⟨rfl, fun reader hmem heq => ?_⟩⟩
    · simp only [UhfReader18.run, hrun]
      rfl
    · have hquiet := hnone rfl reader hmem
      rw [hat reader heq] at hquiet
      cases hexecute : reader.execute command f.data with
      | none => rfl
      | some executed =>
        rw [hexecute] at hquiet
        cases hquiet
  | some r =>
    obtain ⟨reader, hmem, heq, hanswer⟩ := hsome r rfl
    rw [hat reader heq] at hanswer
    cases hexecute : reader.execute command f.data with
    | none =>
      rw [hexecute] at hanswer
      cases hanswer
    | some executed =>
      obtain ⟨after, answer⟩ := executed
      rw [hexecute] at hanswer
      cases hanswer
      obtain ⟨client', hrun, hcurrent⟩ := h.exchange rfl haccepted hreact harrived harrives hdata
        fun reply hreply => by
          cases hreply
          exact reader.reply_answers command answer
      refine ⟨.ok (reader.reply command answer).response, client', ?_, hcurrent,
        Or.inl ⟨reader, hmem, heq, after, answer, hexecute, rfl⟩⟩
      simp only [UhfReader18.run, hrun]
      rfl

/-- The commands a reader knows have little data. -/
theorem Reader.length_le_of_execute {reader after : Reader} {command : Command} {data : Bytes}
    {answer : AnswerData} (h : reader.execute command data = some (after, answer)) :
    data.length ≤ 251 := by
  unfold Reader.execute at h
  split at h <;> cases h <;> exact Nat.le_of_ble_eq_true rfl

/-! ## One call -/

/-- What a reader on the line makes of an accepted setter call. -/
theorem handle_settings {call : SetterCall} (hflags : call.FlagsNamed) {f : CommandFrame}
    (hdata : call.data = .ok f.data) (hvalue : call.command.value = ord f.command)
    (hadr : call.adr.int? = some (ord f.address)) (hsingle : ord f.address ≠ 0xFF)
    (reader : Reader) : (reader.handle f.raw).1.settings = call.on reader.settings := by
  obtain ⟨after, answer, hexecute, hsettings⟩ := SetterCall.effect hflags hdata reader
  rw [reader.handle_raw hvalue]
  by_cases heq : f.address = reader.address
  · have hfor : call.IsFor reader.settings :=
      ⟨by rw [hdata]; rfl, hadr.trans (congrArg (some ∘ ord) heq)⟩
    rw [if_pos (Or.inl heq), hexecute, SetterCall.on, if_pos hfor]
    exact hsettings
  · have hother : ¬ call.IsFor reader.settings := by
      rintro ⟨_, hfor⟩
      exact heq (ord_injective (Option.some.inj (hadr.symm.trans hfor)))
    rw [if_neg fun hor => hor.elim heq hsingle, SetterCall.on, if_neg hother]

/-- A setter call for one address changes the reader there, if it is accepted, and returns; in
every other case it raises. The other readers stay as they are. -/
theorem UpToDate.perform_line {readers : List Reader} {client : RfidClient (Peer (List Reader))}
    (h : UpToDate (lineBehaviour delivery) readers client)
    (hnodup : (readers.map Reader.address).Nodup) {call : SetterCall} (hflags : call.FlagsNamed)
    (hsingle : call.adr.int? ≠ some 0xFF) :
    ∃ result client' readers', call.perform (peerApi (lineBehaviour delivery)) client =
        (result, client') ∧ UpToDate (lineBehaviour delivery) readers' client' ∧
      readers'.map Reader.settings = (readers.map Reader.settings).map call.on ∧
      ((∃ response, result = .ok response) ∧ (∃ s ∈ readers.map Reader.settings, call.IsFor s) ∨
        (∃ e, result = .error e) ∧ ¬ ∃ s ∈ readers.map Reader.settings, call.IsFor s) := by
  obtain ⟨action, hperform⟩ := call.exists_perform_eq
  rw [hperform]
  -- a call that raises before it reaches a reader
  have hraise {e : PyError} (hnone : ¬ ∃ s ∈ readers.map Reader.settings, call.IsFor s)
      (hrun : setter (peerApi (lineBehaviour delivery)) call.adr call.command call.data action
        client = (.error e, client)) :
      ∃ result client' readers', setter (peerApi (lineBehaviour delivery)) call.adr call.command
          call.data action client = (result, client') ∧
        UpToDate (lineBehaviour delivery) readers' client' ∧
        readers'.map Reader.settings = (readers.map Reader.settings).map call.on ∧
        ((∃ response, result = .ok response) ∧ (∃ s ∈ readers.map Reader.settings, call.IsFor s) ∨
          (∃ e, result = .error e) ∧ ¬ ∃ s ∈ readers.map Reader.settings, call.IsFor s) := by
    refine ⟨_, client, readers, hrun, h, ?_, Or.inr ⟨⟨e, rfl⟩, hnone⟩⟩
    refine (List.map_id' _).symm.trans (List.map_congr_left fun s hs => ?_)
    exact (if_neg fun hfor => hnone ⟨s, hs, hfor⟩).symm
  cases hcall : call.data with
  | error e =>
    rw [hcall] at hraise
    refine hraise (fun ⟨s, _, hok, _⟩ => ?_) rfl
    rw [hcall] at hok
    cases hok
  | ok bytes =>
    rw [hcall] at hraise
    rcases commandFrame_cases call.adr call.command.object bytes with
      ⟨code, f, hadr, hcode, hvalue, rfl, _, haccepted⟩ | ⟨e, he, _⟩
    · cases hcode
      have hsingle' : ord f.address ≠ 0xFF := fun heq => hsingle (hadr.trans (congrArg some heq))
      obtain ⟨result, client', hrun, hcurrent, hend⟩ :=
        h.run_line hnodup hvalue hsingle' haccepted action
      refine ⟨result, client', _, hrun, hcurrent, ?_, ?_⟩
      · rw [List.map_map, List.map_map]
        exact List.map_congr_left fun reader _ =>
          handle_settings hflags hcall hvalue hadr hsingle' reader
      · rcases hend with ⟨reader, hmem, heq, _, _, _, rfl⟩ | ⟨rfl, hnone⟩
        · refine Or.inl ⟨⟨_, rfl⟩, _, List.mem_map_of_mem hmem, ⟨by rw [hcall]; rfl, ?_⟩⟩
          exact hadr.trans (congrArg (some ∘ ord) heq.symm)
        · refine Or.inr ⟨⟨_, rfl⟩, ?_⟩
          rintro ⟨s, hs, _, hfor⟩
          obtain ⟨reader, hmem, rfl⟩ := List.mem_map.mp hs
          obtain ⟨_, _, hexecute, _⟩ := SetterCall.effect hflags hcall reader
          have hsilent := hnone reader hmem
            (ord_injective (Option.some.inj (hfor.symm.trans hadr)))
          rw [hsilent] at hexecute
          cases hexecute
    · obtain ⟨peer, hsocket⟩ := h.socket
      refine hraise (e := e) ?_ ?_
      · rintro ⟨s, hs, _, hfor⟩
        obtain ⟨reader, _, rfl⟩ := List.mem_map.mp hs
        obtain ⟨_, _, hexecute, _⟩ := SetterCall.effect hflags hcall reader
        obtain ⟨f, _, _, _, haccepted⟩ := commandFrame_byte hfor
          call.command bytes (Reader.length_le_of_execute hexecute)
        rw [he] at haccepted
        cases haccepted
      · simp only [setter, UhfReader18.run, sendCommand_rejected _ hsocket he]

/-! ## Runs -/

theorem map_address_settings (readers : List Reader) :
    (readers.map Reader.settings).map Settings.address = (readers.map Reader.address).map ord := by
  rw [List.map_map, List.map_map]
  rfl

theorem addresses_nodup {readers : List Reader}
    (h : ((readers.map Reader.settings).map Settings.address).Nodup) :
    (readers.map Reader.address).Nodup := by
  rw [map_address_settings] at h
  exact h.of_map ord

theorem UpToDate.runSetters_line {calls : List SetterCall}
    (hflags : ∀ call ∈ calls, call.FlagsNamed)
    (hsingle : ∀ call ∈ calls, call.adr.int? ≠ some 0xFF) {readers : List Reader}
    {client : RfidClient (Peer (List Reader))}
    (h : UpToDate (lineBehaviour delivery) readers client)
    (hapart : StayApart calls (readers.map Reader.settings)) :
    ∃ client' readers', UhfReader18.runSetters (peerApi (lineBehaviour delivery)) calls client =
        (returning calls (readers.map Reader.settings), client') ∧
      UpToDate (lineBehaviour delivery) readers' client' ∧
      (readers'.map Reader.address).Nodup ∧
      readers'.map Reader.settings =
        readers.map fun reader => calls.foldl (fun s call => call.on s) reader.settings := by
  induction calls generalizing readers client with
  | nil => exact ⟨client, readers, rfl, h, addresses_nodup hapart, rfl⟩
  | cons call calls ih =>
    rw [List.forall_mem_cons] at hflags hsingle
    obtain ⟨result, client', readers', hperform, hcurrent, hsettings, hend⟩ :=
      h.perform_line (addresses_nodup hapart.1) hflags.1 hsingle.1
    have hapart' := hapart.2
    rw [← hsettings] at hapart'
    obtain ⟨client'', readers'', hrun, hcurrent', hnodup, hfinal⟩ :=
      ih hflags.2 hsingle.2 hcurrent hapart'
    have hfold : readers''.map Reader.settings = readers.map fun reader =>
        (call :: calls).foldl (fun s call => call.on s) reader.settings := by
      calc readers''.map Reader.settings
          = (readers'.map Reader.settings).map (calls.foldl fun s call => call.on s) := by
            rw [hfinal, List.map_map]
            rfl
        _ = _ := by
            rw [hsettings, List.map_map, List.map_map]
            rfl
    refine ⟨client'', readers'', ?_, hcurrent', hnodup, hfold⟩
    rcases hend with ⟨⟨response, rfl⟩, hfor⟩ | ⟨⟨e, rfl⟩, hnone⟩
    · simp only [UhfReader18.runSetters, hperform, hrun, returning, if_pos hfor, hsettings]
    · simp only [UhfReader18.runSetters, hperform, hrun, returning, if_neg hnone, hsettings]

/-- A getter for a reader on the line. -/
theorem UpToDate.getter_line {α : Type} {readers : List Reader}
    {client : RfidClient (Peer (List Reader))}
    (h : UpToDate (lineBehaviour delivery) readers client)
    (hnodup : (readers.map Reader.address).Nodup) {reader : Reader} (hmem : reader ∈ readers)
    (hsingle : ord reader.address ≠ 0xFF) {adr : PyValue}
    (hadr : adr.int? = some (ord reader.address)) (command : Command)
    (answer : Reader → AnswerData)
    (hexecute : ∀ reader : Reader, reader.execute command [] = some (reader, answer reader))
    (decode : RfidResponse → Except PyError α) (action : String) :
    ∃ client', UhfReader18.getter (peerApi (lineBehaviour delivery)) adr command decode action
        client = (decode (reader.reply command (answer reader)).response, client') ∧
      UpToDate (lineBehaviour delivery) readers client' := by
  obtain ⟨f, haddress, hvalue, hdata, haccepted⟩ := commandFrame_byte hadr command [] (by decide)
  rw [← hdata] at haccepted
  obtain ⟨result, client', hrun, hcurrent, hend⟩ :=
    h.run_line hnodup hvalue (haddress ▸ hsingle) haccepted action
  have hsame : readers.map (fun reader => (reader.handle f.raw).1) = readers := by
    refine (List.map_congr_left fun other _ => ?_).trans (List.map_id' readers)
    rw [other.handle_raw hvalue, hdata, hexecute other]
    split <;> rfl
  rw [hdata] at hrun hend
  rw [hsame] at hcurrent
  refine ⟨client', ?_, hcurrent⟩
  rcases hend with ⟨other, hother, heq, _, _, hanswer, rfl⟩ | ⟨_, hnone⟩
  · obtain rfl : other = reader := List.inj_on_of_nodup_map hnodup hother hmem (heq.trans haddress)
    rw [hexecute other] at hanswer
    cases hanswer
    simp only [UhfReader18.getter, hrun]
  · have hsilent := hnone reader hmem haddress.symm
    rw [hexecute reader] at hsilent
    cases hsilent

/-- Both getters for a reader on the line. -/
theorem UpToDate.settings_line {readers : List Reader} {client : RfidClient (Peer (List Reader))}
    (h : UpToDate (lineBehaviour delivery) readers client)
    (hnodup : (readers.map Reader.address).Nodup) {reader : Reader} (hmem : reader ∈ readers)
    (hsingle : ord reader.address ≠ 0xFF) {adr : PyValue}
    (hadr : adr.int? = some (ord reader.address)) :
    ∃ client' client'',
      getReaderInfo (peerApi (lineBehaviour delivery)) adr client =
        (.ok reader.decodedInfo, client') ∧
      getWorkMode (peerApi (lineBehaviour delivery)) adr client' =
        (.ok reader.decodedWorkMode, client'') ∧
      UpToDate (lineBehaviour delivery) readers client'' := by
  obtain ⟨client', hinfo, hcurrent⟩ := h.getter_line hnodup hmem hsingle hadr
    .getReaderInfo (fun reader => ⟨reader.info, by simp [Reader.info]⟩) (fun _ => rfl)
    (fun response => ReaderInfo.fromBytes response.readerAddress response.data) "Get reader info"
  obtain ⟨client'', hwork, hcurrent'⟩ := hcurrent.getter_line hnodup hmem hsingle hadr
    .getWorkMode (fun reader => ⟨reader.workMode, by simp [Reader.workMode]⟩) (fun _ => rfl)
    (fun response => WorkModeInfo.fromBytes response.data) "Get work mode"
  refine ⟨client', client'', ?_, ?_, hcurrent'⟩
  · exact hinfo.trans (congrArg (·, client') reader.fromBytes_info)
  · exact hwork.trans (congrArg (·, client'') reader.fromBytes_workMode)

/-- Readers on one line do not disturb each other. After any run of setter calls, each for one
address and with named flags only, that never gives a reader the address of another, every
reader has the settings that the calls for its own address made of its own, as if it had been
alone; exactly the calls for a reader on the line return; and the getters find every reader at
its address. -/
theorem line_apart (delivery : Delivery) (readers : List Reader) (calls : List SetterCall)
    (hflags : ∀ call ∈ calls, call.FlagsNamed)
    (hsingle : ∀ call ∈ calls, call.adr.int? ≠ some 0xFF)
    (hapart : StayApart calls (readers.map Reader.settings)) :
    ∃ client line,
      runSetters (peerApi (lineBehaviour delivery)) calls { socket := some ⟨readers, []⟩ } =
        (returning calls (readers.map Reader.settings), client) ∧
      line = readers.map (fun reader => calls.foldl (fun s call => call.on s) reader.settings) ∧
      ∀ settings ∈ line, settings.address ≠ 0xFF → ∀ adr, adr.int? = some settings.address →
        ∃ info work client' client'',
          getReaderInfo (peerApi (lineBehaviour delivery)) adr client = (.ok info, client') ∧
          getWorkMode (peerApi (lineBehaviour delivery)) adr client' = (.ok work, client'') ∧
          Settings.of info work = settings := by
  obtain ⟨client, readers', hrun, hcurrent, hnodup, hline⟩ :=
    (UpToDate.connected (lineBehaviour delivery) readers).runSetters_line hflags hsingle hapart
  refine ⟨client, _, hrun, rfl, fun settings hsettings haddress adr hadr => ?_⟩
  rw [← hline] at hsettings
  obtain ⟨reader, hmem, rfl⟩ := List.mem_map.mp hsettings
  obtain ⟨client', client'', hinfo, hwork, _⟩ :=
    hcurrent.settings_line hnodup hmem haddress hadr
  exact ⟨reader.decodedInfo, reader.decodedWorkMode, client', client'', hinfo, hwork, rfl⟩

/-- Of two readers one gets a new address and then more power. The call for the address it had
is for nobody, and the other reader keeps its power. -/
theorem line_apart_two :
    let whole : Delivery := ⟨fun raw => [raw].filter (· ≠ []), by simp, fun raw => by
      cases raw <;> simp⟩
    let api := peerApi (lineBehaviour whole)
    let first : Reader := ⟨1, 2, 1, 9, 3, 62, 64, 30, 10, 0, 30, 10, 15, 0, 0, 4, 0, 1, 0, 8, 0⟩
    let second : Reader := ⟨2, 2, 1, 9, 3, 62, 64, 30, 10, 0, 30, 10, 15, 0, 0, 4, 0, 1, 0, 8, 0⟩
    let calls : List SetterCall :=
      [.setPower (.int 1) (.int 20), .setAddress (.int 2) (.int 5), .setPower (.int 5) (.int 26),
       .setPower (.int 2) (.int 7)]
    ∃ client info work client' client'',
      runSetters api calls { socket := some ⟨[first, second], []⟩ } =
        ([.setPower (.int 1) (.int 20), .setAddress (.int 2) (.int 5),
          .setPower (.int 5) (.int 26)], client) ∧
      getReaderInfo api (.int 1) client = (.ok info, client') ∧
      getWorkMode api (.int 1) client' = (.ok work, client'') ∧
      info.address = 1 ∧ info.power = 20 := by
  intro whole api first second calls
  obtain ⟨client, line, hrun, rfl, hread⟩ :=
    line_apart whole [first, second] calls (by simp [calls, SetterCall.FlagsNamed])
      (by decide) ⟨by decide, by decide, by decide, by decide, by
        rw [StayApart]
        decide⟩
  have hreturning : returning calls ([first, second].map Reader.settings) =
      [.setPower (.int 1) (.int 20), .setAddress (.int 2) (.int 5),
       .setPower (.int 5) (.int 26)] := by
    decide +kernel
  obtain ⟨info, work, client', client'', hinfo, hwork, hsettings⟩ :=
    hread _ List.mem_cons_self (by decide) (.int 1) (by decide)
  refine ⟨client, info, work, client', client'', hreturning ▸ hrun, hinfo, hwork, ?_, ?_⟩
  · exact (congrArg Settings.address hsettings).trans (by decide +kernel)
  · exact (congrArg Settings.power hsettings).trans (by decide +kernel)

end UhfReader18
