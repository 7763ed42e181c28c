import UhfReader18.Hwvx.Store

/-!
# Reading while datagrams are lost

`get_config` asks 22 questions, and asks each of them up to five times. So it can do without
some of its datagrams, and there is no other way for it to end than with the configuration of
the module or with the question that was not answered.

Results:
1. `request_answered`, `request_unanswered`: a request returns if one of its datagrams arrives,
   and raises otherwise.
2. `readAnew_lossy`: which losses a reading stands, and what it raises after the others.
-/

namespace UhfReader18.Hwvx

open Stateful HwVxDevice

/-! ## Losses -/

/-- How many of the next datagrams are lost before one arrives. -/
def lost (fates : List Bool) : ℕ := (fates.takeWhile fun arrives => !arrives).length

/-- The fates after the next datagram that arrives. -/
def afterArrival (fates : List Bool) : List Bool := (fates.dropWhile fun arrives => !arrives).tail

/-- How many datagrams are lost after `k` have arrived, before the next one arrives. -/
def losses (fates : List Bool) : ℕ → ℕ
  | 0 => lost fates
  | k + 1 => losses (afterArrival fates) k

/-! ## Requests -/

variable (other : Bytes → List Bytes) {net : HwVxNetworking}

/-- No reply is waiting, the module holds `store`, and these datagrams have arrived. -/
structure Asked (store : Bytes → Bytes) (sock : ℕ) (fates : List Bool) (delivered : List Bytes)
    (lan : Lan) : Prop where
  fates : lan.fates = fates
  inbox : lan.inbox sock = []
  settings : lan.settings = store
  delivered : lan.delivered = delivered

variable {store : Bytes → Bytes} {fates : List Bool} {delivered : List Bytes}

/-- A question that arrives is answered with what the module holds. -/
theorem request_arrives {row : Setting} (hrow : row ∈ settings) {text : Text}
    (h : Holds store row text) (retries : ℕ) {lan lan' : Lan}
    (harrives : lan.transmit other net.sock (asciiBytes row.question) =
      lan'.deliver other net.sock (asciiBytes row.question))
    (hasked : Asked store net.sock fates delivered lan') :
    ∃ lan'', net.request (lanApi other) row.question (retries + 1) lan =
        .ok (text ++ '|' :: row.getCheck) lan'' ∧
      Asked store net.sock fates (delivered ++ [asciiBytes row.question]) lan'' := by
  obtain ⟨hascii, hwritten, hanswer⟩ := answer_question hrow h
  obtain ⟨hreply, hfits⟩ := h.reply hrow
  have hsend := send_ok other net hascii lan
  rw [harrives] at hsend
  let asked := lan'.deliver other net.sock (asciiBytes row.question)
  have hqueue : asked.inbox net.sock = [asciiBytes ('A' :: text ++ '|' :: row.getCheck)] := by
    simp [asked, Lan.deliver, hasked.inbox, hasked.settings, hanswer]
  refine ⟨{ asked with inbox := Function.update asked.inbox net.sock [] }, ?_, hasked.fates,
    Function.update_self _ _ _, ?_, ?_⟩
  · rw [HwVxNetworking.request, bind_of_ok hsend, bind_of_ok (receive_ok hreply hfits hqueue)]
    rfl
  · show Keyed.writes (written (asciiBytes row.question)).toList lan'.settings = store
    rw [hwritten, hasked.settings]
    rfl
  · exact congrArg (· ++ [asciiBytes row.question]) hasked.delivered

/-- A question that is lost is asked again. -/
theorem request_lost {row : Setting} (hrow : row ∈ settings) {text : Text}
    (h : Holds store row text) (retries : ℕ) {lan : Lan}
    (hasked : Asked store net.sock (false :: fates) delivered lan) :
    ∃ lan', net.request (lanApi other) row.question (retries + 1) lan =
        net.request (lanApi other) row.question retries lan' ∧
      Asked store net.sock fates delivered lan' := by
  obtain ⟨hascii, _, _⟩ := answer_question hrow h
  let lan' : Lan := { lan with fates := fates }
  have hsend : net.send (lanApi other) row.question lan = .ok () lan' := by
    rw [send_ok other net hascii lan, Lan.transmit, hasked.fates]
    rfl
  have hnothing : (lanApi other).recvfrom net.sock recvBuffer lan' =
      .error ⟨.timeoutError, "timed out"⟩ lan' := by
    simp only [lanApi, lan', hasked.inbox]
  have hreceive : net.receive (lanApi other) lan' = .ok [] lan' :=
    net.receive_of_timeout hnothing rfl
  refine ⟨lan', ?_, rfl, hasked.inbox, hasked.settings, hasked.delivered⟩
  rw [HwVxNetworking.request, bind_of_ok hsend, bind_of_ok hreceive]

/-- A request returns if one of its datagrams arrives. The induction is on the fates: each
datagram that is lost takes one of the retries with it. -/
theorem request_answered {row : Setting} (hrow : row ∈ settings) {text : Text}
    (h : Holds store row text) {retries : ℕ} (hlost : lost fates < retries) {lan : Lan}
    (hasked : Asked store net.sock fates delivered lan) :
    ∃ lan', net.request (lanApi other) row.question retries lan =
        .ok (text ++ '|' :: row.getCheck) lan' ∧
      Asked store net.sock (afterArrival fates) (delivered ++ [asciiBytes row.question]) lan' := by
  induction fates generalizing retries lan with
  | nil =>
    obtain ⟨retries, rfl⟩ := Nat.exists_eq_add_of_lt hlost
    rw [lost, List.takeWhile_nil, List.length_nil, Nat.zero_add]
    refine request_arrives other hrow h retries ?_ hasked
    rw [Lan.transmit, hasked.fates]
  | cons arrives fates ih =>
    obtain ⟨retries, rfl⟩ := Nat.exists_eq_add_of_le' (Nat.lt_of_le_of_lt (Nat.zero_le _) hlost)
    cases arrives with
    | true =>
      let lan' : Lan := { lan with fates := fates }
      have harrives : lan.transmit other net.sock (asciiBytes row.question) =
          lan'.deliver other net.sock (asciiBytes row.question) := by
        rw [Lan.transmit, hasked.fates]
        rfl
      exact request_arrives other hrow h retries harrives
        ⟨rfl, hasked.inbox, hasked.settings, hasked.delivered⟩
    | false =>
      obtain ⟨lan', hagain, hasked'⟩ := request_lost other hrow h retries hasked
      rw [hagain]
      exact ih (Nat.lt_of_succ_lt_succ hlost) hasked'

/-- What is raised when no datagram of a question arrives. -/
def Setting.unanswered (row : Setting) : PyError :=
  ⟨.timeoutError, s!"No response for command: {String.ofList row.question}"⟩

/-- A request raises if all its datagrams are lost. -/
theorem request_unanswered {row : Setting} (hrow : row ∈ settings) {text : Text}
    (h : Holds store row text) {retries : ℕ} (hlost : retries ≤ lost fates) {lan : Lan}
    (hasked : Asked store net.sock fates delivered lan) :
    ∃ lan', net.request (lanApi other) row.question retries lan =
        .error row.unanswered lan' ∧ lan'.settings = store ∧ lan'.delivered = delivered := by
  induction retries generalizing fates lan with
  | zero => exact ⟨lan, rfl, hasked.settings, hasked.delivered⟩
  | succ retries ih =>
    rcases fates with _ | ⟨_ | _, fates⟩
    · cases hlost
    · obtain ⟨lan', hagain, hasked'⟩ := request_lost other hrow h retries hasked
      rw [hagain]
      exact ih (Nat.le_of_succ_le_succ hlost) hasked'
    · cases hlost

theorem requestSingle_answered {row : Setting} (hrow : row ∈ settings) {text : Text}
    (h : Holds store row text) (hlost : lost fates < 5) {lan : Lan}
    (hasked : Asked store net.sock fates delivered lan) :
    ∃ lan', net.requestSingle (lanApi other) row.getCommand row.getCheck lan = .ok text lan' ∧
      Asked store net.sock (afterArrival fates) (delivered ++ [asciiBytes row.question]) lan' := by
  obtain ⟨_, _, _, _, hbar, _⟩ := setting_plain row hrow
  obtain ⟨lan', hrun, hasked'⟩ := request_answered other hrow h hlost hasked
  refine ⟨lan', (bind_of_ok hrun _).trans ?_, hasked'⟩
  rw [splitOn_framed h.noBar hbar]
  simp only [if_true]
  rfl

theorem requestSingle_unanswered {row : Setting} (hrow : row ∈ settings) {text : Text}
    (h : Holds store row text) (hlost : 5 ≤ lost fates) {lan : Lan}
    (hasked : Asked store net.sock fates delivered lan) :
    ∃ lan', net.requestSingle (lanApi other) row.getCommand row.getCheck lan =
        .error row.unanswered lan' ∧ lan'.settings = store ∧ lan'.delivered = delivered := by
  obtain ⟨lan', hrun, hend⟩ := request_unanswered other hrow h hlost hasked
  exact ⟨lan', bind_of_error hrun _, hend⟩

/-! ## Questions one after another -/

/-- What `get_config` does for a row. -/
def readRow (net : HwVxNetworking) (api : UdpApi Lan) (row : Setting) :
    EStateM PyError Lan (String × Text) := do
  return (row.name, ← net.requestSingle api row.getCommand row.getCheck)

/-- The questions for rows, as the module sees them. -/
def questions (rows : List Setting) : List Bytes := rows.map fun row => asciiBytes row.question

variable {text : Setting → Text} {rows : List Setting}

/-- Where no question is lost five times, all are answered, each of them once. -/
theorem readRows_answered (hholds : ∀ row ∈ rows, row ∈ settings ∧ Holds store row (text row))
    (hlosses : ∀ k < rows.length, losses fates k < 5) {lan : Lan}
    (hasked : Asked store net.sock fates delivered lan) :
    ∃ lan', rows.mapM (readRow net (lanApi other)) lan =
        .ok (rows.map fun row => (row.name, text row)) lan' ∧ lan'.settings = store ∧
      lan'.delivered = delivered ++ questions rows := by
  induction rows generalizing fates delivered lan with
  | nil => exact ⟨lan, rfl, hasked.settings, hasked.delivered.trans (List.append_nil _).symm⟩
  | cons row rows ih =>
    rw [List.forall_mem_cons] at hholds
    obtain ⟨lan', hrow, hasked'⟩ := requestSingle_answered other hholds.1.1 hholds.1.2
      (hlosses 0 (Nat.succ_pos _)) hasked
    obtain ⟨lan'', hrows, hstore, hdelivered⟩ :=
      ih hholds.2 (fun k hk => hlosses (k + 1) (Nat.succ_lt_succ hk)) hasked'
    have hfirst : readRow net (lanApi other) row lan = .ok (row.name, text row) lan' :=
      bind_of_ok hrow _
    refine ⟨lan'', ?_, hstore, ?_⟩
    · rw [List.mapM_cons, bind_of_ok hfirst, bind_of_ok hrows]
      rfl
    · rw [hdelivered, List.append_assoc]
      rfl

/-- The first question that is lost five times ends the reading. -/
theorem readRows_unanswered (hholds : ∀ row ∈ rows, row ∈ settings ∧ Holds store row (text row))
    {k : ℕ} {row : Setting} (hrow : rows[k]? = some row) (hbefore : ∀ j < k, losses fates j < 5)
    (hlost : 5 ≤ losses fates k) {lan : Lan} (hasked : Asked store net.sock fates delivered lan) :
    ∃ lan', rows.mapM (readRow net (lanApi other)) lan = .error row.unanswered lan' ∧
      lan'.settings = store ∧ lan'.delivered = delivered ++ questions (rows.take k) := by
  induction rows generalizing k fates delivered lan with
  | nil => cases hrow
  | cons first rows ih =>
    rw [List.forall_mem_cons] at hholds
    cases k with
    | zero =>
      cases hrow
      obtain ⟨lan', hraise, hstore, hdelivered⟩ :=
        requestSingle_unanswered other hholds.1.1 hholds.1.2 hlost hasked
      have hfirst : readRow net (lanApi other) row lan = .error row.unanswered lan' :=
        bind_of_error hraise _
      refine ⟨lan', ?_, hstore, hdelivered.trans (List.append_nil _).symm⟩
      rw [List.mapM_cons, bind_of_error hfirst]
    | succ k =>
      obtain ⟨lan', hread, hasked'⟩ := requestSingle_answered other hholds.1.1 hholds.1.2
        (hbefore 0 (Nat.succ_pos _)) hasked
      obtain ⟨lan'', hrows, hstore, hdelivered⟩ :=
        ih hholds.2 hrow (fun j hj => hbefore (j + 1) (Nat.succ_lt_succ hj)) hlost hasked'
      have hfirst : readRow net (lanApi other) first lan = .ok (first.name, text first) lan' :=
        bind_of_ok hread _
      refine ⟨lan'', ?_, hstore, ?_⟩
      · rw [List.mapM_cons, bind_of_ok hfirst, bind_of_error hrows]
      · rw [hdelivered, List.append_assoc]
        rfl

/-- A reading of the configuration while datagrams are lost. If no question is lost five times,
it returns the configuration the module has, and each question has reached the module once.
Otherwise it raises for the first one that is, and only the questions before it have reached the
module. The module keeps its settings. -/
theorem readAnew_lossy (other : Bytes → List Bytes) (lan : Lan) {cfg : DeviceConfig}
    (h : Represents lan.settings cfg) (ipAddress : IPv4Address) :
    ((∀ k < settings.length, losses lan.fates k < 5) →
      ∃ lan', readAnew (lanApi other) ipAddress lan = .ok cfg lan' ∧
        lan'.settings = lan.settings ∧ lan'.delivered = lan.delivered ++ questions settings) ∧
    ∀ k row, settings[k]? = some row → (∀ j < k, losses lan.fates j < 5) →
      5 ≤ losses lan.fates k →
      ∃ lan', readAnew (lanApi other) ipAddress lan = .error row.unanswered lan' ∧
        lan'.settings = lan.settings ∧
        lan'.delivered = lan.delivered ++ questions (settings.take k) := by
  obtain ⟨text, htext, hread⟩ := exists_texts h
  have hholds : ∀ row ∈ settings, row ∈ settings ∧ Holds lan.settings row (text row) :=
    fun row hrow => ⟨hrow, htext row hrow⟩
  let net : HwVxNetworking := ⟨lan.sockets, (ipAddress.text, udpPort)⟩
  let device : HwVxDevice := ⟨ipAddress, false, HwVxDevice.lanBroadcast, net, []⟩
  let opened : Lan := { lan with
    sockets := lan.sockets + 1
    inbox := Function.update lan.inbox lan.sockets [] }
  have hinit : HwVxDevice.init (lanApi other) ipAddress [] false HwVxDevice.lanBroadcast lan =
      .ok device opened := rfl
  have hasked : Asked lan.settings net.sock lan.fates lan.delivered opened :=
    ⟨rfl, Function.update_self _ _ _, rfl, rfl⟩
  have hmapM : device.getConfig (lanApi other) = (settings.mapM (readRow net (lanApi other)) >>=
      fun raw => ofExcept (DeviceConfig.fromWire (Keyed.dict raw))) := rfl
  rw [readAnew, bind_of_ok hinit, hmapM]
  constructor
  · intro hlosses
    obtain ⟨lan', hrows, hend⟩ := readRows_answered other hholds hlosses hasked
    refine ⟨lan', ?_, hend⟩
    rw [bind_of_ok hrows, hread]
    rfl
  · intro k row hrow hbefore hlost
    obtain ⟨lan', hrows, hend⟩ := readRows_unanswered other hholds hrow hbefore hlost hasked
    exact ⟨lan', bind_of_error hrows _, hend⟩

/-- A network with a module that holds the default of every field. -/
def lossyLan (fates : List Bool) : Lan where
  address := []
  settings := factoryStore
  inbox := fun _ => []
  sockets := 0
  fates := fates
  delivered := []

/-- Four datagrams in a row may be lost, and more in all. Five in a row may not: the second
question is not answered. -/
theorem readAnew_lossy_five :
    let fates := [false, false, false, false, true, false, false, true]
    (∃ lan', readAnew (lanApi fun _ => []) ⟨10, 0, 0, 9⟩ (lossyLan fates) =
      .ok Field.default lan') ∧
    ∃ lan', readAnew (lanApi fun _ => []) ⟨10, 0, 0, 9⟩
        (lossyLan (true :: List.replicate 5 false)) =
      .error ⟨.timeoutError, "No response for command: GDN|02"⟩ lan' := by
  intro fates
  constructor
  · obtain ⟨lan', hread, _⟩ := (readAnew_lossy (fun _ => []) (lossyLan fates)
      represents_factoryStore ⟨10, 0, 0, 9⟩).1 (by decide)
    exact ⟨lan', hread⟩
  · obtain ⟨lan', hraise, _⟩ := (readAnew_lossy (fun _ => [])
      (lossyLan (true :: List.replicate 5 false)) represents_factoryStore ⟨10, 0, 0, 9⟩).2 1
      ⟨"device_name", "DN".toList, "02".toList, "13".toList⟩ rfl (by decide) (by decide)
    exact ⟨lan', hraise⟩

end UhfReader18.Hwvx
