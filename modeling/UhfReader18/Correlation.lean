import UhfReader18.Peer

/-!
# Timeouts and late answers

A reader answers every command, but an answer may come after `recv` has timed out. The
next command then finds it on the connection, and accepts it if it carries its own
command byte. Nothing else is compared.

The answers to the commands of a connection form one queue. A command that times out
leaves its answer in it, and every command that examines a response takes one out. So
after `late` timeouts a command examines the answer to the command written `late`
places earlier.

Results:
1. `returned_reply`: what a call returns is that answer.
2. `returned_own_reply`: it is the call's own answer if no earlier call has timed out, or
   if the command written `late` places earlier has another command byte. Otherwise it is
   the answer to an earlier command.
3. `not_returned_own_reply`: two readers and one timeout are enough for that.
-/

namespace UhfReader18

/-! ## A reader that answers late -/

/-- What `recv` gives between the writing of one command and the next. -/
abbrev Batch := List (Except PyError Bytes)

/-- A command call. -/
structure Request where
  address : PyValue
  command : PyValue
  data : Bytes

/-- A command as the reader sees it. -/
structure Sent where
  address : ℤ
  command : ℤ
  deriving DecidableEq, Repr

/-- The command a call writes, if it is not rejected. -/
def Request.sent? (self : Request) : Option Sent :=
  match requireAddress self.address, commandFrame self.address self.command self.data with
  | .ok address, .ok (code, _) => some ⟨address, code.value⟩
  | _, _ => none

/-- The commands that calls write. -/
def written (calls : List Request) : List Sent := calls.filterMap Request.sent?

/-- A reader, or several on one bus, and how its answers arrive. -/
structure Bus (calls : List Request) where
  /-- one answer for each command, in order -/
  replies : List Reply
  answers : List.Forall₂ (fun (sent : Sent) (reply : Reply) =>
    reply.response.command = sent.command ∧
      (sent.address ≠ 0xFF → reply.response.readerAddress = sent.address)) (written calls) replies
  batches : List Batch
  arrives : ∀ batch ∈ batches, ∀ arrival ∈ batch,
    arrival = .error timedOut ∨ ∃ chunk, chunk ≠ [] ∧ arrival = .ok chunk
  /-- no answer arrives before its command is written -/
  causal : ∀ n, arrived (batches.take n).flatten <+: (replies.take n).flatMap Reply.raw

/-- The reader's end of a connection. -/
def lateReader : Behaviour (List Batch) where
  react _ batches := (batches.tail, batches.headD [])
  silence := some timedOut

def Bus.peer {calls : List Request} (self : Bus calls) :
    Peer (List Batch) := ⟨self.batches, []⟩

/-- Make command calls one after another, whether they return or raise. -/
def converse (self : RfidClient (Peer (List Batch))) :
    List Request → List (Except PyError RfidResponse)
  | [] => []
  | call :: calls =>
    let (result, self) :=
      sendCommand (peerApi lateReader) call.address call.command call.data self
    result :: converse self calls

/-- The calls on one connection. -/
def conversation {calls : List Request} (bus : Bus calls) : List (Except PyError RfidResponse) :=
  converse { socket := some bus.peer } calls

/-- How many calls have timed out. -/
def late (results : List (Except PyError RfidResponse)) : ℕ :=
  results.countP fun result => outcome result = .inr .timeoutError

/-- Before the `i`-th call: no call has timed out, or the command whose answer comes first
has another command byte. -/
def InStep (calls : List Request) (results : List (Except PyError RfidResponse)) (i : ℕ) : Prop :=
  let number := (written (calls.take i)).length
  late (results.take i) = 0 ∨
    (written calls)[number - late (results.take i)]?.map Sent.command ≠
      (written calls)[number]?.map Sent.command

/-! ## The queue of answers -/

theorem written_append (a b : List Request) : written (a ++ b) = written a ++ written b :=
  List.filterMap_append

namespace Bus

variable {all : List Request} (bus : Bus all)

theorem arrives_headD (n : ℕ) :
    ∀ arrival ∈ (bus.batches.drop n).headD [], lateReader.Arrives arrival := by
  intro arrival harrival
  cases hdrop : bus.batches.drop n with
  | nil => rw [hdrop] at harrival; cases harrival
  | cons batch rest =>
    have hbatch : batch ∈ bus.batches.drop n := hdrop ▸ List.mem_cons_self
    rw [hdrop] at harrival
    rcases bus.arrives batch (List.mem_of_mem_drop hbatch) arrival harrival with
      rfl | ⟨chunk, hchunk, rfl⟩
    · rfl
    · exact hchunk

/-- Only frames arrive, and they are the first answers. -/
theorem parsed_take (n : ℕ) :
    ∃ k ≤ n, parsed none (arrived (bus.batches.take n).flatten) =
      { frames := (bus.replies.take k).map Reply.response } := by
  obtain ⟨k, hk, hparsed⟩ := parsed_of_prefix (bus.causal n)
  rw [List.length_take, Nat.le_min] at hk
  rw [List.take_take, Nat.min_eq_left hk.1] at hparsed
  exact ⟨k, hk.1, hparsed⟩

theorem clean_take (n : ℕ) : Clean (parsed none (arrived (bus.batches.take n).flatten)) := by
  obtain ⟨k, _, hparsed⟩ := bus.parsed_take n
  rw [hparsed]
  exact ⟨rfl, rfl⟩

/-- The frame examined under a number is the answer with that number. -/
theorem reply_of_frame {n i : ℕ} {frame : RfidResponse}
    (h : (parsed none (arrived (bus.batches.take n).flatten)).frames[i]? = some frame) :
    ∃ reply, bus.replies[i]? = some reply ∧ frame = reply.response := by
  obtain ⟨k, _, hparsed⟩ := bus.parsed_take n
  rw [hparsed, List.getElem?_map] at h
  obtain ⟨reply, hreply, rfl⟩ := Option.map_eq_some_iff.mp h
  refine ⟨reply, ?_, rfl⟩
  rw [List.getElem?_take] at hreply
  split at hreply
  · exact hreply
  · cases hreply

/-- The batch that comes with the next command. -/
theorem arrived_take_succ (n : ℕ) :
    arrived (bus.batches.take n).flatten ++ arrived ((bus.batches.drop n).headD []) =
      arrived (bus.batches.take (n + 1)).flatten := by
  rw [← arrived_append]
  congr 1
  rw [List.take_add_one, List.flatten_append, List.headD_eq_head?_getD, List.head?_drop]
  cases bus.batches[n]? <;> simp

end Bus

/-- The connection between two calls: `number` commands have been written, `left` of their
answers have been left behind by a timeout. -/
structure Conversing {all : List Request} (bus : Bus all)
    (client : RfidClient (Peer (List Batch))) (number left : ℕ) : Prop where
  left_le : left ≤ number
  tracks : ∃ peer, peer.state = bus.batches.drop number ∧
    Tracks lateReader peer client (arrived (bus.batches.take number).flatten) (number - left)
  examined_le : number - left ≤
    (parsed none (arrived (bus.batches.take number).flatten)).frames.length

theorem Conversing.fresh {all : List Request} (bus : Bus all) :
    Conversing bus { socket := some bus.peer } 0 0 := by
  refine ⟨Nat.le_refl _, ⟨bus.peer, rfl, ?_⟩, Nat.zero_le _⟩
  have hnone : ∀ arrival ∈ bus.peer.inbox, lateReader.Arrives arrival :=
    fun arrival harrival => absurd harrival List.not_mem_nil
  exact .connect Idle.fresh (by rw [Bus.peer, arrived_nil, parsed_nil]; exact ⟨rfl, rfl⟩) hnone

/-- A call that is rejected is no command for the reader. -/
theorem Request.sent?_cases (call : Request) :
    (∃ code raw address, commandFrame call.address call.command call.data = .ok (code, raw) ∧
        call.sent? = some ⟨address, code.value⟩) ∨
      call.sent? = none ∧ ∃ e, commandFrame call.address call.command call.data = .error e ∧
        e.kind ≠ .timeoutError := by
  rcases commandFrame_cases call.address call.command call.data with
    ⟨code, f, _, _, _, _, haddress, hok⟩ | ⟨e, he, hkind⟩
  · refine Or.inl ⟨code, f.raw, ord f.address, hok, ?_⟩
    simp only [Request.sent?, haddress, hok]
  · refine Or.inr ⟨?_, e, he, ?_⟩
    · simp only [Request.sent?, he]
      split
      · next heq => cases heq
      · rfl
    · rcases hkind with hkind | hkind <;> rw [hkind] <;> decide

theorem length_written_of_sent {call : Request} {sent : Sent} (h : call.sent? = some sent) :
    (written [call]).length = 1 := by
  rw [written, List.filterMap_cons_some h, List.filterMap_nil, List.length_singleton]

theorem length_written_of_rejected {call : Request} (h : call.sent? = none) :
    (written [call]).length = 0 := by
  rw [written, List.filterMap_cons_none h, List.filterMap_nil, List.length_nil]

theorem late_of_timely {result : Except PyError RfidResponse}
    (h : outcome result ≠ .inr .timeoutError) : late [result] = 0 := by
  rw [late, List.countP_singleton, if_neg (by simpa using h)]

/-- What a call does to the queue of answers. A rejected call leaves it alone. A command
adds its answer; then it takes the first one out, or times out and leaves one more. -/
theorem Conversing.step {all : List Request} {bus : Bus all}
    {client : RfidClient (Peer (List Batch))} {number left : ℕ}
    (h : Conversing bus client number left) (call : Request) :
    ∃ result client',
      sendCommand (peerApi lateReader) call.address call.command call.data client =
        (result, client') ∧
      Conversing bus client' (number + (written [call]).length) (left + late [result]) ∧
      ∀ response, result = .ok response → ∃ sent reply, call.sent? = some sent ∧
        bus.replies[number - left]? = some reply ∧ response = reply.response ∧
        (response.command = sent.command ∨ response.command = 0) := by
  obtain ⟨hleft, ⟨peer, hstate, htrack⟩, hexamined⟩ := h
  rcases call.sent?_cases with ⟨code, raw, address, hframe, hsent⟩ | ⟨hsent, e, hframe, hkind⟩
  · -- the command is written, and its batch arrives
    have hreact : lateReader.react raw peer.state =
        (bus.batches.drop (number + 1), (bus.batches.drop number).headD []) := by
      rw [hstate, ← List.tail_drop]
      rfl
    obtain ⟨result, peer', client', hrun, hstate', _, hend⟩ := htrack.sendCommand lateReader hframe
      hreact (by rw [bus.arrived_take_succ]; exact bus.clean_take _)
      (bus.arrives_headD number) hexamined
    rw [bus.arrived_take_succ] at hend
    refine ⟨result, client', hrun, ?_⟩
    rw [length_written_of_sent hsent]
    rcases hend with ⟨frame, hfound, htrack', hresult⟩ | ⟨htrack', _, rfl, _⟩
    · obtain ⟨hlt, _⟩ := List.getElem?_eq_some_iff.mp hfound
      have hnext : number + 1 - left = number - left + 1 := by omega
      have htimely : outcome result ≠ .inr .timeoutError := by
        rcases hresult with ⟨rfl, _⟩ | ⟨text, rfl, _⟩
        · exact Sum.inl_ne_inr
        · intro htimeout
          cases htimeout
      rw [late_of_timely htimely, Nat.add_zero]
      refine ⟨⟨Nat.le_succ_of_le hleft, ⟨peer', hstate', hnext ▸ htrack'⟩, by omega⟩, ?_⟩
      rintro response rfl
      rcases hresult with ⟨hok, hanswers⟩ | ⟨text, herror, _⟩
      · cases hok
        obtain ⟨reply, hreply, hresponse⟩ := bus.reply_of_frame hfound
        exact ⟨_, reply, hsent, hreply, hresponse, hanswers.imp_right And.left⟩
      · cases herror
    · have hlate : late [.error lateReader.silent] = 1 := rfl
      rw [hlate]
      refine ⟨⟨Nat.succ_le_succ hleft, ⟨peer', hstate', ?_⟩, ?_⟩, fun _ hok => by cases hok⟩
      · rw [Nat.add_sub_add_right]
        exact htrack'
      · rw [Nat.add_sub_add_right, ← bus.arrived_take_succ]
        exact hexamined.trans (length_frames_le_append none _ _)
  · have htimely : outcome (.error e : Except PyError RfidResponse) ≠ .inr .timeoutError :=
      fun htimeout => hkind (Sum.inr.inj htimeout)
    refine ⟨.error e, client, sendCommand_rejected _ htrack.socket hframe, ?_,
      fun _ hok => by cases hok⟩
    rw [length_written_of_rejected hsent, late_of_timely htimely]
    exact ⟨hleft, ⟨peer, hstate, htrack⟩, hexamined⟩

/-! ## Runs of calls -/

theorem written_cons (call : Request) (calls : List Request) :
    written (call :: calls) = written [call] ++ written calls :=
  written_append [call] calls

theorem late_cons (result : Except PyError RfidResponse)
    (results : List (Except PyError RfidResponse)) :
    late (result :: results) = late [result] + late results := by
  rw [← List.singleton_append, late, List.countP_append]
  rfl

/-- The command a call writes stands behind the ones written before. -/
theorem getElem?_written {calls : List Request} {i : ℕ} {call : Request} {sent : Sent}
    (hcall : calls[i]? = some call) (hsent : call.sent? = some sent) :
    (written calls)[(written (calls.take i)).length]? = some sent := by
  induction calls generalizing i with
  | nil => cases hcall
  | cons first calls ih =>
    cases i with
    | zero =>
      cases hcall
      rw [written, List.filterMap_cons_some hsent]
      rfl
    | succ i =>
      rw [List.take_succ_cons, written_cons, written_cons first (calls.take i),
        List.length_append, List.getElem?_append_right (Nat.le_add_right _ _),
        Nat.add_sub_cancel_left]
      exact ih hcall

/-- A call returns the answer that comes first in the queue. -/
theorem Conversing.run {all : List Request} {bus : Bus all}
    {client : RfidClient (Peer (List Batch))} {number left : ℕ}
    (h : Conversing bus client number left) {calls : List Request} {i : ℕ}
    {response : RfidResponse} (hreturn : (converse client calls)[i]? = some (.ok response)) :
    ∃ call sent reply, calls[i]? = some call ∧ call.sent? = some sent ∧
      left + late ((converse client calls).take i) ≤
        number + (written (calls.take i)).length ∧
      bus.replies[number + (written (calls.take i)).length -
        (left + late ((converse client calls).take i))]? = some reply ∧
      response = reply.response ∧ (response.command = sent.command ∨ response.command = 0) := by
  induction calls generalizing client number left i with
  | nil => cases hreturn
  | cons call calls ih =>
    obtain ⟨result, client', hrun, hnext, hreturned⟩ := h.step call
    have hconverse : converse client (call :: calls) = result :: converse client' calls := by
      simp only [converse, hrun]
    rw [hconverse] at hreturn ⊢
    cases i with
    | zero =>
      cases hreturn
      obtain ⟨sent, reply, hsent, hreply, hrest⟩ := hreturned response rfl
      exact ⟨call, sent, reply, rfl, hsent, h.left_le, hreply, hrest⟩
    | succ i =>
      rw [List.getElem?_cons_succ] at hreturn
      rw [List.take_succ_cons, List.take_succ_cons, late_cons, written_cons, List.length_append,
        ← Nat.add_assoc, ← Nat.add_assoc]
      exact ih hnext hreturn

/-- The answer with a number carries the command byte and the address of the command with
that number. -/
theorem Bus.answers_getElem? {calls : List Request} (bus : Bus calls) {n : ℕ} {reply : Reply}
    (h : bus.replies[n]? = some reply) :
    ∃ sent, (written calls)[n]? = some sent ∧ reply.response.command = sent.command ∧
      (sent.address ≠ 0xFF → reply.response.readerAddress = sent.address) := by
  obtain ⟨hlt, rfl⟩ := List.getElem?_eq_some_iff.mp h
  have hlt' : n < (written calls).length := bus.answers.length_eq ▸ hlt
  exact ⟨_, List.getElem?_eq_getElem hlt', bus.answers.get hlt' hlt⟩

theorem Request.one_le_command {call : Request} {sent : Sent} (h : call.sent? = some sent) :
    1 ≤ sent.command := by
  rcases call.sent?_cases with ⟨code, raw, address, _, hsent⟩ | ⟨hsent, _⟩
  · rw [hsent] at h
    cases h
    exact code.value_bounds.1
  · rw [hsent] at h
    cases h

/-- The answer that comes first belongs to a command with the same command byte. -/
theorem returned_reply {calls : List Request} (bus : Bus calls) {i : ℕ} {response : RfidResponse}
    (hreturn : (conversation bus)[i]? = some (.ok response)) :
    ∃ call sent old reply, calls[i]? = some call ∧ call.sent? = some sent ∧
      late ((conversation bus).take i) ≤ (written (calls.take i)).length ∧
      (written calls)[(written (calls.take i)).length -
        late ((conversation bus).take i)]? = some old ∧ old.command = sent.command ∧
      bus.replies[(written (calls.take i)).length -
        late ((conversation bus).take i)]? = some reply ∧ response = reply.response := by
  obtain ⟨call, sent, reply, hcall, hsent, hle, hreply, rfl, hcommand⟩ :=
    (Conversing.fresh bus).run hreturn
  rw [Nat.zero_add, Nat.zero_add] at hle hreply
  obtain ⟨old, hold, hbyte, _⟩ := bus.answers_getElem? hreply
  refine ⟨call, sent, old, reply, hcall, hsent, hle, hold, ?_, hreply, rfl⟩
  -- an answer carries a command byte, and no command byte is 0
  have hpos : 1 ≤ old.command := by
    obtain ⟨oldCall, _, holdSent⟩ := List.mem_filterMap.mp (List.mem_of_getElem? hold)
    exact Request.one_le_command holdSent
  rw [← hbyte]
  exact hcommand.resolve_right fun hzero => by omega

/-- Response correlation. A call that returns returns its own answer, with the address its
command was sent to, if before it no call on the connection has timed out, or if the
command whose answer comes first has another command byte. Otherwise it returns the late
answer to an earlier command. -/
theorem returned_own_reply (calls : List Request) (bus : Bus calls) (i : ℕ)
    (response : RfidResponse) (hreturn : (conversation bus)[i]? = some (.ok response)) :
    ∃ call sent, calls[i]? = some call ∧ call.sent? = some sent ∧
      (InStep calls (conversation bus) i →
        ∃ reply, bus.replies[(written (calls.take i)).length]? = some reply ∧
          response = reply.response ∧
          (sent.address ≠ 0xFF → response.readerAddress = sent.address)) ∧
      (¬ InStep calls (conversation bus) i →
        ∃ k reply, k < (written (calls.take i)).length ∧ bus.replies[k]? = some reply ∧
          response = reply.response) := by
  obtain ⟨call, sent, old, reply, hcall, hsent, hle, hold, hsame, hreply, rfl⟩ :=
    returned_reply bus hreturn
  have hown := getElem?_written hcall hsent
  refine ⟨call, sent, hcall, hsent, fun hinStep => ?_, fun hlate => ?_⟩
  · have hzero : late ((conversation bus).take i) = 0 := by
      refine hinStep.resolve_right fun hdiffer => hdiffer ?_
      rw [hold, hown, Option.map_some, Option.map_some, hsame]
    rw [hzero, Nat.sub_zero] at hreply
    obtain ⟨sent', hsent', _, haddress⟩ := bus.answers_getElem? hreply
    rw [hown] at hsent'
    cases hsent'
    exact ⟨reply, hreply, rfl, haddress⟩
  · have hpos : late ((conversation bus).take i) ≠ 0 := fun hzero => hlate (Or.inl hzero)
    exact ⟨_, reply, by omega, hreply, rfl⟩

/-- Answers to Get WorkMode, without data. -/
def replyFrom1 : Reply := ⟨⟨1, 0x36, 0, [], ResponseFrame.fits_nil⟩, by decide +kernel⟩

def replyFrom2 : Reply := ⟨⟨2, 0x36, 0, [], ResponseFrame.fits_nil⟩, by decide +kernel⟩

def getWorkModeFrom (address : ℤ) : Request := ⟨.int address, Command.getWorkMode.object, []⟩

/-- The reader at address 1 is asked twice and the one at address 2 in between. The answer of
reader 2 comes when its call has timed out, in front of the second answer of reader 1. -/
def oneLateBus : Bus [getWorkModeFrom 1, getWorkModeFrom 2, getWorkModeFrom 1] where
  replies := [replyFrom1, replyFrom2, replyFrom1]
  answers := by
    have hwritten : written [getWorkModeFrom 1, getWorkModeFrom 2, getWorkModeFrom 1] =
        [⟨1, 0x36⟩, ⟨2, 0x36⟩, ⟨1, 0x36⟩] := by decide +kernel
    rw [hwritten]
    exact .cons ⟨rfl, fun _ => rfl⟩ (.cons ⟨rfl, fun _ => rfl⟩ (.cons ⟨rfl, fun _ => rfl⟩ .nil))
  batches := [[.ok replyFrom1.raw], [.error timedOut], [.ok replyFrom2.raw, .ok replyFrom1.raw]]
  arrives := by
    simp only [List.mem_cons, List.not_mem_nil, or_false, forall_eq_or_imp, forall_eq]
    exact ⟨Or.inr ⟨_, by decide +kernel, rfl⟩, Or.inl trivial, Or.inr ⟨_, by decide +kernel, rfl⟩,
      Or.inr ⟨_, by decide +kernel, rfl⟩⟩
  causal := by
    rintro (_ | _ | _ | n)
    · exact List.nil_prefix
    · simp [arrived, Except.toOption]
    · simp [arrived, Except.toOption]
    · simp [arrived, Except.toOption]

/-- The first call returns its own answer. The call behind the timeout returns the answer to an
earlier command. -/
theorem returned_own_reply_late :
    ((conversation oneLateBus)[0]? = some (.ok replyFrom1.response) ∧
      ∃ reply, oneLateBus.replies[0]? = some reply ∧ replyFrom1.response = reply.response) ∧
    (late ((conversation oneLateBus).take 2) = 1 ∧
      (conversation oneLateBus)[2]? = some (.ok replyFrom2.response) ∧
      ∃ k reply, k < 2 ∧ oneLateBus.replies[k]? = some reply ∧
        replyFrom2.response = reply.response) := by
  have hprompt : (conversation oneLateBus)[0]? = some (.ok replyFrom1.response) := by
    decide +kernel
  have hbehind : (conversation oneLateBus)[2]? = some (.ok replyFrom2.response) := by
    decide +kernel
  refine ⟨⟨hprompt, ?_⟩, by decide +kernel, hbehind, ?_⟩
  · obtain ⟨_, _, _, _, hown, _⟩ := returned_own_reply _ oneLateBus 0 _ hprompt
    obtain ⟨reply, hreply, hresponse, _⟩ := hown (Or.inl rfl)
    exact ⟨reply, hreply, hresponse⟩
  · obtain ⟨_, _, _, _, _, hearlier⟩ := returned_own_reply _ oneLateBus 2 _ hbehind
    have hnumber : (written ([getWorkModeFrom 1, getWorkModeFrom 2,
        getWorkModeFrom 1].take 2)).length = 2 := by decide +kernel
    obtain ⟨k, reply, hk, hreply, hresponse⟩ := hearlier (by unfold InStep; decide +kernel)
    rw [hnumber] at hk
    exact ⟨k, reply, hk, hreply, hresponse⟩

/-- The same command to the readers at addresses 1 and 2. The answer of the first comes
when its call has timed out. -/
def lateBus : Bus [getWorkModeFrom 1, getWorkModeFrom 2] where
  replies := [replyFrom1, replyFrom2]
  answers := by
    have hwritten : written [getWorkModeFrom 1, getWorkModeFrom 2] = [⟨1, 0x36⟩, ⟨2, 0x36⟩] := by
      decide +kernel
    rw [hwritten]
    exact .cons ⟨rfl, fun _ => rfl⟩ (.cons ⟨rfl, fun _ => rfl⟩ .nil)
  batches := [[.error timedOut], [.ok replyFrom1.raw, .ok replyFrom2.raw]]
  arrives := by
    simp only [List.mem_cons, List.not_mem_nil, or_false, forall_eq_or_imp, forall_eq]
    exact ⟨Or.inl trivial, Or.inr ⟨_, by decide +kernel, rfl⟩, Or.inr ⟨_, by decide +kernel, rfl⟩⟩
  causal := by
    rintro (_ | _ | n)
    · exact List.nil_prefix
    · exact List.nil_prefix
    · simp [arrived, Except.toOption]

/-- The call to reader 2 returns the answer of reader 1. -/
theorem not_returned_own_reply :
    ¬ ∀ (calls : List Request) (bus : Bus calls) (i : ℕ) (response : RfidResponse),
      (conversation bus)[i]? = some (.ok response) →
      ∃ reply, bus.replies[(written (calls.take i)).length]? = some reply ∧
        response = reply.response := by
  intro h
  have hreturn : (conversation lateBus)[1]? = some (.ok replyFrom1.response) := by
    decide +kernel
  obtain ⟨reply, hreply, hresponse⟩ := h _ lateBus 1 replyFrom1.response hreturn
  have hnumber : (written ([getWorkModeFrom 1, getWorkModeFrom 2].take 1)).length = 1 := by
    decide +kernel
  rw [hnumber] at hreply
  cases hreply
  revert hresponse
  decide +kernel

end UhfReader18
