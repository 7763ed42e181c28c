import UhfReader18.ErrorDetection
import UhfReader18.Setters

/-!
# A noisy line

Bits change on the line between a reader and a client. Both ends check the CRC, and the length
byte of a reply is still there to say where it ends. So damage that the CRC shows costs the
reply or the command it hits, and nothing else.

Results:
1. `crc16_ne_zero_of_detectable`: damage to a string that ends with its CRC is seen.
2. `feedAll_transmissions`: on the stream, whole replies are reported and damaged ones are
   errors, each of them one.
3. `setters_over_noise`: which setter calls return over a noisy line, which take effect, and
   that the getters return what is true or raise.
-/

namespace UhfReader18

/-! ## Damage -/

/-- Damage that the CRC always shows: to one, two or three bits, to any odd number of bits, or
to some bits within 16 consecutive positions. -/
structure Detectable (raw raw' : Bytes) : Prop where
  length_eq : raw'.length = raw.length
  flipped : let flipped := ShiftRegister.differing (bits raw) (bits raw')
    flipped.card = 1 ∨ flipped.card = 2 ∨ flipped.card = 3 ∨ Odd flipped.card ∨
      flipped.Nonempty ∧ ∃ start, ∀ i ∈ flipped, start ≤ i ∧ i < start + 16

/-- Damage to a string that ends with its CRC is seen. -/
theorem crc16_ne_zero_of_detectable {raw raw' : Bytes} (hshort : raw.length ≤ 256)
    (hempty : crc16 raw = 0) (h : Detectable raw raw') : crc16 raw' ≠ 0 := by
  have hbits : (bits raw).length = (bits raw').length := by
    rw [length_bits, length_bits, h.length_eq]
  have hlen : (bits raw).length ≤ 2047 + 1 := by
    rw [length_bits]
    exact Nat.mul_le_mul_left 8 hshort
  rw [crc16_eq_feed] at hempty ⊢
  refine crcRegister.feed_ne_zero parity_crcRegister avoidsOne_crcRegister hbits hlen hempty ?_
  rcases h.flipped with hone | htwo | hthree | hodd | hburst
  · exact Or.inr (Or.inl (hone ▸ Nat.odd_iff.mpr rfl))
  · exact Or.inl htwo
  · exact Or.inr (Or.inl (hthree ▸ Nat.odd_iff.mpr rfl))
  · exact Or.inr (Or.inl hodd)
  · exact Or.inr (Or.inr hburst)

/-- A reply with damage that the CRC shows. Its length byte has arrived, and it was not turned
into a heartbeat. -/
structure Garbled (reply : Reply) (received : Bytes) : Prop where
  detectable : Detectable reply.raw received
  lengthByte : received.head? = reply.raw.head?
  notHeartbeat : received.take heartbeatLength ≠ buildHeartbeat

theorem ResponseFrame.length_raw_le (f : ResponseFrame) : f.raw.length ≤ 256 := by
  rw [f.length_raw]
  exact Nat.add_le_add_right f.fits 6

theorem Garbled.isDamaged {reply : Reply} {received : Bytes} (h : Garbled reply received) :
    IsDamaged received := by
  obtain ⟨first, tail, hraw, hmin, htotal⟩ := (isBlock_raw reply.notHeartbeat).length_eq
  have hhead : received.head? = some first := by
    rw [h.lengthByte, Reply.raw, hraw]
    rfl
  obtain ⟨tail', rfl⟩ := List.head?_eq_some_iff.mp hhead
  refine ⟨⟨⟨first, tail', rfl, hmin, ?_⟩, h.notHeartbeat⟩, fun hcrc => ?_⟩
  · rw [h.detectable.length_eq]
    exact htotal
  · -- with a CRC of its own it would have no residue
    refine crc16_ne_zero_of_detectable reply.frame.length_raw_le (crc16_withCrc _) h.detectable ?_
    have hown : first :: tail' =
        withCrc ((first :: tail').take ((first :: tail').length - 2)) := by
      rw [withCrc, ← hcrc, List.take_append_drop]
    rw [hown]
    exact crc16_withCrc _

/-! ## On the stream -/

/-- What the buffer says of a block with a wrong CRC. -/
def crcMismatchText (raw : Bytes) : String :=
  s!"CRC mismatch: received 0x{formatHex 4 (fromBytesLittle (raw.drop (raw.length - 2)))}, " ++
    s!"computed 0x{formatHex 4 (crc16 (raw.take (raw.length - 2)))}"

theorem IsDamaged.validateFrame_eq {raw : Bytes} (h : IsDamaged raw) :
    validateFrame raw = .error ⟨.frameError, crcMismatchText raw⟩ := by
  obtain ⟨first, tail, rfl, hmin, htotal⟩ := h.1.length_eq
  have hcrc : fromBytesLittle ((first :: tail).drop ((first :: tail).length - 2)) ≠
      crc16 ((first :: tail).take ((first :: tail).length - 2)) := by
    intro heq
    obtain ⟨f, hf⟩ := exists_raw hmin htotal heq
    exact h.ne_raw f hf
  have hfirst : index (first :: tail) 0 = .ok (ord first) := rfl
  have hempty : (first :: tail).isEmpty = false := rfl
  unfold validateFrame
  simp only [bind, Except.bind, hempty, hfirst, if_neg (not_lt.mpr hmin), htotal, if_pos hcrc,
    ne_eq]
  rfl

/-- What a reader sends, and what arrives of it: a reply as it was, a garbled one, or a
heartbeat. -/
inductive Transmission
  | whole (reply : Reply)
  | garbled (reply : Reply) (received : Bytes) (garbled : Garbled reply received)
  | heartbeat

namespace Transmission

def received : Transmission → Bytes
  | whole reply => reply.raw
  | garbled _ received _ => received
  | heartbeat => buildHeartbeat

def response? : Transmission → Option RfidResponse
  | whole reply => some reply.response
  | _ => none

def heartbeat? : Transmission → Option Heartbeat
  | heartbeat => some ⟨buildHeartbeat⟩
  | _ => none

def error? : Transmission → Option String
  | garbled _ received _ => some (crcMismatchText received)
  | _ => none

def item : Transmission → Item
  | whole reply => reply.item
  | garbled _ received h => .damaged received h.isDamaged
  | heartbeat => .heartbeat

theorem bytes_item (transmission : Transmission) :
    transmission.item.bytes = transmission.received := by
  cases transmission <;> rfl

theorem event_item (transmission : Transmission) :
    transmission.item.event.frame? = transmission.response? ∧
      transmission.item.event.heartbeat? = transmission.heartbeat? ∧
      transmission.item.event.error? = transmission.error? := by
  cases transmission with
  | whole reply =>
    have hevent : (whole reply).item.event = .frame reply.response := blockEvent_raw reply.frame
    rw [hevent]
    exact ⟨rfl, rfl, rfl⟩
  | garbled reply received h =>
    have hevent : (garbled reply received h).item.event = .error (crcMismatchText received) := by
      rw [item, Item.event, blockEvent, h.isDamaged.validateFrame_eq]
    rw [hevent]
    exact ⟨rfl, rfl, rfl⟩
  | heartbeat => exact ⟨rfl, rfl, rfl⟩

theorem ofEvents_item (transmissions : List Transmission) :
    ParseResult.ofEvents ((transmissions.map item).map Item.event) =
      { frames := transmissions.filterMap response?
        heartbeats := transmissions.filterMap heartbeat?
        errors := transmissions.filterMap error? } := by
  simp only [ParseResult.ofEvents, List.map_map, List.filterMap_map]
  refine ParseResult.ext ?_ ?_ ?_
  · exact congrArg (transmissions.filterMap ·) (funext fun t => t.event_item.1)
  · exact congrArg (transmissions.filterMap ·) (funext fun t => t.event_item.2.1)
  · exact congrArg (transmissions.filterMap ·) (funext fun t => t.event_item.2.2)

end Transmission

/-- Damage stays where it is. The replies do not begin as a heartbeat does. However the bytes are
cut into chunks, exactly those that arrived whole are reported, in order, a garbled one is one
error that says so, heartbeats are heartbeats, and nothing is left in the buffer. -/
theorem feedAll_transmissions (transmissions : List Transmission) (chunks : List Bytes)
    (h : chunks.flatten = transmissions.flatMap Transmission.received) :
    StreamBuffer.feedAll {} chunks = .ok ({},
      { frames := transmissions.filterMap Transmission.response?
        heartbeats := transmissions.filterMap Transmission.heartbeat?
        errors := transmissions.filterMap Transmission.error? }) := by
  have hbytes : chunks.flatten = (transmissions.map Transmission.item).flatMap Item.bytes := by
    rw [h, List.flatMap_map]
    exact congrArg (transmissions.flatMap ·) (funext fun t => t.bytes_item.symm)
  have hparsed := parsed_items (transmissions.map Transmission.item) []
  have hleft := leftover_items (transmissions.map Transmission.item) []
  rw [parsed_nil, ParseResult.append_empty, List.append_nil, ← hbytes,
    Transmission.ofEvents_item] at hparsed
  rw [leftover_nil, List.append_nil, ← hbytes] at hleft
  rw [StreamBuffer.feedAll_fresh, hparsed, hleft]

/-- A reply of six bytes. -/
def shortReply : Reply := ⟨⟨1, 15, 0, [], by decide⟩, by decide⟩

/-- A bit of the status and a bit of the CRC are flipped. -/
theorem garbled_shortReply : Garbled shortReply [5, 1, 15, 1, 98, 52] :=
  ⟨⟨by decide +kernel, Or.inr (Or.inl (by decide +kernel))⟩, by decide +kernel, by decide⟩

/-- Of three replies the second is garbled; no chunk ends where a reply ends. -/
theorem feedAll_transmissions_three :
    StreamBuffer.feedAll {}
        [[5, 1, 15, 0, 98], [180, 5, 1, 15, 1], [98, 52, 5, 1, 15, 0, 98, 180]] =
      .ok ({}, {
        frames := List.replicate 2 ⟨5, 1, 15, 0, [], 0xB462⟩
        errors := ["CRC mismatch: received 0x3462, computed 0xA5EB"] }) := by
  have hrun := feedAll_transmissions
    [.whole shortReply, .garbled shortReply _ garbled_shortReply, .whole shortReply]
    [[5, 1, 15, 0, 98], [180, 5, 1, 15, 1], [98, 52, 5, 1, 15, 0, 98, 180]] (by decide +kernel)
  exact hrun.trans (by decide +kernel)

/-! ## At the two ends -/

/-- A client that is up to date is as it was when it was connected. -/
theorem UpToDate.eq_connected {ρ : Type} {behaviour : Behaviour ρ} {state : ρ}
    {client : RfidClient (Peer ρ)} (h : UpToDate behaviour state client) :
    client = { socket := some ⟨state, []⟩ } := by
  obtain ⟨⟨state, inbox⟩, received, rfl, hdata, htrack, hclean, hsettled⟩ := h
  have hframes := htrack.frames_eq
  rw [List.drop_length, List.append_eq_nil_iff] at hframes
  have hrest := htrack.rest_eq
  rw [hsettled, leftover_of_quiet (htrack.clean.eq_empty hframes.2)] at hrest
  obtain ⟨hbuffer, harrived⟩ := List.append_eq_nil_iff.mp hrest
  have hinbox : inbox = [] := by
    rcases inbox with _ | ⟨e | chunk, inbox⟩
    · rfl
    · exact absurd List.mem_cons_self (hdata e)
    · exact absurd (List.append_eq_nil_iff.mp harrived).1 (htrack.inbox _ List.mem_cons_self)
  obtain ⟨socket, ⟨buffer, allowedReaders⟩, responses⟩ := client
  have hsocket := htrack.socket
  have hunrestricted := htrack.unrestricted
  subst hinbox
  simp only at hsocket hunrestricted hbuffer hframes
  rw [hsocket, hunrestricted, hbuffer, hframes.1]

/-- The beginning of a block with a wrong CRC waits for the rest of it. -/
theorem IsDamaged.parsed_part {raw part : Bytes} (h : IsDamaged raw) (hpart : part <+: raw)
    (hlt : part.length < raw.length) : parsed none part = {} := by
  have hwait : (deframer none).next part = none :=
    (complete_iff.mpr (Item.damaged raw h).message).next_of_part hpart hlt
  rw [parsed, Deframer.messages_of_none hwait]
  rfl

theorem IsDamaged.parsed_eq {raw : Bytes} (h : IsDamaged raw) :
    parsed none raw = { errors := [crcMismatchText raw] } ∧ leftover none raw = [] := by
  have hparsed := parsed_items [.damaged raw h] []
  have hleft := leftover_items [.damaged raw h] []
  have hevent : Item.event (.damaged raw h) = .error (crcMismatchText raw) := by
    rw [Item.event, blockEvent, h.validateFrame_eq]
  rw [parsed_nil, ParseResult.append_empty, List.flatMap_singleton, List.append_nil,
    List.map_singleton, hevent] at hparsed
  rw [leftover_nil, List.flatMap_singleton, List.append_nil] at hleft
  exact ⟨hparsed, hleft⟩

theorem IsDamaged.length_le {raw : Bytes} (h : IsDamaged raw) : raw.length ≤ 256 := by
  obtain ⟨first, tail, _, _, htotal⟩ := h.1.length_eq
  have hfirst := ord_le first
  exact Int.ofNat_le.mp (htotal.trans_le (Int.add_le_add_right hfirst 1))

/-- A client that waits for a reply and gets a garbled one raises when it is complete. It is
then as it was when it was connected. -/
theorem receiveLoop_damaged {ρ : Type} (behaviour : Behaviour ρ) (state : ρ) {raw : Bytes}
    (h : IsDamaged raw) {chunks : List Bytes} (hnonempty : ∀ chunk ∈ chunks, chunk ≠ [])
    {part : Bytes} (hraw : part ++ chunks.flatten = raw) (hlt : part.length < raw.length)
    {passes : ℕ} (hpasses : chunks.length ≤ passes) :
    receiveLoop (peerApi behaviour) passes ⟨state, chunks.map .ok⟩
        { socket := some ⟨state, chunks.map .ok⟩, stream := { buffer := part } } =
      (.error ⟨.connectionError, s!"Invalid reader response: {crcMismatchText raw}"⟩,
        { socket := some ⟨state, []⟩ }) := by
  induction chunks generalizing part passes with
  | nil =>
    -- the rest of the block is still to come
    rw [List.flatten_nil, List.append_nil] at hraw
    exact absurd hlt (hraw ▸ lt_irrefl _)
  | cons chunk chunks ih =>
    obtain ⟨passes, rfl⟩ := Nat.exists_eq_add_of_le' (Nat.le_trans (Nat.succ_pos _) hpasses)
    rw [List.forall_mem_cons] at hnonempty
    rw [List.flatten_cons, ← List.append_assoc] at hraw
    have hfits : chunk.length ≤ 4096 := by
      have hlen : (part ++ chunk).length ≤ raw.length :=
        (List.prefix_append _ _).length_le.trans_eq (congrArg List.length hraw)
      rw [List.length_append] at hlen
      exact (Nat.le_of_add_left_le hlen).trans (h.length_le.trans (by decide))
    have hrecv : (peerApi behaviour).recv 4096 ⟨state, (chunk :: chunks).map .ok⟩ =
        (.ok chunk, ⟨state, chunks.map .ok⟩) := recv_of_length_le behaviour hfits state _
    -- the last chunk completes the block, the ones before it make the buffer longer
    by_cases hend : chunks = []
    · subst hend
      rw [List.flatten_nil, List.append_nil] at hraw
      obtain ⟨hparsed, hleft⟩ := h.parsed_eq
      rw [receiveLoop, if_neg (not_not_intro rfl)]
      simp only [hrecv, hnonempty.1, if_false, StreamBuffer.feed_eq, hraw, hparsed, hleft]
      rfl
    · obtain ⟨next, hnext⟩ := List.exists_mem_of_ne_nil chunks hend
      have hmore : chunks.flatten ≠ [] := fun hnil =>
        hnonempty.2 next hnext (List.flatten_eq_nil_iff.mp hnil next hnext)
      have hshort : (part ++ chunk).length < raw.length := by
        have hlen : ((part ++ chunk) ++ chunks.flatten).length =
            (part ++ chunk).length + chunks.flatten.length := List.length_append
        rw [← hraw, hlen]
        exact Nat.lt_add_of_pos_right (List.length_pos_iff.mpr hmore)
      have hquiet := h.parsed_part ⟨_, hraw⟩ hshort
      have hclean : Clean (parsed none (part ++ chunk)) := hquiet ▸ ⟨rfl, rfl⟩
      rw [receiveLoop_chunk passes rfl hrecv hnonempty.1 hclean]
      have hkept : leftover none (part ++ chunk) = part ++ chunk := leftover_of_quiet hquiet
      simp only [RfidClient.fed, hquiet, hkept]
      exact ih hnonempty.2 hraw hshort (Nat.le_of_succ_le_succ hpasses)

theorem length_le_flatten {chunks : List Bytes} (h : ∀ chunk ∈ chunks, chunk ≠ []) :
    chunks.length ≤ chunks.flatten.length := by
  induction chunks with
  | nil => exact Nat.le_refl 0
  | cons chunk chunks ih =>
    rw [List.forall_mem_cons] at h
    rw [List.flatten_cons, List.length_append, List.length_cons, Nat.add_comm]
    exact Nat.add_le_add (List.length_pos_iff.mpr h.1) (ih h.2)

theorem sendCommand_damaged {ρ : Type} {behaviour : Behaviour ρ} {state state' : ρ}
    {address command : PyValue} {data raw : Bytes} {code : Command}
    (haccepted : commandFrame address command data = .ok (code, raw)) {answer : Bytes}
    (h : IsDamaged answer) {chunks : List Bytes}
    (hreact : behaviour.react raw state = (state', chunks.map .ok))
    (hnonempty : ∀ chunk ∈ chunks, chunk ≠ []) (hchunks : chunks.flatten = answer) :
    ∃ text, sendCommand (peerApi behaviour) address command data { socket := some ⟨state, []⟩ } =
      (.error ⟨.connectionError, text⟩, { socket := some ⟨state', []⟩ }) := by
  have hfew : chunks.length ≤ 256 :=
    calc chunks.length ≤ chunks.flatten.length := length_le_flatten hnonempty
      _ = answer.length := congrArg List.length hchunks
      _ ≤ 256 := h.length_le
  have hpos : 0 < answer.length := Nat.lt_of_lt_of_le (by decide) h.1.six_le
  have hsent : (peerApi behaviour).sendall raw ⟨state, []⟩ =
      (.ok (), ⟨state', chunks.map .ok⟩) := by
    simp only [peerApi, hreact, List.nil_append]
  have hraw : [] ++ chunks.flatten = answer := hchunks
  have hloop := receiveLoop_damaged behaviour state' h hnonempty hraw hpos hfew
  exact ⟨_, by simp only [sendCommand, haccepted, hsent, hloop]; rfl⟩

/-- What the line does to a command and its answer: nothing, or it damages one of the two. -/
inductive Noise
  | none
  | command (damage : Bytes → Bytes)
  | answer (damage : Bytes → Bytes)

namespace Noise

def there : Noise → Bytes → Bytes
  | command damage, raw => damage raw
  | _, raw => raw

def back : Noise → Bytes → Bytes
  | answer damage, raw => damage raw
  | _, raw => raw

def passes : Noise → Bool
  | none => true
  | _ => false

/-- The CRC shows the damage. -/
def Shows : Noise → Prop
  | none => True
  | command damage => ∀ f : CommandFrame, Detectable f.raw (damage f.raw)
  | answer damage => ∀ reply : Reply, Garbled reply (damage reply.raw)

/-- What becomes of a command that leads from `before` to `after` and is answered with
`response`: the state in the end, and the response if it arrives. -/
def outcome {α β : Type} (now : Noise) (before after : α) (response : Option β) : α × Option β :=
  match now with
  | none => (after, response)
  | command _ => (before, .none)
  | answer _ => (after, .none)

end Noise

/-- A reader does not know a damaged command. -/
theorem parseCommand_damaged {f : CommandFrame} {raw : Bytes} (h : Detectable f.raw raw) :
    parseCommand raw = none := by
  have hshort : f.raw.length ≤ 256 := by
    have hraw : f.raw.length = f.data.length + 5 := by
      rw [CommandFrame.raw, withCrc, List.length_append, length_littleEndian]
      rfl
    exact hraw ▸ Nat.add_le_add_right f.fits 5
  have hresidue := crc16_ne_zero_of_detectable hshort (crc16_withCrc f.payload) h
  unfold parseCommand
  split
  · next length address command rest =>
    refine dif_neg fun hparsed => hresidue ?_
    rw [← hparsed.2]
    exact crc16_withCrc _
  · rfl

/-- A connection to a reader over a noisy line. `noise` says what becomes of the next commands;
after them, the line is quiet. -/
def noisyBehaviour (delivery : Delivery) : Behaviour (Reader × List Noise) where
  react raw state :=
    let now := state.2.headD .none
    match state.1.handle (now.there raw) with
    | (reader, none) => ((reader, state.2.tail), [])
    | (reader, some reply) =>
      ((reader, state.2.tail), (delivery.cut (now.back reply.raw)).map .ok)
  silence := some timedOut

variable {delivery : Delivery} {reader after : Reader} {noise : List Noise}

theorem noisyBehaviour_react (delivery : Delivery) {raw : Bytes} {reply : Option Reply}
    (h : reader.handle ((noise.headD .none).there raw) = (after, reply)) :
    ∃ chunks : List Bytes, (noisyBehaviour delivery).react raw (reader, noise) =
        ((after, noise.tail), chunks.map .ok) ∧
      chunks.flatten = (reply.map fun r => (noise.headD .none).back r.raw).getD [] ∧
      ∀ chunk ∈ chunks, chunk ≠ [] := by
  cases reply with
  | none =>
    exact ⟨[], by simp only [noisyBehaviour, h]; rfl, rfl,
      fun chunk hchunk => absurd hchunk List.not_mem_nil⟩
  | some r =>
    exact ⟨delivery.cut ((noise.headD .none).back r.raw), by simp only [noisyBehaviour, h],
      delivery.flatten_eq _, delivery.nonempty _⟩

/-- A command on a line that leaves its answer as it was. -/
theorem UpToDate.run_quiet {client : RfidClient (Peer (Reader × List Noise))}
    (h : UpToDate (noisyBehaviour delivery) (reader, noise) client) {adr : PyValue}
    {command : Command} {data raw : Bytes}
    (haccepted : commandFrame adr command.object data = .ok (command, raw)) {reply : Option Reply}
    (hhandle : reader.handle ((noise.headD .none).there raw) = (after, reply))
    (hback : ∀ r, reply = some r → (noise.headD .none).back r.raw = r.raw)
    (hreply : ∀ r, reply = some r → r.response.Answers command ∧ r.response.ok) (action : String) :
    ∃ result client', UhfReader18.run (peerApi (noisyBehaviour delivery)) adr command data action
        client = (result, client') ∧
      UpToDate (noisyBehaviour delivery) (after, noise.tail) client' ∧
      result.toOption = reply.map Reply.response := by
  obtain ⟨chunks, hreact, hflatten, hnonempty⟩ := noisyBehaviour_react delivery hhandle
  have harrived : arrived (chunks.map .ok) = (reply.map Reply.raw).getD [] := by
    rw [arrived_map_ok, hflatten]
    cases reply with
    | none => rfl
    | some r => exact hback r rfl
  have harrives : ∀ arrival ∈ chunks.map Except.ok,
      (noisyBehaviour delivery).Arrives arrival := by
    intro arrival harrival
    obtain ⟨chunk, hchunk, rfl⟩ := List.mem_map.mp harrival
    exact hnonempty chunk hchunk
  have hdata : ∀ e : PyError, .error e ∉ chunks.map Except.ok := by
    intro e he
    obtain ⟨_, _, heq⟩ := List.mem_map.mp he
    cases heq
  obtain ⟨client', hrun, hcurrent⟩ := h.exchange rfl haccepted hreact harrived harrives hdata
    fun r hr => (hreply r hr).1
  cases reply with
  | none =>
    refine ⟨.error timedOut, client', ?_, hcurrent, rfl⟩
    simp only [UhfReader18.run, hrun]
    rfl
  | some r =>
    refine ⟨.ok r.response, client', ?_, hcurrent, rfl⟩
    have hok : r.response.ok := (hreply r rfl).2
    simp only [UhfReader18.run, hrun]
    exact if_pos hok

/-- A command over a noisy line, and what becomes of it. -/
theorem UpToDate.run_noisy {client : RfidClient (Peer (Reader × List Noise))}
    (h : UpToDate (noisyBehaviour delivery) (reader, noise) client)
    (hshows : (noise.headD .none).Shows) {adr : PyValue} {command : Command} {f : CommandFrame}
    (haccepted : commandFrame adr command.object f.data = .ok (command, f.raw))
    {reply : Option Reply} (hhandle : reader.handle f.raw = (after, reply))
    (hreply : ∀ r, reply = some r → r.response.Answers command ∧ r.response.ok) (action : String) :
    ∃ result client' reader', UhfReader18.run (peerApi (noisyBehaviour delivery)) adr command
        f.data action client = (result, client') ∧
      UpToDate (noisyBehaviour delivery) (reader', noise.tail) client' ∧
      (reader', result.toOption) =
        (noise.headD .none).outcome reader after (reply.map Reply.response) := by
  cases hnow : noise.headD .none with
  | none =>
    have hthere : reader.handle ((noise.headD .none).there f.raw) = (after, reply) := by
      rw [hnow]
      exact hhandle
    obtain ⟨result, client', hrun, hcurrent, hresult⟩ :=
      h.run_quiet haccepted hthere (fun r _ => by rw [hnow]; rfl) hreply action
    exact ⟨result, client', after, hrun, hcurrent, congrArg _ hresult⟩
  | command damage =>
    -- the reader sees no command, and the call times out
    rw [hnow] at hshows
    have hlost : reader.handle ((noise.headD .none).there f.raw) = (reader, none) := by
      rw [hnow, Noise.there, Reader.handle, parseCommand_damaged (hshows f)]
    obtain ⟨result, client', hrun, hcurrent, hresult⟩ :=
      h.run_quiet haccepted hlost (fun r hr => by cases hr) (fun r hr => by cases hr) action
    exact ⟨result, client', reader, hrun, hcurrent, congrArg _ hresult⟩
  | answer damage =>
    have hthere : reader.handle ((noise.headD .none).there f.raw) = (after, reply) :=
      hnow ▸ hhandle
    cases reply with
    | none =>
      obtain ⟨result, client', hrun, hcurrent, hresult⟩ :=
        h.run_quiet haccepted hthere (fun r hr => by cases hr) (fun r hr => by cases hr) action
      exact ⟨result, client', after, hrun, hcurrent, congrArg _ hresult⟩
    | some r =>
      -- the reader has executed the command when the client raises
      rw [hnow] at hshows
      obtain ⟨chunks, hreact, hflatten, hnonempty⟩ :=
        noisyBehaviour_react delivery hthere
      rw [hnow] at hflatten
      obtain ⟨text, hrun⟩ :=
        sendCommand_damaged haccepted (hshows r).isDamaged hreact hnonempty hflatten
      rw [h.eq_connected]
      refine ⟨.error ⟨.connectionError, text⟩, _, after, ?_, UpToDate.connected _ _, rfl⟩
      simp only [UhfReader18.run, hrun]

/-! ## Runs of setters -/

instance (address : ℤ) (adr : PyValue) : Decidable (Reaches address adr) :=
  inferInstanceAs (Decidable (_ ∨ _))

/-- The call gets as far as the line. -/
def SetterCall.written (call : SetterCall) : Bool :=
  (do commandFrame call.adr call.command.object (← call.data)).isOk

/-- One call over the line: whether it returns, what noise is left, and the settings. -/
def SetterCall.over (call : SetterCall) (noise : List Noise) (s : Settings) :
    Bool × List Noise × Settings :=
  if call.written then
    let ended :=
      if Reaches s.address call.adr then
        (noise.headD .none).outcome s (call.apply s) (some ())
      else (s, none)
    (ended.2.isSome, noise.tail, ended.1)
  else (false, noise, s)

/-- Calls one after another: those that return, what noise is left, and the settings. -/
def overNoise : List SetterCall → List Noise → Settings →
    List SetterCall × List Noise × Settings
  | [], noise, s => ([], noise, s)
  | call :: calls, noise, s =>
    let ended := call.over noise s
    let rest := overNoise calls ended.2.1 ended.2.2
    (if ended.1 then call :: rest.1 else rest.1, rest.2)

theorem shows_headD {noise : List Noise} (h : ∀ now ∈ noise, now.Shows) :
    (noise.headD .none).Shows := by
  cases noise with
  | nil => trivial
  | cons now noise => exact h now List.mem_cons_self

theorem isOk_eq_isSome {ε α : Type} (result : Except ε α) :
    result.isOk = result.toOption.isSome := by
  cases result <;> rfl

/-- A setter call over a noisy line, and what becomes of it. -/
theorem UpToDate.perform_noisy {client : RfidClient (Peer (Reader × List Noise))}
    (h : UpToDate (noisyBehaviour delivery) (reader, noise) client)
    (hshows : ∀ now ∈ noise, now.Shows) {call : SetterCall} (hflags : call.FlagsNamed) :
    ∃ result client' reader', call.perform (peerApi (noisyBehaviour delivery)) client =
        (result, client') ∧
      let ended := call.over noise reader.settings
      UpToDate (noisyBehaviour delivery) (reader', ended.2.1) client' ∧
        reader'.settings = ended.2.2 ∧ result.isOk = ended.1 := by
  obtain ⟨action, hperform⟩ := call.exists_perform_eq
  rw [hperform]
  cases hcall : call.data with
  | error e =>
    have hwritten : call.written = false := by
      rw [SetterCall.written, hcall]
      rfl
    refine ⟨.error e, client, reader, rfl, ?_⟩
    rw [SetterCall.over, hwritten]
    exact ⟨h, rfl, rfl⟩
  | ok bytes =>
    rcases commandFrame_cases call.adr call.command.object bytes with
      ⟨code, f, hadr, hcode, hvalue, rfl, _, haccepted⟩ | ⟨e, he, _⟩
    · cases hcode
      have hwritten : call.written = true := by
        rw [SetterCall.written, hcall]
        exact congrArg Except.isOk haccepted
      obtain ⟨after, answer, hexecute, hsettings⟩ := SetterCall.effect hflags hcall reader
      have hhandle := reader.handle_raw hvalue
      have hreaches : Reaches reader.settings.address call.adr ↔
          f.address = reader.address ∨ ord f.address = 0xFF := by
        rw [Reaches, hadr, Option.some_inj, Option.some_inj]
        exact or_congr_left ord_injective.eq_iff
      by_cases hreach : Reaches reader.settings.address call.adr
      · rw [if_pos (hreaches.mp hreach), hexecute] at hhandle
        obtain ⟨result, client', reader', hrun, hcurrent, hend⟩ :=
          h.run_noisy (shows_headD hshows) haccepted hhandle
            (fun r hr => by
              cases hr
              exact ⟨reader.reply_answers call.command answer, rfl⟩) action
        refine ⟨result, client', reader', hrun, ?_⟩
        simp only [SetterCall.over, hwritten, if_true, if_pos hreach]
        rw [isOk_eq_isSome]
        refine ⟨hcurrent, ?_⟩
        cases hnow : noise.headD .none <;> rw [hnow] at hend <;>
          obtain ⟨rfl, hresult⟩ := Prod.mk.inj hend <;> rw [hresult]
        · exact ⟨hsettings, rfl⟩
        · exact ⟨rfl, rfl⟩
        · exact ⟨hsettings, rfl⟩
      · rw [if_neg (mt hreaches.mpr hreach)] at hhandle
        obtain ⟨result, client', reader', hrun, hcurrent, hend⟩ :=
          h.run_noisy (shows_headD hshows) haccepted hhandle (fun r hr => by cases hr) action
        refine ⟨result, client', reader', hrun, ?_⟩
        simp only [SetterCall.over, hwritten, if_true, if_neg hreach]
        rw [isOk_eq_isSome]
        refine ⟨hcurrent, ?_⟩
        cases hnow : noise.headD .none <;> rw [hnow] at hend <;>
          obtain ⟨rfl, hresult⟩ := Prod.mk.inj hend <;> rw [hresult] <;> exact ⟨rfl, rfl⟩
    · have hwritten : call.written = false := by
        rw [SetterCall.written, hcall]
        exact congrArg Except.isOk he
      obtain ⟨peer, hsocket⟩ := h.socket
      refine ⟨.error e, client, reader, ?_, ?_⟩
      · simp only [setter, UhfReader18.run, sendCommand_rejected _ hsocket he]
      · rw [SetterCall.over, hwritten]
        exact ⟨h, rfl, rfl⟩

theorem UpToDate.runSetters_noisy {calls : List SetterCall}
    (hflags : ∀ call ∈ calls, call.FlagsNamed)
    {client : RfidClient (Peer (Reader × List Noise))}
    (h : UpToDate (noisyBehaviour delivery) (reader, noise) client)
    (hshows : ∀ now ∈ noise, now.Shows) :
    ∃ client' reader', let ended := overNoise calls noise reader.settings
      UhfReader18.runSetters (peerApi (noisyBehaviour delivery)) calls client =
          (ended.1, client') ∧
        UpToDate (noisyBehaviour delivery) (reader', ended.2.1) client' ∧
        reader'.settings = ended.2.2 ∧ ∀ now ∈ ended.2.1, now.Shows := by
  induction calls generalizing reader noise client with
  | nil => exact ⟨client, reader, rfl, h, rfl, hshows⟩
  | cons call calls ih =>
    rw [List.forall_mem_cons] at hflags
    obtain ⟨result, client', reader', hperform, hcurrent, hsettings, hresult⟩ :=
      h.perform_noisy hshows hflags.1
    have hshows' : ∀ now ∈ (call.over noise reader.settings).2.1, now.Shows := by
      intro now hnow
      unfold SetterCall.over at hnow
      split at hnow
      · exact hshows now (List.mem_of_mem_tail hnow)
      · exact hshows now hnow
    obtain ⟨client'', reader'', hrun, hcurrent', hsettings', hleft⟩ := ih hflags.2 hcurrent hshows'
    rw [hsettings] at hrun hcurrent' hsettings' hleft
    refine ⟨client'', reader'', ?_, hcurrent', hsettings', hleft⟩
    cases result with
    | error e =>
      have hraised : (call.over noise reader.settings).1 = false := hresult.symm
      simp only [UhfReader18.runSetters, hperform, hrun, overNoise, hraised]
      rfl
    | ok response =>
      have hreturned : (call.over noise reader.settings).1 = true := hresult.symm
      simp only [UhfReader18.runSetters, hperform, hrun, overNoise, hreturned, if_true]

/-- A getter over a noisy line returns what is true or raises. -/
theorem UpToDate.getter_noisy {α : Type} {client : RfidClient (Peer (Reader × List Noise))}
    (h : UpToDate (noisyBehaviour delivery) (reader, noise) client)
    (hshows : (noise.headD .none).Shows) {adr : PyValue} (hadr : Reaches (ord reader.address) adr)
    {command : Command} {answer : AnswerData}
    (hexecute : reader.execute command [] = some (reader, answer))
    (decode : RfidResponse → Except PyError α) (action : String) :
    (getter (peerApi (noisyBehaviour delivery)) adr command decode action client).1.toOption =
      if (noise.headD .none).passes then (decode (reader.reply command answer).response).toOption
      else none := by
  obtain ⟨address, hint, hreach⟩ :
      ∃ b : UInt8, adr.int? = some (ord b) ∧ (b = reader.address ∨ ord b = 0xFF) := by
    rcases hadr with hadr | hadr
    · exact ⟨reader.address, hadr, Or.inl rfl⟩
    · exact ⟨0xFF, hadr, Or.inr rfl⟩
  obtain ⟨f, haddress, hvalue, hdata, haccepted⟩ := commandFrame_byte hint command []
    (by decide)
  rw [← hdata] at haccepted hexecute
  have hhandle := reader.handle_raw hvalue
  rw [haddress, if_pos hreach, hexecute] at hhandle
  obtain ⟨result, client', reader', hrun, _, hend⟩ :=
    h.run_noisy hshows haccepted hhandle
      (fun r hr => by
        cases hr
        exact ⟨reader.reply_answers command answer, rfl⟩) action
  rw [hdata] at hrun
  have hresult := congrArg Prod.snd hend
  cases hnow : noise.headD .none <;> rw [hnow] at hresult <;> cases result <;> cases hresult <;>
    simp only [getter, hrun] <;> rfl

/-- Over a noisy line that shows its damage and leaves the length byte of an answer. Of the setter
calls that reach the reader, which have named flags only, those whose command is damaged change
nothing and raise, those whose answer is damaged take effect and raise, and the others take
effect and return. A getter afterwards returns the settings that this leaves, or raises if it is
hit itself. -/
theorem setters_over_noise (delivery : Delivery) (reader : Reader) (noise : List Noise)
    (calls : List SetterCall) (hflags : ∀ call ∈ calls, call.FlagsNamed)
    (hshows : ∀ now ∈ noise, now.Shows) :
    let api := peerApi (noisyBehaviour delivery)
    let ended := overNoise calls noise reader.settings
    ∃ client info work,
      runSetters api calls { socket := some ⟨(reader, noise), []⟩ } = (ended.1, client) ∧
      Settings.of info work = ended.2.2 ∧
      ∀ adr, Reaches ended.2.2.address adr →
        (getReaderInfo api adr client).1.toOption =
            (if (ended.2.1.headD .none).passes then some info else none) ∧
          (getWorkMode api adr client).1.toOption =
            (if (ended.2.1.headD .none).passes then some work else none) := by
  obtain ⟨client, reader', hrun, hcurrent, hsettings, hleft⟩ :=
    (UpToDate.connected (noisyBehaviour delivery) (reader, noise)).runSetters_noisy hflags hshows
  refine ⟨client, reader'.decodedInfo, reader'.decodedWorkMode, hrun, hsettings, fun adr hadr => ?_⟩
  have hadr' : Reaches reader'.settings.address adr := by
    rw [hsettings]
    exact hadr
  have hexecute : reader'.execute .getReaderInfo [] = some (reader', ⟨reader'.info, _⟩) := rfl
  have hexecute' : reader'.execute .getWorkMode [] = some (reader', ⟨reader'.workMode, _⟩) := rfl
  constructor
  · refine (hcurrent.getter_noisy (shows_headD hleft) hadr' hexecute
      (fun response => ReaderInfo.fromBytes response.readerAddress response.data)
      "Get reader info").trans ?_
    exact if_congr Iff.rfl (congrArg Except.toOption reader'.fromBytes_info) rfl
  · refine (hcurrent.getter_noisy (shows_headD hleft) hadr' hexecute'
      (fun response => WorkModeInfo.fromBytes response.data) "Get work mode").trans ?_
    exact if_congr Iff.rfl (congrArg Except.toOption reader'.fromBytes_workMode) rfl

/-! ## The last bit flipped -/

/-- The lowest bit of the last byte is flipped. -/
def flipEnd (raw : Bytes) : Bytes :=
  raw.dropLast ++ (raw.getLast?.map (· ^^^ 1)).toList

theorem flipEnd_concat (init : Bytes) (b : UInt8) : flipEnd (init ++ [b]) = init ++ [b ^^^ 1] := by
  rw [flipEnd, List.dropLast_concat, List.getLast?_concat]
  rfl

theorem detectable_flipEnd (init : Bytes) (b : UInt8) :
    Detectable (init ++ [b]) (flipEnd (init ++ [b])) := by
  have hlen : (init ++ [b ^^^ 1]).length = (init ++ [b]).length := by
    rw [List.length_append, List.length_append]
    rfl
  have hmem (i : ℕ) : i ∈ ShiftRegister.differing (bits (init ++ [b])) (bits (init ++ [b ^^^ 1])) ↔
      i < (bits init).length + 8 ∧
        (bits init ++ bits [b])[i]? ≠ (bits init ++ bits [b ^^^ 1])[i]? := by
    rw [ShiftRegister.differing, Finset.mem_filter, Finset.mem_range, bits_append, bits_append,
      List.length_append, length_bits [b]]
    exact Iff.rfl
  rw [flipEnd_concat]
  refine ⟨hlen, Or.inr (Or.inr (Or.inr (Or.inr ?_)))⟩
  refine ⟨⟨(bits init).length, ?_⟩, (bits init).length, ?_⟩
  · refine (hmem _).mpr ⟨Nat.lt_add_of_pos_right (by decide), fun heq => ?_⟩
    rw [List.getElem?_append_right (le_refl _), List.getElem?_append_right (le_refl _),
      Nat.sub_self] at heq
    have hbit : b.toNat.testBit 0 = (b ^^^ 1).toNat.testBit 0 := Option.some.inj heq
    rw [UInt8.toNat_xor, Nat.testBit_xor] at hbit
    revert hbit
    cases b.toNat.testBit 0 <;> exact Bool.noConfusion
  · intro i hi
    obtain ⟨hlt, hne⟩ := (hmem i).mp hi
    have hlast : i < (bits init).length + 16 := hlt.trans_le (Nat.add_le_add_left (by decide) _)
    refine ⟨Nat.le_of_not_lt fun hbefore => hne ?_, hlast⟩
    rw [List.getElem?_append_left hbefore, List.getElem?_append_left hbefore]

theorem garbled_flipEnd (reply : Reply) : Garbled reply (flipEnd reply.raw) := by
  have hblock := isBlock_raw reply.notHeartbeat
  have hnonempty : reply.frame.raw ≠ [] := List.cons_ne_nil _ _
  obtain ⟨init, b, hraw⟩ : ∃ init b, reply.frame.raw = init ++ [b] :=
    ⟨_, _, (List.dropLast_append_getLast hnonempty).symm⟩
  obtain ⟨first, tail, hfirst, _, htotal⟩ := hblock.length_eq
  have hsix := hblock.six_le
  rw [hraw, List.length_append] at hsix htotal
  have hinit : 5 ≤ init.length := Nat.le_of_succ_le_succ hsix
  obtain ⟨first', init, rfl⟩ :=
    List.exists_cons_of_length_pos (Nat.lt_of_lt_of_le (by decide) hinit)
  obtain ⟨rfl, _⟩ := List.cons.inj (hraw.symm.trans hfirst)
  have hflip : flipEnd reply.raw = first' :: init ++ [b ^^^ 1] := by
    rw [Reply.raw, hraw, flipEnd_concat]
  refine ⟨?_, ?_, fun hbeat => ?_⟩
  · rw [Reply.raw, hraw]
    exact detectable_flipEnd _ b
  · rw [hflip, Reply.raw, hraw]
    rfl
  · -- the marker says that there are more than six bytes
    rw [hflip] at hbeat
    have hmarker : first' = byteOf heartbeatMarker := List.head_eq_of_cons_eq hbeat
    have hlong : heartbeatLength ≤ (first' :: init).length := by
      have hord : ord first' = 86 := hmarker ▸ rfl
      rw [hord] at htotal
      have hcount : (first' :: init).length + 1 = 87 := Int.ofNat_inj.mp htotal
      rw [Nat.add_right_cancel hcount]
      decide
    refine reply.notHeartbeat ?_
    rw [hraw, List.take_append_of_le_length hlong]
    rwa [List.take_append_of_le_length hlong] at hbeat

theorem shows_flipEnd : (Noise.command flipEnd).Shows ∧ (Noise.answer flipEnd).Shows := by
  refine ⟨fun f => ?_, garbled_flipEnd⟩
  have hnonempty : f.raw ≠ [] := List.cons_ne_nil _ _
  rw [← List.dropLast_append_getLast hnonempty]
  exact detectable_flipEnd _ _

/-- Of three calls the first command and the second answer are hit. The first call changes
nothing, the second takes effect and raises, the third returns. -/
theorem setters_over_noise_flipped :
    let whole : Delivery := ⟨fun raw => [raw].filter (· ≠ []), by simp, fun raw => by
      cases raw <;> simp⟩
    let api := peerApi (noisyBehaviour whole)
    let reader : Reader := ⟨0, 2, 1, 9, 3, 62, 64, 30, 10, 0, 30, 10, 15, 0, 0, 4, 0, 1, 0, 8, 0⟩
    let noise := [.command flipEnd, .answer flipEnd]
    let calls : List SetterCall :=
      [.setPower (.int 0) (.int 20), .setScanTime (.int 0) (.int 25), .setAddress (.int 0) (.int 7)]
    ∃ client info,
      runSetters api calls { socket := some ⟨(reader, noise), []⟩ } =
        ([.setAddress (.int 0) (.int 7)], client) ∧
      (getReaderInfo api (.int 7) client).1 = .ok info ∧ info.address = 7 ∧ info.power = 30 ∧
      info.scanTime = 25 := by
  intro whole api reader noise calls
  obtain ⟨client, info, work, hrun, hsettings, hread⟩ :=
    setters_over_noise whole reader noise calls (by simp [calls, SetterCall.FlagsNamed])
      (List.forall_mem_cons.mpr ⟨shows_flipEnd.1, List.forall_mem_singleton.mpr shows_flipEnd.2⟩)
  have hreturned : (overNoise calls noise reader.settings).1 = [.setAddress (.int 0) (.int 7)] := by
    decide +kernel
  have hleft : (overNoise calls noise reader.settings).2.1 = [] :=
    List.isEmpty_iff.mp (by decide +kernel)
  have hfinal : (overNoise calls noise reader.settings).2.2 =
      { reader.settings with scanTime := 25, address := 7 } := by
    decide +kernel
  rw [hreturned] at hrun
  rw [hfinal] at hsettings hread
  obtain ⟨hinfo, _⟩ := hread (.int 7) (Or.inl rfl)
  rw [hleft] at hinfo
  refine ⟨client, info, hrun, ?_, congrArg Settings.address hsettings,
    congrArg Settings.power hsettings, congrArg Settings.scanTime hsettings⟩
  cases hresult : (getReaderInfo api (.int 7) client).1 <;> rw [hresult] at hinfo <;> cases hinfo
  rfl

end UhfReader18
