import Mathlib.Data.List.GetD
import UhfReader18.Traffic

/-!
# Joining a stream in the middle

A receiver that joins in the middle of a frame reads a payload byte as a length
byte and drops the whole block behind it when the CRC is wrong. From there it
jumps from block to block, and the length bytes it meets decide whether it ever
stands at the start of a frame again.

Here a receiver sees some bytes and then one frame over and over again.

Results:
1. `feedAll_resync_iff`: it reports the frame if and only if one of its first
   jumps takes it to a place where the frame stands.
2. `not_feedAll_resync`: there are frames it never gets to.
-/

namespace UhfReader18

open Deframer (window Endless)

/-! ## Jumping from block to block -/

/-- How many bytes the loop takes at position `p` of an endless input. -/
def jump (input : ℕ → UInt8) (p : ℕ) : ℕ :=
  if window input p heartbeatLength = buildHeartbeat then heartbeatLength
  else if ord (input p) < minFrameLength then 1
  else (ord (input p) + 1).toNat

/-- Where the loop stands after `i` jumps. -/
def boundary (input : ℕ → UInt8) (i : ℕ) : ℕ := (fun p => p + jump input p)^[i] 0

/-- How the loop reports what it takes at position `p`. -/
def eventAt (input : ℕ → UInt8) (p : ℕ) : Event :=
  if window input p heartbeatLength = buildHeartbeat then .heartbeat ⟨buildHeartbeat⟩
  else if ord (input p) < minFrameLength then .error (invalidLengthText (ord (input p)))
  else blockEvent none (window input p (jump input p))

theorem window_succ (input : ℕ → UInt8) (p n : ℕ) :
    window input p (n + 1) = input p :: window input (p + 1) n := by
  rw [Nat.add_comm, Deframer.window_add]
  rfl

theorem message_window (input : ℕ → UInt8) (p : ℕ) :
    Message none (window input p (jump input p)) (eventAt input p) := by
  unfold eventAt
  split
  · next hbeat =>
    rw [jump, if_pos hbeat, hbeat]
    exact .heartbeat
  next hbeat =>
  split
  · next hsmall =>
    rw [jump, if_neg hbeat, if_pos hsmall]
    exact .stray hsmall
  next hlarge =>
  have hjump : jump input p = (ord (input p)).toNat + 1 := by
    have hfirst := ord_nonneg (input p)
    rw [jump, if_neg hbeat, if_neg hlarge]
    omega
  have hmin := not_lt.mp hlarge
  refine .block ⟨⟨input p, window input (p + 1) (ord (input p)).toNat, ?_, hmin, ?_⟩, ?_⟩
  · rw [hjump, window_succ]
  · have hfirst := ord_nonneg (input p)
    rw [Deframer.length_window, hjump]
    omega
  · have hsix : heartbeatLength ≤ jump input p := by
      unfold minFrameLength at hmin
      unfold heartbeatLength
      omega
    rw [Deframer.window_take input p hsix]
    exact hbeat

/-- Every position of an endless input starts a message. -/
def endless (input : ℕ → UInt8) : Endless (deframer none) where
  input := input
  jump := jump input
  event := eventAt input
  complete p := complete_iff.mpr (message_window input p)

/-- The loop reports a frame at exactly the positions where the frame stands. -/
theorem eventAt_eq_frame_iff {raw : Bytes} {frame : RfidResponse}
    (hraw : validateFrame raw = .ok frame) (hbeat : raw.take heartbeatLength ≠ buildHeartbeat)
    (input : ℕ → UInt8) (p : ℕ) :
    eventAt input p = .frame frame ↔ window input p raw.length = raw := by
  obtain ⟨f, rfl⟩ : ∃ f : ResponseFrame, raw = f.raw :=
    (validateFrame_ok_iff.mp hraw).imp fun _ h => h.1
  have hblock := isBlock_raw hbeat
  constructor
  · intro hevent
    have hm := message_window input p
    rw [hevent] at hm
    obtain ⟨_, hbytes, _⟩ := hm.of_frame
    have hframe : frame = f.response := by
      rw [validateFrame_raw] at hraw
      cases hraw
      rfl
    rw [hframe, toBytes_response] at hbytes
    have hwindow : f.raw = window input p (jump input p) := Except.ok.inj hbytes
    have hlen : f.raw.length = jump input p := by
      rw [hwindow, Deframer.length_window]
    rw [hlen]
    exact hwindow.symm
  · intro hwindow
    have hsix := hblock.six_le
    obtain ⟨first, tail, heq, hmin, htotal⟩ := hblock.length_eq
    have hfirst : input p = first := by
      rw [heq, List.length_cons, window_succ] at hwindow
      exact (List.cons_eq_cons.mp hwindow).1
    have hnotBeat : window input p heartbeatLength ≠ buildHeartbeat := by
      rw [← Deframer.window_take input p hsix, hwindow]
      exact hbeat
    have hlarge : ¬ ord (input p) < minFrameLength := hfirst ▸ not_lt.mpr hmin
    have hjump : jump input p = f.raw.length := by
      rw [jump, if_neg hnotBeat, if_neg hlarge, hfirst, ← htotal, Int.toNat_natCast]
    rw [eventAt, if_neg hnotBeat, if_neg hlarge, hjump, hwindow, blockEvent, hraw]

/-! ## One frame over and over again -/

/-- `head`, and then `raw` over and over again. -/
def repeated (head raw : Bytes) (p : ℕ) : UInt8 :=
  if p < head.length then head.getD p 0 else raw.getD ((p - head.length) % raw.length) 0

theorem window_repeated_raw (head raw : Bytes) (n : ℕ) :
    window (repeated head raw) (head.length + n * raw.length) raw.length = raw := by
  refine List.ext_getElem (Deframer.length_window _ _ _) fun k _ hk => ?_
  have hoffset : (head.length + n * raw.length + k - head.length) % raw.length = k := by
    rw [Nat.add_assoc, Nat.add_sub_cancel_left, Nat.add_comm, Nat.add_mul_mod_self_right,
      Nat.mod_eq_of_lt hk]
  simp only [window, List.getElem_map, List.getElem_range, repeated, hoffset]
  rw [if_neg (by omega), List.getD_eq_getElem _ _ hk]

theorem window_repeated (head raw : Bytes) (n : ℕ) :
    window (repeated head raw) 0 (head.length + n * raw.length) =
      head ++ (List.replicate n raw).flatten := by
  induction n with
  | zero =>
    rw [Nat.zero_mul, Nat.add_zero, List.replicate_zero, List.flatten_nil, List.append_nil]
    refine List.ext_getElem (Deframer.length_window _ _ _) fun k _ hk => ?_
    simp only [window, List.getElem_map, List.getElem_range, repeated, Nat.zero_add]
    rw [if_pos hk, List.getD_eq_getElem _ _ hk]
  | succ n ih =>
    rw [Nat.succ_mul, ← Nat.add_assoc, Deframer.window_add, ih, Nat.zero_add,
      window_repeated_raw, List.replicate_succ', List.flatten_append, List.flatten_singleton,
      List.append_assoc]

theorem repeated_add_length (head raw : Bytes) {p : ℕ} (hp : head.length ≤ p) :
    repeated head raw (p + raw.length) = repeated head raw p := by
  unfold repeated
  rw [if_neg (by omega), if_neg (by omega), Nat.sub_add_comm hp, Nat.add_mod_right]

/-- What a fresh buffer reports for `head` and `n` copies of `raw`. -/
theorem feedAll_repeated (head raw : Bytes) (n : ℕ) :
    StreamBuffer.feedAll {} (head :: List.replicate n raw) =
      .ok (⟨leftover none (head ++ (List.replicate n raw).flatten), none⟩,
        parsed none (window (repeated head raw) 0 (head.length + n * raw.length))) := by
  rw [StreamBuffer.feedAll_fresh, window_repeated, List.flatten_cons]

theorem mem_frames_parsed {data : Bytes} {frame : RfidResponse} :
    frame ∈ (parsed none data).frames ↔
      ∃ m ∈ (deframer none).messages data, m.2 = .frame frame := by
  unfold parsed ParseResult.ofEvents
  simp only [List.mem_filterMap, List.mem_map]
  constructor
  · rintro ⟨event, ⟨m, hm, rfl⟩, hframe⟩
    exact ⟨m, hm, eq_frame_of_frame? hframe⟩
  · rintro ⟨m, hm, hframe⟩
    exact ⟨_, ⟨m, hm, rfl⟩, by rw [hframe]; rfl⟩

theorem length_pos_of_valid {raw : Bytes} {frame : RfidResponse}
    (hraw : validateFrame raw = .ok frame) : 0 < raw.length := by
  obtain ⟨f, rfl, _⟩ := validateFrame_ok_iff.mp hraw
  rw [f.length_raw]
  omega

/-- The frame is reported as soon as the loop gets to a place where it stands. -/
theorem exists_feedAll_iff_boundary {raw : Bytes} {frame : RfidResponse}
    (hraw : validateFrame raw = .ok frame) (hbeat : raw.take heartbeatLength ≠ buildHeartbeat)
    (head : Bytes) :
    (∃ n self result, StreamBuffer.feedAll {} (head :: List.replicate n raw) =
        .ok (self, result) ∧ frame ∈ result.frames) ↔
      ∃ i, window (repeated head raw) (boundary (repeated head raw) i) raw.length = raw := by
  let E := endless (repeated head raw)
  have hat := eventAt_eq_frame_iff hraw hbeat (repeated head raw)
  constructor
  · rintro ⟨n, self, result, hrun, hmem⟩
    rw [feedAll_repeated] at hrun
    cases hrun
    obtain ⟨m, hm, hevent⟩ := mem_frames_parsed.mp hmem
    obtain ⟨i, _, rfl⟩ := (E.mem_messages_window 0 _ m).mp hm
    exact ⟨i, (hat _).mp hevent⟩
  · rintro ⟨i, hwindow⟩
    have hlen := length_pos_of_valid hraw
    -- enough copies to reach behind the place
    refine ⟨E.after^[i + 1] 0, _, _, feedAll_repeated head raw _,
      mem_frames_parsed.mpr ⟨E.message (E.boundary i), ?_, ?_⟩⟩
    · refine (E.mem_messages_window 0 _ _).mpr ⟨i, ?_, rfl⟩
      have hreach := Nat.le_mul_of_pos_right (E.after^[i + 1] 0) hlen
      omega
    · exact (hat _).mpr hwindow

/-- Behind `head` the input repeats itself, so the places the loop gets to do. -/
theorem exists_boundary_iff_le {raw : Bytes} {frame : RfidResponse}
    (hraw : validateFrame raw = .ok frame) (hbeat : raw.take heartbeatLength ≠ buildHeartbeat)
    (head : Bytes) :
    (∃ i, window (repeated head raw) (boundary (repeated head raw) i) raw.length = raw) ↔
      ∃ i ≤ head.length + raw.length,
        window (repeated head raw) (boundary (repeated head raw) i) raw.length = raw := by
  have hat := eventAt_eq_frame_iff hraw hbeat (repeated head raw)
  have hlen := length_pos_of_valid hraw
  constructor
  · intro h
    obtain ⟨i, hi, hevent⟩ := (endless (repeated head raw)).exists_boundary_le
      (fun p hp => repeated_add_length head raw hp) hlen (fun m => m.2 = .frame frame)
      (h.imp fun i hi => (hat _).mpr hi)
    exact ⟨i, hi, (hat _).mp hevent⟩
  · rintro ⟨i, _, hi⟩
    exact ⟨i, hi⟩

/-- When the receiver gets into step. Feed a fresh buffer with `head` and copies of
a valid frame: the frame is reported for some number of copies if and only if one of
the first `head.length + raw.length` jumps of the loop ends where the frame stands. -/
theorem feedAll_resync_iff (head raw : Bytes) (frame : RfidResponse)
    (hraw : validateFrame raw = .ok frame)
    (hbeat : raw.take heartbeatLength ≠ buildHeartbeat) :
    (∃ n self result, StreamBuffer.feedAll {} (head :: List.replicate n raw) =
        .ok (self, result) ∧ frame ∈ result.frames) ↔
      ∃ i ≤ head.length + raw.length,
        window (repeated head raw) (boundary (repeated head raw) i) raw.length = raw :=
  (exists_feedAll_iff_boundary hraw hbeat head).trans (exists_boundary_iff_le hraw hbeat head)

/-- An inventory report with no data, from the reader at address 5. -/
def reportExample : ResponseFrame := ⟨5, 0xEE, 0, [], ResponseFrame.fits_nil⟩

/-- After a stray byte the receiver is in step with the reports at once. -/
theorem feedAll_resync_stray :
    ∃ n self result, StreamBuffer.feedAll {} ([1] :: List.replicate n reportExample.raw) =
      .ok (self, result) ∧ reportExample.response ∈ result.frames :=
  (feedAll_resync_iff [1] reportExample.raw reportExample.response
    (validateFrame_raw reportExample) (by decide +kernel)).mpr ⟨1, by decide, by decide +kernel⟩

/-- The receiver that missed the first byte of the report never gets into step: its
length byte 5 is followed by the address 5, which reads as a length byte again. -/
theorem not_feedAll_resync :
    ¬ ∀ (head raw : Bytes) (frame : RfidResponse), validateFrame raw = .ok frame →
      raw.take heartbeatLength ≠ buildHeartbeat →
      ∃ n self result, StreamBuffer.feedAll {} (head :: List.replicate n raw) =
        .ok (self, result) ∧ frame ∈ result.frames := by
  intro h
  have hraw := validateFrame_raw reportExample
  have hbeat : reportExample.raw.take heartbeatLength ≠ buildHeartbeat := by decide +kernel
  have hreported := h reportExample.raw.tail reportExample.raw reportExample.response hraw hbeat
  rw [exists_feedAll_iff_boundary hraw hbeat, exists_boundary_iff_le hraw hbeat] at hreported
  revert hreported
  decide +kernel

end UhfReader18
