import Mathlib.Data.Finset.Card
import Mathlib.Data.List.Basic
import Mathlib.Data.List.Pairwise
import Mathlib.Data.Nat.Find
import Mathlib.Data.Nat.ModEq
import Mathlib.Order.Iterate
import Mathlib.Tactic.Common

/-!
# Incremental deframing

A deframer looks at the front of a buffer. Either it takes one message off, or
it asks for more input. A receiver that gets its input in pieces runs the rule
until it asks for more, keeps what is left, and goes on when the next piece
arrives.

Three conditions on the rule make the pieces invisible: a message is never
empty, a decision depends only on the elements the message takes (`self`), and
elements that arrive later never change it (`stable`).

Results:
1. `messages_append`, `pending_append`: running over `a ++ b` is running over
   `a` and then over what was left of `a` followed by `b`.
2. `segments_append_pending`: messages and rest are the input, cut into
   consecutive segments.
3. `Relabels.messages_eq`, `Relabels.pending_eq`: rules that cut the same way keep in
   step.
4. `messages_items`, `pending_items`: on a concatenation of complete messages
   the run gives exactly these messages.
5. `exists_cut`: a prefix of such a concatenation is some of the
   messages and the beginning of the next one.
6. `spans_pairwise`, `exists_of_mem_spans`: the segments lie one behind the
   other.
7. `Endless.mem_messages_window`, `Endless.exists_boundary_le`: on an endless
   input the messages start at the boundaries, and on one that repeats itself a
   message that ever comes is among the first ones.
-/

/-- A rule that takes messages off the front of a buffer: `next buf = some (n, e)`
says that the first `n` elements of `buf` are one message, which means `e`;
`next buf = none` asks for more input. -/
structure Deframer (α ε : Type*) where
  next : List α → Option (ℕ × ε)
  pos : ∀ {buf n e}, next buf = some (n, e) → 0 < n
  within : ∀ {buf n e}, next buf = some (n, e) → n ≤ buf.length
  self : ∀ {buf n e}, next buf = some (n, e) → next (buf.take n) = some (n, e)
  stable : ∀ {buf n e}, next buf = some (n, e) → ∀ more, next (buf ++ more) = some (n, e)

namespace Deframer

variable {α ε : Type*} (D : Deframer α ε)

theorem length_drop_lt {buf : List α} {n : ℕ} {e : ε} (h : D.next buf = some (n, e)) :
    (buf.drop n).length < buf.length := by
  have hpos := D.pos h
  have hle := D.within h
  rw [List.length_drop]
  omega

/-! ## Running the rule -/

/-- The messages the rule takes off `buf` until it asks for more, each with the
elements it took. -/
def messages (buf : List α) : List (List α × ε) :=
  match _h : D.next buf with
  | none => []
  | some (n, e) => (buf.take n, e) :: messages (buf.drop n)
termination_by buf.length
decreasing_by exact D.length_drop_lt _h

/-- What is left of `buf` when the rule asks for more. -/
def pending (buf : List α) : List α :=
  match _h : D.next buf with
  | none => buf
  | some (n, _) => pending (buf.drop n)
termination_by buf.length
decreasing_by exact D.length_drop_lt _h

variable {D}

theorem messages_of_none {buf : List α} (h : D.next buf = none) : D.messages buf = [] := by
  rw [messages.eq_def]
  split
  · rfl
  · next h' => rw [h] at h'; cases h'

theorem messages_of_some {buf : List α} {n : ℕ} {e : ε} (h : D.next buf = some (n, e)) :
    D.messages buf = (buf.take n, e) :: D.messages (buf.drop n) := by
  rw [messages.eq_def]
  split
  · next h' => rw [h] at h'; cases h'
  · next h' => rw [h] at h'; cases h'; rfl

theorem pending_of_none {buf : List α} (h : D.next buf = none) : D.pending buf = buf := by
  rw [pending.eq_def]
  split
  · rfl
  · next h' => rw [h] at h'; cases h'

theorem pending_of_some {buf : List α} {n : ℕ} {e : ε} (h : D.next buf = some (n, e)) :
    D.pending buf = D.pending (buf.drop n) := by
  rw [pending.eq_def]
  split
  · next h' => rw [h] at h'; cases h'
  · next h' => rw [h] at h'; cases h'; rfl

/-- Induction along a run: either the rule asks for more, or it takes a message
and the claim is known of what is behind it. -/
theorem run_induction {P : List α → Prop}
    (stop : ∀ buf, D.next buf = none → P buf)
    (take : ∀ buf n e, D.next buf = some (n, e) → P (buf.drop n) → P buf)
    (buf : List α) : P buf := by
  induction hl : buf.length using Nat.strongRecOn generalizing buf with
  | ind l ih =>
    subst hl
    cases h : D.next buf with
    | none => exact stop buf h
    | some m =>
      obtain ⟨n, e⟩ := m
      exact take buf n e h (ih _ (D.length_drop_lt h) _ rfl)

variable (D)

@[simp]
theorem next_nil : D.next [] = none := by
  cases h : D.next [] with
  | none => rfl
  | some m =>
    obtain ⟨n, e⟩ := m
    have hpos := D.pos h
    have hle := D.within h
    simp at hle
    omega

@[simp]
theorem next_pending (buf : List α) : D.next (D.pending buf) = none := by
  induction buf using D.run_induction with
  | stop buf h => rw [pending_of_none h, h]
  | take buf n e h ih => rw [pending_of_some h, ih]

@[simp]
theorem messages_pending (buf : List α) : D.messages (D.pending buf) = [] :=
  messages_of_none (D.next_pending buf)

@[simp]
theorem pending_pending (buf : List α) : D.pending (D.pending buf) = D.pending buf :=
  pending_of_none (D.next_pending buf)

@[simp]
theorem messages_nil : D.messages [] = [] :=
  messages_of_none D.next_nil

@[simp]
theorem pending_nil : D.pending [] = [] :=
  pending_of_none D.next_nil

/-! ## Input that arrives in pieces -/

theorem messages_append (a b : List α) :
    D.messages (a ++ b) = D.messages a ++ D.messages (D.pending a ++ b) := by
  induction a using D.run_induction with
  | stop a h => rw [messages_of_none h, pending_of_none h, List.nil_append]
  | take a n e h ih =>
    have hle := D.within h
    rw [messages_of_some (D.stable h b), List.take_append_of_le_length hle,
      List.drop_append_of_le_length hle, ih, messages_of_some h, pending_of_some h,
      List.cons_append]

theorem pending_append (a b : List α) :
    D.pending (a ++ b) = D.pending (D.pending a ++ b) := by
  induction a using D.run_induction with
  | stop a h => rw [pending_of_none h]
  | take a n e h ih =>
    rw [pending_of_some (D.stable h b), List.drop_append_of_le_length (D.within h), ih,
      pending_of_some h]

/-- The messages and the rest are the input, cut into consecutive segments. -/
theorem segments_append_pending (buf : List α) :
    (D.messages buf).flatMap Prod.fst ++ D.pending buf = buf := by
  induction buf using D.run_induction with
  | stop buf h => rw [messages_of_none h, pending_of_none h, List.flatMap_nil, List.nil_append]
  | take buf n e h ih =>
    rw [messages_of_some h, pending_of_some h, List.flatMap_cons, List.append_assoc, ih,
      List.take_append_drop]

/-- A piece that completes no message is kept whole. -/
theorem pending_eq_of_messages_nil {buf : List α} (h : D.messages buf = []) :
    D.pending buf = buf := by
  simpa [h] using D.segments_append_pending buf

/-! ## Rules that cut the same way -/

/-- `D'` takes the same messages as `D` and gives them another meaning. -/
def Relabels {δ : Type*} (f : ε → δ) (D : Deframer α ε) (D' : Deframer α δ) : Prop :=
  ∀ buf, D'.next buf = (D.next buf).map fun m => (m.1, f m.2)

namespace Relabels

variable {δ : Type*} {f : ε → δ} {D : Deframer α ε} {D' : Deframer α δ}

theorem messages_eq (h : Relabels f D D') (buf : List α) :
    D'.messages buf = (D.messages buf).map fun m => (m.1, f m.2) := by
  induction buf using D.run_induction with
  | stop buf hn =>
    have hn' : D'.next buf = none := by rw [h, hn, Option.map_none]
    rw [messages_of_none hn, messages_of_none hn', List.map_nil]
  | take buf n e hn ih =>
    have hn' : D'.next buf = some (n, f e) := by rw [h, hn, Option.map_some]
    rw [messages_of_some hn, messages_of_some hn', ih, List.map_cons]

theorem pending_eq (h : Relabels f D D') (buf : List α) : D'.pending buf = D.pending buf := by
  induction buf using D.run_induction with
  | stop buf hn =>
    have hn' : D'.next buf = none := by rw [h, hn, Option.map_none]
    rw [pending_of_none hn, pending_of_none hn']
  | take buf n e hn ih =>
    have hn' : D'.next buf = some (n, f e) := by rw [h, hn, Option.map_some]
    rw [pending_of_some hn, pending_of_some hn', ih]

end Relabels

/-! ## Complete messages -/

/-- `m` is one complete message: the rule takes all of `m.1`, meaning `m.2`. -/
def Complete (m : List α × ε) : Prop :=
  D.next m.1 = some (m.1.length, m.2)

variable {D}

theorem Complete.ne_nil {m : List α × ε} (h : D.Complete m) : m.1 ≠ [] := by
  rw [← List.length_pos_iff]
  exact D.pos h

theorem complete_of_mem {buf : List α} {m : List α × ε} (hm : m ∈ D.messages buf) :
    D.Complete m := by
  induction buf using D.run_induction with
  | stop buf h => rw [messages_of_none h] at hm; cases hm
  | take buf n e h ih =>
    rw [messages_of_some h, List.mem_cons] at hm
    rcases hm with rfl | hm
    · have hlen : (buf.take n).length = n := List.length_take_of_le (D.within h)
      show D.next (buf.take n) = some ((buf.take n).length, e)
      rw [hlen]
      exact D.self h
    · exact ih hm

/-- A complete message is taken off whatever follows it. -/
theorem Complete.messages_append {m : List α × ε} (h : D.Complete m) (more : List α) :
    D.messages (m.1 ++ more) = m :: D.messages more := by
  rw [messages_of_some (D.stable h more), List.take_left, List.drop_left]

theorem Complete.pending_append {m : List α × ε} (h : D.Complete m) (more : List α) :
    D.pending (m.1 ++ more) = D.pending more := by
  rw [pending_of_some (D.stable h more), List.drop_left]

/-- The beginning of a complete message asks for more input. -/
theorem Complete.next_of_part {m : List α × ε} (h : D.Complete m) {p : List α}
    (hp : p <+: m.1) (hl : p.length < m.1.length) : D.next p = none := by
  cases hn : D.next p with
  | none => rfl
  | some q =>
    obtain ⟨n, e⟩ := q
    obtain ⟨more, hmore⟩ := hp
    have hwhole := D.stable hn more
    rw [hmore, h, Option.some.injEq, Prod.mk.injEq] at hwhole
    have hle := D.within hn
    omega

/-- On complete messages followed by anything the run gives these messages
first. -/
theorem messages_items {items : List (List α × ε)} (h : ∀ m ∈ items, D.Complete m)
    (more : List α) :
    D.messages (items.flatMap Prod.fst ++ more) = items ++ D.messages more := by
  induction items with
  | nil => rfl
  | cons m items ih =>
    rw [List.flatMap_cons, List.append_assoc,
      (h m List.mem_cons_self).messages_append,
      ih fun m' hm' => h m' (List.mem_cons_of_mem m hm'), List.cons_append]

theorem pending_items {items : List (List α × ε)} (h : ∀ m ∈ items, D.Complete m)
    (more : List α) :
    D.pending (items.flatMap Prod.fst ++ more) = D.pending more := by
  induction items with
  | nil => rfl
  | cons m items ih =>
    rw [List.flatMap_cons, List.append_assoc,
      (h m List.mem_cons_self).pending_append,
      ih fun m' hm' => h m' (List.mem_cons_of_mem m hm')]

/-- A prefix of a concatenation of messages is the first `k` of them and a
proper beginning of the next one, if there is one. -/
theorem exists_cut {items : List (List α × ε)} {p : List α}
    (hp : p <+: items.flatMap Prod.fst) :
    ∃ k part, k ≤ items.length ∧ p = (items.take k).flatMap Prod.fst ++ part ∧
      (part = [] ∨ ∃ m, items[k]? = some m ∧ part <+: m.1 ∧ part.length < m.1.length) := by
  induction items generalizing p with
  | nil => exact ⟨0, [], Nat.le_refl _, by simpa using hp, Or.inl rfl⟩
  | cons m items ih =>
    rw [List.flatMap_cons] at hp
    by_cases hl : p.length < m.1.length
    · have hpm : p <+: m.1 :=
        List.prefix_of_prefix_length_le hp (List.prefix_append _ _) (Nat.le_of_lt hl)
      exact ⟨0, p, Nat.zero_le _, by simp, Or.inr ⟨m, rfl, hpm, hl⟩⟩
    · obtain ⟨q, rfl⟩ : m.1 <+: p :=
        List.prefix_of_prefix_length_le (List.prefix_append _ _) hp (Nat.not_lt.mp hl)
      obtain ⟨k, part, hk, rfl, hpart⟩ := ih ((List.prefix_append_right_inj _).mp hp)
      exact ⟨k + 1, part, Nat.succ_le_succ hk, by simp, by simpa using hpart⟩

/-- The cut of `exists_cut` leaves nothing for the rule to take. -/
theorem next_part {items : List (List α × ε)} (h : ∀ m ∈ items, D.Complete m) {k : ℕ}
    {part : List α}
    (hpart : part = [] ∨ ∃ m, items[k]? = some m ∧ part <+: m.1 ∧ part.length < m.1.length) :
    D.next part = none := by
  rcases hpart with rfl | ⟨m, hm, hpre, hlt⟩
  · exact D.next_nil
  · exact (h m (List.mem_of_getElem? hm)).next_of_part hpre hlt

/-! ## Where the segments lie -/

/-- An interval of positions, `stop` not included. -/
structure Span where
  start : ℕ
  stop : ℕ
  deriving DecidableEq, Repr

def Span.Before (a b : Span) : Prop := a.stop ≤ b.start

/-- Where consecutive segments lie when the first one starts at `start`. -/
def spans : ℕ → List (List α × ε) → List (Span × ε)
  | _, [] => []
  | start, m :: ms =>
    (⟨start, start + m.1.length⟩, m.2) :: spans (start + m.1.length) ms

theorem map_snd_spans (start : ℕ) (ms : List (List α × ε)) :
    (spans start ms).map Prod.snd = ms.map Prod.snd := by
  induction ms generalizing start with
  | nil => rfl
  | cons m ms ih => rw [spans, List.map_cons, List.map_cons, ih]

/-- A span belongs to a segment: it starts where the segments before it end. -/
theorem exists_of_mem_spans {start : ℕ} {ms : List (List α × ε)} {p : Span × ε}
    (hp : p ∈ spans start ms) :
    ∃ before m after, ms = before ++ m :: after ∧ p.2 = m.2 ∧
      p.1.start = start + (before.flatMap Prod.fst).length ∧
      p.1.stop = p.1.start + m.1.length := by
  induction ms generalizing start with
  | nil => cases hp
  | cons m ms ih =>
    rw [spans, List.mem_cons] at hp
    rcases hp with rfl | hp
    · exact ⟨[], m, ms, rfl, rfl, rfl, rfl⟩
    · obtain ⟨before, m', after, rfl, hsnd, hstart, hstop⟩ := ih hp
      refine ⟨m :: before, m', after, rfl, hsnd, ?_, hstop⟩
      rw [hstart, List.flatMap_cons, List.length_append, Nat.add_assoc]

theorem spans_pairwise (start : ℕ) (ms : List (List α × ε)) :
    (spans start ms).Pairwise fun p q => p.1.Before q.1 := by
  induction ms generalizing start with
  | nil => exact List.Pairwise.nil
  | cons m ms ih =>
    refine List.Pairwise.cons (fun q hq => ?_) (ih _)
    obtain ⟨before, _, _, _, _, hstart, _⟩ := exists_of_mem_spans hq
    show start + m.1.length ≤ q.1.start
    omega

/-- Two different entries do not overlap. -/
theorem spans_disjoint {start : ℕ} {ms : List (List α × ε)} {p q : Span × ε}
    (hp : p ∈ spans start ms) (hq : q ∈ spans start ms) (hne : p ≠ q) :
    p.1.Before q.1 ∨ q.1.Before p.1 := by
  have hpair : (spans start ms).Pairwise fun p q => p.1.Before q.1 ∨ q.1.Before p.1 :=
    (spans_pairwise start ms).imp Or.inl
  have hsymm : Std.Symm fun p q : Span × ε => p.1.Before q.1 ∨ q.1.Before p.1 :=
    ⟨fun _ _ => Or.symm⟩
  exact hpair.forall hp hq hne

/-! ## Endless input -/

/-- `n` elements of an endless input, from position `p` on. -/
def window (input : ℕ → α) (p n : ℕ) : List α :=
  (List.range n).map fun k => input (p + k)

@[simp]
theorem length_window (input : ℕ → α) (p n : ℕ) : (window input p n).length = n := by
  simp [window]

theorem window_add (input : ℕ → α) (p m n : ℕ) :
    window input p (m + n) = window input p m ++ window input (p + m) n := by
  unfold window
  rw [List.range_add, List.map_append, List.map_map]
  simp only [Function.comp_def, Nat.add_assoc]

theorem window_take (input : ℕ → α) (p : ℕ) {m n : ℕ} (h : m ≤ n) :
    (window input p n).take m = window input p m := by
  obtain ⟨k, rfl⟩ := Nat.exists_eq_add_of_le h
  rw [window_add, List.take_left' (length_window input p m)]

theorem window_congr {input : ℕ → α} {p q : ℕ} (h : ∀ k, input (p + k) = input (q + k))
    (n : ℕ) : window input p n = window input q n := by
  unfold window
  simp only [h]

/-- An endless input with a message at every position. -/
structure Endless (D : Deframer α ε) where
  input : ℕ → α
  jump : ℕ → ℕ
  event : ℕ → ε
  complete : ∀ p, D.Complete (window input p (jump p), event p)

namespace Endless

variable {D : Deframer α ε} (E : Endless D)

/-- The message at position `p`. -/
def message (p : ℕ) : List α × ε := (window E.input p (E.jump p), E.event p)

/-- Where the message behind the one at `p` starts. -/
def after (p : ℕ) : ℕ := p + E.jump p

/-- Where the `i`-th message starts. -/
def boundary (i : ℕ) : ℕ := E.after^[i] 0

theorem jump_pos (p : ℕ) : 0 < E.jump p := by
  have h := (E.complete p).ne_nil
  rw [← List.length_pos_iff] at h
  simpa using h

theorem le_iterate_after (i p : ℕ) : p ≤ E.after^[i] p :=
  Function.id_le_iterate_of_id_le (fun p => Nat.le_add_right p (E.jump p)) i p

theorem le_boundary (i : ℕ) : i ≤ E.boundary i := by
  unfold boundary
  induction i with
  | zero => exact Nat.le_refl _
  | succ i ih =>
    have hpos := E.jump_pos (E.after^[i] 0)
    rw [Function.iterate_succ_apply', after]
    omega

/-- The messages in a window are the ones whose end it reaches. -/
theorem mem_messages_window (p n : ℕ) (m : List α × ε) :
    m ∈ D.messages (window E.input p n) ↔
      ∃ i, E.after^[i + 1] p ≤ p + n ∧ m = E.message (E.after^[i] p) := by
  induction n using Nat.strongRecOn generalizing p with
  | ind n ih =>
    by_cases hn : E.jump p ≤ n
    · -- the message at `p` is taken, and the window goes on behind it
      obtain ⟨rest, rfl⟩ := Nat.exists_eq_add_of_le hn
      have hpos := E.jump_pos p
      have hmessages := (E.complete p).messages_append (window E.input (p + E.jump p) rest)
      rw [window_add, hmessages, List.mem_cons, ih rest (by omega), ← Nat.add_assoc]
      constructor
      · rintro (rfl | ⟨i, hi, rfl⟩)
        · exact ⟨0, Nat.le_add_right _ _, rfl⟩
        · exact ⟨i + 1, hi, rfl⟩
      · rintro ⟨i, hi, rfl⟩
        cases i with
        | zero => exact Or.inl rfl
        | succ i => exact Or.inr ⟨i, hi, rfl⟩
    · -- the window ends inside the message at `p`
      have hwait : D.next (window E.input p n) = none := by
        refine (E.complete p).next_of_part ?_ ?_
        · rw [← window_take E.input p (Nat.le_of_not_le hn)]
          exact List.take_prefix _ _
        · simpa using hn
      rw [messages_of_none hwait]
      refine iff_of_false List.not_mem_nil ?_
      rintro ⟨i, hi, _⟩
      have hle : p + E.jump p ≤ E.after^[i + 1] p := E.le_iterate_after i (E.after p)
      omega

/-- Two of the first boundaries lie at the same place of the period. -/
theorem exists_boundary_eq_add (start : ℕ) {period : ℕ} (hpos : 0 < period) :
    ∃ i j k, i < j ∧ j ≤ start + period ∧ start ≤ E.boundary i ∧
      E.boundary j = E.boundary i + k * period := by
  have hmaps : ∀ i ∈ Finset.range (period + 1),
      E.boundary (start + i) % period ∈ Finset.range period := fun i _ =>
    Finset.mem_range.mpr (Nat.mod_lt _ hpos)
  obtain ⟨i, hi, j, hj, hne, heq⟩ :=
    Finset.exists_ne_map_eq_of_card_lt_of_maps_to (by simp) hmaps
  rw [Finset.mem_range] at hi hj
  wlog hij : i < j generalizing i j
  · exact this j hj i hi hne.symm heq.symm (lt_of_le_of_ne (Nat.le_of_not_lt hij) hne.symm)
  refine ⟨start + i, start + j, (E.boundary (start + j) - E.boundary (start + i)) / period,
    by omega, by omega, (Nat.le_add_right _ _).trans (E.le_boundary _), ?_⟩
  have hle : E.boundary (start + i) ≤ E.boundary (start + j) := by
    obtain ⟨d, rfl⟩ := Nat.exists_eq_add_of_lt hij
    have hsplit : start + (i + d + 1) = (d + 1) + (start + i) := by omega
    rw [hsplit, boundary, boundary, Function.iterate_add_apply E.after (d + 1)]
    exact E.le_iterate_after _ _
  have hdvd : period ∣ E.boundary (start + j) - E.boundary (start + i) :=
    (Nat.modEq_iff_dvd' hle).mp heq
  rw [Nat.div_mul_cancel hdvd]
  omega

/-! ### Input that repeats itself -/

section Periodic

variable {E} {start period : ℕ} (hperiod : ∀ p, start ≤ p → E.input (p + period) = E.input p)

include hperiod

/-- The same elements are the same message. -/
theorem jump_add_period {p : ℕ} (hp : start ≤ p) :
    E.jump (p + period) = E.jump p ∧ E.message (p + period) = E.message p := by
  have hwindow : ∀ n, window E.input (p + period) n = window E.input p n := by
    refine window_congr fun k => ?_
    rw [Nat.add_right_comm, hperiod _ (Nat.le_add_right_of_le hp)]
  have hnext : ∀ q n, E.jump q ≤ n →
      D.next (window E.input q n) = some (E.jump q, E.event q) := by
    intro q n hn
    obtain ⟨rest, rfl⟩ := Nat.exists_eq_add_of_le hn
    rw [window_add, D.stable (E.complete q), length_window]
  have h := hnext (p + period) _ (Nat.le_max_left _ (E.jump p))
  rw [hwindow, hnext p _ (Nat.le_max_right _ _), Option.some.injEq, Prod.mk.injEq] at h
  refine ⟨h.1.symm, ?_⟩
  rw [message, message, hwindow, h.1, h.2]

theorem after_add_mul {p : ℕ} (hp : start ≤ p) (k : ℕ) :
    E.after (p + k * period) = E.after p + k * period ∧
      E.message (p + k * period) = E.message p := by
  induction k with
  | zero => simp
  | succ k ih =>
    have h := jump_add_period hperiod (Nat.le_add_right_of_le hp : start ≤ p + k * period)
    rw [Nat.succ_mul, ← Nat.add_assoc, h.2, ih.2]
    refine ⟨?_, rfl⟩
    have hafter := ih.1
    unfold after at hafter ⊢
    rw [h.1]
    omega

theorem iterate_after_add_mul {p : ℕ} (hp : start ≤ p) (k i : ℕ) :
    E.after^[i] (p + k * period) = E.after^[i] p + k * period := by
  induction i with
  | zero => rfl
  | succ i ih =>
    rw [Function.iterate_succ_apply', Function.iterate_succ_apply', ih]
    exact (after_add_mul hperiod (hp.trans (E.le_iterate_after i p)) k).1

variable (E) in
/-- What comes at all comes among the first `start + period` messages. -/
theorem exists_boundary_le (hpos : 0 < period) (P : List α × ε → Prop)
    (h : ∃ i, P (E.message (E.boundary i))) :
    ∃ i ≤ start + period, P (E.message (E.boundary i)) := by
  classical
  refine ⟨Nat.find h, Nat.le_of_not_lt fun hlate => ?_, Nat.find_spec h⟩
  obtain ⟨i, j, k, hij, hj, hstart, heq⟩ := E.exists_boundary_eq_add start hpos
  -- the first such message is the same as one a few periods earlier
  obtain ⟨d, hd⟩ := Nat.exists_eq_add_of_lt (lt_of_le_of_lt hj hlate)
  have hfind : E.boundary (Nat.find h) = E.after^[d + 1] (E.boundary i) + k * period := by
    have hsplit : j + d + 1 = (d + 1) + j := by omega
    rw [hd, hsplit, boundary, Function.iterate_add_apply, ← boundary, heq,
      iterate_after_add_mul hperiod hstart]
  have hearlier : E.boundary ((d + 1) + i) = E.after^[d + 1] (E.boundary i) :=
    Function.iterate_add_apply E.after (d + 1) i 0
  refine Nat.find_min h (show (d + 1) + i < Nat.find h by omega) ?_
  have hspec := Nat.find_spec h
  rw [hfind, (after_add_mul hperiod (hstart.trans (E.le_iterate_after _ _)) k).2,
    ← hearlier] at hspec
  exact hspec

end Periodic

end Endless

end Deframer
