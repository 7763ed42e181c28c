import Mathlib.Algebra.GroupWithZero.Nat
import Mathlib.Computability.Language
import Mathlib.Order.CompletePartialOrder
import UhfReader18.Stateful

/-!
# Programs that are on record

A record of what a program has done is kept in its state and only grows. A program follows a
language if what it has put on record is a word of the language when it returns, and the
beginning of a word when it raises. Programs one after another follow the product of their
languages.

A record may be added to any state: the program then is the same on a larger state.

Results:
1. `Lifts.bind`, `Lifts.catch`: a larger program is made of larger parts.
2. `Follows.bind`, `Follows.forM`: languages multiply along a program.
3. `length_le_of_mem_script`: a script bounds what is put on record.
-/

namespace Stateful

variable {ε σ τ ι α β : Type}

/-! ## The same program on a larger state -/

/-- A result, when only a part of the state is looked at. -/
def viewed (view : τ → σ) : EStateM.Result ε τ α → EStateM.Result ε σ α
  | .ok a t => .ok a (view t)
  | .error e t => .error e (view t)

/-- The larger program does to the view of its state what the program does, and returns or
raises the same. -/
def Lifts (view : τ → σ) (larger : EStateM ε τ α) (program : EStateM ε σ α) : Prop :=
  ∀ t, viewed view (larger t) = program (view t)

section

variable {view : τ → σ}

theorem Lifts.pure (a : α) :
    Lifts view (Pure.pure a : EStateM ε τ α) (Pure.pure a : EStateM ε σ α) :=
  fun _ => rfl

theorem Lifts.throw (e : ε) :
    Lifts view (throw e : EStateM ε τ α) (throw e : EStateM ε σ α) :=
  fun _ => rfl

theorem Lifts.ofExcept (x : Except ε α) :
    Lifts view (MonadExcept.ofExcept x : EStateM ε τ α)
      (MonadExcept.ofExcept x : EStateM ε σ α) := by
  cases x <;> exact fun _ => rfl

theorem Lifts.bind {larger : EStateM ε τ α} {program : EStateM ε σ α} {next : α → EStateM ε τ β}
    {next' : α → EStateM ε σ β} (h : Lifts view larger program)
    (hnext : ∀ a, Lifts view (next a) (next' a)) :
    Lifts view (larger >>= next) (program >>= next') := by
  intro t
  have hfirst := h t
  cases hrun : larger t with
  | ok a t' =>
    rw [hrun] at hfirst
    rw [bind_of_ok hrun, bind_of_ok hfirst.symm]
    exact hnext a t'
  | error e t' =>
    rw [hrun] at hfirst
    rw [bind_of_error hrun, bind_of_error hfirst.symm]
    rfl

theorem Lifts.get_bind {next : τ → EStateM ε τ β} {next' : σ → EStateM ε σ β}
    (h : ∀ t, Lifts view (next t) (next' (view t))) :
    Lifts view (get >>= next) (get >>= next') :=
  fun t => h t t

theorem Lifts.catch {larger : EStateM ε τ α} {program : EStateM ε σ α} {handler : ε → EStateM ε τ α}
    {handler' : ε → EStateM ε σ α} (h : Lifts view larger program)
    (hhandler : ∀ e, Lifts view (handler e) (handler' e)) :
    Lifts view (tryCatch larger handler) (tryCatch program handler') := by
  intro t
  have hfirst := h t
  simp only [tryCatch, tryCatchThe, MonadExceptOf.tryCatch, EStateM.tryCatch]
  cases hrun : larger t with
  | ok a t' =>
    rw [hrun] at hfirst
    rw [← hfirst]
    rfl
  | error e t' =>
    rw [hrun] at hfirst
    rw [← hfirst]
    exact hhandler e t'

theorem Lifts.mapM {larger : α → EStateM ε τ β} {program : α → EStateM ε σ β} {elements : List α}
    (h : ∀ a ∈ elements, Lifts view (larger a) (program a)) :
    Lifts view (elements.mapM larger) (elements.mapM program) := by
  induction elements with
  | nil => exact Lifts.pure _
  | cons a elements ih =>
    rw [List.forall_mem_cons] at h
    rw [List.mapM_cons, List.mapM_cons]
    exact h.1.bind fun _ => (ih h.2).bind fun _ => Lifts.pure _

theorem Lifts.forM {larger : α → EStateM ε τ PUnit} {program : α → EStateM ε σ PUnit}
    {elements : List α} (h : ∀ a ∈ elements, Lifts view (larger a) (program a)) :
    Lifts view (forM elements larger) (forM elements program) := by
  induction elements with
  | nil => exact Lifts.pure _
  | cons a elements ih =>
    rw [List.forall_mem_cons] at h
    rw [List.forM_cons, List.forM_cons]
    exact h.1.bind fun _ => ih h.2

theorem Lifts.finalize {larger : EStateM ε τ α} {program : EStateM ε σ α}
    {finalizer : EStateM ε τ PUnit} {finalizer' : EStateM ε σ PUnit} (h : Lifts view larger program)
    (hfinal : Lifts view finalizer finalizer') :
    Lifts view (tryFinally larger finalizer) (tryFinally program finalizer') := by
  intro t
  have hfirst := h t
  simp only [tryFinally, tryFinally', Functor.map, EStateM.map]
  cases hrun : larger t with
  | ok a t' =>
    rw [hrun] at hfirst
    have hlast := hfinal t'
    rw [← hfirst]
    cases hclose : finalizer t' <;> rw [hclose] at hlast <;> simp only [viewed, hclose, ← hlast]
  | error e t' =>
    rw [hrun] at hfirst
    have hlast := hfinal t'
    rw [← hfirst]
    cases hclose : finalizer t' <;> rw [hclose] at hlast <;> simp only [viewed, hclose, ← hlast]

end

/-! ## Languages -/

/-- One to `n` times the same. -/
def upTo (a : ι) (n : ℕ) : Language ι :=
  fun word => ∃ k, 1 ≤ k ∧ k ≤ n ∧ word = List.replicate k a

theorem replicate_mem_upTo {a : ι} {k n : ℕ} (hpos : 1 ≤ k) (hle : k ≤ n) :
    List.replicate k a ∈ upTo a n :=
  ⟨k, hpos, hle, rfl⟩

/-- The words of a script, a list of what is done and how often at most: each item at least
once, in order. -/
def script (items : List (ι × ℕ)) : Language ι :=
  (items.map fun item => upTo item.1 item.2).prod

theorem script_nil : script ([] : List (ι × ℕ)) = 1 := rfl

theorem script_cons (item : ι × ℕ) (items : List (ι × ℕ)) :
    script (item :: items) = upTo item.1 item.2 * script items :=
  List.prod_cons

theorem script_append (items items' : List (ι × ℕ)) :
    script (items ++ items') = script items * script items' := by
  rw [script, List.map_append, List.prod_append]
  rfl

theorem length_le_of_mem_script {items : List (ι × ℕ)} {word : List ι} (h : word ∈ script items) :
    word.length ≤ (items.map Prod.snd).sum := by
  induction items generalizing word with
  | nil => exact (congrArg List.length ((Language.mem_one word).mp h)).le
  | cons item items ih =>
    rw [script_cons, Language.mem_mul] at h
    obtain ⟨_, ⟨k, _, hk, rfl⟩, rest, hrest, rfl⟩ := h
    rw [List.length_append, List.length_replicate, List.map_cons, List.sum_cons]
    exact Nat.add_le_add hk (ih hrest)

/-- Only what is in the script is done. -/
theorem exists_of_mem_script {items : List (ι × ℕ)} {word : List ι} (h : word ∈ script items)
    {a : ι} (ha : a ∈ word) : ∃ item ∈ items, item.1 = a := by
  induction items generalizing word with
  | nil =>
    rw [(Language.mem_one word).mp h] at ha
    exact absurd ha List.not_mem_nil
  | cons item items ih =>
    rw [script_cons, Language.mem_mul] at h
    obtain ⟨_, ⟨k, _, _, rfl⟩, rest, hrest, rfl⟩ := h
    rcases List.mem_append.mp ha with ha | ha
    · exact ⟨item, List.mem_cons_self, (List.eq_of_mem_replicate ha).symm⟩
    · obtain ⟨other, hother, heq⟩ := ih hrest ha
      exact ⟨other, List.mem_cons_of_mem _ hother, heq⟩

/-! ## Programs that follow a language -/

/-- What a program that returned has put on record is a word, and what one that raised has is
the beginning of a word. -/
def Recorded (log : σ → List ι) (L : Language ι) (before : List ι) :
    EStateM.Result ε σ α → Prop
  | .ok _ s => ∃ word ∈ L, log s = before ++ word
  | .error _ s => ∃ word ∈ L, ∃ done, done <+: word ∧ log s = before ++ done

def Follows (log : σ → List ι) (L : Language ι) (program : EStateM ε σ α) : Prop :=
  ∀ s, Recorded log L (log s) (program s)

section

variable {log : σ → List ι} {L L' : Language ι}

theorem Recorded.exists_mem {before : List ι} {result : EStateM.Result ε σ α}
    (h : Recorded log L before result) : ∃ word, word ∈ L := by
  cases result with
  | ok a s => exact ⟨h.choose, h.choose_spec.1⟩
  | error e s => exact ⟨h.choose, h.choose_spec.1⟩

/-- Returned or raised, what is on record is the beginning of a word. -/
theorem Recorded.exists_beginning {before : List ι} {result : EStateM.Result ε σ α}
    (h : Recorded log L before result) :
    ∃ word ∈ L, ∃ done, done <+: word ∧ log (finalState result) = before ++ done := by
  cases result with
  | ok a s =>
    obtain ⟨word, hword, hlog⟩ := h
    exact ⟨word, hword, word, List.prefix_refl word, hlog⟩
  | error e s => exact h

theorem Recorded.mono {before : List ι} {result : EStateM.Result ε σ α}
    (h : Recorded log L before result) (hle : ∀ word ∈ L, word ∈ L') :
    Recorded log L' before result := by
  cases result with
  | ok a s =>
    obtain ⟨word, hword, hlog⟩ := h
    exact ⟨word, hle word hword, hlog⟩
  | error e s =>
    obtain ⟨word, hword, done, hdone, hlog⟩ := h
    exact ⟨word, hle word hword, done, hdone, hlog⟩

theorem Recorded.bind {program : EStateM ε σ α} {next : α → EStateM ε σ β} {s : σ}
    (h : Recorded log L (log s) (program s))
    (hnext : ∀ a s', program s = .ok a s' → Recorded log L' (log s') (next a s'))
    (hL' : ∃ word, word ∈ L') : Recorded log (L * L') (log s) ((program >>= next) s) := by
  cases hrun : program s with
  | ok a s' =>
    rw [hrun] at h
    obtain ⟨word, hword, hlog⟩ := h
    have hrest := hnext a s' hrun
    rw [bind_of_ok hrun]
    cases hend : next a s' with
    | ok b s'' =>
      rw [hend] at hrest
      obtain ⟨word', hword', hlog'⟩ := hrest
      refine ⟨word ++ word', Language.append_mem_mul hword hword', ?_⟩
      rw [hlog', hlog, List.append_assoc]
    | error e s'' =>
      rw [hend] at hrest
      obtain ⟨word', hword', done, hdone, hlog'⟩ := hrest
      refine ⟨word ++ word', Language.append_mem_mul hword hword', word ++ done,
        (List.prefix_append_right_inj word).mpr hdone, ?_⟩
      rw [hlog', hlog, List.append_assoc]
  | error e s' =>
    rw [hrun] at h
    obtain ⟨word, hword, done, hdone, hlog⟩ := h
    obtain ⟨word', hword'⟩ := hL'
    rw [bind_of_error hrun]
    exact ⟨word ++ word', Language.append_mem_mul hword hword', done,
      hdone.trans (List.prefix_append word word'), hlog⟩

theorem Follows.mono {program : EStateM ε σ α} (h : Follows log L program)
    (hle : ∀ word ∈ L, word ∈ L') : Follows log L' program :=
  fun s => (h s).mono hle

theorem Follows.pure (a : α) : Follows log 1 (Pure.pure a : EStateM ε σ α) :=
  fun s => ⟨[], rfl, (List.append_nil (log s)).symm⟩

/-- A program that raises at once may be said to follow any script. -/
theorem Follows.throw (hL : ∃ word, word ∈ L) (e : ε) :
    Follows log L (throw e : EStateM ε σ α) :=
  fun s => ⟨hL.choose, hL.choose_spec, [], List.nil_prefix, (List.append_nil (log s)).symm⟩

theorem Follows.ofExcept (x : Except ε α) :
    Follows log 1 (MonadExcept.ofExcept x : EStateM ε σ α) := by
  cases x with
  | ok a => exact Follows.pure a
  | error e => exact Follows.throw ⟨[], Language.nil_mem_one⟩ e

theorem Follows.ofExcept_bind {x : Except ε α} {next : α → EStateM ε σ β}
    (hL : ∃ word, word ∈ L) (h : ∀ a, x = .ok a → Follows log L (next a)) :
    Follows log L (MonadExcept.ofExcept x >>= next) := by
  cases x with
  | ok a => exact h a rfl
  | error e => exact Follows.throw hL e

theorem Follows.bind [Nonempty α] {program : EStateM ε σ α} {next : α → EStateM ε σ β}
    (h : Follows log L program) (hnext : ∀ a, Follows log L' (next a)) :
    Follows log (L * L') (program >>= next) := by
  intro s
  have hL' : ∃ word, word ∈ L' := (hnext (Classical.arbitrary α) s).exists_mem
  exact (h s).bind (fun a s' _ => hnext a s') hL'

theorem Follows.one_bind [Nonempty α] {program : EStateM ε σ α} {next : α → EStateM ε σ β}
    (h : Follows log 1 program) (hnext : ∀ a, Follows log L (next a)) :
    Follows log L (program >>= next) :=
  (one_mul L) ▸ h.bind hnext

theorem Follows.bind_one [Nonempty α] {program : EStateM ε σ α} {next : α → EStateM ε σ β}
    (h : Follows log L program) (hnext : ∀ a, Follows log 1 (next a)) :
    Follows log L (program >>= next) :=
  (mul_one L) ▸ h.bind hnext

theorem Follows.get_bind {next : σ → EStateM ε σ β} (h : ∀ s, Follows log L (next s)) :
    Follows log L (get >>= next) :=
  fun s => h s s

theorem Follows.forM {program : α → EStateM ε σ PUnit} {elements : List α} {f : α → List (ι × ℕ)}
    (h : ∀ a ∈ elements, Follows log (script (f a)) (program a)) :
    Follows log (script (elements.flatMap f)) (forM elements program) := by
  induction elements with
  | nil => exact Follows.pure _
  | cons a elements ih =>
    rw [List.forall_mem_cons] at h
    rw [List.forM_cons, List.flatMap_cons, script_append]
    exact h.1.bind fun _ => ih h.2

theorem Follows.mapM [Nonempty β] {program : α → EStateM ε σ β} {elements : List α}
    {f : α → ι × ℕ} (h : ∀ a ∈ elements, Follows log (upTo (f a).1 (f a).2) (program a)) :
    Follows log (script (elements.map f)) (elements.mapM program) := by
  induction elements with
  | nil => exact Follows.pure _
  | cons a elements ih =>
    rw [List.forall_mem_cons] at h
    rw [List.mapM_cons, List.map_cons, script_cons]
    exact h.1.bind fun _ => (ih h.2).bind_one fun _ => Follows.pure _

/-- A program that puts nothing on record. -/
theorem Follows.of_preserves {program : EStateM ε σ α}
    (h : ∀ before, Preserves (log · = before) program) : Follows log 1 program := by
  intro s
  have hend := h (log s) s rfl
  cases hrun : program s with
  | ok a s' =>
    rw [hrun] at hend
    exact ⟨[], rfl, hend.trans (List.append_nil _).symm⟩
  | error e s' =>
    rw [hrun] at hend
    exact ⟨[], rfl, [], List.nil_prefix, hend.trans (List.append_nil _).symm⟩

/-- A finalizer that puts nothing on record, whether it returns or raises. -/
theorem Follows.finalize {program : EStateM ε σ α} {finalizer : EStateM ε σ PUnit}
    (h : Follows log L program) (hfinal : ∀ before, Preserves (log · = before) finalizer) :
    Follows log L (tryFinally program finalizer) := by
  intro s
  have hfirst := h s
  cases hrun : program s with
  | ok a s' =>
    rw [hrun] at hfirst
    obtain ⟨word, hword, hlog⟩ := hfirst
    have hend := hfinal (log s') s' rfl
    simp only [tryFinally, tryFinally', hrun, Functor.map, EStateM.map]
    cases hclose : finalizer s' with
    | ok u s'' =>
      rw [hclose] at hend
      exact ⟨word, hword, hend.trans hlog⟩
    | error e s'' =>
      rw [hclose] at hend
      exact ⟨word, hword, word, List.prefix_refl word, hend.trans hlog⟩
  | error e s' =>
    rw [hrun] at hfirst
    obtain ⟨word, hword, done, hdone, hlog⟩ := hfirst
    have hend := hfinal (log s') s' rfl
    simp only [tryFinally, tryFinally', hrun, Functor.map, EStateM.map]
    cases hclose : finalizer s' with
    | ok u s'' =>
      rw [hclose] at hend
      exact ⟨word, hword, done, hdone, hend.trans hlog⟩
    | error e' s'' =>
      rw [hclose] at hend
      exact ⟨word, hword, done, hdone, hend.trans hlog⟩

end

end Stateful
