import Mathlib.Data.List.Basic
import Mathlib.Tactic.Common

/-!
# Programs with a state and exceptions

A program changes a state and returns a value or raises; a program that raises keeps the
changes it has made. A triple says what holds after it, both ways.

Results:
1. `Triple.bind`, `Triple.mapM`, `Preserves.forM`: triples compose along a program.
2. `Triple.exists_ok`: a program that cannot raise returns.
3. `Within.bind`, `Within.forM`: what a program does at most, added up along it.
-/

namespace Stateful

variable {ε σ α β : Type}

/-- From a state in which `P` holds, the program returns and then `Q` holds, or raises and
then `E` holds. -/
def Triple (P : σ → Prop) (program : EStateM ε σ α) (Q : α → σ → Prop) (E : ε → σ → Prop) :
    Prop :=
  ∀ s, P s →
    match program s with
    | .ok a s' => Q a s'
    | .error e s' => E e s'

variable {P : σ → Prop} {Q : α → σ → Prop} {R : β → σ → Prop} {E : ε → σ → Prop}

theorem Triple.pure {a : α} (h : ∀ s, P s → Q a s) : Triple P (Pure.pure a) Q E :=
  fun s hs => h s hs

/-- From a stronger condition, to weaker ones. -/
theorem Triple.weaken {program : EStateM ε σ α} {P' : σ → Prop} {Q' : α → σ → Prop}
    {E' : ε → σ → Prop} (h : Triple P program Q E) (hpre : ∀ s, P' s → P s)
    (hpost : ∀ a s, Q a s → Q' a s) (hraise : ∀ e s, E e s → E' e s) :
    Triple P' program Q' E' := by
  intro s hs
  have hend := h s (hpre s hs)
  cases hrun : program s with
  | ok a s' =>
    rw [hrun] at hend
    exact hpost a s' hend
  | error e s' =>
    rw [hrun] at hend
    exact hraise e s' hend

theorem Triple.pre {program : EStateM ε σ α} {P' : σ → Prop} (h : Triple P program Q E)
    (hpre : ∀ s, P' s → P s) : Triple P' program Q E :=
  h.weaken hpre (fun _ _ hs => hs) fun _ _ hs => hs

theorem Triple.post {program : EStateM ε σ α} {Q' : α → σ → Prop} (h : Triple P program Q E)
    (hpost : ∀ a s, Q a s → Q' a s) : Triple P program Q' E :=
  h.weaken (fun _ hs => hs) hpost fun _ _ hs => hs

/-- What cannot raise may be said to raise as one likes. -/
theorem Triple.raise {program : EStateM ε σ α} (h : Triple P program Q fun _ _ => False) :
    Triple P program Q E :=
  h.weaken (fun _ hs => hs) (fun _ _ hs => hs) fun _ _ hs => hs.elim

theorem Triple.of_ok {program : EStateM ε σ α} (h : Triple P program Q E) {s s' : σ} {a : α}
    (hs : P s) (hrun : program s = .ok a s') : Q a s' := by
  have hend := h s hs
  rw [hrun] at hend
  exact hend

theorem Triple.bind {program : EStateM ε σ α} {next : α → EStateM ε σ β}
    (h : Triple P program Q E) (hnext : ∀ a, Triple (Q a) (next a) R E) :
    Triple P (program >>= next) R E := by
  intro s hs
  have hfirst := h s hs
  show match EStateM.bind program next s with | .ok a s' => R a s' | .error e s' => E e s'
  unfold EStateM.bind
  cases hrun : program s with
  | ok a s' =>
    rw [hrun] at hfirst
    exact hnext a s' hfirst
  | error e s' =>
    rw [hrun] at hfirst
    exact hfirst

theorem Triple.ofExcept_bind {x : Except ε α} {next : α → EStateM ε σ β}
    (h : ∀ a, x = .ok a → Triple P (next a) R E) (hraise : ∀ e, x = .error e → ∀ s, P s → E e s) :
    Triple P (MonadExcept.ofExcept x >>= next) R E := by
  cases x with
  | ok a => exact fun s hs => h a rfl s hs
  | error e => exact fun s hs => hraise e rfl s hs

theorem bind_of_ok {program : EStateM ε σ α} {s s' : σ} {a : α} (h : program s = .ok a s')
    (next : α → EStateM ε σ β) : (program >>= next) s = next a s' := by
  show EStateM.bind program next s = next a s'
  rw [EStateM.bind, h]

theorem bind_of_error {program : EStateM ε σ α} {s s' : σ} {e : ε} (h : program s = .error e s')
    (next : α → EStateM ε σ β) : (program >>= next) s = .error e s' := by
  show EStateM.bind program next s = .error e s'
  rw [EStateM.bind, h]

theorem exists_of_bind_eq_ok {program : EStateM ε σ α} {next : α → EStateM ε σ β} {s s'' : σ}
    {b : β} (h : (program >>= next) s = .ok b s'') :
    ∃ a s', program s = .ok a s' ∧ next a s' = .ok b s'' := by
  cases hrun : program s with
  | ok a s' => exact ⟨a, s', rfl, by rw [← h, bind_of_ok hrun]⟩
  | error e s' =>
    rw [bind_of_error hrun] at h
    cases h

theorem throw_apply (e : ε) (s : σ) : (throw e : EStateM ε σ α) s = .error e s := rfl

theorem get_bind (next : σ → EStateM ε σ β) (s : σ) : (get >>= next) s = next s s := rfl

theorem Triple.exists_ok {program : EStateM ε σ α} (h : Triple P program Q fun _ _ => False)
    {s : σ} (hs : P s) : ∃ a s', program s = .ok a s' ∧ Q a s' := by
  have hend := h s hs
  cases hrun : program s with
  | ok a s' =>
    rw [hrun] at hend
    exact ⟨a, s', rfl, hend⟩
  | error e s' =>
    rw [hrun] at hend
    exact hend.elim

/-- A program that goes through a list and finds for every element something that belongs to
it. -/
theorem Triple.mapM_forall₂ {program : α → EStateM ε σ β} {R : α → β → Prop} {items : List α}
    (h : ∀ a ∈ items, Triple P (program a) (fun b s => R a b ∧ P s) E) :
    Triple P (items.mapM program) (fun bs s => List.Forall₂ R items bs ∧ P s) E := by
  induction items with
  | nil => exact Triple.pure fun s hs => ⟨.nil, hs⟩
  | cons a items ih =>
    rw [List.forall_mem_cons] at h
    rw [List.mapM_cons]
    refine h.1.bind fun b => ?_
    rintro s ⟨hb, hs⟩
    refine (Triple.bind (ih h.2) fun bs => Triple.pure ?_) s hs
    rintro s ⟨hbs, hs⟩
    exact ⟨.cons hb hbs, hs⟩

/-- A program that goes through a list and computes `f` of every element. -/
theorem Triple.mapM {program : α → EStateM ε σ β} {f : α → β} {items : List α}
    (h : ∀ a ∈ items, Triple P (program a) (fun b s => b = f a ∧ P s) E) :
    Triple P (items.mapM program) (fun bs s => bs = items.map f ∧ P s) E := by
  refine (Triple.mapM_forall₂ h).post ?_
  rintro bs s ⟨hall, hs⟩
  refine ⟨?_, hs⟩
  induction hall with
  | nil => rfl
  | cons hb _ ih =>
    rw [List.forall_mem_cons] at h
    rw [List.map_cons, hb, ih h.2]

/-! ## Invariants -/

/-- The program keeps an invariant, whether it returns or raises. -/
def Preserves (I : σ → Prop) (program : EStateM ε σ α) : Prop :=
  Triple I program (fun _ => I) (fun _ => I)

variable {I : σ → Prop}

theorem Preserves.pure (a : α) : Preserves I (Pure.pure a : EStateM ε σ α) :=
  fun _ hs => hs

theorem Preserves.bind {program : EStateM ε σ α} {next : α → EStateM ε σ β}
    (h : Preserves I program) (hnext : ∀ a, Preserves I (next a)) :
    Preserves I (program >>= next) :=
  Triple.bind h hnext

theorem preserves_true (program : EStateM ε σ α) : Preserves (fun _ => True) program := by
  intro s _
  cases program s <;> exact True.intro

theorem Preserves.ofExcept_bind {x : Except ε α} {next : α → EStateM ε σ β}
    (h : ∀ a, x = .ok a → Preserves I (next a)) :
    Preserves I (MonadExcept.ofExcept x >>= next) :=
  Triple.ofExcept_bind h fun _ _ _ hs => hs

/-- A program that reads the state first may count on the invariant of what it reads. -/
theorem Preserves.get_bind {next : σ → EStateM ε σ β} (h : ∀ s, I s → Preserves I (next s)) :
    Preserves I (get >>= next) :=
  fun s hs => h s hs s hs

theorem Preserves.throw (e : ε) : Preserves I (throw e : EStateM ε σ α) :=
  fun _ hs => hs

theorem Preserves.ofExcept (x : Except ε α) :
    Preserves I (MonadExcept.ofExcept x : EStateM ε σ α) := by
  cases x <;> exact fun _ hs => hs

theorem Preserves.catch {program : EStateM ε σ α} {handler : ε → EStateM ε σ α}
    (h : Preserves I program) (hhandler : ∀ e, Preserves I (handler e)) :
    Preserves I (tryCatch program handler) := by
  intro s hs
  have hend := h s hs
  simp only [tryCatch, tryCatchThe, MonadExceptOf.tryCatch, EStateM.tryCatch]
  cases hrun : program s with
  | ok a s' =>
    rw [hrun] at hend
    exact hend
  | error e s' =>
    rw [hrun] at hend
    exact hhandler e s' hend

theorem Preserves.mapM {program : α → EStateM ε σ β} {items : List α}
    (h : ∀ a ∈ items, Preserves I (program a)) : Preserves I (items.mapM program) := by
  have hall : Triple I (items.mapM program)
      (fun bs s => List.Forall₂ (fun _ _ => True) items bs ∧ I s) (fun _ => I) :=
    Triple.mapM_forall₂ fun a ha =>
      Triple.post (h a ha) fun _ _ hs => ⟨trivial, hs⟩
  exact hall.post fun _ _ hs => hs.2

theorem Triple.forM {program : α → EStateM ε σ PUnit} {items : List α}
    (h : ∀ a ∈ items, Triple P (program a) (fun _ => P) E) :
    Triple P (forM items program) (fun _ => P) E := by
  induction items with
  | nil => exact Triple.pure fun _ hs => hs
  | cons a items ih =>
    rw [List.forall_mem_cons] at h
    rw [List.forM_cons]
    exact h.1.bind fun _ => ih h.2

theorem Preserves.forM {program : α → EStateM ε σ PUnit} {items : List α}
    (h : ∀ a ∈ items, Preserves I (program a)) : Preserves I (forM items program) :=
  Triple.forM h

theorem Triple.finalize {program : EStateM ε σ α} {finalizer : EStateM ε σ PUnit}
    {I I' J J' : σ → Prop} (h : Triple P program (fun _ => I) (fun _ => I'))
    (hreturn : Triple I finalizer (fun _ => J) (fun _ => J'))
    (hraise : Triple I' finalizer (fun _ => J') (fun _ => J')) :
    Triple P (tryFinally program finalizer) (fun _ => J) (fun _ => J') := by
  intro s hs
  have hend := h s hs
  cases hrun : program s with
  | ok a s' =>
    rw [hrun] at hend
    have hclosed := hreturn s' hend
    cases hclose : finalizer s' <;> rw [hclose] at hclosed <;>
      simpa [tryFinally, tryFinally', hrun, hclose, Functor.map, EStateM.map] using hclosed
  | error e s' =>
    rw [hrun] at hend
    have hclosed := hraise s' hend
    cases hclose : finalizer s' <;> rw [hclose] at hclosed <;>
      simpa [tryFinally, tryFinally', hrun, hclose, Functor.map, EStateM.map] using hclosed

theorem Preserves.finalize {program : EStateM ε σ α} {finalizer : EStateM ε σ PUnit}
    (h : Preserves I program) (hfinal : Preserves I finalizer) :
    Preserves I (tryFinally program finalizer) :=
  Triple.finalize h hfinal hfinal

/-- The state a program ends in. -/
def finalState : EStateM.Result ε σ α → σ
  | .ok _ s => s
  | .error _ s => s

/-- What holds in either case holds in the end. -/
theorem Triple.finalState {program : EStateM ε σ α} {I' : σ → Prop}
    (h : Triple P program (fun _ => I') (fun _ => I')) {s : σ} (hs : P s) :
    I' (finalState (program s)) := by
  have hend := h s hs
  cases hrun : program s <;> rw [hrun] at hend <;> exact hend

theorem Preserves.finalState {program : EStateM ε σ α} (h : Preserves I program) {s : σ}
    (hs : I s) : I (finalState (program s)) :=
  Triple.finalState h hs

/-! ## Changes -/

/-- A family of relations between two states, graded by a list of what may have happened from
one to the other. -/
structure Graded {ι : Type} (R : List ι → σ → σ → Prop) : Prop where
  refl : ∀ s, R [] s s
  trans : ∀ {items items' s s' s''}, R items s s' → R items' s' s'' → R (items ++ items') s s''
  mono : ∀ {items items' s s'}, items.Sublist items' → R items s s' → R items' s s'

/-- A grading of the states a state is looked at as. -/
theorem Graded.comap {ι τ : Type} {R : List ι → σ → σ → Prop} (hR : Graded R) (view : τ → σ) :
    Graded fun items (t t' : τ) => R items (view t) (view t') :=
  ⟨fun t => hR.refl (view t), hR.trans, hR.mono⟩

/-- Whether the program returns or raises, no more happens than these items. -/
def Within {ι : Type} (R : List ι → σ → σ → Prop) (items : List ι) (program : EStateM ε σ α) :
    Prop :=
  ∀ s, R items s (Stateful.finalState (program s))

section

variable {ι : Type} {R : List ι → σ → σ → Prop} {items items' : List ι} (hR : Graded R)
include hR

theorem Within.mono {program : EStateM ε σ α} (h : Within R items program)
    (hitems : items.Sublist items') : Within R items' program :=
  fun s => hR.mono hitems (h s)

theorem Within.pure (a : α) : Within R [] (Pure.pure a : EStateM ε σ α) :=
  hR.refl

theorem Within.throw (e : ε) : Within R [] (throw e : EStateM ε σ α) :=
  hR.refl

theorem Within.ofExcept (x : Except ε α) :
    Within R [] (MonadExcept.ofExcept x : EStateM ε σ α) := by
  cases x <;> exact hR.refl

theorem Within.bind {program : EStateM ε σ α} {next : α → EStateM ε σ β}
    (h : Within R items program) (hnext : ∀ a, Within R items' (next a)) :
    Within R (items ++ items') (program >>= next) := by
  intro s
  have hfirst := h s
  cases hrun : program s with
  | ok a s' =>
    rw [hrun] at hfirst
    rw [bind_of_ok hrun]
    exact hR.trans hfirst (hnext a s')
  | error e s' =>
    rw [hrun] at hfirst
    rw [bind_of_error hrun]
    exact hR.mono (List.sublist_append_left _ _) hfirst

/-- Where one of the two parts does nothing. -/
theorem Within.bind_nil {program : EStateM ε σ α} {next : α → EStateM ε σ β}
    (h : Within R items program) (hnext : ∀ a, Within R [] (next a)) :
    Within R items (program >>= next) :=
  (List.append_nil items) ▸ Within.bind hR h hnext

theorem Within.nil_bind {program : EStateM ε σ α} {next : α → EStateM ε σ β}
    (h : Within R [] program) (hnext : ∀ a, Within R items (next a)) :
    Within R items (program >>= next) :=
  Within.bind hR h hnext

theorem Within.ofExcept_bind {x : Except ε α} {next : α → EStateM ε σ β}
    (h : ∀ a, x = .ok a → Within R items (next a)) :
    Within R items (MonadExcept.ofExcept x >>= next) := by
  cases x with
  | ok a => exact h a rfl
  | error e => exact fun s => hR.mono (List.nil_sublist _) (hR.refl s)

omit hR in
theorem Within.get_bind {next : σ → EStateM ε σ β} (h : ∀ s, Within R items (next s)) :
    Within R items (get >>= next) :=
  fun s => h s s

theorem Within.forM {program : α → EStateM ε σ PUnit} {elements : List α} {f : α → List ι}
    (h : ∀ a ∈ elements, Within R (f a) (program a)) :
    Within R (elements.flatMap f) (forM elements program) := by
  induction elements with
  | nil => exact Within.pure hR _
  | cons a elements ih =>
    rw [List.forall_mem_cons] at h
    rw [List.forM_cons, List.flatMap_cons]
    exact Within.bind hR h.1 fun _ => ih h.2

theorem Within.mapM {program : α → EStateM ε σ β} {elements : List α}
    (h : ∀ a ∈ elements, Within R [] (program a)) : Within R [] (elements.mapM program) := by
  induction elements with
  | nil => exact Within.pure hR _
  | cons a elements ih =>
    rw [List.forall_mem_cons] at h
    rw [List.mapM_cons]
    exact Within.nil_bind hR h.1 fun _ => Within.nil_bind hR (ih h.2) fun _ => Within.pure hR _

/-- A finalizer that does nothing. -/
theorem Within.finalize {program : EStateM ε σ α} {finalizer : EStateM ε σ PUnit}
    (h : Within R items program) (hfinal : Within R [] finalizer) :
    Within R items (tryFinally program finalizer) := by
  intro s
  have htriple : Triple (· = s) (tryFinally program finalizer) (fun _ => R items s)
      (fun _ => R items s) := by
    have hkeep : Preserves (R items s) finalizer := by
      intro s' hs'
      have hend := hR.trans hs' (hfinal s')
      rw [List.append_nil] at hend
      cases hrun : finalizer s' <;> rw [hrun] at hend <;> exact hend
    refine Triple.finalize ?_ hkeep hkeep
    rintro s' rfl
    have hend := h s'
    cases hrun : program s' <;> rw [hrun] at hend <;> exact hend
  exact htriple.finalState rfl

end

end Stateful
