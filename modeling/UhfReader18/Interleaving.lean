import Mathlib.Data.List.Basic
import Mathlib.Data.List.Induction
import Mathlib.Data.List.Perm.Basic
import Mathlib.Tactic.Common

/-!
# Processes that run side by side

A process takes inputs one at a time and answers each with outputs. It puts out the answer to
one input before it takes the next, but between any two of its acts other processes may go on.
New processes may start at any time.

Results:
1. `exists_run_iff`: what a process can do is what it does alone, up to any point.
2. `exists_poolRun_iff`: the runs of a pool are the interleavings of what its processes do
   alone.
3. `poolOutputs_perm`: the outputs of a run are those of its processes, in some order.
-/

namespace Interleaving

variable {σ ι ο : Type*}

/-! ## Traces -/

/-- Every entry of a trace meets a condition on what went before it. -/
def Along {α : Type*} (P : List α → α → Prop) (trace : List α) : Prop :=
  ∀ before e after, trace = before ++ e :: after → P before e

theorem along_nil {α : Type*} (P : List α → α → Prop) : Along P [] :=
  fun _ _ _ h => absurd h.symm (List.append_ne_nil_of_right_ne_nil _ (List.cons_ne_nil _ _))

theorem along_concat_iff {α : Type*} {P : List α → α → Prop} {trace : List α} {e : α} :
    Along P (trace ++ [e]) ↔ Along P trace ∧ P trace e := by
  constructor
  · intro h
    refine ⟨fun before e' after htrace => h before e' (after ++ [e]) ?_, h trace e [] rfl⟩
    rw [htrace, List.append_assoc, List.cons_append]
  · rintro ⟨htrace, he⟩ before e' after heq
    rcases List.eq_nil_or_concat after with rfl | ⟨after, last, rfl⟩
    · obtain ⟨rfl, hlast⟩ := List.append_inj' heq rfl
      exact (List.cons.inj hlast).1 ▸ he
    · rw [List.concat_eq_append, ← List.cons_append, ← List.append_assoc] at heq
      obtain ⟨rfl, _⟩ := List.append_inj' heq rfl
      exact htrace before e' after rfl

/-- Steps one after another. -/
inductive Run {τ α : Type*} (step : τ → α → τ → Prop) (init : τ) : List α → τ → Prop
  | nil : Run step init [] init
  | snoc {trace : List α} {a : α} {p q : τ} :
      Run step init trace p → step p a q → Run step init (trace ++ [a]) q

section Run

variable {τ α : Type*} {step : τ → α → τ → Prop} {init p q : τ} {trace : List α} {a : α}

theorem run_concat_iff :
    Run step init (trace ++ [a]) q ↔ ∃ p, Run step init trace p ∧ step p a q := by
  constructor
  · intro h
    generalize hall : trace ++ [a] = all at h
    cases h with
    | nil => exact absurd hall (List.append_ne_nil_of_right_ne_nil _ (List.cons_ne_nil _ _))
    | snoc hrun hstep =>
      obtain ⟨rfl, ha⟩ := List.append_inj' hall rfl
      cases ha
      exact ⟨_, hrun, hstep⟩
  · rintro ⟨p, hrun, hstep⟩
    exact hrun.snoc hstep

theorem run_nil_iff : Run step init [] q ↔ q = init := by
  constructor
  · intro h
    generalize hnil : ([] : List α) = none at h
    cases h with
    | nil => rfl
    | snoc _ _ =>
      exact absurd hnil.symm (List.append_ne_nil_of_right_ne_nil _ (List.cons_ne_nil _ _))
  · rintro rfl
    exact .nil

/-- A run may be preceded by a step. -/
theorem Run.cons (hstep : step init a p) (h : Run step p trace q) :
    Run step init (a :: trace) q := by
  induction h with
  | nil => exact Run.nil.snoc hstep
  | snoc _ hlast ih => exact ih.snoc hlast

/-- Where steps end is decided by where they start, if that is so for one step. -/
theorem Run.unique {q' : τ} (h : Run step init trace q) (h' : Run step init trace q')
    (hstep : ∀ p a q q', step p a q → step p a q' → q = q') : q = q' := by
  induction h generalizing q' with
  | nil => exact (run_nil_iff.mp h').symm
  | snoc _ hlast ih =>
    obtain ⟨p', hrun', hlast'⟩ := run_concat_iff.mp h'
    cases ih hrun'
    exact hstep _ _ _ _ hlast hlast'

end Run

/-! ## One process -/

/-- The state after an input and the answer to it, or `none` where no input is taken any
more. -/
abbrev Rule (σ ι ο : Type*) := σ → ι → Option (σ × List ο)

/-- A process under way: its state, and what it has not put out yet. -/
@[ext]
structure Process (σ ο : Type*) where
  state : σ
  todo : List ο

inductive Act (ι ο : Type*)
  | take (input : ι)
  | put (output : ο)
  deriving DecidableEq, Repr

def Act.input? : Act ι ο → Option ι
  | take input => some input
  | put _ => none

def Act.output? : Act ι ο → Option ο
  | take _ => none
  | put output => some output

/-- The inputs taken, in order. -/
def inputs (acts : List (Act ι ο)) : List ι := acts.filterMap Act.input?

/-- What was put out, in order. -/
def outputs (acts : List (Act ι ο)) : List ο := acts.filterMap Act.output?

@[simp]
theorem inputs_append (acts acts' : List (Act ι ο)) :
    inputs (acts ++ acts') = inputs acts ++ inputs acts' :=
  List.filterMap_append

@[simp]
theorem outputs_append (acts acts' : List (Act ι ο)) :
    outputs (acts ++ acts') = outputs acts ++ outputs acts' :=
  List.filterMap_append

@[simp]
theorem inputs_take_cons (input : ι) (acts : List (Act ι ο)) :
    inputs (.take input :: acts) = input :: inputs acts := rfl

@[simp]
theorem inputs_put_cons (output : ο) (acts : List (Act ι ο)) :
    inputs (.put output :: acts) = inputs acts := rfl

@[simp]
theorem outputs_take_cons (input : ι) (acts : List (Act ι ο)) :
    outputs (.take input :: acts) = outputs acts := rfl

@[simp]
theorem outputs_put_cons (output : ο) (acts : List (Act ι ο)) :
    outputs (.put output :: acts) = output :: outputs acts := rfl

theorem outputs_singleton (a : Act ι ο) : outputs [a] = a.output?.toList := by
  cases a <;> rfl

@[simp]
theorem outputs_map_put (todo : List ο) :
    outputs (todo.map (Act.put : ο → Act ι ο)) = todo := by
  induction todo with
  | nil => rfl
  | cons output todo ih => rw [List.map_cons, outputs_put_cons, ih]

@[simp]
theorem inputs_map_put (todo : List ο) : inputs (todo.map (Act.put : ο → Act ι ο)) = [] :=
  List.filterMap_eq_nil_iff.mpr fun a ha => by
    obtain ⟨_, _, rfl⟩ := List.mem_map.mp ha
    rfl

/-- One act: an input is taken only when nothing is left to put out. -/
inductive Step (rule : Rule σ ι ο) : Process σ ο → Act ι ο → Process σ ο → Prop
  | take {state state' : σ} {input : ι} {todo : List ο} :
      rule state input = some (state', todo) →
      Step rule ⟨state, []⟩ (.take input) ⟨state', todo⟩
  | put {state : σ} {output : ο} {todo : List ο} :
      Step rule ⟨state, output :: todo⟩ (.put output) ⟨state, todo⟩

/-- What a process does alone when it is given inputs: all it has to put out, then the next
input and the answer to it, until it needs an input that is not there or takes no more. -/
def script (rule : Rule σ ι ο) : Process σ ο → List ι → List (Act ι ο)
  | p, [] => p.todo.map .put
  | p, input :: inputs =>
    p.todo.map .put ++
      match rule p.state input with
      | none => []
      | some (state, todo) => .take input :: script rule ⟨state, todo⟩ inputs

variable {rule : Rule σ ι ο} {init p q : Process σ ο} {acts : List (Act ι ο)} {a : Act ι ο}

theorem Step.unique {q' : Process σ ο} (h : Step rule p a q) (h' : Step rule p a q') :
    q = q' := by
  cases h with
  | take hrule =>
    cases h' with
    | take hrule' =>
      rw [hrule] at hrule'
      cases hrule'
      rfl
  | put =>
    cases h'
    rfl

theorem script_put (state : σ) (output : ο) (todo : List ο) (more : List ι) :
    script rule ⟨state, output :: todo⟩ more = .put output :: script rule ⟨state, todo⟩ more := by
  cases more <;> rfl

/-- After a run, what the process does alone goes on from where the run ended. -/
theorem Run.script_append (h : Run (Step rule) init acts p) (more : List ι) :
    script rule init (inputs acts ++ more) = acts ++ script rule p more := by
  induction h generalizing more with
  | nil => rfl
  | snoc _ hstep ih =>
    cases hstep with
    | @take state state' input todo hrule =>
      have hnext : script rule ⟨state, []⟩ (input :: more) =
          .take input :: script rule ⟨state', todo⟩ more := by
        simp [script, hrule]
      rw [inputs_append, List.append_assoc, List.append_assoc]
      exact (ih (input :: more)).trans (congrArg _ hnext)
    | @put state output todo =>
      rw [inputs_append, List.append_assoc, List.append_assoc]
      exact (ih more).trans (congrArg _ (script_put state output todo more))

/-- What was put out and what is left to put out, together, are the answer to the inputs taken. -/
theorem Run.script_inputs (h : Run (Step rule) init acts p) :
    script rule init (inputs acts) = acts ++ p.todo.map .put := by
  have hrun := h.script_append []
  rwa [List.append_nil] at hrun

/-- Any beginning of what a process does alone is a run of it. -/
theorem exists_run_of_beginning (h : acts <+: script rule init (inputs acts)) :
    ∃ p, Run (Step rule) init acts p := by
  induction acts generalizing init with
  | nil => exact ⟨init, .nil⟩
  | cons a acts ih =>
    obtain ⟨state, todo⟩ := init
    cases todo with
    | cons output todo =>
      rw [script_put, List.cons_prefix_cons] at h
      obtain ⟨rfl, h⟩ := h
      obtain ⟨p, hrun⟩ := ih h
      exact ⟨p, hrun.cons .put⟩
    | nil =>
      cases a with
      | put output =>
        -- with nothing to put out the first act is to take an input
        exfalso
        rw [inputs_put_cons] at h
        cases hin : inputs acts with
        | nil =>
          rw [hin] at h
          exact absurd (List.prefix_nil.mp h) (List.cons_ne_nil _ _)
        | cons input more =>
          rw [hin, script] at h
          cases hrule : rule state input with
          | none => simp [hrule] at h
          | some answer => simp [hrule] at h
      | take input =>
        rw [inputs_take_cons, script] at h
        cases hrule : rule state input with
        | none => simp [hrule] at h
        | some answer =>
          obtain ⟨state', todo⟩ := answer
          simp only [hrule, List.map_nil, List.nil_append, List.cons_prefix_cons, true_and] at h
          obtain ⟨p, hrun⟩ := ih h
          exact ⟨p, hrun.cons (.take hrule)⟩

/-- What a process can do is a beginning of what it does alone on the inputs it takes. -/
theorem exists_run_iff :
    (∃ p, Run (Step rule) init acts p) ↔ acts <+: script rule init (inputs acts) := by
  refine ⟨?_, exists_run_of_beginning⟩
  rintro ⟨p, hrun⟩
  rw [hrun.script_inputs]
  exact List.prefix_append _ _

/-! ## A pool of processes -/

/-- What happens in a pool: a process starts, or the `k`-th that was started acts. -/
inductive PoolAct (σ ι ο : Type*)
  | start (process : Process σ ο)
  | act (k : ℕ) (act : Act ι ο)

def PoolAct.started? : PoolAct σ ι ο → Option (Process σ ο)
  | start process => some process
  | act _ _ => none

def PoolAct.share? (k : ℕ) : PoolAct σ ι ο → Option (Act ι ο)
  | start _ => none
  | act j a => if j = k then some a else none

def PoolAct.output? : PoolAct σ ι ο → Option ο
  | start _ => none
  | act _ a => a.output?

/-- The processes as they started, in order. -/
def started (trace : List (PoolAct σ ι ο)) : List (Process σ ο) :=
  trace.filterMap PoolAct.started?

/-- The acts of one process. -/
def share (k : ℕ) (trace : List (PoolAct σ ι ο)) : List (Act ι ο) :=
  trace.filterMap (PoolAct.share? k)

/-- What all processes put out, in the order of the run. -/
def poolOutputs (trace : List (PoolAct σ ι ο)) : List ο := trace.filterMap PoolAct.output?

/-- One act of a pool changes the process that acts and no other. -/
inductive PoolStep (rule : Rule σ ι ο) :
    List (Process σ ο) → PoolAct σ ι ο → List (Process σ ο) → Prop
  | start {pool : List (Process σ ο)} {process : Process σ ο} :
      PoolStep rule pool (.start process) (pool ++ [process])
  | act {pool : List (Process σ ο)} {k : ℕ} {a : Act ι ο} {p q : Process σ ο} :
      pool[k]? = some p → Step rule p a q → PoolStep rule pool (.act k a) (pool.set k q)

/-- The runs of a pool that is empty at first. -/
abbrev PoolRun (rule : Rule σ ι ο) : List (PoolAct σ ι ο) → List (Process σ ο) → Prop :=
  Run (PoolStep rule) []

/-- No process acts before it has started. -/
def StartedFirst : List (PoolAct σ ι ο) → Prop :=
  Along fun before e => ∀ k a, e = .act k a → k < (started before).length

variable {trace : List (PoolAct σ ι ο)} {pool : List (Process σ ο)}

@[simp]
theorem started_concat_start (process : Process σ ο) :
    started (trace ++ [.start process]) = started trace ++ [process] :=
  List.filterMap_append

@[simp]
theorem started_concat_act (k : ℕ) (a : Act ι ο) :
    started (trace ++ [.act k a]) = started trace := by
  rw [started, List.filterMap_append]
  exact List.append_nil _

@[simp]
theorem poolOutputs_concat_start (process : Process σ ο) :
    poolOutputs (trace ++ [.start process]) = poolOutputs trace := by
  rw [poolOutputs, List.filterMap_append]
  exact List.append_nil _

@[simp]
theorem poolOutputs_concat_act (k : ℕ) (a : Act ι ο) :
    poolOutputs (trace ++ [.act k a]) = poolOutputs trace ++ a.output?.toList := by
  rw [poolOutputs, List.filterMap_append]
  cases a <;> rfl

@[simp]
theorem share_concat_start (k : ℕ) (process : Process σ ο) :
    share k (trace ++ [.start process]) = share k trace := by
  rw [share, List.filterMap_append]
  exact List.append_nil _

@[simp]
theorem share_concat_self (k : ℕ) (a : Act ι ο) :
    share k (trace ++ [.act k a]) = share k trace ++ [a] := by
  simp [share, PoolAct.share?]

theorem share_concat_of_ne {j k : ℕ} (h : j ≠ k) (a : Act ι ο) :
    share k (trace ++ [.act j a]) = share k trace := by
  simp [share, PoolAct.share?, h]

/-- A process that has not started has no share. -/
theorem StartedFirst.share_eq_nil (h : StartedFirst trace) {k : ℕ}
    (hk : (started trace).length ≤ k) : share k trace = [] := by
  induction trace using List.reverseRecOn with
  | nil => rfl
  | append_singleton trace e ih =>
    obtain ⟨htrace, he⟩ := along_concat_iff.mp h
    cases e with
    | start process =>
      rw [started_concat_start, List.length_append] at hk
      rw [share_concat_start]
      exact ih htrace (Nat.le_of_add_right_le hk)
    | act j a =>
      rw [started_concat_act] at hk
      have hj : j < (started trace).length := he j a rfl
      rw [share_concat_of_ne (Nat.ne_of_lt (Nat.lt_of_lt_of_le hj hk))]
      exact ih htrace hk

theorem PoolRun.length_eq (h : PoolRun rule trace pool) :
    pool.length = (started trace).length := by
  induction h with
  | nil => rfl
  | snoc _ hstep ih =>
    cases hstep with
    | start =>
      rw [started_concat_start, List.length_append, List.length_append, ih, List.length_singleton]
    | act _ _ => rw [started_concat_act, List.length_set, ih]

theorem PoolRun.startedFirst (h : PoolRun rule trace pool) : StartedFirst trace := by
  induction h with
  | nil => exact along_nil _
  | snoc hrun hstep ih =>
    refine along_concat_iff.mpr ⟨ih, ?_⟩
    rintro k a rfl
    cases hstep with
    | act hp _ =>
      rw [← PoolRun.length_eq hrun]
      exact (List.getElem?_eq_some_iff.mp hp).1

/-- In a run of a pool, each process makes a run of its own. -/
theorem PoolRun.share_run (h : PoolRun rule trace pool) {k : ℕ} {init p : Process σ ο}
    (hinit : (started trace)[k]? = some init) (hp : pool[k]? = some p) :
    Run (Step rule) init (share k trace) p := by
  induction h generalizing init p with
  | nil => cases hp
  | @snoc trace e pool pool' hrun hstep ih =>
    cases hstep with
    | start =>
      rw [started_concat_start] at hinit
      rw [share_concat_start]
      rcases Nat.lt_trichotomy k pool.length with hk | rfl | hk
      · rw [List.getElem?_append_left hk] at hp
        rw [List.getElem?_append_left (PoolRun.length_eq hrun ▸ hk)] at hinit
        exact ih hinit hp
      · rw [List.getElem?_concat_length] at hp
        rw [PoolRun.length_eq hrun, List.getElem?_concat_length, hp] at hinit
        cases hinit
        rw [(PoolRun.startedFirst hrun).share_eq_nil (Nat.le_of_eq (PoolRun.length_eq hrun).symm)]
        exact .nil
      · rw [List.getElem?_eq_none (by rw [List.length_append]; exact hk)] at hp
        cases hp
    | @act j a q q' hq hact =>
      rw [started_concat_act] at hinit
      by_cases hjk : j = k
      · subst hjk
        have hlt : j < pool.length := (List.getElem?_eq_some_iff.mp hq).1
        rw [List.getElem?_set_self hlt] at hp
        cases hp
        rw [share_concat_self]
        exact (ih hinit hq).snoc hact
      · rw [List.getElem?_set_ne hjk] at hp
        rw [share_concat_of_ne hjk]
        exact ih hinit hp

/-- The runs of a pool are the interleavings of runs of its processes in which each process
starts before it acts. -/
theorem exists_poolRun_iff :
    (∃ pool, PoolRun rule trace pool) ↔ StartedFirst trace ∧
      ∀ k init, (started trace)[k]? = some init →
        share k trace <+: script rule init (inputs (share k trace)) := by
  constructor
  · rintro ⟨pool, hrun⟩
    refine ⟨hrun.startedFirst, fun k init hinit => ?_⟩
    have hlt : k < pool.length := hrun.length_eq ▸ (List.getElem?_eq_some_iff.mp hinit).1
    exact exists_run_iff.mp ⟨_, hrun.share_run hinit (List.getElem?_eq_getElem hlt)⟩
  · rintro ⟨hfirst, hscript⟩
    induction trace using List.reverseRecOn with
    | nil => exact ⟨[], .nil⟩
    | append_singleton trace e ih =>
      obtain ⟨htrace, he⟩ := along_concat_iff.mp hfirst
      cases e with
      | start process =>
        simp only [started_concat_start, share_concat_start] at hscript
        obtain ⟨pool, hrun⟩ := ih htrace fun k init hinit => hscript k init (by
          rw [List.getElem?_append_left (List.getElem?_eq_some_iff.mp hinit).1, hinit])
        exact ⟨_, hrun.snoc .start⟩
      | act j a =>
        simp only [started_concat_act] at hscript
        have hj : j < (started trace).length := he j a rfl
        -- what is a run with the last act is one without it
        obtain ⟨pool, hrun⟩ := ih htrace fun k init hinit => by
          by_cases hjk : j = k
          · subst hjk
            have hall := hscript j init hinit
            rw [share_concat_self] at hall
            obtain ⟨q, hq⟩ := exists_run_iff.mpr hall
            obtain ⟨p, hp, _⟩ := run_concat_iff.mp hq
            exact exists_run_iff.mp ⟨p, hp⟩
          · have hother := hscript k init hinit
            rwa [share_concat_of_ne hjk] at hother
        have hinit := List.getElem?_eq_getElem hj
        have hp : pool[j]? = some _ := List.getElem?_eq_getElem (PoolRun.length_eq hrun ▸ hj)
        have hall := hscript j _ hinit
        rw [share_concat_self] at hall
        obtain ⟨q, hq⟩ := exists_run_iff.mpr hall
        obtain ⟨p, hrunp, hstep⟩ := run_concat_iff.mp hq
        cases hrunp.unique (PoolRun.share_run hrun hinit hp) fun _ _ _ _ => Step.unique
        exact ⟨_, hrun.snoc (.act hp hstep)⟩

theorem flatMap_range_ite {α : Type*} {j n : ℕ} (h : j < n) (items : List α) :
    ((List.range n).flatMap fun k => if j = k then items else []) = items := by
  induction n with
  | zero => exact absurd h (Nat.not_lt_zero j)
  | succ n ih =>
    rw [List.range_succ, List.flatMap_append, List.flatMap_singleton]
    rcases Nat.lt_succ_iff_lt_or_eq.mp h with hlt | rfl
    · rw [ih hlt, if_neg (Nat.ne_of_lt hlt), List.append_nil]
    · rw [if_pos rfl, List.flatMap_eq_nil_iff.mpr, List.nil_append]
      intro k hk
      exact if_neg (Nat.ne_of_gt (List.mem_range.mp hk))

/-- A run puts out what its processes put out, each in its order. -/
theorem StartedFirst.poolOutputs_perm (h : StartedFirst trace) {n : ℕ}
    (hn : (started trace).length ≤ n) :
    (poolOutputs trace).Perm ((List.range n).flatMap fun k => outputs (share k trace)) := by
  induction trace using List.reverseRecOn with
  | nil =>
    have hnone : ((List.range n).flatMap fun k => outputs (share k ([] : List (PoolAct σ ι ο)))) =
        [] := List.flatMap_eq_nil_iff.mpr fun _ _ => rfl
    rw [hnone]
    exact .nil
  | append_singleton trace e ih =>
    obtain ⟨htrace, he⟩ := along_concat_iff.mp h
    cases e with
    | start process =>
      rw [started_concat_start, List.length_append] at hn
      simp only [share_concat_start, poolOutputs_concat_start]
      exact ih htrace (Nat.le_of_add_right_le hn)
    | act j a =>
      rw [started_concat_act] at hn
      have hj : j < n := Nat.lt_of_lt_of_le (he j a rfl) hn
      have hshare : ∀ k, outputs (share k (trace ++ [.act j a])) =
          outputs (share k trace) ++ if j = k then a.output?.toList else [] := by
        intro k
        split
        · next hjk =>
          subst hjk
          rw [share_concat_self, outputs_append, outputs_singleton]
        · next hjk => rw [share_concat_of_ne hjk, List.append_nil]
      simp only [hshare, poolOutputs_concat_act]
      refine ((ih htrace hn).append_right _).trans ?_
      refine (List.Perm.of_eq ?_).trans (List.flatMap_append_perm _ _ _)
      rw [flatMap_range_ite hj]

end Interleaving
