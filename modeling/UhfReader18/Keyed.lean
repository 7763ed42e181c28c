import Mathlib.Data.List.Nodup
import Mathlib.Logic.Function.Basic

/-!
# Stores that are written key by key

A store keeps one value per key. Writes come in a sequence, the same key may be written
again, and some writes of a sequence may never arrive. Where the writes that do arrive agree
on a key, their order and their number do not matter.

Results:
1. `writes_eq_of_agree`: a key holds the value its writes agree on.
2. `writes_eq_of_forall_ne`: other keys hold what they held.
3. `writes_eq_of_mem_iff`: repetitions change nothing where each key has one value.
4. `dict_eq_some`: a dictionary built from distinct keys finds each of them.
5. `dict_filterMap`: a dictionary of those keys that have a value gives this value.
-/

namespace Keyed

variable {K V : Type} [DecidableEq K]

/-- A store after a sequence of writes. -/
def writes (items : List (K × V)) (store : K → V) : K → V :=
  items.foldl (fun store item => Function.update store item.1 item.2) store

theorem writes_cons (item : K × V) (items : List (K × V)) (store : K → V) :
    writes (item :: items) store = writes items (Function.update store item.1 item.2) :=
  rfl

theorem writes_append (items items' : List (K × V)) (store : K → V) :
    writes (items ++ items') store = writes items' (writes items store) :=
  List.foldl_append

theorem writes_eq_of_forall_ne {items : List (K × V)} {key : K}
    (h : ∀ item ∈ items, item.1 ≠ key) (store : K → V) : writes items store key = store key := by
  induction items generalizing store with
  | nil => rfl
  | cons item items ih =>
    rw [List.forall_mem_cons] at h
    rw [writes_cons, ih h.2, Function.update_of_ne h.1.symm]

theorem writes_eq_of_agree {items : List (K × V)} {key : K} {value : V}
    (hmem : (key, value) ∈ items) (hagree : ∀ item ∈ items, item.1 = key → item.2 = value)
    (store : K → V) : writes items store key = value := by
  induction items generalizing store with
  | nil => exact absurd hmem List.not_mem_nil
  | cons item items ih =>
    rw [List.forall_mem_cons] at hagree
    rw [writes_cons]
    by_cases hlater : ∃ later ∈ items, later.1 = key
    · obtain ⟨later, hlater, hkey⟩ := hlater
      have hvalue := hagree.2 later hlater hkey
      exact ih (by rwa [← hkey, ← hvalue]) hagree.2 _
    · -- the only write to the key is the first one
      have hother : ∀ later ∈ items, later.1 ≠ key := fun later h hkey => hlater ⟨later, h, hkey⟩
      rcases List.mem_cons.mp hmem with rfl | hmem
      · rw [writes_eq_of_forall_ne hother, Function.update_self]
      · exact absurd rfl (hother _ hmem)

/-- Two sequences with the same items, and one value for each key, leave the same store. -/
theorem writes_eq_of_mem_iff {items items' : List (K × V)}
    (hkeys : (items'.map Prod.fst).Nodup) (h : ∀ item, item ∈ items ↔ item ∈ items')
    (store : K → V) : writes items store = writes items' store := by
  funext key
  by_cases hkey : ∃ value, (key, value) ∈ items'
  · obtain ⟨value, hmem⟩ := hkey
    have hagree : ∀ item ∈ items', item.1 = key → item.2 = value := by
      rintro ⟨key', value'⟩ hitem rfl
      exact congrArg Prod.snd (List.inj_on_of_nodup_map hkeys hitem hmem rfl)
    rw [writes_eq_of_agree hmem hagree,
      writes_eq_of_agree ((h _).mpr hmem) fun item hitem => hagree item ((h item).mp hitem)]
  · have hother : ∀ item ∈ items', item.1 ≠ key := fun item hitem heq =>
      hkey ⟨item.2, heq ▸ hitem⟩
    rw [writes_eq_of_forall_ne hother,
      writes_eq_of_forall_ne fun item hitem => hother item ((h item).mp hitem)]

/-! ## Dictionaries -/

/-- A dictionary built item by item. A later item replaces an earlier one. -/
def dict (items : List (K × V)) : K → Option V :=
  writes (items.map fun item => (item.1, some item.2)) fun _ => none

theorem dict_eq_some {items : List (K × V)} (hkeys : (items.map Prod.fst).Nodup) {key : K}
    {value : V} (h : (key, value) ∈ items) : dict items key = some value := by
  have hmem : (key, some value) ∈ items.map fun item => (item.1, some item.2) :=
    List.mem_map.mpr ⟨_, h, rfl⟩
  refine writes_eq_of_agree hmem ?_ _
  intro item hitem hkey
  obtain ⟨⟨key', value'⟩, hitem', rfl⟩ := List.mem_map.mp hitem
  have hsame : (key', value') = (key, value) := List.inj_on_of_nodup_map hkeys hitem' h hkey
  exact congrArg (some ∘ Prod.snd) hsame

/-- A dictionary with what `value` gives for some of the keys. -/
theorem dict_filterMap {keys : List K} {value : K → Option V} {key : K} (hkey : key ∈ keys) :
    dict (keys.filterMap fun k => (value k).map fun v => (k, v)) key = value key := by
  have hitems : ∀ item ∈ (keys.filterMap fun k => (value k).map fun v => (k, v)).map
      (fun item => (item.1, some item.2)), item.2 = value item.1 := by
    intro item hitem
    obtain ⟨⟨k, v⟩, hmem, rfl⟩ := List.mem_map.mp hitem
    obtain ⟨k', _, hv⟩ := List.mem_filterMap.mp hmem
    obtain ⟨v', hv', heq⟩ := Option.map_eq_some_iff.mp hv
    cases heq
    exact hv'.symm
  cases hvalue : value key with
  | some v =>
    have hmem : (key, v) ∈ keys.filterMap fun k => (value k).map fun v => (k, v) :=
      List.mem_filterMap.mpr ⟨key, hkey, by rw [hvalue, Option.map_some]⟩
    have hwritten := List.mem_map_of_mem (f := fun item : K × V => (item.1, some item.2)) hmem
    refine writes_eq_of_agree hwritten (fun item hitem heq => ?_) _
    rw [hitems item hitem, heq, hvalue]
  | none =>
    unfold dict
    rw [writes_eq_of_forall_ne]
    intro item hitem heq
    have hnone := hitems item hitem
    obtain ⟨⟨k, v⟩, _, rfl⟩ := List.mem_map.mp hitem
    rw [heq, hvalue] at hnone
    cases hnone

end Keyed
