import Mathlib.InformationTheory.Coding.UniquelyDecodable
import Mathlib.Data.List.Infix
import Mathlib.Tactic.Common

/-!
# Codes whose words say how long they are

Words written one after another can be told apart if no word is the beginning of another
one. The plain case is a code in which the first element of a word says how many elements
follow it.

Results:
1. `PrefixFree.uniquelyDecodable`: a code of which no word is the beginning of another one
   is uniquely decodable.
2. `SelfDelimiting.prefixFree`: words that say how long they are form such a code.
3. `SelfDelimiting.map_injective`: an encoder into such a code is injective on lists.
-/

open InformationTheory

variable {α β : Type*}

/-- No word is a proper beginning of another one. -/
def PrefixFree (words : Set (List α)) : Prop :=
  ∀ u ∈ words, ∀ v ∈ words, u <+: v → u = v

/-- The first element of a word tells the number of those that follow. -/
def SelfDelimiting (size : α → ℕ) (words : Set (List α)) : Prop :=
  ∀ w ∈ words, ∃ first tail, w = first :: tail ∧ tail.length = size first

namespace PrefixFree

variable {words : Set (List α)}

/-- Two words at the front of the same list are the same. -/
theorem eq_of_append_eq (h : PrefixFree words) {u v : List α} (hu : u ∈ words) (hv : v ∈ words)
    {s t : List α} (heq : u ++ s = v ++ t) : u = v := by
  have hpu : u <+: v ++ t := heq ▸ List.prefix_append u s
  rcases List.prefix_or_prefix_of_prefix hpu (List.prefix_append v t) with huv | hvu
  · exact h u hu v hv huv
  · exact (h v hv u hu hvu).symm

theorem uniquelyDecodable (h : PrefixFree words) (hnil : [] ∉ words) :
    UniquelyDecodable words := by
  intro us vs hus hvs heq
  induction us generalizing vs with
  | nil =>
    cases vs with
    | nil => rfl
    | cons v vs =>
      -- the first word would be empty
      have hempty : v = [] := (List.append_eq_nil_iff.mp heq.symm).1
      exact absurd (hempty ▸ hvs v List.mem_cons_self) hnil
  | cons u us ih =>
    cases vs with
    | nil =>
      have hempty : u = [] := (List.append_eq_nil_iff.mp heq).1
      exact absurd (hempty ▸ hus u List.mem_cons_self) hnil
    | cons v vs =>
      rw [List.flatten_cons, List.flatten_cons] at heq
      obtain rfl : u = v :=
        h.eq_of_append_eq (hus u List.mem_cons_self) (hvs v List.mem_cons_self) heq
      have htail : us = vs :=
        ih vs (fun w hw => hus w (List.mem_cons_of_mem u hw))
          (fun w hw => hvs w (List.mem_cons_of_mem u hw)) (List.append_cancel_left heq)
      rw [htail]

end PrefixFree

namespace SelfDelimiting

variable {size : α → ℕ} {words : Set (List α)}

theorem nil_notMem (h : SelfDelimiting size words) : [] ∉ words := by
  intro hnil
  obtain ⟨first, tail, heq, _⟩ := h [] hnil
  cases heq

/-- A beginning of a word that is a word has the same first element, so the same length. -/
theorem prefixFree (h : SelfDelimiting size words) : PrefixFree words := by
  intro u hu v hv hprefix
  obtain ⟨first, tail, rfl, htail⟩ := h u hu
  obtain ⟨first', tail', rfl, htail'⟩ := h v hv
  obtain ⟨rfl, hrest⟩ := List.cons_prefix_cons.mp hprefix
  rw [hrest.eq_of_length (htail.trans htail'.symm)]

theorem uniquelyDecodable (h : SelfDelimiting size words) : UniquelyDecodable words :=
  h.prefixFree.uniquelyDecodable h.nil_notMem

/-- An injective encoder into the code stays injective when words are written one after
another. -/
theorem map_injective (h : SelfDelimiting size words) {encode : β → List α}
    (hencode : Function.Injective encode) (hmem : ∀ b, encode b ∈ words) :
    Function.Injective fun items : List β => (items.map encode).flatten := by
  have hwords : ∀ items : List β, ∀ w ∈ items.map encode, w ∈ words := by
    intro items w hw
    obtain ⟨b, _, rfl⟩ := List.mem_map.mp hw
    exact hmem b
  intro items items' heq
  exact List.map_injective_iff.mpr hencode
    (h.uniquelyDecodable _ _ (hwords items) (hwords items') heq)

end SelfDelimiting
