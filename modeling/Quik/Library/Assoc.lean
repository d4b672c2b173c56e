import Mathlib.Data.List.Basic
import Mathlib.Tactic.Common

/-!
# Ordered Association Lists

Key-value lists that keep the order in which keys first arrived. An update of
a present key happens in place and an update of an absent key goes to the end,
so iterating over the list visits the keys in arrival order however often they
were written.

Both ways of writing, replacing what a key holds and adding to it, are
instances of `alter`, which hands the current value to a function and stores
what comes back. The lookup lemmas are about `alter` and so serve both.

## Main definitions

* `alter`: Rewriting the value of one key.

## Theorems

* `lookup_of_mem`: With distinct keys, membership is lookup.
* `lookup_alter_self`: The altered key holds the new value.
* `lookup_alter_of_ne`: Every other key is untouched.
* `alter_eq_self`: Storing what is there already changes nothing.
* `keys_alter`: Altering adds at most the one key, at the end.
* `nodup_keys_alter`: Keys stay distinct.
* `forall_values_alter`: A property of all values survives.
-/

namespace Quik

namespace Assoc

variable {κ β : Type*} [DecidableEq κ]

/-- Replace the value under `k` by `f` of it, in place, or append a new entry
    with `f none`. -/
def alter (k : κ) (f : Option β → β) : List (κ × β) → List (κ × β)
  | [] => [(k, f none)]
  | (k', b) :: rest => if k' = k then (k', f (some b)) :: rest else (k', b) :: alter k f rest

theorem lookup_cons_ite (k k' : κ) (b : β) (l : List (κ × β)) :
    List.lookup k ((k', b) :: l) = if k' = k then some b else List.lookup k l := by
  rw [List.lookup_cons]
  by_cases h : k' = k
  · rw [if_pos h, h, beq_self_eq_true]
  · rw [if_neg h, beq_eq_false_iff_ne.mpr (fun hc => h hc.symm)]

/-- Where the keys are distinct, what is in the list is what is looked up. -/
theorem lookup_of_mem {k : κ} {b : β} {l : List (κ × β)} (hnodup : (l.map Prod.fst).Nodup)
    (hin : (k, b) ∈ l) : l.lookup k = some b := by
  induction l with
  | nil => exact absurd hin List.not_mem_nil
  | cons e l ih =>
      rcases e with ⟨k', b'⟩
      rw [List.map_cons, List.nodup_cons] at hnodup
      rw [lookup_cons_ite]
      by_cases hk : k' = k
      · rw [if_pos hk]
        rcases List.mem_cons.mp hin with heq | hrest
        · rw [(Prod.mk.inj heq).2]
        · exact absurd (List.mem_map_of_mem hrest) (hk ▸ hnodup.1)
      · rw [if_neg hk]
        rcases List.mem_cons.mp hin with heq | hrest
        · exact absurd (Prod.mk.inj heq).1.symm hk
        · exact ih hnodup.2 hrest

theorem lookup_eq_none_of_notMem {k : κ} {l : List (κ × β)} (h : k ∉ l.map Prod.fst) :
    l.lookup k = none := by
  refine List.lookup_eq_none_iff.mpr (fun e he => ?_)
  rw [bne_iff_ne]
  exact fun hc => h (List.mem_map.mpr ⟨e, he, hc.symm⟩)

theorem lookup_alter_self (k : κ) (f : Option β → β) (l : List (κ × β)) :
    (alter k f l).lookup k = some (f (l.lookup k)) := by
  induction l with
  | nil => rw [alter, lookup_cons_ite, if_pos rfl, List.lookup_nil]
  | cons e l ih =>
      rcases e with ⟨k', b⟩
      rw [alter, lookup_cons_ite k k' b]
      by_cases h : k' = k
      · rw [if_pos h, if_pos h, lookup_cons_ite, if_pos h]
      · rw [if_neg h, if_neg h, lookup_cons_ite, if_neg h, ih]

theorem lookup_alter_of_ne {k j : κ} (hne : j ≠ k) (f : Option β → β) (l : List (κ × β)) :
    (alter k f l).lookup j = l.lookup j := by
  have hkj : ¬ (k = j) := fun hc => hne hc.symm
  induction l with
  | nil => rw [alter, lookup_cons_ite, if_neg hkj]
  | cons e l ih =>
      rcases e with ⟨k', b⟩
      rw [alter, lookup_cons_ite j k' b]
      by_cases h : k' = k
      · have hk'j : ¬ (k' = j) := fun hc => hkj (h.symm.trans hc)
        rw [if_pos h, lookup_cons_ite, if_neg hk'j, if_neg hk'j]
      · rw [if_neg h, lookup_cons_ite, ih]

/-- Storing what is there already changes nothing. -/
theorem alter_eq_self {k : κ} {f : Option β → β} {l : List (κ × β)} {b : β}
    (h : l.lookup k = some b) (hf : f (some b) = b) : alter k f l = l := by
  induction l with
  | nil => exact absurd h (by simp only [List.lookup_nil, reduceCtorEq, not_false_eq_true])
  | cons e l ih =>
      rcases e with ⟨k', b'⟩
      rw [lookup_cons_ite] at h
      rw [alter]
      by_cases hk : k' = k
      · rw [if_pos hk] at h ⊢
        rw [Option.some.inj h, hf]
      · rw [if_neg hk] at h ⊢
        rw [ih h]

theorem keys_alter (k : κ) (f : Option β → β) (l : List (κ × β)) :
    (alter k f l).map Prod.fst =
      if k ∈ l.map Prod.fst then l.map Prod.fst else l.map Prod.fst ++ [k] := by
  induction l with
  | nil => rfl
  | cons e l ih =>
      rcases e with ⟨k', b⟩
      rw [alter]
      by_cases h : k' = k
      · rw [if_pos h, List.map_cons, List.map_cons, if_pos (by rw [h]; exact List.mem_cons_self)]
      · have hmem : k ∈ k' :: l.map Prod.fst ↔ k ∈ l.map Prod.fst := by
          rw [List.mem_cons]
          exact or_iff_right (fun hc => h hc.symm)
        rw [if_neg h, List.map_cons, List.map_cons, ih]
        simp only [hmem]
        by_cases hk : k ∈ l.map Prod.fst
        · rw [if_pos hk, if_pos hk]
        · rw [if_neg hk, if_neg hk, List.cons_append]

theorem nodup_keys_alter {k : κ} {f : Option β → β} {l : List (κ × β)}
    (h : (l.map Prod.fst).Nodup) : ((alter k f l).map Prod.fst).Nodup := by
  rw [keys_alter]
  by_cases hk : k ∈ l.map Prod.fst
  · rw [if_pos hk]
    exact h
  · rw [if_neg hk, List.nodup_append]
    refine ⟨h, List.pairwise_singleton _ k, fun a ha b hb => ?_⟩
    rw [List.mem_singleton.mp hb]
    exact fun hc => hk (hc ▸ ha)

theorem forall_values_alter {P : β → Prop} {k : κ} {f : Option β → β} {l : List (κ × β)}
    (hf : ∀ o, P (f o)) (h : ∀ e ∈ l, P e.2) : ∀ e ∈ alter k f l, P e.2 := by
  induction l with
  | nil =>
      intro e he
      rw [alter, List.mem_singleton] at he
      rw [he]
      exact hf none
  | cons e l ih =>
      rcases e with ⟨k', b⟩
      intro e he
      rw [alter] at he
      by_cases hk : k' = k
      · rw [if_pos hk] at he
        rcases List.mem_cons.mp he with rfl | he
        · exact hf (some b)
        · exact h e (List.mem_cons_of_mem _ he)
      · rw [if_neg hk] at he
        rcases List.mem_cons.mp he with rfl | he
        · exact h _ List.mem_cons_self
        · exact ih (fun e he => h e (List.mem_cons_of_mem _ he)) e he

end Assoc

end Quik
