import Mathlib.Logic.Relation

/-!
# Lock Orders

Mutexes that are always taken in the order of a rank cannot deadlock. Nothing
here names a particular system: `holds` says which task is inside a mutex and
`waits` which mutex a task wants to enter, and the wait-for relation between
tasks is what the two make together.

## Main definitions

* `WaitsFor`: A task wants to enter a mutex another task is inside of.
* `Acyclic`: No task waits for itself, however indirectly.

## Theorems

* `acyclic_of_rank`: A task that only wants what ranks above what it holds.
* `exists_end_of_chain`: Chains of waiting tasks end, if ranks are bounded.
-/

namespace Quik

namespace LockOrder

variable {τ κ : Type*} (holds : κ → τ → Prop) (waits : τ → κ → Prop)

/-- `t` wants to enter a mutex that `t'` is inside of. -/
def WaitsFor (t t' : τ) : Prop :=
  ∃ k, waits t k ∧ holds k t'

/-- No chain of waiting tasks leads back to where it began. -/
def Acyclic : Prop :=
  ∀ t, ¬ Relation.TransGen (WaitsFor holds waits) t t

variable {holds waits}

/-- Along a chain of waiting tasks the mutexes rise in rank. -/
theorem rank_le_of_chain {rank : κ → Nat}
    (horder : ∀ t k k', waits t k → holds k' t → rank k' < rank k) {t u : τ}
    (h : Relation.TransGen (WaitsFor holds waits) t u) :
    ∃ k k', waits t k ∧ holds k' u ∧ rank k ≤ rank k' := by
  induction h with
  | single hfirst =>
      rcases hfirst with ⟨k, hw, hh⟩
      exact ⟨k, k, hw, hh, Nat.le_refl _⟩
  | tail _ hlast ih =>
      rcases ih with ⟨k, k', hw, hh, hle⟩
      rcases hlast with ⟨k'', hw', hh'⟩
      exact ⟨k, k'', hw, hh', Nat.le_trans hle (Nat.le_of_lt (horder _ _ _ hw' hh))⟩

/-- If every task wants only mutexes that rank above all it is inside of, no
    task waits for itself. -/
theorem acyclic_of_rank (rank : κ → Nat)
    (horder : ∀ t k k', waits t k → holds k' t → rank k' < rank k) : Acyclic holds waits := by
  intro t hcycle
  rcases rank_le_of_chain horder hcycle with ⟨k, k', hw, hh, hle⟩
  exact absurd (horder t k k' hw hh) (Nat.not_lt.mpr hle)

/-- With ranks that are bounded, every chain of waiting tasks leads to a task
    that waits for nobody. -/
theorem exists_end_of_chain {rank : κ → Nat} {n : Nat} (hbound : ∀ k, rank k ≤ n)
    (horder : ∀ t k k', waits t k → holds k' t → rank k' < rank k) (t : τ) :
    ∃ u, (u = t ∨ Relation.TransGen (WaitsFor holds waits) t u) ∧
      ∀ u', ¬ WaitsFor holds waits u u' := by
  by_cases ht : ∃ u, WaitsFor holds waits t u
  · rcases ht with ⟨u, k, hw, hh⟩
    -- Each task of the chain is inside a mutex of a higher rank than the one before.
    have hend : ∀ m u k, holds k u → n ≤ rank k + m →
        Relation.TransGen (WaitsFor holds waits) t u →
        ∃ u', Relation.TransGen (WaitsFor holds waits) t u' ∧
          ∀ u'', ¬ WaitsFor holds waits u' u'' := by
      intro m
      induction m with
      | zero =>
          intro u k hh hle hchain
          refine ⟨u, hchain, ?_⟩
          rintro u' ⟨k', hw', _⟩
          have hlt := horder u k' k hw' hh
          have hmax := hbound k'
          omega
      | succ m ih =>
          intro u k hh hle hchain
          by_cases hu : ∃ u', WaitsFor holds waits u u'
          · rcases hu with ⟨u', k', hw', hh'⟩
            have hlt := horder u k' k hw' hh
            exact ih u' k' hh' (by omega) (hchain.tail ⟨k', hw', hh'⟩)
          · exact ⟨u, hchain, fun u' hu' => hu ⟨u', hu'⟩⟩
    rcases hend n u k hh (Nat.le_add_left n _) (.single ⟨k, hw, hh⟩) with ⟨u', hchain, hlast⟩
    exact ⟨u', Or.inr hchain, hlast⟩
  · exact ⟨t, Or.inl rfl, fun u hu => ht ⟨u, hu⟩⟩

end LockOrder

end Quik
