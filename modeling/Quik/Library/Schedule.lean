import Mathlib.Logic.Relation
import Mathlib.Order.WellFounded

/-!
# Schedules That End

When every step of a system lowers a measure, in whatever order the steps are
taken, no schedule goes on for ever, and so every schedule that is not cut short
reaches a state where nothing is left to do. Nothing here names a particular
system: `next` is any relation between a state and those after it.

## Main definitions

* `Ends`: No schedule from a state goes on for ever.
* `Last`: A state where a schedule has come to its end.

## Theorems

* `ends_of_measure`: A measure that falls, where an invariant holds.
* `Ends.exists_last`: There is such an end.
* `Last.of_kept`: What every step keeps is there at the end.
-/

namespace Quik

namespace Schedule

variable {σ β : Type*} (next : σ → σ → Prop)

/-- No schedule from the state goes on for ever. -/
def Ends (s : σ) : Prop :=
  Acc (fun s' s => next s s') s

/-- A schedule from `s` has come to its end in `s'`. -/
structure Last (s s' : σ) : Prop where
  reached : Relation.ReflTransGen next s s'
  last : ∀ s'', ¬ next s' s''

variable {next}

/-- A measure that every step lowers, where an invariant holds that every step
    keeps. -/
theorem ends_of_measure [LT β] [WellFoundedLT β] {I : σ → Prop} (measure : σ → β)
    (hstep : ∀ s s', I s → next s s' → I s' ∧ measure s' < measure s) {s : σ} (hs : I s) :
    Ends next s := by
  have hacc : ∀ m, ∀ s, measure s = m → I s → Ends next s := by
    intro m
    induction m using WellFoundedLT.induction with
    | ind m ih =>
        intro s hm hs
        refine Acc.intro s (fun s' hnext => ?_)
        rcases hstep s s' hs hnext with ⟨hs', hlt⟩
        exact ih (measure s') (hm ▸ hlt) s' rfl hs'
  exact hacc (measure s) s rfl hs

theorem Ends.exists_last {s : σ} (h : Ends next s) : ∃ s', Last next s s' := by
  induction h with
  | intro s _ ih =>
      by_cases hnext : ∃ s', next s s'
      · rcases hnext with ⟨s', hs'⟩
        rcases ih s' hs' with ⟨s'', hlast⟩
        exact ⟨s'', hlast.reached.head hs', hlast.last⟩
      · exact ⟨s, .refl, fun s' hs' => hnext ⟨s', hs'⟩⟩

/-- What every step keeps is there at the end. -/
theorem Last.of_kept {I : σ → Prop} (hstep : ∀ s s', I s → next s s' → I s') {s s' : σ}
    (h : Last next s s') (hs : I s) : I s' := by
  have hreached := h.reached
  clear h
  induction hreached with
  | refl => exact hs
  | tail _ hnext ih => exact hstep _ _ ih hnext

end Schedule

end Quik
