import Mathlib.Data.List.Basic

/-!
# Scripts

A computation with a log that does one thing after another, and may fail at any
of them. It obeys a script if, where it succeeds, it has logged the script,
and where it fails, a part of it from the front. So the log of a computation
that was put together from others is told from theirs, and none of the ways it
can fail has to be looked at.

## Main definitions

* `Obeys`: The script of a computation.
* `Yields`: What it returns.

## Theorems

* `Obeys.bind`: One script after another.
* `Obeys.forM`: One script for each element of a list.
* `Obeys.ok`, `Obeys.error`: What the log says in the end.
* `Yields.bind`: The last computation returns the result.
-/

namespace Script

variable {ε σ ω α β : Type} {log : σ → List ω}

/-- A computation logs the script if it succeeds, and if it fails, no more than
    some of it from the front. -/
def Obeys (log : σ → List ω) (script : List ω) (x : EStateM ε σ α) : Prop :=
  ∀ s, match x s with
    | .ok _ s' => log s' = log s ++ script
    | .error _ s' => ∃ did, did <+: script ∧ log s' = log s ++ did

theorem Obeys.ok {script : List ω} {x : EStateM ε σ α} (h : Obeys log script x) {s s' : σ}
    {a : α} (hx : x s = .ok a s') : log s' = log s ++ script := by
  have hs := h s
  rw [hx] at hs
  exact hs

theorem Obeys.error {script : List ω} {x : EStateM ε σ α} (h : Obeys log script x) {s s' : σ}
    {e : ε} (hx : x s = .error e s') : ∃ did, did <+: script ∧ log s' = log s ++ did := by
  have hs := h s
  rw [hx] at hs
  exact hs

theorem obeys_pure (a : α) : Obeys log [] (pure a : EStateM ε σ α) :=
  fun s => (List.append_nil (log s)).symm

theorem obeys_get : Obeys log [] (get : EStateM ε σ σ) :=
  fun s => (List.append_nil (log s)).symm

/-- A computation that fails can have any script. -/
theorem obeys_throw (e : ε) (script : List ω) :
    Obeys log script (throw e : EStateM ε σ α) :=
  fun s => ⟨[], List.nil_prefix, (List.append_nil (log s)).symm⟩

/-- The second script begins where the first is done. -/
theorem Obeys.bind {script script' : List ω} {x : EStateM ε σ α} {f : α → EStateM ε σ β}
    (hx : Obeys log script x) (hf : ∀ a, Obeys log script' (f a)) :
    Obeys log (script ++ script') (x >>= f) := by
  intro s
  show match EStateM.bind x f s with
    | .ok _ s' => log s' = log s ++ (script ++ script')
    | .error _ s' => ∃ did, did <+: script ++ script' ∧ log s' = log s ++ did
  cases hrun : x s with
  | error e s' =>
      rcases hx.error hrun with ⟨did, hdid, hlog⟩
      simp only [EStateM.bind, hrun]
      exact ⟨did, hdid.trans (List.prefix_append script script'), hlog⟩
  | ok a s' =>
      have hlog := hx.ok hrun
      cases hrest : f a s' with
      | ok b s'' =>
          simp only [EStateM.bind, hrun, hrest]
          rw [(hf a).ok hrest, hlog, List.append_assoc]
      | error e s'' =>
          rcases (hf a).error hrest with ⟨did, hdid, hlog'⟩
          simp only [EStateM.bind, hrun, hrest]
          refine ⟨script ++ did, (List.prefix_append_right_inj script).mpr hdid, ?_⟩
          rw [hlog', hlog, List.append_assoc]

/-- What logs nothing adds nothing to the script, first or last. -/
theorem Obeys.quiet_bind {script : List ω} {x : EStateM ε σ α} {f : α → EStateM ε σ β}
    (hx : Obeys log [] x) (hf : ∀ a, Obeys log script (f a)) : Obeys log script (x >>= f) :=
  hx.bind hf

theorem Obeys.bind_quiet {script : List ω} {x : EStateM ε σ α} {f : α → EStateM ε σ β}
    (hx : Obeys log script x) (hf : ∀ a, Obeys log [] (f a)) :
    Obeys log script (x >>= f) := by
  have hbind := hx.bind hf
  rwa [List.append_nil] at hbind

/-- Over a list, the scripts of its elements are followed in order. -/
theorem Obeys.forM {script : α → List ω} {f : α → EStateM ε σ PUnit}
    (hf : ∀ a, Obeys log (script a) (f a)) (l : List α) :
    Obeys log (l.flatMap script) (l.forM f) := by
  induction l with
  | nil => exact obeys_pure PUnit.unit
  | cons a l ih => exact (hf a).bind (fun _ => ih)

/-- Where a computation succeeds, it returns nothing else. -/
def Yields (P : α → Prop) (x : EStateM ε σ α) : Prop :=
  ∀ s s' a, x s = .ok a s' → P a

theorem yields_pure {P : α → Prop} {a : α} (h : P a) : Yields P (pure a : EStateM ε σ α) :=
  fun _ _ _ hx => (EStateM.Result.ok.inj hx).1 ▸ h

theorem Yields.bind {P : β → Prop} {x : EStateM ε σ α} {f : α → EStateM ε σ β}
    (hf : ∀ a, Yields P (f a)) : Yields P (x >>= f) := by
  intro s s'' b hrun
  have hbind : EStateM.bind x f s = .ok b s'' := hrun
  cases hx : x s with
  | ok a s' =>
      simp only [EStateM.bind, hx] at hbind
      exact hf a s' s'' b hbind
  | error e s' => simp only [EStateM.bind, hx, reduceCtorEq] at hbind

end Script
