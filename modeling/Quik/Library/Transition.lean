import Mathlib.Data.List.Infix
import Mathlib.Tactic.Common

/-!
# Runs of Labelled Transition Functions

Executable transition systems: a step function takes a state and an action and
either moves or refuses. Nothing here names a particular system; a model
supplies its step function and gets runs, invariants, and the two ways a claim
about a run is usually made.

A claim is about states (`Always`: every state the run passes through) or
about steps (`Every`: every step the run takes, with the state it is taken
from). `always_iff_every` trades one for the other: when a step keeps the
state good exactly if the step itself is good, a run stays good exactly if all
of its steps are good. That is the shape of an exact condition, since the
right side speaks only of the state before a step.

A history variable records what a run has done so far without being part of
the state. `withHistory` pairs a system with one; the pairing never stops a run
(`exists_run_withHistory`) and is never seen by a step property that does not
look at it (`every_withHistory`).

## Main definitions

* `run`: Performing a list of actions.
* `Reachable`: A state some run from the initial state ends in.
* `Always`: A property of every state a run passes through.
* `Every`: A property of every step a run takes.
* `edges`: The pairs of consecutive states of a run.
* `withHistory`: A system paired with a history variable.
* `history`: The history variable at the end of a run.

## Theorems

* `run_append`: Splitting a run.
* `run_invariant`: A property every step preserves holds at the end of a run.
* `run_invariant_of_every`: The same, when only the run's own steps preserve it.
* `reachable_invariant`: An inductive invariant holds in every reachable state.
* `reachable_step`: One step from a reachable state.
* `run_induction`: A property of a run and where it ends, step by step.
* `Every.and`, `Every.imp`: Combining step properties.
* `every_congr`: Two step properties that agree under an invariant.
* `every_of_invariant`: A step property that follows from one.
* `always_iff_every`: Good states are good steps.
* `exists_run_withHistory`: Every run has a history.
* `every_withHistory`: Steps do not depend on it.
-/

namespace Quik

namespace Transition

variable {σ α μ : Type*} (step : σ → α → Option σ)

/-- Perform the actions in order, or `none` if one of them is refused. -/
def run : σ → List α → Option σ
  | s, [] => some s
  | s, a :: as => match step s a with
    | none => none
    | some s' => run s' as

/-- Some run from `init` ends in `s`. -/
def Reachable (init s : σ) : Prop :=
  ∃ as, run step init as = some s

/-- Every state the run passes through, its two ends included, satisfies `Q`. -/
def Always (Q : σ → Prop) (s : σ) (as : List α) : Prop :=
  ∀ pre s', pre <+: as → run step s pre = some s' → Q s'

/-- Every step of the run, taken from the state it is taken in, satisfies `P`. -/
def Every (P : σ → α → Prop) : σ → List α → Prop
  | _, [] => True
  | s, a :: as => P s a ∧ ∀ s', step s a = some s' → Every P s' as

instance Every.decidable (P : σ → α → Prop) [∀ s a, Decidable (P s a)] :
    ∀ (s : σ) (as : List α), Decidable (Every step P s as)
  | _, [] => .isTrue trivial
  | s, a :: as => match h : step s a with
    | none => decidable_of_iff (P s a) (by simp only [Every, h, reduceCtorEq, false_implies,
        implies_true, and_true])
    | some s' =>
      have := Every.decidable P s' as
      decidable_of_iff (P s a ∧ Every step P s' as) (by simp only [Every, h, Option.some.injEq,
        forall_eq'])

/-- The pairs of consecutive states, in order. -/
def edges : σ → List α → List (σ × σ)
  | _, [] => []
  | s, a :: as => match step s a with
    | none => []
    | some s' => (s, s') :: edges s' as

@[simp] theorem run_nil (s : σ) : run step s [] = some s := rfl

theorem run_cons (s : σ) (a : α) (as : List α) :
    run step s (a :: as) = (step s a).bind (fun s' => run step s' as) := by
  simp only [run]
  cases step s a with
  | none => rfl
  | some s' => rfl

theorem run_append (s : σ) (as bs : List α) :
    run step s (as ++ bs) = (run step s as).bind (fun t => run step t bs) := by
  induction as generalizing s with
  | nil => rfl
  | cons a as ih =>
      rw [List.cons_append, run_cons, run_cons]
      cases step s a with
      | none => rfl
      | some s' => exact ih s'

theorem run_append_of_eq {s t u : σ} {as bs : List α} (h1 : run step s as = some t)
    (h2 : run step t bs = some u) : run step s (as ++ bs) = some u := by
  rw [run_append, h1]
  exact h2

theorem run_singleton (s : σ) (a : α) : run step s [a] = step s a := by
  rw [run_cons]
  cases step s a with
  | none => rfl
  | some s' => rfl

/-- A run that has a first action takes it, and the rest is a run. -/
theorem run_cons_eq_some {s t : σ} {a : α} {as : List α} (h : run step s (a :: as) = some t) :
    ∃ s', step s a = some s' ∧ run step s' as = some t := by
  rw [run_cons] at h
  cases hs : step s a with
  | none =>
      rw [hs] at h
      exact absurd h (by simp only [Option.bind_none, reduceCtorEq, not_false_eq_true])
  | some s' =>
      rw [hs] at h
      exact ⟨s', rfl, h⟩

theorem edges_cons {s s' : σ} {a : α} (as : List α) (hs : step s a = some s') :
    edges step s (a :: as) = (s, s') :: edges step s' as := by
  rw [edges, hs]

/-- The pairs of a run and one more step. -/
theorem edges_concat {t u : σ} {a : α} : ∀ {as : List α} {s : σ}, run step s as = some t →
    step t a = some u → edges step s (as ++ [a]) = edges step s as ++ [(t, u)] := by
  intro as
  induction as with
  | nil =>
      intro s hrun hs
      simp only [run_nil, Option.some.injEq] at hrun
      rw [hrun, List.nil_append, edges_cons step [] hs]
      rfl
  | cons b as ih =>
      intro s hrun hs
      rcases run_cons_eq_some step hrun with ⟨s', hb, hrest⟩
      rw [List.cons_append, edges_cons step _ hb, edges_cons step _ hb, ih hrest hs,
        List.cons_append]

/-- A run of at least one action ends in a step. -/
theorem run_concat_eq_some {s t : σ} {as : List α} {a : α}
    (h : run step s (as ++ [a]) = some t) :
    ∃ s', run step s as = some s' ∧ step s' a = some t := by
  rw [run_append] at h
  rcases Option.bind_eq_some_iff.mp h with ⟨s', hs', ht⟩
  rw [run_singleton] at ht
  exact ⟨s', hs', ht⟩

/-- The end of a run, continued. -/
theorem run_get {s : σ} {as bs : List α} (h : (run step s as).isSome = true)
    (h' : (run step s (as ++ bs)).isSome = true) :
    run step ((run step s as).get h) bs = some ((run step s (as ++ bs)).get h') := by
  rcases Option.isSome_iff_exists.mp h with ⟨t, ht⟩
  rw [Option.some_get, run_append]
  simp only [ht, Option.get_some, Option.bind_some]

theorem step_get {s : σ} {as : List α} {a : α} (h : (run step s as).isSome = true)
    (h' : (run step s (as ++ [a])).isSome = true) :
    step ((run step s as).get h) a = some ((run step s (as ++ [a])).get h') := by
  rw [← run_singleton step, run_get step h h']

/-- A property that every step of the run preserves holds where it ends. The
    step property `P` is what the run is known to satisfy along the way. -/
theorem run_invariant_of_every {I : σ → Prop} {P : σ → α → Prop}
    (hstep : ∀ s a s', I s → P s a → step s a = some s' → I s') :
    ∀ (as : List α) (s t : σ), I s → Every step P s as → run step s as = some t → I t := by
  intro as
  induction as with
  | nil =>
      intro s t hI _ hrun
      simp only [run_nil, Option.some.injEq] at hrun
      rw [← hrun]
      exact hI
  | cons a as ih =>
      intro s t hI hev hrun
      rcases run_cons_eq_some step hrun with ⟨s', hs, hrest⟩
      exact ih s' t (hstep s a s' hI hev.1 hs) (hev.2 s' hs) hrest

theorem every_true (s : σ) (as : List α) : Every step (fun _ _ => True) s as := by
  induction as generalizing s with
  | nil => exact trivial
  | cons a as ih => exact ⟨trivial, fun s' _ => ih s'⟩

theorem Every.and {P P' : σ → α → Prop} : ∀ {as : List α} {s : σ}, Every step P s as →
    Every step P' s as → Every step (fun s a => P s a ∧ P' s a) s as
  | [], _, _, _ => trivial
  | _ :: _, _, h, h' => ⟨⟨h.1, h'.1⟩, fun s' hs => Every.and (h.2 s' hs) (h'.2 s' hs)⟩

theorem Every.imp {P P' : σ → α → Prop} (h : ∀ s a, P s a → P' s a) : ∀ {as : List α} {s : σ},
    Every step P s as → Every step P' s as
  | [], _, _ => trivial
  | _ :: _, _, hev => ⟨h _ _ hev.1, fun s' hs => Every.imp h (hev.2 s' hs)⟩

/-- A property every step preserves holds at the end of every run. -/
theorem run_invariant {I : σ → Prop}
    (hstep : ∀ s a s', I s → step s a = some s' → I s') {as : List α} {s t : σ}
    (hI : I s) (hrun : run step s as = some t) : I t :=
  run_invariant_of_every step (P := fun _ _ => True) (fun s a s' h _ hs => hstep s a s' h hs)
    as s t hI (every_true step s as) hrun

/-- An inductive invariant holds in every reachable state. -/
theorem reachable_invariant {I : σ → Prop} {init s : σ} (hinit : I init)
    (hstep : ∀ s a s', I s → step s a = some s' → I s') (h : Reachable step init s) : I s := by
  rcases h with ⟨as, has⟩
  exact run_invariant step hstep hinit has

/-- One step further is reachable too. -/
theorem reachable_step {init s s' : σ} {a : α} (hr : Reachable step init s)
    (h : step s a = some s') : Reachable step init s' := by
  rcases hr with ⟨as, hrun⟩
  exact ⟨as ++ [a], run_append_of_eq step hrun ((run_singleton step s a).trans h)⟩

/-- What holds of the empty run, and of a run and one more step where it holds of
    the run, holds of every run. -/
theorem run_induction {init : σ} {P : List α → σ → Prop} (hnil : P [] init)
    (hstep : ∀ as s a s', run step init as = some s → P as s → step s a = some s' →
      P (as ++ [a]) s') {as : List α} {s : σ} (hrun : run step init as = some s) : P as s := by
  induction as using List.reverseRecOn generalizing s with
  | nil =>
      simp only [run_nil, Option.some.injEq] at hrun
      exact hrun ▸ hnil
  | append_singleton as a ih =>
      rcases run_concat_eq_some step hrun with ⟨s', hrun', hs⟩
      exact hstep as s' a s hrun' (ih hrun') hs

/-- Two step properties that agree wherever an invariant holds are satisfied
    by the same runs. -/
theorem every_congr {I : σ → Prop} {P P' : σ → α → Prop}
    (hstep : ∀ s a s', I s → step s a = some s' → I s')
    (hiff : ∀ s a, I s → (P s a ↔ P' s a)) {s : σ} (hI : I s) (as : List α) :
    Every step P s as ↔ Every step P' s as := by
  induction as generalizing s with
  | nil => exact Iff.rfl
  | cons a as ih =>
      constructor
      · intro h
        exact ⟨(hiff s a hI).mp h.1, fun s' hs => (ih (hstep s a s' hI hs)).mp (h.2 s' hs)⟩
      · intro h
        exact ⟨(hiff s a hI).mpr h.1, fun s' hs => (ih (hstep s a s' hI hs)).mpr (h.2 s' hs)⟩

/-- A step property that follows from an invariant holds of every step. -/
theorem every_of_invariant {I : σ → Prop} {P : σ → α → Prop}
    (hstep : ∀ s a s', I s → step s a = some s' → I s') (h : ∀ s a, I s → P s a) {s : σ}
    (hI : I s) (as : List α) : Every step P s as := by
  induction as generalizing s with
  | nil => exact trivial
  | cons a as ih => exact ⟨h s a hI, fun s' hs => ih (hstep s a s' hI hs)⟩

/-- The states of a run are its first state and the states of the rest. -/
theorem always_cons {Q : σ → Prop} {s s' : σ} {a : α} {as : List α} (hs : step s a = some s') :
    Always step Q s (a :: as) ↔ Q s ∧ Always step Q s' as := by
  constructor
  · intro h
    refine ⟨h [] s (List.nil_prefix) rfl, fun pre t hpre ht => h (a :: pre) t ?_ ?_⟩
    · exact (List.prefix_cons_inj a).mpr hpre
    · rw [run_cons, hs]
      exact ht
  · rintro ⟨hq, hrest⟩ pre t hpre ht
    cases pre with
    | nil =>
        simp only [run_nil, Option.some.injEq] at ht
        rw [← ht]
        exact hq
    | cons b pre =>
        rcases List.cons_prefix_cons.mp hpre with ⟨rfl, hpre'⟩
        rw [run_cons, hs] at ht
        exact hrest pre t hpre' ht

theorem always_nil {Q : σ → Prop} {s : σ} : Always step Q s ([] : List α) ↔ Q s := by
  constructor
  · intro h
    exact h [] s (List.prefix_refl []) rfl
  · intro hq pre t hpre ht
    rw [List.prefix_nil.mp hpre] at ht
    simp only [run_nil, Option.some.injEq] at ht
    rw [← ht]
    exact hq

/-- When a step out of a good state lands in a good one exactly if the step is
    good, a run stays good exactly if all of its steps are good. -/
theorem always_iff_every {I Q : σ → Prop} {P : σ → α → Prop}
    (hstep : ∀ s a s', I s → step s a = some s' → I s')
    (hiff : ∀ s a s', I s → Q s → step s a = some s' → (Q s' ↔ P s a)) :
    ∀ (as : List α) (s t : σ), I s → Q s → run step s as = some t →
      (Always step Q s as ↔ Every step P s as) := by
  intro as
  induction as with
  | nil =>
      intro s t _ hQ _
      rw [always_nil]
      exact ⟨fun _ => trivial, fun _ => hQ⟩
  | cons a as ih =>
      intro s t hI hQ hrun
      rcases run_cons_eq_some step hrun with ⟨s', hs, hrest⟩
      have hI' : I s' := hstep s a s' hI hs
      rw [always_cons step hs]
      constructor
      -- The state after the first step is in the run, so that step was good.
      · rintro ⟨_, h⟩
        have hQ' : Q s' := h [] s' List.nil_prefix rfl
        refine ⟨(hiff s a s' hI hQ hs).mp hQ', fun s'' hs'' => ?_⟩
        rw [hs, Option.some.injEq] at hs''
        rw [← hs'']
        exact (ih s' t hI' hQ' hrest).mp h
      -- A good step leads to a good state, from where the rest goes on.
      · rintro ⟨hP, h⟩
        have hQ' : Q s' := (hiff s a s' hI hQ hs).mpr hP
        exact ⟨hQ, (ih s' t hI' hQ' hrest).mpr (h s' hs)⟩

/-- The system paired with a history variable, which `upd` brings up to date
    from the state before each step and the action taken. -/
def withHistory (upd : μ → σ → α → μ) (x : μ × σ) (a : α) : Option (μ × σ) :=
  (step x.2 a).map (fun s' => (upd x.1 x.2 a, s'))

/-- The history variable at the end of a run. -/
def history (upd : μ → σ → α → μ) : μ → σ → List α → μ
  | m, _, [] => m
  | m, s, a :: as => match step s a with
    | none => m
    | some s' => history upd (upd m s a) s' as

/-- The history of a run and one more step. -/
theorem history_concat {upd : μ → σ → α → μ} {a : α} {t u : σ} (hs : step t a = some u) :
    ∀ {as : List α} {m : μ} {s : σ}, run step s as = some t →
      history step upd m s (as ++ [a]) = upd (history step upd m s as) t a := by
  intro as
  induction as with
  | nil =>
      intro m s hrun
      simp only [run_nil, Option.some.injEq] at hrun
      rw [hrun]
      simp only [List.nil_append, history, hs]
  | cons b as ih =>
      intro m s hrun
      rcases run_cons_eq_some step hrun with ⟨s', hb, hrest⟩
      simp only [List.cons_append, history, hb]
      exact ih hrest

/-- Two histories kept side by side are the two histories. -/
theorem history_prod {ν : Type*} (upd : μ → σ → α → μ) (upd' : ν → σ → α → ν) :
    ∀ (as : List α) (m : μ) (n : ν) (s : σ),
      history step (fun (x : μ × ν) s a => (upd x.1 s a, upd' x.2 s a)) (m, n) s as =
        (history step upd m s as, history step upd' n s as) := by
  intro as
  induction as with
  | nil => exact fun _ _ _ => rfl
  | cons a as ih =>
      intro m n s
      simp only [history]
      cases step s a with
      | none => rfl
      | some s' => exact ih (upd m s a) (upd' n s a) s'

/-- What every step preserves of the state and the history together. -/
theorem history_invariant {upd : μ → σ → α → μ} {J : μ → σ → Prop}
    (hstep : ∀ m s a s', J m s → step s a = some s' → J (upd m s a) s') :
    ∀ {as : List α} {m : μ} {s t : σ}, J m s → run step s as = some t →
      J (history step upd m s as) t := by
  intro as
  induction as with
  | nil =>
      intro m s t hJ hrun
      simp only [run_nil, Option.some.injEq] at hrun
      exact hrun ▸ hJ
  | cons a as ih =>
      intro m s t hJ hrun
      rcases run_cons_eq_some step hrun with ⟨s', hs, hrest⟩
      simp only [history, hs]
      exact ih (hstep m s a s' hJ hs) hrest

theorem withHistory_eq_some {upd : μ → σ → α → μ} {x y : μ × σ} {a : α}
    (h : withHistory step upd x a = some y) :
    step x.2 a = some y.2 ∧ y.1 = upd x.1 x.2 a := by
  rcases Option.map_eq_some_iff.mp h with ⟨s', hs, hy⟩
  rw [← hy]
  exact ⟨hs, rfl⟩

/-- A history variable never stops a run. -/
theorem exists_run_withHistory (upd : μ → σ → α → μ) : ∀ {as : List α} (m : μ) {s t : σ},
    run step s as = some t → ∃ m', run (withHistory step upd) (m, s) as = some (m', t) := by
  intro as
  induction as with
  | nil =>
      intro m s t h
      simp only [run_nil, Option.some.injEq] at h
      exact ⟨m, by rw [h]; rfl⟩
  | cons a as ih =>
      intro m s t h
      rcases run_cons_eq_some step h with ⟨s', hs, hrest⟩
      rcases ih (upd m s a) hrest with ⟨m', hm'⟩
      refine ⟨m', ?_⟩
      rw [run_cons]
      simp only [withHistory, hs, Option.map_some, Option.bind_some]
      exact hm'

/-- A property of the steps does not depend on a history variable beside
    them. -/
theorem every_withHistory (upd : μ → σ → α → μ) {P : σ → α → Prop} :
    ∀ {as : List α} (m : μ) {s : σ},
      Every (withHistory step upd) (fun x a => P x.2 a) (m, s) as ↔ Every step P s as := by
  intro as
  induction as with
  | nil => exact fun _ _ => Iff.rfl
  | cons a as ih =>
      intro m s
      constructor
      · rintro ⟨hP, hrest⟩
        refine ⟨hP, fun s' hs => (ih (upd m s a)).mp (hrest (upd m s a, s') ?_)⟩
        rw [withHistory, hs, Option.map_some]
      · rintro ⟨hP, hrest⟩
        refine ⟨hP, fun y hy => ?_⟩
        -- The history after the step is the one the induction was made for.
        rcases withHistory_eq_some step hy with ⟨hs, hm⟩
        have h := (ih (upd m s a)).mpr (hrest y.2 hs)
        rw [← hm] at h
        exact h

end Transition

end Quik
