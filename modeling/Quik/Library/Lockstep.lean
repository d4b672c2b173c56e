import Quik.Library.Transition

/-!
# Two Runs in Lockstep

When two runs look the same to somebody who takes part in both.

Some of the actions of a transition function are somebody's own, and a view of
the state is all they see. Two runs may differ in everything else: in the
actions of others, in how many there are, and in where they fall. `Lockstep` is
a relation that survives what others do on either side, and that own actions,
taken on both sides at once, keep and turn into equal views. Then what is seen
in one run is as far as it goes what is seen in the other
(`Lockstep.views_prefix`), and if both come to a stop they stop at the same
(`Lockstep.views_stopped`).

## Main definitions

* `views`: What is seen along a run.
* `Lockstep`: A relation between the states of two runs.

## Theorems

* `Lockstep.advance`: The other run up to its next own action.
* `Lockstep.views_prefix`: Equal views, as far as both runs go.
* `Lockstep.ends`, `Lockstep.views_stopped`: What becomes of both.
-/

namespace Quik

namespace Transition

variable {σ α β : Type*} (step : σ → α → Option σ)

/-- The view of the state after each own action of a run. -/
def views (own : α → Bool) (view : σ → β) : σ → List α → List β
  | _, [] => []
  | s, a :: as => match step s a with
    | none => []
    | some s' => if own a then view s' :: views own view s' as else views own view s' as

/-- A relation two runs stay in, whose steps are known to satisfy `P` and
    `P'`. -/
structure Lockstep (own : α → Bool) (view : σ → β) (P P' : σ → α → Prop) (R : σ → σ → Prop) :
    Prop where
  left : ∀ s t a s', R s t → P s a → own a = false → step s a = some s' → R s' t
  right : ∀ s t b t', R s t → P' t b → own b = false → step t b = some t' → R s t'
  both : ∀ s t a b s' t', R s t → P s a → P' t b → own a = true → own b = true →
    step s a = some s' → step t b = some t' → R s' t' ∧ view s' = view t'

variable {step} {own : α → Bool} {view : σ → β} {P P' : σ → α → Prop} {R : σ → σ → Prop}

theorem views_own {s s' : σ} {a : α} (as : List α) (hown : own a = true)
    (hs : step s a = some s') :
    views step own view s (a :: as) = view s' :: views step own view s' as := by
  simp only [views, hs, hown, if_true]

theorem views_other {s s' : σ} {a : α} (as : List α) (hown : own a = false)
    (hs : step s a = some s') : views step own view s (a :: as) = views step own view s' as := by
  simp only [views, hs, hown, Bool.false_eq_true, if_false]

theorem views_refused {s : σ} {a : α} (as : List α) (hs : step s a = none) :
    views step own view s (a :: as) = [] := by
  simp only [views, hs]

section Run

variable (h : Lockstep step own view P P' R)
include h

/-- The second run sees nothing any more and stays related, or comes to its
    next own action, related still. -/
theorem Lockstep.advance {s : σ} : ∀ {bs : List α} {t : σ}, R s t → Every step P' t bs →
    (views step own view t bs = [] ∧ ∀ u, run step t bs = some u → R s u) ∨
      ∃ t₁ t₂ b cs, R s t₁ ∧ P' t₁ b ∧ own b = true ∧ step t₁ b = some t₂ ∧ Every step P' t₂ cs ∧
        views step own view t bs = view t₂ :: views step own view t₂ cs ∧
        run step t bs = run step t₂ cs := by
  intro bs
  -- Other actions keep the relation, and the first own one is found.
  induction bs with
  | nil =>
      intro t hR _
      refine Or.inl ⟨rfl, fun u hu => ?_⟩
      rw [← Option.some.inj hu]
      exact hR
  | cons b bs ih =>
      intro t hR hev
      cases hs : step t b with
      | none =>
          refine Or.inl ⟨views_refused bs hs, fun u hu => ?_⟩
          rw [run_cons, hs] at hu
          exact absurd hu (by simp only [Option.bind_none, reduceCtorEq, not_false_eq_true])
      | some t' =>
          have hrun : run step t (b :: bs) = run step t' bs := by
            rw [run_cons, hs, Option.bind_some]
          cases hown : own b with
          | true =>
              exact Or.inr ⟨t, t', b, bs, hR, hev.1, hown, hs, hev.2 t' hs, views_own bs hown hs,
                hrun⟩
          | false =>
              rw [views_other bs hown hs, hrun]
              exact ih (h.right s t b t' hR hev.1 hown hs) (hev.2 t' hs)

/-- One run shows the beginning of what the other shows. -/
theorem Lockstep.views_prefix : ∀ {as bs : List α} {s t : σ}, R s t → Every step P s as →
    Every step P' t bs →
      views step own view s as <+: views step own view t bs ∨
        views step own view t bs <+: views step own view s as := by
  intro as
  induction as with
  | nil => exact fun _ _ _ => Or.inl List.nil_prefix
  | cons a as ih =>
      intro bs s t hR hev hev'
      cases hs : step s a with
      | none =>
          rw [views_refused as hs]
          exact Or.inl List.nil_prefix
      | some s' =>
          cases hown : own a with
          | false =>
              rw [views_other as hown hs]
              exact ih (h.left s t a s' hR hev.1 hown hs) (hev.2 s' hs) hev'
          | true =>
              rw [views_own as hown hs]
              -- The other run goes on to its own next step, or has none.
              rcases h.advance hR hev' with ⟨hnil, _⟩ |
                ⟨t₁, t₂, b, cs, hR₁, hP, hownb, hb, hev₂, hviews, _⟩
              · rw [hnil]
                exact Or.inr List.nil_prefix
              · rcases h.both s t₁ a b s' t₂ hR₁ hev.1 hP hown hownb hs hb with ⟨hR₂, hview⟩
                rw [hviews, hview, List.prefix_cons_inj, List.prefix_cons_inj]
                exact ih hR₂ (hev.2 s' hs) hev₂

/-- Two runs that have shown as much end in related states. -/
theorem Lockstep.ends : ∀ {as bs : List α} {s t s' t' : σ}, R s t → Every step P s as →
    Every step P' t bs → run step s as = some s' → run step t bs = some t' →
    (views step own view s as).length = (views step own view t bs).length → R s' t' := by
  intro as
  -- Along the first run: for each own action of it the second run is advanced to
  -- its next own one, so that the lengths stay equal.
  induction as with
  | nil =>
      intro bs s t s' t' hR _ hev' hrun hrun' hlen
      cases Option.some.inj hrun
      rcases h.advance hR hev' with ⟨_, hend⟩ | ⟨_, _, _, _, _, _, _, _, _, hviews, _⟩
      · exact hend t' hrun'
      · rw [hviews] at hlen
        exact absurd hlen (by simp only [views, List.length_nil, List.length_cons,
          Nat.right_eq_add, Nat.add_eq_zero_iff, Nat.one_ne_zero, and_false, not_false_eq_true])
  | cons a as ih =>
      intro bs s t s' t' hR hev hev' hrun hrun' hlen
      rcases run_cons_eq_some step hrun with ⟨s₁, hs, hrest⟩
      cases hown : own a with
      | false =>
          rw [views_other as hown hs] at hlen
          exact ih (h.left s t a s₁ hR hev.1 hown hs) (hev.2 s₁ hs) hev' hrest hrun' hlen
      | true =>
          rw [views_own as hown hs] at hlen
          rcases h.advance hR hev' with ⟨hnil, _⟩ |
            ⟨t₁, t₂, b, cs, hR₁, hP, hownb, hb, hev₂, hviews, hrun₂⟩
          · rw [hnil] at hlen
            exact absurd hlen (Nat.succ_ne_zero _)
          · rw [hviews] at hlen
            rw [hrun₂] at hrun'
            exact ih (h.both s t₁ a b s₁ t₂ hR₁ hev.1 hP hown hownb hs hb).1 (hev.2 s₁ hs) hev₂
              hrest hrun' (Nat.succ.inj hlen)

/-- Two runs that have come to a stop have shown the same. -/
theorem Lockstep.views_stopped {stop : β → Prop} (hview : ∀ s t, R s t → view s = view t)
    (hstop : ∀ s a, stop (view s) → own a = true → step s a = none) :
    ∀ {as bs : List α} {s t s' t' : σ}, R s t → Every step P s as → Every step P' t bs →
      run step s as = some s' → run step t bs = some t' → stop (view s') → stop (view t') →
      views step own view s as = views step own view t bs ∧ view s' = view t' := by
  intro as
  induction as with
  | nil =>
      intro bs s t s' t' hR _ hev' hrun hrun' hs' _
      cases Option.some.inj hrun
      rcases h.advance hR hev' with ⟨hnil, hend⟩ | ⟨t₁, t₂, b, cs, hR₁, _, hownb, hb, _⟩
      · exact ⟨hnil.symm, hview s t' (hend t' hrun')⟩
      -- The first run has stopped, so the second has nothing to do either.
      · rw [hview s t₁ hR₁] at hs'
        exact absurd ((hstop t₁ b hs' hownb).symm.trans hb)
          (by simp only [reduceCtorEq, not_false_eq_true])
  | cons a as ih =>
      intro bs s t s' t' hR hev hev' hrun hrun' hs' ht'
      rcases run_cons_eq_some step hrun with ⟨s₁, hs, hrest⟩
      cases hown : own a with
      | false =>
          rw [views_other as hown hs]
          exact ih (h.left s t a s₁ hR hev.1 hown hs) (hev.2 s₁ hs) hev' hrest hrun' hs' ht'
      | true =>
          rcases h.advance hR hev' with ⟨hnil, hend⟩ |
            ⟨t₁, t₂, b, cs, hR₁, hP, hownb, hb, hev₂, hviews, hrun₂⟩
          -- The second run has stopped already.
          · rw [← hview s t' (hend t' hrun')] at ht'
            exact absurd ((hstop s a ht' hown).symm.trans hs)
              (by simp only [reduceCtorEq, not_false_eq_true])
          · rcases h.both s t₁ a b s₁ t₂ hR₁ hev.1 hP hown hownb hs hb with ⟨hR₂, hv⟩
            rw [hrun₂] at hrun'
            rcases ih hR₂ (hev.2 s₁ hs) hev₂ hrest hrun' hs' ht' with ⟨hrestv, hend⟩
            rw [views_own as hown hs, hviews, hv, hrestv]
            exact ⟨rfl, hend⟩

end Run

end Transition

end Quik
