import Mathlib.Data.Prod.Lex
import Mathlib.Data.Set.Card
import Mathlib.Order.Interval.Finset.Nat
import Mathlib.Tactic.Linarith
import Quik.CallBound
import Quik.Correlation
import Quik.Library.Schedule
import Quik.Progress

/-!
# Every Call Returns

When no new calls are made, the calls of a client come to an end. What each of
them may still do is bounded, and a step of one adds to what the others may do
only by filling their slot, which it has paid for. So the work that is left
falls with every step of a call, whichever call it is and whatever the network
answers; and what a session may do besides is to end, once.

While work is left, there is always a step. A call waits for a slot only behind
a call that can move, and for a session only while the driver of that session
runs. So when all calls have taken their steps and the sessions somebody waits
for have ended, as a session does at the latest when it has been idle for too
long, every call that had begun has returned (`all_return`).

## Main definitions

* `workLeft`: What some calls may still do.
* `liveSessions`: The sessions whose drivers run.
* `Goes`: What a client does without new calls.

## Theorems

* `workLeft_spent`: A step of a call lowers it.
* `liveSessions_turn`, `liveSessions_closed`: Sessions end and do not come back.
* `goes_measure`: Nothing goes on for ever.
* `all_return`: And in the end all calls have returned.
-/

namespace Quik

open Transition Relation Schedule

variable {Jar : Type} {cl : Client Jar}

/-- What a call may still do, when it is one of `n`. -/
def Pc.workLeft (n : Nat) (s : State cl) (pc : Pc cl.crates.url) : Nat :=
  pc.turns s + 27 * pc.hopsLeft + 5 * n * (pc.ofStage Stage.openings + 2 * pc.hopsLeft)

/-- What some calls may still do together. -/
def workLeft (T : Finset Nat) (s : State cl) : Nat :=
  ∑ t ∈ T, (s.tasks t).workLeft T.card s

/-- The sessions whose drivers run. -/
def liveSessions (s : State cl) : Set Nat :=
  { i | ∃ d, s.drivers i = some d ∧ d.exited = false }

/-- Some driver takes a turn. -/
def Turns (s s' : State cl) : Prop :=
  ∃ i e, step s (.driver i e) = some s'

/-- After any turns of the drivers a call that has begun takes a step, or a session
    ends. -/
inductive Goes (s s' : State cl) : Prop where
  | call {s₁ : State cl} {t : Nat} {input : Input} (hturns : ReflTransGen Turns s s₁)
      (ht : (s₁.tasks t).unfinished = true) (hs : step s₁ (.task t input) = some s')
  | ends {s₁ : State cl} {i : Nat} (hturns : ReflTransGen Turns s s₁)
      (hs : step s₁ (.driver i .closed) = some s')

theorem workLeft_eq (T : Finset Nat) (s : State cl) :
    workLeft T s = ∑ t ∈ T, (s.tasks t).turns s + 27 * ∑ t ∈ T, (s.tasks t).hopsLeft +
      5 * T.card * (∑ t ∈ T, (s.tasks t).ofStage Stage.openings +
        2 * ∑ t ∈ T, (s.tasks t).hopsLeft) := by
  unfold workLeft Pc.workLeft
  rw [Finset.sum_add_distrib, Finset.sum_add_distrib, ← Finset.mul_sum, ← Finset.mul_sum,
    Finset.sum_add_distrib, ← Finset.mul_sum]

/-- A step of one of the calls lowers the work they have left. -/
theorem workLeft_spent {T : Finset Nat} {s s' : State cl} {a : Action} {i : Nat}
    (h : step s a = some s') (ha : a.task? = some i) (hi : i ∈ T) :
    workLeft T s' < workLeft T s := by
  have hturns := Finset.sum_le_sum (fun t (_ : t ∈ T) => turns_spent h t)
  have hhops := Finset.sum_le_sum (fun t (_ : t ∈ T) => hops_spent h t)
  have hopens := Finset.sum_le_sum (fun t (_ : t ∈ T) => openings_spent h t (Or.inl rfl))
  have hone : ∑ t ∈ T, Budget.share Action.task? (fun (_ : State cl) _ => 1) t s a = 1 :=
    Budget.sum_share ha hi s
  simp only [Budget.share] at hone
  -- What the step puts into slots may hold up every other call.
  have hputs : ∑ t ∈ T, putByOthers t s a ≤ T.card * spent Effect.puts s a := by
    refine Finset.sum_le_card_nsmul T _ _ (fun t _ => ?_)
    unfold putByOthers
    split
    · exact Nat.zero_le _
    · exact Nat.le_refl _
  simp only [Finset.sum_add_distrib, ← Finset.mul_sum, hone, borneBy, Budget.sum_share ha hi]
    at hturns hhops hopens
  have hpaid := Nat.mul_le_mul_left (5 * T.card)
    (Nat.add_le_add hopens (Nat.mul_le_mul_left 2 hhops))
  rw [workLeft_eq, workLeft_eq]
  nlinarith only [hturns, hhops, hputs, hpaid]

/-- A turn of a driver leaves the calls and the slots alone. -/
theorem workLeft_turn (T : Finset Nat) {s s' : State cl} (h : Turns s s') :
    workLeft T s' = workLeft T s := by
  rcases h with ⟨i, e, hs⟩
  rcases step_driver_eq_some hs with ⟨d, d', _, _, rfl⟩
  rfl

/-- No turn of a driver brings a session back. -/
theorem liveSessions_turn {s s' : State cl} (h : Turns s s') :
    liveSessions s' ⊆ liveSessions s := by
  rcases h with ⟨i, e, hs⟩
  rcases step_driver_eq_some hs with ⟨d, d', hd, hturn, rfl⟩
  rintro j ⟨d₁, hd₁, hlive⟩
  by_cases hj : j = i
  · exact ⟨d, hj ▸ hd, (Driver.step_eq_some hturn).1⟩
  · exact ⟨d₁, (Function.update_of_ne hj _ _).symm.trans hd₁, hlive⟩

/-- The end of a session is for good. -/
theorem liveSessions_closed {s s' : State cl} {i : Nat} (h : step s (.driver i .closed) = some s') :
    i ∈ liveSessions s ∧ i ∉ liveSessions s' := by
  constructor
  · rcases step_driver_eq_some h with ⟨d, d', hd, hturn, _⟩
    exact ⟨d, hd, (Driver.step_eq_some hturn).1⟩
  · rcases step_driver_eq_some h with ⟨d, d', _, hturn, rfl⟩
    rintro ⟨d₁, hd₁, hlive⟩
    have hself : some d' = some d₁ := (Function.update_self i (some d') s.drivers).symm.trans hd₁
    cases (Driver.step_eq_some hturn).2 with
    | closed =>
        rw [← Option.some.inj hself] at hlive
        exact absurd hlive Bool.true_eq_false.mp

/-- What the turns of drivers leave as it was. -/
theorem turns_spec {s s' : State cl} (h : ReflTransGen Turns s s') :
    s'.tasks = s.tasks ∧ (∀ T, workLeft T s' = workLeft T s) ∧
      liveSessions s' ⊆ liveSessions s := by
  induction h with
  | refl => exact ⟨rfl, fun _ => rfl, subset_rfl⟩
  | tail _ hturn ih =>
      have hlive := liveSessions_turn hturn
      have hwork := fun T => workLeft_turn T hturn
      rcases hturn with ⟨i, e, hs⟩
      rcases step_driver_eq_some hs with ⟨d, d', _, _, rfl⟩
      exact ⟨ih.1, fun T => (hwork T).trans (ih.2.1 T), hlive.trans ih.2.2⟩

section Reached

variable {altSvc : AltSvcCache} {jar : Jar} {s s' : State cl}

theorem reachable_act {a : Action} (hr : Reachable stepOrDrop (State.fresh cl altSvc jar) s)
    (h : step s a = some s') : Reachable stepOrDrop (State.fresh cl altSvc jar) s' := by
  have hact : stepOrDrop s (.act a) = some s' := h
  exact reachable_step stepOrDrop hr hact

theorem reachable_turns (hr : Reachable stepOrDrop (State.fresh cl altSvc jar) s)
    (h : ReflTransGen Turns s s') : Reachable stepOrDrop (State.fresh cl altSvc jar) s' := by
  induction h with
  | refl => exact hr
  | tail _ hturn ih =>
      rcases hturn with ⟨i, e, hs⟩
      exact reachable_act ih hs

theorem reachable_goes (hr : Reachable stepOrDrop (State.fresh cl altSvc jar) s)
    (h : Goes s s') : Reachable stepOrDrop (State.fresh cl altSvc jar) s' := by
  rcases h with ⟨hturns, _, hs⟩ | ⟨hturns, hs⟩
  · exact reachable_act (reachable_turns hr hturns) hs
  · exact reachable_act (reachable_turns hr hturns) hs

theorem finite_liveSessions (hr : Reachable stepOrDrop (State.fresh cl altSvc jar) s) :
    (liveSessions s).Finite := by
  rcases hr with ⟨as, has⟩
  refine (Set.finite_Iio s.nextConn).subset ?_
  rintro i ⟨d, hd, _⟩
  by_contra hle
  have hnone := (correlated_run altSvc jar has).made i (Nat.not_lt.mp hle)
  exact absurd (hnone.symm.trans hd) (by simp only [reduceCtorEq, not_false_eq_true])

end Reached

/-- A task that moves has begun its call. -/
theorem taskMove_begun {s : State cl} {pc pc' : Pc cl.crates.url} {input : Input}
    {fx : List Effect} (hm : TaskMove s pc input pc' fx) : pc' ≠ .idle := by
  cases hm with
  | call | enter | refuse => nofun
  | stage hm => cases hm <;> nofun

/-- A step of a call leaves the others where they are. -/
theorem step_begun {s s' : State cl} {a : Action} (h : step s a = some s') (t : Nat) :
    s'.tasks t = s.tasks t ∨ a.task? = some t ∧ s'.tasks t ≠ .idle := by
  cases a with
  | driver session e =>
      rcases step_driver_eq_some h with ⟨d, d', _, _, rfl⟩
      exact Or.inl rfl
  | task t' input =>
      rcases step_task_eq_some h with ⟨pc, fx, hm, rfl⟩
      by_cases ht : t = t'
      · refine Or.inr ⟨congrArg some ht.symm, ?_⟩
        rw [ht, State.after_task]
        exact taskMove_begun hm
      · exact Or.inl (Function.update_of_ne ht _ _)

/-- Finitely many calls are unfinished at any time. -/
theorem finite_unfinished {altSvc : AltSvcCache} {jar : Jar} {s : State cl}
    (hr : Reachable stepOrDrop (State.fresh cl altSvc jar) s) :
    { t | (s.tasks t).unfinished = true }.Finite := by
  refine dropInvariant (I := fun s => { t | (s.tasks t).unfinished = true }.Finite) ?_ ?_ ?_ hr
  · exact Set.finite_empty.subset (fun t ht => absurd ht Bool.false_ne_true)
  · intro s a s' hfinite h
    cases a with
    | driver session e =>
        refine hfinite.subset (fun t ht => ?_)
        rcases step_begun h t with hsame | ⟨ha, _⟩
        · rwa [Set.mem_ofPred_eq, ← hsame]
        · cases ha
    | task t₀ input =>
        -- Only the call that moves can be new among the unfinished.
        refine (hfinite.insert t₀).subset (fun t ht => ?_)
        rcases step_begun h t with hsame | ⟨ha, _⟩
        · right
          rwa [Set.mem_ofPred_eq, ← hsame]
        · exact Or.inl (Option.some.inj ha).symm
  · intro s t hfinite
    refine hfinite.subset (fun t' ht' => ?_)
    by_cases ht : t' = t
    · rw [Set.mem_ofPred_eq, drop_tasks, ht, Function.update_self] at ht'
      exact absurd ht' Bool.false_ne_true
    · rwa [Set.mem_ofPred_eq, drop_tasks, Function.update_of_ne ht] at ht'

section Schedules

variable {altSvc : AltSvcCache} {jar : Jar} {s s' : State cl}

/-- With every step there is less work left, or one session less. -/
theorem goes_measure {T : Finset Nat} (hr : Reachable stepOrDrop (State.fresh cl altSvc jar) s)
    (hT : ∀ t, (s.tasks t).unfinished = true → t ∈ T) (h : Goes s s') :
    (∀ t, (s'.tasks t).unfinished = true → t ∈ T) ∧
      toLex (workLeft T s', (liveSessions s').ncard) <
        toLex (workLeft T s, (liveSessions s).ncard) := by
  rcases h with @⟨s₁, t, input, hturns, ht, hs⟩ | @⟨s₁, i, hturns, hs⟩
  · rcases turns_spec hturns with ⟨htasks, hwork, _⟩
    have hmem : t ∈ T := hT t (htasks ▸ ht)
    -- A call that moves may make a session, but has less work left.
    refine ⟨fun t' ht' => ?_, Prod.Lex.toLex_lt_toLex.mpr (Or.inl ?_)⟩
    · rcases step_begun hs t' with hsame | ⟨ha, _⟩
      · exact hT t' (htasks ▸ hsame ▸ ht')
      · exact Option.some.inj ha ▸ hmem
    · exact hwork T ▸ workLeft_spent hs rfl hmem
  · rcases turns_spec hturns with ⟨htasks, hwork, hlive⟩
    have hturn : Turns s₁ s' := ⟨i, .closed, hs⟩
    -- The end of a session leaves all work where it was.
    refine ⟨fun t ht => ?_, Prod.Lex.toLex_lt_toLex.mpr (Or.inr ⟨?_, ?_⟩)⟩
    · rcases step_begun hs t with hsame | ⟨ha, _⟩
      · exact hT t (htasks ▸ hsame ▸ ht)
      · cases ha
    · exact (workLeft_turn T hturn).trans (hwork T)
    · rcases liveSessions_closed hs with ⟨hbefore, hafter⟩
      have hsub : liveSessions s' ⊆ liveSessions s := (liveSessions_turn hturn).trans hlive
      exact Set.ncard_lt_ncard (Set.ssubset_iff_exists.mpr ⟨hsub, i, hlive hbefore, hafter⟩)
        (finite_liveSessions hr)

/-- No schedule goes on for ever. -/
theorem ends_goes (hr : Reachable stepOrDrop (State.fresh cl altSvc jar) s) : Ends Goes s := by
  generalize hT : (finite_unfinished hr).toFinset = T
  have hmem : ∀ t, (s.tasks t).unfinished = true → t ∈ T := fun t ht =>
    hT ▸ (finite_unfinished hr).mem_toFinset.mpr ht
  refine ends_of_measure (I := fun s => Reachable stepOrDrop (State.fresh cl altSvc jar) s ∧
      ∀ t, (s.tasks t).unfinished = true → t ∈ T)
    (fun s => toLex (workLeft T s, (liveSessions s).ncard)) ?_ ⟨hr, hmem⟩
  rintro s s' ⟨hr, hmem⟩ h
  have hmeasure := goes_measure hr hmem h
  exact ⟨⟨reachable_goes hr h, hmeasure.1⟩, hmeasure.2⟩

/-- While a call is unfinished, there is a step. -/
theorem exists_goes (hr : Reachable stepOrDrop (State.fresh cl altSvc jar) s) {t : Nat}
    (ht : (s.tasks t).unfinished = true) : ∃ s', Goes s s' := by
  rcases exists_end altSvc jar hr ht with ⟨u, hu, hmoves, _⟩
  rcases hmoves with ⟨input, s', hs⟩ | ⟨v, session, d, hd, hlive, _⟩
  · exact ⟨s', .call .refl hu hs⟩
  -- Where no call can move, one waits for a session that can still end.
  · have hclosed : (step s (.driver session.id .closed)).isSome = true := by
      simp only [step, hd, Driver.step, hlive, Bool.false_eq_true, if_false, Option.isSome_some]
    rcases Option.isSome_iff_exists.mp hclosed with ⟨s', hs⟩
    exact ⟨s', .ends .refl hs⟩

/-- A call that has begun stays begun. -/
theorem goes_begun {t : Nat} (ht : s.tasks t ≠ .idle) (h : Goes s s') : s'.tasks t ≠ .idle := by
  rcases h with ⟨hturns, _, hs⟩ | ⟨hturns, hs⟩
  all_goals
    rcases step_begun hs t with hsame | ⟨_, hbegun⟩
    · rw [hsame, (turns_spec hturns).1]
      exact ht
    · exact hbegun

/-- From every state that calls which begin and are dropped can lead to: no schedule
    goes on for ever without new calls, beyond the turns of drivers, and wherever
    one has come to its end, every call that had begun has returned. -/
theorem all_return (altSvc : AltSvcCache) (jar : Jar) {s : State cl}
    (hr : Reachable stepOrDrop (State.fresh cl altSvc jar) s) :
    Ends Goes s ∧ ∀ s', Last Goes s s' → ∀ t, (s.tasks t).unfinished = true →
      ∃ result, s'.tasks t = .done result := by
  refine ⟨ends_goes hr, fun s' hlast t ht => ?_⟩
  have hbegun : s'.tasks t ≠ .idle := by
    refine hlast.of_kept (I := fun s => s.tasks t ≠ .idle) (fun _ _ => goes_begun) ?_
    rintro hidle
    rw [hidle] at ht
    cases ht
  have hr' : Reachable stepOrDrop (State.fresh cl altSvc jar) s' :=
    hlast.of_kept (fun _ _ => reachable_goes) hr
  cases hpc : s'.tasks t with
  | done result => exact ⟨result, rfl⟩
  | idle => exact absurd hpc hbegun
  -- Where somebody is unfinished, the schedule has not come to its end.
  | top | inHop =>
      have hunfinished : (s'.tasks t).unfinished = true := by rw [hpc]; rfl
      rcases exists_goes hr' hunfinished with ⟨s'', hs''⟩
      exact absurd hs'' (hlast.last s'')

end Schedules

theorem all_return_waitsWithDrop :
    ∃ s s', run stepOrDrop cachedA waitsWithDrop = some s ∧ Last Goes s s' ∧
      ∃ result, s'.tasks 0 = .done result := by
  have hrun : (run stepOrDrop cachedA waitsWithDrop).map (fun s => (s.tasks 0).unfinished) =
      some true := by decide +kernel
  rcases Option.map_eq_some_iff.mp hrun with ⟨s, hs, hunfinished⟩
  have h := all_return _ () ⟨waitsWithDrop, hs⟩
  rcases h.1.exists_last with ⟨s', hlast⟩
  exact ⟨s, s', hs, hlast, h.2 s' hlast 0 hunfinished⟩

end Quik
