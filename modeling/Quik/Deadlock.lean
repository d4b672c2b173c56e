import Quik.Isolation
import Quik.Library.LockOrder

/-!
# No Deadlock on Slots

Slot guards nest in one place only. A task whose HTTP/3 dial has failed goes on
to the HTTP/2 slot of the same host and port with the guard of the HTTP/3 slot
in its hands. Everywhere else a task enters a slot with no other in its hands.
So the HTTP/3 slots rank below the HTTP/2 slots, every task takes them in that
order, and no chain of waiting tasks closes (`no_deadlock`).

## Main definitions

* `Stage.wants`: The slot a stage is about to enter.
* `LockInv`: Who is inside a slot, and the transport of a hop that falls back.
* `DeadlockFree`: What the claim of a lock order comes to.

## Theorems

* `lockInv_step`: The invariant is kept.
* `no_deadlock`: No reachable state has a cycle of waiting tasks.
-/

namespace Quik

open Transition

variable {Jar : Type} {cl : Client Jar}

/-- The slot a stage is about to enter. -/
def Stage.wants (cl : Client Jar) (v : Vars cl.crates.url) : Stage → Option String
  | .lockClone | .lockClear _ | .lockDial => some (v.poolKey cl)
  | .fallbackLock | .midLock => some (v.h2PoolKey cl)
  | _ => none

/-- A task that is about to enter a slot. -/
def Waits (s : State cl) (t : Nat) (key : String) : Prop :=
  ∃ v stage, s.tasks t = .inHop v stage ∧ stage.wants cl v = some key

/-- Slots are entered in order. -/
structure DeadlockFree (s : State cl) : Prop where
  acyclic : LockOrder.Acyclic (fun key t => s.holder key = some t) (Waits s)
  /-- Who waits for an HTTP/2 slot has at most the HTTP/3 slot of the same host
      and port. -/
  h2 : ∀ t key, Waits s t key → isH3Key key = false → ∃ u, key = slotKey cl u false ∧
    ∀ key', s.holder key' = some t → key' = slotKey cl u true
  h3 : ∀ t key, Waits s t key → isH3Key key = true → ∀ key', s.holder key' ≠ some t
  self : ∀ t key, Waits s t key → s.holder key ≠ some t

/-- The stages of a failed HTTP/3 dial. -/
def Stage.dialFallback : Stage → Bool
  | .evictDial | .fallbackLookup | .fallbackLock | .fallbackDial => true
  | _ => false

/-- Who is inside a slot knows it, and only hops routed to HTTP/3 fall back from
    a dial. -/
structure LockInv (s : State cl) : Prop where
  inside : ∀ key t, s.holder key = some t →
    ∃ v stage, s.tasks t = .inHop v stage ∧ key ∈ stage.holds cl v
  routed : ∀ t v stage, s.tasks t = .inHop v stage → stage.dialFallback = true →
    v.hasAltSvc = true

/-- Who is inside a slot after a list of effects has entered it, or was inside
    and has not left. -/
theorem foldl_apply_holder (t : Nat) (s : State cl) {fx : List Effect} {k : String} {t' : Nat}
    (h : (fx.foldl (State.apply t) s).holder k = some t') :
    t' = t ∧ .lock k ∈ fx ∨ s.holder k = some t' ∧ .unlock k ∉ fx := by
  -- By induction from the front: the first effect is settled by the state it
  -- leaves, where the rest of the list says who is inside.
  induction fx generalizing s with
  | nil => exact Or.inr ⟨h, List.not_mem_nil⟩
  | cons e fx ih =>
      rcases ih (s.apply t e) h with ⟨ht, hin⟩ | ⟨hold, hu⟩
      · exact Or.inl ⟨ht, List.mem_cons_of_mem e hin⟩
      · have hset : ∀ f : Slot → Slot, (s.setSlot k f).holder k =
            ((s.pool k).map f).bind Slot.holder := fun f => by
          rw [State.holder, setSlot_pool_self]
        by_cases hl : e = .lock k
        · left
          rw [hl, State.apply, hset] at hold
          cases hp : s.pool k with
          | none =>
              rw [hp] at hold
              exact absurd hold (by simp only [Option.map_none, Option.bind_none, reduceCtorEq,
                not_false_eq_true])
          | some slot =>
              rw [hp] at hold
              exact ⟨(Option.some.inj hold).symm, hl ▸ List.mem_cons_self⟩
        · by_cases he : e = .unlock k
          · rw [he, State.apply, hset] at hold
            cases hp : s.pool k with
            | none =>
                rw [hp] at hold
                exact absurd hold (by simp only [Option.map_none, Option.bind_none, reduceCtorEq,
                  not_false_eq_true])
            | some slot =>
                rw [hp] at hold
                exact absurd hold (by simp only [Option.map_some, Option.bind_some, reduceCtorEq,
                  not_false_eq_true])
          · right
            refine ⟨(apply_holder t s hl he).symm.trans hold, fun hin => ?_⟩
            rcases List.mem_cons.mp hin with hhead | htail
            · exact he hhead.symm
            · exact hu htail

section Moves

variable {s : State cl} {v : Vars cl.crates.url} {stage : Stage} {input : Input}
  {pc : Pc cl.crates.url} {fx : List Effect}

/-- A hop that has entered a slot, or was inside and has not left, is inside. -/
theorem move_inside (hm : StageMove s v stage input pc fx) {key : String}
    (h : .lock key ∈ fx ∨ key ∈ stage.holds cl v ∧ .unlock key ∉ fx) :
    ∃ v' stage', pc = .inHop v' stage' ∧ key ∈ stage'.holds cl v' := by
  have hdial : ∀ dialH3 outcome, .lock key ∉ dialEffects cl dialH3 outcome :=
    not_mem_dialEffects trivial
  have hdialu : ∀ dialH3 outcome, .unlock key ∉ dialEffects cl dialH3 outcome :=
    not_mem_dialEffects trivial
  cases hm with
  | midLock =>
      refine ⟨v, _, rfl, ?_⟩
      rw [afterMidLock_holds]
      simpa only [List.mem_singleton, Effect.lock.injEq, Stage.holds, List.not_mem_nil,
        false_and, or_false] using h
  | lockDialEmpty | fallbackLockEmpty | dialH3Failed | evictDial | fallbackLookup
  | midReadyAlive | midReadyDead | midDialed | midSend =>
      refine ⟨v, _, rfl, ?_⟩
      simp only [Stage.holds, List.mem_append, hdial, hdialu, List.mem_cons, List.not_mem_nil,
        Effect.lock.injEq, reduceCtorEq, or_false, false_or, not_false_eq_true, and_true] at h ⊢
      first
        | exact h
        | exact h.symm
  | dialed | dialH2Failed | fallbackDialed | fallbackDialFailed | fallbackLockTaken
  | midDialFailed | midSendUnbuilt | midSendRefused | midRespond | midFail =>
      -- Everything the stage was inside of is left.
      exfalso
      simp only [Stage.holds, List.mem_append, hdial, hdialu, List.mem_cons, List.not_mem_nil,
        Effect.unlock.injEq, reduceCtorEq, or_false, false_or] at h
      tauto
  | _ =>
      exfalso
      simp only [Stage.holds, List.mem_cons, List.not_mem_nil, reduceCtorEq, or_false,
        false_and] at h

theorem afterClone_dialFallback (c? : Option PooledConnection) :
    (afterClone c?).dialFallback = false := by
  rcases c? with _ | conn | session <;> rfl

theorem afterMidLock_dialFallback (c? : Option PooledConnection) :
    (afterMidLock c?).dialFallback = false := by
  rcases c? with _ | conn | session <;> rfl

/-- A hop enters the fallback of its dial only from an HTTP/3 dial. -/
theorem move_dialFallback (hm : StageMove s v stage input pc fx) {v' : Vars cl.crates.url}
    {stage' : Stage} (hpc : pc = .inHop v' stage') (hf : stage'.dialFallback = true) :
    v' = v ∧ (stage.dialFallback = true ∨ v.hasAltSvc = true) := by
  cases hm with
  | dialH3Failed _ _ _ halt =>
      cases hpc
      exact ⟨rfl, Or.inr halt⟩
  | lockClone =>
      cases hpc
      exact absurd ((afterClone_dialFallback _).symm.trans hf) Bool.noConfusion
  | midLock =>
      cases hpc
      exact absurd ((afterMidLock_dialFallback _).symm.trans hf) Bool.noConfusion
  | evictDial | fallbackLookup | fallbackLockEmpty =>
      cases hpc
      exact ⟨rfl, Or.inl rfl⟩
  | _ => first
    | (cases hpc; exact absurd hf Bool.noConfusion)
    | cases hpc

end Moves

/-- A step of a task that is not in a hop, and that leaves the locks alone. -/
theorem lockInv_quiet {s : State cl} (hi : LockInv s) {t : Nat} {pc : Pc cl.crates.url}
    {fx : List Effect} (hout : ∀ v stage, s.tasks t ≠ .inHop v stage)
    (hcookies : ∀ v stage, pc = .inHop v stage → stage = .cookies)
    (hholder : ∀ key, (fx.foldl (State.apply t) s).holder key = s.holder key) :
    LockInv (s.after t pc fx) := by
  constructor
  · intro key t' hh
    rcases hi.inside key t' ((hholder key).symm.trans hh) with ⟨v, stage, hpc, hk⟩
    have hne : t' ≠ t := fun heq => hout v stage (heq ▸ hpc)
    exact ⟨v, stage, by rw [State.after_tasks, Function.update_of_ne hne, hpc], hk⟩
  · intro t' v stage hpc hf
    rcases State.after_tasks_eq hpc with ⟨_, heq⟩ | ⟨_, hsame⟩
    · rw [hcookies v stage heq] at hf
      exact absurd hf Bool.noConfusion
    · exact hi.routed t' v stage hsame hf

/-- A step of a hop. Others are inside where they were; the task itself is where
    it has entered, or was and has not left. -/
theorem lockInv_stage {s : State cl} (hi : LockInv s) {t : Nat} {v : Vars cl.crates.url}
    {stage : Stage} {input : Input} {pc : Pc cl.crates.url} {fx : List Effect}
    (htask : s.tasks t = .inHop v stage) (hm : StageMove s v stage input pc fx) :
    LockInv (s.after t pc fx) := by
  constructor
  · intro key t' hh
    by_cases ht : t' = t
    · -- The task holds the slot because it locked it now, or did not unlock it.
      have hfrom : .lock key ∈ fx ∨ key ∈ stage.holds cl v ∧ .unlock key ∉ fx := by
        rcases foldl_apply_holder t s hh with ⟨_, hin⟩ | ⟨hold, hu⟩
        · exact Or.inl hin
        · rcases hi.inside key t' hold with ⟨v₀, stage₀, hpc, hk⟩
          rw [ht, htask] at hpc
          cases hpc
          exact Or.inr ⟨hk, hu⟩
      rcases move_inside hm hfrom with ⟨v', stage', hpc, hk⟩
      exact ⟨v', stage', by rw [ht, State.after_task, hpc], hk⟩
    · rcases foldl_apply_holder t s hh with ⟨heq, _⟩ | ⟨hold, _⟩
      · exact absurd heq ht
      · rcases hi.inside key t' hold with ⟨v', stage', hpc, hk⟩
        exact ⟨v', stage', by rw [State.after_tasks, Function.update_of_ne ht, hpc], hk⟩
  · intro t' v' stage' hpc hf
    rcases State.after_tasks_eq hpc with ⟨_, heq⟩ | ⟨_, hsame⟩
    · rcases move_dialFallback hm heq hf with ⟨rfl, hold | halt⟩
      · exact hi.routed t v' stage htask hold
      · exact halt
    · exact hi.routed t' v' stage' hsame hf

theorem lockInv_step {s s' : State cl} {a : Action} (hi : LockInv s) (h : step s a = some s') :
    LockInv s' := by
  cases a with
  | driver session e =>
      rcases step_driver_eq_some h with ⟨d, d', _, _, rfl⟩
      exact ⟨hi.inside, hi.routed⟩
  | task t input =>
      rcases step_task_eq_some h with ⟨pc, fx, hm, rfl⟩
      generalize htask : s.tasks t = pc₀ at hm
      cases hm with
      | call | refuse =>
          exact lockInv_quiet hi (fun _ _ hc => by cases htask.symm.trans hc)
            (fun _ _ hc => by cases hc) (fun _ => rfl)
      | enter =>
          exact lockInv_quiet hi (fun _ _ hc => by cases htask.symm.trans hc)
            (fun _ _ hc => by cases hc; rfl) (fun _ => rfl)
      | stage hm => exact lockInv_stage hi htask hm

theorem lockInv_fresh (altSvc : AltSvcCache) (jar : Jar) : LockInv (State.fresh cl altSvc jar) := by
  constructor
  · intro key t h
    exact absurd h (by simp only [State.holder, State.fresh, Option.bind_none, reduceCtorEq,
      not_false_eq_true])
  · intro t v stage h
    exact absurd h (by simp only [State.fresh, reduceCtorEq, not_false_eq_true])

/-- A task that waits is inside of nothing, or it falls back from the HTTP/3
    slot of its hop to the HTTP/2 slot. -/
theorem LockInv.waits {s : State cl} (hi : LockInv s) {t : Nat} {key : String}
    (hw : Waits s t key) : ∃ u h3, key = slotKey cl u h3 ∧
      ∀ key', s.holder key' = some t → h3 = false ∧ key' = slotKey cl u true := by
  rcases hw with ⟨v, stage, hpc, hwants⟩
  have hholds : ∀ key', s.holder key' = some t → key' ∈ stage.holds cl v := by
    intro key' hh
    rcases hi.inside key' t hh with ⟨v', stage', hpc', hk⟩
    rw [hpc] at hpc'
    cases hpc'
    exact hk
  cases stage with
  | lockClone | lockClear | lockDial =>
      exact ⟨v.parsedUrl, v.hasAltSvc, (Option.some.inj hwants).symm,
        fun key' hh => absurd (hholds key' hh) List.not_mem_nil⟩
  | midLock =>
      exact ⟨v.parsedUrl, false, (Option.some.inj hwants).symm,
        fun key' hh => absurd (hholds key' hh) List.not_mem_nil⟩
  | fallbackLock =>
      refine ⟨v.parsedUrl, false, (Option.some.inj hwants).symm, fun key' hh => ⟨rfl, ?_⟩⟩
      have halt := hi.routed t v _ hpc rfl
      rw [List.mem_singleton.mp (hholds key' hh), Vars.poolKey, halt]
      rfl
  | _ => exact absurd hwants (by simp only [Stage.wants, reduceCtorEq, not_false_eq_true])

theorem isH3Key_slotKey (u : Url) (h3 : Bool) : isH3Key (slotKey cl u h3) = h3 := by
  cases h3 with
  | true => exact isH3Key_poolKey_h3 cl.proxy u
  | false => exact isH3Key_poolKey_h2 cl.proxy u

/-- HTTP/3 slots come first. -/
def slotRank (key : String) : Nat :=
  if isH3Key key then 0 else 1

theorem LockInv.deadlockFree {s : State cl} (hi : LockInv s) : DeadlockFree s := by
  constructor
  · refine LockOrder.acyclic_of_rank slotRank (fun t key key' hw hh => ?_)
    rcases hi.waits hw with ⟨u, h3, rfl, hheld⟩
    rcases hheld key' hh with ⟨rfl, rfl⟩
    rw [slotRank, slotRank, isH3Key_slotKey, isH3Key_slotKey]
    decide
  · intro t key hw hkey
    rcases hi.waits hw with ⟨u, h3, rfl, hheld⟩
    rw [isH3Key_slotKey] at hkey
    exact ⟨u, by rw [hkey], fun key' hh => (hheld key' hh).2⟩
  · intro t key hw hkey key' hh
    rcases hi.waits hw with ⟨u, h3, rfl, hheld⟩
    rw [isH3Key_slotKey, (hheld key' hh).1] at hkey
    exact absurd hkey Bool.noConfusion
  · intro t key hw hh
    rcases hi.waits hw with ⟨u, h3, rfl, hheld⟩
    rcases hheld _ hh with ⟨hfalse, hkey⟩
    have htransport := congrArg isH3Key hkey
    rw [isH3Key_slotKey, isH3Key_slotKey, hfalse] at htransport
    exact absurd htransport Bool.noConfusion

/-- In every reachable state of a fresh client, whatever the tasks do and
    however their dials, `ready()` calls and sends turn out, slots are entered
    in order and no tasks wait for each other in a circle. -/
theorem no_deadlock (altSvc : AltSvcCache) (jar : Jar) {s : State cl}
    (h : Reachable step (State.fresh cl altSvc jar) s) : DeadlockFree s :=
  (reachable_invariant step (lockInv_fresh altSvc jar) (fun _ _ _ hi hs => lockInv_step hi hs)
    h).deadlockFree

/-- Task 0 falls back from its HTTP/3 dial and wants the HTTP/2 slot, where task
    1 is dialing. -/
def waitsNested : List Action :=
  ([ .call "GET" "https://a.test/" none .navigate, .go, .go, .go, .go, .go, .go,
    .dial (.unreachable (.connect "network is unreachable")), .go, .go ] : List Input).map
      (.task 0) ++
  ([ .call "GET" "https://a.test/" none .navigate, .go, .go, .go, .go, .go,
    .go ] : List Input).map (.task 1)

theorem no_deadlock_nested :
    ∃ s, run step cachedA waitsNested = some s ∧ s.holder "a.test:443#h3" = some 0 ∧
      s.holder "a.test:443#h2" = some 1 ∧ DeadlockFree s := by
  have hrun : (run step cachedA waitsNested).map
      (fun s => (s.holder "a.test:443#h3", s.holder "a.test:443#h2")) = some (some 0, some 1) := by
    decide +kernel
  rcases Option.map_eq_some_iff.mp hrun with ⟨s, hs, hobs⟩
  rw [Prod.mk.injEq] at hobs
  exact ⟨s, hs, hobs.1, hobs.2, no_deadlock _ () ⟨waitsNested, hs⟩⟩

end Quik
