import Quik.Deadlock
import Quik.Delivery

/-!
# Calls That Are Dropped

A call is a future, and its caller may drop it at any place where it awaits: a
timeout around it is enough. The task is gone then, and with it everything it
held. A guard that is dropped unlocks its slot and leaves what is in the slot
alone; a reply channel that is dropped has nobody behind it, and the driver's
answer goes nowhere.

A client whose callers drop their calls at any time keeps what the pool rests
on. No slot stays locked, for a task that is inside a slot has not been
dropped; what a call has stored is whole, for a slot is written in one step;
and the others find the slots as if the call had ended.

A drop is modelled at every stage, also at those where the source does not
await anything, and the task it leaves behind may call again.

## Main definitions

* `Pc.unfinished`: A call that can be dropped.
* `State.drop`: What a drop leaves behind.
* `ClientAction`, `stepOrDrop`: The steps of a client whose calls may be dropped.

## Theorems

* `poolInv_drop`, `lockInv_drop`, `placed_drop`: A drop keeps the invariants.
* `dropInvariant`: What every step and every drop keeps.
* `drop_safe`: Isolation and the order of the slots, whatever is dropped.
-/

namespace Quik

open Transition

variable {Jar : Type} {cl : Client Jar}

/-- The call has begun and has not ended. -/
def Pc.unfinished {c : UrlCrate} : Pc c → Bool
  | .top _ _ | .inHop _ _ => true
  | _ => false

/-- The guards of a task leave their slots. -/
def Slot.release (t : Nat) (slot : Slot) : Slot :=
  if slot.holder = some t then { slot with holder := none } else slot

/-- A task whose future is dropped. -/
def State.drop (s : State cl) (t : Nat) : State cl :=
  { s with
    pool := fun key => (s.pool key).map (Slot.release t)
    tasks := Function.update s.tasks t .idle }

/-- A step of the client, or the drop of a call. -/
inductive ClientAction where
  | act (a : Action)
  | drop (t : Nat)

def stepOrDrop (s : State cl) : ClientAction → Option (State cl)
  | .act a => step s a
  | .drop t => if (s.tasks t).unfinished then some (s.drop t) else none

section Drop

variable (s : State cl) (t : Nat)

theorem drop_pool (key : String) : (s.drop t).pool key = (s.pool key).map (Slot.release t) := rfl

theorem drop_tasks : (s.drop t).tasks = Function.update s.tasks t .idle := rfl

theorem drop_content (key : String) : (s.drop t).content key = s.content key := by
  rw [State.content, State.content, drop_pool]
  cases s.pool key with
  | none => rfl
  | some slot =>
      simp only [Option.map_some, Option.bind_some, Slot.release]
      split <;> rfl

/-- Who is inside a slot after a drop was inside before, and is not the task
    that was dropped. -/
theorem drop_holder {key : String} {t' : Nat} :
    (s.drop t).holder key = some t' ↔ s.holder key = some t' ∧ t' ≠ t := by
  rw [State.holder, State.holder, drop_pool]
  cases s.pool key with
  | none => simp only [Option.map_none, Option.bind_none, reduceCtorEq, false_and]
  | some slot =>
      simp only [Option.map_some, Option.bind_some, Slot.release]
      by_cases hheld : slot.holder = some t
      · rw [if_pos hheld, hheld]
        simp only [reduceCtorEq, Option.some.injEq, false_iff, not_and, not_not]
        exact fun h => h.symm
      · rw [if_neg hheld]
        refine ⟨fun h => ⟨h, fun heq => hheld (heq ▸ h)⟩, And.left⟩

theorem drop_isSome (key : String) : ((s.drop t).pool key).isSome = (s.pool key).isSome :=
  Option.isSome_map

/-- The tasks in a hop after a drop were there before. -/
theorem drop_task {t' : Nat} {v : Vars cl.crates.url} {stage : Stage}
    (h : (s.drop t).tasks t' = .inHop v stage) : s.tasks t' = .inHop v stage ∧ t' ≠ t := by
  by_cases ht : t' = t
  · rw [drop_tasks, ht, Function.update_self] at h
    exact absurd h (by simp only [reduceCtorEq, not_false_eq_true])
  · rw [drop_tasks, Function.update_of_ne ht] at h
    exact ⟨h, ht⟩

end Drop

/-- A slot the dropped task was inside of is free, and its content stays. -/
theorem poolInv_drop {s : State cl} (hinv : PoolInv s) (t : Nat) : PoolInv (s.drop t) := by
  have hknown : ∀ h, Known s h → Known (s.drop t) h := fun h hk => ⟨hk.socket, hk.id⟩
  constructor
  · exact fun key c hc => hknown _ (hinv.known key c (drop_content s t key ▸ hc))
  · intro t' h hh
    cases htask : (s.drop t).tasks t' with
    | inHop v stage =>
        have hold := (drop_task s t htask).1
        rw [htask] at hh
        exact hknown _ (hinv.knownTask t' h (by rw [hold]; exact hh))
    | _ =>
        rw [htask] at hh
        exact absurd hh (by simp only [Pc.handle?, reduceCtorEq, not_false_eq_true])
  · intro t' v stage key htask hk
    rcases drop_task s t htask with ⟨hold, hne⟩
    exact (drop_holder s t).mpr ⟨hinv.mutex t' v stage key hold hk, hne⟩
  · exact fun key c hc => hinv.kind key c (drop_content s t key ▸ hc)
  · intro t' v stage htask
    exact (hinv.relies t' v stage (drop_task s t htask).1).keep
      (fun key _ => drop_content s t key) (fun key _ hc => (drop_content s t key).trans hc)

theorem lockInv_drop {s : State cl} (hinv : LockInv s) (t : Nat) : LockInv (s.drop t) := by
  constructor
  · intro key t' hh
    rcases (drop_holder s t).mp hh with ⟨hold, hne⟩
    rcases hinv.inside key t' hold with ⟨v, stage, htask, hk⟩
    exact ⟨v, stage, (Function.update_of_ne hne _ _).trans htask, hk⟩
  · exact fun t' v stage htask => hinv.routed t' v stage (drop_task s t htask).1

theorem placed_fresh (altSvc : AltSvcCache) (jar : Jar) : Placed (State.fresh cl altSvc jar) := by
  constructor
  · intro u h3 c hc
    cases hc
  · intro t v stage h htask
    cases htask

theorem placed_drop {s : State cl} (hinv : Placed s) (t : Nat) : Placed (s.drop t) :=
  ⟨fun u h3 c hc => hinv.slot u h3 c (drop_content s t _ ▸ hc),
    fun t' v stage h htask => hinv.task t' v stage h (drop_task s t htask).1⟩

/-- A dropped hop leaves its budget unspent. -/
theorem deliveryInv_drop {s : State cl} (hinv : DeliveryInv s) (t : Nat) :
    DeliveryInv (s.drop t) := by
  refine deliveryInv_drains hinv (fun ticket => ⟨fun _ => Nat.le_refl _, Or.inl rfl⟩)
    (fun _ => rfl) rfl (fun t' v stage htask => ?_)
  exact ⟨v, stage, (drop_task s t htask).1, rfl, id, id⟩

/-- What every step and every drop keeps holds along every run. -/
theorem dropInvariant {I : State cl → Prop} {init s : State cl} (hinit : I init)
    (hstep : ∀ s a s', I s → step s a = some s' → I s') (hdrop : ∀ s t, I s → I (s.drop t))
    (hr : Reachable stepOrDrop init s) : I s := by
  refine reachable_invariant stepOrDrop hinit (fun s a s' hi hs => ?_) hr
  cases a with
  | act a => exact hstep s a s' hi hs
  | drop t =>
      simp only [stepOrDrop] at hs
      split at hs
      · exact Option.some.inj hs ▸ hdrop s t hi
      · exact absurd hs (by simp only [reduceCtorEq, not_false_eq_true])

/-- In every reachable state of a fresh client whose callers drop their calls at
    any time, the slots hold what their keys say, the tasks work with connections
    of their own URLs, slots are entered in order, and whoever is inside a slot is
    a call that goes on and knows it: a dropped call leaves no slot locked. -/
theorem drop_safe (altSvc : AltSvcCache) (jar : Jar) {s : State cl}
    (hr : Reachable stepOrDrop (State.fresh cl altSvc jar) s) :
    Isolated s ∧ DeadlockFree s ∧ ∀ key t, s.holder key = some t →
      (s.tasks t).unfinished = true ∧
        ∃ v stage, s.tasks t = .inHop v stage ∧ key ∈ stage.holds cl v := by
  have hinv : Placed s ∧ PoolInv s ∧ LockInv s := by
    -- A drop frees slots and leaves their contents, so it breaks none of the three.
    refine dropInvariant (I := fun s => Placed s ∧ PoolInv s ∧ LockInv s)
      ⟨placed_fresh altSvc jar, poolInv_fresh altSvc jar, lockInv_fresh altSvc jar⟩ ?_ ?_ hr
    · rintro s a s' ⟨hp, hi, hl⟩ hs
      exact ⟨placed_step hp hs, poolInv_step hi hs, lockInv_step hl hs⟩
    · rintro s t ⟨hp, hi, hl⟩
      exact ⟨placed_drop hp t, poolInv_drop hi t, lockInv_drop hl t⟩
  rcases hinv with ⟨hp, hi, hl⟩
  refine ⟨hp.isolated hi, hl.deadlockFree, fun key t hh => ?_⟩
  rcases hl.inside key t hh with ⟨v, stage, htask, hk⟩
  exact ⟨by rw [htask]; rfl, v, stage, htask, hk⟩

/-- A call is dropped while it dials in a slot, and another enters the slot
    after it. -/
def dialIsDropped : List ClientAction :=
  ([.call "GET" "https://a.test/" none .navigate, .go, .go, .go, .go, .go, .go] : List Input).map
    (fun input => .act (.task 0 input)) ++
  [.drop 0] ++
  ([.call "GET" "https://a.test/" none .navigate, .go, .go, .go, .go, .go, .go] : List Input).map
    (fun input => .act (.task 1 input))

theorem drop_safe_dialIsDropped :
    ∃ s, run stepOrDrop (State.fresh direct AltSvcCache.new ()) dialIsDropped = some s ∧
      s.holder "a.test:443#h2" = some 1 ∧ Isolated s ∧ DeadlockFree s ∧
      ∀ key t, s.holder key = some t → (s.tasks t).unfinished = true ∧
        ∃ v stage, s.tasks t = .inHop v stage ∧ key ∈ stage.holds direct v := by
  have hrun : (run stepOrDrop (State.fresh direct AltSvcCache.new ()) dialIsDropped).map
      (fun s => s.holder "a.test:443#h2") = some (some 1) := by decide +kernel
  rcases Option.map_eq_some_iff.mp hrun with ⟨s, hs, hheld⟩
  exact ⟨s, hs, hheld, drop_safe _ () ⟨dialIsDropped, hs⟩⟩

end Quik
