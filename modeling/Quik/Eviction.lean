import Quik.Pool

/-!
# Clearing a Slot

What a task throws away when `ready()` has failed on its connection.

The task cloned the connection under the lock, awaited `ready()` outside it,
and then locks the slot again and clears it without looking. In between any
other task may have cleared the slot, dialed and stored. `sinceClone` follows a
run and remembers, for each task, whether its slot has changed since the clone.
No slot ever gets an old connection back (`step_content`), so a slot that has
changed does not hold the clone any more, and a task clears the connection that
failed exactly if its slot has not changed (`clears_own_iff`).

## Main definitions

* `clearsOwn`: A clear removes the connection whose `ready()` failed.
* `sinceClone`: Whether a task's slot has changed since it cloned from it.
* `clearsUnchanged`: A clear of a slot that has not.

## Theorems

* `cloneInv_step`: A task's clone is in the slot exactly if nothing changed.
* `clears_own_iff`: The runs in which every clear is rightful.
-/

namespace Quik

open Transition

variable {Jar : Type} {cl : Client Jar}

/-- A task that sets the slot to `None` finds the very connection in it whose
    `ready()` failed. -/
def clearsOwn (s : State cl) : Action → Bool
  | .task t _ =>
    match s.tasks t with
    | .inHop v (.lockClear conn) => s.content (v.poolKey cl) = some (.http2 conn)
    | _ => true
  | .driver _ _ => true

/-- The step changes what is in the slot. -/
def slotChanges (s : State cl) (a : Action) (key : String) : Bool :=
  match step s a with
  | some s' => decide (s'.content key ≠ s.content key)
  | none => false

/-- For each task, whether its slot has changed since it last cloned from it. -/
def sinceClone (m : Nat → Bool) (s : State cl) (a : Action) : Nat → Bool := fun t =>
  match s.tasks t with
  | .inHop _ .lockClone => false
  | .inHop v _ => m t || slotChanges s a (v.poolKey cl)
  | _ => false

/-- A task that clears a slot finds it unchanged since its clone. -/
def clearsUnchanged (x : (Nat → Bool) × State cl) : Action → Bool
  | .task t _ =>
    match x.2.tasks t with
    | .inHop _ (.lockClear _) => !x.1 t
    | _ => true
  | .driver _ _ => true

/-- A stage that works with a clone from the slot of the pool key. -/
def Stage.clone? : Stage → Option Handle
  | .ready conn | .lockClear conn => some conn
  | _ => none

theorem afterClone_clone {c? : Option PooledConnection} {conn : Handle}
    (h : (afterClone c?).clone? = some conn) : c? = some (.http2 conn) := by
  rcases c? with _ | conn' | session
  · exact absurd h (by simp only [afterClone, Stage.clone?, reduceCtorEq, not_false_eq_true])
  · rw [Option.some.inj h]
  · exact absurd h (by simp only [afterClone, Stage.clone?, reduceCtorEq, not_false_eq_true])

theorem afterMidLock_clone (c? : Option PooledConnection) : (afterMidLock c?).clone? = none := by
  rcases c? with _ | conn' | session <;> rfl

/-- A clone comes from the slot, or the task had it already. -/
theorem move_clone {s : State cl} {v v' : Vars cl.crates.url} {stage stage' : Stage}
    {input : Input} {fx : List Effect} (hm : StageMove s v stage input (.inHop v' stage') fx)
    {conn : Handle} (hclone : stage'.clone? = some conn) :
    v' = v ∧ fx = [] ∧
      (stage = .lockClone ∧ s.content (v.poolKey cl) = some (.http2 conn) ∨
        stage.clone? = some conn) := by
  generalize hpc : Pc.inHop v' stage' = pc at hm
  cases hm with
  | lockClone =>
      cases hpc
      exact ⟨rfl, rfl, Or.inl ⟨rfl, afterClone_clone hclone⟩⟩
  | readyDead conn' =>
      cases hpc
      exact ⟨rfl, rfl, Or.inr hclone⟩
  | midLock =>
      cases hpc
      rw [afterMidLock_clone] at hclone
      exact absurd hclone (by simp only [reduceCtorEq, not_false_eq_true])
  | _ => first
    | (cases hpc; exact absurd hclone (by simp only [Stage.clone?, reduceCtorEq,
        not_false_eq_true]))
    | cases hpc

/-- The clone a task works with is what its slot holds, exactly if the slot has
    not changed since. -/
structure CloneInv (x : (Nat → Bool) × State cl) : Prop where
  pool : PoolInv x.2
  current : ∀ t v stage conn, x.2.tasks t = .inHop v stage → stage.clone? = some conn →
    (x.1 t = false ↔ x.2.content (v.poolKey cl) = some (.http2 conn))

/-- One more step: if the slot changes now, the clone is gone for good. -/
theorem current_step {s s' : State cl} {a : Action} (hinv : PoolInv s) (h : step s a = some s')
    {key : String} {conn : Handle} (hknown : Known s conn) {changed : Bool}
    (hcur : changed = false ↔ s.content key = some (.http2 conn)) :
    (changed || slotChanges s a key) = false ↔ s'.content key = some (.http2 conn) := by
  simp only [slotChanges, h, Bool.or_eq_false_iff, decide_eq_false_iff_not, ne_eq, not_not]
  constructor
  · rintro ⟨hc, hsame⟩
    exact hsame.trans (hcur.mp hc)
  -- The clone can be in the slot only if it was there: a new connection has a new number.
  · intro hc
    rcases step_content hinv h hc with hold | hfresh
    · exact ⟨hcur.mpr hold, hc.trans hold.symm⟩
    · exact absurd hknown.id (by rw [← hfresh]; exact Nat.lt_irrefl _)

theorem sinceClone_of_clone {m : Nat → Bool} {s : State cl} {a : Action} {t : Nat}
    {v : Vars cl.crates.url} {stage : Stage} {conn : Handle} (htask : s.tasks t = .inHop v stage)
    (hclone : stage.clone? = some conn) :
    sinceClone m s a t = (m t || slotChanges s a (v.poolKey cl)) := by
  unfold sinceClone
  rw [htask]
  cases stage with
  | ready | lockClear => rfl
  | _ => exact absurd hclone (by simp only [Stage.clone?, reduceCtorEq, not_false_eq_true])

theorem cloneInv_step {x y : (Nat → Bool) × State cl} {a : Action} (hx : CloneInv x)
    (h : withHistory step sinceClone x a = some y) : CloneInv y := by
  rcases withHistory_eq_some step h with ⟨hs, hm⟩
  refine ⟨poolInv_step hx.pool hs, fun t v stage conn htask hclone => ?_⟩
  -- A task that had its clone before the step.
  have hkept : ∀ stage₀, x.2.tasks t = .inHop v stage₀ → stage₀.clone? = some conn →
      (y.1 t = false ↔ y.2.content (v.poolKey cl) = some (.http2 conn)) := by
    intro stage₀ htask₀ hclone₀
    have hknown : Known x.2 conn := by
      refine hx.pool.knownTask t conn ?_
      rw [htask₀]
      cases stage₀ with
      | ready | lockClear => exact hclone₀
      | _ => exact absurd hclone₀ (by simp only [Stage.clone?, reduceCtorEq, not_false_eq_true])
    rw [hm, sinceClone_of_clone htask₀ hclone₀]
    exact current_step hx.pool hs hknown (hx.current t v stage₀ conn htask₀ hclone₀)
  cases a with
  | driver session e =>
      rcases step_driver_eq_some hs with ⟨d, d', _, _, hy⟩
      rw [hy] at htask
      exact hkept stage htask hclone
  | task t₀ input =>
      rcases step_task_eq_some hs with ⟨pc, fx, hmove, hy⟩
      have htasks : y.2.tasks = Function.update x.2.tasks t₀ pc := by rw [hy]; rfl
      rw [htasks] at htask
      by_cases ht : t = t₀
      · rw [ht, Function.update_self] at htask
        rw [htask] at hmove
        generalize hpc : x.2.tasks t₀ = pc₀ at hmove
        cases hmove with
        | enter => exact absurd hclone (by simp only [Stage.clone?, reduceCtorEq,
            not_false_eq_true])
        | @stage v₀ stage₀ _ _ _ hmove =>
            rcases move_clone hmove hclone with ⟨rfl, rfl, ⟨rfl, hc⟩ | hold⟩
            -- The task has cloned in this very step, and nothing was written.
            · have hm' : y.1 t = false := by
                rw [hm, ht, sinceClone, hpc]
              rw [hy]
              exact ⟨fun _ => hc, fun _ => hm'⟩
            · exact hkept stage₀ (ht ▸ hpc) hold
      · rw [Function.update_of_ne ht] at htask
        exact hkept stage htask hclone

/-- In a run of a fresh client, every clear removes the connection whose
    `ready()` failed exactly if no clearing task's slot has changed since the
    task cloned from it. -/
theorem clears_own_iff (altSvc : AltSvcCache) (jar : Jar) (as : List Action) :
    Every step (fun s a => clearsOwn s a = true) (State.fresh cl altSvc jar) as ↔
      Every (withHistory step sinceClone) (fun x a => clearsUnchanged x a = true)
        (fun _ => false, State.fresh cl altSvc jar) as := by
  rw [← every_withHistory step sinceClone (fun _ => false)]
  refine every_congr (withHistory step sinceClone) (I := CloneInv)
    (fun _ _ _ hx h => cloneInv_step hx h) ?_
    ⟨poolInv_fresh altSvc jar, fun t v stage conn htask => ?_⟩ as
  · intro x a hx
    cases a with
    | driver => exact Iff.rfl
    | task t input =>
        simp only [clearsOwn, clearsUnchanged]
        cases htask : x.2.tasks t with
        | inHop v stage =>
            cases stage with
            | lockClear conn =>
                simp only [decide_eq_true_eq, Bool.not_eq_true']
                exact (hx.current t v _ conn htask rfl).symm
            | _ => exact Iff.rfl
        | _ => exact Iff.rfl
  · exact absurd htask (by simp only [State.fresh, reduceCtorEq, not_false_eq_true])

/-- A task begins a request and goes as far as its clone from the slot. -/
def clones (t : Nat) : List Action :=
  ([.call "GET" "https://a.test/" none .navigate, .go, .go, .go, .go, .go] : List Input).map
    (.task t)

/-- A task that found the slot empty locks it and dials. -/
def dials (t : Nat) : List Action :=
  ([.go, .dial (.connected { ip := .v4 0xC0000201, port := 443 } none)] : List Input).map (.task t)

/-- Tasks 1 and 2 clone the connection task 0 dialed. It dies, task 1 clears
    the slot and dials another one, and task 2 clears that. -/
def clearsTwice : List Action :=
  clones 0 ++ dials 0 ++ clones 1 ++ clones 2 ++
    [.task 1 (.ready false), .task 1 .go, .task 1 .go] ++ dials 1 ++
    [.task 2 (.ready false), .task 2 .go]

/-- A connection nobody has found dead is dropped. -/
theorem clears_foreign :
    (run step (State.fresh direct AltSvcCache.new ()) clearsTwice).isSome = true ∧
      ¬ Every step (fun s a => clearsOwn s a = true)
        (State.fresh direct AltSvcCache.new ()) clearsTwice := by
  decide +kernel

end Quik
