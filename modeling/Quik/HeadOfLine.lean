import Quik.Deadlock

/-!
# Head-of-Line Blocking

Who waits for a response should not be inside a slot, or everybody else who
needs the slot's connection waits for that response too. The acquisition loop
and the fallback of a failed dial leave their slots before the request is sent.
The fallback of a failed send does not: its guard lives until the response is
there. So a run is free of such waits exactly if it never sends a request in
that fallback (`unblocked_iff`).

## Main definitions

* `Stage.awaitsResponse`: The stages that wait for a response.
* `Unblocked`: Nobody waits for a response from inside a slot.
* `sendsFallback`: A request is sent in the fallback of a failed send.

## Theorems

* `unblocked_iff`: The runs without head-of-line blocking.
-/

namespace Quik

open Transition

variable {Jar : Type} {cl : Client Jar}

/-- The stages inside `PooledConnection::send` that wait for a response. -/
def Stage.awaitsResponse : Stage → Bool
  | .awaitH2 _ _ | .awaitH3 _ | .midAwait _ _ => true
  | _ => false

/-- A task that waits for a response is inside of no slot. -/
def Unblocked (s : State cl) : Prop :=
  ∀ t v stage, s.tasks t = .inHop v stage → stage.awaitsResponse = true →
    ∀ key, s.holder key ≠ some t

/-- The step hands a request to HTTP/2 after a failed HTTP/3 send. -/
def sendsFallback (s : State cl) : Action → Bool
  | .task t (.transmit none) =>
    match s.tasks t with
    | .inHop v (.midSend _) => (buildRequest v).isOk
    | _ => false
  | _ => false

/-- The one stage that waits from inside a slot. -/
def Pc.awaitsInside {c : UrlCrate} : Pc c → Bool
  | .inHop _ (.midAwait _ _) => true
  | _ => false

theorem unblocked_iff_outside {s : State cl} (hinv : PoolInv s) (hlock : LockInv s) :
    Unblocked s ↔ ∀ t, (s.tasks t).awaitsInside = false := by
  constructor
  · intro hq t
    rw [← Bool.not_eq_true]
    intro hin
    cases hpc : s.tasks t with
    | inHop v stage =>
        rw [hpc] at hin
        cases stage with
        | midAwait conn urlStr =>
            exact hq t v _ hpc rfl _ (hinv.mutex t v _ _ hpc List.mem_cons_self)
        | _ => exact absurd hin Bool.false_ne_true
    | _ =>
        rw [hpc] at hin
        exact absurd hin Bool.false_ne_true
  · -- A task that holds a slot is inside it, so it does not await outside.
    intro hout t v stage hpc hawait key hh
    rcases hlock.inside key t hh with ⟨v', stage', hpc', hk⟩
    rw [hpc] at hpc'
    cases hpc'
    cases stage with
    | awaitH2 | awaitH3 => exact absurd hk List.not_mem_nil
    | midAwait =>
        have hfalse := hout t
        rw [hpc] at hfalse
        exact absurd hfalse Bool.noConfusion
    | _ => exact absurd hawait Bool.false_ne_true

theorem afterClone_awaitsInside (v : Vars cl.crates.url) (c? : Option PooledConnection) :
    (Pc.inHop v (afterClone c?)).awaitsInside = false := by
  rcases c? with _ | conn | session <;> rfl

theorem afterMidLock_awaitsInside (v : Vars cl.crates.url) (c? : Option PooledConnection) :
    (Pc.inHop v (afterMidLock c?)).awaitsInside = false := by
  rcases c? with _ | conn | session <;> rfl

/-- A hop waits from inside a slot once its fallback request is sent. -/
theorem move_awaitsInside {s : State cl} {v : Vars cl.crates.url} {stage : Stage} {input : Input}
    {pc : Pc cl.crates.url} {fx : List Effect} (hm : StageMove s v stage input pc fx) :
    pc.awaitsInside = true ↔ input = .transmit none ∧ (∃ conn, stage = .midSend conn) ∧
      (buildRequest v).isOk = true := by
  cases hm with
  -- The only way in; the other two ends of this stage let go of the slot.
  | midSend conn request hb =>
      rw [hb]
      exact ⟨fun _ => ⟨rfl, ⟨conn, rfl⟩, rfl⟩, fun _ => rfl⟩
  | midSendUnbuilt conn refused e hb =>
      rw [hb]
      exact ⟨fun h => absurd h Bool.false_ne_true, fun h => absurd h.2.2 Bool.false_ne_true⟩
  | midSendRefused conn request e hb =>
      exact ⟨fun h => absurd h Bool.false_ne_true,
        fun h => absurd h.1 (by simp only [Input.transmit.injEq, reduceCtorEq, not_false_eq_true])⟩
  | lockClone =>
      rw [afterClone_awaitsInside]
      exact ⟨fun h => absurd h Bool.false_ne_true, fun h => absurd h.1 Input.noConfusion⟩
  | midLock =>
      rw [afterMidLock_awaitsInside]
      exact ⟨fun h => absurd h Bool.false_ne_true, fun h => absurd h.1 Input.noConfusion⟩
  | _ =>
      refine ⟨fun h => absurd h Bool.false_ne_true, ?_⟩
      rintro ⟨_, ⟨conn, hstage⟩, _⟩
      cases hstage

/-- A step out of an unblocked state leads to one exactly if it sends no
    fallback request. -/
theorem unblocked_step {s s' : State cl} {a : Action} (hinv : PoolInv s) (hlock : LockInv s)
    (hq : Unblocked s) (h : step s a = some s') : Unblocked s' ↔ sendsFallback s a = false := by
  rw [unblocked_iff_outside hinv hlock] at hq
  rw [unblocked_iff_outside (poolInv_step hinv h) (lockInv_step hlock h)]
  cases a with
  | driver session e =>
      rcases step_driver_eq_some h with ⟨d, d', _, _, rfl⟩
      exact ⟨fun _ => rfl, fun _ => hq⟩
  | task t input =>
      rcases step_task_eq_some h with ⟨pc, fx, hm, rfl⟩
      -- Only the task that moves can begin to wait.
      have hmoved : (∀ t', ((s.after t pc fx).tasks t').awaitsInside = false) ↔
          pc.awaitsInside = false := by
        constructor
        · intro hall
          have ht := hall t
          rwa [State.after_task] at ht
        · intro hpc t'
          rcases State.after_tasks_eq (rfl : (s.after t pc fx).tasks t' = _) with
            ⟨_, heq⟩ | ⟨_, hsame⟩
          · rw [← heq, hpc]
          · rw [← hsame, hq t']
      rw [hmoved]
      generalize htask : s.tasks t = pc₀ at hm
      cases hm with
      | call | enter | refuse => exact ⟨fun _ => rfl, fun _ => rfl⟩
      | @stage v stage _ _ _ hm =>
          rw [← Bool.not_eq_true, ← Bool.not_eq_true, not_iff_not, move_awaitsInside hm]
          constructor
          · rintro ⟨rfl, ⟨conn, rfl⟩, hb⟩
            simp only [sendsFallback, htask, hb]
          · intro hs
            cases input with
            | transmit refused =>
                cases refused with
                | some e => exact absurd hs Bool.false_ne_true
                | none =>
                    simp only [sendsFallback, htask] at hs
                    cases stage with
                    | midSend conn => exact ⟨rfl, ⟨conn, rfl⟩, hs⟩
                    | _ => exact absurd hs Bool.false_ne_true
            | _ => exact absurd hs Bool.false_ne_true

/-- In a run of a fresh client nobody ever waits for a response from inside a
    slot exactly if no step sends a request in the fallback of a failed HTTP/3
    send. -/
theorem unblocked_iff (altSvc : AltSvcCache) (jar : Jar) {as : List Action} {s : State cl}
    (hrun : run step (State.fresh cl altSvc jar) as = some s) :
    Always step Unblocked (State.fresh cl altSvc jar) as ↔
      Every step (fun s a => sendsFallback s a = false) (State.fresh cl altSvc jar) as := by
  have hfresh : Unblocked (State.fresh cl altSvc jar) := by
    intro t v stage hpc
    exact absurd hpc (by simp only [State.fresh, reduceCtorEq, not_false_eq_true])
  exact always_iff_every step (I := fun s => PoolInv s ∧ LockInv s)
    (fun _ _ _ hi hs => ⟨poolInv_step hi.1 hs, lockInv_step hi.2 hs⟩)
    (fun _ _ _ hi hq hs => unblocked_step hi.1 hi.2 hq hs) as _ s
    ⟨poolInv_fresh altSvc jar, lockInv_fresh altSvc jar⟩ hfresh hrun

/-- Task 0 sends on a new HTTP/3 session and waits for its response, and task 1
    takes the session from the slot and does the same. -/
def bothAwait : List Action :=
  ([ .call "GET" "https://a.test/" none .navigate, .go, .go, .go, .go, .go, .go,
    .dial (.connected { ip := .v4 0xC0000201, port := 443 } none), .go ] : List Input).map
    (.task 0) ++
  ([ .call "GET" "https://a.test/" none .navigate, .go, .go, .go, .go, .go,
    .go ] : List Input).map (.task 1)

/-- Two wait for their responses, and neither has kept the other from the slot. -/
theorem unblocked_bothAwait :
    (run step cachedA bothAwait).map (fun s =>
        ((s.tasks 0).awaiting?.isSome, (s.tasks 1).awaiting?.isSome)) = some (true, true) ∧
      Always step Unblocked cachedA bothAwait := by
  have hawait : (run step cachedA bothAwait).map (fun s =>
      ((s.tasks 0).awaiting?.isSome, (s.tasks 1).awaiting?.isSome)) = some (true, true) := by
    decide +kernel
  rcases Option.map_eq_some_iff.mp hawait with ⟨s, hs, _⟩
  exact ⟨hawait, (unblocked_iff _ () hs).mpr (by decide +kernel)⟩

/-- Task 0 sends on an HTTP/3 session whose driver has exited, and has locked
    the HTTP/2 slot and dialed for it. -/
def sendFails : List Action :=
  ([ .call "GET" "https://a.test/" none .navigate, .go, .go, .go, .go, .go, .go,
    .dial (.connected { ip := .v4 0xC0000201, port := 443 } none) ] : List Input).map (.task 0) ++
  [.driver 0 .closed] ++
  ([ .go, .go, .go, .go,
    .dial (.connected { ip := .v4 0xC0000201, port := 443 } none) ] : List Input).map (.task 0)

/-- Its request is sent, and task 1 comes to the same slot. -/
def fallbackAwaits : List Action :=
  .task 0 (.transmit none) ::
    ([.call "GET" "https://a.test/" none .navigate, .go, .go, .go, .go] : List Input).map (.task 1)

/-- From then on task 0 waits for its response inside the slot, and task 1 cannot
    obtain the connection. -/
theorem fallback_blocks :
    ¬ Always step Unblocked cachedA (sendFails ++ fallbackAwaits) ∧
      (run step cachedA (sendFails ++ fallbackAwaits)).isSome = true ∧
      run step cachedA (sendFails ++ fallbackAwaits ++ [.task 1 .go]) = none := by
  refine ⟨fun hall => ?_, by decide +kernel, Option.isNone_iff_eq_none.mp (by decide +kernel)⟩
  have hend : (run step cachedA (sendFails ++ fallbackAwaits)).map
      (fun s => (s.holder "a.test:443#h2", (s.tasks 0).awaitsInside)) = some (some 0, true) := by
    decide +kernel
  rcases Option.map_eq_some_iff.mp hend with ⟨s, hs, hobs⟩
  rw [Prod.mk.injEq] at hobs
  cases hpc : s.tasks 0 with
  | inHop v stage =>
      rw [hpc] at hobs
      cases stage with
      | midAwait conn urlStr => exact hall _ s (List.prefix_refl _) hs 0 v _ hpc rfl _ hobs.1
      | _ => exact absurd hobs.2 Bool.false_ne_true
  | _ =>
      rw [hpc] at hobs
      exact absurd hobs.2 Bool.false_ne_true

end Quik
