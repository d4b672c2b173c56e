import Quik.Pool

/-!
# Dead Sessions

What becomes of an HTTP/3 session whose driver has exited.

A send on it fails, at the command channel or at the reply channel, and the hop
goes on to the HTTP/2 fallback. Nothing on that way touches the slot of the
session, and the acquisition loop takes a session from its slot unasked. So a
session that has failed is in its slot in every later state, and the slots are
free of dead sessions in exactly the runs in which no send fails on one
(`dead_sessions_stay`).

## Main definitions

* `failsOn`: The session a step finds dead.
* `deadSessions`: The sessions found dead so far.
* `Discarded`: None of them is in a slot.

## Theorems

* `deadInv_step`: A dead session is in its slot, and stays there.
* `dead_sessions_stay`: The runs whose slots are free of dead sessions.
-/

namespace Quik

open Transition

variable {Jar : Type} {cl : Client Jar}

/-- The session on which a step's send fails because the driver has exited: the
    command channel is closed, or the reply channel was dropped with it. -/
def failsOn (s : State cl) : Action → Option Handle
  | .driver _ _ => none
  | .task t _ =>
    match s.tasks t with
    -- The receiver of the command channel is gone.
    | .inHop v (.send (.http3 session)) =>
      match buildRequest v, s.drivers session.id with
      | .ok _, some d => if d.exited then some session else none
      | _, _ => none
    -- The command was taken, and its reply channel dropped unanswered.
    | .inHop v (.awaitH3 session) =>
      match s.drivers session.id with
      | some d => if d.exited && (d.answers.lookup v.ticket).isNone then some session else none
      | none => none
    | _ => none

/-- The sessions found dead so far. -/
def deadSessions (m : List Handle) (s : State cl) (a : Action) : List Handle :=
  m ++ (failsOn s a).toList

/-- No session that was found dead is in a slot. -/
def Discarded (x : List Handle × State cl) : Prop :=
  ∀ session ∈ x.1, ∀ key, x.2.content key ≠ some (.http3 session)

/-- The session that fails is in its slot. -/
theorem failsOn_content {s : State cl} (hinv : PoolInv s) {a : Action} {session : Handle}
    (h : failsOn s a = some session) : ∃ key, s.content key = some (.http3 session) := by
  cases a with
  | driver => exact absurd h (by simp only [failsOn, reduceCtorEq, not_false_eq_true])
  | task t input =>
      simp only [failsOn] at h
      split at h
      · rename_i v session' htask
        split at h
        · split at h
          · rw [← Option.some.inj h]
            exact ⟨_, hinv.relies t v _ htask⟩
          · exact absurd h (by simp only [reduceCtorEq, not_false_eq_true])
        · exact absurd h (by simp only [reduceCtorEq, not_false_eq_true])
      · rename_i v session' htask
        split at h
        · split at h
          · rw [← Option.some.inj h]
            exact ⟨_, hinv.relies t v _ htask⟩
          · exact absurd h (by simp only [reduceCtorEq, not_false_eq_true])
        · exact absurd h (by simp only [reduceCtorEq, not_false_eq_true])
      · exact absurd h (by simp only [reduceCtorEq, not_false_eq_true])

/-- Every session found dead is in a slot. -/
structure DeadInv (m : List Handle) (s : State cl) : Prop where
  pool : PoolInv s
  stays : ∀ session ∈ m, ∃ key, s.content key = some (.http3 session)

theorem deadInv_step {m : List Handle} {s s' : State cl} {a : Action} (hd : DeadInv m s)
    (h : step s a = some s') : DeadInv (deadSessions m s a) s' := by
  refine ⟨poolInv_step hd.pool h, fun session hin => ?_⟩
  -- Found dead earlier or in this step, it is in its slot before the step.
  have hbefore : ∃ key, s.content key = some (.http3 session) := by
    rcases List.mem_append.mp hin with hold | hnew
    · exact hd.stays session hold
    · exact failsOn_content hd.pool (Option.mem_toList.mp hnew)
  rcases hbefore with ⟨key, hc⟩
  exact ⟨key, step_session_stays hd.pool h hc⟩

/-- So the slots are free of dead sessions only while there are none. -/
theorem discarded_iff {m : List Handle} {s : State cl} (hd : DeadInv m s) :
    Discarded (m, s) ↔ m = [] := by
  constructor
  · intro h
    rw [List.eq_nil_iff_forall_not_mem]
    intro session hin
    rcases hd.stays session hin with ⟨key, hc⟩
    exact h session hin key hc
  · rintro rfl session hin
    exact absurd hin List.not_mem_nil

theorem discarded_step {x y : List Handle × State cl} {a : Action} (hx : DeadInv x.1 x.2)
    (hq : Discarded x) (h : withHistory step deadSessions x a = some y) :
    Discarded y ↔ failsOn x.2 a = none := by
  rcases withHistory_eq_some step h with ⟨hs, hm⟩
  have hy : DeadInv y.1 y.2 := hm ▸ deadInv_step hx hs
  have hnil : x.1 = [] := (discarded_iff hx).mp hq
  rw [discarded_iff hy, hm, deadSessions, hnil, List.nil_append, Option.toList_eq_nil_iff]

/-- In every run of a fresh client, a session that was found dead is in its slot
    at the end of the run. So no state of a run has a dead session in a slot
    exactly if no send of the run fails on one. -/
theorem dead_sessions_stay (altSvc : AltSvcCache) (jar : Jar) {as : List Action} {s : State cl}
    (hrun : run step (State.fresh cl altSvc jar) as = some s) :
    (Always (withHistory step deadSessions) Discarded ([], State.fresh cl altSvc jar) as ↔
      Every step (fun s a => failsOn s a = none) (State.fresh cl altSvc jar) as) ∧
    ∀ session ∈ history step deadSessions [] (State.fresh cl altSvc jar) as,
      ∃ key, s.content key = some (.http3 session) := by
  have hfresh : DeadInv [] (State.fresh cl altSvc jar) :=
    ⟨poolInv_fresh altSvc jar, fun _ hin => absurd hin List.not_mem_nil⟩
  constructor
  · rw [← every_withHistory step deadSessions []]
    rcases exists_run_withHistory step deadSessions [] hrun with ⟨m, hm⟩
    refine always_iff_every (withHistory step deadSessions) (I := fun x => DeadInv x.1 x.2) ?_
      (fun _ _ _ hx hq h => discarded_step hx hq h) as _ _ hfresh ((discarded_iff hfresh).mpr rfl)
      hm
    intro x a y hx h
    rcases withHistory_eq_some step h with ⟨hs, hm'⟩
    exact hm' ▸ deadInv_step hx hs
  · exact (history_invariant step (J := DeadInv) (fun _ _ _ _ hd hs => deadInv_step hd hs)
      hfresh hrun).stays

/-- A session is dialed for https://a.test/, its driver exits, and the send on
    it fails. -/
def sessionDies : List Action :=
  ([ .call "GET" "https://a.test/" none .navigate, .go, .go, .go, .go, .go, .go,
    .dial (.connected { ip := .v4 0xC0000201, port := 443 } none) ] : List Input).map (.task 0) ++
  [.driver 0 .closed, .task 0 .go]

/-- The hop falls back, and the answer advertises HTTP/3 again. -/
def fallsBack : List Action :=
  ([ .go, .go, .go, .dial (.connected { ip := .v4 0xC0000201, port := 443 } none),
    .transmit none, .respond (.ok (.ok, advertises, 0)), .go, .go, .go,
    .go ] : List Input).map (.task 0)

/-- The next request, up to its clone from the slot. -/
def reuses : List Action :=
  ([.call "GET" "https://a.test/" none .navigate, .go, .go, .go, .go, .go] : List Input).map
    (.task 1)

/-- The dead session. -/
def deadSession : Handle :=
  { id := 0, host := "a.test", port := 443,
    socket := { transport := .udp, peer := .origin { ip := .v4 0xC0000201, port := 443 } } }

/-- After the fallback the session is still in a slot. -/
theorem session_stays_dead :
    (∃ s, run step cachedA (sessionDies ++ fallsBack) = some s ∧
      ∃ key, s.content key = some (.http3 deadSession)) := by
  have hrun : (run step cachedA (sessionDies ++ fallsBack)).isSome = true := by decide +kernel
  rcases Option.isSome_iff_exists.mp hrun with ⟨s, hs⟩
  have hdead : deadSession ∈ history step deadSessions [] cachedA (sessionDies ++ fallsBack) := by
    decide +kernel
  exact ⟨s, hs, (dead_sessions_stay _ () hs).2 deadSession hdead⟩

/-- And the next request is handed it. -/
theorem dead_session_reused :
    ¬ Always (withHistory step deadSessions) Discarded ([], cachedA)
      (sessionDies ++ fallsBack ++ reuses) := by
  intro hall
  have hend : (run (withHistory step deadSessions) ([], cachedA)
      (sessionDies ++ fallsBack ++ reuses)).map
        (fun x => (x.1, x.2.content "a.test:443#h3", (x.2.tasks 1).handle?)) =
          some ([deadSession], some (.http3 deadSession), some deadSession) := by
    decide +kernel
  rcases Option.map_eq_some_iff.mp hend with ⟨x, hx, hobs⟩
  simp only [Prod.mk.injEq] at hobs
  exact hall _ x (List.prefix_refl _) hx deadSession (hobs.1 ▸ List.mem_cons_self) _ hobs.2.1

end Quik
