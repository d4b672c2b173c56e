import Quik.Dropped

/-!
# What an Unfinished Call Waits For

Slots are entered in order, and so a call that waits for a slot waits, along a
chain of calls, for one that waits for no slot. That one can always move: every
stage inside a slot goes on whatever the network answers. What remains are the
calls whose request is with an HTTP/3 session, or about to be. They are outside
of all slots, and they wait for a driver that still runs: a full channel, or an
answer that has not come.

A driver that has ended keeps nobody waiting. Its channel refuses the command
and drops the reply, and either takes the call to its fallback. Nor does a call that
has been dropped: it is inside no slot.

## Main definitions

* `CanMove`, `OnSession`: A call that can move, or waits for an HTTP/3 session.
* `Stage.made`: The slot that has been made for a stage.
* `WaitInv`: Slots and drivers are there when a call comes to them.

## Theorems

* `waitInv_step`, `waitInv_drop`: They are, along every run.
* `stage_moves`: What a hop can wait for.
* `exists_end`: Where the chains of waiting calls end.
* `call_progress`: Nobody waits for a call that cannot move.
-/

namespace Quik

open Transition

variable {Jar : Type} {cl : Client Jar}

/-- Some input takes the task on. -/
def CanMove (s : State cl) (t : Nat) : Prop :=
  ∃ input s', step s (.task t input) = some s'

/-- The call waits for the driver of an HTTP/3 session, which still runs: for
    room in its channel, or for its answer. -/
def OnSession (s : State cl) (t : Nat) : Prop :=
  ∃ v session d, s.drivers session.id = some d ∧ d.exited = false ∧
    (s.tasks t = .inHop v (.send (.http3 session)) ∧ Driver.capacity ≤ d.queue.length ∨
      s.tasks t = .inHop v (.awaitH3 session) ∧ d.answers.lookup v.ticket = none)

/-- The slot that has been made for a stage. -/
def Stage.made (cl : Client Jar) (v : Vars cl.crates.url) : Stage → Option String
  | .lockClone | .ready _ | .lockClear _ | .lockDial => some (v.poolKey cl)
  | .fallbackLock | .midLock => some (v.h2PoolKey cl)
  | _ => none

/-- The slots calls want are there, and every pooled session has a driver. -/
structure WaitInv (s : State cl) : Prop where
  slot : ∀ t v stage key, s.tasks t = .inHop v stage → stage.made cl v = some key →
    (s.pool key).isSome = true
  driver : ∀ key session, s.content key = some (.http3 session) →
    (s.drivers session.id).isSome = true

theorem canMove_of_taskStep {s : State cl} {t : Nat} {input : Input}
    (h : (taskStep s (s.tasks t) input).isSome = true) : CanMove s t := by
  rcases Option.isSome_iff_exists.mp h with ⟨⟨pc, fx⟩, hstep⟩
  exact ⟨input, s.after t pc fx, by simp only [step, hstep]⟩

theorem canMove_of_stageStep {s : State cl} {t : Nat} {v : Vars cl.crates.url} {stage : Stage}
    (ht : s.tasks t = .inHop v stage) (input : Input)
    (h : (stageStep s v stage input).isSome = true) : CanMove s t :=
  canMove_of_taskStep (by rw [ht]; exact h)

/-- A dial always turns out somehow. -/
theorem dials_isSome {s : State cl} {v : Vars cl.crates.url} {stage : Stage}
    (h : stage = .dial ∨ stage = .fallbackDial ∨ stage = .midDial) :
    (stageStep s v stage (.dial (.unreachable (.connect "")))).isSome = true := by
  rcases h with rfl | rfl | rfl
  · simp only [stageStep, dialResult]
    split <;> rfl
  · rfl
  · rfl

/-- A stage that wants a slot goes on if the slot is free. -/
theorem wants_isSome {s : State cl} {v : Vars cl.crates.url} {stage : Stage} {key : String}
    (hw : stage.wants cl v = some key) (hfree : s.free key = true) :
    (stageStep s v stage .go).isSome = true := by
  cases stage with
  | lockClone | lockClear | midLock =>
      cases hw
      simp only [stageStep, hfree, if_true, Option.isSome_some]
  | lockDial =>
      cases hw
      simp only [stageStep, hfree, if_true]
      split <;> rfl
  | fallbackLock =>
      cases hw
      simp only [stageStep, hfree, if_true]
      split <;> rfl
  | _ => cases hw

theorem Stage.made_of_wants {v : Vars cl.crates.url} {stage : Stage} {key : String}
    (hw : stage.wants cl v = some key) : stage.made cl v = some key := by
  cases stage <;> first | exact hw | cases hw

/-- A hop can move, or the slot it wants has another task inside, or it is with
    an HTTP/3 session. -/
theorem stage_moves {s : State cl} (hi : WaitInv s) (hp : PoolInv s) {t : Nat}
    {v : Vars cl.crates.url} {stage : Stage} (ht : s.tasks t = .inHop v stage) :
    CanMove s t ∨ OnSession s t ∨ ∃ key t', Waits s t key ∧ s.holder key = some t' := by
  have hgo := canMove_of_stageStep ht
  cases hw : stage.wants cl v with
  | some key =>
      cases hh : s.holder key with
      | some t' => exact Or.inr (Or.inr ⟨key, t', ⟨v, stage, ht, hw⟩, hh⟩)
      | none =>
          have hslot := hi.slot t v stage key ht (Stage.made_of_wants hw)
          exact Or.inl (hgo .go (wants_isSome hw (State.free_of_holder hh hslot)))
  | none =>
      cases stage with
      | lockClone | lockClear | lockDial | fallbackLock | midLock => cases hw
      | ready | midReady => exact Or.inl (hgo (.ready true) rfl)
      | dial => exact Or.inl (hgo _ (dials_isSome (Or.inl rfl)))
      | fallbackDial => exact Or.inl (hgo _ (dials_isSome (Or.inr (Or.inl rfl))))
      | midDial => exact Or.inl (hgo _ (dials_isSome (Or.inr (Or.inr rfl))))
      | awaitH2 | midAwait => exact Or.inl (hgo (.respond (.error (.connect ""))) rfl)
      | midSend =>
          refine Or.inl (hgo (.transmit none) ?_)
          simp only [stageStep]
          cases buildRequest v <;> rfl
      | redirect resp =>
          refine Or.inl (hgo .go ?_)
          simp only [stageStep]
          rcases v.hop.evaluate cl.crates.url v.parsedUrl resp with _ | _ | _ <;> rfl
      | awaitH3 session =>
          -- The session is pooled, and so its driver is there.
          rcases Option.isSome_iff_exists.mp (hi.driver _ session (hp.relies t v _ ht))
            with ⟨d, hd⟩
          cases hl : d.answers.lookup v.ticket with
          | some r =>
              refine Or.inl (hgo .go ?_)
              simp only [stageStep, sessionReply, hd, hl]
              cases r <;> rfl
          | none =>
              cases hx : d.exited with
              | true =>
                  refine Or.inl (hgo .go ?_)
                  simp only [stageStep, sessionReply, hd, hl, hx, if_true, Option.isSome_some]
              | false => exact Or.inr (Or.inl ⟨v, session, d, hd, hx, Or.inr ⟨ht, hl⟩⟩)
      | send conn =>
          cases conn with
          | http2 conn =>
              refine Or.inl (hgo (.transmit none) ?_)
              simp only [stageStep]
              cases buildRequest v <;> rfl
          | http3 session =>
              rcases Option.isSome_iff_exists.mp (hi.driver _ session (hp.relies t v _ ht))
                with ⟨d, hd⟩
              by_cases hfull : d.exited = false ∧ Driver.capacity ≤ d.queue.length
              · exact Or.inr (Or.inl ⟨v, session, d, hd, hfull.1, Or.inl ⟨ht, hfull.2⟩⟩)
              · refine Or.inl (hgo .go ?_)
                simp only [stageStep]
                cases buildRequest v with
                | error e => rfl
                | ok request =>
                    simp only [hd]
                    by_cases hx : d.exited = true
                    · rw [if_pos hx, Option.isSome_some]
                    · have hroom : d.queue.length < Driver.capacity := by
                        by_contra hc
                        exact hfull ⟨Bool.eq_false_iff.mpr hx, Nat.not_lt.mp hc⟩
                      rw [if_neg hx, if_pos hroom, Option.isSome_some]
      | _ => exact Or.inl (hgo .go rfl)

section Moves

variable {s : State cl} {v : Vars cl.crates.url} {stage : Stage} {input : Input}
  {pc : Pc cl.crates.url} {fx : List Effect}

theorem afterClone_made (v : Vars cl.crates.url) (c? : Option PooledConnection) {key : String}
    (h : (afterClone c?).made cl v = some key) : key = v.poolKey cl := by
  rcases c? with _ | conn | session
  · exact (Option.some.inj h).symm
  · exact (Option.some.inj h).symm
  · cases h

/-- The slot of the next stage has been there, or is made by the move. -/
theorem move_made (hm : StageMove s v stage input pc fx) {v' : Vars cl.crates.url}
    {stage' : Stage} (hpc : pc = .inHop v' stage') {key : String}
    (hmade : stage'.made cl v' = some key) :
    stage.made cl v = some key ∨ fx = [.entry key] := by
  cases hm with
  | slotLookup | fallbackLookup | midLookup =>
      cases hpc
      cases hmade
      exact Or.inr rfl
  | lockClone =>
      cases hpc
      rw [afterClone_made v _ hmade]
      exact Or.inl rfl
  | midLock =>
      cases hpc
      generalize s.content (v.h2PoolKey cl) = c? at hmade
      rcases c? with _ | conn | session <;> cases hmade
  | readyDead | lockClear | lockDialTaken =>
      cases hpc
      exact Or.inl hmade
  | _ => cases hpc <;> cases hmade

/-- A session that a move puts into a slot comes with its driver. -/
theorem move_driver (t : Nat) (hm : StageMove s v stage input pc fx) {key : String}
    {session : Handle} (hin : .store key (some (.http3 session)) ∈ fx) :
    ((fx.foldl (State.apply t) s).drivers session.id).isSome = true := by
  have hdial : ∀ dialH3 outcome, Effect.store key (some (.http3 session)) ∉
      dialEffects cl dialH3 outcome := not_mem_dialEffects trivial
  cases hm with
  | dialed outcome h hres =>
      simp only [List.mem_append, hdial, List.mem_cons, List.not_mem_nil, Effect.store.injEq,
        Option.some.injEq, reduceCtorEq, or_false, false_or] at hin
      cases halt : v.hasAltSvc with
      | false =>
          rw [halt] at hin
          cases hin.2
      | true =>
          rw [halt] at hin hres
          cases hin.2
          cases outcome with
          | unreachable | broken => cases hres
          | connected addr localAddr =>
              cases hres
              simp only [dialEffects, if_true, List.cons_append, List.nil_append,
                List.foldl_cons, List.foldl_nil, State.apply, State.setSlot,
                Function.update_self, Option.isSome_some]
  | _ =>
      simp only [List.mem_append, hdial, List.mem_cons, List.not_mem_nil, Effect.store.injEq,
        Option.some.injEq, reduceCtorEq, and_false, or_false] at hin

end Moves

/-- A driver is never taken away. -/
theorem foldl_apply_drivers (t : Nat) (s : State cl) {i : Nat}
    (hi : i < s.nextConn) (hd : (s.drivers i).isSome = true) (fx : List Effect) :
    ((fx.foldl (State.apply t) s).drivers i).isSome = true := by
  induction fx generalizing s with
  | nil => exact hd
  | cons e fx ih =>
      refine ih (s.apply t e) (Nat.lt_of_lt_of_le hi (foldl_apply_nextConn_le t s [e])) ?_
      cases e with
      | connection driver =>
          unfold State.apply
          simp only [Function.update_of_ne (Nat.ne_of_lt hi)]
          exact hd
      | command session cmd =>
          unfold State.apply
          by_cases hs : i = session
          · simp only [hs, Function.update_self, Option.isSome_map]
            exact hs ▸ hd
          · simp only [Function.update_of_ne hs]
            exact hd
      | _ => exact hd

/-- Slots and drivers stay, and new ones are made before they are used. -/
theorem waitInv_step {s s' : State cl} {a : Action} (hp : PoolInv s) (hi : WaitInv s)
    (h : step s a = some s') : WaitInv s' := by
  cases a with
  | driver session e =>
      rcases step_driver_eq_some h with ⟨d, d', hd, _, rfl⟩
      refine ⟨hi.slot, fun key session' hc => ?_⟩
      have hold := hi.driver key session' hc
      by_cases hs : session'.id = session
      · simp only [hs, Function.update_self, Option.isSome_some]
      · simp only [Function.update_of_ne hs]
        exact hold
  | task t input =>
      rcases step_task_eq_some h with ⟨pc, fx, hm, rfl⟩
      generalize htask : s.tasks t = pc₀ at hm
      constructor
      · intro t' v' stage' key hpc hmade
        rcases State.after_tasks_eq hpc with ⟨_, heq⟩ | ⟨_, hsame⟩
        · cases hm with
          | call | refuse => cases heq
          | enter =>
              cases heq
              cases hmade
          | stage hm =>
              rcases move_made hm heq hmade with hold | hfx
              · exact foldl_apply_isSome t s (hi.slot t _ _ key htask hold)
              · rw [hfx]
                show ((s.apply t (.entry key)).pool key).isSome = true
                simp only [State.apply, Function.update_self, Option.isSome_some]
        · exact foldl_apply_isSome t s (hi.slot t' v' stage' key hsame hmade)
      · intro key session hc
        rcases foldl_apply_content t s hc with hold | hin
        · exact foldl_apply_drivers t s (hp.known key _ hold).id (hi.driver key session hold) fx
        · cases hm with
          | stage hm => exact move_driver t hm hin
          | call | refuse => exact absurd hin List.not_mem_nil
          | enter => simp only [List.mem_singleton, reduceCtorEq] at hin

theorem waitInv_fresh (altSvc : AltSvcCache) (jar : Jar) : WaitInv (State.fresh cl altSvc jar) := by
  constructor
  · intro t v stage key hpc
    cases hpc
  · intro key session hc
    cases hc

theorem waitInv_drop {s : State cl} (hi : WaitInv s) (t : Nat) : WaitInv (s.drop t) :=
  ⟨fun t' v stage key htask hmade => (drop_isSome s t key).trans
      (hi.slot t' v stage key (drop_task s t htask).1 hmade),
    fun key session hc => hi.driver key session (drop_content s t key ▸ hc)⟩

/-- A task inside a slot is not with a session. -/
theorem LockInv.not_onSession {s : State cl} (hl : LockInv s) {t : Nat} {key : String}
    (hh : s.holder key = some t) : ¬ OnSession s t := by
  rcases hl.inside key t hh with ⟨v, stage, ht, hk⟩
  rintro ⟨v', session, d, _, _, ⟨ht', _⟩ | ⟨ht', _⟩⟩
  · rw [ht] at ht'
    cases ht'
    exact absurd hk List.not_mem_nil
  · rw [ht] at ht'
    cases ht'
    exact absurd hk List.not_mem_nil

/-- A task wants only slots that rank above all it is inside of. -/
theorem LockInv.rank_lt {s : State cl} (hl : LockInv s) (t : Nat) (key key' : String)
    (hw : Waits s t key) (hh : s.holder key' = some t) : slotRank key' < slotRank key := by
  rcases hl.waits hw with ⟨u, h3, rfl, hheld⟩
  rcases hheld key' hh with ⟨rfl, rfl⟩
  rw [slotRank, slotRank, isH3Key_slotKey, isH3Key_slotKey]
  decide

theorem slotRank_le (key : String) : slotRank key ≤ 1 := by
  unfold slotRank
  split <;> omega

/-- What the argument rests on holds in every reachable state. -/
theorem progressInv (altSvc : AltSvcCache) (jar : Jar) {s : State cl}
    (hr : Reachable stepOrDrop (State.fresh cl altSvc jar) s) :
    PoolInv s ∧ WaitInv s ∧ LockInv s := by
  refine dropInvariant (I := fun s => PoolInv s ∧ WaitInv s ∧ LockInv s)
    ⟨poolInv_fresh altSvc jar, waitInv_fresh altSvc jar, lockInv_fresh altSvc jar⟩ ?_ ?_ hr
  · rintro s a s' ⟨hp, hi, hl⟩ hs
    exact ⟨poolInv_step hp hs, waitInv_step hp hi hs, lockInv_step hl hs⟩
  · rintro s t ⟨hp, hi, hl⟩
    exact ⟨poolInv_drop hp t, waitInv_drop hi t, lockInv_drop hl t⟩

/-- An unfinished call is, or waits along a chain of calls for, an unfinished call
    that can move or is with a session; and at the end of a chain it is not with
    a session. -/
theorem exists_end (altSvc : AltSvcCache) (jar : Jar) {s : State cl}
    (hr : Reachable stepOrDrop (State.fresh cl altSvc jar) s) {t : Nat}
    (ht : (s.tasks t).unfinished = true) :
    ∃ u, (s.tasks u).unfinished = true ∧ (CanMove s u ∨ OnSession s u) ∧
      (u = t ∨ ¬ OnSession s u ∧
        Relation.TransGen (LockOrder.WaitsFor (fun key t => s.holder key = some t) (Waits s))
          t u) := by
  rcases progressInv altSvc jar hr with ⟨hp, hi, hl⟩
  -- The last task of the chain wants no slot that somebody is inside of.
  rcases LockOrder.exists_end_of_chain slotRank_le hl.rank_lt t with ⟨u, hchain, hlast⟩
  have hend : ∀ v stage, s.tasks u = .inHop v stage → CanMove s u ∨ OnSession s u := by
    intro v stage hu
    rcases stage_moves hi hp hu with hmove | hsession | ⟨key, u', hw, hh⟩
    · exact Or.inl hmove
    · exact Or.inr hsession
    · exact absurd ⟨key, hw, hh⟩ (hlast u')
  rcases hchain with rfl | hchain
  · refine ⟨u, ht, ?_, Or.inl rfl⟩
    cases hpc : s.tasks u with
    | idle | done =>
        rw [hpc] at ht
        cases ht
    | top hop context =>
        have hgo : (taskStep s (s.tasks u) .go).isSome = true := by rw [hpc]; rfl
        exact Or.inl (canMove_of_taskStep hgo)
    | inHop v stage => exact hend v stage hpc
  -- It is inside the slot the task before it wants, and so it is not with a session.
  · rcases Relation.TransGen.tail'_iff.mp hchain with ⟨_, _, key, _, hh⟩
    rcases hl.inside key u hh with ⟨v, stage, hu, _⟩
    exact ⟨u, by rw [hu]; rfl, hend v stage hu, Or.inr ⟨hl.not_onSession hh, hchain⟩⟩

/-- In every reachable state of a fresh client, whatever calls have been dropped
    and wherever, an unfinished call can move, or is with an HTTP/3 session whose
    driver runs, or waits along a chain of calls for one that can move. -/
theorem call_progress (altSvc : AltSvcCache) (jar : Jar) {s : State cl}
    (hr : Reachable stepOrDrop (State.fresh cl altSvc jar) s) {t : Nat}
    (ht : (s.tasks t).unfinished = true) :
    CanMove s t ∨ OnSession s t ∨ ∃ u, CanMove s u ∧
      Relation.TransGen (LockOrder.WaitsFor (fun key t => s.holder key = some t) (Waits s))
        t u := by
  rcases exists_end altSvc jar hr ht with ⟨u, _, hmoves, rfl | ⟨hsession, hchain⟩⟩
  · exact hmoves.imp_right Or.inl
  · exact Or.inr (Or.inr ⟨u, hmoves.resolve_right hsession, hchain⟩)

/-- Task 2 is dropped while task 0 waits for the HTTP/2 slot, where task 1 is
    dialing. -/
def waitsWithDrop : List ClientAction :=
  waitsNested.map .act ++
    [ .act (.task 2 (.call "GET" "https://a.test/" none .navigate)), .drop 2 ]

theorem call_progress_waitsWithDrop :
    ∃ s, run stepOrDrop cachedA waitsWithDrop = some s ∧ s.holder "a.test:443#h2" = some 1 ∧
      (CanMove s 0 ∨ OnSession s 0 ∨ ∃ u, CanMove s u ∧ Relation.TransGen
        (LockOrder.WaitsFor (fun key t => s.holder key = some t) (Waits s)) 0 u) := by
  have hrun : (run stepOrDrop cachedA waitsWithDrop).map
      (fun s => (s.holder "a.test:443#h2", (s.tasks 0).unfinished)) = some (some 1, true) := by
    decide +kernel
  rcases Option.map_eq_some_iff.mp hrun with ⟨s, hs, hobs⟩
  rw [Prod.mk.injEq] at hobs
  exact ⟨s, hs, hobs.1, call_progress _ () ⟨waitsWithDrop, hs⟩ hobs.2⟩

end Quik
