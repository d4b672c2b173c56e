import Quik.ClientMoves

/-!
# The Connection Pool

What holds of the slots and of the connections in them in every state of every
run, however the tasks interleave.

The pool is a set of mutexes, and the client is the reason they work: a task
enters a slot only when nobody is inside, and every stage knows which slots it
is inside of (`Stage.holds`). The rest of the invariant is what the code relies
on while it is inside. A slot that is about to be dialed for is empty, the
connection that is being asked `ready()` under the lock is still the one in the
slot, a slot of one transport never holds a connection of the other, and a
session a task sends on is in its slot.

`Known` is about identity. Every connection in a slot or in the hands of a task
was dialed by this client, on a socket in the log, under a number below
`nextConn`; so a connection that appears in a slot is either one that was there
already or a new one (`step_content`), and no slot ever gets an old connection
back.

## Main definitions

* `Stage.holds`: The slots a stage is inside of.
* `isH3Key`: The transport a pool key was built for.
* `PoolInv`: The invariant.

## Theorems

* `poolInv_step`, `poolInv_run`: It holds along every run.
* `step_content`: Where the content of a slot comes from.
* `step_session_stays`: A session stays in its slot.
-/

namespace Quik

open Transition

variable {Jar : Type} {cl : Client Jar}

/-- The slots a stage is inside of. -/
def Stage.holds (cl : Client Jar) (v : Vars cl.crates.url) : Stage → List String
  | .dial | .evictDial | .fallbackLookup | .fallbackLock => [v.poolKey cl]
  | .fallbackDial => [v.poolKey cl, v.h2PoolKey cl]
  | .midReady _ | .midDial | .midSend _ | .midAwait _ _ => [v.h2PoolKey cl]
  | _ => []

/-- A key built for HTTP/3: the last character tells the transports apart. -/
def isH3Key (key : String) : Bool :=
  key.toList.getLast? = some '3'

theorem isH3Key_poolKey_h3 (proxy : Option Proxy) (u : Url) :
    isH3Key (poolKey proxy u "h3") = true := by
  rw [isH3Key, poolKey, String.toList_append, List.getLast?_append]
  rfl

theorem isH3Key_poolKey_h2 (proxy : Option Proxy) (u : Url) :
    isH3Key (poolKey proxy u "h2") = false := by
  rw [isH3Key, poolKey, String.toList_append, List.getLast?_append]
  rfl

theorem isH3Key_poolKey (v : Vars cl.crates.url) : isH3Key (v.poolKey cl) = v.hasAltSvc := by
  unfold Vars.poolKey
  cases v.hasAltSvc with
  | true => exact isH3Key_poolKey_h3 cl.proxy v.parsedUrl
  | false => exact isH3Key_poolKey_h2 cl.proxy v.parsedUrl

theorem isH3Key_h2PoolKey (v : Vars cl.crates.url) : isH3Key (v.h2PoolKey cl) = false :=
  isH3Key_poolKey_h2 cl.proxy v.parsedUrl

/-- An HTTP/3 session. -/
def PooledConnection.isH3 : PooledConnection → Bool
  | .http2 _ => false
  | .http3 _ => true

theorem pooled_isH3 (dialH3 : Bool) (h : Handle) : (pooled dialH3 h).isH3 = dialH3 := by
  cases dialH3 <;> rfl

theorem pooled_handle (dialH3 : Bool) (h : Handle) : (pooled dialH3 h).handle = h := by
  cases dialH3 <;> rfl

/-- The connection a task works with. -/
def Pc.handle? {c : UrlCrate} : Pc c → Option Handle
  | .inHop _ stage => stage.handle?
  | _ => none

theorem afterClone_handle {c? : Option PooledConnection} {h : Handle}
    (hh : (afterClone c?).handle? = some h) : ∃ c, c? = some c ∧ c.handle = h := by
  rcases c? with _ | conn | session
  · exact absurd hh (by simp only [afterClone, Stage.handle?, reduceCtorEq, not_false_eq_true])
  · exact ⟨_, rfl, Option.some.inj hh⟩
  · exact ⟨_, rfl, Option.some.inj hh⟩

theorem afterMidLock_handle {c? : Option PooledConnection} {h : Handle}
    (hh : (afterMidLock c?).handle? = some h) : c? = some (.http2 h) := by
  rcases c? with _ | conn | session
  · exact absurd hh (by simp only [afterMidLock, Stage.handle?, reduceCtorEq, not_false_eq_true])
  · rw [Option.some.inj hh]
  · exact absurd hh (by simp only [afterMidLock, Stage.handle?, reduceCtorEq, not_false_eq_true])

theorem afterClone_holds (v : Vars cl.crates.url) (c? : Option PooledConnection) :
    (afterClone c?).holds cl v = [] := by
  rcases c? with _ | conn | session <;> rfl

theorem afterMidLock_holds (v : Vars cl.crates.url) (c? : Option PooledConnection) :
    (afterMidLock c?).holds cl v = [v.h2PoolKey cl] := by
  rcases c? with _ | conn | session <;> rfl

/-- What a successful dial hands out. -/
structure Fresh (s : State cl) (fx : List Effect) (h : Handle) : Prop where
  id : h.id = s.nextConn
  socket : .socket h.socket ∈ fx
  connection : ∃ driver, .connection driver ∈ fx

theorem dialResult_eq_ok {s : State cl} {u : Url} {dialH3 : Bool} {outcome : DialOutcome}
    {h : Handle} (hr : dialResult s u dialH3 outcome = .ok h) (rest : List Effect) :
    Fresh s (dialEffects cl dialH3 outcome ++ rest) h := by
  cases outcome with
  | unreachable | broken => simp only [dialResult, reduceCtorEq] at hr
  | connected addr localAddr =>
      simp only [dialResult, Except.ok.injEq] at hr
      rw [← hr]
      exact ⟨rfl, List.mem_cons_self, _, List.mem_cons_of_mem _ List.mem_cons_self⟩

/-- Effects on the slots of the pool. -/
def Effect.OnSlot : Effect → Prop
  | .entry _ | .lock _ | .unlock _ | .store _ _ => True
  | _ => False

/-- A dial touches no slot. -/
theorem not_mem_dialEffects {e : Effect} (h : e.OnSlot) (dialH3 : Bool) (outcome : DialOutcome) :
    e ∉ dialEffects cl dialH3 outcome := by
  intro he
  have hne : ∀ e' ∈ dialEffects cl dialH3 outcome, ¬ e'.OnSlot :=
    forall_mem_dialEffects (fun _ => not_false) (fun _ _ => not_false) outcome
  exact hne e he h

section Moves

variable {s : State cl} {v : Vars cl.crates.url} {stage : Stage} {input : Input}
  {pc : Pc cl.crates.url} {fx : List Effect}

/-- The connection a task goes on with is the one it had, one it found in a
    slot, or one it has just dialed. -/
theorem move_handle (hm : StageMove s v stage input pc fx) {h : Handle}
    (hh : pc.handle? = some h) :
    stage.handle? = some h ∨ (∃ key c, s.content key = some c ∧ c.handle = h) ∨ Fresh s fx h := by
  cases hm with
  | lockClone =>
      rcases afterClone_handle hh with ⟨c, hc, hch⟩
      exact Or.inr (Or.inl ⟨_, c, hc, hch⟩)
  | fallbackLockTaken conn _ hcontent =>
      exact Or.inr (Or.inl ⟨_, conn, hcontent, Option.some.inj hh⟩)
  | midLock => exact Or.inr (Or.inl ⟨_, _, afterMidLock_handle hh, rfl⟩)
  | dialed outcome h' hres =>
      simp only [Pc.handle?, Stage.handle?, pooled_handle, Option.some.injEq] at hh
      exact Or.inr (Or.inr (hh ▸ dialResult_eq_ok hres _))
  | fallbackDialed outcome h' hres | midDialed outcome h' hres =>
      simp only [Pc.handle?, Stage.handle?, PooledConnection.handle, Option.some.injEq] at hh
      exact Or.inr (Or.inr (hh ▸ dialResult_eq_ok hres _))
  | _ => first
    | exact Or.inl hh
    | exact absurd hh (by simp only [Pc.handle?, Stage.handle?, reduceCtorEq, not_false_eq_true])

/-- Where a move may write: the slot of the pool key after a failed `ready()`
    or a dial, the HTTP/2 slot in one of the fallbacks. What it writes is new,
    unless `ready()` has just succeeded on it. -/
theorem move_stores (hm : StageMove s v stage input pc fx) {key : String}
    {c? : Option PooledConnection} (hin : .store key c? ∈ fx) :
    (key = v.poolKey cl ∧ (∃ conn, stage = .lockClear conn) ∧ c? = none ∧
        s.free key = true) ∨
      (key = v.poolKey cl ∧ stage = .dial ∧
        ∃ h, c? = some (pooled v.hasAltSvc h) ∧ Fresh s fx h) ∨
      (key = v.h2PoolKey cl ∧ (stage = .fallbackDial ∨ stage = .midDial) ∧
        ∃ h, c? = some (.http2 h) ∧ Fresh s fx h) ∨
      (key = v.h2PoolKey cl ∧ ∃ conn, stage = .midReady conn ∧ c? = some (.http2 conn)) := by
  have hdial : ∀ dialH3 outcome, .store key c? ∉ dialEffects cl dialH3 outcome :=
    not_mem_dialEffects trivial
  cases hm with
  | lockClear conn hfree =>
      simp only [List.mem_singleton, Effect.store.injEq] at hin
      exact Or.inl ⟨hin.1, ⟨conn, rfl⟩, hin.2, hin.1 ▸ hfree⟩
  | dialed outcome h hres =>
      simp only [List.mem_append, hdial, List.mem_cons, Effect.store.injEq, reduceCtorEq,
        List.not_mem_nil, or_false, false_or] at hin
      exact Or.inr (Or.inl ⟨hin.1, rfl, h, hin.2, dialResult_eq_ok hres _⟩)
  | fallbackDialed outcome h hres =>
      simp only [List.mem_append, hdial, List.mem_cons, Effect.store.injEq, reduceCtorEq,
        List.not_mem_nil, or_false, false_or] at hin
      exact Or.inr (Or.inr (Or.inl ⟨hin.1, Or.inl rfl, h, hin.2, dialResult_eq_ok hres _⟩))
  | midDialed outcome h hres =>
      simp only [List.mem_append, hdial, List.mem_cons, Effect.store.injEq, List.not_mem_nil,
        or_false, false_or] at hin
      exact Or.inr (Or.inr (Or.inl ⟨hin.1, Or.inr rfl, h, hin.2, dialResult_eq_ok hres _⟩))
  -- The refresh stores the connection the task has asked for itself.
  | midReadyAlive conn =>
      simp only [List.mem_singleton, Effect.store.injEq] at hin
      exact Or.inr (Or.inr (Or.inr ⟨hin.1, conn, rfl, hin.2⟩))
  | dialH3Failed outcome e _ _ => exact absurd hin (hdial _ _)
  | _ => simp only [List.mem_append, hdial, List.mem_cons, reduceCtorEq, List.not_mem_nil,
      or_false] at hin

/-- A slot is locked only when nobody is inside. -/
theorem move_lock (hm : StageMove s v stage input pc fx) {key : String} (hin : .lock key ∈ fx) :
    s.free key = true := by
  have hdial : ∀ dialH3 outcome, .lock key ∉ dialEffects cl dialH3 outcome :=
    not_mem_dialEffects trivial
  cases hm with
  | lockDialEmpty hfree _ | fallbackLockEmpty hfree _ | midLock hfree =>
      simp only [List.mem_singleton, Effect.lock.injEq] at hin
      exact hin ▸ hfree
  | _ => simp only [List.mem_append, hdial, List.mem_cons, reduceCtorEq, List.not_mem_nil,
      or_false] at hin

/-- A slot is unlocked only from inside. -/
theorem move_unlock (hm : StageMove s v stage input pc fx) {key : String}
    (hin : .unlock key ∈ fx) : key ∈ stage.holds cl v := by
  have hdial : ∀ dialH3 outcome, .unlock key ∉ dialEffects cl dialH3 outcome :=
    not_mem_dialEffects trivial
  cases hm with
  | fallbackDialed | fallbackDialFailed =>
      simp only [List.mem_append, hdial, List.mem_cons, Effect.unlock.injEq, reduceCtorEq,
        List.not_mem_nil, or_false, false_or] at hin
      rcases hin with rfl | rfl
      · exact List.mem_cons_of_mem _ List.mem_cons_self
      · exact List.mem_cons_self
  | dialed | dialH2Failed | fallbackLockTaken | midDialFailed | midSendUnbuilt | midSendRefused
  | midRespond | midFail =>
      simp only [List.mem_append, hdial, List.mem_cons, Effect.unlock.injEq, reduceCtorEq,
        List.not_mem_nil, or_false, false_or] at hin
      rw [hin]
      exact List.mem_cons_self
  | _ => simp only [List.mem_append, hdial, List.mem_cons, reduceCtorEq, List.not_mem_nil,
      or_false] at hin

/-- The slots a hop is inside of after a move: the one it locked, if any, and
    those it was in and has not left. -/
theorem move_holds (hm : StageMove s v stage input pc fx) {v' : Vars cl.crates.url}
    {stage' : Stage} (hpc : pc = .inHop v' stage') {key : String} (hk : key ∈ stage'.holds cl v') :
    .unlock key ∉ fx ∧ (.lock key ∈ fx ∨ key ∈ stage.holds cl v) := by
  have hdial : ∀ dialH3 outcome, .unlock key ∉ dialEffects cl dialH3 outcome :=
    not_mem_dialEffects trivial
  cases hm with
  | lockDialEmpty =>
      cases hpc
      rw [List.mem_singleton.mp hk]
      exact ⟨by simp only [List.mem_singleton, reduceCtorEq, not_false_eq_true],
        Or.inl List.mem_cons_self⟩
  -- The one place where a task enters a slot from inside another.
  | fallbackLockEmpty =>
      cases hpc
      refine ⟨by simp only [List.mem_singleton, reduceCtorEq, not_false_eq_true], ?_⟩
      rcases List.mem_cons.mp hk with rfl | hk
      · exact Or.inr List.mem_cons_self
      · rw [List.mem_singleton.mp hk]
        exact Or.inl List.mem_cons_self
  | midLock =>
      cases hpc
      refine ⟨by simp only [List.mem_singleton, reduceCtorEq, not_false_eq_true], Or.inl ?_⟩
      rw [afterMidLock_holds] at hk
      rw [List.mem_singleton.mp hk]
      exact List.mem_cons_self
  | lockClone =>
      cases hpc
      rw [afterClone_holds] at hk
      exact absurd hk List.not_mem_nil
  | dialH3Failed | midDialed | midReadyAlive | midReadyDead | midSend | evictDial
  | fallbackLookup =>
      cases hpc
      refine ⟨?_, Or.inr hk⟩
      simp only [List.mem_append, hdial, List.mem_singleton, List.not_mem_nil, reduceCtorEq,
        or_false, not_false_eq_true]
  | _ => first
    | (cases hpc; exact absurd hk List.not_mem_nil)
    | cases hpc

end Moves

/-- A connection this client has dialed. -/
structure Known (s : State cl) (h : Handle) : Prop where
  socket : h.socket ∈ s.sockets
  id : h.id < s.nextConn

/-- What a stage relies on. -/
def Relies (s : State cl) (v : Vars cl.crates.url) : Stage → Prop
  | .ready _ | .lockClear _ => isH3Key (v.poolKey cl) = false
  | .dial => s.content (v.poolKey cl) = none
  | .fallbackDial => s.content (v.h2PoolKey cl) = none
  | .midReady conn => s.content (v.h2PoolKey cl) = some (.http2 conn)
  | .send (.http3 session) | .awaitH3 session =>
    s.content (v.poolKey cl) = some (.http3 session)
  | _ => True

/-- What a stage relies on is in the slots it is inside of, and in the slot of
    its session. -/
theorem Relies.keep {s s' : State cl} {v : Vars cl.crates.url} {stage : Stage}
    (h : Relies s v stage)
    (hheld : ∀ key, key ∈ stage.holds cl v → s'.content key = s.content key)
    (hsession : ∀ key session, s.content key = some (.http3 session) →
      s'.content key = some (.http3 session)) : Relies s' v stage := by
  cases stage with
  | ready | lockClear => exact h
  | dial | midReady => exact (hheld _ List.mem_cons_self).trans h
  | fallbackDial => exact (hheld _ (List.mem_cons_of_mem _ List.mem_cons_self)).trans h
  | awaitH3 session => exact hsession _ session h
  | send conn =>
      cases conn with
      | http2 => trivial
      | http3 session => exact hsession _ session h
  | _ => trivial

/-- The invariant of the pool. -/
structure PoolInv (s : State cl) : Prop where
  known : ∀ key c, s.content key = some c → Known s c.handle
  knownTask : ∀ t h, (s.tasks t).handle? = some h → Known s h
  mutex : ∀ t v stage key, s.tasks t = .inHop v stage → key ∈ stage.holds cl v →
    s.holder key = some t
  kind : ∀ key c, s.content key = some c → c.isH3 = isH3Key key
  relies : ∀ t v stage, s.tasks t = .inHop v stage → Relies s v stage

theorem poolInv_fresh (altSvc : AltSvcCache) (jar : Jar) : PoolInv (State.fresh cl altSvc jar) := by
  have hcontent : ∀ key c, (State.fresh cl altSvc jar).content key ≠ some c := by
    intro key c
    simp only [State.content, State.fresh, Option.bind_none, ne_eq, reduceCtorEq,
      not_false_eq_true]
  have hidle : ∀ t v stage, (State.fresh cl altSvc jar).tasks t ≠ .inHop v stage := by
    intro t v stage
    simp only [State.fresh, ne_eq, reduceCtorEq, not_false_eq_true]
  constructor
  · exact fun key c h => absurd h (hcontent key c)
  · intro t h hh
    simp only [State.fresh, Pc.handle?, reduceCtorEq] at hh
  · exact fun t v stage _ h => absurd h (hidle t v stage)
  · exact fun key c h => absurd h (hcontent key c)
  · exact fun t v stage h => absurd h (hidle t v stage)

theorem known_after {s : State cl} {t : Nat} {pc : Pc cl.crates.url} {fx : List Effect}
    {h : Handle} (hold : Known s h ∨ Fresh s fx h) : Known (s.after t pc fx) h := by
  have hsockets : (s.after t pc fx).sockets = s.sockets ++ socketsOf fx :=
    foldl_apply_sockets t s fx
  rcases hold with hold | hfresh
  · constructor
    · rw [hsockets]
      exact List.mem_append_left _ hold.socket
    · exact Nat.lt_of_lt_of_le hold.id (foldl_apply_nextConn_le t s fx)
  · rcases hfresh.connection with ⟨driver, hdriver⟩
    have hnew : h.socket ∈ socketsOf fx := mem_socketsOf.mpr hfresh.socket
    constructor
    · rw [hsockets]
      exact List.mem_append_right _ hnew
    · rw [hfresh.id]
      exact foldl_apply_nextConn_lt t s hdriver

section Step

variable {s : State cl} (hinv : PoolInv s) {t : Nat} {v : Vars cl.crates.url} {stage : Stage}
  {input : Input} {pc : Pc cl.crates.url} {fx : List Effect}
include hinv

/-- A store happens in a slot the task is inside of, or that nobody is. -/
theorem PoolInv.store_holder (ht : s.tasks t = .inHop v stage)
    (hm : StageMove s v stage input pc fx) {key : String} {c? : Option PooledConnection}
    (hin : .store key c? ∈ fx) : s.holder key = some t ∨ s.holder key = none := by
  rcases move_stores hm hin with ⟨_, _, _, hfree⟩ | ⟨rfl, rfl, _⟩ | ⟨rfl, hst, _⟩ |
    ⟨rfl, conn, rfl, _⟩
  · exact Or.inr (State.free_holder hfree).1
  · exact Or.inl (hinv.mutex t v .dial _ ht List.mem_cons_self)
  · left
    rcases hst with rfl | rfl
    · exact hinv.mutex t v .fallbackDial _ ht (List.mem_cons_of_mem _ List.mem_cons_self)
    · exact hinv.mutex t v .midDial _ ht List.mem_cons_self
  · exact Or.inl (hinv.mutex t v (.midReady conn) _ ht List.mem_cons_self)

/-- A slot with another task inside is left alone. -/
theorem PoolInv.foreign (ht : s.tasks t = .inHop v stage) (hm : StageMove s v stage input pc fx)
    {key : String} {t' : Nat} (hheld : s.holder key = some t') (hne : t' ≠ t) :
    (fx.foldl (State.apply t) s).content key = s.content key ∧
      (fx.foldl (State.apply t) s).holder key = s.holder key := by
  constructor
  · refine foldl_apply_content_eq t s (fun c? hin => ?_)
    rcases hinv.store_holder ht hm hin with h | h
    · exact hne (Option.some.inj (hheld.symm.trans h))
    · exact absurd (hheld.symm.trans h) (by simp only [reduceCtorEq, not_false_eq_true])
  · refine foldl_apply_holder_eq t s (fun hin => ?_) (fun hin => ?_)
    · exact absurd (hheld.symm.trans (State.free_holder (move_lock hm hin)).1)
        (by simp only [reduceCtorEq, not_false_eq_true])
    · exact hne (Option.some.inj (hheld.symm.trans
        (hinv.mutex t v stage key ht (move_unlock hm hin))))

/-- A session stays in its slot: the stages that clear or dial are never in a
    slot that has one. -/
theorem PoolInv.session_stays (ht : s.tasks t = .inHop v stage)
    (hm : StageMove s v stage input pc fx) {key : String} {session : Handle}
    (hc : s.content key = some (.http3 session)) :
    (fx.foldl (State.apply t) s).content key = some (.http3 session) := by
  have hkind : isH3Key key = true := (hinv.kind key _ hc).symm
  rw [foldl_apply_content_eq t s (fun c? hin => ?_), hc]
  have hrely := hinv.relies t v stage ht
  -- A clear follows a failed `ready()`, and a dial found the slot empty; the rest is HTTP/2.
  rcases move_stores hm hin with ⟨rfl, ⟨conn, rfl⟩, _⟩ | ⟨rfl, rfl, _⟩ | ⟨rfl, _⟩ | ⟨rfl, _⟩
  · exact absurd (hkind.symm.trans hrely) (by decide)
  · exact absurd (hc.symm.trans hrely) (by simp only [reduceCtorEq, not_false_eq_true])
  · exact absurd (hkind.symm.trans (isH3Key_h2PoolKey v)) (by decide)
  · exact absurd (hkind.symm.trans (isH3Key_h2PoolKey v)) (by decide)

/-- What is in a slot after a move was there before or is new. -/
theorem PoolInv.content_move (ht : s.tasks t = .inHop v stage)
    (hm : StageMove s v stage input pc fx) {key : String} {c : PooledConnection}
    (hc : (fx.foldl (State.apply t) s).content key = some c) :
    s.content key = some c ∨ Fresh s fx c.handle ∧ c.isH3 = isH3Key key := by
  rcases foldl_apply_content t s hc with hold | hin
  · exact Or.inl hold
  · rcases move_stores hm hin with ⟨_, _, hnone, _⟩ | ⟨rfl, _, h, hsome, hfresh⟩ |
      ⟨rfl, _, h, hsome, hfresh⟩ | ⟨rfl, conn, rfl, hsome⟩
    · exact absurd hnone (by simp only [reduceCtorEq, not_false_eq_true])
    · right
      rw [Option.some.inj hsome, pooled_handle, pooled_isH3, isH3Key_poolKey]
      exact ⟨hfresh, rfl⟩
    · right
      rw [Option.some.inj hsome, isH3Key_h2PoolKey]
      exact ⟨hfresh, rfl⟩
    · left
      rw [Option.some.inj hsome]
      exact hinv.relies t v (.midReady conn) ht

/-- What the next stage relies on holds after the move. -/
theorem PoolInv.relies_move (ht : s.tasks t = .inHop v stage)
    (hm : StageMove s v stage input pc fx) {v' : Vars cl.crates.url} {stage' : Stage}
    (hpc : pc = .inHop v' stage') : Relies (fx.foldl (State.apply t) s) v' stage' := by
  have hrely := hinv.relies t v stage ht
  cases hm with
  | lockClone =>
      cases hpc
      cases hc : s.content (v.poolKey cl) with
      | none => trivial
      | some c =>
          -- The key tells which transport was cloned.
          have hkind := hinv.kind _ c hc
          cases c with
          | http2 conn => exact hkind.symm
          | http3 session => exact hc
  | readyDead => cases hpc; exact hrely
  | lockDialEmpty _ hnone =>
      cases hpc
      exact (foldl_apply_content_eq t s (fun c? hin => by
        simp only [List.mem_singleton, reduceCtorEq] at hin)).trans hnone
  | dialed outcome h hres =>
      cases hpc
      have hheld := hinv.mutex t v .dial _ ht List.mem_cons_self
      have hlast : ∀ c', Effect.store (v.poolKey cl) c' ∉ [Effect.unlock (v.poolKey cl)] := by
        intro c' hin
        simp only [List.mem_singleton, reduceCtorEq] at hin
      -- The store comes after the dial's own effects and before the unlock.
      have hstored := foldl_apply_content_stored t s (dialEffects cl v.hasAltSvc outcome)
        (some (pooled v.hasAltSvc h)) (State.isSome_of_holder hheld) hlast
      cases halt : v.hasAltSvc with
      | false => trivial
      | true =>
          rw [halt] at hstored
          exact hstored
  | fallbackLockEmpty _ hnone =>
      cases hpc
      exact (foldl_apply_content_eq t s (fun c? hin => by
        simp only [List.mem_singleton, reduceCtorEq] at hin)).trans hnone
  | fallbackLockTaken conn _ hcontent =>
      cases hpc
      -- What the source takes from the HTTP/2 slot unseen is an HTTP/2 connection.
      have hkind := hinv.kind _ conn hcontent
      rw [isH3Key_h2PoolKey] at hkind
      cases conn with
      | http2 conn => trivial
      | http3 session => exact absurd hkind Bool.noConfusion
  | midLock =>
      cases hpc
      cases hc : s.content (v.h2PoolKey cl) with
      | none => trivial
      | some c =>
          cases c with
          | http2 conn =>
              exact (foldl_apply_content_eq t s (fun c? hin => by
                simp only [List.mem_singleton, reduceCtorEq] at hin)).trans hc
          | http3 session => trivial
  | sendH3 session =>
      cases hpc
      exact hinv.session_stays ht (.sendH3 session _ _ ‹_› ‹_› ‹_› ‹_›) hrely
  | _ => first
    | (cases hpc; trivial)
    | cases hpc

/-- A move of a hop keeps the invariant. -/
theorem poolInv_stage (ht : s.tasks t = .inHop v stage) (hm : StageMove s v stage input pc fx) :
    PoolInv (s.after t pc fx) := by
  constructor
  · intro key c hc
    rcases hinv.content_move ht hm hc with hold | ⟨hfresh, _⟩
    · exact known_after (Or.inl (hinv.known key c hold))
    · exact known_after (Or.inr hfresh)
  · intro t' h hh
    rcases State.after_tasks_eq (rfl : (s.after t pc fx).tasks t' = _) with ⟨_, heq⟩ | ⟨_, hsame⟩
    · have hh' : pc.handle? = some h := heq ▸ hh
      rcases move_handle hm hh' with hold | ⟨key, c, hc, rfl⟩ | hfresh
      · exact known_after (Or.inl (hinv.knownTask t h (by rw [ht]; exact hold)))
      · exact known_after (Or.inl (hinv.known key c hc))
      · exact known_after (Or.inr hfresh)
    · have hh' : (s.tasks t').handle? = some h := hsame ▸ hh
      exact known_after (Or.inl (hinv.knownTask t' h hh'))
  · intro t' v' stage' key hpc hk
    rcases State.after_tasks_eq hpc with ⟨rfl, heq⟩ | ⟨hne, hsame⟩
    -- The task's own slots: the one it has just locked, and those it was in.
    · rcases move_holds hm heq hk with ⟨hu, hl | hold⟩
      · exact foldl_apply_holder_locked t' s (State.free_holder (move_lock hm hl)).2 hl hu
      · have hheld := hinv.mutex t' v stage key ht hold
        by_cases hl : .lock key ∈ fx
        · exact absurd (hheld.symm.trans (State.free_holder (move_lock hm hl)).1)
            (by simp only [reduceCtorEq, not_false_eq_true])
        · exact (foldl_apply_holder_eq t' s hl hu).trans hheld
    -- Another task's slots.
    · have hheld := hinv.mutex t' v' stage' key hsame hk
      exact (hinv.foreign ht hm hheld hne).2.trans hheld
  · intro key c hc
    rcases hinv.content_move ht hm hc with hold | ⟨_, hkind⟩
    · exact hinv.kind key c hold
    · exact hkind
  · intro t' v' stage' hpc
    rcases State.after_tasks_eq hpc with ⟨rfl, heq⟩ | ⟨hne, hsame⟩
    · exact hinv.relies_move ht hm heq
    -- Another task's slots are left alone, and its session stays.
    · refine (hinv.relies t' v' stage' hsame).keep (fun key hk => ?_)
        (fun key session hc => hinv.session_stays ht hm hc)
      exact (hinv.foreign ht hm (hinv.mutex t' v' stage' key hsame hk) hne).1

/-- A step that leaves the pool, the sockets and the numbering alone, and puts
    no task where it relies on anything. -/
theorem poolInv_quiet {s' : State cl} (hpool : s'.pool = s.pool)
    (hsockets : s'.sockets = s.sockets) (hconn : s'.nextConn = s.nextConn)
    (htasks : ∀ t, s'.tasks t = s.tasks t ∨ (s'.tasks t).handle? = none ∧
      ∀ v stage, s'.tasks t = .inHop v stage → stage = .cookies) : PoolInv s' := by
  have hcontent : ∀ key, s'.content key = s.content key := fun key => by
    rw [State.content, State.content, hpool]
  have hholder : ∀ key, s'.holder key = s.holder key := fun key => by
    rw [State.holder, State.holder, hpool]
  have hknown : ∀ h, Known s h → Known s' h := fun h hk =>
    ⟨hsockets ▸ hk.socket, hconn ▸ hk.id⟩
  -- Whatever such a step shows of a task is its old stage, or one that holds and
  -- relies on nothing.
  constructor
  · exact fun key c hc => hknown _ (hinv.known key c (hcontent key ▸ hc))
  · intro t h hh
    rcases htasks t with heq | ⟨hnone, _⟩
    · exact hknown _ (hinv.knownTask t h (heq ▸ hh))
    · exact absurd (hnone.symm.trans hh) (by simp only [reduceCtorEq, not_false_eq_true])
  · intro t v stage key hpc hk
    rcases htasks t with heq | ⟨_, hcookies⟩
    · exact (hholder key).trans (hinv.mutex t v stage key (heq ▸ hpc) hk)
    · rw [hcookies v stage hpc] at hk
      exact absurd hk List.not_mem_nil
  · exact fun key c hc => hinv.kind key c (hcontent key ▸ hc)
  · intro t v stage hpc
    rcases htasks t with heq | ⟨_, hcookies⟩
    · exact (hinv.relies t v stage (heq ▸ hpc)).keep (fun key _ => hcontent key)
        (fun key _ hc => (hcontent key).trans hc)
    · rw [hcookies v stage hpc]
      trivial

end Step

/-- Every step keeps the invariant. -/
theorem poolInv_step {s s' : State cl} {a : Action} (hinv : PoolInv s)
    (h : step s a = some s') : PoolInv s' := by
  cases a with
  | driver session e =>
      rcases step_driver_eq_some h with ⟨d, d', _, _, rfl⟩
      exact poolInv_quiet hinv rfl rfl rfl (fun _ => Or.inl rfl)
  | task t input =>
      rcases step_task_eq_some h with ⟨pc, fx, hm, rfl⟩
      generalize htask : s.tasks t = pc₀ at hm
      have hquiet : ∀ pc' : Pc cl.crates.url, pc'.handle? = none →
          (∀ v stage, pc' = .inHop v stage → stage = .cookies) → ∀ t',
          Function.update s.tasks t pc' t' = s.tasks t' ∨
            (Function.update s.tasks t pc' t').handle? = none ∧
              ∀ v stage, Function.update s.tasks t pc' t' = .inHop v stage → stage = .cookies := by
        intro pc' hnone hcookies t'
        by_cases heq : t' = t
        · rw [heq, Function.update_self]
          exact Or.inr ⟨hnone, hcookies⟩
        · exact Or.inl (Function.update_of_ne heq _ _)
      cases hm with
      | call => exact poolInv_quiet hinv rfl rfl rfl (hquiet _ rfl (fun _ _ h => by cases h))
      | enter => exact poolInv_quiet hinv rfl rfl rfl (hquiet _ rfl (fun _ _ h => by cases h; rfl))
      | refuse => exact poolInv_quiet hinv rfl rfl rfl (hquiet _ rfl (fun _ _ h => by cases h))
      | stage hm => exact poolInv_stage hinv htask hm

theorem poolInv_run {s s' : State cl} {as : List Action} (hinv : PoolInv s)
    (hrun : run step s as = some s') : PoolInv s' :=
  run_invariant step (fun _ _ _ hi hs => poolInv_step hi hs) hinv hrun

/-- What a slot holds after a step it held before, or it was dialed in this
    step. No slot ever gets an old connection back. -/
theorem step_content {s s' : State cl} {a : Action} (hinv : PoolInv s) (h : step s a = some s')
    {key : String} {c : PooledConnection} (hc : s'.content key = some c) :
    s.content key = some c ∨ c.handle.id = s.nextConn := by
  cases a with
  | driver session e =>
      rcases step_driver_eq_some h with ⟨d, d', _, _, rfl⟩
      exact Or.inl hc
  | task t input =>
      rcases step_task_eq_some h with ⟨pc, fx, hm, rfl⟩
      generalize htask : s.tasks t = pc₀ at hm
      cases hm with
      | call | enter | refuse => exact Or.inl hc
      | stage hm =>
          rcases hinv.content_move htask hm hc with hold | ⟨hfresh, _⟩
          · exact Or.inl hold
          · exact Or.inr hfresh.id

/-- A session that is in a slot is in it ever after. -/
theorem step_session_stays {s s' : State cl} {a : Action} (hinv : PoolInv s)
    (h : step s a = some s') {key : String} {session : Handle}
    (hc : s.content key = some (.http3 session)) : s'.content key = some (.http3 session) := by
  cases a with
  | driver i e =>
      rcases step_driver_eq_some h with ⟨d, d', _, _, rfl⟩
      exact hc
  | task t input =>
      rcases step_task_eq_some h with ⟨pc, fx, hm, rfl⟩
      generalize htask : s.tasks t = pc₀ at hm
      cases hm with
      | call | enter | refuse => exact hc
      | stage hm => exact hinv.session_stays htask hm hc

end Quik
