import Quik.PlainClient

/-!
# Transparent Fallback

A request whose hops are tried over HTTP/3 first, while every HTTP/3 attempt
fails, against the same request of a client that has no HTTP/3 at all.

Both are compared with the plain client. `foretold` says what the plain client
would still make of a task, and a step keeps it: the step either is one the
plain client takes too, or is part of an HTTP/3 attempt the plain client does
not see. So what a run ends in is what was foretold when it started, and that
does not depend on the Alt-Svc cache.

There is one place where a step does not keep it. The fallback of a failed
HTTP/3 dial takes whatever is in the HTTP/2 slot, where the acquisition loop
and the fallback of a failed send ask `ready()` first; if it is dead, the step
`strays`. There is a second way to stray, which is about the order of the
source. A request that cannot be built is refused before the TCP connection is
asked for on one path, after it on the other, so the two differ in their errors
if that connection cannot be had.

## Main definitions

* `Servers.Silent`, `overH3`: An HTTP/3 attempt reaches nobody and fails.
* `strays`: The steps at which a fallback leaves the plain client's way.
* `BlockedRun`: A request's run while HTTP/3 is blocked.

## Theorems

* `foretold_stage`: A step keeps what is foretold.
* `outcome_foretold`: A run ends in it.
* `transparent_fallback`: Two runs that differ in the Alt-Svc cache agree.
* `fallback_takes_dead`: They need not where a fallback strays.
-/

namespace Quik

open Transition

variable {Jar ω : Type} {cl : Client Jar} {W : Servers ω}

/-- HTTP/3 leaves no trace at the servers. -/
structure Servers.Silent (W : Servers ω) : Prop where
  dial : ∀ srv authority, (W.dial srv authority true).2 = srv
  command : ∀ srv authority request body, W.command srv authority request body = srv
  reply : ∀ srv authority, (W.reply srv authority).2 = srv

/-- The caller of a session receives a response. -/
def overH3 (x : ω × State cl) : Turn → Bool
  | .driver _ _ => false
  | .task t => match x.2.tasks t with
    | .inHop v (.awaitH3 session) => match sessionReply x.2 session v.ticket with
      | some (.ok _) => true
      | _ => false
    | _ => false

/-- A TCP connection can be had: the pooled one is alive, or a dial succeeds. -/
def Servers.obtains (W : Servers ω) (srv : ω) (s : State cl) (v : Vars cl.crates.url) : Bool :=
  (s.content (v.h2PoolKey cl)).isSome && W.alive srv v.parsedUrl.authority ||
    (W.dial srv v.parsedUrl.authority false).1.error?.isNone

/-- The fallback of a failed HTTP/3 dial takes a dead connection from the
    HTTP/2 slot, or a request that cannot be built is given up where no TCP
    connection can be had. -/
def strays (W : Servers ω) (x : ω × State cl) : Turn → Bool
  | .driver _ _ => false
  | .task t => match x.2.tasks t with
    | .inHop v .fallbackLock =>
      (x.2.content (v.h2PoolKey cl)).isSome && !W.alive x.1 v.parsedUrl.authority &&
        ((buildRequest v).isOk || !W.obtains x.1 x.2 v)
    | .inHop v (.send (.http3 _)) => !(buildRequest v).isOk && !W.obtains x.1 x.2 v
    | _ => false

/-- The plain client does not look at where a hop is routed. -/
theorem entered_route (next : Hop → Stores Jar ω → Outcome Jar) (v : Vars cl.crates.url)
    (hasAltSvc : Bool) (ticket : Nat) (st : Stores Jar ω) :
    Plain.entered cl W next { v with hasAltSvc := hasAltSvc, ticket := ticket } st =
      Plain.entered cl W next v st := rfl

section Acquire

variable (W) (next : Hop → Stores Jar ω → Outcome Jar) (v : Vars cl.crates.url) (s : State cl)
  (srv : ω)

/-- The plain client asks the pooled connection of the hop's HTTP/2 slot. -/
theorem acquired_eq : Plain.acquired cl W next v (storesOf s srv) =
    if (s.content (v.h2PoolKey cl)).isSome && W.alive srv v.parsedUrl.authority then
      Plain.sent cl W next v (storesOf s srv)
    else Plain.dialed cl W next v (storesOf s srv) := rfl

theorem acquired_of_none (h : s.content (v.h2PoolKey cl) = none) :
    Plain.acquired cl W next v (storesOf s srv) = Plain.dialed cl W next v (storesOf s srv) := by
  rw [acquired_eq, h]
  rfl

theorem acquired_of_some {c : PooledConnection} (h : s.content (v.h2PoolKey cl) = some c) :
    Plain.acquired cl W next v (storesOf s srv) =
      if W.alive srv v.parsedUrl.authority then Plain.sent cl W next v (storesOf s srv)
      else Plain.dialed cl W next v (storesOf s srv) := by
  rw [acquired_eq, h, Option.isSome_some, Bool.true_and]

/-- A dial does not look at what the slot held. -/
theorem dialed_emptied (st : Stores Jar ω) (b : Bool) :
    Plain.dialed cl W next v
        { st with pooled := Function.update st.pooled v.parsedUrl.routeKey b } =
      Plain.dialed cl W next v st := by
  simp only [Plain.dialed, Function.update_idem]
  rfl

theorem sent_unbuilt {e : Error} (hb : buildRequest v = .error e) (st : Stores Jar ω) :
    Plain.sent cl W next v st = st.ends (.error e) := by
  rw [Plain.sent, hb]

/-- A request that cannot be built fails with that, once there is a
    connection. -/
theorem acquired_unbuilt {e : Error} (hb : buildRequest v = .error e)
    (h : W.obtains srv s v = true) :
    Plain.acquired cl W next v (storesOf s srv) = (storesOf s srv).ends (.error e) := by
  rw [acquired_eq]
  rw [Servers.obtains] at h
  cases hc : ((s.content (v.h2PoolKey cl)).isSome && W.alive srv v.parsedUrl.authority) with
  | true => exact sent_unbuilt W next v hb _
  | false =>
      rw [hc, Bool.false_or, Option.isNone_iff_eq_none] at h
      rw [if_neg Bool.false_ne_true, Plain.dialed]
      simp only [storesOf, h]
      exact sent_unbuilt W next v hb _

end Acquire

section Dial

variable {s : State cl} {srv : ω} {v : Vars cl.crates.url} {t : Nat} {outcome : DialOutcome}
  {srv' : ω} (next : Hop → Stores Jar ω → Outcome Jar) (pc : Pc cl.crates.url)

theorem error?_of_ok {u : Url} {dialH3 : Bool} {h : Handle}
    (hres : dialResult s u dialH3 outcome = .ok h) : outcome.error? = none := by
  cases outcome with
  | unreachable | broken => simp only [dialResult, reduceCtorEq] at hres
  | connected => rfl

theorem error?_of_error {u : Url} {dialH3 : Bool} {e : Error}
    (hres : dialResult s u dialH3 outcome = .error e) : outcome.error? = some e := by
  cases outcome with
  | unreachable | broken => exact congrArg some (Except.error.inj hres)
  | connected => simp only [dialResult, reduceCtorEq] at hres

variable (hdial : W.dial srv v.parsedUrl.authority false = (outcome, srv'))
include hdial

/-- A successful dial of the task is the plain client's. -/
theorem dialed_of_ok {h : Handle} (hres : dialResult s v.parsedUrl false outcome = .ok h)
    (hslot : (s.pool (v.h2PoolKey cl)).isSome = true) {post : List Effect}
    (hpost : ∀ e ∈ post, e.Unseen) :
    Plain.sent cl W next v (storesOf (s.after t pc (dialEffects cl false outcome ++
        .store (v.h2PoolKey cl) (some (.http2 h)) :: post)) srv') =
      Plain.dialed cl W next v (storesOf s srv) := by
  rw [Plain.dialed]
  simp only [storesOf, hdial, error?_of_ok hres]
  exact congrArg _ (storesOf_store t s srv' (some (.http2 h)) hslot
    (unseen_dialEffects false outcome) hpost pc)

/-- A failed dial of the task is the plain client's. -/
theorem dialed_of_error {e : Error} (hres : dialResult s v.parsedUrl false outcome = .error e)
    {post : List Effect} (hpost : ∀ e ∈ post, e.Unseen) :
    (storesOf (s.after t pc (dialEffects cl false outcome ++ post)) srv').ends (.error e) =
      Plain.dialed cl W next v (storesOf s srv) := by
  have hunseen : ∀ e ∈ dialEffects cl false outcome ++ post, e.Unseen := fun e he =>
    (List.mem_append.mp he).elim (unseen_dialEffects false outcome e) (hpost e)
  rw [Plain.dialed, storesOf_after t s srv' hunseen]
  simp only [storesOf, hdial, error?_of_error hres]

end Dial

theorem poolKey_of_not_altSvc {v : Vars cl.crates.url} (h : v.hasAltSvc = false) :
    v.poolKey cl = v.h2PoolKey cl := by
  rw [Vars.poolKey, h]
  rfl

theorem unseen_store_poolKey {v : Vars cl.crates.url} (h : v.hasAltSvc = true)
    (c : Option PooledConnection) : (Effect.store (v.poolKey cl) c).Unseen :=
  (isH3Key_poolKey v).trans h

section Stage

variable {s : State cl} {srv srv' : ω} {t : Nat} {v : Vars cl.crates.url} {stage : Stage}
  {input : Input} {pc : Pc cl.crates.url} {fx : List Effect}

theorem unseen_nil : ∀ e ∈ ([] : List Effect), e.Unseen :=
  fun _ he => absurd he List.not_mem_nil

theorem unseen_singleton {e : Effect} (h : e.Unseen) : ∀ e' ∈ [e], e'.Unseen := by
  intro e' he
  rw [List.mem_singleton.mp he]
  exact h

theorem unseen_unlocks (key key' : String) :
    ∀ e ∈ [Effect.unlock key, Effect.unlock key'], e.Unseen := by
  intro e he
  rcases List.mem_cons.mp he with rfl | he
  · trivial
  · refine unseen_singleton ?_ e he
    trivial

/-- A step with unseen effects has only its program counter to account for. -/
theorem foretold_of_unseen {r : Option (Outcome Jar)} (hunseen : ∀ e ∈ fx, e.Unseen)
    (h : foretold W pc (storesOf s srv') = r) :
    foretold W pc (storesOf (s.after t pc fx) srv') = r := by
  rw [storesOf_after t s srv' hunseen]
  exact h

/-- What a task takes out of the HTTP/2 slot, the plain client asks first. -/
theorem foretold_lockClone (hinv : PoolInv s) :
    Plain.fromStage cl W v (afterClone (s.content (v.poolKey cl))) (storesOf s srv) =
      Plain.fromStage cl W v .lockClone (storesOf s srv) := by
  cases hc : s.content (v.poolKey cl) with
  | none => rfl
  | some c =>
      -- The transport of the key is that of the connection in it.
      have hkind := (hinv.kind _ c hc).trans (isH3Key_poolKey v)
      cases c with
      | http3 session => rfl
      | http2 conn =>
          rw [poolKey_of_not_altSvc hkind.symm] at hc
          exact (acquired_of_some W _ v s srv hc).symm

theorem foretold_midLock (hinv : PoolInv s) :
    Plain.fromStage cl W v (afterMidLock (s.content (v.h2PoolKey cl))) (storesOf s srv) =
      Plain.fromStage cl W v .midLock (storesOf s srv) := by
  cases hc : s.content (v.h2PoolKey cl) with
  | none => exact (acquired_of_none W _ v s srv hc).symm
  | some c =>
      have hkind := (hinv.kind _ c hc).trans (isH3Key_h2PoolKey v)
      cases c with
      | http2 conn => exact (acquired_of_some W _ v s srv hc).symm
      | http3 session => exact absurd hkind Bool.noConfusion

/-- A slot that is cleared leaves the plain client to dial, as it would with
    the dead connection in it. -/
theorem foretold_lockClear (halt : v.hasAltSvc = false)
    (hfree : s.free (v.poolKey cl) = true) :
    Plain.fromStage cl W v .lockClone
        (storesOf (s.after t (.inHop v .lockClone) [.store (v.poolKey cl) none]) srv) =
      Plain.dialed cl W (Plain.goesOn cl W v) v (storesOf s srv) := by
  rw [poolKey_of_not_altSvc halt] at hfree ⊢
  have hslot := (State.free_holder hfree).2
  have hstores := storesOf_store t s srv none hslot unseen_nil unseen_nil (.inHop v .lockClone)
  calc Plain.acquired cl W (Plain.goesOn cl W v) v
        (storesOf (s.after t (.inHop v .lockClone) [.store (v.h2PoolKey cl) none]) srv)
      = Plain.dialed cl W (Plain.goesOn cl W v) v
          (storesOf (s.after t (.inHop v .lockClone) [.store (v.h2PoolKey cl) none]) srv) :=
        acquired_of_none W _ v _ srv (apply_store_content t s none hslot)
    _ = Plain.dialed cl W (Plain.goesOn cl W v) v (storesOf s srv) :=
        (congrArg _ hstores).trans (dialed_emptied W _ v (storesOf s srv) false)

theorem foretold_lockDialEmpty (hnone : s.content (v.poolKey cl) = none) :
    Plain.fromStage cl W v .dial (storesOf s srv) =
      Plain.fromStage cl W v .lockDial (storesOf s srv) := by
  cases halt : v.hasAltSvc with
  | true => simp only [Plain.fromStage, halt, if_true]
  | false =>
      rw [poolKey_of_not_altSvc halt] at hnone
      simp only [Plain.fromStage, halt, Bool.false_eq_true, if_false]
      exact (acquired_of_none W _ v s srv hnone).symm

/-- A dial over HTTP/3 is not seen, and one over HTTP/2 is the plain client's. -/
theorem foretold_dialed (hsilent : W.Silent) {outcome : DialOutcome} {h : Handle}
    (hdial : W.dial srv v.parsedUrl.authority v.hasAltSvc = (outcome, srv'))
    (hres : dialResult s v.parsedUrl v.hasAltSvc outcome = .ok h)
    (hslot : (s.pool (v.poolKey cl)).isSome = true) :
    Plain.fromStage cl W v (.send (pooled v.hasAltSvc h))
        (storesOf (s.after t (.inHop v (.send (pooled v.hasAltSvc h)))
          (dialEffects cl v.hasAltSvc outcome ++
            [.store (v.poolKey cl) (some (pooled v.hasAltSvc h)), .unlock (v.poolKey cl)])) srv') =
      Plain.fromStage cl W v .dial (storesOf s srv) := by
  cases halt : v.hasAltSvc with
  | true =>
      have hsrv : srv' = srv := by
        rw [halt] at hdial
        rw [← hsilent.dial srv v.parsedUrl.authority, hdial]
      -- What is dialed goes into the HTTP/3 slot.
      have hunseen : ∀ e ∈ dialEffects cl true outcome ++
          [.store (v.poolKey cl) (some (pooled true h)), .unlock (v.poolKey cl)], e.Unseen := by
        intro e he
        rcases List.mem_append.mp he with he | he
        · exact unseen_dialEffects _ _ e he
        · rcases List.mem_cons.mp he with rfl | he
          · exact unseen_store_poolKey halt _
          · refine unseen_singleton ?_ e he
            trivial
      rw [storesOf_after t s srv' hunseen, hsrv]
      simp only [Plain.fromStage, halt, if_true, pooled]
  | false =>
      rw [halt] at hdial hres
      rw [poolKey_of_not_altSvc halt] at hslot ⊢
      simp only [Plain.fromStage, halt, Bool.false_eq_true, if_false, pooled]
      exact dialed_of_ok _ _ hdial hres hslot (unseen_singleton trivial)

/-- A connection the fallback takes is one the plain client would use, unless
    the fallback strays. -/
theorem foretold_fallbackTaken (hinv : PoolInv s) {c : PooledConnection}
    (hcontent : s.content (v.h2PoolKey cl) = some c)
    (hstray : ((s.content (v.h2PoolKey cl)).isSome && !W.alive srv v.parsedUrl.authority &&
      ((buildRequest v).isOk || !W.obtains srv s v)) = false) :
    Plain.fromStage cl W v (.send c) (storesOf s srv) =
      Plain.fromStage cl W v .fallbackLock (storesOf s srv) := by
  have hkind := (hinv.kind _ c hcontent).trans (isH3Key_h2PoolKey v)
  cases c with
  | http3 session => exact absurd hkind Bool.noConfusion
  | http2 conn =>
      cases halive : W.alive srv v.parsedUrl.authority with
      | true =>
          refine Eq.trans ?_ (acquired_of_some W _ v s srv hcontent).symm
          rw [if_pos halive]
          rfl
      | false =>
          -- It is dead, so the request cannot be built either.
          simp only [hcontent, halive, Option.isSome_some, Bool.not_false,
            Bool.true_and] at hstray
          cases hbuild : buildRequest v with
          | ok request =>
              rw [hbuild] at hstray
              exact absurd hstray Bool.noConfusion
          | error e =>
              rw [hbuild] at hstray
              exact (sent_unbuilt W _ v hbuild _).trans (acquired_unbuilt W _ v s srv hbuild
                (Bool.not_eq_eq_eq_not.mp hstray)).symm

/-- The fallback of a failed send stores the connection the slot holds. -/
theorem foretold_midReadyAlive {conn : Handle}
    (hrely : s.content (v.h2PoolKey cl) = some (.http2 conn))
    (hslot : (s.pool (v.h2PoolKey cl)).isSome = true)
    (halive : W.alive srv v.parsedUrl.authority = true) :
    Plain.fromStage cl W v (.midSend conn) (storesOf (s.after t (.inHop v (.midSend conn))
        [.store (v.h2PoolKey cl) (some (.http2 conn))]) srv) =
      Plain.fromStage cl W v (.midReady conn) (storesOf s srv) := by
  refine Eq.trans ?_ (if_pos halive).symm
  have hstores := storesOf_store t s srv (some (.http2 conn)) hslot unseen_nil unseen_nil
    (.inHop v (.midSend conn))
  have hsame : Function.update (storesOf s srv).pooled v.parsedUrl.routeKey true =
      (storesOf s srv).pooled :=
    Function.update_eq_self_iff.mpr (congrArg Option.isSome hrely).symm
  refine (congrArg _ hstores).trans ?_
  rw [Option.isSome_some, hsame]
  rfl

/-- A step keeps what is foretold. -/
theorem foretold_stage (hsilent : W.Silent) (hinv : PoolInv s) (ht : s.tasks t = .inHop v stage)
    (hans : W.answer srv v stage = (input, srv')) (hm : StageMove s v stage input pc fx)
    (hfails : overH3 (srv, s) (.task t) = false) (hstray : strays W (srv, s) (.task t) = false) :
    foretold W pc (storesOf (s.after t pc fx) srv') =
      some (Plain.fromStage cl W v stage (storesOf s srv)) := by
  have hrely := hinv.relies t v stage ht
  have hslot : ∀ key ∈ stage.holds cl v, (s.pool key).isSome = true := fun key hk =>
    State.isSome_of_holder (hinv.mutex t v stage key ht hk)
  simp only [overH3, ht] at hfails
  simp only [strays, ht] at hstray
  cases hm with
  | cookies | hints | lockDialTaken =>
      cases hans
      exact foretold_of_unseen unseen_nil rfl
  | slotLookup | evictDial | fallbackLookup | evictSend | midLookup =>
      cases hans
      exact foretold_of_unseen (unseen_singleton trivial) rfl
  | lockClone =>
      cases hans
      exact foretold_of_unseen unseen_nil (congrArg some (foretold_lockClone hinv))
  | readyAlive conn =>
      simp only [Servers.answer, Prod.mk.injEq, Input.ready.injEq] at hans
      rw [← hans.2]
      refine foretold_of_unseen unseen_nil (congrArg some ?_)
      exact (if_pos hans.1).symm
  | readyDead conn =>
      simp only [Servers.answer, Prod.mk.injEq, Input.ready.injEq] at hans
      rw [← hans.2]
      refine foretold_of_unseen unseen_nil (congrArg some ?_)
      exact (if_neg (Bool.eq_false_iff.mp hans.1)).symm
  | lockClear conn hfree =>
      cases hans
      have halt := (isH3Key_poolKey v).symm.trans hrely
      exact congrArg some (foretold_lockClear halt hfree)
  | lockDialEmpty hfree hnone =>
      cases hans
      exact foretold_of_unseen (unseen_singleton trivial)
        (congrArg some (foretold_lockDialEmpty hnone))
  | dialed outcome h hres =>
      simp only [Servers.answer, Prod.mk.injEq, Input.dial.injEq] at hans
      exact congrArg some (foretold_dialed hsilent (Prod.ext hans.1 hans.2) hres
        (hslot _ List.mem_cons_self))
  | dialH3Failed outcome e hres halt =>
      simp only [Servers.answer, Prod.mk.injEq, Input.dial.injEq] at hans
      rw [halt, hsilent.dial] at hans
      rw [← hans.2]
      refine foretold_of_unseen (unseen_dialEffects _ _) (congrArg some ?_)
      simp only [Plain.fromStage, halt, if_true]
  | dialH2Failed outcome e hres halt =>
      simp only [Servers.answer, Prod.mk.injEq, Input.dial.injEq] at hans
      rw [halt] at hans hres
      refine congrArg some ?_
      simp only [Plain.fromStage, halt, Bool.false_eq_true, if_false]
      exact dialed_of_error _ _ (Prod.ext hans.1 hans.2) hres (unseen_singleton trivial)
  | fallbackLockEmpty hfree hnone =>
      cases hans
      refine foretold_of_unseen (unseen_singleton trivial) (congrArg some ?_)
      exact (acquired_of_none W _ v s srv hnone).symm
  | fallbackLockTaken conn hfree hcontent =>
      cases hans
      exact foretold_of_unseen (unseen_singleton trivial)
        (congrArg some (foretold_fallbackTaken hinv hcontent hstray))
  | fallbackDialed outcome h hres =>
      simp only [Servers.answer, Prod.mk.injEq, Input.dial.injEq] at hans
      exact congrArg some (dialed_of_ok _ _ (Prod.ext hans.1 hans.2) hres
        (hslot _ (List.mem_cons_of_mem _ List.mem_cons_self)) (unseen_unlocks _ _))
  | midDialed outcome h hres =>
      simp only [Servers.answer, Prod.mk.injEq, Input.dial.injEq] at hans
      exact congrArg some (dialed_of_ok _ _ (Prod.ext hans.1 hans.2) hres
        (hslot _ List.mem_cons_self) unseen_nil)
  | fallbackDialFailed outcome e hres =>
      simp only [Servers.answer, Prod.mk.injEq, Input.dial.injEq] at hans
      exact congrArg some (dialed_of_error _ _ (Prod.ext hans.1 hans.2) hres
        (unseen_unlocks _ _))
  | midDialFailed outcome e hres =>
      simp only [Servers.answer, Prod.mk.injEq, Input.dial.injEq] at hans
      exact congrArg some (dialed_of_error _ _ (Prod.ext hans.1 hans.2) hres
        (unseen_singleton trivial))
  | sendUnbuilt conn input e hb =>
      cases conn with
      | http2 conn =>
          simp only [Servers.answer, hb, Prod.mk.injEq] at hans
          rw [← hans.2]
          exact foretold_of_unseen unseen_nil (congrArg some (sent_unbuilt W _ v hb _).symm)
      | http3 session =>
          simp only [Servers.answer, hb, Prod.mk.injEq] at hans
          rw [← hans.2]
          refine foretold_of_unseen unseen_nil (congrArg some ?_)
          simp only [hb] at hstray
          exact (acquired_unbuilt W _ v s srv hb (Bool.not_eq_eq_eq_not.mp hstray)).symm
  | sendRefused conn request e hb =>
      simp only [Servers.answer, hb, Prod.mk.injEq, Input.transmit.injEq] at hans
      rw [← hans.2]
      refine foretold_of_unseen unseen_nil (congrArg some ?_)
      simp only [Plain.fromStage, Plain.sent, hb, storesOf, hans.1]
  | sendH2 conn request hb =>
      simp only [Servers.answer, hb, Prod.mk.injEq, Input.transmit.injEq] at hans
      rw [← hans.2]
      refine foretold_of_unseen (unseen_singleton trivial) (congrArg some ?_)
      simp only [Plain.fromStage, Plain.sent, hb, storesOf, hans.1]
  | sendH3Closed session request d hb hd hexit =>
      simp only [Servers.answer, hb, hsilent.command, Prod.mk.injEq] at hans
      rw [← hans.2]
      exact foretold_of_unseen unseen_nil rfl
  | sendH3 session request d hb hd hlive hroom =>
      simp only [Servers.answer, hb, hsilent.command, Prod.mk.injEq] at hans
      rw [← hans.2]
      exact foretold_of_unseen (unseen_singleton trivial) rfl
  | respondH2 conn urlStr resp | failH2 conn urlStr resp =>
      simp only [Servers.answer, Prod.mk.injEq, Input.respond.injEq] at hans
      rw [← hans.2]
      refine foretold_of_unseen unseen_nil (congrArg some ?_)
      simp only [Plain.fromStage, Plain.awaited, storesOf, hans.1]
  | respondH3 session resp hr =>
      simp only [hr, reduceCtorEq] at hfails
  | failH3 session e hr =>
      simp only [Servers.answer, hsilent.reply, Prod.mk.injEq] at hans
      rw [← hans.2]
      exact foretold_of_unseen unseen_nil rfl
  | midLock hfree =>
      cases hans
      exact foretold_of_unseen (unseen_singleton trivial)
        (congrArg some (foretold_midLock hinv))
  | midReadyAlive conn =>
      simp only [Servers.answer, Prod.mk.injEq, Input.ready.injEq] at hans
      rw [← hans.2]
      exact congrArg some (foretold_midReadyAlive hrely (hslot _ List.mem_cons_self) hans.1)
  | midReadyDead conn =>
      simp only [Servers.answer, Prod.mk.injEq, Input.ready.injEq] at hans
      rw [← hans.2]
      refine foretold_of_unseen unseen_nil (congrArg some ?_)
      exact (if_neg (Bool.eq_false_iff.mp hans.1)).symm
  | midSendUnbuilt conn refused e hb =>
      simp only [Servers.answer, hb, Prod.mk.injEq] at hans
      rw [← hans.2]
      exact foretold_of_unseen (unseen_singleton trivial)
        (congrArg some (sent_unbuilt W _ v hb _).symm)
  | midSendRefused conn request e hb | midSend conn request hb =>
      simp only [Servers.answer, hb, Prod.mk.injEq, Input.transmit.injEq] at hans
      rw [← hans.2]
      refine foretold_of_unseen (unseen_singleton trivial) (congrArg some ?_)
      simp only [Plain.fromStage, Plain.sent, hb, storesOf, hans.1]
  | midRespond conn urlStr resp | midFail conn urlStr resp =>
      simp only [Servers.answer, Prod.mk.injEq, Input.respond.injEq] at hans
      rw [← hans.2]
      refine foretold_of_unseen (unseen_singleton trivial) (congrArg some ?_)
      simp only [Plain.fromStage, Plain.awaited, storesOf, hans.1]
  | storeCookies resp =>
      cases hans
      rfl
  | storeHints resp =>
      cases hans
      rfl
  | storeAltSvc resp =>
      cases hans
      exact foretold_of_unseen (unseen_singleton trivial) rfl
  | redirectFailed resp e he =>
      cases hans
      refine foretold_of_unseen unseen_nil (congrArg some ?_)
      simp only [Plain.fromStage, Plain.evaluated, he]
  | answered resp he =>
      cases hans
      refine foretold_of_unseen unseen_nil (congrArg some ?_)
      simp only [Plain.fromStage, Plain.evaluated, he]
  | redirected resp hop he =>
      cases hans
      refine foretold_of_unseen unseen_nil (congrArg some ?_)
      simp only [Plain.fromStage, Plain.evaluated, he]
      -- The chain goes on with the next hop's number.
      rcases evaluate_eq_some he with ⟨_, _, _, _, rfl⟩
      rfl

/-- The top of the loop is the plain client's. -/
theorem foretold_top (hop : Hop) (context : RequestContext) :
    foretold W (enterHop s hop context).1
        (storesOf (s.after t (enterHop s hop context).1 (enterHop s hop context).2) srv) =
      some (Plain.hopFrom cl W context (Hop.limit - hop.hop) hop (storesOf s srv)) := by
  rw [enterHop_eq]
  cases hv : hopVars cl.crates.url hop context with
  | error e =>
      refine foretold_of_unseen unseen_nil (congrArg some ?_)
      by_cases hl : hop.hop < Hop.limit
      · rw [← Nat.succ_pred_eq_of_pos (Nat.sub_pos_of_lt hl), Plain.hopFrom, hv]
      · rw [Nat.sub_eq_zero_of_le (Nat.le_of_not_lt hl), Plain.hopFrom]
        rw [hopVars, dif_neg hl] at hv
        rw [← Except.error.inj hv]
  | ok v =>
      refine foretold_of_unseen (unseen_singleton trivial) (congrArg some ?_)
      rcases hopVars_eq_ok hv with ⟨hhop, hcontext⟩
      have hl : hop.hop < Hop.limit := hhop ▸ v.inRange
      rw [← Nat.succ_pred_eq_of_pos (Nat.sub_pos_of_lt hl), Plain.hopFrom, hv]
      refine (entered_route _ v _ _ (storesOf s srv)).trans ?_
      rw [← hhop, ← hcontext]
      rfl

end Stage

/-- A step of the client against the servers keeps what is foretold. -/
theorem foretold_step {x y : ω × State cl} {t : Nat} {m : Turn} (hsilent : W.Silent)
    (hinv : PoolInv x.2) (h : worldStep W x m = some y) (halone : m.alone t = true)
    (hfails : overH3 x m = false) (hstray : strays W x m = false) :
    foretold W (y.2.tasks t) (storesOf y.2 y.1) = foretold W (x.2.tasks t) (storesOf x.2 x.1) := by
  cases m with
  | driver session e =>
      rcases worldStep_driver_eq_some W h with ⟨hsrv, hs⟩
      rcases step_driver_eq_some hs with ⟨d, d', _, _, hy⟩
      rw [hsrv, hy]
      rfl
  | task t' =>
      have ht : t' = t := of_decide_eq_true halone
      rcases worldStep_task_eq_some W h with ⟨pc, fx, hm, hy⟩
      rw [ht] at hm hy hfails hstray
      rw [hy, State.after_task]
      generalize hpc : x.2.tasks t = pc₀ at hm
      generalize y.1 = srv' at hm
      cases hm with
      | top hop context => exact foretold_top hop context
      | stage hm => exact foretold_stage hsilent hinv hpc rfl hm hfails hstray

/-- A run of one request while HTTP/3 is blocked, to its end. -/
structure BlockedRun (W : Servers ω) (t : Nat) (x : ω × State cl) (ms : List Turn)
    (y : ω × State cl) (result : Except Error Response) : Prop where
  isRun : run (worldStep W) x ms = some y
  alone : Every (worldStep W) (fun _ m => m.alone t = true) x ms
  fails : Every (worldStep W) (fun x m => overH3 x m = false) x ms
  done : y.2.tasks t = .done result

/-- A request ends in what was foretold. -/
theorem outcome_foretold (hsilent : W.Silent) {t : Nat} {x y : ω × State cl} {ms : List Turn}
    {result : Except Error Response} (hinv : PoolInv x.2) (hrun : BlockedRun W t x ms y result)
    (hstray : Every (worldStep W) (fun x m => strays W x m = false) x ms) :
    foretold W (x.2.tasks t) (storesOf x.2 x.1) = some ((storesOf y.2 y.1).ends result) := by
  have hend := run_invariant_of_every (worldStep W)
    (I := fun x' => PoolInv x'.2 ∧
      foretold W (x'.2.tasks t) (storesOf x'.2 x'.1) = foretold W (x.2.tasks t) (storesOf x.2 x.1))
    (fun x₁ m x₂ hI hstep hs => by
      rcases worldStep_eq_some W hs with ⟨a, ha⟩
      exact ⟨poolInv_step hI.1 ha,
        (foretold_step hsilent hI.1 hs hstep.1 hstep.2.1 hstep.2.2).trans hI.2⟩)
    ms x y ⟨hinv, rfl⟩ (hrun.alone.and _ (hrun.fails.and _ hstray)) hrun.isRun
  rw [← hend.2, hrun.done]
  rfl

/-- Two runs of one request from states that differ in the Alt-Svc cache, in
    which HTTP/3 is blocked and no fallback strays, return the same and leave
    the same cookie jar and the same hint cache. -/
theorem transparent_fallback (hsilent : W.Silent) {altSvc₀ : AltSvcCache} {jar₀ : Jar}
    {s : State cl} (hs : Reachable step (State.fresh cl altSvc₀ jar₀) s) (srv : ω)
    (altSvc altSvc' : AltSvcCache) (t : Nat) {ms ms' : List Turn} {y y' : ω × State cl}
    {result result' : Except Error Response}
    (hrun : BlockedRun W t (srv, { s with altSvc := altSvc }) ms y result)
    (hrun' : BlockedRun W t (srv, { s with altSvc := altSvc' }) ms' y' result')
    (hstray : Every (worldStep W) (fun x m => strays W x m = false)
      (srv, { s with altSvc := altSvc }) ms)
    (hstray' : Every (worldStep W) (fun x m => strays W x m = false)
      (srv, { s with altSvc := altSvc' }) ms') :
    result = result' ∧ y.2.jar = y'.2.jar ∧ y.2.hintCache = y'.2.hintCache := by
  rcases hs with ⟨as, has⟩
  have hinv := poolInv_run (poolInv_fresh altSvc₀ jar₀) has
  have hinv₁ : PoolInv { s with altSvc := altSvc } :=
    poolInv_quiet hinv rfl rfl rfl (fun _ => Or.inl rfl)
  have hinv₂ : PoolInv { s with altSvc := altSvc' } :=
    poolInv_quiet hinv rfl rfl rfl (fun _ => Or.inl rfl)
  -- What is foretold does not depend on the Alt-Svc cache.
  have h₁ := outcome_foretold hsilent hinv₁ hrun hstray
  have h₂ := outcome_foretold hsilent hinv₂ hrun' hstray'
  have heq := Option.some.inj (h₁.symm.trans h₂)
  exact ⟨congrArg Outcome.result heq, congrArg Outcome.jar heq, congrArg Outcome.hints heq⟩

/-- The servers while UDP is blocked. Their state is whether the connections
    they have are alive; a new one is. -/
def udpBlocked : Servers Bool where
  dial := fun srv _ dialH3 =>
    if dialH3 then (.unreachable (.connect "network is unreachable"), srv)
    else (.connected { ip := .v4 0xC0000201, port := 443 } none, true)
  alive := fun srv _ => srv
  transmit := fun srv _ _ _ => (if srv then none else some (.http2 "connection closed"), srv)
  respond := fun srv _ => (.ok (.ok, HeaderMap.new, 0), srv)
  closed := fun _ _ => true
  command := fun srv _ _ _ => srv
  reply := fun srv _ => (.error (.connect "channel closed"), srv)

theorem udpBlocked_silent : udpBlocked.Silent where
  dial := fun _ _ => rfl
  command := fun _ _ _ _ => rfl
  reply := fun _ _ => rfl

/-- Task 0 is answered over HTTP/2 by an origin that advertises HTTP/3, and
    leaves its connection in the pool. Task 1 is called. -/
def pooledH2 : List Action :=
  ([ .call "GET" "https://a.test/" none .navigate, .go, .go, .go, .go, .go, .go,
    .dial (.connected { ip := .v4 0xC0000201, port := 443 } none), .transmit none,
    .respond (.ok (.ok, advertises, 0)), .go, .go, .go, .go ] : List Input).map (.task 0) ++
  [.task 1 (.call "GET" "https://a.test/" none .navigate)]

def afterPooledH2 : State direct :=
  (run step (State.fresh direct AltSvcCache.new ()) pooledH2).get (by decide +kernel)

/-- Task 1 moves so many times. -/
def movesOf1 (n : Nat) : List Turn :=
  List.replicate n (.task 1)

theorem blockedRun_of_result {x : Bool × State direct} {n : Nat} {b : Bool}
    (hend : (run (worldStep udpBlocked) x (movesOf1 n)).bind
      (fun y => (y.2.tasks 1).result?.map Except.isOk) = some b)
    (hfails : Every (worldStep udpBlocked) (fun x m => overH3 x m = false) x (movesOf1 n))
    (halone : Every (worldStep udpBlocked) (fun _ m => m.alone 1 = true) x (movesOf1 n)) :
    ∃ y result, BlockedRun udpBlocked 1 x (movesOf1 n) y result ∧ result.isOk = b := by
  rcases Option.bind_eq_some_iff.mp hend with ⟨y, hy, hresult⟩
  rcases Option.map_eq_some_iff.mp hresult with ⟨result, hr, hok⟩
  exact ⟨y, result, ⟨hy, halone, hfails, Pc.result?_eq_some hr⟩, hok⟩

theorem reachable_afterPooledH2 :
    Reachable step (State.fresh direct AltSvcCache.new ()) afterPooledH2 :=
  ⟨pooledH2, (Option.some_get _).symm⟩

/-- While the pooled connection is alive, the cached origin makes no
    difference. -/
theorem transparent_alive : ∃ y y' result result',
    BlockedRun udpBlocked 1 (true, { afterPooledH2 with altSvc := afterPooledH2.altSvc })
        (movesOf1 16) y result ∧
      BlockedRun udpBlocked 1 (true, { afterPooledH2 with altSvc := AltSvcCache.new })
        (movesOf1 12) y' result' ∧
      result = result' ∧ y.2.jar = y'.2.jar ∧ y.2.hintCache = y'.2.hintCache := by
  rcases blockedRun_of_result
    (x := (true, { afterPooledH2 with altSvc := afterPooledH2.altSvc })) (n := 16) (b := true)
    (by decide +kernel) (by decide +kernel) (by decide +kernel) with ⟨y, result, hrun, _⟩
  rcases blockedRun_of_result (x := (true, { afterPooledH2 with altSvc := AltSvcCache.new }))
    (n := 12) (b := true) (by decide +kernel) (by decide +kernel) (by decide +kernel) with
    ⟨y', result', hrun', _⟩
  exact ⟨y, y', result, result', hrun, hrun',
    transparent_fallback udpBlocked_silent reachable_afterPooledH2 true _ _ 1 hrun hrun'
      (by decide +kernel) (by decide +kernel)⟩

/-- When it is dead, the plain client dials again and is answered, and the
    fallback sends on it and fails. -/
theorem fallback_takes_dead : ∃ y y' result result',
    BlockedRun udpBlocked 1 (false, afterPooledH2) (movesOf1 11) y result ∧
      BlockedRun udpBlocked 1 (false, { afterPooledH2 with altSvc := AltSvcCache.new })
        (movesOf1 16) y' result' ∧
      result.isOk = false ∧ result'.isOk = true := by
  rcases blockedRun_of_result (x := (false, afterPooledH2)) (n := 11) (b := false)
    (by decide +kernel) (by decide +kernel) (by decide +kernel) with ⟨y, result, hrun, hok⟩
  rcases blockedRun_of_result (x := (false, { afterPooledH2 with altSvc := AltSvcCache.new }))
    (n := 16) (b := true) (by decide +kernel) (by decide +kernel) (by decide +kernel) with
    ⟨y', result', hrun', hok'⟩
  exact ⟨y, y', result, result', hrun, hrun', hok, hok'⟩

end Quik
