import Quik.Delivery

/-!
# What the Fallback Sends Again

A hop whose HTTP/3 attempt fails is sent again over HTTP/2, whatever the
failure was: the channel was closed, the command was rejected, the stream was
reset, the driver exited with the answer outstanding. The client sees an error
and not how far the request got, so a request whose stream was opened, and whose
body has gone out on it, is sent a second time (`post_delivered_twice`). It is
not sent a third time (`delivered_once_each`).

## Main definitions

* `H3Failed`: The ways an HTTP/3 attempt can fail.
* `Alone`, `CanDeliver`: What one task can do by itself.
* `BuiltInv`: A hop that waits for an HTTP/3 answer has a request.

## Theorems

* `failed_falls_back`: Every failure takes the hop to the fallback.
* `fallback_resends`: The fallback can hand the whole body over again.
* `delivered_once_each`: At most once over each transport.
-/

namespace Quik

open Transition

variable {Jar : Type} {cl : Client Jar}

/-- The HTTP/3 attempt of a hop has failed: the channel of the session is
    closed, or the reply is an error. -/
def H3Failed (s : State cl) (v : Vars cl.crates.url) : Stage → Prop
  | .send (.http3 session) =>
    (∃ request, buildRequest v = .ok request) ∧
      ∃ d, s.drivers session.id = some d ∧ d.exited = true
  | .awaitH3 session => ∃ e, sessionReply s session v.ticket = some (.error e)
  | _ => False

/-- Task `t` by itself can take the client from one state to the other. -/
def Alone (t : Nat) (s s' : State cl) : Prop :=
  ∃ inputs : List Input, run step s (inputs.map (.task t)) = some s'

theorem Alone.refl (t : Nat) (s : State cl) : Alone t s s :=
  ⟨[], rfl⟩

/-- One step of a hop, and then the rest. -/
theorem Alone.head {t : Nat} {s s' : State cl} {v : Vars cl.crates.url} {stage : Stage}
    {pc : Pc cl.crates.url} {fx : List Effect} (input : Input)
    (htask : s.tasks t = .inHop v stage) (hstep : stageStep s v stage input = some (pc, fx))
    (hrest : Alone t (s.after t pc fx) s') : Alone t s s' := by
  rcases hrest with ⟨inputs, hrun⟩
  have hs : step s (.task t input) = some (s.after t pc fx) := by
    simp only [step, htask, taskStep, hstep]
  refine ⟨input :: inputs, ?_⟩
  rw [List.map_cons, run_cons, hs]
  exact hrun

/-- The error of an HTTP/3 attempt, whatever it is and however far the request
    got, takes the hop to the fallback. -/
theorem failed_falls_back {s : State cl} {t : Nat} {v : Vars cl.crates.url} {stage : Stage}
    (htask : s.tasks t = .inHop v stage) (hfail : H3Failed s v stage) :
    step s (.task t .go) = some (s.after t (.inHop v .evictSend) []) := by
  cases stage with
  | send conn =>
      cases conn with
      | http2 => exact hfail.elim
      | http3 session =>
          rcases hfail with ⟨⟨request, hb⟩, d, hd, hexit⟩
          simp only [step, htask, taskStep, stageStep, hb, hd, hexit, if_true]
  | awaitH3 session =>
      rcases hfail with ⟨e, hr⟩
      simp only [step, htask, taskStep, stageStep, hr]
  | _ => exact hfail.elim

/-- A task by itself can deliver its request over HTTP/2. -/
def CanDeliver (t : Nat) (v : Vars cl.crates.url) (s : State cl) : Prop :=
  ∃ s' conn, Alone t s s' ∧ s'.deliveries = s.deliveries ++ [h2Delivery v conn]

section Deliver

variable {s : State cl} {t : Nat} {v : Vars cl.crates.url}

/-- What can be delivered after a step that delivers nothing could be before. -/
theorem CanDeliver.head {stage : Stage} {pc : Pc cl.crates.url} {fx : List Effect} (input : Input)
    (htask : s.tasks t = .inHop v stage) (hstep : stageStep s v stage input = some (pc, fx))
    (hsame : (s.after t pc fx).deliveries = s.deliveries)
    (h : CanDeliver t v (s.after t pc fx)) : CanDeliver t v s := by
  rcases h with ⟨s', conn, halone, hs'⟩
  exact ⟨s', conn, Alone.head input htask hstep halone, by rw [hs', hsame]⟩

/-- The lookup leaves a slot that is there, and nobody in it who was not. -/
theorem free_after_entry (pc : Pc cl.crates.url) {key : String} (hfree : s.holder key = none) :
    (s.after t pc [.entry key]).free key = true := by
  have hlock : Effect.entry key ≠ .lock key := by
    simp only [ne_eq, reduceCtorEq, not_false_eq_true]
  have hunlock : Effect.entry key ≠ .unlock key := by
    simp only [ne_eq, reduceCtorEq, not_false_eq_true]
  have hslot : ((s.after t pc [.entry key]).pool key).isSome = true := by
    rw [State.after]
    simp only [List.foldl_cons, List.foldl_nil, State.apply, Function.update_self,
      Option.isSome_some]
  exact State.free_of_holder ((apply_holder t s hlock hunlock).trans hfree) hslot

variable {request : Request} (hb : buildRequest v = .ok request)
include hb

/-- A connection is at hand, and the request goes out on it. -/
theorem canDeliver_midSend {conn : Handle} (htask : s.tasks t = .inHop v (.midSend conn)) :
    CanDeliver t v s := by
  have hstep : stageStep s v (.midSend conn) (.transmit none) =
      some (.inHop v (.midAwait conn request.uri.text), [.deliver (h2Delivery v conn)]) := by
    simp only [stageStep, hb]
  exact ⟨_, conn, Alone.head (.transmit none) htask hstep (Alone.refl t _), rfl⟩

/-- A network that lets the dial succeed provides one. -/
theorem canDeliver_midDial (htask : s.tasks t = .inHop v .midDial) : CanDeliver t v s := by
  let outcome : DialOutcome := .connected { ip := .v4 0, port := v.parsedUrl.connectPort } none
  exact CanDeliver.head (.dial outcome) htask rfl rfl (canDeliver_midSend hb State.after_task)

/-- A connection that is ready is used, and otherwise one is dialed. -/
theorem canDeliver_midLock (htask : s.tasks t = .inHop v .midLock)
    (hfree : s.free (v.h2PoolKey cl) = true) : CanDeliver t v s := by
  have hstep : stageStep s v .midLock .go = some
      (.inHop v (afterMidLock (s.content (v.h2PoolKey cl))), [.lock (v.h2PoolKey cl)]) := by
    simp only [stageStep, hfree, if_true]
  refine CanDeliver.head .go htask hstep rfl ?_
  cases s.content (v.h2PoolKey cl) with
  | none => exact canDeliver_midDial hb State.after_task
  | some c =>
      cases c with
      | http3 session => exact canDeliver_midDial hb State.after_task
      | http2 conn =>
          exact CanDeliver.head (.ready true) State.after_task rfl rfl
            (canDeliver_midSend hb State.after_task)

/-- The fallback can hand the whole body over again: once the HTTP/2 slot is
    free, and with a network that lets it, the task transmits the request. -/
theorem fallback_resends (htask : s.tasks t = .inHop v .evictSend)
    (hfree : s.holder (v.h2PoolKey cl) = none) : CanDeliver t v s := by
  refine CanDeliver.head .go htask rfl rfl ?_
  refine CanDeliver.head .go State.after_task rfl rfl ?_
  exact canDeliver_midLock hb State.after_task (free_after_entry _ hfree)

end Deliver

/-- A hop that waits for an HTTP/3 answer has a request: it has been sent. -/
def BuiltInv (s : State cl) : Prop :=
  ∀ t v session, s.tasks t = .inHop v (.awaitH3 session) → ∃ request, buildRequest v = .ok request

theorem afterClone_ne_awaitH3 (c? : Option PooledConnection) (session : Handle) :
    afterClone c? ≠ .awaitH3 session := by
  rcases c? with _ | conn | conn <;> simp only [afterClone, ne_eq, reduceCtorEq, not_false_eq_true]

theorem afterMidLock_ne_awaitH3 (c? : Option PooledConnection) (session : Handle) :
    afterMidLock c? ≠ .awaitH3 session := by
  rcases c? with _ | conn | conn <;>
    simp only [afterMidLock, ne_eq, reduceCtorEq, not_false_eq_true]

theorem builtInv_step {s s' : State cl} {a : Action} (hinv : BuiltInv s)
    (h : step s a = some s') : BuiltInv s' := by
  cases a with
  | driver session e =>
      rcases step_driver_eq_some h with ⟨d, d', _, _, rfl⟩
      exact hinv
  | task t input =>
      rcases step_task_eq_some h with ⟨pc, fx, hm, rfl⟩
      intro t' v session htask
      rcases State.after_tasks_eq htask with ⟨_, rfl⟩ | ⟨_, hold⟩
      · generalize s.tasks t = pc₀ at hm
        -- Only the send of a command leads to the wait.
        cases hm with
        | stage hm =>
            generalize hpc : Pc.inHop v (.awaitH3 session) = pc at hm
            cases hm with
            | sendH3 _ request _ hb =>
                cases hpc
                exact ⟨request, hb⟩
            | lockClone =>
                exact absurd (Pc.inHop.inj hpc).2.symm (afterClone_ne_awaitH3 _ session)
            | midLock =>
                exact absurd (Pc.inHop.inj hpc).2.symm (afterMidLock_ne_awaitH3 _ session)
            | _ => cases hpc
      · exact hinv t' v session hold

/-- In every state a fresh client reaches, each hop has been handed over at most
    once on an HTTP/3 stream and at most once over HTTP/2, and so at most once
    if no stream was opened for it; and a hop whose HTTP/3 attempt has failed, in
    whatever way, goes on to the fallback, where it can hand its whole body over
    again as soon as the HTTP/2 slot is free. -/
theorem delivered_once_each (altSvc : AltSvcCache) (jar : Jar) {s : State cl}
    (h : Reachable step (State.fresh cl altSvc jar) s) :
    (∀ ticket, deliveredCount s ticket .udp ≤ 1 ∧ deliveredCount s ticket .tcp ≤ 1) ∧
    ∀ t v stage, s.tasks t = .inHop v stage → H3Failed s v stage →
      step s (.task t .go) = some (s.after t (.inHop v .evictSend) []) ∧
      (s.holder (v.h2PoolKey cl) = none →
        ∃ s' conn, Alone t s s' ∧ s'.deliveries = s.deliveries ++ [h2Delivery v conn]) := by
  have hinv : DeliveryInv s := reachable_invariant step (deliveryInv_fresh altSvc jar)
    (fun _ _ _ hi hs => deliveryInv_step hi hs) h
  have hbuilt : BuiltInv s := reachable_invariant step
    (fun t v session htask => absurd htask (by
      simp only [State.fresh, reduceCtorEq, not_false_eq_true]))
    (fun _ _ _ hi hs => builtInv_step hi hs) h
  constructor
  · intro ticket
    rcases hinv.sentOnce ticket with ⟨session, _, hsum⟩
    exact ⟨by omega, hinv.transmittedOnce ticket⟩
  · intro t v stage htask hfail
    have hgo := failed_falls_back htask hfail
    refine ⟨hgo, fun hfree => ?_⟩
    -- It has been built where the attempt failed, or before it was sent.
    have hb : ∃ request, buildRequest v = .ok request := by
      cases stage with
      | send conn =>
          cases conn with
          | http2 => exact hfail.elim
          | http3 => exact hfail.1
      | awaitH3 session => exact hbuilt t v session htask
      | _ => exact hfail.elim
    rcases hb with ⟨request, hb⟩
    have hresend : CanDeliver t v (s.after t (.inHop v .evictSend) []) :=
      fallback_resends hb State.after_task hfree
    rcases hresend with ⟨s', conn, ⟨inputs, hrun⟩, hs'⟩
    refine ⟨s', conn, ⟨.go :: inputs, ?_⟩, hs'⟩
    rw [List.map_cons, run_cons, hgo]
    exact hrun

/-- The method and the ticket of a hop. -/
def Pc.sending? {c : UrlCrate} : Pc c → Option (String × Nat)
  | .inHop v _ => some (v.hop.currentMethod, v.ticket)
  | _ => none

theorem sending?_eq_some {c : UrlCrate} {pc : Pc c} {method : String} {ticket : Nat}
    (h : pc.sending? = some (method, ticket)) :
    ∃ v stage, pc = .inHop v stage ∧ v.hop.currentMethod = method ∧ v.ticket = ticket := by
  cases pc with
  | inHop v stage =>
      simp only [Pc.sending?, Option.some.injEq, Prod.mk.injEq] at h
      exact ⟨v, stage, rfl, h.1, h.2⟩
  | _ => exact absurd h (by simp only [Pc.sending?, reduceCtorEq, not_false_eq_true])

/-- A packet of an established connection, with the events it brings. -/
def packet (polled : List (StreamId × H3Event)) : Datagram where
  srcAddr := { ip := .v4 0xC0000201, port := 443 }
  established := true
  polled := polled

/-- A POST of two bytes to https://a.test/ goes out on a stream of a new
    session, body and all, and the peer resets the stream. -/
def postIsReset : List Action :=
  ([ .call "POST" "https://a.test/" (some [104, 105]) .navigate, .go, .go, .go, .go, .go, .go,
    .dial (.connected { ip := .v4 0xC0000201, port := 443 } none) ] : List Input).map (.task 0) ++
  [ .driver 0 (.datagram (packet [])), .task 0 .go, .driver 0 (.command (.ok 0) (.ok 2)),
    .driver 0 (.datagram (packet [(0, .reset 258)])) ]

/-- The hop falls back and sends it again. -/
def postIsResent : List Action :=
  ([ .go, .go, .go, .go, .dial (.connected { ip := .v4 0xC0000201, port := 443 } none),
    .transmit none ] : List Input).map (.task 0)

/-- Up to the reset, the body has gone out once. The attempt has failed, and the
    hop can send the body again. -/
theorem post_delivered_once :
    ∃ s v session, run step cachedA postIsReset = some s ∧
      s.tasks 0 = .inHop v (.awaitH3 session) ∧ H3Failed s v (.awaitH3 session) ∧
      (deliveredCount s 0 .udp ≤ 1 ∧ deliveredCount s 0 .tcp ≤ 1) ∧
      ∃ s' conn, Alone 0 s s' ∧ s'.deliveries = s.deliveries ++ [h2Delivery v conn] := by
  have hreset : ((run step cachedA postIsReset).bind (fun s =>
      (s.tasks 0).awaiting?.bind (fun w => (sessionReply s w.2 w.1.ticket).map
        (fun r => (r.isOk, s.holder (w.1.h2PoolKey direct)))))) = some (false, none) := by
    decide +kernel
  rcases Option.bind_eq_some_iff.mp hreset with ⟨s, hs, hwaits⟩
  rcases Option.bind_eq_some_iff.mp hwaits with ⟨⟨v, session⟩, hwait, hreplied⟩
  rcases Option.map_eq_some_iff.mp hreplied with ⟨r, hreply, hobs⟩
  rw [Prod.mk.injEq] at hobs
  have htask := awaiting?_eq_some hwait
  have hfail : H3Failed s v (.awaitH3 session) := by
    cases r with
    | error e => exact ⟨e, hreply⟩
    | ok resp => exact absurd hobs.1 Bool.noConfusion
  have honce := delivered_once_each _ () ⟨postIsReset, hs⟩
  exact ⟨s, v, session, hs, htask, hfail, honce.1 0, (honce.2 0 v _ htask hfail).2 hobs.2⟩

/-- After the fallback the same hop has been delivered twice, with its whole
    body both times. -/
theorem post_delivered_twice :
    ¬ ∀ s : State direct, Reachable step cachedA s → ∀ t v stage, s.tasks t = .inHop v stage →
      v.hop.currentMethod = "POST" →
        deliveredCount s v.ticket .udp + deliveredCount s v.ticket .tcp ≤ 1 := by
  intro hclaim
  have hend : (run step cachedA (postIsReset ++ postIsResent)).map
      (fun s => (s.deliveries, (s.tasks 0).sending?)) =
        some ([ { ticket := 0, transport := .udp, conn := 0, sent := [104, 105] },
          { ticket := 0, transport := .tcp, conn := 1, sent := [104, 105] } ],
          some ("POST", 0)) := by
    decide +kernel
  rcases Option.map_eq_some_iff.mp hend with ⟨s, hs, hobs⟩
  simp only [Prod.mk.injEq] at hobs
  rcases sending?_eq_some hobs.2 with ⟨v, stage, htask, hmethod, hticket⟩
  have hle := hclaim s ⟨_, hs⟩ 0 v stage htask hmethod
  rw [hticket, deliveredCount, deliveredCount, hobs.1] at hle
  exact absurd hle (by decide)

end Quik
