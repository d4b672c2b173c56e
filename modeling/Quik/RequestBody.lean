import Quik.Driver

/-!
# Request Bodies over HTTP/3

What becomes of a body the HTTP/3 layer does not take in one piece.

The driver offers a body once, when the stream is opened, and puts the request
into the pending table whatever the answer. No later turn of the loop touches
the stream again (`act_streams`), so a request that is pending with part of its
body unsent stays that way. Hence every pending request is covered in every
state of a run exactly if each body was taken whole when its stream was opened
(`bodies_covered_iff`).

## Main definitions

* `BodiesCovered`: Every pending body has been handed over, or still will be.
* `TakesWhole`: The HTTP/3 layer buffers the whole body at once.

## Theorems

* `handOver_complete_iff`: When opening a stream hands over everything.
* `act_streams`: A stream is written once.
* `bodies_covered_iff`: The condition for a whole run.
-/

namespace Quik

open Transition

namespace Driver

/-- Every pending request has its whole body and the end of its stream handed
    to the HTTP/3 layer, now or at the end of some run from here. -/
def BodiesCovered (d : Driver) : Prop :=
  ∀ streamId req, d.pendingRequests streamId = some req →
    ∃ as d' o, run act d as = some d' ∧ d'.streams streamId = some o ∧ o.Complete

/-- A turn that opens a stream for a command with a body finds room for all of
    it: `send_body` reports its full length. -/
def TakesWhole (d : Driver) : Action → Prop
  | .turn (.command (.ok _) sendBody) => ∀ cmd rest body, d.h3Conn = true →
      d.queue = cmd :: rest → cmd.body = some body → sendBody = .ok body.length
  | _ => True

/-- Every pending request has a stream. -/
def Tracked (d : Driver) : Prop :=
  ∀ streamId req, d.pendingRequests streamId = some req → (d.streams streamId).isSome = true

theorem handOver_request (cmd : SendRequest) (sendBody : Except String Nat) :
    (handOver cmd sendBody).request = cmd := by
  unfold handOver
  split <;> rfl

/-- Opening a stream hands over everything exactly if there is no body or the
    HTTP/3 layer takes all of it. -/
theorem handOver_complete_iff {cmd : SendRequest} {sendBody : Except String Nat} :
    (handOver cmd sendBody).Complete ↔
      ∀ body, cmd.body = some body → sendBody = .ok body.length := by
  rw [Outgoing.Complete, handOver_request]
  cases hb : cmd.body with
  | none =>
      refine ⟨fun _ body hc => absurd hc (by simp only [reduceCtorEq, not_false_eq_true]), ?_⟩
      intro _
      simp only [handOver, hb, Option.getD_none, and_self]
  | some body =>
      cases sendBody with
      | error e =>
          simp only [handOver, hb, Bool.false_eq_true, and_false, Option.some.injEq, false_iff,
            reduceCtorEq, imp_false, not_forall, not_not, exists_eq']
      | ok n =>
          simp only [handOver, hb, Option.getD_some, decide_eq_true_eq, Option.some.injEq,
            Except.ok.injEq, forall_eq']
          constructor
          · exact fun h => h.2
          · intro hn
            exact ⟨by rw [hn, List.take_length], hn⟩

/-- A stream is written when it is opened and never again. -/
theorem act_streams {d d' : Driver} {a : Action} (h : act d a = some d') {streamId : StreamId}
    {o : Outgoing} (ho : d.streams streamId = some o) : d'.streams streamId = some o := by
  cases a with
  | send cmd =>
      rw [(act_send_eq_some h).2.2]
      exact ho
  | turn e =>
      cases (step_eq_some h).2 with
      | datagram dg => rw [(receives_receive d dg).streams]; exact ho
      | opened sid sendBody _ _ hfresh _ =>
          -- A stream id is given out once.
          have hne : streamId ≠ sid := fun hc => by
            rw [hc, hfresh] at ho
            exact absurd ho (by simp only [reduceCtorEq, not_false_eq_true])
          exact (Function.update_of_ne hne _ _).trans ho
      | _ => exact ho

/-- Over a run too: what was not handed over at first never is. -/
theorem run_streams {d d' : Driver} {as : List Action} (hrun : run act d as = some d')
    {streamId : StreamId} {o : Outgoing} (ho : d.streams streamId = some o) :
    d'.streams streamId = some o :=
  run_invariant act (I := fun d => d.streams streamId = some o)
    (fun _ _ _ h hs => act_streams hs h) ho hrun

/-- What one action does to the pending table: it may only drop requests, or
    add the one it opened a stream for. -/
theorem act_pending {d d' : Driver} {a : Action} (h : act d a = some d') {streamId : StreamId}
    {req : PendingRequest} (hp : d'.pendingRequests streamId = some req) :
    (∃ req', d.pendingRequests streamId = some req') ∨
      ∃ cmd rest sendBody, a = .turn (.command (.ok streamId) sendBody) ∧ d.h3Conn = true ∧
        d.queue = cmd :: rest ∧ d'.streams streamId = some (handOver cmd sendBody) := by
  cases a with
  | send cmd =>
      rw [(act_send_eq_some h).2.2] at hp
      exact Or.inl ⟨req, hp⟩
  | turn e =>
      cases (step_eq_some h).2 with
      | closed => exact absurd hp (by simp only [exit, reduceCtorEq, not_false_eq_true])
      | early | rejected | socketError | timeout => exact Or.inl ⟨req, hp⟩
      -- Reading events only takes requests out.
      | datagram dg =>
          left
          cases hold : d.pendingRequests streamId with
          | some req' => exact ⟨req', rfl⟩
          | none =>
              rw [(receives_receive d dg).pending streamId hold] at hp
              exact absurd hp (by simp only [reduceCtorEq, not_false_eq_true])
      | @opened cmd rest sid sendBody hq hh _ _ =>
          by_cases hsid : streamId = sid
          · right
            rw [hsid]
            exact ⟨cmd, rest, sendBody, rfl, hh, hq, Function.update_self _ _ _⟩
          · left
            have hold : Function.update d.pendingRequests sid _ streamId = some req := hp
            rw [Function.update_of_ne hsid] at hold
            exact ⟨req, hold⟩

theorem tracked_act {d d' : Driver} {a : Action} (hd : Tracked d) (h : act d a = some d') :
    Tracked d' := by
  intro streamId req hp
  rcases act_pending h hp with ⟨req', hold⟩ | ⟨cmd, rest, sendBody, _, _, _, hs⟩
  · rcases Option.isSome_iff_exists.mp (hd streamId req' hold) with ⟨o, ho⟩
    rw [act_streams h ho, Option.isSome_some]
  · rw [hs, Option.isSome_some]

/-- Since a stream is written once, a pending body is covered exactly if it has
    been handed over already. -/
theorem bodiesCovered_iff {d : Driver} (hd : Tracked d) :
    BodiesCovered d ↔ ∀ streamId req, d.pendingRequests streamId = some req →
      ∃ o, d.streams streamId = some o ∧ o.Complete := by
  constructor
  · intro h streamId req hp
    rcases h streamId req hp with ⟨as, d', o', hrun, ho', hcomplete⟩
    rcases Option.isSome_iff_exists.mp (hd streamId req hp) with ⟨o, ho⟩
    rw [run_streams hrun ho, Option.some.injEq] at ho'
    exact ⟨o, ho, ho' ▸ hcomplete⟩
  · intro h streamId req hp
    rcases h streamId req hp with ⟨o, ho, hcomplete⟩
    exact ⟨[], d, o, rfl, ho, hcomplete⟩

/-- An action keeps the bodies covered exactly if it takes the body it offers
    whole. -/
theorem bodiesCovered_act {d d' : Driver} {a : Action} (hd : Tracked d) (hc : BodiesCovered d)
    (h : act d a = some d') : BodiesCovered d' ↔ TakesWhole d a := by
  rw [bodiesCovered_iff (tracked_act hd h)]
  constructor
  -- The request of the stream just opened is pending, so its body must be whole.
  · intro hall
    cases a with
    | send cmd => trivial
    | turn e =>
        cases e with
        | command opened sendBody =>
            cases opened with
            | error e => trivial
            | ok sid =>
                intro cmd rest body hh hq hb
                have hstep : step d (.command (.ok sid) sendBody) = some d' := h
                cases (step_eq_some hstep).2 with
                | early _ _ _ hh' => exact absurd (hh.symm.trans hh') (by decide)
                | @opened cmd' rest' _ _ hq' _ _ _ =>
                    have hcmd : cmd' = cmd := (List.cons.inj (hq'.symm.trans hq)).1
                    rcases hall sid _ (Function.update_self sid _ d.pendingRequests) with
                      ⟨o, ho, hcomplete⟩
                    have hhand : Function.update d.streams sid
                      (some (handOver cmd' sendBody)) sid = some o := ho
                    rw [Function.update_self, Option.some.injEq] at hhand
                    rw [← hhand, hcmd] at hcomplete
                    exact handOver_complete_iff.mp hcomplete body hb
        | _ => trivial
  -- A request that was pending stays covered; a new one takes its body with it.
  · intro hwhole streamId req hp
    rcases act_pending h hp with ⟨req', hold⟩ | ⟨cmd, rest, sendBody, ha, hh, hq, hs⟩
    · rcases (bodiesCovered_iff hd).mp hc streamId req' hold with ⟨o, ho, hcomplete⟩
      exact ⟨o, act_streams h ho, hcomplete⟩
    · rw [ha] at hwhole
      exact ⟨_, hs, handOver_complete_iff.mpr (fun body hb => hwhole cmd rest body hh hq hb)⟩

/-- In a run of a freshly dialed driver, no request is ever left pending with a
    part of its body that will not be sent, exactly if every stream that was
    opened for a body took it whole. -/
theorem bodies_covered_iff (addr : SocketAddr) (socketAddr : Option SocketAddr)
    {as : List Action} {d : Driver} (hrun : run act (dialed addr socketAddr) as = some d) :
    Always act BodiesCovered (dialed addr socketAddr) as ↔
      Every act TakesWhole (dialed addr socketAddr) as := by
  have hnone : ∀ streamId req, (dialed addr socketAddr).pendingRequests streamId ≠ some req := by
    intro streamId req
    simp only [dialed, ne_eq, reduceCtorEq, not_false_eq_true]
  have htracked : Tracked (dialed addr socketAddr) := fun streamId req hc =>
    absurd hc (hnone streamId req)
  have hcovered : BodiesCovered (dialed addr socketAddr) := fun streamId req hc =>
    absurd hc (hnone streamId req)
  exact always_iff_every act (fun _ _ _ => tracked_act) (fun _ _ _ => bodiesCovered_act) as _ d
    htracked hcovered hrun

/-- A handshake with the peer at 192.0.2.1, a POST of two bytes, and the turn
    that opens a stream for it and has `sendBody` taken. -/
def postTwoBytes (sendBody : Except String Nat) : List Action :=
  [ .turn (.datagram { srcAddr := { ip := .v4 0xC0000201, port := 443 }, established := true }),
    .send { headers := [], body := some [104, 105], url := "https://a.test/", responseTx := 0 },
    .turn (.command (.ok 0) sendBody) ]

/-- Both bytes taken at once. -/
theorem bodies_covered_whole :
    Always act BodiesCovered (dialed { ip := .v4 0xC0000201, port := 443 } none)
      (postTwoBytes (.ok 2)) := by
  have hrun : run act (dialed { ip := .v4 0xC0000201, port := 443 } none)
      (postTwoBytes (.ok 2)) = some _ := rfl
  rw [bodies_covered_iff { ip := .v4 0xC0000201, port := 443 } none hrun]
  refine ⟨trivial, fun d₁ h₁ => ⟨trivial, fun d₂ h₂ => ⟨?_, ?_⟩⟩⟩
  · intro cmd rest body _ hq hb
    rw [← Option.some.inj h₁] at h₂
    rw [← Option.some.inj h₂] at hq
    have hcmd := (List.cons.inj hq).1
    rw [← hcmd, Option.some.injEq] at hb
    rw [← hb]
    rfl
  · exact fun _ _ => trivial

/-- One byte taken: the other is gone, and the caller waits. -/
theorem body_truncated :
    ¬ Always act BodiesCovered (dialed { ip := .v4 0xC0000201, port := 443 } none)
      (postTwoBytes (.ok 1)) := by
  intro hall
  have htracked : ∀ d, run act (dialed { ip := .v4 0xC0000201, port := 443 } none)
      (postTwoBytes (.ok 1)) = some d → Tracked d := fun d hrun =>
    run_invariant act (fun _ _ _ => tracked_act) (fun streamId req hc => by
      simp only [dialed, reduceCtorEq] at hc) hrun
  rcases (bodiesCovered_iff (htracked _ rfl)).mp (hall (postTwoBytes (.ok 1)) _
    (List.prefix_refl _) rfl) 0 _ rfl with ⟨o, ho, _, hfin⟩
  rw [← Option.some.inj ho] at hfin
  exact absurd hfin (by decide)

end Driver

end Quik
