import Quik.Delivery
import Quik.Ledger

/-!
# The Requests a Client Sends

Every step that hands a request to a transport, with the request: the two
places where a hop sends, over a connection of the pool and over the fallback,
and the two transports. `sentBy_deliver` and `sentBy_command` tie the record to
what the step does.

The wire is the list of what has been sent. A hop has one ticket, and its
variables do not change between its first attempt and its last, so everything
sent under one ticket is one request (`wireInv_run`).

## Main definitions

* `Sent`, `sentBy`: A request as it is handed over, and the step that does it.
* `wire`: What a run has sent.
* `WireInv`: The requests on the wire against the hops that sent them.

## Theorems

* `sentBy_eq_some`: What is sent is what the hop builds.
* `wireInv_run`: The invariant of every run.
* `wire_same`: One ticket, one request.
-/

namespace Quik

open Transition

variable {Jar : Type} {cl : Client Jar}

/-- A request as it is handed to a transport. -/
structure Sent where
  task : Nat
  ticket : Nat
  url : Url
  transport : Transport
  request : Request
  body : Option Bytes

/-- The request of a hop, if it can be built. -/
def sending (t : Nat) (v : Vars cl.crates.url) (transport : Transport) : Option Sent :=
  match buildRequest v with
  | .ok request => some
    { task := t, ticket := v.ticket, url := v.parsedUrl, transport := transport,
      request := request, body := v.hop.currentBody }
  | .error _ => none

/-- The request a step hands to a transport. -/
def sentBy (s : State cl) : Action → Option Sent
  | .task t input =>
    match s.tasks t, input with
    | .inHop v (.send (.http2 _)), .transmit none => sending t v .tcp
    | .inHop v (.send (.http3 session)), .go =>
      match s.drivers session.id with
      | some d =>
        if d.exited = false ∧ d.queue.length < Driver.capacity then sending t v .udp else none
      | none => none
    | .inHop v (.midSend _), .transmit none => sending t v .tcp
    | _, _ => none
  | .driver _ _ => none

/-- What a run of a fresh client has sent. -/
def wire (cl : Client Jar) (altSvc : AltSvcCache) (jar : Jar) (as : List Action) : List Sent :=
  history step (fun w s a => w ++ (sentBy s a).toList) [] (State.fresh cl altSvc jar) as

/-- The places a hop sends from. -/
def Stage.sends : Stage → Bool
  | .send _ | .midSend _ => true
  | _ => false

/-- The request on the wire is what the hop builds. -/
structure Sent.Of (r : Sent) (t : Nat) (v : Vars cl.crates.url) : Prop where
  task : r.task = t
  ticket : r.ticket = v.ticket
  url : r.url = v.parsedUrl
  built : buildRequest v = .ok r.request
  body : r.body = v.hop.currentBody

theorem sending_eq_some {t : Nat} {v : Vars cl.crates.url} {transport : Transport} {r : Sent}
    (h : sending t v transport = some r) : r.Of t v ∧ r.transport = transport := by
  unfold sending at h
  split at h
  · rename_i request hb
    rw [← Option.some.inj h]
    exact ⟨⟨rfl, rfl, rfl, hb, rfl⟩, rfl⟩
  · exact absurd h (by simp only [reduceCtorEq, not_false_eq_true])

/-- What a step sends is what the hop of its task builds. -/
theorem sentBy_eq_some {s : State cl} {a : Action} {r : Sent} (h : sentBy s a = some r) :
    ∃ t input v stage, a = .task t input ∧ s.tasks t = .inHop v stage ∧ stage.sends = true ∧
      r.Of t v := by
  cases a with
  | driver session e => exact absurd h (by simp only [sentBy, reduceCtorEq, not_false_eq_true])
  | task t input =>
      simp only [sentBy] at h
      split at h
      · exact ⟨t, _, _, _, rfl, ‹_›, rfl, (sending_eq_some h).1⟩
      · split at h
        · split at h
          · exact ⟨t, _, _, _, rfl, ‹_›, rfl, (sending_eq_some h).1⟩
          · exact absurd h (by simp only [reduceCtorEq, not_false_eq_true])
        · exact absurd h (by simp only [reduceCtorEq, not_false_eq_true])
      · exact ⟨t, _, _, _, rfl, ‹_›, rfl, (sending_eq_some h).1⟩
      · exact absurd h (by simp only [reduceCtorEq, not_false_eq_true])

/-- What an effect hands to a transport is on the wire. -/
def Effect.Covered (e : Effect) (r? : Option Sent) : Prop :=
  match e with
  | .deliver d => ∃ r, r? = some r ∧ d.ticket = r.ticket ∧ d.transport = r.transport ∧
      d.sent = r.body.getD []
  | .command _ cmd => ∃ r, r? = some r ∧ r.transport = .udp ∧
      cmd = sessionCommand r.request r.body r.ticket
  | _ => True

theorem Effect.Silent.covered {e : Effect} (h : e.Silent) (r? : Option Sent) : e.Covered r? := by
  cases e with
  | command | deliver => exact h.elim
  | _ => trivial

/-- A step of a hop hands over what is on the wire and nothing else. -/
theorem sentBy_covers {s : State cl} {t : Nat} {v : Vars cl.crates.url} {stage : Stage}
    {input : Input} {pc : Pc cl.crates.url} {fx : List Effect}
    (htask : s.tasks t = .inHop v stage) (hm : StageMove s v stage input pc fx) :
    ∀ e ∈ fx, e.Covered (sentBy s (.task t input)) := by
  cases hm with
  | sendH2 conn request hb | midSend conn request hb =>
      intro e he
      rw [List.mem_singleton.mp he]
      simp only [sentBy, htask, sending, hb]
      exact ⟨_, rfl, rfl, rfl, rfl⟩
  | sendH3 session request d hb hd hlive hroom =>
      intro e he
      rw [List.mem_singleton.mp he]
      simp only [sentBy, htask, hd, hlive, hroom, sending, hb, and_self, if_true]
      exact ⟨_, rfl, rfl, rfl⟩
  | _ =>
      intro e he
      refine Effect.Silent.covered ?_ _
      revert e
      simp only [List.forall_mem_append, List.forall_mem_cons, List.not_mem_nil, false_implies,
        implies_true, Effect.Silent, and_true]
      try exact silent_dialEffects _ _

/-- The requests on the wire against the hops that sent them: their tickets
    have been given out; a hop that has sent something is past the stages where
    its variables are read, and would build the same request again. -/
structure WireInv (w : List Sent) (s : State cl) : Prop where
  ticket_lt : ∀ r ∈ w, r.ticket < s.nextTicket
  /-- What was sent under the ticket of a hop is what the hop builds. -/
  ofHop : ∀ r ∈ w, ∀ t v stage, s.tasks t = .inHop v stage → v.ticket = r.ticket →
    stage.unread = false ∧ r.Of t v
  /-- Two requests under one ticket are the same. -/
  same : ∀ r ∈ w, ∀ r' ∈ w, r.ticket = r'.ticket → r.request = r'.request ∧ r.body = r'.body

/-- A hop that sends again sends the same. -/
theorem Sent.Of.same {r r' : Sent} {t t' : Nat} {v : Vars cl.crates.url} (h : r.Of t v)
    (h' : r'.Of t' v) : r.request = r'.request ∧ r.body = r'.body :=
  ⟨Except.ok.inj (h.built.symm.trans h'.built), h.body.trans h'.body.symm⟩

/-- What a step sends is in line with everything sent before. -/
theorem wireInv_send {w : List Sent} {s : State cl} (hinv : WireInv w s) (hd : DeliveryInv s)
    (a : Action) : WireInv (w ++ (sentBy s a).toList) s := by
  cases hr : sentBy s a with
  | none => rwa [Option.toList_none, List.append_nil]
  | some r =>
      rcases sentBy_eq_some hr with ⟨t, input, v, stage, _, htask, hsends, hof⟩
      have hmem : ∀ {r'}, r' ∈ w ++ (some r).toList → r' ∈ w ∨ r' = r := by
        intro r' h
        rw [Option.toList_some, List.mem_append, List.mem_singleton] at h
        exact h
      -- What the hop sent before is the same request.
      have hsame : ∀ r' ∈ w, r'.ticket = r.ticket →
          r'.request = r.request ∧ r'.body = r.body := by
        intro r' hr' hticket
        have hof' := (hinv.ofHop r' hr' t v stage htask (hof.ticket ▸ hticket.symm)).2
        exact hof'.same hof
      constructor
      · intro r' h
        rcases hmem h with hin | rfl
        · exact hinv.ticket_lt r' hin
        · rw [hof.ticket]
          exact hd.ticket_lt t v stage htask
      · intro r' h t' v' stage' htask' hticket
        rcases hmem h with hin | rfl
        · exact hinv.ofHop r' hin t' v' stage' htask' hticket
        · -- One ticket, one task.
          have ht := hd.distinct t' t v' v stage' stage htask' htask (hticket.trans hof.ticket)
          rw [ht, htask, Pc.inHop.injEq] at htask'
          rw [ht, ← htask'.1, ← htask'.2]
          refine ⟨?_, hof⟩
          cases stage <;> first | rfl | exact absurd hsends Bool.false_ne_true
      · intro r₁ h₁ r₂ h₂ hticket
        rcases hmem h₁ with hin₁ | rfl <;> rcases hmem h₂ with hin₂ | rfl
        · exact hinv.same r₁ hin₁ r₂ hin₂ hticket
        · exact hsame r₁ hin₁ hticket
        · exact ⟨(hsame r₂ hin₂ hticket.symm).1.symm, (hsame r₂ hin₂ hticket.symm).2.symm⟩
        · exact ⟨rfl, rfl⟩

theorem apply_nextTicket_le (t : Nat) (s : State cl) (e : Effect) :
    s.nextTicket ≤ (s.apply t e).nextTicket := by
  cases e with
  | ticket => exact Nat.le_succ _
  | _ => exact Nat.le_refl _

theorem nextTicket_le {s s' : State cl} {a : Action} (h : step s a = some s') :
    s.nextTicket ≤ s'.nextTicket := by
  cases a with
  | driver session e =>
      rcases step_driver_eq_some h with ⟨d, d', _, _, rfl⟩
      exact Nat.le_refl _
  | task t input =>
      rcases step_task_eq_some h with ⟨pc, fx, _, rfl⟩
      exact List.foldlRecOn fx (State.apply t)
        (motive := fun s' : State cl => s.nextTicket ≤ s'.nextTicket) (Nat.le_refl _)
        (fun s' hle e _ => hle.trans (apply_nextTicket_le t s' e))

/-- A step leaves what has been sent in line with the hops. -/
theorem wireInv_move {w : List Sent} {s s' : State cl} {a : Action} (hinv : WireInv w s)
    (h : step s a = some s') : WireInv w s' := by
  refine ⟨fun r hr => (hinv.ticket_lt r hr).trans_le (nextTicket_le h), ?_, hinv.same⟩
  intro r hr t' v' stage' htask' hticket
  cases a with
  | driver session e =>
      rcases step_driver_eq_some h with ⟨d, d', _, _, rfl⟩
      exact hinv.ofHop r hr t' v' stage' htask' hticket
  | task t input =>
      rcases step_task_eq_some h with ⟨pc, fx, hm, rfl⟩
      rcases State.after_tasks_eq htask' with ⟨rfl, rfl⟩ | ⟨_, hold⟩
      · generalize htask : s.tasks t' = pc₀ at hm
        cases hm with
        -- The ticket of a new hop has not been sent under.
        | enter _ hnew _ =>
            exact absurd (hinv.ticket_lt r hr) (by rw [← hticket, hnew]; exact Nat.lt_irrefl _)
        | @stage v stage _ _ _ hm =>
            have hkeep := move_keeps hm
            rcases hinv.ofHop r hr t' v stage htask (hkeep.1 ▸ hticket) with ⟨hread, hof⟩
            rcases hkeep.2 hread with ⟨rfl, hread'⟩
            exact ⟨hread', hof⟩
      · exact hinv.ofHop r hr t' v' stage' hold hticket

/-- At the end of every run. -/
theorem wireInv_run (altSvc : AltSvcCache) (jar : Jar) {as : List Action} {s : State cl}
    (hrun : run step (State.fresh cl altSvc jar) as = some s) :
    WireInv (wire cl altSvc jar as) s := by
  refine (history_invariant step (J := fun w s => WireInv w s ∧ DeliveryInv s)
    (fun w s a s' hJ hs => ⟨wireInv_move (wireInv_send hJ.1 hJ.2 a) hs,
      deliveryInv_step hJ.2 hs⟩) ⟨⟨?_, ?_, ?_⟩, deliveryInv_fresh altSvc jar⟩ hrun).1
  · exact fun r hr => absurd hr List.not_mem_nil
  · exact fun r hr => absurd hr List.not_mem_nil
  · exact fun r hr => absurd hr List.not_mem_nil

/-- Whatever is sent under one ticket, over either transport, is one request
    with one body. -/
theorem wire_same (altSvc : AltSvcCache) (jar : Jar) {as : List Action} {s : State cl}
    (hrun : run step (State.fresh cl altSvc jar) as = some s) {a : Action} {r : Sent}
    (hsent : sentBy s a = some r) {r' : Sent} (hr' : r' ∈ wire cl altSvc jar as)
    (hticket : r'.ticket = r.ticket) : r'.request = r.request ∧ r'.body = r.body := by
  have hdelivery : DeliveryInv s := reachable_invariant step (deliveryInv_fresh altSvc jar)
    (fun _ _ _ hi hs => deliveryInv_step hi hs) ⟨as, hrun⟩
  have hinv := wireInv_send (wireInv_run altSvc jar hrun) hdelivery a
  rw [hsent, Option.toList_some] at hinv
  exact hinv.same r' (List.mem_append_left _ hr') r
    (List.mem_append_right _ (List.mem_singleton_self r)) hticket

end Quik
