import Quik.CallBound

/-!
# In What Order a Hop Is Tried

The attempts of a hop, read off the wire: the transports its request has been
handed to, in order. A hop that is routed to HTTP/3 tries its session first and
an HTTP/2 connection after that, a hop that is not tries HTTP/2 at once, and
neither tries a transport twice. The invariant says for each stage what may have
been tried before it.

## Main definitions

* `attempts`: The transports a hop has been handed to.
* `AttemptInv`: The attempts of a hop against its stage.

## Theorems

* `move_attempt`: A move that hands a request over.
* `attemptInv_step`: One step of the client.
* `attempts_in_order`: HTTP/3 before HTTP/2, and each once.
-/

namespace Quik

open Transition

variable {Jar : Type} {cl : Client Jar}

/-- The transports a hop has been handed to, in order. -/
def attempts (w : List Sent) (ticket : Nat) : List Transport :=
  (w.filter (fun r => r.ticket = ticket)).map Sent.transport

theorem attempts_append (w : List Sent) (r : Sent) (ticket : Nat) :
    attempts (w ++ [r]) ticket =
      attempts w ticket ++ if r.ticket = ticket then [r.transport] else [] := by
  rw [attempts, List.filter_append, List.map_append, attempts]
  by_cases h : r.ticket = ticket
  · simp only [h, if_true, List.filter_cons, decide_true, List.filter_nil, List.map_cons,
      List.map_nil]
  · simp only [h, if_false, List.filter_cons, decide_false, Bool.false_eq_true, List.filter_nil,
      List.map_nil]

/-- A move that hands the request over does so to the session it then waits for,
    or to an HTTP/2 connection for the last time. -/
theorem move_attempt {s : State cl} {t : Nat} {v : Vars cl.crates.url} {stage : Stage}
    {input : Input} {pc : Pc cl.crates.url} {fx : List Effect} {r : Sent}
    (htask : s.tasks t = .inHop v stage) (hm : StageMove s v stage input pc fx)
    (hr : sentBy s (.task t input) = some r) :
    r.ticket = v.ticket ∧
      (r.transport = .udp ∧ stage.mayCommand = true ∧
          (∃ session, pc = .inHop v (.awaitH3 session)) ∨
        r.transport = .tcp ∧ stage.mayTransmit = true ∧ ∀ v' stage', pc = .inHop v' stage' →
          stage'.mayTransmit = false) := by
  have hof : r.Of t v := by
    rcases sentBy_eq_some hr with ⟨_, _, v', stage', heq, htask', _, hof⟩
    cases heq
    rw [htask] at htask'
    cases htask'
    exact hof
  refine ⟨hof.ticket, ?_⟩
  cases hm with
  | sendH2 conn request hb | midSend conn request hb =>
      simp only [sentBy, htask] at hr
      refine Or.inr ⟨(sending_eq_some hr).2, rfl, fun v' stage' hpc => ?_⟩
      cases hpc
      rfl
  | sendH3 session request d hb hd hlive hroom =>
      simp only [sentBy, htask, hd, hlive, hroom, and_self, if_true] at hr
      exact Or.inl ⟨(sending_eq_some hr).2, rfl, session, rfl⟩
  | sendUnbuilt _ _ _ hb | midSendUnbuilt _ _ _ hb =>
      exact absurd (hof.built.symm.trans hb) (by simp only [reduceCtorEq, not_false_eq_true])
  | sendH3Closed session request d hb hd hexit =>
      simp only [sentBy, htask, hd, hexit, Bool.true_eq_false, false_and, if_false,
        reduceCtorEq] at hr
  | _ => simp only [sentBy, htask, reduceCtorEq] at hr

/-- The attempts of a hop against its stage: none while it may still try HTTP/3,
    and at most that one while it may still try HTTP/2. -/
structure AttemptInv (w : List Sent) (s : State cl) : Prop where
  order : ∀ ticket, List.Sublist (attempts w ticket) [.udp, .tcp]
  future : ∀ ticket, s.nextTicket ≤ ticket → attempts w ticket = []
  none : ∀ t v stage, s.tasks t = .inHop v stage → stage.mayCommand = true →
    attempts w v.ticket = []
  first : ∀ t v stage, s.tasks t = .inHop v stage → stage.mayTransmit = true →
    List.Sublist (attempts w v.ticket) [.udp]

/-- A step that hands nothing over, and after which no hop may try more than
    before. -/
theorem attemptInv_quiet {w : List Sent} {s s' : State cl} (hi : AttemptInv w s)
    (hnext : s.nextTicket ≤ s'.nextTicket)
    (htasks : ∀ t v' stage', s'.tasks t = .inHop v' stage' → s.nextTicket ≤ v'.ticket ∨
      ∃ v stage, s.tasks t = .inHop v stage ∧ v'.ticket = v.ticket ∧
        (stage'.mayCommand = true → stage.mayCommand = true) ∧
        (stage'.mayTransmit = true → stage.mayTransmit = true)) : AttemptInv w s' := by
  refine ⟨hi.order, fun ticket hle => hi.future ticket (hnext.trans hle), ?_, ?_⟩
  · intro t v' stage' ht hmay
    rcases htasks t v' stage' ht with hnew | ⟨v, stage, hold, hticket, hcommand, _⟩
    · exact hi.future v'.ticket hnew
    · rw [hticket]
      exact hi.none t v stage hold (hcommand hmay)
  · intro t v' stage' ht hmay
    rcases htasks t v' stage' ht with hnew | ⟨v, stage, hold, hticket, _, htransmit⟩
    · rw [hi.future v'.ticket hnew]
      exact List.nil_sublist _
    · rw [hticket]
      exact hi.first t v stage hold (htransmit hmay)

/-- A move of a hop that hands its request over. -/
theorem attemptInv_send {w : List Sent} {s : State cl} (hi : AttemptInv w s) (hd : DeliveryInv s)
    {t : Nat} {v : Vars cl.crates.url} {stage : Stage} {input : Input} {pc : Pc cl.crates.url}
    {fx : List Effect} (htask : s.tasks t = .inHop v stage) (hm : StageMove s v stage input pc fx)
    {r : Sent} (hr : sentBy s (.task t input) = some r) :
    AttemptInv (w ++ [r]) (s.after t pc fx) := by
  rcases move_attempt htask hm hr with ⟨hticket, hkind⟩
  have hlt := hd.ticket_lt t v stage htask
  have hnext : (s.after t pc fx).nextTicket = s.nextTicket := by
    have h := foldl_apply_nextTicket t s fx
    rwa [move_tickets hm, Nat.add_zero] at h
  -- The other hops have other tickets.
  have hother : ∀ ticket, ticket ≠ v.ticket → attempts (w ++ [r]) ticket = attempts w ticket := by
    intro ticket hne
    rw [attempts_append, if_neg (fun hc => hne (hc.symm.trans hticket)), List.append_nil]
  have hforeign : ∀ t' v' stage', t' ≠ t → s.tasks t' = .inHop v' stage' →
      v'.ticket ≠ v.ticket := fun t' v' stage' hne ht' hc =>
    hne (hd.distinct t' t v' v stage' stage ht' htask hc)
  have hown : attempts (w ++ [r]) v.ticket = attempts w v.ticket ++ [r.transport] := by
    rw [attempts_append, if_pos hticket]
  have hafter : List.Sublist (attempts (w ++ [r]) v.ticket) [.udp, .tcp] ∧
      ∀ v' stage', pc = .inHop v' stage' → stage'.mayCommand = false ∧
        (stage'.mayTransmit = true → v'.ticket = v.ticket ∧
          List.Sublist (attempts (w ++ [r]) v.ticket) [.udp]) := by
    rcases hkind with ⟨hudp, hmay, session, rfl⟩ | ⟨htcp, hmay, hlast⟩
    · rw [hown, hi.none t v stage htask hmay, hudp]
      refine ⟨List.sublist_append_left [Transport.udp] [Transport.tcp], fun v' stage' hpc => ?_⟩
      cases hpc
      exact ⟨rfl, fun _ => ⟨rfl, List.Sublist.refl _⟩⟩
    · rw [hown, htcp]
      refine ⟨(hi.first t v stage htask hmay).append (List.Sublist.refl [Transport.tcp]), ?_⟩
      intro v' stage' hpc
      have hno := hlast v' stage' hpc
      refine ⟨Bool.eq_false_iff.mpr (fun hc => ?_), fun hc => ?_⟩
      · rw [Stage.mayTransmit_of_mayCommand hc] at hno
        exact Bool.noConfusion hno
      · rw [hno] at hc
        exact Bool.noConfusion hc
  constructor
  · intro ticket
    by_cases heq : ticket = v.ticket
    · rw [heq]
      exact hafter.1
    · rw [hother ticket heq]
      exact hi.order ticket
  · intro ticket hle
    rw [hnext] at hle
    rw [hother ticket (by omega)]
    exact hi.future ticket hle
  · intro t' v' stage' ht' hmay
    rcases State.after_tasks_eq ht' with ⟨_, hpc⟩ | ⟨hne, hsame⟩
    · rw [(hafter.2 v' stage' hpc).1] at hmay
      exact Bool.noConfusion hmay
    · rw [hother _ (hforeign t' v' stage' hne hsame)]
      exact hi.none t' v' stage' hsame hmay
  · intro t' v' stage' ht' hmay
    rcases State.after_tasks_eq ht' with ⟨_, hpc⟩ | ⟨hne, hsame⟩
    · rcases (hafter.2 v' stage' hpc).2 hmay with ⟨hsameTicket, hle⟩
      rw [hsameTicket]
      exact hle
    · rw [hother _ (hforeign t' v' stage' hne hsame)]
      exact hi.first t' v' stage' hsame hmay

/-- Every step keeps the attempts in line with the stages. -/
theorem attemptInv_step {w : List Sent} {s s' : State cl} {a : Action} (hi : AttemptInv w s)
    (hd : DeliveryInv s) (h : step s a = some s') :
    AttemptInv (w ++ (sentBy s a).toList) s' := by
  have hnext := nextTicket_le h
  cases a with
  | driver session e =>
      rcases step_driver_eq_some h with ⟨d, d', _, _, rfl⟩
      rw [show sentBy s (.driver session e) = none from rfl, Option.toList_none, List.append_nil]
      exact attemptInv_quiet hi (Nat.le_refl _)
        (fun t v' stage' ht => Or.inr ⟨v', stage', ht, rfl, id, id⟩)
  | task t input =>
      rcases step_task_eq_some h with ⟨pc, fx, hm, rfl⟩
      generalize htask : s.tasks t = pc₀ at hm
      cases hr : sentBy s (.task t input) with
      | some r =>
          rcases sentBy_eq_some hr with ⟨_, _, v, stage, heq, htask', _, _⟩
          cases heq
          rw [htask] at htask'
          cases htask'
          cases hm with
          | stage hm => exact attemptInv_send hi hd htask hm hr
      | none =>
          rw [Option.toList_none, List.append_nil]
          refine attemptInv_quiet hi hnext (fun t' v' stage' ht' => ?_)
          rcases State.after_tasks_eq ht' with ⟨rfl, hpc⟩ | ⟨_, hsame⟩
          · cases hm with
            | call | refuse => cases hpc
            | enter v hticket =>
                cases hpc
                exact Or.inl hticket.ge
            | @stage v stage _ _ _ hm =>
                right
                have hcovers := sentBy_covers htask hm
                rw [hr] at hcovers
                -- What hands something over is on the wire, and nothing is.
                rcases move_sends hm with ⟨session, cmd, _, rfl, _⟩ | ⟨d, rfl, _⟩ | ⟨_, hkeep⟩
                · rcases hcovers _ (List.mem_singleton_self _) with ⟨_, hc, _⟩
                  cases hc
                · rcases hcovers _ (List.mem_singleton_self _) with ⟨_, hc, _⟩
                  cases hc
                · rcases hkeep v' stage' hpc with ⟨hticket, hcommand, htransmit⟩
                  exact ⟨v, stage, htask, hticket, hcommand, htransmit⟩
          · exact Or.inr ⟨v', stage', hsame, rfl, id, id⟩

/-- In every run a hop is handed over at most once to an HTTP/3 session and after
    that at most once to an HTTP/2 connection. -/
theorem attempts_in_order (altSvc : AltSvcCache) (jar : Jar) {as : List Action} {s : State cl}
    (hrun : run step (State.fresh cl altSvc jar) as = some s) (ticket : Nat) :
    List.Sublist (attempts (wire cl altSvc jar as) ticket) [.udp, .tcp] := by
  have hfresh : AttemptInv [] (State.fresh cl altSvc jar) := by
    refine ⟨fun _ => List.nil_sublist _, fun _ _ => rfl, ?_, ?_⟩
    · intro t v stage h
      cases h
    · intro t v stage h
      cases h
  exact (history_invariant step (J := fun w s => AttemptInv w s ∧ DeliveryInv s)
    (fun w s a s' hJ hs => ⟨attemptInv_step hJ.1 hJ.2 hs, deliveryInv_step hJ.2 hs⟩)
    ⟨hfresh, deliveryInv_fresh altSvc jar⟩ hrun).1.order ticket

/-- A session takes a request and ends; the hop goes on over HTTP/2. -/
def triesBoth : List Action :=
  ([ .call "GET" "https://a.test/" none .navigate, .go, .go, .go, .go, .go, .go,
    .dial (.connected { ip := .v4 0xC0000201, port := 443 } none), .go ] : List Input).map
      (.task 0) ++
  [ .driver 0 .closed ] ++
  ([ .go, .go, .go, .go, .dial (.connected { ip := .v4 0xC0000201, port := 443 } none),
    .transmit none ] : List Input).map (.task 0)

theorem attempts_in_order_triesBoth :
    attempts (wire direct (AltSvcCache.new.insert "a.test:443" "h3=\":443\"") () triesBoth) 0 =
      [.udp, .tcp] ∧
    List.Sublist (attempts (wire direct (AltSvcCache.new.insert "a.test:443" "h3=\":443\"") ()
      triesBoth) 0) [.udp, .tcp] := by
  have hrun : (run step cachedA triesBoth).isSome = true := by decide +kernel
  rcases Option.isSome_iff_exists.mp hrun with ⟨s, hs⟩
  exact ⟨by decide +kernel, attempts_in_order _ () hs 0⟩

end Quik
