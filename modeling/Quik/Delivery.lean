import Quik.ClientMoves

/-!
# How Often a Body Is Handed Over

A hop has one ticket, and puts at most one command with it into a channel; a
command opens at most one stream; and the hop makes at most one attempt over
HTTP/2. The invariant is a budget: a stage that may still send over a transport
has sent nothing over it yet.

## Main definitions

* `deliveredCount`: How often a hop was handed to a transport.
* `queuedAt`: Its commands in the channel of a session.
* `Stage.mayCommand`, `Stage.mayTransmit`: What a stage may still send.
* `DeliveryInv`: The budget.

## Theorems

* `move_sends`: A move sends once, or not at all.
* `deliveryInv_hop`: A move of one hop concerns that hop's ticket.
* `deliveryInv_step`: The budget is kept.
-/

namespace Quik

open Transition

variable {Jar : Type} {cl : Client Jar}

/-- How often the hop with this ticket was handed to a transport. -/
def deliveredCount (s : State cl) (ticket : Nat) (transport : Transport) : Nat :=
  s.deliveries.countP (fun d => d.ticket = ticket ∧ d.transport = transport)

/-- How many of its commands wait in the channel of a session. -/
def queuedAt (s : State cl) (ticket session : Nat) : Nat :=
  match s.drivers session with
  | some d => d.queue.countP (fun cmd => cmd.responseTx = ticket)
  | none => 0

/-- Stages from which a command may still be sent. -/
def Stage.mayCommand : Stage → Bool
  | .cookies | .hints | .slotLookup | .lockClone | .ready _ | .lockClear _ | .lockDial | .dial
  | .evictDial | .fallbackLookup | .fallbackLock | .fallbackDial | .send _ => true
  | _ => false

/-- Stages from which the request may still be sent over HTTP/2. -/
def Stage.mayTransmit : Stage → Bool
  | .awaitH3 _ | .evictSend | .midLookup | .midLock | .midReady _ | .midDial | .midSend _ => true
  | stage => stage.mayCommand

/-- A hop of which nothing has reached an HTTP/3 session. -/
structure Unsent (s : State cl) (ticket : Nat) : Prop where
  queued : ∀ session, queuedAt s ticket session = 0
  opened : deliveredCount s ticket .udp = 0

/-- A hop with at most one command in a channel or on a stream. -/
def SentOnce (s : State cl) (ticket : Nat) : Prop :=
  ∃ session, (∀ other, other ≠ session → queuedAt s ticket other = 0) ∧
    queuedAt s ticket session + deliveredCount s ticket .udp ≤ 1

theorem Unsent.sentOnce {s : State cl} {ticket : Nat} (h : Unsent s ticket) :
    SentOnce s ticket :=
  ⟨0, fun other _ => h.queued other, by rw [h.queued, h.opened]; exact Nat.zero_le 1⟩

/-- A step that takes commands out of channels, and opens streams only for
    commands it takes out. -/
structure Drains (s s' : State cl) (ticket : Nat) : Prop where
  le : ∀ session, queuedAt s' ticket session ≤ queuedAt s ticket session
  opened : deliveredCount s' ticket .udp = deliveredCount s ticket .udp ∨
    ∃ session, 0 < queuedAt s ticket session ∧
      queuedAt s' ticket session + deliveredCount s' ticket .udp ≤
        queuedAt s ticket session + deliveredCount s ticket .udp

theorem Unsent.drains {s s' : State cl} {ticket : Nat} (h : Unsent s ticket)
    (hd : Drains s s' ticket) : Unsent s' ticket := by
  refine ⟨fun session => Nat.le_zero.mp ((hd.le session).trans_eq (h.queued session)), ?_⟩
  rcases hd.opened with heq | ⟨session, hpos, _⟩
  · exact heq.trans h.opened
  · exact absurd hpos (by rw [h.queued]; exact Nat.lt_irrefl 0)

theorem SentOnce.drains {s s' : State cl} {ticket : Nat} (h : SentOnce s ticket)
    (hd : Drains s s' ticket) : SentOnce s' ticket := by
  rcases h with ⟨session, hother, hsum⟩
  refine ⟨session, fun other hne =>
    Nat.le_zero.mp ((hd.le other).trans_eq (hother other hne)), ?_⟩
  rcases hd.opened with heq | ⟨session', hpos, hle⟩
  · rw [heq]
    exact (Nat.add_le_add_right (hd.le session) _).trans hsum
  · have hsession : session' = session := by
      by_contra hne
      rw [hother session' hne] at hpos
      exact Nat.lt_irrefl 0 hpos
    exact hsession ▸ hle.trans (hsession ▸ hsum)

/-- The budget. -/
structure DeliveryInv (s : State cl) : Prop where
  /-- Tickets are given out once. -/
  ticket_lt : ∀ t v stage, s.tasks t = .inHop v stage → v.ticket < s.nextTicket
  distinct : ∀ t t' v v' stage stage', s.tasks t = .inHop v stage →
    s.tasks t' = .inHop v' stage' → v.ticket = v'.ticket → t = t'
  future : ∀ ticket, s.nextTicket ≤ ticket →
    Unsent s ticket ∧ deliveredCount s ticket .tcp = 0
  sentOnce : ∀ ticket, SentOnce s ticket
  transmittedOnce : ∀ ticket, deliveredCount s ticket .tcp ≤ 1
  /-- A stage that may still send has not sent yet. -/
  unsent : ∀ t v stage, s.tasks t = .inHop v stage → stage.mayCommand = true →
    Unsent s v.ticket
  untransmitted : ∀ t v stage, s.tasks t = .inHop v stage → stage.mayTransmit = true →
    deliveredCount s v.ticket .tcp = 0

/-- An effect that sends nothing. A driver that comes with it is a new one. -/
def Effect.Silent : Effect → Prop
  | .command _ _ | .deliver _ | .ticket => False
  | .connection (some d) => d.queue = []
  | _ => True

theorem silent_dialEffects (dialH3 : Bool) (outcome : DialOutcome) :
    ∀ e ∈ dialEffects cl dialH3 outcome, e.Silent := by
  refine forall_mem_dialEffects (fun _ => trivial) (fun addr localAddr => ?_) outcome
  cases dialH3 with
  | false => trivial
  | true => rfl

theorem afterMidLock_mayCommand (c? : Option PooledConnection) :
    (afterMidLock c?).mayCommand = false := by
  rcases c? with _ | conn | session <;> rfl

theorem Stage.mayTransmit_of_mayCommand {stage : Stage} (h : stage.mayCommand = true) :
    stage.mayTransmit = true := by
  cases stage <;> first
    | rfl
    | exact absurd h Bool.false_ne_true

/-- A move sends a command, transmits over HTTP/2, or sends nothing. Whatever
    it could still send after it, it could send before. -/
theorem move_sends {s : State cl} {v : Vars cl.crates.url} {stage : Stage} {input : Input}
    {pc : Pc cl.crates.url} {fx : List Effect} (hm : StageMove s v stage input pc fx) :
    (∃ session cmd handle, fx = [.command session cmd] ∧ cmd.responseTx = v.ticket ∧
        stage.mayCommand = true ∧ pc = .inHop v (.awaitH3 handle)) ∨
      (∃ d, fx = [.deliver d] ∧ d.ticket = v.ticket ∧ d.transport = .tcp ∧
        stage.mayTransmit = true ∧ ∀ v' stage', pc = .inHop v' stage' →
          v'.ticket = v.ticket ∧ stage'.mayTransmit = false ∧ stage'.mayCommand = false) ∨
      ((∀ e ∈ fx, e.Silent) ∧ ∀ v' stage', pc = .inHop v' stage' → v'.ticket = v.ticket ∧
        (stage'.mayCommand = true → stage.mayCommand = true) ∧
        (stage'.mayTransmit = true → stage.mayTransmit = true)) := by
  cases hm with
  | sendH3 session =>
      exact Or.inl ⟨_, _, session, rfl, rfl, rfl, rfl⟩
  | sendH2 | midSend =>
      refine Or.inr (Or.inl ⟨_, rfl, rfl, rfl, rfl, fun v' stage' hpc => ?_⟩)
      cases hpc
      exact ⟨rfl, rfl, rfl⟩
  -- What the slot holds decides the stage, and neither may command a session.
  | midLock =>
      refine Or.inr (Or.inr ⟨by simp only [List.forall_mem_singleton, Effect.Silent], ?_⟩)
      intro v' stage' hpc
      cases hpc
      refine ⟨rfl, fun h => ?_, fun _ => rfl⟩
      rw [afterMidLock_mayCommand] at h
      exact absurd h Bool.false_ne_true
  | _ =>
      refine Or.inr (Or.inr ⟨?_, fun v' stage' hpc => ?_⟩)
      · simp only [List.forall_mem_append, List.forall_mem_cons, List.not_mem_nil, false_implies,
          implies_true, Effect.Silent, and_true]
        try exact silent_dialEffects _ _
      · first
        | (cases hpc; exact ⟨rfl, fun _ => rfl, fun _ => rfl⟩)
        | (cases hpc; exact ⟨rfl, fun h => absurd h Bool.false_ne_true, fun _ => rfl⟩)
        | (cases hpc; exact ⟨rfl, fun h => absurd h Bool.false_ne_true,
            fun h => absurd h Bool.false_ne_true⟩)
        | cases hpc

theorem deliveredCount_append (s : State cl) {s' : State cl} (ds : List Delivery)
    (h : s'.deliveries = s.deliveries ++ ds) (ticket : Nat) (transport : Transport) :
    deliveredCount s' ticket transport = deliveredCount s ticket transport +
      ds.countP (fun d => d.ticket = ticket ∧ d.transport = transport) := by
  rw [deliveredCount, h, List.countP_append, deliveredCount]

theorem queuedAt_of_drivers {s s' : State cl} (h : s'.drivers = s.drivers) (ticket session : Nat) :
    queuedAt s' ticket session = queuedAt s ticket session := by
  rw [queuedAt, queuedAt, h]

section Silent

variable (s : State cl) (t : Nat) (pc : Pc cl.crates.url) {fx : List Effect}

theorem queuedAt_apply_le {e : Effect} (h : e.Silent) (ticket session : Nat) :
    queuedAt (s.apply t e) ticket session ≤ queuedAt s ticket session := by
  cases e with
  | connection driver =>
      unfold queuedAt State.apply
      by_cases hs : session = s.nextConn
      · simp only [hs, Function.update_self]
        cases driver with
        | none => exact Nat.zero_le _
        | some d =>
            have hq : d.queue = [] := h
            simp only [hq, List.countP_nil]
            exact Nat.zero_le _
      · simp only [Function.update_of_ne hs]
        exact Nat.le_refl _
  | command | deliver | ticket => exact h.elim
  | _ => exact Nat.le_refl _

theorem queuedAt_after_le (h : ∀ e ∈ fx, e.Silent) (ticket session : Nat) :
    queuedAt (s.after t pc fx) ticket session ≤ queuedAt s ticket session :=
  List.foldlRecOn fx (State.apply t)
    (motive := fun s' : State cl => queuedAt s' ticket session ≤ queuedAt s ticket session)
    (Nat.le_refl _) (fun s' hle e he =>
      (queuedAt_apply_le s' t (h e he) ticket session).trans hle)

theorem deliveriesOf_silent (h : ∀ e ∈ fx, e.Silent) : deliveriesOf fx = [] := by
  rw [deliveriesOf, List.filterMap_eq_nil_iff]
  intro e he
  cases e with
  | deliver d => exact (h _ he).elim
  | _ => rfl

theorem deliveries_after (h : ∀ e ∈ fx, e.Silent) :
    (s.after t pc fx).deliveries = s.deliveries := by
  have heq : (s.after t pc fx).deliveries = s.deliveries ++ deliveriesOf fx :=
    foldl_apply_deliveries t s fx
  rw [heq, deliveriesOf_silent h, List.append_nil]

theorem nextTicket_after (h : ∀ e ∈ fx, e.Silent) :
    (s.after t pc fx).nextTicket = s.nextTicket :=
  List.foldlRecOn fx (State.apply t)
    (motive := fun s' : State cl => s'.nextTicket = s.nextTicket) rfl (fun s' heq e he => by
      cases e with
      | ticket => exact (h _ he).elim
      | _ => exact heq)

theorem drains_after (h : ∀ e ∈ fx, e.Silent) (ticket : Nat) :
    Drains s (s.after t pc fx) ticket := by
  refine ⟨queuedAt_after_le s t pc h ticket, Or.inl ?_⟩
  rw [deliveredCount, deliveries_after s t pc h, deliveredCount]

end Silent

/-- A step that only drains, and after which no task may send more than before,
    keeps the budget. -/
theorem deliveryInv_drains {s s' : State cl} (hinv : DeliveryInv s)
    (hd : ∀ ticket, Drains s s' ticket)
    (htcp : ∀ ticket, deliveredCount s' ticket .tcp = deliveredCount s ticket .tcp)
    (hnext : s'.nextTicket = s.nextTicket)
    (htasks : ∀ t v' stage', s'.tasks t = .inHop v' stage' →
      ∃ v stage, s.tasks t = .inHop v stage ∧ v'.ticket = v.ticket ∧
        (stage'.mayCommand = true → stage.mayCommand = true) ∧
        (stage'.mayTransmit = true → stage.mayTransmit = true)) : DeliveryInv s' := by
  -- `distinct` and `ticket_lt` follow the tasks, the rest is a budget that only
  -- shrinks.
  constructor
  · intro t v' stage' h
    rcases htasks t v' stage' h with ⟨v, stage, hold, hticket, _⟩
    rw [hticket, hnext]
    exact hinv.ticket_lt t v stage hold
  · intro t₁ t₂ v₁ v₂ stage₁ stage₂ h₁ h₂ heq
    rcases htasks t₁ v₁ stage₁ h₁ with ⟨w₁, _, hold₁, hticket₁, _⟩
    rcases htasks t₂ v₂ stage₂ h₂ with ⟨w₂, _, hold₂, hticket₂, _⟩
    exact hinv.distinct t₁ t₂ w₁ w₂ _ _ hold₁ hold₂ (hticket₁ ▸ hticket₂ ▸ heq)
  · intro ticket hle
    have h := hinv.future ticket (hnext ▸ hle)
    exact ⟨h.1.drains (hd ticket), (htcp ticket).trans h.2⟩
  · exact fun ticket => (hinv.sentOnce ticket).drains (hd ticket)
  · exact fun ticket => (htcp ticket).trans_le (hinv.transmittedOnce ticket)
  · intro t v' stage' h hmay
    rcases htasks t v' stage' h with ⟨v, stage, hold, hticket, hcommand, _⟩
    rw [hticket]
    exact (hinv.unsent t v stage hold (hcommand hmay)).drains (hd v.ticket)
  · intro t v' stage' h hmay
    rcases htasks t v' stage' h with ⟨v, stage, hold, hticket, _, htransmit⟩
    rw [hticket, htcp]
    exact hinv.untransmitted t v stage hold (htransmit hmay)

/-- A turn of a driver with this queue after it and these deliveries. -/
theorem drains_driver_of {s : State cl} {session : Nat} {d d' : Driver} {ds : List Delivery}
    (hd : s.drivers session = some d) (ticket : Nat)
    (hle : d'.queue.countP (fun cmd => cmd.responseTx = ticket) ≤
      d.queue.countP (fun cmd => cmd.responseTx = ticket))
    (hopened : ds.countP (fun x => x.ticket = ticket ∧ x.transport = .udp) = 0 ∨
      d'.queue.countP (fun cmd => cmd.responseTx = ticket) +
          ds.countP (fun x => x.ticket = ticket ∧ x.transport = .udp) ≤
        d.queue.countP (fun cmd => cmd.responseTx = ticket) ∧
      0 < d.queue.countP (fun cmd => cmd.responseTx = ticket)) :
    Drains s { s with
      drivers := Function.update s.drivers session (some d')
      deliveries := s.deliveries ++ ds } ticket := by
  have hself : queuedAt s ticket session = d.queue.countP (fun cmd => cmd.responseTx = ticket) := by
    rw [queuedAt, hd]
  have hnew : queuedAt { s with
      drivers := Function.update s.drivers session (some d')
      deliveries := s.deliveries ++ ds } ticket session =
        d'.queue.countP (fun cmd => cmd.responseTx = ticket) := by
    simp only [queuedAt, Function.update_self]
  refine ⟨fun other => ?_, ?_⟩
  · by_cases hs : other = session
    · rw [hs, hnew, hself]
      exact hle
    · simp only [queuedAt, Function.update_of_ne hs]
      exact Nat.le_refl _
  · rw [deliveredCount_append s ds rfl]
    rcases hopened with hzero | ⟨hsum, hpos⟩
    · exact Or.inl (by rw [hzero, Nat.add_zero])
    -- A command that left the channel is paid for by its place there.
    · right
      refine ⟨session, by rw [hself]; exact hpos, ?_⟩
      rw [hnew, hself]
      omega

/-- A turn of a driver drains its channel. -/
theorem drains_driver {s : State cl} {session : Nat} {e : Event} {d d' : Driver}
    (hd : s.drivers session = some d) (h : Driver.step d e = some d') (ticket : Nat) :
    Drains s { s with
      drivers := Function.update s.drivers session (some d')
      deliveries := s.deliveries ++ deliveredBy session d e } ticket := by
  cases (Driver.step_eq_some h).2 with
  | closed => exact drains_driver_of hd ticket (Nat.zero_le _) (Or.inl rfl)
  | socketError | timeout => exact drains_driver_of hd ticket (Nat.le_refl _) (Or.inl rfl)
  | datagram dg =>
      refine drains_driver_of hd ticket ?_ (Or.inl rfl)
      rcases (Driver.receives_receive d dg).queue with heq | ⟨_, hnil⟩
      · rw [heq]
      · rw [hnil]
        exact Nat.zero_le _
  | @early cmd rest opened sendBody hq hh =>
      refine drains_driver_of hd ticket ?_ (Or.inl ?_)
      · rw [hq]
        exact (List.sublist_cons_self cmd rest).countP_le
      -- Without the layer nothing is opened, whatever quiche would have said.
      · cases opened with
        | error => rfl
        | ok => simp only [deliveredBy, hh, List.countP_nil]
  | @rejected cmd rest e sendBody hq _ =>
      refine drains_driver_of hd ticket ?_ (Or.inl rfl)
      rw [hq]
      exact (List.sublist_cons_self cmd rest).countP_le
  | @opened cmd rest streamId sendBody hq hh _ _ =>
      have hdelivered : deliveredBy session d (.command (.ok streamId) sendBody) =
          [{ ticket := cmd.responseTx, transport := .udp, conn := session,
             sent := (Driver.handOver cmd sendBody).sent }] := by
        simp only [deliveredBy, hh, hq]
      refine drains_driver_of hd ticket ?_ ?_
      · rw [hq]
        exact (List.sublist_cons_self cmd rest).countP_le
      · rw [hdelivered, hq, List.countP_singleton, List.countP_cons]
        by_cases hticket : cmd.responseTx = ticket
        · right
          simp only [hticket, true_and, decide_true, if_true]
          exact ⟨Nat.le_refl _, Nat.succ_pos _⟩
        · left
          simp only [hticket, false_and, decide_false, Bool.false_eq_true, if_false]

/-- A hop begins, with a ticket nobody has seen. -/
theorem deliveryInv_enter {s : State cl} (hinv : DeliveryInv s) (t : Nat)
    (v : Vars cl.crates.url) (hticket : v.ticket = s.nextTicket) :
    DeliveryInv (s.after t (.inHop v .cookies) [.ticket]) := by
  have hself : ∀ t' v' stage', (s.after t (.inHop v .cookies) [.ticket]).tasks t' =
      .inHop v' stage' → v' = v ∧ t' = t ∨ s.tasks t' = .inHop v' stage' := by
    intro t' v' stage' h
    rcases State.after_tasks_eq h with ⟨ht, heq⟩ | ⟨_, hold⟩
    · cases heq
      exact Or.inl ⟨rfl, ht⟩
    · exact Or.inr hold
  have hnew := hinv.future v.ticket (Nat.le_of_eq hticket.symm)
  constructor
  · intro t' v' stage' h
    rcases hself t' v' stage' h with ⟨rfl, _⟩ | hold
    · rw [hticket]
      exact Nat.lt_succ_self _
    · exact Nat.lt_succ_of_lt (hinv.ticket_lt t' v' stage' hold)
  · intro t₁ t₂ v₁ v₂ stage₁ stage₂ h₁ h₂ heq
    rcases hself t₁ v₁ stage₁ h₁ with ⟨rfl, rfl⟩ | hold₁ <;>
      rcases hself t₂ v₂ stage₂ h₂ with ⟨rfl, rfl⟩ | hold₂
    · rfl
    -- The new ticket is the next one, so no other hop has it.
    · exact absurd (hinv.ticket_lt t₂ v₂ stage₂ hold₂) (by omega)
    · exact absurd (hinv.ticket_lt t₁ v₁ stage₁ hold₁) (by omega)
    · exact hinv.distinct t₁ t₂ v₁ v₂ stage₁ stage₂ hold₁ hold₂ heq
  · intro ticket hle
    have h := hinv.future ticket ((Nat.le_succ _).trans hle)
    exact ⟨⟨h.1.queued, h.1.opened⟩, h.2⟩
  · exact hinv.sentOnce
  · exact hinv.transmittedOnce
  · intro t' v' stage' h hmay
    rcases hself t' v' stage' h with ⟨rfl, _⟩ | hold
    · exact ⟨hnew.1.queued, hnew.1.opened⟩
    · have h := hinv.unsent t' v' stage' hold hmay
      exact ⟨h.queued, h.opened⟩
  · intro t' v' stage' h hmay
    rcases hself t' v' stage' h with ⟨rfl, _⟩ | hold
    · exact hnew.2
    · exact hinv.untransmitted t' v' stage' hold hmay

/-- A move of one hop concerns that hop's ticket: the others only drain, and for
    its own ticket the budget is what the move has to show. -/
theorem deliveryInv_hop {s s' : State cl} (hinv : DeliveryInv s) {t : Nat}
    {v : Vars cl.crates.url} {stage : Stage} (htask : s.tasks t = .inHop v stage)
    (hnext : s'.nextTicket = s.nextTicket)
    (hothers : ∀ ticket, v.ticket ≠ ticket → Drains s s' ticket ∧
      deliveredCount s' ticket .tcp = deliveredCount s ticket .tcp)
    (hsent : SentOnce s' v.ticket) (htransmitted : deliveredCount s' v.ticket .tcp ≤ 1)
    (htasks : ∀ t' v' stage', s'.tasks t' = .inHop v' stage' →
      (t' = t ∧ v'.ticket = v.ticket ∧ (stage'.mayCommand = true → Unsent s' v.ticket) ∧
        (stage'.mayTransmit = true → deliveredCount s' v.ticket .tcp = 0)) ∨
      (t' ≠ t ∧ s.tasks t' = .inHop v' stage')) : DeliveryInv s' := by
  have hlt : v.ticket < s.nextTicket := hinv.ticket_lt t v stage htask
  -- The hop of another task has another ticket.
  have hforeign : ∀ t' v' stage', t' ≠ t → s.tasks t' = .inHop v' stage' →
      v.ticket ≠ v'.ticket := fun t' v' stage' hne hold hc =>
    hne (hinv.distinct t' t v' v stage' stage hold htask hc.symm)
  constructor
  · intro t' v' stage' h
    rw [hnext]
    rcases htasks t' v' stage' h with ⟨_, hticket, _⟩ | ⟨_, hold⟩
    · rw [hticket]
      exact hlt
    · exact hinv.ticket_lt t' v' stage' hold
  · intro t₁ t₂ v₁ v₂ stage₁ stage₂ h₁ h₂ heq
    rcases htasks t₁ v₁ stage₁ h₁ with ⟨ht₁, hticket₁, _⟩ | ⟨hne₁, hold₁⟩ <;>
      rcases htasks t₂ v₂ stage₂ h₂ with ⟨ht₂, hticket₂, _⟩ | ⟨hne₂, hold₂⟩
    · rw [ht₁, ht₂]
    · exact absurd (hticket₁.symm.trans heq) (hforeign t₂ v₂ stage₂ hne₂ hold₂)
    · exact absurd (hticket₂.symm.trans heq.symm) (hforeign t₁ v₁ stage₁ hne₁ hold₁)
    · exact hinv.distinct t₁ t₂ v₁ v₂ stage₁ stage₂ hold₁ hold₂ heq
  · intro ticket hle
    have hold := hinv.future ticket (hnext ▸ hle)
    have hmove := hothers ticket (by omega)
    exact ⟨hold.1.drains hmove.1, hmove.2.trans hold.2⟩
  · intro ticket
    by_cases hticket : v.ticket = ticket
    · rw [← hticket]
      exact hsent
    · exact (hinv.sentOnce ticket).drains (hothers ticket hticket).1
  · intro ticket
    by_cases hticket : v.ticket = ticket
    · rw [← hticket]
      exact htransmitted
    · rw [(hothers ticket hticket).2]
      exact hinv.transmittedOnce ticket
  · intro t' v' stage' h hmay
    rcases htasks t' v' stage' h with ⟨_, hticket, hunsent, _⟩ | ⟨hne, hold⟩
    · rw [hticket]
      exact hunsent hmay
    · have hmove := hothers v'.ticket (hforeign t' v' stage' hne hold)
      exact (hinv.unsent t' v' stage' hold hmay).drains hmove.1
  · intro t' v' stage' h hmay
    rcases htasks t' v' stage' h with ⟨_, hticket, _, hzero⟩ | ⟨hne, hold⟩
    · rw [hticket]
      exact hzero hmay
    · rw [(hothers v'.ticket (hforeign t' v' stage' hne hold)).2]
      exact hinv.untransmitted t' v' stage' hold hmay

/-- A command is put into a channel. -/
theorem deliveryInv_command {s : State cl} (hinv : DeliveryInv s) {t : Nat}
    {v : Vars cl.crates.url} {stage : Stage} (htask : s.tasks t = .inHop v stage)
    (hmay : stage.mayCommand = true) (session : Nat) {cmd : SendRequest}
    (hcmd : cmd.responseTx = v.ticket) (handle : Handle) :
    DeliveryInv (s.after t (.inHop v (.awaitH3 handle)) [.command session cmd]) := by
  generalize hs' : s.after t (.inHop v (.awaitH3 handle)) [.command session cmd] = s'
  have hcount : ∀ ticket transport,
      deliveredCount s' ticket transport = deliveredCount s ticket transport := fun _ _ => by
    rw [← hs']
    rfl
  -- One more command in the channel of the session, with the hop's ticket.
  have hqueue : ∀ ticket other, queuedAt s' ticket other ≤ queuedAt s ticket other +
      (if other = session ∧ v.ticket = ticket then 1 else 0) := by
    intro ticket other
    rw [← hs']
    by_cases ho : other = session
    · simp only [queuedAt, State.after, List.foldl_cons, List.foldl_nil, State.apply, ho,
        Function.update_self]
      cases s.drivers session with
      | none => exact Nat.zero_le _
      | some d =>
          simp only [Option.map_some, Driver.enqueue, List.countP_append, List.countP_singleton,
            hcmd, decide_eq_true_eq, true_and]
          exact Nat.le_refl _
    · simp only [queuedAt, State.after, List.foldl_cons, List.foldl_nil, State.apply,
        Function.update_of_ne ho]
      exact Nat.le_add_right _ _
  have hunsent : Unsent s v.ticket := hinv.unsent t v stage htask hmay
  have hzero : deliveredCount s' v.ticket .tcp = 0 := by
    rw [hcount]
    exact hinv.untransmitted t v stage htask (Stage.mayTransmit_of_mayCommand hmay)
  refine deliveryInv_hop hinv htask (by rw [← hs']; rfl) (fun ticket hne => ?_) ?_ ?_
    (fun t' v' stage' h => ?_)
  · refine ⟨⟨fun other => ?_, Or.inl (hcount ticket .udp)⟩, hcount ticket .tcp⟩
    have h := hqueue ticket other
    rw [if_neg (fun hc => hne hc.2)] at h
    exact h
  · -- Nothing was sent before, so this one command is all there is.
    refine ⟨session, fun other hne => ?_, ?_⟩
    · have h := hqueue v.ticket other
      rw [if_neg (fun hc => hne hc.1), hunsent.queued] at h
      exact Nat.le_zero.mp h
    · have h := hqueue v.ticket session
      rw [if_pos ⟨rfl, rfl⟩, hunsent.queued] at h
      rw [hcount, hunsent.opened]
      exact h
  · rw [hzero]
    exact Nat.zero_le 1
  · rcases State.after_tasks_eq (hs' ▸ h) with ⟨ht, heq⟩ | hold
    · cases heq
      exact Or.inl ⟨ht, rfl, fun hc => absurd hc Bool.false_ne_true, fun _ => hzero⟩
    · exact Or.inr hold

/-- A request is transmitted over HTTP/2. -/
theorem deliveryInv_deliver {s : State cl} (hinv : DeliveryInv s) {t : Nat}
    {v : Vars cl.crates.url} {stage : Stage} (htask : s.tasks t = .inHop v stage)
    (hmay : stage.mayTransmit = true) {d : Delivery} (hticket : d.ticket = v.ticket)
    (htcp : d.transport = .tcp) {pc : Pc cl.crates.url}
    (hpc : ∀ v' stage', pc = .inHop v' stage' →
      v'.ticket = v.ticket ∧ stage'.mayTransmit = false ∧ stage'.mayCommand = false) :
    DeliveryInv (s.after t pc [.deliver d]) := by
  generalize hs' : s.after t pc [.deliver d] = s'
  have hcount : ∀ ticket transport, deliveredCount s' ticket transport =
      deliveredCount s ticket transport +
        (if v.ticket = ticket ∧ Transport.tcp = transport then 1 else 0) := by
    intro ticket transport
    rw [← hs', deliveredCount_append s [d] rfl, List.countP_singleton, hticket, htcp]
    simp only [decide_eq_true_eq]
  -- Nothing is queued for a driver or taken by one.
  have hdrains : ∀ ticket, Drains s s' ticket := by
    intro ticket
    refine ⟨fun other => ?_, Or.inl ?_⟩
    · exact Nat.le_of_eq (queuedAt_of_drivers (by rw [← hs']; rfl) ticket other)
    · rw [hcount, if_neg (fun hc => absurd hc.2 (by decide)), Nat.add_zero]
  refine deliveryInv_hop hinv htask (by rw [← hs']; rfl)
    (fun ticket hne => ⟨hdrains ticket, ?_⟩) ((hinv.sentOnce v.ticket).drains (hdrains v.ticket))
    ?_ (fun t' v' stage' h => ?_)
  · rw [hcount, if_neg (fun hc => hne hc.1), Nat.add_zero]
  · -- The stage could still transmit, so it had not.
    rw [hcount, if_pos ⟨rfl, rfl⟩, hinv.untransmitted t v stage htask hmay]
  · rcases State.after_tasks_eq (hs' ▸ h) with ⟨ht, heq⟩ | hold
    · rcases hpc v' stage' heq with ⟨hv, htransmit, hcommand⟩
      refine Or.inl ⟨ht, hv, fun hc => ?_, fun hc => ?_⟩
      · exact absurd (hc.symm.trans hcommand) (by decide)
      · exact absurd (hc.symm.trans htransmit) (by decide)
    · exact Or.inr hold

/-- What a driver delivers is not over HTTP/2. -/
theorem deliveredBy_tcp (session : Nat) (d : Driver) (e : Event) (ticket : Nat) :
    (deliveredBy session d e).countP (fun x => x.ticket = ticket ∧ x.transport = .tcp) = 0 := by
  rw [List.countP_eq_zero]
  intro x hx
  unfold deliveredBy at hx
  split at hx
  · split at hx
    · rw [List.mem_singleton.mp hx]
      simp only [reduceCtorEq, and_false, decide_false, Bool.false_eq_true, not_false_eq_true]
    · exact absurd hx List.not_mem_nil
  · exact absurd hx List.not_mem_nil

theorem deliveryInv_fresh (altSvc : AltSvcCache) (jar : Jar) :
    DeliveryInv (State.fresh cl altSvc jar) := by
  have hunsent : ∀ ticket, Unsent (State.fresh cl altSvc jar) ticket :=
    fun _ => ⟨fun _ => rfl, rfl⟩
  have hidle : ∀ t v stage, (State.fresh cl altSvc jar).tasks t ≠ .inHop v stage := by
    intro t v stage
    simp only [State.fresh, ne_eq, reduceCtorEq, not_false_eq_true]
  constructor
  · exact fun t v stage h => absurd h (hidle t v stage)
  · exact fun t _ v _ stage _ h _ _ => absurd h (hidle t v stage)
  · exact fun ticket _ => ⟨hunsent ticket, rfl⟩
  · exact fun ticket => (hunsent ticket).sentOnce
  · exact fun _ => Nat.zero_le 1
  · exact fun t v stage h _ => absurd h (hidle t v stage)
  · exact fun t v stage h _ => absurd h (hidle t v stage)

/-- Every step keeps the budget. -/
theorem deliveryInv_step {s s' : State cl} {a : Action} (hinv : DeliveryInv s)
    (h : step s a = some s') : DeliveryInv s' := by
  cases a with
  | driver session e =>
      rcases step_driver_eq_some h with ⟨d, d', hd, hturn, rfl⟩
      refine deliveryInv_drains hinv (drains_driver hd hturn) (fun ticket => ?_) rfl
        (fun t v stage htask => ⟨v, stage, htask, rfl, id, id⟩)
      rw [deliveredCount_append s (deliveredBy session d e) rfl,
        deliveredBy_tcp, Nat.add_zero]
  | task t input =>
      rcases step_task_eq_some h with ⟨pc, fx, hm, rfl⟩
      generalize htask : s.tasks t = pc₀ at hm
      -- A move that sends nothing.
      have hsilent : (∀ e ∈ fx, e.Silent) →
          (∀ v' stage', pc = .inHop v' stage' → ∃ v stage, s.tasks t = .inHop v stage ∧
            v'.ticket = v.ticket ∧ (stage'.mayCommand = true → stage.mayCommand = true) ∧
            (stage'.mayTransmit = true → stage.mayTransmit = true)) →
          DeliveryInv (s.after t pc fx) := by
        intro hfx hpc
        refine deliveryInv_drains hinv (drains_after s t pc hfx)
          (fun ticket => by rw [deliveredCount, deliveries_after s t pc hfx, deliveredCount])
          (nextTicket_after s t pc hfx) (fun t' v' stage' h' => ?_)
        rcases State.after_tasks_eq h' with ⟨rfl, heq⟩ | ⟨_, hold⟩
        · exact hpc v' stage' heq
        · exact ⟨v', stage', hold, rfl, id, id⟩
      cases hm with
      | call | refuse =>
          exact hsilent (fun e he => absurd he List.not_mem_nil) (fun _ _ hc => by cases hc)
      | enter v hticket _ => exact deliveryInv_enter hinv t v hticket
      | @stage v stage _ _ _ hm =>
          rcases move_sends hm with ⟨session, cmd, handle, rfl, hcmd, hmay, rfl⟩ |
            ⟨d, rfl, hticket, htcp, hmay, hpc⟩ | ⟨hfx, hpc⟩
          · exact deliveryInv_command hinv htask hmay session hcmd handle
          · exact deliveryInv_deliver hinv htask hmay hticket htcp hpc
          · exact hsilent hfx (fun v' stage' hc => ⟨v, stage, htask, hpc v' stage' hc⟩)

end Quik
