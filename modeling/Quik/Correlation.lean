import Quik.Custody
import Quik.Dropped
import Quik.Resend
import Quik.Wire

/-!
# Whose Answer a Call Gets

The client and the drivers of its sessions together. A driver names its callers
by the reply channels that came with their commands, and a hop has one. So the
trace of each driver, kept along the run of the whole client, says of every
command which hop it is from; and the response a hop takes from a session is
made of what was received on the one stream that was opened for that hop's own
request (`own_response`).

Nor is a request lost on the way. While its driver runs, the request of a hop
that waits is in the channel, in the table or answered, and in one of these
places only (`one_place`).

## Main definitions

* `sessionTraces`: What the driver of each session has seen.
* `commandsAt`: The commands that have been put into a session's channel.
* `Correlated`: The traces against the drivers and the hops.

## Theorems

* `move_drivers`: What a move does to the drivers.
* `correlated_step`, `correlated_drop`, `correlated_run`: One step of the client, a
    dropped call, and a run.
* `reply_of_stream`: What a reply is made of.
* `one_place`, `own_response`: What follows for the callers.
-/

namespace Quik

open Transition
open Driver (Seen Demux Held At Place)

variable {Jar : Type} {cl : Client Jar}

/-- The driver of a session, as the trace sees it. -/
def observed (s : State cl) (d : Driver) : Driver.Session :=
  { driver := d, nextTx := s.nextTicket }

/-- The traces, step by step. -/
def observeSession (traces : Nat → List Seen) (s : State cl) : ClientAction → Nat → List Seen
  | .act (.driver session e) =>
    match s.drivers session with
    | some d => Function.update traces session
        (Driver.observe (traces session) (observed s d) (.turn e))
    | none => traces
  | _ => traces

/-- What the driver of each session has seen in a run of a fresh client whose
    calls may be dropped. -/
def sessionTraces (cl : Client Jar) (altSvc : AltSvcCache) (jar : Jar) (as : List ClientAction) :
    Nat → List Seen :=
  history stepOrDrop observeSession (fun _ => []) (State.fresh cl altSvc jar) as

/-- The commands a session has been sent: those it has taken, and those in the
    channel. -/
def commandsAt (traces : Nat → List Seen) (s : State cl) (session : Nat) : List SendRequest :=
  (traces session).filterMap Seen.cmd? ++ ((s.drivers session).map Driver.queue).getD []

/-- The command a waiting hop has sent, and no other hop has. -/
structure Asked (traces : Nat → List Seen) (s : State cl) (v : Vars cl.crates.url)
    (session : Handle) (request : Request) : Prop where
  built : buildRequest v = .ok request
  own : ∀ i cmd, cmd ∈ commandsAt traces s i → cmd.responseTx = v.ticket →
    i = session.id ∧ cmd = sessionCommand request v.hop.currentBody v.ticket
  held : ∃ d, s.drivers session.id = some d ∧ (d.exited = false → Held d v.ticket)

/-- The traces against the drivers and the hops. -/
structure Correlated (traces : Nat → List Seen) (s : State cl) : Prop where
  demux : ∀ i d, s.drivers i = some d → Demux (traces i) s.nextTicket d
  made : ∀ i, s.nextConn ≤ i → s.drivers i = none
  empty : ∀ i, s.drivers i = none → traces i = []
  /-- A hop that may still send a command has sent none. -/
  unsent : ∀ t v stage, s.tasks t = .inHop v stage → stage.mayCommand = true →
    ∀ i cmd, cmd ∈ commandsAt traces s i → cmd.responseTx ≠ v.ticket
  waits : ∀ t v session, s.tasks t = .inHop v (.awaitH3 session) →
    ∃ request, Asked traces s v session request

theorem commandsAt_of_some {traces : Nat → List Seen} {s : State cl} {i : Nat} {d : Driver}
    (h : s.drivers i = some d) :
    commandsAt traces s i = (traces i).filterMap Seen.cmd? ++ d.queue := by
  rw [commandsAt, h, Option.map_some, Option.getD_some]

theorem Correlated.commandsAt_of_none {traces : Nat → List Seen} {s : State cl}
    (hc : Correlated traces s) {i : Nat} (h : s.drivers i = none) :
    commandsAt traces s i = [] := by
  rw [commandsAt, h, hc.empty i h]
  rfl

/-- The ticket of a command has been given out. -/
theorem Correlated.ticket_lt {traces : Nat → List Seen} {s : State cl} (hc : Correlated traces s)
    {i : Nat} {cmd : SendRequest} (h : cmd ∈ commandsAt traces s i) :
    cmd.responseTx < s.nextTicket := by
  cases hd : s.drivers i with
  | none =>
      rw [hc.commandsAt_of_none hd] at h
      exact absurd h List.not_mem_nil
  | some d =>
      rw [commandsAt_of_some hd] at h
      refine (hc.demux i d hd).bound _ ?_
      rw [Driver.takenTickets_eq, ← List.map_append]
      exact List.mem_map_of_mem h

/-- A turn of a driver keeps the traces in line. -/
theorem correlated_turn {traces : Nat → List Seen} {s s' : State cl} {session : Nat} {e : Event}
    {d d' : Driver} (hc : Correlated traces s) (hd : s.drivers session = some d)
    (hturn : Driver.step d e = some d')
    (hdrivers : s'.drivers = Function.update s.drivers session (some d'))
    (htasks : s'.tasks = s.tasks) (hconn : s'.nextConn = s.nextConn)
    (hticket : s'.nextTicket = s.nextTicket) :
    Correlated
      (Function.update traces session (Driver.observe (traces session) (observed s d) (.turn e)))
      s' := by
  have hself : s'.drivers session = some d' := by rw [hdrivers, Function.update_self]
  have hother : ∀ i, i ≠ session → s'.drivers i = s.drivers i := by
    intro i hi
    rw [hdrivers, Function.update_of_ne hi]
  have hcommands : ∀ i cmd,
      cmd ∈ commandsAt
        (Function.update traces session (Driver.observe (traces session) (observed s d) (.turn e)))
        s' i → cmd ∈ commandsAt traces s i := by
    intro i cmd hin
    by_cases hi : i = session
    · rw [hi, commandsAt_of_some hd]
      rw [hi, commandsAt_of_some hself, Function.update_self] at hin
      exact Driver.commands_turn (s := observed s d) hturn hin
    · rwa [commandsAt, hother i hi, Function.update_of_ne hi] at hin
  constructor
  · intro i d₁ h₁
    rw [hticket]
    by_cases hi : i = session
    · rw [hi, hself, Option.some.injEq] at h₁
      rw [hi, Function.update_self, ← h₁]
      have hstep : Driver.Session.step (observed s d) (.turn e) =
          some { observed s d with driver := d' } := by
        rw [Driver.Session.step, observed, hturn, Option.map_some]
      exact Driver.demux_step (s := observed s d) (hc.demux session d hd) hstep
    · rw [hother i hi] at h₁
      rw [Function.update_of_ne hi]
      exact hc.demux i d₁ h₁
  · intro i hle
    by_cases hi : i = session
    · exact absurd ((hc.made i (hconn ▸ hle)).symm.trans (hi ▸ hd))
        (by simp only [reduceCtorEq, not_false_eq_true])
    · exact (hother i hi).trans (hc.made i (hconn ▸ hle))
  · intro i hnone
    by_cases hi : i = session
    · exact absurd (hself.symm.trans (hi ▸ hnone))
        (by simp only [reduceCtorEq, not_false_eq_true])
    · rw [Function.update_of_ne hi]
      exact hc.empty i ((hother i hi).symm.trans hnone)
  · intro t v stage htask hmay i cmd hin
    rw [htasks] at htask
    exact hc.unsent t v stage htask hmay i cmd (hcommands i cmd hin)
  · intro t v handle htask
    rw [htasks] at htask
    rcases hc.waits t v handle htask with ⟨request, hasked⟩
    refine ⟨request, hasked.built, fun i cmd hin => hasked.own i cmd (hcommands i cmd hin), ?_⟩
    rcases hasked.held with ⟨d₁, hd₁, hheld⟩
    by_cases hi : handle.id = session
    · rw [hi, hd, Option.some.injEq] at hd₁
      rw [← hd₁] at hheld
      exact ⟨d', hi ▸ hself, fun hlive => Driver.held_turn (hc.demux session d hd) hturn hlive
        (hheld (Driver.step_eq_some hturn).1)⟩
    · exact ⟨d₁, (hother handle.id hi).trans hd₁, hheld⟩

/-- A step that makes connections and sends no command. -/
structure Dials (s s' : State cl) : Prop where
  drivers : ∀ i, s'.drivers i = s.drivers i ∨ s.nextConn ≤ i ∧ i < s'.nextConn ∧
    ∀ d, s'.drivers i = some d → ∃ addr localAddr, d = Driver.dialed addr localAddr
  nextConn : s.nextConn ≤ s'.nextConn

/-- An effect that sends no command. The driver of a new connection is one that
    a dial starts. -/
def Effect.Uncommanding : Effect → Prop
  | .command _ _ => False
  | .connection (some d) => ∃ addr localAddr, d = Driver.dialed addr localAddr
  | _ => True

theorem uncommanding_dialEffects (dialH3 : Bool) (outcome : DialOutcome) :
    ∀ e ∈ dialEffects cl dialH3 outcome, e.Uncommanding := by
  refine forall_mem_dialEffects (fun _ => trivial) (fun addr localAddr => ?_) outcome
  cases dialH3 with
  | false => trivial
  | true => exact ⟨addr, localAddr, rfl⟩

theorem Dials.refl {s s' : State cl} (hdrivers : s'.drivers = s.drivers)
    (hconn : s'.nextConn = s.nextConn) : Dials s s' :=
  ⟨fun i => Or.inl (by rw [hdrivers]), Nat.le_of_eq hconn.symm⟩

theorem Dials.apply {s s' : State cl} (h : Dials s s') (t : Nat) {e : Effect}
    (he : e.Uncommanding) : Dials s (s'.apply t e) := by
  cases e with
  | command => exact he.elim
  | connection driver =>
      refine ⟨fun i => ?_, h.nextConn.trans (Nat.le_succ _)⟩
      by_cases hi : i = s'.nextConn
      · refine Or.inr ⟨hi ▸ h.nextConn, hi ▸ Nat.lt_succ_self _, fun d hd => ?_⟩
        simp only [State.apply, hi, Function.update_self] at hd
        rw [hd] at he
        exact he
      · unfold State.apply
        simp only [Function.update_of_ne hi]
        rcases h.drivers i with heq | ⟨hle, hlt, hdialed⟩
        · exact Or.inl heq
        · exact Or.inr ⟨hle, Nat.lt_succ_of_lt hlt, hdialed⟩
  | _ => exact ⟨h.drivers, h.nextConn⟩

theorem dials_after (s : State cl) (t : Nat) (pc : Pc cl.crates.url) {fx : List Effect}
    (h : ∀ e ∈ fx, e.Uncommanding) : Dials s (s.after t pc fx) := by
  have hfold : Dials s (fx.foldl (State.apply t) s) :=
    List.foldlRecOn fx (State.apply t) (motive := fun s' : State cl => Dials s s')
      (Dials.refl rfl rfl) (fun s' hd e he => hd.apply t (h e he))
  exact ⟨hfold.drivers, hfold.nextConn⟩

/-- A move sends the request of its hop to a session that is open, or makes
    connections at most. Only the one that sends makes a hop wait for a session,
    and whatever may send after a move could send before it. -/
theorem move_drivers {s : State cl} {v : Vars cl.crates.url} {stage : Stage} {input : Input}
    {pc : Pc cl.crates.url} {fx : List Effect} (hm : StageMove s v stage input pc fx) :
    (∃ session request d, buildRequest v = .ok request ∧ s.drivers session.id = some d ∧
        stage.mayCommand = true ∧ pc = .inHop v (.awaitH3 session) ∧
        fx = [.command session.id (sessionCommand request v.hop.currentBody v.ticket)]) ∨
      ((∀ e ∈ fx, e.Uncommanding) ∧ ∀ v' stage', pc = .inHop v' stage' →
        v'.ticket = v.ticket ∧ (stage'.mayCommand = true → stage.mayCommand = true) ∧
        ∀ session, stage' ≠ .awaitH3 session) := by
  cases hm with
  | sendH3 session request d hb hd =>
      exact Or.inl ⟨session, request, d, hb, hd, rfl, rfl, rfl⟩
  -- What the slot holds decides the stage.
  | lockClone =>
      refine Or.inr ⟨fun e he => absurd he List.not_mem_nil, fun v' stage' hpc => ?_⟩
      cases hpc
      refine ⟨rfl, fun _ => rfl, fun session => ?_⟩
      rcases s.content (v.poolKey cl) with _ | conn | conn <;>
        simp only [afterClone, ne_eq, reduceCtorEq, not_false_eq_true]
  | midLock =>
      refine Or.inr ⟨List.forall_mem_singleton.mpr trivial, fun v' stage' hpc => ?_⟩
      cases hpc
      refine ⟨rfl, fun h => ?_, fun session => ?_⟩
      · rw [afterMidLock_mayCommand] at h
        exact absurd h Bool.false_ne_true
      · rcases s.content (v.h2PoolKey cl) with _ | conn | conn <;>
          simp only [afterMidLock, ne_eq, reduceCtorEq, not_false_eq_true]
  | _ =>
      refine Or.inr ⟨?_, fun v' stage' hpc => ?_⟩
      · simp only [List.forall_mem_append, List.forall_mem_cons, List.not_mem_nil, false_implies,
          implies_true, Effect.Uncommanding, and_true]
        try exact uncommanding_dialEffects _ _
      · first
        | (cases hpc; exact ⟨rfl, fun _ => rfl, fun _ => Stage.noConfusion⟩)
        | (cases hpc; exact ⟨rfl, fun h => absurd h Bool.false_ne_true,
            fun _ => Stage.noConfusion⟩)
        | cases hpc

/-- Making connections, and moving tasks that wait for none of the sessions, keeps
    the traces in line. -/
theorem correlated_dials {traces : Nat → List Seen} {s s' : State cl} (hc : Correlated traces s)
    (hd : Dials s s') (hticket : s.nextTicket ≤ s'.nextTicket)
    (htasks : ∀ t v' stage', s'.tasks t = .inHop v' stage' →
      (stage'.mayCommand = true → s.nextTicket ≤ v'.ticket ∨
        ∃ v stage, s.tasks t = .inHop v stage ∧ stage.mayCommand = true ∧ v'.ticket = v.ticket) ∧
      ∀ session, stage' = .awaitH3 session → s.tasks t = .inHop v' stage') :
    Correlated traces s' := by
  have hcommands : ∀ i, commandsAt traces s' i = commandsAt traces s i := by
    intro i
    rcases hd.drivers i with heq | ⟨hle, _, hdialed⟩
    · rw [commandsAt, heq, commandsAt]
    · have hnone := hc.made i hle
      rw [hc.commandsAt_of_none hnone, commandsAt, hc.empty i hnone]
      cases hnew : s'.drivers i with
      | none => rfl
      | some d =>
          rcases hdialed d hnew with ⟨addr, localAddr, rfl⟩
          rfl
  constructor
  · intro i d hdriver
    rcases hd.drivers i with heq | ⟨hle, _, hdialed⟩
    · exact (hc.demux i d (heq.symm.trans hdriver)).mono hticket
    -- A new driver has seen nothing.
    · rcases hdialed d hdriver with ⟨addr, localAddr, rfl⟩
      rw [hc.empty i (hc.made i hle)]
      exact (Driver.demux_dialed addr localAddr).mono (Nat.zero_le _)
  · intro i hle
    rcases hd.drivers i with heq | ⟨_, hlt, _⟩
    · exact heq.trans (hc.made i (hd.nextConn.trans hle))
    · exact absurd hlt (Nat.not_lt.mpr hle)
  · intro i hnone
    rcases hd.drivers i with heq | ⟨hle, _, _⟩
    · exact hc.empty i (heq.symm.trans hnone)
    · exact hc.empty i (hc.made i hle)
  · intro t v' stage' htask hmay i cmd hin
    rw [hcommands] at hin
    rcases (htasks t v' stage' htask).1 hmay with hnew | ⟨v, stage, hold, hmay', hticket'⟩
    · exact Nat.ne_of_lt ((hc.ticket_lt hin).trans_le hnew)
    · rw [hticket']
      exact hc.unsent t v stage hold hmay' i cmd hin
  · intro t v session htask
    rcases hc.waits t v session ((htasks t v _ htask).2 session rfl) with ⟨request, hasked⟩
    refine ⟨request, hasked.built, fun i cmd hin => hasked.own i cmd (hcommands i ▸ hin), ?_⟩
    rcases hasked.held with ⟨d, hdriver, hheld⟩
    -- A session that is waited for has a number already, so it is not a new one.
    refine ⟨d, ?_, hheld⟩
    rcases hd.drivers session.id with heq | ⟨hle, _, _⟩
    · exact heq.trans hdriver
    · exact absurd ((hc.made session.id hle).symm.trans hdriver)
        (by simp only [reduceCtorEq, not_false_eq_true])

/-- Sending a command keeps the traces in line: the channel is the session's,
    the reply channel the hop's. -/
theorem correlated_command {traces : Nat → List Seen} {s : State cl} (hc : Correlated traces s)
    (hinv : DeliveryInv s) {t : Nat} {v : Vars cl.crates.url} {stage : Stage}
    (htask : s.tasks t = .inHop v stage) (hmay : stage.mayCommand = true) {session : Handle}
    {request : Request} {d : Driver} (hb : buildRequest v = .ok request)
    (hd : s.drivers session.id = some d) :
    Correlated traces (s.after t (.inHop v (.awaitH3 session))
      [.command session.id (sessionCommand request v.hop.currentBody v.ticket)]) := by
  generalize hcmd : sessionCommand request v.hop.currentBody v.ticket = cmd
  have htx : cmd.responseTx = v.ticket := by rw [← hcmd]; rfl
  generalize hs' : s.after t (.inHop v (.awaitH3 session)) [.command session.id cmd] = s'
  have hdrivers : s'.drivers = Function.update s.drivers session.id (some (d.enqueue cmd)) := by
    have hmap : (s.drivers session.id).map (fun d => d.enqueue cmd) = some (d.enqueue cmd) := by
      rw [hd, Option.map_some]
    rw [← hs', ← hmap]
    rfl
  have hself : s'.drivers session.id = some (d.enqueue cmd) := by
    rw [hdrivers, Function.update_self]
  have hother : ∀ i, i ≠ session.id → s'.drivers i = s.drivers i := by
    intro i hi
    rw [hdrivers, Function.update_of_ne hi]
  have hconn : s'.nextConn = s.nextConn := by rw [← hs']; rfl
  have hnext : s'.nextTicket = s.nextTicket := by rw [← hs']; rfl
  have hunsent := hc.unsent t v stage htask hmay
  have hcommands : ∀ i c, c ∈ commandsAt traces s' i →
      c ∈ commandsAt traces s i ∨ i = session.id ∧ c = cmd := by
    intro i c hin
    by_cases hi : i = session.id
    · rw [hi, commandsAt_of_some hself, Driver.enqueue, ← List.append_assoc,
        ← commandsAt_of_some hd, List.mem_append, List.mem_singleton] at hin
      exact hin.imp (fun hold => hi ▸ hold) (fun heq => ⟨hi, heq⟩)
    · rw [commandsAt, hother i hi] at hin
      exact Or.inl hin
  constructor
  · intro i d₁ h₁
    rw [hnext]
    by_cases hi : i = session.id
    -- The hop has not sent before, so its reply channel is new to the driver.
    · rw [hi, hself, Option.some.injEq] at h₁
      rw [hi, ← h₁]
      refine (hc.demux session.id d hd).enqueue_fresh ?_ ?_
      · rw [htx]
        exact hinv.ticket_lt t v stage htask
      · rw [Driver.takenTickets_eq, ← List.map_append, ← commandsAt_of_some hd, htx]
        intro hin
        rcases List.mem_map.mp hin with ⟨c, hcin, hticket⟩
        exact hunsent session.id c hcin hticket
    · exact hc.demux i d₁ ((hother i hi).symm.trans h₁)
  · intro i hle
    by_cases hi : i = session.id
    · rw [hconn] at hle
      exact absurd ((hc.made i hle).symm.trans (hi ▸ hd))
        (by simp only [reduceCtorEq, not_false_eq_true])
    · exact (hother i hi).trans (hc.made i (hconn ▸ hle))
  · intro i hnone
    by_cases hi : i = session.id
    · exact absurd (hself.symm.trans (hi ▸ hnone))
        (by simp only [reduceCtorEq, not_false_eq_true])
    · exact hc.empty i ((hother i hi).symm.trans hnone)
  · intro t' v' stage' htask' hmay' i c hin
    rw [← hs'] at htask'
    rcases State.after_tasks_eq htask' with ⟨rfl, hpc⟩ | ⟨hne, hold⟩
    · cases hpc
      exact absurd hmay' Bool.false_ne_true
    · rcases hcommands i c hin with hin' | ⟨_, rfl⟩
      · exact hc.unsent t' v' stage' hold hmay' i c hin'
      -- Two hops under way have two reply channels.
      · rw [htx]
        exact fun hticket => hne (hinv.distinct t' t v' v stage' stage hold htask hticket.symm)
  · intro t' v' session' htask'
    rw [← hs'] at htask'
    rcases State.after_tasks_eq htask' with ⟨rfl, hpc⟩ | ⟨hne, hold⟩
    · cases hpc
      refine ⟨request, hb, fun i c hin hticket => ?_, d.enqueue cmd, hself, fun _ => ?_⟩
      · rcases hcommands i c hin with hin' | ⟨hi, rfl⟩
        · exact absurd hticket (hunsent i c hin')
        · exact ⟨hi, hcmd.symm⟩
      · refine ⟨.channel, ?_⟩
        show v.ticket ∈ (d.queue ++ [cmd]).map SendRequest.responseTx
        rw [List.map_append, List.map_singleton, htx]
        exact List.mem_append_right _ (List.mem_singleton_self _)
    · rcases hc.waits t' v' session' hold with ⟨request', hasked⟩
      refine ⟨request', hasked.built, fun i c hin hticket => ?_, ?_⟩
      · rcases hcommands i c hin with hin' | ⟨_, rfl⟩
        · exact hasked.own i c hin' hticket
        -- The new command is another hop's.
        · exact absurd (hinv.distinct t' t v' v _ stage hold htask (hticket.symm.trans htx)) hne
      · rcases hasked.held with ⟨d₁, hd₁, hheld⟩
        by_cases hi : session'.id = session.id
        · rw [hi, hd, Option.some.injEq] at hd₁
          rw [← hd₁] at hheld
          exact ⟨d.enqueue cmd, hi ▸ hself, fun hlive => (hheld hlive).enqueue cmd⟩
        · exact ⟨d₁, (hother session'.id hi).trans hd₁, hheld⟩

theorem correlated_step {traces : Nat → List Seen} {s s' : State cl} {a : Action}
    (hc : Correlated traces s) (hinv : DeliveryInv s) (h : step s a = some s') :
    Correlated (observeSession traces s (.act a)) s' := by
  have hnext := nextTicket_le h
  cases a with
  | driver session e =>
      rcases step_driver_eq_some h with ⟨d, d', hd, hturn, rfl⟩
      simp only [observeSession, hd]
      exact correlated_turn hc hd hturn rfl rfl rfl rfl
  | task t input =>
      rcases step_task_eq_some h with ⟨pc, fx, hm, rfl⟩
      generalize htask : s.tasks t = pc₀ at hm
      -- The other tasks stay where they are.
      have hothers : ∀ t' v' stage', t' ≠ t → s.tasks t' = .inHop v' stage' →
          (stage'.mayCommand = true → s.nextTicket ≤ v'.ticket ∨ ∃ v stage,
            s.tasks t' = .inHop v stage ∧ stage.mayCommand = true ∧ v'.ticket = v.ticket) ∧
          ∀ session, stage' = .awaitH3 session → s.tasks t' = .inHop v' stage' :=
        fun t' v' stage' _ hold => ⟨fun hmay => Or.inr ⟨v', stage', hold, hmay, rfl⟩,
          fun _ _ => hold⟩
      cases hm with
      | call | refuse =>
          refine correlated_dials hc (Dials.refl rfl rfl) hnext (fun t' v' stage' htask' => ?_)
          rcases State.after_tasks_eq htask' with ⟨_, hpc⟩ | ⟨hne, hold⟩
          · cases hpc
          · exact hothers t' v' stage' hne hold
      | enter v hticket =>
          refine correlated_dials hc (Dials.refl rfl rfl) hnext (fun t' v' stage' htask' => ?_)
          rcases State.after_tasks_eq htask' with ⟨_, hpc⟩ | ⟨hne, hold⟩
          -- A hop that is entered gets a reply channel nobody has used.
          · cases hpc
            exact ⟨fun _ => Or.inl (Nat.le_of_eq hticket.symm), fun _ => Stage.noConfusion⟩
          · exact hothers t' v' stage' hne hold
      | @stage v stage _ _ _ hm =>
          rcases move_drivers hm with ⟨session, request, d, hb, hd, hmay, rfl, rfl⟩ |
            ⟨hdials, hpc'⟩
          · exact correlated_command hc hinv htask hmay hb hd
          · refine correlated_dials hc (dials_after s t pc hdials) hnext
              (fun t' v' stage' htask' => ?_)
            rcases State.after_tasks_eq htask' with ⟨rfl, hpc⟩ | ⟨hne, hold⟩
            · rcases hpc' v' stage' hpc with ⟨hticket, hmay, hne⟩
              exact ⟨fun hm' => Or.inr ⟨v, stage, htask, hmay hm', hticket⟩,
                fun session heq => absurd heq (hne session)⟩
            · exact hothers t' v' stage' hne hold

/-- The command of a dropped hop stays where it is, and nobody waits for its
    answer. -/
theorem correlated_drop {traces : Nat → List Seen} {s : State cl} (hc : Correlated traces s)
    (t : Nat) : Correlated traces (s.drop t) := by
  refine correlated_dials hc (Dials.refl rfl rfl) (Nat.le_refl _) (fun t' v stage htask => ?_)
  have hold := (drop_task s t htask).1
  exact ⟨fun hmay => Or.inr ⟨v, stage, hold, hmay, rfl⟩, fun _ _ => hold⟩

theorem correlated_fresh (altSvc : AltSvcCache) (jar : Jar) :
    Correlated (fun _ => []) (State.fresh cl altSvc jar) := by
  constructor
  · exact fun _ _ h => absurd h (by simp only [State.fresh, reduceCtorEq, not_false_eq_true])
  · exact fun _ _ => rfl
  · exact fun _ _ => rfl
  · exact fun _ _ _ h => absurd h (by simp only [State.fresh, reduceCtorEq, not_false_eq_true])
  · exact fun _ _ _ h => absurd h (by simp only [State.fresh, reduceCtorEq, not_false_eq_true])

/-- At the end of every run. -/
theorem correlated_run (altSvc : AltSvcCache) (jar : Jar) {as : List ClientAction} {s : State cl}
    (hrun : run stepOrDrop (State.fresh cl altSvc jar) as = some s) :
    Correlated (sessionTraces cl altSvc jar as) s := by
  refine (history_invariant stepOrDrop
    (J := fun traces s => Correlated traces s ∧ DeliveryInv s) (fun traces s a s' hJ hs => ?_)
    ⟨correlated_fresh altSvc jar, deliveryInv_fresh altSvc jar⟩ hrun).1
  cases a with
  | act a => exact ⟨correlated_step hJ.1 hJ.2 hs, deliveryInv_step hJ.2 hs⟩
  | drop t =>
      simp only [stepOrDrop] at hs
      split at hs
      · rw [← Option.some.inj hs]
        exact ⟨correlated_drop hJ.1 t, deliveryInv_drop hJ.2 t⟩
      · exact absurd hs (by simp only [reduceCtorEq, not_false_eq_true])

/-- A response that a session has for a hop is the answer to a stream that was
    opened with the hop's reply channel, and it is made of what was received
    there. -/
theorem reply_of_stream {traces : Nat → List Seen} {s : State cl} (hc : Correlated traces s)
    {session : Handle} {ticket : Nat} {resp : Response}
    (hreply : sessionReply s session ticket = some (.ok resp)) :
    ∃ streamId cmd events, cmd.responseTx = ticket ∧
      Driver.transcript streamId (traces session.id) = some (cmd, events ++ [.finished]) ∧
      resp = Driver.response (Driver.pendingOf cmd events) := by
  cases hd : s.drivers session.id with
  | none =>
      simp only [sessionReply, hd] at hreply
      exact absurd hreply (by simp only [reduceCtorEq, not_false_eq_true])
  | some d =>
      -- The reply is one of the driver's answers.
      have hmem : (ticket, .ok resp) ∈ d.answers := by
        simp only [sessionReply, hd] at hreply
        split at hreply
        · rename_i r hr
          rw [Option.some.injEq] at hreply
          rcases List.lookup_eq_some_iff.mp hr with ⟨before, after, heq, _⟩
          rw [heq, ← hreply]
          exact List.mem_append_right _ List.mem_cons_self
        · split at hreply
          · exact absurd hreply (by simp only [Option.some.injEq, reduceCtorEq, not_false_eq_true])
          · exact absurd hreply (by simp only [reduceCtorEq, not_false_eq_true])
      generalize hr : Except.ok resp = r at hmem
      cases (hc.demux session.id d hd).answers _ _ hmem with
      | early | rejected | reset => cases hr
      | finished streamId cmd events htr =>
          exact ⟨streamId, cmd, events, rfl, htr, Except.ok.inj hr⟩

/-- One stream is opened for a reply channel. -/
theorem Correlated.opened_unique {traces : Nat → List Seen} {s : State cl}
    (hc : Correlated traces s) {i : Nat} {streamId streamId' : StreamId} {cmd cmd' : SendRequest}
    (h : .opened streamId cmd ∈ traces i) (h' : .opened streamId' cmd' ∈ traces i)
    (heq : cmd'.responseTx = cmd.responseTx) : streamId' = streamId ∧ cmd' = cmd := by
  cases hd : s.drivers i with
  | none =>
      rw [hc.empty i hd] at h
      exact absurd h List.not_mem_nil
  | some d =>
      cases Driver.eq_of_taken (hc.demux i d hd).distinct_taken h' h (congrArg some heq) rfl
      exact ⟨rfl, rfl⟩

section Waiting

variable {altSvc : AltSvcCache} {jar : Jar} {as : List ClientAction} {s : State cl}
  (hrun : run stepOrDrop (State.fresh cl altSvc jar) as = some s)
  {t : Nat} {v : Vars cl.crates.url} {session : Handle}
  (htask : s.tasks t = .inHop v (.awaitH3 session))
include hrun htask

/-- In every run of a fresh client, however the calls on it and the turns of its
    drivers interleave and whatever calls are dropped, the request of a hop that
    waits for a session is with the driver of that session and with no other; and
    while that driver runs, it is in the channel, or in the table under one stream,
    or answered, and in one of these places only. -/
theorem one_place :
    (∃ d, s.drivers session.id = some d ∧ (d.exited = false → ∃! place, At d v.ticket place)) ∧
      ∀ i d place, s.drivers i = some d → At d v.ticket place → i = session.id := by
  have hc := correlated_run altSvc jar hrun
  rcases hc.waits t v session htask with ⟨request, hasked⟩
  constructor
  · rcases hasked.held with ⟨d, hd, hheld⟩
    refine ⟨d, hd, fun hlive => ?_⟩
    rcases hheld hlive with ⟨place, hplace⟩
    exact ⟨place, hplace, fun q hq => (hc.demux session.id d hd).at_unique hq hplace⟩
  · intro i d place hd hplace
    rcases (hc.demux i d hd).command_of_at hplace with ⟨cmd, hcmd, htx⟩
    exact (hasked.own i cmd (commandsAt_of_some hd ▸ hcmd) htx).1

/-- A response that a waiting hop takes from its session is made of what was
    received on one stream, from its opening to its end; that stream was opened
    for the request of that very hop, and no stream of any session was ever opened
    for it but this one. The answers to calls that were dropped go to nobody. -/
theorem own_response {resp : Response}
    (hreply : sessionReply s session v.ticket = some (.ok resp)) :
    ∃ request streamId events, buildRequest v = .ok request ∧
      Driver.transcript streamId (sessionTraces cl altSvc jar as session.id) =
        some (sessionCommand request v.hop.currentBody v.ticket, events ++ [.finished]) ∧
      resp = Driver.response (Driver.pendingOf
        (sessionCommand request v.hop.currentBody v.ticket) events) ∧
      ∀ i streamId' cmd, .opened streamId' cmd ∈ sessionTraces cl altSvc jar as i →
        cmd.responseTx = v.ticket → i = session.id ∧ streamId' = streamId := by
  have hc := correlated_run altSvc jar hrun
  rcases hc.waits t v session htask with ⟨request, hasked⟩
  have hcommand : ∀ i streamId cmd, .opened streamId cmd ∈ sessionTraces cl altSvc jar as i →
      cmd.responseTx = v.ticket →
      i = session.id ∧ cmd = sessionCommand request v.hop.currentBody v.ticket := by
    intro i streamId cmd hin
    exact hasked.own i cmd (List.mem_append_left _ (List.mem_filterMap.mpr ⟨_, hin, rfl⟩))
  -- The reply belongs to a stream; by the reply channel the stream is the hop's.
  rcases reply_of_stream hc hreply with ⟨streamId, cmd, events, hticket, htr, hr⟩
  have hopened := Driver.mem_of_transcript htr
  rcases hcommand session.id streamId cmd hopened hticket with ⟨_, hcmd⟩
  rw [hcmd] at htr hr
  refine ⟨request, streamId, events, hasked.built, htr, hr, ?_⟩
  intro i streamId' cmd' hin htx
  rcases hcommand i streamId' cmd' hin htx with ⟨rfl, _⟩
  exact ⟨rfl, (hc.opened_unique hopened hin (htx.trans hticket.symm)).1⟩

end Waiting

/-- Three calls share a session. One is dropped when its command is in the
    channel, and the responses arrive interleaved. -/
def sharedSession : List ClientAction :=
  ([ .call "GET" "https://a.test/" none .navigate, .go, .go, .go, .go, .go, .go,
    .dial (.connected { ip := .v4 0xC0000201, port := 443 } none), .go ] : List Input).map
    (fun input => .act (.task 0 input)) ++
  ([ .call "GET" "https://a.test/" none .navigate, .go, .go, .go, .go, .go,
    .go ] : List Input).map (fun input => .act (.task 1 input)) ++
  ([ .call "GET" "https://a.test/" none .navigate, .go, .go, .go, .go, .go,
    .go ] : List Input).map (fun input => .act (.task 2 input)) ++
  [.drop 1] ++
  ([ .datagram (packet []), .command (.ok 0) (.ok 0), .command (.ok 4) (.ok 0),
    .command (.ok 8) (.ok 0),
    .datagram (packet [ (8, .headers [(utf8 ":status", utf8 "404")]),
      (4, .headers [(utf8 ":status", utf8 "500")]), (0, .headers [(utf8 ":status", utf8 "200")]),
      (4, .finished), (8, .finished), (0, .data [[1]]), (0, .finished) ]) ] : List Event).map
    (fun e => .act (.driver 0 e))

theorem one_place_sharedSession :
    ∃ s v session, run stepOrDrop cachedA sharedSession = some s ∧
      s.tasks 2 = .inHop v (.awaitH3 session) ∧
      (∃ d, s.drivers session.id = some d ∧
        (d.exited = false → ∃! place, At d v.ticket place)) ∧
      ∀ i d place, s.drivers i = some d → At d v.ticket place → i = session.id := by
  have hwaits : ((run stepOrDrop cachedA sharedSession).bind
      (fun s => (s.tasks 2).awaiting?)).map (fun w => w.2.id) = some 0 := by decide +kernel
  rcases Option.map_eq_some_iff.mp hwaits with ⟨⟨v, session⟩, hrun, _⟩
  rcases Option.bind_eq_some_iff.mp hrun with ⟨s, hs, hwait⟩
  have htask := awaiting?_eq_some hwait
  exact ⟨s, v, session, hs, htask, one_place hs htask⟩

theorem own_response_sharedSession :
    ∃ s v session resp, run stepOrDrop cachedA sharedSession = some s ∧
      s.tasks 2 = .inHop v (.awaitH3 session) ∧
      sessionReply s session v.ticket = some (.ok resp) ∧ resp.status = { code := 404 } ∧
      ∃ request streamId events, buildRequest v = .ok request ∧
        Driver.transcript streamId (sessionTraces direct
          (AltSvcCache.new.insert "a.test:443" "h3=\":443\"") () sharedSession session.id) =
          some (sessionCommand request v.hop.currentBody v.ticket, events ++ [.finished]) ∧
        resp = Driver.response (Driver.pendingOf
          (sessionCommand request v.hop.currentBody v.ticket) events) ∧
        ∀ i streamId' cmd, .opened streamId' cmd ∈ sessionTraces direct
          (AltSvcCache.new.insert "a.test:443" "h3=\":443\"") () sharedSession i →
          cmd.responseTx = v.ticket → i = session.id ∧ streamId' = streamId := by
  have hanswered : ((run stepOrDrop cachedA sharedSession).bind (fun s =>
      (s.tasks 2).awaiting?.bind (fun w => sessionReply s w.2 w.1.ticket))).map
        (fun r => r.map Response.status) = some (.ok { code := 404 }) := by decide +kernel
  rcases Option.map_eq_some_iff.mp hanswered with ⟨r, hrun, hstatus⟩
  rcases Option.bind_eq_some_iff.mp hrun with ⟨s, hs, hwaits⟩
  rcases Option.bind_eq_some_iff.mp hwaits with ⟨⟨v, session⟩, hwait, hreply⟩
  have htask := awaiting?_eq_some hwait
  cases r with
  | error e => cases hstatus
  | ok resp => exact ⟨s, v, session, resp, hs, htask, hreply, Except.ok.inj hstatus,
      own_response hs htask hreply⟩

end Quik
