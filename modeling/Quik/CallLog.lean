import Quik.Chain

/-!
# What a Call Has Been Through

A record kept beside the state of the client: for each task, the variables its
call began with, the responses the loop has evaluated, each with the URL it was
fetched from, and the number of hops it has entered. It is brought up to date
from the state before a step and the action taken, and no step looks at it.

The loop variables of a task are those the recorded responses lead to from the
recorded beginning, and the hop counter counts the responses.

## Main definitions

* `CallLog`, `CallLog.record`: The record of one call, and what a step adds to
  it.
* `callLog`: The record at the end of a run.
* `Pc.deciding`: Where the loop itself ends a call.

## Theorems

* `run_hop`: The hop counter counts the responses.
* `LoggedPc.bounded`: No call makes more hops than the limit.
* `logged_run`: The loop variables of every task are what its record leads to.
* `callLog_grows`: A record only grows.
-/

namespace Quik

open Transition

variable {Jar : Type} {cl : Client Jar}

/-- The record of one call. -/
structure CallLog where
  first : Hop := Hop.initial "" "" none
  answers : List (Url × Response) := []
  hops : Nat := 0

/-- The responses alone. -/
def CallLog.responses (l : CallLog) : List Response :=
  l.answers.map Prod.snd

/-- A hop has been entered. -/
def CallLog.enter (l : CallLog) : CallLog :=
  { l with hops := l.hops + 1 }

/-- The loop has evaluated a response. -/
def CallLog.answer (l : CallLog) (u : Url) (resp : Response) : CallLog :=
  { l with answers := l.answers ++ [(u, resp)] }

/-- What a step of its task adds to a record. -/
def CallLog.record (l : CallLog) (s : State cl) : Pc cl.crates.url → Input → CallLog
  | .idle, .call method url body _ => { first := Hop.initial method url body }
  | .top hop context, .go =>
    match (enterHop s hop context).1 with
    | .inHop _ _ => l.enter
    | _ => l
  | .inHop v (.redirect resp), .go => l.answer v.parsedUrl resp
  | _, _ => l

/-- What a step adds to the records. -/
def recordCall (log : Nat → CallLog) (s : State cl) : Action → Nat → CallLog
  | .task t input => Function.update log t ((log t).record s (s.tasks t) input)
  | .driver _ _ => log

/-- The records at the end of a run of a fresh client. -/
def callLog (cl : Client Jar) (altSvc : AltSvcCache) (jar : Jar) (as : List Action) :
    Nat → CallLog :=
  history step recordCall (fun _ => {}) (State.fresh cl altSvc jar) as

/-- Where the loop itself can end a call: at its top, and where it evaluates a
    response. Everywhere else a call ends by a failure of its connection. -/
def Pc.deciding {c : UrlCrate} : Pc c → Bool
  | .top _ _ | .inHop _ (.redirect _) => true
  | _ => false

/-- The recorded responses lead to these loop variables. -/
def CallLog.LeadsTo (l : CallLog) (c : UrlCrate) (hop : Hop) : Prop :=
  run (nextHop c) l.first l.responses = some hop

/-- Following a redirect counts one hop. -/
theorem nextHop_hop {c : UrlCrate} {h h' : Hop} {resp : Response}
    (hn : nextHop c h resp = some h') : h'.hop = h.hop + 1 := by
  rcases nextHop_eq_some hn with ⟨_, _, _, _, _, _, hfollow⟩
  rw [hfollow, Hop.follow]

/-- The counter counts the responses. -/
theorem run_hop {c : UrlCrate} {h h' : Hop} {rs : List Response}
    (hrun : run (nextHop c) h rs = some h') : h'.hop = h.hop + rs.length := by
  induction rs generalizing h with
  | nil =>
      simp only [run_nil, Option.some.injEq] at hrun
      rw [hrun, List.length_nil, Nat.add_zero]
  | cons resp rs ih =>
      rcases run_cons_eq_some _ hrun with ⟨g, hnext, hrest⟩
      rw [ih hrest, nextHop_hop hnext, List.length_cons, Nat.add_assoc, Nat.add_comm 1]

/-- A task against the record of its call. -/
def LoggedPc (c : UrlCrate) (l : CallLog) : Pc c → Prop
  | .idle => l.answers = [] ∧ l.hops = 0
  | .top hop _ => l.first.hop = 0 ∧ l.LeadsTo c hop ∧ l.hops = hop.hop ∧ hop.hop ≤ Hop.limit
  | .inHop v _ => l.first.hop = 0 ∧ l.LeadsTo c v.hop ∧ l.hops = v.hop.hop + 1
  | .done _ => l.hops ≤ Hop.limit

/-- Every task against the record of its call. -/
def Logged (log : Nat → CallLog) (s : State cl) : Prop :=
  ∀ t, LoggedPc cl.crates.url (log t) (s.tasks t)

theorem leadsTo_answer {c : UrlCrate} {l : CallLog} {hop hop' : Hop} {u : Url} {resp : Response}
    (h : l.LeadsTo c hop) (hnext : nextHop c hop resp = some hop') :
    (l.answer u resp).LeadsTo c hop' := by
  rw [CallLog.LeadsTo, CallLog.responses, CallLog.answer, List.map_append]
  exact run_append_of_eq _ h ((run_singleton _ _ _).trans hnext)

/-- A move within a hop keeps the task in line with its record. -/
theorem loggedPc_stage {s : State cl} {l : CallLog} {v : Vars cl.crates.url} {stage : Stage}
    {input : Input} {pc : Pc cl.crates.url} {fx : List Effect}
    (hm : StageMove s v stage input pc fx) (h : LoggedPc cl.crates.url l (.inHop v stage)) :
    LoggedPc cl.crates.url (l.record s (.inHop v stage) input) pc := by
  rcases h with ⟨hfirst, hleads, hhops⟩
  have hended : l.hops ≤ Hop.limit := hhops.trans_le v.inRange
  cases hm with
  | redirected resp hop he =>
      have hnext := nextHop_of_evaluate v he
      have hhop := nextHop_hop hnext
      exact ⟨hfirst, leadsTo_answer hleads hnext, hhops.trans hhop.symm, hhop ▸ v.inRange⟩
  -- The moves that end the call.
  | redirectFailed | answered | dialH2Failed | fallbackDialFailed | sendUnbuilt | sendRefused
    | failH2 | midDialFailed | midSendUnbuilt | midSendRefused | midFail => exact hended
  | _ => exact ⟨hfirst, hleads, hhops⟩

/-- So does every move of a task. -/
theorem loggedPc_move {s : State cl} {l : CallLog} {pc pc' : Pc cl.crates.url} {input : Input}
    {fx : List Effect} (hstep : taskStep s pc input = some (pc', fx))
    (h : LoggedPc cl.crates.url l pc) : LoggedPc cl.crates.url (l.record s pc input) pc' := by
  have hm := taskStep_eq_some hstep
  cases hm with
  | call method url body context => exact ⟨rfl, rfl, rfl, Nat.zero_le _⟩
  | enter v =>
      rcases h with ⟨hfirst, hleads, hhops, _⟩
      have henter : enterHop s v.hop v.context = (.inHop v .cookies, [.ticket]) :=
        Option.some.inj hstep
      simp only [CallLog.record, henter]
      exact ⟨hfirst, hleads, congrArg (· + 1) hhops⟩
  | refuse hop context e =>
      rcases h with ⟨_, _, hhops, hle⟩
      have henter : enterHop s hop context = (.done (.error e), []) := Option.some.inj hstep
      simp only [CallLog.record, henter]
      exact hhops.trans_le hle
  | stage hm => exact loggedPc_stage hm h

theorem logged_step {log : Nat → CallLog} {s s' : State cl} {a : Action} (hlog : Logged log s)
    (h : step s a = some s') : Logged (recordCall log s a) s' := by
  intro t'
  cases a with
  | driver session e =>
      rcases step_driver_eq_some h with ⟨d, d', _, _, rfl⟩
      exact hlog t'
  | task t input =>
      simp only [step] at h
      split at h
      · exact absurd h (by simp only [reduceCtorEq, not_false_eq_true])
      · rename_i pc fx hstep
        rw [← Option.some.inj h]
        simp only [recordCall, State.after_tasks]
        by_cases ht : t' = t
        · rw [ht, Function.update_self, Function.update_self]
          exact loggedPc_move hstep (hlog t)
        · rw [Function.update_of_ne ht, Function.update_of_ne ht]
          exact hlog t'

theorem LoggedPc.bounded {c : UrlCrate} {l : CallLog} {pc : Pc c} (h : LoggedPc c l pc) :
    l.hops ≤ Hop.limit := by
  cases pc with
  | idle => exact h.2.trans_le (Nat.zero_le _)
  | top hop context => exact h.2.2.1.trans_le h.2.2.2
  | inHop v stage => exact h.2.2.trans_le v.inRange
  | done res => exact h

/-- At the end of every run each task is where its record leads. -/
theorem logged_run (altSvc : AltSvcCache) (jar : Jar) {as : List Action} {s : State cl}
    (hrun : run step (State.fresh cl altSvc jar) as = some s) :
    Logged (callLog cl altSvc jar as) s :=
  history_invariant step (J := Logged) (fun _ _ _ _ hlog hs => logged_step hlog hs)
    (fun _ => ⟨rfl, rfl⟩) hrun

/-- A record only grows. -/
theorem record_grows {s : State cl} {l : CallLog} {pc : Pc cl.crates.url}
    (h : LoggedPc cl.crates.url l pc) (input : Input) :
    l.responses <+: (l.record s pc input).responses := by
  unfold CallLog.record
  split
  · rw [CallLog.responses, h.1]
    exact List.nil_prefix
  · split <;> exact List.prefix_rfl
  · rw [CallLog.responses, CallLog.responses, CallLog.answer, List.map_append]
    exact List.prefix_append _ _
  · exact List.prefix_rfl

/-- What a call had been through at any time of a run is the beginning of what
    it has been through at the end. -/
theorem callLog_grows (altSvc : AltSvcCache) (jar : Jar) (pre : List Action) (t : Nat) :
    ∀ {bs : List Action} {s : State cl},
      run step (State.fresh cl altSvc jar) (pre ++ bs) = some s →
      (callLog cl altSvc jar pre t).responses <+:
        (callLog cl altSvc jar (pre ++ bs) t).responses := by
  intro bs
  -- By the last action: only its own task adds to a log, and only at the end.
  induction bs using List.reverseRecOn with
  | nil =>
      intro s _
      rw [List.append_nil]
  | append_singleton bs a ih =>
      intro s hrun
      rw [← List.append_assoc] at hrun ⊢
      rcases run_concat_eq_some step hrun with ⟨s₁, hrun₁, hstep⟩
      refine (ih hrun₁).trans ?_
      rw [callLog, callLog, history_concat step hstep hrun₁]
      cases a with
      | driver session e => exact List.prefix_rfl
      | task t' input =>
          simp only [recordCall]
          by_cases ht : t = t'
          · rw [ht, Function.update_self]
            exact record_grows (logged_run altSvc jar hrun₁ t') input
          · rw [Function.update_of_ne ht]

end Quik
