import Quik.CallBound

/-!
# What a Call Reports

A call that fails over HTTP/3 goes on over HTTP/2, and a failure there ends it.
So of everything that goes wrong during a call, its caller hears of one thing at
most: the first failure on the HTTP/2 side, word for word, if there is one. That
is a dial, a request or a response that fails; a pooled connection that `ready()`
finds dead is given up for another and does not count. What else ends a call with
an error is the client's own doing, a URL it cannot use or the limit on
redirects. No failure of an HTTP/3 dial, of a session or of its driver is ever
the result of a call (`call_reports`).

## Main definitions

* `tcpFailure`: What a step of a call learns of a failure over HTTP/2.
* `tcpFailures`: All of it, for each call.
* `OwnError`: The errors the client makes itself.
* `Reports`: How a call stands to the failures it has seen.

## Theorems

* `stage_reports`: One move of a hop.
* `call_reports`: A whole run.
-/

namespace Quik

open Transition

variable {Jar : Type} {cl : Client Jar}

/-- The error of a dial that has failed. -/
def DialOutcome.cause? : DialOutcome → Option Error
  | .unreachable cause | .broken _ cause => some cause
  | .connected _ _ => none

/-- The failure a move of a hop learns of over HTTP/2: of a dial, of a request
    that is refused, or of a response that does not come. A request that cannot
    be built is not handed over. -/
def stageFailure (v : Vars cl.crates.url) : Stage → Input → Option Error
  | .dial, .dial outcome => if v.hasAltSvc then none else outcome.cause?
  | .fallbackDial, .dial outcome | .midDial, .dial outcome => outcome.cause?
  | .send (.http2 _), .transmit refused | .midSend _, .transmit refused =>
    match buildRequest v with
    | .ok _ => refused
    | .error _ => none
  | .awaitH2 _ _, .respond (.error e) | .midAwait _ _, .respond (.error e) => some e
  | _, _ => none

/-- The failure a step of task `t` learns of over HTTP/2. -/
def tcpFailure (s : State cl) (t : Nat) (input : Input) : Option Error :=
  match s.tasks t with
  | .inHop v stage => stageFailure v stage input
  | _ => none

/-- The failures each call has learnt of, step by step. -/
def recordFailure (log : Nat → List Error) (s : State cl) : Action → Nat → List Error
  | .task t input => Function.update log t (log t ++ (tcpFailure s t input).toList)
  | .driver _ _ => log

def tcpFailures (cl : Client Jar) (altSvc : AltSvcCache) (jar : Jar) (as : List Action) :
    Nat → List Error :=
  history step recordFailure (fun _ => []) (State.fresh cl altSvc jar) as

/-- The errors the client makes itself. -/
def OwnError (e : Error) : Prop :=
  (∃ text, e = .invalidUrl text) ∨ e = .connect "Redirect limit exceeded (max 10)"

/-- A call goes on while it has seen no failure, and ends with the first. -/
def Reports {c : UrlCrate} (failures : List Error) : Pc c → Prop
  | .done (.error e) => failures = [e] ∨ failures = [] ∧ OwnError e
  | _ => failures = []

theorem cause_of_dialResult {s : State cl} {u : Url} {dialH3 : Bool} {outcome : DialOutcome}
    {e : Error} (h : dialResult s u dialH3 outcome = .error e) : outcome.cause? = some e := by
  cases outcome with
  | unreachable | broken => exact congrArg some (Except.error.inj h)
  | connected => cases h

theorem cause_of_dialResult_ok {s : State cl} {u : Url} {dialH3 : Bool} {outcome : DialOutcome}
    {h : Handle} (hr : dialResult s u dialH3 outcome = .ok h) : outcome.cause? = none := by
  cases outcome with
  | unreachable | broken => cases hr
  | connected => rfl

theorem ownError_of_buildRequest {v : Vars cl.crates.url} {e : Error}
    (h : buildRequest v = .error e) : OwnError e := by
  unfold buildRequest at h
  split at h
  · exact Or.inl ⟨_, (Except.error.inj h).symm⟩
  · cases h

theorem ownError_of_evaluate {c : UrlCrate} {hop : Hop} {u : Url} {resp : Response} {e : Error}
    (h : hop.evaluate c u resp = .error e) : OwnError e := by
  unfold Hop.evaluate at h
  split at h
  · cases h
  · split at h
    · exact Or.inl ⟨_, (Except.error.inj h).symm⟩
    · cases h

theorem ownError_of_enterHop {s : State cl} {hop : Hop} {context : RequestContext} {e : Error}
    {fx : List Effect} (h : enterHop s hop context = (.done (.error e), fx)) : OwnError e := by
  unfold enterHop at h
  split at h
  · split at h
    · cases h
      exact Or.inl ⟨_, rfl⟩
    · split at h
      · cases h
      · cases h
        exact Or.inl ⟨_, rfl⟩
  · cases h
    exact Or.inr rfl

/-- A move of a hop reports what it learns. -/
theorem stage_reports {s : State cl} {v : Vars cl.crates.url} {stage : Stage} {input : Input}
    {pc : Pc cl.crates.url} {fx : List Effect} (hm : StageMove s v stage input pc fx) :
    Reports (stageFailure v stage input).toList pc := by
  cases hm with
  | dialed outcome h hres =>
      simp only [Reports, stageFailure, cause_of_dialResult_ok hres, ite_self, Option.toList_none]
  | dialH3Failed outcome e hres halt =>
      simp only [Reports, stageFailure, halt, if_true, Option.toList_none]
  | dialH2Failed outcome e hres halt =>
      left
      simp only [stageFailure, halt, Bool.false_eq_true, if_false, cause_of_dialResult hres,
        Option.toList_some]
  | fallbackDialed outcome h hres | midDialed outcome h hres =>
      simp only [Reports, stageFailure, cause_of_dialResult_ok hres, Option.toList_none]
  | fallbackDialFailed outcome e hres | midDialFailed outcome e hres =>
      left
      simp only [stageFailure, cause_of_dialResult hres, Option.toList_some]
  | sendUnbuilt conn _ e hb =>
      refine Or.inr ⟨?_, ownError_of_buildRequest hb⟩
      rcases conn with conn | session <;> cases input <;>
        simp only [stageFailure, hb, Option.toList_none]
  | midSendUnbuilt conn refused e hb =>
      refine Or.inr ⟨?_, ownError_of_buildRequest hb⟩
      simp only [stageFailure, hb, Option.toList_none]
  | sendRefused conn request e hb | midSendRefused conn request e hb =>
      left
      simp only [stageFailure, hb, Option.toList_some]
  | sendH2 conn request hb | midSend conn request hb =>
      simp only [Reports, stageFailure, hb, Option.toList_none]
  | failH2 | midFail => exact Or.inl rfl
  | redirectFailed resp e he => exact Or.inr ⟨rfl, ownError_of_evaluate he⟩
  | _ => rfl

/-- In every run of a fresh client each call that has ended with an error has
    seen that one failure of a dial, a request or a response over HTTP/2, or none
    and then the error is the client's own; a call that has not has seen none. -/
theorem call_reports (altSvc : AltSvcCache) (jar : Jar) {as : List Action} {s : State cl}
    (hrun : run step (State.fresh cl altSvc jar) as = some s) (t : Nat) :
    Reports (tcpFailures cl altSvc jar as t) (s.tasks t) := by
  have hfresh : ∀ t, Reports [] ((State.fresh cl altSvc jar).tasks t) := fun _ => rfl
  refine history_invariant step
    (J := fun (log : Nat → List Error) (s : State cl) => ∀ t, Reports (log t) (s.tasks t))
    (fun log s a s' hJ hs t => ?_) hfresh hrun t
  rcases step_eq_some hs with ⟨t', input, pc, fx, rfl, hstep, rfl⟩ | ⟨hnone, htasks, _⟩
  · by_cases ht : t = t'
    · have hold := hJ t'
      rw [ht, State.after_task, recordFailure, Function.update_self, tcpFailure]
      generalize s.tasks t' = pc₀ at hstep hold
      cases hm : taskStep_eq_some hstep with
      | stage hmove =>
          rw [show log t' = [] from hold, List.nil_append]
          exact stage_reports hmove
      | call | enter => exact (List.append_nil _).trans hold
      | refuse hop context e =>
          refine Or.inr ⟨(List.append_nil _).trans hold, ?_⟩
          exact ownError_of_enterHop (Option.some.inj hstep)
    · rw [State.after_tasks, Function.update_of_ne ht, recordFailure, Function.update_of_ne ht]
      exact hJ t
  · cases a with
    | task => cases hnone
    | driver =>
        rw [htasks]
        exact hJ t

/-- The HTTP/3 dial of a call fails, and then its HTTP/2 dial. -/
def bothDialsFail : List Action :=
  ([ .call "GET" "https://a.test/" none .navigate, .go, .go, .go, .go, .go, .go,
    .dial (.unreachable (.connect "network is unreachable")), .go, .go, .go,
    .dial (.unreachable (.connect "connection refused")) ] : List Input).map (.task 0)

/-- What its caller hears of is the second. -/
theorem call_reports_bothDialsFail :
    ∃ s, run step cachedA bothDialsFail = some s ∧
      tcpFailures direct (AltSvcCache.new.insert "a.test:443" "h3=\":443\"") () bothDialsFail 0 =
        [.connect "connection refused"] ∧
      Reports (tcpFailures direct (AltSvcCache.new.insert "a.test:443" "h3=\":443\"") ()
        bothDialsFail 0) (s.tasks 0) := by
  have hrun : (run step cachedA bothDialsFail).isSome = true := by decide +kernel
  rcases Option.isSome_iff_exists.mp hrun with ⟨s, hs⟩
  exact ⟨s, hs, by decide +kernel, call_reports _ () hs 0⟩

end Quik
