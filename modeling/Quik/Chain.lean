import Quik.ClientMoves

/-!
# Redirect Chains of the Client

The hops a task goes through are a redirect chain. The interleaving with other
tasks, the transports and the fallbacks decide which responses a task gets and
when; how the loop variables follow from them is `nextHop` and nothing else.
What is proved of every chain therefore holds of every request the client
builds.

## Main definitions

* `Pc.hop?`: The loop variables of a task.
* `ChainFrom`: Loop variables a chain of responses leads to.

## Theorems

* `enterHop_ok`, `enterHop_cases`: Where the top of the loop leads.
* `nextHop_of_evaluate`: The end of the loop body is a turn of the chain.
* `task_hop_chain`: The loop variables of every task are a chain's.
* `buildRequest_headers`: And so is its request.
-/

namespace Quik

open Transition

variable {Jar : Type} {cl : Client Jar}

/-- The loop variables of a task. -/
def Pc.hop? {c : UrlCrate} : Pc c → Option Hop
  | .top hop _ => some hop
  | .inHop v _ => some v.hop
  | _ => none

/-- Loop variables that responses lead to from the beginning of a call. -/
def ChainFrom (c : UrlCrate) (hop : Hop) : Prop :=
  ∃ method url body responses, run (nextHop c) (Hop.initial method url body) responses = some hop

/-- A hop that follows a redirect takes a turn of the chain: what `nextHop`
    checks was checked at the top of the loop. -/
theorem nextHop_of_evaluate {c : UrlCrate} (v : Vars c) {resp : Response} {hop : Hop}
    (he : v.hop.evaluate c v.parsedUrl resp = .ok (some hop)) :
    nextHop c v.hop resp = some hop := by
  unfold nextHop
  rw [if_pos v.inRange, v.parsed]
  simp only [v.hasHost, he, if_true]

/-- A hop is entered if there is one left and its URL parses and has a host. -/
theorem enterHop_ok (s : State cl) (hop : Hop) (context : RequestContext) {u : Url}
    (hlimit : hop.hop < Hop.limit) (hparse : cl.crates.url.parse hop.currentUrlStr = .ok u)
    (hhost : u.host.isSome = true) :
    ∃ v : Vars cl.crates.url, v.hop = hop ∧ v.parsedUrl = u ∧
      enterHop s hop context = (.inHop v .cookies, [.ticket]) := by
  unfold enterHop
  rw [dif_pos hlimit]
  split
  · rename_i e he
    rw [hparse] at he
    exact absurd he (by simp only [reduceCtorEq, not_false_eq_true])
  · rename_i u' hu'
    rw [hparse, Except.ok.injEq] at hu'
    rw [dif_pos (hu' ▸ hhost)]
    exact ⟨_, rfl, hu'.symm, rfl⟩

/-- The top of the loop leads into a hop or ends the call in an error. -/
theorem enterHop_cases (s : State cl) (hop : Hop) (context : RequestContext) :
    (∃ v : Vars cl.crates.url, v.hop = hop ∧
      enterHop s hop context = (.inHop v .cookies, [.ticket])) ∨
    ∃ e, enterHop s hop context = (.done (.error e), []) := by
  unfold enterHop
  split
  · split
    · exact Or.inr ⟨_, rfl⟩
    · split
      · exact Or.inl ⟨_, rfl, rfl⟩
      · exact Or.inr ⟨_, rfl⟩
  · exact Or.inr ⟨_, rfl⟩

/-- A move keeps the loop variables, except where it follows a redirect. -/
theorem move_hop {s : State cl} {v : Vars cl.crates.url} {stage : Stage} {input : Input}
    {pc : Pc cl.crates.url} {fx : List Effect} (hm : StageMove s v stage input pc fx) {hop : Hop}
    (hh : pc.hop? = some hop) :
    hop = v.hop ∨ ∃ resp, nextHop cl.crates.url v.hop resp = some hop := by
  cases hm with
  | redirected resp hop' he =>
      rw [← Option.some.inj hh]
      exact Or.inr ⟨resp, nextHop_of_evaluate v he⟩
  | _ => first
    | exact Or.inl (Option.some.inj hh).symm
    | exact absurd hh (by simp only [Pc.hop?, reduceCtorEq, not_false_eq_true])

theorem chain_step {s s' : State cl} {a : Action}
    (hinv : ∀ t hop, (s.tasks t).hop? = some hop → ChainFrom cl.crates.url hop)
    (h : step s a = some s') :
    ∀ t hop, (s'.tasks t).hop? = some hop → ChainFrom cl.crates.url hop := by
  intro t' hop hh
  cases a with
  | driver session e =>
      rcases step_driver_eq_some h with ⟨d, d', _, _, rfl⟩
      exact hinv t' hop hh
  | task t input =>
      rcases step_task_eq_some h with ⟨pc, fx, hm, rfl⟩
      rcases State.after_tasks_eq (rfl : (s.after t pc fx).tasks t' = _) with ⟨_, heq⟩ | ⟨_, hold⟩
      · rw [← heq] at hh
        generalize htask : s.tasks t = pc₀ at hm
        cases hm with
        | call method url body context =>
            rw [← Option.some.inj hh]
            exact ⟨method, url, body, [], rfl⟩
        | enter v =>
            rw [← Option.some.inj hh]
            exact hinv t v.hop (by rw [htask]; rfl)
        | refuse => exact absurd hh (by simp only [Pc.hop?, reduceCtorEq, not_false_eq_true])
        | @stage v stage _ _ _ hm =>
            have hv : ChainFrom cl.crates.url v.hop := hinv t v.hop (by rw [htask]; rfl)
            rcases move_hop hm hh with rfl | ⟨resp, hnext⟩
            · exact hv
            -- A redirect was followed: one response more.
            · rcases hv with ⟨method, url, body, responses, hrun⟩
              exact ⟨method, url, body, responses ++ [resp], run_append_of_eq _ hrun
                (by rw [run_singleton, hnext])⟩
      · rw [← hold] at hh
        exact hinv t' hop hh

/-- The loop variables of every task, in every state a fresh client reaches,
    are those of a redirect chain. -/
theorem task_hop_chain (altSvc : AltSvcCache) (jar : Jar) {s : State cl}
    (h : Reachable step (State.fresh cl altSvc jar) s) {t : Nat} {hop : Hop}
    (hh : (s.tasks t).hop? = some hop) : ChainFrom cl.crates.url hop :=
  reachable_invariant step
    (I := fun s : State cl => ∀ t hop, (s.tasks t).hop? = some hop → ChainFrom cl.crates.url hop)
    (fun _ _ hc => absurd hc (by simp only [State.fresh, Pc.hop?, reduceCtorEq,
      not_false_eq_true])) (fun _ _ _ hi hs => chain_step hi hs) h t hop hh

/-- The request of a hop, normal or fallback, has the headers of the chain. -/
theorem buildRequest_headers {v : Vars cl.crates.url} {request : Request}
    (h : buildRequest v = .ok request) :
    request.headers = v.hop.requestHeaders cl.crates.url cl.profile v.parsedUrl v.cookieHeader
      v.context v.acceptCh :=
  (buildRequest_eq_ok h).2.2

end Quik
