import Quik.CallLog

/-!
# The Redirect Limit

How many redirects a call follows. The loop makes at most ten hops, and a hop
is a request, so at most nine redirects are followed to a response that is
returned: the tenth is followed too, but there is no hop left for where it
leads. The comment over the loop counts ten redirects.

What servers would answer is a list of responses, of which a call reads as many
as it comes to. `Follows` says that the first of them are redirects with a
location that resolves, and where they lead.

## Main definitions

* `Follows`: Redirects that lead from one URL to another.
* `LimitLaw`: What a call returns, by the number of redirects.

## Theorems

* `follows_run`: A call that has followed some of them goes on with the rest.
* `deciding_answer`, `deciding_limit`: How a call ends that is not broken off.
* `redirect_limit_iff`: The law holds unless there are exactly ten.
-/

namespace Quik

open Transition

variable {Jar : Type} {cl : Client Jar}

/-- The responses are redirects with a usable location that lead, one after
    the other, from the first URL to the last one. -/
inductive Follows (c : UrlCrate) : String → List Response → String → Prop where
  | nil {url u} (hparse : c.parse url = .ok u) (hhost : u.host.isSome = true) :
      Follows c url [] url
  | cons {url u resp locStr next rs last} (hparse : c.parse url = .ok u)
      (hhost : u.host.isSome = true) (hloc : Hop.locationOf resp = some locStr)
      (hjoin : c.join u locStr = .ok next) (hrest : Follows c next.asStr rs last) :
      Follows c url (resp :: rs) last

/-- The error a call returns when there is no hop left. -/
def limitError : Error :=
  .connect "Redirect limit exceeded (max 10)"

/-- What a call returns after `redirects` redirects and an answer. -/
structure LimitLaw (redirects : Nat) (answer : Response) (res : Except Error Response) : Prop where
  within : redirects ≤ 10 → res = .ok answer
  beyond : 10 < redirects → res = .error limitError

theorem Follows.parses {c : UrlCrate} {url last : String} {rs : List Response}
    (h : Follows c url rs last) : ∃ u, c.parse url = .ok u ∧ u.host.isSome = true := by
  cases h with
  | nil hparse hhost => exact ⟨_, hparse, hhost⟩
  | cons hparse hhost => exact ⟨_, hparse, hhost⟩

/-- A call that has followed the first of the redirects has the rest before
    it. -/
theorem follows_run {c : UrlCrate} {last : String} : ∀ {seen rs : List Response} {h h' : Hop},
    Follows c h.currentUrlStr rs last → seen <+: rs → run (nextHop c) h seen = some h' →
      ∃ rest, rs = seen ++ rest ∧ Follows c h'.currentUrlStr rest last := by
  intro seen
  induction seen with
  | nil =>
      intro rs h h' hf _ hrun
      simp only [run_nil, Option.some.injEq] at hrun
      exact ⟨rs, rfl, hrun ▸ hf⟩
  | cons resp seen ih =>
      intro rs h h' hf hpre hrun
      rcases run_cons_eq_some _ hrun with ⟨g, hnext, hrest⟩
      cases hf with
      | nil => exact absurd (List.prefix_nil.mp hpre) (List.cons_ne_nil _ _)
      | cons hparse hhost hloc hjoin hf' =>
          rcases List.cons_prefix_cons.mp hpre with ⟨rfl, hpre'⟩
          rcases nextHop_locationOf hparse hnext with ⟨locStr, next, hloc', hjoin', hfollow⟩
          rw [hloc, Option.some.injEq] at hloc'
          rw [← hloc', hjoin, Except.ok.injEq] at hjoin'
          rw [hjoin', show next.asStr = g.currentUrlStr by rw [hfollow]; rfl] at hf'
          rcases ih hf' hpre' hrest with ⟨rest, hrs, hf''⟩
          exact ⟨rest, by rw [hrs, List.cons_append], hf''⟩

/-- What a call has followed are redirects, so an answer is not among it. -/
theorem followed_before {c : UrlCrate} {h h' : Hop} {seen rs : List Response} {answer : Response}
    (hans : Hop.locationOf answer = none) (hpre : seen <+: rs ++ [answer])
    (hrun : run (nextHop c) h seen = some h') : seen <+: rs := by
  rcases List.prefix_concat_iff.mp hpre with heq | hpre'
  · rw [heq] at hrun
    rcases run_concat_eq_some _ hrun with ⟨g, _, hnext⟩
    rcases nextHop_eq_some hnext with ⟨u, _, _, hu, _⟩
    rcases nextHop_locationOf hu hnext with ⟨locStr, _, hloc, _⟩
    rw [hans] at hloc
    exact absurd hloc (by simp only [reduceCtorEq, not_false_eq_true])
  · exact hpre'

/-- A call that ends at the top of the loop, with redirects still to follow or
    their target still to fetch, has used up its hops. -/
theorem deciding_limit {s : State cl} {hop : Hop} {context : RequestContext} {rest : List Response}
    {last : String} {res : Except Error Response} {fx : List Effect}
    (hf : Follows cl.crates.url hop.currentUrlStr rest last)
    (h : taskStep s (.top hop context) .go = some (.done res, fx)) :
    Hop.limit ≤ hop.hop ∧ res = .error limitError := by
  rcases hf.parses with ⟨u, hu, hhost⟩
  have henter : enterHop s hop context = (.done res, fx) := Option.some.inj h
  by_cases hl : hop.hop < Hop.limit
  · rcases enterHop_ok s hop context hl hu hhost with ⟨v, _, _, hin⟩
    rw [hin, Prod.mk.injEq] at henter
    exact absurd henter.1 (by simp only [reduceCtorEq, not_false_eq_true])
  · rw [enterHop, dif_neg hl, Prod.mk.injEq] at henter
    exact ⟨Nat.le_of_not_lt hl, (Pc.done.inj henter.1).symm⟩

/-- A call that ends where a response is evaluated has come to the answer. -/
theorem deciding_answer {s : State cl} {v : Vars cl.crates.url} {resp answer : Response}
    {rest : List Response} {last : String} {res : Except Error Response} {fx : List Effect}
    (hf : Follows cl.crates.url v.hop.currentUrlStr rest last)
    (hans : Hop.locationOf answer = none) (hpre : [resp] <+: rest ++ [answer])
    (h : taskStep s (.inHop v (.redirect resp)) .go = some (.done res, fx)) :
    rest = [] ∧ res = .ok (answer.setUrl last) := by
  simp only [taskStep, stageStep] at h
  cases hf with
  | nil =>
      rw [List.nil_append, List.cons_prefix_cons] at hpre
      have he : v.hop.evaluate cl.crates.url v.parsedUrl answer = .ok none := by
        rw [Hop.evaluate, hans]
      simp only [hpre.1, he, Option.some.injEq, Prod.mk.injEq, Pc.done.injEq] at h
      exact ⟨rfl, h.1.symm⟩
  | cons hparse hhost hloc hjoin =>
      -- The response is a redirect that can be followed, and the call goes on.
      rw [List.cons_append, List.cons_prefix_cons] at hpre
      rw [v.parsed, Except.ok.injEq] at hparse
      rw [← hparse] at hjoin
      simp only [hpre.1, Hop.evaluate, hloc, hjoin, Option.some.injEq, Prod.mk.injEq,
        reduceCtorEq, false_and] at h

/-- A call that is at the top of its loop when it ends has followed ten
    redirects, and it is the limit that ends it. -/
theorem ends_at_top {s : State cl} {l : CallLog} {hop : Hop} {context : RequestContext}
    {fx : List Effect} {res : Except Error Response} {rs : List Response} {answer : Response}
    {last : String} (hlog : LoggedPc cl.crates.url l (.top hop context))
    (hfollows : Follows cl.crates.url l.first.currentUrlStr rs last)
    (hanswer : Hop.locationOf answer = none) (hserved : l.responses <+: rs ++ [answer])
    (h : taskStep s (.top hop context) .go = some (.done res, fx)) :
    10 ≤ rs.length ∧ res = .error limitError := by
  rcases hlog with ⟨hfirst, hleads, _, _⟩
  rcases follows_run hfollows (followed_before hanswer hserved hleads) hleads with
    ⟨rest, hrs, hrest⟩
  rcases deciding_limit hrest h with ⟨hlimit, hres⟩
  have hhop := run_hop hleads
  have hlimit' : 10 ≤ hop.hop := hlimit
  rw [hrs, List.length_append]
  exact ⟨by omega, hres⟩

/-- A call that ends where a response is evaluated has followed fewer, and
    returns the answer. -/
theorem ends_at_answer {s : State cl} {l : CallLog} {v : Vars cl.crates.url} {resp : Response}
    {fx : List Effect} {res : Except Error Response} {rs : List Response} {answer : Response}
    {last : String} (hlog : LoggedPc cl.crates.url l (.inHop v (.redirect resp)))
    (hfollows : Follows cl.crates.url l.first.currentUrlStr rs last)
    (hanswer : Hop.locationOf answer = none)
    (hserved : (l.answer v.parsedUrl resp).responses <+: rs ++ [answer])
    (h : taskStep s (.inHop v (.redirect resp)) .go = some (.done res, fx)) :
    rs.length < 10 ∧ res = .ok (answer.setUrl last) := by
  rcases hlog with ⟨hfirst, hleads, _⟩
  have hall : (l.answer v.parsedUrl resp).responses = l.responses ++ [resp] := by
    rw [CallLog.responses, CallLog.answer, List.map_append]
    rfl
  rw [hall] at hserved
  have hseen := followed_before hanswer ((List.prefix_append _ _).trans hserved) hleads
  rcases follows_run hfollows hseen hleads with ⟨rest, hrs, hrest⟩
  -- The response just evaluated is the next one served.
  rw [hrs, List.append_assoc, List.prefix_append_right_inj] at hserved
  rcases deciding_answer hrest hanswer hserved h with ⟨hnil, hres⟩
  have hhop := run_hop hleads
  have hrange : v.hop.hop < 10 := v.inRange
  rw [hrs, hnil, List.append_nil]
  exact ⟨by omega, hres⟩

/-- What a step of a task that ends its call has done. -/
theorem step_done {s s' : State cl} {t : Nat} {input : Input} {res : Except Error Response}
    (h : step s (.task t input) = some s') (hdone : s'.tasks t = .done res) :
    ∃ fx, taskStep s (s.tasks t) input = some (.done res, fx) := by
  simp only [step] at h
  split at h
  · exact absurd h (by simp only [reduceCtorEq, not_false_eq_true])
  · rename_i pc fx hstep
    rw [← Option.some.inj h, State.after_task] at hdone
    exact ⟨fx, hdone ▸ hstep⟩

/-- In every run of a client no call makes more than eleven hops. A call that
    is not broken off by a failure of a connection, and is served a number of
    redirects and then an answer, as far as it asks, keeps the law exactly if
    the number is not ten. -/
theorem redirect_limit_iff (altSvc : AltSvcCache) (jar : Jar) {as : List Action} {s : State cl}
    (hrun : run step (State.fresh cl altSvc jar) as = some s) (t : Nat) :
    (callLog cl altSvc jar as t).hops ≤ 11 ∧
    ∀ s' res rs answer last, step s (.task t .go) = some s' → (s.tasks t).deciding = true →
      s'.tasks t = .done res → Hop.locationOf answer = none →
      Follows cl.crates.url
        (callLog cl altSvc jar (as ++ [.task t .go]) t).first.currentUrlStr rs last →
      (callLog cl altSvc jar (as ++ [.task t .go]) t).responses <+: rs ++ [answer] →
      (LimitLaw rs.length (answer.setUrl last) res ↔ rs.length ≠ 10) := by
  have hlog := logged_run altSvc jar hrun t
  refine ⟨Nat.le_trans hlog.bounded (by decide), ?_⟩
  intro s' res rs answer last hstep hdeciding hdone hanswer hfollows hserved
  have hcall : callLog cl altSvc jar (as ++ [.task t .go]) t =
      (callLog cl altSvc jar as t).record s (s.tasks t) .go := by
    rw [callLog, history_concat step hstep hrun]
    simp only [recordCall, Function.update_self]
    rfl
  rw [hcall] at hfollows hserved
  rcases step_done hstep hdone with ⟨fx, htask⟩
  -- The call ends at the top of the loop, or where a response is evaluated.
  have hends : (10 ≤ rs.length ∧ res = .error limitError) ∨
      (rs.length < 10 ∧ res = .ok (answer.setUrl last)) := by
    generalize s.tasks t = pc at hlog hdeciding hfollows hserved htask
    cases pc with
    | idle | done => exact absurd hdeciding Bool.false_ne_true
    | top hop context =>
        have henter : enterHop s hop context = (.done res, fx) := Option.some.inj htask
        simp only [CallLog.record, henter] at hfollows hserved
        exact Or.inl (ends_at_top hlog hfollows hanswer hserved htask)
    | inHop v stage =>
        cases stage with
        | redirect resp => exact Or.inr (ends_at_answer hlog hfollows hanswer hserved htask)
        | _ => exact absurd hdeciding Bool.false_ne_true
  rcases hends with ⟨hlen, hres⟩ | ⟨hlen, hres⟩
  · constructor
    · intro hlaw hten
      have hok := hlaw.within (Nat.le_of_eq hten)
      rw [hres] at hok
      exact absurd hok (by simp only [reduceCtorEq, not_false_eq_true])
    · intro hne
      exact ⟨fun hle => absurd (Nat.le_antisymm hle hlen) hne, fun _ => hres⟩
  · exact ⟨fun _ => Nat.ne_of_lt hlen, fun _ =>
      ⟨fun _ => hres, fun hgt => absurd hgt (Nat.lt_asymm hlen)⟩⟩

section Example

/-- A redirect from https://a.test/ to itself. -/
def selfRedirect : HeaderMap :=
  (redirectTo "https://a.test/").headers

/-- The same, as the client hands it on. -/
def selfRedirected : Response :=
  h2Response "https://a.test/" (.found, selfRedirect, 0)

def plainAnswer : Response :=
  h2Response "https://a.test/" (.ok, HeaderMap.new, 0)

/-- A first hop, with a dial, up to the evaluation of the response. -/
def firstHop (r : StatusCode × HeaderMap × Nat) : List Input :=
  [ .go, .go, .go, .go, .go, .go, .dial (.connected { ip := .v4 0, port := 443 } none),
    .transmit none, .respond (.ok r), .go, .go, .go ]

/-- A later hop on the same connection, from the evaluation before it. -/
def laterHop (r : StatusCode × HeaderMap × Nat) : List Input :=
  [ .go, .go, .go, .go, .go, .go, .ready true, .transmit none, .respond (.ok r), .go, .go, .go ]

/-- A call whose first hop gets one response and whose later hops another,
    up to the evaluation of the last. -/
def hopsOf (first later : StatusCode × HeaderMap × Nat) (n : Nat) : List Action :=
  (.call "GET" "https://a.test/" none .navigate :: firstHop first ++
    (List.replicate n (laterHop later)).flatten).map (.task 0)

/-- One redirect and then an answer; ten redirects. -/
def oneRedirect : List Action :=
  hopsOf (.found, selfRedirect, 0) (.ok, .new, 0) 1

def tenRedirects : List Action :=
  hopsOf (.found, selfRedirect, 0) (.found, selfRedirect, 0) 9

theorem follows_self : ∀ n : Nat, Follows direct.crates.url "https://a.test/"
    (List.replicate n selfRedirected) "https://a.test/" := by
  have hparse : direct.crates.url.parse "https://a.test/" = .ok siteA := by decide +kernel
  have hjoin : direct.crates.url.join siteA "https://a.test/" = .ok siteA := by decide +kernel
  have hloc : Hop.locationOf selfRedirected = some "https://a.test/" := by decide +kernel
  have htext : siteA.asStr = "https://a.test/" := by decide +kernel
  intro n
  induction n with
  | zero => exact .nil hparse rfl
  | succ n ih => exact .cons hparse rfl hloc hjoin (htext.symm ▸ ih)

/-- One redirect is followed to the answer. -/
theorem one_redirect_returned :
    ∃ s s' res, run step (State.fresh direct .new ()) oneRedirect = some s ∧
      step s (.task 0 .go) = some s' ∧ s'.tasks 0 = .done res ∧
      LimitLaw 1 (plainAnswer.setUrl "https://a.test/") res := by
  have hdecides : (run step (State.fresh direct .new ()) oneRedirect).map
      (fun s => (s.tasks 0).deciding) = some true := by
    decide +kernel
  have hends : (run step (State.fresh direct .new ()) (oneRedirect ++ [.task 0 .go])).bind
      (fun s => (s.tasks 0).result?) = some (.ok (plainAnswer.setUrl "https://a.test/")) := by
    decide +kernel
  have hfirst : (callLog direct .new () (oneRedirect ++ [.task 0 .go]) 0).first.currentUrlStr =
      "https://a.test/" := by
    decide +kernel
  have hserved : (callLog direct .new () (oneRedirect ++ [.task 0 .go]) 0).responses =
      [selfRedirected] ++ [plainAnswer] := by
    decide +kernel
  rcases Option.map_eq_some_iff.mp hdecides with ⟨s, hs, hdeciding⟩
  rcases Option.bind_eq_some_iff.mp hends with ⟨s', hs', hres⟩
  rcases run_concat_eq_some step hs' with ⟨s₁, hs₁, hstep⟩
  rw [hs, Option.some.injEq] at hs₁
  rw [← hs₁] at hstep
  have hdone := Pc.result?_eq_some hres
  have hanswer : Hop.locationOf plainAnswer = none := by decide +kernel
  have hfollows := follows_self 1
  rw [← hfirst] at hfollows
  exact ⟨s, s', _, hs, hstep, hdone, ((redirect_limit_iff .new () hs 0).2 s' _ _ _ _ hstep
    hdeciding hdone hanswer hfollows (hserved ▸ List.prefix_rfl)).mpr (by decide)⟩

/-- After ten redirects the limit is reported, whatever comes next: the call
    never asks for it. -/
theorem ten_redirects_refused :
    ∃ s, run step (State.fresh direct .new ()) (tenRedirects ++ [.task 0 .go, .task 0 .go]) =
        some s ∧ s.tasks 0 = .done (.error limitError) ∧
      (callLog direct .new () (tenRedirects ++ [.task 0 .go, .task 0 .go]) 0).responses =
        List.replicate 10 selfRedirected ∧
      Follows direct.crates.url "https://a.test/" (List.replicate 10 selfRedirected)
        "https://a.test/" ∧
      ¬ LimitLaw 10 (plainAnswer.setUrl "https://a.test/") (.error limitError) := by
  have hends : (run step (State.fresh direct .new ())
      (tenRedirects ++ [.task 0 .go, .task 0 .go])).bind (fun s => (s.tasks 0).result?) =
        some (.error limitError) := by
    decide +kernel
  have hserved : (callLog direct .new () (tenRedirects ++ [.task 0 .go, .task 0 .go]) 0).responses =
      List.replicate 10 selfRedirected := by
    decide +kernel
  rcases Option.bind_eq_some_iff.mp hends with ⟨s, hs, hres⟩
  refine ⟨s, hs, Pc.result?_eq_some hres, hserved, follows_self 10, fun hlaw => ?_⟩
  exact absurd (hlaw.within (Nat.le_refl 10)) (by simp only [reduceCtorEq, not_false_eq_true])

end Example

end Quik
