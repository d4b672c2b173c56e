import Quik.Library.Transition
import Quik.Request

/-!
# The Redirect Loop

What the request runner carries from one hop to the next, and the evaluation
of a response that may be a redirect.

`Hop` is the record of the loop's mutable variables. `Hop.evaluate` is the end
of the loop body: it resolves the `Location`, rotates the method, updates the
site relation, and moves the current URL into the place the referer is made
from. The relation is updated only while no cross-site step has been taken, so
`isCrossSite` is a latch and `secFetchSite` follows the last step until the
latch closes.

`nextHop` is one turn of the loop with the connection left out: parse the
current URL, require a host, evaluate the response. It is the transition
function of a redirect chain, with the responses as actions.

## Main definitions

* `Hop`, `Hop.initial`: The loop variables.
* `Hop.refererToSend`: The referer for a hop's request.
* `Hop.evaluate`: Redirect, or the end of the chain.
* `nextHop`: One turn of the loop, as a transition.
* `visitedSteps`: The pairs of URLs a chain steps between.

## Theorems

* `evaluate_eq_some`: What a followed redirect does to the variables.
* `nextHop_eq_some`: The same, for a turn of the loop.
* `chain_induction`: Induction along a chain, over the pairs visited.
-/

namespace Quik

open Transition

/-- The variables `execute_with_redirects` carries across hops. -/
structure Hop where
  currentUrlStr : String
  currentMethod : String
  currentBody : Option Bytes
  previousUrlStr : Option String := none
  secFetchSite : String := "none"
  isCrossSite : Bool := false
  hop : Nat := 0
deriving DecidableEq

namespace Hop

/-- The loop runs over `0..10`. -/
def limit : Nat := 10

/-- The variables before the first hop. -/
def initial (method url : String) (body : Option Bytes) : Hop :=
  { currentUrlStr := url, currentMethod := method, currentBody := body }

/-- `referer_to_send`: the previous URL's origin after a cross-site step, the
    previous URL's own text otherwise. -/
def refererToSend (c : UrlCrate) (h : Hop) : Option String :=
  h.previousUrlStr.map (fun prev =>
    if h.isCrossSite then
      match c.parse prev with
      | .ok prevUrl => prevUrl.origin.asciiSerialization ++ "/"
      -- A text that does not parse is sent as it is.
      | .error _ => prev
    else prev)

/-- The headers of the hop's request to `parsed`. -/
def requestHeaders (c : UrlCrate) (h : Hop) (profile : ChromeProfile) (parsed : Url)
    (cookieHeader : Option String) (context : RequestContext) (acceptCh : Bool) : HeaderMap :=
  Quik.requestHeaders profile h.currentMethod parsed cookieHeader h.secFetchSite (h.hop = 0)
    context acceptCh (h.refererToSend c)

/-- The site relation and the latch after a step from `parsed` to `next`. -/
def updateSite (h : Hop) (parsed next : Url) : String × Bool :=
  -- A closed latch keeps both.
  if h.isCrossSite then (h.secFetchSite, true)
  else if sameOrigin next parsed then ("same-origin", false)
  else if next.domain = parsed.domain then ("same-site", false)
  else ("cross-site", true)

/-- The variables after following a redirect from `parsed` to `next`. -/
def follow (h : Hop) (parsed next : Url) (status : StatusCode) : Hop where
  currentUrlStr := next.asStr
  currentMethod := if status.rotatesMethod then "GET" else h.currentMethod
  currentBody := if status.rotatesMethod then none else h.currentBody
  previousUrlStr := some h.currentUrlStr
  secFetchSite := (h.updateSite parsed next).1
  isCrossSite := (h.updateSite parsed next).2
  hop := h.hop + 1

/-- The reference a redirect response names, if it is one: the first
    `location`, read as the empty string when it is not text. -/
def locationOf (resp : Response) : Option String :=
  if resp.status.isRedirection then
    (resp.headers.get "location").map (fun location => location.toStr.getD "")
  else none

/-- The end of the loop body: `none` when the response is the answer. -/
def evaluate (c : UrlCrate) (h : Hop) (parsed : Url) (resp : Response) :
    Except Error (Option Hop) :=
  match locationOf resp with
  | none => .ok none
  | some locStr =>
    match c.join parsed locStr with
    | .error e => .error (.invalidUrl e)
    | .ok next => .ok (some (h.follow parsed next resp.status))

end Hop

/-- A redirect to `location` that carries nothing else. -/
def redirectTo (location : String) : Response where
  status := .found
  headers := HeaderMap.new.insertOk "location" (HeaderValue.fromStr location)
  body := .http3 []
  url := ""

/-- One turn of the loop on a response, if the chain goes on. -/
def nextHop (c : UrlCrate) (h : Hop) (resp : Response) : Option Hop :=
  if h.hop < Hop.limit then
    match c.parse h.currentUrlStr with
    | .error _ => none
    | .ok parsed =>
      if parsed.host.isSome then
        match h.evaluate c parsed resp with
        | .ok next => next
        | .error _ => none
      else none
  else none

/-- The consecutive pairs of URLs a chain of responses leads through: the URL
    each followed hop was made to, and the one the next hop is made to. -/
def visitedSteps (c : UrlCrate) (h : Hop) (rs : List Response) : List (Url × Url) :=
  (edges (nextHop c) h rs).filterMap (fun e =>
    match c.parse e.1.currentUrlStr, c.parse e.2.currentUrlStr with
    | .ok u, .ok w => some (u, w)
    | _, _ => none)

/-- A followed redirect resolves the response's location. -/
theorem evaluate_eq_some {c : UrlCrate} {h h' : Hop} {parsed : Url} {resp : Response}
    (he : h.evaluate c parsed resp = .ok (some h')) :
    ∃ locStr next, Hop.locationOf resp = some locStr ∧ c.join parsed locStr = .ok next ∧
      h' = h.follow parsed next resp.status := by
  unfold Hop.evaluate at he
  cases hl : Hop.locationOf resp with
  | none =>
      rw [hl] at he
      exact absurd he (by simp only [Except.ok.injEq, reduceCtorEq, not_false_eq_true])
  | some locStr =>
      rw [hl] at he
      cases hj : c.join parsed locStr with
      | error e =>
          simp only [hj] at he
          exact absurd he (by simp only [reduceCtorEq, not_false_eq_true])
      | ok next =>
          simp only [hj, Except.ok.injEq, Option.some.injEq] at he
          exact ⟨locStr, next, rfl, hj, he.symm⟩

/-- A turn of the loop parses the current URL, finds a host in it and follows
    the response's location. -/
theorem nextHop_eq_some {c : UrlCrate} {h h' : Hop} {resp : Response}
    (hn : nextHop c h resp = some h') :
    ∃ parsed locStr next, c.parse h.currentUrlStr = .ok parsed ∧ parsed.host.isSome = true ∧
      c.join parsed locStr = .ok next ∧ h' = h.follow parsed next resp.status := by
  unfold nextHop at hn
  by_cases hl : h.hop < Hop.limit
  · rw [if_pos hl] at hn
    cases hp : c.parse h.currentUrlStr with
    | error e =>
        rw [hp] at hn
        exact absurd hn (by simp only [reduceCtorEq, not_false_eq_true])
    | ok parsed =>
        simp only [hp] at hn
        by_cases hh : parsed.host.isSome = true
        · rw [if_pos hh] at hn
          cases he : h.evaluate c parsed resp with
          | error e => simp only [he, reduceCtorEq] at hn
          | ok next =>
              simp only [he] at hn
              rw [hn] at he
              rcases evaluate_eq_some he with ⟨locStr, next, _, hj, hf⟩
              exact ⟨parsed, locStr, next, rfl, hh, hj, hf⟩
        · rw [if_neg hh] at hn
          exact absurd hn (by simp only [reduceCtorEq, not_false_eq_true])
  · rw [if_neg hl] at hn
    exact absurd hn (by simp only [reduceCtorEq, not_false_eq_true])

/-- A turn of the loop from a URL that parses follows the location it reads. -/
theorem nextHop_locationOf {c : UrlCrate} {h h' : Hop} {resp : Response} {u : Url}
    (hu : c.parse h.currentUrlStr = .ok u) (hn : nextHop c h resp = some h') :
    ∃ locStr next, Hop.locationOf resp = some locStr ∧ c.join u locStr = .ok next ∧
      h' = h.follow u next resp.status := by
  unfold nextHop at hn
  split at hn
  · rw [hu] at hn
    simp only at hn
    split at hn
    · split at hn
      · rename_i next he
        rw [hn] at he
        exact evaluate_eq_some he
      · exact absurd hn (by simp only [reduceCtorEq, not_false_eq_true])
    · exact absurd hn (by simp only [reduceCtorEq, not_false_eq_true])
  · exact absurd hn (by simp only [reduceCtorEq, not_false_eq_true])

/-- A turn of the loop with the URL of the next hop read back from its text. -/
theorem nextHop_follow {c : UrlCrate} (hrt : c.RoundTrips) {h h' : Hop} {resp : Response}
    (hn : nextHop c h resp = some h') :
    ∃ u w, c.parse h.currentUrlStr = .ok u ∧ c.parse h'.currentUrlStr = .ok w ∧
      h' = h.follow u w resp.status := by
  rcases nextHop_eq_some hn with ⟨u, locStr, w, hu, _, hj, hf⟩
  refine ⟨u, w, hu, ?_, hf⟩
  rw [hf]
  exact hrt u locStr w hj

/-- One more followed response adds one pair at the end. -/
theorem visitedSteps_concat {c : UrlCrate} {h₀ h h' : Hop} {rs : List Response} {resp : Response}
    {u w : Url} (hrun : run (nextHop c) h₀ rs = some h) (hn : nextHop c h resp = some h')
    (hu : c.parse h.currentUrlStr = .ok u) (hw : c.parse h'.currentUrlStr = .ok w) :
    visitedSteps c h₀ (rs ++ [resp]) = visitedSteps c h₀ rs ++ [(u, w)] := by
  rw [visitedSteps, edges_concat (nextHop c) hrun hn, List.filterMap_append]
  simp only [List.filterMap_cons, List.filterMap_nil, hu, hw]
  rfl

theorem visitedSteps_ne_nil {c : UrlCrate} (hrt : c.RoundTrips) {h₀ h : Hop} {rs : List Response}
    (hne : rs ≠ []) (hrun : run (nextHop c) h₀ rs = some h) : visitedSteps c h₀ rs ≠ [] := by
  rcases List.eq_nil_or_concat rs with hnil | ⟨rs', resp, rfl⟩
  · exact absurd hnil hne
  · rw [List.concat_eq_append] at hrun ⊢
    rcases run_concat_eq_some (nextHop c) hrun with ⟨g, hrun', hn⟩
    rcases nextHop_follow hrt hn with ⟨u, w, hu, hw, _⟩
    rw [visitedSteps_concat hrun' hn hu hw]
    exact List.append_ne_nil_of_right_ne_nil _ (List.cons_ne_nil _ _)

/-- Induction along a redirect chain. The motive sees the pairs of URLs
    visited so far; a step appends the pair it takes. -/
theorem chain_induction {c : UrlCrate} (hrt : c.RoundTrips) {h₀ : Hop}
    {P : List (Url × Url) → Hop → Prop} (hnil : P [] h₀)
    (hstep : ∀ steps h u w status, P steps h → c.parse h.currentUrlStr = .ok u →
      c.parse (h.follow u w status).currentUrlStr = .ok w →
      P (steps ++ [(u, w)]) (h.follow u w status)) :
    ∀ {rs : List Response} {h : Hop}, run (nextHop c) h₀ rs = some h →
      P (visitedSteps c h₀ rs) h := by
  -- From the front of the chain: the last response comes off the end of the run.
  intro rs
  induction rs using List.reverseRecOn with
  | nil =>
      intro h hrun
      simp only [run_nil, Option.some.injEq] at hrun
      rw [← hrun]
      exact hnil
  | append_singleton rs resp ih =>
      intro h' hrun
      rcases run_concat_eq_some (nextHop c) hrun with ⟨h, hrun', hn⟩
      rcases nextHop_follow hrt hn with ⟨u, w, hu, hw, hf⟩
      rw [visitedSteps_concat hrun' hn hu hw, hf]
      exact hstep _ h u w resp.status (ih hrun') hu (hf ▸ hw)

end Quik
