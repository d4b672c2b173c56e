import Quik.Chain
import Quik.FetchSite

/-!
# The Origin Header and Redirects

Two headers tell a server where a request comes from. `sec-fetch-site` follows
the whole redirect chain. `origin` is made of the current URL alone: on a
mutating method it is the target's own origin, however the request got there.
So once a chain has crossed sites, a request says in one header that it comes
from another site and in the other that it comes from the target itself, and a
server that checks `origin` takes it for one of its own (`origin_agrees_iff`).

## Main definitions

* `OriginAgrees`: A cross-site request does not claim the target's origin.
* `OriginExact`: The chains on which that is so.

## Theorems

* `method_kept`: A chain without a rotating status keeps method and body.
* `secFetchSite_crossed`: When a hop is sent as cross-site.
* `origin_agrees_iff`: When the two headers agree.
-/

namespace Quik

open Transition

/-- If the request is sent as cross-site, its origin is not the target's. -/
def OriginAgrees (headers : HeaderMap) (target : Url) : Prop :=
  headers.get "sec-fetch-site" = HeaderValue.fromStr "cross-site" →
    ∀ v, headers.get "origin" = some v → v.bytes ≠ utf8 target.origin.asciiSerialization

/-- The chain has not crossed sites, or no origin is sent: the method does not
    call for one, or its text is no legal value. -/
def OriginExact (steps : List (Url × Url)) (method : String) (target : Url) : Prop :=
  crossed steps = false ∨ sendsOrigin method = false ∨
    HeaderValue.fromStr target.origin.asciiSerialization = none

/-- Along a chain of statuses that do not rotate the method, the method and the
    body stay. -/
theorem method_kept {c : UrlCrate} : ∀ {rs : List Response} {h₀ h : Hop},
    (∀ r ∈ rs, r.status.rotatesMethod = false) → run (nextHop c) h₀ rs = some h →
    h.currentMethod = h₀.currentMethod ∧ h.currentBody = h₀.currentBody := by
  intro rs
  induction rs with
  | nil =>
      intro h₀ h _ hrun
      simp only [run_nil, Option.some.injEq] at hrun
      rw [hrun]
      exact ⟨rfl, rfl⟩
  | cons r rs ih =>
      intro h₀ h hkeep hrun
      rcases run_cons_eq_some _ hrun with ⟨h', hn, hrest⟩
      rcases nextHop_eq_some hn with ⟨u, _, w, _, _, _, hf⟩
      have hrot : r.status.rotatesMethod = false := hkeep r List.mem_cons_self
      rcases ih (fun r' hr' => hkeep r' (List.mem_cons_of_mem r hr')) hrest with ⟨hmethod, hbody⟩
      rw [hmethod, hbody, hf]
      simp only [Hop.follow, hrot, Bool.false_eq_true, if_false, and_self]

/-- A hop is sent as cross-site exactly if a step of its chain was taken for
    one. -/
theorem secFetchSite_crossed {c : UrlCrate} (hrt : c.RoundTrips) {method url : String}
    {body : Option Bytes} {rs : List Response} {h : Hop}
    (hrun : run (nextHop c) (Hop.initial method url body) rs = some h) :
    HeaderValue.fromStr h.secFetchSite = HeaderValue.fromStr "cross-site" ↔
      crossed (visitedSteps c (Hop.initial method url body) rs) = true := by
  by_cases hne : rs = []
  · rw [hne] at hrun ⊢
    simp only [run_nil, Option.some.injEq] at hrun
    rw [← hrun]
    have hnone : HeaderValue.fromStr "none" ≠ HeaderValue.fromStr "cross-site" := by
      decide +kernel
    exact ⟨fun hsite => absurd hsite hnone, fun hc => absurd hc Bool.false_ne_true⟩
  · rcases siteSent_of_ne_nil (visitedSteps_ne_nil hrt hne hrun) with ⟨sent, hsent, hcross⟩
    rw [(siteInv_run hrt hrun).value sent hsent, ← hcross]
    exact ⟨fun hsite => FetchSite.fromStr_text_inj hsite, fun heq => by rw [heq]; rfl⟩

variable {Jar : Type} {cl : Client Jar}

/-- For every request with a body and every chain of redirects that keep the
    method, the request of each hop, normal or fallback, agrees with itself
    exactly if the chain has not crossed sites or no origin is sent. -/
theorem origin_agrees_iff (hrt : cl.crates.url.RoundTrips) {method url : String} {body : Bytes}
    {rs : List Response} (hkeep : ∀ r ∈ rs, r.status.rotatesMethod = false)
    {v : Vars cl.crates.url}
    (hrun : run (nextHop cl.crates.url) (Hop.initial method url (some body)) rs = some v.hop)
    {request : Request} (hb : buildRequest v = .ok request) :
    OriginAgrees request.headers v.parsedUrl ↔
      OriginExact (visitedSteps cl.crates.url (Hop.initial method url (some body)) rs) method
        v.parsedUrl := by
  have hmethod : v.hop.currentMethod = method := (method_kept hkeep hrun).1
  rw [OriginAgrees, buildRequest_headers hb, Hop.requestHeaders, requestHeaders_secFetchSite,
    requestHeaders_origin, secFetchSite_crossed hrt hrun, hmethod, OriginExact]
  constructor
  · intro hagrees
    by_cases hcross : crossed (visitedSteps cl.crates.url
        (Hop.initial method url (some body)) rs) = true
    · right
      by_cases hsends : sendsOrigin method = true
      · right
        rw [if_pos hsends] at hagrees
        -- A legal text would be sent as it is.
        cases hv : HeaderValue.fromStr v.parsedUrl.origin.asciiSerialization with
        | none => rfl
        | some value =>
            exact absurd (HeaderValue.fromStr_bytes hv) (hagrees hcross value hv)
      · exact Or.inl (Bool.eq_false_iff.mpr hsends)
    · exact Or.inl (Bool.eq_false_iff.mpr hcross)
  · rintro (hopen | hsends | hnone) hcross value hvalue
    · exact absurd (hopen.symm.trans hcross) Bool.noConfusion
    · rw [hsends, if_neg Bool.false_ne_true] at hvalue
      exact absurd hvalue (by simp only [reduceCtorEq, not_false_eq_true])
    · rw [hnone, ite_self] at hvalue
      exact absurd hvalue (by simp only [reduceCtorEq, not_false_eq_true])

def twoSites : Client Unit :=
  Client.ofTable none [siteA, siteB]

theorem twoSites_roundTrips : twoSites.crates.url.RoundTrips :=
  UrlCrate.ofTable_roundTrips (by decide +kernel)

/-- Two redirects that keep the method. -/
def keepsMethod (location : String) : Response :=
  { redirectTo location with status := .temporaryRedirect }

def keepsMethodForGood (location : String) : Response :=
  { redirectTo location with status := .permanentRedirect }

/-- The last hop of a DELETE that https://a.test/ has redirected to https://b.test/,
    and that back again. -/
def deleteHop : Vars twoSites.crates.url where
  hop := ((Hop.initial "DELETE" "https://a.test/" (some [1])).follow siteA siteB
    .temporaryRedirect).follow siteB siteA .permanentRedirect
  context := .navigate
  parsedUrl := siteA
  hasAltSvc := false
  ticket := 0
  inRange := by decide
  parsed := by decide +kernel
  hasHost := rfl

/-- The hop of a POST after https://a.test/ has redirected it to https://b.test/. -/
def redirectedHop : Vars twoSites.crates.url where
  hop := (Hop.initial "POST" "https://a.test/" (some [1])).follow siteA siteB .temporaryRedirect
  context := .navigate
  parsedUrl := siteB
  hasAltSvc := false
  ticket := 1
  inRange := by decide
  parsed := by decide +kernel
  hasHost := rfl

/-- The DELETE has crossed sites and is sent as cross-site. It agrees with itself,
    as it has no origin. -/
theorem origin_agrees_delete :
    ∃ request, buildRequest deleteHop = .ok request ∧
      request.headers.get "sec-fetch-site" = HeaderValue.fromStr "cross-site" ∧
      OriginAgrees request.headers siteA := by
  have hok : (buildRequest deleteHop).isOk = true := by decide +kernel
  have hkeep : ∀ r ∈ [keepsMethod "https://b.test/", keepsMethodForGood "https://a.test/"],
      r.status.rotatesMethod = false := by
    rintro r (_ | ⟨_, _ | ⟨_, hr⟩⟩)
    · rfl
    · rfl
    · exact absurd hr List.not_mem_nil
  have hrun : run (nextHop twoSites.crates.url)
      (Hop.initial "DELETE" "https://a.test/" (some [1]))
      [keepsMethod "https://b.test/", keepsMethodForGood "https://a.test/"] =
        some deleteHop.hop := by decide +kernel
  cases hb : buildRequest deleteHop with
  | error e =>
      rw [hb] at hok
      exact absurd hok Bool.false_ne_true
  | ok request =>
      refine ⟨request, rfl, ?_,
        (origin_agrees_iff twoSites_roundTrips hkeep hrun hb).mpr (Or.inr (Or.inl rfl))⟩
      rw [buildRequest_headers hb, Hop.requestHeaders, requestHeaders_secFetchSite]
      rfl

/-- The POST is sent as cross-site, with the origin https://b.test. -/
theorem origin_claims_target :
    (keepsMethod "https://b.test/").status.rotatesMethod = false ∧
      run (nextHop twoSites.crates.url) (Hop.initial "POST" "https://a.test/" (some [1]))
        [keepsMethod "https://b.test/"] = some redirectedHop.hop ∧
      ∃ request, buildRequest redirectedHop = .ok request ∧
        ¬ OriginAgrees request.headers siteB := by
  refine ⟨rfl, by decide +kernel, ?_⟩
  have hok : (buildRequest redirectedHop).isOk = true := by decide +kernel
  cases hb : buildRequest redirectedHop with
  | error e =>
      rw [hb] at hok
      exact absurd hok Bool.false_ne_true
  | ok request =>
      refine ⟨request, rfl, fun hagrees => ?_⟩
      rw [OriginAgrees, buildRequest_headers hb, Hop.requestHeaders, requestHeaders_secFetchSite,
        requestHeaders_origin] at hagrees
      exact hagrees rfl (.fromStatic "https://b.test") rfl rfl

end Quik
