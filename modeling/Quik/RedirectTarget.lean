import Quik.Chain
import Quik.HeaderText

/-!
# Where a Redirect Leads

The URL a followed redirect leads to, against what its `Location` says. A value
that is not text is read as the empty reference, and the empty reference
resolves to the current URL: the request is made again, method, body and all.
A value that resolves to another scheme is followed as if it were `https`.

A task takes two steps from a response to the next hop: the response is
evaluated, and the next URL is looked at. Neither touches a connection, and
what other tasks do in between does not matter. `landing` is where the two
steps lead.

## Main definitions

* `RightTarget`: The URL is what the value resolves to, on the web.
* `landing`: Where a task is two steps after a redirect.
* `TargetLaw`: A redirect is followed to the right target or is an error.
* `TargetKept`: The values on which it is.

## Theorems

* `landing_eq`: The two steps in one.
* `redirect_target_iff`: The law holds exactly on those values.
-/

namespace Quik

open Transition

/-- The URL is the resolution of the bytes of the value, and of the web. -/
def RightTarget (c : UrlCrate) (u : Url) (value : HeaderValue) (target : Url) : Prop :=
  ∃ locStr, value.toStr = some locStr ∧ utf8 locStr = value.bytes ∧ c.join u locStr = .ok target ∧
    (target.scheme = "http" ∨ target.scheme = "https")

variable {Jar : Type} {cl : Client Jar}

/-- Where a task is that has evaluated a response, in one state, and then, if
    there is a next hop, has been to the top of the loop, in another. -/
def landing (s s' : State cl) (v : Vars cl.crates.url) (resp : Response) :
    Option (Pc cl.crates.url × List Effect) :=
  match taskStep s (.inHop v (.redirect resp)) .go with
  | some (.top hop context, fx) =>
    (taskStep s' (.top hop context) .go).map (fun r => (r.1, fx ++ r.2))
  | r => r

/-- The call has ended in an error, and nothing was dialed or sent; or it is in
    a hop to the right target. -/
def TargetLaw (s s' : State cl) (v : Vars cl.crates.url) (resp : Response) (value : HeaderValue) :
    Prop :=
  ∀ pc fx, landing s s' v resp = some (pc, fx) →
    (∃ e, pc = .done (.error e) ∧ fx = []) ∨
      ∃ v' stage, pc = .inHop v' stage ∧ RightTarget cl.crates.url v.parsedUrl value v'.parsedUrl

/-- The hop is the last one, or what the code takes for the reference leads to
    no URL with a host, or the value is text and leads to a URL of the web. -/
def TargetKept (c : UrlCrate) (hop : Hop) (u : Url) (value : HeaderValue) : Prop :=
  Hop.limit ≤ hop.hop + 1 ∨
    ∀ next, c.join u (value.toStr.getD "") = .ok next → next.host.isSome = true →
      value.toStr.isSome = true ∧ (next.scheme = "http" ∨ next.scheme = "https")

/-- The two steps in one. -/
theorem landing_eq (s s' : State cl) (v : Vars cl.crates.url) {resp : Response}
    {value : HeaderValue} (hredir : resp.status.isRedirection = true)
    (hloc : resp.headers.get "location" = some value) :
    landing s s' v resp = some
      (match cl.crates.url.join v.parsedUrl (value.toStr.getD "") with
        | .error e => (.done (.error (.invalidUrl e)), [])
        | .ok next => enterHop s' (v.hop.follow v.parsedUrl next resp.status) v.context) := by
  have hlocStr : Hop.locationOf resp = some (value.toStr.getD "") := by
    rw [Hop.locationOf, if_pos hredir, hloc, Option.map_some]
  simp only [landing, taskStep, stageStep, Hop.evaluate, hlocStr]
  cases cl.crates.url.join v.parsedUrl (value.toStr.getD "") with
  | error e => rfl
  | ok next => simp only [Option.map_some, List.nil_append]

/-- A redirect is followed to where its value says, on the web, or ends the
    call before anything is dialed or sent, exactly if its value is kept. -/
theorem redirect_target_iff (hrt : cl.crates.url.RoundTrips) (s s' : State cl)
    (v : Vars cl.crates.url) (resp : Response) (value : HeaderValue)
    (hredir : resp.status.isRedirection = true)
    (hloc : resp.headers.get "location" = some value) :
    TargetLaw s s' v resp value ↔ TargetKept cl.crates.url v.hop v.parsedUrl value := by
  rw [TargetLaw, TargetKept, landing_eq s s' v hredir hloc]
  cases hj : cl.crates.url.join v.parsedUrl (value.toStr.getD "") with
  | error e =>
      -- The reference does not resolve, and the call ends here.
      refine ⟨fun _ => Or.inr (fun next hc => ?_), fun _ pc fx hpc => Or.inl ?_⟩
      · exact absurd hc (by simp only [reduceCtorEq, not_false_eq_true])
      · simp only [Option.some.injEq, Prod.mk.injEq] at hpc
        exact ⟨_, hpc.1.symm, hpc.2.symm⟩
  | ok next =>
      have hparse := hrt _ _ _ hj
      simp only [Option.some.injEq, Except.ok.injEq, forall_eq']
      constructor
      · intro hlaw
        by_cases hlimit : v.hop.hop + 1 < Hop.limit
        · refine Or.inr (fun hhost => ?_)
          rcases enterHop_ok s' (v.hop.follow v.parsedUrl next resp.status) v.context hlimit hparse
            hhost with ⟨v', _, hu, henter⟩
          rcases hlaw _ _ henter with ⟨e, hdone, _⟩ | ⟨w, stage, hin, locStr, hstr, _, hj', hweb⟩
          · exact absurd hdone (by simp only [reduceCtorEq, not_false_eq_true])
          · rw [← (Pc.inHop.inj hin).1, hu] at hweb
            exact ⟨by rw [hstr, Option.isSome_some], hweb⟩
        · exact Or.inl (Nat.le_of_not_lt hlimit)
      · intro hkept pc fx henter
        rcases enterHop_cases s' (v.hop.follow v.parsedUrl next resp.status) v.context with
          ⟨v', hhop, hin⟩ | ⟨e, hrefused⟩
        · -- The hop is in range and its URL has a host: the value is kept for its own sake.
          have hu : v'.parsedUrl = next := by
            have hparsed := v'.parsed
            rw [hhop] at hparsed
            exact Except.ok.inj (hparsed.symm.trans hparse)
          have hrange : v.hop.hop + 1 < Hop.limit := by
            have hin' := v'.inRange
            rwa [hhop] at hin'
          rcases hkept with hlimit | hweb
          · exact absurd hrange (Nat.not_lt.mpr hlimit)
          · rcases hweb (hu ▸ v'.hasHost) with ⟨htext, hscheme⟩
            rcases Option.isSome_iff_exists.mp htext with ⟨locStr, hstr⟩
            rw [hstr, Option.getD_some] at hj
            rw [hin, Prod.mk.injEq] at henter
            exact Or.inr ⟨v', .cookies, henter.1.symm, locStr, hstr, utf8_of_toStr hstr,
              by rw [hu, hj], by rw [hu]; exact hscheme⟩
        · rw [hrefused, Prod.mk.injEq] at henter
          exact Or.inl ⟨e, henter.1.symm, henter.2.symm⟩

section Example

/-- A crate that knows https://a.test/, which the empty reference resolves to
    from there. -/
def standingUrl : UrlCrate where
  parse := (UrlCrate.ofTable [siteA]).parse
  join := fun base reference =>
    if reference = "" then (UrlCrate.ofTable [siteA]).parse base.asStr
    else (UrlCrate.ofTable [siteA]).join base reference

theorem standingUrl_roundTrips : standingUrl.RoundTrips := by
  have htable : (UrlCrate.ofTable [siteA]).RoundTrips :=
    UrlCrate.ofTable_roundTrips (by decide +kernel)
  intro u reference v hj
  simp only [standingUrl] at hj ⊢
  by_cases hempty : reference = ""
  · rw [if_pos hempty] at hj
    rwa [(UrlCrate.ofTable_parse hj).2]
  · rw [if_neg hempty] at hj
    exact htable u reference v hj

/-- The client of that crate. -/
def standing : Client Unit :=
  { direct with crates := { direct.crates with url := standingUrl } }

/-- A redirect that keeps the method, to a byte that is not text, and one to
    the page itself. -/
def toNowhere : HeaderMap :=
  HeaderMap.new.insertOk "location" (HeaderValue.fromBytes [0xE9])

def toItself : HeaderMap :=
  (redirectTo "https://a.test/").headers

def temporary (headers : HeaderMap) : Response :=
  h2Response "https://a.test/" (.temporaryRedirect, headers, 0)

theorem siteA_hasHost : siteA.host.isSome = true := rfl

/-- A POST to https://a.test/. -/
def postA : Vars standing.crates.url where
  hop := Hop.initial "POST" "https://a.test/" (some [104, 105])
  context := .navigate
  parsedUrl := siteA
  hasAltSvc := false
  ticket := 0
  inRange := by decide
  parsed := by decide +kernel
  hasHost := siteA_hasHost

/-- A location that is text and leads back is followed back. -/
theorem location_followed : ∃ value, toItself.get "location" = some value ∧
    TargetLaw (State.fresh standing .new ()) (State.fresh standing .new ()) postA
      (temporary toItself) value := by
  have hget : (toItself.get "location").isSome = true := by decide +kernel
  rcases Option.isSome_iff_exists.mp hget with ⟨value, hvalue⟩
  refine ⟨value, hvalue, (redirect_target_iff standingUrl_roundTrips _ _ postA
    (temporary toItself) value (by decide) hvalue).mpr (Or.inr ?_)⟩
  have htext : (toItself.get "location").bind HeaderValue.toStr = some "https://a.test/" := by
    decide +kernel
  rw [hvalue, Option.bind_some] at htext
  intro next hj _
  rw [htext, Option.getD_some] at hj
  have hself : standing.crates.url.join siteA "https://a.test/" = .ok siteA := by decide +kernel
  rw [show postA.parsedUrl = siteA from rfl, hself, Except.ok.injEq] at hj
  exact ⟨by rw [htext, Option.isSome_some], Or.inr (by rw [← hj]; rfl)⟩

/-- A POST is answered with a redirect to a byte that is not text. -/
def postToNowhere : List Action :=
  ([ .call "POST" "https://a.test/" (some [104, 105]) .navigate, .go, .go, .go, .go, .go, .go,
    .dial (.connected { ip := .v4 0xC0000201, port := 443 } none), .transmit none,
    .respond (.ok (.temporaryRedirect, toNowhere, 0)), .go, .go, .go, .go, .go, .go, .go, .go, .go,
    .ready true, .transmit none ] : List Input).map (.task 0)

/-- The URL, the method and the ticket of a hop. -/
def Pc.making? {c : UrlCrate} : Pc c → Option (Url × String × Nat)
  | .inHop v _ => some (v.parsedUrl, v.hop.currentMethod, v.ticket)
  | _ => none

theorem making?_eq_some {c : UrlCrate} {pc : Pc c} {u : Url} {method : String} {ticket : Nat}
    (h : pc.making? = some (u, method, ticket)) : ∃ v stage, pc = .inHop v stage ∧
      v.parsedUrl = u ∧ v.hop.currentMethod = method ∧ v.ticket = ticket := by
  cases pc with
  | inHop v stage =>
      simp only [Pc.making?, Option.some.injEq, Prod.mk.injEq] at h
      exact ⟨v, stage, rfl, h⟩
  | _ => exact absurd h (by simp only [Pc.making?, reduceCtorEq, not_false_eq_true])

/-- The request is made again, with its body, to the page that sent it there. -/
theorem undecodable_repeats :
    (∃ value, toNowhere.get "location" = some value ∧
      ¬ TargetLaw (State.fresh standing .new ()) (State.fresh standing .new ()) postA
        (temporary toNowhere) value) ∧
    ∃ s, run step (State.fresh standing .new ()) postToNowhere = some s ∧
      s.deliveries = [ { ticket := 0, transport := .tcp, conn := 0, sent := [104, 105] },
        { ticket := 1, transport := .tcp, conn := 0, sent := [104, 105] } ] ∧
      ∃ v stage, s.tasks 0 = .inHop v stage ∧ v.parsedUrl = siteA ∧
        v.hop.currentMethod = "POST" ∧ v.ticket = 1 := by
  constructor
  · have hget : (toNowhere.get "location").isSome = true := by decide +kernel
    rcases Option.isSome_iff_exists.mp hget with ⟨value, hvalue⟩
    refine ⟨value, hvalue, fun hlaw => ?_⟩
    have htext : (toNowhere.get "location").bind HeaderValue.toStr = none := by decide +kernel
    rw [hvalue, Option.bind_some] at htext
    have hself : standing.crates.url.join siteA "" = .ok siteA := by decide +kernel
    have hland := landing_eq (State.fresh standing .new ()) (State.fresh standing .new ()) postA
      (show (temporary toNowhere).status.isRedirection = true by decide) hvalue
    -- The empty reference leads into another hop, and no text led there.
    rw [show postA.parsedUrl = siteA from rfl, htext, Option.getD_none, hself] at hland
    rcases enterHop_ok (State.fresh standing .new ())
      (postA.hop.follow siteA siteA (temporary toNowhere).status) postA.context (by decide)
      (standingUrl_roundTrips _ _ _ hself) rfl with ⟨v', _, _, henter⟩
    simp only [henter] at hland
    rcases hlaw _ _ hland with ⟨e, hdone, _⟩ | ⟨w, stage, _, locStr, hstr, _⟩
    · exact absurd hdone (by simp only [reduceCtorEq, not_false_eq_true])
    · rw [htext] at hstr
      exact absurd hstr (by simp only [reduceCtorEq, not_false_eq_true])
  · have hend : (run step (State.fresh standing .new ()) postToNowhere).map
        (fun s => (s.deliveries, (s.tasks 0).making?)) =
          some ([ { ticket := 0, transport := .tcp, conn := 0, sent := [104, 105] },
            { ticket := 1, transport := .tcp, conn := 0, sent := [104, 105] } ],
            some (siteA, "POST", 1)) := by
      decide +kernel
    rcases Option.map_eq_some_iff.mp hend with ⟨s, hs, hobs⟩
    rw [Prod.mk.injEq] at hobs
    exact ⟨s, hs, hobs.1, making?_eq_some hobs.2⟩

end Example

end Quik
