import Mathlib.Data.List.MinMax
import Quik.Redirect

/-!
# Sec-Fetch-Site along a Redirect Chain

What the header says after any number of redirects, against what it should
say: the worst relation any two consecutive URLs of the chain have had.

The worst relation is the maximum of a list under the order same-origin,
same-site, cross-site. The code computes something else. A step it takes for
cross-site closes the latch, and from then on the value is the top of the
order, which agrees. Until then the value is simply that of the last step
(`siteInv_run`), so a same-site step is forgotten by a later same-origin one.
And a step is judged by `domain()`, which is absent for every IP address, so
two different addresses count as the same site.

`siteSent_eq_maximum_iff` puts these together: the value is the maximum
exactly if the latch has closed, or there is no step between two different
addresses and the last step is as bad as any.

## Main definitions

* `FetchSite`: The three relations, in order.
* `siteRelation`: The relation of two URLs, by origin and host.
* `stepSite`: The relation the code assigns to a single step.
* `siteSent`: The value the code arrives at, from the steps alone.
* `SiteExact`: The chains on which the value is right.

## Theorems

* `updateSite_eq`: The update of the loop variables, through `stepSite`.
* `siteInv_run`: The loop variables follow `siteSent`.
* `siteSent_eq_maximum_iff`: When the value is the worst relation.
* `secFetchSite_worst_iff`: The same, for the header of a hop's request.
-/

namespace Quik

open Transition

/-- The relations, from the most trusted to the least. -/
inductive FetchSite where
  | sameOrigin
  | sameSite
  | crossSite
deriving DecidableEq, Repr

namespace FetchSite

def rank : FetchSite → Nat
  | .sameOrigin => 0
  | .sameSite => 1
  | .crossSite => 2

instance : LinearOrder FetchSite :=
  LinearOrder.lift' rank (fun a b h => by cases a <;> cases b <;> first | rfl | cases h)

theorem le_crossSite (s : FetchSite) : s ≤ .crossSite := by cases s <;> decide

theorem sameOrigin_le (s : FetchSite) : .sameOrigin ≤ s := by cases s <;> decide

/-- The header value. -/
def text : FetchSite → String
  | .sameOrigin => "same-origin"
  | .sameSite => "same-site"
  | .crossSite => "cross-site"

/-- The three values are legal and different as headers. -/
theorem fromStr_text_inj {a b : FetchSite}
    (h : HeaderValue.fromStr a.text = HeaderValue.fromStr b.text) : a = b := by
  cases a <;> cases b <;> first | rfl | exact absurd h (by decide +kernel)

end FetchSite

/-- The relation of two consecutive URLs: by origin, then by host. -/
def siteRelation (u w : Url) : FetchSite :=
  if sameOrigin u w then .sameOrigin
  else if u.host = w.host then .sameSite
  else .crossSite

/-- The relation the update assigns to a step: by origin, then by `domain()`. -/
def stepSite (u w : Url) : FetchSite :=
  if sameOrigin u w then .sameOrigin
  else if u.domain = w.domain then .sameSite
  else .crossSite

/-- The update of the loop variables. -/
theorem updateSite_eq (h : Hop) (u w : Url) : h.updateSite u w =
    if h.isCrossSite then (h.secFetchSite, true)
    else ((stepSite u w).text, decide (stepSite u w = .crossSite)) := by
  unfold Hop.updateSite stepSite
  rw [sameOrigin_comm w u]
  by_cases hc : h.isCrossSite = true
  · rw [if_pos hc, if_pos hc]
  · rw [if_neg hc, if_neg hc]
    by_cases hs : sameOrigin u w = true
    · rw [if_pos hs, if_pos hs]
      rfl
    · rw [if_neg hs, if_neg hs]
      by_cases hd : u.domain = w.domain
      · rw [if_pos hd.symm, if_pos hd]
        rfl
      · rw [if_neg (fun hx => hd hx.symm), if_neg hd]
        rfl

/-- Whether some step was taken for cross-site. -/
def crossed (steps : List (Url × Url)) : Bool :=
  steps.any (fun p => stepSite p.1 p.2 = .crossSite)

/-- The value the code arrives at: the top once the latch has closed, the last
    step's relation until then. -/
def siteSent (steps : List (Url × Url)) : WithBot FetchSite :=
  if crossed steps then FetchSite.crossSite
  else match steps.getLast? with
    | some last => stepSite last.1 last.2
    | none => ⊥

theorem crossed_concat (steps : List (Url × Url)) (u w : Url) :
    crossed (steps ++ [(u, w)]) = (crossed steps || decide (stepSite u w = .crossSite)) := by
  simp only [crossed, List.any_append, List.any_cons, List.any_nil, Bool.or_false]

/-- A further step counts until the latch has closed. -/
theorem siteSent_concat (steps : List (Url × Url)) (u w : Url) :
    siteSent (steps ++ [(u, w)]) =
      if crossed steps then (FetchSite.crossSite : WithBot FetchSite) else stepSite u w := by
  rw [siteSent, crossed_concat, List.getLast?_concat]
  -- The latch closes with this step, or was closed before it, or stays open.
  by_cases hc : crossed steps = true
  · rw [hc, Bool.true_or]
  · rw [if_neg hc, Bool.eq_false_iff.mpr hc, Bool.false_or]
    by_cases hs : stepSite u w = .crossSite
    · rw [if_pos (decide_eq_true hs), hs]
    · rw [if_neg (by simpa only [decide_eq_true_eq] using hs)]

/-- After a step there is a value, and it is the top exactly if the latch has
    closed. -/
theorem siteSent_of_ne_nil {steps : List (Url × Url)} (hne : steps ≠ []) :
    ∃ sent : FetchSite, siteSent steps = sent ∧ (sent = .crossSite ↔ crossed steps = true) := by
  rcases List.eq_nil_or_concat steps with hnil | ⟨init, ⟨u, w⟩, rfl⟩
  · exact absurd hnil hne
  · rw [List.concat_eq_append, siteSent_concat, crossed_concat]
    by_cases hc : crossed init = true
    · rw [if_pos hc, hc, Bool.true_or]
      exact ⟨.crossSite, rfl, fun _ => rfl, fun _ => rfl⟩
    · rw [if_neg hc, Bool.eq_false_iff.mpr hc, Bool.false_or]
      exact ⟨stepSite u w, rfl, decide_eq_true_iff.symm⟩

/-- The loop variables against the steps taken so far. -/
structure SiteInv (steps : List (Url × Url)) (h : Hop) : Prop where
  latch : h.isCrossSite = crossed steps
  value : ∀ site : FetchSite, siteSent steps = site → h.secFetchSite = site.text

theorem siteInv_follow {steps : List (Url × Url)} {h : Hop} (hi : SiteInv steps h) (u w : Url)
    (status : StatusCode) : SiteInv (steps ++ [(u, w)]) (h.follow u w status) := by
  have hlatch := hi.latch
  constructor
  · simp only [Hop.follow, updateSite_eq, crossed_concat, ← hlatch]
    by_cases hc : h.isCrossSite = true
    · rw [if_pos hc, hc, Bool.true_or]
    · rw [if_neg hc, Bool.eq_false_iff.mpr hc, Bool.false_or]
  · intro site hsite
    rw [siteSent_concat, ← hlatch] at hsite
    simp only [Hop.follow, updateSite_eq]
    by_cases hc : h.isCrossSite = true
    · -- The latch was closed: the value stays at the top.
      rw [if_pos hc] at hsite ⊢
      refine hi.value site ?_
      rw [siteSent, ← hlatch, if_pos hc, hsite]
    · -- The latch was open: the value becomes the relation of this step.
      rw [if_neg hc] at hsite ⊢
      rw [WithBot.coe_injective hsite]

/-- Along every chain the loop variables follow `siteSent`. -/
theorem siteInv_run {c : UrlCrate} (hrt : c.RoundTrips) {method url : String}
    {body : Option Bytes} {rs : List Response} {h : Hop}
    (hrun : run (nextHop c) (Hop.initial method url body) rs = some h) :
    SiteInv (visitedSteps c (Hop.initial method url body) rs) h := by
  refine chain_induction hrt (P := SiteInv) ⟨rfl, fun site hsite => ?_⟩
    (fun steps g u w status hi _ _ => siteInv_follow hi u w status) hrun
  exact absurd hsite.symm (WithBot.coe_ne_bot)

/-- Two IP addresses that differ: the step the update takes for same-site. -/
def differentAddresses (u w : Url) : Prop :=
  u.domain = none ∧ w.domain = none ∧ u.host ≠ w.host

/-- The chains on which the value sent is the worst relation: a step between
    different origins and different `domain()`s has been taken, or no step
    goes from one IP address to another and a last step within an origin
    follows only such steps. -/
def SiteExact (steps : List (Url × Url)) : Prop :=
  (∃ p ∈ steps, sameOrigin p.1 p.2 = false ∧ p.1.domain ≠ p.2.domain) ∨
    ((∀ p ∈ steps, ¬ differentAddresses p.1 p.2) ∧
      ∀ last, steps.getLast? = some last → sameOrigin last.1 last.2 = true →
        ∀ p ∈ steps, sameOrigin p.1 p.2 = true)

theorem stepSite_eq_crossSite {u w : Url} :
    stepSite u w = .crossSite ↔ sameOrigin u w = false ∧ u.domain ≠ w.domain := by
  unfold stepSite
  by_cases hs : sameOrigin u w = true
  · simp only [hs, if_true, reduceCtorEq, Bool.true_eq_false, false_and]
  · by_cases hd : u.domain = w.domain
    · simp only [hs, hd, if_true, if_false, Bool.false_eq_true, reduceCtorEq, ne_eq, not_true,
        and_false]
    · simp only [hs, hd, if_false, Bool.false_eq_true, ne_eq, not_false_eq_true, and_self]

theorem siteRelation_eq_sameOrigin {u w : Url} :
    siteRelation u w = .sameOrigin ↔ sameOrigin u w = true := by
  unfold siteRelation
  split
  · simp only [*]
  · split
    · simp only [*, reduceCtorEq]
    · simp only [*, reduceCtorEq]

theorem host_of_domain {u : Url} {name : String} (h : u.domain = some name) :
    u.host = some (.domain name) := by
  unfold Url.domain at h
  split at h
  · rename_i hh
    rw [hh, Option.some.inj h]
  · exact absurd h (by simp only [reduceCtorEq, not_false_eq_true])

theorem domain_congr {u w : Url} (h : u.host = w.host) : u.domain = w.domain := by
  rw [Url.domain, Url.domain, h]

/-- The two judgements of a step differ only between two different addresses,
    and only downwards. -/
theorem stepSite_eq_siteRelation {u w : Url} (h : ¬ differentAddresses u w) :
    stepSite u w = siteRelation u w := by
  unfold stepSite siteRelation
  split
  · rfl
  · by_cases hh : u.host = w.host
    · rw [if_pos hh, if_pos (domain_congr hh)]
    · rw [if_neg hh]
      -- Equal domains with different hosts: both are addresses, or both the same name.
      refine if_neg (fun hd => ?_)
      cases hu : u.domain with
      | none => exact h ⟨hu, hd ▸ hu, hh⟩
      | some name => exact hh (by rw [host_of_domain hu, host_of_domain (hd ▸ hu)])

theorem siteRelation_of_differentAddresses {u w : Url} (h : differentAddresses u w) :
    siteRelation u w = .crossSite ∧ stepSite u w ≠ .crossSite := by
  have hs : sameOrigin u w = false := by
    rw [Bool.eq_false_iff]
    intro hc
    rcases sameOrigin_iff.mp hc with ⟨_, host, _, hu, _, hw, _⟩
    exact h.2.2 (by rw [hu, hw])
  constructor
  · rw [siteRelation, hs, if_neg Bool.false_ne_true, if_neg h.2.2]
  · rw [ne_eq, stepSite_eq_crossSite]
    exact fun hc => hc.2 (by rw [h.1, h.2.1])

theorem siteRelation_of_crossed {u w : Url} (h : stepSite u w = .crossSite) :
    siteRelation u w = .crossSite := by
  rw [← stepSite_eq_siteRelation, h]
  exact fun hc => (siteRelation_of_differentAddresses hc).2 h

/-- While the latch is open and no step went between addresses, the value is
    the maximum exactly if a last step within an origin follows only such
    steps. -/
theorem last_eq_maximum_iff {steps : List (Url × Url)} {u w : Url}
    (hopen : ∀ p ∈ steps ++ [(u, w)], siteRelation p.1 p.2 ≠ .crossSite) :
    (siteRelation u w : WithBot FetchSite) =
        ((steps ++ [(u, w)]).map (fun p => siteRelation p.1 p.2)).maximum ↔
      (sameOrigin u w = true → ∀ p ∈ steps ++ [(u, w)], sameOrigin p.1 p.2 = true) := by
  rw [eq_comm, List.maximum_eq_coe_iff]
  constructor
  -- A maximum at the bottom leaves room for nothing above the bottom.
  · rintro ⟨_, hmax⟩ hs p hp
    rw [← siteRelation_eq_sameOrigin] at hs ⊢
    have hle := hmax _ (List.mem_map_of_mem hp)
    rw [hs] at hle
    exact le_antisymm hle (FetchSite.sameOrigin_le _)
  · intro hall
    refine ⟨List.mem_map_of_mem (List.mem_append_right steps List.mem_cons_self), ?_⟩
    intro r hr
    rcases List.mem_map.mp hr with ⟨p, hp, rfl⟩
    have hne := hopen p hp
    by_cases hs : sameOrigin u w = true
    · rw [siteRelation_eq_sameOrigin.mpr (hall hs p hp)]
      exact FetchSite.sameOrigin_le _
    · -- The last step is not within an origin, so it is at least same-site.
      have hlast : siteRelation u w ≠ .sameOrigin :=
        fun hc => hs (siteRelation_eq_sameOrigin.mp hc)
      have hlast' := hopen (u, w) (List.mem_append_right steps List.mem_cons_self)
      revert hne hlast hlast'
      cases siteRelation p.1 p.2 <;> cases siteRelation u w <;> decide

/-- The value sent after at least one step is the worst relation exactly on
    the chains `SiteExact` describes. -/
theorem siteSent_eq_maximum_iff {steps : List (Url × Url)} (hne : steps ≠ []) :
    siteSent steps = (steps.map (fun p => siteRelation p.1 p.2)).maximum ↔ SiteExact steps := by
  have hcross : crossed steps = true ↔
      ∃ p ∈ steps, sameOrigin p.1 p.2 = false ∧ p.1.domain ≠ p.2.domain := by
    simp only [crossed, List.any_eq_true, decide_eq_true_eq, stepSite_eq_crossSite]
  rcases List.eq_nil_or_concat steps with hnil | ⟨init, ⟨u, w⟩, hsteps⟩
  · exact absurd hnil hne
  rw [List.concat_eq_append] at hsteps
  by_cases hc : crossed steps = true
  · -- The latch has closed, and the step that closed it is the worst there is.
    refine ⟨fun _ => Or.inl (hcross.mp hc), fun _ => ?_⟩
    rw [siteSent, if_pos hc, eq_comm, List.maximum_eq_coe_iff]
    simp only [crossed, List.any_eq_true, decide_eq_true_eq] at hc
    rcases hc with ⟨p, hp, hpc⟩
    exact ⟨List.mem_map.mpr ⟨p, hp, siteRelation_of_crossed hpc⟩,
      fun r _ => FetchSite.le_crossSite r⟩
  · -- The latch is open: the value is the relation of the last step.
    have hsent : siteSent steps = stepSite u w := by
      have hinit : crossed init = false := by
        rw [hsteps, crossed_concat, Bool.or_eq_true, not_or] at hc
        exact Bool.eq_false_iff.mpr hc.1
      rw [hsteps, siteSent_concat, if_neg (Bool.eq_false_iff.mp hinit)]
    have hstep : ∀ p ∈ steps, stepSite p.1 p.2 ≠ .crossSite := by
      intro p hp hpc
      exact hc (List.any_eq_true.mpr ⟨p, hp, decide_eq_true hpc⟩)
    have hmem : (u, w) ∈ steps := hsteps ▸ List.mem_append_right init List.mem_cons_self
    have hlast : steps.getLast? = some (u, w) := hsteps ▸ List.getLast?_concat
    rw [hsent]
    constructor
    -- A step between addresses is cross-site, and the code has sent less.
    · intro heq
      have haddr : ∀ p ∈ steps, ¬ differentAddresses p.1 p.2 := by
        intro p hp hd
        have hle := (List.maximum_eq_coe_iff.mp heq.symm).2 _ (List.mem_map_of_mem hp)
        rw [(siteRelation_of_differentAddresses hd).1] at hle
        exact hstep (u, w) hmem (le_antisymm (FetchSite.le_crossSite _) hle)
      have hopen : ∀ p ∈ steps, siteRelation p.1 p.2 ≠ .crossSite := fun p hp =>
        stepSite_eq_siteRelation (haddr p hp) ▸ hstep p hp
      refine Or.inr ⟨haddr, fun last hl => ?_⟩
      rw [hlast, Option.some.injEq] at hl
      rw [stepSite_eq_siteRelation (haddr (u, w) hmem)] at heq
      rw [hsteps] at heq hopen ⊢
      rw [← hl]
      exact (last_eq_maximum_iff hopen).mp heq
    · rintro (hx | ⟨haddr, hall⟩)
      · exact absurd (hcross.mpr hx) hc
      · have hopen : ∀ p ∈ steps, siteRelation p.1 p.2 ≠ .crossSite := fun p hp =>
          stepSite_eq_siteRelation (haddr p hp) ▸ hstep p hp
        have hall' := hall (u, w) hlast
        rw [stepSite_eq_siteRelation (haddr (u, w) hmem)]
        rw [hsteps] at hopen hall' ⊢
        exact (last_eq_maximum_iff hopen).mpr hall'

/-- The header says the worst relation the steps have had. -/
def SendsWorstSite (headers : HeaderMap) (steps : List (Url × Url)) : Prop :=
  ∃ site : FetchSite, (steps.map (fun p => siteRelation p.1 p.2)).maximum = site ∧
    headers.get "sec-fetch-site" = HeaderValue.fromStr site.text

/-- On every hop after a redirect, the header is the worst relation of the
    consecutive pairs of URLs up to it exactly if `SiteExact` holds of them. -/
theorem secFetchSite_worst_iff (c : UrlCrate) (hrt : c.RoundTrips) (method url : String)
    (body : Option Bytes) (rs : List Response) (hne : rs ≠ []) (h : Hop)
    (hrun : run (nextHop c) (Hop.initial method url body) rs = some h) (profile : ChromeProfile)
    (target : Url) (cookieHeader : Option String) (context : RequestContext) (acceptCh : Bool) :
    SendsWorstSite (h.requestHeaders c profile target cookieHeader context acceptCh)
        (visitedSteps c (Hop.initial method url body) rs) ↔
      SiteExact (visitedSteps c (Hop.initial method url body) rs) := by
  have hinv := siteInv_run hrt hrun
  have hsteps := visitedSteps_ne_nil hrt hne hrun
  rw [← siteSent_eq_maximum_iff hsteps, SendsWorstSite, Hop.requestHeaders,
    requestHeaders_secFetchSite]
  -- After a redirect there is a value, and the loop variable spells it.
  rcases siteSent_of_ne_nil hsteps with ⟨sent, hsent, _⟩
  rw [hinv.value sent hsent, hsent]
  constructor
  · rintro ⟨site, hmax, hval⟩
    rw [hmax, FetchSite.fromStr_text_inj hval]
  · intro heq
    exact ⟨sent, heq.symm, rfl⟩

/-- Three pages of one host, the first of them over TLS. -/
def oneHost : List Url :=
  [.page "https" "a.test" "/", .page "http" "a.test" "/", .page "http" "a.test" "/x"]

theorem oneHost_roundTrips : (UrlCrate.ofTable oneHost).RoundTrips :=
  UrlCrate.ofTable_roundTrips (by decide +kernel)

/-- Pages of two sites, one of them with and without TLS. -/
def twoHosts : List Url :=
  [ .page "https" "a.test" "/", .page "http" "a.test" "/", .page "https" "b.test" "/",
    .page "https" "b.test" "/x" ]

theorem twoHosts_roundTrips : (UrlCrate.ofTable twoHosts).RoundTrips :=
  UrlCrate.ofTable_roundTrips (by decide +kernel)

/-- Redirects out of TLS, to another site, and within it. -/
def acrossSites : List Response :=
  [redirectTo "http://a.test/", redirectTo "https://b.test/", redirectTo "https://b.test/x"]

/-- The chain has taken a step of each kind, and the value stays with the worst,
    though the last step is within an origin. -/
theorem secFetchSite_worst_acrossSites :
    ∃ h, run (nextHop (UrlCrate.ofTable twoHosts)) (Hop.initial "GET" "https://a.test/" none)
        acrossSites = some h ∧
      ((visitedSteps (UrlCrate.ofTable twoHosts) (Hop.initial "GET" "https://a.test/" none)
        acrossSites).map (fun p => siteRelation p.1 p.2)) =
          [.sameSite, .crossSite, .sameOrigin] ∧
      SendsWorstSite (h.requestHeaders (UrlCrate.ofTable twoHosts)
          (Chrome148.chrome148LinuxX64 "") twoHosts[3] none .navigate false)
        (visitedSteps (UrlCrate.ofTable twoHosts) (Hop.initial "GET" "https://a.test/" none)
          acrossSites) := by
  have hrun : (run (nextHop (UrlCrate.ofTable twoHosts))
      (Hop.initial "GET" "https://a.test/" none) acrossSites).isSome = true := by
    decide +kernel
  rcases Option.isSome_iff_exists.mp hrun with ⟨h, hh⟩
  have hsteps : visitedSteps (UrlCrate.ofTable twoHosts) (Hop.initial "GET" "https://a.test/" none)
      acrossSites = [(twoHosts[0], twoHosts[1]), (twoHosts[1], twoHosts[2]),
        (twoHosts[2], twoHosts[3])] := by
    decide +kernel
  refine ⟨h, hh, by rw [hsteps]; decide +kernel, (secFetchSite_worst_iff _ twoHosts_roundTrips
    _ _ _ _ (show acrossSites ≠ [] from List.cons_ne_nil _ _) _ hh _ _ _ _ _).mpr ?_⟩
  rw [hsteps]
  exact Or.inl ⟨_, List.mem_cons_of_mem _ List.mem_cons_self, by decide +kernel,
    by decide +kernel⟩

/-- The value forgets a same-site step: leaving TLS and then moving within the
    new origin sends `same-origin`, though the worst relation is same-site. -/
theorem secFetchSite_relaxes :
    ∃ h, run (nextHop (UrlCrate.ofTable oneHost)) (Hop.initial "GET" "https://a.test/" none)
        [redirectTo "http://a.test/", redirectTo "http://a.test/x"] = some h ∧
      ¬ SendsWorstSite (h.requestHeaders (UrlCrate.ofTable oneHost)
          (Chrome148.chrome148LinuxX64 "") oneHost[2] none .navigate false)
        (visitedSteps (UrlCrate.ofTable oneHost) (Hop.initial "GET" "https://a.test/" none)
          [redirectTo "http://a.test/", redirectTo "http://a.test/x"]) := by
  have hrun : run (nextHop (UrlCrate.ofTable oneHost)) (Hop.initial "GET" "https://a.test/" none)
      [redirectTo "http://a.test/", redirectTo "http://a.test/x"] =
        some (((Hop.initial "GET" "https://a.test/" none).follow oneHost[0] oneHost[1]
          StatusCode.found).follow oneHost[1] oneHost[2] StatusCode.found) := by
    decide +kernel
  have hmax : ((visitedSteps (UrlCrate.ofTable oneHost) (Hop.initial "GET" "https://a.test/" none)
      [redirectTo "http://a.test/", redirectTo "http://a.test/x"]).map
        (fun p => siteRelation p.1 p.2)) = [.sameSite, .sameOrigin] := by
    decide +kernel
  refine ⟨_, hrun, ?_⟩
  rintro ⟨site, hsite, hval⟩
  rw [hmax, List.maximum_eq_coe_iff] at hsite
  rw [Hop.requestHeaders, requestHeaders_secFetchSite] at hval
  have hsame : site = .sameOrigin := (FetchSite.fromStr_text_inj (a := .sameOrigin) hval).symm
  rw [hsame] at hsite
  exact absurd (hsite.2 .sameSite List.mem_cons_self) (by decide)

end Quik
