import Quik.Injection
import Quik.Wire

/-!
# One Identity on the Wire

Every request a client hands to a transport, whichever call it is of, whichever
hop, over whichever transport and after whatever the other calls did, has the
headers of one browser. The values that tell the browser are the profile's
alone; those that tell what the request is for are the context's of its call;
and where the two meet the requests do not contradict themselves: a request
that says that a user started it is a navigation, comes from nowhere, and names
no page it comes from (`one_identity`).

No request has a header beyond these, the cookies and the origin, no header
has two values, and the cookies are what the compression never sees.

## Main definitions

* `persona`: The headers all requests of a call have in common.
* `Identified`: What the headers of one request say.
* `calledAs`: The context a task was called with.
* `StartInv`: The site relation against the number of the hop.

## Theorems

* `getAll_requestHeaders_managed`, `getAll_requestHeaders_other`: The headers of
  a request, name by name.
* `identified_requestHeaders`: The headers of one request.
* `startInv_nextHop`: One turn of the loop.
* `calledInv_step`: One step of the client.
* `wire_built`: Where the requests of a run come from.
* `one_identity`: Every request of a run.
-/

namespace Quik

open Transition

variable {Jar : Type} {cl : Client Jar}

/-- What the requests of a call have in common: the browser's own headers and
    those that say what the call is for. -/
def persona (profile : ChromeProfile) (context : RequestContext) :
    List (String × Option HeaderValue) :=
  let p := profile.headers
  let metadata := fetchMetadata context
  [ ("user-agent", HeaderValue.fromStr p.userAgent),
    ("sec-ch-ua", HeaderValue.fromStr p.secChUa),
    ("sec-ch-ua-mobile", some (.fromStatic "?0" (Eq.refl true))),
    ("sec-ch-ua-platform", HeaderValue.fromStr p.secChUaPlatform),
    ("upgrade-insecure-requests", some (.fromStatic "1" (Eq.refl true))),
    ("accept-language", HeaderValue.fromStr p.acceptLanguage),
    ("accept-encoding",
      some (if p.zstdEncoding then .fromStatic "gzip, deflate, br, zstd" (Eq.refl true)
        else .fromStatic "gzip, deflate, br" (Eq.refl true))),
    ("priority",
      if p.includePriorityHeader then some (.fromStatic "u=0, i" (Eq.refl true)) else none),
    ("accept", some metadata.2.2),
    ("sec-fetch-mode", some metadata.1),
    ("sec-fetch-dest", some metadata.2.1) ]

/-- A request that comes from nowhere. -/
def FromNowhere (m : HeaderMap) : Prop :=
  m.getAll "sec-fetch-site" = [.fromStatic "none" (Eq.refl true)]

/-- What the headers of a request say of the browser and of the call. -/
structure Identified (profile : ChromeProfile) (context : RequestContext) (m : HeaderMap) :
    Prop where
  persona : ∀ name v, (name, v) ∈ persona profile context → m.getAll name = v.toList
  /-- The version of the platform is the profile's, where it is told. -/
  version : m.getAll platformVersion = [] ∨
    m.getAll platformVersion = (HeaderValue.fromStr profile.headers.secChUaPlatformVersion).toList
  site : ∃ site ∈ ["none", "same-origin", "same-site", "cross-site"],
    m.getAll "sec-fetch-site" = (HeaderValue.fromStr site).toList
  /-- What a user started is a navigation from nowhere. -/
  user : m.getAll "sec-fetch-user" = [.fromStatic "?1" (Eq.refl true)] ∧
      context.isNavigation = true ∧ FromNowhere m ∨
    m.getAll "sec-fetch-user" = [] ∧ ¬ (context.isNavigation = true ∧ FromNowhere m)
  referer : FromNowhere m → m.getAll "referer" = []
  single : ∀ name, (m.getAll name).length ≤ 1
  known : ∀ name, m.getAll name ≠ [] → name ∈ managedNames ∨ name = "cookie" ∨ name = "origin"
  marked : ∀ name, ∀ v ∈ m.getAll name, v.sensitive = decide (name = "cookie")

/-- The site relation against the number of the hop. -/
structure StartInv (h : Hop) : Prop where
  first : h.hop = 0 → h.secFetchSite = "none" ∧ h.previousUrlStr = none ∧ h.isCrossSite = false
  later : h.hop ≠ 0 → h.secFetchSite ∈ ["same-origin", "same-site", "cross-site"]

/-- A step from one URL to the next, with the latch open, is told apart from the
    beginning. -/
theorem updateSite_later {h : Hop} (hopen : h.isCrossSite ≠ true) (parsed next : Url) :
    (h.updateSite parsed next).1 ∈ ["same-origin", "same-site", "cross-site"] := by
  rw [Hop.updateSite, if_neg hopen]
  by_cases hsame : sameOrigin next parsed = true
  · rw [if_pos hsame]
    exact List.mem_cons_self
  · rw [if_neg hsame]
    by_cases hdomain : next.domain = parsed.domain
    · rw [if_pos hdomain]
      exact List.mem_cons_of_mem _ List.mem_cons_self
    · rw [if_neg hdomain]
      exact List.mem_cons_of_mem _ (List.mem_cons_of_mem _ List.mem_cons_self)

/-- A turn of the loop keeps the two in line. -/
theorem startInv_nextHop {c : UrlCrate} {h h' : Hop} {resp : Response} (hi : StartInv h)
    (hn : nextHop c h resp = some h') : StartInv h' := by
  rcases nextHop_eq_some hn with ⟨parsed, _, next, _, _, _, rfl⟩
  refine ⟨fun hzero => absurd hzero (Nat.succ_ne_zero _), fun _ => ?_⟩
  by_cases hcross : h.isCrossSite = true
  -- The latch is open at the first hop, so the relation it keeps is a later one.
  · have hkept : (h.follow parsed next resp.status).secFetchSite = h.secFetchSite := by
      rw [Hop.follow, Hop.updateSite, if_pos hcross]
    rw [hkept]
    refine hi.later (fun hzero => ?_)
    exact absurd hcross ((hi.first hzero).2.2 ▸ Bool.false_ne_true)
  · exact updateSite_later hcross parsed next

theorem startInv_chain {c : UrlCrate} {h : Hop} (hc : ChainFrom c h) : StartInv h := by
  rcases hc with ⟨method, url, body, responses, hrun⟩
  refine run_invariant (nextHop c) (fun _ _ _ hi hn => startInv_nextHop hi hn) ?_ hrun
  exact ⟨fun _ => ⟨rfl, rfl, rfl⟩, fun hne => absurd rfl hne⟩

/-- The headers before the profile's: the cookies and the origin. -/
theorem getAll_cookieOrigin (cookie origin : Option HeaderValue) (name : String) :
    ((HeaderMap.new.insertOk "cookie" cookie).insertOk "origin" origin).getAll name =
      if name = "cookie" then cookie.toList
      else if name = "origin" then origin.toList else [] := by
  have hcookie : (HeaderMap.new.insertOk "cookie" cookie).getAll name =
      if name = "cookie" then cookie.toList else [] := by
    cases cookie with
    | none => rw [Option.toList_none, ite_self]; rfl
    | some v =>
        by_cases h : name = "cookie"
        · rw [if_pos h, h]
          exact HeaderMap.getAll_insert_self _ _ v
        · rw [if_neg h]
          exact HeaderMap.getAll_insert_of_ne _ v h
  cases origin with
  | none => rw [Option.toList_none, ite_self]; exact hcookie
  | some v =>
      by_cases h : name = "origin"
      · rw [h, if_neg (by decide), if_pos rfl]
        exact HeaderMap.getAll_insert_self _ _ v
      · rw [if_neg h]
        exact (HeaderMap.getAll_insert_of_ne _ v h).trans hcookie

section Request

variable (profile : ChromeProfile) (method : String) (url : Url) (cookieHeader : Option String)
  (site : String) (initial : Bool) (context : RequestContext) (acceptCh : Bool)
  (referer : Option String)

/-- A name an injection may write has the value it writes, or none. -/
theorem getAll_requestHeaders_managed {name : String} {v : Option HeaderValue}
    (h : (name, v) ∈ chromeWrites profile site initial context acceptCh referer) :
    (requestHeaders profile method url cookieHeader site initial context acceptCh referer).getAll
      name = v.toList := by
  rw [requestHeaders]
  have hmanaged : name ∈ managedNames := by
    rw [← map_fst_chromeWrites profile site initial context acceptCh referer]
    exact List.mem_map_of_mem h
  cases v with
  | some v =>
      exact getAll_injectChromeHeaders_of_written _ profile site initial context acceptCh referer h
  | none =>
      -- The name is among the overwrites once, without a value.
      have hnone : ∀ v, (name, some v) ∉
          chromeWrites profile site initial context acceptCh referer := fun v hv => by
        have hone := List.inj_on_of_nodup_map (map_fst_chromeWrites profile site initial context
          acceptCh referer ▸ managedNames_nodup) h hv rfl
        exact absurd (Prod.mk.inj hone).2 (by simp only [reduceCtorEq, not_false_eq_true])
      have hne : name ≠ "cookie" ∧ name ≠ "origin" := by
        constructor <;> rintro rfl <;> exact absurd hmanaged (by decide)
      rw [getAll_injectChromeHeaders_of_not_written _ profile site initial context acceptCh
        referer hnone, not_secret_of_managed hmanaged, if_neg Bool.false_ne_true,
        getAll_cookieOrigin, if_neg hne.1, if_neg hne.2, Option.toList_none]

/-- Of the others there are the cookies, marked, and the origin. -/
theorem getAll_requestHeaders_other {name : String} (h : name ∉ managedNames) :
    (requestHeaders profile method url cookieHeader site initial context acceptCh referer).getAll
      name =
      if name = "cookie" then
        (cookieHeader.bind HeaderValue.fromStr).toList.map
          (fun v => { v with sensitive := true })
      else if name = "origin" then
        (if sendsOrigin method then HeaderValue.fromStr url.origin.asciiSerialization
          else none).toList
      else [] := by
  rw [requestHeaders, getAll_injectChromeHeaders_of_not_written _ profile site initial context
    acceptCh referer (fun v hv => h (map_fst_chromeWrites profile site initial context acceptCh
      referer ▸ List.mem_map_of_mem hv)), getAll_cookieOrigin]
  by_cases hcookie : name = "cookie"
  · rw [if_pos hcookie, if_pos hcookie, hcookie,
      if_pos (show isSecretName "cookie" = true from rfl)]
  · rw [if_neg hcookie, if_neg hcookie]
    by_cases horigin : name = "origin"
    · rw [if_pos horigin, horigin, if_neg (show ¬ isSecretName "origin" = true from by decide)]
    · rw [if_neg horigin, List.map_nil, ite_self]

/-- The headers a call's requests have in common are among the overwrites. -/
theorem mem_chromeWrites_of_persona {name : String} {v : Option HeaderValue}
    (h : (name, v) ∈ persona profile context) :
    (name, v) ∈ chromeWrites profile site initial context acceptCh referer := by
  have hall : ∀ e ∈ persona profile context,
      e ∈ chromeWrites profile site initial context acceptCh referer := by
    simp only [persona, List.forall_mem_cons]
    simp only [chromeWrites, List.mem_cons, true_or, or_true, true_and, List.not_mem_nil,
      false_implies, implies_true]
  exact hall (name, v) h

end Request

/-- A value that is not marked, if there is one. -/
def Plain (v? : Option HeaderValue) : Prop :=
  ∀ v, v? = some v → v.sensitive = false

theorem plain_fromStr (s : String) : Plain (HeaderValue.fromStr s) := by
  intro v hv
  unfold HeaderValue.fromStr HeaderValue.fromBytes at hv
  split at hv
  · rw [← Option.some.inj hv]
  · exact absurd hv (by simp only [reduceCtorEq, not_false_eq_true])

theorem plain_some {v : HeaderValue} (h : v.sensitive = false) : Plain (some v) :=
  fun _ hv => Option.some.inj hv ▸ h

theorem plain_ite {p : Prop} [Decidable p] {v? : Option HeaderValue} (h : Plain v?) :
    Plain (if p then v? else none) := by
  intro v hv
  split at hv
  · exact h v hv
  · exact absurd hv (by simp only [reduceCtorEq, not_false_eq_true])

/-- No value an injection writes is marked. -/
theorem plain_of_written (profile : ChromeProfile) (site : String) (initial : Bool)
    (context : RequestContext) (acceptCh : Bool) (referer : Option String) :
    ∀ e ∈ chromeWrites profile site initial context acceptCh referer, Plain e.2 := by
  have hmetadata : (fetchMetadata context).1.sensitive = false ∧
      (fetchMetadata context).2.1.sensitive = false ∧
      (fetchMetadata context).2.2.sensitive = false := by
    cases context <;> exact ⟨rfl, rfl, rfl⟩
  have hreferer : Plain (referer.bind HeaderValue.fromStr) := by
    cases referer with
    | none => exact fun v hv => absurd hv (by simp only [Option.bind_none, reduceCtorEq,
        not_false_eq_true])
    | some s => exact plain_fromStr s
  have hencoding : Plain (some (if profile.headers.zstdEncoding then
      .fromStatic "gzip, deflate, br, zstd" (Eq.refl true)
        else .fromStatic "gzip, deflate, br" (Eq.refl true))) := by
    refine plain_some ?_
    split <;> rfl
  simp only [chromeWrites, List.forall_mem_cons]
  exact ⟨plain_fromStr _, plain_some rfl, plain_fromStr _, plain_ite (plain_fromStr _),
    plain_some rfl, plain_fromStr _, plain_fromStr _, plain_some hmetadata.2.2,
    plain_some hmetadata.1, plain_ite (plain_some rfl), plain_some hmetadata.2.1, hreferer,
    hencoding, plain_fromStr _, plain_ite (plain_some rfl),
    fun _ he => absurd he List.not_mem_nil⟩

/-- The site relation a request names is the hop's. -/
theorem fromNowhere_iff {m : HeaderMap} {h : Hop} (hi : StartInv h)
    (hsite : m.getAll "sec-fetch-site" = (HeaderValue.fromStr h.secFetchSite).toList) :
    FromNowhere m ↔ h.hop = 0 := by
  rw [FromNowhere, hsite]
  constructor
  · intro hnone
    by_contra hlater
    -- The three relations of a later hop are none of them the text of the first.
    have hall : ∀ site ∈ ["same-origin", "same-site", "cross-site"],
        (HeaderValue.fromStr site).toList ≠ [.fromStatic "none" (Eq.refl true)] := by
      decide +kernel
    exact hall _ (hi.later hlater) hnone
  · intro hfirst
    rw [(hi.first hfirst).1]
    rfl

/-- The headers of a hop's request. -/
theorem identified_requestHeaders {h : Hop} (hi : StartInv h) (c : UrlCrate)
    (profile : ChromeProfile) (parsed : Url) (cookieHeader : Option String)
    (context : RequestContext) (acceptCh : Bool) :
    Identified profile context
      (h.requestHeaders c profile parsed cookieHeader context acceptCh) := by
  have hwritten : ∀ {name v}, (name, v) ∈ chromeWrites profile h.secFetchSite (h.hop = 0) context
      acceptCh (h.refererToSend c) →
      (h.requestHeaders c profile parsed cookieHeader context acceptCh).getAll name = v.toList :=
    getAll_requestHeaders_managed profile h.currentMethod parsed cookieHeader h.secFetchSite
      (h.hop = 0) context acceptCh (h.refererToSend c)
  have hvalue : ∀ name ∈ managedNames, ∃ v, (name, v) ∈ chromeWrites profile h.secFetchSite
      (h.hop = 0) context acceptCh (h.refererToSend c) := by
    intro name hname
    rw [← map_fst_chromeWrites profile h.secFetchSite (h.hop = 0) context acceptCh
      (h.refererToSend c)] at hname
    rcases List.mem_map.mp hname with ⟨⟨_, v⟩, hv, rfl⟩
    exact ⟨v, hv⟩
  have hother : ∀ {name}, name ∉ managedNames → _ :=
    getAll_requestHeaders_other profile h.currentMethod parsed cookieHeader h.secFetchSite
      (h.hop = 0) context acceptCh (h.refererToSend c)
  have hsite := hwritten (show ("sec-fetch-site", HeaderValue.fromStr h.secFetchSite) ∈ _ by
    simp only [chromeWrites, List.mem_cons, true_or, or_true])
  have hnowhere := fromNowhere_iff hi hsite
  constructor
  case persona => exact fun name v hv => hwritten (mem_chromeWrites_of_persona _ _ _ _ _ _ hv)
  case version =>
      rw [hwritten (show (platformVersion, if acceptCh then
        HeaderValue.fromStr profile.headers.secChUaPlatformVersion else none) ∈ _ by
          simp only [chromeWrites, platformVersion, List.mem_cons, true_or, or_true])]
      cases acceptCh with
      | true => exact Or.inr rfl
      | false => exact Or.inl rfl
  case site =>
      by_cases hfirst : h.hop = 0
      · exact ⟨_, List.mem_cons_self, (hi.first hfirst).1 ▸ hsite⟩
      · exact ⟨_, List.mem_cons_of_mem _ (hi.later hfirst), hsite⟩
  case user =>
      have huser := hwritten (show ("sec-fetch-user",
        if (h.hop = 0 : Bool) && context.isNavigation then
          some (.fromStatic "?1" (Eq.refl true)) else none) ∈ _ by
            simp only [chromeWrites, List.mem_cons, true_or, or_true])
      rw [hnowhere, huser]
      by_cases hstarted : context.isNavigation = true ∧ h.hop = 0
      · rw [if_pos (by rw [hstarted.1, hstarted.2]; rfl)]
        exact Or.inl ⟨rfl, hstarted⟩
      · rw [if_neg (fun hc => ?_)]
        · exact Or.inr ⟨rfl, hstarted⟩
        · rw [Bool.and_eq_true, decide_eq_true_eq] at hc
          exact hstarted ⟨hc.2, hc.1⟩
  case referer =>
      intro hfrom
      rw [hwritten (show ("referer", (h.refererToSend c).bind HeaderValue.fromStr) ∈ _ by
        simp only [chromeWrites, List.mem_cons, true_or, or_true]), Hop.refererToSend,
        (hi.first (hnowhere.mp hfrom)).2.1]
      rfl
  case single =>
      intro name
      by_cases hname : name ∈ managedNames
      -- A managed name has the value of its overwrite, another one what was there.
      · rcases hvalue name hname with ⟨v, hv⟩
        rw [hwritten hv]
        exact Option.length_toList_le
      · refine (congrArg List.length (hother hname)).trans_le ?_
        split
        · rw [List.length_map]
          exact Option.length_toList_le
        · split
          · exact Option.length_toList_le
          · exact Nat.zero_le 1
  case known =>
      intro name hne
      by_contra hunknown
      rw [not_or, not_or] at hunknown
      refine hne ((hother hunknown.1).trans ?_)
      rw [if_neg hunknown.2.1, if_neg hunknown.2.2]
  case marked =>
      intro name v hv
      by_cases hname : name ∈ managedNames
      · rcases hvalue name hname with ⟨v?, hv?⟩
        rw [hwritten hv?, Option.mem_toList] at hv
        have hcookie : name ≠ "cookie" := by
          rintro rfl
          exact absurd hname (by decide)
        rw [plain_of_written _ _ _ _ _ _ (name, v?) hv? v hv, decide_eq_false hcookie]
      · have hv : v ∈ _ := hother hname ▸ hv
        split at hv
        -- The cookies are marked on their way out, and only they.
        · rcases List.mem_map.mp hv with ⟨_, _, rfl⟩
          exact (decide_eq_true ‹_›).symm
        · split at hv
          · rename_i hcookie _
            rw [decide_eq_false hcookie]
            exact plain_ite (plain_fromStr _) v (Option.mem_toList.mp hv)
          · exact absurd hv List.not_mem_nil

/-- The context a task was called with. -/
def calledAs (as : List Action) (t : Nat) : Option RequestContext :=
  as.findSome? (fun a => match a with
    | .task u (.call _ _ _ context) => if u = t then some context else none
    | _ => none)

/-- The context of a call that is not over. -/
def Pc.context? {c : UrlCrate} : Pc c → Option RequestContext
  | .top _ context => some context
  | .inHop v _ => some v.context
  | _ => none

/-- The tasks against the calls that have been made. -/
structure CalledInv (as : List Action) (s : State cl) : Prop where
  idle : ∀ t, s.tasks t = .idle → calledAs as t = none
  context : ∀ t context, (s.tasks t).context? = some context → calledAs as t = some context

/-- The first call counts. -/
theorem calledAs_concat (as : List Action) (a : Action) (t : Nat) :
    calledAs (as ++ [a]) t = (calledAs as t).or (calledAs [a] t) := by
  rw [calledAs, List.findSome?_append]
  rfl

/-- A move within a hop keeps the context, until the call is over. -/
theorem move_context {s : State cl} {v : Vars cl.crates.url} {stage : Stage} {input : Input}
    {pc : Pc cl.crates.url} {fx : List Effect} (hm : StageMove s v stage input pc fx) :
    pc ≠ .idle ∧ ∀ context, pc.context? = some context → context = v.context := by
  cases hm with
  | redirectFailed | answered | dialH2Failed | fallbackDialFailed | sendUnbuilt | sendRefused
    | failH2 | midDialFailed | midSendUnbuilt | midSendRefused | midFail =>
      exact ⟨nofun, fun _ hc => absurd hc (by simp only [Pc.context?, reduceCtorEq,
        not_false_eq_true])⟩
  | _ => exact ⟨nofun, fun _ hc => (Option.some.inj hc).symm⟩

/-- So does every move of a task, except the one that is the call. -/
theorem taskMove_context {s : State cl} {as : List Action} {t : Nat} {pc pc' : Pc cl.crates.url}
    {input : Input} {fx : List Effect} (hm : TaskMove s pc input pc' fx)
    (hidle : pc = .idle → calledAs as t = none)
    (hcontext : ∀ context, pc.context? = some context → calledAs as t = some context) :
    pc' ≠ .idle ∧ ∀ context, pc'.context? = some context →
      calledAs (as ++ [.task t input]) t = some context := by
  cases hm with
  -- An idle task has not been called yet, so this call is the first.
  | call method url body context =>
      refine ⟨nofun, fun context' hc => ?_⟩
      rw [← hc, calledAs_concat, hidle rfl, Option.none_or]
      simp only [calledAs, List.findSome?_cons, if_true, Pc.context?]
  | enter v =>
      refine ⟨nofun, fun context hc => ?_⟩
      rw [calledAs_concat, hcontext context hc, Option.some_or]
  | refuse =>
      exact ⟨nofun, fun _ hc => absurd hc (by simp only [Pc.context?, reduceCtorEq,
        not_false_eq_true])⟩
  | stage hm =>
      refine ⟨(move_context hm).1, fun context hc => ?_⟩
      rw [(move_context hm).2 context hc, calledAs_concat, hcontext _ rfl, Option.some_or]

/-- One step of the client. -/
theorem calledInv_step {as : List Action} {s s' : State cl} {a : Action} (hi : CalledInv as s)
    (h : step s a = some s') : CalledInv (as ++ [a]) s' := by
  cases a with
  | driver session e =>
      rcases step_driver_eq_some h with ⟨d, d', _, _, rfl⟩
      have hsame : ∀ t, calledAs (as ++ [.driver session e]) t = calledAs as t := by
        intro t
        rw [calledAs_concat]
        exact Option.or_none
      exact ⟨fun t ht => (hsame t).trans (hi.idle t ht),
        fun t context hc => (hsame t).trans (hi.context t context hc)⟩
  | task t input =>
      rcases step_task_eq_some h with ⟨pc, fx, hm, rfl⟩
      have hmove := taskMove_context hm (hi.idle t) (hi.context t)
      have hothers : ∀ u, u ≠ t → calledAs (as ++ [.task t input]) u = calledAs as u := by
        intro u hu
        rw [calledAs_concat]
        refine (congrArg _ ?_).trans Option.or_none
        cases input with
        | call =>
            simp only [calledAs, List.findSome?_cons, Ne.symm hu, if_false, List.findSome?_nil]
        | _ => rfl
      constructor
      · intro u hu
        rcases State.after_tasks_eq hu with ⟨rfl, hpc⟩ | ⟨hne, hold⟩
        · exact absurd hpc hmove.1
        · exact (hothers u hne).trans (hi.idle u hold)
      · intro u context hc
        rcases State.after_tasks_eq (rfl : (s.after t pc fx).tasks u = _) with
          ⟨rfl, hpc⟩ | ⟨hne, hold⟩
        · exact hmove.2 context (hpc ▸ hc)
        · exact (hothers u hne).trans (hi.context u context (hold ▸ hc))

theorem calledInv_run (altSvc : AltSvcCache) (jar : Jar) {as : List Action} {s : State cl}
    (hrun : run step (State.fresh cl altSvc jar) as = some s) : CalledInv as s :=
  run_induction step (P := CalledInv)
    ⟨fun _ _ => rfl, fun _ _ hc => absurd hc (by simp only [State.fresh, Pc.context?, reduceCtorEq,
      not_false_eq_true])⟩ (fun _ _ _ _ _ hi hs => calledInv_step hi hs) hrun

/-- Whatever is on the wire is what a hop of a redirect chain built, for the call
    its task was called with. -/
theorem wire_built (altSvc : AltSvcCache) (jar : Jar) {as : List Action} {s : State cl}
    (hrun : run step (State.fresh cl altSvc jar) as = some s) {r : Sent}
    (hr : r ∈ wire cl altSvc jar as) :
    ∃ v : Vars cl.crates.url, ChainFrom cl.crates.url v.hop ∧ buildRequest v = .ok r.request ∧
      calledAs as r.task = some v.context := by
  revert r
  refine run_induction step (P := fun as _ => ∀ {r}, r ∈ wire cl altSvc jar as →
    ∃ v : Vars cl.crates.url, ChainFrom cl.crates.url v.hop ∧ buildRequest v = .ok r.request ∧
      calledAs as r.task = some v.context)
    (fun {r} hr => absurd hr List.not_mem_nil) ?_ hrun
  intro as s a s' hrun ih hs r hr
  have hwire : wire cl altSvc jar (as ++ [a]) = wire cl altSvc jar as ++ (sentBy s a).toList :=
    history_concat step hs hrun
  rw [hwire, List.mem_append] at hr
  rcases hr with hold | hnew
  · rcases ih hold with ⟨v, hchain, hbuilt, hcalled⟩
    exact ⟨v, hchain, hbuilt, by rw [calledAs_concat, hcalled, Option.some_or]⟩
  -- What is new is what the hop of the task has built, in the state before the step.
  · rcases sentBy_eq_some (Option.mem_toList.mp hnew) with ⟨t, _, v, stage, _, htask, _, hof⟩
    have hcalled := (calledInv_run altSvc jar hrun).context t v.context (by rw [htask]; rfl)
    have hchain : ChainFrom cl.crates.url v.hop :=
      @task_hop_chain Jar cl altSvc jar s ⟨as, hrun⟩ t v.hop (by rw [htask]; rfl)
    exact ⟨v, hchain, hof.built, by rw [calledAs_concat, hof.task, hcalled, Option.some_or]⟩

/-- In every run of a client every request that is handed to a transport belongs
    to a call, and its headers say of the browser what the profile says, of the
    purpose what the context of the call says, and nothing that does not go
    together. -/
theorem one_identity (altSvc : AltSvcCache) (jar : Jar) {as : List Action} {s : State cl}
    (hrun : run step (State.fresh cl altSvc jar) as = some s) {r : Sent}
    (hr : r ∈ wire cl altSvc jar as) :
    ∃ context, calledAs as r.task = some context ∧
      Identified cl.profile context r.request.headers := by
  rcases wire_built altSvc jar hrun hr with ⟨v, hchain, hbuilt, hcalled⟩
  refine ⟨v.context, hcalled, ?_⟩
  rw [buildRequest_headers hbuilt]
  exact identified_requestHeaders (startInv_chain hchain) _ _ _ _ _ _

/-- A navigation that is redirected to where it came from. -/
def redirected : List Action :=
  ([ .call "GET" "https://a.test/" none .navigate, .go, .go, .go, .go, .go, .go,
    .dial (.connected { ip := .v4 0xC0000201, port := 443 } none), .transmit none,
    .respond (.ok (.found, (redirectTo "https://a.test/").headers, 0)), .go, .go, .go, .go, .go,
    .go, .go, .go, .go, .ready true, .transmit none ] : List Input).map (.task 0)

theorem one_identity_redirected :
    ∃ s, run step (State.fresh direct AltSvcCache.new ()) redirected = some s ∧
      (wire direct AltSvcCache.new () redirected).map (fun r =>
        (r.request.headers.getAll "sec-fetch-site").map HeaderValue.toStr) =
        [[some "none"], [some "same-origin"]] ∧
      ∀ r ∈ wire direct AltSvcCache.new () redirected,
        ∃ context, calledAs redirected r.task = some context ∧
          Identified direct.profile context r.request.headers := by
  have hrun : (run step (State.fresh direct AltSvcCache.new ()) redirected).isSome = true := by
    decide +kernel
  rcases Option.isSome_iff_exists.mp hrun with ⟨s, hs⟩
  exact ⟨s, hs, by decide +kernel, fun r hr => one_identity AltSvcCache.new () hs hr⟩

end Quik
