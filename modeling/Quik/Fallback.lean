import Quik.ClientMoves

/-!
# After a Fallback

How the next request to an origin is routed once HTTP/3 has failed there.

A failed HTTP/3 hop evicts the origin from the Alt-Svc cache, and the answer it
then gets over HTTP/2 goes through `store_alt_svc` like any other. The routing
of a later hop looks at nothing but the cache, so what counts is what was
written under the origin's key since: `relearn` follows a run and remembers
whether the last word on a key was an eviction or an advertisement. The next
request goes over HTTP/2 exactly if it was the eviction
(`fallback_sticks_iff`).

## Main definitions

* `relearn`: The last word on a key.
* `FallbackRun`: A failed hop, its answer, and the next request to its origin.

## Theorems

* `step_altSvc`: What a step does to one key of the cache.
* `fallback_sticks_iff`: When the next request goes over HTTP/2.
-/

namespace Quik

open Transition

variable {Jar : Type} {cl : Client Jar}

/-- A hop about to evict its origin: the URL and the hop's ticket. -/
def Pc.evicts? {c : UrlCrate} : Pc c → Option (Url × Nat)
  | .inHop v .evictDial | .inHop v .evictSend => some (v.parsedUrl, v.ticket)
  | _ => none

/-- A hop about to learn from its response. -/
def Pc.learns? {c : UrlCrate} : Pc c → Option (Url × Nat × Response)
  | .inHop v (.storeAltSvc resp) => some (v.parsedUrl, v.ticket, resp)
  | _ => none

/-- A hop that has just been routed: its URL, and whether to HTTP/3. -/
def Pc.routed? {c : UrlCrate} : Pc c → Option (Url × Bool)
  | .inHop v .cookies => some (v.parsedUrl, v.hasAltSvc)
  | _ => none

/-- Whether the last word on a key was an advertisement. -/
def relearn (key : String) (m : Bool) (s : State cl) : Action → Bool
  | .driver _ _ => m
  | .task t _ =>
    match (s.tasks t).evicts?, (s.tasks t).learns? with
    | some (url, _), _ => if url.routeKey = key then false else m
    | none, some (url, _, resp) => teaches resp url key || m
    | none, none => m

/-- A step processes a response from the origin of `url`. -/
def processes (s : State cl) (url : Url) : Action → Bool
  | .driver _ _ => false
  | .task t _ =>
    match (s.tasks t).learns? with
    | some (u, _, _) => sameOrigin u url
    | none => false

/-- A step routes a request to the origin of `url`. -/
def issues (s : State cl) (url : Url) : Action → Bool
  | .driver _ _ => false
  | .task t _ =>
    match s.tasks t with
    | .top hop _ =>
      match cl.crates.url.parse hop.currentUrlStr with
      | .ok u => sameOrigin u url
      | .error _ => false
    | _ => false

/-- A step leaves the cache alone, except where it evicts or learns. -/
theorem step_altSvc {s s' : State cl} {a : Action} (h : step s a = some s') (key : String) :
    (s'.altSvc key).isSome = relearn key (s.altSvc key).isSome s a := by
  cases a with
  | driver session e =>
      rcases step_driver_eq_some h with ⟨d, d', _, _, rfl⟩
      rfl
  | task t input =>
      rcases step_task_eq_some h with ⟨pc, fx, hm, rfl⟩
      simp only [relearn]
      generalize s.tasks t = pc₀ at hm
      cases hm with
      | call | enter | refuse => rfl
      | @stage v stage _ _ _ hm =>
          cases hm with
          -- An eviction is about the hop's own key and no other.
          | evictDial | evictSend =>
              simp only [Pc.evicts?]
              by_cases hkey : v.parsedUrl.routeKey = key
              · rw [if_pos hkey, ← hkey]
                exact congrArg Option.isSome (AltSvcCache.remove_self s.altSvc _)
              · rw [if_neg hkey]
                exact congrArg Option.isSome (AltSvcCache.remove_of_ne s.altSvc (Ne.symm hkey))
          | storeAltSvc resp => exact storeAltSvc_isSome s.altSvc resp v.parsedUrl key
          -- What a dial leaves behind is not in the cache.
          | dialed outcome | dialH3Failed outcome | dialH2Failed outcome
          | fallbackDialed outcome | fallbackDialFailed outcome | midDialed outcome
          | midDialFailed outcome =>
              cases outcome <;> rfl
          | _ => rfl

/-- The last word on a key is what the cache has. -/
theorem history_relearn {key : String} {m : Bool} {s t : State cl} {as : List Action}
    (hm : (s.altSvc key).isSome = m) (hrun : run step s as = some t) :
    (t.altSvc key).isSome = history step (relearn key) m s as :=
  history_invariant step (J := fun m s => (s.altSvc key).isSome = m)
    (fun _ _ _ _ hJ hs => by rw [step_altSvc hs, hJ]) hm hrun

/-- A run of a fresh client in which a hop to an origin fails over HTTP/3,
    evicts the origin and is answered after all, and the next request to that
    origin with no other response from it in between. -/
structure FallbackRun (cl : Client Jar) where
  altSvc : AltSvcCache
  jar : Jar
  before : List Action
  during : List Action
  after : List Action
  /-- The task whose hop fails, and the one that makes the next request. -/
  t : Nat
  t' : Nat
  /-- The URL and the ticket of the hop that fails. -/
  url : Url
  ticket : Nat
  /-- The URL of the next request, and whether it is routed to HTTP/3. -/
  url' : Url
  routedH3 : Bool
  failed : State cl
  evicted : State cl
  answered : State cl
  learned : State cl
  next : State cl
  routed : State cl
  start : run step (State.fresh cl altSvc jar) before = some failed
  atFailure : (failed.tasks t).evicts? = some (url, ticket)
  eviction : step failed (.task t .go) = some evicted
  fallback : run step evicted during = some answered
  atAnswer : (answered.tasks t).learns?.map (fun x => (x.1, x.2.1)) = some (url, ticket)
  learning : step answered (.task t .go) = some learned
  interval : run step learned after = some next
  quiet : Every step (fun s a => processes s url a = false ∧ issues s url a = false) learned after
  request : step next (.task t' .go) = some routed
  atRequest : (routed.tasks t').routed? = some (url', routedH3)
  isNext : issues next url (.task t' .go) = true
  sameOrigin : Quik.sameOrigin url url' = true

/-- A hop is routed by what the cache has under its key. -/
theorem routed_eq {s s' : State cl} {t : Nat} {url url' : Url} {h3 : Bool}
    (h : step s (.task t .go) = some s') (hi : issues s url (.task t .go) = true)
    (hr : (s'.tasks t).routed? = some (url', h3)) : h3 = (s.altSvc url'.routeKey).isSome := by
  rcases step_task_eq_some h with ⟨pc, fx, hm, rfl⟩
  rw [State.after_tasks, Function.update_self] at hr
  simp only [issues] at hi
  generalize s.tasks t = pc₀ at hm hi
  cases hm with
  | enter v _ hroute =>
      simp only [Pc.routed?, Option.some.injEq, Prod.mk.injEq] at hr
      rw [← hr.1, ← hr.2]
      exact hroute
  | refuse => exact absurd hr (by simp only [Pc.routed?, reduceCtorEq, not_false_eq_true])
  | stage => exact absurd hi Bool.false_ne_true

/-- The next request goes over HTTP/2 exactly if no response processed since
    the origin was last evicted taught its key. -/
theorem fallback_sticks_iff (r : FallbackRun cl) :
    r.routedH3 = false ↔
      history step (relearn r.url.routeKey) false r.evicted
        (r.during ++ .task r.t .go :: r.after) = false := by
  have hkey : r.url'.routeKey = r.url.routeKey := routeKey_eq_of_sameOrigin r.sameOrigin
  have hevicted : (r.evicted.altSvc r.url.routeKey).isSome = false := by
    rw [step_altSvc r.eviction]
    simp only [relearn, r.atFailure, if_true]
  -- From the eviction on, the history of the key is what the cache has.
  have hrest : run step r.answered (.task r.t .go :: r.after) = some r.next := by
    rw [run_cons, r.learning]
    exact r.interval
  have hlast := history_relearn hevicted (run_append_of_eq step r.fallback hrest)
  rw [routed_eq r.request r.isNext r.atRequest, hkey, hlast]

/-- The first hop, up to the failure of its HTTP/3 dial. -/
def dialFails : List Action :=
  ([ .call "GET" "https://a.test/" none .navigate, .go, .go, .go, .go, .go, .go,
    .dial (.unreachable (.connect "network is unreachable")) ] : List Input).map (.task 0)

/-- From the eviction to an answer that advertises HTTP/3 again. -/
def answeredOverH2 : List Action :=
  ([ .go, .go, .dial (.connected { ip := .v4 0xC0000201, port := 443 } none), .transmit none,
    .respond (.ok (.ok, advertises, 0)), .go, .go ] : List Input).map (.task 0)

/-- The hop ends, and another request begins. -/
def nextCall : List Action :=
  [.task 0 .go, .task 1 (.call "GET" "https://a.test/" none .navigate)]

/-- The runs up to the six states of the episode. -/
def toFailure : List Action := dialFails
def toEviction : List Action := toFailure ++ [.task 0 .go]
def toAnswer : List Action := toEviction ++ answeredOverH2
def toLearning : List Action := toAnswer ++ [.task 0 .go]
def toNextCall : List Action := toLearning ++ nextCall
def toRouting : List Action := toNextCall ++ [.task 1 .go]

/-- The fallback's own answer puts the origin back on HTTP/3. -/
theorem fallback_relearns : ∃ r : FallbackRun direct, r.routedH3 = true := by
  have h₀ : (run step cachedA toFailure).isSome = true := by decide +kernel
  have h₁ : (run step cachedA toEviction).isSome = true := by decide +kernel
  have h₂ : (run step cachedA toAnswer).isSome = true := by decide +kernel
  have h₃ : (run step cachedA toLearning).isSome = true := by decide +kernel
  have h₄ : (run step cachedA toNextCall).isSome = true := by decide +kernel
  have h₅ : (run step cachedA toRouting).isSome = true := by decide +kernel
  refine ⟨{
    altSvc := AltSvcCache.new.insert "a.test:443" "h3=\":443\"", jar := ()
    before := dialFails, during := answeredOverH2, after := nextCall
    t := 0, t' := 1
    url := siteA, ticket := 0
    url' := siteA, routedH3 := true
    failed := (run step cachedA toFailure).get (by decide +kernel)
    evicted := (run step cachedA toEviction).get (by decide +kernel)
    answered := (run step cachedA toAnswer).get (by decide +kernel)
    learned := (run step cachedA toLearning).get (by decide +kernel)
    next := (run step cachedA toNextCall).get (by decide +kernel)
    routed := (run step cachedA toRouting).get (by decide +kernel)
    start := (Option.some_get h₀).symm
    eviction := step_get step h₀ h₁
    fallback := run_get step h₁ h₂
    learning := step_get step h₂ h₃
    interval := run_get step h₃ h₄
    request := step_get step h₄ h₅
    atFailure := by decide +kernel
    atAnswer := by decide +kernel
    quiet := by decide +kernel
    atRequest := by decide +kernel
    isNext := by decide +kernel
    sameOrigin := by decide +kernel }, rfl⟩

end Quik
