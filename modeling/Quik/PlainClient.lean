import Quik.Pool
import Quik.Servers

/-!
# The Plain Client

What a client without HTTP/3 makes of a request, as one function of the stores
and the servers. A hop reads the cookie jar and the hint cache, acquires a
connection (the pooled one if it is alive, else a new one), sends, waits,
stores what the response leaves, and follows it.

This is the meaning a task of the real client is compared with. `foretold` says
what the plain client would still make of a task that has got to some stage, so
that a step of the task that keeps it is a step the plain client might have
taken.

## Main definitions

* `Stores`, `storesOf`: What the plain client works on.
* `Outcome`: What is left of a request when it is done.
* `Plain.acquired`, `Plain.hopFrom`: One hop, and a chain of them.
* `foretold`: The plain client from a task's stage on.

## Theorems

* `storesOf_after`, `storesOf_store`: What effects do to the stores.
-/

namespace Quik

open Transition

variable {Jar ω : Type}

/-- The shared state as the plain client sees it. Slots are named by the route
    they are for, and either hold a connection or not. -/
structure Stores (Jar ω : Type) where
  jar : Jar
  hints : String → Bool
  pooled : String → Bool
  servers : ω

/-- What a request returns, and what it leaves in the public stores. -/
structure Outcome (Jar : Type) where
  result : Except Error Response
  jar : Jar
  hints : String → Bool

def Stores.ends (st : Stores Jar ω) (result : Except Error Response) : Outcome Jar where
  result := result
  jar := st.jar
  hints := st.hints

/-- The cause of a dial that has failed. -/
def DialOutcome.error? : DialOutcome → Option Error
  | .unreachable cause | .broken _ cause => some cause
  | .connected _ _ => none

namespace Plain

variable (cl : Client Jar) (W : Servers ω)

section Hop

-- How the chain goes on.
variable (next : Hop → Stores Jar ω → Outcome Jar)

/-- The response leads on, or is the answer. -/
def evaluated (v : Vars cl.crates.url) (resp : Response) (st : Stores Jar ω) : Outcome Jar :=
  match v.hop.evaluate cl.crates.url v.parsedUrl resp with
  | .error e => st.ends (.error e)
  | .ok none => st.ends (.ok (resp.setUrl v.hop.currentUrlStr))
  | .ok (some hop) => next hop st

def storedHints (v : Vars cl.crates.url) (resp : Response) (st : Stores Jar ω) : Stores Jar ω :=
  { st with hints := storeHints st.hints resp v.parsedUrl }

def storedCookies (v : Vars cl.crates.url) (resp : Response) (st : Stores Jar ω) : Stores Jar ω :=
  { st with jar := storeCookies cl st.jar resp v.parsedUrl }

/-- The response is awaited, and read. -/
def awaited (v : Vars cl.crates.url) (urlStr : String) (st : Stores Jar ω) : Outcome Jar :=
  let st' := { st with servers := (W.respond st.servers v.parsedUrl.authority).2 }
  match (W.respond st.servers v.parsedUrl.authority).1 with
  | .error e => st'.ends (.error e)
  | .ok r => evaluated cl next v (h2Response urlStr r)
      (storedHints cl v (h2Response urlStr r) (storedCookies cl v (h2Response urlStr r) st'))

/-- The request is built and sent. -/
def sent (v : Vars cl.crates.url) (st : Stores Jar ω) : Outcome Jar :=
  match buildRequest v with
  | .error e => st.ends (.error e)
  | .ok request =>
    let r := W.transmit st.servers v.parsedUrl.authority request v.hop.currentBody
    match r.1 with
    | some e => { st with servers := r.2 }.ends (.error e)
    | none => awaited cl W next v request.uri.text { st with servers := r.2 }

/-- A new connection is dialed and pooled. -/
def dialed (v : Vars cl.crates.url) (st : Stores Jar ω) : Outcome Jar :=
  let r := W.dial st.servers v.parsedUrl.authority false
  match r.1.error? with
  | some e => { st with servers := r.2 }.ends (.error e)
  | none => sent cl W next v
      { st with
        servers := r.2
        pooled := Function.update st.pooled v.parsedUrl.routeKey true }

/-- The pooled connection is used if it is alive. -/
def acquired (v : Vars cl.crates.url) (st : Stores Jar ω) : Outcome Jar :=
  if st.pooled v.parsedUrl.routeKey && W.alive st.servers v.parsedUrl.authority then
    sent cl W next v st
  else dialed cl W next v st

/-- The hint cache is read. -/
def hinted (v : Vars cl.crates.url) (st : Stores Jar ω) : Outcome Jar :=
  acquired cl W next (v.withHint (st.hints v.parsedUrl.origin.asciiSerialization)) st

/-- The cookie jar is read. -/
def entered (v : Vars cl.crates.url) (st : Stores Jar ω) : Outcome Jar :=
  hinted cl W next (v.withCookies (cookieHeader cl st.jar v.parsedUrl)) st

end Hop

/-- A chain of at most so many hops. -/
def hopFrom (context : RequestContext) : Nat → Hop → Stores Jar ω → Outcome Jar
  | 0, _, st => st.ends (.error (.connect "Redirect limit exceeded (max 10)"))
  | n + 1, hop, st =>
    match hopVars cl.crates.url hop context with
    | .error e => st.ends (.error e)
    | .ok v => entered cl W (hopFrom context n) v st

/-- The chain after a hop. -/
def goesOn (v : Vars cl.crates.url) : Hop → Stores Jar ω → Outcome Jar :=
  hopFrom cl W v.context (Hop.limit - (v.hop.hop + 1))

/-- A hop from a stage on. Whatever a hop routed to HTTP/3 has done so far, the
    plain client has yet to acquire its connection. -/
def fromStage (v : Vars cl.crates.url) : Stage → Stores Jar ω → Outcome Jar
  | .cookies => entered cl W (goesOn cl W v) v
  | .hints => hinted cl W (goesOn cl W v) v
  | .ready _ | .midReady _ => fun st =>
    if W.alive st.servers v.parsedUrl.authority then sent cl W (goesOn cl W v) v st
    else dialed cl W (goesOn cl W v) v st
  | .lockClear _ | .fallbackDial | .midDial => dialed cl W (goesOn cl W v) v
  | .dial => if v.hasAltSvc then acquired cl W (goesOn cl W v) v else dialed cl W (goesOn cl W v) v
  | .send (.http2 _) | .midSend _ => sent cl W (goesOn cl W v) v
  | .awaitH2 _ urlStr | .midAwait _ urlStr => awaited cl W (goesOn cl W v) v urlStr
  | .storeCookies resp => fun st => evaluated cl (goesOn cl W v) v resp
      (storedHints cl v resp (storedCookies cl v resp st))
  | .storeHints resp => fun st => evaluated cl (goesOn cl W v) v resp (storedHints cl v resp st)
  | .storeAltSvc resp | .redirect resp => evaluated cl (goesOn cl W v) v resp
  | .slotLookup | .lockClone | .lockDial | .evictDial | .fallbackLookup | .fallbackLock
  | .send (.http3 _) | .awaitH3 _ | .evictSend | .midLookup | .midLock =>
    acquired cl W (goesOn cl W v) v

end Plain

/-- What the plain client makes of a task from here on. -/
def foretold {cl : Client Jar} (W : Servers ω) :
    Pc cl.crates.url → Stores Jar ω → Option (Outcome Jar)
  | .idle, _ => none
  | .top hop context, st => some (Plain.hopFrom cl W context (Hop.limit - hop.hop) hop st)
  | .inHop v stage, st => some (Plain.fromStage cl W v stage st)
  | .done result, st => some (st.ends result)

variable {cl : Client Jar}

/-- The key of the HTTP/2 slot of a route. -/
def h2Slot (cl : Client Jar) (route : String) : String :=
  proxyPrefix cl.proxy ++ route ++ "#" ++ "h2"

theorem h2Slot_inj {route route' : String} (h : h2Slot cl route = h2Slot cl route') :
    route = route' := by
  have hlist := congrArg String.toList h
  simp only [h2Slot, String.toList_append, List.append_assoc] at hlist
  have hroute := List.append_cancel_left hlist
  exact String.toList_injective (List.append_cancel_right hroute)

theorem isH3Key_h2Slot (route : String) : isH3Key (h2Slot cl route) = false := by
  rw [isH3Key, h2Slot, String.toList_append, List.getLast?_append]
  rfl

/-- The stores of a client state, with the servers. -/
def storesOf (s : State cl) (srv : ω) : Stores Jar ω where
  jar := s.jar
  hints := s.hintCache
  pooled := fun route => (s.content (h2Slot cl route)).isSome
  servers := srv

/-- An effect the plain client does not see: it writes neither a public store
    nor an HTTP/2 slot. -/
def Effect.Unseen : Effect → Prop
  | .storeCookies _ _ | .storeHints _ _ => False
  | .store key _ => isH3Key key = true
  | _ => True

theorem unseen_dialEffects (dialH3 : Bool) (outcome : DialOutcome) :
    ∀ e ∈ dialEffects cl dialH3 outcome, e.Unseen :=
  forall_mem_dialEffects (fun _ => trivial) (fun _ _ => trivial) outcome

section Effects

variable (t : Nat) (s : State cl) (srv : ω)

theorem storesOf_apply {e : Effect} (h : e.Unseen) :
    storesOf (s.apply t e) srv = storesOf s srv := by
  have hpooled : ∀ route,
      (s.apply t e).content (h2Slot cl route) = s.content (h2Slot cl route) := by
    intro route
    refine apply_content t s (fun c hc => ?_)
    rw [hc] at h
    exact absurd ((isH3Key_h2Slot route).symm.trans h) Bool.noConfusion
  have hstores : (s.apply t e).jar = s.jar ∧ (s.apply t e).hintCache = s.hintCache := by
    cases e with
    | storeCookies | storeHints => exact h.elim
    | _ => exact ⟨rfl, rfl⟩
  rw [storesOf, storesOf, hstores.1, hstores.2]
  simp only [hpooled]

theorem storesOf_foldl {fx : List Effect} (h : ∀ e ∈ fx, e.Unseen) :
    storesOf (fx.foldl (State.apply t) s) srv = storesOf s srv :=
  List.foldlRecOn fx (State.apply t) (motive := fun s' : State cl =>
    storesOf s' srv = storesOf s srv) rfl
    (fun s' hs' e he => (storesOf_apply t s' srv (h e he)).trans hs')

/-- Unseen effects leave the stores as they are. -/
theorem storesOf_after {fx : List Effect} (h : ∀ e ∈ fx, e.Unseen) (pc : Pc cl.crates.url) :
    storesOf (s.after t pc fx) srv = storesOf s srv :=
  storesOf_foldl t s srv h

/-- A store into the HTTP/2 slot of a route fills or empties it. -/
theorem storesOf_store {route : String} {pre post : List Effect} (c : Option PooledConnection)
    (hslot : (s.pool (h2Slot cl route)).isSome = true) (hpre : ∀ e ∈ pre, e.Unseen)
    (hpost : ∀ e ∈ post, e.Unseen) (pc : Pc cl.crates.url) :
    storesOf (s.after t pc (pre ++ .store (h2Slot cl route) c :: post)) srv =
      { storesOf s srv with pooled := Function.update (storesOf s srv).pooled route c.isSome } := by
  have hstep : storesOf (s.after t pc (pre ++ .store (h2Slot cl route) c :: post)) srv =
      storesOf ((pre.foldl (State.apply t) s).apply t (.store (h2Slot cl route) c)) srv := by
    unfold State.after
    rw [List.foldl_append, List.foldl_cons]
    exact storesOf_foldl t _ srv hpost
  -- The slot is still there when the store comes; no effect removes one.
  have hslot' : ((pre.foldl (State.apply t) s).pool (h2Slot cl route)).isSome = true :=
    foldl_apply_isSome t s hslot
  rw [hstep, ← storesOf_foldl t s srv hpre]
  generalize pre.foldl (State.apply t) s = s' at hslot'
  rw [storesOf, storesOf]
  simp only [State.apply, Stores.mk.injEq, and_true]
  refine ⟨rfl, rfl, ?_⟩
  funext route'
  by_cases hroute : route' = route
  · rw [hroute, Function.update_self]
    exact congrArg Option.isSome (apply_store_content t s' c hslot')
  · rw [Function.update_of_ne hroute]
    refine congrArg Option.isSome (apply_content (e := .store (h2Slot cl route) c) t s'
      (fun c' hc => ?_))
    simp only [Effect.store.injEq] at hc
    exact hroute (h2Slot_inj hc.1.symm)

end Effects

end Quik
