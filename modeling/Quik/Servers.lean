import Quik.ClientMoves

/-!
# The Servers' Side

What a client receives from outside, as a function of what it has sent. A
`Servers` is a state machine the hops talk to: it says how a dial turns out,
whether the connection in a slot is alive, whether a request is accepted and
how it is answered, from its own state and the request at hand. A run against
it (`worldStep`) leaves nothing open but which task or driver moves next, and
what the packets bring.

The drivers stay as they are. How an HTTP/3 attempt ends is decided by the
packets, and a statement that needs more than that says so with `closed` and
`reply`.

## Main definitions

* `Servers`: How dials and requests turn out.
* `Servers.answer`: What a task's next step receives.
* `Turn`, `worldStep`: The client against the servers.

## Theorems

* `worldStep_eq_some`: A run against the servers is a run of the client.
-/

namespace Quik

open Transition

/-- The host and the port a connection is dialed to. -/
abbrev Authority := String × UInt16

def Url.authority (u : Url) : Authority :=
  (u.hostStr.getD "", u.connectPort)

/-- Everything outside of the client: how it answers and what it becomes. -/
structure Servers (ω : Type) where
  /-- A dial, over HTTP/3 or not. -/
  dial : ω → Authority → Bool → DialOutcome × ω
  /-- `ready()` on the pooled HTTP/2 connection. -/
  alive : ω → Authority → Bool
  /-- `send_request` and `send_data`. -/
  transmit : ω → Authority → Request → Option Bytes → Option Error × ω
  /-- The response to the request last transmitted. -/
  respond : ω → Authority → Except Error (StatusCode × HeaderMap × Nat) × ω
  /-- The driver of the pooled HTTP/3 session has exited. -/
  closed : ω → Authority → Bool
  /-- A request enters the channel of the session. -/
  command : ω → Authority → Request → Option Bytes → ω
  /-- What its caller receives. -/
  reply : ω → Authority → Except Error Response × ω

variable {Jar ω : Type} {cl : Client Jar} (W : Servers ω)

/-- What a hop's next step receives, and the servers after it. -/
def Servers.answer (srv : ω) (v : Vars cl.crates.url) : Stage → Input × ω
  | .ready _ | .midReady _ => (.ready (W.alive srv v.parsedUrl.authority), srv)
  | .dial =>
    let r := W.dial srv v.parsedUrl.authority v.hasAltSvc
    (.dial r.1, r.2)
  | .fallbackDial | .midDial =>
    let r := W.dial srv v.parsedUrl.authority false
    (.dial r.1, r.2)
  | .send (.http2 _) | .midSend _ =>
    match buildRequest v with
    | .ok request =>
      let r := W.transmit srv v.parsedUrl.authority request v.hop.currentBody
      (.transmit r.1, r.2)
    | .error _ => (.transmit none, srv)
  | .send (.http3 _) =>
    match buildRequest v with
    | .ok request => (.go, W.command srv v.parsedUrl.authority request v.hop.currentBody)
    | .error _ => (.go, srv)
  | .awaitH2 _ _ | .midAwait _ _ =>
    let r := W.respond srv v.parsedUrl.authority
    (.respond r.1, r.2)
  | .awaitH3 _ => (.go, (W.reply srv v.parsedUrl.authority).2)
  | _ => (.go, srv)

/-- Who moves. -/
inductive Turn where
  | task (t : Nat)
  | driver (session : Nat) (e : Event)

/-- Of all tasks, only this one moves. -/
def Turn.alone (t : Nat) : Turn → Bool
  | .task t' => t' = t
  | .driver _ _ => true

/-- One step of the client with what the servers answer. -/
def worldStep (x : ω × State cl) : Turn → Option (ω × State cl)
  | .task t =>
    match x.2.tasks t with
    | .inHop v stage =>
      (step x.2 (.task t (W.answer x.1 v stage).1)).map (fun s => ((W.answer x.1 v stage).2, s))
    | _ => (step x.2 (.task t .go)).map (fun s => (x.1, s))
  | .driver session e => (step x.2 (.driver session e)).map (fun s => (x.1, s))

/-- A hop that has read the cookie jar. -/
def Vars.withCookies {c : UrlCrate} (v : Vars c) (header : Option String) : Vars c :=
  { v with cookieHeader := header }

/-- A hop that has read the hint cache. -/
def Vars.withHint {c : UrlCrate} (v : Vars c) (acceptCh : Bool) : Vars c :=
  { v with acceptCh := acceptCh }

/-- A hop without its number. -/
def Vars.unnamed {c : UrlCrate} (v : Vars c) : Vars c :=
  { v with ticket := 0 }

/-- The top of the loop without the routing: the limit, the URL and its host. -/
def hopVars (c : UrlCrate) (hop : Hop) (context : RequestContext) : Except Error (Vars c) :=
  if hl : hop.hop < Hop.limit then
    match hp : c.parse hop.currentUrlStr with
    | .error e => .error (.invalidUrl e)
    | .ok parsedUrl =>
      if hh : parsedUrl.host.isSome = true then
        .ok { hop := hop, context := context, parsedUrl := parsedUrl, hasAltSvc := false,
              ticket := 0, inRange := hl, parsed := hp, hasHost := hh }
      else .error (.invalidUrl "missing host")
  else .error (.connect "Redirect limit exceeded (max 10)")

/-- The variables `hopVars` finds, if it finds any. -/
theorem hopVars_of_parse {c : UrlCrate} {hop : Hop} {context : RequestContext} {u : Url}
    (hl : hop.hop < Hop.limit) (hp : c.parse hop.currentUrlStr = .ok u)
    (hh : u.host.isSome = true) : hopVars c hop context = .ok
      { hop := hop, context := context, parsedUrl := u, hasAltSvc := false, ticket := 0,
        inRange := hl, parsed := hp, hasHost := hh } := by
  unfold hopVars
  rw [dif_pos hl]
  split
  · rename_i e he
    exact absurd (he.symm.trans hp) (by simp only [reduceCtorEq, not_false_eq_true])
  · rename_i u' hu'
    cases hu'.symm.trans hp
    rw [dif_pos hh]

theorem hopVars_of_refused {c : UrlCrate} {hop : Hop} {context : RequestContext}
    (hl : hop.hop < Hop.limit) : (∀ e, c.parse hop.currentUrlStr = .error e →
        hopVars c hop context = .error (.invalidUrl e)) ∧
      ∀ u, c.parse hop.currentUrlStr = .ok u → ¬ u.host.isSome = true →
        hopVars c hop context = .error (.invalidUrl "missing host") := by
  unfold hopVars
  rw [dif_pos hl]
  constructor
  · intro e he
    split
    · rename_i e' he'
      cases he'.symm.trans he
      rfl
    · rename_i u hu
      exact absurd (hu.symm.trans he) (by simp only [reduceCtorEq, not_false_eq_true])
  · intro u hu hh
    split
    · rename_i e he
      exact absurd (he.symm.trans hu) (by simp only [reduceCtorEq, not_false_eq_true])
    · rename_i u' hu'
      cases hu'.symm.trans hu
      rw [dif_neg hh]

/-- The top of the loop is that, and the routing. -/
theorem enterHop_eq (s : State cl) (hop : Hop) (context : RequestContext) :
    enterHop s hop context = match hopVars cl.crates.url hop context with
      | .error e => (.done (.error e), [])
      | .ok v => (.inHop { v with
            hasAltSvc := (s.altSvc v.parsedUrl.routeKey).isSome
            ticket := s.nextTicket } .cookies, [.ticket]) := by
  unfold enterHop
  by_cases hl : hop.hop < Hop.limit
  · rw [dif_pos hl]
    split
    · rename_i e he
      rw [(hopVars_of_refused hl).1 e he]
    · rename_i u hu
      by_cases hh : u.host.isSome = true
      · rw [dif_pos hh, hopVars_of_parse hl hu hh]
      · rw [dif_neg hh, (hopVars_of_refused hl).2 u hu hh]
  · rw [dif_neg hl, hopVars, dif_neg hl]

/-- The variables are those of the hop. -/
theorem hopVars_eq_ok {c : UrlCrate} {hop : Hop} {context : RequestContext} {v : Vars c}
    (h : hopVars c hop context = .ok v) : v.hop = hop ∧ v.context = context := by
  unfold hopVars at h
  split at h
  · split at h
    · cases h
    · split at h
      · cases h
        exact ⟨rfl, rfl⟩
      · cases h
  · cases h

/-- A step of a hop, as the function it is. -/
theorem worldStep_inHop {x y : ω × State cl} {t : Nat} {v : Vars cl.crates.url} {stage : Stage}
    (ht : x.2.tasks t = .inHop v stage) (h : worldStep W x (.task t) = some y) :
    ∃ pc fx, stageStep x.2 v stage (W.answer x.1 v stage).1 = some (pc, fx) ∧
      y = ((W.answer x.1 v stage).2, x.2.after t pc fx) := by
  simp only [worldStep, ht] at h
  rcases Option.map_eq_some_iff.mp h with ⟨s', hs, rfl⟩
  simp only [step, ht, taskStep] at hs
  cases hstep : stageStep x.2 v stage (W.answer x.1 v stage).1 with
  | none =>
      rw [hstep] at hs
      exact absurd hs (by simp only [reduceCtorEq, not_false_eq_true])
  | some move =>
      rw [hstep] at hs
      exact ⟨move.1, move.2, rfl, by rw [← Option.some.inj hs]⟩

theorem worldStep_top {x y : ω × State cl} {t : Nat} {hop : Hop} {context : RequestContext}
    (ht : x.2.tasks t = .top hop context) (h : worldStep W x (.task t) = some y) :
    y = (x.1, x.2.after t (enterHop x.2 hop context).1 (enterHop x.2 hop context).2) := by
  simp only [worldStep, ht, step, taskStep, Option.map_some, Option.some.injEq] at h
  exact h.symm

/-- The ways a task can move against the servers. -/
inductive WorldMove (srv : ω) (s : State cl) : Pc cl.crates.url → ω → Pc cl.crates.url →
    List Effect → Prop where
  | top (hop context) : WorldMove srv s (.top hop context) srv
      (enterHop s hop context).1 (enterHop s hop context).2
  | stage {v stage pc fx} (hm : StageMove s v stage (W.answer srv v stage).1 pc fx) :
      WorldMove srv s (.inHop v stage) (W.answer srv v stage).2 pc fx

theorem worldStep_task_eq_some {x y : ω × State cl} {t : Nat}
    (h : worldStep W x (.task t) = some y) :
    ∃ pc fx, WorldMove W x.1 x.2 (x.2.tasks t) y.1 pc fx ∧ y.2 = x.2.after t pc fx := by
  cases hpc : x.2.tasks t with
  | inHop v stage =>
      rcases worldStep_inHop W hpc h with ⟨pc, fx, hstep, rfl⟩
      exact ⟨pc, fx, .stage (stageStep_eq_some hstep), rfl⟩
  | top hop context =>
      rw [worldStep_top W hpc h]
      exact ⟨_, _, .top hop context, rfl⟩
  | idle | done => simp only [worldStep, hpc, step, taskStep, Option.map_none, reduceCtorEq] at h

theorem worldStep_driver_eq_some {x y : ω × State cl} {session : Nat} {e : Event}
    (h : worldStep W x (.driver session e) = some y) :
    y.1 = x.1 ∧ step x.2 (.driver session e) = some y.2 := by
  rcases Option.map_eq_some_iff.mp h with ⟨s', hs, rfl⟩
  exact ⟨rfl, hs⟩

/-- A step against the servers is a step of the client. -/
theorem worldStep_eq_some {x y : ω × State cl} {m : Turn} (h : worldStep W x m = some y) :
    ∃ a, step x.2 a = some y.2 := by
  cases m with
  | driver session e => exact ⟨_, (worldStep_driver_eq_some W h).2⟩
  | task t =>
      simp only [worldStep] at h
      split at h
      · rcases Option.map_eq_some_iff.mp h with ⟨s', hs, rfl⟩
        exact ⟨_, hs⟩
      · rcases Option.map_eq_some_iff.mp h with ⟨s', hs, rfl⟩
        exact ⟨_, hs⟩

end Quik
