import Quik.Servers

/-!
# Names Do Not Matter

Connections and hops carry numbers, so that the model can tell them apart. The
code never looks at them: what a hop does next depends on what it sees of the
shared state (`Sight`), up to these numbers. `hopStep` is that function, and
`stageStep_nameless` says that every move of a hop is the one it gives.

So two tasks at the same stage that see the same do the same, wherever the
counters of the client stand.

## Main definitions

* `Pc.unnamed`, `Effect.unnamed`: A program counter and an effect without
  numbers.
* `Sight`: What a hop sees of the shared state.
* `hopStep`: What it does then.

## Theorems

* `stageStep_nameless`: A move of a hop is a function of what it sees.
* `enterHop_nameless`: So is the top of the loop.
-/

namespace Quik

open Transition

variable {Jar : Type} {cl : Client Jar}

def Handle.unnamed (h : Handle) : Handle :=
  { h with id := 0 }

def PooledConnection.unnamed : PooledConnection → PooledConnection
  | .http2 conn => .http2 conn.unnamed
  | .http3 session => .http3 session.unnamed

def Stage.unnamed : Stage → Stage
  | .ready conn => .ready conn.unnamed
  | .lockClear conn => .lockClear conn.unnamed
  | .send conn => .send conn.unnamed
  | .awaitH2 conn urlStr => .awaitH2 conn.unnamed urlStr
  | .awaitH3 session => .awaitH3 session.unnamed
  | .midReady conn => .midReady conn.unnamed
  | .midSend conn => .midSend conn.unnamed
  | .midAwait conn urlStr => .midAwait conn.unnamed urlStr
  | stage => stage

def Pc.unnamed {c : UrlCrate} : Pc c → Pc c
  | .inHop v stage => .inHop v.unnamed stage.unnamed
  | pc => pc

def Effect.unnamed : Effect → Effect
  | .store key conn => .store key (conn.map PooledConnection.unnamed)
  | .command _ cmd => .command 0 { cmd with responseTx := 0 }
  | .deliver d => .deliver { d with ticket := 0, conn := 0 }
  | e => e

/-- A move, without numbers. -/
def unnamedMove {c : UrlCrate} (pc : Pc c) (fx : List Effect) : Pc c × List Effect :=
  (pc.unnamed, fx.map Effect.unnamed)

/-- What a hop sees of the shared state. -/
structure Sight where
  cookieHeader : Option String
  acceptCh : Bool
  /-- The connection in the slot of the pool key. -/
  routed : Option PooledConnection
  /-- The connection in the HTTP/2 slot. -/
  h2 : Option PooledConnection
  /-- The driver of the hop's session has exited. -/
  closed : Bool
  /-- The answer of the session. -/
  reply : Except Error Response

/-- The connection a dial hands out, without its number. -/
def dialedHandle (cl : Client Jar) (u : Url) (dialH3 : Bool) : DialOutcome → Except Error Handle
  | .unreachable cause | .broken _ cause => .error cause
  | .connected addr _ => .ok
    { id := 0, host := u.hostStr.getD "", port := u.connectPort,
      socket := dialSocket cl.proxy dialH3 addr }

/-- The step of a hop, as a function of what it sees. -/
def hopStep (cl : Client Jar) (v : Vars cl.crates.url) (sees : Sight) :
    Stage → Input → Pc cl.crates.url × List Effect
  | .cookies, _ => (.inHop (v.withCookies sees.cookieHeader) .hints, [])
  | .hints, _ => (.inHop (v.withHint sees.acceptCh) .slotLookup, [])
  | .slotLookup, _ => (.inHop v .lockClone, [.entry (v.poolKey cl)])
  | .lockClone, _ => (.inHop v (afterClone sees.routed), [])
  | .ready conn, .ready alive =>
    (.inHop v (if alive then .send (.http2 conn) else .lockClear conn), [])
  | .lockClear _, _ => (.inHop v .lockClone, [.store (v.poolKey cl) none])
  | .lockDial, _ =>
    if sees.routed = none then (.inHop v .dial, [.lock (v.poolKey cl)])
    else (.inHop v .lockClone, [])
  | .dial, .dial outcome =>
    let fx := dialEffects cl v.hasAltSvc outcome
    match dialedHandle cl v.parsedUrl v.hasAltSvc outcome with
    | .ok h => (.inHop v (.send (pooled v.hasAltSvc h)),
        fx ++ [.store (v.poolKey cl) (some (pooled v.hasAltSvc h)), .unlock (v.poolKey cl)])
    | .error e =>
      if v.hasAltSvc then (.inHop v .evictDial, fx)
      else (.done (.error e), fx ++ [.unlock (v.poolKey cl)])
  | .evictDial, _ => (.inHop v .fallbackLookup, [.evict v.parsedUrl.routeKey])
  | .fallbackLookup, _ => (.inHop v .fallbackLock, [.entry (v.h2PoolKey cl)])
  | .fallbackLock, _ =>
    match sees.h2 with
    | none => (.inHop v .fallbackDial, [.lock (v.h2PoolKey cl)])
    | some conn => (.inHop v (.send conn), [.unlock (v.poolKey cl)])
  | .fallbackDial, .dial outcome =>
    let fx := dialEffects cl false outcome
    let unlock := [Effect.unlock (v.h2PoolKey cl), .unlock (v.poolKey cl)]
    match dialedHandle cl v.parsedUrl false outcome with
    | .ok h => (.inHop v (.send (.http2 h)),
        fx ++ .store (v.h2PoolKey cl) (some (.http2 h)) :: unlock)
    | .error e => (.done (.error e), fx ++ unlock)
  | .send (.http2 conn), .transmit refused =>
    match buildRequest v, refused with
    | .error e, _ | .ok _, some e => (.done (.error e), [])
    | .ok request, none =>
      (.inHop v (.awaitH2 conn request.uri.text), [.deliver (h2Delivery v conn)])
  | .send (.http3 session), _ =>
    match buildRequest v with
    | .error e => (.done (.error e), [])
    | .ok request =>
      if sees.closed then (.inHop v .evictSend, [])
      else (.inHop v (.awaitH3 session),
        [.command session.id (sessionCommand request v.hop.currentBody v.ticket)])
  | .awaitH2 _ urlStr, .respond r =>
    match r with
    | .ok resp => (.inHop v (.storeCookies (h2Response urlStr resp)), [])
    | .error e => (.done (.error e), [])
  | .awaitH3 _, _ =>
    match sees.reply with
    | .ok resp => (.inHop v (.storeCookies resp), [])
    | .error _ => (.inHop v .evictSend, [])
  | .evictSend, _ => (.inHop v .midLookup, [.evict v.parsedUrl.routeKey])
  | .midLookup, _ => (.inHop v .midLock, [.entry (v.h2PoolKey cl)])
  | .midLock, _ => (.inHop v (afterMidLock sees.h2), [.lock (v.h2PoolKey cl)])
  | .midReady conn, .ready alive =>
    if alive then (.inHop v (.midSend conn), [.store (v.h2PoolKey cl) (some (.http2 conn))])
    else (.inHop v .midDial, [])
  | .midDial, .dial outcome =>
    let fx := dialEffects cl false outcome
    match dialedHandle cl v.parsedUrl false outcome with
    | .ok h => (.inHop v (.midSend h), fx ++ [.store (v.h2PoolKey cl) (some (.http2 h))])
    | .error e => (.done (.error e), fx ++ [.unlock (v.h2PoolKey cl)])
  | .midSend conn, .transmit refused =>
    match buildRequest v, refused with
    | .error e, _ | .ok _, some e => (.done (.error e), [.unlock (v.h2PoolKey cl)])
    | .ok request, none =>
      (.inHop v (.midAwait conn request.uri.text), [.deliver (h2Delivery v conn)])
  | .midAwait _ urlStr, .respond r =>
    match r with
    | .ok resp =>
      (.inHop v (.storeCookies (h2Response urlStr resp)), [.unlock (v.h2PoolKey cl)])
    | .error e => (.done (.error e), [.unlock (v.h2PoolKey cl)])
  | .storeCookies resp, _ => (.inHop v (.storeHints resp), [.storeCookies resp v.parsedUrl])
  | .storeHints resp, _ => (.inHop v (.storeAltSvc resp), [.storeHints resp v.parsedUrl])
  | .storeAltSvc resp, _ => (.inHop v (.redirect resp), [.storeAltSvc resp v.parsedUrl])
  | .redirect resp, _ =>
    match v.hop.evaluate cl.crates.url v.parsedUrl resp with
    | .error e => (.done (.error e), [])
    | .ok none => (.done (.ok (resp.setUrl v.hop.currentUrlStr)), [])
    | .ok (some hop) => (.top hop v.context, [])
  | stage, _ => (.inHop v stage, [])

/-- What a hop sees of a client and its servers. -/
def Servers.sight {ω : Type} (W : Servers ω) (srv : ω) (s : State cl) (v : Vars cl.crates.url) :
    Sight where
  cookieHeader := cookieHeader cl s.jar v.parsedUrl
  acceptCh := s.hintCache v.parsedUrl.origin.asciiSerialization
  routed := (s.content (v.poolKey cl)).map PooledConnection.unnamed
  h2 := (s.content (v.h2PoolKey cl)).map PooledConnection.unnamed
  closed := W.closed srv v.parsedUrl.authority
  reply := (W.reply srv v.parsedUrl.authority).1

theorem afterClone_unnamed (c? : Option PooledConnection) :
    (afterClone c?).unnamed = afterClone (c?.map PooledConnection.unnamed) := by
  rcases c? with _ | conn | session <;> rfl

theorem afterMidLock_unnamed (c? : Option PooledConnection) :
    (afterMidLock c?).unnamed = afterMidLock (c?.map PooledConnection.unnamed) := by
  rcases c? with _ | conn | session <;> rfl

theorem pooled_unnamed (dialH3 : Bool) (h : Handle) :
    (pooled dialH3 h).unnamed = pooled dialH3 h.unnamed := by
  cases dialH3 <;> rfl

theorem dialEffects_unnamed (dialH3 : Bool) (outcome : DialOutcome) :
    (dialEffects cl dialH3 outcome).map Effect.unnamed = dialEffects cl dialH3 outcome := by
  cases outcome <;> rfl

theorem dialedHandle_of_ok {s : State cl} {u : Url} {dialH3 : Bool} {outcome : DialOutcome}
    {h : Handle} (hres : dialResult s u dialH3 outcome = .ok h) :
    dialedHandle cl u dialH3 outcome = .ok h.unnamed := by
  cases outcome with
  | unreachable | broken => simp only [dialResult, reduceCtorEq] at hres
  | connected =>
      simp only [dialResult, Except.ok.injEq] at hres
      rw [← hres]
      rfl

theorem dialedHandle_of_error {s : State cl} {u : Url} {dialH3 : Bool} {outcome : DialOutcome}
    {e : Error} (hres : dialResult s u dialH3 outcome = .error e) :
    dialedHandle cl u dialH3 outcome = .error e := by
  cases outcome with
  | unreachable | broken => exact hres
  | connected => simp only [dialResult, reduceCtorEq] at hres

section Move

variable {ω : Type} (W : Servers ω) (srv : ω) {s : State cl} {v : Vars cl.crates.url}
  {stage : Stage} {input : Input} {pc : Pc cl.crates.url} {fx : List Effect}

/-- A move of a hop is a function of what it sees. -/
theorem stageStep_nameless (hstep : stageStep s v stage input = some (pc, fx))
    (hclosed : ∀ session d, stage = .send (.http3 session) → s.drivers session.id = some d →
      d.exited = W.closed srv v.parsedUrl.authority)
    (hreply : ∀ session r, stage = .awaitH3 session → sessionReply s session v.ticket = some r →
      r = (W.reply srv v.parsedUrl.authority).1) :
    unnamedMove pc fx = hopStep cl v.unnamed (W.sight srv s v) stage.unnamed input := by
  have hm := stageStep_eq_some hstep
  cases hm with
  -- No number decides anything here; the two moves are the same by computation.
  | cookies | hints | slotLookup | lockClear | evictDial | fallbackLookup | evictSend | midLookup
  | readyAlive | readyDead | respondH2 | failH2 | midReadyAlive | midReadyDead | midRespond
  | midFail | storeCookies | storeHints | storeAltSvc => rfl
  | lockClone =>
      simp only [unnamedMove, Pc.unnamed, afterClone_unnamed]
      rfl
  | midLock =>
      simp only [unnamedMove, Pc.unnamed, afterMidLock_unnamed]
      rfl
  | lockDialEmpty hfree hnone =>
      have hsees : (W.sight srv s v).routed = none := by
        rw [Servers.sight, hnone]
        rfl
      simp only [hopStep, hsees, Stage.unnamed, if_true]
      rfl
  | lockDialTaken hfree =>
      have hsees : (W.sight srv s v).routed ≠ none := by
        intro hnone
        -- From an empty slot the step would have been to the dial.
        have hcontent : s.content (v.poolKey cl) = none := Option.map_eq_none_iff.mp hnone
        simp only [stageStep, hfree, hcontent, if_true, Option.some.injEq, Prod.mk.injEq,
          List.cons_ne_nil, and_false] at hstep
      simp only [hopStep, hsees, Stage.unnamed, if_false]
      rfl
  | dialed outcome h hres =>
      have hres' : dialedHandle cl v.unnamed.parsedUrl v.unnamed.hasAltSvc outcome =
          .ok h.unnamed := dialedHandle_of_ok hres
      simp only [hopStep, Stage.unnamed, hres', unnamedMove, Pc.unnamed, List.map_append,
        dialEffects_unnamed, pooled_unnamed]
      simp only [List.map_cons, List.map_nil, Effect.unnamed, Option.map_some, pooled_unnamed]
      rfl
  | dialH3Failed outcome e hres halt =>
      have hres' : dialedHandle cl v.unnamed.parsedUrl v.unnamed.hasAltSvc outcome =
          .error e := dialedHandle_of_error hres
      have halt' : v.unnamed.hasAltSvc = true := halt
      simp only [hopStep, Stage.unnamed, hres', unnamedMove, dialEffects_unnamed]
      rw [if_pos halt']
      rfl
  | dialH2Failed outcome e hres halt =>
      have hres' : dialedHandle cl v.unnamed.parsedUrl v.unnamed.hasAltSvc outcome =
          .error e := dialedHandle_of_error hres
      have halt' : v.unnamed.hasAltSvc = false := halt
      simp only [hopStep, Stage.unnamed, hres', unnamedMove, List.map_append, dialEffects_unnamed]
      rw [if_neg (Bool.eq_false_iff.mp halt')]
      rfl
  | fallbackLockEmpty hfree hnone =>
      have hsees : (W.sight srv s v).h2 = none := by
        rw [Servers.sight, hnone]
        rfl
      simp only [hopStep, hsees, Stage.unnamed]
      rfl
  | fallbackLockTaken conn hfree hcontent =>
      have hsees : (W.sight srv s v).h2 = some conn.unnamed := by
        rw [Servers.sight, hcontent]
        rfl
      simp only [hopStep, hsees, Stage.unnamed]
      rfl
  | fallbackDialed outcome h hres | midDialed outcome h hres =>
      have hres' : dialedHandle cl v.unnamed.parsedUrl false outcome = .ok h.unnamed :=
        dialedHandle_of_ok hres
      simp only [hopStep, Stage.unnamed, hres', unnamedMove, List.map_append, dialEffects_unnamed]
      rfl
  | fallbackDialFailed outcome e hres | midDialFailed outcome e hres =>
      have hres' : dialedHandle cl v.unnamed.parsedUrl false outcome = .error e :=
        dialedHandle_of_error hres
      simp only [hopStep, Stage.unnamed, hres', unnamedMove, List.map_append, dialEffects_unnamed]
      rfl
  -- The request does not have the ticket in it, so it is built the same.
  | sendUnbuilt conn input e hb =>
      have hb' : buildRequest v.unnamed = _ := hb
      cases conn with
      | http3 session =>
          simp only [hopStep, Stage.unnamed, PooledConnection.unnamed, hb']
          rfl
      | http2 conn =>
          cases input with
          | transmit refused =>
              simp only [hopStep, Stage.unnamed, PooledConnection.unnamed, hb']
              rfl
          | _ => simp only [stageStep, reduceCtorEq] at hstep
  | sendRefused conn request e hb | sendH2 conn request hb | midSendUnbuilt conn refused e hb
  | midSendRefused conn request e hb | midSend conn request hb =>
      have hb' : buildRequest v.unnamed = _ := hb
      simp only [hopStep, Stage.unnamed, PooledConnection.unnamed, hb']
      rfl
  -- What the session does is up to the servers, by the two hypotheses.
  | sendH3Closed session request d hb hd hexit =>
      have hb' : buildRequest v.unnamed = _ := hb
      have hsees : (W.sight srv s v).closed = true := (hclosed session d rfl hd).symm.trans hexit
      simp only [hopStep, Stage.unnamed, PooledConnection.unnamed, hb', hsees, if_true]
      rfl
  | sendH3 session request d hb hd hlive hroom =>
      have hb' : buildRequest v.unnamed = _ := hb
      have hsees : (W.sight srv s v).closed = false := (hclosed session d rfl hd).symm.trans hlive
      simp only [hopStep, Stage.unnamed, PooledConnection.unnamed, hb', hsees, Bool.false_eq_true,
        if_false]
      rfl
  | respondH3 session resp hr =>
      have hsees : (W.sight srv s v).reply = .ok resp := (hreply session _ rfl hr).symm
      simp only [hopStep, Stage.unnamed, hsees]
      rfl
  | failH3 session e hr =>
      have hsees : (W.sight srv s v).reply = .error e := (hreply session _ rfl hr).symm
      simp only [hopStep, Stage.unnamed, hsees]
      rfl
  | redirectFailed resp e he | answered resp he | redirected resp hop he =>
      have he' : v.unnamed.hop.evaluate cl.crates.url v.unnamed.parsedUrl resp = _ := he
      simp only [hopStep, Stage.unnamed, he']
      rfl

end Move

/-- The top of the loop sees only whether the origin is cached. -/
theorem enterHop_nameless {s s' : State cl} {hop : Hop} {context : RequestContext}
    (hroute : ∀ v, hopVars cl.crates.url hop context = .ok v →
      s.altSvc v.parsedUrl.routeKey = s'.altSvc v.parsedUrl.routeKey) :
    unnamedMove (enterHop s hop context).1 (enterHop s hop context).2 =
      unnamedMove (enterHop s' hop context).1 (enterHop s' hop context).2 := by
  rw [enterHop_eq, enterHop_eq]
  cases hv : hopVars cl.crates.url hop context with
  | error e => rfl
  | ok v =>
      simp only [hroute v hv]
      rfl

end Quik
