import Quik.AltSvc
import Quik.Driver
import Quik.Redirect

/-!
# The Client

`execute_with_redirects`, run by any number of tasks that share one client.

The shared state is the connection pool, the Alt-Svc cache, the cookie jar, the
hint cache and the drivers of the HTTP/3 sessions. A task is a program counter:
`Stage` has one constructor for each place where the source awaits something or
touches shared state, in the order of the source, and the connection a stage
works with is its argument. A step moves one task from one stage to the next,
or turns one driver loop. Between two steps of a task any others may happen.

A pool slot is a mutex. `holder` is the task inside it; taking the lock is
possible only when there is none. The stages that clone from a slot, clear it
or find it taken lock and release in one step, since the source awaits nothing
in between. The stages from `dial` to `fallbackDial` hold the slot of the pool
key, those from `midReady` to `midAwait` that of the HTTP/2 key.

What a step does to the shared state is a list of effects, applied in order.
What the network and the crates answer (the outcome of a dial, of `ready()`, of
a send, the response) comes with the step as its input.

The logs `sockets` and `deliveries` record what the outside sees: each socket
connected, and each request handed to a transport with the bytes of its body.

## Main definitions

* `Client`, `State`, `State.fresh`: The configuration and the shared state.
* `Vars`, `Stage`, `Pc`: A hop's variables and where its task stands.
* `Effect`, `State.apply`: What a step does to the shared state.
* `dialResult`, `dialEffects`: `Client::dial`.
* `stageStep`: One step of a hop.
* `step`: One step of any task or driver.
-/

namespace Quik

open Transition

/-- The crates the client calls whose code is not in the repository. -/
structure Crates (Jar : Type) where
  url : UrlCrate
  /-- The URI a request builder makes of a method and a URL, or its error. -/
  buildUri : String → String → Except String Uri
  /-- `CookieStore::matches`, as names and values. -/
  cookies : Jar → Url → List (String × String)
  /-- `CookieStore::parse`. -/
  parseCookie : Jar → String → Url → Jar

/-- The parts of `Client` that a run does not change. -/
structure Client (Jar : Type) where
  crates : Crates Jar
  profile : ChromeProfile
  proxy : Option Proxy

/-- A handle on a connection, and what it was dialed for. -/
structure Handle where
  id : Nat
  host : String
  port : UInt16
  socket : Socket
deriving DecidableEq

/-- `PooledConnection`. -/
inductive PooledConnection where
  | http2 (conn : Handle)
  | http3 (session : Handle)
deriving DecidableEq

def PooledConnection.handle : PooledConnection → Handle
  | .http2 conn => conn
  | .http3 session => session

/-- `SharedConnection`: the mutex and the connection in it. -/
structure Slot where
  holder : Option Nat := none
  conn : Option PooledConnection := none
deriving DecidableEq

/-- A request handed to a transport, with the bytes of the body that were
    taken. -/
structure Delivery where
  ticket : Nat
  transport : Transport
  conn : Nat
  sent : Bytes
deriving DecidableEq

/-- A pool key. -/
def poolKey (proxy : Option Proxy) (u : Url) (transportProto : String) : String :=
  proxyPrefix proxy ++ u.routeKey ++ "#" ++ transportProto

/-- The variables of one turn of the loop. The ticket names the hop, and the
    reply channel of its HTTP/3 attempt. -/
structure Vars (c : UrlCrate) where
  hop : Hop
  context : RequestContext
  parsedUrl : Url
  hasAltSvc : Bool
  ticket : Nat
  cookieHeader : Option String := none
  acceptCh : Bool := false
  inRange : hop.hop < Hop.limit
  parsed : c.parse hop.currentUrlStr = .ok parsedUrl
  hasHost : parsedUrl.host.isSome = true

/-- Where a hop stands. -/
inductive Stage where
  /-- Read the cookie jar. -/
  | cookies
  /-- Read the hint cache. -/
  | hints
  /-- Look up the slot, or make it. -/
  | slotLookup
  /-- Lock the slot and clone what is in it. -/
  | lockClone
  /-- Await `ready()`. -/
  | ready (conn : Handle)
  /-- `ready()` has failed: lock the slot and clear it. -/
  | lockClear (conn : Handle)
  /-- The slot was empty: lock it and look again. -/
  | lockDial
  | dial
  /-- The HTTP/3 dial has failed. -/
  | evictDial
  | fallbackLookup
  | fallbackLock
  | fallbackDial
  | send (conn : PooledConnection)
  /-- Await the response, with the request's URL for it. -/
  | awaitH2 (conn : Handle) (urlStr : String)
  | awaitH3 (session : Handle)
  /-- The HTTP/3 send has failed. -/
  | evictSend
  | midLookup
  | midLock
  | midReady (conn : Handle)
  | midDial
  | midSend (conn : Handle)
  | midAwait (conn : Handle) (urlStr : String)
  | storeCookies (resp : Response)
  | storeHints (resp : Response)
  | storeAltSvc (resp : Response)
  /-- Evaluate the response. -/
  | redirect (resp : Response)

/-- The connection a stage works with. -/
def Stage.handle? : Stage → Option Handle
  | .ready conn | .lockClear conn | .awaitH2 conn _ | .awaitH3 conn | .midReady conn
  | .midSend conn | .midAwait conn _ => some conn
  | .send conn => some conn.handle
  | _ => none

/-- A task's program counter. -/
inductive Pc (c : UrlCrate) where
  | idle
  | top (hop : Hop) (context : RequestContext)
  | inHop (v : Vars c) (stage : Stage)
  | done (result : Except Error Response)

/-- A hop that waits for a session, and the session. -/
def Pc.awaiting? {c : UrlCrate} : Pc c → Option (Vars c × Handle)
  | .inHop v (.awaitH3 session) => some (v, session)
  | _ => none

theorem awaiting?_eq_some {c : UrlCrate} {pc : Pc c} {v : Vars c} {session : Handle}
    (h : pc.awaiting? = some (v, session)) : pc = .inHop v (.awaitH3 session) := by
  unfold Pc.awaiting? at h
  split at h
  · rw [Option.some.injEq, Prod.mk.injEq] at h
    rw [h.1, h.2]
  · cases h

/-- What a task has returned. -/
def Pc.result? {c : UrlCrate} : Pc c → Option (Except Error Response)
  | .done result => some result
  | _ => none

theorem Pc.result?_eq_some {c : UrlCrate} {pc : Pc c} {result : Except Error Response}
    (h : pc.result? = some result) : pc = .done result := by
  cases pc with
  | done => rw [Option.some.inj h]
  | _ => exact absurd h (by simp only [Pc.result?, reduceCtorEq, not_false_eq_true])

/-- How a dial turns out. -/
inductive DialOutcome where
  /-- The host does not resolve, or no socket is connected. -/
  | unreachable (cause : Error)
  /-- A socket is connected, and the rest fails. -/
  | broken (addr : SocketAddr) (cause : Error)
  /-- `localAddr` is what the UDP socket reports of itself. -/
  | connected (addr : SocketAddr) (localAddr : Option SocketAddr)

/-- What a step of a task receives from outside. -/
inductive Input where
  | call (method url : String) (body : Option Bytes) (context : RequestContext)
  | go
  | ready (alive : Bool)
  | dial (outcome : DialOutcome)
  /-- `send_request` and `send_data` on an HTTP/2 connection. -/
  | transmit (refused : Option Error)
  /-- The response on an HTTP/2 stream. -/
  | respond (r : Except Error (StatusCode × HeaderMap × Nat))

inductive Effect where
  /-- A hop begins. -/
  | ticket
  /-- `alt_svc_cache.remove`. -/
  | evict (originKey : String)
  | storeCookies (resp : Response) (url : Url)
  | storeHints (resp : Response) (url : Url)
  | storeAltSvc (resp : Response) (url : Url)
  /-- `pool.entry(key).or_insert_with(..)`. -/
  | entry (key : String)
  | lock (key : String)
  | unlock (key : String)
  /-- An assignment through the guard of a slot. -/
  | store (key : String) (conn : Option PooledConnection)
  | socket (sock : Socket)
  /-- A connection is handed out; an HTTP/3 one comes with its driver. -/
  | connection (driver : Option Driver)
  | command (session : Nat) (cmd : SendRequest)
  | deliver (d : Delivery)

variable {Jar : Type} (cl : Client Jar)

/-- The state the clones of a client share, and the tasks that run on it. -/
structure State where
  altSvc : AltSvcCache
  jar : Jar
  hintCache : String → Bool := fun _ => false
  pool : String → Option Slot := fun _ => none
  tasks : Nat → Pc cl.crates.url := fun _ => .idle
  drivers : Nat → Option Driver := fun _ => none
  nextConn : Nat := 0
  nextTicket : Nat := 0
  sockets : List Socket := []
  deliveries : List Delivery := []

namespace State

/-- A client as the builder makes it, with whatever its Alt-Svc cache and its
    cookie jar already hold. The third store, the cache of hints, is empty. -/
def fresh (altSvc : AltSvcCache) (jar : Jar) : State cl :=
  { altSvc := altSvc, jar := jar }

variable {cl} (s : State cl)

/-- The connection in a slot. -/
def content (key : String) : Option PooledConnection :=
  (s.pool key).bind Slot.conn

/-- The slot exists and no task is inside it. -/
def free (key : String) : Bool :=
  match s.pool key with
  | some slot => slot.holder.isNone
  | none => false

def setSlot (key : String) (f : Slot → Slot) : State cl :=
  { s with pool := Function.update s.pool key ((s.pool key).map f) }

end State

/-- The cookie header of a request. -/
def cookieHeader (jar : Jar) (u : Url) : Option String :=
  let cookies := (cl.crates.cookies jar u).map (fun c => c.1 ++ "=" ++ c.2)
  if cookies.isEmpty then none else some (String.intercalate "; " cookies)

/-- `store_cookies`. -/
def storeCookies (jar : Jar) (resp : Response) (url : Url) : Jar :=
  (resp.headers.getAll "set-cookie").foldl (fun jar v =>
    match v.toStr with
    | some cookieStr => cl.crates.parseCookie jar cookieStr url
    | none => jar) jar

/-- The hint a server has to ask for. -/
def platformVersion : String :=
  "sec-ch-ua-platform-version"

/-- `store_hints`. -/
def storeHints (cache : String → Bool) (resp : Response) (url : Url) : String → Bool :=
  match (resp.headers.get "accept-ch").bind HeaderValue.toStr with
  | some chStr =>
    if containsStr chStr.toLower platformVersion then
      Function.update cache url.origin.asciiSerialization true
    else cache
  | none => cache

/-- The test `store_hints` makes: the first line is text and has the name of
    the hint in it somewhere. -/
def asks (resp : Response) : Bool :=
  match (resp.headers.get "accept-ch").bind HeaderValue.toStr with
  | some chStr => containsStr chStr.toLower platformVersion
  | none => false

theorem storeHints_asks (cache : String → Bool) (resp : Response) (u : Url) :
    storeHints cache resp u =
      if asks resp then Function.update cache u.origin.asciiSerialization true else cache := by
  unfold storeHints asks
  cases (resp.headers.get "accept-ch").bind HeaderValue.toStr with
  | none => rfl
  | some chStr => rfl

/-- One effect of a step of task `t`. -/
def State.apply {cl : Client Jar} (t : Nat) (s : State cl) : Effect → State cl
  | .ticket => { s with nextTicket := s.nextTicket + 1 }
  | .evict key => { s with altSvc := s.altSvc.remove key }
  | .storeCookies resp url => { s with jar := Quik.storeCookies cl s.jar resp url }
  | .storeHints resp url => { s with hintCache := Quik.storeHints s.hintCache resp url }
  | .storeAltSvc resp url => { s with altSvc := Quik.storeAltSvc s.altSvc resp url }
  | .entry key => { s with pool := Function.update s.pool key (some ((s.pool key).getD {})) }
  | .lock key => s.setSlot key (fun slot => { slot with holder := some t })
  | .unlock key => s.setSlot key (fun slot => { slot with holder := none })
  | .store key conn => s.setSlot key (fun slot => { slot with conn := conn })
  | .socket sock => { s with sockets := s.sockets ++ [sock] }
  | .connection driver => { s with
      drivers := Function.update s.drivers s.nextConn driver
      nextConn := s.nextConn + 1 }
  | .command session cmd => { s with
      drivers := Function.update s.drivers session
        ((s.drivers session).map (fun d => d.enqueue cmd)) }
  | .deliver d => { s with deliveries := s.deliveries ++ [d] }

variable {cl}

/-- The key of the slot the hop is routed to. -/
def Vars.poolKey (cl : Client Jar) (v : Vars cl.crates.url) : String :=
  Quik.poolKey cl.proxy v.parsedUrl (if v.hasAltSvc then "h3" else "h2")

/-- The key of the hop's HTTP/2 slot. -/
def Vars.h2PoolKey (cl : Client Jar) (v : Vars cl.crates.url) : String :=
  Quik.poolKey cl.proxy v.parsedUrl "h2"

/-- The connection a dial hands out, if it is a success. -/
def dialResult (s : State cl) (u : Url) (dialH3 : Bool) : DialOutcome → Except Error Handle
  | .unreachable cause => .error cause
  | .broken _ cause => .error cause
  | .connected addr _ => .ok
    { id := s.nextConn, host := u.hostStr.getD "", port := u.connectPort,
      socket := dialSocket cl.proxy dialH3 addr }

/-- What a dial leaves behind: the socket, once it is connected, and the
    connection. -/
def dialEffects (cl : Client Jar) (dialH3 : Bool) : DialOutcome → List Effect
  | .unreachable _ => []
  | .broken addr _ => [.socket (dialSocket cl.proxy dialH3 addr)]
  | .connected addr localAddr =>
    [ .socket (dialSocket cl.proxy dialH3 addr),
      .connection (if dialH3 then some (Driver.dialed addr localAddr) else none) ]

def pooled (dialH3 : Bool) (h : Handle) : PooledConnection :=
  if dialH3 then .http3 h else .http2 h

/-- The request of a hop. The fallback request is built from the same inputs
    by the same code. -/
def buildRequest (v : Vars cl.crates.url) : Except Error Request :=
  match cl.crates.buildUri v.hop.currentMethod v.parsedUrl.asStr with
  | .error e => .error (.invalidUrl e)
  | .ok uri => .ok
    { method := v.hop.currentMethod, uri := uri,
      headers := v.hop.requestHeaders cl.crates.url cl.profile v.parsedUrl v.cookieHeader v.context
        v.acceptCh }

/-- Only the URI can fail. -/
theorem buildRequest_eq_ok {v : Vars cl.crates.url} {request : Request}
    (h : buildRequest v = .ok request) :
    cl.crates.buildUri v.hop.currentMethod v.parsedUrl.asStr = .ok request.uri ∧
      request.method = v.hop.currentMethod ∧
      request.headers = v.hop.requestHeaders cl.crates.url cl.profile v.parsedUrl v.cookieHeader
        v.context v.acceptCh := by
  unfold buildRequest at h
  split at h
  · exact absurd h (by simp only [reduceCtorEq, not_false_eq_true])
  · rename_i uri huri
    rw [huri, ← Except.ok.inj h]
    exact ⟨rfl, rfl, rfl⟩

/-- `QuikConnection::send` as far as the response: what is handed over. -/
def h2Delivery (v : Vars cl.crates.url) (conn : Handle) : Delivery where
  ticket := v.ticket
  transport := .tcp
  conn := conn.id
  sent := v.hop.currentBody.getD []

/-- The response of an HTTP/2 stream. -/
def h2Response (urlStr : String) (r : StatusCode × HeaderMap × Nat) : Response where
  status := r.1
  headers := r.2.1
  body := .http2 r.2.2
  url := urlStr

/-- What the acquisition loop does with the clone it took from the slot. -/
def afterClone : Option PooledConnection → Stage
  | some (.http2 conn) => .ready conn
  | some (.http3 session) => .send (.http3 session)
  | none => .lockDial

/-- What the mid-flight fallback does with what it finds in the HTTP/2 slot. -/
def afterMidLock : Option PooledConnection → Stage
  | some (.http2 conn) => .midReady conn
  | _ => .midDial

/-- The reply a caller of an HTTP/3 session sees: the driver's answer, or the
    error of a reply channel that was dropped. -/
def sessionReply (s : State cl) (session : Handle) (ticket : Nat) :
    Option (Except Error Response) :=
  match s.drivers session.id with
  | none => none
  | some d =>
    match d.answers.lookup ticket with
    | some r => some r
    | none => if d.exited then some (.error (.connect "channel closed")) else none

/-- The top of the loop: the limit, the URL and its host, the routing. -/
def enterHop (s : State cl) (hop : Hop) (context : RequestContext) :
    Pc cl.crates.url × List Effect :=
  if hl : hop.hop < Hop.limit then
    match hp : cl.crates.url.parse hop.currentUrlStr with
    | .error e => (.done (.error (.invalidUrl e)), [])
    | .ok parsedUrl =>
      if hh : parsedUrl.host.isSome = true then
        (.inHop
          { hop := hop, context := context, parsedUrl := parsedUrl,
            hasAltSvc := (s.altSvc parsedUrl.routeKey).isSome, ticket := s.nextTicket,
            inRange := hl, parsed := hp, hasHost := hh } .cookies,
          [.ticket])
      else (.done (.error (.invalidUrl "missing host")), [])
  else (.done (.error (.connect "Redirect limit exceeded (max 10)")), [])

/-- One step of a hop: the next program counter, and the effects. -/
def stageStep (s : State cl) (v : Vars cl.crates.url) :
    Stage → Input → Option (Pc cl.crates.url × List Effect)
  | .cookies, .go =>
    some (.inHop { v with cookieHeader := cookieHeader cl s.jar v.parsedUrl } .hints, [])
  | .hints, .go =>
    some (.inHop { v with acceptCh := s.hintCache v.parsedUrl.origin.asciiSerialization }
      .slotLookup, [])
  | .slotLookup, .go => some (.inHop v .lockClone, [.entry (v.poolKey cl)])
  -- The acquisition loop.
  | .lockClone, .go =>
    if s.free (v.poolKey cl) then some (.inHop v (afterClone (s.content (v.poolKey cl))), [])
    else none
  | .ready conn, .ready alive =>
    some (.inHop v (if alive then .send (.http2 conn) else .lockClear conn), [])
  | .lockClear _, .go =>
    if s.free (v.poolKey cl) then some (.inHop v .lockClone, [.store (v.poolKey cl) none]) else none
  | .lockDial, .go =>
    if s.free (v.poolKey cl) then
      if s.content (v.poolKey cl) = none then some (.inHop v .dial, [.lock (v.poolKey cl)])
      else some (.inHop v .lockClone, [])
    else none
  | .dial, .dial outcome =>
    let fx := dialEffects cl v.hasAltSvc outcome
    match dialResult s v.parsedUrl v.hasAltSvc outcome with
    | .ok h => some (.inHop v (.send (pooled v.hasAltSvc h)),
        fx ++ [.store (v.poolKey cl) (some (pooled v.hasAltSvc h)), .unlock (v.poolKey cl)])
    | .error e =>
      if v.hasAltSvc then some (.inHop v .evictDial, fx)
      else some (.done (.error e), fx ++ [.unlock (v.poolKey cl)])
  -- The fallback of a failed HTTP/3 dial, under the guard of the pool key.
  -- The source also sets `has_alt_svc = false` here; nothing reads it again.
  | .evictDial, .go => some (.inHop v .fallbackLookup, [.evict v.parsedUrl.routeKey])
  | .fallbackLookup, .go => some (.inHop v .fallbackLock, [.entry (v.h2PoolKey cl)])
  | .fallbackLock, .go =>
    if s.free (v.h2PoolKey cl) then
      match s.content (v.h2PoolKey cl) with
      | none => some (.inHop v .fallbackDial, [.lock (v.h2PoolKey cl)])
      -- Whatever is in the slot is taken, without `ready()`.
      | some conn => some (.inHop v (.send conn), [.unlock (v.poolKey cl)])
    else none
  | .fallbackDial, .dial outcome =>
    let fx := dialEffects cl false outcome
    let unlock := [Effect.unlock (v.h2PoolKey cl), .unlock (v.poolKey cl)]
    match dialResult s v.parsedUrl false outcome with
    | .ok h => some (.inHop v (.send (.http2 h)),
        fx ++ [.store (v.h2PoolKey cl) (some (.http2 h))] ++ unlock)
    | .error e => some (.done (.error e), fx ++ unlock)
  -- Transmission.
  | .send (.http2 conn), .transmit refused =>
    match buildRequest v, refused with
    | .error e, _ => some (.done (.error e), [])
    | .ok _, some e => some (.done (.error e), [])
    | .ok request, none =>
      some (.inHop v (.awaitH2 conn request.uri.text), [.deliver (h2Delivery v conn)])
  | .send (.http3 session), .go =>
    match buildRequest v with
    | .error e => some (.done (.error e), [])
    | .ok request =>
      match s.drivers session.id with
      | none => none
      | some d =>
        -- A send into a channel whose receiver is gone fails at once.
        if d.exited then some (.inHop v .evictSend, [])
        else if d.queue.length < Driver.capacity then
          some (.inHop v (.awaitH3 session),
            [.command session.id (sessionCommand request v.hop.currentBody v.ticket)])
        else none
  | .awaitH2 _ urlStr, .respond r =>
    match r with
    | .ok resp => some (.inHop v (.storeCookies (h2Response urlStr resp)), [])
    | .error e => some (.done (.error e), [])
  | .awaitH3 session, .go =>
    match sessionReply s session v.ticket with
    | none => none
    | some (.ok resp) => some (.inHop v (.storeCookies resp), [])
    | some (.error _) => some (.inHop v .evictSend, [])
  -- The fallback of a failed HTTP/3 send.
  | .evictSend, .go => some (.inHop v .midLookup, [.evict v.parsedUrl.routeKey])
  | .midLookup, .go => some (.inHop v .midLock, [.entry (v.h2PoolKey cl)])
  | .midLock, .go =>
    if s.free (v.h2PoolKey cl) then
      some (.inHop v (afterMidLock (s.content (v.h2PoolKey cl))), [.lock (v.h2PoolKey cl)])
    else none
  | .midReady conn, .ready alive =>
    if alive then some (.inHop v (.midSend conn), [.store (v.h2PoolKey cl) (some (.http2 conn))])
    else some (.inHop v .midDial, [])
  | .midDial, .dial outcome =>
    let fx := dialEffects cl false outcome
    match dialResult s v.parsedUrl false outcome with
    | .ok h => some (.inHop v (.midSend h), fx ++ [.store (v.h2PoolKey cl) (some (.http2 h))])
    | .error e => some (.done (.error e), fx ++ [.unlock (v.h2PoolKey cl)])
  | .midSend conn, .transmit refused =>
    match buildRequest v, refused with
    | .error e, _ => some (.done (.error e), [.unlock (v.h2PoolKey cl)])
    | .ok _, some e => some (.done (.error e), [.unlock (v.h2PoolKey cl)])
    | .ok request, none =>
      some (.inHop v (.midAwait conn request.uri.text), [.deliver (h2Delivery v conn)])
  | .midAwait _ urlStr, .respond r =>
    match r with
    | .ok resp =>
      some (.inHop v (.storeCookies (h2Response urlStr resp)), [.unlock (v.h2PoolKey cl)])
    | .error e => some (.done (.error e), [.unlock (v.h2PoolKey cl)])
  -- What the response leaves in the client, and where it leads.
  | .storeCookies resp, .go =>
    some (.inHop v (.storeHints resp), [.storeCookies resp v.parsedUrl])
  | .storeHints resp, .go => some (.inHop v (.storeAltSvc resp), [.storeHints resp v.parsedUrl])
  | .storeAltSvc resp, .go => some (.inHop v (.redirect resp), [.storeAltSvc resp v.parsedUrl])
  | .redirect resp, .go =>
    match v.hop.evaluate cl.crates.url v.parsedUrl resp with
    | .error e => some (.done (.error e), [])
    | .ok none => some (.done (.ok (resp.setUrl v.hop.currentUrlStr)), [])
    | .ok (some hop) => some (.top hop v.context, [])
  | _, _ => none

/-- One step of a task. -/
def taskStep (s : State cl) : Pc cl.crates.url → Input → Option (Pc cl.crates.url × List Effect)
  | .idle, .call method url body context => some (.top (Hop.initial method url body) context, [])
  | .top hop context, .go => some (enterHop s hop context)
  | .inHop v stage, input => stageStep s v stage input
  | _, _ => none

/-- The state after task `t` has moved to `pc` with these effects. -/
def State.after (s : State cl) (t : Nat) (pc : Pc cl.crates.url) (fx : List Effect) : State cl :=
  { fx.foldl (State.apply t) s with tasks := Function.update s.tasks t pc }

@[simp] theorem State.after_tasks (s : State cl) (t : Nat) (pc : Pc cl.crates.url)
    (fx : List Effect) : (s.after t pc fx).tasks = Function.update s.tasks t pc := rfl

theorem State.after_task {s : State cl} {t : Nat} {pc : Pc cl.crates.url} {fx : List Effect} :
    (s.after t pc fx).tasks t = pc := by
  rw [State.after_tasks, Function.update_self]

/-- A task is where it moved to, or where it was. -/
theorem State.after_tasks_eq {s : State cl} {t t' : Nat} {pc pc' : Pc cl.crates.url}
    {fx : List Effect} (h : (s.after t pc fx).tasks t' = pc') :
    t' = t ∧ pc = pc' ∨ t' ≠ t ∧ s.tasks t' = pc' := by
  rw [State.after_tasks] at h
  by_cases heq : t' = t
  · rw [heq, Function.update_self] at h
    exact Or.inl ⟨heq, h⟩
  · rw [Function.update_of_ne heq] at h
    exact Or.inr ⟨heq, h⟩

/-- What a turn of a driver hands to the HTTP/3 layer. -/
def deliveredBy (session : Nat) (d : Driver) : Event → List Delivery
  | .command (.ok _) sendBody =>
    match d.h3Conn, d.queue with
    | true, cmd :: _ =>
      [{ ticket := cmd.responseTx, transport := .udp, conn := session,
         sent := (Driver.handOver cmd sendBody).sent }]
    | _, _ => []
  | _ => []

inductive Action where
  | task (t : Nat) (input : Input)
  | driver (session : Nat) (e : Event)

/-- One step of a task, or one turn of a driver. -/
def step (s : State cl) : Action → Option (State cl)
  | .task t input =>
    match taskStep s (s.tasks t) input with
    | none => none
    | some (pc, fx) => some (s.after t pc fx)
  | .driver session e =>
    match s.drivers session with
    | none => none
    | some d =>
      match Driver.step d e with
      | none => none
      | some d' => some { s with
          drivers := Function.update s.drivers session (some d')
          deliveries := s.deliveries ++ deliveredBy session d e }

/-- Crates that know finitely many URLs and keep no cookies. -/
def Crates.ofTable (table : List Url) : Crates Unit where
  url := UrlCrate.ofTable table
  buildUri := fun _ text => match table.find? (fun u => u.asStr = text) with
    | some u => .ok
      { scheme := some u.scheme, authority := u.hostStr, pathAndQuery := some u.path, text := text }
    | none => .error "invalid uri"
  cookies := fun _ _ => []
  parseCookie := fun jar _ _ => jar

/-- A client of the URLs in a table. -/
def Client.ofTable (proxy : Option Proxy) (table : List Url) : Client Unit where
  crates := Crates.ofTable table
  profile := Chrome148.chrome148LinuxX64 ""
  proxy := proxy

/-- https://a.test/. -/
def siteA : Url :=
  .page "https" "a.test" "/"

/-- https://b.test/. -/
def siteB : Url :=
  .page "https" "b.test" "/"

/-- A client without a proxy, and its state when it has that URL cached for
    HTTP/3. -/
def direct : Client Unit :=
  Client.ofTable none [siteA]

def cachedA : State direct :=
  State.fresh direct (AltSvcCache.new.insert "a.test:443" "h3=\":443\"") ()

/-- An answer that advertises HTTP/3. -/
def advertises : HeaderMap :=
  HeaderMap.new.insert "alt-svc" (.fromStatic "h3=\":443\"")

end Quik
