import Quik.AltSvcField
import Quik.Dial
import Quik.SessionHeaders

/-!
# The Endpoint of an Alternative

An alternative names where the service is: a host, or the origin's own if none
is written, and a port. Beside the state of the client a record keeps, for each
task, the cache entry its current hop was routed by.

A hop that was routed to HTTP/3 dials the host and the port of its URL. It has
read the entry and kept only that there is one (`foundInv_run`). So the endpoint
it dials is the one the entry names exactly if that is the endpoint of the
origin. The name that goes into the TLS handshake is the origin's in any case.
The authority of the request is what stands before the path in the URL, and that
is the origin's host and port exactly if there are no credentials in front of
them. A hop does what an alternative service asks of it where both is so
(`endpoint_iff`).

## Main definitions

* `Endpoint`: A host and a port, `Endpoint.text` what is resolved.
* `namedEndpoint`: What the HTTP/3 alternative of an entry names.
* `found`: The entries the hops were routed by.
* `Crates.AuthoritiesAsWritten`: The authority of the URI of a URL's text.
* `DialsEndpoint`: A hop that dials an endpoint in its origin's name.
* `EndpointFollows`: A hop that dials the endpoint its entry names.

## Theorems

* `foundInv_run`: The entry decides on the transport.
* `serverName_of_dial`: Whose certificate a QUIC connection asks for.
* `authority_iff`: When the authority of a request is the origin's.
* `endpoint_iff`: When the endpoint dialed is the one that was named.
-/

namespace Quik

open Transition
open FieldSyntax

variable {Jar : Type} {cl : Client Jar}

/-- Where a service is. -/
structure Endpoint where
  host : Host
  port : UInt16
deriving DecidableEq

/-- The text that is resolved to reach it. -/
def Endpoint.text (e : Endpoint) : String :=
  originKey e.host.text e.port

/-- A decimal port. -/
def port? (digits : List Char) : Option UInt16 :=
  let n := Nat.ofDigitChars 10 digits 0
  if !digits.isEmpty && digits.all Char.isDigit && n < 65536 then some (UInt16.ofNat n) else none

/-- The authority of an alternative: a host, which may be missing and is the
    origin's then, a colon, and a port. -/
def authorityEndpoint? (parseHost : String → Option Host) (u : Url) (authority : List Char) :
    Option Endpoint :=
  let back := authority.reverse
  match back.dropWhile (fun c => c ≠ ':') with
  | [] => none
  | _ :: front =>
    let host := if front.isEmpty then u.host else parseHost (String.ofList front.reverse)
    match host, port? (back.takeWhile (fun c => c ≠ ':')).reverse with
    | some h, some p => some { host := h, port := p }
    | _, _ => none

/-- The endpoint that the HTTP/3 alternative of a cache entry names, for an
    origin with the URL `u`. -/
def namedEndpoint (parseHost : String → Option Host) (altStr : String) (u : Url) :
    Option Endpoint :=
  match parseAltSvc [altStr.toList] with
  | some (.alternatives services) =>
    (services.find? (fun s => applicationProtos.contains s.protocol)).bind
      (fun s => authorityEndpoint? parseHost u s.authority)
  | _ => none

/-- The cache entry a task's hop is routed by, once it has begun. -/
def entryAt (entry : Option String) (s : State cl) : Pc cl.crates.url → Input → Option String
  | .top hop _, .go =>
    match cl.crates.url.parse hop.currentUrlStr with
    | .ok parsedUrl => s.altSvc parsedUrl.routeKey
    | .error _ => entry
  | _, _ => entry

def recordFound (f : Nat → Option String) (s : State cl) : Action → Nat → Option String
  | .task t input => Function.update f t (entryAt (f t) s (s.tasks t) input)
  | .driver _ _ => f

/-- The record at the end of a run of a fresh client. -/
def found (cl : Client Jar) (altSvc : AltSvcCache) (jar : Jar) (as : List Action) :
    Nat → Option String :=
  history step recordFound (fun _ => none) (State.fresh cl altSvc jar) as

/-- The entry of a hop decides on its transport, and on nothing else. -/
def FoundPc (entry : Option String) : Pc cl.crates.url → Prop
  | .inHop v _ => v.hasAltSvc = entry.isSome
  | _ => True

/-- A move of a hop leaves its routing. -/
theorem foundPc_move {s : State cl} {v : Vars cl.crates.url} {stage : Stage} {input : Input}
    {pc : Pc cl.crates.url} {fx : List Effect} {entry : Option String}
    (hm : StageMove s v stage input pc fx) (h : v.hasAltSvc = entry.isSome) :
    FoundPc entry pc := by
  cases hm with
  | _ => first
    | exact h
    | trivial

theorem foundInv_step {f : Nat → Option String} {s s' : State cl} {a : Action}
    (hinv : ∀ t, FoundPc (f t) (s.tasks t)) (h : step s a = some s') :
    ∀ t, FoundPc (recordFound f s a t) (s'.tasks t) := by
  intro t'
  cases a with
  | driver session e =>
      rcases step_driver_eq_some h with ⟨d, d', _, _, rfl⟩
      exact hinv t'
  | task t input =>
      rcases step_task_eq_some h with ⟨pc, fx, hm, rfl⟩
      rw [State.after_tasks, recordFound]
      by_cases ht : t' = t
      · rw [ht, Function.update_self, Function.update_self]
        have hpc := hinv t
        generalize s.tasks t = pc₀ at hm hpc
        cases hm with
        | call | refuse => trivial
        | enter v _ hroute =>
            simp only [entryAt, v.parsed]
            exact hroute
        | stage hm => exact foundPc_move hm hpc
      · rw [Function.update_of_ne ht, Function.update_of_ne ht]
        exact hinv t'

/-- In every run a hop is routed to HTTP/3 exactly if it found an entry. -/
theorem foundInv_run (altSvc : AltSvcCache) (jar : Jar) {as : List Action} {s : State cl}
    (hrun : run step (State.fresh cl altSvc jar) as = some s) (t : Nat) :
    FoundPc (found cl altSvc jar as t) (s.tasks t) :=
  history_invariant step (J := fun (f : Nat → Option String) s => ∀ t, FoundPc (f t) (s.tasks t))
    (fun _ _ _ _ hinv hs => foundInv_step hinv hs)
    (show ∀ t, FoundPc none ((State.fresh cl altSvc jar).tasks t) from fun _ => trivial) hrun t

/-- A hop that found an entry is routed to HTTP/3. -/
theorem routed_of_found (altSvc : AltSvcCache) (jar : Jar) {as : List Action} {s : State cl}
    (hrun : run step (State.fresh cl altSvc jar) as = some s) {t : Nat} {v : Vars cl.crates.url}
    {stage : Stage} (htask : s.tasks t = .inHop v stage) {altStr : String}
    (hfound : found cl altSvc jar as t = some altStr) : v.hasAltSvc = true := by
  have hpc := foundInv_run altSvc jar hrun t
  rw [htask, hfound] at hpc
  exact hpc

/-- The text the hop's dial resolves, `addr_str`. -/
def Vars.addrStr {c : UrlCrate} (v : Vars c) : String :=
  originKey (v.parsedUrl.hostStr.getD "") v.parsedUrl.connectPort

/-- A dial that ends as the resolver has it: if a socket is connected, then to
    the address that was resolved. -/
def DialOutcome.Resolved (resolve : String → Option SocketAddr) (addrStr : String)
    (outcome : DialOutcome) : Prop :=
  ∀ addr ∈ outcome.addr?, resolve addrStr = some addr

/-- The URI made of a URL's text has the authority that stands there, with all
    that is in it. -/
def Crates.AuthoritiesAsWritten {Jar : Type} (c : Crates Jar) : Prop :=
  ∀ method s u uri, c.url.parse s = .ok u → u.host.isSome = true →
    c.buildUri method u.asStr = .ok uri →
      uri.authority = some (u.userinfo ++ u.hostText ++ portSuffix u.port)

/-- A task about to dial over HTTP/3 connects its UDP socket to an endpoint,
    whatever names resolve to. The name of the TLS server, which the QUIC handshake
    is started with, is the host of its URL; and the authority of the request, if
    one can be made, is that host with the port, if it has one. -/
structure DialsEndpoint (s : State cl) (t : Nat) (v : Vars cl.crates.url) (e : Endpoint) :
    Prop where
  peer : ∀ resolve outcome s', outcome.Resolved resolve v.addrStr →
    step s (.task t (.dial outcome)) = some s' → ∀ opened, s'.sockets = s.sockets ++ opened →
      ∀ sock ∈ opened, sock.transport = .udp ∧
        ∃ addr, sock.peer = .origin addr ∧ resolve e.text = some addr
  serverName : ∀ out profile r, dial out cl.proxy profile (v.parsedUrl.hostStr.getD "")
      v.parsedUrl.connectPort true = some r →
    ∀ name localAddr addr, .quicConnect name localAddr addr ∈ finalState r →
      name = v.parsedUrl.hostText
  authority : ∀ request, buildRequest v = .ok request →
    (sessionHeaders request).lookup (utf8 ":authority") =
      some (utf8 (v.parsedUrl.hostText ++ portSuffix v.parsedUrl.port))

/-- No credentials stand in front of the host, if a request can be made of the
    URL's text at all. -/
def Vars.PlainAuthority (v : Vars cl.crates.url) : Prop :=
  ∀ uri, cl.crates.buildUri v.hop.currentMethod v.parsedUrl.asStr = .ok uri →
    v.parsedUrl.hasCredentials = false

/-- The sockets a dial over HTTP/3 connects. -/
theorem opened_of_dial {s s' : State cl} {t : Nat} {v : Vars cl.crates.url}
    (htask : s.tasks t = .inHop v .dial) (hroute : v.hasAltSvc = true) {outcome : DialOutcome}
    (hstep : step s (.task t (.dial outcome)) = some s') :
    ∃ opened, s'.sockets = s.sockets ++ opened ∧ ∀ sock, sock ∈ opened ↔
      ∃ addr, outcome.addr? = some addr ∧ sock = dialSocket cl.proxy true addr := by
  rcases step_task_eq_some hstep with ⟨pc, fx, hm, rfl⟩
  rw [htask] at hm
  cases hm with
  | stage hm =>
      refine ⟨socketsOf fx, foldl_apply_sockets t s fx, fun sock => ?_⟩
      rw [mem_socketsOf, move_socket hm]
      simp only [Input.dial.injEq, hroute, reduceCtorEq, false_and, or_false, true_and,
        exists_and_left, exists_eq_left']

/-- A hop that dials an endpoint looks it up. -/
theorem DialsEndpoint.addrStr_eq {s : State cl} {t : Nat} {v : Vars cl.crates.url} {e : Endpoint}
    (htask : s.tasks t = .inHop v .dial) (hroute : v.hasAltSvc = true)
    (h : DialsEndpoint s t v e) : v.addrStr = e.text := by
  -- A resolver that knows what the hop looks up, and nothing else.
  let addr : SocketAddr := { ip := .v4 0, port := 443 }
  let resolve : String → Option SocketAddr :=
    fun text => if text = v.addrStr then some addr else none
  have hstep : ∃ s', step s (.task t (.dial (.connected addr none))) = some s' := by
    rw [step, htask]
    exact ⟨_, rfl⟩
  rcases hstep with ⟨s', hstep⟩
  have hresolved : (DialOutcome.connected addr none).Resolved resolve v.addrStr := by
    intro a ha
    rw [← Option.some.inj ha]
    exact if_pos rfl
  rcases opened_of_dial htask hroute hstep with ⟨opened, hsockets, hopened⟩
  have hsock := (hopened (dialSocket cl.proxy true addr)).mpr ⟨addr, rfl, rfl⟩
  rcases (h.peer resolve _ s' hresolved hstep opened hsockets _ hsock).2 with ⟨a, _, ha⟩
  by_contra hne
  rw [show resolve e.text = none from if_neg (fun hc => hne hc.symm)] at ha
  exact absurd ha (by simp only [reduceCtorEq, not_false_eq_true])

/-- A QUIC handshake is started with the name the dial was given. -/
theorem serverName_of_dial {out : Outside} {proxy : Option Proxy} {profile : TransportProfile}
    {authority : String} {port : UInt16} {r : DialEnd}
    (h : dial out proxy profile authority port true = some r) {name : String}
    {localAddr addr : SocketAddr} (hmem : .quicConnect name localAddr addr ∈ finalState r) :
    name = authority := by
  rcases dial_spec out proxy profile authority port true with ⟨r', hr, peer, hscripted⟩
  rw [h, Option.some.injEq] at hr
  rw [← hr] at hscripted
  have hscript := hscripted.did.subset hmem
  simp only [dialScript, stageScript, if_true, List.mem_cons, List.mem_append, List.mem_map,
    reduceCtorEq, List.not_mem_nil, and_false, exists_false, or_false, false_or,
    DialMove.quicConnect.injEq] at hscript
  exact hscript.1

/-- The authority in the header list is that of the URI. -/
theorem lookup_authority (request : Request) :
    (sessionHeaders request).lookup (utf8 ":authority") =
      some (utf8 (request.uri.authority.getD "")) := by
  -- It stands third, after the method and the scheme.
  have hmethod : (utf8 ":authority" == utf8 ":method") = false := by decide +kernel
  have hscheme : (utf8 ":authority" == utf8 ":scheme") = false := by decide +kernel
  simp only [sessionHeaders, List.cons_append, List.lookup_cons, hmethod, hscheme,
    beq_self_eq_true]

/-- The authority of a hop's request is the host and the port of its URL exactly if
    there are no credentials in the URL. -/
theorem authority_iff (hauthority : cl.crates.AuthoritiesAsWritten) {v : Vars cl.crates.url}
    {request : Request} (hb : buildRequest v = .ok request) :
    (sessionHeaders request).lookup (utf8 ":authority") =
        some (utf8 (v.parsedUrl.hostText ++ portSuffix v.parsedUrl.port)) ↔
      v.parsedUrl.hasCredentials = false := by
  have hwritten := hauthority _ _ _ _ v.parsed v.hasHost (buildRequest_eq_ok hb).1
  rw [lookup_authority, hwritten, Option.getD_some, Option.some.injEq]
  constructor
  · intro heq
    by_contra hcred
    have hat := at_mem_userinfo (Bool.eq_true_of_not_eq_false hcred)
    -- With something in front the text would be longer.
    have htext := congrArg String.toList (utf8_injective heq)
    rw [String.append_assoc, String.toList_append, List.append_left_eq_self] at htext
    rw [htext] at hat
    exact absurd hat List.not_mem_nil
  · intro hcred
    rw [userinfo_eq_empty hcred, String.empty_append]

/-- A hop over HTTP/3 dials an endpoint in its origin's name exactly if it is the
    host and the port of its URL, with no credentials in front. -/
theorem dialsEndpoint_iff (hauthority : cl.crates.AuthoritiesAsWritten) {s : State cl} {t : Nat}
    {v : Vars cl.crates.url} {e : Endpoint} (htask : s.tasks t = .inHop v .dial)
    (hroute : v.hasAltSvc = true) :
    DialsEndpoint s t v e ↔ e.host.text = v.parsedUrl.hostText ∧
      e.port = v.parsedUrl.connectPort ∧ v.PlainAuthority := by
  constructor
  · intro h
    -- The text that is resolved determines the host and the port.
    rcases originKey_inj (h.addrStr_eq htask hroute) with ⟨hhost, hport⟩
    refine ⟨hhost.symm, hport.symm, fun uri huri => ?_⟩
    have hb : ∃ request, buildRequest v = .ok request := by
      rw [buildRequest, huri]
      exact ⟨_, rfl⟩
    rcases hb with ⟨request, hb⟩
    exact (authority_iff hauthority hb).mp (h.authority request hb)
  · rintro ⟨hhost, hport, hplain⟩
    have htext : v.addrStr = e.text := by
      rw [Vars.addrStr, Endpoint.text, hhost, hport]
      rfl
    refine ⟨?_, ?_, ?_⟩
    · intro resolve outcome s' hresolved hstep opened hsockets sock hsock
      rcases opened_of_dial htask hroute hstep with ⟨opened', hsockets', hopened⟩
      rw [List.append_cancel_left (hsockets.symm.trans hsockets'), hopened] at hsock
      rcases hsock with ⟨addr, haddr, rfl⟩
      exact ⟨rfl, addr, rfl, htext ▸ hresolved addr haddr⟩
    · intro out profile r hr name localAddr addr hmem
      exact serverName_of_dial hr hmem
    · intro request hb
      exact (authority_iff hauthority hb).mpr (hplain _ (buildRequest_eq_ok hb).1)

/-- A task about to dial over HTTP/3 dials the endpoint named by the entry it was
    routed by, if that names one. -/
def EndpointFollows (parseHost : String → Option Host) (altStr : String) (s : State cl) (t : Nat)
    (v : Vars cl.crates.url) : Prop :=
  ∀ e, namedEndpoint parseHost altStr v.parsedUrl = some e → DialsEndpoint s t v e

/-- In every run, a hop that was routed by an entry dials the endpoint the entry
    names, in its origin's name, exactly if that is the host and the port of its
    URL and there are no credentials in front of them. -/
theorem endpoint_iff (hauthority : cl.crates.AuthoritiesAsWritten)
    (parseHost : String → Option Host) (altSvc : AltSvcCache) (jar : Jar) {as : List Action}
    {s : State cl} (hrun : run step (State.fresh cl altSvc jar) as = some s) {t : Nat}
    {v : Vars cl.crates.url} (htask : s.tasks t = .inHop v .dial) {altStr : String}
    (hfound : found cl altSvc jar as t = some altStr) :
    EndpointFollows parseHost altStr s t v ↔
      ∀ e, namedEndpoint parseHost altStr v.parsedUrl = some e →
        e.host.text = v.parsedUrl.hostText ∧ e.port = v.parsedUrl.connectPort ∧
          v.PlainAuthority := by
  have hroute := routed_of_found altSvc jar hrun htask hfound
  constructor
  · intro h e hnamed
    exact (dialsEndpoint_iff hauthority htask hroute).mp (h e hnamed)
  · intro h e hnamed
    exact (dialsEndpoint_iff hauthority htask hroute).mpr (h e hnamed)

section Example

/-- A cache with one entry, for https://a.test/. -/
def cacheA (altStr : String) : AltSvcCache :=
  AltSvcCache.new.insert "a.test:443" altStr

/-- A GET of https://a.test/, up to its dial. -/
def upToDial : List Action :=
  ([ .call "GET" "https://a.test/" none .navigate, .go, .go, .go, .go, .go, .go ] :
    List Input).map (.task 0)

/-- The URL of a task that is about to dial. -/
def Pc.dialing? {c : UrlCrate} : Pc c → Option Url
  | .inHop v .dial => some v.parsedUrl
  | _ => none

theorem Pc.dialing?_eq_some {c : UrlCrate} {pc : Pc c} {u : Url} (h : pc.dialing? = some u) :
    ∃ v, pc = .inHop v .dial ∧ v.parsedUrl = u := by
  unfold Pc.dialing? at h
  split at h
  · exact ⟨_, rfl, Option.some.inj h⟩
  · exact absurd h (by simp only [reduceCtorEq, not_false_eq_true])

theorem direct_authoritiesAsWritten : direct.crates.AuthoritiesAsWritten := by
  intro method s u uri hparse _ hbuild
  have hsite : u = siteA := List.mem_singleton.mp (UrlCrate.ofTable_parse hparse).1
  have hfind : [siteA].find? (fun w => w.asStr = siteA.asStr) = some siteA :=
    List.find?_cons_of_pos (decide_eq_true rfl)
  rw [hsite] at hbuild ⊢
  simp only [direct, Client.ofTable, Crates.ofTable, hfind] at hbuild
  rw [← Except.ok.inj hbuild]
  decide +kernel

/-- An alternative on the origin's own host and port is dialed. -/
theorem endpoint_own : ∃ s v,
    run step (State.fresh direct (cacheA "h3=\":443\"; ma=86400") ()) upToDial = some s ∧
      s.tasks 0 = .inHop v .dial ∧
      found direct (cacheA "h3=\":443\"; ma=86400") () upToDial 0 =
        some "h3=\":443\"; ma=86400" ∧
      (namedEndpoint (fun _ => none) "h3=\":443\"; ma=86400" v.parsedUrl).isSome ∧
      EndpointFollows (fun _ => none) "h3=\":443\"; ma=86400" s 0 v := by
  have hrun : (run step (State.fresh direct (cacheA "h3=\":443\"; ma=86400") ()) upToDial).bind
      (fun s => (s.tasks 0).dialing?) = some siteA := by
    decide +kernel
  rcases Option.bind_eq_some_iff.mp hrun with ⟨s, hs, hdial⟩
  rcases Pc.dialing?_eq_some hdial with ⟨v, htask, hurl⟩
  have hfound : found direct (cacheA "h3=\":443\"; ma=86400") () upToDial 0 =
      some "h3=\":443\"; ma=86400" := by
    decide +kernel
  have hnamed : namedEndpoint (fun _ => none) "h3=\":443\"; ma=86400" v.parsedUrl =
      some { host := .domain "a.test", port := 443 } := by
    rw [hurl]
    decide +kernel
  refine ⟨s, v, hs, htask, hfound, by rw [hnamed]; rfl,
    (endpoint_iff direct_authoritiesAsWritten _ _ () hs htask hfound).mpr ?_⟩
  intro e he
  rw [← Option.some.inj (hnamed.symm.trans he), hurl]
  exact ⟨by decide, by decide, fun _ _ => by rw [hurl]; rfl⟩

/-- An alternative on another port is not. -/
theorem endpoint_otherPort : ∃ s v,
    run step (State.fresh direct (cacheA "h3=\":8443\"") ()) upToDial = some s ∧
      s.tasks 0 = .inHop v .dial ∧
      found direct (cacheA "h3=\":8443\"") () upToDial 0 = some "h3=\":8443\"" ∧
      ¬ EndpointFollows (fun _ => none) "h3=\":8443\"" s 0 v := by
  have hrun : (run step (State.fresh direct (cacheA "h3=\":8443\"") ()) upToDial).bind
      (fun s => (s.tasks 0).dialing?) = some siteA := by
    decide +kernel
  rcases Option.bind_eq_some_iff.mp hrun with ⟨s, hs, hdial⟩
  rcases Pc.dialing?_eq_some hdial with ⟨v, htask, hurl⟩
  have hfound : found direct (cacheA "h3=\":8443\"") () upToDial 0 = some "h3=\":8443\"" := by
    decide +kernel
  have hnamed : namedEndpoint (fun _ => none) "h3=\":8443\"" v.parsedUrl =
      some { host := .domain "a.test", port := 8443 } := by
    rw [hurl]
    decide +kernel
  refine ⟨s, v, hs, htask, hfound, fun h => ?_⟩
  have htext := (h _ hnamed).addrStr_eq htask (routed_of_found _ () hs htask hfound)
  rw [Vars.addrStr, hurl] at htext
  exact absurd htext (by decide +kernel)

end Example

end Quik
