import Quik.ClientBuilder
import Quik.Containment
import Quik.HttpConnect
import Quik.Library.Script
import Quik.Socks5

/-!
# The Stages of a Dial

`Client::dial` and the `connect` under it, stage by stage: the host is resolved,
a socket is connected, a proxy is asked for a tunnel, the builders are told the
profile, and the handshakes are made. Any of it may fail. To the calls of a
client a dial is one step, whose input says how it turned out (`DialOutcome`).
This is where the two meet.

What a dial does, in the order it does it, is written down as its script
(`dialScript`). A dial that is given up has done the script up to some point,
and one that hands out a connection has done all of it. So a connection is
never handed out that was not told the whole profile, or whose handshake named
another host; and before the handshake nothing is said on a socket but the
request for the tunnel.

A dial always ends (`dial_isSome`), and whatever the network and the crates do,
some outcome makes the step of the client what the dial was (`dial_refines`).

## Main definitions

* `Outside`: What the operating system, the network and the crates answer.
* `DialMove`: A thing a dial does.
* `connect`, `dialQuic`, `dial`: The stages.
* `dialScript`: What a dial does if nothing fails.
* `dialOutcome`: What a dial comes to for the client.

## Theorems

* `dialTransport_hands`: What is said for a tunnel.
* `obeys_connect`, `obeys_dialQuic`: The two branches keep to it.
* `dialTransport_congr`: Whom a tunnel depends on.
* `dial_spec`: A dial keeps to its script.
* `dialResult_dialOutcome`, `dialEffects_dialOutcome`: What the client makes of it.
* `dial_refines`: Every dial is a step of the client.
-/

namespace Quik

open Script

/-- Something a dial does. -/
inductive DialMove where
  | resolve (addrStr : String)
  | bindUdp (localAddr : SocketAddr)
  | connectUdp (addr : SocketAddr)
  | connectTcp (peer : Peer)
  /-- A socket is connected, and `addr` is what the host had resolved to. -/
  | opened (addr : SocketAddr) (sock : Socket)
  /-- A buffer is handed to the socket as it is. -/
  | handOver (buf : Bytes)
  | builder (call : BuilderCall)
  | tlsHandshake (serverName : String)
  | http2Handshake
  | quic (call : QuicCall)
  | quicConnect (serverName : String) (localAddr addr : SocketAddr)
deriving DecidableEq, Repr

/-- What a dial meets. Where nothing is returned, `none` is a success. The
    handshakes may depend on all that was done before them. -/
structure Outside where
  /-- `to_socket_addrs`. -/
  resolve : String → Except IoError (List SocketAddr)
  bindUdp : SocketAddr → Option IoError
  connectUdp : SocketAddr → SocketAddr → Option IoError
  /-- What the UDP socket reports of itself. -/
  localAddr : SocketAddr → Option SocketAddr
  network : Network
  /-- `SslConnector::builder`, and `configure`. -/
  sslBuilder : Option String
  configure : Option String
  /-- A call on one of the TLS builders is refused. -/
  refuses : BuilderCall → Option String
  tlsHandshake : List DialMove → String → TcpStream → Option String
  http2Handshake : List DialMove → TcpStream → Option String
  /-- `quiche::Config::new`. -/
  quicConfig : Option String
  applicationProtos : List Bytes → Option String
  /-- `quiche::connect`. -/
  quicConnect : List DialMove → Option String

/-- The connection a dial hands out; an HTTP/3 one comes with its driver. -/
structure NewConnection where
  addr : SocketAddr
  socket : Socket
  driver : Option Driver

/-- A stage of a dial. -/
abbrev DialStage := EStateM Error (List DialMove)

/-- How a dial ends, and what was done. -/
abbrev DialEnd := EStateM.Result Error (List DialMove) NewConnection

/-- Something that may fail and leaves no trace. -/
def check (failure : Option Error) : DialStage Unit := fun moves =>
  match failure with
  | none => .ok () moves
  | some e => .error e moves

/-- Something that may fail when it is done. -/
def attempt (move : DialMove) (failure : Option Error) : DialStage Unit := fun moves =>
  match failure with
  | none => .ok () (moves ++ [move])
  | some e => .error e (moves ++ [move])

/-- The error of `connect` or of `build_connector` for a call that is refused.
    The calls that return nothing cannot be, and the result of
    `SSL_set_enable_ech_grease` is not looked at. -/
def BuilderCall.failure (refuses : BuilderCall → Option String) (call : BuilderCall) :
    Option Error :=
  match call with
  | .setGreaseEnabled _ | .setPermuteExtensions _ | .enableSignedCertTimestamps | .setVerifyNone
  | .setEnableEchGrease _ | .http2 _ => none
  | .addApplicationSettings _ _ =>
    (refuses call).map (fun _ => .connect "failed to inject ALPS settings")
  | _ => (refuses call).map .tlsBuild

/-- The error of `configure_chrome_quic_transport`. -/
def QuicCall.failure (applicationProtos : List Bytes → Option String) : QuicCall → Option Error
  | .setApplicationProtos protos => (applicationProtos protos).map .connect
  | _ => none

/-- The calls of `connect` on the connection's own TLS object. -/
def configCalls (profile : TransportProfile) : List BuilderCall :=
  [.setStatusTypeOcsp] ++
  (if profile.tls.enableEchGrease then [.setEnableEchGrease 1] else []) ++
  (if profile.tls.alpsEnabled then
    [.addApplicationSettings (utf8 "h2")
      (buildAlpsPayload profile.h2.settings profile.tls.alpsExtraSettings)]
  else [])

/-- The far end of the TCP stage. -/
def tcpPeer (proxy : Option Proxy) (addr : SocketAddr) : Peer :=
  match proxy with
  | some p => .proxy p.addr
  | none => .origin addr

/-- The TCP stage, by how it ended. -/
def transport (tcp : TcpDial) (peer : Peer) (addr : SocketAddr) : DialStage TcpStream :=
  fun moves =>
    let opened (stream : TcpStream) : List DialMove :=
      .opened addr { transport := .tcp, peer := peer } :: stream.written.map .handOver
    match tcp with
    | .ok stream => .ok stream (moves ++ .connectTcp peer :: opened stream)
    | .error e dropped => .error e (moves ++ .connectTcp peer :: dropped.elim [] opened)

/-- `connect`, with the TCP stage as it ended. -/
def connect (out : Outside) (tcp : TcpDial) (host : String) (addr : SocketAddr)
    (profile : TransportProfile) (proxy : Option Proxy) : DialStage NewConnection := do
  let stream ← transport tcp (tcpPeer proxy addr) addr
  check (out.sslBuilder.map .tlsBuild)
  (buildConnector profile.tls).forM (fun c => attempt (.builder c) (c.failure out.refuses))
  check (out.configure.map .tlsBuild)
  (configCalls profile).forM (fun c => attempt (.builder c) (c.failure out.refuses))
  let moves ← get
  attempt (.tlsHandshake host) ((out.tlsHandshake moves host stream).map .tlsHandshake)
  (configureBuilder profile.h2).forM (fun c => attempt (.builder (.http2 c)) none)
  let moves ← get
  attempt .http2Handshake ((out.http2Handshake moves stream).map .http2)
  pure { addr := addr, socket := { transport := .tcp, peer := tcpPeer proxy addr }, driver := none }

/-- The HTTP/3 branch of `dial`, behind the resolver. -/
def dialQuic (out : Outside) (authority : String) (addr : SocketAddr) (tls : TlsProfile) :
    DialStage NewConnection := do
  let localAddr := dialLocalAddr addr
  let socket : Socket := { transport := .udp, peer := .origin addr }
  attempt (.bindUdp localAddr) ((out.bindUdp localAddr).map .connect)
  attempt (.connectUdp addr) ((out.connectUdp localAddr addr).map .connect)
  attempt (.opened addr socket) none
  check (out.quicConfig.map .connect)
  (quicCalls tls).forM (fun c => attempt (.quic c) (c.failure out.applicationProtos))
  let moves ← get
  attempt (.quicConnect authority localAddr addr) ((out.quicConnect moves).map .connect)
  pure { addr := addr, socket := socket,
         driver := some { path := (localAddr, addr), socketAddr := out.localAddr addr } }

/-- The first address a text resolves to. -/
def resolveFirst (out : Outside) (addrStr : String) : Except Error SocketAddr :=
  match out.resolve addrStr with
  | .error e => .error (.connect e)
  | .ok [] => .error (.connect "could not resolve host")
  | .ok (addr :: _) => .ok addr

/-- One read for each byte the buffer of a CONNECT has room for, and one that
    finds it full. -/
def dialTurns : Nat := 4097

/-- `Client::dial`, with the proxy of the client. -/
def dial (out : Outside) (proxy : Option Proxy) (profile : TransportProfile) (authority : String)
    (port : UInt16) (dialH3 : Bool) : Option DialEnd :=
  let moves := [.resolve (originKey authority port)]
  match resolveFirst out (originKey authority port) with
  | .error e => some (.error e moves)
  | .ok addr =>
    if dialH3 then some (dialQuic out authority addr profile.tls moves)
    else (dialTransport dialTurns out.network authority port addr proxy).map
      (fun tcp => connect out tcp authority addr profile proxy moves)

/-- What is said to a proxy. -/
def tunnelScript (proxy : Option Proxy) (host : String) (port : UInt16) : List Bytes :=
  match proxy with
  | none => []
  | some (.http _) => [utf8 (connectRequest host port)]
  | some (.socks5 _) => [socks5Greeting, socks5Request host port]

/-- What a dial does behind the resolver, if nothing fails. -/
def stageScript (proxy : Option Proxy) (profile : TransportProfile) (authority : String)
    (port : UInt16) (dialH3 : Bool) (addr : SocketAddr) : List DialMove :=
  if dialH3 then
    [ .bindUdp (dialLocalAddr addr), .connectUdp addr,
      .opened addr (dialSocket proxy true addr) ] ++
    (quicCalls profile.tls).map DialMove.quic ++
    [.quicConnect authority (dialLocalAddr addr) addr]
  else
    [ .connectTcp (dialSocket proxy false addr).peer,
      .opened addr (dialSocket proxy false addr) ] ++
    (tunnelScript proxy authority port).map DialMove.handOver ++
    (buildConnector profile.tls ++ configCalls profile).map DialMove.builder ++
    [.tlsHandshake authority] ++
    (configureBuilder profile.h2).map (fun c => DialMove.builder (.http2 c)) ++ [.http2Handshake]

/-- What a dial does if nothing fails and the host resolves to `addr`. -/
def dialScript (proxy : Option Proxy) (profile : TransportProfile) (authority : String)
    (port : UInt16) (dialH3 : Bool) (addr : SocketAddr) : List DialMove :=
  .resolve (originKey authority port) :: stageScript proxy profile authority port dialH3 addr

/-- The socket a move connects, with what the host had resolved to. -/
def DialMove.opened? : DialMove → Option (SocketAddr × Socket)
  | .opened addr sock => some (addr, sock)
  | _ => none

/-- The sockets some moves connect. -/
def openedBy (moves : List DialMove) : List Socket :=
  moves.filterMap (fun m => m.opened?.map Prod.snd)

/-- What a dial comes to for the client. -/
def dialOutcome : DialEnd → DialOutcome
  | .ok conn _ => .connected conn.addr (conn.driver.bind Driver.socketAddr)
  | .error e moves =>
    match moves.findSome? DialMove.opened? with
    | some (addr, _) => .broken addr e
    | none => .unreachable e

section Tunnel

theorem Silent.obeys {α : Type} {x : EStateM Error TcpStream α} (h : Silent x) :
    Obeys TcpStream.written [] x := by
  intro stream
  have hstream := h stream
  cases hx : x stream with
  | ok a later =>
      rw [hx] at hstream
      exact hstream.trans (List.append_nil _).symm
  | error e later =>
      rw [hx] at hstream
      exact ⟨[], List.nil_prefix, hstream.trans (List.append_nil _).symm⟩

theorem obeys_writeAll (buf : Bytes) :
    Obeys TcpStream.written [buf] (TcpStream.writeAll buf) := by
  intro stream
  unfold TcpStream.writeAll
  cases stream.writeFailures.head with
  | none => rfl
  | some e => exact ⟨[buf], List.prefix_refl _, rfl⟩

/-- The two messages of the client, and nothing else. -/
theorem obeys_socks5Handshake (host : String) (port : UInt16) :
    Obeys TcpStream.written [socks5Greeting, socks5Request host port]
      (socks5Handshake host port) := by
  have hrequest : Obeys TcpStream.written [socks5Request host port]
      (TcpStream.writeAll (socks5Request host port) >>= fun _ => drainReply) :=
    (obeys_writeAll _).bind_quiet (fun _ => silent_drainReply.obeys)
  unfold socks5Handshake
  refine (obeys_writeAll socks5Greeting).bind (fun _ => ?_)
  refine (silent_readExact 2).obeys.quiet_bind (fun _ => ?_)
  split
  · exact (obeys_throw _ []).bind (fun _ => hrequest)
  · exact hrequest

/-- What the TCP stage has said, when it is over. -/
structure TcpDial.Hands (script : List Bytes) (d : TcpDial) : Prop where
  written : d.written <+: script
  all : ∀ stream, d = .ok stream → stream.written = script

theorem dialWith_hands (net : Network) (peer : Peer) {script : List Bytes}
    {handshake : EStateM Error TcpStream Unit} (h : Obeys TcpStream.written script handshake) :
    (net.dialWith peer handshake).Hands script := by
  unfold Network.dialWith
  cases hconn : net.connect peer with
  | error e => exact ⟨List.nil_prefix, fun _ hd => by simp only [reduceCtorEq] at hd⟩
  | ok stream =>
      cases hrun : handshake stream with
      | ok u later =>
          have hlater := h.ok hrun
          rw [net.fresh hconn, List.nil_append] at hlater
          simp only [hrun]
          exact ⟨hlater ▸ List.prefix_refl _, fun _ hd => TcpDial.ok.inj hd ▸ hlater⟩
      -- The stream is dropped, with a part of the script in it.
      | error e later =>
          rcases h.error hrun with ⟨did, hdid, hlater⟩
          rw [net.fresh hconn, List.nil_append] at hlater
          simp only [hrun]
          exact ⟨show later.written <+: script from hlater ▸ hdid,
            fun _ hd => by simp only [reduceCtorEq] at hd⟩

/-- The loop only reads. -/
theorem connectLoop_written (turns : Nat) {buf : Bytes} {stream : TcpStream} {d : TcpDial}
    (h : connectLoop turns buf stream = some d) : d.written = stream.written := by
  induction turns generalizing buf stream with
  | zero => exact absurd h (by simp only [connectLoop, reduceCtorEq, not_false_eq_true])
  | succ turns ih =>
      unfold connectLoop at h
      split at h
      · rename_i hread
        rw [← Option.some.inj h]
        exact congrArg (fun r => r.2.written) hread.symm
      · rename_i hread
        rw [← Option.some.inj h]
        exact congrArg (fun r => r.2.written) hread.symm
      · rename_i hread
        have hlater := congrArg (fun r => r.2.written) hread.symm
        split at h
        · rw [← Option.some.inj h]
          exact hlater
        · rw [← Option.some.inj h]
          exact hlater
        · exact (ih h).trans hlater

theorem dialHttpProxy_hands {turns : Nat} {net : Network} {proxyAddr host : String} {port : UInt16}
    {d : TcpDial} (h : dialHttpProxy turns net proxyAddr host port = some d) :
    d.Hands [utf8 (connectRequest host port)] := by
  have hwrite := dialWith_hands net (.proxy proxyAddr)
    (obeys_writeAll (utf8 (connectRequest host port)))
  unfold dialHttpProxy at h
  cases hdial : net.dialWith (.proxy proxyAddr)
      (TcpStream.writeAll (utf8 (connectRequest host port))) with
  | error e dropped =>
      rw [hdial] at h hwrite
      exact Option.some.inj h ▸ hwrite
  | ok stream =>
      rw [hdial] at h hwrite
      -- The loop leaves the request as it was handed over.
      have hlater : d.written = [utf8 (connectRequest host port)] :=
        (connectLoop_written turns h).trans (hwrite.all stream rfl)
      exact ⟨hlater ▸ List.prefix_refl _, fun later hd => by rw [← hlater, hd]; rfl⟩

/-- On a connection that is not yet encrypted a client says nothing to an
    origin, and to a proxy whom to connect it with. -/
theorem dialTransport_hands {turns : Nat} {net : Network} {host : String} {port : UInt16}
    {addr : SocketAddr} {proxy : Option Proxy} {d : TcpDial}
    (h : dialTransport turns net host port addr proxy = some d) :
    d.Hands (tunnelScript proxy host port) := by
  rcases proxy with _ | proxyAddr | proxyAddr
  · rw [← Option.some.inj h]
    exact dialWith_hands net (.origin addr) (obeys_pure ())
  · exact dialHttpProxy_hands h
  · rw [← Option.some.inj h]
    exact dialWith_hands net (.proxy proxyAddr) (obeys_socks5Handshake host port)

/-- The stage is over after as many reads as the buffer of a CONNECT allows. -/
theorem dialTransport_isSome (net : Network) (host : String) (port : UInt16) (addr : SocketAddr)
    (proxy : Option Proxy) :
    (dialTransport dialTurns net host port addr proxy).isSome = true := by
  rcases proxy with _ | proxyAddr | proxyAddr
  · rfl
  · show (dialHttpProxy dialTurns net proxyAddr host port).isSome = true
    unfold dialHttpProxy
    cases net.dialWith (.proxy proxyAddr)
        (TcpStream.writeAll (utf8 (connectRequest host port))) with
    | error e dropped => rfl
    | ok stream =>
        exact connectLoop_isSome dialTurns (Source.Filled.start 4096 stream.source) (by decide)
  · rfl

/-- It is the answer of one peer that it depends on, the proxy if there is one. -/
theorem dialTransport_congr {net net' : Network} {proxy : Option Proxy} {addr : SocketAddr}
    (h : net'.connect (tcpPeer proxy addr) = net.connect (tcpPeer proxy addr)) (turns : Nat)
    (host : String) (port : UInt16) : dialTransport turns net' host port addr proxy =
      dialTransport turns net host port addr proxy := by
  rcases proxy with _ | proxyAddr | proxyAddr
  · simp only [dialTransport, Network.dialWith, show net'.connect (.origin addr) = _ from h]
    rfl
  · simp only [dialTransport, dialProxy, dialHttpProxy, Network.dialWith,
      show net'.connect (.proxy proxyAddr) = _ from h]
    rfl
  · simp only [dialTransport, dialProxy, dialSocks5Proxy, Network.dialWith,
      show net'.connect (.proxy proxyAddr) = _ from h]
    rfl

end Tunnel

section Stages

/-- The socket of an HTTP/2 dial is that of the TCP stage. -/
theorem dialSocket_tcp (proxy : Option Proxy) (addr : SocketAddr) :
    dialSocket proxy false addr = { transport := .tcp, peer := tcpPeer proxy addr } := by
  cases proxy with
  | none => rfl
  | some p => rfl

theorem obeys_check (failure : Option Error) : Obeys id [] (check failure) := by
  intro moves
  cases failure with
  | none => exact (List.append_nil _).symm
  | some e => exact ⟨[], List.nil_prefix, (List.append_nil _).symm⟩

theorem obeys_attempt (move : DialMove) (failure : Option Error) :
    Obeys id [move] (attempt move failure) := by
  intro moves
  cases failure with
  | none => rfl
  | some e => exact ⟨[move], List.prefix_refl _, rfl⟩

/-- A list of calls, each of them under a name of its own. -/
theorem obeys_calls {α : Type} (move : α → DialMove) (failure : α → Option Error) (l : List α) :
    Obeys id (l.map move) (l.forM (fun c => attempt (move c) (failure c))) := by
  have hcalls : Obeys id (l.flatMap (fun c => [move c]))
      (l.forM (fun c => attempt (move c) (failure c))) :=
    Obeys.forM (fun c => obeys_attempt (move c) (failure c)) l
  rwa [← List.map_eq_flatMap] at hcalls

theorem obeys_transport {tcp : TcpDial} {script : List Bytes} (h : tcp.Hands script)
    (peer : Peer) (addr : SocketAddr) :
    Obeys id ([.connectTcp peer, .opened addr { transport := .tcp, peer := peer }] ++
      script.map .handOver) (transport tcp peer addr) := by
  intro moves
  cases tcp with
  | ok stream =>
      rw [← h.all stream rfl]
      rfl
  | error e dropped =>
      cases dropped with
      -- Without a stream to drop, not even the connection was there.
      | none => exact ⟨[.connectTcp peer], List.prefix_append [_] _, rfl⟩
      | some stream =>
          have hprefix : stream.written.map DialMove.handOver <+: script.map .handOver :=
            h.written.map _
          exact ⟨_, (List.prefix_append_right_inj _).mpr hprefix, rfl⟩

/-- The HTTP/2 branch, once the tunnel has been asked for. -/
theorem obeys_connect (out : Outside) {tcp : TcpDial} {proxy : Option Proxy} {host : String}
    {port : UInt16} (h : tcp.Hands (tunnelScript proxy host port)) (addr : SocketAddr)
    (profile : TransportProfile) :
    Obeys id (stageScript proxy profile host port false addr)
      (connect out tcp host addr profile proxy) := by
  have hscript : stageScript proxy profile host port false addr =
      ([.connectTcp (tcpPeer proxy addr),
          .opened addr { transport := .tcp, peer := tcpPeer proxy addr }] ++
        (tunnelScript proxy host port).map DialMove.handOver) ++
      ((buildConnector profile.tls).map DialMove.builder ++
        ((configCalls profile).map DialMove.builder ++ ([.tlsHandshake host] ++
          ((configureBuilder profile.h2).map (fun c => DialMove.builder (.http2 c)) ++
            [.http2Handshake])))) := by
    simp only [stageScript, dialSocket_tcp, Bool.false_eq_true, if_false, List.map_append,
      List.append_assoc]
  rw [hscript]
  -- From here a line for each line of the branch, in the same order.
  unfold connect
  refine (obeys_transport h _ addr).bind (fun stream => ?_)
  refine (obeys_check _).quiet_bind (fun _ => ?_)
  refine (obeys_calls _ _ _).bind (fun _ => ?_)
  refine (obeys_check _).quiet_bind (fun _ => ?_)
  refine (obeys_calls _ _ _).bind (fun _ => ?_)
  refine obeys_get.quiet_bind (fun moves => ?_)
  refine (obeys_attempt _ _).bind (fun _ => ?_)
  refine (obeys_calls _ _ _).bind (fun _ => ?_)
  refine obeys_get.quiet_bind (fun moves => ?_)
  exact (obeys_attempt _ _).bind_quiet (fun _ => obeys_pure _)

/-- The HTTP/3 branch. It knows of no proxy. -/
theorem obeys_dialQuic (out : Outside) (proxy : Option Proxy) (profile : TransportProfile)
    (authority : String) (port : UInt16) (addr : SocketAddr) :
    Obeys id (stageScript proxy profile authority port true addr)
      (dialQuic out authority addr profile.tls) := by
  have hscript : stageScript proxy profile authority port true addr =
      [.bindUdp (dialLocalAddr addr)] ++ ([.connectUdp addr] ++
        ([.opened addr { transport := .udp, peer := .origin addr }] ++
          ((quicCalls profile.tls).map DialMove.quic ++
            [.quicConnect authority (dialLocalAddr addr) addr]))) := by
    simp only [stageScript, dialSocket, if_true, List.append_assoc, List.cons_append,
      List.nil_append]
  rw [hscript]
  unfold dialQuic
  refine (obeys_attempt _ _).bind (fun _ => ?_)
  refine (obeys_attempt _ _).bind (fun _ => ?_)
  refine (obeys_attempt _ _).bind (fun _ => ?_)
  refine (obeys_check _).quiet_bind (fun _ => ?_)
  refine (obeys_calls _ _ _).bind (fun _ => ?_)
  refine obeys_get.quiet_bind (fun moves => ?_)
  exact (obeys_attempt _ _).bind_quiet (fun _ => obeys_pure _)

/-- A connection over HTTP/2 is made by the code that drives it. -/
theorem yields_connect (out : Outside) (tcp : TcpDial) (host : String) (addr : SocketAddr)
    (profile : TransportProfile) (proxy : Option Proxy) :
    Yields (fun conn => conn.addr = addr ∧ conn.socket = dialSocket proxy false addr ∧
      conn.driver = none) (connect out tcp host addr profile proxy) := by
  unfold connect
  iterate 10 refine Yields.bind (fun _ => ?_)
  exact yields_pure ⟨rfl, (dialSocket_tcp proxy addr).symm, rfl⟩

theorem yields_dialQuic (out : Outside) (proxy : Option Proxy) (authority : String)
    (addr : SocketAddr) (tls : TlsProfile) :
    Yields (fun conn => conn.addr = addr ∧ conn.socket = dialSocket proxy true addr ∧
      conn.driver = some (Driver.dialed addr (out.localAddr addr)))
      (dialQuic out authority addr tls) := by
  unfold dialQuic
  iterate 7 refine Yields.bind (fun _ => ?_)
  exact yields_pure ⟨rfl, rfl, rfl⟩

end Stages

/-- How a dial ends whose host resolves to `addr`, if it does: it has done part
    of its script, and all of it if there is a connection. -/
structure DialEnd.Scripted (out : Outside) (proxy : Option Proxy) (profile : TransportProfile)
    (authority : String) (port : UInt16) (dialH3 : Bool) (addr : SocketAddr) (r : DialEnd) :
    Prop where
  resolved : ∀ a, resolveFirst out (originKey authority port) = .ok a → addr = a
  did : finalState r <+: dialScript proxy profile authority port dialH3 addr
  conn : ∀ conn moves, r = .ok conn moves →
    resolveFirst out (originKey authority port) = .ok addr ∧
    moves = dialScript proxy profile authority port dialH3 addr ∧
    conn.addr = addr ∧ conn.socket = dialSocket proxy dialH3 addr ∧
    ∃ localAddr, conn.driver = if dialH3 then some (Driver.dialed addr localAddr) else none

/-- The end of a branch, as the end of the dial. -/
theorem scripted_of_obeys {out : Outside} {proxy : Option Proxy} {profile : TransportProfile}
    {authority : String} {port : UInt16} {dialH3 : Bool} {addr : SocketAddr}
    {branch : DialStage NewConnection}
    (hresolve : resolveFirst out (originKey authority port) = .ok addr)
    (hobeys : Obeys id (stageScript proxy profile authority port dialH3 addr) branch)
    (hyields : Yields (fun conn => conn.addr = addr ∧ conn.socket = dialSocket proxy dialH3 addr ∧
      ∃ localAddr, conn.driver = if dialH3 then some (Driver.dialed addr localAddr) else none)
      branch) :
    DialEnd.Scripted out proxy profile authority port dialH3 addr
      (branch [.resolve (originKey authority port)]) := by
  have haddr : ∀ a, resolveFirst out (originKey authority port) = .ok a → addr = a :=
    fun a ha => Except.ok.inj (hresolve.symm.trans ha)
  cases hrun : branch [.resolve (originKey authority port)] with
  | ok conn moves =>
      have hmoves : moves = dialScript proxy profile authority port dialH3 addr :=
        hobeys.ok hrun
      refine ⟨haddr, ?_, fun conn' moves' heq => ?_⟩
      · rw [hmoves]
        exact List.prefix_refl _
      · rcases EStateM.Result.ok.inj heq with ⟨rfl, rfl⟩
        exact ⟨hresolve, hmoves, hyields _ _ _ hrun⟩
  | error e moves =>
      rcases hobeys.error hrun with ⟨did, hdid, hmoves⟩
      refine ⟨haddr, ?_, fun _ _ heq => by simp only [reduceCtorEq] at heq⟩
      show moves <+: _
      rw [show moves = [.resolve (originKey authority port)] ++ did from hmoves]
      exact (List.prefix_append_right_inj _).mpr hdid

/-- A dial ends, and it has kept to its script. -/
theorem dial_spec (out : Outside) (proxy : Option Proxy) (profile : TransportProfile)
    (authority : String) (port : UInt16) (dialH3 : Bool) :
    ∃ r, dial out proxy profile authority port dialH3 = some r ∧
      ∃ addr, r.Scripted out proxy profile authority port dialH3 addr := by
  unfold dial
  cases hresolve : resolveFirst out (originKey authority port) with
  | error e =>
      -- The script starts with the lookup at any address, so any will do.
      refine ⟨_, rfl, ⟨.v4 0, 0⟩, fun a heq => ?_, ?_, ?_⟩
      · exact absurd (hresolve.symm.trans heq) (by simp only [reduceCtorEq, not_false_eq_true])
      · exact List.prefix_append [_] _
      · exact fun _ _ heq => by simp only [reduceCtorEq] at heq
  | ok addr =>
      cases dialH3 with
      | true =>
          refine ⟨_, rfl, addr, scripted_of_obeys hresolve
            (obeys_dialQuic out proxy profile authority port addr) ?_⟩
          intro s s' conn hrun
          have hconn := yields_dialQuic out proxy authority addr profile.tls s s' conn hrun
          exact ⟨hconn.1, hconn.2.1, _, hconn.2.2⟩
      | false =>
          rcases Option.isSome_iff_exists.mp
            (dialTransport_isSome out.network authority port addr proxy) with ⟨tcp, htcp⟩
          refine ⟨_, congrArg (Option.map _) htcp, addr, scripted_of_obeys hresolve
            (obeys_connect out (dialTransport_hands htcp) addr profile) ?_⟩
          intro s s' conn hrun
          have hconn := yields_connect out tcp authority addr profile proxy s s' conn hrun
          exact ⟨hconn.1, hconn.2.1, none, hconn.2.2⟩

/-- The connection of a dial as the client keeps it, under a number and with
    what it was dialed for. -/
def DialEnd.handle (id : Nat) (u : Url) : DialEnd → Except Error Handle
  | .ok conn _ => .ok
    { id := id, host := u.hostStr.getD "", port := u.connectPort, socket := conn.socket }
  | .error e _ => .error e

/-- What a dial leaves in a client: its socket, and its connection. -/
def DialEnd.effects (r : DialEnd) : List Effect :=
  (openedBy (finalState r)).map .socket ++
  match r with
  | .ok conn _ => [.connection conn.driver]
  | .error _ _ => []

/-- Moves that connect no socket. -/
theorem filterMap_opened_map {α : Type} {f : α → DialMove} (h : ∀ a, (f a).opened? = none)
    (l : List α) : (l.map f).filterMap DialMove.opened? = [] := by
  rw [List.filterMap_map]
  exact List.filterMap_eq_nil_iff.mpr (fun a _ => h a)

/-- A dial is scripted to connect one socket. -/
theorem opened_dialScript (proxy : Option Proxy) (profile : TransportProfile) (authority : String)
    (port : UInt16) (dialH3 : Bool) (addr : SocketAddr) :
    (dialScript proxy profile authority port dialH3 addr).filterMap DialMove.opened? =
      [(addr, dialSocket proxy dialH3 addr)] := by
  have hbuilder : ∀ l : List BuilderCall,
      (l.map DialMove.builder).filterMap DialMove.opened? = [] :=
    filterMap_opened_map (fun _ => rfl)
  have hhttp2 : ∀ l : List Http2Call, (l.map (fun c => DialMove.builder (.http2 c))).filterMap
      DialMove.opened? = [] := filterMap_opened_map (fun _ => rfl)
  have hquic : ∀ l : List QuicCall, (l.map DialMove.quic).filterMap DialMove.opened? = [] :=
    filterMap_opened_map (fun _ => rfl)
  have hbuf : ∀ l : List Bytes, (l.map DialMove.handOver).filterMap DialMove.opened? = [] :=
    filterMap_opened_map (fun _ => rfl)
  cases dialH3 with
  | true =>
      simp only [dialScript, stageScript, if_true, List.filterMap_cons, DialMove.opened?,
        List.filterMap_append, hquic, List.filterMap_nil, List.append_nil]
  | false =>
      simp only [dialScript, stageScript, Bool.false_eq_true, if_false, List.filterMap_cons,
        DialMove.opened?, List.filterMap_append, hbuilder, hhttp2, hbuf, List.filterMap_nil,
        List.append_nil]

section Refinement

variable {Jar : Type} {cl : Client Jar} {out : Outside} {profile : TransportProfile} {u : Url}
  {dialH3 : Bool} {addr : SocketAddr} {r : DialEnd}

/-- A dial has connected its one socket, or none. -/
theorem DialEnd.Scripted.opened {proxy : Option Proxy} {authority : String} {port : UInt16}
    (h : r.Scripted out proxy profile authority port dialH3 addr) :
    (finalState r).filterMap DialMove.opened? = [] ∨
      (finalState r).filterMap DialMove.opened? = [(addr, dialSocket proxy dialH3 addr)] := by
  have hprefix := h.did.filterMap DialMove.opened?
  rw [opened_dialScript] at hprefix
  rcases List.prefix_cons_iff.mp hprefix with hnil | ⟨t, ht, hrest⟩
  · exact Or.inl hnil
  · rw [List.prefix_nil.mp hrest] at ht
    exact Or.inr ht

/-- The client gets the connection of the dial, or its error. -/
theorem dialResult_dialOutcome (h : r.Scripted out cl.proxy profile (u.hostStr.getD "")
    u.connectPort dialH3 addr) (s : State cl) :
    dialResult s u dialH3 (dialOutcome r) = r.handle s.nextConn u := by
  cases r with
  | ok conn moves =>
      rcases h.conn conn moves rfl with ⟨_, _, haddr, hsocket, _⟩
      rw [dialOutcome, dialResult, DialEnd.handle, hsocket, haddr]
  | error e moves =>
      rw [dialOutcome]
      cases moves.findSome? DialMove.opened? with
      | none => rfl
      | some a => rfl

/-- And it logs the socket that was connected, if one was. -/
theorem dialEffects_dialOutcome (h : r.Scripted out cl.proxy profile (u.hostStr.getD "")
    u.connectPort dialH3 addr) : dialEffects cl dialH3 (dialOutcome r) = r.effects := by
  have hopened : openedBy (finalState r) =
      ((finalState r).filterMap DialMove.opened?).map Prod.snd := List.map_filterMap.symm
  cases r with
  | ok conn moves =>
      rcases h.conn conn moves rfl with ⟨_, hmoves, haddr, hsocket, localAddr, hdriver⟩
      rw [DialEnd.effects, hopened, show finalState (EStateM.Result.ok conn moves) = moves from rfl,
        hmoves, opened_dialScript, dialOutcome, dialEffects, haddr, hdriver]
      cases dialH3 <;> rfl
  | error e moves =>
      -- The first socket is the only one, so the search finds all there is to log.
      rw [DialEnd.effects, hopened, dialOutcome, ← List.head?_filterMap]
      rcases h.opened with hnone | hone
      · have hmoves : moves.filterMap DialMove.opened? = [] := hnone
        rw [hnone, hmoves]
        rfl
      · have hmoves : moves.filterMap DialMove.opened? =
            [(addr, dialSocket cl.proxy dialH3 addr)] := hone
        rw [hone, hmoves]
        rfl

/-- Whatever the network and the crates do, a dial ends, and the step of the
    client is what it was. It has done its script up to some point, and to the
    end if it hands out a connection; and with a proxy or without, there is one
    peer whose answer it depends on. -/
theorem dial_refines (cl : Client Jar) (profile : TransportProfile) (out : Outside) (s : State cl)
    (u : Url) (dialH3 : Bool) :
    ∃ r, dial out cl.proxy profile (u.hostStr.getD "") u.connectPort dialH3 = some r ∧
      dialResult s u dialH3 (dialOutcome r) = r.handle s.nextConn u ∧
      dialEffects cl dialH3 (dialOutcome r) = r.effects ∧
      (∃ addr, (∀ a, resolveFirst out u.routeKey = .ok a → addr = a) ∧
        finalState r <+: dialScript cl.proxy profile (u.hostStr.getD "") u.connectPort dialH3 addr ∧
        ∀ conn moves, r = .ok conn moves →
          moves = dialScript cl.proxy profile (u.hostStr.getD "") u.connectPort dialH3 addr) ∧
      ∀ network : Network, (∀ a, resolveFirst out u.routeKey = .ok a →
          network.connect (tcpPeer cl.proxy a) = out.network.connect (tcpPeer cl.proxy a)) →
        dial { out with network := network } cl.proxy profile (u.hostStr.getD "") u.connectPort
          dialH3 = some r := by
  rcases dial_spec out cl.proxy profile (u.hostStr.getD "") u.connectPort dialH3 with
    ⟨r, hr, addr, hscripted⟩
  refine ⟨r, hr, dialResult_dialOutcome hscripted s, dialEffects_dialOutcome hscripted,
    ⟨addr, hscripted.resolved, hscripted.did, fun conn moves heq =>
      (hscripted.conn conn moves heq).2.1⟩, fun network hsame => ?_⟩
  -- The addresses come from the resolver, which another network leaves as it is.
  rw [← hr]
  unfold dial
  have hresolve : resolveFirst { out with network := network } = resolveFirst out := rfl
  rw [hresolve]
  cases ha : resolveFirst out (originKey (u.hostStr.getD "") u.connectPort) with
  | error e => rfl
  | ok a =>
      simp only
      rw [dialTransport_congr (hsame a ha)]
      rfl

end Refinement

end Quik
