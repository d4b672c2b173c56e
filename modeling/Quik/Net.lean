import Quik.Url

/-!
# Addresses, Proxies and Sockets

Where a connection goes. A socket is recorded with its transport and the
address it is connected to, which is either the proxy's, as the text the proxy
was configured with, or an address the origin's host resolved to.

`dialLocalAddr` is the local address an HTTP/3 dial binds, and the one it hands
to the QUIC connection: the wildcard of the peer's family, with port 0.

## Main definitions

* `SocketAddr`, `dialLocalAddr`: Addresses, and the one a dial binds.
* `Proxy`, `proxyPrefix`: The proxy route, and its part of a pool key.
* `Socket`, `dialSocket`: A connected socket, and the one a dial connects.
-/

namespace Quik

/-- `std::net::IpAddr`. -/
inductive IpAddr where
  | v4 (addr : BitVec 32)
  | v6 (addr : BitVec 128)
deriving DecidableEq, Repr

/-- `is_unspecified`: the wildcard of its family. -/
def IpAddr.isUnspecified : IpAddr → Bool
  | .v4 addr => addr = 0
  | .v6 addr => addr = 0

/-- `std::net::SocketAddr`. -/
structure SocketAddr where
  ip : IpAddr
  port : UInt16
deriving DecidableEq, Repr

def SocketAddr.isIpv6 (addr : SocketAddr) : Bool :=
  match addr.ip with
  | .v4 _ => false
  | .v6 _ => true

/-- The `local_addr` of an HTTP/3 dial: `[::]:0` or `0.0.0.0:0`. -/
def dialLocalAddr (addr : SocketAddr) : SocketAddr :=
  if addr.isIpv6 then { ip := .v6 0, port := 0 } else { ip := .v4 0, port := 0 }

/-- A proxy route, with the proxy's host and port as text. -/
inductive Proxy where
  | http (addr : String)
  | socks5 (addr : String)
deriving DecidableEq, Repr

def Proxy.addr : Proxy → String
  | .http addr => addr
  | .socks5 addr => addr

/-- The part of a pool key that keeps the routes apart. -/
def proxyPrefix : Option Proxy → String
  | some (.http a) => "http://" ++ a ++ "@"
  | some (.socks5 a) => "socks5://" ++ a ++ "@"
  | none => ""

inductive Transport where
  | tcp
  | udp
deriving DecidableEq, Repr

/-- The far end of a socket. -/
inductive Peer where
  | proxy (addr : String)
  | origin (addr : SocketAddr)
deriving DecidableEq, Repr

/-- A connected socket. -/
structure Socket where
  transport : Transport
  peer : Peer
deriving DecidableEq, Repr

/-- The socket a dial connects when the host resolves to `addr`. The HTTP/3
    branch of `dial` never looks at the proxy. -/
def dialSocket (proxy : Option Proxy) (dialH3 : Bool) (addr : SocketAddr) : Socket :=
  if dialH3 then { transport := .udp, peer := .origin addr }
  else match proxy with
    | some p => { transport := .tcp, peer := .proxy p.addr }
    | none => { transport := .tcp, peer := .origin addr }

/-- With a proxy, the socket goes to it exactly on the HTTP/2 branch. -/
theorem dialSocket_peer_eq_proxy (p : Proxy) (dialH3 : Bool) (addr : SocketAddr) :
    (dialSocket (some p) dialH3 addr).peer = .proxy p.addr ↔ dialH3 = false := by
  cases dialH3 with
  | false => simp only [dialSocket, Bool.false_eq_true, if_false]
  | true => simp only [dialSocket, if_true, reduceCtorEq, Bool.true_eq_false]

end Quik
