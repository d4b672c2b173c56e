import Quik.Driver

/-!
# The Path of an HTTP/3 Connection

The local address of a QUIC connection is written down twice. `dial` creates
the connection with the address it asked the system to bind, a wildcard with
port 0. The driver describes each datagram with the address the system gave
the socket. A QUIC client keeps to the paths it knows and drops a packet from
any other without an error, so the two have to be the same.

They never are: a bound socket has a port, and the wildcard has none
(`recvInfo_ne_path`). Every datagram is then dropped, the handshake never gets
past its first flight, and every command is answered with the error for a
connection that is not yet established (`dialed_off_path`).

## Main definitions

* `SocketAddr.Concrete`: What the system reports for a connected socket.
* `OnPath`: A datagram described by the addresses the connection was made with.
* `DropsUnknownPaths`: What a QUIC client does with any other.

## Theorems

* `recvInfo_ne_path`: The two local addresses differ.
* `dialed_off_path`: No datagram of a dialed connection is on its path.
-/

namespace Quik

open Transition

/-- An address a socket can really have: not a wildcard, and with a port. -/
structure SocketAddr.Concrete (addr : SocketAddr) : Prop where
  ip : addr.ip.isUnspecified = false
  port : addr.port ≠ 0

namespace Driver

/-- The pair passed to `conn.recv` is the pair the connection was created
    with. -/
def OnPath (d : Driver) (dg : Datagram) : Prop :=
  ((recvInfo d dg).destination, (recvInfo d dg).source) = d.path

/-- A datagram on an unknown path leaves the QUIC connection as it was: the
    handshake is no further, and there is nothing new to poll. -/
def DropsUnknownPaths (d : Driver) : Action → Prop
  | .turn (.datagram dg) => ¬ OnPath d dg → dg.established = d.established ∧ dg.polled = []
  | _ => True

/-- The driver `dial` spawned, some turns later. -/
structure Dialed (addr : SocketAddr) (socketAddr : Option SocketAddr) (d : Driver) : Prop where
  path : d.path = (dialLocalAddr addr, addr)
  socketAddr : d.socketAddr = socketAddr

theorem dialed_act {addr : SocketAddr} {socketAddr : Option SocketAddr} {d d' : Driver}
    {a : Action} (hd : Dialed addr socketAddr d) (h : act d a = some d') :
    Dialed addr socketAddr d' :=
  ⟨(act_addresses h).1.trans hd.path, (act_addresses h).2.trans hd.socketAddr⟩

/-- The wildcard that is dialed with has port 0 in both families. -/
theorem dialLocalAddr_port (addr : SocketAddr) : (dialLocalAddr addr).port = 0 := by
  unfold dialLocalAddr
  split <;> rfl

/-- A datagram read from a socket with a port is not on the path. -/
theorem recvInfo_ne_path {addr socketAddr : SocketAddr} (hsock : socketAddr.Concrete)
    {d : Driver} (hd : Dialed addr (some socketAddr) d) (dg : Datagram) : ¬ OnPath d dg := by
  intro hon
  rw [OnPath, hd.path, recvInfo, hd.socketAddr, Option.getD_some, Prod.mk.injEq] at hon
  exact hsock.port ((congrArg SocketAddr.port hon.1).trans (dialLocalAddr_port addr))

/-- The connection has not got anywhere: no handshake, no HTTP/3 layer, and
    nothing but refusals among the answers. -/
structure NeverUp (d : Driver) : Prop where
  established : d.established = false
  h3Conn : d.h3Conn = false
  answers : ∀ a ∈ d.answers, a.2 = .error notEstablished

theorem neverUp_act {addr socketAddr : SocketAddr} (hsock : socketAddr.Concrete) {d d' : Driver}
    {a : Action} (hd : Dialed addr (some socketAddr) d) (hup : NeverUp d)
    (hdrop : DropsUnknownPaths d a) (h : act d a = some d') : NeverUp d' := by
  cases a with
  | send cmd =>
      rw [(act_send_eq_some h).2.2]
      exact ⟨hup.established, hup.h3Conn, hup.answers⟩
  | turn e =>
      cases (step_eq_some h).2 with
      | closed => exact ⟨hup.established, hup.h3Conn, hup.answers⟩
      | socketError | timeout => exact hup
      -- Commands get further only over an HTTP/3 layer, and there is none.
      | rejected _ _ _ hh | opened _ _ _ hh => exact absurd (hh.symm.trans hup.h3Conn) (by decide)
      | @early cmd rest _ _ _ _ =>
          refine ⟨hup.established, hup.h3Conn, fun a ha => ?_⟩
          rcases List.mem_append.mp ha with hold | hnew
          · exact hup.answers a hold
          · rw [List.mem_singleton.mp hnew]
      | datagram dg =>
          -- The packet is off the path, so it is dropped.
          have hest : dg.established = false :=
            (hdrop (recvInfo_ne_path hsock hd dg)).1.trans hup.established
          have hreceive : receive d dg = { d with established := false } := by
            rw [receive, hest, hup.h3Conn, Bool.false_and, if_neg Bool.false_ne_true,
              if_neg Bool.false_ne_true]
          rw [hreceive]
          exact ⟨rfl, hup.h3Conn, hup.answers⟩

/-- In every run of a dialed driver whose socket has a real address, no
    datagram the driver reads is on the connection's path. If the QUIC client
    drops such packets, the connection is never up, and whatever command has
    been answered was refused. -/
theorem dialed_off_path {addr socketAddr : SocketAddr} (hsock : socketAddr.Concrete)
    {as : List Action} {d : Driver} (hrun : run act (dialed addr (some socketAddr)) as = some d) :
    (∀ dg, ¬ OnPath d dg) ∧
      (Every act DropsUnknownPaths (dialed addr (some socketAddr)) as → NeverUp d) := by
  have hd : Dialed addr (some socketAddr) d :=
    run_invariant act (I := Dialed addr (some socketAddr)) (fun _ _ _ => dialed_act)
      ⟨rfl, rfl⟩ hrun
  refine ⟨recvInfo_ne_path hsock hd, fun hdrops => ?_⟩
  have hdialed : Dialed addr (some socketAddr) (dialed addr (some socketAddr)) := ⟨rfl, rfl⟩
  have hup : NeverUp (dialed addr (some socketAddr)) :=
    ⟨rfl, rfl, fun a ha => absurd ha List.not_mem_nil⟩
  -- The addresses stay what they were, and so every packet stays off the path.
  have hrunUp : Dialed addr (some socketAddr) d ∧ NeverUp d :=
    run_invariant_of_every act (I := fun d => Dialed addr (some socketAddr) d ∧ NeverUp d)
      (P := DropsUnknownPaths)
      (fun _ _ _ hI hdrop h => ⟨dialed_act hI.1 h, neverUp_act hsock hI.1 hI.2 hdrop h⟩)
      as _ d ⟨hdialed, hup⟩ hdrops hrun
  exact hrunUp.2

/-- The first packet back from 192.0.2.1:443. -/
def firstAnswer : Datagram :=
  { srcAddr := { ip := .v4 0xC0000201, port := 443 }, established := false }

/-- Dialed from the socket 198.51.100.7:50000, the handshake does not survive
    it. -/
theorem handshake_off_path :
    ∃ d, run act (dialed { ip := .v4 0xC0000201, port := 443 }
        (some { ip := .v4 0xC6336407, port := 50000 })) [.turn (.datagram firstAnswer)] = some d ∧
      (∀ dg, ¬ OnPath d dg) ∧ NeverUp d := by
  have hsock : SocketAddr.Concrete { ip := .v4 0xC6336407, port := 50000 } :=
    ⟨by decide, by decide⟩
  have hrun : run act (dialed { ip := .v4 0xC0000201, port := 443 }
      (some { ip := .v4 0xC6336407, port := 50000 })) [.turn (.datagram firstAnswer)] = some _ :=
    rfl
  have h := dialed_off_path hsock hrun
  exact ⟨_, rfl, h.1, h.2 ⟨fun _ => ⟨rfl, rfl⟩, fun _ _ => trivial⟩⟩

/-- That packet is described with the socket's own address, and the connection
    was made with the wildcard. -/
theorem firstAnswer_off_path :
    ¬ OnPath (dialed { ip := .v4 0xC0000201, port := 443 }
      (some { ip := .v4 0xC6336407, port := 50000 })) firstAnswer := by
  rw [OnPath]
  decide

end Driver

end Quik
