import Quik.Tunnel

/-!
# The SOCKS5 Handshake

The handshake of `dial_socks5_proxy` reads a method reply and a connection
reply whose address has one of three forms. It succeeds exactly if the stream
begins with such a pair of replies, both of success, and then it has read these
and no more (`dialSocks5Proxy_exact`). Each read knows its length beforehand,
so that the cuts of the stream do not matter.

The request it writes is another thing. A request is read back here by the
rules the proxy reads it by. The length of the host is cast to a byte, so that
a host of 256 bytes or more is cut short, and the rest of it is taken for the
port and what follows the request. Every host is sent as a domain name, an
IPv6 address in its brackets included (`socks5Request_faithful_iff`).

## Main definitions

* `BoundAddr`, `Socks5Reply`: The replies, as a grammar.
* `TcpStream.Reads`: Some bytes were read, and nothing else happened to them.
* `Socks5Addr`, `decodeSocks5Request`: The request, as the proxy reads it.
* `Socks5Addr.Names`: The address stands for a host.
* `FaithfulDial`: The request asks for what the dial was called with.

## Theorems

* `socks5Handshake_reads`, `socks5Handshake_complete`: The two directions of
    exactness, on the connected stream.
* `dialSocks5Proxy_exact`: The replies that are accepted, and what is read.
* `decodeSocks5Request_request`: What the request is read as.
* `socks5Request_faithful_iff`: The hosts whose request says what it should.
-/

namespace Quik

open Stream' (Seq)

section Exchange

variable {ε σ α β : Type}

theorem bind_eq_match (x : EStateM ε σ α) (f : α → EStateM ε σ β) (s : σ) :
    (x >>= f) s = match x s with
      | .ok a s' => f a s'
      | .error e s' => .error e s' := by
  show EStateM.bind x f s = _
  unfold EStateM.bind
  cases x s <;> rfl

/-- The state a computation ends in, failed or not. -/
def finalState : EStateM.Result ε σ α → σ
  | .ok _ s => s
  | .error _ s => s

/-- Where a computation succeeds, each of its steps does. -/
theorem bind_eq_ok {x : EStateM ε σ α} {f : α → EStateM ε σ β} {s s'' : σ} {b : β} :
    (x >>= f) s = .ok b s'' ↔ ∃ a s', x s = .ok a s' ∧ f a s' = .ok b s'' := by
  show EStateM.bind x f s = _ ↔ _
  unfold EStateM.bind
  cases x s with
  | ok a s' => simp only [EStateM.Result.ok.injEq, existsAndEq, and_true, exists_eq_left']
  | error e s' => simp only [reduceCtorEq, false_and, exists_false]

theorem throw_ne_ok {e : ε} {s s' : σ} {b : β} : (throw e : EStateM ε σ β) s ≠ .ok b s' := by
  intro h
  have herror : EStateM.Result.error e s = EStateM.Result.ok b s' := h
  exact absurd herror (by simp only [reduceCtorEq, not_false_eq_true])

/-- A check that throws lets only those through that pass it. -/
theorem check_eq_ok {c : Prop} [Decidable c] {e : ε} {f : PUnit → EStateM ε σ β}
    {x : EStateM ε σ β} {s s' : σ} {b : β} :
    (if c then (throw e : EStateM ε σ PUnit) >>= f else x) s = .ok b s' ↔
      ¬ c ∧ x s = .ok b s' := by
  by_cases h : c
  · rw [if_pos h, bind_eq_ok]
    exact ⟨fun ⟨_, _, ht, _⟩ => absurd ht throw_ne_ok, fun hc => absurd h hc.1⟩
  · rw [if_neg h]
    exact ⟨fun hx => ⟨h, hx⟩, fun hx => hx.2⟩

end Exchange

/-- The bound address of a reply, by its type. -/
inductive BoundAddr : UInt8 → Bytes → Prop where
  | ipv4 {addr} (h : addr.length = 4) : BoundAddr 0x01 addr
  | domain {len name} (h : name.length = len.toNat) : BoundAddr 0x03 (len :: name)
  | ipv6 {addr} (h : addr.length = 16) : BoundAddr 0x04 addr

/-- A method reply and a connection reply, both of success. -/
inductive Socks5Reply : Bytes → Prop where
  | accepted {rsv addrType addr port} (haddr : BoundAddr addrType addr)
    (hport : port.length = 2) :
    Socks5Reply ([0x05, 0x00] ++ ([0x05, 0x00, rsv, addrType] ++ (addr ++ port)))

/-- Between the two streams the bytes have been read, and they and no more have
    been taken. -/
structure TcpStream.Reads (bytes : Bytes) (stream later : TcpStream) : Prop where
  unread : stream.unread = (Seq.ofList bytes).append later.unread
  consumed : stream.Consumed bytes.length later

namespace TcpStream

theorem Reads.refl (stream : TcpStream) : Reads [] stream stream :=
  ⟨by rw [Seq.ofList_nil, Seq.nil_append], rfl, rfl⟩

theorem Reads.trans {l l' : Bytes} {a b c : TcpStream} (h : Reads l a b) (h' : Reads l' b c) :
    Reads (l ++ l') a c := by
  refine ⟨?_, h'.consumed.1.trans h.consumed.1, ?_⟩
  · rw [h.unread, h'.unread, Seq.ofList_append, Seq.append_assoc]
  · rw [h'.consumed.2, h.consumed.2, List.length_append, Nat.add_assoc]

/-- A read of a known length that succeeds. -/
theorem readExact_reads {n : Nat} {stream later : TcpStream} {l : Bytes}
    (h : readExact n stream = .ok l later) : l.length = n ∧ Reads l stream later := by
  unfold readExact at h
  cases hr : stream.source.readExact "early eof" n with
  | mk r source =>
      cases r with
      | error e => simp only [hr, reduceCtorEq] at h
      | ok bytes =>
          simp only [hr, EStateM.Result.ok.injEq] at h
          rcases Source.readExact_eq_ok hr with ⟨hlen, hunread, hsent, hpos⟩
          rw [← h.1, ← h.2]
          exact ⟨hlen, hunread, hsent, by rw [hlen]; exact hpos⟩

/-- It succeeds if the stream goes on for as long. -/
theorem readExact_complete {stream : TcpStream} {l : Bytes} {rest : Seq UInt8}
    (h : stream.unread = (Seq.ofList l).append rest) :
    ∃ later, readExact l.length stream = .ok l later ∧ Reads l stream later ∧
      later.unread = rest ∧ later.writeFailures = stream.writeFailures := by
  rcases Source.readExact_ok "early eof" h with ⟨cuts, hread⟩
  have hok : readExact l.length stream = .ok l { stream with source := { stream.source with
      position := stream.source.position + l.length, cuts := cuts } } := by
    simp only [readExact, hread]
  refine ⟨_, hok, (readExact_reads hok).2, ?_, rfl⟩
  rw [← (Seq.eq_ofList_append_iff.mp h).2]
  exact Seq.dropn_add _ _ _

theorem writeAll_reads {buf : Bytes} {stream later : TcpStream} {u : Unit}
    (h : writeAll buf stream = .ok u later) : Reads [] stream later := by
  unfold writeAll at h
  cases hw : stream.writeFailures.head with
  | some e => simp only [hw, reduceCtorEq] at h
  | none =>
      simp only [hw, EStateM.Result.ok.injEq, true_and] at h
      rw [← h]
      exact ⟨(Reads.refl stream).unread, rfl, rfl⟩

theorem writeAll_complete {stream : TcpStream} (h : stream.writeFailures.get 0 = none)
    (buf : Bytes) : ∃ later, writeAll buf stream = .ok () later ∧ later.unread = stream.unread ∧
      later.writeFailures = stream.writeFailures.tail := by
  have hhead : stream.writeFailures.head = none := h
  refine ⟨{ stream with
    written := stream.written ++ [buf], writeFailures := stream.writeFailures.tail }, ?_, rfl, rfl⟩
  simp only [writeAll, hhead]

end TcpStream

/-- What is drained is an address of the type given. -/
theorem drainAddr_reads {addrType : UInt8} {stream later : TcpStream} {u : Unit}
    (h : drainAddr addrType stream = .ok u later) :
    ∃ addr, BoundAddr addrType addr ∧ stream.Reads addr later := by
  unfold drainAddr at h
  by_cases h1 : addrType = 0x01
  · rw [if_pos h1] at h
    rcases bind_eq_ok.mp h with ⟨addr, mid, hread, hpure⟩
    rcases TcpStream.readExact_reads hread with ⟨hlen, hreads⟩
    rw [← (EStateM.Result.ok.inj hpure).2, h1]
    exact ⟨addr, BoundAddr.ipv4 hlen, hreads⟩
  · rw [if_neg h1] at h
    by_cases h3 : addrType = 0x03
    · rw [if_pos h3] at h
      rcases bind_eq_ok.mp h with ⟨len, mid, hread, hrest⟩
      rcases bind_eq_ok.mp hrest with ⟨name, last, hread', hpure⟩
      rcases TcpStream.readExact_reads hread with ⟨hlen, hreads⟩
      rcases TcpStream.readExact_reads hread' with ⟨hlen', hreads'⟩
      rcases List.length_eq_one_iff.mp hlen with ⟨b, rfl⟩
      rw [← (EStateM.Result.ok.inj hpure).2, h3]
      exact ⟨b :: name, BoundAddr.domain hlen', hreads.trans hreads'⟩
    · rw [if_neg h3] at h
      by_cases h4 : addrType = 0x04
      · rw [if_pos h4] at h
        rcases bind_eq_ok.mp h with ⟨addr, mid, hread, hpure⟩
        rcases TcpStream.readExact_reads hread with ⟨hlen, hreads⟩
        rw [← (EStateM.Result.ok.inj hpure).2, h4]
        exact ⟨addr, BoundAddr.ipv6 hlen, hreads⟩
      · rw [if_neg h4] at h
        exact absurd h throw_ne_ok

/-- An address of the type given is drained. -/
theorem drainAddr_complete {addrType : UInt8} {addr : Bytes} (haddr : BoundAddr addrType addr)
    {stream : TcpStream} {rest : Seq UInt8}
    (h : stream.unread = (Seq.ofList addr).append rest) :
    ∃ later, drainAddr addrType stream = .ok () later ∧ stream.Reads addr later ∧
      later.unread = rest := by
  unfold drainAddr
  cases haddr with
  | ipv4 hlen =>
      rcases TcpStream.readExact_complete h with ⟨later, hread, hreads, hunread, _⟩
      rw [hlen] at hread
      exact ⟨later, bind_eq_ok.mpr ⟨_, _, hread, rfl⟩, hreads, hunread⟩
  | domain hlen =>
      rename_i len name
      rw [← List.singleton_append, Seq.ofList_append, Seq.append_assoc] at h
      rcases TcpStream.readExact_complete h with ⟨mid, hread, hreads, hunread, _⟩
      rcases TcpStream.readExact_complete hunread with ⟨later, hread', hreads', hunread', _⟩
      rw [hlen] at hread'
      exact ⟨later, bind_eq_ok.mpr ⟨_, _, hread, bind_eq_ok.mpr ⟨_, _, hread', rfl⟩⟩,
        hreads.trans hreads', hunread'⟩
  | ipv6 hlen =>
      rcases TcpStream.readExact_complete h with ⟨later, hread, hreads, hunread, _⟩
      rw [hlen] at hread
      exact ⟨later, bind_eq_ok.mpr ⟨_, _, hread, rfl⟩, hreads, hunread⟩

/-- A handshake that succeeds has read a reply, and no more. -/
theorem socks5Handshake_reads {targetHost : String} {targetPort : UInt16}
    {stream later : TcpStream} {u : Unit}
    (h : socks5Handshake targetHost targetPort stream = .ok u later) :
    ∃ reply, Socks5Reply reply ∧ stream.Reads reply later := by
  unfold socks5Handshake drainReply at h
  -- A success is a success of every read and write, and passes both checks.
  simp only [bind_eq_ok, check_eq_ok] at h
  rcases h with ⟨_, s₁, hgreet, response, s₂, hresponse, hmethod, _, s₃, hrequest, header, s₄,
    hheader, hstatus, _, s₅, hdrain, port, s₆, hport, hpure⟩
  rcases TcpStream.readExact_reads hresponse with ⟨hlen₂, hreads₂⟩
  rcases TcpStream.readExact_reads hheader with ⟨hlen₄, hreads₄⟩
  rcases drainAddr_reads hdrain with ⟨addr, haddr, hreads₅⟩
  rcases TcpStream.readExact_reads hport with ⟨hlen₆, hreads₆⟩
  rcases List.length_eq_two.mp hlen₂ with ⟨a, b, rfl⟩
  rcases List.length_eq_four.mp hlen₄ with ⟨c, d, rsv, addrType, rfl⟩
  simp only [List.getD_cons_zero, List.getD_cons_succ, ne_eq, not_or, not_not]
    at hmethod hstatus haddr
  -- What the checks leave open is the reserved byte and the address type.
  rw [hmethod.1, hmethod.2] at hreads₂
  rw [hstatus.1, hstatus.2] at hreads₄
  rw [← (EStateM.Result.ok.inj hpure).2]
  exact ⟨_, Socks5Reply.accepted haddr hlen₆, (TcpStream.writeAll_reads hgreet).trans
    (hreads₂.trans ((TcpStream.writeAll_reads hrequest).trans
      (hreads₄.trans (hreads₅.trans hreads₆))))⟩

/-- A reply of success is accepted, and read to its end. -/
theorem socks5Handshake_complete {reply : Bytes} (hreply : Socks5Reply reply)
    {stream : TcpStream} {rest : Seq UInt8}
    (h : stream.unread = (Seq.ofList reply).append rest)
    (hfirst : stream.writeFailures.get 0 = none) (hsecond : stream.writeFailures.get 1 = none)
    (targetHost : String) (targetPort : UInt16) :
    ∃ later, socks5Handshake targetHost targetPort stream = .ok () later ∧
      stream.Reads reply later ∧ later.unread = rest := by
  rcases hreply with ⟨haddr, hport⟩
  rename_i rsv addrType addr port
  rcases TcpStream.writeAll_complete hfirst socks5Greeting with ⟨s₁, hgreet, hunread₁, hfail₁⟩
  rw [Seq.ofList_append, Seq.append_assoc, ← hunread₁] at h
  rcases TcpStream.readExact_complete h with ⟨s₂, hresponse, hreads₂, hunread₂, hfail₂⟩
  have hsecond' : s₂.writeFailures.get 0 = none := by
    rw [hfail₂, hfail₁]
    exact hsecond
  rcases TcpStream.writeAll_complete hsecond' (socks5Request targetHost targetPort) with
    ⟨s₃, hrequest, hunread₃, _⟩
  rw [Seq.ofList_append, Seq.append_assoc, ← hunread₃] at hunread₂
  rcases TcpStream.readExact_complete hunread₂ with ⟨s₄, hheader, hreads₄, hunread₄, _⟩
  rw [Seq.ofList_append, Seq.append_assoc] at hunread₄
  rcases drainAddr_complete haddr hunread₄ with ⟨s₅, hdrain, hreads₅, hunread₅⟩
  rcases TcpStream.readExact_complete hunread₅ with ⟨s₆, hlast, hreads₆, hunread₆, _⟩
  rw [hport] at hlast
  refine ⟨s₆, ?_, (TcpStream.writeAll_reads hgreet).trans (hreads₂.trans
    ((TcpStream.writeAll_reads hrequest).trans (hreads₄.trans (hreads₅.trans hreads₆)))),
    hunread₆⟩
  unfold socks5Handshake drainReply
  simp only [bind_eq_ok, check_eq_ok]
  -- Both checks look at the first two bytes of what was read.
  have hpass : ∀ {x y : UInt8} {l : Bytes}, x = 0x05 → y = 0x00 →
      ¬ ((x :: y :: l).getD 0 0 ≠ 0x05 ∨ (x :: y :: l).getD 1 0 ≠ 0x00) :=
    fun hx hy hne => hne.elim (fun h => h hx) (fun h => h hy)
  exact ⟨(), s₁, hgreet, _, s₂, hresponse, hpass rfl rfl, (), s₃, hrequest, _, s₄, hheader,
    hpass rfl rfl, (), s₅, hdrain, _, s₆, hlast, rfl⟩

/-- The SOCKS5 handshake accepts the streams that begin with a reply of success
    and takes that reply from them, to the byte. On every other stream it
    fails. -/
theorem dialSocks5Proxy_exact {net : Network} {proxyAddr : String} {stream : TcpStream}
    (hconn : net.connect (.proxy proxyAddr) = .ok stream)
    (hfirst : stream.writeFailures.get 0 = none) (hsecond : stream.writeFailures.get 1 = none)
    (targetHost : String) (targetPort : UInt16) :
    (∀ reply rest, Socks5Reply reply → stream.unread = (Seq.ofList reply).append rest →
      ∃ later, dialSocks5Proxy net proxyAddr targetHost targetPort = .ok later ∧
        stream.Consumed reply.length later ∧ later.unread = rest) ∧
    ((¬ ∃ reply rest, Socks5Reply reply ∧ stream.unread = (Seq.ofList reply).append rest) →
      ∃ e dropped, dialSocks5Proxy net proxyAddr targetHost targetPort = .error e dropped) := by
  unfold dialSocks5Proxy Network.dialWith
  simp only [hconn]
  constructor
  · intro reply rest hreply hunread
    rcases socks5Handshake_complete hreply hunread hfirst hsecond targetHost targetPort with
      ⟨later, hok, hreads, hrest⟩
    exact ⟨later, by simp only [hok], hreads.consumed, hrest⟩
  · intro hno
    cases hrun : socks5Handshake targetHost targetPort stream with
    | error e dropped => exact ⟨e, some dropped, rfl⟩
    | ok u later =>
        rcases socks5Handshake_reads hrun with ⟨reply, hreply, hreads⟩
        exact absurd ⟨reply, later.unread, hreply, hreads.unread⟩ hno

/-- A proxy that accepts everything, with one byte of the tunnel behind. -/
def openProxy : TcpStream where
  source :=
    { sent := Seq.ofList ([0x05, 0x00] ++ ([0x05, 0x00, 0x00, 0x01] ++ ([127, 0, 0, 1] ++ [4, 56]))
        ++ [22])
      cuts := Stream'.const 2 }
  writeFailures := Stream'.const none

theorem openProxy_fresh : openProxy.written = [] := rfl

theorem openProxy_reply :
    Socks5Reply ([0x05, 0x00] ++ ([0x05, 0x00, 0x00, 0x01] ++ ([127, 0, 0, 1] ++ [4, 56]))) :=
  Socks5Reply.accepted (BoundAddr.ipv4 rfl) rfl

theorem openProxy_unread : openProxy.unread = (Seq.ofList ([0x05, 0x00] ++
    ([0x05, 0x00, 0x00, 0x01] ++ ([127, 0, 0, 1] ++ [4, 56])))).append (Seq.ofList [22]) :=
  Seq.ofList_append _ _

/-- A proxy that takes the greeting and refuses the connection. -/
def refusingProxy : TcpStream where
  source :=
    { sent := Seq.ofList [0x05, 0x00, 0x05, 0x05, 0x00, 0x01, 0, 0, 0, 0, 0, 0]
      cuts := Stream'.const 2 }
  writeFailures := Stream'.const none

theorem refusingProxy_fresh : refusingProxy.written = [] := rfl

theorem refusingProxy_unread : ¬ ∃ reply rest, Socks5Reply reply ∧
    refusingProxy.unread = (Seq.ofList reply).append rest := by
  rintro ⟨_, rest, ⟨haddr, hport⟩, hunread⟩
  have htake := (Seq.eq_ofList_append_iff.mp hunread).1
  rw [show refusingProxy.unread =
    Seq.ofList [0x05, 0x00, 0x05, 0x05, 0x00, 0x01, 0, 0, 0, 0, 0, 0] from rfl] at htake
  -- The fourth byte is the status.
  simp only [List.cons_append, List.nil_append, List.length_cons, Seq.ofList_cons,
    Seq.take_succ_cons, List.cons.injEq, true_and] at htake
  exact absurd htake.1 (by decide)

theorem dialSocks5Proxy_exact_open :
    (∃ later, dialSocks5Proxy (Network.only openProxy openProxy_fresh) "127.0.0.1:1080" "a.test"
        443 = .ok later ∧ openProxy.Consumed 12 later ∧ later.unread = Seq.ofList [22]) ∧
      ∃ e dropped, dialSocks5Proxy (Network.only refusingProxy refusingProxy_fresh)
        "127.0.0.1:1080" "a.test" 443 = .error e dropped := by
  have hopen : (Network.only openProxy openProxy_fresh).connect (.proxy "127.0.0.1:1080") =
      .ok openProxy := rfl
  have hrefusing : (Network.only refusingProxy refusingProxy_fresh).connect
      (.proxy "127.0.0.1:1080") = .ok refusingProxy := rfl
  exact ⟨(dialSocks5Proxy_exact hopen rfl rfl "a.test" 443).1 _ _ openProxy_reply openProxy_unread,
    (dialSocks5Proxy_exact hrefusing rfl rfl "a.test" 443).2 refusingProxy_unread⟩

/-- An address in a request, as the proxy takes it. -/
inductive Socks5Addr where
  | ipv4 (addr : BitVec 32)
  | domain (name : Bytes)
  | ipv6 (addr : BitVec 128)
deriving DecidableEq

/-- The address stands for the host. A name stands for the host it spells,
    unless that is an IPv6 address, which has a form of its own. -/
def Socks5Addr.Names : Socks5Addr → String → Prop
  | .ipv4 addr, host => host = (Host.ipv4 addr).text
  | .domain name, host => name = utf8 host ∧ ∀ addr, host ≠ (Host.ipv6 addr).text
  | .ipv6 addr, host => host = (Host.ipv6 addr).text

/-- A number from its bytes, most significant first. -/
def bitsOfBytes (w : Nat) (bs : Bytes) : BitVec w :=
  BitVec.ofNat w (bs.foldl (fun n b => 256 * n + b.toNat) 0)

/-- The address of a request, by its type. -/
def decodeSocks5Addr : Bytes → Option (Socks5Addr × Bytes)
  | 0x01 :: rest =>
    if 4 ≤ rest.length then some (.ipv4 (bitsOfBytes 32 (rest.take 4)), rest.drop 4) else none
  | 0x03 :: rest => (counted.decode rest).map (fun r => (.domain r.1.1, r.2))
  | 0x04 :: rest =>
    if 16 ≤ rest.length then some (.ipv6 (bitsOfBytes 128 (rest.take 16)), rest.drop 16) else none
  | _ => none

/-- A CONNECT request of the protocol, all of it. -/
def decodeSocks5Request : Bytes → Option (Socks5Addr × UInt16)
  | 0x05 :: 0x01 :: 0x00 :: rest =>
    match decodeSocks5Addr rest with
    | none => none
    | some (addr, rest) =>
      match be16.decode rest with
      | some (port, []) => some (addr, port)
      | _ => none
  | _ => none

/-- A dial whose request, if it got that far, asks for the host and the port it
    was called with. -/
def FaithfulDial (host : String) (port : UInt16) (outcome : TcpDial) : Prop :=
  (∃ e dropped, outcome = .error e dropped ∧ outcome.written.length ≤ 1) ∨
  (∃ request addr, outcome.written = [socks5Greeting, request] ∧
    decodeSocks5Request request = some (addr, port) ∧ addr.Names host)

/-- What the proxy makes of the request: the name in full if its length fits a
    byte, and nothing otherwise. -/
theorem decodeSocks5Request_request (host : String) (port : UInt16) :
    decodeSocks5Request (socks5Request host port) =
      if (utf8 host).length ≤ 255 then some (.domain (utf8 host), port) else none := by
  have hshape : socks5Request host port = 0x05 :: 0x01 :: 0x00 :: 0x03 ::
      (UInt8.ofNat (utf8 host).length :: (utf8 host ++ be16.encode port)) := rfl
  rw [hshape, decodeSocks5Request, decodeSocks5Addr]
  by_cases hlen : (utf8 host).length ≤ 255
  · have hname := counted.decode_encode ⟨utf8 host, hlen⟩ (be16.encode port)
    have hport := be16.decode_encode port []
    rw [List.append_nil] at hport
    rw [show UInt8.ofNat (utf8 host).length :: (utf8 host ++ be16.encode port) =
      counted.encode ⟨utf8 host, hlen⟩ ++ be16.encode port from rfl, hname, if_pos hlen]
    simp only [Option.map_some, hport]
  · -- The name ends 256 bytes early or more, and they are too many for a port.
    rw [if_neg hlen]
    obtain ⟨len, hlenb⟩ : ∃ len, len = UInt8.ofNat (utf8 host).length := ⟨_, rfl⟩
    have hmod : len.toNat = (utf8 host).length % 256 := by rw [hlenb, UInt8.toNat_ofNat']
    have hrest : (utf8 host ++ be16.encode port).length = (utf8 host).length + 2 :=
      List.length_append
    have hname : (counted.decode (len :: (utf8 host ++ be16.encode port))).map Prod.snd =
        some ((utf8 host ++ be16.encode port).drop len.toNat) := by
      simp only [counted]
      rw [if_pos (by omega), Option.map_some]
    have hover : 2 < ((utf8 host ++ be16.encode port).drop len.toNat).length := by
      rw [List.length_drop]
      omega
    rw [← hlenb]
    cases hdec : counted.decode (len :: (utf8 host ++ be16.encode port)) with
    | none => rfl
    | some r =>
        rw [hdec, Option.map_some, Option.some.injEq] at hname
        rw [← hname] at hover
        simp only [Option.map_some]
        cases hport : be16.decode r.2 with
        | none => rfl
        | some q =>
            have hlong := be16_decode_length hport
            cases hq : q.2 with
            | nil =>
                rw [hq, List.length_nil] at hlong
                omega
            | cons c l => rw [show q = (q.1, q.2) from rfl, hq]

/-- A computation that hands nothing to `write_all`. -/
def Silent {α : Type} (x : EStateM Error TcpStream α) : Prop :=
  ∀ stream, (finalState (x stream)).written = stream.written

theorem Silent.bind {α β : Type} {x : EStateM Error TcpStream α}
    {f : α → EStateM Error TcpStream β} (hx : Silent x) (hf : ∀ a, Silent (f a)) :
    Silent (x >>= f) := by
  intro stream
  have hstep := hx stream
  rw [bind_eq_match]
  cases hrun : x stream with
  | error e mid =>
      rw [hrun] at hstep
      exact hstep
  | ok a mid =>
      rw [hrun] at hstep
      exact (hf a mid).trans hstep

theorem silent_pure {α : Type} (a : α) : Silent (pure a) :=
  fun _ => rfl

theorem silent_throw {α : Type} (e : Error) : Silent (throw e : EStateM Error TcpStream α) :=
  fun _ => rfl

theorem silent_readExact (n : Nat) : Silent (TcpStream.readExact n) := by
  intro stream
  unfold TcpStream.readExact
  cases stream.source.readExact "early eof" n with
  | mk r source => cases r <;> rfl

theorem silent_drainAddr (addrType : UInt8) : Silent (drainAddr addrType) := by
  unfold drainAddr
  split
  · exact (silent_readExact 4).bind (fun _ => silent_pure _)
  · split
    · exact (silent_readExact 1).bind
        (fun _ => (silent_readExact _).bind (fun _ => silent_pure _))
    · split
      · exact (silent_readExact 16).bind (fun _ => silent_pure _)
      · exact silent_throw _

theorem silent_drainReply : Silent drainReply := by
  unfold drainReply
  refine (silent_readExact 4).bind (fun header => ?_)
  have hrest : Silent (drainAddr (header.getD 3 0) >>= fun _ =>
      TcpStream.readExact 2 >>= fun _ => pure ()) :=
    (silent_drainAddr _).bind (fun _ => (silent_readExact 2).bind (fun _ => silent_pure ()))
  split
  · exact (silent_throw _).bind (fun _ => hrest)
  · exact hrest

theorem finalState_writeAll (buf : Bytes) (stream : TcpStream) :
    (finalState (TcpStream.writeAll buf stream)).written = stream.written ++ [buf] := by
  unfold TcpStream.writeAll
  cases stream.writeFailures.head <;> rfl

/-- A handshake fails before the request, or hands it over. -/
theorem socks5Handshake_written {stream : TcpStream} (hfresh : stream.written = [])
    (host : String) (port : UInt16) :
    (∃ e dropped, socks5Handshake host port stream = .error e dropped ∧
      dropped.written.length ≤ 1) ∨
    (finalState (socks5Handshake host port stream)).written =
      [socks5Greeting, socks5Request host port] := by
  have hgreet := finalState_writeAll socks5Greeting stream
  rw [hfresh, List.nil_append] at hgreet
  unfold socks5Handshake
  rw [bind_eq_match]
  cases h₁ : TcpStream.writeAll socks5Greeting stream with
  | error e s₁ =>
      rw [h₁] at hgreet
      exact Or.inl ⟨e, s₁, rfl, (congrArg List.length hgreet).le⟩
  | ok u s₁ =>
      rw [h₁] at hgreet
      have hmethod := (silent_readExact 2 s₁).trans hgreet
      simp only [bind_eq_match]
      cases h₂ : TcpStream.readExact 2 s₁ with
      | error e s₂ =>
          rw [h₂] at hmethod
          exact Or.inl ⟨e, s₂, rfl, (congrArg List.length hmethod).le⟩
      | ok response s₂ =>
          rw [h₂] at hmethod
          simp only
          split
          · exact Or.inl ⟨_, s₂, rfl, (congrArg List.length hmethod).le⟩
          · -- From here on the request is out, whatever becomes of it.
            have hrequest := finalState_writeAll (socks5Request host port) s₂
            rw [show s₂.written = [socks5Greeting] from hmethod] at hrequest
            refine Or.inr ?_
            rw [bind_eq_match]
            cases h₃ : TcpStream.writeAll (socks5Request host port) s₂ with
            | error e s₃ =>
                rw [h₃] at hrequest
                exact hrequest
            | ok u s₃ =>
                rw [h₃] at hrequest
                exact (silent_drainReply s₃).trans hrequest

/-- The states a dial of a SOCKS5 proxy can leave: it failed before the
    request, or the request was handed over. -/
theorem dialSocks5Proxy_written (net : Network) (proxyAddr host : String) (port : UInt16) :
    (∃ e dropped, dialSocks5Proxy net proxyAddr host port = .error e dropped ∧
      (dialSocks5Proxy net proxyAddr host port).written.length ≤ 1) ∨
    (dialSocks5Proxy net proxyAddr host port).written =
      [socks5Greeting, socks5Request host port] := by
  unfold dialSocks5Proxy Network.dialWith
  cases hconn : net.connect (.proxy proxyAddr) with
  | error e => exact Or.inl ⟨.connect e, none, rfl, Nat.zero_le 1⟩
  | ok stream =>
      rcases socks5Handshake_written (net.fresh hconn) host port with
        ⟨e, dropped, hrun, hlen⟩ | hwritten
      · refine Or.inl ⟨e, some dropped, ?_⟩
        simp only [hrun]
        exact ⟨trivial, hlen⟩
      · refine Or.inr ?_
        cases hrun : socks5Handshake host port stream with
        | ok u later =>
            rw [hrun] at hwritten
            simp only [hrun]
            exact hwritten
        | error e dropped =>
            rw [hrun] at hwritten
            simp only [hrun]
            exact hwritten

/-- A faithful dial of a proxy that accepts everything has a host that fits
    behind a length byte and is not an IPv6 address. -/
theorem faithful_openProxy {proxyAddr host : String} {port : UInt16}
    (h : FaithfulDial host port
      (dialSocks5Proxy (Network.only openProxy openProxy_fresh) proxyAddr host port)) :
    (utf8 host).length ≤ 255 ∧ ∀ addr, host ≠ (Host.ipv6 addr).text := by
  have hno : ∀ e dropped, dialSocks5Proxy (Network.only openProxy openProxy_fresh) proxyAddr host
      port ≠ .error e dropped := by
    rcases socks5Handshake_complete openProxy_reply openProxy_unread rfl rfl host port with
      ⟨later, hok, _⟩
    simp only [dialSocks5Proxy, Network.dialWith, Network.only, hok, ne_eq, reduceCtorEq,
      not_false_eq_true, implies_true]
  rcases h with ⟨e, dropped, herr, _⟩ | ⟨request, addr, hwritten, hdec, hnames⟩
  · exact absurd herr (hno e dropped)
  · rcases dialSocks5Proxy_written (Network.only openProxy openProxy_fresh) proxyAddr host port with
      ⟨e, dropped, herr, _⟩ | hwritten'
    · exact absurd herr (hno e dropped)
    · rw [hwritten'] at hwritten
      simp only [List.cons.injEq, and_true, true_and] at hwritten
      rw [← hwritten, decodeSocks5Request_request] at hdec
      by_cases hlen : (utf8 host).length ≤ 255
      · rw [if_pos hlen, Option.some.injEq, Prod.mk.injEq] at hdec
        rw [← hdec.1] at hnames
        exact ⟨hlen, hnames.2⟩
      · rw [if_neg hlen] at hdec
        exact absurd hdec (by simp only [reduceCtorEq, not_false_eq_true])

/-- The request of a dial says what it should exactly for the hosts that fit
    behind a length byte and are not IPv6 addresses. -/
theorem socks5Request_faithful_iff (host : String) (port : UInt16) :
    (∀ net proxyAddr outcome, (outcome = dialSocks5Proxy net proxyAddr host port ∨
      ∃ turns addr, dialTransport turns net host port addr (some (.socks5 proxyAddr)) =
        some outcome) → FaithfulDial host port outcome) ↔
    (utf8 host).length ≤ 255 ∧ ∀ addr, host ≠ (Host.ipv6 addr).text := by
  constructor
  -- One proxy is enough for the condition: the one that accepts everything.
  · exact fun h => faithful_openProxy (h _ "" _ (Or.inl rfl))
  · rintro ⟨hlen, hname⟩ net proxyAddr outcome hout
    have houtcome : outcome = dialSocks5Proxy net proxyAddr host port := by
      rcases hout with h | ⟨turns, addr, h⟩
      · exact h
      · exact (Option.some.inj h).symm
    rw [houtcome]
    rcases dialSocks5Proxy_written net proxyAddr host port with herr | hwritten
    · exact Or.inl herr
    · refine Or.inr ⟨_, .domain (utf8 host), hwritten, ?_, rfl, hname⟩
      rw [decodeSocks5Request_request, if_pos hlen]

/-- The host `::1`, as a URL spells it, is asked for as a name. -/
theorem socks5Request_loopback :
    ¬ FaithfulDial "[::1]" 443
      (dialSocks5Proxy (Network.only openProxy openProxy_fresh) "127.0.0.1:1080" "[::1]" 443) := by
  have htext : "[::1]" = (Host.ipv6 1).text := by decide +kernel
  exact fun h => (faithful_openProxy h).2 1 htext

end Quik
