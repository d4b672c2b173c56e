import Quik.Builtin
import Quik.Identity

/-!
# Building a Client

A client is put together by calls on a builder, in any order and any number.
What is built goes by the last call of each kind (`build_eq`), and the profile
of the client is the one asked for but for one bit, whether the peer is
verified.

That bit is read in two places, once for each transport, and each place writes
it down as a call of its own: `build_connector` on the TLS connector, `dial` on
the QUIC configuration. They do it under the same condition. A client says not
to verify on the one exactly if it does on the other, and exactly if the last
word of its builder was to accept invalid certificates or the profile asked for
has it off; and it changes nothing else that a peer could tell a connection by
(`verification_off_iff`).

Neither place has a call that asks for verification. Whether a peer is verified
is left to what the crate under it does unasked, and that need not be the same
for the two transports. A QUIC crate that does not verify unless it is told to
leaves all HTTP/3 connections of all clients unverified.

## Main definitions

* `ClientCall`, `ClientBuilder.call`: The calls on the builder.
* `ClientBuilder.build`: What they come to.
* `QuicCall`, `configureChromeQuicTransport`, `quicCalls`: The configuration of
  a QUIC connection.
* `tlsVerifies`, `quicVerifies`: What the calls make of the crates' own ways.
* `askedProfile`, `acceptsInvalid`: The last words of a builder.

## Theorems

* `foldl_call`: The last call of each kind.
* `build_eq`: What a sequence of calls builds.
* `setVerifyNone_mem_iff`, `connectCalls_verify`: The bit in the calls on the
  connector.
* `tlsVerifies_iff`, `quicVerifies_iff`: When a peer is verified.
* `verification_off_iff`: When a client says not to verify.
-/

namespace Quik

variable {Jar : Type}

/-- `ClientBuilder`. -/
structure ClientBuilder (Jar : Type) where
  profile : Option FullProfile := none
  proxy : Option Proxy := none
  cookieStore : Option Jar := none
  dangerAcceptInvalidCerts : Bool := false

/-- A call on the builder. -/
inductive ClientCall (Jar : Type) where
  | dangerAcceptInvalidCerts (accept : Bool)
  | profile (profile : FullProfile)
  | proxy (proxy : Proxy)
  | cookieStore (store : Jar)

/-- The parts of a new `Client` that are not empty. -/
structure BuiltClient (Jar : Type) where
  profile : FullProfile
  proxy : Option Proxy
  cookieStore : Jar

namespace ClientBuilder

def call (b : ClientBuilder Jar) : ClientCall Jar → ClientBuilder Jar
  | .dangerAcceptInvalidCerts accept => { b with dangerAcceptInvalidCerts := accept }
  | .profile profile => { b with profile := some profile }
  | .proxy proxy => { b with proxy := some proxy }
  | .cookieStore store => { b with cookieStore := some store }

/-- `build`, on a host and with what the default profile draws; `empty` is
    `CookieStore::default()`. -/
def build (host : HostOs) (draw : Draw) (empty : Jar) (b : ClientBuilder Jar) : BuiltClient Jar :=
  let profile := b.profile.getD (Chrome148.profileAuto draw host)
  { profile :=
      if b.dangerAcceptInvalidCerts then
        { profile with tls := { profile.tls with verifyPeer := false } }
      else profile
    proxy := b.proxy
    cookieStore := b.cookieStore.getD empty }

end ClientBuilder

/-- A call on a `quiche::Config`. -/
inductive QuicCall where
  | setApplicationProtos (protos : List Bytes)
  | setMaxIdleTimeout (millis : Nat)
  | setMaxRecvUdpPayloadSize (size : Nat)
  | setMaxSendUdpPayloadSize (size : Nat)
  | setInitialMaxData (size : Nat)
  | setInitialMaxStreamDataBidiLocal (size : Nat)
  | setInitialMaxStreamDataBidiRemote (size : Nat)
  | setInitialMaxStreamDataUni (size : Nat)
  | setInitialMaxStreamsBidi (count : Nat)
  | setInitialMaxStreamsUni (count : Nat)
  | setDisableActiveMigration (disable : Bool)
  | enableDgram (enabled : Bool) (recvQueue sendQueue : Nat)
  | discoverPmtu (discover : Bool)
  | verifyPeer (verify : Bool)
deriving DecidableEq, Repr

/-- `configure_chrome_quic_transport` -/
def configureChromeQuicTransport : List QuicCall :=
  [ .setApplicationProtos [utf8 "h3", utf8 "h3-29"],
    .setMaxIdleTimeout 30000,
    .setMaxRecvUdpPayloadSize 1472,
    .setMaxSendUdpPayloadSize 1472,
    .setInitialMaxData 15728640,
    .setInitialMaxStreamDataBidiLocal 6291456,
    .setInitialMaxStreamDataBidiRemote 6291456,
    .setInitialMaxStreamDataUni 6291456,
    .setInitialMaxStreamsBidi 100,
    .setInitialMaxStreamsUni 103,
    .setDisableActiveMigration false,
    .enableDgram true 10 10,
    .discoverPmtu true ]

/-- The configuration `dial` makes a QUIC connection with. -/
def quicCalls (tls : TlsProfile) : List QuicCall :=
  configureChromeQuicTransport ++ (if !tls.verifyPeer then [.verifyPeer false] else [])

/-- Whether TLS connections verify the peer after the calls on their builders,
    by what the crate does unasked. -/
def tlsVerifies (unasked : Bool) (calls : List BuilderCall) : Bool :=
  unasked && .setVerifyNone ∉ calls

/-- What a call says about verification. -/
def QuicCall.verify? : QuicCall → Option Bool
  | .verifyPeer verify => some verify
  | _ => none

/-- The same for QUIC connections, where the last word can be either. -/
def quicVerifies (unasked : Bool) (calls : List QuicCall) : Bool :=
  (calls.filterMap QuicCall.verify?).getLast?.getD unasked

section LastWords

variable (calls : List (ClientCall Jar))

/-- The last profile that was asked for, or the default. -/
def askedProfile (host : HostOs) (draw : Draw) : FullProfile :=
  (calls.filterMap (fun c => match c with
    | .profile profile => some profile
    | _ => none)).getLast?.getD (Chrome148.profileAuto draw host)

/-- The last word on invalid certificates. -/
def acceptsInvalid : Bool :=
  (calls.filterMap (fun c => match c with
    | .dangerAcceptInvalidCerts accept => some accept
    | _ => none)).getLast?.getD false

def askedProxy : Option Proxy :=
  (calls.filterMap (fun c => match c with
    | .proxy proxy => some proxy
    | _ => none)).getLast?

def askedStore : Option Jar :=
  (calls.filterMap (fun c => match c with
    | .cookieStore store => some store
    | _ => none)).getLast?

end LastWords

/-- The builder holds the last word of each kind. -/
theorem foldl_call (calls : List (ClientCall Jar)) :
    calls.foldl ClientBuilder.call {} =
      { profile := (calls.filterMap (fun c => match c with
          | .profile profile => some profile
          | _ => none)).getLast?
        proxy := askedProxy calls
        cookieStore := askedStore calls
        dangerAcceptInvalidCerts := acceptsInvalid calls } := by
  induction calls using List.reverseRecOn with
  | nil => rfl
  | append_singleton calls c ih =>
      rw [List.foldl_append, ih]
      cases c <;>
        simp only [List.foldl_cons, List.foldl_nil, ClientBuilder.call, askedProxy, askedStore,
          acceptsInvalid, List.filterMap_append, List.filterMap_cons, List.filterMap_nil,
          List.append_nil, List.getLast?_concat, Option.getD_some]

/-- The profile with the one bit set as given. -/
def FullProfile.verifying (p : FullProfile) (verify : Bool) : FullProfile :=
  { p with tls := { p.tls with verifyPeer := verify } }

/-- What a sequence of calls builds goes by the last call of each kind. -/
theorem build_eq (calls : List (ClientCall Jar)) (host : HostOs) (draw : Draw) (empty : Jar) :
    (calls.foldl ClientBuilder.call {}).build host draw empty =
      { profile := (askedProfile calls host draw).verifying
          ((askedProfile calls host draw).tls.verifyPeer && !acceptsInvalid calls)
        proxy := askedProxy calls
        cookieStore := (askedStore calls).getD empty } := by
  rw [foldl_call, ClientBuilder.build]
  simp only [BuiltClient.mk.injEq, and_true]
  cases acceptsInvalid calls with
  | true =>
      rw [if_pos rfl, Bool.not_true, Bool.and_false]
      rfl
  | false =>
      rw [if_neg Bool.false_ne_true, Bool.not_false, Bool.and_true]
      rfl

/-- The bit in the calls on the TLS connector: it is one call, and the others do
    not depend on it. -/
theorem setVerifyNone_mem_iff (p : TransportProfile) :
    .setVerifyNone ∈ connectCalls p ↔ p.tls.verifyPeer = false := by
  simp

theorem connectCalls_verify (p : FullProfile) (verify : Bool) :
    (connectCalls (p.verifying verify).transport).filter (· ≠ .setVerifyNone) =
      (connectCalls p.transport).filter (· ≠ .setVerifyNone) := by
  have hnone : ∀ b : Bool, (if !b then [BuilderCall.setVerifyNone] else []).filter
      (· ≠ .setVerifyNone) = [] := by decide
  -- The calls in front of that one and those behind it are the same.
  have hsplit : ∀ tls : TlsProfile, (buildConnector tls).filter (· ≠ .setVerifyNone) =
      (buildConnector { tls with verifyPeer := true }).filter (· ≠ .setVerifyNone) := by
    intro tls
    refine (List.filter_append _ _).trans (.trans ?_ (List.filter_append _ _).symm)
    rw [hnone, hnone]
  simp only [connectCalls, List.filter_append]
  rw [hsplit, hsplit p.transport.tls]
  rfl

/-- And in the calls on the QUIC configuration. -/
theorem verifyPeer_mem_iff (tls : TlsProfile) (verify : Bool) :
    .verifyPeer verify ∈ quicCalls tls ↔ verify = false ∧ tls.verifyPeer = false := by
  have hbase : ∀ b, .verifyPeer b ∉ configureChromeQuicTransport := by
    intro b hmem
    simp only [configureChromeQuicTransport, List.mem_cons, List.not_mem_nil, or_false,
      reduceCtorEq] at hmem
  rw [quicCalls, List.mem_append, or_iff_right (hbase verify), List.mem_ite_nil_right,
    List.mem_singleton, QuicCall.verifyPeer.injEq, Bool.not_eq_true', and_comm]

theorem quicCalls_filter (tls : TlsProfile) :
    (quicCalls tls).filter (· ≠ .verifyPeer false) = configureChromeQuicTransport := by
  cases hverify : tls.verifyPeer <;> simp only [quicCalls, hverify] <;> decide +kernel

/-- The TLS crate is told not to verify, or left to itself. -/
theorem tlsVerifies_iff (unasked : Bool) (p : TransportProfile) :
    tlsVerifies unasked (connectCalls p) = true ↔ unasked = true ∧ p.tls.verifyPeer = true := by
  rw [tlsVerifies, Bool.and_eq_true, decide_eq_true_eq, setVerifyNone_mem_iff, Bool.not_eq_false]

/-- And so is the QUIC crate. -/
theorem quicVerifies_iff (unasked : Bool) (tls : TlsProfile) :
    quicVerifies unasked (quicCalls tls) = true ↔ unasked = true ∧ tls.verifyPeer = true := by
  cases hverify : tls.verifyPeer <;> cases unasked <;>
    simp only [quicCalls, hverify] <;> decide +kernel

/-- Whatever the calls on its builder, a client tells the TLS crate not to verify
    exactly if it tells the QUIC crate, and exactly if the last word was to accept
    invalid certificates or the profile asked for has verification off. It never asks
    for verification: peers are verified where it does not say so and the crate does
    it unasked, and where the crate does not, never. Its connections and its requests
    are made as those of the profile asked for in everything else, through the last
    proxy and with the last store. -/
theorem verification_off_iff (calls : List (ClientCall Jar)) (host : HostOs) (draw : Draw)
    (empty : Jar) :
    let asked := askedProfile calls host draw
    let off := acceptsInvalid calls = true ∨ asked.tls.verifyPeer = false
    let built := (calls.foldl ClientBuilder.call {}).build host draw empty
    (.setVerifyNone ∈ connectCalls built.profile.transport ↔ off) ∧
    (∀ verify, .verifyPeer verify ∈ quicCalls built.profile.tls ↔ verify = false ∧ off) ∧
    (∀ unasked, tlsVerifies unasked (connectCalls built.profile.transport) = true ↔
      unasked = true ∧ ¬ off) ∧
    (∀ unasked, quicVerifies unasked (quicCalls built.profile.tls) = true ↔
      unasked = true ∧ ¬ off) ∧
    (connectCalls built.profile.transport).filter (· ≠ .setVerifyNone) =
      (connectCalls asked.transport).filter (· ≠ .setVerifyNone) ∧
    (quicCalls built.profile.tls).filter (· ≠ .verifyPeer false) =
      configureChromeQuicTransport ∧
    built.profile.chrome = asked.chrome ∧ built.proxy = askedProxy calls ∧
    built.cookieStore = (askedStore calls).getD empty := by
  intro asked off built
  have hbuilt : built = _ := build_eq calls host draw empty
  -- The one bit decides both lists of calls.
  have hoff : built.profile.tls.verifyPeer = false ↔ off := by
    rw [hbuilt]
    dsimp only [FullProfile.verifying]
    rw [Bool.and_eq_false_iff, Bool.not_eq_false', or_comm]
  have hon : built.profile.tls.verifyPeer = true ↔ ¬ off := by
    rw [← hoff, Bool.not_eq_false]
  refine ⟨(setVerifyNone_mem_iff _).trans hoff, fun verify => ?_, fun unasked => ?_,
    fun unasked => ?_, ?_, quicCalls_filter _, ?_, ?_, ?_⟩
  · rw [verifyPeer_mem_iff, hoff]
  · rw [← hon]
    exact tlsVerifies_iff unasked _
  · rw [← hon]
    exact quicVerifies_iff unasked _
  · rw [hbuilt]
    exact connectCalls_verify _ _
  · rw [hbuilt]
    rfl
  · rw [hbuilt]
  · rw [hbuilt]

end Quik
