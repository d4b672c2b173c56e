import Mathlib.Data.BitVec

/-!
# URLs and Origins

The part of the `url` crate the client reads: a parsed URL as a record, the
text it serializes to, its origin, and the accessors `host_str`, `domain`,
`port` and `origin().ascii_serialization()`.

Parsing and reference resolution are the crate's own and stay parameters:
`UrlCrate` carries the two functions, and `UrlCrate.RoundTrips` is the
standard's promise that a URL produced by resolution parses back from its own
text. The redirect loop relies on it, since it keeps the next URL as a string
and parses that string again at the top of the next hop.

A `Url` cannot hold the default port of its scheme: the parser drops it, and
`port()` is `none` then. The field `portCanonical` keeps that, and it is what
makes the two ways of filling in a missing port comparable.

Origins of schemes outside the special ones are opaque. The crate makes a
fresh opaque origin on every call, so such an origin equals nothing, not even
itself; `sameOrigin` is the comparison `==` performs. A `blob:` URL whose
origin is that of an inner URL has no host, so no request is ever made to it,
and it is left with an opaque origin here.

## Main definitions

* `Host`, `Host.text`: A host and how it is written.
* `Url`, `Url.asStr`: A parsed URL and its serialization.
* `Url.hostStr`, `Url.domain`: The host accessors.
* `Origin`, `Url.origin`, `sameOrigin`: Origins and their comparison.
* `Origin.asciiSerialization`: The origin as text.
* `UrlCrate`: The parser and the resolver.

## Theorems

* `sameOrigin_iff`: What equal origins have in common.
* `sameOrigin_port`: Equal origins fill in the same port.
-/

namespace Quik

/-- A host as the parser classifies it. A domain is kept in its ASCII form. -/
inductive Host where
  | domain (name : String)
  | ipv4 (addr : BitVec 32)
  | ipv6 (addr : BitVec 128)
deriving DecidableEq, Repr

namespace Host

/-- Dotted decimal. -/
def ipv4Text (addr : BitVec 32) : String :=
  let octet := fun i => toString ((addr.toNat >>> (8 * i)) % 256)
  octet 3 ++ "." ++ octet 2 ++ "." ++ octet 1 ++ "." ++ octet 0

/-- The eight 16-bit segments, most significant first. -/
def ipv6Segments (addr : BitVec 128) : List Nat :=
  (List.range 8).map (fun i => (addr.toNat >>> (16 * (7 - i))) % 65536)

/-- Length of the run of zeros a list of segments starts with. -/
def zeroRun : List Nat → Nat
  | 0 :: rest => zeroRun rest + 1
  | _ => 0

/-- Start and length of the first longest run of zero segments, the run that
    is written as two colons if it has at least two segments. -/
def longestZeroRun : Nat → List Nat → Nat × Nat
  | _, [] => (0, 0)
  | i, seg :: rest =>
    let later := longestZeroRun (i + 1) rest
    if later.2 ≤ zeroRun (seg :: rest) then (i, zeroRun (seg :: rest)) else later

/-- Segments in lower-case hexadecimal, separated by colons. -/
def hexSegments (segs : List Nat) : String :=
  String.intercalate ":" (segs.map (fun n => String.ofList (Nat.toDigits 16 n)))

/-- An IPv6 address with its longest run of zero segments compressed. -/
def ipv6Text (addr : BitVec 128) : String :=
  let segs := ipv6Segments addr
  let gap := longestZeroRun 0 segs
  if gap.2 < 2 then hexSegments segs
  else hexSegments (segs.take gap.1) ++ "::" ++ hexSegments (segs.drop (gap.1 + gap.2))

/-- How a host is written in a URL; an IPv6 address stands in brackets. -/
def text : Host → String
  | .domain name => name
  | .ipv4 addr => ipv4Text addr
  | .ipv6 addr => "[" ++ ipv6Text addr ++ "]"

end Host

/-- The default port of a special scheme. -/
def defaultPort (scheme : String) : Option UInt16 :=
  if scheme = "http" ∨ scheme = "ws" then some 80
  else if scheme = "https" ∨ scheme = "wss" then some 443
  else if scheme = "ftp" then some 21
  else none

/-- A parsed URL. -/
structure Url where
  scheme : String
  username : String := ""
  password : Option String := none
  host : Option Host
  port : Option UInt16 := none
  path : String
  query : Option String := none
  fragment : Option String := none
  portCanonical : port = none ∨ port ≠ defaultPort scheme := by decide
deriving DecidableEq

/-- An origin: a tuple for the special schemes, opaque otherwise. -/
inductive Origin where
  | tuple (scheme : String) (host : Host) (port : UInt16)
  | null
deriving DecidableEq, Repr

/-- `Origin::ascii_serialization`: the port is written unless it is the
    scheme's default. -/
def Origin.asciiSerialization : Origin → String
  | .tuple scheme host port =>
    if defaultPort scheme = some port then scheme ++ "://" ++ host.text
    else scheme ++ "://" ++ host.text ++ ":" ++ toString port.toNat
  | .null => "null"

namespace Url

/-- `host_str()`. -/
def hostStr (u : Url) : Option String :=
  u.host.map Host.text

/-- `domain()`: the host if it is a domain name, `none` for an IP address. -/
def domain (u : Url) : Option String :=
  match u.host with
  | some (.domain name) => some name
  | _ => none

/-- The credentials as they are serialized, with the separating at-sign. -/
def userinfo (u : Url) : String :=
  match u.password with
  | some p => u.username ++ ":" ++ p ++ "@"
  | none => if u.username = "" then "" else u.username ++ "@"

/-- Whether the URL carries credentials. -/
def hasCredentials (u : Url) : Bool :=
  u.username ≠ "" || u.password.isSome

/-- `as_str()` and `to_string()`. -/
def asStr (u : Url) : String :=
  let authority := match u.host with
    | some host => "//" ++ u.userinfo ++ host.text ++
        (match u.port with | some p => ":" ++ toString p.toNat | none => "")
    | none => if u.path.startsWith "//" then "/." else ""
  u.scheme ++ ":" ++ authority ++ u.path ++
    (match u.query with | some q => "?" ++ q | none => "") ++
    (match u.fragment with | some f => "#" ++ f | none => "")

/-- `origin()`: a tuple of scheme, host and effective port for the special
    schemes, opaque for every other scheme. -/
def origin (u : Url) : Origin :=
  match defaultPort u.scheme, u.host with
  | some dflt, some host => .tuple u.scheme host (u.port.getD dflt)
  | _, _ => .null

/-- The URL of a page: a name, a path, and nothing else. -/
def page (scheme name path : String) : Url :=
  { scheme := scheme, host := some (.domain name), path := path, portCanonical := Or.inl rfl }

/-- The port the client connects to: the explicit one, else 80 for `http` and
    443 for every other scheme. -/
def connectPort (u : Url) : UInt16 :=
  u.port.getD (if u.scheme = "http" then 80 else 443)

end Url

/-- `==` on origins: opaque origins are unequal even to themselves. -/
def sameOrigin (u v : Url) : Bool :=
  decide (u.origin ≠ .null ∧ u.origin = v.origin)

theorem origin_eq_tuple {u : Url} {scheme : String} {host : Host} {port : UInt16}
    (h : u.origin = .tuple scheme host port) :
    u.scheme = scheme ∧ u.host = some host ∧
      ∃ dflt, defaultPort u.scheme = some dflt ∧ u.port.getD dflt = port := by
  unfold Url.origin at h
  cases hd : defaultPort u.scheme with
  | none =>
      rw [hd] at h
      exact absurd h (by simp only [reduceCtorEq, not_false_eq_true])
  | some dflt =>
      cases hh : u.host with
      | none =>
          rw [hd, hh] at h
          exact absurd h (by simp only [reduceCtorEq, not_false_eq_true])
      | some host' =>
          rw [hd, hh] at h
          simp only [Origin.tuple.injEq] at h
          exact ⟨h.1, by rw [h.2.1], dflt, rfl, h.2.2⟩

/-- Equal origins share the scheme, the host, and the effective port. -/
theorem sameOrigin_iff {u v : Url} : sameOrigin u v = true ↔
    ∃ dflt host, defaultPort u.scheme = some dflt ∧ u.host = some host ∧
      v.scheme = u.scheme ∧ v.host = some host ∧ v.port.getD dflt = u.port.getD dflt := by
  simp only [sameOrigin, decide_eq_true_eq]
  constructor
  · rintro ⟨hne, heq⟩
    cases hu : u.origin with
    | null => exact absurd hu hne
    | tuple scheme host port =>
        rcases origin_eq_tuple hu with ⟨hs, hh, dflt, hd, hp⟩
        rcases origin_eq_tuple (heq.symm.trans hu) with ⟨hs', hh', dflt', hd', hp'⟩
        refine ⟨dflt, host, hd, hh, by rw [hs', hs], hh', ?_⟩
        rw [hs', ← hs, hd, Option.some.injEq] at hd'
        rw [hp, hd', hp']
  · rintro ⟨dflt, host, hd, hh, hs, hh', hp⟩
    simp only [Url.origin, hs, hd, hh, hh', hp, ne_eq, reduceCtorEq, not_false_eq_true, and_self]

/-- A default port is never explicit. -/
theorem port_ne_default {u : Url} {dflt : UInt16} (hd : defaultPort u.scheme = some dflt) :
    u.port ≠ some dflt := by
  intro hp
  rcases u.portCanonical with hnone | hne
  · rw [hp] at hnone
    exact absurd hnone (by simp only [reduceCtorEq, not_false_eq_true])
  · exact hne (hp.trans hd.symm)

/-- Two ports that are not the default are the same if they come to the same
    where the default fills in. -/
theorem port_eq_of_getD {p q : Option UInt16} {dflt : UInt16} (hp : p ≠ some dflt)
    (hq : q ≠ some dflt) (h : p.getD dflt = q.getD dflt) : p = q := by
  cases p with
  | none =>
      cases q with
      | none => rfl
      | some q => exact absurd (congrArg some h.symm) hq
  | some p =>
      cases q with
      | none => exact absurd (congrArg some h) hp
      | some q => exact congrArg some h

/-- Equal origins have the same explicit port, since a default port is never
    explicit, and so the client connects to the same port for both. -/
theorem sameOrigin_port {u v : Url} (h : sameOrigin u v = true) :
    v.port = u.port ∧ v.connectPort = u.connectPort := by
  rcases sameOrigin_iff.mp h with ⟨dflt, host, hd, _, hs, _, hp⟩
  have hport : v.port = u.port := by
    have hu := port_ne_default hd
    have hv := port_ne_default (u := v) (hs ▸ hd)
    exact port_eq_of_getD hv hu hp
  exact ⟨hport, by rw [Url.connectPort, Url.connectPort, hport, hs]⟩

/-- The two functions of the `url` crate whose code is not in the repository,
    `Url::parse` and `Url::join`. An error carries its text. -/
structure UrlCrate where
  parse : String → Except String Url
  join : Url → String → Except String Url

/-- A URL that resolution produced parses back from its serialization. -/
def UrlCrate.RoundTrips (c : UrlCrate) : Prop :=
  ∀ u reference v, c.join u reference = .ok v → c.parse v.asStr = .ok v

/-- A crate that knows finitely many URLs, each by its own serialization, and
    resolves absolute references only. -/
def UrlCrate.ofTable (table : List Url) : UrlCrate where
  parse := fun s => match table.find? (fun u => u.asStr = s) with
    | some u => .ok u
    | none => .error "unknown url"
  join := fun _ reference => match table.find? (fun u => u.asStr = reference) with
    | some u => .ok u
    | none => .error "unknown url"

theorem UrlCrate.ofTable_parse {table : List Url} {s : String} {u : Url}
    (h : (UrlCrate.ofTable table).parse s = .ok u) : u ∈ table ∧ u.asStr = s := by
  simp only [UrlCrate.ofTable] at h
  cases hf : table.find? (fun w => w.asStr = s) with
  | none =>
      rw [hf] at h
      exact absurd h (by simp only [reduceCtorEq, not_false_eq_true])
  | some w =>
      simp only [hf, Except.ok.injEq] at h
      rw [h] at hf
      have hstr := List.find?_some hf
      exact ⟨List.mem_of_find?_eq_some hf, of_decide_eq_true hstr⟩

theorem UrlCrate.ofTable_roundTrips {table : List Url}
    (h : ∀ u ∈ table, table.find? (fun v => v.asStr = u.asStr) = some u) :
    (UrlCrate.ofTable table).RoundTrips := by
  intro u reference v hj
  simp only [UrlCrate.ofTable] at hj ⊢
  cases hf : table.find? (fun w => w.asStr = reference) with
  | none =>
      rw [hf] at hj
      exact absurd hj (by simp only [reduceCtorEq, not_false_eq_true])
  | some w =>
      simp only [hf, Except.ok.injEq] at hj
      rw [hj] at hf
      rw [h v (List.mem_of_find?_eq_some hf)]

theorem sameOrigin_comm (u v : Url) : sameOrigin u v = sameOrigin v u := by
  rw [Bool.eq_iff_iff]
  simp only [sameOrigin, decide_eq_true_eq]
  constructor
  · rintro ⟨hne, heq⟩
    exact ⟨heq ▸ hne, heq.symm⟩
  · rintro ⟨hne, heq⟩
    exact ⟨heq ▸ hne, heq.symm⟩

end Quik
