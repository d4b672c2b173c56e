import Quik.OriginText

/-!
# Proxy URLs

`Proxy::parse` turns the URL of a proxy into the address a tunnel is dialed at.
A port that is not there becomes 1080, the one the documentation gives for
SOCKS5, under either scheme. The parser has already dropped the port of an
`http` URL that was written but is the default, and so every `http` proxy on
port 80, written or not, is dialed on 1080. A `socks5` URL keeps what was
written. A host that is missing becomes empty text, and is accepted.

The URL is parsed by the `url` crate, and `written` is the port a URL string
names, if it names one. What the parser does with that port is its documented
behaviour, `PortsAsWritten`.

## Main definitions

* `Proxy.parse`: The proxy of a URL.
* `UrlCrate.PortsAsWritten`: `port()` is the written port unless it is the
    scheme's own.
* `proxyPort`: The default port of a proxy scheme.
* `KeepsEndpoint`: The proxy of a URL is where the URL says it is.

## Theorems

* `parse_eq_ok`: What `Proxy.parse` accepts.
* `parse_keepsEndpoint_iff`: The URLs whose endpoint survives.
-/

namespace Quik

/-- `Proxy::parse`. -/
def Proxy.parse (c : UrlCrate) (url : String) : Except Error Proxy :=
  match c.parse url with
  | .error e => .error (.invalidUrl e)
  | .ok parsed =>
    let addr := parsed.hostStr.getD "" ++ ":" ++ toString (parsed.port.getD 1080).toNat
    if parsed.scheme = "http" then .ok (.http addr)
    else if parsed.scheme = "socks5" then .ok (.socks5 addr)
    else .error (.invalidUrl "Unsupported proxy scheme")

/-- `port()` of a parsed URL: the port its text names, but nothing if that is
    the scheme's default. -/
def UrlCrate.PortsAsWritten (c : UrlCrate) (written : String → Option UInt16) : Prop :=
  ∀ s u, c.parse s = .ok u →
    u.port = if written s = defaultPort u.scheme then none else written s

/-- The default port of a proxy. -/
def proxyPort (scheme : String) : UInt16 :=
  if scheme = "http" then 80 else 1080

/-- The constructor of a proxy scheme. -/
def proxyOf (scheme addr : String) : Proxy :=
  if scheme = "http" then .http addr else .socks5 addr

/-- If a URL is accepted as a proxy, the proxy is of the URL's scheme, at the
    URL's host and at the port written, or else the default one. -/
def KeepsEndpoint (c : UrlCrate) (written : String → Option UInt16) (s : String) : Prop :=
  ∀ p, Proxy.parse c s = .ok p → ∃ u host, c.parse s = .ok u ∧ u.hostStr = some host ∧
    host ≠ "" ∧ (u.scheme = "http" ∨ u.scheme = "socks5") ∧
    p = proxyOf u.scheme
      (host ++ ":" ++ toString ((written s).getD (proxyPort u.scheme)).toNat)

/-- What is accepted is of one of the two schemes, and its address is the host
    and the port the parser left. -/
theorem parse_eq_ok {c : UrlCrate} {s : String} {p : Proxy} : Proxy.parse c s = .ok p ↔
    ∃ u, c.parse s = .ok u ∧ (u.scheme = "http" ∨ u.scheme = "socks5") ∧
      p = proxyOf u.scheme (u.hostText ++ ":" ++ toString (u.port.getD 1080).toNat) := by
  unfold Proxy.parse
  cases hparse : c.parse s with
  | error e => simp only [reduceCtorEq, false_and, exists_false]
  | ok u =>
      simp only [Except.ok.injEq, exists_eq_left']
      by_cases hhttp : u.scheme = "http"
      · rw [if_pos hhttp, proxyOf, if_pos hhttp, Except.ok.injEq, eq_comm]
        exact (and_iff_right (Or.inl hhttp)).symm
      · rw [if_neg hhttp, proxyOf, if_neg hhttp]
        by_cases hsocks : u.scheme = "socks5"
        · rw [if_pos hsocks, Except.ok.injEq, eq_comm]
          exact (and_iff_right (Or.inr hsocks)).symm
        · rw [if_neg hsocks]
          simp only [hhttp, hsocks, reduceCtorEq, or_self, false_and]

theorem proxyOf_inj {scheme a b : String} (h : proxyOf scheme a = proxyOf scheme b) : a = b := by
  unfold proxyOf at h
  by_cases hs : scheme = "http"
  · rw [if_pos hs, if_pos hs] at h
    exact Proxy.http.inj h
  · rw [if_neg hs, if_neg hs] at h
    exact Proxy.socks5.inj h

/-- One host with two ports is two addresses. -/
theorem hostPort_port_inj {host : String} {p q : UInt16}
    (h : host ++ ":" ++ toString p.toNat = host ++ ":" ++ toString q.toNat) : p = q := by
  have hlist := congrArg String.toList h
  simp only [String.toList_append] at hlist
  exact UInt16.toNat_inj.mp (toString_inj (List.append_cancel_left hlist))

/-- The port the code falls back to is the default one unless a written port
    was dropped or none was written under `http`. -/
theorem getD_port_eq_iff {c : UrlCrate} {written : String → Option UInt16}
    (hports : c.PortsAsWritten written) {s : String} {u : Url} (hparse : c.parse s = .ok u)
    (hscheme : u.scheme = "http" ∨ u.scheme = "socks5") :
    u.port.getD 1080 = (written s).getD (proxyPort u.scheme) ↔
      (u.scheme = "http" → ∃ port, written s = some port ∧ port ≠ 80) := by
  rw [hports s u hparse]
  rcases hscheme with hs | hs
  · rw [hs, show defaultPort "http" = some 80 from rfl, show proxyPort "http" = 80 from rfl]
    cases hw : written s with
    | none =>
        -- No port is written, and 1080 is not the default of `http`.
        rw [if_neg (by simp only [reduceCtorEq, not_false_eq_true])]
        simp only [Option.getD_none, reduceCtorEq, false_and, exists_false, forall_const,
          iff_false]
        decide
    | some port =>
        by_cases hport : port = 80
        -- Port 80 is written, dropped by the parser, and replaced by 1080.
        · rw [hport, if_pos rfl]
          simp only [Option.getD_none, Option.getD_some, Option.some.injEq, ne_eq,
            exists_eq_left', not_true_eq_false, forall_const, iff_false]
          decide
        · rw [if_neg (fun h => hport (Option.some.inj h))]
          exact ⟨fun _ _ => ⟨port, rfl, hport⟩, fun _ => rfl⟩
  -- The parser knows no default for `socks5`, so that nothing is dropped.
  · rw [hs, show defaultPort "socks5" = none from rfl, show proxyPort "socks5" = 1080 from rfl]
    have hfalse : ¬ "socks5" = "http" := by decide
    cases hw : written s with
    | none => exact ⟨fun _ h => absurd h hfalse, fun _ => rfl⟩
    | some port => exact ⟨fun _ h => absurd h hfalse, fun _ => rfl⟩

theorem hostText_of_hostStr {u : Url} {host : String} (h : u.hostStr = some host) :
    u.hostText = host := by
  rw [Url.hostText, h, Option.getD_some]

/-- The proxy of a URL is where the URL says, if and only if the host is there,
    and under `http` a port other than 80 is written. -/
theorem parse_keepsEndpoint_iff {c : UrlCrate} {written : String → Option UInt16}
    (hports : c.PortsAsWritten written) (s : String) : KeepsEndpoint c written s ↔
      ∀ u, c.parse s = .ok u → (u.scheme = "http" ∨ u.scheme = "socks5") → u.hostText ≠ "" ∧
        (u.scheme = "http" → ∃ port, written s = some port ∧ port ≠ 80) := by
  constructor
  · intro hkeeps u hparse hscheme
    rcases hkeeps _ (parse_eq_ok.mpr ⟨u, hparse, hscheme, rfl⟩) with
      ⟨u', host, hparse', hhost, hne, _, heq⟩
    rw [hparse] at hparse'
    rw [← Except.ok.inj hparse'] at hhost heq
    rw [hostText_of_hostStr hhost] at heq ⊢
    exact ⟨hne, (getD_port_eq_iff hports hparse hscheme).mp (hostPort_port_inj (proxyOf_inj heq))⟩
  · intro hcond p hp
    rcases parse_eq_ok.mp hp with ⟨u, hparse, hscheme, heq⟩
    rcases hcond u hparse hscheme with ⟨hne, hwritten⟩
    cases hhost : u.hostStr with
    | none => exact absurd (by rw [Url.hostText, hhost, Option.getD_none]) hne
    | some host =>
        have htext := hostText_of_hostStr hhost
        refine ⟨u, host, hparse, hhost, htext ▸ hne, hscheme, ?_⟩
        rw [heq, htext, (getD_port_eq_iff hports hparse hscheme).mpr hwritten]

/-- Three URLs of proxies: the first writes no port, the others do. -/
def proxyUrls : List Url :=
  [ { scheme := "http", host := some (.domain "proxy.test"), path := "/" },
    { scheme := "http", host := some (.domain "proxy.test"), port := some 3128, path := "/" },
    { scheme := "socks5", host := some (.domain "proxy.test"), port := some 1080, path := "" } ]

/-- The ports in their texts. -/
def writtenPort (s : String) : Option UInt16 :=
  if s = "http://proxy.test:3128/" then some 3128
  else if s = "socks5://proxy.test:1080" then some 1080
  else none

theorem proxyUrls_ports : (UrlCrate.ofTable proxyUrls).PortsAsWritten writtenPort := by
  intro s u h
  rcases UrlCrate.ofTable_parse h with ⟨hmem, hstr⟩
  have hall : ∀ v ∈ proxyUrls, v.port = if writtenPort v.asStr = defaultPort v.scheme then none
      else writtenPort v.asStr := by decide +kernel
  rw [← hstr]
  exact hall u hmem

theorem parse_keepsEndpoint_written :
    KeepsEndpoint (UrlCrate.ofTable proxyUrls) writtenPort "http://proxy.test:3128/" := by
  refine (parse_keepsEndpoint_iff proxyUrls_ports _).mpr (fun u h _ => ?_)
  rcases UrlCrate.ofTable_parse h with ⟨hmem, hstr⟩
  have hall : ∀ v ∈ proxyUrls, v.hostText ≠ "" := by decide +kernel
  exact ⟨hall u hmem, fun _ => ⟨3128, rfl, by decide⟩⟩

/-- An `http` proxy whose URL writes no port is dialed on 1080. -/
theorem parse_http_default : (UrlCrate.ofTable proxyUrls).PortsAsWritten writtenPort ∧
    ¬ KeepsEndpoint (UrlCrate.ofTable proxyUrls) writtenPort "http://proxy.test/" := by
  refine ⟨proxyUrls_ports, fun hkeeps => ?_⟩
  have hparse : Proxy.parse (UrlCrate.ofTable proxyUrls) "http://proxy.test/" =
      .ok (.http "proxy.test:1080") := by decide +kernel
  rcases hkeeps _ hparse with ⟨u, host, hu, hhost, _, _, heq⟩
  rcases UrlCrate.ofTable_parse hu with ⟨hmem, hstr⟩
  have hall : ∀ v ∈ proxyUrls, v.asStr = "http://proxy.test/" →
      v.scheme = "http" ∧ v.hostStr = some "proxy.test" := by decide +kernel
  rcases hall u hmem hstr with ⟨hscheme, hhost'⟩
  rw [hscheme, ← Option.some.inj (hhost'.symm.trans hhost)] at heq
  exact absurd heq (by decide +kernel)

end Quik
