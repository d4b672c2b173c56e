import Mathlib.Data.List.Basic
import Quik.Client

/-!
# Pool Keys

A pool key is flat text: the proxy and an at-sign if there is a proxy, then
host, colon, port, hash and transport. A proxy address may contain any of
those separators and an IPv6 host contains colons, yet no two keys collide.
The port is digits, so the last colon ends the host. A host has no at-sign, so
the last at-sign ends the proxy.

## Main definitions

* `forbiddenHost`, `UrlCrate.LegalHosts`: What no host of a parsed URL contains.
* `KeysInjective`: A key determines what it was built from.

## Theorems

* `originKey_inj`: Host and port are read back from an origin key.
* `poolKey_inj`: Under one proxy, a key determines the rest.
* `keysInjective`: A key also determines the proxy.
-/

namespace Quik

/-- The code points the URL standard forbids in a host. -/
def forbiddenHost : List Char :=
  ['\x00', '\t', '\n', '\r', ' ', '#', '/', ':', '<', '>', '?', '@', '[', '\\', ']', '^', '|']

/-- The parser puts no forbidden code point into a domain. -/
def UrlCrate.LegalHosts (c : UrlCrate) : Prop :=
  ∀ s u name, c.parse s = .ok u → u.host = some (.domain name) → ∀ ch ∈ forbiddenHost,
    ch ∉ name.toList

/-- A domain without any of them. -/
def Host.legal : Host → Bool
  | .domain name => forbiddenHost.all (fun ch => !name.toList.contains ch)
  | _ => true

/-- A parser that knows a table of URLs with legal hosts parses no other. -/
theorem UrlCrate.ofTable_legalHosts {table : List Url}
    (h : table.all (fun u => u.host.all Host.legal) = true) :
    (UrlCrate.ofTable table).LegalHosts := by
  intro s u name hparse hhost ch hch hin
  have hlegal := List.all_eq_true.mp h u (UrlCrate.ofTable_parse hparse).1
  rw [hhost, Option.all_some, Host.legal, List.all_eq_true] at hlegal
  have hnot := hlegal ch hch
  rw [List.contains_iff_mem.mpr hin] at hnot
  exact absurd hnot (by decide)

/-- The transport part of a key. -/
def transportProto (h3 : Bool) : String :=
  if h3 then "h3" else "h2"

/-- Two keys built from parsed URLs are the same only if they were built from
    the same proxy, host, port and transport. -/
def KeysInjective (c : UrlCrate) : Prop :=
  ∀ proxy proxy' s s' u u' h3 h3', c.parse s = .ok u → c.parse s' = .ok u' →
    u.host.isSome = true → u'.host.isSome = true →
    poolKey proxy u (transportProto h3) = poolKey proxy' u' (transportProto h3') →
    proxy = proxy' ∧ u.hostStr = u'.hostStr ∧ u.connectPort = u'.connectPort ∧ h3 = h3'

/-- The last separator splits a list in one way. -/
theorem append_sep_inj {α : Type*} {sep : α} {a b c d : List α} (hb : sep ∉ b) (hd : sep ∉ d)
    (h : a ++ sep :: b = c ++ sep :: d) : a = c ∧ b = d := by
  -- Whatever one front has more than the other would hold its separator.
  rcases List.append_eq_append_iff.mp h with ⟨mid, hc, hmid⟩ | ⟨mid, ha, hmid⟩
  · cases mid with
    | nil => exact ⟨by rw [hc, List.append_nil], (List.cons.inj hmid).2⟩
    | cons e mid =>
        exact absurd ((List.cons.inj hmid).2 ▸ List.mem_append_right mid List.mem_cons_self) hb
  · cases mid with
    | nil => exact ⟨by rw [ha, List.append_nil], (List.cons.inj hmid).2.symm⟩
    | cons e mid =>
        exact absurd ((List.cons.inj hmid).2 ▸ List.mem_append_right mid List.mem_cons_self) hd

section Digits

/-- A digit of a number written in a base is the character of a small number. -/
theorem digitChar_of_mem_toDigits {b : Nat} (hb : 1 < b) {ch : Char} (n : Nat)
    (h : ch ∈ Nat.toDigits b n) : ∃ d < b, ch = d.digitChar := by
  induction n using Nat.strongRecOn with
  | ind n ih =>
      rw [Nat.toDigits_eq_if hb] at h
      by_cases hn : n < b
      · rw [if_pos hn, List.mem_singleton] at h
        exact ⟨n, hn, h⟩
      · rw [if_neg hn, List.mem_append, List.mem_singleton] at h
        rcases h with h | h
        · exact ih (n / b) (Nat.div_lt_self (by omega) hb) h
        · exact ⟨n % b, Nat.mod_lt n (by omega), h⟩

/-- The separators of a key are no digits. -/
theorem sep_notMem_toString {ch : Char} (hch : ch.isDigit = false) (n : Nat) :
    ch ∉ (toString n).toList := by
  intro h
  rw [Nat.toString_eq_repr, Nat.toList_repr] at h
  exact absurd (hch.symm.trans (Nat.isDigit_of_mem_toDigits (by decide) (by decide) h))
    Bool.noConfusion

theorem toString_inj {m n : Nat} (h : (toString m).toList = (toString n).toList) : m = n := by
  rw [Nat.toString_eq_repr, Nat.toString_eq_repr, Nat.toList_repr, Nat.toList_repr] at h
  rw [← Nat.ofDigitChars_ten_toDigits (n := m), h, Nat.ofDigitChars_ten_toDigits]

end Digits

theorem originKey_toList (authority : String) (port : UInt16) :
    (originKey authority port).toList =
      authority.toList ++ ':' :: (toString port.toNat).toList := by
  rw [originKey, String.toList_append, String.toList_append, List.append_assoc]
  rfl

/-- The last colon of an origin key ends the host. -/
theorem originKey_inj {authority authority' : String} {port port' : UInt16}
    (h : originKey authority port = originKey authority' port') :
    authority = authority' ∧ port = port' := by
  have hlist := congrArg String.toList h
  rw [originKey_toList, originKey_toList] at hlist
  rcases append_sep_inj (sep_notMem_toString (by decide) _) (sep_notMem_toString (by decide) _)
    hlist with ⟨ha, hp⟩
  exact ⟨String.toList_injective ha, UInt16.toNat_inj.mp (toString_inj hp)⟩

/-- What follows the route in a key tells the transports apart. -/
theorem transportProto_inj {a b : List Char} {h3 h3' : Bool}
    (h : a ++ ("#" ++ transportProto h3).toList = b ++ ("#" ++ transportProto h3').toList) :
    a = b ∧ h3 = h3' := by
  have hlen : ∀ h : Bool, ("#" ++ transportProto h).toList.length = 3 := by decide
  rcases List.append_inj' h (by rw [hlen, hlen]) with ⟨hab, hproto⟩
  refine ⟨hab, ?_⟩
  revert hproto
  cases h3 <;> cases h3' <;> decide

theorem poolKey_toList (proxy : Option Proxy) (u : Url) (proto : String) :
    (poolKey proxy u proto).toList =
      (proxyPrefix proxy).toList ++ u.routeKey.toList ++ ("#" ++ proto).toList := by
  simp only [poolKey, String.toList_append, List.append_assoc]

/-- Under one proxy, a key determines the host, the port and the transport. -/
theorem poolKey_inj {proxy : Option Proxy} {u u' : Url} {h3 h3' : Bool}
    (h : poolKey proxy u (transportProto h3) = poolKey proxy u' (transportProto h3')) :
    u.hostStr.getD "" = u'.hostStr.getD "" ∧ u.connectPort = u'.connectPort ∧ h3 = h3' := by
  have hlist := congrArg String.toList h
  rw [poolKey_toList, poolKey_toList] at hlist
  rcases transportProto_inj hlist with ⟨hroute, htransport⟩
  rcases originKey_inj (String.toList_injective (List.append_cancel_left hroute)) with
    ⟨hhost, hport⟩
  exact ⟨hhost, hport, htransport⟩

theorem at_notMem_append {s s' : String} (h : '@' ∉ s.toList) (h' : '@' ∉ s'.toList) :
    '@' ∉ (s ++ s').toList := by
  rw [String.toList_append, List.mem_append]
  exact fun hc => hc.elim h h'

theorem at_notMem_hexSegments (segs : List Nat) : '@' ∉ (Host.hexSegments segs).toList := by
  have hdigits : ∀ n, '@' ∉ (String.ofList (Nat.toDigits 16 n)).toList := by
    intro n hin
    rw [String.toList_ofList] at hin
    rcases digitChar_of_mem_toDigits (by decide) n hin with ⟨d, hd, heq⟩
    revert heq
    revert d
    decide
  induction segs with
  | nil =>
      rw [Host.hexSegments, List.map_nil, String.intercalate_nil]
      decide
  | cons n segs ih =>
      cases segs with
      | nil =>
          rw [Host.hexSegments, List.map_singleton, String.intercalate_singleton]
          exact hdigits n
      | cons m segs =>
          rw [Host.hexSegments, List.map_cons, List.map_cons, String.intercalate_cons_cons]
          exact at_notMem_append (at_notMem_append (hdigits n) (by decide)) ih

/-- No host of a parsed URL contains an at-sign: a domain may not, and the text
    of an address is digits and punctuation. -/
theorem at_notMem_text {c : UrlCrate} (hlegal : c.LegalHosts) {s : String} {u : Url}
    (hparse : c.parse s = .ok u) {host : Host} (hhost : u.host = some host) :
    '@' ∉ host.text.toList := by
  have hdigits : ∀ n : Nat, '@' ∉ (toString n).toList := sep_notMem_toString (by decide)
  cases host with
  | domain name => exact hlegal s u name hparse hhost '@' (by decide)
  | ipv4 addr =>
      have hdot : '@' ∉ ".".toList := by decide
      exact at_notMem_append (at_notMem_append (at_notMem_append (at_notMem_append
        (at_notMem_append (at_notMem_append (hdigits _) hdot) (hdigits _)) hdot) (hdigits _)) hdot)
        (hdigits _)
  | ipv6 addr =>
      have htext : '@' ∉ (Host.ipv6Text addr).toList := by
        unfold Host.ipv6Text
        simp only
        split
        · exact at_notMem_hexSegments _
        · exact at_notMem_append (at_notMem_append (at_notMem_hexSegments _) (by decide))
            (at_notMem_hexSegments _)
      exact at_notMem_append (at_notMem_append (by decide) htext) (by decide)

theorem at_notMem_routeKey {c : UrlCrate} (hlegal : c.LegalHosts) {s : String} {u : Url}
    (hparse : c.parse s = .ok u) (hhost : u.host.isSome = true) : '@' ∉ u.routeKey.toList := by
  rcases Option.isSome_iff_exists.mp hhost with ⟨host, hh⟩
  rw [Url.routeKey, Url.hostStr, hh]
  exact at_notMem_append (at_notMem_append (at_notMem_text hlegal hparse hh) (by decide))
    (sep_notMem_toString (by decide) _)

/-- A proxy as it is written in front of the at-sign. -/
def Proxy.text : Proxy → String
  | .http a => "http://" ++ a
  | .socks5 a => "socks5://" ++ a

/-- The scheme tells the kinds of proxy apart. -/
theorem Proxy.text_inj {p p' : Proxy} (h : p.text = p'.text) : p = p' := by
  have hlist := congrArg String.toList h
  cases p with
  | http a =>
      cases p' with
      | http a' =>
          rw [Proxy.text, Proxy.text, String.toList_append, String.toList_append] at hlist
          rw [String.toList_injective (List.append_cancel_left hlist)]
      | socks5 a' =>
          rw [Proxy.text, Proxy.text, String.toList_append, String.toList_append] at hlist
          exact absurd (show 'h' = 's' from (List.cons.inj hlist).1) (by decide)
  | socks5 a =>
      cases p' with
      | http a' =>
          rw [Proxy.text, Proxy.text, String.toList_append, String.toList_append] at hlist
          exact absurd (show 's' = 'h' from (List.cons.inj hlist).1) (by decide)
      | socks5 a' =>
          rw [Proxy.text, Proxy.text, String.toList_append, String.toList_append] at hlist
          rw [String.toList_injective (List.append_cancel_left hlist)]

theorem proxyPrefix_some (p : Proxy) (route : List Char) :
    (proxyPrefix (some p)).toList ++ route = p.text.toList ++ '@' :: route := by
  cases p with
  | http a | socks5 a =>
      rw [proxyPrefix, String.toList_append, List.append_assoc]
      rfl

/-- The last at-sign ends the proxy, and where there is none there is no
    proxy. -/
theorem proxyPrefix_inj {proxy proxy' : Option Proxy} {route route' : List Char}
    (h : '@' ∉ route) (h' : '@' ∉ route')
    (heq : (proxyPrefix proxy).toList ++ route = (proxyPrefix proxy').toList ++ route') :
    proxy = proxy' ∧ route = route' := by
  have hnone : ∀ r : List Char, (proxyPrefix none).toList ++ r = r := fun _ => rfl
  cases proxy with
  | none =>
      cases proxy' with
      | none => exact ⟨rfl, heq⟩
      | some p' =>
          rw [hnone, proxyPrefix_some] at heq
          exact absurd (heq ▸ List.mem_append_right _ List.mem_cons_self) h
  | some p =>
      cases proxy' with
      | none =>
          rw [hnone, proxyPrefix_some] at heq
          exact absurd (heq ▸ List.mem_append_right _ List.mem_cons_self) h'
      | some p' =>
          rw [proxyPrefix_some, proxyPrefix_some] at heq
          rcases append_sep_inj h h' heq with ⟨hp, hroute⟩
          exact ⟨by rw [Proxy.text_inj (String.toList_injective hp)], hroute⟩

/-- A key built from a parsed URL determines everything it was built from. -/
theorem keysInjective {c : UrlCrate} (hlegal : c.LegalHosts) : KeysInjective c := by
  intro proxy proxy' s s' u u' h3 h3' hs hs' hhost hhost' h
  have hlist := congrArg String.toList h
  rw [poolKey_toList, poolKey_toList] at hlist
  rcases transportProto_inj hlist with ⟨hroute, htransport⟩
  rcases proxyPrefix_inj (at_notMem_routeKey hlegal hs hhost) (at_notMem_routeKey hlegal hs' hhost')
    hroute with ⟨hproxy, hroute'⟩
  rcases originKey_inj (String.toList_injective hroute') with ⟨htext, hport⟩
  refine ⟨hproxy, ?_, hport, htransport⟩
  rcases Option.isSome_iff_exists.mp hhost with ⟨host, hh⟩
  rcases Option.isSome_iff_exists.mp hhost' with ⟨host', hh'⟩
  rw [Url.hostStr, Url.hostStr, hh, hh'] at htext
  rw [Url.hostStr, Url.hostStr, hh, hh']
  exact congrArg some htext

end Quik
