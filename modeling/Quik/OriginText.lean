import Quik.PoolKey

/-!
# The Text of an Origin

The hint cache is keyed by the serialized origin of a URL, which is flat text:
the scheme, the host, and the port unless it is the scheme's own. This text
determines all three. A scheme, a domain and an IPv4 address have no colon, an
IPv6 address ends in a bracket, and a port is a colon and digits.

URLs of the schemes without a default port have an opaque origin, and all of
them are filed under the one text `null`.

## Main definitions

* `Url.hostText`: The host as text.
* `UrlCrate.Web`: A parsed `http` or `https` URL.

## Theorems

* `serialization_tuple`: An origin that is not opaque, written down.
* `serialization_inj`: It determines the scheme, the host and the port.
* `serialization_hostText`: So does that of a web URL its host.
-/

namespace Quik

/-- The host a URL names, as text. -/
def Url.hostText (u : Url) : String :=
  u.hostStr.getD ""

theorem hostText_of_host {u : Url} {host : Host} (h : u.host = some host) :
    u.hostText = host.text := by
  rw [Url.hostText, Url.hostStr, h]
  rfl

/-- A URL the parser returns, of one of the two schemes of the web. -/
structure UrlCrate.Web (c : UrlCrate) (u : Url) : Prop where
  parsed : ∃ s, c.parse s = .ok u
  hasHost : u.host.isSome = true
  scheme : u.scheme = "http" ∨ u.scheme = "https"

theorem colon_notMem_ipv4 (addr : BitVec 32) : ':' ∉ (Host.ipv4Text addr).toList := by
  have hdigits : ∀ n : Nat, ':' ∉ (toString n).toList := sep_notMem_toString (by decide)
  simp only [Host.ipv4Text, String.toList_append, List.mem_append, not_or]
  have hdot : ':' ∉ ".".toList := by decide
  exact ⟨⟨⟨⟨⟨⟨hdigits _, hdot⟩, hdigits _⟩, hdot⟩, hdigits _⟩, hdot⟩, hdigits _⟩

/-- A host with a colon in it ends in a bracket. -/
theorem text_colon {c : UrlCrate} (hlegal : c.LegalHosts) {s : String} {u : Url}
    (hparse : c.parse s = .ok u) {host : Host} (hhost : u.host = some host) :
    ':' ∉ host.text.toList ∨ ∃ l, host.text.toList = l ++ [']'] := by
  cases host with
  | domain name => exact Or.inl (hlegal s u name hparse hhost ':' (by decide))
  | ipv4 addr => exact Or.inl (colon_notMem_ipv4 addr)
  | ipv6 addr =>
      refine Or.inr ⟨"[".toList ++ (Host.ipv6Text addr).toList, ?_⟩
      rw [Host.text, String.toList_append, String.toList_append]
      rfl

/-- What follows the scheme in a serialized origin. -/
def portSuffix (port : Option UInt16) : String :=
  match port with
  | some p => ":" ++ toString p.toNat
  | none => ""

/-- An origin that is not opaque has a scheme with a default port, and a host. -/
theorem origin_ne_null_iff {u : Url} :
    u.origin ≠ .null ↔ (defaultPort u.scheme).isSome = true ∧ u.host.isSome = true := by
  unfold Url.origin
  cases defaultPort u.scheme <;> cases u.host <;>
    simp only [ne_eq, not_true_eq_false, reduceCtorEq, not_false_eq_true, Option.isSome_none,
      Option.isSome_some, Bool.false_eq_true, and_false, and_self, false_and]

theorem UrlCrate.Web.origin {c : UrlCrate} {u : Url} (h : c.Web u) : u.origin ≠ .null := by
  refine origin_ne_null_iff.mpr ⟨?_, h.hasHost⟩
  rcases h.scheme with hs | hs <;> rw [hs] <;> rfl

/-- An origin that is not opaque, as text. -/
theorem serialization_tuple {u : Url} (h : u.origin ≠ .null) :
    u.origin.asciiSerialization = u.scheme ++ "://" ++ u.hostText ++ portSuffix u.port := by
  rcases origin_ne_null_iff.mp h with ⟨hscheme, hhost⟩
  rcases Option.isSome_iff_exists.mp hscheme with ⟨dflt, hd⟩
  rcases Option.isSome_iff_exists.mp hhost with ⟨host, hh⟩
  have horigin : u.origin = .tuple u.scheme host (u.port.getD dflt) := by
    rw [Url.origin, hd, hh]
  rw [horigin, hostText_of_host hh, Origin.asciiSerialization, hd]
  cases hp : u.port with
  | none => exact (if_pos rfl).trans (String.append_empty).symm
  | some p =>
      -- An explicit port is not the default one, so it is written.
      have hne : ¬ some dflt = some p := fun h => port_ne_default hd (hp.trans h.symm)
      rw [Option.getD_some, if_neg hne, portSuffix, String.append_assoc, String.append_assoc,
        String.append_assoc]

/-- A host followed by a port is no host. -/
theorem text_ne_port {l l' : List Char} {n : Nat}
    (h : ':' ∉ l ∨ ∃ k, l = k ++ [']']) : l ≠ l' ++ ':' :: (toString n).toList := by
  intro heq
  rcases h with hcolon | ⟨k, hk⟩
  · exact hcolon (heq ▸ List.mem_append_right l' List.mem_cons_self)
  · have hbracket : ']' ∉ ':' :: (toString n).toList := by
      rw [List.mem_cons, not_or]
      exact ⟨by decide, sep_notMem_toString (by decide) n⟩
    rcases List.append_eq_append_iff.mp (heq.symm.trans hk) with ⟨m, _, hm⟩ | ⟨m, _, hm⟩
    · exact hbracket (hm ▸ List.mem_append_right m List.mem_cons_self)
    · have hin : ':' ∈ [']'] := hm ▸ List.mem_append_right m List.mem_cons_self
      exact absurd (List.mem_singleton.mp hin) (by decide)

/-- A scheme with a default port has no colon in it. -/
theorem colon_notMem_scheme {scheme : String} (h : (defaultPort scheme).isSome = true) :
    ':' ∉ scheme.toList := by
  unfold defaultPort at h
  split at h
  · rename_i hs
    rcases hs with rfl | rfl <;> decide
  · split at h
    · rename_i hs
      rcases hs with rfl | rfl <;> decide
    · split at h
      · rename_i hs
        rw [hs]
        decide
      · exact absurd h Bool.false_ne_true

/-- The first separator splits a list in one way. -/
theorem append_first_inj {α : Type*} {sep : α} {a b c d : List α} (ha : sep ∉ a) (hc : sep ∉ c)
    (h : a ++ sep :: b = c ++ sep :: d) : a = c ∧ b = d := by
  have hrev := congrArg List.reverse h
  simp only [List.reverse_append, List.reverse_cons, List.append_assoc, List.singleton_append]
    at hrev
  rcases append_sep_inj (fun hm => ha (List.mem_reverse.mp hm))
    (fun hm => hc (List.mem_reverse.mp hm)) hrev with ⟨hbd, hac⟩
  exact ⟨List.reverse_injective hac, List.reverse_injective hbd⟩

/-- Host and port together determine both. -/
theorem hostPort_inj {l l' : List Char} {port port' : Option UInt16}
    (h : ':' ∉ l ∨ ∃ k, l = k ++ [']']) (h' : ':' ∉ l' ∨ ∃ k, l' = k ++ [']'])
    (heq : l ++ (portSuffix port).toList = l' ++ (portSuffix port').toList) :
    l = l' ∧ port = port' := by
  have hsome : ∀ p : UInt16, (portSuffix (some p)).toList = ':' :: (toString p.toNat).toList := by
    intro p
    rw [portSuffix, String.toList_append]
    rfl
  have hnone : (portSuffix none).toList = [] := rfl
  -- With a port on one side only, the other host would end in colon and digits.
  cases port with
  | none =>
      rw [hnone, List.append_nil] at heq
      cases port' with
      | none =>
          rw [hnone, List.append_nil] at heq
          exact ⟨heq, rfl⟩
      | some p' => exact absurd (hsome p' ▸ heq) (text_ne_port h)
  | some p =>
      rw [hsome] at heq
      cases port' with
      | none =>
          rw [hnone, List.append_nil] at heq
          exact absurd heq.symm (text_ne_port h')
      | some p' =>
          rw [hsome] at heq
          rcases append_sep_inj (sep_notMem_toString (by decide) p.toNat)
            (sep_notMem_toString (by decide) p'.toNat) heq with ⟨hl, hp⟩
          exact ⟨hl, by rw [UInt16.toNat_inj.mp (toString_inj hp)]⟩

/-- An origin that is not opaque, written down, determines its parts. -/
theorem serialization_inj {c : UrlCrate} (hlegal : c.LegalHosts) {s s' : String} {u u' : Url}
    (hparse : c.parse s = .ok u) (hparse' : c.parse s' = .ok u') (h : u.origin ≠ .null)
    (h' : u'.origin ≠ .null) (heq : u.origin.asciiSerialization = u'.origin.asciiSerialization) :
    u.scheme = u'.scheme ∧ u.hostText = u'.hostText ∧ u.port = u'.port := by
  have hshape : ∀ {s : String} {w : Url}, c.parse s = .ok w → w.origin ≠ .null →
      ':' ∉ w.hostText.toList ∨ ∃ k, w.hostText.toList = k ++ [']'] := by
    intro s w hs hw
    rcases Option.isSome_iff_exists.mp (origin_ne_null_iff.mp hw).2 with ⟨host, hh⟩
    rw [Url.hostText, Url.hostStr, hh]
    exact text_colon hlegal hs hh
  rw [serialization_tuple h, serialization_tuple h'] at heq
  have hlist := congrArg String.toList heq
  simp only [String.toList_append, List.append_assoc] at hlist
  have hsep : "://".toList = ':' :: ['/', '/'] := by decide
  simp only [hsep, List.cons_append, List.nil_append] at hlist
  rcases append_first_inj (colon_notMem_scheme (origin_ne_null_iff.mp h).1)
    (colon_notMem_scheme (origin_ne_null_iff.mp h').1) hlist with ⟨hscheme, hrest⟩
  simp only [List.cons.injEq, true_and] at hrest
  rcases hostPort_inj (hshape hparse h) (hshape hparse' h') hrest with ⟨hhost, hport⟩
  exact ⟨String.toList_injective hscheme, String.toList_injective hhost, hport⟩

/-- The origin of a web URL, written down, determines its host. -/
theorem serialization_hostText {c : UrlCrate} (hlegal : c.LegalHosts) {u u' : Url} (h : c.Web u)
    (h' : c.Web u') (heq : u.origin.asciiSerialization = u'.origin.asciiSerialization) :
    u.hostText = u'.hostText := by
  rcases h.parsed with ⟨s, hs⟩
  rcases h'.parsed with ⟨s', hs'⟩
  exact (serialization_inj hlegal hs hs' h.origin h'.origin heq).2.1

end Quik
