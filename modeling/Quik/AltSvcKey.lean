import Quik.ClientMoves
import Quik.OriginText

/-!
# Learning and Routing Keys

The Alt-Svc cache is written under one key expression and read under another.
Both join the host and a port, and both prefer the explicit port. They part
where there is none: routing fills in 80 for `http` and 443 for everything
else, learning fills in 443.

So a response from an `http` URL on its default port is filed where its own
origin never looks, and where the `https` origin of the host does. A second
difference is not between the two keys but between either of them and the
standard: the client connects every scheme it does not know to 443, so a `ws`
or `ftp` URL without a port shares the key of the `https` origin although its
scheme has a default port of its own.

## Main definitions

* `Url.effectivePort`: The explicit port, or the default of the scheme.
* `routedH3`: The transport the cache chooses for a URL.
* `KeysAgree`: Learning from one URL, as seen from another.

## Theorems

* `enterHop_routedH3`: The choice a hop makes.
* `learnKey_eq_routeKey_iff`: When the two expressions are one key.
* `routedH3_storeAltSvc_iff`: Learning, seen from any URL.
* `keysAgree_iff`: When learning from a URL is right for another.
-/

namespace Quik

open Transition

/-- The port of a URL by the standard: explicit, or the default of its
    scheme. -/
def Url.effectivePort (u : Url) : Option UInt16 :=
  u.port.or (defaultPort u.scheme)

/-- Whether a hop to `u` is routed to HTTP/3. -/
def routedH3 (cache : AltSvcCache) (u : Url) : Bool :=
  (cache u.routeKey).isSome

/-- The choice is the one a hop makes at the top of the loop. -/
theorem enterHop_routedH3 {Jar : Type} {cl : Client Jar} {s : State cl} {hop : Hop}
    {context : RequestContext} {v : Vars cl.crates.url} {stage : Stage} {fx : List Effect}
    (h : taskStep s (.top hop context) .go = some (.inHop v stage, fx)) :
    v.hasAltSvc = routedH3 s.altSvc v.parsedUrl := by
  generalize hpc : Pc.inHop v stage = pc at h
  cases taskStep_eq_some h with
  | enter v' hticket hroute =>
      cases hpc
      exact hroute
  | refuse => exact absurd hpc (by simp only [reduceCtorEq, not_false_eq_true])

/-- The two expressions are one key except on the default port of `http`. -/
theorem learnKey_eq_routeKey_iff (u : Url) :
    u.learnKey = u.routeKey ↔ ¬(u.scheme = "http" ∧ u.port = none) := by
  constructor
  · rintro h ⟨hs, hp⟩
    have hport := (originKey_inj h).2
    rw [Url.connectPort, hp, hs, if_pos rfl] at hport
    exact absurd hport (by decide)
  · intro h
    have hport : u.port.getD 443 = u.connectPort := by
      rw [Url.connectPort]
      cases hp : u.port with
      | none => rw [if_neg (fun hs => h ⟨hs, hp⟩)]
      | some p => rfl
    rw [Url.learnKey, Url.routeKey, hport]

theorem routeKey_eq_iff {u v : Url} : u.routeKey = v.routeKey ↔
    u.hostText = v.hostText ∧ u.connectPort = v.connectPort := by
  constructor
  · exact originKey_inj
  · rintro ⟨hh, hp⟩
    rw [Url.hostText, Url.hostText] at hh
    rw [Url.routeKey, Url.routeKey, hh, hp]

/-- Learning seen from any URL: it is routed to HTTP/3 if it was, or if the
    response has something to teach and the learning key is its own. -/
theorem routedH3_storeAltSvc_iff (cache : AltSvcCache) (resp : Response) (u v : Url) :
    routedH3 (storeAltSvc cache resp u) v = true ↔
      ((learnedAltSvc resp u).isSome = true ∧ u.learnKey = v.routeKey) ∨
        routedH3 cache v = true := by
  rw [routedH3, storeAltSvc_isSome, teaches, Bool.or_eq_true, Bool.and_eq_true,
    decide_eq_true_eq, routedH3]

/-- Learning from `u` as seen from `v`. What a response from `u` writes, it
    writes under the key the next hop to `u` looks up, so that a response with
    something to teach routes `u` to HTTP/3; and `v` is routed as before if its
    host or its port is another. -/
def KeysAgree (u v : Url) : Prop :=
  ∀ cache resp,
    (∀ key, teaches resp u key = true → key = u.routeKey) ∧
    ((learnedAltSvc resp u).isSome = true → routedH3 (storeAltSvc cache resp u) u = true) ∧
    ((v.hostText, v.effectivePort) ≠ (u.hostText, u.effectivePort) →
      routedH3 (storeAltSvc cache resp u) v = routedH3 cache v)

/-- A response that advertises HTTP/3 and nothing else. -/
def advertising : Response where
  status := .ok
  headers := advertises
  body := .http3 []
  url := ""

theorem learnedAltSvc_advertising (u : Url) :
    (learnedAltSvc advertising u).isSome = true := by
  have htext : (advertises.get "alt-svc").bind HeaderValue.toStr = some "h3=\":443\"" := by
    decide +kernel
  rcases Option.bind_eq_some_iff.mp htext with ⟨altSvc, hget, hstr⟩
  have hsub : containsStr "h3=\":443\"" "h3" = true := by decide +kernel
  simp only [learnedAltSvc, advertising, hget, hstr, hsub, if_true, Option.isSome_some]

/-- A response that is filed under the right key shows that there is one. -/
theorem KeysAgree.learnKey {u v : Url} (h : KeysAgree u v) : u.learnKey = u.routeKey := by
  refine (h .new advertising).1 u.learnKey ?_
  rw [teaches, learnedAltSvc_advertising, Bool.true_and, decide_eq_true_eq]

/-- Learning from `u` is right for `v` exactly if `u` is not an `http` URL on
    its default port, and `v` does not share the host and the port the client
    connects to with `u` while the standard gives it another port. -/
theorem keysAgree_iff (u v : Url) :
    KeysAgree u v ↔ ¬(u.scheme = "http" ∧ u.port = none) ∧
      (v.hostText ≠ u.hostText ∨ v.connectPort ≠ u.connectPort ∨
        v.effectivePort = u.effectivePort) := by
  rw [← learnKey_eq_routeKey_iff]
  constructor
  · intro h
    have hown := h.learnKey
    refine ⟨hown, ?_⟩
    by_contra hshared
    simp only [ne_eq, not_or, not_not] at hshared
    rcases hshared with ⟨hhost, hconnect, hport⟩
    -- `v` has the key of `u` and another port: an empty cache shows the change.
    have hsame := (h .new advertising).2.2 (fun heq => hport (Prod.mk.inj heq).2)
    have hnow : routedH3 (storeAltSvc .new advertising u) v = true :=
      (routedH3_storeAltSvc_iff .new advertising u v).mpr
        (Or.inl ⟨learnedAltSvc_advertising u,
          hown.trans (routeKey_eq_iff.mpr ⟨hhost.symm, hconnect.symm⟩)⟩)
    rw [hnow] at hsame
    exact absurd hsame.symm (by simp only [routedH3, AltSvcCache.new, Option.isSome_none,
      Bool.false_eq_true, not_false_eq_true])
  · rintro ⟨hown, hshared⟩ cache resp
    refine ⟨fun key hteach => ?_, fun hlearn => ?_, fun hne => ?_⟩
    · rw [teaches, Bool.and_eq_true, decide_eq_true_eq] at hteach
      rw [← hteach.2, hown]
    · exact (routedH3_storeAltSvc_iff cache resp u u).mpr (Or.inl ⟨hlearn, hown⟩)
    · rw [Bool.eq_iff_iff, routedH3_storeAltSvc_iff]
      refine or_iff_right (fun hwrite => ?_)
      -- The response would have to be filed under the key of `v`.
      rcases routeKey_eq_iff.mp (hown.symm.trans hwrite.2) with ⟨hhost, hconnect⟩
      rcases hshared with hh | hc | hp
      · exact hh hhost.symm
      · exact hc hconnect.symm
      · exact hne (by rw [hhost, hp])

/-- http://a.test/ teaches the client about https://a.test/. -/
theorem keysAgree_defaultHttp :
    ¬ KeysAgree (.page "http" "a.test" "/") (.page "https" "a.test" "/") := by
  intro h
  exact (learnKey_eq_routeKey_iff _).mp h.learnKey ⟨rfl, rfl⟩

end Quik
