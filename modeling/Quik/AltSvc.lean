import Mathlib.Logic.Function.Basic
import Quik.Message
import Quik.Url

/-!
# The Alt-Svc Cache

Which origins have advertised HTTP/3. The cache maps an origin key, host and
port joined by a colon, to the text of the advertisement; the client only ever
asks whether there is one.

Two expressions build the key. Routing uses the port the client connects to.
Learning fills in 443 whatever the scheme, so a response from an `http` URL on
its default port is filed under the key of the `https` origin of that host.
`teaches` is learning as a test on one key, and it is stated with the source's
own key expression rather than with the routing key.

## Main definitions

* `AltSvcCache`: The cache, with `insert` and `remove`.
* `originKey`: The text of a key.
* `Url.routeKey`, `Url.learnKey`: The key a URL is routed and learned under.
* `learnedAltSvc`: What a response has to teach.
* `storeAltSvc`: The learning step.
* `teaches`: Whether it writes a given key.

## Theorems

* `storeAltSvc_isSome`: Learning, seen from one key.
* `routeKey_eq_of_sameOrigin`: One origin is routed under one key.
-/

namespace Quik

/-- `AltSvcCache`, the map behind its lock. -/
abbrev AltSvcCache := String → Option String

namespace AltSvcCache

/-- `AltSvcCache::new`. -/
def new : AltSvcCache := fun _ => none

/-- `AltSvcCache::insert`. -/
def insert (c : AltSvcCache) (origin altSvc : String) : AltSvcCache :=
  Function.update c origin (some altSvc)

/-- `AltSvcCache::remove`. -/
def remove (c : AltSvcCache) (origin : String) : AltSvcCache :=
  Function.update c origin none

@[simp] theorem insert_self (c : AltSvcCache) (origin altSvc : String) :
    c.insert origin altSvc origin = some altSvc :=
  Function.update_self origin _ c

theorem insert_of_ne (c : AltSvcCache) {origin key : String} (altSvc : String)
    (h : key ≠ origin) : c.insert origin altSvc key = c key :=
  Function.update_of_ne h _ c

@[simp] theorem remove_self (c : AltSvcCache) (origin : String) : c.remove origin origin = none :=
  Function.update_self origin _ c

theorem remove_of_ne (c : AltSvcCache) {origin key : String} (h : key ≠ origin) :
    c.remove origin key = c key :=
  Function.update_of_ne h _ c

end AltSvcCache

/-- Host and port joined by a colon. -/
def originKey (authority : String) (port : UInt16) : String :=
  authority ++ ":" ++ toString port.toNat

/-- The key a request to `u` is routed by. -/
def Url.routeKey (u : Url) : String :=
  originKey (u.hostStr.getD "") u.connectPort

/-- The key a response from `u` is learned under. -/
def Url.learnKey (u : Url) : String :=
  originKey (u.hostStr.getD "") (u.port.getD 443)

/-- The entry a response from `u` has to offer: its first Alt-Svc line, if it
    is text and mentions `h3` anywhere. -/
def learnedAltSvc (resp : Response) (u : Url) : Option (String × String) :=
  match resp.headers.get "alt-svc" with
  | none => none
  | some altSvc =>
    match altSvc.toStr with
    | none => none
    -- `contains("h3")` finds the two letters anywhere, in `ma` or a host name too.
    | some altStr => if containsStr altStr "h3" then some (u.learnKey, altStr) else none

/-- `store_alt_svc`. -/
def storeAltSvc (c : AltSvcCache) (resp : Response) (u : Url) : AltSvcCache :=
  match learnedAltSvc resp u with
  | some (key, altStr) => c.insert key altStr
  | none => c

/-- Whether processing the response writes an entry under `key`. -/
def teaches (resp : Response) (u : Url) (key : String) : Bool :=
  (learnedAltSvc resp u).isSome && u.learnKey = key

theorem learnedAltSvc_key {resp : Response} {u : Url} {key altStr : String}
    (h : learnedAltSvc resp u = some (key, altStr)) : key = u.learnKey := by
  unfold learnedAltSvc at h
  split at h
  · exact absurd h (by simp only [reduceCtorEq, not_false_eq_true])
  · split at h
    · exact absurd h (by simp only [reduceCtorEq, not_false_eq_true])
    · split at h
      · exact (congrArg Prod.fst (Option.some.inj h)).symm
      · exact absurd h (by simp only [reduceCtorEq, not_false_eq_true])

/-- After learning, a key has an entry if it had one or was just taught. -/
theorem storeAltSvc_isSome (c : AltSvcCache) (resp : Response) (u : Url) (key : String) :
    (storeAltSvc c resp u key).isSome = (teaches resp u key || (c key).isSome) := by
  unfold storeAltSvc teaches
  cases hl : learnedAltSvc resp u with
  | none => simp only [Option.isSome_none, Bool.false_and, Bool.false_or]
  | some entry =>
      rcases entry with ⟨k, altStr⟩
      have hk : k = u.learnKey := learnedAltSvc_key hl
      -- The entry is filed under the key asked for, or under another one.
      by_cases hkey : u.learnKey = key
      · simp only [hk, hkey, AltSvcCache.insert_self, Option.isSome_some, decide_true,
          Bool.and_self, Bool.true_or]
      · have hget : c.insert k altStr key = c key :=
          AltSvcCache.insert_of_ne c altStr (fun hc => hkey (hk.symm.trans hc.symm))
        simp only [hget, hkey, decide_false, Bool.and_false, Bool.false_or]

/-- Two URLs of one origin are routed under one key. -/
theorem routeKey_eq_of_sameOrigin {u v : Url} (h : sameOrigin u v = true) :
    v.routeKey = u.routeKey := by
  rcases sameOrigin_iff.mp h with ⟨_, host, _, hu, _, hv, _⟩
  rw [Url.routeKey, Url.routeKey, Url.hostStr, Url.hostStr, hu, hv, (sameOrigin_port h).2]

end Quik
