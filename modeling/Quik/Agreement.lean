import Quik.Isolation
import Quik.Nameless
import Quik.OriginText

/-!
# Agreement

Two clients that are the same to the requests to some hosts.

A request to a URL reads the Alt-Svc entry of its origin, the hint under the
serialization of that origin, the two slots of its authority, and the cookies
whose domain covers its host. `Agree` says that two clients have these in
common for every URL whose host is one of some set; of a slot it asks for the
task inside and for the connection up to its number.

Every effect keeps it when both clients have it. An effect under the keys of a
URL keeps it even when one client alone has it, if the host of the URL is not
in the set: the keys of the four stores are different there. For the hint cache
that is a fact about the url crate (`serialization_hostText`), and for the jar
it takes the cookies of the response to have other domains.

## Main definitions

* `CookieLaws`: What the cookie store promises.
* `State.slotView`: What shows of a slot.
* `Agree`: Two clients that are the same to some hosts.
* `Effect.At`: An effect under the keys of one URL.

## Theorems

* `Agree.sight`: A request sees the same of both.
* `move_at`: A hop writes under the keys of its URL.
* `agree_after`: The same move keeps two clients in agreement.
* `agree_after_other`: A move of a request to other hosts does.
-/

namespace Quik

open Transition

variable {Jar : Type} {cl : Client Jar}

/-- What the cookie store promises of the cookies of a domain: `matches` looks
    at the domains that cover the host of the URL, and `parse` at the domain of
    the cookie, which is the only one it changes. -/
structure CookieLaws (c : Crates Jar) where
  Domain : Type
  Cookies : Type
  covers : Domain → String → Prop
  bucket : Jar → Domain → Cookies
  /-- The domain of the cookie that a line from a URL sets, if it sets one. -/
  setBy : String → Url → Option Domain
  cookies_congr : ∀ jar jar' u, (∀ d, covers d u.hostText → bucket jar d = bucket jar' d) →
    c.cookies jar u = c.cookies jar' u
  bucket_congr : ∀ jar jar' line u d, bucket jar d = bucket jar' d →
    bucket (c.parseCookie jar line u) d = bucket (c.parseCookie jar' line u) d
  bucket_of_ne : ∀ jar line u d, setBy line u ≠ some d →
    bucket (c.parseCookie jar line u) d = bucket jar d

/-- What shows of a slot that is there: the task inside, and the connection up
    to its number. -/
def State.slotView (s : State cl) (key : String) : Option (Option Nat × Option PooledConnection) :=
  (s.pool key).map (fun slot => (slot.holder, slot.conn.map PooledConnection.unnamed))

theorem slotView_content {s s' : State cl} {key : String} (h : s.slotView key = s'.slotView key) :
    (s.content key).map PooledConnection.unnamed =
      (s'.content key).map PooledConnection.unnamed := by
  have hview : ∀ s : State cl, (s.content key).map PooledConnection.unnamed =
      (s.slotView key).bind Prod.snd := by
    intro s
    rw [State.content, State.slotView]
    cases s.pool key <;> rfl
  rw [hview, hview, h]

theorem slotView_free {s s' : State cl} {key : String} (h : s.slotView key = s'.slotView key) :
    s.free key = s'.free key := by
  have hview : ∀ s : State cl, s.free key = (s.slotView key).any (fun view => view.1.isNone) := by
    intro s
    rw [State.free, State.slotView]
    cases s.pool key <;> rfl
  rw [hview, hview, h]

/-- Two clients agree on everything a request to one of these hosts can see. -/
structure Agree (laws : CookieLaws cl.crates) (hosts : String → Prop) (s s' : State cl) :
    Prop where
  altSvc : ∀ host port, hosts host →
    s.altSvc (originKey host port) = s'.altSvc (originKey host port)
  hints : ∀ u, cl.crates.url.Web u → hosts u.hostText →
    s.hintCache u.origin.asciiSerialization = s'.hintCache u.origin.asciiSerialization
  slots : ∀ u h3, hosts u.hostText → s.slotView (slotKey cl u h3) = s'.slotView (slotKey cl u h3)
  cookies : ∀ d host, hosts host → laws.covers d host →
    laws.bucket s.jar d = laws.bucket s'.jar d

section Agree

variable {laws : CookieLaws cl.crates} {hosts : String → Prop} {s s' s'' : State cl}

theorem Agree.refl (s : State cl) : Agree laws hosts s s :=
  ⟨fun _ _ _ => rfl, fun _ _ _ => rfl, fun _ _ _ => rfl, fun _ _ _ _ => rfl⟩

theorem Agree.symm (h : Agree laws hosts s s') : Agree laws hosts s' s :=
  ⟨fun host port hh => (h.altSvc host port hh).symm, fun u hu hh => (h.hints u hu hh).symm,
    fun u h3 hh => (h.slots u h3 hh).symm, fun d host hh hd => (h.cookies d host hh hd).symm⟩

theorem Agree.trans (h : Agree laws hosts s s') (h' : Agree laws hosts s' s'') :
    Agree laws hosts s s'' :=
  ⟨fun host port hh => (h.altSvc host port hh).trans (h'.altSvc host port hh),
    fun u hu hh => (h.hints u hu hh).trans (h'.hints u hu hh),
    fun u h3 hh => (h.slots u h3 hh).trans (h'.slots u h3 hh),
    fun d host hh hd => (h.cookies d host hh hd).trans (h'.cookies d host hh hd)⟩

/-- What a request sees of two clients that agree. -/
theorem Agree.sight (h : Agree laws hosts s s') {ω : Type} (W : Servers ω) (srv : ω)
    (v : Vars cl.crates.url) (hv : hosts v.parsedUrl.hostText)
    (hweb : cl.crates.url.Web v.parsedUrl) : W.sight srv s v = W.sight srv s' v := by
  have hcookies : cl.crates.cookies s.jar v.parsedUrl = cl.crates.cookies s'.jar v.parsedUrl :=
    laws.cookies_congr _ _ _ (fun d hd => h.cookies d _ hv hd)
  have hrouted : (s.content (v.poolKey cl)).map PooledConnection.unnamed =
      (s'.content (v.poolKey cl)).map PooledConnection.unnamed :=
    slotView_content (h.slots v.parsedUrl v.hasAltSvc hv)
  have hh2 : (s.content (v.h2PoolKey cl)).map PooledConnection.unnamed =
      (s'.content (v.h2PoolKey cl)).map PooledConnection.unnamed :=
    slotView_content (h.slots v.parsedUrl false hv)
  rw [Servers.sight, Servers.sight, cookieHeader, cookieHeader, hcookies, h.hints _ hweb hv,
    hrouted, hh2]

end Agree

/-- An effect on nothing but the keys of a URL. -/
def Effect.At (cl : Client Jar) (u : Url) : Effect → Prop
  | .evict key => key = u.routeKey
  | .storeCookies _ url | .storeHints _ url | .storeAltSvc _ url => url = u
  | .entry key | .lock key | .unlock key | .store key _ => ∃ h3, key = slotKey cl u h3
  | _ => True

theorem at_dialEffects (u : Url) (dialH3 : Bool) (outcome : DialOutcome) :
    ∀ e ∈ dialEffects cl dialH3 outcome, e.At cl u :=
  forall_mem_dialEffects (fun _ => trivial) (fun _ _ => trivial) outcome

/-- A hop writes under the keys of its URL. -/
theorem move_at {s : State cl} {v : Vars cl.crates.url} {stage : Stage} {input : Input}
    {pc : Pc cl.crates.url} {fx : List Effect} (hm : StageMove s v stage input pc fx) :
    ∀ e ∈ fx, e.At cl v.parsedUrl := by
  have hrouted : ∃ h3, v.poolKey cl = slotKey cl v.parsedUrl h3 := ⟨_, rfl⟩
  have hh2 : ∃ h3, v.h2PoolKey cl = slotKey cl v.parsedUrl h3 := ⟨false, rfl⟩
  have hdial : ∀ dialH3 outcome, ∀ e ∈ dialEffects cl dialH3 outcome, e.At cl v.parsedUrl :=
    at_dialEffects v.parsedUrl
  cases hm with
  | dialH3Failed => exact hdial _ _
  | dialed | dialH2Failed | fallbackDialed | fallbackDialFailed | midDialed | midDialFailed =>
      refine List.forall_mem_append.mpr ⟨hdial _ _, ?_⟩
      simp only [List.forall_mem_cons, Effect.At, hrouted, hh2, List.not_mem_nil, false_implies,
        implies_true, and_self]
  | _ => simp only [List.forall_mem_cons, Effect.At, hrouted, hh2, List.not_mem_nil, false_implies,
      implies_true, and_self]

section Effects

variable (t : Nat) {s s' : State cl}

theorem slotView_setSlot (key : String) (f : Slot → Slot)
    (g : Option Nat × Option PooledConnection → Option Nat × Option PooledConnection)
    (h : ∀ slot, ((f slot).holder, (f slot).conn.map PooledConnection.unnamed) =
      g (slot.holder, slot.conn.map PooledConnection.unnamed)) :
    (s.setSlot key f).slotView key = (s.slotView key).map g := by
  rw [State.slotView, setSlot_pool_self, State.slotView, Option.map_map, Option.map_map]
  exact congrArg (fun view => (s.pool key).map view) (funext h)

/-- What is stored in a slot that is there shows. -/
theorem slotView_store (key : String) (c : Option PooledConnection) :
    (s.apply t (.store key c)).slotView key =
      (s.slotView key).map (fun view => (view.1, c.map PooledConnection.unnamed)) :=
  slotView_setSlot key _ _ (fun _ => rfl)

theorem slotView_lock (key : String) :
    (s.apply t (.lock key)).slotView key = (s.slotView key).map (fun view => (some t, view.2)) :=
  slotView_setSlot key _ _ (fun _ => rfl)

theorem slotView_unlock (key : String) :
    (s.apply t (.unlock key)).slotView key = (s.slotView key).map (fun view => (none, view.2)) :=
  slotView_setSlot key _ _ (fun _ => rfl)

theorem slotView_entry (key : String) :
    (s.apply t (.entry key)).slotView key = some ((s.slotView key).getD (none, none)) := by
  rw [State.slotView, State.apply]
  simp only [Function.update_self, Option.map_some, State.slotView]
  cases s.pool key <;> rfl

/-- The slot an effect is on. -/
def Effect.slot? : Effect → Option String
  | .entry key | .lock key | .unlock key | .store key _ => some key
  | _ => none

/-- Nothing shows of an effect on another slot. -/
theorem slotView_of_ne {e : Effect} {k : String} (h : e.slot? ≠ some k) :
    (s.apply t e).slotView k = s.slotView k := by
  have hset : ∀ {key} (f : Slot → Slot), some key ≠ some k →
      (s.setSlot key f).slotView k = s.slotView k := by
    intro key f hne
    rw [State.slotView, setSlot_pool_of_ne s f (fun hk => hne (congrArg some hk.symm)),
      State.slotView]
  cases e with
  | entry key =>
      have hk : k ≠ key := fun hk => h (congrArg some hk.symm)
      rw [State.slotView, State.apply]
      simp only [Function.update_of_ne hk, State.slotView]
  | lock key | unlock key | store key c => exact hset _ h
  | _ => rfl

/-- An effect does to what shows of a slot what shows of the slot decides. -/
theorem slotView_congr {e : Effect} {k : String} (h : s.slotView k = s'.slotView k) :
    (s.apply t e).slotView k = (s'.apply t e).slotView k := by
  by_cases hk : e.slot? = some k
  · cases e with
    | entry key =>
        cases hk
        rw [slotView_entry, slotView_entry, h]
    | lock key =>
        cases hk
        rw [slotView_lock, slotView_lock, h]
    | unlock key =>
        cases hk
        rw [slotView_unlock, slotView_unlock, h]
    | store key c =>
        cases hk
        rw [slotView_store, slotView_store, h]
    | _ => exact absurd hk (by simp only [Effect.slot?, reduceCtorEq, not_false_eq_true])
  · rw [slotView_of_ne t hk, slotView_of_ne t hk, h]

theorem storeAltSvc_of_ne (c : AltSvcCache) (resp : Response) {u : Url} {key : String}
    (h : key ≠ u.learnKey) : storeAltSvc c resp u key = c key := by
  unfold storeAltSvc
  cases hl : learnedAltSvc resp u with
  | none => rfl
  | some entry => exact AltSvcCache.insert_of_ne c _ (learnedAltSvc_key hl ▸ h)

/-- The response sets a cookie of this domain. -/
def CookieLaws.Sets {c : Crates Jar} (laws : CookieLaws c) (resp : Response) (u : Url)
    (d : laws.Domain) : Prop :=
  ∃ v ∈ resp.headers.getAll "set-cookie", ∃ line, v.toStr = some line ∧ laws.setBy line u = some d

variable {laws : CookieLaws cl.crates} {hosts : String → Prop}

theorem bucket_storeCookies_of_not_sets (jar : Jar) {resp : Response} {u : Url} {d : laws.Domain}
    (h : ¬ laws.Sets resp u d) :
    laws.bucket (storeCookies cl jar resp u) d = laws.bucket jar d := by
  unfold storeCookies
  refine List.foldlRecOn _ _ (motive := fun jar' => laws.bucket jar' d = laws.bucket jar d) rfl
    (fun jar' hjar' v hv => ?_)
  cases hstr : v.toStr with
  | none => exact hjar'
  | some line =>
      exact (laws.bucket_of_ne _ _ _ _ (fun hset => h ⟨v, hv, line, hstr, hset⟩)).trans hjar'

theorem bucket_storeCookies_congr {jar jar' : Jar} (resp : Response) (u : Url) {d : laws.Domain}
    (h : laws.bucket jar d = laws.bucket jar' d) :
    laws.bucket (storeCookies cl jar resp u) d = laws.bucket (storeCookies cl jar' resp u) d := by
  unfold storeCookies
  induction resp.headers.getAll "set-cookie" generalizing jar jar' with
  | nil => exact h
  | cons v vs ih =>
      rw [List.foldl_cons, List.foldl_cons]
      cases v.toStr with
      | none => exact ih h
      | some line => exact ih (laws.bucket_congr _ _ line u d h)

theorem agree_of_eq (haltSvc : s.altSvc = s'.altSvc) (hhints : s.hintCache = s'.hintCache)
    (hslots : ∀ key, s.slotView key = s'.slotView key) (hjar : s.jar = s'.jar) :
    Agree laws hosts s s' :=
  ⟨fun _ _ _ => by rw [haltSvc], fun _ _ _ => by rw [hhints], fun _ _ _ => hslots _,
    fun _ _ _ _ => by rw [hjar]⟩

/-- Nobody sees the number in an effect. -/
theorem agree_apply_unnamed (e : Effect) :
    Agree laws hosts (s.apply t e) (s.apply t e.unnamed) := by
  cases e with
  | store key c =>
      refine agree_of_eq rfl rfl (fun k => ?_) rfl
      by_cases hk : key = k
      · rw [← hk, Effect.unnamed, slotView_store, slotView_store, Option.map_map]
        rcases c with _ | conn | session <;> rfl
      · have hne : ∀ c', (Effect.store key c').slot? ≠ some k := fun _ hc => hk (Option.some.inj hc)
        rw [slotView_of_ne t (hne c), Effect.unnamed, slotView_of_ne t (hne _)]
  | _ => exact agree_of_eq rfl rfl (fun _ => rfl) rfl

/-- An effect keeps two clients in agreement. -/
theorem agree_apply (e : Effect) (h : Agree laws hosts s s') :
    Agree laws hosts (s.apply t e) (s'.apply t e) := by
  -- Where both are written, both read what was written.
  have hupdate : ∀ {β : Type} (f g : String → β) (key k : String) (b : β), f k = g k →
      Function.update f key b k = Function.update g key b k := by
    intro β f g key k b hk
    by_cases heq : k = key
    · rw [heq, Function.update_self, Function.update_self]
    · rw [Function.update_of_ne heq, Function.update_of_ne heq, hk]
  have hslots : ∀ u h3, hosts u.hostText →
      (s.apply t e).slotView (slotKey cl u h3) = (s'.apply t e).slotView (slotKey cl u h3) :=
    fun u h3 hh => slotView_congr t (h.slots u h3 hh)
  cases e with
  | evict key =>
      exact ⟨fun host port hh => hupdate _ _ _ _ _ (h.altSvc host port hh), h.hints, hslots,
        h.cookies⟩
  | storeAltSvc resp url =>
      refine ⟨fun host port hh => ?_, h.hints, hslots, h.cookies⟩
      simp only [State.apply, storeAltSvc]
      cases learnedAltSvc resp url with
      | none => exact h.altSvc host port hh
      | some entry => exact hupdate _ _ _ _ _ (h.altSvc host port hh)
  | storeHints resp url =>
      refine ⟨h.altSvc, fun u hu hh => ?_, hslots, h.cookies⟩
      simp only [State.apply, storeHints_asks]
      cases asks resp with
      | true => exact hupdate _ _ _ _ _ (h.hints u hu hh)
      | false => exact h.hints u hu hh
  | storeCookies resp url =>
      exact ⟨h.altSvc, h.hints, hslots,
        fun d host hh hd => bucket_storeCookies_congr resp url (h.cookies d host hh hd)⟩
  | _ => exact ⟨h.altSvc, h.hints, hslots, h.cookies⟩

/-- An effect under the keys of one host is not seen by requests to others. -/
theorem agree_apply_other {e : Effect} {u : Url} (hlegal : cl.crates.url.LegalHosts)
    (hat : e.At cl u) (hweb : cl.crates.url.Web u) (hout : ¬ hosts u.hostText)
    (hcookies : ∀ resp, e = .storeCookies resp u → ∀ d host, laws.Sets resp u d → hosts host →
      ¬ laws.covers d host) : Agree laws hosts (s.apply t e) s := by
  have hne : ∀ {host : String}, hosts host → host ≠ u.hostText := fun hh heq => hout (heq ▸ hh)
  -- Each of the keys determines the host it was built from.
  -- Each of the keys determines the host it was built from.
  have hkey : ∀ {host port port'}, hosts host → originKey host port ≠ originKey u.hostText port' :=
    fun hh heq => hne hh (originKey_inj heq).1
  have hslots : (∀ key, e.slot? = some key → ∃ h3, key = slotKey cl u h3) → ∀ w h3,
      hosts w.hostText →
        (s.apply t e).slotView (slotKey cl w h3) = s.slotView (slotKey cl w h3) := by
    intro hslot w h3 hh
    refine slotView_of_ne t (fun hc => ?_)
    rcases hslot _ hc with ⟨h3', hk⟩
    exact hne hh (poolKey_inj hk).1
  have hrefl : Agree laws hosts s s := Agree.refl s
  cases e with
  | evict key =>
      refine ⟨fun host port hh => ?_, hrefl.hints, hrefl.slots, hrefl.cookies⟩
      have hk : key = originKey u.hostText u.connectPort := hat
      exact AltSvcCache.remove_of_ne _ (hk ▸ hkey hh)
  | storeAltSvc resp url =>
      cases (hat : url = u)
      exact ⟨fun host port hh => storeAltSvc_of_ne _ resp (hkey hh), hrefl.hints, hrefl.slots,
        hrefl.cookies⟩
  | storeHints resp url =>
      cases (hat : url = u)
      refine ⟨hrefl.altSvc, fun w hw hh => ?_, hrefl.slots, hrefl.cookies⟩
      simp only [State.apply, storeHints_asks]
      cases asks resp with
      | true =>
          -- Only URLs of the web are told apart by their serialized origin.
          exact Function.update_of_ne
            (fun hc => hne hh (serialization_hostText hlegal hw hweb hc)) _ _
      | false => rfl
  | storeCookies resp url =>
      cases (hat : url = u)
      exact ⟨hrefl.altSvc, hrefl.hints, hrefl.slots, fun d host hh hd =>
        bucket_storeCookies_of_not_sets _ (fun hset => hcookies resp rfl d host hset hh hd)⟩
  | entry key | lock key | unlock key | store key =>
      refine ⟨hrefl.altSvc, hrefl.hints, hslots (fun k hk => ?_), hrefl.cookies⟩
      rw [← Option.some.inj hk]
      exact hat
  | _ => exact ⟨hrefl.altSvc, hrefl.hints, hrefl.slots, hrefl.cookies⟩

/-- Two clients stay in agreement through moves that differ in numbers. -/
theorem agree_after {fx fx' : List Effect} (h : Agree laws hosts s s')
    (hfx : fx.map Effect.unnamed = fx'.map Effect.unnamed) (pc pc' : Pc cl.crates.url) :
    Agree laws hosts (s.after t pc fx) (s'.after t pc' fx') := by
  -- Each side agrees with the moves without numbers, which are the same.
  have hunnamed : ∀ (fx : List Effect) {s s' : State cl}, Agree laws hosts s s' →
      Agree laws hosts (fx.foldl (State.apply t) s)
        ((fx.map Effect.unnamed).foldl (State.apply t) s') := by
    intro fx
    induction fx with
    | nil => exact fun h => h
    | cons e fx ih => exact fun h => ih ((agree_apply t e h).trans (agree_apply_unnamed t e))
  have hboth := (hunnamed fx h).trans (hfx ▸ (hunnamed fx' (Agree.refl s')).symm)
  exact ⟨hboth.altSvc, hboth.hints, hboth.slots, hboth.cookies⟩

/-- A move under the keys of one host is not seen by requests to others. -/
theorem agree_after_other {fx : List Effect} {u : Url} (hlegal : cl.crates.url.LegalHosts)
    (hat : ∀ e ∈ fx, e.At cl u) (hweb : cl.crates.url.Web u) (hout : ¬ hosts u.hostText)
    (hcookies : ∀ resp, .storeCookies resp u ∈ fx → ∀ d host, laws.Sets resp u d → hosts host →
      ¬ laws.covers d host) (pc : Pc cl.crates.url) : Agree laws hosts (s.after t pc fx) s := by
  have hfold := List.foldlRecOn fx (State.apply t) (motive := fun s' : State cl =>
    Agree laws hosts s' s) (Agree.refl s) (fun s' hs' e he =>
      (agree_apply_other t hlegal (hat e he) hweb hout
        (fun resp heq => hcookies resp (heq ▸ he))).trans hs')
  exact ⟨hfold.altSvc, hfold.hints, hfold.slots, hfold.cookies⟩

end Effects

end Quik
