import Quik.Client

/-!
# What a Step of the Client Can Do

The inversion of `step`, said once. `StageMove` has one constructor for each
way a hop can move, with the condition it moves under, where it goes and what
it does; `stageStep_eq_some` is the case analysis every invariant starts from.

The effects are then read field by field. Each lemma about a list of effects
is an induction on the list, and says what has to be in it for a field to
change: a store for the content of a slot, a lock or an unlock for its holder,
a socket for the log of sockets.

## Main definitions

* `StageMove`, `TaskMove`: The ways a hop and a task can move.
* `State.holder`: The task inside a slot.
* `socketsOf`, `deliveriesOf`: What a list of effects shows to the outside.

## Theorems

* `stageStep_eq_some`, `step_task_eq_some`, `step_driver_eq_some`: Inversion.
* `forall_mem_dialEffects`: What a dial does.
* `foldl_apply_content`: Only a store puts a connection into a slot.
* `foldl_apply_holder_eq`: Only a lock or an unlock changes its holder.
-/

namespace Quik

open Transition

variable {Jar : Type} {cl : Client Jar}

/-- The ways a hop can move. -/
inductive StageMove (s : State cl) (v : Vars cl.crates.url) :
    Stage → Input → Pc cl.crates.url → List Effect → Prop where
  | cookies : StageMove s v .cookies .go
      (.inHop { v with cookieHeader := cookieHeader cl s.jar v.parsedUrl } .hints) []
  | hints : StageMove s v .hints .go
      (.inHop { v with acceptCh := s.hintCache v.parsedUrl.origin.asciiSerialization }
        .slotLookup) []
  | slotLookup : StageMove s v .slotLookup .go (.inHop v .lockClone) [.entry (v.poolKey cl)]
  | lockClone (hfree : s.free (v.poolKey cl) = true) : StageMove s v .lockClone .go
      (.inHop v (afterClone (s.content (v.poolKey cl)))) []
  | readyAlive (conn) : StageMove s v (.ready conn) (.ready true)
      (.inHop v (.send (.http2 conn))) []
  | readyDead (conn) : StageMove s v (.ready conn) (.ready false) (.inHop v (.lockClear conn)) []
  | lockClear (conn) (hfree : s.free (v.poolKey cl) = true) : StageMove s v (.lockClear conn) .go
      (.inHop v .lockClone) [.store (v.poolKey cl) none]
  | lockDialEmpty (hfree : s.free (v.poolKey cl) = true)
      (hnone : s.content (v.poolKey cl) = none) :
      StageMove s v .lockDial .go (.inHop v .dial) [.lock (v.poolKey cl)]
  | lockDialTaken (hfree : s.free (v.poolKey cl) = true) :
      StageMove s v .lockDial .go (.inHop v .lockClone) []
  | dialed (outcome h) (hres : dialResult s v.parsedUrl v.hasAltSvc outcome = .ok h) :
      StageMove s v .dial (.dial outcome) (.inHop v (.send (pooled v.hasAltSvc h)))
        (dialEffects cl v.hasAltSvc outcome ++
          [.store (v.poolKey cl) (some (pooled v.hasAltSvc h)), .unlock (v.poolKey cl)])
  | dialH3Failed (outcome e) (hres : dialResult s v.parsedUrl v.hasAltSvc outcome = .error e)
      (halt : v.hasAltSvc = true) : StageMove s v .dial (.dial outcome) (.inHop v .evictDial)
        (dialEffects cl v.hasAltSvc outcome)
  | dialH2Failed (outcome e) (hres : dialResult s v.parsedUrl v.hasAltSvc outcome = .error e)
      (halt : v.hasAltSvc = false) : StageMove s v .dial (.dial outcome) (.done (.error e))
        (dialEffects cl v.hasAltSvc outcome ++ [.unlock (v.poolKey cl)])
  | evictDial : StageMove s v .evictDial .go (.inHop v .fallbackLookup)
      [.evict v.parsedUrl.routeKey]
  | fallbackLookup : StageMove s v .fallbackLookup .go (.inHop v .fallbackLock)
      [.entry (v.h2PoolKey cl)]
  | fallbackLockEmpty (hfree : s.free (v.h2PoolKey cl) = true)
      (hnone : s.content (v.h2PoolKey cl) = none) :
      StageMove s v .fallbackLock .go (.inHop v .fallbackDial) [.lock (v.h2PoolKey cl)]
  | fallbackLockTaken (conn) (hfree : s.free (v.h2PoolKey cl) = true)
      (hcontent : s.content (v.h2PoolKey cl) = some conn) :
      StageMove s v .fallbackLock .go (.inHop v (.send conn)) [.unlock (v.poolKey cl)]
  | fallbackDialed (outcome h) (hres : dialResult s v.parsedUrl false outcome = .ok h) :
      StageMove s v .fallbackDial (.dial outcome) (.inHop v (.send (.http2 h)))
        (dialEffects cl false outcome ++ [.store (v.h2PoolKey cl) (some (.http2 h)),
          .unlock (v.h2PoolKey cl), .unlock (v.poolKey cl)])
  | fallbackDialFailed (outcome e) (hres : dialResult s v.parsedUrl false outcome = .error e) :
      StageMove s v .fallbackDial (.dial outcome) (.done (.error e))
        (dialEffects cl false outcome ++ [.unlock (v.h2PoolKey cl), .unlock (v.poolKey cl)])
  | sendUnbuilt (conn input e) (hb : buildRequest v = .error e) :
      StageMove s v (.send conn) input (.done (.error e)) []
  | sendRefused (conn request e) (hb : buildRequest v = .ok request) :
      StageMove s v (.send (.http2 conn)) (.transmit (some e)) (.done (.error e)) []
  | sendH2 (conn request) (hb : buildRequest v = .ok request) :
      StageMove s v (.send (.http2 conn)) (.transmit none)
        (.inHop v (.awaitH2 conn request.uri.text)) [.deliver (h2Delivery v conn)]
  | sendH3Closed (session request d) (hb : buildRequest v = .ok request)
      (hd : s.drivers session.id = some d) (hexit : d.exited = true) :
      StageMove s v (.send (.http3 session)) .go (.inHop v .evictSend) []
  | sendH3 (session request d) (hb : buildRequest v = .ok request)
      (hd : s.drivers session.id = some d) (hlive : d.exited = false)
      (hroom : d.queue.length < Driver.capacity) :
      StageMove s v (.send (.http3 session)) .go (.inHop v (.awaitH3 session))
        [.command session.id (sessionCommand request v.hop.currentBody v.ticket)]
  | respondH2 (conn urlStr resp) : StageMove s v (.awaitH2 conn urlStr) (.respond (.ok resp))
      (.inHop v (.storeCookies (h2Response urlStr resp))) []
  | failH2 (conn urlStr e) : StageMove s v (.awaitH2 conn urlStr) (.respond (.error e))
      (.done (.error e)) []
  | respondH3 (session resp) (hr : sessionReply s session v.ticket = some (.ok resp)) :
      StageMove s v (.awaitH3 session) .go (.inHop v (.storeCookies resp)) []
  | failH3 (session e) (hr : sessionReply s session v.ticket = some (.error e)) :
      StageMove s v (.awaitH3 session) .go (.inHop v .evictSend) []
  | evictSend : StageMove s v .evictSend .go (.inHop v .midLookup) [.evict v.parsedUrl.routeKey]
  | midLookup : StageMove s v .midLookup .go (.inHop v .midLock) [.entry (v.h2PoolKey cl)]
  | midLock (hfree : s.free (v.h2PoolKey cl) = true) : StageMove s v .midLock .go
      (.inHop v (afterMidLock (s.content (v.h2PoolKey cl)))) [.lock (v.h2PoolKey cl)]
  | midReadyAlive (conn) : StageMove s v (.midReady conn) (.ready true) (.inHop v (.midSend conn))
      [.store (v.h2PoolKey cl) (some (.http2 conn))]
  | midReadyDead (conn) : StageMove s v (.midReady conn) (.ready false) (.inHop v .midDial) []
  | midDialed (outcome h) (hres : dialResult s v.parsedUrl false outcome = .ok h) :
      StageMove s v .midDial (.dial outcome) (.inHop v (.midSend h))
        (dialEffects cl false outcome ++ [.store (v.h2PoolKey cl) (some (.http2 h))])
  | midDialFailed (outcome e) (hres : dialResult s v.parsedUrl false outcome = .error e) :
      StageMove s v .midDial (.dial outcome) (.done (.error e))
        (dialEffects cl false outcome ++ [.unlock (v.h2PoolKey cl)])
  | midSendUnbuilt (conn refused e) (hb : buildRequest v = .error e) :
      StageMove s v (.midSend conn) (.transmit refused) (.done (.error e))
        [.unlock (v.h2PoolKey cl)]
  | midSendRefused (conn request e) (hb : buildRequest v = .ok request) :
      StageMove s v (.midSend conn) (.transmit (some e)) (.done (.error e))
        [.unlock (v.h2PoolKey cl)]
  | midSend (conn request) (hb : buildRequest v = .ok request) :
      StageMove s v (.midSend conn) (.transmit none) (.inHop v (.midAwait conn request.uri.text))
        [.deliver (h2Delivery v conn)]
  | midRespond (conn urlStr resp) : StageMove s v (.midAwait conn urlStr) (.respond (.ok resp))
      (.inHop v (.storeCookies (h2Response urlStr resp))) [.unlock (v.h2PoolKey cl)]
  | midFail (conn urlStr e) : StageMove s v (.midAwait conn urlStr) (.respond (.error e))
      (.done (.error e)) [.unlock (v.h2PoolKey cl)]
  | storeCookies (resp) : StageMove s v (.storeCookies resp) .go (.inHop v (.storeHints resp))
      [.storeCookies resp v.parsedUrl]
  | storeHints (resp) : StageMove s v (.storeHints resp) .go (.inHop v (.storeAltSvc resp))
      [.storeHints resp v.parsedUrl]
  | storeAltSvc (resp) : StageMove s v (.storeAltSvc resp) .go (.inHop v (.redirect resp))
      [.storeAltSvc resp v.parsedUrl]
  | redirectFailed (resp e) (he : v.hop.evaluate cl.crates.url v.parsedUrl resp = .error e) :
      StageMove s v (.redirect resp) .go (.done (.error e)) []
  | answered (resp) (he : v.hop.evaluate cl.crates.url v.parsedUrl resp = .ok none) :
      StageMove s v (.redirect resp) .go (.done (.ok (resp.setUrl v.hop.currentUrlStr))) []
  | redirected (resp hop) (he : v.hop.evaluate cl.crates.url v.parsedUrl resp = .ok (some hop)) :
      StageMove s v (.redirect resp) .go (.top hop v.context) []

/-- Every step of a hop is one of the moves. -/
theorem stageStep_eq_some {s : State cl} {v : Vars cl.crates.url} {stage : Stage} {input : Input}
    {pc : Pc cl.crates.url} {fx : List Effect}
    (h : stageStep s v stage input = some (pc, fx)) : StageMove s v stage input pc fx := by
  -- One case for each arm of `stageStep`, in its order.
  unfold stageStep at h
  split at h
  case h_1 => cases h; exact .cookies
  case h_2 => cases h; exact .hints
  case h_3 => cases h; exact .slotLookup
  case h_4 =>
      split at h
      · cases h; exact .lockClone ‹_›
      · cases h
  case h_5 conn alive =>
      cases alive with
      | true => cases h; exact .readyAlive conn
      | false => cases h; exact .readyDead conn
  case h_6 conn =>
      split at h
      · cases h; exact .lockClear conn ‹_›
      · cases h
  case h_7 =>
      split at h
      · split at h
        · cases h; exact .lockDialEmpty ‹_› ‹_›
        · cases h; exact .lockDialTaken ‹_›
      · cases h
  case h_8 outcome =>
      simp only at h
      split at h
      · cases h; exact .dialed outcome _ ‹_›
      · split at h
        · cases h; exact .dialH3Failed outcome _ ‹_› ‹_›
        · cases h; exact .dialH2Failed outcome _ ‹_› (Bool.eq_false_iff.mpr ‹_›)
  case h_9 => cases h; exact .evictDial
  case h_10 => cases h; exact .fallbackLookup
  case h_11 =>
      split at h
      · split at h
        · cases h; exact .fallbackLockEmpty ‹_› ‹_›
        · cases h; exact .fallbackLockTaken _ ‹_› ‹_›
      · cases h
  case h_12 outcome =>
      simp only at h
      split at h
      · cases h
        rw [List.append_assoc]
        exact .fallbackDialed outcome _ ‹_›
      · cases h; exact .fallbackDialFailed outcome _ ‹_›
  case h_13 conn refused =>
      split at h
      · cases h; exact .sendUnbuilt _ _ _ ‹_›
      · cases h; exact .sendRefused conn _ _ ‹_›
      · cases h; exact .sendH2 conn _ ‹_›
  case h_14 session =>
      split at h
      · cases h; exact .sendUnbuilt _ _ _ ‹_›
      · split at h
        · cases h
        · split at h
          · cases h; exact .sendH3Closed session _ _ ‹_› ‹_› ‹_›
          · split at h
            · cases h
              exact .sendH3 session _ _ ‹_› ‹_› (Bool.eq_false_iff.mpr ‹_›) ‹_›
            · cases h
  case h_15 conn urlStr r =>
      split at h
      · cases h; exact .respondH2 conn urlStr _
      · cases h; exact .failH2 conn urlStr _
  case h_16 session =>
      split at h
      · cases h
      · cases h; exact .respondH3 session _ ‹_›
      · cases h; exact .failH3 session _ ‹_›
  case h_17 => cases h; exact .evictSend
  case h_18 => cases h; exact .midLookup
  case h_19 =>
      split at h
      · cases h; exact .midLock ‹_›
      · cases h
  case h_20 conn alive =>
      cases alive with
      | true => cases h; exact .midReadyAlive conn
      | false => cases h; exact .midReadyDead conn
  case h_21 outcome =>
      simp only at h
      split at h
      · cases h; exact .midDialed outcome _ ‹_›
      · cases h; exact .midDialFailed outcome _ ‹_›
  case h_22 conn refused =>
      split at h
      · cases h; exact .midSendUnbuilt conn _ _ ‹_›
      · cases h; exact .midSendRefused conn _ _ ‹_›
      · cases h; exact .midSend conn _ ‹_›
  case h_23 conn urlStr r =>
      split at h
      · cases h; exact .midRespond conn urlStr _
      · cases h; exact .midFail conn urlStr _
  case h_24 resp => cases h; exact .storeCookies resp
  case h_25 resp => cases h; exact .storeHints resp
  case h_26 resp => cases h; exact .storeAltSvc resp
  case h_27 resp =>
      split at h
      · cases h; exact .redirectFailed resp _ ‹_›
      · cases h; exact .answered resp ‹_›
      · cases h; exact .redirected resp _ ‹_›
  case h_28 => cases h

/-- A dial connects a socket and counts a connection, and does nothing else. -/
theorem forall_mem_dialEffects {P : Effect → Prop} (hsocket : ∀ sock, P (.socket sock))
    {dialH3 : Bool} (hconnection : ∀ addr localAddr,
      P (.connection (if dialH3 then some (Driver.dialed addr localAddr) else none)))
    (outcome : DialOutcome) : ∀ e ∈ dialEffects cl dialH3 outcome, P e := by
  cases outcome with
  | unreachable => exact fun e he => absurd he List.not_mem_nil
  | broken => exact List.forall_mem_singleton.mpr (hsocket _)
  | connected =>
      exact List.forall_mem_cons.mpr ⟨hsocket _, List.forall_mem_singleton.mpr (hconnection _ _)⟩

/-- The ways a task can move. -/
inductive TaskMove (s : State cl) :
    Pc cl.crates.url → Input → Pc cl.crates.url → List Effect → Prop where
  | call (method url body context) : TaskMove s .idle (.call method url body context)
      (.top (Hop.initial method url body) context) []
  | enter (v : Vars cl.crates.url) (hticket : v.ticket = s.nextTicket)
      (hroute : v.hasAltSvc = (s.altSvc v.parsedUrl.routeKey).isSome) :
      TaskMove s (.top v.hop v.context) .go (.inHop v .cookies) [.ticket]
  | refuse (hop context e) : TaskMove s (.top hop context) .go (.done (.error e)) []
  | stage {v stage input pc fx} (hm : StageMove s v stage input pc fx) :
      TaskMove s (.inHop v stage) input pc fx

theorem taskStep_eq_some {s : State cl} {pc pc' : Pc cl.crates.url} {input : Input}
    {fx : List Effect} (h : taskStep s pc input = some (pc', fx)) : TaskMove s pc input pc' fx := by
  unfold taskStep at h
  split at h
  case h_1 method url body context => cases h; exact .call method url body context
  case h_2 hop context =>
      rw [Option.some.injEq] at h
      unfold enterHop at h
      split at h
      · rename_i hl
        split at h
        · cases h; exact .refuse hop context _
        · rename_i parsedUrl hp
          split at h
          · rename_i hh
            cases h
            exact .enter
              { hop := hop, context := context, parsedUrl := parsedUrl,
                hasAltSvc := (s.altSvc parsedUrl.routeKey).isSome, ticket := s.nextTicket,
                inRange := hl, parsed := hp, hasHost := hh } rfl rfl
          · cases h; exact .refuse hop context _
      · cases h; exact .refuse hop context _
  case h_3 v stage input => exact .stage (stageStep_eq_some h)
  case h_4 => cases h

/-- A step of a task moves the task and applies the effects of the move. -/
theorem step_task_eq_some {s s' : State cl} {t : Nat} {input : Input}
    (h : step s (.task t input) = some s') :
    ∃ pc fx, TaskMove s (s.tasks t) input pc fx ∧ s' = s.after t pc fx := by
  simp only [step] at h
  split at h
  · cases h
  · rename_i pc fx hstep
    exact ⟨pc, fx, taskStep_eq_some hstep, (Option.some.inj h).symm⟩

/-- A step of a driver is a turn of its loop. -/
theorem step_driver_eq_some {s s' : State cl} {session : Nat} {e : Event}
    (h : step s (.driver session e) = some s') :
    ∃ d d', s.drivers session = some d ∧ Driver.step d e = some d' ∧
      s' = { s with
        drivers := Function.update s.drivers session (some d')
        deliveries := s.deliveries ++ deliveredBy session d e } := by
  simp only [step] at h
  split at h
  · cases h
  · split at h
    · cases h
    · rename_i d hd _ d' hd'
      exact ⟨d, d', hd, hd', (Option.some.inj h).symm⟩

/-- The task inside a slot. -/
def State.holder (s : State cl) (key : String) : Option Nat :=
  (s.pool key).bind Slot.holder

theorem State.isSome_of_holder {s : State cl} {key : String} {t : Nat}
    (h : s.holder key = some t) : (s.pool key).isSome = true := by
  rcases Option.bind_eq_some_iff.mp h with ⟨slot, hslot, _⟩
  rw [hslot, Option.isSome_some]

theorem State.free_holder {s : State cl} {key : String} (h : s.free key = true) :
    s.holder key = none ∧ (s.pool key).isSome = true := by
  unfold State.free at h
  cases hp : s.pool key with
  | none =>
      rw [hp] at h
      exact absurd h Bool.false_ne_true
  | some slot =>
      simp only [hp, Option.isNone_iff_eq_none] at h
      exact ⟨by rw [State.holder, hp, Option.bind_some, h], rfl⟩

theorem State.free_of_holder {s : State cl} {key : String} (h : s.holder key = none)
    (hslot : (s.pool key).isSome = true) : s.free key = true := by
  rcases Option.isSome_iff_exists.mp hslot with ⟨slot, hp⟩
  rw [State.holder, hp, Option.bind_some] at h
  rw [State.free, hp]
  exact Option.isNone_iff_eq_none.mpr h

section Effects

variable (t : Nat) (s : State cl)

@[simp] theorem setSlot_pool_self (key : String) (f : Slot → Slot) :
    (s.setSlot key f).pool key = (s.pool key).map f :=
  Function.update_self key _ s.pool

theorem setSlot_pool_of_ne {key k : String} (f : Slot → Slot) (h : k ≠ key) :
    (s.setSlot key f).pool k = s.pool k :=
  Function.update_of_ne h _ s.pool

/-- A field of the slots does not see an update that leaves it alone. -/
theorem setSlot_bind {β : Type} (field : Slot → Option β) {key k : String} {f : Slot → Slot}
    (h : k = key → ∀ slot, field (f slot) = field slot) :
    ((s.setSlot key f).pool k).bind field = (s.pool k).bind field := by
  by_cases hk : k = key
  · rw [hk, setSlot_pool_self]
    cases s.pool key with
    | none => rfl
    | some slot => exact h hk slot
  · rw [setSlot_pool_of_ne s f hk]

/-- A new slot reads like a slot that is not there. -/
theorem entry_bind {β : Type} (field : Slot → Option β) (hempty : field {} = none)
    (key k : String) :
    ((s.apply t (.entry key)).pool k).bind field = (s.pool k).bind field := by
  unfold State.apply
  by_cases hk : k = key
  · simp only [hk, Function.update_self]
    cases s.pool key with
    | none => exact hempty
    | some slot => rfl
  · simp only [Function.update_of_ne hk]

/-- Only a store changes the content of a slot. -/
theorem apply_content {e : Effect} {k : String} (h : ∀ c, e ≠ .store k c) :
    (s.apply t e).content k = s.content k := by
  cases e with
  | entry key => exact entry_bind t s Slot.conn rfl key k
  | lock key | unlock key => exact setSlot_bind s Slot.conn (fun _ _ => rfl)
  | store key conn => exact setSlot_bind s Slot.conn (fun hk => absurd rfl (hk ▸ h conn))
  | _ => rfl

/-- Only a lock or an unlock changes its holder. -/
theorem apply_holder {e : Effect} {k : String} (hl : e ≠ .lock k) (hu : e ≠ .unlock k) :
    (s.apply t e).holder k = s.holder k := by
  cases e with
  | entry key => exact entry_bind t s Slot.holder rfl key k
  | lock key => exact setSlot_bind s Slot.holder (fun hk => absurd rfl (hk ▸ hl))
  | unlock key => exact setSlot_bind s Slot.holder (fun hk => absurd rfl (hk ▸ hu))
  | store key conn => exact setSlot_bind s Slot.holder (fun _ _ => rfl)
  | _ => rfl

/-- A slot is never removed. -/
theorem apply_isSome {e : Effect} {k : String} (h : (s.pool k).isSome = true) :
    ((s.apply t e).pool k).isSome = true := by
  have hset : ∀ key f, ((s.setSlot key f).pool k).isSome = true := by
    intro key f
    by_cases hk : k = key
    · rw [hk] at h ⊢
      rw [setSlot_pool_self, Option.isSome_map, h]
    · rw [setSlot_pool_of_ne s f hk, h]
  cases e with
  | entry key =>
      unfold State.apply
      by_cases hk : k = key
      · simp only [hk, Function.update_self, Option.isSome_some]
      · simp only [Function.update_of_ne hk, h]
  | lock key | unlock key => exact hset key _
  | store key conn => exact hset key _
  | _ => exact h

theorem apply_store_content {k : String} (c : Option PooledConnection)
    (h : (s.pool k).isSome = true) : (s.apply t (.store k c)).content k = c := by
  rcases Option.isSome_iff_exists.mp h with ⟨slot, hslot⟩
  rw [State.content, State.apply, setSlot_pool_self, hslot, Option.map_some, Option.bind_some]

theorem apply_lock_holder {k : String} (h : (s.pool k).isSome = true) :
    (s.apply t (.lock k)).holder k = some t := by
  rcases Option.isSome_iff_exists.mp h with ⟨slot, hslot⟩
  rw [State.holder, State.apply, setSlot_pool_self, hslot, Option.map_some, Option.bind_some]

/-- What is in a slot after a list of effects was there before or was stored. -/
theorem foldl_apply_content {fx : List Effect} {k : String} {c : PooledConnection}
    (h : (fx.foldl (State.apply t) s).content k = some c) :
    s.content k = some c ∨ .store k (some c) ∈ fx := by
  induction fx generalizing s with
  | nil => exact Or.inl h
  | cons e fx ih =>
      -- It was stored by the rest, or was there after `e`: stored by `e`, or before it.
      rcases ih (s.apply t e) h with hold | hin
      · by_cases hs : ∀ c, e ≠ .store k c
        · rw [apply_content t s hs] at hold
          exact Or.inl hold
        · simp only [ne_eq, not_forall, not_not] at hs
          rcases hs with ⟨c', rfl⟩
          right
          -- A store into a slot that does not exist stores nothing.
          rcases hp : s.pool k with _ | slot
          · rw [State.content, State.apply, setSlot_pool_self, hp] at hold
            exact absurd hold (by simp only [Option.map_none, Option.bind_none, reduceCtorEq,
              not_false_eq_true])
          · rw [apply_store_content t s c' (by rw [hp, Option.isSome_some])] at hold
            rw [hold]
            exact List.mem_cons_self
      · exact Or.inr (List.mem_cons_of_mem e hin)

/-- A slot nothing is stored in keeps its content. -/
theorem foldl_apply_content_eq {fx : List Effect} {k : String}
    (h : ∀ c, .store k c ∉ fx) : (fx.foldl (State.apply t) s).content k = s.content k :=
  List.foldlRecOn fx (State.apply t) (motive := fun s' : State cl => s'.content k = s.content k) rfl
    (fun s' hs' _ he => (apply_content t s' (fun c hc => h c (hc ▸ he))).trans hs')

theorem foldl_apply_isSome {fx : List Effect} {k : String} (h : (s.pool k).isSome = true) :
    ((fx.foldl (State.apply t) s).pool k).isSome = true :=
  List.foldlRecOn fx (State.apply t) (motive := fun s' : State cl => (s'.pool k).isSome = true) h
    (fun s' hs' _ _ => apply_isSome t s' hs')

/-- The last store into a slot is what is in it. -/
theorem foldl_apply_content_stored (pre : List Effect) {post : List Effect} {k : String}
    (c : Option PooledConnection) (h : (s.pool k).isSome = true)
    (hpost : ∀ c', .store k c' ∉ post) :
    ((pre ++ .store k c :: post).foldl (State.apply t) s).content k = c := by
  rw [List.foldl_append, List.foldl_cons, foldl_apply_content_eq t _ hpost,
    apply_store_content t _ c (foldl_apply_isSome t s h)]

/-- A slot nothing locks or unlocks keeps its holder. -/
theorem foldl_apply_holder_eq {fx : List Effect} {k : String} (hl : .lock k ∉ fx)
    (hu : .unlock k ∉ fx) : (fx.foldl (State.apply t) s).holder k = s.holder k :=
  List.foldlRecOn fx (State.apply t) (motive := fun s' : State cl => s'.holder k = s.holder k) rfl
    (fun s' hs' _ he =>
      (apply_holder t s' (fun hc => hl (hc ▸ he)) (fun hc => hu (hc ▸ he))).trans hs')

/-- A slot that is locked and not left has the task inside. -/
theorem foldl_apply_holder_locked {fx : List Effect} {k : String}
    (h : (s.pool k).isSome = true) (hl : .lock k ∈ fx) (hu : .unlock k ∉ fx) :
    (fx.foldl (State.apply t) s).holder k = some t := by
  induction fx generalizing s with
  | nil => exact absurd hl List.not_mem_nil
  | cons e fx ih =>
      have hu' : .unlock k ∉ fx := fun hc => hu (List.mem_cons_of_mem e hc)
      -- The last lock of the list decides.
      by_cases hrest : .lock k ∈ fx
      · exact ih (s.apply t e) (apply_isSome t s h) hrest hu'
      · rcases List.mem_cons.mp hl with rfl | hin
        · rw [List.foldl_cons, foldl_apply_holder_eq t _ hrest hu', apply_lock_holder t s h]
        · exact absurd hin hrest

/-- The sockets a list of effects connects. -/
def socketsOf (fx : List Effect) : List Socket :=
  fx.filterMap (fun e => match e with | .socket sock => some sock | _ => none)

/-- The requests it hands to a transport. -/
def deliveriesOf (fx : List Effect) : List Delivery :=
  fx.filterMap (fun e => match e with | .deliver d => some d | _ => none)

theorem mem_socketsOf {fx : List Effect} {sock : Socket} :
    sock ∈ socketsOf fx ↔ .socket sock ∈ fx := by
  rw [socketsOf, List.mem_filterMap]
  constructor
  · rintro ⟨e, he, hs⟩
    cases e with
    | socket sock' =>
        simp only [Option.some.injEq] at hs
        exact hs ▸ he
    | _ => simp only [reduceCtorEq] at hs
  · exact fun h => ⟨_, h, rfl⟩

/-- A log that every effect extends by what the effect shows. -/
theorem foldl_apply_log {β : Type} (log : State cl → List β) (seen : Effect → Option β)
    (hstep : ∀ (s : State cl) e, log (s.apply t e) = log s ++ (seen e).toList)
    (fx : List Effect) : log (fx.foldl (State.apply t) s) = log s ++ fx.filterMap seen := by
  induction fx generalizing s with
  | nil => exact (List.append_nil _).symm
  | cons e fx ih =>
      rw [List.foldl_cons, ih, hstep, List.append_assoc]
      cases hseen : seen e with
      | none => rw [List.filterMap_cons_none hseen, Option.toList_none, List.nil_append]
      | some b => rw [List.filterMap_cons_some hseen, Option.toList_some, List.singleton_append]

theorem foldl_apply_sockets (fx : List Effect) :
    (fx.foldl (State.apply t) s).sockets = s.sockets ++ socketsOf fx := by
  refine foldl_apply_log t s State.sockets _ (fun s' e => ?_) fx
  cases e with
  | socket sock => rfl
  | _ => exact (List.append_nil _).symm

theorem foldl_apply_deliveries (fx : List Effect) :
    (fx.foldl (State.apply t) s).deliveries = s.deliveries ++ deliveriesOf fx := by
  refine foldl_apply_log t s State.deliveries _ (fun s' e => ?_) fx
  cases e with
  | deliver d => rfl
  | _ => exact (List.append_nil _).symm

theorem foldl_apply_nextConn_le (fx : List Effect) :
    s.nextConn ≤ (fx.foldl (State.apply t) s).nextConn :=
  List.foldlRecOn fx (State.apply t) (motive := fun s' : State cl => s.nextConn ≤ s'.nextConn)
    (Nat.le_refl _) (fun s' h e _ => by
      refine Nat.le_trans h ?_
      cases e with
      | connection driver => exact Nat.le_succ _
      | _ => exact Nat.le_refl _)

theorem foldl_apply_nextConn_lt {fx : List Effect} {driver : Option Driver}
    (h : .connection driver ∈ fx) : s.nextConn < (fx.foldl (State.apply t) s).nextConn := by
  induction fx generalizing s with
  | nil => exact absurd h List.not_mem_nil
  | cons e fx ih =>
      rcases List.mem_cons.mp h with rfl | hin
      · exact Nat.lt_of_lt_of_le (Nat.lt_succ_self _)
          (foldl_apply_nextConn_le t (s.apply t (.connection driver)) fx)
      · exact Nat.lt_of_le_of_lt (foldl_apply_nextConn_le t s [e]) (ih (s.apply t e) hin)

end Effects

end Quik
