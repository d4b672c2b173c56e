import Quik.DeadSession
import Quik.Ledger

/-!
# No Response Is Lost

A response that a hop receives goes into three shared stores before the hop
looks where it leads: the cookie jar, the hint cache and the Alt-Svc cache. Any
number of calls do this at once, between any two steps of each other. Beside
the ledger of the jar and the hint cache there is one for the Alt-Svc cache,
which lists the evictions too; and for each task the responses it has taken
from its connections.

What a task has received is what it has stored, in each of the three stores
once and in the order of receipt, except for the response it has in its hands
(`stored_once`). And the Alt-Svc cache says of a key what the ledger said of it
last, so a hop goes over HTTP/3 because of an answer that `store_alt_svc` took
for an advertisement, and not because of one that a failure has since revoked
(`routed_iff`).

## Main definitions

* `AltEvent`, `AltLedger`: What the Alt-Svc cache has been told.
* `Books`: The responses each task has received.
* `Stage.owes`: The response a hop has yet to put into a store.
* `StoreInv`: The lists against the state.

## Theorems

* `altSvcAfter_isSome`: What the cache says of a key.
* `stage_receives`: One move of a hop.
* `storeInv_step`: One step of the client.
* `stored_once`, `routed_iff`: A whole run.
-/

namespace Quik

open Transition

variable {Jar : Type} {cl : Client Jar}

/-- What the Alt-Svc cache is told. -/
inductive AltEvent where
  | answer (e : Stored)
  | evict (key : String)

/-- What it has been told, and what it had been told when the current hop of
    each task began. -/
structure AltLedger where
  events : List AltEvent := []
  reads : Nat → List AltEvent := fun _ => []

/-- What a step of task `t` tells the cache. -/
def altEvents (t : Nat) : Pc cl.crates.url → Input → List AltEvent
  | .inHop v (.storeAltSvc resp), .go => [.answer { task := t, url := v.parsedUrl, resp := resp }]
  | .inHop v .evictDial, .go | .inHop v .evictSend, .go => [.evict v.parsedUrl.routeKey]
  | _, _ => []

def AltLedger.record (l : AltLedger) (t : Nat) (pc : Pc cl.crates.url) (input : Input) :
    AltLedger where
  events := l.events ++ altEvents t pc input
  reads :=
    match pc, input with
    | .top _ _, .go => Function.update l.reads t l.events
    | _, _ => l.reads

/-- The cache after a list of events. -/
def altSvcAfter (cache : AltSvcCache) (events : List AltEvent) : AltSvcCache :=
  events.foldl (fun cache e => match e with
    | .answer e => storeAltSvc cache e.resp e.url
    | .evict key => cache.remove key) cache

/-- What an event says of a key, if it concerns it. -/
def AltEvent.word (key : String) : AltEvent → Option Bool
  | .answer e => if teaches e.resp e.url key then some true else none
  | .evict k => if k = key then some false else none

/-- What was said last. -/
def lastWord (cache : AltSvcCache) (events : List AltEvent) (key : String) : Bool :=
  (events.filterMap (AltEvent.word key)).getLast?.getD (cache key).isSome

theorem altSvcAfter_append (cache : AltSvcCache) (events events' : List AltEvent) :
    altSvcAfter cache (events ++ events') = altSvcAfter (altSvcAfter cache events) events' :=
  List.foldl_append

/-- A key has an entry if it was learned, or was there, and nothing has removed it
    since. -/
theorem altSvcAfter_isSome (cache : AltSvcCache) (events : List AltEvent) (key : String) :
    (altSvcAfter cache events key).isSome = lastWord cache events key := by
  induction events using List.reverseRecOn with
  | nil => rfl
  | append_singleton events e ih =>
      rw [altSvcAfter_append, lastWord, List.filterMap_append]
      cases e with
      | answer e =>
          have hstep := storeAltSvc_isSome (altSvcAfter cache events) e.resp e.url key
          by_cases ht : teaches e.resp e.url key = true
          · rw [List.filterMap_cons_some (show AltEvent.word key (.answer e) = some true from
              if_pos ht), List.filterMap_nil, List.getLast?_concat, Option.getD_some]
            exact hstep.trans (by rw [ht, Bool.true_or])
          -- An answer that teaches nothing leaves the entry, if there is one.
          · rw [List.filterMap_cons_none (show AltEvent.word key (.answer e) = none from
              if_neg ht), List.filterMap_nil, List.append_nil]
            refine hstep.trans ?_
            rw [Bool.eq_false_iff.mpr ht, Bool.false_or]
            exact ih
      | evict k =>
          by_cases hk : k = key
          · rw [List.filterMap_cons_some (show AltEvent.word key (.evict k) = some false from
              if_pos hk), List.filterMap_nil, List.getLast?_concat, Option.getD_some]
            show ((altSvcAfter cache events).remove k key).isSome = false
            rw [hk, AltSvcCache.remove_self, Option.isSome_none]
          · rw [List.filterMap_cons_none (show AltEvent.word key (.evict k) = none from
              if_neg hk), List.filterMap_nil, List.append_nil]
            show ((altSvcAfter cache events).remove k key).isSome = _
            rw [AltSvcCache.remove_of_ne _ (Ne.symm hk)]
            exact ih

/-- The response a move of a hop takes from its connection. -/
def stageReceives (s : State cl) (v : Vars cl.crates.url) : Stage → Input → Option Response
  | .awaitH2 _ urlStr, .respond (.ok r) | .midAwait _ urlStr, .respond (.ok r) =>
    some (h2Response urlStr r)
  | .awaitH3 session, .go =>
    match sessionReply s session v.ticket with
    | some (.ok resp) => some resp
    | _ => none
  | _, _ => none

/-- The response a task receives, with the URL it is of. -/
def Pc.receives (s : State cl) (input : Input) : Pc cl.crates.url → Option (Url × Response)
  | .inHop v stage => (stageReceives s v stage input).map (fun resp => (v.parsedUrl, resp))
  | _ => none

/-- The three ledgers and the receipts. -/
structure Books where
  ledger : Ledger := {}
  alt : AltLedger := {}
  received : Nat → List (Url × Response) := fun _ => []

def recordBooks (b : Books) (s : State cl) : Action → Books
  | .task t input =>
    { ledger := b.ledger.record t (s.tasks t) input
      alt := b.alt.record t (s.tasks t) input
      received := Function.update b.received t
        (b.received t ++ ((s.tasks t).receives s input).toList) }
  | .driver _ _ => b

/-- The books at the end of a run of a fresh client. -/
def books (cl : Client Jar) (altSvc : AltSvcCache) (jar : Jar) (as : List Action) : Books :=
  history step recordBooks {} (State.fresh cl altSvc jar) as

/-- The three stores. -/
inductive Store where
  | cookies
  | hints
  | altSvc
deriving DecidableEq

/-- The answers in a ledger of the Alt-Svc cache. -/
def AltEvent.answer? : AltEvent → Option Stored
  | .answer e => some e
  | .evict _ => none

/-- What is in the ledger of a store. -/
def Books.stored (b : Books) : Store → List Stored
  | .cookies => b.ledger.cookies
  | .hints => b.ledger.hints
  | .altSvc => b.alt.events.filterMap AltEvent.answer?

/-- What a task has put into a store. -/
def Books.storedBy (b : Books) (k : Store) (t : Nat) : List (Url × Response) :=
  ((b.stored k).filter (fun e => e.task = t)).map (fun e => (e.url, e.resp))

/-- The response a hop has yet to put into a store. -/
def Stage.owes : Store → Stage → Option Response
  | _, .storeCookies resp => some resp
  | .hints, .storeHints resp | .altSvc, .storeHints resp | .altSvc, .storeAltSvc resp => some resp
  | _, _ => none

def Pc.owes (k : Store) : Pc cl.crates.url → List (Url × Response)
  | .inHop v stage => ((stage.owes k).map (fun resp => (v.parsedUrl, resp))).toList
  | _ => []

/-- The response a stage puts into a store. -/
def Stage.putsInto : Store → Stage → Option Response
  | .cookies, .storeCookies resp => some resp
  | .hints, .storeHints resp => some resp
  | .altSvc, .storeAltSvc resp => some resp
  | _, _ => none

def Pc.putsInto (k : Store) : Pc cl.crates.url → Option (Url × Response)
  | .inHop v stage => (stage.putsInto k).map (fun resp => (v.parsedUrl, resp))
  | _ => none

/-- A response with its URL, as task `t` enters it. -/
def entryOf (t : Nat) (r : Url × Response) : Stored :=
  { task := t, url := r.1, resp := r.2 }

section Moves

variable {s : State cl} {v : Vars cl.crates.url} {stage : Stage} {input : Input}
  {pc pc₀ : Pc cl.crates.url} {fx : List Effect}

/-- A move enters into each ledger what it puts into the store. -/
theorem stored_record (hm : TaskMove s pc₀ input pc fx) (b : Books) (t : Nat)
    (received : Nat → List (Url × Response)) (k : Store) :
    Books.stored { ledger := b.ledger.record t pc₀ input, alt := b.alt.record t pc₀ input,
                   received := received } k =
      b.stored k ++ ((pc₀.putsInto k).map (entryOf t)).toList := by
  -- The two ledgers of the client, and the answers among the events of the third.
  cases k with
  | altSvc =>
      refine (List.filterMap_append (f := AltEvent.answer?)).trans (congrArg _ ?_)
      cases hm with
      | call | enter | refuse => rfl
      | stage hm =>
          cases hm with
          | sendUnbuilt conn => cases conn <;> cases input <;> rfl
          | _ => rfl
  | cookies | hints =>
      cases hm with
      | call | enter | refuse => exact (List.append_nil _).symm
      | stage hm =>
          cases hm with
          | storeCookies | storeHints => first
            | rfl
            | exact (List.append_nil _).symm
          | sendUnbuilt conn => cases conn <;> cases input <;> exact (List.append_nil _).symm
          | _ => exact (List.append_nil _).symm

/-- A move receives a response into the hands of the hop, or puts the one it has
    into the next store. -/
theorem stage_receives (hm : StageMove s v stage input pc fx) (k : Store) :
    ((Pc.inHop v stage).putsInto k).toList ++ pc.owes k =
      (Pc.inHop v stage).owes k ++ ((Pc.inHop v stage).receives s input).toList := by
  cases hm with
  -- What the slot holds decides where the hop goes, and none of it is a response.
  | lockClone =>
      rcases s.content (v.poolKey cl) with _ | conn | session <;> cases k <;> rfl
  | midLock =>
      rcases s.content (v.h2PoolKey cl) with _ | conn | session <;> cases k <;> rfl
  | respondH3 session resp hr | failH3 session resp hr =>
      simp only [Pc.receives, stageReceives, hr]
      cases k <;> rfl
  | sendUnbuilt conn => cases k <;> cases conn <;> cases input <;> rfl
  | _ => cases k <;> rfl

theorem task_receives (hm : TaskMove s pc₀ input pc fx) (k : Store) :
    (pc₀.putsInto k).toList ++ pc.owes k = pc₀.owes k ++ (pc₀.receives s input).toList := by
  cases hm with
  | call | refuse | enter => cases k <;> rfl
  | stage hm => exact stage_receives hm k

/-- The cache does what it is told. -/
theorem move_altSvc (hm : TaskMove s pc₀ input pc fx) (t : Nat) :
    (s.after t pc fx).altSvc = altSvcAfter s.altSvc (altEvents t pc₀ input) := by
  cases hm with
  | call | refuse | enter => rfl
  | stage hm =>
      cases hm with
      | dialed outcome | dialH3Failed outcome | dialH2Failed outcome | fallbackDialed outcome
      | fallbackDialFailed outcome | midDialed outcome | midDialFailed outcome =>
          cases outcome <;> rfl
      | sendUnbuilt conn => cases conn <;> cases input <;> rfl
      | _ => rfl

/-- A hop keeps its route. -/
theorem move_route (hm : StageMove s v stage input pc fx) {v' : Vars cl.crates.url}
    {stage' : Stage} (hpc : pc = .inHop v' stage') :
    v'.hasAltSvc = v.hasAltSvc ∧ v'.parsedUrl = v.parsedUrl := by
  cases hm <;> first
    | (cases hpc; exact ⟨rfl, rfl⟩)
    | cases hpc

end Moves

/-- The lists against the state. -/
structure StoreInv (altSvc : AltSvcCache) (b : Books) (s : State cl) : Prop where
  /-- What a task has received, it has stored or has in its hands. -/
  once : ∀ k t, b.storedBy k t ++ (s.tasks t).owes k = b.received t
  cache : s.altSvc = altSvcAfter altSvc b.alt.events
  reads : ∀ t, b.alt.reads t <+: b.alt.events
  routed : ∀ t v stage, s.tasks t = .inHop v stage →
    v.hasAltSvc = lastWord altSvc (b.alt.reads t) v.parsedUrl.routeKey

/-- What another task stores is not this one's. -/
theorem storedBy_concat {b b' : Books} {k : Store} {t : Nat} {r? : Option (Url × Response)}
    (h : b'.stored k = b.stored k ++ (r?.map (entryOf t)).toList) (t' : Nat) :
    b'.storedBy k t' = b.storedBy k t' ++ if t = t' then r?.toList else [] := by
  rw [Books.storedBy, h, List.filter_append, List.map_append, Books.storedBy]
  cases r? with
  | none => simp only [Option.map_none, Option.toList_none, List.filter_nil, List.map_nil, ite_self]
  | some r =>
      by_cases ht : t = t'
      · simp only [Option.map_some, Option.toList_some, List.filter_cons, entryOf, ht, decide_true,
          if_true, List.filter_nil, List.map_cons, List.map_nil]
      · simp only [Option.map_some, Option.toList_some, List.filter_cons, entryOf, ht, decide_false,
          Bool.false_eq_true, if_false, List.filter_nil, List.map_nil]

/-- A step of another task does not read for this one. -/
theorem reads_of_ne (l : AltLedger) {t t' : Nat} (hne : t' ≠ t) (pc : Pc cl.crates.url)
    (input : Input) : (l.record t pc input).reads t' = l.reads t' := by
  unfold AltLedger.record
  cases pc with
  | top hop context =>
      cases input with
      | go => exact Function.update_of_ne hne _ _
      | _ => rfl
  | _ => cases input <;> rfl

/-- What a hop has read is a part of what was written. -/
theorem reads_prefix {l : AltLedger} (h : ∀ t, l.reads t <+: l.events) (t : Nat)
    (pc : Pc cl.crates.url) (input : Input) (t' : Nat) :
    (l.record t pc input).reads t' <+: (l.record t pc input).events := by
  have hgrow : l.events <+: (l.record t pc input).events := List.prefix_append _ _
  by_cases ht : t' = t
  -- Only the entry of a hop reads, and it reads all there is.
  · rw [ht]
    cases pc with
    | top hop context =>
        cases input with
        | go =>
            simp only [AltLedger.record, Function.update_self]
            exact hgrow
        | _ => exact (h t).trans hgrow
    | _ => cases input <;> exact (h t).trans hgrow
  · rw [reads_of_ne l ht]
    exact (h t').trans hgrow

/-- A step of the client keeps the books. -/
theorem storeInv_step {altSvc : AltSvcCache} {b : Books} {s s' : State cl} {a : Action}
    (hi : StoreInv altSvc b s) (h : step s a = some s') :
    StoreInv altSvc (recordBooks b s a) s' := by
  cases a with
  | driver session e =>
      rcases step_driver_eq_some h with ⟨d, d', _, _, rfl⟩
      exact ⟨hi.once, hi.cache, hi.reads, hi.routed⟩
  | task t input =>
      rcases step_task_eq_some h with ⟨pc, fx, hm, rfl⟩
      constructor
      -- What was in hand and is stored now changes sides, and the receipts stay.
      · intro k t'
        have hstored : (recordBooks b s (.task t input)).storedBy k t' = _ :=
          storedBy_concat (stored_record hm b t _ k) t'
        rw [hstored]
        by_cases ht : t' = t
        · rw [ht, if_pos rfl, State.after_task, List.append_assoc, task_receives hm k,
            ← List.append_assoc, hi.once k t]
          exact (Function.update_self t _ b.received).symm
        · rw [if_neg (Ne.symm ht), List.append_nil, State.after_tasks, Function.update_of_ne ht,
            hi.once k t']
          exact (Function.update_of_ne ht _ _).symm
      · rw [move_altSvc hm t, hi.cache, ← altSvcAfter_append]
        rfl
      · exact reads_prefix hi.reads t (s.tasks t) input
      · intro t' v' stage' htask'
        rcases State.after_tasks_eq htask' with ⟨rfl, hpc⟩ | ⟨hne, hold⟩
        -- The route is read once, when the hop is entered, and kept by every stage.
        · generalize htask : s.tasks t' = pc₀ at hm
          cases hm with
          | call | refuse => cases hpc
          | enter v _ hroute =>
              cases hpc
              rw [hroute, hi.cache, altSvcAfter_isSome]
              simp only [recordBooks, htask, AltLedger.record, Function.update_self]
          | @stage v stage _ _ _ hm =>
              rcases move_route hm hpc with ⟨hroute, hurl⟩
              rw [hroute, hurl, hi.routed t' v stage htask]
              simp only [recordBooks, htask, AltLedger.record]
        · rw [hi.routed t' v' stage' hold]
          exact congrArg (lastWord altSvc · v'.parsedUrl.routeKey)
            (reads_of_ne b.alt hne (s.tasks t) input).symm

theorem ledger_recordBooks (b : Books) (s : State cl) (a : Action) :
    (recordBooks b s a).ledger = recordLedger b.ledger s a := by
  cases a <;> rfl

section Run

variable {altSvc : AltSvcCache} {jar : Jar} {as : List Action} {s : State cl}
  (hrun : run step (State.fresh cl altSvc jar) as = some s)
include hrun

/-- At the end of every run. -/
theorem storeInv_run : StoreInv altSvc (books cl altSvc jar as) s ∧
    LedgerInv jar (books cl altSvc jar as).ledger s := by
  refine history_invariant step
    (J := fun b s => StoreInv altSvc b s ∧ LedgerInv jar b.ledger s)
    (fun b s a s' hi hs => ⟨storeInv_step hi.1 hs, ?_⟩) ⟨?_, ?_⟩ hrun
  · rw [ledger_recordBooks]
    exact ledgerInv_step hi.2 hs
  · exact ⟨fun k _ => by cases k <;> rfl, rfl, fun _ => List.prefix_rfl, fun _ _ _ h => by cases h⟩
  · exact ⟨rfl, rfl, fun _ => ⟨List.prefix_rfl, List.prefix_rfl⟩, fun _ => trivial⟩

/-- In every run of a fresh client, however its calls interleave: what a call has
    received, in the order of receipt, is what it has put into each of the three
    stores, once, but for the response it has in its hands; and the stores are what
    the responses of all calls, and the evictions, make of what they held at
    first. -/
theorem stored_once :
    (∀ k t, (books cl altSvc jar as).storedBy k t ++ (s.tasks t).owes k =
      (books cl altSvc jar as).received t) ∧
    s.jar = jarAfter cl jar ((books cl altSvc jar as).stored .cookies) ∧
    s.hintCache = hintsAfter ((books cl altSvc jar as).stored .hints) ∧
    s.altSvc = altSvcAfter altSvc (books cl altSvc jar as).alt.events := by
  rcases storeInv_run hrun with ⟨hstore, hledger⟩
  exact ⟨hstore.once, hledger.jar, hledger.hintCache, hstore.cache⟩

/-- In every run of a fresh client a hop is routed over HTTP/3 exactly if the last
    thing the cache was told about the key of its URL, before the hop began, was an
    answer that `store_alt_svc` takes for an advertisement and not an eviction; and
    if it was told nothing, exactly if the cache had the key at first. -/
theorem routed_iff {t : Nat} {v : Vars cl.crates.url} {stage : Stage}
    (htask : s.tasks t = .inHop v stage) :
    (books cl altSvc jar as).alt.reads t <+: (books cl altSvc jar as).alt.events ∧
      (v.hasAltSvc = true ↔
        lastWord altSvc ((books cl altSvc jar as).alt.reads t) v.parsedUrl.routeKey = true) := by
  have hstore := (storeInv_run hrun).1
  exact ⟨hstore.reads t, by rw [hstore.routed t v stage htask]⟩

end Run

/-- A session dies, the hop falls back and its answer advertises HTTP/3 again, and
    another call to the same URL begins. -/
theorem stored_once_fallsBack :
    let b := books direct (AltSvcCache.new.insert "a.test:443" "h3=\":443\"") ()
      (sessionDies ++ fallsBack)
    ∃ s, run step cachedA (sessionDies ++ fallsBack) = some s ∧ (b.received 0).length = 1 ∧
      (∀ k t, b.storedBy k t ++ (s.tasks t).owes k = b.received t) ∧
      s.jar = jarAfter direct () (b.stored .cookies) ∧
      s.hintCache = hintsAfter (b.stored .hints) ∧
      s.altSvc = altSvcAfter (AltSvcCache.new.insert "a.test:443" "h3=\":443\"") b.alt.events := by
  intro b
  have hrun : (run step cachedA (sessionDies ++ fallsBack)).isSome = true := by decide +kernel
  rcases Option.isSome_iff_exists.mp hrun with ⟨s, hs⟩
  exact ⟨s, hs, by decide +kernel, stored_once hs⟩

/-- Whether a hop is routed to HTTP/3. -/
def Pc.transport? {c : UrlCrate} : Pc c → Option Bool
  | .inHop v _ => some v.hasAltSvc
  | _ => none

theorem transport?_eq_some {c : UrlCrate} {pc : Pc c} {h3 : Bool} (h : pc.transport? = some h3) :
    ∃ v stage, pc = .inHop v stage ∧ v.hasAltSvc = h3 := by
  cases pc with
  | inHop v stage => exact ⟨v, stage, rfl, Option.some.inj h⟩
  | _ => cases h

theorem routed_iff_reuses :
    let b := books direct (AltSvcCache.new.insert "a.test:443" "h3=\":443\"") ()
      (sessionDies ++ fallsBack ++ reuses)
    ∃ s v stage, run step cachedA (sessionDies ++ fallsBack ++ reuses) = some s ∧
      s.tasks 1 = .inHop v stage ∧ v.hasAltSvc = true ∧
      b.alt.reads 1 <+: b.alt.events ∧
      (v.hasAltSvc = true ↔ lastWord (AltSvcCache.new.insert "a.test:443" "h3=\":443\"")
        (b.alt.reads 1) v.parsedUrl.routeKey = true) := by
  intro b
  have hhop : ((run step cachedA (sessionDies ++ fallsBack ++ reuses)).bind
      (fun s => (s.tasks 1).transport?)) = some true := by decide +kernel
  rcases Option.bind_eq_some_iff.mp hhop with ⟨s, hs, htask⟩
  rcases transport?_eq_some htask with ⟨v, stage, htask', hroute⟩
  exact ⟨s, v, stage, hs, htask', hroute, routed_iff hs htask'⟩

end Quik
