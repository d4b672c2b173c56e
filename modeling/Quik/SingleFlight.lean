import Quik.Isolation

/-!
# Single-Flight Dialing

However many tasks need a slot that is not there yet, and whichever of the three
ways they come to it, one of them makes it, one of them dials for it, and all of
them send on that connection, as long as that dial succeeds and no `ready()`
fails on what it made. Every way to a dial looks into the slot under its lock,
so a second dial would have to find it empty; and only a failed `ready()`
empties it.

A `Flights` records what a run does to one slot: how often the slot was made,
how its dials turned out, and which connections were sent on through it.

## Main definitions

* `Stage.via`: The slot a stage's connection is from.
* `Stage.dials`: The slot a stage dials for, and the outcome.
* `Flights`, `observeFlights`: The record of a slot.
* `FlightInv`: What the record says of the state.

## Theorems

* `move_via`: Connections come from the slot they are sent through.
* `FlightInv.filled_or_kept`: What a step does to the slot and to its record.
* `flightInv_step`: The record stays true.
* `single_flight`: One slot, one dial, one connection.
-/

namespace Quik

open Transition

variable {Jar : Type} {cl : Client Jar}

/-- The connection a stage works with, until its request is sent, and the slot
    it stands for. -/
def Stage.via (cl : Client Jar) (v : Vars cl.crates.url) : Stage → Option (String × Handle)
  | .ready conn | .lockClear conn => some (v.poolKey cl, conn)
  | .send conn => some (slotKey cl v.parsedUrl conn.isH3, conn.handle)
  | .midReady conn | .midSend conn => some (v.h2PoolKey cl, conn)
  | _ => none

/-- The slot a stage dials for, and how the dial turns out. -/
def Stage.dials (s : State cl) (v : Vars cl.crates.url) :
    Stage → Input → Option (String × Except Error Handle)
  | .dial, .dial outcome =>
    some (v.poolKey cl, dialResult s v.parsedUrl v.hasAltSvc outcome)
  | .fallbackDial, .dial outcome | .midDial, .dial outcome =>
    some (v.h2PoolKey cl, dialResult s v.parsedUrl false outcome)
  | _, _ => none

/-- What has been done to a slot. -/
structure Flights where
  mutexes : Nat := 0
  dials : List (Except Error Handle) := []
  /-- Every connection of the client whose `ready()` failed. -/
  dead : List Handle := []
  sends : List Handle := []

/-- The value of those entries that are filed under a key. -/
def underKey {β : Type} (key : String) (e : Option (String × β)) : List β :=
  match e with
  | some (k, b) => if k = key then [b] else []
  | none => []

theorem mem_underKey {β : Type} {key : String} {e : Option (String × β)} {b : β} :
    b ∈ underKey key e ↔ e = some (key, b) := by
  rcases e with _ | ⟨k, b'⟩
  · simp only [underKey, List.not_mem_nil, reduceCtorEq]
  · rw [show underKey key (some (k, b')) = if k = key then [b'] else [] from rfl,
      Option.some.injEq, Prod.mk.injEq]
    by_cases hk : k = key
    · rw [if_pos hk, List.mem_singleton]
      exact ⟨fun h => ⟨hk, h.symm⟩, fun h => h.2.symm⟩
    · rw [if_neg hk]
      exact ⟨fun h => absurd h List.not_mem_nil, fun h => absurd h.1 hk⟩

/-- What a step of a hop shows. -/
def onHop {β : Type} (s : State cl) (f : Vars cl.crates.url → Stage → Input → List β) :
    Action → List β
  | .driver _ _ => []
  | .task t input =>
    match s.tasks t with
    | .inHop v stage => f v stage input
    | _ => []

def readyFails : Stage → Input → List Handle
  | .ready conn, .ready false | .midReady conn, .ready false => [conn]
  | _, _ => []

/-- The stages that are about to send. -/
def Stage.toSend (cl : Client Jar) (v : Vars cl.crates.url) : Stage → Option (String × Handle)
  | .send conn => Stage.via cl v (.send conn)
  | .midSend conn => Stage.via cl v (.midSend conn)
  | _ => none

/-- The step makes the slot. -/
def makesSlot (key : String) (s : State cl) (a : Action) : Bool :=
  (s.pool key).isNone && ((step s a).bind (fun s' => s'.pool key)).isSome

/-- One step is recorded. -/
def observeFlights (key : String) (m : Flights) (s : State cl) (a : Action) : Flights where
  mutexes := m.mutexes + if makesSlot key s a then 1 else 0
  dials := m.dials ++ onHop s (fun v stage input => underKey key (stage.dials s v input)) a
  dead := m.dead ++ onHop s (fun _ stage input => readyFails stage input) a
  sends := m.sends ++ onHop s (fun v stage _ => underKey key (stage.toSend cl v)) a

/-- The first dial, if there is one, has succeeded, and no `ready()` has failed
    on the connection it made. -/
def Flights.Healthy (m : Flights) : Prop :=
  ∀ r, m.dials.head? = some r → ∃ h, r = .ok h ∧ h ∉ m.dead

/-- One slot, one dial, one connection. -/
structure SingleFlight (m : Flights) : Prop where
  mutexes : m.mutexes ≤ 1
  made : m.dials ≠ [] ∨ m.sends ≠ [] → m.mutexes = 1
  dials : m.dials.length ≤ 1
  sends : ∀ h ∈ m.sends, m.dials = [.ok h]

theorem afterMidLock_via {v : Vars cl.crates.url} {c? : Option PooledConnection} {key : String}
    {h : Handle} (hvia : (afterMidLock c?).via cl v = some (key, h)) :
    key = v.h2PoolKey cl ∧ c? = some (.http2 h) := by
  rcases c? with _ | conn | session
  · exact absurd hvia (by simp only [afterMidLock, Stage.via, reduceCtorEq, not_false_eq_true])
  · simp only [afterMidLock, Stage.via, Option.some.injEq, Prod.mk.injEq] at hvia
    rw [hvia.2]
    exact ⟨hvia.1.symm, rfl⟩
  · exact absurd hvia (by simp only [afterMidLock, Stage.via, reduceCtorEq, not_false_eq_true])

section Moves

variable {s : State cl} (hinv : PoolInv s) {t : Nat} {v : Vars cl.crates.url} {stage : Stage}
  {input : Input} {pc : Pc cl.crates.url} {fx : List Effect}
include hinv

theorem slotKey_of_content {h3 : Bool} {c : PooledConnection}
    (hc : s.content (slotKey cl v.parsedUrl h3) = some c) : c.isH3 = h3 := by
  have hkind := hinv.kind _ c hc
  cases h3 with
  | true => exact hkind.trans (isH3Key_poolKey_h3 cl.proxy v.parsedUrl)
  | false => exact hkind.trans (isH3Key_poolKey_h2 cl.proxy v.parsedUrl)

/-- What a hop works with it had from that slot before, finds in it, or has just
    dialed for it. -/
theorem move_via (ht : s.tasks t = .inHop v stage) (hm : StageMove s v stage input pc fx)
    {v' : Vars cl.crates.url} {stage' : Stage} (hpc : pc = .inHop v' stage') {key : String}
    {h : Handle} (hvia : stage'.via cl v' = some (key, h)) :
    stage.via cl v = some (key, h) ∨ (∃ c, s.content key = some c ∧ c.handle = h) ∨
      stage.dials s v input = some (key, .ok h) := by
  cases hm with
  | lockClone =>
      cases hpc
      right; left
      cases hc : s.content (v.poolKey cl) with
      | none =>
          rw [hc] at hvia
          exact absurd hvia (by simp only [afterClone, Stage.via, reduceCtorEq, not_false_eq_true])
      | some c =>
          have htransport : c.isH3 = v.hasAltSvc := slotKey_of_content hinv hc
          rw [hc] at hvia
          cases c with
          | http2 conn =>
              simp only [afterClone, Stage.via, Option.some.injEq, Prod.mk.injEq] at hvia
              rw [← hvia.1, ← hvia.2]
              exact ⟨_, hc, rfl⟩
          | http3 session =>
              simp only [afterClone, Stage.via, Option.some.injEq, Prod.mk.injEq] at hvia
              rw [← hvia.1, ← hvia.2, htransport]
              exact ⟨_, hc, rfl⟩
  | readyAlive conn =>
      cases hpc
      left
      -- A connection that is asked `ready()` is from an HTTP/2 slot.
      have halt : v.hasAltSvc = false :=
        (isH3Key_poolKey v).symm.trans (hinv.relies t v (.ready conn) ht)
      rw [← hvia, Stage.via, Stage.via, Vars.poolKey, halt]
      rfl
  | fallbackLockTaken conn _ hcontent =>
      cases hpc
      right; left
      have htransport : conn.isH3 = false := slotKey_of_content hinv hcontent
      simp only [Stage.via, htransport, Option.some.injEq, Prod.mk.injEq] at hvia
      rw [← hvia.1, ← hvia.2]
      exact ⟨conn, hcontent, rfl⟩
  | midLock =>
      cases hpc
      right; left
      rcases afterMidLock_via hvia with ⟨rfl, hc⟩
      exact ⟨_, hc, rfl⟩
  | dialed outcome h' hres =>
      cases hpc
      right; right
      simp only [Stage.via, pooled_handle, pooled_isH3, Option.some.injEq, Prod.mk.injEq] at hvia
      rw [Stage.dials, hres, ← hvia.1, ← hvia.2]
      rfl
  | fallbackDialed outcome h' hres =>
      cases hpc
      right; right
      simp only [Stage.via, PooledConnection.handle, Option.some.injEq, Prod.mk.injEq] at hvia
      rw [Stage.dials, hres, ← hvia.1, ← hvia.2]
      rfl
  | midDialed outcome h' hres =>
      cases hpc
      right; right
      simp only [Stage.via, Option.some.injEq, Prod.mk.injEq] at hvia
      rw [Stage.dials, hres, ← hvia.1, ← hvia.2]
  | readyDead | midReadyAlive =>
      cases hpc
      exact Or.inl hvia
  | _ => first
    | (cases hpc; exact absurd hvia (by simp only [Stage.via, reduceCtorEq, not_false_eq_true]))
    | cases hpc

/-- A successful dial leaves its connection in the slot it was for. -/
theorem move_dials_content (ht : s.tasks t = .inHop v stage)
    (hm : StageMove s v stage input pc fx) {key : String} {h : Handle}
    (hd : stage.dials s v input = some (key, .ok h)) :
    ∃ c, (fx.foldl (State.apply t) s).content key = some c ∧ c.handle = h := by
  -- A dial is made from inside its slot, so the slot is there to be filled.
  have hheld : ∀ k ∈ stage.holds cl v, (s.pool k).isSome = true := fun k hk =>
    State.isSome_of_holder (hinv.mutex t v stage k ht hk)
  cases hm with
  | dialed outcome h' hres =>
      simp only [Stage.dials, hres, Option.some.injEq, Prod.mk.injEq, Except.ok.injEq] at hd
      rw [← hd.1, ← hd.2]
      exact ⟨_, foldl_apply_content_stored t s _ _ (hheld _ List.mem_cons_self)
        (fun c' hin => by simp only [List.mem_singleton, reduceCtorEq] at hin),
        pooled_handle _ h'⟩
  | fallbackDialed outcome h' hres =>
      simp only [Stage.dials, hres, Option.some.injEq, Prod.mk.injEq, Except.ok.injEq] at hd
      rw [← hd.1, ← hd.2]
      exact ⟨_, foldl_apply_content_stored t s _ _
        (hheld _ (List.mem_cons_of_mem _ List.mem_cons_self))
        (fun c' hin => by
          simp only [List.mem_cons, List.not_mem_nil, reduceCtorEq, or_self] at hin), rfl⟩
  | midDialed outcome h' hres =>
      simp only [Stage.dials, hres, Option.some.injEq, Prod.mk.injEq, Except.ok.injEq] at hd
      rw [← hd.1, ← hd.2]
      exact ⟨_, foldl_apply_content_stored t s _ _ (hheld _ List.mem_cons_self)
        (fun c' hin => absurd hin List.not_mem_nil), rfl⟩
  | dialH3Failed _ _ hres | dialH2Failed _ _ hres | fallbackDialFailed _ _ hres
  | midDialFailed _ _ hres =>
      simp only [Stage.dials, hres, Option.some.injEq, Prod.mk.injEq, reduceCtorEq,
        and_false] at hd
  | _ => exact absurd hd (by simp only [Stage.dials, reduceCtorEq, not_false_eq_true])

/-- Apart from that, only the clear after a failed `ready()` changes a slot. -/
theorem move_content (ht : s.tasks t = .inHop v stage) (hm : StageMove s v stage input pc fx)
    {key : String} (hd : ∀ h, stage.dials s v input ≠ some (key, .ok h))
    (hclear : ∀ conn, stage = .lockClear conn → v.poolKey cl ≠ key) :
    (fx.foldl (State.apply t) s).content key = s.content key := by
  have hdial : ∀ c? dialH3 outcome, .store key c? ∉ dialEffects cl dialH3 outcome :=
    fun c? => not_mem_dialEffects trivial
  have hrely := hinv.relies t v stage ht
  cases hm with
  -- The refresh stores what the slot holds already.
  | midReadyAlive conn =>
      by_cases hk : key = v.h2PoolKey cl
      · have hheld := hinv.mutex t v (.midReady conn) _ ht List.mem_cons_self
        rw [hk]
        exact (apply_store_content t s _ (State.isSome_of_holder hheld)).trans hrely.symm
      · exact foldl_apply_content_eq t s (fun c? hin => by
          simp only [List.mem_singleton, Effect.store.injEq] at hin
          exact hk hin.1)
  | lockClear conn hfree =>
      refine foldl_apply_content_eq t s (fun c? hin => ?_)
      simp only [List.mem_singleton, Effect.store.injEq] at hin
      exact hclear conn rfl hin.1.symm
  | dialed outcome h hres | fallbackDialed outcome h hres | midDialed outcome h hres =>
      refine foldl_apply_content_eq t s (fun c? hin => hd h ?_)
      simp only [List.mem_append, hdial, List.mem_cons, Effect.store.injEq, reduceCtorEq,
        List.not_mem_nil, or_false, false_or] at hin
      rw [Stage.dials, hres, hin.1]
  | _ =>
      refine foldl_apply_content_eq t s (fun c? hin => ?_)
      simp only [List.mem_append, hdial, List.mem_cons, reduceCtorEq, List.not_mem_nil,
        or_false] at hin

omit hinv in
/-- A slot is about to be cleared when `ready()` has failed. -/
theorem move_lockClear (hm : StageMove s v stage input pc fx) {v' : Vars cl.crates.url}
    {conn : Handle} (hpc : pc = .inHop v' (.lockClear conn)) :
    v' = v ∧ stage = .ready conn ∧ input = .ready false := by
  cases hm with
  | readyDead =>
      cases hpc
      exact ⟨rfl, rfl, rfl⟩
  | lockClone =>
      rcases hc : s.content (v.poolKey cl) with _ | conn' | session <;> rw [hc] at hpc <;> cases hpc
  | midLock =>
      rcases hc : s.content (v.h2PoolKey cl) with _ | conn' | session <;> rw [hc] at hpc <;>
        cases hpc
  | _ => cases hpc

omit hinv in
/-- The fallback of a failed send dials when it has found no HTTP/2 connection,
    or one whose `ready()` has failed. -/
theorem move_midDial (hm : StageMove s v stage input pc fx) {v' : Vars cl.crates.url}
    (hpc : pc = .inHop v' .midDial) :
    v' = v ∧ (stage = .midLock ∧ (∀ conn, s.content (v.h2PoolKey cl) ≠ some (.http2 conn)) ∨
      ∃ conn, stage = .midReady conn ∧ input = .ready false) := by
  cases hm with
  | midReadyDead conn =>
      cases hpc
      exact ⟨rfl, Or.inr ⟨conn, rfl, rfl⟩⟩
  | lockClone =>
      rcases hc : s.content (v.poolKey cl) with _ | conn' | session <;> rw [hc] at hpc <;> cases hpc
  | midLock =>
      rcases hc : s.content (v.h2PoolKey cl) with _ | conn' | session <;> rw [hc] at hpc <;>
        cases hpc <;> exact ⟨rfl, Or.inl ⟨rfl, fun _ h => by cases h⟩⟩
  | _ => cases hpc

end Moves

/-- What the record of a slot says of the state. -/
structure FlightInv (key : String) (m : Flights) (s : State cl) : Prop where
  mutexes : m.mutexes = if (s.pool key).isSome then 1 else 0
  /-- Nobody has dialed and the slot is empty, or one dial has and it is not. -/
  flown : m.dials = [] ∧ s.content key = none ∨
    ∃ c, m.dials = [.ok c.handle] ∧ s.content key = some c
  via : ∀ t v stage h, s.tasks t = .inHop v stage → stage.via cl v = some (key, h) →
    m.dials = [.ok h]
  clear : ∀ t v conn, s.tasks t = .inHop v (.lockClear conn) → v.poolKey cl ≠ key
  redial : ∀ t v, s.tasks t = .inHop v .midDial → v.h2PoolKey cl = key → s.content key = none
  sends : ∀ h ∈ m.sends, m.dials = [.ok h]

/-- A slot is made once, since it is never removed. -/
theorem mutexes_step {key : String} {m : Flights} {s s' : State cl} {a : Action}
    (hm : m.mutexes = if (s.pool key).isSome then 1 else 0) (h : step s a = some s')
    (hmono : (s.pool key).isSome = true → (s'.pool key).isSome = true) :
    (observeFlights key m s a).mutexes = if (s'.pool key).isSome then 1 else 0 := by
  simp only [observeFlights, makesSlot, h, Option.bind_some, hm]
  cases hp : s.pool key with
  | none =>
      cases hp' : s'.pool key with
      | none => rfl
      | some slot => rfl
  | some slot =>
      rw [hp] at hmono
      rw [hmono rfl]
      rfl

/-- A record that is healthy now was healthy before. -/
theorem Flights.Healthy.of_observe {key : String} {m : Flights} {s : State cl} {a : Action}
    (h : (observeFlights key m s a).Healthy) : m.Healthy := by
  intro r hr
  rcases h r (by rw [observeFlights, List.head?_append, hr, Option.some_or]) with ⟨c, hc, hdead⟩
  exact ⟨c, hc, fun hin => hdead (List.mem_append_left _ hin)⟩

/-- A task that dials for a slot is inside of it. -/
theorem dials_holds {s : State cl} {v : Vars cl.crates.url} {stage : Stage} {input : Input}
    {key : String} {r : Except Error Handle} (hd : stage.dials s v input = some (key, r)) :
    key ∈ stage.holds cl v := by
  unfold Stage.dials at hd
  split at hd
  · rw [Option.some.injEq, Prod.mk.injEq] at hd
    exact hd.1 ▸ List.mem_cons_self
  · rw [Option.some.injEq, Prod.mk.injEq] at hd
    exact hd.1 ▸ List.mem_cons_of_mem _ List.mem_cons_self
  · rw [Option.some.injEq, Prod.mk.injEq] at hd
    exact hd.1 ▸ List.mem_cons_self
  · exact absurd hd (by simp only [reduceCtorEq, not_false_eq_true])

section Step

variable {key : String} {m : Flights} {s : State cl} (hinv : PoolInv s) (hf : FlightInv key m s)
include hinv hf

/-- It has found the slot empty, so nobody has dialed for it before. -/
theorem FlightInv.dials_nil {t : Nat} {v : Vars cl.crates.url} {stage : Stage} {input : Input}
    (ht : s.tasks t = .inHop v stage) {r : Except Error Handle}
    (hd : stage.dials s v input = some (key, r)) : m.dials = [] := by
  have hempty : s.content key = none := by
    have hrely := hinv.relies t v stage ht
    unfold Stage.dials at hd
    split at hd
    · rw [Option.some.injEq, Prod.mk.injEq] at hd
      exact hd.1 ▸ hrely
    · rw [Option.some.injEq, Prod.mk.injEq] at hd
      exact hd.1 ▸ hrely
    · rw [Option.some.injEq, Prod.mk.injEq] at hd
      exact hf.redial t v ht hd.1
    · exact absurd hd (by simp only [reduceCtorEq, not_false_eq_true])
  rcases hf.flown with ⟨hnil, _⟩ | ⟨c, _, hc⟩
  · exact hnil
  · exact absurd (hempty.symm.trans hc) (by simp only [reduceCtorEq, not_false_eq_true])

section Hop

variable {t : Nat} {v : Vars cl.crates.url} {stage : Stage} {input : Input}
  {pc : Pc cl.crates.url} {fx : List Effect} (ht : s.tasks t = .inHop v stage)
  (hm : StageMove s v stage input pc fx)
  (hhealthy : (observeFlights key m s (.task t input)).Healthy)
include ht hm hhealthy

/-- The slot after a step: filled by this dial, or as before. -/
theorem FlightInv.filled_or_kept :
    (∃ c, m.dials = [] ∧ stage.dials s v input = some (key, .ok c.handle) ∧
      (observeFlights key m s (.task t input)).dials = [.ok c.handle] ∧
        (s.after t pc fx).content key = some c) ∨
    (observeFlights key m s (.task t input)).dials = m.dials ∧
      (∀ r, stage.dials s v input ≠ some (key, r)) ∧
        (s.after t pc fx).content key = s.content key := by
  have hdials : (observeFlights key m s (.task t input)).dials =
      m.dials ++ underKey key (stage.dials s v input) := by
    simp only [observeFlights, onHop, ht]
  by_cases hd : ∃ r, stage.dials s v input = some (key, r)
  · -- A dial for the slot: there was none before, and this one succeeds.
    left
    rcases hd with ⟨r, hr⟩
    have hnil := hf.dials_nil hinv ht hr
    have hone : (observeFlights key m s (.task t input)).dials = [r] := by
      rw [hdials, hnil, hr, underKey, if_pos rfl, List.nil_append]
    rcases hhealthy r (by rw [hone, List.head?_cons]) with ⟨h', rfl, _⟩
    rcases move_dials_content hinv ht hm hr with ⟨c, hc, rfl⟩
    exact ⟨c, hnil, hr, hone, hc⟩
  · right
    have hnot : ∀ r, stage.dials s v input ≠ some (key, r) := fun r hr => hd ⟨r, hr⟩
    refine ⟨?_, hnot, move_content hinv ht hm (fun h' => hnot (.ok h'))
      (fun conn hstage => hf.clear t v conn (hstage ▸ ht))⟩
    rw [hdials, List.eq_nil_iff_forall_not_mem.mpr (fun r hr => hnot r (mem_underKey.mp hr)),
      List.append_nil]

/-- Once there has been a dial, there is no other. -/
theorem FlightInv.keeps_dial {conn : Handle} (hone : m.dials = [.ok conn]) :
    (observeFlights key m s (.task t input)).dials = [.ok conn] := by
  rcases hf.filled_or_kept hinv ht hm hhealthy with ⟨c, hnil, _⟩ | ⟨hsame, _⟩
  · exact absurd (hnil.symm.trans hone) (by simp only [List.ne_cons_self, not_false_eq_true])
  · exact hsame.trans hone

/-- No `ready()` fails on a connection of this slot. -/
theorem FlightInv.ready_succeeds {conn : Handle} (hvia : stage.via cl v = some (key, conn)) :
    conn ∉ readyFails stage input := by
  intro hin
  have hdead : (observeFlights key m s (.task t input)).dead =
      m.dead ++ readyFails stage input := by
    simp only [observeFlights, onHop, ht]
  have hone := hf.keeps_dial hinv ht hm hhealthy (hf.via t v stage conn ht hvia)
  rcases hhealthy (.ok conn) (by rw [hone, List.head?_cons]) with ⟨h', heq, hnotin⟩
  cases heq
  exact hnotin (hdead ▸ List.mem_append_right _ hin)

/-- Whoever has a connection of this slot now has the one that was dialed. -/
theorem FlightInv.via_after {v' : Vars cl.crates.url} {stage' : Stage} {conn : Handle}
    (hpc : pc = .inHop v' stage') (hvia : stage'.via cl v' = some (key, conn)) :
    (observeFlights key m s (.task t input)).dials = [.ok conn] := by
  rcases move_via hinv ht hm hpc hvia with hold | ⟨c, hc, rfl⟩ | hd
  · -- It had it before.
    exact hf.keeps_dial hinv ht hm hhealthy (hf.via t v stage conn ht hold)
  · -- It took it from the slot.
    rcases hf.flown with ⟨_, hnone⟩ | ⟨c', hone, hc'⟩
    · exact absurd (hnone.symm.trans hc) (by simp only [reduceCtorEq, not_false_eq_true])
    · rw [hc, Option.some.injEq] at hc'
      exact hf.keeps_dial hinv ht hm hhealthy (hc' ▸ hone)
  · -- It dialed it.
    rcases hf.filled_or_kept hinv ht hm hhealthy with ⟨c, _, hd', hone, _⟩ | ⟨_, hnot, _⟩
    · rw [hd, Option.some.injEq, Prod.mk.injEq, Except.ok.injEq] at hd'
      rw [hone, hd'.2]
    · exact absurd hd (hnot _)

/-- The fallback of a failed send dials again only for an empty slot. -/
theorem FlightInv.redial_after {v' : Vars cl.crates.url} (hpc : pc = .inHop v' .midDial)
    (hkey : v'.h2PoolKey cl = key) : (s.after t pc fx).content key = none := by
  rcases move_midDial hm hpc with ⟨rfl, ⟨rfl, hnone⟩ | ⟨conn, rfl, rfl⟩⟩
  · have hcontent : (s.after t pc fx).content key = s.content key := by
      rcases hf.filled_or_kept hinv ht hm hhealthy with ⟨c, _, hd, _⟩ | ⟨_, _, hcontent⟩
      · exact absurd hd (by simp only [Stage.dials, reduceCtorEq, not_false_eq_true])
      · exact hcontent
    rw [hcontent]
    -- An HTTP/2 slot without an HTTP/2 connection is empty.
    cases hc : s.content key with
    | none => rfl
    | some c =>
        have hkind := hinv.kind key c hc
        rw [← hkey, isH3Key_h2PoolKey] at hkind
        cases c with
        | http2 conn => exact absurd (hkey ▸ hc) (hnone conn)
        | http3 session => exact absurd hkind Bool.noConfusion
  · exact absurd List.mem_cons_self
      (hf.ready_succeeds hinv ht hm hhealthy (by rw [Stage.via, hkey]))

theorem flightInv_stage (h : step s (.task t input) = some (s.after t pc fx)) :
    FlightInv key (observeFlights key m s (.task t input)) (s.after t pc fx) := by
  have hsends : (observeFlights key m s (.task t input)).sends =
      m.sends ++ underKey key (stage.toSend cl v) := by
    simp only [observeFlights, onHop, ht]
  constructor
  · exact mutexes_step hf.mutexes h (fun hp => foldl_apply_isSome t s hp)
  · rcases hf.filled_or_kept hinv ht hm hhealthy with ⟨c, _, _, hone, hc⟩ | ⟨hsame, _, hcontent⟩
    · exact Or.inr ⟨c, hone, hc⟩
    · rw [hsame, hcontent]
      exact hf.flown
  · intro t' v' stage' h' hpc hvia
    rcases State.after_tasks_eq hpc with ⟨_, heq⟩ | ⟨_, hsame⟩
    · exact hf.via_after hinv ht hm hhealthy heq hvia
    · exact hf.keeps_dial hinv ht hm hhealthy (hf.via t' v' stage' h' hsame hvia)
  · intro t' v' conn hpc hkey
    rcases State.after_tasks_eq hpc with ⟨_, heq⟩ | ⟨_, hsame⟩
    · rcases move_lockClear hm heq with ⟨rfl, rfl, rfl⟩
      exact hf.ready_succeeds hinv ht hm hhealthy (by rw [Stage.via, hkey]) List.mem_cons_self
    · exact hf.clear t' v' conn hsame hkey
  · intro t' v' hpc hkey
    rcases State.after_tasks_eq hpc with ⟨_, heq⟩ | ⟨hne, hsame⟩
    · exact hf.redial_after hinv ht hm hhealthy heq hkey
    · -- Another task dials there, so this one is not inside the slot.
      have hheld := hinv.mutex t' v' .midDial _ hsame List.mem_cons_self
      exact (hinv.foreign ht hm (hkey ▸ hheld) hne).1.trans (hf.redial t' v' hsame hkey)
  · intro h' hin
    rw [hsends] at hin
    refine hf.keeps_dial hinv ht hm hhealthy ?_
    rcases List.mem_append.mp hin with hold | hnew
    · exact hf.sends h' hold
    · have hsend := mem_underKey.mp hnew
      refine hf.via t v stage h' ht ?_
      cases stage with
      | send | midSend => exact hsend
      | _ => exact absurd hsend (by simp only [Stage.toSend, reduceCtorEq, not_false_eq_true])

end Hop

omit hinv in
/-- A step outside of the hops shows nothing of the slot. -/
theorem flightInv_quiet {s' : State cl} {a : Action} (h : step s a = some s')
    (hnone : ∀ {β : Type} (f : Vars cl.crates.url → Stage → Input → List β), onHop s f a = [])
    (hpool : s'.pool = s.pool)
    (htasks : ∀ t v stage, s'.tasks t = .inHop v stage → stage = .cookies ∨
      s.tasks t = .inHop v stage) : FlightInv key (observeFlights key m s a) s' := by
  have hcontent : s'.content key = s.content key := by
    rw [State.content, State.content, hpool]
  have hdials : (observeFlights key m s a).dials = m.dials := by
    simp only [observeFlights, hnone, List.append_nil]
  have hsends : (observeFlights key m s a).sends = m.sends := by
    simp only [observeFlights, hnone, List.append_nil]
  constructor
  · exact mutexes_step hf.mutexes h (fun hp => hpool ▸ hp)
  · rw [hdials, hcontent]
    exact hf.flown
  · intro t v stage h' hpc hvia
    rw [hdials]
    rcases htasks t v stage hpc with rfl | hsame
    · exact absurd hvia (by simp only [Stage.via, reduceCtorEq, not_false_eq_true])
    · exact hf.via t v stage h' hsame hvia
  · intro t v conn hpc
    rcases htasks t v _ hpc with hstage | hsame
    · exact absurd hstage Stage.noConfusion
    · exact hf.clear t v conn hsame
  · intro t v hpc hkey
    rcases htasks t v _ hpc with hstage | hsame
    · exact absurd hstage Stage.noConfusion
    · exact hcontent.trans (hf.redial t v hsame hkey)
  · rw [hsends, hdials]
    exact hf.sends

theorem flightInv_step {s' : State cl} {a : Action} (h : step s a = some s')
    (hhealthy : (observeFlights key m s a).Healthy) :
    FlightInv key (observeFlights key m s a) s' := by
  cases a with
  | driver session e =>
      rcases step_driver_eq_some h with ⟨d, d', _, _, rfl⟩
      exact flightInv_quiet hf h (fun _ => rfl) rfl (fun _ _ _ hpc => Or.inr hpc)
  | task t input =>
      rcases step_task_eq_some h with ⟨pc, fx, hm, rfl⟩
      generalize htask : s.tasks t = pc₀ at hm
      -- What happens between two hops is not seen at a slot.
      have houtside : (∀ v stage, pc₀ ≠ .inHop v stage) → ∀ {β : Type}
          (f : Vars cl.crates.url → Stage → Input → List β), onHop s f (.task t input) = [] := by
        intro hout β f
        simp only [onHop, htask]
      have htasks : (∀ v stage, pc = .inHop v stage → stage = .cookies) → ∀ t' v stage,
          (s.after t pc fx).tasks t' = .inHop v stage → stage = .cookies ∨
            s.tasks t' = .inHop v stage := by
        intro hcookies t' v stage hpc
        rcases State.after_tasks_eq hpc with ⟨_, heq⟩ | ⟨_, hsame⟩
        · exact Or.inl (hcookies v stage heq)
        · exact Or.inr hsame
      cases hm with
      | call | refuse =>
          exact flightInv_quiet hf h (houtside fun _ _ hc => by cases hc) rfl
            (htasks fun _ _ hc => by cases hc)
      | enter =>
          exact flightInv_quiet hf h (houtside fun _ _ hc => by cases hc) rfl
            (htasks fun _ _ hc => by cases hc; rfl)
      | stage hm => exact flightInv_stage hinv hf htask hm hhealthy h

end Step

/-- A task has a connection only from a slot that is there. -/
def SlotsMade (s : State cl) : Prop :=
  ∀ t v stage key h, s.tasks t = .inHop v stage → stage.via cl v = some (key, h) →
    (s.pool key).isSome = true

theorem slotsMade_step {s s' : State cl} {a : Action} (hinv : PoolInv s) (hi : SlotsMade s)
    (h : step s a = some s') : SlotsMade s' := by
  cases a with
  | driver session e =>
      rcases step_driver_eq_some h with ⟨d, d', _, _, rfl⟩
      exact hi
  | task t input =>
      rcases step_task_eq_some h with ⟨pc, fx, hm, rfl⟩
      intro t' v' stage' key h' hpc hvia
      refine foldl_apply_isSome t s ?_
      rcases State.after_tasks_eq hpc with ⟨_, heq⟩ | ⟨_, hsame⟩
      · generalize htask : s.tasks t = pc₀ at hm
        cases hm with
        | call | refuse => cases heq
        | enter =>
            cases heq
            exact absurd hvia (by simp only [Stage.via, reduceCtorEq, not_false_eq_true])
        | stage hm =>
            rcases move_via hinv htask hm heq hvia with hold | ⟨c, hc, _⟩ | hd
            · exact hi t _ _ key h' htask hold
            · rcases Option.bind_eq_some_iff.mp hc with ⟨slot, hslot, _⟩
              rw [hslot, Option.isSome_some]
            · exact State.isSome_of_holder (hinv.mutex t _ _ key htask (dials_holds hd))
      · exact hi t' v' stage' key h' hsame hvia

/-- Nothing has been done to a slot that is not there. -/
theorem flightInv_absent {key : String} {s : State cl} (hi : SlotsMade s)
    (habsent : s.pool key = none) : FlightInv key {} s := by
  have hvia : ∀ t v stage h, s.tasks t = .inHop v stage → stage.via cl v ≠ some (key, h) := by
    intro t v stage h ht hvia
    have hsome := hi t v stage key h ht hvia
    rw [habsent] at hsome
    exact Bool.noConfusion hsome
  have hcontent : s.content key = none := by
    rw [State.content, habsent, Option.bind_none]
  constructor
  · rw [habsent]
    rfl
  · exact Or.inl ⟨rfl, hcontent⟩
  · exact fun t v stage h ht h' => absurd h' (hvia t v stage h ht)
  · exact fun t v conn ht hkey => hvia t v _ conn ht (by rw [Stage.via, hkey])
  · exact fun _ _ _ _ => hcontent
  · exact fun _ hin => absurd hin List.not_mem_nil

theorem FlightInv.singleFlight {key : String} {m : Flights} {s : State cl}
    (hf : FlightInv key m s) : SingleFlight m := by
  have hmade : m.dials ≠ [] → m.mutexes = 1 := by
    intro hne
    rcases hf.flown with ⟨hnil, _⟩ | ⟨c, _, hc⟩
    · exact absurd hnil hne
    · rcases Option.bind_eq_some_iff.mp hc with ⟨slot, hslot, _⟩
      rw [hf.mutexes, hslot, Option.isSome_some, if_pos rfl]
  constructor
  · rw [hf.mutexes]
    split <;> decide
  · rintro (hne | hne)
    · exact hmade hne
    · rcases List.exists_mem_of_ne_nil _ hne with ⟨h, hin⟩
      exact hmade (by rw [hf.sends h hin]; exact List.cons_ne_nil _ _)
  · rcases hf.flown with ⟨hnil, _⟩ | ⟨c, hone, _⟩
    · rw [hnil]
      exact Nat.zero_le _
    · rw [hone]
      exact Nat.le_refl _
  · exact hf.sends

/-- From any reachable state whose pool has no entry for a slot, however many
    tasks come to need it and in whatever order they move: if the first dial for
    it succeeds and no `ready()` fails on that connection, the slot is made
    once, dialed for once, and everything sent through it is sent on that one
    connection. -/
theorem single_flight (altSvc : AltSvcCache) (jar : Jar) {s₀ : State cl}
    (hreach : Reachable step (State.fresh cl altSvc jar) s₀) {u : Url} {h3 : Bool}
    (habsent : s₀.pool (slotKey cl u h3) = none) {as : List Action} {s : State cl}
    (hrun : run step s₀ as = some s)
    (hhealthy : (history step (observeFlights (slotKey cl u h3)) {} s₀ as).Healthy) :
    SingleFlight (history step (observeFlights (slotKey cl u h3)) {} s₀ as) := by
  have hinit : PoolInv (State.fresh cl altSvc jar) ∧ SlotsMade (State.fresh cl altSvc jar) :=
    ⟨poolInv_fresh altSvc jar, fun t v stage key h ht => absurd ht (by
      simp only [State.fresh, reduceCtorEq, not_false_eq_true])⟩
  have hstart : PoolInv s₀ ∧ SlotsMade s₀ :=
    reachable_invariant step (I := fun s => PoolInv s ∧ SlotsMade s) hinit
      (fun _ _ _ hi hs => ⟨poolInv_step hi.1 hs, slotsMade_step hi.1 hi.2 hs⟩) hreach
  have hend : PoolInv s ∧
      ((history step (observeFlights (slotKey cl u h3)) {} s₀ as).Healthy →
        FlightInv (slotKey cl u h3) (history step (observeFlights (slotKey cl u h3)) {} s₀ as) s) :=
    history_invariant step
      (J := fun m s => PoolInv s ∧ (m.Healthy → FlightInv (slotKey cl u h3) m s))
      (fun _ _ _ _ hJ hs => ⟨poolInv_step hJ.1 hs,
        fun hh => flightInv_step hJ.1 (hJ.2 hh.of_observe) hs hh⟩)
      ⟨hstart.1, fun _ => flightInv_absent hstart.2 habsent⟩ hrun
  exact (hend.2 hhealthy).singleFlight

/-- A GET of https://a.test/ up to the lookup of its slot. -/
def looksUp (t : Nat) : List Action :=
  ([.call "GET" "https://a.test/" none .navigate, .go, .go, .go, .go] : List Input).map (.task t)

/-- Two tasks find the slot empty. One dials for it while the other waits for the
    lock, looks again, and sends on the same connection. -/
def flyTogether : List Action :=
  looksUp 0 ++ looksUp 1 ++ [.task 0 .go, .task 1 .go, .task 0 .go] ++
    [.task 0 (.dial (.connected { ip := .v4 0xC0000201, port := 443 } none)), .task 1 .go,
      .task 1 .go, .task 1 (.ready true), .task 1 (.transmit none), .task 0 (.transmit none)]

/-- The connection they share. -/
def flownHandle : Handle :=
  { id := 0, host := "a.test", port := 443,
    socket := { transport := .tcp, peer := .origin { ip := .v4 0xC0000201, port := 443 } } }

theorem single_flight_together :
    ∃ m, m = history step (observeFlights (slotKey direct siteA false)) {}
        (State.fresh direct AltSvcCache.new ()) flyTogether ∧
      m.sends.length = 2 ∧ SingleFlight m := by
  have hrun : (run step (State.fresh direct AltSvcCache.new ()) flyTogether).isSome = true := by
    decide +kernel
  rcases Option.isSome_iff_exists.mp hrun with ⟨s, hs⟩
  have hrecord : (history step (observeFlights (slotKey direct siteA false)) {}
        (State.fresh direct AltSvcCache.new ()) flyTogether).dials = [.ok flownHandle] ∧
      (history step (observeFlights (slotKey direct siteA false)) {}
        (State.fresh direct AltSvcCache.new ()) flyTogether).dead = [] ∧
      (history step (observeFlights (slotKey direct siteA false)) {}
        (State.fresh direct AltSvcCache.new ()) flyTogether).sends.length = 2 := by
    decide +kernel
  refine ⟨_, rfl, hrecord.2.2, single_flight AltSvcCache.new () ⟨[], rfl⟩ rfl hs ?_⟩
  intro r hr
  rw [hrecord.1, List.head?_cons, Option.some.injEq] at hr
  refine ⟨flownHandle, hr.symm, ?_⟩
  rw [hrecord.2.1]
  exact List.not_mem_nil

end Quik
