import Quik.Pool
import Quik.PoolKey

/-!
# Connection Isolation

A connection serves the host and port it was dialed for, and no other. The
slots are written in four places, under two keys and two locks, but every key a
hop uses is built from the hop's own URL, and what is stored under it was either
dialed for that URL or was in that slot before. Since a key determines the host
and the port it was built from, whoever takes a connection from a slot gets one
that was dialed for its own URL.

## Main definitions

* `Handle.For`: A connection dialed for the host and port of a URL.
* `Isolated`: Each slot holds what its key says, and each task works with a
  connection of its own URL.

## Theorems

* `move_handle_for`: Where a hop gets its connection from.
* `isolation`: Every reachable state is isolated, and keys do not collide.
-/

namespace Quik

open Transition

variable {Jar : Type} {cl : Client Jar}

/-- Dialed for the host and the effective port of a URL. -/
structure Handle.For (h : Handle) (u : Url) : Prop where
  host : h.host = u.hostStr.getD ""
  port : h.port = u.connectPort

/-- The slot of a URL on a transport. -/
def slotKey (cl : Client Jar) (u : Url) (h3 : Bool) : String :=
  poolKey cl.proxy u (transportProto h3)

/-- Every connection is where it belongs. -/
structure Isolated (s : State cl) : Prop where
  h2 : ∀ key c, "#h2".toList <:+ key.toList → s.content key = some c → ∃ conn, c = .http2 conn
  h3 : ∀ key c, "#h3".toList <:+ key.toList → s.content key = some c →
    ∃ session, c = .http3 session
  slot : ∀ u h3 c, s.content (slotKey cl u h3) = some c → c.handle.For u
  /-- A request is built from the URL of its hop, and sent on this connection. -/
  task : ∀ t v stage h, s.tasks t = .inHop v stage → stage.handle? = some h → h.For v.parsedUrl

theorem dialResult_for {s : State cl} {u : Url} {dialH3 : Bool} {outcome : DialOutcome}
    {h : Handle} (hr : dialResult s u dialH3 outcome = .ok h) : h.For u := by
  cases outcome with
  | unreachable | broken => simp only [dialResult, reduceCtorEq] at hr
  | connected addr localAddr =>
      simp only [dialResult, Except.ok.injEq] at hr
      rw [← hr]
      exact ⟨rfl, rfl⟩

/-- The connections in the slots of one URL. -/
def inSlotOf (s : State cl) (u : Url) (h : Handle) : Prop :=
  ∃ h3 c, s.content (slotKey cl u h3) = some c ∧ c.handle = h

section Moves

variable {s : State cl} {v : Vars cl.crates.url} {stage : Stage} {input : Input}
  {pc : Pc cl.crates.url} {fx : List Effect}

/-- A hop keeps its URL, and the connection it goes on with is the one it had,
    one from a slot of that URL, or one it has just dialed for it. -/
theorem move_handle_for (hm : StageMove s v stage input pc fx) {v' : Vars cl.crates.url}
    {stage' : Stage} (hpc : pc = .inHop v' stage') {h : Handle} (hh : stage'.handle? = some h) :
    v'.parsedUrl = v.parsedUrl ∧
      (stage.handle? = some h ∨ inSlotOf s v.parsedUrl h ∨ h.For v.parsedUrl) := by
  cases hm with
  -- Three stages take a connection out of a slot, three dial one.
  | lockClone =>
      cases hpc
      rcases afterClone_handle hh with ⟨c, hc, hch⟩
      exact ⟨rfl, Or.inr (Or.inl ⟨v.hasAltSvc, c, hc, hch⟩)⟩
  | fallbackLockTaken conn _ hcontent =>
      cases hpc
      exact ⟨rfl, Or.inr (Or.inl ⟨false, conn, hcontent, Option.some.inj hh⟩)⟩
  | midLock =>
      cases hpc
      exact ⟨rfl, Or.inr (Or.inl ⟨false, _, afterMidLock_handle hh, rfl⟩)⟩
  | dialed outcome h' hres =>
      cases hpc
      simp only [Stage.handle?, pooled_handle, Option.some.injEq] at hh
      exact ⟨rfl, Or.inr (Or.inr (hh ▸ dialResult_for hres))⟩
  | fallbackDialed outcome h' hres | midDialed outcome h' hres =>
      cases hpc
      simp only [Stage.handle?, PooledConnection.handle, Option.some.injEq] at hh
      exact ⟨rfl, Or.inr (Or.inr (hh ▸ dialResult_for hres))⟩
  | _ => first
    | (cases hpc; exact ⟨rfl, Or.inl hh⟩)
    | (cases hpc; exact absurd hh (by simp only [Stage.handle?, reduceCtorEq, not_false_eq_true]))
    | cases hpc

/-- What a hop stores, it stores in a slot of its own URL, and it had it from
    there or has just dialed it. -/
theorem move_store_for (hm : StageMove s v stage input pc fx) {key : String}
    {c : PooledConnection} (hin : .store key (some c) ∈ fx) :
    (∃ h3, key = slotKey cl v.parsedUrl h3) ∧
      (stage.handle? = some c.handle ∨ c.handle.For v.parsedUrl) := by
  have hdial : ∀ dialH3 outcome, .store key (some c) ∉ dialEffects cl dialH3 outcome :=
    not_mem_dialEffects trivial
  cases hm with
  | dialed outcome h hres =>
      simp only [List.mem_append, hdial, List.mem_cons, Effect.store.injEq, Option.some.injEq,
        reduceCtorEq, List.not_mem_nil, or_false, false_or] at hin
      rcases hin with ⟨rfl, rfl⟩
      exact ⟨⟨v.hasAltSvc, rfl⟩, Or.inr ((pooled_handle _ h).symm ▸ dialResult_for hres)⟩
  | fallbackDialed outcome h hres | midDialed outcome h hres =>
      simp only [List.mem_append, hdial, List.mem_cons, Effect.store.injEq, Option.some.injEq,
        reduceCtorEq, List.not_mem_nil, or_false, false_or] at hin
      rcases hin with ⟨rfl, rfl⟩
      exact ⟨⟨false, rfl⟩, Or.inr (dialResult_for hres)⟩
  | midReadyAlive conn =>
      simp only [List.mem_singleton, Effect.store.injEq, Option.some.injEq] at hin
      rcases hin with ⟨rfl, rfl⟩
      exact ⟨⟨false, rfl⟩, Or.inl rfl⟩
  | dialH3Failed outcome e _ _ => exact absurd hin (hdial _ _)
  | _ => simp only [List.mem_append, hdial, List.mem_cons, Effect.store.injEq, reduceCtorEq,
      and_false, List.not_mem_nil, or_false] at hin

end Moves

/-- The part of isolation that a step has to keep. -/
structure Placed (s : State cl) : Prop where
  slot : ∀ u h3 c, s.content (slotKey cl u h3) = some c → c.handle.For u
  task : ∀ t v stage h, s.tasks t = .inHop v stage → stage.handle? = some h → h.For v.parsedUrl

/-- Two URLs with a slot in common have the host and the port in common. -/
theorem Handle.For.of_slotKey {h : Handle} {u u' : Url} {h3 h3' : Bool} (hf : h.For u)
    (hkey : slotKey cl u' h3' = slotKey cl u h3) : h.For u' := by
  rcases poolKey_inj hkey with ⟨hhost, hport, _⟩
  exact ⟨hf.host.trans hhost.symm, hf.port.trans hport.symm⟩

theorem placed_stage {s : State cl} (hi : Placed s) {t : Nat} {v : Vars cl.crates.url}
    {stage : Stage} {input : Input} {pc : Pc cl.crates.url} {fx : List Effect}
    (ht : s.tasks t = .inHop v stage) (hm : StageMove s v stage input pc fx) :
    Placed (s.after t pc fx) := by
  constructor
  · intro u h3 c hc
    rcases foldl_apply_content t s hc with hold | hin
    · exact hi.slot u h3 c hold
    · rcases move_store_for hm hin with ⟨⟨h3', hkey⟩, hfrom⟩
      rcases hfrom with hold | hnew
      · exact (hi.task t v stage c.handle ht hold).of_slotKey hkey
      · exact hnew.of_slotKey hkey
  · intro t' v' stage' h hpc hh
    rcases State.after_tasks_eq hpc with ⟨_, heq⟩ | ⟨_, hsame⟩
    · rcases move_handle_for hm heq hh with ⟨hurl, hold | ⟨h3, c, hc, rfl⟩ | hnew⟩
      · exact hurl ▸ hi.task t v stage h ht hold
      · exact hurl ▸ hi.slot v.parsedUrl h3 c hc
      · exact hurl ▸ hnew
    · exact hi.task t' v' stage' h hsame hh

theorem placed_step {s s' : State cl} {a : Action} (hi : Placed s) (h : step s a = some s') :
    Placed s' := by
  cases a with
  | driver session e =>
      rcases step_driver_eq_some h with ⟨d, d', _, _, rfl⟩
      exact ⟨hi.slot, hi.task⟩
  | task t input =>
      rcases step_task_eq_some h with ⟨pc, fx, hm, rfl⟩
      generalize htask : s.tasks t = pc₀ at hm
      -- Between two hops a task works with no connection.
      have hquiet : ∀ (pc' : Pc cl.crates.url) fx', pc'.handle? = none →
          (∀ key, (fx'.foldl (State.apply t) s).content key = s.content key) →
          Placed (s.after t pc' fx') := by
        intro pc' fx' hnone hcontent
        refine ⟨fun u h3 c hc => hi.slot u h3 c ((hcontent _).symm.trans hc), ?_⟩
        intro t' v' stage' h' hpc hh
        rcases State.after_tasks_eq hpc with ⟨_, heq⟩ | ⟨_, hsame⟩
        · rw [heq] at hnone
          exact absurd (hnone.symm.trans hh) (by simp only [reduceCtorEq, not_false_eq_true])
        · exact hi.task t' v' stage' h' hsame hh
      cases hm with
      | call | enter | refuse => exact hquiet _ _ rfl (fun _ => rfl)
      | stage hm => exact placed_stage hi htask hm

theorem isH3Key_of_suffix {key : String} {h3 : Bool}
    (h : ("#" ++ transportProto h3).toList <:+ key.toList) : isH3Key key = h3 := by
  rcases h with ⟨front, hfront⟩
  rw [isH3Key, ← hfront, List.getLast?_append]
  cases h3 <;> rfl

theorem Placed.isolated {s : State cl} (hi : Placed s) (hinv : PoolInv s) : Isolated s := by
  have hkind : ∀ h3 key c, ("#" ++ transportProto h3).toList <:+ key.toList →
      s.content key = some c → c.isH3 = h3 := by
    intro h3 key c hkey hc
    rw [hinv.kind key c hc, isH3Key_of_suffix hkey]
  constructor
  · intro key c hkey hc
    cases c with
    | http2 conn => exact ⟨conn, rfl⟩
    | http3 session => exact absurd (hkind false key _ hkey hc) Bool.noConfusion
  · intro key c hkey hc
    cases c with
    | http2 conn => exact absurd (hkind true key _ hkey hc) Bool.noConfusion
    | http3 session => exact ⟨session, rfl⟩
  · exact hi.slot
  · exact hi.task

/-- In every state of every run of a fresh client the slots hold what their keys
    say and the tasks work with connections of their own URLs; and no two keys
    of parsed URLs collide, whatever the proxies are. -/
theorem isolation (hlegal : cl.crates.url.LegalHosts) (altSvc : AltSvcCache) (jar : Jar)
    {as : List Action} {s : State cl} (hrun : run step (State.fresh cl altSvc jar) as = some s) :
    Isolated s ∧ KeysInjective cl.crates.url := by
  have hfresh : Placed (State.fresh cl altSvc jar) := by
    constructor
    · intro u h3 c hc
      exact absurd hc (by simp only [State.content, State.fresh, Option.bind_none, reduceCtorEq,
        not_false_eq_true])
    · intro t v stage h hpc
      exact absurd hpc (by simp only [State.fresh, reduceCtorEq, not_false_eq_true])
  have hplaced : Placed s :=
    run_invariant step (I := Placed) (fun _ _ _ hi hs => placed_step hi hs) hfresh hrun
  exact ⟨hplaced.isolated (poolInv_run (poolInv_fresh altSvc jar) hrun), keysInjective hlegal⟩

/-- A GET of https://a.test/ whose HTTP/3 dial fails and whose fallback dials
    over HTTP/2. -/
def dialsTwice : List Action :=
  ([ .call "GET" "https://a.test/" none .navigate, .go, .go, .go, .go, .go, .go,
    .dial (.unreachable (.connect "network is unreachable")), .go, .go, .go,
    .dial (.connected { ip := .v4 0xC0000201, port := 443 } none) ] : List Input).map (.task 0)

theorem isolation_dialsTwice :
    ∃ s, run step cachedA dialsTwice = some s ∧ Isolated s ∧ KeysInjective direct.crates.url := by
  have hrun : (run step cachedA dialsTwice).isSome = true := by decide +kernel
  rcases Option.isSome_iff_exists.mp hrun with ⟨s, hs⟩
  exact ⟨s, hs, isolation (UrlCrate.ofTable_legalHosts (by decide)) _ () hs⟩

end Quik
