import Quik.CallLog

/-!
# What the Shared Stores Have Been Told

The cookie jar and the hint cache are shared by every call of a client. Beside
the state of the client a ledger lists the responses that were stored in each,
with the task and the URL they came from, in the order the stores took place;
and for each task, what the list held when its current hop read the store.

The store is the ledger replayed on what it held at first, in every state of
every run, however the calls in it have ended. What a hop has read is the part
of the ledger that was written by then.

## Main definitions

* `Stored`, `Ledger`: A response that was stored, and the lists.
* `jarAfter`, `hintsAfter`: A ledger replayed.
* `ledger`: The ledger at the end of a run.
* `LedgerInv`: The stores and the hops against the ledger.

## Theorems

* `move_jar_hintCache`: What a move does to the two stores.
* `ledgerInv_run`: The invariant of every run.
-/

namespace Quik

open Transition

variable {Jar : Type} {cl : Client Jar}

/-- A response that was stored, by which task, for which URL. -/
structure Stored where
  task : Nat
  url : Url
  resp : Response

/-- The responses stored in the jar and in the hint cache, and those that were
    when the current hop of each task read them. -/
structure Ledger where
  cookies : List Stored := []
  hints : List Stored := []
  cookieReads : Nat → List Stored := fun _ => []
  hintReads : Nat → List Stored := fun _ => []

/-- What a step of task `t` adds to the ledger. -/
def Ledger.record (l : Ledger) (t : Nat) : Pc cl.crates.url → Input → Ledger
  | .inHop _ .cookies, .go => { l with cookieReads := Function.update l.cookieReads t l.cookies }
  | .inHop _ .hints, .go => { l with hintReads := Function.update l.hintReads t l.hints }
  | .inHop v (.storeCookies resp), .go =>
    { l with cookies := l.cookies ++ [{ task := t, url := v.parsedUrl, resp := resp }] }
  | .inHop v (.storeHints resp), .go =>
    { l with hints := l.hints ++ [{ task := t, url := v.parsedUrl, resp := resp }] }
  | _, _ => l

def recordLedger (l : Ledger) (s : State cl) : Action → Ledger
  | .task t input => l.record t (s.tasks t) input
  | .driver _ _ => l

/-- The ledger at the end of a run of a fresh client. -/
def ledger (cl : Client Jar) (altSvc : AltSvcCache) (jar : Jar) (as : List Action) : Ledger :=
  history step recordLedger {} (State.fresh cl altSvc jar) as

/-- The jar after a list of stores. -/
def jarAfter (cl : Client Jar) (jar : Jar) (stores : List Stored) : Jar :=
  stores.foldl (fun jar e => storeCookies cl jar e.resp e.url) jar

/-- The hint cache after a list of stores, from the empty one. -/
def hintsAfter (stores : List Stored) : String → Bool :=
  stores.foldl (fun cache e => storeHints cache e.resp e.url) (fun _ => false)

theorem jarAfter_concat (jar : Jar) (stores : List Stored) (e : Stored) :
    jarAfter cl jar (stores ++ [e]) = storeCookies cl (jarAfter cl jar stores) e.resp e.url := by
  rw [jarAfter, List.foldl_append]
  rfl

theorem hintsAfter_concat (stores : List Stored) (e : Stored) :
    hintsAfter (stores ++ [e]) = storeHints (hintsAfter stores) e.resp e.url := by
  rw [hintsAfter, List.foldl_append]
  rfl

/-- An effect that stores no response in the jar or the hint cache. -/
def Effect.leavesStores : Effect → Bool
  | .storeCookies _ _ | .storeHints _ _ => false
  | _ => true

theorem foldl_apply_stores {fx : List Effect} (t : Nat) (s : State cl)
    (h : ∀ e ∈ fx, e.leavesStores = true) :
    (fx.foldl (State.apply t) s).jar = s.jar ∧
      (fx.foldl (State.apply t) s).hintCache = s.hintCache :=
  List.foldlRecOn fx (State.apply t)
    (motive := fun s' : State cl => s'.jar = s.jar ∧ s'.hintCache = s.hintCache) ⟨rfl, rfl⟩
    (fun s' hs' e he => by
      have hleaves := h e he
      cases e with
      | storeCookies | storeHints => exact absurd hleaves Bool.false_ne_true
      | _ => exact hs')

theorem leavesStores_dialEffects (dialH3 : Bool) (outcome : DialOutcome) :
    ∀ e ∈ dialEffects cl dialH3 outcome, e.leavesStores = true :=
  forall_mem_dialEffects (fun _ => rfl) (fun _ _ => rfl) outcome

/-- The response a stage stores in the jar; in the hint cache. -/
def Stage.storesCookies? : Stage → Option Response
  | .storeCookies resp => some resp
  | _ => none

def Stage.storesHints? : Stage → Option Response
  | .storeHints resp => some resp
  | _ => none

/-- Only the two storing stages touch the stores. -/
theorem move_jar_hintCache {s : State cl} {v : Vars cl.crates.url} {stage : Stage} {input : Input}
    {pc : Pc cl.crates.url} {fx : List Effect} (hm : StageMove s v stage input pc fx) (t : Nat) :
    (s.after t pc fx).jar =
        (match stage.storesCookies? with
          | some resp => storeCookies cl s.jar resp v.parsedUrl
          | none => s.jar) ∧
      (s.after t pc fx).hintCache =
        (match stage.storesHints? with
          | some resp => storeHints s.hintCache resp v.parsedUrl
          | none => s.hintCache) := by
  cases hm with
  | storeCookies resp | storeHints resp => exact ⟨rfl, rfl⟩
  | _ =>
      refine foldl_apply_stores t s ?_
      simp only [List.forall_mem_append, List.forall_mem_cons, List.not_mem_nil, false_implies,
        implies_true, Effect.leavesStores, and_true]
      try exact leavesStores_dialEffects _ _

/-- The stages at which a hop has yet to read the jar; the jar or the hint
    cache. -/
def Stage.cookiesUnread : Stage → Bool
  | .cookies => true
  | _ => false

def Stage.unread : Stage → Bool
  | .cookies | .hints => true
  | _ => false

/-- Once its variables are read, a hop keeps them. -/
theorem move_keeps {s : State cl} {v v' : Vars cl.crates.url} {stage stage' : Stage}
    {input : Input} {fx : List Effect} (hm : StageMove s v stage input (.inHop v' stage') fx) :
    v'.ticket = v.ticket ∧ (stage.unread = false → v' = v ∧ stage'.unread = false) := by
  generalize hpc : Pc.inHop v' stage' = pc at hm
  cases hm with
  | cookies | hints =>
      cases hpc
      exact ⟨rfl, fun h => absurd h Bool.true_eq_false_eq_False⟩
  | lockClone =>
      cases hpc
      refine ⟨rfl, fun _ => ⟨rfl, ?_⟩⟩
      rcases s.content (v.poolKey cl) with _ | conn | session <;> rfl
  | midLock =>
      cases hpc
      refine ⟨rfl, fun _ => ⟨rfl, ?_⟩⟩
      rcases s.content (v.h2PoolKey cl) with _ | conn | session <;> rfl
  | _ => first
    | (cases hpc; exact ⟨rfl, fun _ => ⟨rfl, rfl⟩⟩)
    | cases hpc

/-- A hop against the ledger: what it has read is what the stores held then. -/
def LedgerPc (init : Jar) (l : Ledger) (t : Nat) : Pc cl.crates.url → Prop
  | .inHop v stage =>
    (stage.cookiesUnread = false →
      v.cookieHeader = cookieHeader cl (jarAfter cl init (l.cookieReads t)) v.parsedUrl) ∧
    (stage.unread = false →
      v.acceptCh = hintsAfter (l.hintReads t) v.parsedUrl.origin.asciiSerialization)
  | _ => True

/-- The stores and the hops against the ledger. -/
structure LedgerInv (init : Jar) (l : Ledger) (s : State cl) : Prop where
  jar : s.jar = jarAfter cl init l.cookies
  hintCache : s.hintCache = hintsAfter l.hints
  reads : ∀ t, l.cookieReads t <+: l.cookies ∧ l.hintReads t <+: l.hints
  hops : ∀ t, LedgerPc init l t (s.tasks t)

/-- A move keeps its hop in line with the ledger. -/
theorem ledgerPc_move {init : Jar} {l : Ledger} {s : State cl} (hinv : LedgerInv init l s)
    {t : Nat} {pc pc' : Pc cl.crates.url} {input : Input} {fx : List Effect}
    (hm : TaskMove s pc input pc' fx) (h : LedgerPc init l t pc) :
    LedgerPc init (l.record t pc input) t pc' := by
  cases hm with
  | call | refuse => trivial
  | enter v => exact ⟨fun hc => absurd hc Bool.true_eq_false_eq_False,
      fun hc => absurd hc Bool.true_eq_false_eq_False⟩
  | stage hm =>
      cases hm with
      | cookies =>
          refine ⟨fun _ => ?_, fun hc => absurd hc Bool.true_eq_false_eq_False⟩
          simp only [Ledger.record, Function.update_self, ← hinv.jar]
      | hints =>
          refine ⟨fun _ => h.1 rfl, fun _ => ?_⟩
          simp only [Ledger.record, Function.update_self, ← hinv.hintCache]
      -- Everything else is done with variables that are read already.
      | _ => first
        | exact ⟨fun _ => h.1 rfl, fun _ => h.2 rfl⟩
        | trivial

/-- A step of one task leaves what the others have read. -/
theorem record_reads_of_ne (l : Ledger) {t t' : Nat} (pc : Pc cl.crates.url) (input : Input)
    (h : t' ≠ t) : (l.record t pc input).cookieReads t' = l.cookieReads t' ∧
      (l.record t pc input).hintReads t' = l.hintReads t' := by
  unfold Ledger.record
  split
  · exact ⟨Function.update_of_ne h _ _, rfl⟩
  · exact ⟨rfl, Function.update_of_ne h _ _⟩
  · exact ⟨rfl, rfl⟩
  · exact ⟨rfl, rfl⟩
  · exact ⟨rfl, rfl⟩

/-- What is written in the ledger stays there, and reads see a part of it. -/
theorem record_reads {l : Ledger}
    (h : ∀ t, l.cookieReads t <+: l.cookies ∧ l.hintReads t <+: l.hints) (t : Nat)
    (pc : Pc cl.crates.url) (input : Input) (t' : Nat) :
    (l.record t pc input).cookieReads t' <+: (l.record t pc input).cookies ∧
      (l.record t pc input).hintReads t' <+: (l.record t pc input).hints := by
  unfold Ledger.record
  split
  · refine ⟨?_, (h t').2⟩
    by_cases ht : t' = t
    · simp only [ht, Function.update_self, List.prefix_rfl]
    · simp only [Function.update_of_ne ht]
      exact (h t').1
  · refine ⟨(h t').1, ?_⟩
    by_cases ht : t' = t
    · simp only [ht, Function.update_self, List.prefix_rfl]
    · simp only [Function.update_of_ne ht]
      exact (h t').2
  · exact ⟨(h t').1.trans (List.prefix_append _ _), (h t').2⟩
  · exact ⟨(h t').1, (h t').2.trans (List.prefix_append _ _)⟩
  · exact h t'

/-- The stores follow the ledger. -/
theorem record_stores {init : Jar} {l : Ledger} {s : State cl} (hinv : LedgerInv init l s)
    {t : Nat} {pc : Pc cl.crates.url} {input : Input} {fx : List Effect}
    (hm : TaskMove s (s.tasks t) input pc fx) :
    (s.after t pc fx).jar = jarAfter cl init (l.record t (s.tasks t) input).cookies ∧
      (s.after t pc fx).hintCache = hintsAfter (l.record t (s.tasks t) input).hints := by
  generalize s.tasks t = pc₀ at hm
  cases hm with
  | call | refuse | enter => exact ⟨hinv.jar, hinv.hintCache⟩
  | stage hm =>
      have hstores := move_jar_hintCache hm t
      cases hm with
      | storeCookies resp =>
          refine ⟨?_, hinv.hintCache⟩
          rw [hstores.1, hinv.jar, Ledger.record, jarAfter_concat]
          rfl
      | storeHints resp =>
          refine ⟨hinv.jar, ?_⟩
          rw [hstores.2, hinv.hintCache, Ledger.record, hintsAfter_concat]
          rfl
      | _ => exact ⟨hstores.1.trans hinv.jar, hstores.2.trans hinv.hintCache⟩

theorem ledgerInv_step {init : Jar} {l : Ledger} {s s' : State cl} {a : Action}
    (hinv : LedgerInv init l s) (h : step s a = some s') :
    LedgerInv init (recordLedger l s a) s' := by
  cases a with
  | driver session e =>
      rcases step_driver_eq_some h with ⟨d, d', _, _, rfl⟩
      exact ⟨hinv.jar, hinv.hintCache, hinv.reads, hinv.hops⟩
  | task t input =>
      rcases step_task_eq_some h with ⟨pc, fx, hm, rfl⟩
      have hstores := record_stores hinv hm
      refine ⟨hstores.1, hstores.2, record_reads hinv.reads t _ input, fun t' => ?_⟩
      rw [State.after_tasks]
      by_cases ht : t' = t
      · rw [ht, Function.update_self]
        exact ledgerPc_move hinv hm (hinv.hops t)
      · rw [Function.update_of_ne ht]
        have hpc := hinv.hops t'
        -- The ledger grew, but what this task has read it read before.
        have hreads := record_reads_of_ne l (s.tasks t) input ht
        revert hpc
        cases s.tasks t' with
        | inHop v stage =>
            simp only [LedgerPc, recordLedger, hreads.1, hreads.2]
            exact id
        | _ => exact id

/-- At the end of every run. -/
theorem ledgerInv_run (altSvc : AltSvcCache) (jar : Jar) {as : List Action} {s : State cl}
    (hrun : run step (State.fresh cl altSvc jar) as = some s) :
    LedgerInv jar (ledger cl altSvc jar as) s :=
  history_invariant step (J := LedgerInv jar) (fun _ _ _ _ hinv hs => ledgerInv_step hinv hs)
    ⟨rfl, rfl, fun _ => ⟨List.prefix_rfl, List.prefix_rfl⟩, fun _ => trivial⟩ hrun

end Quik
