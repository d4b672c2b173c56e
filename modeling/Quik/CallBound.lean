import Mathlib.Algebra.BigOperators.Ring.Finset
import Quik.Library.Budget
import Quik.Wire

/-!
# How Much a Call Does

A call follows at most ten hops, and a hop goes through its stages in order,
with one exception: the loop that looks for a connection. A turn of that loop
ends back at its head in two cases, when the connection it found turned out to
be dead and when the slot it found empty has been filled. Both need a
connection that somebody put into the slot, and the dead one has been cleared
away. So another turn is paid for by a dial, and since a call puts at most two
connections into slots on each hop, it is the number of calls that bounds how
long one of them can be kept in the loop (`call_steps_le`), whatever the network
answers and in whatever order the calls move.

The sockets a client connects and the requests it hands over are bounded by
the hops alone (`network_le`).

## Main definitions

* `effectsBy`, `spent`: What a step does, and how often it does one thing.
* `Stage.openings`, `Stage.sendings`: What a hop may still open and send.
* `Stage.turns`: The steps it may still take, if the others leave its slot
  alone.
* `callers`: The calls that move in a run.

## Theorems

* `hops_spent`, `openings_spent`, `sendings_spent`, `turns_spent`: What one step
  uses up.
* `call_steps_le`: No call is kept in the loop for ever.
* `network_le`: Nor does it use the network without bound.
-/

namespace Quik

open Transition

variable {Jar : Type} {cl : Client Jar}

/-- The task an action is a step of. -/
def Action.task? : Action → Option Nat
  | .task t _ => some t
  | .driver _ _ => none

/-- The calls that move in a run. -/
def callers (as : List Action) : Finset Nat :=
  (as.filterMap Action.task?).toFinset

/-- What a step of a task does to the shared state. -/
def effectsBy (s : State cl) : Action → List Effect
  | .task t input => match taskStep s (s.tasks t) input with
    | some (_, fx) => fx
    | none => []
  | .driver _ _ => []

/-- How many effects of one kind a step has. -/
def spent (p : Effect → Bool) (s : State cl) (a : Action) : Nat :=
  (effectsBy s a).countP p

/-- The part of a cost that falls on the steps of one task. -/
abbrev borneBy (cost : State cl → Action → Nat) : Nat → State cl → Action → Nat :=
  Budget.share Action.task? cost

theorem borneBy_own {cost : State cl → Action → Nat} {t : Nat} {a : Action}
    (h : a.task? = some t) (s : State cl) : borneBy cost t s a = cost s a :=
  Budget.share_of_agent h s

theorem borneBy_other {cost : State cl → Action → Nat} {t : Nat} {a : Action}
    (h : a.task? ≠ some t) (s : State cl) : borneBy cost t s a = 0 :=
  Budget.share_of_ne h s

def Effect.isTicket : Effect → Bool
  | .ticket => true
  | _ => false

/-- A connection is put into a slot. -/
def Effect.puts : Effect → Bool
  | .store _ (some _) => true
  | _ => false

def Effect.isSocket : Effect → Bool
  | .socket _ => true
  | _ => false

/-- How many sockets a hop may still connect, and how many connections it may
    still put into a slot. -/
def Stage.openings : Stage → Nat
  | .cookies | .hints | .slotLookup | .lockClone | .ready _ | .lockClear _ | .lockDial | .dial => 2
  | .evictDial | .fallbackLookup | .fallbackLock | .fallbackDial | .send (.http3 _) | .awaitH3 _
  | .evictSend | .midLookup | .midLock | .midReady _ | .midDial => 1
  | _ => 0

/-- How often a hop may still hand over its request. -/
def Stage.sendings : Stage → Nat
  | .cookies | .hints | .slotLookup | .lockClone | .ready _ | .lockClear _ | .lockDial | .dial
  | .evictDial | .fallbackLookup | .fallbackLock | .fallbackDial | .send (.http3 _) => 2
  | .send (.http2 _) | .awaitH3 _ | .evictSend | .midLookup | .midLock | .midReady _ | .midDial
  | .midSend _ => 1
  | _ => 0

/-- How many steps a hop may still take, while the others put nothing into its
    slot. The two stages that depend on the slot are those of the loop. -/
def Stage.turns (filled : Bool) : Stage → Nat
  | .cookies => 26
  | .hints => 25
  | .slotLookup => 24
  | .lockClone => if filled then 23 else 20
  | .ready _ => 22
  | .lockClear _ => 21
  | .lockDial => if filled then 24 else 19
  | .dial => 18
  | .evictDial => 17
  | .fallbackLookup => 16
  | .fallbackLock => 15
  | .fallbackDial => 14
  | .send _ => 13
  | .awaitH3 _ => 12
  | .evictSend => 11
  | .midLookup => 10
  | .midLock => 9
  | .midReady _ => 8
  | .midDial => 7
  | .midSend _ => 6
  | .awaitH2 _ _ | .midAwait _ _ => 5
  | .storeCookies _ => 4
  | .storeHints _ => 3
  | .storeAltSvc _ => 2
  | .redirect _ => 1

namespace Pc

/-- How many hops a call may still enter. -/
def hopsLeft {c : UrlCrate} : Pc c → Nat
  | .idle => Hop.limit
  | .top hop _ => Hop.limit - hop.hop
  | .inHop v _ => Hop.limit - (v.hop.hop + 1)
  | .done _ => 0

/-- A count of what the hop may still do. -/
def ofStage {c : UrlCrate} (count : Stage → Nat) : Pc c → Nat
  | .inHop _ stage => count stage
  | _ => 0

/-- How many steps a call may still take on the hop it is in, with those at the
    top of the loop. -/
def turns (s : State cl) : Pc cl.crates.url → Nat
  | .idle => 2
  | .top _ _ => 1
  | .inHop v stage => stage.turns (s.content (v.poolKey cl)).isSome + 1
  | .done _ => 0

end Pc

/-- A step is a move of a task, or leaves tasks, slots and sockets alone. -/
theorem step_eq_some {s s' : State cl} {a : Action} (h : step s a = some s') :
    (∃ t input pc fx, a = .task t input ∧ taskStep s (s.tasks t) input = some (pc, fx) ∧
      s' = s.after t pc fx) ∨
    a.task? = none ∧ s'.tasks = s.tasks ∧ s'.pool = s.pool ∧ s'.sockets = s.sockets := by
  cases a with
  | driver session e =>
      rcases step_driver_eq_some h with ⟨d, d', _, _, rfl⟩
      exact Or.inr ⟨rfl, rfl, rfl, rfl⟩
  | task t input =>
      left
      simp only [step] at h
      split at h
      · cases h
      · exact ⟨t, input, _, _, rfl, ‹_›, (Option.some.inj h).symm⟩

theorem spent_of_taskStep {s : State cl} {t : Nat} {input : Input} {pc : Pc cl.crates.url}
    {fx : List Effect} (h : taskStep s (s.tasks t) input = some (pc, fx)) (p : Effect → Bool) :
    spent p s (.task t input) = fx.countP p := by
  simp only [spent, effectsBy, h]

/-- The connections a step of another call puts into slots. -/
def putByOthers (t : Nat) (s : State cl) (a : Action) : Nat :=
  if a.task? = some t then 0 else spent Effect.puts s a

section Moves

variable {s : State cl} {v : Vars cl.crates.url} {stage : Stage} {input : Input}
  {pc : Pc cl.crates.url} {fx : List Effect}

/-- A dial connects at most one socket and puts nothing into a slot; a store
    puts one connection there. -/
theorem dialEffects_opens {p : Effect → Bool} (hp : p = Effect.puts ∨ p = Effect.isSocket)
    (dialH3 : Bool) (outcome : DialOutcome) :
    (dialEffects cl dialH3 outcome).countP p ≤ 1 ∧ ∀ key c,
      (dialEffects cl dialH3 outcome).countP p + [Effect.store key (some c)].countP p ≤ 1 := by
  rcases hp with rfl | rfl <;> cases outcome <;>
    exact ⟨Nat.le_of_ble_eq_true rfl, fun _ _ => Nat.le_of_ble_eq_true rfl⟩

theorem openings_send (c : PooledConnection) : (Stage.send c).openings ≤ 1 := by
  cases c <;> exact Nat.le_of_ble_eq_true rfl

/-- A hop connects sockets, and fills slots, from what it has left to open. -/
theorem move_openings {p : Effect → Bool} (hp : p = Effect.puts ∨ p = Effect.isSocket)
    (hm : StageMove s v stage input pc fx) :
    fx.countP p + pc.ofStage Stage.openings ≤ stage.openings := by
  have hdial := @dialEffects_opens _ cl _ hp
  have hunlock : ∀ key, p (.unlock key) = false := by
    rcases hp with rfl | rfl <;> exact fun _ => rfl
  cases hm with
  | lockClone =>
      rcases s.content (v.poolKey cl) with _ | conn | session <;> exact Nat.le_of_ble_eq_true rfl
  | midLock =>
      rcases s.content (v.h2PoolKey cl) with _ | conn | session <;> rcases hp with rfl | rfl <;>
        exact Nat.le_of_ble_eq_true rfl
  | dialed outcome h =>
      have hd := (hdial v.hasAltSvc outcome).2 (v.poolKey cl) (pooled v.hasAltSvc h)
      have hs := openings_send (pooled v.hasAltSvc h)
      have htwo : Stage.dial.openings = 2 := rfl
      simp only [List.countP_append, List.countP_cons, List.countP_nil, hunlock, Pc.ofStage, htwo,
        Bool.false_eq_true, if_false] at hd ⊢
      omega
  -- What is taken from the HTTP/2 slot may be anything, as far as this move knows.
  | fallbackLockTaken conn =>
      have hs := openings_send conn
      rw [List.countP_cons_of_neg (by rw [hunlock]; exact Bool.false_ne_true), List.countP_nil,
        Nat.zero_add]
      exact hs
  | dialH3Failed outcome | dialH2Failed outcome =>
      have hd := (hdial v.hasAltSvc outcome).1
      simp only [List.countP_append, List.countP_cons, List.countP_nil, hunlock, Pc.ofStage,
        Stage.openings, Bool.false_eq_true, if_false]
      omega
  | fallbackDialed outcome h | midDialed outcome h =>
      have hd := (hdial false outcome).2 (v.h2PoolKey cl) (.http2 h)
      simp only [List.countP_append, List.countP_cons, List.countP_nil, hunlock, Pc.ofStage,
        Stage.openings, Bool.false_eq_true, if_false] at hd ⊢
      omega
  | fallbackDialFailed outcome | midDialFailed outcome =>
      have hd := (hdial false outcome).1
      simp only [List.countP_append, List.countP_cons, List.countP_nil, hunlock, Pc.ofStage,
        Stage.openings, Bool.false_eq_true, if_false]
      omega
  | _ => rcases hp with rfl | rfl <;> exact Nat.le_of_ble_eq_true rfl

/-- Only the top of the loop gives out a ticket. -/
theorem move_tickets (hm : StageMove s v stage input pc fx) :
    fx.countP Effect.isTicket = 0 := by
  have hdial : ∀ dialH3 outcome, (dialEffects cl dialH3 outcome).countP Effect.isTicket = 0 := by
    intro dialH3 outcome
    cases outcome <;> rfl
  cases hm with
  | dialed outcome | dialH3Failed outcome | dialH2Failed outcome =>
      first
        | exact hdial _ outcome
        | rw [List.countP_append, hdial]; rfl
  | fallbackDialed outcome | fallbackDialFailed outcome | midDialed outcome
  | midDialFailed outcome =>
      rw [List.countP_append, hdial]
      rfl
  | _ => rfl

/-- A hop hands its request over from what it has left to send. -/
theorem move_sendings (hm : StageMove s v stage input pc fx) :
    (if stage.sends then 1 else 0) + pc.ofStage Stage.sendings ≤ stage.sendings := by
  cases hm with
  | lockClone =>
      rcases s.content (v.poolKey cl) with _ | conn | session <;> exact Nat.le_of_ble_eq_true rfl
  | midLock =>
      rcases s.content (v.h2PoolKey cl) with _ | conn | session <;> exact Nat.le_of_ble_eq_true rfl
  | dialed => cases v.hasAltSvc <;> exact Nat.le_of_ble_eq_true rfl
  | fallbackLockTaken conn => cases conn <;> exact Nat.le_of_ble_eq_true rfl
  | sendUnbuilt conn => cases conn <;> exact Nat.le_of_ble_eq_true rfl
  | _ => exact Nat.le_of_ble_eq_true rfl

/-- The hop of a stage is the hop of the stage after it. -/
theorem move_hopsLeft (hm : StageMove s v stage input pc fx) :
    pc.hopsLeft ≤ Hop.limit - (v.hop.hop + 1) := by
  cases hm with
  | redirected resp hop he =>
      rcases evaluate_eq_some he with ⟨_, next, _, _, rfl⟩
      exact Nat.le_refl _
  | _ => first
    | exact Nat.le_refl _
    | exact Nat.zero_le _

/-- The head of the acquisition loop is reached from the slot that was taken
    only if there is something in the slot. -/
theorem lockDial_taken {v' : Vars cl.crates.url}
    (h : stageStep s v .lockDial input = some (.inHop v' .lockClone, fx)) :
    (s.content (v.poolKey cl)).isSome = true := by
  cases input with
  | go =>
      simp only [stageStep] at h
      split at h
      · split at h
        · cases h
        · exact Option.isSome_iff_ne_none.mpr ‹_›
      · cases h
  | _ => cases h

/-- A move of a hop uses up a turn. -/
theorem move_turns (t : Nat) (h : stageStep s v stage input = some (pc, fx)) :
    1 + pc.turns (s.after t pc fx) ≤ (Pc.inHop v stage).turns s := by
  cases stageStep_eq_some h with
  | slotLookup =>
      simp only [Pc.turns, Stage.turns]
      split <;> omega
  | lockClone =>
      have hsame : (s.after t (.inHop v (afterClone (s.content (v.poolKey cl)))) []).content
          (v.poolKey cl) = s.content (v.poolKey cl) := rfl
      simp only [Pc.turns, hsame]
      rcases s.content (v.poolKey cl) with _ | conn | session <;> exact Nat.le_of_ble_eq_true rfl
  -- The dead connection is gone from the slot.
  | lockClear conn hfree =>
      have hgone : (s.after t (.inHop v .lockClone) [.store (v.poolKey cl) none]).content
          (v.poolKey cl) = none :=
        foldl_apply_content_stored t s [] none (State.free_holder hfree).2
          (fun _ hin => absurd hin List.not_mem_nil)
      simp only [Pc.turns, hgone]
      exact Nat.le_of_ble_eq_true rfl
  | lockDialTaken =>
      have hfull := lockDial_taken h
      have hafter : ((s.after t (.inHop v .lockClone) []).content (v.poolKey cl)).isSome = true :=
        hfull
      simp only [Pc.turns, hfull, hafter]
      exact Nat.le_of_ble_eq_true rfl
  | lockDialEmpty _ hnone =>
      simp only [Pc.turns, hnone]
      exact Nat.le_of_ble_eq_true rfl
  | midLock =>
      rcases s.content (v.h2PoolKey cl) with _ | conn | session <;> exact Nat.le_of_ble_eq_true rfl
  | _ => exact Nat.le_of_ble_eq_true rfl
end Moves

/-- A filled slot may take five more steps than an empty one. -/
theorem turns_filled (stage : Stage) (filled filled' : Bool) :
    stage.turns filled' ≤ stage.turns filled + 5 := by
  cases stage <;> cases filled <;> cases filled' <;> exact Nat.le_of_ble_eq_true rfl

/-- What the others do keeps a call no longer, unless they fill its slot. -/
theorem turns_other (s : State cl) (t : Nat) (pc pc' : Pc cl.crates.url) (fx : List Effect) :
    pc.turns (s.after t pc' fx) ≤ pc.turns s + 5 * fx.countP Effect.puts := by
  cases pc with
  | inHop v stage =>
      have hrank : stage.turns ((s.after t pc' fx).content (v.poolKey cl)).isSome ≤
          stage.turns (s.content (v.poolKey cl)).isSome + 5 * fx.countP Effect.puts := by
        cases hafter : (s.after t pc' fx).content (v.poolKey cl) with
        | none =>
            -- An empty slot is the better one.
            refine Nat.le_add_right_of_le ?_
            cases stage <;> cases (s.content (v.poolKey cl)).isSome <;>
              exact Nat.le_of_ble_eq_true rfl
        | some c =>
            rcases foldl_apply_content t s hafter with hold | hin
            · rw [hold]
              exact Nat.le_add_right _ _
            · have hpos : 0 < fx.countP Effect.puts := List.countP_pos_iff.mpr ⟨_, hin, rfl⟩
              have hle := turns_filled stage (s.content (v.poolKey cl)).isSome (some c).isSome
              omega
      simp only [Pc.turns]
      omega
  | idle | top | done => exact Nat.le_add_right _ _

section Steps

variable {s s' : State cl} {a : Action} (h : step s a = some s') (t : Nat)
include h

/-- A cost that the moves of a call pay for, from a count of what the call has
    left and from the tickets it takes. -/
theorem step_pays (cost : State cl → Action → Nat) (count : Pc cl.crates.url → Nat) (k : Nat)
    (hmove : ∀ {t input pc fx}, taskStep s (s.tasks t) input = some (pc, fx) →
      cost s (.task t input) + count pc ≤ count (s.tasks t) + k * fx.countP Effect.isTicket) :
    borneBy cost t s a + count (s'.tasks t) ≤
      count (s.tasks t) + k * borneBy (spent Effect.isTicket) t s a := by
  rcases step_eq_some h with ⟨t', input, pc, fx, rfl, hstep, rfl⟩ | ⟨hnone, htasks, _⟩
  · by_cases ht : t' = t
    · have hagent : (Action.task t' input).task? = some t := congrArg some ht
      rw [borneBy_own hagent, borneBy_own hagent, spent_of_taskStep hstep, ← ht, State.after_task]
      exact hmove hstep
    · have hagent : (Action.task t' input).task? ≠ some t := fun hc => ht (Option.some.inj hc)
      rw [borneBy_other hagent, borneBy_other hagent, State.after_tasks,
        Function.update_of_ne (Ne.symm ht), Nat.zero_add]
      exact Nat.le_refl _
  · have hagent : a.task? ≠ some t := by simp only [hnone, ne_eq, reduceCtorEq, not_false_eq_true]
    rw [borneBy_other hagent, borneBy_other hagent, htasks, Nat.zero_add]
    exact Nat.le_refl _

/-- A hop is entered from the hops that are left. -/
theorem hops_spent : borneBy (spent Effect.isTicket) t s a + (s'.tasks t).hopsLeft ≤
    (s.tasks t).hopsLeft := by
  have hpay := step_pays h t (spent Effect.isTicket) Pc.hopsLeft 0
    (fun {t input pc fx} hstep => by
      rw [spent_of_taskStep hstep, Nat.zero_mul, Nat.add_zero]
      generalize s.tasks t = pc₀ at hstep
      cases taskStep_eq_some hstep with
      | enter v =>
          have hlt := v.inRange
          simp only [Pc.hopsLeft, List.countP_singleton, Effect.isTicket, if_true]
          omega
      | stage hm =>
          rw [move_tickets hm, Nat.zero_add]
          exact move_hopsLeft hm
      | call => exact Nat.le_refl _
      | refuse => exact Nat.zero_le _)
  rwa [Nat.zero_mul, Nat.add_zero] at hpay

/-- Sockets and connections are opened on the hops entered. -/
theorem openings_spent {p : Effect → Bool} (hp : p = Effect.puts ∨ p = Effect.isSocket) :
    borneBy (spent p) t s a + (s'.tasks t).ofStage Stage.openings ≤
      (s.tasks t).ofStage Stage.openings + 2 * borneBy (spent Effect.isTicket) t s a := by
  refine step_pays h t _ _ 2 (fun {t input pc fx} hstep => ?_)
  rw [spent_of_taskStep hstep]
  generalize s.tasks t = pc₀ at hstep
  cases taskStep_eq_some hstep with
  | stage hm => exact Nat.le_add_right_of_le (move_openings hp hm)
  | enter | call | refuse => rcases hp with rfl | rfl <;> exact Nat.le_refl _

/-- Requests are handed over on the hops entered. -/
theorem sendings_spent :
    borneBy (fun s a => (sentBy s a).toList.length) t s a +
        (s'.tasks t).ofStage Stage.sendings ≤
      (s.tasks t).ofStage Stage.sendings + 2 * borneBy (spent Effect.isTicket) t s a := by
  refine step_pays h t _ _ 2 (fun {t input pc fx} hstep => ?_)
  have hsent : (sentBy s (.task t input)).toList.length ≤
      (s.tasks t).ofStage (fun stage => if stage.sends then 1 else 0) := by
    cases hr : sentBy s (.task t input) with
    | none => exact Nat.zero_le _
    | some r =>
        rcases sentBy_eq_some hr with ⟨_, _, v, stage, heq, htask, hsends, _⟩
        cases heq
        rw [htask, Pc.ofStage, if_pos hsends]
        exact Nat.le_refl 1
  generalize s.tasks t = pc₀ at hstep hsent
  cases taskStep_eq_some hstep with
  | stage hm =>
      exact Nat.le_add_right_of_le ((Nat.add_le_add_right hsent _).trans (move_sendings hm))
  | enter v => exact Nat.add_le_add_right hsent 2
  | call | refuse => exact hsent

/-- A step uses up a turn of its own call, and of the others' only where it fills
    their slots. -/
theorem turns_spent :
    (if a.task? = some t then 1 else 0) + (s'.tasks t).turns s' ≤ (s.tasks t).turns s +
      (27 * borneBy (spent Effect.isTicket) t s a + 5 * putByOthers t s a) := by
  rcases step_eq_some h with ⟨t', input, pc, fx, rfl, hstep, rfl⟩ | ⟨hnone, htasks, hpool, _⟩
  · by_cases ht : t' = t
    · have hagent : (Action.task t' input).task? = some t := congrArg some ht
      rw [if_pos hagent, borneBy_own hagent, spent_of_taskStep hstep, putByOthers, if_pos hagent,
        ← ht, State.after_task]
      generalize s.tasks t' = pc₀ at hstep
      cases taskStep_eq_some hstep with
      | stage hm =>
          have hturn := move_turns t' (show stageStep s _ _ input = _ from hstep)
          omega
      | enter v => exact Nat.le_refl _
      | call | refuse => exact Nat.le_refl _
    · have hagent : (Action.task t' input).task? ≠ some t := fun hc => ht (Option.some.inj hc)
      have hother := turns_other s t' (s.tasks t) pc fx
      rw [if_neg hagent, borneBy_other hagent, putByOthers, if_neg hagent,
        spent_of_taskStep hstep, State.after_tasks, Function.update_of_ne (Ne.symm ht)]
      omega
  · have hsame : (s.tasks t).turns s' = (s.tasks t).turns s := by
      unfold Pc.turns State.content
      rw [hpool]
    have hagent : a.task? ≠ some t := by simp only [hnone, ne_eq, reduceCtorEq, not_false_eq_true]
    rw [if_neg hagent, htasks, hsame, Nat.zero_add]
    exact Nat.le_add_right _ _

end Steps

theorem spent_of_none {p : Effect → Bool} (s : State cl) (a : Action) (h : a.task? = none) :
    spent p s a = 0 := by
  cases a with
  | task => cases h
  | driver => rfl

theorem length_socketsOf (fx : List Effect) :
    (socketsOf fx).length = fx.countP Effect.isSocket := by
  induction fx with
  | nil => rfl
  | cons e fx ih =>
      cases e with
      | socket sock =>
          rw [List.countP_cons_of_pos rfl, ← ih]
          rfl
      | _ => exact ih

theorem sockets_spent {s s' : State cl} {a : Action} (h : step s a = some s') :
    s'.sockets.length = s.sockets.length + spent Effect.isSocket s a := by
  rcases step_eq_some h with ⟨t, input, pc, fx, rfl, hstep, rfl⟩ | ⟨hnone, _, _, hsockets⟩
  · have hlog : (s.after t pc fx).sockets = s.sockets ++ socketsOf fx := foldl_apply_sockets t s fx
    rw [hlog, List.length_append, length_socketsOf, spent_of_taskStep hstep]
  · rw [hsockets, spent_of_none s a hnone, Nat.add_zero]

theorem foldl_apply_nextTicket (t : Nat) (s : State cl) (fx : List Effect) :
    (fx.foldl (State.apply t) s).nextTicket = s.nextTicket + fx.countP Effect.isTicket := by
  induction fx generalizing s with
  | nil => rfl
  | cons e fx ih =>
      rw [List.foldl_cons, ih]
      cases e with
      | ticket =>
          rw [List.countP_cons_of_pos rfl]
          exact Nat.add_right_comm _ _ _
      | _ => rfl

theorem nextTicket_spent {s s' : State cl} {a : Action} (h : step s a = some s') :
    s'.nextTicket = s.nextTicket + spent Effect.isTicket s a := by
  cases a with
  | driver session e =>
      rcases step_driver_eq_some h with ⟨d, d', _, _, rfl⟩
      rfl
  | task t input =>
      rcases step_eq_some h with ⟨t', input', pc, fx, heq, hstep, rfl⟩ | ⟨hnone, _⟩
      · cases heq
        rw [spent_of_taskStep hstep]
        exact foldl_apply_nextTicket t s fx
      · cases hnone

theorem mem_callers {as : List Action} {a : Action} (ha : a ∈ as) {t : Nat}
    (ht : a.task? = some t) : t ∈ callers as :=
  List.mem_toFinset.mpr (List.mem_filterMap.mpr ⟨a, ha, ht⟩)

section Run

variable (altSvc : AltSvcCache) (jar : Jar) {as : List Action} {s : State cl}
  (hrun : run step (State.fresh cl altSvc jar) as = some s)
include hrun

/-- A call enters at most ten hops. -/
theorem hops_le (t : Nat) :
    Budget.total step (borneBy (spent Effect.isTicket) t) (State.fresh cl altSvc jar) as ≤
      Hop.limit := by
  exact Budget.total_le step (fun s : State cl => (s.tasks t).hopsLeft)
    (fun s a s' hs => hops_spent hs t) hrun

/-- It opens at most twice as much as it enters hops. -/
theorem openings_le {p : Effect → Bool} (hp : p = Effect.puts ∨ p = Effect.isSocket) (t : Nat) :
    Budget.total step (borneBy (spent p) t) (State.fresh cl altSvc jar) as ≤
      2 * Budget.total step (borneBy (spent Effect.isTicket) t) (State.fresh cl altSvc jar) as := by
  have h := Budget.total_add_le step (fun s : State cl => (s.tasks t).ofStage Stage.openings)
    (fun s a s' hs => openings_spent hs t hp) hrun
  rw [Budget.total_mul] at h
  exact (Nat.le_add_right _ _).trans (h.trans_eq (Nat.zero_add _))

theorem sendings_le (t : Nat) :
    Budget.total step (borneBy (fun s a => (sentBy s a).toList.length) t)
        (State.fresh cl altSvc jar) as ≤
      2 * Budget.total step (borneBy (spent Effect.isTicket) t) (State.fresh cl altSvc jar) as := by
  have h := Budget.total_add_le step (fun s : State cl => (s.tasks t).ofStage Stage.sendings)
    (fun s a s' hs => sendings_spent hs t) hrun
  rw [Budget.total_mul] at h
  exact (Nat.le_add_right _ _).trans (h.trans_eq (Nat.zero_add _))

/-- What the other calls put into slots. -/
theorem putByOthers_le (t : Nat) :
    Budget.total step (putByOthers t) (State.fresh cl altSvc jar) as ≤
      20 * ((callers as).erase t).card := by
  have hborne : ∀ s : State cl, ∀ a ∈ as, putByOthers t s a ≤
      ∑ i ∈ (callers as).erase t, borneBy (spent Effect.puts) i s a := by
    intro s a ha
    unfold putByOthers
    by_cases hown : a.task? = some t
    · rw [if_pos hown]
      exact Nat.zero_le _
    · rw [if_neg hown]
      cases hagent : a.task? with
      | none =>
          cases a with
          | task => cases hagent
          | driver => exact Nat.zero_le _
      | some i =>
          have hne : i ≠ t := fun hc => hown (hc ▸ hagent)
          rw [Budget.sum_share hagent (Finset.mem_erase.mpr ⟨hne, mem_callers ha hagent⟩)]
  calc Budget.total step (putByOthers t) (State.fresh cl altSvc jar) as
      ≤ ∑ i ∈ (callers as).erase t, Budget.total step (borneBy (spent Effect.puts) i)
          (State.fresh cl altSvc jar) as :=
        (Budget.total_mono step hborne _).trans_eq (Budget.total_sum step _ _ _ _)
    _ ≤ ∑ _i ∈ (callers as).erase t, 20 := Finset.sum_le_sum (fun i _ =>
        (openings_le altSvc jar hrun (Or.inl rfl) i).trans
          (Nat.mul_le_mul_left 2 (hops_le altSvc jar hrun i)))
    _ = 20 * ((callers as).erase t).card := by
        rw [Finset.sum_const, Nat.mul_comm]
        rfl

/-- A call takes at most 272 steps of its own, and 100 more for each other call
    of the run, whatever the network answers and however the calls interleave. -/
theorem call_steps_le (t : Nat) :
    as.countP (fun a => a.task? = some t) ≤ 272 + 100 * ((callers as).erase t).card := by
  have h := Budget.total_add_le step (fun s : State cl => (s.tasks t).turns s)
    (fun s a s' hs => turns_spent hs t) hrun
  have hhops := hops_le altSvc jar hrun t
  have hputs := putByOthers_le altSvc jar hrun t
  have hcount := Budget.total_count step (fun a => decide (a.task? = some t)) hrun
  simp only [decide_eq_true_eq] at hcount
  rw [hcount, Budget.total_add, Budget.total_mul, Budget.total_mul] at h
  have hstart : ((State.fresh cl altSvc jar).tasks t).turns (State.fresh cl altSvc jar) = 2 := rfl
  have hlimit : Hop.limit = 10 := rfl
  omega

end Run

/-- Two calls find the slot empty. Call 0 dials; call 1 finds the slot taken, the
    connection in it dead, and the slot empty again. -/
def contended : List Action :=
  ([ .call "GET" "https://a.test/" none .navigate, .go, .go, .go, .go, .go ] : List Input).map
      (.task 0) ++
    ([ .call "GET" "https://a.test/" none .navigate, .go, .go, .go, .go, .go ] : List Input).map
      (.task 1) ++
    [ .task 0 .go, .task 0 (.dial (.connected { ip := .v4 0xC0000201, port := 443 } none)) ] ++
    ([ .go, .go, .ready false, .go, .go, .go ] : List Input).map (.task 1)

/-- The run of these calls. -/
theorem run_contended : ∃ s, run step (State.fresh direct AltSvcCache.new ()) contended = some s :=
  Option.isSome_iff_exists.mp (by decide +kernel)

theorem call_steps_le_contended : contended.countP (fun a => a.task? = some 1) ≤
    272 + 100 * ((callers contended).erase 1).card := by
  rcases run_contended with ⟨s, hs⟩
  exact call_steps_le AltSvcCache.new () hs 1

section Run

variable (altSvc : AltSvcCache) (jar : Jar) {as : List Action} {s : State cl}
  (hrun : run step (State.fresh cl altSvc jar) as = some s)
include hrun

/-- What all calls of a run do together, when each does at most twice as much as
    it enters hops. -/
theorem total_le_tickets {cost : State cl → Action → Nat}
    (hnone : ∀ s a, a.task? = none → cost s a = 0)
    (hshare : ∀ t, Budget.total step (borneBy cost t) (State.fresh cl altSvc jar) as ≤
      2 * Budget.total step (borneBy (spent Effect.isTicket) t) (State.fresh cl altSvc jar) as) :
    Budget.total step cost (State.fresh cl altSvc jar) as ≤ 2 * s.nextTicket := by
  have hcallers : ∀ a ∈ as, ∀ t, a.task? = some t → t ∈ callers as := fun a ha t ht =>
    mem_callers ha ht
  calc Budget.total step cost (State.fresh cl altSvc jar) as
      = ∑ t ∈ callers as, Budget.total step (borneBy cost t) (State.fresh cl altSvc jar) as :=
        Budget.total_eq_sum_share step hcallers hnone _
    _ ≤ ∑ t ∈ callers as, 2 * Budget.total step (borneBy (spent Effect.isTicket) t)
          (State.fresh cl altSvc jar) as := Finset.sum_le_sum (fun t _ => hshare t)
    _ = 2 * Budget.total step (spent Effect.isTicket) (State.fresh cl altSvc jar) as := by
        rw [← Finset.mul_sum, Budget.total_eq_sum_share step hcallers spent_of_none]
    _ = 2 * s.nextTicket := by
        rw [Budget.total_eq_counter step State.nextTicket (fun _ _ _ hs => nextTicket_spent hs)
          hrun]
        exact congrArg (2 * ·) (Nat.zero_add _).symm

/-- The sockets connected and the requests handed over are at most two for each
    hop entered, and the hops ten for each call. -/
theorem network_le : s.sockets.length ≤ 2 * s.nextTicket ∧
    (wire cl altSvc jar as).length ≤ 2 * s.nextTicket ∧
    s.nextTicket ≤ 10 * (callers as).card := by
  refine ⟨?_, ?_, ?_⟩
  · rw [Budget.total_eq_counter step (fun s : State cl => s.sockets.length)
      (fun _ _ _ hs => sockets_spent hs) hrun]
    refine (Nat.zero_add _).trans_le (total_le_tickets altSvc jar hrun spent_of_none
      (openings_le altSvc jar hrun (Or.inr rfl)))
  · rw [wire, Budget.length_history step (fun s a => (sentBy s a).toList) hrun]
    refine (Nat.zero_add _).trans_le (total_le_tickets altSvc jar hrun (fun s a ha => ?_)
      (sendings_le altSvc jar hrun))
    cases a with
    | task => cases ha
    | driver => rfl
  · rw [Budget.total_eq_counter step State.nextTicket (fun _ _ _ hs => nextTicket_spent hs) hrun,
      Budget.total_eq_sum_share step (T := callers as) (fun a ha t ht => mem_callers ha ht)
        spent_of_none, Nat.mul_comm]
    exact (Nat.zero_add _).trans_le (Finset.sum_le_card_nsmul _ _ _
      (fun t _ => hops_le altSvc jar hrun t))

end Run


theorem network_le_contended : ∃ s,
    run step (State.fresh direct AltSvcCache.new ()) contended = some s ∧
      s.sockets.length ≤ 2 * s.nextTicket ∧
      (wire direct AltSvcCache.new () contended).length ≤ 2 * s.nextTicket ∧
      s.nextTicket ≤ 10 * (callers contended).card := by
  rcases run_contended with ⟨s, hs⟩
  exact ⟨s, hs, network_le AltSvcCache.new () hs⟩

end Quik
