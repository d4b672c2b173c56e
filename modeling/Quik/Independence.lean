import Quik.Agreement
import Quik.Deadlock
import Quik.Library.Lockstep

/-!
# Independent Origins

Requests to disjoint sets of hosts, run at once by clones of one client,
against each of them run alone from the same state.

The servers are one state machine a host, and a session answers what its host
answers: what a request is told depends on what was sent to its host. The two
worlds a request lives in, with others and alone, are `Alike` to it as long as
it stands at the same place in both up to numbers, the servers of its hosts are
in the same states, and the clients agree about its hosts. A step of another
request or of a driver keeps that, and a step of its own, taken in both, keeps
it too and ends at the same place. The rest is the rule of two runs in lockstep.

A hop locks slots of its own host only, so a request is never held up by a lock
of another.

## Main definitions

* `Servers.byHost`: Every host is a state machine of its own.
* `Visits`, `KeepsCookies`, `delivers`: What the requests have to keep apart.
* `Alike`: Two worlds that are the same to one task.
* `viewsOf`: What a task sees along a run.

## Theorems

* `alike_other`, `alike_own`: A step keeps two worlds alike.
* `lockstep_alone`: Among others and alone, a task goes in lockstep with itself.
* `independent`: It sees and returns the same.
-/

namespace Quik

open Transition

variable {Jar π : Type} {cl : Client Jar}

/-- Every host is a state machine of its own. -/
def Servers.byHost (S : String → Servers π) : Servers (String → π) where
  dial := fun srv a dialH3 =>
    let r := (S a.1).dial (srv a.1) a dialH3
    (r.1, Function.update srv a.1 r.2)
  alive := fun srv a => (S a.1).alive (srv a.1) a
  transmit := fun srv a request body =>
    let r := (S a.1).transmit (srv a.1) a request body
    (r.1, Function.update srv a.1 r.2)
  respond := fun srv a =>
    let r := (S a.1).respond (srv a.1) a
    (r.1, Function.update srv a.1 r.2)
  closed := fun srv a => (S a.1).closed (srv a.1) a
  command := fun srv a request body =>
    Function.update srv a.1 ((S a.1).command (srv a.1) a request body)
  reply := fun srv a =>
    let r := (S a.1).reply (srv a.1) a
    (r.1, Function.update srv a.1 r.2)

/-- A hop is answered by its host. -/
theorem answer_byHost (S : String → Servers π) (srv : String → π) (v : Vars cl.crates.url)
    (stage : Stage) : (Servers.byHost S).answer srv v stage =
      (((S v.parsedUrl.hostText).answer (srv v.parsedUrl.hostText) v stage).1,
        Function.update srv v.parsedUrl.hostText
          ((S v.parsedUrl.hostText).answer (srv v.parsedUrl.hostText) v stage).2) := by
  -- Where nobody is asked, the servers of the host are put back as they were.
  have hsame : ∀ h, Function.update srv h (srv h) = srv := fun h => Function.update_eq_self h srv
  cases stage with
  | dial | fallbackDial | midDial | awaitH2 | midAwait => rfl
  | awaitH3 => rfl
  | send conn =>
      cases conn with
      | http2 | http3 =>
          cases hb : buildRequest v with
          | error e => simp only [Servers.answer, hb, hsame]
          | ok request =>
              simp only [Servers.answer, hb]
              rfl
  | midSend conn =>
      cases hb : buildRequest v with
      | error e => simp only [Servers.answer, hb, hsame]
      | ok request =>
          simp only [Servers.answer, hb]
          rfl
  | ready | midReady =>
      simp only [Servers.answer, hsame]
      rfl
  | _ => simp only [Servers.answer, hsame]

theorem answer_unnamed {ω : Type} (W : Servers ω) (srv : ω) (v : Vars cl.crates.url)
    (stage : Stage) : W.answer srv v.unnamed stage.unnamed = W.answer srv v stage := by
  cases stage with
  | send conn => cases conn <;> rfl
  | _ => rfl

/-- The URL a task is at, or comes to next. -/
def Pc.url? {c : UrlCrate} : Pc c → Option Url
  | .top hop context => (hopVars c hop context).toOption.map Vars.parsedUrl
  | .inHop v _ => some v.parsedUrl
  | _ => none

section Conditions

variable {ω : Type}

/-- Tasks visit URLs of the web only, and each of them its own hosts. -/
def Visits (hosts : Nat → String → Prop) (x : ω × State cl) : Turn → Prop
  | .driver _ _ => True
  | .task t => ∀ u ∈ (x.2.tasks t).url?,
    (u.scheme = "http" ∨ u.scheme = "https") ∧ hosts t u.hostText

/-- No task is sent a cookie whose domain covers a host of another. -/
def KeepsCookies (laws : CookieLaws cl.crates) (hosts : Nat → String → Prop) (x : ω × State cl) :
    Turn → Prop
  | .driver _ _ => True
  | .task t => match x.2.tasks t with
    | .inHop v (.storeCookies resp) => ∀ d, laws.Sets resp v.parsedUrl d →
      ∀ t', t' ≠ t → ∀ host, hosts t' host → ¬ laws.covers d host
    | _ => True

/-- An HTTP/3 session has gone when its host says so, and what its caller
    receives is the answer of the host. -/
def delivers (W : Servers ω) (x : ω × State cl) : Turn → Bool
  | .driver _ _ => true
  | .task t => match x.2.tasks t with
    | .inHop v (.send (.http3 session)) =>
      (x.2.drivers session.id).all (fun d => d.exited = W.closed x.1 v.parsedUrl.authority)
    | .inHop v (.awaitH3 session) =>
      (sessionReply x.2 session v.ticket).all
        (fun r => r = (W.reply x.1 v.parsedUrl.authority).1)
    | _ => true

theorem delivers_stage {W : Servers ω} {x : ω × State cl} {t : Nat} {v : Vars cl.crates.url}
    {stage : Stage} (h : delivers W x (.task t) = true) (hpc : x.2.tasks t = .inHop v stage) :
    (∀ session d, stage = .send (.http3 session) → x.2.drivers session.id = some d →
      d.exited = W.closed x.1 v.parsedUrl.authority) ∧
    ∀ session r, stage = .awaitH3 session → sessionReply x.2 session v.ticket = some r →
      r = (W.reply x.1 v.parsedUrl.authority).1 := by
  constructor
  · rintro session d rfl hd
    simp only [delivers, hpc, hd, Option.all_some, decide_eq_true_eq] at h
    exact h
  · rintro session r rfl hr
    simp only [delivers, hpc, hr, Option.all_some, decide_eq_true_eq] at h
    exact h

instance (hosts : Nat → String → Prop) [∀ t host, Decidable (hosts t host)] (x : ω × State cl) :
    DecidablePred (Visits hosts x)
  | .driver _ _ => .isTrue trivial
  | .task t => inferInstanceAs (Decidable (∀ u ∈ (x.2.tasks t).url?,
      (u.scheme = "http" ∨ u.scheme = "https") ∧ hosts t u.hostText))

end Conditions

theorem Vars.web {c : UrlCrate} (v : Vars c)
    (h : v.parsedUrl.scheme = "http" ∨ v.parsedUrl.scheme = "https") : c.Web v.parsedUrl :=
  ⟨⟨_, v.parsed⟩, v.hasHost, h⟩

/-- The step of a task, as its caller sees it. -/
def Turn.isOf (t : Nat) : Turn → Bool
  | .task t' => t' = t
  | .driver _ _ => false

section Hosts

variable (S : String → Servers π) {srv srv' : String → π} {v v' : Vars cl.crates.url}
  {stage stage' : Stage}

/-- A host answers two hops that differ in numbers the same, and other hosts do
    not notice. -/
theorem answer_alike (hv : v.unnamed = v'.unnamed) (hstage : stage.unnamed = stage'.unnamed)
    (h : srv v.parsedUrl.hostText = srv' v.parsedUrl.hostText) :
    ((Servers.byHost S).answer srv v stage).1 = ((Servers.byHost S).answer srv' v' stage').1 ∧
      ∀ host, srv host = srv' host → ((Servers.byHost S).answer srv v stage).2 host =
        ((Servers.byHost S).answer srv' v' stage').2 host := by
  have hnames : (Servers.byHost S).answer srv' v' stage' =
      (Servers.byHost S).answer srv' v stage := by
    rw [← answer_unnamed, ← hv, ← hstage, answer_unnamed]
  rw [hnames, answer_byHost, answer_byHost, ← h]
  refine ⟨rfl, fun host hh => ?_⟩
  by_cases heq : host = v.parsedUrl.hostText
  · simp only [heq, Function.update_self]
  · simp only [Function.update_of_ne heq, hh]

/-- The state of a host is all a hop to it sees of the servers. -/
theorem sight_alike (s : State cl) (hv : v.unnamed = v'.unnamed)
    (h : srv v.parsedUrl.hostText = srv' v.parsedUrl.hostText) :
    (Servers.byHost S).sight srv s v = (Servers.byHost S).sight srv' s v' := by
  have h' : srv v.parsedUrl.authority.1 = srv' v.parsedUrl.authority.1 := h
  calc (Servers.byHost S).sight srv s v
      = (Servers.byHost S).sight srv' s v.unnamed := by
        simp only [Servers.sight, Servers.byHost, h']
        rfl
    _ = (Servers.byHost S).sight srv' s v' := by rw [hv]; rfl

end Hosts

/-- Where a task stands, without numbers. -/
def seenBy {ω : Type} (t : Nat) (x : ω × State cl) : Pc cl.crates.url :=
  (x.2.tasks t).unnamed

/-- Two worlds that are the same to one task. -/
structure Alike (laws : CookieLaws cl.crates) (hosts : String → Prop) (t : Nat)
    (x y : (String → π) × State cl) : Prop where
  seen : seenBy t x = seenBy t y
  servers : ∀ host, hosts host → x.1 host = y.1 host
  agree : Agree laws hosts x.2 y.2

theorem Alike.refl (laws : CookieLaws cl.crates) (hosts : String → Prop) (t : Nat)
    (x : (String → π) × State cl) : Alike laws hosts t x x :=
  ⟨rfl, fun _ _ => rfl, Agree.refl x.2⟩

theorem Alike.symm {hosts : String → Prop} {t : Nat} {x y : (String → π) × State cl}
    (h : Alike laws hosts t x y) : Alike laws hosts t y x :=
  ⟨h.seen.symm, fun host hh => (h.servers host hh).symm, h.agree.symm⟩

theorem Alike.trans {hosts : String → Prop} {t : Nat} {x y z : (String → π) × State cl}
    (h : Alike laws hosts t x y) (h' : Alike laws hosts t y z) : Alike laws hosts t x z :=
  ⟨h.seen.trans h'.seen, fun host hh => (h.servers host hh).trans (h'.servers host hh),
    h.agree.trans h'.agree⟩

/-- The stages at which a hop needs its HTTP/3 session. -/
def Stage.onSession : Stage → Bool
  | .send (.http3 _) | .awaitH3 _ => true
  | _ => false

/-- Away from its session a hop is held up by a slot it wants and by nothing
    else. -/
theorem stageStep_isSome {ω : Type} (W : Servers ω) (srv : ω) (s : State cl)
    (v : Vars cl.crates.url) {stage : Stage} (h : stage.onSession = false) :
    (stageStep s v stage (W.answer srv v stage).1).isSome = (stage.wants cl v).all s.free := by
  have hite : ∀ {α : Type} (b : Bool) (a : α), (if b then some a else none).isSome = b := by
    intro α b a
    cases b <;> rfl
  -- Only the stages that take a lock can be refused; the others always move.
  cases stage with
  | lockClone | lockClear | midLock => exact hite _ _
  | lockDial =>
      cases hfree : s.free (v.poolKey cl) with
      | false => simp only [Servers.answer, stageStep, Stage.wants, hfree, Option.all_some,
          Bool.false_eq_true, if_false, Option.isSome_none]
      | true =>
          simp only [Servers.answer, stageStep, Stage.wants, hfree, Option.all_some, if_true]
          split <;> rfl
  | fallbackLock =>
      cases hfree : s.free (v.h2PoolKey cl) with
      | false => simp only [Servers.answer, stageStep, Stage.wants, hfree, Option.all_some,
          Bool.false_eq_true, if_false, Option.isSome_none]
      | true =>
          simp only [Servers.answer, stageStep, Stage.wants, hfree, Option.all_some, if_true]
          split <;> rfl
  | awaitH3 => exact absurd h Bool.noConfusion
  | send conn =>
      cases conn with
      | http3 => exact absurd h Bool.noConfusion
      | http2 conn =>
          cases hb : buildRequest v with
          | error e => simp only [Servers.answer, stageStep, hb]; rfl
          | ok request =>
              simp only [Servers.answer, stageStep, hb]
              split <;> rfl
  | midSend conn =>
      cases hb : buildRequest v with
      | error e => simp only [Servers.answer, stageStep, hb]; rfl
      | ok request =>
          simp only [Servers.answer, stageStep, hb]
          split <;> rfl
  | dial =>
      simp only [Servers.answer, stageStep]
      split
      · rfl
      · split <;> rfl
  | ready | midReady | fallbackDial | midDial | awaitH2 | midAwait | redirect =>
      simp only [Servers.answer, stageStep]
      split <;> rfl
  | _ => rfl

theorem onSession_unnamed (stage : Stage) : stage.unnamed.onSession = stage.onSession := by
  cases stage with
  | send conn => cases conn <;> rfl
  | _ => rfl

theorem wants_unnamed (v : Vars cl.crates.url) (stage : Stage) :
    stage.unnamed.wants cl v.unnamed = stage.wants cl v := by
  cases stage <;> rfl

theorem wants_slotKey {v : Vars cl.crates.url} {stage : Stage} {key : String}
    (h : stage.wants cl v = some key) : ∃ h3, key = slotKey cl v.parsedUrl h3 := by
  cases stage with
  | lockClone | lockClear | lockDial => exact ⟨_, (Option.some.inj h).symm⟩
  | fallbackLock | midLock => exact ⟨false, (Option.some.inj h).symm⟩
  | _ => exact absurd h (by simp only [Stage.wants, reduceCtorEq, not_false_eq_true])

def Pc.onSession {c : UrlCrate} : Pc c → Bool
  | .inHop _ stage => stage.onSession
  | _ => false

section Steps

variable {laws : CookieLaws cl.crates} {S : String → Servers π} {x y : (String → π) × State cl}
  {t : Nat}

/-- What a driver does is the same to everybody. -/
theorem alike_driver {hosts : String → Prop} {session : Nat} {e : Event}
    (h : worldStep (Servers.byHost S) x (.driver session e) = some y) : Alike laws hosts t y x := by
  rcases worldStep_driver_eq_some _ h with ⟨hsrv, hs⟩
  rcases step_driver_eq_some hs with ⟨d, d', _, _, hy⟩
  refine ⟨?_, fun host _ => by rw [hsrv], ?_⟩
  · rw [seenBy, hy]
    rfl
  · rw [hy]
    exact agree_of_eq rfl rfl (fun _ => rfl) rfl

/-- Cookies are stored where the response is about to be. -/
theorem move_storeCookies {s : State cl} {v : Vars cl.crates.url} {stage : Stage} {input : Input}
    {pc : Pc cl.crates.url} {fx : List Effect} (hm : StageMove s v stage input pc fx)
    {resp : Response} {u : Url} (hin : .storeCookies resp u ∈ fx) : stage = .storeCookies resp := by
  have hdial : ∀ dialH3 outcome, .storeCookies resp u ∉ dialEffects cl dialH3 outcome := by
    intro dialH3 outcome
    cases outcome <;> simp only [dialEffects, List.mem_cons, List.not_mem_nil, reduceCtorEq,
      or_false, not_false_eq_true]
  cases hm with
  | storeCookies resp' =>
      rw [(Effect.storeCookies.inj (List.mem_singleton.mp hin)).1]
  | _ => simp only [List.mem_append, hdial, List.mem_cons, reduceCtorEq, List.not_mem_nil,
      or_false] at hin

/-- What another task does is the same to this one. -/
theorem alike_other {hosts : Nat → String → Prop} (hlegal : cl.crates.url.LegalHosts)
    (hdisj : ∀ t t' host, t ≠ t' → hosts t host → ¬ hosts t' host) {t' : Nat} (hne : t' ≠ t)
    (hvisits : Visits hosts x (.task t')) (hcookies : KeepsCookies laws hosts x (.task t'))
    (h : worldStep (Servers.byHost S) x (.task t') = some y) : Alike laws (hosts t) t y x := by
  have hseen : ∀ (s : State cl) pc fx,
      ((s.after t' pc fx).tasks t).unnamed = (s.tasks t).unnamed := by
    intro s pc fx
    rw [State.after_tasks, Function.update_of_ne hne.symm]
  cases hpc : x.2.tasks t' with
  | top hop context =>
      rw [worldStep_top _ hpc h]
      refine ⟨hseen _ _ _, fun _ _ => rfl, ?_⟩
      -- The top of the loop takes a number, and that is all.
      rw [enterHop_eq]
      cases hopVars cl.crates.url hop context with
      | error | ok => exact agree_of_eq rfl rfl (fun _ => rfl) rfl
  | inHop v stage =>
      rcases worldStep_inHop _ hpc h with ⟨pc, fx, hstep, hy⟩
      rw [hy]
      rcases hvisits v.parsedUrl (by rw [hpc]; rfl) with ⟨hscheme, hhost⟩
      have hout : ¬ hosts t v.parsedUrl.hostText := hdisj t' t _ hne hhost
      have hm := stageStep_eq_some hstep
      refine ⟨hseen _ _ _, fun host hh => ?_, agree_after_other t' hlegal (move_at hm)
        (v.web hscheme) hout (fun resp hin d host hset hh => ?_) pc⟩
      · rw [answer_byHost]
        exact Function.update_of_ne (fun heq => hout (by rwa [← heq])) _ _
      · rw [move_storeCookies hm hin] at hpc
        simp only [KeepsCookies, hpc] at hcookies
        exact hcookies d hset t hne.symm host hh
  | idle | done => simp only [worldStep, hpc, step, taskStep, Option.map_none, reduceCtorEq] at h

/-- What two worlds show to a task alike, the task turns into the same. -/
theorem alike_own {hosts : String → Prop} (hR : Alike laws hosts t x y)
    (hvisits : ∀ u, (x.2.tasks t).url? = some u →
      (u.scheme = "http" ∨ u.scheme = "https") ∧ hosts u.hostText)
    (hdelivers : delivers (Servers.byHost S) x (.task t) = true)
    (hdelivers' : delivers (Servers.byHost S) y (.task t) = true) {x' y' : (String → π) × State cl}
    (h : worldStep (Servers.byHost S) x (.task t) = some x')
    (h' : worldStep (Servers.byHost S) y (.task t) = some y') : Alike laws hosts t x' y' := by
  have hsame : ∀ {pc pc' : Pc cl.crates.url} {fx fx' : List Effect} {srv srv' : String → π},
      unnamedMove pc fx = unnamedMove pc' fx' → (∀ host, hosts host → srv host = srv' host) →
      Alike laws hosts t (srv, x.2.after t pc fx) (srv', y.2.after t pc' fx') := by
    intro pc pc' fx fx' srv srv' hmove hsrv
    refine ⟨?_, hsrv, agree_after t hR.agree (congrArg Prod.snd hmove) pc pc'⟩
    rw [seenBy, seenBy, State.after_task, State.after_task]
    exact congrArg Prod.fst hmove
  have hseen : (x.2.tasks t).unnamed = (y.2.tasks t).unnamed := hR.seen
  cases hpc : x.2.tasks t with
  | idle | done => simp only [worldStep, hpc, step, taskStep, Option.map_none, reduceCtorEq] at h
  | top hop context =>
      rw [hpc] at hseen hvisits
      cases hpc' : y.2.tasks t with
      | top hop' context' =>
          rw [hpc'] at hseen
          cases hseen
          rw [worldStep_top _ hpc h, worldStep_top _ hpc' h']
          refine hsame (enterHop_nameless (fun v hv => ?_)) hR.servers
          have hhost := (hvisits v.parsedUrl (by rw [Pc.url?, hv]; rfl)).2
          exact hR.agree.altSvc _ _ hhost
      | _ => rw [hpc'] at hseen; cases hseen
  | inHop v stage =>
      rw [hpc] at hseen hvisits
      cases hpc' : y.2.tasks t with
      | inHop v' stage' =>
          rw [hpc'] at hseen
          simp only [Pc.unnamed, Pc.inHop.injEq] at hseen
          rcases hvisits v.parsedUrl rfl with ⟨hscheme, hhost⟩
          rcases worldStep_inHop _ hpc h with ⟨pc, fx, hstep, hx⟩
          rcases worldStep_inHop _ hpc' h' with ⟨pc', fx', hstep', hy⟩
          rw [hx, hy]
          have hhosts := hR.servers _ hhost
          -- The host answers both the same, and both see the same of the client.
          rcases answer_alike S hseen.1 hseen.2 hhosts with ⟨hinput, hsrv⟩
          have hsight : (Servers.byHost S).sight x.1 x.2 v = (Servers.byHost S).sight y.1 y.2 v' :=
            (hR.agree.sight _ _ v hhost (v.web hscheme)).trans
              (sight_alike S y.2 hseen.1 hhosts)
          have hmove := stageStep_nameless (Servers.byHost S) x.1 hstep
            (delivers_stage hdelivers hpc).1 (delivers_stage hdelivers hpc).2
          have hmove' := stageStep_nameless (Servers.byHost S) y.1 hstep'
            (delivers_stage hdelivers' hpc').1 (delivers_stage hdelivers' hpc').2
          rw [hsight, hseen.1, hseen.2, hinput] at hmove
          exact hsame (hmove.trans hmove'.symm) (fun host hh => hsrv host (hR.servers host hh))
      | _ => rw [hpc'] at hseen; cases hseen

/-- Away from its session a task is held up in both of two worlds, or in
    neither. -/
theorem alike_isSome {hosts : String → Prop} (hR : Alike laws hosts t x y)
    (hhosts : ∀ u ∈ (x.2.tasks t).url?, hosts u.hostText)
    (hsession : (x.2.tasks t).onSession = false) :
    (worldStep (Servers.byHost S) x (.task t)).isSome =
      (worldStep (Servers.byHost S) y (.task t)).isSome := by
  have hseen : (x.2.tasks t).unnamed = (y.2.tasks t).unnamed := hR.seen
  -- A hop moves as soon as the slot it wants is free, and both want the same.
  have hhop : ∀ {z : (String → π) × State cl} {v stage}, z.2.tasks t = .inHop v stage →
      stage.onSession = false → (worldStep (Servers.byHost S) z (.task t)).isSome =
        (stage.wants cl v).all z.2.free := by
    intro z v stage hpc hstage
    rw [← stageStep_isSome (Servers.byHost S) z.1 z.2 v hstage]
    simp only [worldStep, hpc, step, taskStep, Option.isSome_map]
    cases stageStep z.2 v stage ((Servers.byHost S).answer z.1 v stage).1 <;> rfl
  cases hpc : x.2.tasks t with
  | inHop v stage =>
      rw [hpc] at hseen hhosts hsession
      cases hpc' : y.2.tasks t with
      | inHop v' stage' =>
          rw [hpc'] at hseen
          simp only [Pc.unnamed, Pc.inHop.injEq] at hseen
          have hsession' : stage'.onSession = false := by
            rw [← onSession_unnamed, ← hseen.2, onSession_unnamed]
            exact hsession
          have hwants : stage'.wants cl v' = stage.wants cl v := by
            rw [← wants_unnamed, ← hseen.1, ← hseen.2, wants_unnamed]
          rw [hhop hpc hsession, hhop hpc' hsession', hwants]
          cases hkey : stage.wants cl v with
          | none => rfl
          | some key =>
              rcases wants_slotKey hkey with ⟨h3, rfl⟩
              exact slotView_free (hR.agree.slots _ _ (hhosts v.parsedUrl rfl))
      | _ => rw [hpc'] at hseen; cases hseen
  | idle | top | done =>
      -- Off a hop there is no number to tell the two apart.
      have hpc' : y.2.tasks t = x.2.tasks t := by
        rw [hpc] at hseen ⊢
        cases hy : y.2.tasks t with
        | inHop => rw [hy] at hseen; cases hseen
        | _ => exact (hseen.trans (congrArg Pc.unnamed hy)).symm
      simp only [worldStep, hpc', hpc, step, taskStep, Option.map_none, Option.map_some,
        Option.isSome_some, Option.isSome_none]

end Steps

/-- What a task sees along a run. -/
def viewsOf (S : String → Servers π) (t : Nat) : (String → π) × State cl → List Turn →
    List (Pc cl.crates.url) :=
  views (worldStep (Servers.byHost S)) (Turn.isOf t) (seenBy t)

section Runs

variable {laws : CookieLaws cl.crates} {hosts : Nat → String → Prop}

/-- Among others and alone, a task goes in lockstep with itself. -/
theorem lockstep_alone (laws : CookieLaws cl.crates) (S : String → Servers π)
    (hlegal : cl.crates.url.LegalHosts)
    (hdisj : ∀ t t' host, t ≠ t' → hosts t host → ¬ hosts t' host) (t : Nat) :
    Lockstep (worldStep (Servers.byHost S)) (Turn.isOf t) (seenBy t)
      (fun x m => Visits hosts x m ∧ KeepsCookies laws hosts x m ∧
        delivers (Servers.byHost S) x m = true)
      (fun x m => m.alone t = true ∧ delivers (Servers.byHost S) x m = true)
      (Alike laws (hosts t) t) where
  left := by
    rintro x y m x' hR ⟨hvisits, hcookies, _⟩ hown hs
    cases m with
    | driver session e => exact (alike_driver hs).trans hR
    | task t' =>
        exact (alike_other hlegal hdisj (of_decide_eq_false hown) hvisits hcookies hs).trans hR
  right := by
    rintro x y m y' hR ⟨halone, _⟩ hown hs
    cases m with
    | driver session e => exact hR.trans (alike_driver hs).symm
    | task t' => exact absurd (of_decide_eq_true halone) (of_decide_eq_false hown)
  both := by
    rintro x y m m' x' y' hR ⟨hvisits, _, hdelivers⟩ ⟨_, hdelivers'⟩ hown hown' hs hs'
    cases m with
    | driver => exact absurd hown Bool.false_ne_true
    | task t₁ =>
        cases m' with
        | driver => exact absurd hown' Bool.false_ne_true
        | task t₂ =>
            cases (of_decide_eq_true hown : t₁ = t)
            cases (of_decide_eq_true hown' : t₂ = t)
            have hR' := alike_own hR hvisits hdelivers hdelivers' hs hs'
            exact ⟨hR', hR'.seen⟩

def Pc.Returned {c : UrlCrate} (pc : Pc c) : Prop :=
  ∃ result, pc = .done result

/-- A request that has returned takes no more steps. -/
theorem returned_stops {ω : Type} (W : Servers ω) {t : Nat} (x : ω × State cl) (m : Turn)
    (hdone : (seenBy t x).Returned) (hown : m.isOf t = true) : worldStep W x m = none := by
  cases m with
  | driver => exact absurd hown Bool.false_ne_true
  | task t' =>
      cases (of_decide_eq_true hown : t' = t)
      rcases hdone with ⟨result, hresult⟩
      unfold seenBy at hresult
      cases hpc : x.2.tasks t with
      | done => simp only [worldStep, hpc, step, taskStep, Option.map_none]
      | _ =>
          rw [hpc] at hresult
          exact absurd hresult (by simp only [Pc.unnamed, reduceCtorEq, not_false_eq_true])

/-- Any number of requests run at once, each of them to hosts of its own on the
    web, and no cookie set by one covers a host of another. Then each of them
    sees, step by step, what it sees when it runs alone from the same state, as
    far as either run goes. Having seen as much, it is held up in both or in
    neither, unless it is its own HTTP/3 session it waits for. And if it
    returns in both, it returns the same. -/
theorem independent (laws : CookieLaws cl.crates) (hlegal : cl.crates.url.LegalHosts)
    (S : String → Servers π) (hosts : Nat → String → Prop)
    (hdisj : ∀ t t' host, t ≠ t' → hosts t host → ¬ hosts t' host)
    {x : (String → π) × State cl} {ms ms' : List Turn} (t : Nat)
    (hvisits : Every (worldStep (Servers.byHost S)) (Visits hosts) x ms)
    (hcookies : Every (worldStep (Servers.byHost S)) (KeepsCookies laws hosts) x ms)
    (hdelivers : Every (worldStep (Servers.byHost S))
      (fun x m => delivers (Servers.byHost S) x m = true) x ms)
    (halone : Every (worldStep (Servers.byHost S)) (fun _ m => m.alone t = true) x ms')
    (hdelivers' : Every (worldStep (Servers.byHost S))
      (fun x m => delivers (Servers.byHost S) x m = true) x ms') :
    (viewsOf S t x ms <+: viewsOf S t x ms' ∨ viewsOf S t x ms' <+: viewsOf S t x ms) ∧
    ∀ y y', run (worldStep (Servers.byHost S)) x ms = some y →
      run (worldStep (Servers.byHost S)) x ms' = some y' →
      ((viewsOf S t x ms).length = (viewsOf S t x ms').length →
        (y.2.tasks t).onSession = false → Visits hosts y (.task t) →
        (worldStep (Servers.byHost S) y (.task t)).isSome =
          (worldStep (Servers.byHost S) y' (.task t)).isSome) ∧
      ∀ result result', y.2.tasks t = .done result → y'.2.tasks t = .done result' →
        viewsOf S t x ms = viewsOf S t x ms' ∧ result = result' := by
  have hlock := lockstep_alone laws S hlegal hdisj t
  have hev := hvisits.and _ (hcookies.and _ hdelivers)
  have hev' := halone.and _ hdelivers'
  have hR := Alike.refl laws (hosts t) t x
  refine ⟨hlock.views_prefix hR hev hev', fun y y' hrun hrun' => ⟨fun hlen hsession hvisits' => ?_,
    fun result result' hdone hdone' => ?_⟩⟩
  · -- As many views shown, so the runs end in states that look alike.
    exact alike_isSome (hlock.ends hR hev hev' hrun hrun' hlen) (fun u hu => (hvisits' u hu).2)
      hsession
  · -- A request that has returned shows nothing more, so neither run is ahead.
    have hend : seenBy t y = .done result := by rw [seenBy, hdone]; rfl
    have hend' : seenBy t y' = .done result' := by rw [seenBy, hdone']; rfl
    rcases hlock.views_stopped (fun _ _ h => h.seen) (returned_stops (Servers.byHost S)) hR hev hev'
      hrun hrun' (⟨result, hend⟩ : (seenBy t y).Returned) ⟨result', hend'⟩ with ⟨hviews, hsame⟩
    rw [hend, hend', Pc.done.injEq] at hsame
    exact ⟨hviews, hsame⟩

end Runs

section Example

/-- A jar of cookies that only the host that set them gets back. -/
def hostOnly (table : List Url) : Crates (String → List (String × String)) where
  url := UrlCrate.ofTable table
  buildUri := (Crates.ofTable table).buildUri
  cookies := fun jar u => jar u.hostText
  parseCookie := fun jar line u =>
    let name := line.toList.takeWhile (fun ch => ch ≠ '=')
    Function.update jar u.hostText
      (jar u.hostText ++ [(String.ofList name, String.ofList (line.toList.drop (name.length + 1)))])

def hostOnlyLaws (table : List Url) : CookieLaws (hostOnly table) where
  Domain := String
  Cookies := List (String × String)
  covers := fun d host => d = host
  bucket := fun jar d => jar d
  setBy := fun _ u => some u.hostText
  cookies_congr := fun _ _ u h => h u.hostText rfl
  bucket_congr := by
    intro jar jar' line u d h
    by_cases hd : d = u.hostText
    · simp only [hostOnly, hd, Function.update_self]
      rw [← hd, h]
    · simp only [hostOnly, Function.update_of_ne hd, h]
  bucket_of_ne := fun _ _ _ _ h => Function.update_of_ne (fun hc => h (congrArg some hc.symm)) _ _

/-- Disjoint hosts have no cookie in common in such a jar. -/
theorem hostOnly_keepsCookies {table : List Url} {profile : ChromeProfile} {proxy : Option Proxy}
    {ω : Type} {hosts : Nat → String → Prop}
    (hdisj : ∀ t t' host, t ≠ t' → hosts t host → ¬ hosts t' host)
    (x : ω × State { crates := hostOnly table, profile := profile, proxy := proxy }) (m : Turn)
    (h : Visits hosts x m) : KeepsCookies (hostOnlyLaws table) hosts x m := by
  cases m with
  | driver => trivial
  | task t =>
      simp only [KeepsCookies]
      split
      · rename_i v resp hpc
        rintro d ⟨_, _, _, _, hset⟩ t' hne host hh hcovers
        have hhost := (h v.parsedUrl (by rw [hpc]; rfl)).2
        rw [Option.some.inj hset] at hhost
        exact hdisj t t' d hne.symm hhost (hcovers ▸ hh)
      · trivial

/-- A client with such a jar that knows two sites. -/
def withCookies : Client (String → List (String × String)) where
  crates := hostOnly [siteA, siteB]
  profile := Chrome148.chrome148LinuxX64 ""
  proxy := none

/-- What a.test answers first: a redirect to itself, with a cookie, a request
    for the hint and an advertisement of HTTP/3. -/
def welcome : HeaderMap :=
  (((HeaderMap.new.insert "location" (.fromStatic siteA.asStr)).insert "set-cookie"
    (.fromStatic "k=1")).insert "accept-ch" (.fromStatic "sec-ch-ua-platform-version")).insert
      "alt-svc" (.fromStatic "h3=\":443\"; ma=60")

/-- Sites that count their answers. A session that is asked before its
    handshake refuses. -/
def sites (name : String) : Servers Nat where
  dial := fun n _ _ => (.connected { ip := .v4 0xC0000201, port := 443 } none, n)
  alive := fun _ _ => true
  transmit := fun n _ _ _ => (none, n)
  respond := fun n _ =>
    (.ok (if n = 0 ∧ name = "a.test" then (.found, welcome, 0) else (.ok, HeaderMap.new, 0)), n + 1)
  closed := fun _ _ => false
  command := fun n _ _ _ => n
  reply := fun n _ => (.error Driver.notEstablished, n)

/-- Task 0 is called for a.test, task 1 for b.test. -/
def bothCalled : (String → Nat) × State withCookies :=
  (fun _ => 0, { State.fresh withCookies AltSvcCache.new (fun _ => []) with
    tasks := fun t => match t with
      | 0 => .top (Hop.initial "GET" "https://a.test/" none) .navigate
      | 1 => .top (Hop.initial "GET" "https://b.test/" none) .navigate
      | _ => .idle })

def ownHosts (t : Nat) (host : String) : Prop :=
  t = 0 ∧ host = "a.test" ∨ t = 1 ∧ host = "b.test"

instance (t : Nat) (host : String) : Decidable (ownHosts t host) :=
  inferInstanceAs (Decidable (t = 0 ∧ host = "a.test" ∨ t = 1 ∧ host = "b.test"))

theorem ownHosts_disjoint (t t' : Nat) (host : String) (hne : t ≠ t') (h : ownHosts t host) :
    ¬ ownHosts t' host := by
  intro h'
  rcases h with ⟨ht, hh⟩ | ⟨ht, hh⟩ <;> rcases h' with ⟨ht', hh'⟩ | ⟨ht', hh'⟩
  · exact hne (ht.trans ht'.symm)
  · exact absurd (hh.symm.trans hh') (by decide)
  · exact absurd (hh.symm.trans hh') (by decide)
  · exact hne (ht.trans ht'.symm)

/-- The tasks take turns, until task 1 returns. Task 0 follows its redirect,
    over HTTP/3, and falls back. -/
def together : List Turn :=
  (List.replicate 13 [.task 0, .task 1]).flatten ++ List.replicate 8 (.task 0) ++
    .driver 2 (.command (.ok 0) (.ok 0)) :: List.replicate 11 (.task 0)

/-- Task 0 alone. Its session has another number. -/
def aloneA : List Turn :=
  List.replicate 21 (.task 0) ++
    .driver 1 (.command (.ok 0) (.ok 0)) :: List.replicate 11 (.task 0)

theorem returns_of_result {ω : Type} (W : Servers ω) (x : ω × State withCookies) (ms : List Turn)
    (h : ((run (worldStep W) x ms).bind (fun y => (y.2.tasks 0).result?)).isSome = true) :
    ∃ y result, run (worldStep W) x ms = some y ∧ y.2.tasks 0 = .done result := by
  rcases Option.isSome_iff_exists.mp h with ⟨result, hresult⟩
  rcases Option.bind_eq_some_iff.mp hresult with ⟨y, hy, hr⟩
  exact ⟨y, result, hy, Pc.result?_eq_some hr⟩

/-- Together with task 1 and alone, task 0 sees and returns the same. -/
theorem independent_together : ∃ y y' result result',
    run (worldStep (Servers.byHost sites)) bothCalled together = some y ∧
      run (worldStep (Servers.byHost sites)) bothCalled aloneA = some y' ∧
      y.2.tasks 0 = .done result ∧ y'.2.tasks 0 = .done result' ∧
      viewsOf sites 0 bothCalled together = viewsOf sites 0 bothCalled aloneA ∧
      result = result' := by
  have hvisits : Every (worldStep (Servers.byHost sites)) (Visits ownHosts) bothCalled
      together := by
    decide +kernel
  rcases returns_of_result (Servers.byHost sites) bothCalled together (by decide +kernel) with
    ⟨y, result, hy, hdone⟩
  rcases returns_of_result (Servers.byHost sites) bothCalled aloneA (by decide +kernel) with
    ⟨y', result', hy', hdone'⟩
  exact ⟨y, y', result, result', hy, hy', hdone, hdone',
    ((independent (hostOnlyLaws [siteA, siteB]) (UrlCrate.ofTable_legalHosts (by decide)) sites
      ownHosts ownHosts_disjoint 0 hvisits
      (hvisits.imp _ (hostOnly_keepsCookies ownHosts_disjoint)) (by decide +kernel)
      (by decide +kernel) (by decide +kernel)).2 y y' hy hy').2 result result' hdone hdone'⟩

end Example

end Quik
