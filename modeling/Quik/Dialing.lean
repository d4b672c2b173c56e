import Quik.Dial

/-!
# A Client That Dials

A run of a client, with its dials carried out. Where the model of the client
takes an outcome for a dial, this one makes the dial, stage by stage, against
whatever it meets. Such a run is a run of the client, so all that is proved of
the client's runs holds of it. What is more, it has a record of what was done on
each socket.

The connections in the pool and in the hands of the calls all come from that
record. The connection with the number `n` is that of the `n`-th dial that
succeeded; it has the host and the port of the URL that was dialed for, and the
dial did its script to the end. So a request never goes out on a connection
that was told less than the profile of the client, or whose handshake was for
another host (`connections_dialed`).

## Main definitions

* `DialRecord`, `Carried`: A dial that was made, and a client with its dials.
* `Stage.dials?`: The transport a stage dials for.
* `carry`: A step, with the dial of it carried out.
* `InUse`: A connection in the pool or in the hands of a call.

## Theorems

* `dialMove_spec`, `quietMove_spec`: What a move that dials does, and one that
  does not.
* `step_dials`, `step_quiet`: The same, of a step of the client.
* `carriedInv_carry`: What every step keeps.
* `connections_dialed`: What holds of every run.
-/

namespace Quik

open Transition Script

variable {Jar : Type} {cl : Client Jar}

/-- A dial that was made: for which URL and transport, what it met, and how it
    ended. -/
structure DialRecord where
  url : Url
  dialH3 : Bool
  out : Outside
  run : DialEnd

namespace DialRecord

def succeeded (d : DialRecord) : Bool :=
  match d.run with
  | .ok _ _ => true
  | .error _ _ => false

/-- What was done. -/
def moves (d : DialRecord) : List DialMove :=
  finalState d.run

/-- What there was to do, if the host resolves to `addr`. -/
def script (cl : Client Jar) (profile : TransportProfile) (d : DialRecord) (addr : SocketAddr) :
    List DialMove :=
  dialScript cl.proxy profile (d.url.hostStr.getD "") d.url.connectPort d.dialH3 addr

end DialRecord

/-- A client, and the dials it has made. -/
structure Carried (cl : Client Jar) where
  client : State cl
  dials : List DialRecord := []

/-- The transport a stage dials for. -/
def Stage.dials? (hasAltSvc : Bool) : Stage → Option Bool
  | .dial => some hasAltSvc
  | .fallbackDial | .midDial => some false
  | _ => none

/-- A step that is told how a dial turned out. -/
def Action.isDial : Action → Bool
  | .task _ (.dial _) => true
  | _ => false

inductive CarriedAction where
  | act (a : Action)
  | dial (t : Nat) (out : Outside)

/-- One step of a client that makes its dials. -/
def carry (profile : TransportProfile) (x : Carried cl) : CarriedAction → Option (Carried cl)
  | .act a => if a.isDial then none else (step x.client a).map (fun s => { x with client := s })
  | .dial t out =>
    match x.client.tasks t with
    | .inHop v stage => do
      let dialH3 ← stage.dials? v.hasAltSvc
      let r ← dial out cl.proxy profile (v.parsedUrl.hostStr.getD "") v.parsedUrl.connectPort dialH3
      let s ← step x.client (.task t (.dial (dialOutcome r)))
      some { client := s, dials := x.dials ++ [⟨v.parsedUrl, dialH3, out, r⟩] }
    | _ => none

/-- A connection in the pool, or one a call works with. -/
def InUse (s : State cl) (h : Handle) : Prop :=
  (∃ key c, s.content key = some c ∧ c.handle = h) ∨ ∃ t, (s.tasks t).handle? = some h

/-- What a dial leaves behind: its socket, and its connection. -/
def Effect.ofDial : Effect → Bool
  | .socket _ | .connection _ => true
  | _ => false

section Moves

variable {s : State cl} {v : Vars cl.crates.url} {stage : Stage} {input : Input}
  {pc : Pc cl.crates.url} {fx : List Effect}

/-- A move that dials does what the dial does and nothing more of the kind, and
    the connection it stores or goes on with is the one it has dialed. -/
theorem dialMove_spec {outcome : DialOutcome} (hm : StageMove s v stage (.dial outcome) pc fx)
    {dialH3 : Bool} (hdials : stage.dials? v.hasAltSvc = some dialH3) :
    ∃ rest, fx = dialEffects cl dialH3 outcome ++ rest ∧ rest.any Effect.ofDial = false ∧
      (∀ key c, .store key (some c) ∈ rest →
        dialResult s v.parsedUrl dialH3 outcome = .ok c.handle) ∧
      ∀ h, pc.handle? = some h → dialResult s v.parsedUrl dialH3 outcome = .ok h := by
  cases hm with
  | dialed _ h hres =>
      rw [Stage.dials?, Option.some.injEq] at hdials
      rw [← hdials, hres]
      refine ⟨_, rfl, rfl, fun key c hin => ?_, fun h' hh => ?_⟩
      · simp only [List.mem_cons, Effect.store.injEq, Option.some.injEq, reduceCtorEq,
          List.not_mem_nil, or_false] at hin
        rw [hin.2, pooled_handle]
      · simp only [Pc.handle?, Stage.handle?, pooled_handle] at hh
        rw [Option.some.inj hh]
  -- A dial over HTTP/3 that fails stores nothing; the hop goes on to the fallback.
  | dialH3Failed _ e hres =>
      rw [Stage.dials?, Option.some.injEq] at hdials
      rw [← hdials]
      exact ⟨[], (List.append_nil _).symm, rfl, fun _ _ hin => absurd hin List.not_mem_nil,
        fun h hh => by simp only [Pc.handle?, Stage.handle?, reduceCtorEq] at hh⟩
  | dialH2Failed _ e hres =>
      rw [Stage.dials?, Option.some.injEq] at hdials
      rw [← hdials]
      exact ⟨_, rfl, rfl, fun _ _ hin => by simp only [List.mem_singleton, reduceCtorEq] at hin,
        fun h hh => by simp only [Pc.handle?, reduceCtorEq] at hh⟩
  | fallbackDialed _ h hres | midDialed _ h hres =>
      rw [Stage.dials?, Option.some.injEq] at hdials
      rw [← hdials, hres]
      refine ⟨_, rfl, rfl, fun key c hin => ?_, fun h' hh => ?_⟩
      · simp only [List.mem_cons, Effect.store.injEq, Option.some.injEq, reduceCtorEq,
          List.not_mem_nil, or_false] at hin
        rw [hin.2]
        rfl
      · simp only [Pc.handle?, Stage.handle?, PooledConnection.handle] at hh
        rw [Option.some.inj hh]
  | fallbackDialFailed _ e hres | midDialFailed _ e hres =>
      rw [Stage.dials?, Option.some.injEq] at hdials
      rw [← hdials]
      refine ⟨_, rfl, rfl, fun key c hin => ?_, fun h hh => ?_⟩
      · simp only [List.mem_cons, reduceCtorEq, List.not_mem_nil, or_false] at hin
      · simp only [Pc.handle?, reduceCtorEq] at hh
  | sendUnbuilt =>
      exact absurd hdials (by simp only [Stage.dials?, reduceCtorEq, not_false_eq_true])

/-- Any other move dials nothing, and works with connections there were. -/
theorem quietMove_spec (hm : StageMove s v stage input pc fx)
    (hinput : ∀ outcome, input ≠ .dial outcome) : fx.any Effect.ofDial = false ∧
      (∀ key c, .store key (some c) ∈ fx → stage.handle? = some c.handle) ∧
      ∀ h, pc.handle? = some h →
        stage.handle? = some h ∨ ∃ key c, s.content key = some c ∧ c.handle = h := by
  have hsocket : ∀ sock, .socket sock ∉ fx := by
    intro sock hin
    rcases (move_socket hm).mp hin with ⟨outcome, _, heq, _⟩
    exact hinput outcome heq
  refine ⟨?_, fun key c hin => ?_, fun h hh => ?_⟩
  · cases hm with
    | dialed outcome | dialH3Failed outcome | dialH2Failed outcome | fallbackDialed outcome
    | fallbackDialFailed outcome | midDialed outcome | midDialFailed outcome =>
        exact absurd rfl (hinput outcome)
    | _ => rfl
  -- Whatever is new to the pool or to a call has its socket among the effects.
  · rcases move_stores hm hin with ⟨_, _, hnone, _⟩ | ⟨_, _, h, _, hfresh⟩ | ⟨_, _, h, _, hfresh⟩ |
      ⟨_, conn, rfl, hsome⟩
    · exact absurd hnone (by simp only [reduceCtorEq, not_false_eq_true])
    · exact absurd hfresh.socket (hsocket _)
    · exact absurd hfresh.socket (hsocket _)
    · rw [Option.some.inj hsome]
      rfl
  · rcases move_handle hm hh with hold | hslot | hfresh
    · exact Or.inl hold
    · exact Or.inr hslot
    · exact absurd hfresh.socket (hsocket _)

end Moves

/-- A new connection takes a number. -/
def Effect.isConnection : Effect → Bool
  | .connection _ => true
  | _ => false

theorem foldl_apply_nextConn (t : Nat) (s : State cl) (fx : List Effect) :
    (fx.foldl (State.apply t) s).nextConn = s.nextConn + fx.countP Effect.isConnection := by
  induction fx generalizing s with
  | nil => rfl
  | cons e fx ih =>
      rw [List.foldl_cons, ih, List.countP_cons]
      cases e with
      | connection driver => exact Nat.add_right_comm _ _ _
      | _ => rfl

/-- Effects without a dial among them connect no socket and take no number. -/
theorem no_dial {fx : List Effect} (h : fx.any Effect.ofDial = false) :
    socketsOf fx = [] ∧ fx.countP Effect.isConnection = 0 := by
  have hnone : ∀ e ∈ fx, e.ofDial = false := fun e he => by
    rw [← Bool.not_eq_true]
    exact fun hc => Bool.false_ne_true (h.symm.trans (List.any_eq_true.mpr ⟨e, he, hc⟩))
  constructor
  · refine List.filterMap_eq_nil_iff.mpr (fun e he => ?_)
    have hdial := hnone e he
    cases e with
    | socket sock => exact absurd hdial.symm Bool.false_ne_true
    | _ => rfl
  · refine List.countP_eq_zero.mpr (fun e he => ?_)
    have hdial := hnone e he
    cases e with
    | connection driver => exact absurd hdial.symm Bool.false_ne_true
    | _ => exact Bool.false_ne_true

/-- What is in use after a step of a call was in use before, or the call has
    stored it or goes on with it. -/
theorem inUse_after {s : State cl} {t : Nat} {pc : Pc cl.crates.url} {fx : List Effect}
    {P : Handle → Prop} (hstores : ∀ key c, .store key (some c) ∈ fx → P c.handle)
    (hpc : ∀ h, pc.handle? = some h → P h) {h : Handle} (huse : InUse (s.after t pc fx) h) :
    InUse s h ∨ P h := by
  rcases huse with ⟨key, c, hc, rfl⟩ | ⟨t', hh⟩
  · rcases foldl_apply_content t s hc with hold | hin
    · exact Or.inl (Or.inl ⟨key, c, hold, rfl⟩)
    · exact Or.inr (hstores key c hin)
  · rcases State.after_tasks_eq (rfl : (s.after t pc fx).tasks t' = _) with ⟨_, heq⟩ | ⟨_, hsame⟩
    · exact Or.inr (hpc h (heq ▸ hh))
    · exact Or.inl (Or.inr ⟨t', hsame ▸ hh⟩)

/-- Effects without a dial add nothing to the log and to the numbering. -/
theorem after_dials (s : State cl) (t : Nat) (pc : Pc cl.crates.url) (fx : List Effect)
    {rest : List Effect} (hrest : rest.any Effect.ofDial = false) :
    (s.after t pc (fx ++ rest)).sockets = s.sockets ++ socketsOf fx ∧
      (s.after t pc (fx ++ rest)).nextConn = s.nextConn + fx.countP Effect.isConnection := by
  rcases no_dial hrest with ⟨hsockets, hcount⟩
  constructor
  · have hlog := foldl_apply_sockets t s (fx ++ rest)
    rwa [socketsOf, List.filterMap_append, ← socketsOf, ← socketsOf, hsockets,
      List.append_nil] at hlog
  · have hconn := foldl_apply_nextConn t s (fx ++ rest)
    rwa [List.countP_append, hcount] at hconn

/-- The step of a call that dials. -/
theorem step_dials {s s' : State cl} {t : Nat} {v : Vars cl.crates.url} {stage : Stage}
    {dialH3 : Bool} {outcome : DialOutcome} (htask : s.tasks t = .inHop v stage)
    (hdials : stage.dials? v.hasAltSvc = some dialH3)
    (h : step s (.task t (.dial outcome)) = some s') :
    s'.sockets = s.sockets ++ socketsOf (dialEffects cl dialH3 outcome) ∧
      s'.nextConn = s.nextConn + (dialEffects cl dialH3 outcome).countP Effect.isConnection ∧
      ∀ conn, InUse s' conn →
        InUse s conn ∨ dialResult s v.parsedUrl dialH3 outcome = .ok conn := by
  rcases step_task_eq_some h with ⟨pc, fx, hm, rfl⟩
  rw [htask] at hm
  cases hm with
  | stage hm =>
      rcases dialMove_spec hm hdials with ⟨rest, rfl, hrest, hstores, hpc⟩
      rcases after_dials s t pc (dialEffects cl dialH3 outcome) hrest with ⟨hsockets, hconn⟩
      refine ⟨hsockets, hconn, fun conn => inUse_after (fun key c hin => ?_) hpc⟩
      rcases List.mem_append.mp hin with hdial | hrest'
      · have hslot : (Effect.store key (some c)).OnSlot := trivial
        exact absurd hdial (not_mem_dialEffects hslot dialH3 outcome)
      · exact hstores key c hrest'

/-- Any other step. -/
theorem step_quiet {s s' : State cl} {a : Action} (ha : a.isDial = false)
    (h : step s a = some s') :
    s'.sockets = s.sockets ∧ s'.nextConn = s.nextConn ∧ ∀ conn, InUse s' conn → InUse s conn := by
  cases a with
  | driver i e =>
      rcases step_driver_eq_some h with ⟨d, d', _, _, rfl⟩
      exact ⟨rfl, rfl, fun conn huse => huse⟩
  | task t input =>
      rcases step_task_eq_some h with ⟨pc, fx, hm, rfl⟩
      generalize htask : s.tasks t = pc₀ at hm
      have hspec : fx.any Effect.ofDial = false ∧
          (∀ key c, .store key (some c) ∈ fx → InUse s c.handle) ∧
          ∀ conn, pc.handle? = some conn → InUse s conn := by
        cases hm with
        | call | enter | refuse =>
            refine ⟨rfl, fun key c hin => ?_, fun conn hh => ?_⟩
            · simp only [List.mem_singleton, List.not_mem_nil, reduceCtorEq] at hin
            · simp only [Pc.handle?, Stage.handle?, reduceCtorEq] at hh
        | @stage v stage _ _ _ hm =>
            have hinput : ∀ outcome, input ≠ .dial outcome := by
              rintro outcome rfl
              exact Bool.false_ne_true ha.symm
            rcases quietMove_spec hm hinput with ⟨hquiet, hstores, hpc⟩
            -- What the call works with is in use, and so is what it finds in the pool.
            have hmine : ∀ conn, stage.handle? = some conn → InUse s conn := fun conn hh =>
              Or.inr ⟨t, by rw [htask]; exact hh⟩
            refine ⟨hquiet, fun key c hin => hmine _ (hstores key c hin), fun conn hh => ?_⟩
            rcases hpc conn hh with hold | hslot
            · exact hmine conn hold
            · exact Or.inl hslot
      rcases hspec with ⟨hquiet, hstores, hpc⟩
      rcases after_dials s t pc [] hquiet with ⟨hsockets, hconn⟩
      exact ⟨hsockets.trans (List.append_nil _), hconn,
        fun conn huse => (inUse_after hstores hpc huse).elim id id⟩

/-- What a step of a client that dials is: a step without a dial, or a dial and
    a step that is told its outcome. -/
theorem carry_eq_some {profile : TransportProfile} {x x' : Carried cl} {a : CarriedAction}
    (h : carry profile x a = some x') :
    (∃ b, b.isDial = false ∧ step x.client b = some x'.client ∧ x'.dials = x.dials) ∨
    ∃ t v stage d addr, x.client.tasks t = .inHop v stage ∧
      stage.dials? v.hasAltSvc = some d.dialH3 ∧ d.url = v.parsedUrl ∧
      d.run.Scripted d.out cl.proxy profile (d.url.hostStr.getD "") d.url.connectPort d.dialH3
        addr ∧
      step x.client (.task t (.dial (dialOutcome d.run))) = some x'.client ∧
      x'.dials = x.dials ++ [d] := by
  cases a with
  | act b =>
      simp only [carry] at h
      split at h
      · cases h
      · rename_i hdial
        rcases Option.map_eq_some_iff.mp h with ⟨s, hs, rfl⟩
        exact Or.inl ⟨b, Bool.eq_false_iff.mpr hdial, hs, rfl⟩
  | dial t out =>
      simp only [carry] at h
      split at h
      · rename_i v stage htask
        rcases Option.bind_eq_some_iff.mp h with ⟨dialH3, hdials, h⟩
        rcases Option.bind_eq_some_iff.mp h with ⟨r, hr, h⟩
        rcases Option.bind_eq_some_iff.mp h with ⟨s, hs, h⟩
        rw [← Option.some.inj h]
        rcases dial_spec out cl.proxy profile (v.parsedUrl.hostStr.getD "") v.parsedUrl.connectPort
          dialH3 with ⟨r', hr', addr, hscripted⟩
        rw [hr, Option.some.injEq] at hr'
        rw [← hr'] at hscripted
        exact Or.inr ⟨t, v, stage, ⟨v.parsedUrl, dialH3, out, r⟩, addr, htask, hdials, rfl,
          hscripted, hs, rfl⟩
      · cases h

/-- A connection that was handed out is that of the dial. -/
theorem handle_eq_ok {r : DialEnd} {id : Nat} {u : Url} {h : Handle}
    (hr : r.handle id u = .ok h) : ∃ conn moves, r = .ok conn moves ∧
      { id := id, host := u.hostStr.getD "", port := u.connectPort,
        socket := conn.socket } = h := by
  cases r with
  | ok conn moves => exact ⟨conn, moves, rfl, Except.ok.inj hr⟩
  | error e moves => cases hr

/-- The connection a dial has handed out, under the number it got. -/
def DialRecord.Made (d : DialRecord) (h : Handle) : Prop :=
  d.run.handle h.id d.url = .ok h

/-- What every step of a client that dials keeps. -/
structure CarriedInv (profile : TransportProfile) (init : State cl) (x : Carried cl) : Prop where
  reachable : Reachable step init x.client
  sockets : x.client.sockets = x.dials.flatMap (fun d => openedBy d.moves)
  scripted : ∀ d ∈ x.dials, ∃ addr, d.run.Scripted d.out cl.proxy profile
    (d.url.hostStr.getD "") d.url.connectPort d.dialH3 addr
  numbered : x.client.nextConn = (x.dials.filter DialRecord.succeeded).length
  used : ∀ h, InUse x.client h →
    ∃ d, (x.dials.filter DialRecord.succeeded)[h.id]? = some d ∧ d.Made h

/-- What a dial leaves in the log of the sockets and in the numbering. -/
theorem effects_spec (d : DialRecord) : socketsOf d.run.effects = openedBy d.moves ∧
    d.run.effects.countP Effect.isConnection = ([d].filter DialRecord.succeeded).length := by
  have hsockets : ∀ l : List Socket, socketsOf (l.map .socket) = l := by
    intro l
    rw [socketsOf, List.filterMap_map]
    exact List.filterMap_some
  have hcount : ∀ l : List Socket, (l.map Effect.socket).countP Effect.isConnection = 0 := by
    intro l
    rw [List.countP_map]
    exact List.countP_eq_zero.mpr (fun _ _ => Bool.false_ne_true)
  have happend : ∀ fx fx' : List Effect, socketsOf (fx ++ fx') = socketsOf fx ++ socketsOf fx' :=
    fun _ _ => List.filterMap_append
  rcases d with ⟨u, dialH3, out, conn | e⟩
  all_goals
    unfold DialEnd.effects
    rw [happend, hsockets, List.countP_append, hcount]
    exact ⟨List.append_nil _, rfl⟩

theorem carriedInv_carry {profile : TransportProfile} {init : State cl} {x x' : Carried cl}
    {a : CarriedAction} (hinv : CarriedInv profile init x) (h : carry profile x a = some x') :
    CarriedInv profile init x' := by
  rcases carry_eq_some h with ⟨b, hb, hstep, hdials⟩ |
    ⟨t, v, stage, d, addr, htask, hdial, hurl, hscripted, hstep, hdials⟩
  · rcases step_quiet hb hstep with ⟨hsockets, hconn, huse⟩
    refine ⟨reachable_step step hinv.reachable hstep, ?_, ?_, ?_, fun h hh => ?_⟩
    · rw [hsockets, hdials, hinv.sockets]
    · exact hdials ▸ hinv.scripted
    · rw [hconn, hdials, hinv.numbered]
    · exact hdials ▸ hinv.used h (huse h hh)
  · rcases step_dials htask hdial hstep with ⟨hsockets, hconn, huse⟩
    rw [← hurl] at huse
    rw [dialEffects_dialOutcome hscripted] at hsockets hconn
    have heffects := effects_spec d
    refine ⟨reachable_step step hinv.reachable hstep, ?_, ?_, ?_, fun h hh => ?_⟩
    · rw [hsockets, heffects.1, hdials, hinv.sockets, List.flatMap_append, List.flatMap_singleton]
    · rw [hdials]
      intro d' hd'
      rcases List.mem_append.mp hd' with hold | hnew
      · exact hinv.scripted d' hold
      · rw [List.mem_singleton.mp hnew]
        exact ⟨addr, hscripted⟩
    · rw [hconn, heffects.2, hdials, hinv.numbered, List.filter_append, List.length_append]
    · rw [hdials, List.filter_append]
      rcases huse h hh with hold | hnew
      · rcases hinv.used h hold with ⟨d', hd', hmade⟩
        have hlt := (List.getElem?_eq_some_iff.mp hd').1
        exact ⟨d', by rw [List.getElem?_append_left hlt, hd'], hmade⟩
      -- The new connection has the next number, and so has its record.
      · rw [dialResult_dialOutcome hscripted] at hnew
        rcases handle_eq_ok hnew with ⟨conn, moves, hrun, rfl⟩
        have hsucceeded : [d].filter DialRecord.succeeded = [d] :=
          List.filter_cons_of_pos (by rw [DialRecord.succeeded, hrun])
        refine ⟨d, ?_, hnew⟩
        rw [hsucceeded, hinv.numbered, List.getElem?_append_right (Nat.le_refl _), Nat.sub_self]
        rfl

/-- What a dial has said before its handshake. -/
theorem handOver_mem_dialScript {proxy : Option Proxy} {profile : TransportProfile}
    {authority : String} {port : UInt16} {dialH3 : Bool} {addr : SocketAddr} {buf : Bytes}
    (h : .handOver buf ∈ dialScript proxy profile authority port dialH3 addr) :
    dialH3 = false ∧ buf ∈ tunnelScript proxy authority port := by
  cases dialH3 with
  | true =>
      simp only [dialScript, stageScript, if_true, List.mem_cons, List.mem_append, List.mem_map,
        reduceCtorEq, List.not_mem_nil, and_false, exists_false, or_self] at h
  | false =>
      simp only [dialScript, stageScript, Bool.false_eq_true, if_false, List.mem_cons,
        List.mem_append, List.mem_map, reduceCtorEq, List.not_mem_nil, and_false, exists_false,
        or_false, false_or, DialMove.handOver.injEq, exists_eq_right] at h
      exact ⟨rfl, h⟩

/-- A call that is to dial takes any outcome. -/
theorem exists_step_dial {s : State cl} {t : Nat} {v : Vars cl.crates.url} {stage : Stage}
    {dialH3 : Bool} (htask : s.tasks t = .inHop v stage)
    (hdials : stage.dials? v.hasAltSvc = some dialH3) (outcome : DialOutcome) :
    ∃ s', step s (.task t (.dial outcome)) = some s' := by
  have hmove : ∃ r, stageStep s v stage (.dial outcome) = some r := by
    cases stage with
    | dial =>
        simp only [stageStep]
        split
        · exact ⟨_, rfl⟩
        · split <;> exact ⟨_, rfl⟩
    | fallbackDial | midDial =>
        simp only [stageStep]
        split <;> exact ⟨_, rfl⟩
    | _ => exact absurd hdials (by simp only [Stage.dials?, reduceCtorEq, not_false_eq_true])
  rcases hmove with ⟨⟨pc, fx⟩, hmove⟩
  refine ⟨s.after t pc fx, ?_⟩
  simp only [step, htask, taskStep, hmove]

/-- A client that makes its dials behaves as one that is told their outcomes,
    and no dial holds it up. Of the sockets it has connected, every one is that
    of a dial; each dial has kept to its script, and said to the other end in
    the clear at most whom it wants a tunnel to. And every connection in use is
    the one its dial handed out, for the host and the port it was dialed for,
    with the script done to the end. -/
theorem connections_dialed (profile : TransportProfile) (altSvc : AltSvcCache) (jar : Jar)
    {as : List CarriedAction} {x : Carried cl}
    (hrun : run (carry profile) { client := State.fresh cl altSvc jar } as = some x) :
    Reachable step (State.fresh cl altSvc jar) x.client ∧
    (∀ t v stage dialH3, x.client.tasks t = .inHop v stage →
      stage.dials? v.hasAltSvc = some dialH3 →
        ∀ out, ∃ x', carry profile x (.dial t out) = some x') ∧
    x.client.sockets = x.dials.flatMap (fun d => openedBy d.moves) ∧
    (∀ d ∈ x.dials, (∃ addr, d.moves <+: d.script cl profile addr) ∧
      ∀ buf, .handOver buf ∈ d.moves → d.dialH3 = false ∧
        buf ∈ tunnelScript cl.proxy (d.url.hostStr.getD "") d.url.connectPort) ∧
    ∀ h, InUse x.client h → ∃ d addr, (x.dials.filter DialRecord.succeeded)[h.id]? = some d ∧
      h.host = d.url.hostStr.getD "" ∧ h.port = d.url.connectPort ∧
      resolveFirst d.out d.url.routeKey = .ok addr ∧
      h.socket = dialSocket cl.proxy d.dialH3 addr ∧ d.moves = d.script cl profile addr := by
  have hfresh : CarriedInv profile (State.fresh cl altSvc jar)
      { client := State.fresh cl altSvc jar } := by
    refine ⟨⟨[], rfl⟩, rfl, fun d hd => absurd hd List.not_mem_nil, rfl, fun h hh => ?_⟩
    rcases hh with ⟨key, c, hc, _⟩ | ⟨t, hh⟩
    · simp only [State.content, State.fresh, Option.bind_none, reduceCtorEq] at hc
    · simp only [State.fresh, Pc.handle?, reduceCtorEq] at hh
  have hinv : CarriedInv profile (State.fresh cl altSvc jar) x :=
    run_invariant (carry profile) (fun _ _ _ => carriedInv_carry) hfresh hrun
  refine ⟨hinv.reachable, fun t v stage dialH3 htask hdials out => ?_, hinv.sockets,
    fun d hd => ?_, fun h hh => ?_⟩
  -- A dial comes to an end whatever it meets, and the call takes any outcome.
  · rcases dial_spec out cl.proxy profile (v.parsedUrl.hostStr.getD "") v.parsedUrl.connectPort
      dialH3 with ⟨r, hr, _⟩
    rcases exists_step_dial htask hdials (dialOutcome r) with ⟨s', hs⟩
    refine ⟨{ client := s', dials := x.dials ++ [⟨v.parsedUrl, dialH3, out, r⟩] }, ?_⟩
    simp only [carry, htask, hdials, hr, hs, Option.bind_eq_bind, Option.bind_some]
  · rcases hinv.scripted d hd with ⟨addr, hscripted⟩
    exact ⟨⟨addr, hscripted.did⟩, fun buf hbuf =>
      handOver_mem_dialScript (hscripted.did.subset hbuf)⟩
  · rcases hinv.used h hh with ⟨d, hd, hmade⟩
    rcases hinv.scripted d (List.mem_filter.mp (List.mem_of_getElem? hd)).1 with ⟨addr, hscripted⟩
    refine ⟨d, addr, hd, ?_⟩
    rcases handle_eq_ok hmade with ⟨conn, moves, hrun, hh'⟩
    rcases hscripted.conn conn moves hrun with ⟨hresolve, hmoves, _, hsocket, _⟩
    rw [← hh', DialRecord.moves, hrun]
    exact ⟨rfl, rfl, hresolve, hsocket, hmoves⟩

/-- Everything answers, and the proxy opens the tunnel. -/
def willing : Outside where
  resolve := fun _ => .ok [{ ip := .v4 0xC0000201, port := 443 }]
  bindUdp := fun _ => none
  connectUdp := fun _ _ => none
  localAddr := fun _ => none
  network := Network.only eagerProxy eagerProxy_fresh
  sslBuilder := none
  configure := none
  refuses := fun _ => none
  tlsHandshake := fun _ _ _ => none
  http2Handshake := fun _ _ => none
  quicConfig := none
  applicationProtos := fun _ => none
  quicConnect := fun _ => none

/-- A call that finds no connection and dials one. -/
def dialsOnce : List CarriedAction :=
  ([.call "GET" "https://a.test/" none .navigate, .go, .go, .go, .go, .go, .go] : List Input).map
    (fun input => .act (.task 0 input)) ++ [.dial 0 willing]

def tunnelA : Handle where
  id := 0
  host := "a.test"
  port := 443
  socket := { transport := .tcp, peer := .proxy "127.0.0.1:8080" }

/-- The call goes on with the connection it has dialed through the proxy, which
    was told everything there is to tell. -/
theorem connections_dialed_once :
    ∃ x, run (carry Chrome148.transport) { client := State.fresh proxied AltSvcCache.new () }
        dialsOnce = some x ∧ (x.client.tasks 0).handle? = some tunnelA ∧
      ∃ d addr, (x.dials.filter DialRecord.succeeded)[0]? = some d ∧
        d.moves = d.script proxied Chrome148.transport addr := by
  have hrun : ((run (carry Chrome148.transport) { client := State.fresh proxied AltSvcCache.new () }
      dialsOnce).bind (fun x => (x.client.tasks 0).handle?)) = some tunnelA := by decide +kernel
  rcases Option.bind_eq_some_iff.mp hrun with ⟨x, hx, hhandle⟩
  rcases (connections_dialed Chrome148.transport _ () hx).2.2.2.2 tunnelA (Or.inr ⟨0, hhandle⟩) with
    ⟨d, addr, hd, _, _, _, _, hmoves⟩
  exact ⟨x, hx, hhandle, d, addr, hd, hmoves⟩

end Quik
