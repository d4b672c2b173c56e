import Mathlib.Data.List.TakeWhile
import Quik.HandshakeRace

/-!
# The Announced HTTP/3 Limits

`configure_chrome_h3`, and what its field section limit does to the driver.

The limit is announced to the server and enforced by `quiche`: a section is as
large as its names and values together with 32 bytes a field, and a section
beyond the limit makes `poll` fail and closes the connection. The driver only
sees its `poll` loop come to an end. `Link` is a session behind such a limit:
what the server sends is cut at the first section refused, and a connection
that is closing reports nothing more. Where no section is refused, the link is
the session and nothing else (`run_of_admits`).

The constant is 0, which the source calls effectively unlimited and which is
the smallest limit there is: a section within it has no fields. So an answer
with a status is never within the limit, and whenever one is on its way the
connection closes with its request in the table
(`status_beyond_limit`). The caller gets no answer but the error of a channel
that is dropped (`stranded_reply`).

## Main definitions

* `H3Config`, `configureChromeH3`: The settings of the HTTP/3 layer.
* `sectionSize`, `H3Config.admits`: A section against the limit.
* `Link.step`: A session behind a limit.
* `answerTo`: The sections sent in answer to the request of a stream.
* `Stranded`: The connection is closing and a request is in the table.

## Theorems

* `admits_chrome_iff`: What Chrome's limit admits.
* `run_of_admits`: A limit nothing exceeds is never seen.
* `stranded_of_refused`: An answer beyond the limit strands its request.
* `status_beyond_limit`: So does every answer with a status.
* `stranded_reply`: What its caller gets.
-/

namespace Quik

open Transition Driver

/-- The HTTP/3 settings `quiche` takes; what is not set is not announced. -/
structure H3Config where
  maxFieldSectionSize : Option Nat := none
  qpackMaxTableCapacity : Option Nat := none
  qpackBlockedStreams : Option Nat := none
  connectProtocolEnabled : Bool := false
deriving DecidableEq

def chromeSettingsQpackMaxTableCapacity : Nat := 0

/-- "Effectively unlimited", says the source. -/
def chromeSettingsMaxFieldSectionSize : Nat := 0

def chromeSettingsQpackBlockedStreams : Nat := 0

/-- `configure_chrome_h3`, given what `quiche::h3::Config::new` returns. -/
def configureChromeH3 (new : Except String H3Config) : Except String H3Config := do
  let config ← new
  let config := { config with qpackMaxTableCapacity := some chromeSettingsQpackMaxTableCapacity }
  let config := { config with maxFieldSectionSize := some chromeSettingsMaxFieldSectionSize }
  let config := { config with qpackBlockedStreams := some chromeSettingsQpackBlockedStreams }
  return { config with connectProtocolEnabled := true }

/-- The size of a header section: every field counts with its name, its value
    and 32 bytes. -/
def sectionSize (fields : List (Bytes × Bytes)) : Nat :=
  (fields.map (fun header => header.1.length + header.2.length + 32)).sum

namespace H3Config

/-- A section is within the limit announced. -/
def admits (config : H3Config) (fields : List (Bytes × Bytes)) : Bool :=
  match config.maxFieldSectionSize with
  | some limit => decide (sectionSize fields ≤ limit)
  | none => true

/-- `poll` can return the event. -/
def admitsEvent (config : H3Config) (e : StreamId × H3Event) : Bool :=
  match e.2 with
  | .headers list => config.admits list
  | _ => true

end H3Config

/-- A session whose HTTP/3 layer enforces a limit. -/
structure Link where
  session : Session
  /-- `poll` has failed on a section, and the connection is being closed. -/
  closing : Bool := false

namespace Link

/-- The events `poll` returns, of those the server sends. -/
def reported (config : H3Config) (closing : Bool) (events : List (StreamId × H3Event)) :
    List (StreamId × H3Event) :=
  if closing then [] else events.takeWhile config.admitsEvent

/-- A datagram with what the server sends in it, as the driver gets to see it. -/
def seen (config : H3Config) (closing : Bool) : Session.Action → Session.Action
  | .turn (.datagram dg) =>
    .turn (.datagram { dg with polled := reported config closing dg.polled })
  | a => a

/-- `poll` fails on a section of the datagram. -/
def refuses (config : H3Config) (d : Driver) : Session.Action → Bool
  | .turn (.datagram dg) => polls d dg && !dg.polled.all config.admitsEvent
  | _ => false

/-- A step of the session, with the limit in force. -/
def step (config : H3Config) (l : Link) (a : Session.Action) : Option Link :=
  (Session.step l.session (seen config l.closing a)).map (fun s =>
    { session := s, closing := l.closing || refuses config l.session.driver a })

/-- The link a dial opens. -/
def dialed (addr : SocketAddr) (socketAddr : Option SocketAddr) : Link :=
  { session := Session.dialed addr socketAddr }

end Link

/-- What the server sends in a run. -/
def arrivals (as : List Session.Action) : List (StreamId × H3Event) :=
  as.flatMap (fun a => match a with | .turn (.datagram dg) => dg.polled | _ => [])

/-- The header sections sent on a stream up to its end. -/
def answerTo (streamId : StreamId) : List (StreamId × H3Event) → List (List (Bytes × Bytes))
  | [] => []
  | e :: rest =>
    if e.1 = streamId then
      match e.2 with
      | .headers list => list :: answerTo streamId rest
      | .finished | .reset _ => []
      | .data _ | .other => answerTo streamId rest
    else answerTo streamId rest

/-- A stream has an entry in the table, with this reply channel. -/
def PendingWith (streamId : StreamId) (ticket : Nat) (d : Driver) : Prop :=
  ∃ req, d.pendingRequests streamId = some req ∧ req.responseTx = ticket

/-- The connection is closed under a request that is still in the table. -/
def Stranded (streamId : StreamId) (ticket : Nat) (l : Link) : Prop :=
  l.closing = true ∧ PendingWith streamId ticket l.session.driver

/-- A field adds at least the 32 bytes it is counted with. -/
theorem sectionSize_cons (header : Bytes × Bytes) (rest : List (Bytes × Bytes)) :
    sectionSize (header :: rest) =
      header.1.length + header.2.length + 32 + sectionSize rest := by
  unfold sectionSize
  rw [List.map_cons, List.sum_cons]

/-- Within Chrome's limit is the section without fields, and no other. -/
theorem admits_chrome_iff {new : Except String H3Config} {config : H3Config}
    (h : configureChromeH3 new = .ok config) (fields : List (Bytes × Bytes)) :
    config.admits fields = true ↔ fields = [] := by
  have hlimit : config.maxFieldSectionSize = some 0 := by
    cases new with
    | error e => exact nomatch h
    | ok config₀ =>
        cases h
        rfl
  unfold H3Config.admits
  rw [hlimit]
  constructor
  · intro hadmits
    have hsize := of_decide_eq_true hadmits
    cases fields with
    | nil => rfl
    | cons header rest =>
        rw [sectionSize_cons] at hsize
        omega
  · intro hnil
    rw [hnil]
    rfl

namespace Link

variable {config : H3Config} {l l' : Link} {a : Session.Action}

/-- A step of a link is a step of its session. -/
theorem step_eq_some (h : step config l a = some l') :
    Session.step l.session (seen config l.closing a) = some l'.session ∧
      l'.closing = (l.closing || refuses config l.session.driver a) := by
  rcases Option.map_eq_some_iff.mp h with ⟨s, hs, rfl⟩
  exact ⟨hs, rfl⟩

/-- A connection that is closing stays so. -/
theorem closing_step (h : step config l a = some l') (hc : l.closing = true) :
    l'.closing = true := by
  rw [(step_eq_some h).2, hc, Bool.true_or]

/-- While nothing is refused, the driver sees what the server sends. -/
theorem seen_of_admits (hopen : l.closing = false)
    (h : ∀ e ∈ arrivals [a], config.admitsEvent e = true) :
    seen config l.closing a = a ∧ refuses config l.session.driver a = false := by
  cases a with
  | send request body => exact ⟨rfl, rfl⟩
  | turn e =>
      cases e with
      | datagram dg =>
          have hall : ∀ e ∈ dg.polled, config.admitsEvent e = true := by
            intro e he
            exact h e (List.mem_flatMap.mpr ⟨_, List.mem_singleton_self _, he⟩)
          constructor
          · simp only [seen, reported, hopen, Bool.false_eq_true, if_false]
            rw [List.takeWhile_eq_self_iff.mpr hall]
          · simp only [refuses, List.all_eq_true.mpr hall, Bool.not_true, Bool.and_false]
      | _ => exact ⟨rfl, rfl⟩

/-- A session that is sent nothing beyond the limit runs as if there were none. -/
theorem run_of_admits {as : List Session.Action} : ∀ {s t : Session},
    (∀ e ∈ arrivals as, config.admitsEvent e = true) →
    run Session.step s as = some t →
    run (step config) { session := s } as = some { session := t } := by
  induction as with
  | nil =>
      intro s t _ h
      rw [run_nil, Option.some.injEq] at h ⊢
      rw [h]
  | cons a as ih =>
      intro s t hall h
      rcases run_cons_eq_some Session.step h with ⟨s', hs, hrest⟩
      have hhead : ∀ e ∈ arrivals [a], config.admitsEvent e = true := by
        intro e he
        refine hall e ?_
        rw [arrivals, List.flatMap_singleton] at he
        exact List.mem_append_left _ he
      rcases seen_of_admits (l := { session := s }) rfl hhead with ⟨hseen, hrefuses⟩
      rw [run_cons]
      have hstep : step config { session := s } a = some { session := s' } := by
        rw [step, hseen, hs, hrefuses]
        rfl
      rw [hstep]
      exact ih (fun e he => hall e (List.mem_append_right _ he)) hrest

end Link

/-- An event within the limit neither ends the stream in front of a section
    beyond the limit, nor is that section. -/
theorem answerTo_of_admitted {config : H3Config} {streamId : StreamId}
    {fields : List (Bytes × Bytes)} (hbad : config.admits fields = false)
    {e : StreamId × H3Event} {rest : List (StreamId × H3Event)}
    (he : config.admitsEvent e = true) (hin : fields ∈ answerTo streamId (e :: rest)) :
    (e.1 = streamId → endsStream e.2 = false) ∧ fields ∈ answerTo streamId rest := by
  rcases e with ⟨s, e⟩
  rw [answerTo] at hin
  by_cases hs : s = streamId
  · rw [if_pos hs] at hin
    cases e with
    | headers list =>
        refine ⟨fun _ => rfl, ?_⟩
        rcases List.mem_cons.mp hin with rfl | htail
        · exact absurd (he.symm.trans hbad) Bool.noConfusion
        · exact htail
    | data reads => exact ⟨fun _ => rfl, hin⟩
    | other => exact ⟨fun _ => rfl, hin⟩
    -- Behind its end the stream has no sections.
    | finished => exact absurd hin List.not_mem_nil
    | reset err => exact absurd hin List.not_mem_nil
  · rw [if_neg hs] at hin
    exact ⟨fun hc => absurd hc hs, hin⟩

/-- A section beyond the limit, sent in answer to a request: what comes before
    it within the limit does not end the stream, and if that is all of a
    datagram, the section is still on its way. -/
theorem answerTo_cut {config : H3Config} {streamId : StreamId} {fields : List (Bytes × Bytes)}
    (hbad : config.admits fields = false) {rest : List (StreamId × H3Event)}
    (events : List (StreamId × H3Event)) (hin : fields ∈ answerTo streamId (events ++ rest)) :
    (∀ e ∈ events.takeWhile config.admitsEvent, e.1 = streamId → endsStream e.2 = false) ∧
      (events.all config.admitsEvent = true → fields ∈ answerTo streamId rest) := by
  induction events with
  | nil => exact ⟨fun e he => absurd he List.not_mem_nil, fun _ => hin⟩
  | cons e events ih =>
      cases hadmits : config.admitsEvent e with
      -- The cut is here: nothing is reported, and not all of it is admitted.
      | false =>
          constructor
          · intro x hx
            rw [List.takeWhile_cons, hadmits] at hx
            exact absurd hx List.not_mem_nil
          · intro hall
            rw [List.all_cons, hadmits, Bool.false_and] at hall
            exact absurd hall Bool.noConfusion
      | true =>
          rcases answerTo_of_admitted hbad hadmits hin with ⟨hhead, htail⟩
          rcases ih htail with ⟨hopen, hrest⟩
          constructor
          · intro x hx
            rw [List.takeWhile_cons, hadmits, if_pos rfl] at hx
            rcases List.mem_cons.mp hx with rfl | hx
            · exact hhead
            · exact hopen x hx
          · intro hall
            rw [List.all_cons, hadmits, Bool.true_and] at hall
            exact hrest hall

section Waiting

variable {streamId : StreamId} {ticket : Nat}

/-- Only an end of its stream takes an entry out of the table. -/
theorem pendingWith_handleEvent {d : Driver} (h : PendingWith streamId ticket d)
    {e : StreamId × H3Event} (he : e.1 = streamId → endsStream e.2 = false) :
    PendingWith streamId ticket (handleEvent d e) := by
  rcases h with ⟨req, hp, ht⟩
  rcases e with ⟨s, e⟩
  by_cases hs : s = streamId
  · rw [hs]
    unfold handleEvent
    simp only [hp]
    have hset : ∀ req', req'.responseTx = ticket →
        PendingWith streamId ticket (d.setPending streamId (some req')) :=
      fun req' ht' => ⟨req', Function.update_self _ _ _, ht'⟩
    cases e with
    | headers list =>
        refine hset _ ?_
        rcases foldl_headerField_frame list req with ⟨status, headers, hframe⟩
        rw [hframe req.body]
        exact ht
    | data reads => exact hset _ ht
    | other => exact ⟨req, hp, ht⟩
    | finished => exact absurd (he hs) Bool.noConfusion
    | reset err => exact absurd (he hs) Bool.noConfusion
  -- An event of another stream.
  · unfold handleEvent
    simp only
    have hset : ∀ req', PendingWith streamId ticket (d.setPending s req') :=
      fun req' => ⟨req, (Function.update_of_ne (fun hc => hs hc.symm) _ _).trans hp, ht⟩
    cases hps : d.pendingRequests s with
    | none => exact ⟨req, hp, ht⟩
    | some other =>
        cases e with
        | headers list => exact hset _
        | data reads => exact hset _
        | finished => exact hset none
        | reset err => exact hset none
        | other => exact ⟨req, hp, ht⟩

theorem pendingWith_poll {events : List (StreamId × H3Event)}
    (hopen : ∀ e ∈ events, e.1 = streamId → endsStream e.2 = false) :
    ∀ {d : Driver}, PendingWith streamId ticket d →
      PendingWith streamId ticket (poll d events) := by
  induction events with
  | nil => exact fun h => h
  | cons e events ih =>
      intro d h
      exact ih (fun x hx => hopen x (List.mem_cons_of_mem _ hx))
        (pendingWith_handleEvent h (hopen e List.mem_cons_self))

/-- An entry of the table was given its stream by an HTTP/3 layer. -/
def Issued (d : Driver) : Prop :=
  ∀ streamId, d.pendingRequests streamId ≠ none → d.h3Conn = true ∧ d.streams streamId ≠ none

theorem Issued.receive {d : Driver} (hi : Issued d) (dg : Datagram) : Issued (receive d dg) := by
  intro s hs
  have hold := hi s (fun hc => hs ((receives_receive d dg).pending s hc))
  rw [receive_h3Conn, hold.1, (receives_receive d dg).streams]
  exact ⟨Bool.true_or _, hold.2⟩

theorem issued_step {s s' : Session} {a : Session.Action} (hi : Issued s.driver)
    (h : Session.step s a = some s') : Issued s'.driver := by
  cases a with
  | send request body =>
      rcases Option.map_eq_some_iff.mp h with ⟨d', hact, rfl⟩
      rw [(act_send_eq_some hact).2.2]
      exact hi
  | turn e =>
      rcases Option.map_eq_some_iff.mp h with ⟨d', hstep, rfl⟩
      cases (Driver.step_eq_some hstep).2 with
      | closed => exact fun streamId hc => absurd rfl hc
      | datagram dg => exact hi.receive dg
      | @opened cmd rest opened sendBody hq hh hfresh _ =>
          intro streamId hp
          refine ⟨hh, ?_⟩
          by_cases hs : streamId = opened
          · rw [hs]
            simp only [setPending, Function.update_self]
            exact Option.some_ne_none _
          · simp only [setPending, Function.update_of_ne hs] at hp ⊢
            exact (hi streamId hp).2
      | early | rejected | socketError | timeout => exact hi

/-- A turn other than a datagram leaves an entry in the table, or ends the
    task and answers nobody. -/
theorem pendingWith_step {s s' : Session} {a : Session.Action} (hi : Issued s.driver)
    (h : Session.step s a = some s') (hw : PendingWith streamId ticket s.driver)
    (hopen : ∀ e ∈ arrivals [a], e.1 = streamId → endsStream e.2 = false) :
    PendingWith streamId ticket s'.driver ∨ a = .turn .closed ∧ s'.driver.exited = true := by
  rcases hw with ⟨req, hp, ht⟩
  have hissued := hi streamId (by rw [hp]; exact Option.some_ne_none _)
  cases a with
  | send request body =>
      rcases Option.map_eq_some_iff.mp h with ⟨d', hact, rfl⟩
      rw [(act_send_eq_some hact).2.2]
      exact Or.inl ⟨req, hp, ht⟩
  | turn e =>
      rcases Option.map_eq_some_iff.mp h with ⟨d', hstep, rfl⟩
      cases (Driver.step_eq_some hstep).2 with
      | closed => exact Or.inr ⟨rfl, rfl⟩
      | datagram dg =>
          refine Or.inl ?_
          unfold receive
          rw [hissued.1, Bool.not_true, Bool.and_false, if_neg Bool.false_ne_true, if_pos rfl]
          refine pendingWith_poll (fun e he => hopen e ?_) ⟨req, hp, ht⟩
          exact List.mem_flatMap.mpr ⟨_, List.mem_singleton_self _, he⟩
      | @opened cmd rest opened sendBody hq hh hfresh _ =>
          -- The stream given out is not the one of the entry.
          have hne : streamId ≠ opened := fun hc => hissued.2 (hc ▸ hfresh)
          exact Or.inl ⟨req, (Function.update_of_ne hne _ _).trans hp, ht⟩
      | early | rejected | socketError | timeout => exact Or.inl ⟨req, hp, ht⟩

/-- A driver that has ended takes no step. -/
theorem live_of_step {s s' : Session} {a : Session.Action} (h : Session.step s a = some s') :
    s.driver.exited = false := by
  cases a with
  | send request body =>
      rcases Option.map_eq_some_iff.mp h with ⟨d', hact, rfl⟩
      exact (act_send_eq_some hact).1
  | turn e =>
      rcases Option.map_eq_some_iff.mp h with ⟨d', hstep, rfl⟩
      exact (Driver.step_eq_some hstep).1

end Waiting

theorem arrivals_cons (a : Session.Action) (as : List Session.Action) :
    arrivals (a :: as) = arrivals [a] ++ arrivals as := by
  unfold arrivals
  rw [List.flatMap_cons, List.flatMap_singleton]

namespace Link

variable {config : H3Config} {streamId : StreamId} {ticket : Nat}

/-- What the driver gets to see is cut at the first section refused. -/
theorem arrivals_seen (a : Session.Action) :
    arrivals [seen config false a] = (arrivals [a]).takeWhile config.admitsEvent := by
  unfold arrivals
  rw [List.flatMap_singleton, List.flatMap_singleton]
  cases a with
  | send request body => rfl
  | turn e => cases e <;> rfl

/-- A polled datagram that is not refused is within the limit. -/
theorem admits_of_not_refuses {d : Driver} {a : Session.Action} (hh : d.h3Conn = true)
    (h : refuses config d a = false) : (arrivals [a]).all config.admitsEvent = true := by
  unfold arrivals
  rw [List.flatMap_singleton]
  cases a with
  | send request body => rfl
  | turn e =>
      cases e with
      | datagram dg =>
          simp only [refuses, polls, hh, Bool.true_or, Bool.true_and, Bool.not_eq_false'] at h
          exact h
      | _ => rfl

theorem issued_run {as : List Session.Action} {l t : Link} (hi : Issued l.session.driver)
    (h : run (step config) l as = some t) : Issued t.session.driver :=
  run_invariant (step config) (I := fun u => Issued u.session.driver)
    (fun _ _ _ hu hs => issued_step hu (step_eq_some hs).1) hi h

/-- If a section beyond the limit is on its way in answer to a request, the
    connection closes with the request in the table. -/
theorem stranded_of_refused {fields : List (Bytes × Bytes)} (hbad : config.admits fields = false)
    {as : List Session.Action} : ∀ {l t : Link}, Issued l.session.driver →
      PendingWith streamId ticket l.session.driver → run (step config) l as = some t →
      fields ∈ answerTo streamId (arrivals as) →
      ¬ Always (step config) (fun u => ¬ Stranded streamId ticket u) l as := by
  induction as with
  | nil =>
      intro l t _ _ _ hin
      exact absurd hin List.not_mem_nil
  | cons a as ih =>
      intro l t hi hw hrun hin hall
      rcases run_cons_eq_some (step config) hrun with ⟨l', hs, hrest⟩
      rcases (always_cons (step config) hs).mp hall with ⟨hnow, hlater⟩
      -- A connection that was closing would strand the request here and now.
      have hopen : l.closing = false :=
        Bool.eq_false_iff.mpr (fun hc => hnow ⟨hc, hw⟩)
      rcases step_eq_some hs with ⟨hsession, hclosing⟩
      rw [hopen] at hsession
      rw [arrivals_cons] at hin
      rcases answerTo_cut hbad (arrivals [a]) hin with ⟨hstays, hnext⟩
      rw [← arrivals_seen] at hstays
      rcases pendingWith_step hi hsession hw hstays with hw' | ⟨ha, hexited⟩
      · -- Still in the table: the datagram has been refused, or the section comes later.
        have hh : l.session.driver.h3Conn = true := by
          rcases hw with ⟨req, hp, _⟩
          exact (hi streamId (by rw [hp]; exact Option.some_ne_none _)).1
        cases href : refuses config l.session.driver a with
        | true =>
            rw [href, Bool.or_true] at hclosing
            exact hlater [] l' List.nil_prefix rfl ⟨hclosing, hw'⟩
        | false =>
            exact ih (issued_step hi hsession) hw' hrest (hnext (admits_of_not_refuses hh href))
              hlater
      · -- The task has ended, so nothing is sent to it any more.
        have hnone : arrivals [a] = [] := by
          cases a with
          | send request body => rfl
          | turn e => cases e <;> first | rfl | cases ha
        rw [hnone, List.nil_append] at hin
        cases as with
        | nil => exact absurd hin List.not_mem_nil
        | cons b bs =>
            rcases run_cons_eq_some (step config) hrest with ⟨l'', hs', _⟩
            exact absurd (hexited.symm.trans (live_of_step (step_eq_some hs').1)) Bool.noConfusion

/-- The driver behind a link agrees with a trace. -/
theorem exists_demux {as : List Session.Action} {l t : Link}
    (hd : ∃ trace, Demux trace l.session.nextTx l.session.driver)
    (h : run (step config) l as = some t) :
    ∃ trace, Demux trace t.session.nextTx t.session.driver :=
  run_invariant (step config)
    (I := fun u => ∃ trace, Demux trace u.session.nextTx u.session.driver)
    (fun _ _ _ hu hs => hu.elim (fun _ hd => ⟨_, demux_step hd (step_eq_some hs).1⟩)) hd h

theorem demux_of_dialed {addr : SocketAddr} {socketAddr : Option SocketAddr}
    {as : List Session.Action} {t : Link}
    (h : run (step config) (dialed addr socketAddr) as = some t) :
    ∃ trace, Demux trace t.session.nextTx t.session.driver :=
  exists_demux ⟨[], demux_dialed addr socketAddr⟩ h

theorem issued_of_dialed {addr : SocketAddr} {socketAddr : Option SocketAddr}
    {as : List Session.Action} {t : Link}
    (h : run (step config) (dialed addr socketAddr) as = some t) :
    Issued t.session.driver :=
  issued_run (fun _ hc => absurd rfl hc) h

/-- Nobody has answered an entry of the table. -/
theorem unanswered_of_pendingWith {s : Session} (hd : ∃ trace, Demux trace s.nextTx s.driver)
    (hw : PendingWith streamId ticket s.driver) : ticket ∉ s.driver.answers.map Prod.fst := by
  rcases hd with ⟨trace, hd⟩
  rcases hw with ⟨req, hp, ht⟩
  rcases hd.open_of_pending hp with ⟨cmd, events, htr, hopen, rfl⟩
  rw [← ht, pendingOf_responseTx]
  exact hd.unanswered htr hopen

/-- What holds of a stranded request from then on. -/
structure Abandoned (streamId : StreamId) (ticket : Nat) (l : Link) : Prop where
  closing : l.closing = true
  issued : Issued l.session.driver
  demux : ∃ trace, Demux trace l.session.nextTx l.session.driver
  pending : PendingWith streamId ticket l.session.driver ∨ l.session.driver.exited = true
  unanswered : ticket ∉ l.session.driver.answers.map Prod.fst

theorem abandoned_step {l l' : Link} {a : Session.Action} (h : Abandoned streamId ticket l)
    (hs : step config l a = some l') : Abandoned streamId ticket l' := by
  have hsession := (step_eq_some hs).1
  rcases h.demux with ⟨trace, hd⟩
  have hdemux : ∃ trace, Demux trace l'.session.nextTx l'.session.driver :=
    ⟨_, demux_step hd hsession⟩
  have hclosing := closing_step hs h.closing
  have hissued := issued_step h.issued hsession
  rcases h.pending with hw | hexited
  · have hsilent : arrivals [seen config l.closing a] = [] := by
      rw [h.closing]
      cases a with
      | send request body => rfl
      | turn e => cases e <;> rfl
    rcases pendingWith_step h.issued hsession hw (by rw [hsilent]; exact nofun) with hw' | ⟨ha, hx⟩
    · exact ⟨hclosing, hissued, hdemux, Or.inl hw', unanswered_of_pendingWith hdemux hw'⟩
    · refine ⟨hclosing, hissued, hdemux, Or.inr hx, ?_⟩
      rw [ha] at hsession
      rcases Option.map_eq_some_iff.mp hsession with ⟨d', hstep, heq⟩
      rw [← heq] at hx ⊢
      rw [answers_of_exits hstep hx]
      exact h.unanswered
  · exact absurd (hexited.symm.trans (live_of_step hsession)) Bool.noConfusion

/-- The caller of a stranded request is told nothing until the task ends, and
    then that its channel is closed. -/
theorem stranded_reply (addr : SocketAddr) (socketAddr : Option SocketAddr)
    {before after : List Session.Action} {l t : Link}
    (hbefore : run (step config) (dialed addr socketAddr) before = some l)
    (hl : Stranded streamId ticket l) (hafter : run (step config) l after = some t) :
    t.session.reply ticket =
      if t.session.driver.exited then some (.error (.connect "channel closed")) else none := by
  have hdemux := demux_of_dialed hbefore
  have habandoned : Abandoned streamId ticket l :=
    ⟨hl.1, issued_of_dialed hbefore, hdemux, Or.inl hl.2, unanswered_of_pendingWith hdemux hl.2⟩
  have hend := run_invariant (step config) (I := Abandoned streamId ticket)
    (fun _ _ _ hu hs => abandoned_step hu hs) habandoned hafter
  unfold Session.reply
  rw [Assoc.lookup_eq_none_of_notMem hend.unanswered]

end Link

/-- Whatever a server sends in answer to a request, if a section of it has a
    status, a section of it is beyond the limit that `configure_chrome_h3`
    announces, and the connection closes with the request in the table. -/
theorem status_beyond_limit (addr : SocketAddr) (socketAddr : Option SocketAddr)
    {new : Except String H3Config} {config : H3Config}
    (hconfig : configureChromeH3 new = .ok config) {before after : List Session.Action}
    {l t : Link} {streamId : StreamId} {req : PendingRequest}
    (hbefore : run (Link.step config) (Link.dialed addr socketAddr) before = some l)
    (hpending : l.session.driver.pendingRequests streamId = some req)
    (hafter : run (Link.step config) l after = some t)
    (hstatus : ∃ fields ∈ answerTo streamId (arrivals after), ∃ val,
      (utf8 ":status", val) ∈ fields) :
    (¬ ∀ fields ∈ answerTo streamId (arrivals after), config.admits fields = true) ∧
      ¬ Always (Link.step config) (fun u => ¬ Stranded streamId req.responseTx u) l after := by
  rcases hstatus with ⟨fields, hin, val, hmem⟩
  have hbad : config.admits fields = false := by
    refine Bool.eq_false_iff.mpr (fun hadmits => ?_)
    rw [(admits_chrome_iff hconfig fields).mp hadmits] at hmem
    exact absurd hmem List.not_mem_nil
  constructor
  · intro hall
    exact absurd ((hall fields hin).symm.trans hbad) Bool.noConfusion
  · exact Link.stranded_of_refused hbad (Link.issued_of_dialed hbefore) ⟨req, hpending, rfl⟩
      hafter hin

/-- A request on stream 0 of an established connection. -/
def opensStream : List Session.Action :=
  [h3Packet [], .send getA none, takesFirst]

/-- A status in answer to it, and the end of the connection. -/
def answersOk : List Session.Action :=
  [h3Packet [(0, .headers [(utf8 ":status", utf8 "200")])], .turn .closed]

/-- Chrome's settings over a `quiche` that sets none of its own. -/
def plainChrome : H3Config where
  maxFieldSectionSize := some 0
  qpackMaxTableCapacity := some 0
  qpackBlockedStreams := some 0
  connectProtocolEnabled := true

theorem status_beyond_limit_ok :
    (¬ ∀ fields ∈ answerTo 0 (arrivals answersOk), plainChrome.admits fields = true) ∧
      ∃ l, run (Link.step plainChrome) (Link.dialed { ip := .v4 0xC0000201, port := 443 } none)
          opensStream = some l ∧
        ¬ Always (Link.step plainChrome) (fun u => ¬ Stranded 0 0 u) l answersOk := by
  have h := fun l t req => @status_beyond_limit { ip := .v4 0xC0000201, port := 443 } none
    (.ok {}) plainChrome rfl opensStream answersOk l t 0 req
  exact ⟨(h _ _ _ rfl rfl rfl ⟨_, List.mem_cons_self, _, List.mem_cons_self⟩).1,
    _, rfl, (h _ _ _ rfl rfl rfl ⟨_, List.mem_cons_self, _, List.mem_cons_self⟩).2⟩

/-- An answer of one field, `:status` 200, closes the connection with its
    request in the table, and its caller gets the error of a closed channel. -/
theorem status_refused :
    ∃ config l u t, configureChromeH3 (.ok {}) = .ok config ∧
      run (Link.step config) (Link.dialed { ip := .v4 0xC0000201, port := 443 } none) opensStream =
        some l ∧
      config.admits [(utf8 ":status", utf8 "200")] = false ∧
      run (Link.step config) l [h3Packet [(0, .headers [(utf8 ":status", utf8 "200")])]] =
        some u ∧
      Stranded 0 0 u ∧
      run (Link.step config) u [.turn .closed] = some t ∧
      t.session.reply 0 = some (.error (.connect "channel closed")) := by
  exact ⟨_, _, _, _, rfl, rfl, by decide, rfl, ⟨rfl, _, rfl, rfl⟩, rfl, rfl⟩

end Quik
