import Quik.ResponseHead

/-!
# The Status of an HTTP/3 Response

A response on a stream is a number of interim header sections, the final one,
data, and perhaps trailers. Its status is the `:status` of the final section:
three digits. `answered_run` says that every stream that finishes is answered,
and with what.

The driver keeps one status for all the sections. It parses the field with
`parse::<u16>`, which takes a plus sign and leading zeros, ignores a value it
cannot use, lets any later section replace what it has, and puts in 200 where
there is nothing at the end. So a stream always ends in a response, and its
status is one the peer has sent exactly if the last status the driver accepts,
from the final section on, is one of the final section (`status_iff`).

## Main definitions

* `threeDigits`, `sentStatuses`: The statuses a section gives.
* `fromFinal`: The final section and those after it.
* `HonestStatus`: An error, or a response with the status of the final section.
* `Settled`: Every finished stream has been answered.

## Theorems

* `answered_run`: The answer of a finished stream.
* `status_iff`: When the status is the one that was sent.
-/

namespace Quik

open Transition

namespace Driver

/-- A status as it must be written: three digits. -/
def threeDigits (val : Bytes) : Option StatusCode :=
  if val.length = 3 ∧ val.all (fun b => 48 ≤ b && b ≤ 57) = true then
    StatusCode.fromU16 (val.foldl (fun n b => 10 * n + (b.toNat - 48)) 0)
  else none

/-- The statuses a header section gives. -/
def sentStatuses (fields : List (Bytes × Bytes)) : List StatusCode :=
  fields.filterMap (fun f => if f.1 = utf8 ":status" then threeDigits f.2 else none)

/-- A section that only announces: what it gives is informational. -/
def isInterim (fields : List (Bytes × Bytes)) : Bool :=
  !(sentStatuses fields).isEmpty && (sentStatuses fields).all (fun s => s.code < 200)

/-- The header sections of a stream. -/
def sectionsOf (events : List H3Event) : List (List (Bytes × Bytes)) :=
  events.filterMap (fun e => match e with | .headers list => some list | _ => none)

/-- The final header section of a stream, and the sections after it. -/
def fromFinal (events : List H3Event) : List (List (Bytes × Bytes)) :=
  (sectionsOf events).dropWhile isInterim

/-- What the caller of a finished stream may be given: an error, or a response
    whose status is one the final section gives. -/
def HonestStatus (events : List H3Event) (reply : Option (Except Error Response)) : Prop :=
  (∃ e, reply = some (.error e)) ∨
    ∃ resp, reply = some (.ok resp) ∧ ∃ fields ∈ (fromFinal events).head?,
      resp.status ∈ sentStatuses fields

section Settled

/-- Every stream that has finished has been answered with its response. -/
def Settled (trace : List Seen) (d : Driver) : Prop :=
  ∀ streamId cmd events, transcript streamId trace = some (cmd, events ++ [.finished]) →
    (cmd.responseTx, .ok (response (pendingOf cmd events))) ∈ d.answers

theorem Settled.mono {trace trace' : List Seen} {d d' : Driver} (h : Settled trace d)
    (htrace : ∀ streamId cmd events,
      transcript streamId trace' = some (cmd, events ++ [.finished]) →
        transcript streamId trace = some (cmd, events ++ [.finished]))
    (hanswers : d.answers <+: d'.answers) : Settled trace' d' :=
  fun streamId cmd events htr =>
    hanswers.subset (h streamId cmd events (htrace streamId cmd events htr))

theorem handleEvent_answers (d : Driver) (e : StreamId × H3Event) :
    d.answers <+: (handleEvent d e).answers := by
  unfold handleEvent
  cases d.pendingRequests e.1 with
  | none => exact List.prefix_rfl
  | some req =>
      cases e.2 with
      | finished | reset => exact List.prefix_append _ _
      | _ => exact List.prefix_rfl

/-- An event that finishes a stream answers for it. -/
theorem settled_event {trace : List Seen} {nextTx : Nat} {d : Driver} (hd : Demux trace nextTx d)
    (hx : d.exited = false) (hs : Settled trace d) (e : StreamId × H3Event) :
    Settled (trace ++ [.event e.1 e.2]) (handleEvent d e) := by
  intro streamId cmd events htr
  rw [transcript_event] at htr
  by_cases hown : e.1 = streamId
  · rw [if_pos hown, Option.map_eq_some_iff] at htr
    rcases htr with ⟨⟨cmd', events'⟩, htr, heq⟩
    rw [Prod.mk.injEq] at heq
    rcases heq with ⟨rfl, heq⟩
    by_cases hended : ended events' = true
    · rw [if_pos hended] at heq
      exact (handleEvent_answers d e).subset (hs streamId cmd' events (heq ▸ htr))
    · -- The stream was open, so it has an entry, and this is its last event.
      rw [if_neg hended] at heq
      rcases List.append_inj' heq rfl with ⟨rfl, hlast⟩
      have hentry : d.pendingRequests e.1 = some (pendingOf cmd' events') := by
        rw [hown, hd.pending hx, htr, openEntry, if_neg hended]
      unfold handleEvent
      rw [hentry, (List.cons.inj hlast).1]
      refine List.mem_append_right _ ?_
      rw [pendingOf_responseTx]
      exact List.mem_cons_self
  · rw [if_neg hown] at htr
    exact (handleEvent_answers d e).subset (hs streamId cmd events htr)

theorem settled_poll {nextTx : Nat} (events : List (StreamId × H3Event)) {trace : List Seen}
    {d : Driver} (hd : Demux trace nextTx d) (hx : d.exited = false) (hs : Settled trace d) :
    Settled (trace ++ events.map (fun e => .event e.1 e.2)) (poll d events) := by
  induction events generalizing trace d with
  | nil =>
      rw [List.map_nil, List.append_nil]
      exact hs
  | cons e events ih =>
      have hrest := ih (demux_event hd hx e) ((handleEvent_exited d e).trans hx)
        (settled_event hd hx hs e)
      rw [List.append_assoc] at hrest
      exact hrest

theorem settled_receive {trace : List Seen} {nextTx : Nat} {d : Driver}
    (hd : Demux trace nextTx d) (hlive : d.exited = false) (hs : Settled trace d) (dg : Datagram) :
    Settled (trace ++ if polls d dg then dg.polled.map (fun e => .event e.1 e.2) else [])
      (Driver.receive d dg) := by
  unfold Driver.receive polls
  -- The driver polls with an HTTP/3 connection, which this datagram may bring.
  cases hh : d.h3Conn with
  | true =>
      simp only [Bool.not_true, Bool.and_false, Bool.false_eq_true, if_false, if_true,
        Bool.true_or]
      exact settled_poll dg.polled (hd.flags dg.established true) hlive hs
  | false =>
      cases hest : dg.established with
      | false =>
          simp only [Bool.not_false, Bool.and_true, Bool.false_eq_true, if_false,
            Bool.false_or, List.append_nil, Bool.false_and]
          exact hs
      | true =>
          cases hwith : dg.withTransport with
          | true =>
              simp only [Bool.not_false, Bool.and_self, if_true, Bool.false_or]
              exact settled_poll dg.polled (hd.flags true true) hlive hs
          | false =>
              simp only [Bool.not_false, Bool.and_self, if_true, Bool.false_or,
                Bool.and_false, Bool.false_eq_true, if_false, List.append_nil]
              exact hs

/-- An item of the trace that is no event finishes no stream. -/
theorem settled_item {trace : List Seen} {d d' : Driver} (hs : Settled trace d) {x : Seen}
    (hx : (∃ cmd, x = .early cmd) ∨ (∃ cmd, x = .rejected cmd) ∨ ∃ streamId cmd,
      x = .opened streamId cmd) (hanswers : d.answers <+: d'.answers) :
    Settled (trace ++ [x]) d' := by
  refine hs.mono (fun streamId cmd events htr => ?_) hanswers
  rcases hx with ⟨cmd', rfl⟩ | ⟨cmd', rfl⟩ | ⟨streamId', cmd', rfl⟩
  · rwa [transcript_unopened (Or.inl ⟨cmd', rfl⟩)] at htr
  · rwa [transcript_unopened (Or.inr ⟨cmd', rfl⟩)] at htr
  · rw [transcript_opened, Option.or_eq_some_iff] at htr
    rcases htr with htr | ⟨_, hnew⟩
    · exact htr
    · -- A stream that was opened just now has no events.
      split at hnew
      · exact absurd (Prod.mk.inj (Option.some.inj hnew)).2
          (fun hc => List.append_ne_nil_of_right_ne_nil events (List.cons_ne_nil _ _) hc.symm)
      · exact absurd hnew (by simp only [reduceCtorEq, not_false_eq_true])

theorem settled_step {trace : List Seen} {s s' : Session} {a : Session.Action}
    (hd : Demux trace s.nextTx s.driver) (hs : Settled trace s.driver)
    (h : Session.step s a = some s') : Settled (observe trace s a) s'.driver := by
  cases a with
  | send request body =>
      rcases Option.map_eq_some_iff.mp h with ⟨d', hact, rfl⟩
      rw [(act_send_eq_some hact).2.2,
        observe_of_nil trace (show seenBy s (.send request body) = [] from rfl)]
      exact hs
  | turn e =>
      rcases Option.map_eq_some_iff.mp h with ⟨d', hstep, rfl⟩
      have hanswers := step_answers hstep
      rcases step_eq_some hstep with ⟨hlive, hmove⟩
      cases hmove with
      -- Nothing is seen of the turns that leave the streams alone.
      | closed =>
          rw [observe_of_nil trace (show seenBy s (.turn .closed) = [] from rfl)]
          exact hs
      | socketError =>
          rw [observe_of_nil trace (show seenBy s (.turn .socketError) = [] from rfl)]
          exact hs
      | timeout =>
          rw [observe_of_nil trace (show seenBy s (.turn .timeout) = [] from rfl)]
          exact hs
      | @early cmd rest opened sendBody hq hh =>
          rw [observe_early trace hq hh]
          exact settled_item hs (Or.inl ⟨cmd, rfl⟩) hanswers
      | @rejected cmd rest e sendBody hq hh =>
          rw [observe_command trace hq hh]
          exact settled_item hs (Or.inr (Or.inl ⟨cmd, rfl⟩)) hanswers
      | @opened cmd rest streamId sendBody hq hh _ _ =>
          rw [observe_command trace hq hh]
          exact settled_item hs (Or.inr (Or.inr ⟨streamId, cmd, rfl⟩)) hanswers
      | datagram dg => exact settled_receive hd hlive hs dg

/-- In every run of a dialed session a stream that has finished has been
    answered, with the response its events amount to. -/
theorem answered_run (addr : SocketAddr) (socketAddr : Option SocketAddr)
    {as : List Session.Action} {s : Session}
    (hrun : run Session.step (Session.dialed addr socketAddr) as = some s) :
    Settled (history Session.step observe [] (Session.dialed addr socketAddr) as) s.driver := by
  refine (history_invariant Session.step
    (J := fun trace s => Demux trace s.nextTx s.driver ∧ Settled trace s.driver)
    (fun _ _ _ _ hJ hs => ⟨demux_step hJ.1 hs, settled_step hJ.1 hJ.2 hs⟩)
    ⟨demux_dialed addr socketAddr, fun streamId cmd events htr => ?_⟩ hrun).2
  exact absurd htr (by simp only [transcript, reduceCtorEq, not_false_eq_true])

/-- So its caller sees that response. -/
theorem reply_run (addr : SocketAddr) (socketAddr : Option SocketAddr)
    {as : List Session.Action} {s : Session}
    (hrun : run Session.step (Session.dialed addr socketAddr) as = some s) {streamId : StreamId}
    {cmd : SendRequest} {events : List H3Event}
    (htr : transcript streamId (history Session.step observe [] (Session.dialed addr socketAddr) as)
      = some (cmd, events ++ [.finished])) :
    s.reply cmd.responseTx = some (.ok (response (pendingOf cmd events))) := by
  have hmem := answered_run addr socketAddr hrun streamId cmd events htr
  have honce := (demux_run addr socketAddr hrun).once
  rw [Session.reply, Assoc.lookup_of_mem honce hmem]

end Settled

theorem fromU16_eq_some {n : Nat} {s : StatusCode} (h : StatusCode.fromU16 n = some s) :
    n < 1000 := by
  unfold StatusCode.fromU16 at h
  split at h
  · rename_i hvalid
    exact hvalid.2
  · exact absurd h (by simp only [reduceCtorEq, not_false_eq_true])

/-- The driver accepts a status that is written as it must be. -/
theorem accepted_of_threeDigits {val : Bytes} {s : StatusCode} (h : threeDigits val = some s) :
    (parseU16 val).bind StatusCode.fromU16 = some s := by
  unfold threeDigits at h
  split at h
  · rename_i hval
    rcases hval with ⟨hlen, hdigits⟩
    cases val with
    | nil => exact absurd hlen (by decide)
    | cons b val =>
        have hplus : ¬ (b :: val).head? = some 43 := by
          intro hb
          rw [List.all_cons, Option.some.inj hb] at hdigits
          exact absurd hdigits (by simp only [UInt8.reduceLE, decide_false, Bool.false_and,
            Bool.false_eq_true, not_false_eq_true])
        have hsmall := Nat.le_of_lt (Nat.lt_trans (fromU16_eq_some h) (by decide : 1000 < 65535))
        rw [parseU16, if_neg hplus, hdigits, if_pos (by rfl), if_pos hsmall, Option.bind_some, h]
  · exact absurd h (by simp only [reduceCtorEq, not_false_eq_true])

/-- A section that gives a status has one the driver accepts. -/
theorem statusOf_isSome {fields : List (Bytes × Bytes)} {s : StatusCode}
    (h : s ∈ sentStatuses fields) : (statusOf fields).isSome = true := by
  rcases List.mem_filterMap.mp h with ⟨header, hin, hsent⟩
  have haccepted : statusField header = some s := by
    rw [statusField]
    split at hsent
    · rename_i hname
      rw [if_pos hname, accepted_of_threeDigits hsent]
    · exact absurd hsent (by simp only [reduceCtorEq, not_false_eq_true])
  rcases List.append_of_mem hin with ⟨before, after, rfl⟩
  rw [statusOf_append, statusOf, haccepted]
  cases statusOf after <;> rfl

theorem fieldsOf_sections (events : List H3Event) :
    fieldsOf events = (sectionsOf events).flatten := by
  rw [fieldsOf, sectionsOf]
  induction events with
  | nil => rfl
  | cons e events ih =>
      rw [List.flatMap_cons, ih]
      cases e <;> rfl

/-- The last status the driver accepts, from the final section on, is one that
    the final section gives. -/
def FinalStatusLast (events : List H3Event) : Prop :=
  match fromFinal events with
  | [] => False
  | fields :: trailers =>
    ∃ status ∈ sentStatuses fields, statusOf (fields ++ trailers.flatten) = some status

/-- The status of the response, against the sections. -/
theorem response_status_iff (cmd : SendRequest) (events : List H3Event) :
    (∃ fields ∈ (fromFinal events).head?,
      (response (pendingOf cmd events)).status ∈ sentStatuses fields) ↔
        FinalStatusLast events := by
  rw [response, pendingOf_status, fieldsOf_sections,
    ← List.takeWhile_append_dropWhile (p := isInterim) (l := sectionsOf events),
    List.flatten_append, statusOf_append, FinalStatusLast, fromFinal]
  cases (sectionsOf events).dropWhile isInterim with
  | nil => simp only [List.head?_nil, Option.mem_def, reduceCtorEq, false_and, exists_false]
  | cons fields trailers =>
      simp only [List.head?_cons, Option.mem_def, Option.some.injEq, exists_eq_left',
        List.flatten_cons]
      constructor
      · intro h
        -- The final section gives a code, so the driver has accepted one.
        have hsome : (statusOf (fields ++ trailers.flatten)).isSome = true := by
          rw [statusOf_append]
          cases statusOf trailers.flatten with
          | none => exact statusOf_isSome h
          | some status => rfl
        rcases Option.isSome_iff_exists.mp hsome with ⟨status, hstatus⟩
        rw [hstatus] at h
        exact ⟨status, h, hstatus⟩
      · rintro ⟨status, hin, hstatus⟩
        rw [hstatus]
        exact hin

/-- In every run of a dialed session, what the caller of a finished stream is
    given is honest about the status exactly if the last one the driver accepts
    is the final section's. -/
theorem status_iff (addr : SocketAddr) (socketAddr : Option SocketAddr)
    {as : List Session.Action} {s : Session}
    (hrun : run Session.step (Session.dialed addr socketAddr) as = some s) {streamId : StreamId}
    {cmd : SendRequest} {events : List H3Event}
    (htr : transcript streamId (history Session.step observe [] (Session.dialed addr socketAddr) as)
      = some (cmd, events ++ [.finished])) :
    HonestStatus events (s.reply cmd.responseTx) ↔ FinalStatusLast events := by
  rw [reply_run addr socketAddr hrun htr, ← response_status_iff cmd events, HonestStatus]
  constructor
  · rintro (⟨e, he⟩ | ⟨resp, hresp, h⟩)
    · exact absurd he (by simp only [Option.some.injEq, reduceCtorEq, not_false_eq_true])
    · rw [← Except.ok.inj (Option.some.inj hresp)] at h
      exact h
  · exact fun h => Or.inr ⟨_, rfl, h⟩

section Example

/-- One request, answered with these events. -/
def answeredWith (events : List H3Event) : List Session.Action :=
  [ h3Packet [], .send getA none, .turn (.command (.ok 0) (.ok 0)),
    h3Packet ((events ++ [H3Event.finished]).map (fun e => (0, e))) ]

/-- A 103, a 404 and trailers: the caller is given the 404. -/
theorem status_final : ∃ s resp,
    run Session.step (Session.dialed { ip := .v4 0xC0000201, port := 443 } none)
        (answeredWith [.headers [(utf8 ":status", utf8 "103")],
          .headers [(utf8 ":status", utf8 "404")], .data [[1]], .headers []]) = some s ∧
      HonestStatus [.headers [(utf8 ":status", utf8 "103")],
        .headers [(utf8 ":status", utf8 "404")], .data [[1]], .headers []] (s.reply 0) ∧
      s.reply 0 = some (.ok resp) ∧ resp.status.code = 404 := by
  have hrun : run Session.step (Session.dialed { ip := .v4 0xC0000201, port := 443 } none)
      (answeredWith [.headers [(utf8 ":status", utf8 "103")],
        .headers [(utf8 ":status", utf8 "404")], .data [[1]], .headers []]) = some _ := rfl
  have htr : transcript 0 (history Session.step observe []
      (Session.dialed { ip := .v4 0xC0000201, port := 443 } none)
      (answeredWith [.headers [(utf8 ":status", utf8 "103")],
        .headers [(utf8 ":status", utf8 "404")], .data [[1]], .headers []])) =
          some (sessionCommand getA none 0, [.headers [(utf8 ":status", utf8 "103")],
            .headers [(utf8 ":status", utf8 "404")], .data [[1]], .headers []] ++ [.finished]) :=
    rfl
  have hlast : FinalStatusLast [.headers [(utf8 ":status", utf8 "103")],
      .headers [(utf8 ":status", utf8 "404")], .data [[1]], .headers []] :=
    ⟨{ code := 404 }, by decide +kernel, by decide +kernel⟩
  exact ⟨_, _, hrun, (status_iff { ip := .v4 0xC0000201, port := 443 } none hrun htr).mpr hlast,
    rfl, by decide +kernel⟩

/-- Data and no header section: the caller is given a 200. -/
theorem status_fabricated : ∃ s resp,
    run Session.step (Session.dialed { ip := .v4 0xC0000201, port := 443 } none)
        (answeredWith [.data [[1]]]) = some s ∧
      transcript 0 (history Session.step observe []
        (Session.dialed { ip := .v4 0xC0000201, port := 443 } none) (answeredWith [.data [[1]]])) =
          some (sessionCommand getA none 0, [.data [[1]]] ++ [.finished]) ∧
      s.reply 0 = some (.ok resp) ∧ resp.status = .ok ∧
      ¬ HonestStatus [.data [[1]]] (s.reply 0) := by
  refine ⟨_, _, rfl, rfl, rfl, rfl, ?_⟩
  rintro (⟨e, he⟩ | ⟨resp, hresp, fields, hfields, _⟩)
  · exact absurd (Option.some.inj he) (by simp only [reduceCtorEq, not_false_eq_true])
  · have hnone : (fromFinal [.data [[1]]]).head? = none := rfl
    rw [hnone] at hfields
    exact absurd hfields (Option.not_mem_none fields)

end Example

end Driver

end Quik
