import Quik.Driver

/-!
# Demultiplexing

Which caller gets which response. Any number of requests share one driver, and
the events of their streams arrive interleaved; the pending table is all that
keeps them apart.

A `Session` is a driver with the callers' end of its channel. Each send makes a
reply channel of its own, and `nextTx` numbers them. What the driver has seen is
a trace: the commands it took, with what became of them, and the events it
polled. A stream's transcript is read off the trace alone. It begins where the
stream was opened and stops at its first end, and everything the table and the
answers hold is a function of it.

## Main definitions

* `Session`, `Session.step`: The callers of a driver, and its loop.
* `Seen`, `observe`: The trace of a run.
* `transcript`: A stream's command and events, read off the trace.
* `readsMade`, `dataOf`: The DATA bytes of a stream.
* `pendingOf`: The table entry a transcript amounts to.
* `Demux`: The table, the answers and the trace agree.

## Theorems

* `transcript_event`, `transcript_opened`: One more item of the trace.
* `demux_event`: One event of the HTTP/3 layer.
* `demux_step`, `demux_run`: One step of the session, and a whole run.
* `demux_exact`: Every caller gets its own response, and no caller two.
-/

namespace Quik

open Transition

namespace Driver

/-- The clones of one `QuicSession` and the driver behind them. -/
structure Session where
  driver : Driver
  /-- Names the next reply channel. -/
  nextTx : Nat := 0

namespace Session

inductive Action where
  /-- `QuicSession::send`, as far as the reply channel. -/
  | send (request : Request) (body : Option Bytes)
  | turn (e : Event)

/-- A send puts its command into the channel with a new reply channel. -/
def step (s : Session) : Action → Option Session
  | .send request body =>
    (act s.driver (.send (sessionCommand request body s.nextTx))).map (fun d =>
      { driver := d, nextTx := s.nextTx + 1 })
  | .turn e => (Driver.step s.driver e).map (fun d => { s with driver := d })

/-- The session a dial hands out. -/
def dialed (addr : SocketAddr) (socketAddr : Option SocketAddr) : Session :=
  { driver := Driver.dialed addr socketAddr }

/-- What the caller waiting on a reply channel sees: the answer, or the error of
    a channel that was dropped. -/
def reply (s : Session) (ticket : Nat) : Option (Except Error Response) :=
  match s.driver.answers.lookup ticket with
  | some r => some r
  | none => if s.driver.exited then some (.error (.connect "channel closed")) else none

end Session

/-- What a driver has seen. -/
inductive Seen where
  /-- A command taken before the HTTP/3 layer existed. -/
  | early (cmd : SendRequest)
  | rejected (cmd : SendRequest)
  | opened (streamId : StreamId) (cmd : SendRequest)
  | event (streamId : StreamId) (e : H3Event)

/-- Whether a datagram leads to the `poll` loop. -/
def polls (d : Driver) (dg : Datagram) : Bool :=
  d.h3Conn || dg.established && dg.withTransport

/-- What a step shows of itself. -/
def seenBy (s : Session) : Session.Action → List Seen
  | .turn (.command opened _) =>
    match s.driver.queue with
    | [] => []
    | cmd :: _ =>
      if s.driver.h3Conn then
        match opened with
        | .ok streamId => [.opened streamId cmd]
        | .error _ => [.rejected cmd]
      else [.early cmd]
  | .turn (.datagram dg) =>
    if polls s.driver dg then dg.polled.map (fun e => .event e.1 e.2) else []
  | _ => []

/-- The trace, step by step. -/
def observe (trace : List Seen) (s : Session) (a : Session.Action) : List Seen :=
  trace ++ seenBy s a

section Observe

variable (trace : List Seen) {s : Session}

theorem observe_of_nil {a : Session.Action} (h : seenBy s a = []) : observe trace s a = trace := by
  rw [observe, h, List.append_nil]

theorem observe_early {cmd : SendRequest} {rest : List SendRequest}
    (hq : s.driver.queue = cmd :: rest) (hh : s.driver.h3Conn = false)
    (opened : Except String StreamId) (sendBody : Except String Nat) :
    observe trace s (.turn (.command opened sendBody)) = trace ++ [.early cmd] := by
  simp only [observe, seenBy, hq, hh, Bool.false_eq_true, if_false]

theorem observe_command {cmd : SendRequest} {rest : List SendRequest}
    (hq : s.driver.queue = cmd :: rest) (hh : s.driver.h3Conn = true)
    (opened : Except String StreamId) (sendBody : Except String Nat) :
    observe trace s (.turn (.command opened sendBody)) =
      trace ++ match opened with
        | .ok streamId => [.opened streamId cmd]
        | .error _ => [.rejected cmd] := by
  simp only [observe, seenBy, hq, hh, if_true]

end Observe

/-- The two events that end a stream. -/
def endsStream : H3Event → Bool
  | .finished | .reset _ => true
  | _ => false

/-- The event an item of the trace reports on a stream. -/
def eventOn (streamId : StreamId) : Seen → Option H3Event
  | .event s e => if s = streamId then some e else none
  | _ => none

/-- Events up to the first one that ends the stream. -/
def upToEnd : List H3Event → List H3Event
  | [] => []
  | e :: rest => if endsStream e then [e] else e :: upToEnd rest

/-- The command a stream was opened for, and the stream's events from there to
    its end. -/
def transcript (streamId : StreamId) : List Seen → Option (SendRequest × List H3Event)
  | [] => none
  | .opened s cmd :: rest =>
    if s = streamId then some (cmd, upToEnd (rest.filterMap (eventOn streamId)))
    else transcript streamId rest
  | _ :: rest => transcript streamId rest

/-- The stream has finished or been reset. -/
def ended (events : List H3Event) : Bool :=
  events.any endsStream

/-- The header fields received, section after section. -/
def fieldsOf (events : List H3Event) : List (Bytes × Bytes) :=
  events.flatMap (fun e => match e with | .headers list => list | _ => [])

/-- The calls of `recv_body` that are made for a `Data` event, by what they return:
    there is another one as long as the last has returned something. -/
def readsMade : List Bytes → List Bytes
  | [] => []
  | r :: rest => r :: if r.isEmpty then [] else readsMade rest

/-- The DATA bytes received, in the order of arrival. -/
def dataOf (events : List H3Event) : Bytes :=
  events.flatMap (fun e => match e with | .data reads => (readsMade reads).flatten | _ => [])

/-- The table entry these events of a stream amount to. -/
def pendingOf (cmd : SendRequest) (events : List H3Event) : PendingRequest :=
  (fieldsOf events).foldl headerField
    { url := cmd.url, responseTx := cmd.responseTx, body := dataOf events }

/-- The entry of a stream that has not ended. -/
def openEntry : Option (SendRequest × List H3Event) → Option PendingRequest
  | some (cmd, events) => if ended events then none else some (pendingOf cmd events)
  | none => none

/-- The reply channel of a command, when the driver takes it. -/
def Seen.taken? : Seen → Option Nat
  | .early cmd | .rejected cmd | .opened _ cmd => some cmd.responseTx
  | .event _ _ => none

def takenTickets (trace : List Seen) : List Nat :=
  trace.filterMap Seen.taken?

theorem upToEnd_append_singleton (es : List H3Event) (e : H3Event) :
    upToEnd (es ++ [e]) = if ended (upToEnd es) then upToEnd es else upToEnd es ++ [e] := by
  induction es with
  | nil => cases e <;> rfl
  | cons x es ih =>
      rw [List.cons_append, upToEnd, upToEnd]
      by_cases hx : endsStream x = true
      · rw [if_pos hx, if_pos hx, ended, List.any_cons, hx, Bool.true_or, if_pos rfl]
      · have hended : ended (x :: upToEnd es) = ended (upToEnd es) := by
          rw [ended, List.any_cons, Bool.eq_false_iff.mpr hx, Bool.false_or, ended]
        rw [if_neg hx, if_neg hx, ih, hended]
        by_cases he : ended (upToEnd es) = true
        · rw [if_pos he, if_pos he]
        · rw [if_neg he, if_neg he, List.cons_append]

/-- An event extends the transcript of its own stream, if that is open. -/
theorem transcript_event (trace : List Seen) (streamId s : StreamId) (e : H3Event) :
    transcript streamId (trace ++ [.event s e]) =
      if s = streamId then (transcript streamId trace).map (fun c =>
        (c.1, if ended c.2 then c.2 else c.2 ++ [e]))
      else transcript streamId trace := by
  induction trace with
  | nil => simp only [List.nil_append, transcript, Option.map_none, ite_self]
  | cons x trace ih =>
      rw [List.cons_append]
      cases x with
      | opened s' cmd =>
          rw [transcript, transcript]
          by_cases hs' : s' = streamId
          · rw [if_pos hs', if_pos hs', List.filterMap_append, Option.map_some]
            by_cases hs : s = streamId
            · rw [if_pos hs, List.filterMap_cons_some (b := e) (by rw [eventOn, if_pos hs]),
                List.filterMap_nil, upToEnd_append_singleton]
            · rw [if_neg hs, List.filterMap_cons_none (by rw [eventOn, if_neg hs]),
                List.filterMap_nil, List.append_nil]
          · rw [if_neg hs', if_neg hs', ih]
      | early | rejected | event => exact ih

/-- A stream's transcript begins where it is first opened. -/
theorem transcript_opened (trace : List Seen) (streamId s : StreamId) (cmd : SendRequest) :
    transcript streamId (trace ++ [.opened s cmd]) =
      (transcript streamId trace).or (if s = streamId then some (cmd, []) else none) := by
  induction trace with
  | nil => rfl
  | cons x trace ih =>
      rw [List.cons_append]
      cases x with
      | opened s' cmd' =>
          rw [transcript, transcript]
          by_cases hs' : s' = streamId
          · rw [if_pos hs', if_pos hs', List.filterMap_append,
              List.filterMap_cons_none (by rfl), List.filterMap_nil, List.append_nil,
              Option.some_or]
          · rw [if_neg hs', if_neg hs', ih]
      | early | rejected | event => exact ih

/-- Commands that get no stream are in no transcript. -/
theorem transcript_unopened {trace : List Seen} {streamId : StreamId} {x : Seen}
    (hx : (∃ cmd, x = .early cmd) ∨ ∃ cmd, x = .rejected cmd) :
    transcript streamId (trace ++ [x]) = transcript streamId trace := by
  induction trace with
  | nil => rcases hx with ⟨cmd, rfl⟩ | ⟨cmd, rfl⟩ <;> rfl
  | cons y trace ih =>
      rw [List.cons_append]
      cases y with
      | opened s' cmd' =>
          rw [transcript, transcript, List.filterMap_append]
          rcases hx with ⟨cmd, rfl⟩ | ⟨cmd, rfl⟩ <;>
            rw [List.filterMap_cons_none (by rfl), List.filterMap_nil, List.append_nil, ih]
      | early | rejected | event => exact ih

theorem mem_of_transcript {trace : List Seen} {streamId : StreamId} {cmd : SendRequest}
    {events : List H3Event} (h : transcript streamId trace = some (cmd, events)) :
    .opened streamId cmd ∈ trace := by
  induction trace with
  | nil => exact absurd h (by simp only [transcript, reduceCtorEq, not_false_eq_true])
  | cons x trace ih =>
      cases x with
      | opened s' cmd' =>
          rw [transcript] at h
          by_cases hs : s' = streamId
          · rw [if_pos hs, Option.some.injEq, Prod.mk.injEq] at h
            rw [hs, h.1]
            exact List.mem_cons_self
          · rw [if_neg hs] at h
            exact List.mem_cons_of_mem _ (ih h)
      | early | rejected | event => exact List.mem_cons_of_mem _ (ih h)

/-- Distinct reply channels tell the items of a trace apart. -/
theorem eq_of_taken {trace : List Seen} (hnodup : (takenTickets trace).Nodup) {x y : Seen}
    (hx : x ∈ trace) (hy : y ∈ trace) {ticket : Nat} (htx : x.taken? = some ticket)
    (hty : y.taken? = some ticket) : x = y := by
  induction trace with
  | nil => exact absurd hx List.not_mem_nil
  | cons z trace ih =>
      have hmem : ∀ w ∈ trace, w.taken? = some ticket → ticket ∈ takenTickets trace :=
        fun w hw ht => List.mem_filterMap.mpr ⟨w, hw, ht⟩
      have hhead : z.taken? = some ticket → ticket ∉ takenTickets trace := by
        intro hz
        rw [takenTickets, List.filterMap_cons_some hz] at hnodup
        exact (List.nodup_cons.mp hnodup).1
      have htail : (takenTickets trace).Nodup := by
        rw [takenTickets] at hnodup
        exact hnodup.sublist ((List.sublist_cons_self z trace).filterMap Seen.taken?)
      rcases List.mem_cons.mp hx with rfl | hx'
      · rcases List.mem_cons.mp hy with rfl | hy'
        · rfl
        · exact absurd (hmem y hy' hty) (hhead htx)
      · rcases List.mem_cons.mp hy with rfl | hy'
        · exact absurd (hmem x hx' htx) (hhead hty)
        · exact ih htail hx' hy'

/-- Where an answer comes from. -/
inductive Answered (trace : List Seen) : Nat → Except Error Response → Prop
  | early (cmd) (hin : .early cmd ∈ trace) : Answered trace cmd.responseTx (.error notEstablished)
  | rejected (cmd cause) (hin : .rejected cmd ∈ trace) :
      Answered trace cmd.responseTx (.error (issueError cause))
  | finished (streamId cmd events)
      (htr : transcript streamId trace = some (cmd, events ++ [.finished])) :
      Answered trace cmd.responseTx (.ok (response (pendingOf cmd events)))
  | reset (streamId cmd events err)
      (htr : transcript streamId trace = some (cmd, events ++ [.reset err])) :
      Answered trace cmd.responseTx (.error (resetError err))

/-- The driver agrees with its trace. -/
structure Demux (trace : List Seen) (nextTx : Nat) (d : Driver) : Prop where
  /-- Every command has a reply channel of its own. -/
  distinct : (takenTickets trace ++ d.queue.map SendRequest.responseTx).Nodup
  bound : ∀ t ∈ takenTickets trace ++ d.queue.map SendRequest.responseTx, t < nextTx
  streams : ∀ streamId, d.streams streamId = none ↔ transcript streamId trace = none
  pending : d.exited = false →
    ∀ streamId, d.pendingRequests streamId = openEntry (transcript streamId trace)
  dropped : d.exited = true → ∀ streamId, d.pendingRequests streamId = none
  answers : ∀ t r, (t, r) ∈ d.answers → Answered trace t r
  once : (d.answers.map Prod.fst).Nodup

theorem Answered.taken {trace : List Seen} {t : Nat} {r : Except Error Response}
    (h : Answered trace t r) : ∃ x ∈ trace, x.taken? = some t ∧
      ∀ streamId cmd events, x = .opened streamId cmd →
        transcript streamId trace = some (cmd, events) → ended events = true := by
  have hended : ∀ streamId cmd events e, endsStream e = true →
      transcript streamId trace = some (cmd, events ++ [e]) →
      ∀ streamId' cmd' events', Seen.opened streamId cmd = .opened streamId' cmd' →
        transcript streamId' trace = some (cmd', events') → ended events' = true := by
    intro streamId cmd events e he htr streamId' cmd' events' heq htr'
    cases heq
    rw [htr, Option.some.injEq, Prod.mk.injEq] at htr'
    rw [← htr'.2, ended, List.any_append, List.any_cons, he, Bool.true_or, Bool.or_true]
  cases h with
  | early cmd hin => exact ⟨_, hin, rfl, fun _ _ _ heq => by cases heq⟩
  | rejected cmd cause hin => exact ⟨_, hin, rfl, fun _ _ _ heq => by cases heq⟩
  | finished streamId cmd events htr =>
      exact ⟨_, mem_of_transcript htr, rfl, hended streamId cmd events .finished rfl htr⟩
  | reset streamId cmd events err htr =>
      exact ⟨_, mem_of_transcript htr, rfl, hended streamId cmd events (.reset err) rfl htr⟩

/-- A longer trace says the same of the answers given. -/
theorem Answered.mono {trace : List Seen} {t : Nat} {r : Except Error Response} (x : Seen)
    (h : Answered trace t r) : Answered (trace ++ [x]) t r := by
  -- A transcript that has ended is not extended.
  have hkeep : ∀ streamId cmd events e, endsStream e = true →
      transcript streamId trace = some (cmd, events ++ [e]) →
      transcript streamId (trace ++ [x]) = some (cmd, events ++ [e]) := by
    intro streamId cmd events e he htr
    have hended : ended (events ++ [e]) = true := by
      rw [ended, List.any_append, List.any_cons, he, Bool.true_or, Bool.or_true]
    cases x with
    | early cmd' => rw [transcript_unopened (Or.inl ⟨cmd', rfl⟩), htr]
    | rejected cmd' => rw [transcript_unopened (Or.inr ⟨cmd', rfl⟩), htr]
    | opened s cmd' => rw [transcript_opened, htr, Option.some_or]
    | event s e' =>
        rw [transcript_event, htr, Option.map_some]
        simp only [hended, if_true, ite_self]
  cases h with
  | early cmd hin => exact .early cmd (List.mem_append_left _ hin)
  | rejected cmd cause hin => exact .rejected cmd cause (List.mem_append_left _ hin)
  | finished streamId cmd events htr =>
      exact .finished streamId cmd events (hkeep streamId cmd events _ rfl htr)
  | reset streamId cmd events err htr =>
      exact .reset streamId cmd events err (hkeep streamId cmd events _ rfl htr)

section Invariant

variable {trace : List Seen} {nextTx : Nat} {d : Driver} (hd : Demux trace nextTx d)
include hd

theorem Demux.distinct_taken : (takenTickets trace).Nodup :=
  (List.nodup_append.mp hd.distinct).1

/-- A stream that is still open has not been answered for. -/
theorem Demux.unanswered {streamId : StreamId} {cmd : SendRequest} {events : List H3Event}
    (htr : transcript streamId trace = some (cmd, events)) (hopen : ended events = false) :
    cmd.responseTx ∉ d.answers.map Prod.fst := by
  intro hin
  rcases List.mem_map.mp hin with ⟨⟨t, r⟩, hmem, ht⟩
  rcases (hd.answers t r hmem).taken with ⟨x, hx, htaken, hends⟩
  have heq : x = .opened streamId cmd :=
    eq_of_taken hd.distinct_taken hx (mem_of_transcript htr) htaken (by rw [Seen.taken?, ← ht])
  rw [hends streamId cmd events heq htr] at hopen
  exact absurd hopen Bool.noConfusion

/-- Nor has a command that is still in the channel. -/
theorem Demux.unanswered_queue {cmd : SendRequest} (hin : cmd ∈ d.queue) :
    cmd.responseTx ∉ d.answers.map Prod.fst := by
  intro hans
  rcases List.mem_map.mp hans with ⟨⟨t, r⟩, hmem, ht⟩
  rcases (hd.answers t r hmem).taken with ⟨x, hx, htaken, _⟩
  have htrace : cmd.responseTx ∈ takenTickets trace :=
    List.mem_filterMap.mpr ⟨x, hx, by rw [htaken, ← ht]⟩
  have hqueue : cmd.responseTx ∈ d.queue.map SendRequest.responseTx :=
    List.mem_map_of_mem hin
  exact (List.nodup_append.mp hd.distinct).2.2 _ htrace _ hqueue rfl

/-- A table entry is of an open stream. -/
theorem Demux.open_of_pending {streamId : StreamId} {req : PendingRequest}
    (hp : d.pendingRequests streamId = some req) :
    ∃ cmd events, transcript streamId trace = some (cmd, events) ∧ ended events = false ∧
      req = pendingOf cmd events := by
  cases hx : d.exited with
  | true =>
      rw [hd.dropped hx] at hp
      exact absurd hp (by simp only [reduceCtorEq, not_false_eq_true])
  | false =>
      rw [hd.pending hx] at hp
      cases htr : transcript streamId trace with
      | none =>
          rw [htr] at hp
          exact absurd hp (by simp only [openEntry, reduceCtorEq, not_false_eq_true])
      | some c =>
          rcases c with ⟨cmd, events⟩
          rw [htr, openEntry] at hp
          by_cases he : ended events = true
          · rw [if_pos he] at hp
            exact absurd hp (by simp only [reduceCtorEq, not_false_eq_true])
          · rw [if_neg he, Option.some.injEq] at hp
            exact ⟨cmd, events, rfl, Bool.eq_false_iff.mpr he, hp.symm⟩

end Invariant

/-- A header field leaves the body, the URL and the reply channel alone. -/
theorem headerField_frame (req : PendingRequest) (header : Bytes × Bytes) :
    ∃ status headers, ∀ body, headerField { req with body := body } header =
      { req with status := status, headers := headers, body := body } := by
  unfold headerField
  by_cases hstatus : header.1 = utf8 ":status"
  · cases (parseU16 header.2).bind StatusCode.fromU16 with
    | some statusCode =>
        exact ⟨some statusCode, req.headers, fun _ => by simp only [hstatus, if_true]⟩
    | none => exact ⟨req.status, req.headers, fun _ => by simp only [hstatus, if_true]⟩
  · cases parseHeaderName header.1 with
    | none => exact ⟨req.status, req.headers, fun _ => by simp only [hstatus, if_false]⟩
    | some name =>
        cases HeaderValue.fromBytes header.2 with
        | none => exact ⟨req.status, req.headers, fun _ => by simp only [hstatus, if_false]⟩
        | some val =>
            exact ⟨req.status, req.headers.append name val, fun _ => by
              simp only [hstatus, if_false]⟩

theorem foldl_headerField_frame (list : List (Bytes × Bytes)) (req : PendingRequest) :
    ∃ status headers, ∀ body, list.foldl headerField { req with body := body } =
      { req with status := status, headers := headers, body := body } := by
  induction list generalizing req with
  | nil => exact ⟨req.status, req.headers, fun _ => rfl⟩
  | cons header list ih =>
      rcases headerField_frame req header with ⟨status, headers, hone⟩
      rcases ih { req with status := status, headers := headers } with ⟨status', headers', hrest⟩
      exact ⟨status', headers', fun body => by rw [List.foldl_cons, hone, hrest]⟩

@[simp] theorem pendingOf_responseTx (cmd : SendRequest) (events : List H3Event) :
    (pendingOf cmd events).responseTx = cmd.responseTx := by
  rcases foldl_headerField_frame (fieldsOf events)
    { url := cmd.url, responseTx := cmd.responseTx } with ⟨status, headers, h⟩
  rw [pendingOf, h]

@[simp] theorem pendingOf_body (cmd : SendRequest) (events : List H3Event) :
    (pendingOf cmd events).body = dataOf events := by
  rcases foldl_headerField_frame (fieldsOf events)
    { url := cmd.url, responseTx := cmd.responseTx } with ⟨status, headers, h⟩
  rw [pendingOf, h]

theorem pendingOf_headers (cmd : SendRequest) (events : List H3Event)
    (list : List (Bytes × Bytes)) :
    pendingOf cmd (events ++ [.headers list]) = list.foldl headerField (pendingOf cmd events) := by
  simp only [pendingOf, fieldsOf, dataOf, List.flatMap_append, List.flatMap_singleton,
    List.foldl_append, List.append_nil]

/-- The loop keeps what the calls return. -/
theorem readBody_eq (reads : List Bytes) : readBody reads = (readsMade reads).flatten := by
  induction reads with
  | nil => rfl
  | cons r rest ih =>
      cases r with
      | nil => rfl
      | cons b r =>
          have hread : readBody ((b :: r) :: rest) = (b :: r) ++ readBody rest := rfl
          rw [hread, ih]
          rfl

theorem pendingOf_data (cmd : SendRequest) (events : List H3Event) (reads : List Bytes) :
    pendingOf cmd (events ++ [.data reads]) =
      { pendingOf cmd events with body := (pendingOf cmd events).body ++ readBody reads } := by
  rcases foldl_headerField_frame (fieldsOf events)
    { url := cmd.url, responseTx := cmd.responseTx } with ⟨status, headers, h⟩
  have hfields : fieldsOf (events ++ [.data reads]) = fieldsOf events := by
    simp only [fieldsOf, List.flatMap_append, List.flatMap_singleton, List.append_nil]
  have hdata : dataOf (events ++ [.data reads]) = dataOf events ++ readBody reads := by
    simp only [dataOf, List.flatMap_append, List.flatMap_singleton, readBody_eq]
  rw [pendingOf, pendingOf, hfields, hdata, h, h]

theorem pendingOf_other (cmd : SendRequest) (events : List H3Event) :
    pendingOf cmd (events ++ [.other]) = pendingOf cmd events := by
  simp only [pendingOf, fieldsOf, dataOf, List.flatMap_append, List.flatMap_singleton,
    List.append_nil]

/-- An event of a stream that is not open changes nothing. -/
theorem openEntry_event {c? : Option (SendRequest × List H3Event)} (h : openEntry c? = none)
    (e : H3Event) :
    c?.map (fun c => (c.1, if ended c.2 then c.2 else c.2 ++ [e])) = c? := by
  cases c? with
  | none => rfl
  | some c =>
      rcases c with ⟨cmd, events⟩
      rw [openEntry] at h
      by_cases he : ended events = true
      · simp only [Option.map_some, he, if_true]
      · rw [if_neg he] at h
        exact absurd h (by simp only [reduceCtorEq, not_false_eq_true])

section Step

variable {trace : List Seen} {nextTx : Nat} {d : Driver} (hd : Demux trace nextTx d)
include hd

/-- One more answer, on a reply channel that had none. -/
theorem Demux.answered (x : Seen) {t : Nat} {result : Except Error Response}
    (hans : Answered (trace ++ [x]) t result) (hnew : t ∉ d.answers.map Prod.fst) :
    (∀ t' r, (t', r) ∈ d.answers ++ [(t, result)] → Answered (trace ++ [x]) t' r) ∧
      ((d.answers ++ [(t, result)]).map Prod.fst).Nodup := by
  constructor
  · intro t' r hmem
    rcases List.mem_append.mp hmem with hold | hin
    · exact (hd.answers t' r hold).mono x
    · rw [List.mem_singleton, Prod.mk.injEq] at hin
      rw [hin.1, hin.2]
      exact hans
  · rw [List.map_append, List.map_singleton, ← List.concat_eq_append]
    exact hd.once.concat hnew

/-- What is left to show after an event: the table and the answers. The event
    concerns its own stream only. -/
theorem demux_event_of (hx : d.exited = false) (streamId : StreamId) (e : H3Event) {d' : Driver}
    (hqueue : d'.queue = d.queue) (hstreams : d'.streams = d.streams)
    (hexited : d'.exited = d.exited)
    (hself : d'.pendingRequests streamId =
      openEntry (transcript streamId (trace ++ [.event streamId e])))
    (hother : ∀ s, s ≠ streamId → d'.pendingRequests s = d.pendingRequests s)
    (hanswers : d'.answers = d.answers ∨ ∃ t r, d'.answers = d.answers ++ [(t, r)] ∧
      Answered (trace ++ [.event streamId e]) t r ∧ t ∉ d.answers.map Prod.fst) :
    Demux (trace ++ [.event streamId e]) nextTx d' := by
  have htaken : takenTickets (trace ++ [.event streamId e]) = takenTickets trace := by
    rw [takenTickets, List.filterMap_append, List.filterMap_cons_none (by rfl),
      List.filterMap_nil, List.append_nil, takenTickets]
  constructor
  -- An event takes no command and opens no stream.
  · rw [htaken, hqueue]
    exact hd.distinct
  · rw [htaken, hqueue]
    exact hd.bound
  · intro s
    rw [hstreams, hd.streams s, transcript_event]
    by_cases hs : streamId = s
    · rw [if_pos hs, Option.map_eq_none_iff]
    · rw [if_neg hs]
  · intro _ s
    by_cases hs : s = streamId
    · rw [hs]
      exact hself
    · rw [hother s hs, hd.pending hx, transcript_event, if_neg (fun hc => hs hc.symm)]
  · intro hc
    rw [hexited, hx] at hc
    exact absurd hc Bool.noConfusion
  · rcases hanswers with heq | ⟨t', r', heq, hans, hnew⟩
    · exact fun t r hmem => (hd.answers t r (heq ▸ hmem)).mono _
    · rw [heq]
      exact (hd.answered _ hans hnew).1
  · rcases hanswers with heq | ⟨t, r, heq, hans, hnew⟩
    · rw [heq]
      exact hd.once
    · rw [heq]
      exact (hd.answered _ hans hnew).2

/-- One event of the HTTP/3 layer, of whatever stream. -/
theorem demux_event (hx : d.exited = false) (e : StreamId × H3Event) :
    Demux (trace ++ [.event e.1 e.2]) nextTx (handleEvent d e) := by
  rcases e with ⟨streamId, e⟩
  have hpending := hd.pending hx streamId
  cases hp : d.pendingRequests streamId with
  -- No entry: the stream is unknown or has ended.
  | none =>
      have hsame : handleEvent d (streamId, e) = d := by simp only [handleEvent, hp]
      rw [hsame]
      refine demux_event_of hd hx streamId e rfl rfl rfl ?_ (fun _ _ => rfl) (Or.inl rfl)
      rw [transcript_event, if_pos rfl, openEntry_event (hpending.symm.trans hp), hpending]
  -- An entry: the transcript is open, and the event extends it.
  | some req =>
      rcases hd.open_of_pending hp with ⟨cmd, events, htr, hopen, rfl⟩
      have htr' : transcript streamId (trace ++ [.event streamId e]) =
          some (cmd, events ++ [e]) := by
        rw [transcript_event, if_pos rfl, htr, Option.map_some]
        simp only [hopen, Bool.false_eq_true, if_false]
      have hended : ended (events ++ [e]) = endsStream e := by
        rw [ended, List.any_append, ← ended, hopen, List.any_cons, List.any_nil, Bool.or_false,
          Bool.false_or]
      have hstay : endsStream e = false →
          openEntry (transcript streamId (trace ++ [.event streamId e])) =
            some (pendingOf cmd (events ++ [e])) := by
        intro he
        rw [htr', openEntry, hended, he, if_neg Bool.false_ne_true]
      have hends : endsStream e = true →
          openEntry (transcript streamId (trace ++ [.event streamId e])) = none := by
        intro he
        rw [htr', openEntry, hended, he, if_pos rfl]
      have hnew := hd.unanswered htr hopen
      have hself : ∀ req?, Function.update d.pendingRequests streamId req? streamId = req? :=
        fun req? => Function.update_self streamId req? d.pendingRequests
      have hother : ∀ req? s, s ≠ streamId →
          Function.update d.pendingRequests streamId req? s = d.pendingRequests s :=
        fun req? s hs => Function.update_of_ne hs req? d.pendingRequests
      simp only [handleEvent, hp]
      cases e with
      | headers list =>
          refine demux_event_of hd hx streamId _ rfl rfl rfl ?_ (hother _) (Or.inl rfl)
          rw [hstay rfl, pendingOf_headers]
          exact hself _
      | data reads =>
          refine demux_event_of hd hx streamId _ rfl rfl rfl ?_ (hother _) (Or.inl rfl)
          rw [hstay rfl, pendingOf_data]
          exact hself _
      | finished =>
          refine demux_event_of hd hx streamId _ rfl rfl rfl ?_ (hother _) (Or.inr ?_)
          · rw [hends rfl]
            exact hself _
          · refine ⟨_, _, rfl, ?_, ?_⟩
            · rw [pendingOf_responseTx]
              exact .finished streamId cmd events htr'
            · rw [pendingOf_responseTx]
              exact hnew
      | reset err =>
          refine demux_event_of hd hx streamId _ rfl rfl rfl ?_ (hother _) (Or.inr ?_)
          · rw [hends rfl]
            exact hself _
          · refine ⟨_, _, rfl, ?_, ?_⟩
            · rw [pendingOf_responseTx]
              exact .reset streamId cmd events err htr'
            · rw [pendingOf_responseTx]
              exact hnew
      | other =>
          refine demux_event_of hd hx streamId _ rfl rfl rfl ?_ (fun _ _ => rfl) (Or.inl rfl)
          rw [hstay rfl, pendingOf_other]
          exact hp

end Step

theorem handleEvent_exited (d : Driver) (e : StreamId × H3Event) :
    (handleEvent d e).exited = d.exited := by
  unfold handleEvent
  cases d.pendingRequests e.1 with
  | none => rfl
  | some req => cases e.2 <;> rfl

/-- All events of a datagram. -/
theorem demux_poll {nextTx : Nat} (events : List (StreamId × H3Event)) {trace : List Seen}
    {d : Driver} (hd : Demux trace nextTx d) (hx : d.exited = false) :
    Demux (trace ++ events.map (fun e => .event e.1 e.2)) nextTx (poll d events) := by
  induction events generalizing trace d with
  | nil =>
      rw [List.map_nil, List.append_nil]
      exact hd
  | cons e events ih =>
      have hrest := ih (demux_event hd hx e) ((handleEvent_exited d e).trans hx)
      rw [List.append_assoc] at hrest
      exact hrest

/-- Taking a command moves its reply channel from the channel to the trace. -/
theorem takenTickets_head (trace : List Seen) {cmd : SendRequest} (rest : List SendRequest)
    {x : Seen} (hx : x.taken? = some cmd.responseTx) :
    takenTickets (trace ++ [x]) ++ rest.map SendRequest.responseTx =
      takenTickets trace ++ (cmd :: rest).map SendRequest.responseTx := by
  rw [takenTickets, List.filterMap_append, List.filterMap_cons_some hx, List.filterMap_nil,
    List.append_assoc, List.singleton_append, List.map_cons, takenTickets]

/-- A command that gets no stream is answered with an error at once. -/
theorem demux_refused {trace : List Seen} {nextTx : Nat} {d : Driver} (hd : Demux trace nextTx d)
    {cmd : SendRequest} {rest : List SendRequest} (hq : d.queue = cmd :: rest) {x : Seen}
    (hx : x = .early cmd ∨ x = .rejected cmd) {result : Except Error Response}
    (hans : Answered (trace ++ [x]) cmd.responseTx result) :
    Demux (trace ++ [x]) nextTx (answer { d with queue := rest } cmd.responseTx result) := by
  have htaken : x.taken? = some cmd.responseTx := by
    rcases hx with rfl | rfl <;> rfl
  have hlist := takenTickets_head trace rest htaken
  rw [← hq] at hlist
  have htr : ∀ streamId, transcript streamId (trace ++ [x]) = transcript streamId trace :=
    fun _ => transcript_unopened (hx.imp (fun h => ⟨cmd, h⟩) (fun h => ⟨cmd, h⟩))
  have hnew : cmd.responseTx ∉ d.answers.map Prod.fst :=
    hd.unanswered_queue (hq ▸ List.mem_cons_self)
  constructor
  · exact hlist ▸ hd.distinct
  · exact hlist ▸ hd.bound
  · exact fun streamId => (hd.streams streamId).trans (by rw [htr])
  · exact fun hlive streamId => (hd.pending hlive streamId).trans (by rw [htr])
  · exact hd.dropped
  · exact (hd.answered x hans hnew).1
  · exact (hd.answered x hans hnew).2

/-- A command that gets a stream gets a table entry, in a place that was free. -/
theorem demux_opened {trace : List Seen} {nextTx : Nat} {d : Driver} (hd : Demux trace nextTx d)
    (hlive : d.exited = false) {cmd : SendRequest} {rest : List SendRequest}
    (hq : d.queue = cmd :: rest) {streamId : StreamId} (hfresh : d.streams streamId = none)
    (out : Outgoing) :
    Demux (trace ++ [.opened streamId cmd]) nextTx
      (setPending { d with
        queue := rest
        streams := Function.update d.streams streamId (some out) } streamId
        (some { url := cmd.url, responseTx := cmd.responseTx })) := by
  have htaken : (Seen.opened streamId cmd).taken? = some cmd.responseTx := rfl
  have hlist := takenTickets_head trace rest htaken
  rw [← hq] at hlist
  have hnone : transcript streamId trace = none := (hd.streams streamId).mp hfresh
  have hself : transcript streamId (trace ++ [.opened streamId cmd]) = some (cmd, []) := by
    rw [transcript_opened, hnone, Option.none_or, if_pos rfl]
  have hother : ∀ s, s ≠ streamId →
      transcript s (trace ++ [.opened streamId cmd]) = transcript s trace := by
    intro s hs
    rw [transcript_opened, if_neg (fun hc => hs hc.symm), Option.or_none]
  constructor
  · exact hlist ▸ hd.distinct
  · exact hlist ▸ hd.bound
  -- The new stream is known from now on, the others as before.
  · intro s
    by_cases hs : s = streamId
    · rw [hs, hself]
      simp only [setPending, Function.update_self, reduceCtorEq]
    · rw [hother s hs, ← hd.streams s]
      simp only [setPending, Function.update_of_ne hs]
  · intro _ s
    by_cases hs : s = streamId
    · rw [hs, hself]
      exact Function.update_self streamId _ d.pendingRequests
    · rw [hother s hs, ← hd.pending hlive s]
      exact Function.update_of_ne hs _ d.pendingRequests
  · exact fun hc => absurd (hlive.symm.trans hc) Bool.noConfusion
  · exact fun t r hmem => (hd.answers t r hmem).mono _
  · exact hd.once

/-- Setting the two flags changes nothing the trace speaks of. -/
theorem Demux.flags {trace : List Seen} {nextTx : Nat} {d : Driver} (hd : Demux trace nextTx d)
    (established h3Conn : Bool) :
    Demux trace nextTx { d with established := established, h3Conn := h3Conn } :=
  ⟨hd.distinct, hd.bound, hd.streams, hd.pending, hd.dropped, hd.answers, hd.once⟩

/-- At the end of the task the channel and the table are dropped. -/
theorem Demux.exit {trace : List Seen} {nextTx : Nat} {d : Driver} (hd : Demux trace nextTx d) :
    Demux trace nextTx d.exit := by
  have hsub : List.Sublist (takenTickets trace ++ d.exit.queue.map SendRequest.responseTx)
      (takenTickets trace ++ d.queue.map SendRequest.responseTx) :=
    (List.Sublist.refl _).append (List.nil_sublist _)
  constructor
  · exact hd.distinct.sublist hsub
  · exact fun t ht => hd.bound t (hsub.subset ht)
  · exact hd.streams
  · exact fun hc => absurd hc Bool.noConfusion
  · exact fun _ _ => rfl
  · exact hd.answers
  · exact hd.once

/-- A new command in the channel has a reply channel beyond all the others. -/
theorem Demux.enqueue {trace : List Seen} {nextTx : Nat} {d : Driver} (hd : Demux trace nextTx d)
    {cmd : SendRequest} (hcmd : cmd.responseTx = nextTx) :
    Demux trace (nextTx + 1) (d.enqueue cmd) := by
  have hlist : takenTickets trace ++ (d.enqueue cmd).queue.map SendRequest.responseTx =
      takenTickets trace ++ d.queue.map SendRequest.responseTx ++ [nextTx] := by
    rw [Driver.enqueue, List.map_append, List.append_assoc, ← hcmd]
    rfl
  have hbeyond : nextTx ∉ takenTickets trace ++ d.queue.map SendRequest.responseTx :=
    fun hin => Nat.lt_irrefl _ (hd.bound nextTx hin)
  refine ⟨?_, ?_, hd.streams, hd.pending, hd.dropped, hd.answers, hd.once⟩
  · rw [hlist, ← List.concat_eq_append]
    exact hd.distinct.concat hbeyond
  · intro t ht
    rw [hlist] at ht
    rcases List.mem_append.mp ht with hold | hnew
    · exact Nat.lt_succ_of_lt (hd.bound t hold)
    · rw [List.mem_singleton.mp hnew]
      exact Nat.lt_succ_self _

/-- A datagram: its events are polled if there is an HTTP/3 layer, or if it is
    the one that makes it. -/
theorem Demux.receive {trace : List Seen} {nextTx : Nat} {d : Driver} (hd : Demux trace nextTx d)
    (hlive : d.exited = false) (dg : Datagram) :
    Demux (trace ++ if polls d dg then dg.polled.map (fun e => .event e.1 e.2) else [])
      nextTx (Driver.receive d dg) := by
  unfold Driver.receive polls
  cases hh : d.h3Conn with
  | true =>
      simp only [Bool.not_true, Bool.and_false, Bool.false_eq_true, if_false, if_true,
        Bool.true_or]
      exact demux_poll dg.polled (hd.flags dg.established true) hlive
  | false =>
      cases hest : dg.established with
      | false =>
          simp only [Bool.not_false, Bool.and_true, Bool.false_eq_true, if_false,
            Bool.false_or, List.append_nil, Bool.false_and]
          exact hd.flags false false
      | true =>
          cases hwith : dg.withTransport with
          | true =>
              simp only [Bool.not_false, Bool.and_self, if_true, Bool.false_or]
              exact demux_poll dg.polled (hd.flags true true) hlive
          | false =>
              -- Without a layer the task ends.
              simp only [Bool.not_false, Bool.and_self, if_true, Bool.false_or,
                Bool.and_false, Bool.false_eq_true, if_false, List.append_nil]
              exact (hd.flags true false).exit

/-- Every step of a session keeps the driver in agreement with its trace. -/
theorem demux_step {trace : List Seen} {s s' : Session} {a : Session.Action}
    (hd : Demux trace s.nextTx s.driver) (h : Session.step s a = some s') :
    Demux (observe trace s a) s'.nextTx s'.driver := by
  cases a with
  | send request body =>
      rcases Option.map_eq_some_iff.mp h with ⟨d', hact, rfl⟩
      rw [(act_send_eq_some hact).2.2,
        observe_of_nil trace (show seenBy s (.send request body) = [] from rfl)]
      exact hd.enqueue rfl
  | turn e =>
      rcases Option.map_eq_some_iff.mp h with ⟨d', hstep, rfl⟩
      rcases step_eq_some hstep with ⟨hlive, hmove⟩
      cases hmove with
      -- These three add nothing to the trace; the next three add a command.
      | closed =>
          rw [observe_of_nil trace (show seenBy s (.turn .closed) = [] from rfl)]
          exact hd.exit
      | socketError =>
          rw [observe_of_nil trace (show seenBy s (.turn .socketError) = [] from rfl)]
          exact hd
      | timeout =>
          rw [observe_of_nil trace (show seenBy s (.turn .timeout) = [] from rfl)]
          exact hd
      | @early cmd rest opened sendBody hq hh =>
          rw [observe_early trace hq hh]
          exact demux_refused hd hq (Or.inl rfl)
            (.early cmd (List.mem_append_right _ List.mem_cons_self))
      | @rejected cmd rest e sendBody hq hh =>
          rw [observe_command trace hq hh]
          exact demux_refused hd hq (Or.inr rfl)
            (.rejected cmd e (List.mem_append_right _ List.mem_cons_self))
      | @opened cmd rest streamId sendBody hq hh hfresh _ =>
          rw [observe_command trace hq hh]
          exact demux_opened hd hlive hq hfresh _
      | datagram dg => exact hd.receive hlive dg

/-- The name and the value a header field adds to a response, if it adds one. -/
def usableField (header : Bytes × Bytes) : Option (String × HeaderValue) :=
  if header.1 = utf8 ":status" then none
  else match parseHeaderName header.1, HeaderValue.fromBytes header.2 with
    | some name, some val => some (name, val)
    | _, _ => none

/-- The values the fields have for a name, in order. -/
def valuesOf (name : String) (fields : List (Bytes × Bytes)) : List HeaderValue :=
  (fields.filterMap usableField).filterMap (fun f => if f.1 = name then some f.2 else none)

theorem valuesOf_append (name : String) (fields fields' : List (Bytes × Bytes)) :
    valuesOf name (fields ++ fields') = valuesOf name fields ++ valuesOf name fields' := by
  rw [valuesOf, List.filterMap_append, List.filterMap_append, valuesOf, valuesOf]

/-- A header field adds its value under its own name. -/
theorem headerField_getAll (name : String) (header : Bytes × Bytes) (req : PendingRequest) :
    (headerField req header).headers.getAll name =
      req.headers.getAll name ++ valuesOf name [header] := by
  unfold headerField
  by_cases hstatus : header.1 = utf8 ":status"
  · have hnone : valuesOf name [header] = [] := by
      simp only [valuesOf, usableField, hstatus, if_true, List.filterMap_cons,
        List.filterMap_nil]
    rw [if_pos hstatus, hnone, List.append_nil]
    split <;> rfl
  · rw [if_neg hstatus]
    split
    · rename_i n v hn hv
      have hsome : valuesOf name [header] = if n = name then [v] else [] := by
        simp only [valuesOf, usableField, hstatus, hn, hv, if_false, List.filterMap_cons,
          List.filterMap_nil]
        by_cases heq : n = name
        · simp only [heq, if_true]
        · simp only [heq, if_false]
      rw [hsome]
      exact HeaderMap.getAll_append req.headers n name v
    -- A field whose name or value is not legal is skipped.
    · rename_i hno
      have huse : usableField header = none := by
        rw [usableField, if_neg hstatus]
        split
        · rename_i n v hn hv
          exact (hno n v hn hv).elim
        · rfl
      have hnone : valuesOf name [header] = [] := by
        simp only [valuesOf, huse, List.filterMap_cons, List.filterMap_nil]
      rw [hnone, List.append_nil]

/-- Fields are added to the values that are there. -/
theorem foldl_headerField_getAll (name : String) (fields : List (Bytes × Bytes))
    (req : PendingRequest) :
    (fields.foldl headerField req).headers.getAll name =
      req.headers.getAll name ++ valuesOf name fields := by
  induction fields generalizing req with
  | nil => exact (List.append_nil _).symm
  | cons header fields ih =>
      rw [List.foldl_cons, ih, headerField_getAll, List.append_assoc, ← valuesOf_append,
        List.singleton_append]

theorem pendingOf_getAll (cmd : SendRequest) (events : List H3Event) (name : String) :
    (pendingOf cmd events).headers.getAll name = valuesOf name (fieldsOf events) := by
  rw [pendingOf, foldl_headerField_getAll, HeaderMap.getAll_new, List.nil_append]

/-- What is exact about the demultiplexing. -/
structure Exact (trace : List Seen) (s : Session) : Prop where
  /-- Every command is answered at most once. -/
  once : ∀ ticket, s.driver.answers.countP (fun a => a.1 = ticket) ≤ 1
  /-- A response is made of what was received on the one stream opened for the
      command, from there to its end. -/
  own : ∀ ticket resp, (ticket, .ok resp) ∈ s.driver.answers → ∃ streamId cmd events,
    transcript streamId trace = some (cmd, events ++ [.finished]) ∧ cmd.responseTx = ticket ∧
    (∀ streamId' cmd', .opened streamId' cmd' ∈ trace → cmd'.responseTx = ticket →
      streamId' = streamId) ∧
    resp.body = .http3 (dataOf events) ∧
    ∀ name, resp.headers.getAll name = valuesOf name (fieldsOf events)
  /-- A command is in the table exactly while its stream is open. -/
  table : s.driver.exited = false → ∀ streamId ticket,
    (∃ req, s.driver.pendingRequests streamId = some req ∧ req.responseTx = ticket) ↔
      ∃ cmd events, transcript streamId trace = some (cmd, events) ∧ cmd.responseTx = ticket ∧
        ended events = false

/-- A step puts no entry in the place of another, and a step that ends the
    driver leaves every caller in the table with an error. -/
def KeepsCallers (s : Session) (a : Session.Action) : Prop :=
  ∀ s', Session.step s a = some s' →
    (∀ streamId sendBody, a = .turn (.command (.ok streamId) sendBody) → s.driver.h3Conn = true →
      s.driver.pendingRequests streamId = none) ∧
    (s'.driver.exited = true → ∀ streamId req, s.driver.pendingRequests streamId = some req →
      ∃ e, s'.reply req.responseTx = some (.error e))

theorem demux_dialed (addr : SocketAddr) (socketAddr : Option SocketAddr) :
    Demux [] (Session.dialed addr socketAddr).nextTx (Session.dialed addr socketAddr).driver :=
  ⟨List.nodup_nil, fun _ ht => absurd ht List.not_mem_nil,
    fun _ => ⟨fun _ => rfl, fun _ => rfl⟩, fun _ _ => rfl,
    fun _ _ => rfl, fun _ _ hmem => absurd hmem List.not_mem_nil, List.nodup_nil⟩

theorem Demux.exact {trace : List Seen} {s : Session} (hd : Demux trace s.nextTx s.driver) :
    Exact trace s := by
  constructor
  · intro ticket
    -- One reply channel has one answer.
    have hcount := List.nodup_iff_count_le_one.mp hd.once ticket
    rw [List.count, List.countP_map] at hcount
    refine Nat.le_trans (List.countP_mono_left (fun a _ ha => ?_)) hcount
    simpa only [Function.comp_apply, beq_iff_eq, decide_eq_true_eq] using ha
  · intro ticket resp hmem
    generalize hr : Except.ok resp = r at hmem
    cases hd.answers ticket r hmem with
    | early | rejected | reset => cases hr
    | finished streamId cmd events htr =>
        refine ⟨streamId, cmd, events, htr, rfl, fun streamId' cmd' hin ht => ?_, ?_, ?_⟩
        -- Its command was taken once, so no other stream was opened for it.
        · have htaken : (Seen.opened streamId' cmd').taken? = some cmd.responseTx := by
            rw [Seen.taken?, ht]
          cases eq_of_taken hd.distinct_taken hin (mem_of_transcript htr) htaken rfl
          rfl
        · rw [Except.ok.inj hr, response, pendingOf_body]
        · intro name
          rw [Except.ok.inj hr, response]
          exact pendingOf_getAll cmd events name
  · intro hlive streamId ticket
    constructor
    · rintro ⟨req, hp, ht⟩
      rcases hd.open_of_pending hp with ⟨cmd, events, htr, hopen, rfl⟩
      rw [pendingOf_responseTx] at ht
      exact ⟨cmd, events, htr, ht, hopen⟩
    · rintro ⟨cmd, events, htr, ht, hopen⟩
      refine ⟨pendingOf cmd events, ?_, (pendingOf_responseTx cmd events).trans ht⟩
      rw [hd.pending hlive, htr, openEntry, if_neg (by rw [hopen]; exact Bool.noConfusion)]

/-- A driver that ends in a step answers nobody in it. -/
theorem answers_of_exits {d d' : Driver} {e : Event} (h : step d e = some d')
    (hx : d'.exited = true) : d'.answers = d.answers := by
  rcases step_eq_some h with ⟨hlive, hmove⟩
  cases hmove with
  | closed => rfl
  | early | rejected | opened | socketError | timeout =>
      exact absurd (hlive.symm.trans hx) Bool.noConfusion
  | datagram dg =>
      -- A driver that got as far as to poll lives on.
      have hpoll : ∀ d₁ : Driver, d₁.exited = false → (poll d₁ dg.polled).exited ≠ true := by
        intro d₁ h₁ hc
        rcases poll_frame d₁ dg.polled with ⟨pending, answers, heq⟩
        rw [heq, h₁] at hc
        exact Bool.noConfusion hc
      unfold receive at hx ⊢
      split
      · split
        · rename_i h₁ h₂
          rw [if_pos h₁, if_pos h₂] at hx
          exact absurd hx (hpoll _ hlive)
        · rfl
      · split
        · rename_i h₁ h₂
          rw [if_neg h₁, if_pos h₂] at hx
          exact absurd hx (hpoll _ hlive)
        · rfl

theorem keepsCallers {trace : List Seen} {s : Session} (hd : Demux trace s.nextTx s.driver)
    (a : Session.Action) : KeepsCallers s a := by
  intro s' h
  constructor
  · rintro streamId sendBody rfl hh
    rcases Option.map_eq_some_iff.mp h with ⟨d', hstep, rfl⟩
    rcases step_eq_some hstep with ⟨hlive, hmove⟩
    cases hmove with
    | early _ _ _ hh' => exact absurd (hh.symm.trans hh') Bool.noConfusion
    -- The stream is new to the connection, so the trace has not opened it.
    | opened _ _ _ _ hfresh _ => rw [hd.pending hlive, (hd.streams streamId).mp hfresh, openEntry]
  · intro hx streamId req hp
    rcases hd.open_of_pending hp with ⟨cmd, events, htr, hopen, rfl⟩
    have hnew := hd.unanswered htr hopen
    cases a with
    | send request body =>
        rcases Option.map_eq_some_iff.mp h with ⟨d', hact, rfl⟩
        rcases act_send_eq_some hact with ⟨hlive, _, rfl⟩
        exact absurd (hlive.symm.trans hx) Bool.noConfusion
    | turn e =>
        rcases Option.map_eq_some_iff.mp h with ⟨d', hstep, rfl⟩
        have hlookup : d'.answers.lookup cmd.responseTx = none := by
          rw [answers_of_exits hstep hx]
          exact Assoc.lookup_eq_none_of_notMem hnew
        refine ⟨.connect "channel closed", ?_⟩
        rw [pendingOf_responseTx, Session.reply, hlookup]
        exact if_pos hx

/-- A driver agrees with the trace of its whole run. -/
theorem demux_run (addr : SocketAddr) (socketAddr : Option SocketAddr)
    {as : List Session.Action} {s : Session}
    (hrun : run Session.step (Session.dialed addr socketAddr) as = some s) :
    Demux (history Session.step observe [] (Session.dialed addr socketAddr) as) s.nextTx
      s.driver :=
  history_invariant Session.step (J := fun trace s => Demux trace s.nextTx s.driver)
    (fun _ _ _ _ hd hs => demux_step hd hs) (demux_dialed addr socketAddr) hrun

/-- In every run of a dialed session, whatever requests share it and however
    their events arrive, the answers are exact, no caller's entry is replaced,
    and nobody in the table is left waiting when the driver ends. -/
theorem demux_exact (addr : SocketAddr) (socketAddr : Option SocketAddr)
    {as : List Session.Action} {s : Session}
    (hrun : run Session.step (Session.dialed addr socketAddr) as = some s) :
    Exact (history Session.step observe [] (Session.dialed addr socketAddr) as) s ∧
      Every Session.step KeepsCallers (Session.dialed addr socketAddr) as := by
  constructor
  · exact (demux_run addr socketAddr hrun).exact
  · rw [← every_withHistory Session.step observe []]
    refine every_of_invariant (withHistory Session.step observe)
      (I := fun x => Demux x.1 x.2.nextTx x.2.driver) ?_ (fun x a hd => keepsCallers hd a)
      (demux_dialed addr socketAddr) as
    intro x a y hd h
    rcases withHistory_eq_some Session.step h with ⟨hs, htrace⟩
    rw [htrace]
    exact demux_step hd hs

/-- A GET of https://a.test/ with no headers of its own. -/
def getA : Request where
  method := "GET"
  uri := { scheme := some "https", authority := some "a.test", pathAndQuery := some "/",
           text := "https://a.test/" }
  headers := HeaderMap.new

/-- A packet from 192.0.2.1:443 over an established connection. -/
def h3Packet (polled : List (StreamId × H3Event)) : Session.Action :=
  .turn (.datagram
    { srcAddr := { ip := .v4 0xC0000201, port := 443 }, established := true, polled := polled })

/-- Two requests share a session, and their responses arrive interleaved. -/
def twoInterleaved : List Session.Action :=
  [ h3Packet [], .send getA none, .send getA none, .turn (.command (.ok 0) (.ok 0)),
    .turn (.command (.ok 4) (.ok 0)),
    h3Packet [ (4, .headers [(utf8 ":status", utf8 "404")]),
      (0, .headers [(utf8 ":status", utf8 "200")]), (4, .data [[4]]), (0, .data [[0]]),
      (4, .finished), (0, .data [[1]]), (0, .finished) ] ]

theorem demux_two_interleaved :
    ∃ s, run Session.step (Session.dialed { ip := .v4 0xC0000201, port := 443 } none)
        twoInterleaved = some s ∧
      Exact (history Session.step observe []
        (Session.dialed { ip := .v4 0xC0000201, port := 443 } none) twoInterleaved) s ∧
      Every Session.step KeepsCallers
        (Session.dialed { ip := .v4 0xC0000201, port := 443 } none) twoInterleaved := by
  have hrun : run Session.step (Session.dialed { ip := .v4 0xC0000201, port := 443 } none)
      twoInterleaved = some _ := rfl
  exact ⟨_, hrun, demux_exact { ip := .v4 0xC0000201, port := 443 } none hrun⟩

end Driver

end Quik
