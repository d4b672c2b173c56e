import Mathlib.Logic.Function.Basic
import Quik.Library.Transition
import Quik.Message
import Quik.Net

/-!
# The QUIC Driver

`QuicSession::send` and `run_quic_driver`: the task that owns one QUIC
connection, takes commands from a channel, and answers each caller through the
reply channel that came with its command.

The state is what the loop keeps between two iterations. A step is one
iteration, by the branch `select!` takes in it; `closed` is the check at the
head of the loop. What `quiche` answers (the stream a request is given, how
much of a body it buffers, whether the handshake is complete, the events it
has) is part of the step, so that a statement over all steps is a statement
over everything the QUIC layer may do. Two of its promises are built in: a
stream id is given out once, and a body is never taken beyond its end.

A reply channel is named by the ticket of the hop that waits on it. `answers`
lists the replies in the order they were given; a channel that is dropped with
its command or its pending entry gets none. `streams` is the HTTP/3 layer's
side of the ledger: what it was handed on each stream.

## Main definitions

* `SendRequest`, `sessionHeaders`: The command, and the header list it carries.
* `Driver`, `Driver.dialed`: The loop's state, and the one a dial starts.
* `Event`, `H3Event`: What one iteration may see.
* `Driver.step`: One iteration.
* `Driver.act`: The loop together with the callers' end of the channel.

## Theorems

* `Driver.step_eq_some`: The ways an iteration can end.
* `Driver.receives_receive`: What a datagram leaves alone.
* `Driver.step_answers`: A step only adds answers.
-/

namespace Quik

open Transition

/-- `QuicCommand::SendRequest`. -/
structure SendRequest where
  headers : List (Bytes × Bytes)
  body : Option Bytes
  url : String
  responseTx : Nat

/-- The header list `QuicSession::send` hands to the driver: the four
    pseudo-headers, then every value of the map in iteration order. -/
def sessionHeaders (request : Request) : List (Bytes × Bytes) :=
  [ (utf8 ":method", utf8 request.method),
    (utf8 ":scheme", utf8 (request.uri.scheme.getD "https")),
    (utf8 ":authority", utf8 (request.uri.authority.getD "")),
    (utf8 ":path", utf8 (request.uri.pathAndQuery.getD "/")) ] ++
  request.headers.entries.flatMap (fun e => e.2.map (fun v => (utf8 e.1, v.bytes)))

/-- The command a session sends for a request. -/
def sessionCommand (request : Request) (body : Option Bytes) (ticket : Nat) : SendRequest where
  headers := sessionHeaders request
  body := body
  url := request.uri.text
  responseTx := ticket

/-- `PendingRequest`. -/
structure PendingRequest where
  status : Option StatusCode := none
  headers : HeaderMap := HeaderMap.new
  body : Bytes := []
  url : String
  responseTx : Nat

/-- What the HTTP/3 layer has been handed for a command on its stream. -/
structure Outgoing where
  request : SendRequest
  sent : Bytes
  fin : Bool

/-- The whole body and the end of the stream have been handed over. -/
def Outgoing.Complete (o : Outgoing) : Prop :=
  o.sent = o.request.body.getD [] ∧ o.fin = true

abbrev StreamId := Nat

/-- `quiche::h3::Event`. `data` comes with what the calls of `recv_body` return
    until one of them fails. -/
inductive H3Event where
  | headers (list : List (Bytes × Bytes))
  | data (reads : List Bytes)
  | finished
  | reset (err : Nat)
  | other

/-- `quiche::RecvInfo`. -/
structure RecvInfo where
  source : SocketAddr
  destination : SocketAddr
deriving DecidableEq

/-- A UDP datagram and what the QUIC connection makes of it: whether the
    handshake is complete after it, whether an HTTP/3 layer can be built, and
    the events `poll` returns. -/
structure Datagram where
  srcAddr : SocketAddr
  established : Bool
  withTransport : Bool := true
  polled : List (StreamId × H3Event) := []

/-- One iteration of the loop. -/
inductive Event where
  /-- `conn.is_closed()` at the head of the loop. -/
  | closed
  /-- A command, with the results of `send_request` and `send_body`. -/
  | command (opened : Except String StreamId) (sendBody : Except String Nat)
  | datagram (dg : Datagram)
  /-- `recv_from` fails. -/
  | socketError
  | timeout

/-- The loop between two iterations. -/
structure Driver where
  /-- The local and the peer address given to `quiche::connect`. -/
  path : SocketAddr × SocketAddr
  /-- What `socket.local_addr()` reports, `none` if it fails. -/
  socketAddr : Option SocketAddr
  established : Bool := false
  h3Conn : Bool := false
  exited : Bool := false
  /-- Commands in the channel. -/
  queue : List SendRequest := []
  pendingRequests : StreamId → Option PendingRequest := fun _ => none
  streams : StreamId → Option Outgoing := fun _ => none
  answers : List (Nat × Except Error Response) := []

namespace Driver

/-- The driver `dial` spawns for a peer. -/
def dialed (addr : SocketAddr) (socketAddr : Option SocketAddr) : Driver :=
  { path := (dialLocalAddr addr, addr), socketAddr := socketAddr }

/-- Capacity of the command channel. -/
def capacity : Nat := 100

/-- `response_tx.send(result)`. -/
def answer (d : Driver) (ticket : Nat) (result : Except Error Response) : Driver :=
  { d with answers := d.answers ++ [(ticket, result)] }

/-- The end of the task: the receiver and the pending table are dropped, and
    every reply channel in them. -/
def exit (d : Driver) : Driver :=
  { d with exited := true, queue := [], pendingRequests := fun _ => none }

/-- `str::parse::<u16>` on the bytes of a `:status`: an optional plus sign,
    then decimal digits that fit. -/
def parseU16 (val : Bytes) : Option Nat :=
  let digits := if val.head? = some 43 then val.tail else val
  if !digits.isEmpty && digits.all (fun b => 48 ≤ b && b ≤ 57) then
    let n := digits.foldl (fun n b => 10 * n + (b.toNat - 48)) 0
    if n ≤ 65535 then some n else none
  else none

/-- One field of a header section. -/
def headerField (req : PendingRequest) (header : Bytes × Bytes) : PendingRequest :=
  if header.1 = utf8 ":status" then
    match (parseU16 header.2).bind StatusCode.fromU16 with
    | some statusCode => { req with status := some statusCode }
    | none => req
  else match parseHeaderName header.1, HeaderValue.fromBytes header.2 with
    | some name, some val => { req with headers := req.headers.append name val }
    | _, _ => req

/-- The body read by one `Data` event: a read of no bytes ends the loop. -/
def readBody (reads : List Bytes) : Bytes :=
  (reads.takeWhile (fun r => !r.isEmpty)).flatten

/-- The response of a finished stream. -/
def response (req : PendingRequest) : Response where
  status := req.status.getD StatusCode.ok
  headers := req.headers
  body := .http3 req.body
  url := req.url

def resetError (err : Nat) : Error :=
  .connect ("HTTP/3 stream reset by peer: error " ++ toString err)

/-- An update of the pending table. -/
def setPending (d : Driver) (streamId : StreamId) (req : Option PendingRequest) : Driver :=
  { d with pendingRequests := Function.update d.pendingRequests streamId req }

/-- One event of the HTTP/3 layer. Events of unknown streams are dropped. -/
def handleEvent (d : Driver) (e : StreamId × H3Event) : Driver :=
  match d.pendingRequests e.1 with
  | none => d
  | some req =>
    match e.2 with
    -- Interim and final header sections, and trailers, all go into one map.
    | .headers list => d.setPending e.1 (some (list.foldl headerField req))
    | .data reads => d.setPending e.1 (some { req with body := req.body ++ readBody reads })
    | .finished => (d.setPending e.1 none).answer req.responseTx (.ok (response req))
    | .reset err => (d.setPending e.1 none).answer req.responseTx (.error (resetError err))
    | .other => d

def notEstablished : Error := .connect "HTTP/3 connection not yet established"

def issueError (cause : String) : Error :=
  .connect ("Failed to issue HTTP/3 request: " ++ cause)

/-- What `send_request` and `send_body` hand to a new stream. A request without
    a body ends the stream at once. A failed `send_body` is logged and nothing
    else: the bytes it did not take are not kept. -/
def handOver (cmd : SendRequest) (sendBody : Except String Nat) : Outgoing :=
  match cmd.body, sendBody with
  | none, _ => { request := cmd, sent := [], fin := true }
  | some body, .ok n => { request := cmd, sent := body.take n, fin := decide (n = body.length) }
  | some _, .error _ => { request := cmd, sent := [], fin := false }

/-- What `send_body` may report for a command's body. -/
def MayReport (cmd : SendRequest) : Except String Nat → Prop
  | .ok n => n ≤ (cmd.body.getD []).length
  | .error _ => True

instance (cmd : SendRequest) (r : Except String Nat) : Decidable (MayReport cmd r) :=
  match r with
  | .ok n => inferInstanceAs (Decidable (n ≤ (cmd.body.getD []).length))
  | .error _ => inferInstanceAs (Decidable True)

/-- The `SendRequest` arm, with the rest of the channel already in place. -/
def issue (d : Driver) (cmd : SendRequest) (opened : Except String StreamId)
    (sendBody : Except String Nat) : Option Driver :=
  if d.h3Conn then
    match opened with
    | .ok streamId =>
      if d.streams streamId = none ∧ MayReport cmd sendBody then
        let d := { d with
          streams := Function.update d.streams streamId (some (handOver cmd sendBody)) }
        -- Pending whatever `send_body` reported.
        some (d.setPending streamId (some { url := cmd.url, responseTx := cmd.responseTx }))
      else none
    | .error e => some (d.answer cmd.responseTx (.error (issueError e)))
  else some (d.answer cmd.responseTx (.error notEstablished))

/-- The addresses passed to `conn.recv` with a datagram. -/
def recvInfo (d : Driver) (dg : Datagram) : RecvInfo where
  source := dg.srcAddr
  destination := d.socketAddr.getD dg.srcAddr

/-- The `poll` loop. -/
def poll (d : Driver) (events : List (StreamId × H3Event)) : Driver :=
  events.foldl handleEvent d

/-- The `recv_from` arm after `conn.recv`. -/
def receive (d : Driver) (dg : Datagram) : Driver :=
  if dg.established && !d.h3Conn then
    -- A transport that cannot be built ends the loop.
    if dg.withTransport then poll { d with established := true, h3Conn := true } dg.polled
    else exit { d with established := true }
  else if d.h3Conn then poll { d with established := dg.established } dg.polled
  else { d with established := dg.established }

/-- One iteration of the driver loop. -/
def step (d : Driver) (e : Event) : Option Driver :=
  if d.exited then none
  else match e with
    | .closed => some d.exit
    | .command opened sendBody =>
      match d.queue with
      | [] => none
      | cmd :: rest => issue { d with queue := rest } cmd opened sendBody
    | .datagram dg => some (receive d dg)
    | .socketError => some d
    | .timeout => some d

/-- The sender's half of the channel: a command joins the queue while the
    receiver exists and there is room. -/
def enqueue (d : Driver) (cmd : SendRequest) : Driver :=
  { d with queue := d.queue ++ [cmd] }

/-- What happens to a driver: a caller puts a command into the channel, or the
    loop makes a turn. -/
inductive Action where
  | send (cmd : SendRequest)
  | turn (e : Event)

def act (d : Driver) : Action → Option Driver
  | .send cmd => if d.exited = false ∧ d.queue.length < capacity then some (d.enqueue cmd) else none
  | .turn e => step d e

/-- The moves of the loop, one for each way an iteration can end. -/
inductive Move (d : Driver) : Event → Driver → Prop where
  | closed : Move d .closed d.exit
  /-- A command taken before the HTTP/3 layer exists. -/
  | early {cmd rest} (opened sendBody) (hq : d.queue = cmd :: rest) (hh : d.h3Conn = false) :
      Move d (.command opened sendBody)
        (answer { d with queue := rest } cmd.responseTx (.error notEstablished))
  /-- A command the HTTP/3 layer rejects. -/
  | rejected {cmd rest} (e sendBody) (hq : d.queue = cmd :: rest) (hh : d.h3Conn = true) :
      Move d (.command (.error e) sendBody)
        (answer { d with queue := rest } cmd.responseTx (.error (issueError e)))
  /-- A command that is given a stream. -/
  | opened {cmd rest} (streamId sendBody) (hq : d.queue = cmd :: rest) (hh : d.h3Conn = true)
      (hfresh : d.streams streamId = none) (hreport : MayReport cmd sendBody) :
      Move d (.command (.ok streamId) sendBody)
        (setPending { d with
          queue := rest
          streams := Function.update d.streams streamId (some (handOver cmd sendBody)) } streamId
          (some { url := cmd.url, responseTx := cmd.responseTx }))
  | datagram (dg) : Move d (.datagram dg) (receive d dg)
  | socketError : Move d .socketError d
  | timeout : Move d .timeout d

/-- Every step of a live driver is one of the moves. -/
theorem step_eq_some {d d' : Driver} {e : Event} (h : step d e = some d') :
    d.exited = false ∧ Move d e d' := by
  unfold step at h
  by_cases hx : d.exited = true
  · rw [if_pos hx] at h
    exact absurd h (by simp only [reduceCtorEq, not_false_eq_true])
  · rw [if_neg hx] at h
    refine ⟨Bool.eq_false_iff.mpr hx, ?_⟩
    cases e with
    | closed => exact Option.some.inj h ▸ .closed
    | datagram dg => exact Option.some.inj h ▸ .datagram dg
    | socketError => exact Option.some.inj h ▸ .socketError
    | timeout => exact Option.some.inj h ▸ .timeout
    | command opened sendBody =>
        cases hq : d.queue with
        | nil => simp only [hq, reduceCtorEq] at h
        | cons cmd rest =>
            simp only [hq, issue] at h
            -- Without an HTTP/3 layer the command is refused, whatever `quiche` would say.
            by_cases hh : d.h3Conn = true
            · rw [if_pos hh] at h
              cases opened with
              | error e => exact Option.some.inj h ▸ .rejected e sendBody hq hh
              | ok streamId =>
                  simp only at h
                  split at h
                  · rename_i hok
                    exact Option.some.inj h ▸ .opened streamId sendBody hq hh hok.1 hok.2
                  · exact absurd h (by simp only [reduceCtorEq, not_false_eq_true])
            · rw [if_neg hh] at h
              exact Option.some.inj h ▸ .early opened sendBody hq (Bool.eq_false_iff.mpr hh)

/-- Reading events changes the pending table and adds answers. -/
theorem poll_frame (d : Driver) (events : List (StreamId × H3Event)) :
    ∃ pending answers, poll d events =
      { d with pendingRequests := pending, answers := d.answers ++ answers } := by
  induction events generalizing d with
  | nil => exact ⟨d.pendingRequests, [], by rw [List.append_nil]; rfl⟩
  | cons e events ih =>
      -- One event: a section or data changes its request, an end answers it.
      have hone : ∃ pending answers, handleEvent d e =
          { d with pendingRequests := pending, answers := d.answers ++ answers } := by
        unfold handleEvent
        cases d.pendingRequests e.1 with
        | none => exact ⟨d.pendingRequests, [], by rw [List.append_nil]⟩
        | some req =>
            cases e.2 with
            | headers list => exact ⟨_, [], by rw [List.append_nil]; rfl⟩
            | data reads => exact ⟨_, [], by rw [List.append_nil]; rfl⟩
            | finished => exact ⟨_, _, rfl⟩
            | reset err => exact ⟨_, _, rfl⟩
            | other => exact ⟨d.pendingRequests, [], by rw [List.append_nil]⟩
      rcases hone with ⟨pending, answers, heq⟩
      rcases ih (handleEvent d e) with ⟨pending', answers', heq'⟩
      refine ⟨pending', answers ++ answers', ?_⟩
      rw [← List.append_assoc]
      exact heq'.trans (by rw [heq])

/-- Reading events adds no stream to the pending table. -/
theorem poll_pending {d : Driver} {events : List (StreamId × H3Event)} {streamId : StreamId}
    (h : d.pendingRequests streamId = none) : (poll d events).pendingRequests streamId = none := by
  induction events generalizing d with
  | nil => exact h
  | cons e events ih =>
      refine ih ?_
      unfold handleEvent
      cases hp : d.pendingRequests e.1 with
      | none => exact h
      -- The event is of a stream that is pending, and so of another one.
      | some req =>
          have hne : streamId ≠ e.1 := fun hc => by rw [hc, hp] at h; exact absurd h (by
            simp only [reduceCtorEq, not_false_eq_true])
          have hset : ∀ p, (d.setPending e.1 p).pendingRequests streamId = none := fun p =>
            (Function.update_of_ne hne _ _).trans h
          cases e.2 with
          | headers list => exact hset _
          | data reads => exact hset _
          | finished => exact hset none
          | reset err => exact hset none
          | other => exact h

/-- A datagram leaves the streams, the addresses and the channel alone, and
    adds no stream to the pending table. -/
structure Receives (d d' : Driver) : Prop where
  path : d'.path = d.path
  socketAddr : d'.socketAddr = d.socketAddr
  streams : d'.streams = d.streams
  queue : d'.queue = d.queue ∨ d'.exited = true ∧ d'.queue = []
  exited : d.exited = true → d'.exited = true
  pending : ∀ streamId, d.pendingRequests streamId = none → d'.pendingRequests streamId = none
  answers : d.answers <+: d'.answers

theorem receives_poll (d : Driver) (events : List (StreamId × H3Event)) :
    Receives d (poll d events) := by
  rcases poll_frame d events with ⟨pending, answers, heq⟩
  constructor
  · rw [heq]
  · rw [heq]
  · rw [heq]
  · rw [heq]; exact Or.inl rfl
  · rw [heq]; exact id
  · exact fun streamId h => poll_pending h
  · rw [heq]; exact List.prefix_append _ _

theorem receives_receive (d : Driver) (dg : Datagram) : Receives d (receive d dg) := by
  -- The flags are set before the events are read.
  have hpoll : ∀ d₁ : Driver, d₁ = { d with established := d₁.established, h3Conn := d₁.h3Conn } →
      Receives d (poll d₁ dg.polled) := by
    intro d₁ heq
    have h := receives_poll d₁ dg.polled
    rw [heq] at h ⊢
    exact ⟨h.path, h.socketAddr, h.streams, h.queue, h.exited, h.pending, h.answers⟩
  unfold receive
  split
  · split
    · exact hpoll _ rfl
    · exact ⟨rfl, rfl, rfl, Or.inr ⟨rfl, rfl⟩, fun _ => rfl, fun _ _ => rfl,
        List.prefix_refl _⟩
  · split
    · exact hpoll _ rfl
    · exact ⟨rfl, rfl, rfl, Or.inl rfl, id, fun _ => id, List.prefix_refl _⟩

/-- A caller's command joins a channel that is open and has room. -/
theorem act_send_eq_some {d d' : Driver} {cmd : SendRequest} (h : act d (.send cmd) = some d') :
    d.exited = false ∧ d.queue.length < capacity ∧ d' = d.enqueue cmd := by
  simp only [act] at h
  split at h
  · rename_i hok
    exact ⟨hok.1, hok.2, (Option.some.inj h).symm⟩
  · exact absurd h (by simp only [reduceCtorEq, not_false_eq_true])

/-- The addresses of a driver never change. -/
theorem act_addresses {d d' : Driver} {a : Action} (h : act d a = some d') :
    d'.path = d.path ∧ d'.socketAddr = d.socketAddr := by
  cases a with
  | send cmd =>
      rw [(act_send_eq_some h).2.2]
      exact ⟨rfl, rfl⟩
  | turn e =>
      cases (step_eq_some h).2 with
      | datagram dg => exact ⟨(receives_receive d dg).path, (receives_receive d dg).socketAddr⟩
      | _ => exact ⟨rfl, rfl⟩

/-- A step only adds answers. -/
theorem step_answers {d d' : Driver} {e : Event} (h : step d e = some d') :
    d.answers <+: d'.answers := by
  cases (step_eq_some h).2 with
  | datagram dg => exact (receives_receive d dg).answers
  | early | rejected => exact List.prefix_append _ _
  | _ => exact List.prefix_refl _

end Driver

end Quik
