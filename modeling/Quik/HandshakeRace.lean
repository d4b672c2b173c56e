import Quik.Demux

/-!
# The First Request of a Session

What becomes of a command that overtakes the QUIC handshake.

`dial` hands out the session before a packet has been exchanged, so the first
command is usually in the channel while there is no HTTP/3 layer to carry it.
The driver does not keep such a command. It answers it at once with the error
for a connection that is not yet established, and the client falls back. That
answer is final, however the connection goes on, and no command taken later
ever gets it (`refused_iff_early`). So the outcome of a command depends on
whether it was taken before or after the packet that completes the handshake.

## Main definitions

* `completes`: A packet that completes the handshake.

## Theorems

* `h3Conn_eq_any`: The HTTP/3 layer exists from that packet on.
* `refused_iff_early`: Who is told that the connection is not yet established.
-/

namespace Quik

open Transition

namespace Driver

/-- A packet after which the handshake is complete and the HTTP/3 layer can be
    built. -/
def completes : Session.Action → Bool
  | .turn (.datagram dg) => dg.established && dg.withTransport
  | _ => false

theorem poll_h3Conn (d : Driver) (events : List (StreamId × H3Event)) :
    (poll d events).h3Conn = d.h3Conn := by
  rcases poll_frame d events with ⟨pending, answers, heq⟩
  rw [heq]

theorem receive_h3Conn (d : Driver) (dg : Datagram) :
    (receive d dg).h3Conn = (d.h3Conn || dg.established && dg.withTransport) := by
  unfold receive
  cases hh : d.h3Conn with
  | true =>
      simp only [Bool.not_true, Bool.and_false, Bool.false_eq_true, if_false, if_true,
        poll_h3Conn, Bool.true_or]
  | false =>
      cases dg.established with
      | false =>
          simp only [Bool.not_false, Bool.and_true, Bool.false_eq_true, if_false,
            Bool.false_and, Bool.or_self]
      | true =>
          cases dg.withTransport with
          | true => simp only [Bool.not_false, Bool.and_self, if_true, poll_h3Conn, Bool.false_or]
          | false =>
              simp only [Bool.not_false, Bool.and_self, if_true, Bool.and_false,
                Bool.false_eq_true, if_false, exit, Bool.or_self]

theorem step_h3Conn {s s' : Session} {a : Session.Action} (h : Session.step s a = some s') :
    s'.driver.h3Conn = (s.driver.h3Conn || completes a) := by
  cases a with
  | send request body =>
      rcases Option.map_eq_some_iff.mp h with ⟨d', hact, rfl⟩
      rw [(act_send_eq_some hact).2.2]
      exact (Bool.or_false _).symm
  | turn e =>
      rcases Option.map_eq_some_iff.mp h with ⟨d', hstep, rfl⟩
      cases (step_eq_some hstep).2 with
      | datagram dg => exact receive_h3Conn s.driver dg
      | _ => exact (Bool.or_false _).symm

/-- The layer exists from the packet on that completes the handshake. -/
theorem h3Conn_eq_any : ∀ (as : List Session.Action) (s t : Session),
    run Session.step s as = some t → t.driver.h3Conn = (s.driver.h3Conn || as.any completes) := by
  intro as
  induction as with
  | nil =>
      intro s t h
      simp only [run_nil, Option.some.injEq] at h
      rw [h, List.any_nil, Bool.or_false]
  | cons a as ih =>
      intro s t h
      rcases run_cons_eq_some Session.step h with ⟨s', hs, hrest⟩
      rw [ih s' t hrest, step_h3Conn hs, List.any_cons, Bool.or_assoc]

/-- Two texts that differ in their first `n` characters. -/
theorem append_ne_of_take {a b c : String} (n : Nat) (hn : n ≤ a.toList.length)
    (hne : a.toList.take n ≠ c.toList.take n) : a ++ b ≠ c := by
  intro h
  rw [← h, String.toList_append, List.take_append_of_le_length hn] at hne
  exact hne rfl

/-- No other error reads like the one for a connection that is not yet
    established. -/
theorem notEstablished_ne (cause : String) (err : Nat) :
    issueError cause ≠ notEstablished ∧ resetError err ≠ notEstablished := by
  constructor
  · intro h
    exact append_ne_of_take 1 (by decide) (by decide) (Error.connect.inj h)
  · intro h
    exact append_ne_of_take 8 (by decide) (by decide) (Error.connect.inj h)

/-- An answer stays where it is. -/
theorem answers_mono {s s' : Session} {a : Session.Action} (h : Session.step s a = some s') :
    s.driver.answers <+: s'.driver.answers := by
  cases a with
  | send request body =>
      rcases Option.map_eq_some_iff.mp h with ⟨d', hact, rfl⟩
      rw [(act_send_eq_some hact).2.2]
      exact List.prefix_refl _
  | turn e =>
      rcases Option.map_eq_some_iff.mp h with ⟨d', hstep, rfl⟩
      exact step_answers hstep

/-- What a caller sees is an answer on its reply channel. -/
theorem mem_of_lookup {answers : List (Nat × Except Error Response)} {ticket : Nat}
    {r : Except Error Response} (h : answers.lookup ticket = some r) : (ticket, r) ∈ answers := by
  induction answers with
  | nil => exact absurd h (by simp only [List.lookup_nil, reduceCtorEq, not_false_eq_true])
  | cons a answers ih =>
      rcases a with ⟨t, r'⟩
      rw [Assoc.lookup_cons_ite] at h
      by_cases ht : t = ticket
      · rw [if_pos ht, Option.some.injEq] at h
        rw [ht, h]
        exact List.mem_cons_self
      · rw [if_neg ht] at h
        exact List.mem_cons_of_mem _ (ih h)

/-- Who took the reply channel of a command with the HTTP/3 layer there is never
    told that the connection is not yet established. -/
theorem not_refused_of_layer {trace : List Seen} {t : Session} {ticket : Nat} {x : Seen}
    (hd : Demux trace t.nextTx t.driver) (hx : x ∈ trace) (htaken : x.taken? = some ticket)
    (hnot : ∀ cmd, x ≠ .early cmd) : t.reply ticket ≠ some (.error notEstablished) := by
  intro hreply
  unfold Session.reply at hreply
  split at hreply
  · rename_i r hlookup
    have hin := mem_of_lookup hlookup
    rw [Option.some.inj hreply] at hin
    generalize hr : Except.error notEstablished = r' at hin
    cases hd.answers ticket r' hin with
    -- The trace would have the command twice.
    | early cmd hin' => exact hnot cmd (eq_of_taken hd.distinct_taken hx hin' htaken rfl)
    -- The other errors read differently.
    | rejected cmd cause => exact (notEstablished_ne cause 0).1 (Except.error.inj hr).symm
    | finished => cases hr
    | reset streamId cmd events err =>
        exact (notEstablished_ne "" err).2 (Except.error.inj hr).symm
  · split at hreply
    · exact absurd (Option.some.inj hreply) (by
        simp only [notEstablished, Except.error.injEq, Error.connect.injEq]
        decide)
    · exact absurd hreply (by simp only [reduceCtorEq, not_false_eq_true])

/-- A command taken without the layer is answered in the same step. -/
theorem answered_of_no_layer {s s' : Session} {cmd : SendRequest} {rest : List SendRequest}
    {opened : Except String StreamId} {sendBody : Except String Nat}
    (hq : s.driver.queue = cmd :: rest) (hh : s.driver.h3Conn = false)
    (htake : Session.step s (.turn (.command opened sendBody)) = some s') :
    (cmd.responseTx, .error notEstablished) ∈ s'.driver.answers := by
  rcases Option.map_eq_some_iff.mp htake with ⟨d', hstep, rfl⟩
  cases (step_eq_some hstep).2 with
  | @early cmd' rest' _ _ hq' _ =>
      rw [hq, List.cons.injEq] at hq'
      rw [hq'.1]
      exact List.mem_append_right _ List.mem_cons_self
  | rejected _ _ _ hh' | opened _ _ _ hh' => exact absurd (hh.symm.trans hh') Bool.noConfusion

/-- With the layer there, the trace has the command under its stream, or as
    rejected. -/
theorem seen_of_layer {trace : List Seen} {s : Session} {cmd : SendRequest}
    {rest : List SendRequest} (opened : Except String StreamId) (sendBody : Except String Nat)
    (hq : s.driver.queue = cmd :: rest) (hh : s.driver.h3Conn = true) :
    ∃ x ∈ observe trace s (.turn (.command opened sendBody)), x.taken? = some cmd.responseTx ∧
      ∀ cmd', x ≠ .early cmd' := by
  cases opened with
  | ok streamId =>
      refine ⟨.opened streamId cmd, List.mem_append_right _ ?_, rfl, fun _ hc => by cases hc⟩
      simp only [seenBy, hq, hh, if_true, List.mem_singleton]
  | error e =>
      refine ⟨.rejected cmd, List.mem_append_right _ ?_, rfl, fun _ hc => by cases hc⟩
      simp only [seenBy, hq, hh, if_true, List.mem_singleton]

/-- In every run of a dialed session, a caller is told that the connection is not
    yet established, now and ever after, exactly if its command was taken before
    the packet that completes the handshake. -/
theorem refused_iff_early (addr : SocketAddr) (socketAddr : Option SocketAddr)
    {before after : List Session.Action} {s s' t : Session} {cmd : SendRequest}
    {rest : List SendRequest} {opened : Except String StreamId} {sendBody : Except String Nat}
    (hbefore : run Session.step (Session.dialed addr socketAddr) before = some s)
    (hq : s.driver.queue = cmd :: rest)
    (htake : Session.step s (.turn (.command opened sendBody)) = some s')
    (hafter : run Session.step s' after = some t) :
    t.reply cmd.responseTx = some (.error notEstablished) ↔ before.any completes = false := by
  have hlayer : s.driver.h3Conn = before.any completes := by
    rw [h3Conn_eq_any before _ s hbefore]
    rfl
  -- What the trace says at the end of the whole run.
  have hd := demux_run addr socketAddr hbefore
  generalize history Session.step observe [] (Session.dialed addr socketAddr) before = trace at hd
  have hkeeps : Demux (history Session.step observe
      (observe trace s (.turn (.command opened sendBody))) s' after) t.nextTx t.driver ∧
      ∀ x ∈ observe trace s (.turn (.command opened sendBody)),
        x ∈ history Session.step observe (observe trace s (.turn (.command opened sendBody))) s'
          after :=
    history_invariant Session.step
      (J := fun tr u => Demux tr u.nextTx u.driver ∧
        ∀ x ∈ observe trace s (.turn (.command opened sendBody)), x ∈ tr)
      (fun _ _ _ _ hJ hs => ⟨demux_step hJ.1 hs, fun x hx => List.mem_append_left _ (hJ.2 x hx)⟩)
      ⟨demux_step hd htake, fun _ hx => hx⟩ hafter
  rcases hkeeps with ⟨hdt, hmem⟩
  rw [← hlayer]
  constructor
  · intro hreply
    rw [← Bool.not_eq_true]
    intro hh
    rcases seen_of_layer opened sendBody hq hh with ⟨x, hx, htaken, hnot⟩
    exact not_refused_of_layer hdt (hmem x hx) htaken hnot hreply
  -- The answer given at once is final.
  · intro hh
    have hlast : (cmd.responseTx, .error notEstablished) ∈ t.driver.answers :=
      run_invariant Session.step
        (I := fun u : Session =>
          (cmd.responseTx, (.error notEstablished : Except Error Response)) ∈ u.driver.answers)
        (fun _ _ _ hin hs => (answers_mono hs).subset hin) (answered_of_no_layer hq hh htake) hafter
    rw [Session.reply, Assoc.lookup_of_mem hdt.once hlast]

/-- The channel's one command is taken. -/
def takesFirst : Session.Action :=
  .turn (.command (.ok 0) (.ok 0))

/-- An answer on stream 0. -/
def answersFirst : Session.Action :=
  h3Packet [(0, .headers [(utf8 ":status", utf8 "200")]), (0, .finished)]

/-- The first request of a session is refused, and the handshake completes. -/
theorem first_request_refused :
    ∃ t, run Session.step (Session.dialed { ip := .v4 0xC0000201, port := 443 } none)
        [.send getA none, takesFirst, h3Packet []] = some t ∧
      (t.reply 0 = some (.error notEstablished) ↔
        [Session.Action.send getA none].any completes = false) := by
  exact ⟨_, rfl, @refused_iff_early { ip := .v4 0xC0000201, port := 443 } none
    [.send getA none] [h3Packet []] _ _ _ _ _ (.ok 0) (.ok 0) rfl rfl rfl rfl⟩

/-- Taken before the packet that completes the handshake, the command fails;
    taken after it, it is answered. -/
theorem race_changes_reply :
    ∃ early late resp,
      run Session.step (Session.dialed { ip := .v4 0xC0000201, port := 443 } none)
        [.send getA none, takesFirst, h3Packet [], answersFirst] = some early ∧
      run Session.step (Session.dialed { ip := .v4 0xC0000201, port := 443 } none)
        [.send getA none, h3Packet [], takesFirst, answersFirst] = some late ∧
      early.driver.h3Conn = true ∧ early.reply 0 = some (.error notEstablished) ∧
      late.reply 0 = some (.ok resp) := by
  exact ⟨_, _, _, rfl, rfl, rfl, rfl, rfl⟩

end Driver

end Quik
