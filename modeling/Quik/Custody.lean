import Quik.Demux

/-!
# Where a Request Is

Between the send that puts it into the channel and the answer its caller takes,
a request is in the hands of the driver: in the channel, in the pending table
under one stream, or answered. It is in one of these places only, and as long
as the driver runs, none of its turns loses it.

A turn makes no request either: the commands of the trace and of the channel
together are those that were put in.

## Main definitions

* `Place`, `At`: The three places, and a request in one of them.
* `Held`: The request is in one of them.

## Theorems

* `Demux.enqueue_fresh`: A command with a reply channel that is not in use.
* `Demux.at_unique`: A request is in one place at most.
* `held_turn`: A driver that goes on running loses no request.
* `commands_turn`: A turn makes no command.
-/

namespace Quik

namespace Driver

/-- The command an item of the trace reports as taken. -/
def Seen.cmd? : Seen → Option SendRequest
  | .early cmd | .rejected cmd | .opened _ cmd => some cmd
  | .event _ _ => none

theorem takenTickets_eq (trace : List Seen) :
    takenTickets trace = (trace.filterMap Seen.cmd?).map SendRequest.responseTx := by
  rw [takenTickets, List.map_filterMap]
  refine List.filterMap_congr (fun x _ => ?_)
  cases x <;> rfl

/-- Reply channels that are made later do not matter. -/
theorem Demux.mono {trace : List Seen} {n m : Nat} {d : Driver} (hd : Demux trace n d)
    (h : n ≤ m) : Demux trace m d :=
  ⟨hd.distinct, fun t ht => (hd.bound t ht).trans_le h, hd.streams, hd.pending, hd.dropped,
    hd.answers, hd.once⟩

/-- A new command in the channel, with a reply channel that no other command
    has. -/
theorem Demux.enqueue_fresh {trace : List Seen} {n : Nat} {d : Driver} (hd : Demux trace n d)
    {cmd : SendRequest} (hlt : cmd.responseTx < n)
    (hnew : cmd.responseTx ∉ takenTickets trace ++ d.queue.map SendRequest.responseTx) :
    Demux trace n (d.enqueue cmd) := by
  have hlist : takenTickets trace ++ (d.enqueue cmd).queue.map SendRequest.responseTx =
      takenTickets trace ++ d.queue.map SendRequest.responseTx ++ [cmd.responseTx] := by
    rw [Driver.enqueue, List.map_append, List.append_assoc]
    rfl
  refine ⟨?_, ?_, hd.streams, hd.pending, hd.dropped, hd.answers, hd.once⟩
  · rw [hlist, ← List.concat_eq_append]
    exact hd.distinct.concat hnew
  · intro t ht
    rw [hlist] at ht
    rcases List.mem_append.mp ht with hold | hlast
    · exact hd.bound t hold
    · rw [List.mem_singleton.mp hlast]
      exact hlt

/-- Where the request of a waiting caller may be. -/
inductive Place where
  | channel
  | stream (id : StreamId)
  | answered

/-- The request with this reply channel is there. -/
def At (d : Driver) (ticket : Nat) : Place → Prop
  | .channel => ticket ∈ d.queue.map SendRequest.responseTx
  | .stream id => ∃ req, d.pendingRequests id = some req ∧ req.responseTx = ticket
  | .answered => ticket ∈ d.answers.map Prod.fst

/-- What is in the table or answered has been taken. -/
theorem Demux.taken_of_at {trace : List Seen} {n : Nat} {d : Driver} (hd : Demux trace n d)
    {ticket : Nat} {p : Place} (hp : At d ticket p) (hne : p ≠ .channel) :
    ticket ∈ takenTickets trace := by
  cases p with
  | channel => exact absurd rfl hne
  | stream id =>
      rcases hp with ⟨req, hpend, rfl⟩
      rcases hd.open_of_pending hpend with ⟨cmd, events, htr, _, rfl⟩
      refine List.mem_filterMap.mpr ⟨_, mem_of_transcript htr, ?_⟩
      rw [Seen.taken?, pendingOf_responseTx]
  | answered =>
      rcases List.mem_map.mp hp with ⟨⟨t, r⟩, hmem, rfl⟩
      rcases (hd.answers t r hmem).taken with ⟨x, hx, htaken, _⟩
      exact List.mem_filterMap.mpr ⟨x, hx, htaken⟩

/-- A driver has a request in one place at most. -/
theorem Demux.at_unique {trace : List Seen} {n : Nat} {d : Driver} (hd : Demux trace n d)
    {ticket : Nat} {p q : Place} (hp : At d ticket p) (hq : At d ticket q) : p = q := by
  -- What is in the channel has not been taken.
  have hqueue : ∀ r, At d ticket r → At d ticket .channel → r = .channel := by
    intro r hr hc
    by_contra hne
    exact (List.nodup_append.mp hd.distinct).2.2 _ (hd.taken_of_at hr hne) _ hc rfl
  have hstream : ∀ id r, At d ticket r → At d ticket (.stream id) → r = .stream id := by
    intro id r hr hs
    rcases hs with ⟨req, hpend, rfl⟩
    rcases hd.open_of_pending hpend with ⟨cmd, events, htr, hopen, rfl⟩
    cases r with
    | channel => exact (hqueue (.stream id) ⟨_, hpend, rfl⟩ hr).symm
    | stream id' =>
        rcases hr with ⟨req', hpend', hticket⟩
        rcases hd.open_of_pending hpend' with ⟨cmd', events', htr', _, rfl⟩
        rw [pendingOf_responseTx, pendingOf_responseTx] at hticket
        -- One reply channel is taken once, so the two streams are one.
        have heq := eq_of_taken hd.distinct_taken (mem_of_transcript htr')
          (mem_of_transcript htr) (congrArg some hticket) rfl
        cases heq
        rfl
    | answered =>
        rw [pendingOf_responseTx] at hr
        exact absurd hr (hd.unanswered htr hopen)
  cases q with
  | channel => exact hqueue p hp hq
  | stream id => exact hstream id p hp hq
  | answered =>
      cases p with
      | answered => rfl
      | channel => exact (hqueue .answered hq hp).symm
      | stream id => exact (hstream id .answered hq hp).symm

/-- A request that is somewhere was put in as a command. -/
theorem Demux.command_of_at {trace : List Seen} {n : Nat} {d : Driver} (hd : Demux trace n d)
    {ticket : Nat} {p : Place} (hp : At d ticket p) :
    ∃ cmd ∈ trace.filterMap Seen.cmd? ++ d.queue, cmd.responseTx = ticket := by
  have htaken : ticket ∈ takenTickets trace → ∃ cmd ∈ trace.filterMap Seen.cmd? ++ d.queue,
      cmd.responseTx = ticket := by
    intro hin
    rw [takenTickets_eq] at hin
    rcases List.mem_map.mp hin with ⟨cmd, hcmd, htx⟩
    exact ⟨cmd, List.mem_append_left _ hcmd, htx⟩
  cases p with
  | channel =>
      rcases List.mem_map.mp hp with ⟨cmd, hcmd, htx⟩
      exact ⟨cmd, List.mem_append_right _ hcmd, htx⟩
  | stream id => exact htaken (hd.taken_of_at hp Place.noConfusion)
  | answered => exact htaken (hd.taken_of_at hp Place.noConfusion)

/-- The request is somewhere. -/
def Held (d : Driver) (ticket : Nat) : Prop :=
  ∃ p, At d ticket p

theorem Held.enqueue {d : Driver} {ticket : Nat} (h : Held d ticket) (cmd : SendRequest) :
    Held (d.enqueue cmd) ticket := by
  rcases h with ⟨p, hp⟩
  refine ⟨p, ?_⟩
  cases p with
  | channel =>
      show ticket ∈ (d.queue ++ [cmd]).map SendRequest.responseTx
      rw [List.map_append]
      exact List.mem_append_left _ hp
  | stream id => exact hp
  | answered => exact hp

/-- An answer to one request leaves the others where they are. -/
theorem Held.answer {d : Driver} {ticket t : Nat} (h : ticket = t ∨ Held d ticket)
    (result : Except Error Response) : Held (d.answer t result) ticket := by
  have hanswers : ∀ k, k ∈ d.answers.map Prod.fst ∨ k = t →
      k ∈ (d.answers ++ [(t, result)]).map Prod.fst := by
    intro k hk
    rw [List.map_append, List.map_singleton, List.mem_append, List.mem_singleton]
    exact hk
  rcases h with rfl | ⟨p, hp⟩
  · exact ⟨.answered, hanswers ticket (Or.inr rfl)⟩
  · cases p with
    | channel => exact ⟨.channel, hp⟩
    | stream id => exact ⟨.stream id, hp⟩
    | answered => exact ⟨.answered, hanswers ticket (Or.inl hp)⟩

/-- An update of a table entry leaves the requests of the other streams where
    they are. -/
theorem Held.setPending {d : Driver} {ticket : Nat} (h : Held d ticket) (streamId : StreamId)
    (req? : Option PendingRequest) :
    Held (d.setPending streamId req?) ticket ∨
      ∃ req, d.pendingRequests streamId = some req ∧ req.responseTx = ticket := by
  rcases h with ⟨p, hp⟩
  cases p with
  | channel => exact Or.inl ⟨.channel, hp⟩
  | answered => exact Or.inl ⟨.answered, hp⟩
  | stream id =>
      rcases hp with ⟨req, hreq, htx⟩
      by_cases hid : id = streamId
      · exact Or.inr ⟨req, hid ▸ hreq, htx⟩
      · exact Or.inl ⟨.stream id, req, (Function.update_of_ne hid _ _).trans hreq, htx⟩

/-- An event of a stream moves the stream's request from the table to the answers,
    or leaves it there. -/
theorem Held.event {d : Driver} {ticket : Nat} (h : Held d ticket) (e : StreamId × H3Event) :
    Held (handleEvent d e) ticket := by
  unfold handleEvent
  cases hpend : d.pendingRequests e.1 with
  | none => exact h
  | some req =>
      -- An update of the entry keeps its reply channel.
      have hupdate : ∀ req' : PendingRequest, req'.responseTx = req.responseTx →
          Held (d.setPending e.1 (some req')) ticket := by
        intro req' htx
        rcases h.setPending e.1 (some req') with hheld | ⟨req₀, hreq₀, hticket⟩
        · exact hheld
        · rw [hpend, Option.some.injEq] at hreq₀
          rw [← hreq₀, ← htx] at hticket
          exact ⟨.stream e.1, req', Function.update_self _ _ _, hticket⟩
      have hend : ∀ result,
          Held ((d.setPending e.1 none).answer req.responseTx result) ticket := by
        intro result
        refine Held.answer ?_ result
        rcases h.setPending e.1 none with hheld | ⟨req₀, hreq₀, hticket⟩
        · exact Or.inr hheld
        · rw [hpend, Option.some.injEq] at hreq₀
          rw [hreq₀]
          exact Or.inl hticket.symm
      cases e.2 with
      | headers list =>
          rcases foldl_headerField_frame list req with ⟨status, headers, heq⟩
          have htx := congrArg PendingRequest.responseTx (heq req.body)
          exact hupdate _ htx
      | data reads => exact hupdate _ rfl
      | finished => exact hend _
      | reset err => exact hend _
      | other => exact h

theorem Held.poll {ticket : Nat} (events : List (StreamId × H3Event)) {d : Driver}
    (h : Held d ticket) : Held (Driver.poll d events) ticket := by
  induction events generalizing d with
  | nil => exact h
  | cons e events ih => exact ih (h.event e)

/-- The flags of a driver do not say where a request is. -/
theorem Held.flags {d : Driver} {ticket : Nat} (h : Held d ticket) (established h3Conn : Bool) :
    Held { d with established := established, h3Conn := h3Conn } ticket := by
  rcases h with ⟨p, hp⟩
  exact ⟨p, by cases p <;> exact hp⟩

/-- A request in the channel is the one that is taken, or is still there. -/
theorem Held.dequeue {d : Driver} {ticket : Nat} {cmd : SendRequest} {rest : List SendRequest}
    (hq : d.queue = cmd :: rest) (h : Held d ticket) :
    ticket = cmd.responseTx ∨ Held { d with queue := rest } ticket := by
  rcases h with ⟨p, hp⟩
  cases p with
  | channel =>
      rw [At, hq, List.map_cons, List.mem_cons] at hp
      exact hp.imp id (fun hin => ⟨.channel, hin⟩)
  | stream id => exact Or.inr ⟨.stream id, hp⟩
  | answered => exact Or.inr ⟨.answered, hp⟩

/-- A driver that goes on running loses no request. -/
theorem held_turn {trace : List Seen} {n : Nat} {d d' : Driver} {e : Event} {ticket : Nat}
    (hd : Demux trace n d) (hstep : step d e = some d') (hlive : d'.exited = false)
    (h : Held d ticket) : Held d' ticket := by
  rcases step_eq_some hstep with ⟨hx, hmove⟩
  cases hmove with
  | closed => exact absurd hlive (by simp only [exit, Bool.true_eq_false, not_false_eq_true])
  | socketError | timeout => exact h
  | early _ _ hq | rejected _ _ hq => exact Held.answer (h.dequeue hq) _
  | @opened cmd rest streamId sendBody hq _ hfresh _ =>
      -- The stream is new to the connection, so its place in the table is free.
      have hfree : d.pendingRequests streamId = none := by
        rw [hd.pending hx, (hd.streams streamId).mp hfresh, openEntry]
      rcases h.dequeue hq with rfl | hheld
      · exact ⟨.stream streamId, _, Function.update_self _ _ _, rfl⟩
      · rcases hheld with ⟨p, hp⟩
        have hstreams : Held { d with
            queue := rest
            streams := Function.update d.streams streamId
              (some (handOver cmd sendBody)) } ticket := ⟨p, by cases p <;> exact hp⟩
        rcases hstreams.setPending streamId
          (some { url := cmd.url, responseTx := cmd.responseTx }) with hset | ⟨req, hreq, _⟩
        · exact hset
        · exact absurd (hfree.symm.trans hreq) (by simp only [reduceCtorEq, not_false_eq_true])
  | datagram dg =>
      unfold receive at hlive ⊢
      split at hlive
      · rename_i hfirst
        rw [if_pos hfirst]
        split at hlive
        · rename_i hwith
          rw [if_pos hwith]
          exact (h.flags true true).poll _
        · exact absurd hlive (by simp only [exit, Bool.true_eq_false, not_false_eq_true])
      · rename_i hfirst
        rw [if_neg hfirst]
        split
        · exact Held.poll _ (h.flags dg.established d.h3Conn)
        · exact h.flags dg.established d.h3Conn

/-- A turn makes no command: what the trace and the channel have after it they had
    before. -/
theorem commands_turn {trace : List Seen} {s : Session} {d' : Driver} {e : Event}
    (hstep : step s.driver e = some d') {cmd : SendRequest}
    (h : cmd ∈ (observe trace s (.turn e)).filterMap Seen.cmd? ++ d'.queue) :
    cmd ∈ trace.filterMap Seen.cmd? ++ s.driver.queue := by
  -- A command that is taken goes from the head of the channel to the trace.
  have htake : ∀ (x : Seen) (head : SendRequest) (rest : List SendRequest),
      s.driver.queue = head :: rest → x.cmd? = some head →
      cmd ∈ (trace ++ [x]).filterMap Seen.cmd? ++ rest →
      cmd ∈ trace.filterMap Seen.cmd? ++ s.driver.queue := by
    intro x head rest hq hx hin
    rw [hq, List.append_cons]
    rwa [List.filterMap_append, List.filterMap_cons_some hx, List.filterMap_nil] at hin
  rcases step_eq_some hstep with ⟨_, hmove⟩
  cases hmove with
  | closed =>
      rw [observe_of_nil trace (show seenBy s (.turn .closed) = [] from rfl)] at h
      exact List.mem_append_left _ ((List.mem_append.mp h).resolve_right List.not_mem_nil)
  | socketError | timeout =>
      rwa [observe_of_nil trace (by rfl)] at h
  | @early head rest _ _ hq hh =>
      rw [observe_early trace hq hh] at h
      exact htake _ head rest hq rfl h
  | @rejected head rest _ _ hq hh | @opened head rest _ _ hq hh =>
      rw [observe_command trace hq hh] at h
      exact htake _ head rest hq rfl h
  | datagram dg =>
      have hevents : (seenBy s (.turn (.datagram dg))).filterMap Seen.cmd? = [] := by
        rw [List.filterMap_eq_nil_iff]
        intro x hx
        simp only [seenBy] at hx
        split at hx
        · rcases List.mem_map.mp hx with ⟨_, _, rfl⟩
          rfl
        · exact absurd hx List.not_mem_nil
      rw [observe, List.filterMap_append, hevents, List.append_nil] at h
      -- The channel is left as it is, or emptied when the driver ends.
      rcases (receives_receive s.driver dg).queue with heq | ⟨_, hnil⟩
      · rwa [heq] at h
      · rw [hnil, List.append_nil] at h
        exact List.mem_append_left _ h

end Driver

end Quik
