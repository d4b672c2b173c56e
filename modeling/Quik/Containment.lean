import Quik.Pool

/-!
# Proxy Containment

Where the sockets of a client with a proxy go.

The proxy decides the peer of a TCP connection only. The HTTP/3 branch of
`dial` connects its UDP socket to the address the origin resolves to, and what
leads there is a cache entry, which any response can write. So containment is a
property of runs, and it holds of exactly the runs in which no such socket is
connected (`contained_iff`). The connections in the pool and in the hands of
the tasks add nothing, since each of them is on a socket of the log.

## Main definitions

* `Contained`: Everything the client opened, holds or uses ends at the proxy.
* `dialsOrigin`: A dial that connects a socket to the origin.

## Theorems

* `move_socket`: Which moves connect a socket, and where to.
* `contained_iff`: The runs that stay contained.
-/

namespace Quik

open Transition

variable {Jar : Type} {cl : Client Jar}

/-- Every socket opened, and the socket of every connection in the pool or in
    the hands of a task, is connected to the proxy. -/
structure Contained (p : Proxy) (s : State cl) : Prop where
  opened : ∀ sock ∈ s.sockets, sock.peer = .proxy p.addr
  held : ∀ key c, s.content key = some c → c.handle.socket.peer = .proxy p.addr
  used : ∀ t h, (s.tasks t).handle? = some h → h.socket.peer = .proxy p.addr

/-- The address a dial connects a socket for, if it gets that far. -/
def DialOutcome.addr? : DialOutcome → Option SocketAddr
  | .unreachable _ => none
  | .broken addr _ | .connected addr _ => some addr

/-- A task that was routed to HTTP/3 dials, and its socket is connected. -/
def dialsOrigin (s : State cl) : Action → Bool
  | .task t (.dial outcome) =>
    match s.tasks t with
    | .inHop v .dial => v.hasAltSvc && outcome.addr?.isSome
    | _ => false
  | _ => false

theorem mem_dialEffects_socket {dialH3 : Bool} {outcome : DialOutcome} {sock : Socket} :
    .socket sock ∈ dialEffects cl dialH3 outcome ↔
      ∃ addr, outcome.addr? = some addr ∧ sock = dialSocket cl.proxy dialH3 addr := by
  cases outcome with
  | unreachable => simp only [dialEffects, DialOutcome.addr?, List.not_mem_nil, reduceCtorEq,
      false_and, exists_false]
  | broken | connected =>
      simp only [dialEffects, DialOutcome.addr?, List.mem_cons, List.not_mem_nil, or_false,
        Effect.socket.injEq, Option.some.injEq, exists_eq_left', reduceCtorEq]

/-- A socket is connected by a dial. Only a hop that was routed to HTTP/3 takes
    the HTTP/3 branch, and only at its first dial. -/
theorem move_socket {s : State cl} {v : Vars cl.crates.url} {stage : Stage} {input : Input}
    {pc : Pc cl.crates.url} {fx : List Effect} (hm : StageMove s v stage input pc fx)
    {sock : Socket} :
    .socket sock ∈ fx ↔ ∃ outcome addr, input = .dial outcome ∧ outcome.addr? = some addr ∧
      (stage = .dial ∧ sock = dialSocket cl.proxy v.hasAltSvc addr ∨
        (stage = .fallbackDial ∨ stage = .midDial) ∧ sock = dialSocket cl.proxy false addr) := by
  cases hm with
  -- The first dial of a hop takes the branch the hop was routed to.
  | dialed | dialH3Failed | dialH2Failed =>
      simp only [List.mem_append, mem_dialEffects_socket, List.mem_cons, reduceCtorEq,
        List.not_mem_nil, or_false, Input.dial.injEq, exists_and_left, exists_eq_left', true_and,
        false_and, or_self]
  -- The dials of the two fallbacks are over HTTP/2.
  | fallbackDialed | fallbackDialFailed | midDialed | midDialFailed =>
      simp only [List.mem_append, mem_dialEffects_socket, List.mem_cons, reduceCtorEq,
        List.not_mem_nil, or_false, Input.dial.injEq, exists_and_left, exists_eq_left', true_and,
        false_and, false_or, or_true]
  | _ => simp only [List.mem_cons, List.not_mem_nil, reduceCtorEq, false_and, and_false, or_self,
      exists_false]

/-- The sockets decide: a connection in the pool or in use is on one of them. -/
theorem contained_iff_opened {p : Proxy} {s : State cl} (hinv : PoolInv s) :
    Contained p s ↔ ∀ sock ∈ s.sockets, sock.peer = .proxy p.addr := by
  constructor
  · exact Contained.opened
  · intro h
    constructor
    · exact h
    · intro key c hc
      have hknown : Known s c.handle := hinv.known key c hc
      exact h c.handle.socket hknown.socket
    · intro t conn hconn
      have hknown : Known s conn := hinv.knownTask t conn hconn
      exact h conn.socket hknown.socket

/-- A step out of a contained state leads to one exactly if it does not connect
    a socket to the origin. -/
theorem contained_step {p : Proxy} (hp : cl.proxy = some p) {s s' : State cl} {a : Action}
    (hinv : PoolInv s) (hc : Contained p s) (h : step s a = some s') :
    Contained p s' ↔ dialsOrigin s a = false := by
  -- It is enough to look at the sockets the step adds to the log.
  rw [contained_iff_opened (poolInv_step hinv h)]
  cases a with
  | driver session e =>
      rcases step_driver_eq_some h with ⟨d, d', _, _, rfl⟩
      exact ⟨fun _ => rfl, fun _ => hc.opened⟩
  | task t input =>
      rcases step_task_eq_some h with ⟨pc, fx, hm, rfl⟩
      have hsockets : (s.after t pc fx).sockets = s.sockets ++ socketsOf fx :=
        foldl_apply_sockets t s fx
      rw [hsockets]
      generalize htask : s.tasks t = pc₀ at hm
      cases hm with
      | call | enter | refuse =>
          exact ⟨fun _ => rfl, fun _ sock hsock => hc.opened sock (by
            simpa only [socketsOf, List.filterMap_nil, List.filterMap_cons_none, List.append_nil]
              using hsock)⟩
      | @stage v stage _ _ _ hm =>
          constructor
          -- A dial that was routed to HTTP/3 would add a socket to the origin.
          · intro hall
            rw [← Bool.not_eq_true]
            intro hdirect
            cases input with
            | dial outcome =>
                simp only [dialsOrigin, htask] at hdirect
                cases stage with
                | dial =>
                    simp only [Bool.and_eq_true] at hdirect
                    rcases Option.isSome_iff_exists.mp hdirect.2 with ⟨addr, haddr⟩
                    have hin := (move_socket hm).mpr
                      ⟨outcome, addr, rfl, haddr, Or.inl ⟨rfl, rfl⟩⟩
                    have hpeer := hall _ (List.mem_append_right _ (mem_socketsOf.mpr hin))
                    rw [hp, dialSocket_peer_eq_proxy] at hpeer
                    exact absurd (hdirect.1.symm.trans hpeer) (by decide)
                | _ => exact absurd hdirect Bool.false_ne_true
            | _ => exact absurd hdirect Bool.false_ne_true
          -- Any other dial goes through the proxy.
          · intro hdirect sock hsock
            rcases List.mem_append.mp hsock with hold | hnew
            · exact hc.opened sock hold
            · rcases (move_socket hm).mp (mem_socketsOf.mp hnew) with
                ⟨outcome, addr, rfl, haddr, ⟨rfl, rfl⟩ | ⟨_, rfl⟩⟩
              · rw [hp, dialSocket_peer_eq_proxy]
                simpa only [dialsOrigin, htask, haddr, Option.isSome_some, Bool.and_true]
                  using hdirect
              · rw [hp, dialSocket_peer_eq_proxy]

/-- A run of a fresh client with a proxy stays contained exactly if none of its
    steps is a hop routed to HTTP/3 whose dial connects a socket. -/
theorem contained_iff {p : Proxy} (hp : cl.proxy = some p) (altSvc : AltSvcCache) (jar : Jar)
    {as : List Action} {s : State cl} (hrun : run step (State.fresh cl altSvc jar) as = some s) :
    Always step (Contained p) (State.fresh cl altSvc jar) as ↔
      Every step (fun s a => dialsOrigin s a = false) (State.fresh cl altSvc jar) as := by
  have hinv : PoolInv (State.fresh cl altSvc jar) := poolInv_fresh altSvc jar
  have hfresh : Contained p (State.fresh cl altSvc jar) := by
    rw [contained_iff_opened hinv]
    exact fun sock h => absurd h List.not_mem_nil
  exact always_iff_every step (fun _ _ _ hi hs => poolInv_step hi hs)
    (fun _ _ _ hi hc hs => contained_step hp hi hc hs) as _ s hinv hfresh hrun

/-- A client behind a proxy on 127.0.0.1:8080. -/
def proxied : Client Unit :=
  Client.ofTable (some (.http "127.0.0.1:8080")) [siteA]

/-- One hop over HTTP/2: acquire a connection, send, and process a redirect to
    the same URL that advertises HTTP/3. -/
def hopThatTeaches : List Action :=
  ([ .call "GET" "https://a.test/" none .navigate, .go, .go, .go, .go, .go, .go,
    .dial (.connected { ip := .v4 0xC0000201, port := 443 } none), .transmit none,
    .respond (.ok (.found,
      advertises.insert "location" (.fromStatic "https://a.test/"), 0)),
    .go, .go, .go, .go ] : List Input).map (.task 0)

/-- The next hop finds the advertisement and dials. -/
def hopThatDials : List Action :=
  ([ .go, .go, .go, .go, .go, .go,
    .dial (.connected { ip := .v4 0xC0000201, port := 443 } none) ] : List Input).map (.task 0)

/-- The hop over HTTP/2 stays contained. -/
theorem contained_hop :
    Always step (Contained (.http "127.0.0.1:8080"))
      (State.fresh proxied AltSvcCache.new ()) hopThatTeaches := by
  have hrun : (run step (State.fresh proxied AltSvcCache.new ()) hopThatTeaches).isSome = true := by
    decide +kernel
  rcases Option.isSome_iff_exists.mp hrun with ⟨s, hs⟩
  exact (contained_iff rfl AltSvcCache.new () hs).mpr (by decide +kernel)

/-- The hop after it opens a UDP socket to the origin, past the proxy. -/
theorem hop_escapes_proxy :
    ¬ Always step (Contained (.http "127.0.0.1:8080"))
      (State.fresh proxied AltSvcCache.new ()) (hopThatTeaches ++ hopThatDials) := by
  intro hall
  have hsockets : (run step (State.fresh proxied AltSvcCache.new ())
      (hopThatTeaches ++ hopThatDials)).map State.sockets =
        some [ { transport := .tcp, peer := .proxy "127.0.0.1:8080" },
          { transport := .udp, peer := .origin { ip := .v4 0xC0000201, port := 443 } } ] := by
    decide +kernel
  rcases Option.map_eq_some_iff.mp hsockets with ⟨s, hs, hlog⟩
  have hpeer := (hall _ s (List.prefix_refl _) hs).opened
    { transport := .udp, peer := .origin { ip := .v4 0xC0000201, port := 443 } }
    (by rw [hlog]; exact List.mem_cons_of_mem _ List.mem_cons_self)
  exact absurd hpeer (by decide)

end Quik
