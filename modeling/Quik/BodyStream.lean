import Quik.Library.Credit
import Quik.Library.Transition
import Quik.Message
import Quik.Profile

/-!
# Reading an HTTP/2 Body

The loop of `Response::bytes` on an HTTP/2 stream, together with the peer that
sends the body. The peer splits what it has left into DATA frames that respect
the stream window, the connection window and the frame size limit; the loop
takes one received frame at a time and appends it to `data`.

The `http2` crate gives window back when a capacity is released on the stream
and not when data is read. The loop reads and releases nothing, so both windows
only ever shrink. In the ledger of `Library.Credit` the loop is a reader that
never grants, which `refines_step` makes precise: every step is a send, a read
or nothing.

So the transfer is safe exactly if the windows cover the body from the start
(`bytes_complete_iff`). One byte more and the peer can use up the smaller
window, the loop can read all of it, and neither can move again
(`exists_stalled_run`).

## Main definitions

* `BodyStream`, `BodyStream.start`: The peer, the windows and the loop.
* `BodyStream.step`: DATA, END_STREAM, and a turn of the loop.
* `BodyStream.Stalled`: The peer waits for window and the loop for data.
* `BytesComplete`: The loop always returns the whole body.

## Theorems

* `refines_step`: The steps, in the credit ledger.
* `exists_stalled_run`: A body that exceeds a window can stall.
* `bytes_complete_iff`: Exactly the bodies the windows cover are returned.
-/

namespace Quik

open Transition

/-- One response body in flight. -/
structure BodyStream where
  /-- Bytes the peer has still to send. -/
  toSend : Bytes
  streamWindow : Nat
  /-- No other response takes from it meanwhile. -/
  connWindow : Nat
  /-- DATA frames received and not yet taken by the loop. -/
  frames : List Bytes := []
  /-- END_STREAM has been received. -/
  ended : Bool := false
  /-- The loop's accumulator. -/
  data : Bytes := []
  /-- What the loop has returned. -/
  returned : Option Bytes := none
deriving DecidableEq

namespace BodyStream

/-- SETTINGS_MAX_FRAME_SIZE, which the profile leaves at its default. -/
def maxFrameSize : Nat := 16384

/-- A response with this body, on a connection that has `connWindow` left. -/
def start (settings : SettingsFrame) (connWindow : Nat) (body : Bytes) : BodyStream :=
  { toSend := body, streamWindow := settings.initialWindowSize.toNat, connWindow := connWindow }

inductive Action where
  /-- The peer sends a DATA frame of the next `n` bytes. -/
  | data (n : Nat)
  /-- The peer ends the stream. -/
  | endStream
  /-- A turn of the loop: `body_stream.data().await`. -/
  | poll
deriving DecidableEq

def step (s : BodyStream) : Action → Option BodyStream
  | .data n =>
    if 0 < n ∧ n ≤ s.toSend.length ∧ n ≤ s.streamWindow ∧ n ≤ s.connWindow ∧
        n ≤ maxFrameSize then
      some { s with
        toSend := s.toSend.drop n
        streamWindow := s.streamWindow - n
        connWindow := s.connWindow - n
        frames := s.frames ++ [s.toSend.take n] }
    else none
  | .endStream => if s.toSend = [] ∧ s.ended = false then some { s with ended := true } else none
  | .poll =>
    if s.returned.isSome then none
    else match s.frames with
      -- The frame goes to the accumulator; no capacity is released for it.
      | chunk :: rest => some { s with frames := rest, data := s.data ++ chunk }
      | [] => if s.ended then some { s with returned := some s.data } else none

/-- The peer has bytes left and a zero window, and the loop has taken
    everything that was received. -/
def Stalled (s : BodyStream) : Prop :=
  s.toSend ≠ [] ∧ s.frames = [] ∧ (s.streamWindow = 0 ∨ s.connWindow = 0)

/-- The two limits a DATA frame counts against. -/
inductive Window where
  | stream
  | connection
deriving DecidableEq

instance : Fintype Window where
  elems := {.stream, .connection}
  complete := by intro w; cases w <;> decide

def window (s : BodyStream) : Window → Nat
  | .stream => s.streamWindow
  | .connection => s.connWindow

/-- The stream in the credit ledger: totals for the bytes, and windows as what
    is granted and not yet used. The body is what was read, received and is
    still to come, in order. -/
structure Refines (body : Bytes) (s : BodyStream) (l : Credit.Ledger Window) : Prop where
  total : l.total = body.length
  content : s.data ++ s.frames.flatten ++ s.toSend = body
  read : l.read = s.data.length
  sent : l.sent = s.data.length + s.frames.flatten.length
  windows : ∀ w, l.granted w = s.window w + l.sent
  framed : ∀ f ∈ s.frames, f ≠ []
  atEnd : s.ended = true → s.toSend = []
  result : ∀ r, s.returned = some r → r = body

section Step

variable {body : Bytes} {s : BodyStream} {l : Credit.Ledger Window} (hr : Refines body s l)
include hr

/-- A frame the windows allow is one the ledger's grants allow. -/
theorem Refines.can_send {n : Nat} (hle : n ≤ s.toSend.length) (hsw : n ≤ s.streamWindow)
    (hcw : n ≤ s.connWindow) : Credit.step l (.send n) = some { l with sent := l.sent + n } := by
  have hlen : s.data.length + s.frames.flatten.length + s.toSend.length = body.length := by
    rw [← hr.content, List.length_append, List.length_append]
  simp only [Credit.step]
  rw [if_pos]
  refine ⟨by rw [hr.total, hr.sent]; omega, fun w => ?_⟩
  rw [hr.windows w]
  cases w <;> simp only [window] <;> omega

/-- A DATA frame uses up the windows by its length. -/
theorem Refines.data {n : Nat} (hpos : 0 < n) (hle : n ≤ s.toSend.length)
    (hsw : n ≤ s.streamWindow) (hcw : n ≤ s.connWindow) :
    Refines body { s with
      toSend := s.toSend.drop n
      streamWindow := s.streamWindow - n
      connWindow := s.connWindow - n
      frames := s.frames ++ [s.toSend.take n] } { l with sent := l.sent + n } := by
  have hflat : (s.frames ++ [s.toSend.take n]).flatten =
      s.frames.flatten ++ s.toSend.take n := by
    rw [List.flatten_append, List.flatten_singleton]
  have htake : (s.toSend.take n).length = n := List.length_take_of_le hle
  constructor
  · exact hr.total
  · simp only [hflat]
    rw [← hr.content, List.append_assoc, List.append_assoc, List.append_assoc,
      List.take_append_drop]
  · exact hr.read
  · simp only [hflat, List.length_append, htake, hr.sent]
    omega
  · intro w
    simp only [hr.windows w]
    cases w <;> simp only [window] <;> omega
  · intro f hf
    rcases List.mem_append.mp hf with hf | hf
    · exact hr.framed f hf
    · rw [List.mem_singleton.mp hf]
      exact fun hc => by rw [hc, List.length_nil] at htake; omega
  · intro he
    rw [hr.atEnd he, List.length_nil] at hle
    omega
  · exact hr.result

/-- A frame moves from the received ones to the accumulator. -/
theorem Refines.chunk {chunk : Bytes} {rest : List Bytes} (hfr : s.frames = chunk :: rest) :
    Refines body { s with frames := rest, data := s.data ++ chunk }
      { l with read := l.read + chunk.length } := by
  constructor
  · exact hr.total
  · rw [← hr.content, hfr, List.flatten_cons, List.append_assoc s.data chunk]
  · simp only [List.length_append, hr.read]
  · simp only [List.length_append, hr.sent, hfr, List.flatten_cons]
    omega
  · exact hr.windows
  · exact fun f hf => hr.framed f (hfr ▸ List.mem_cons_of_mem chunk hf)
  · exact hr.atEnd
  · exact hr.result

/-- Nothing is received and the stream has ended: the accumulator is the body. -/
theorem Refines.data_eq (hfr : s.frames = []) (hend : s.ended = true) : s.data = body := by
  rw [← hr.content, hfr, hr.atEnd hend, List.flatten_nil, List.append_nil, List.append_nil]

/-- Every step sends, reads, or leaves the ledger alone. None grants. -/
theorem refines_step {s' : BodyStream} {a : Action} (hb : Credit.Balanced l)
    (hs : step s a = some s') :
    ∃ l', Refines body s' l' ∧ Credit.Balanced l' ∧ l'.granted = l.granted := by
  cases a with
  | data n =>
      simp only [step] at hs
      split at hs
      · rename_i hok
        rcases hok with ⟨hpos, hle, hsw, hcw, _⟩
        rw [← Option.some.inj hs]
        exact ⟨_, hr.data hpos hle hsw hcw, Credit.balanced_step hb (hr.can_send hle hsw hcw), rfl⟩
      · exact absurd hs (by simp only [reduceCtorEq, not_false_eq_true])
  -- The end of the stream moves no byte, nor does the poll that finds it.
  | endStream =>
      simp only [step] at hs
      split at hs
      · rename_i hok
        refine ⟨l, ?_, hb, rfl⟩
        rw [← Option.some.inj hs]
        exact ⟨hr.total, hr.content, hr.read, hr.sent, hr.windows, hr.framed, fun _ => hok.1,
          hr.result⟩
      · exact absurd hs (by simp only [reduceCtorEq, not_false_eq_true])
  | poll =>
      simp only [step] at hs
      split at hs
      · exact absurd hs (by simp only [reduceCtorEq, not_false_eq_true])
      · split at hs
        · rename_i chunk rest hfr
          -- A received frame has been sent, so there is credit to read it.
          have hread : Credit.step l (.read chunk.length) =
              some { l with read := l.read + chunk.length } := by
            simp only [Credit.step]
            rw [if_pos]
            rw [hr.read, hr.sent, hfr, List.flatten_cons, List.length_append]
            omega
          rw [← Option.some.inj hs]
          exact ⟨_, hr.chunk hfr, Credit.balanced_step hb hread, rfl⟩
        · rename_i hfr
          split at hs
          · rename_i hend
            refine ⟨l, ?_, hb, rfl⟩
            rw [← Option.some.inj hs]
            exact ⟨hr.total, hr.content, hr.read, hr.sent, hr.windows, hr.framed, hr.atEnd,
              fun r hret => (Option.some.inj hret).symm.trans (hr.data_eq hfr hend)⟩
          · exact absurd hs (by simp only [reduceCtorEq, not_false_eq_true])

end Step

/-- In every reachable state the ledger has granted what the windows were at
    the start, and no more. -/
theorem reachable_refines {settings : SettingsFrame} {connWindow : Nat} {body : Bytes}
    {s : BodyStream} (h : Reachable step (start settings connWindow body) s) :
    ∃ l, Refines body s l ∧ Credit.Balanced l ∧
      l.granted = (start settings connWindow body).window := by
  -- The ledger a response begins with: nothing sent, nothing read.
  let l₀ : Credit.Ledger Window :=
    { total := body.length, granted := (start settings connWindow body).window }
  have hbalanced : Credit.Balanced l₀ :=
    ⟨Nat.le_refl 0, Nat.zero_le _, fun _ => Nat.zero_le _⟩
  have hnone : ∀ r, (start settings connWindow body).returned ≠ some r := by
    intro r
    simp only [start, ne_eq, reduceCtorEq, not_false_eq_true]
  have hrefines : Refines body (start settings connWindow body) l₀ := by
    constructor
    · rfl
    · rfl
    · rfl
    · rfl
    · exact fun _ => rfl
    · exact fun f hf => absurd hf List.not_mem_nil
    · exact fun hc => absurd hc Bool.false_ne_true
    · exact fun r hc => absurd hc (hnone r)
  refine reachable_invariant step (I := fun s => ∃ l, Refines body s l ∧ Credit.Balanced l ∧
    l.granted = (start settings connWindow body).window) ?_ ?_ h
  · exact ⟨l₀, hrefines, hbalanced, rfl⟩
  · rintro s a s' ⟨l, hr, hb, hg⟩ hs
    rcases refines_step hr hb hs with ⟨l', hr', hb', hg'⟩
    exact ⟨l', hr', hb', hg'.trans hg⟩

/-- A stalled stream is a stalled ledger. -/
theorem stalled_ledger {body : Bytes} {s : BodyStream} {l : Credit.Ledger Window}
    (hr : Refines body s l) (hs : Stalled s) : Credit.Stalled l := by
  rcases hs with ⟨hsend, hframes, hwin⟩
  have hpos : 0 < s.toSend.length := List.length_pos_iff.mpr hsend
  have hlen : s.data.length + s.frames.flatten.length + s.toSend.length = body.length := by
    rw [← hr.content, List.length_append, List.length_append]
  refine ⟨by rw [hr.sent, hr.total]; omega, ?_, ?_⟩
  · rw [hr.read, hr.sent, hframes, List.flatten_nil, List.length_nil, Nat.add_zero]
  · rcases hwin with hz | hz
    · exact ⟨.stream, by rw [hr.windows .stream, window, hz, Nat.zero_add]⟩
    · exact ⟨.connection, by rw [hr.windows .connection, window, hz, Nat.zero_add]⟩

/-- Steps the stream can still take, at most. -/
def remaining (s : BodyStream) : Nat :=
  2 * s.toSend.length + s.frames.length + (if s.ended then 0 else 1) +
    (if s.returned.isSome then 0 else 1)

theorem remaining_lt {s s' : BodyStream} {a : Action} (hs : step s a = some s') :
    s'.remaining < s.remaining := by
  cases a with
  | data n =>
      simp only [step] at hs
      split at hs
      · -- Sending a byte counts twice, since it makes at most one frame to read.
        rw [← Option.some.inj hs]
        simp only [remaining, List.length_drop, List.length_append, List.length_singleton]
        omega
      · exact absurd hs (by simp only [reduceCtorEq, not_false_eq_true])
  | endStream =>
      simp only [step] at hs
      split at hs
      · rename_i hok
        rw [← Option.some.inj hs]
        simp only [remaining, hok.2, if_true, Bool.false_eq_true, if_false]
        omega
      · exact absurd hs (by simp only [reduceCtorEq, not_false_eq_true])
  | poll =>
      simp only [step] at hs
      split at hs
      · exact absurd hs (by simp only [reduceCtorEq, not_false_eq_true])
      · rename_i hret
        split at hs
        · rename_i chunk rest hfr
          rw [← Option.some.inj hs]
          simp only [remaining, hfr, List.length_cons]
          omega
        · split at hs
          · rw [← Option.some.inj hs]
            simp only [remaining, hret, Bool.false_eq_true, if_false, Option.isSome_some, if_true]
            omega
          · exact absurd hs (by simp only [reduceCtorEq, not_false_eq_true])

theorem run_length_le : ∀ {as : List Action} {s t : BodyStream}, run step s as = some t →
    as.length + t.remaining ≤ s.remaining := by
  intro as
  induction as with
  | nil =>
      intro s t hrun
      rw [run_nil, Option.some.injEq] at hrun
      rw [hrun, List.length_nil, Nat.zero_add]
  | cons a as ih =>
      intro s t hrun
      rcases run_cons_eq_some step hrun with ⟨s', hs, hrest⟩
      have hlt := remaining_lt hs
      have hle := ih hrest
      rw [List.length_cons]
      omega

/-- A stream that has not returned and is not stalled can go on: the loop takes
    a frame or returns, or the peer sends one byte or ends the stream. -/
theorem progress {s : BodyStream} (hret : s.returned = none) (hstall : ¬ Stalled s) :
    ∃ a s', step s a = some s' := by
  cases hfr : s.frames with
  | cons chunk rest =>
      exact ⟨.poll, { s with frames := rest, data := s.data ++ chunk }, by
        simp only [step, hret, hfr, Option.isSome_none, Bool.false_eq_true, if_false]⟩
  | nil =>
      by_cases hsend : s.toSend = []
      · cases hend : s.ended with
        | true =>
            exact ⟨.poll, { s with returned := some s.data }, by
              simp only [step, hret, hfr, hend, Option.isSome_none, Bool.false_eq_true, if_false,
                if_true]⟩
        | false => exact ⟨.endStream, { s with ended := true }, by simp only [step, hsend, hend,
            and_self, if_true]⟩
      -- Nothing to read and bytes to send: the windows must be open.
      · have hpos : 0 < s.toSend.length := List.length_pos_iff.mpr hsend
        have hwin : ¬ (s.streamWindow = 0 ∨ s.connWindow = 0) := fun hz =>
          hstall ⟨hsend, hfr, hz⟩
        refine ⟨.data 1, _, if_pos ⟨Nat.one_pos, hpos, ?_, ?_, by decide⟩⟩ <;> omega

/-- A stream about to exceed its smaller window can be driven into a stall, by
    sending what the window allows one byte at a time and reading each byte. -/
theorem exists_stalled_run : ∀ (m : Nat) (s : BodyStream), s.frames = [] → s.returned = none →
    min s.streamWindow s.connWindow = m → m < s.toSend.length →
    ∃ as t, run step s as = some t ∧ Stalled t := by
  -- On what is left of the smaller window.
  intro m
  induction m with
  | zero =>
      intro s hfr _ hmin hlt
      exact ⟨[], s, rfl, List.length_pos_iff.mp hlt, hfr, by omega⟩
  | succ m ih =>
      intro s hfr hret hmin hlt
      have hdata : step s (.data 1) = some { s with
          toSend := s.toSend.drop 1
          streamWindow := s.streamWindow - 1
          connWindow := s.connWindow - 1
          frames := s.frames ++ [s.toSend.take 1] } :=
        if_pos ⟨Nat.one_pos, by omega, by omega, by omega, by decide⟩
      have hpoll : step { s with
          toSend := s.toSend.drop 1
          streamWindow := s.streamWindow - 1
          connWindow := s.connWindow - 1
          frames := s.frames ++ [s.toSend.take 1] } .poll = some { s with
            toSend := s.toSend.drop 1
            streamWindow := s.streamWindow - 1
            connWindow := s.connWindow - 1
            frames := []
            data := s.data ++ s.toSend.take 1 } := by
        simp only [step, hfr, hret, Option.isSome_none, Bool.false_eq_true, if_false,
          List.nil_append]
      rcases ih { s with
          toSend := s.toSend.drop 1
          streamWindow := s.streamWindow - 1
          connWindow := s.connWindow - 1
          frames := []
          data := s.data ++ s.toSend.take 1 } rfl hret (by simp only; omega)
          (by rw [List.length_drop]; omega) with ⟨as, t, hrun, hstall⟩
      refine ⟨.data 1 :: .poll :: as, t, ?_, hstall⟩
      rw [run_cons, hdata, Option.bind_some, run_cons, hpoll, Option.bind_some, hrun]

/-- The loop always returns the whole body: no reachable state is stalled, a
    state that cannot move has returned the body, and no run goes on forever. -/
structure BytesComplete (s₀ : BodyStream) (body : Bytes) : Prop where
  neverStalls : ∀ s, Reachable step s₀ s → ¬ Stalled s
  returns : ∀ s, Reachable step s₀ s → (∀ a, step s a = none) → s.returned = some body
  finite : ∃ bound, ∀ as t, run step s₀ as = some t → as.length ≤ bound

/-- The body is always returned whole exactly if both windows cover it when the
    response begins. -/
theorem bytes_complete_iff (settings : SettingsFrame) (connWindow : Nat) (body : Bytes) :
    BytesComplete (start settings connWindow body) body ↔
      body.length ≤ settings.initialWindowSize.toNat ∧ body.length ≤ connWindow := by
  constructor
  -- A window that does not cover the body can be used up first.
  · intro hc
    by_contra hcover
    have hlt : min settings.initialWindowSize.toNat connWindow < body.length := by omega
    rcases exists_stalled_run _ (start settings connWindow body) rfl rfl rfl hlt with
      ⟨as, t, hrun, hstall⟩
    exact hc.neverStalls t ⟨as, hrun⟩ hstall
  -- Windows that cover the body are never used up: nothing else is sent on them.
  · rintro ⟨hstream, hconn⟩
    have hnever : ∀ s, Reachable step (start settings connWindow body) s → ¬ Stalled s := by
      intro s hreach hstall
      rcases reachable_refines hreach with ⟨l, hr, _, hg⟩
      refine Credit.not_stalled_of_covered (fun w => ?_) (stalled_ledger hr hstall)
      rw [hg, hr.total]
      cases w
      · exact hstream
      · exact hconn
    refine ⟨hnever, ?_, (start settings connWindow body).remaining, ?_⟩
    · intro s hreach hdead
      rcases reachable_refines hreach with ⟨l, hr, _, _⟩
      cases hret : s.returned with
      | some r => rw [hr.result r hret]
      | none =>
          rcases progress hret (hnever s hreach) with ⟨a, s', hs⟩
          rw [hdead a] at hs
          exact absurd hs (by simp only [reduceCtorEq, not_false_eq_true])
    · intro as t hrun
      have hle := run_length_le hrun
      omega

/-- One byte more than the default profile's stream window is not always
    returned, whatever the connection window. -/
theorem bytes_stalls :
    ¬ BytesComplete (start Chrome148.baseH2.settings
        Chrome148.baseH2.initialConnectionWindowSize.toNat (List.replicate 6291457 0))
      (List.replicate 6291457 0) := by
  intro hc
  have hlt : min (Chrome148.baseH2.settings.initialWindowSize.toNat)
      Chrome148.baseH2.initialConnectionWindowSize.toNat <
        (List.replicate 6291457 (0 : UInt8)).length := by
    rw [List.length_replicate]
    decide
  rcases exists_stalled_run _ (start Chrome148.baseH2.settings
      Chrome148.baseH2.initialConnectionWindowSize.toNat (List.replicate 6291457 0)) rfl rfl rfl hlt
    with ⟨as, t, hrun, hstall⟩
  exact hc.neverStalls t ⟨as, hrun⟩ hstall

end BodyStream

end Quik
