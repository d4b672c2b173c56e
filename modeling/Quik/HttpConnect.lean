import Quik.Tunnel

/-!
# The Reply to a CONNECT

The read loop of `dial_http_proxy` decides on the text of everything read so
far, and reads as much as its buffer still holds. What it answers does not
depend on how the stream is cut: after at most 4097 reads it has the first
header block, and its first line, or there is no such block in the first 4096
bytes (`dialHttpProxy_verdict`). The text is a lossy one, but the test is for
ASCII, and so it might as well be made on the bytes.

What is left on the stream does depend on it. The loop stops behind whatever
the read that completed the block brought along, and the bytes behind the block
belong to the tunnel. They are kept exactly if some read ends where the block
does, or the buffer or the stream ends there (`dialHttpProxy_keeps_iff`). The
SOCKS5 handshake next to it reads no more than the lengths it knows.

## Main definitions

* `EndsAt`, `HeaderEnd`: Where a header block ends, and the first one.
* `Succeeds`: The stream begins with a success.
* `KeepsTunnel`: Nothing behind the reply is lost.
* `CutAtReply`: The reads stop where the reply does.

## Theorems

* `connectVerdict_eq_none`, `connectVerdict_eq_ok`: The verdict, on bytes.
* `connectLoop_turn`: One turn of the loop.
* `connectLoop_isSome`, `connectLoop_ok`, `connectLoop_error`: The whole loop.
* `dialHttpProxy_verdict`: The answer, whatever the cuts.
* `dialHttpProxy_keeps_iff`: When the tunnel's bytes survive.
-/

namespace Quik

open Stream' (Seq)
open Source (Filled boundary)

/-- The empty line behind a header block. -/
def terminator : Bytes := [13, 10, 13, 10]

def status11 : Bytes := utf8 "HTTP/1.1 200"

def status10 : Bytes := utf8 "HTTP/1.0 200"

theorem terminator_not_infix_nil : ¬ terminator <:+: [] := by decide

/-- A header block ends behind the first `p` bytes. -/
def EndsAt (s : Seq UInt8) (p : Nat) : Prop :=
  ∃ head, s.take p = head ++ terminator ∧ head.length + 4 = p

/-- The first header block ends behind the first `p` bytes. -/
structure HeaderEnd (s : Seq UInt8) (p : Nat) : Prop where
  ends : EndsAt s p
  first : ∀ q, EndsAt s q → p ≤ q

/-- The stream begins as the reply of a proxy that opened the tunnel does. -/
def Succeeds (s : Seq UInt8) : Prop :=
  s.take 12 = status11 ∨ s.take 12 = status10

/-- A block ends within the first `n` bytes if they contain an empty line. -/
theorem terminator_infix_take {s : Seq UInt8} {n : Nat} :
    terminator <:+: s.take n ↔ ∃ p, p ≤ n ∧ EndsAt s p := by
  constructor
  · rintro ⟨head, rest, heq⟩
    have hlen := congrArg List.length heq
    rw [List.length_append, List.length_append] at hlen
    have hle : head.length + 4 ≤ n := by
      have htake : (s.take n).length ≤ n := Seq.length_take_le
      have hfour : terminator.length = 4 := rfl
      omega
    refine ⟨head.length + 4, hle, head, ?_, rfl⟩
    have hcut := Seq.take_take s (head.length + 4) n
    rw [Nat.min_eq_left hle] at hcut
    rw [← hcut, ← heq]
    exact List.take_left' (by rw [List.length_append]; rfl)
  · rintro ⟨p, hp, head, heq, _⟩
    have hsplit := Seq.take_add s p (n - p)
    rw [Nat.add_sub_cancel' hp, heq] at hsplit
    exact ⟨head, (s.drop p).take (n - p), hsplit.symm⟩

theorem EndsAt.length {s : Seq UInt8} {p : Nat} (h : EndsAt s p) : (s.take p).length = p := by
  rcases h with ⟨head, heq, hp⟩
  rw [heq, List.length_append, ← hp]
  rfl

/-- Whether the lossy text of some bytes contains an ASCII pattern is a
    question about the bytes. -/
theorem containsStr_lossy {pattern : String} {p : Bytes} (hpat : pattern.toList = p.map asciiChar)
    (hp : ∀ x ∈ p, x < 0x80) (hne : p ≠ []) (bs : Bytes) :
    containsStr (fromUtf8Lossy bs) pattern = true ↔ p <:+: bs := by
  rw [containsStr, decide_eq_true_eq, fromUtf8Lossy, String.toList_ofList, hpat]
  exact (blur_lossyChars (le_refl bs.length)).infix_iff hp hne

/-- So is whether it begins with one. -/
theorem startsWithStr_lossy {pattern : String} {p : Bytes}
    (hpat : pattern.toList = p.map asciiChar) (hp : ∀ x ∈ p, x < 0x80) (bs : Bytes) :
    startsWithStr (fromUtf8Lossy bs) pattern = true ↔ p <+: bs := by
  rw [startsWithStr, decide_eq_true_eq, fromUtf8Lossy, String.toList_ofList, hpat]
  exact (blur_lossyChars (le_refl bs.length)).prefix_iff hp

theorem contains_terminator (bs : Bytes) :
    containsStr (fromUtf8Lossy bs) "\r\n\r\n" = true ↔ terminator <:+: bs :=
  containsStr_lossy (by decide) (by decide +kernel) (by decide) bs

theorem starts_status (bs : Bytes) :
    (startsWithStr (fromUtf8Lossy bs) "HTTP/1.1 200" ||
      startsWithStr (fromUtf8Lossy bs) "HTTP/1.0 200") = true ↔
    status11 <+: bs ∨ status10 <+: bs := by
  rw [Bool.or_eq_true, startsWithStr_lossy (p := status11) (by decide +kernel) (by decide +kernel),
    startsWithStr_lossy (p := status10) (by decide +kernel) (by decide +kernel)]

theorem connectVerdict_eq_none {buf : Bytes} :
    connectVerdict buf = none ↔ ¬ terminator <:+: buf := by
  unfold connectVerdict
  rw [← contains_terminator]
  by_cases h : containsStr (fromUtf8Lossy buf) "\r\n\r\n" = true
  · simp only [h, if_true, not_true_eq_false, iff_false]
    split <;> simp only [reduceCtorEq, not_false_eq_true]
  · simp only [h, Bool.false_eq_true, if_false, not_false_eq_true]

theorem connectVerdict_eq_ok {buf : Bytes} : connectVerdict buf = some (.ok ()) ↔
    terminator <:+: buf ∧ (status11 <+: buf ∨ status10 <+: buf) := by
  unfold connectVerdict
  rw [← contains_terminator, ← starts_status]
  by_cases h : containsStr (fromUtf8Lossy buf) "\r\n\r\n" = true
  · simp only [h, if_true, true_and]
    split
    · rename_i hs
      simp only [hs]
    · rename_i hs
      simp only [hs, Option.some.injEq, reduceCtorEq, Bool.false_eq_true]
  · simp only [h, Bool.false_eq_true, if_false, reduceCtorEq, false_and]

/-- A verdict of success on the first `n` bytes is one on the stream. -/
theorem starts_take {s : Seq UInt8} {n : Nat} (h : terminator <:+: s.take n) :
    (status11 <+: s.take n ∨ status10 <+: s.take n) ↔ Succeeds s := by
  -- Neither status line contains the empty line, so that it ends before that does.
  have hstatus : ∀ {l : Bytes}, l.length = 12 → ¬ terminator <:+: l →
      (l <+: s.take n ↔ s.take 12 = l) := by
    intro l hlen hl
    have hn : 12 ≤ n ∨ n < 12 := Nat.lt_or_ge n 12 |>.symm
    constructor
    · rintro ⟨rest, hrest⟩
      have hlong : 12 ≤ n := by
        have hle : (s.take n).length ≤ n := Seq.length_take_le
        rw [← hrest, List.length_append, hlen] at hle
        omega
      have hcut := Seq.take_take s 12 n
      rw [Nat.min_eq_left hlong] at hcut
      rw [← hcut, ← hrest]
      exact List.take_left' hlen
    · intro htake
      have hlong : 12 ≤ n := by
        refine hn.resolve_right (fun hlt => hl ?_)
        have hcut := Seq.take_take s n 12
        rw [Nat.min_eq_left (le_of_lt hlt), htake] at hcut
        exact (hcut ▸ h).trans (List.take_prefix n l).isInfix
      have hsplit := Seq.take_add s 12 (n - 12)
      rw [Nat.add_sub_cancel' hlong, htake] at hsplit
      exact ⟨_, hsplit.symm⟩
  rw [Succeeds, hstatus (by decide +kernel) (by decide +kernel),
    hstatus (by decide +kernel) (by decide +kernel)]

/-- One turn of the loop: the buffer grows and is judged, or there is nothing
    more to read and the dial fails. -/
theorem connectLoop_turn (turns : Nat) {k : Nat} {buf : Bytes} {stream : TcpStream}
    {s₀ : Source UInt8 IoError} (h : Filled 4096 k s₀ stream.source buf) :
    (∃ chunk stream', Filled 4096 (k + 1) s₀ stream'.source (buf ++ chunk) ∧
      connectLoop (turns + 1) buf stream = match connectVerdict (buf ++ chunk) with
        | some (.ok ()) => some (.ok stream')
        | some (.error e) => some (.error e (some stream'))
        | none => connectLoop turns (buf ++ chunk) stream') ∨
    (s₀.unread.take 4096 = buf ∧
      ∃ e, connectLoop (turns + 1) buf stream = some (.error e (some stream))) := by
  rcases h.read with ⟨chunk, hne, hread, hfill⟩ | ⟨hover, hsame, hok | ⟨e, herr⟩⟩
  · refine Or.inl ⟨chunk, { stream with source := stream.source.advance chunk.length }, hfill, ?_⟩
    rw [connectLoop, TcpStream.read, hread]
    cases chunk with
    | nil => exact absurd rfl hne
    | cons b chunk => rfl
  · refine Or.inr ⟨hover, connectAborted, ?_⟩
    rw [connectLoop, TcpStream.read,
      show stream.source.read (4096 - buf.length) = (.ok [], stream.source) from
        Prod.ext hok hsame]
  · refine Or.inr ⟨hover, .connect e, ?_⟩
    rw [connectLoop, TcpStream.read,
      show stream.source.read (4096 - buf.length) = (.error e, stream.source) from
        Prod.ext herr hsame]

/-- Each read brings a byte, so that the loop never outlasts its buffer by more
    than the one read that finds no room. -/
theorem connectLoop_isSome (turns : Nat) {k : Nat} {buf : Bytes} {stream : TcpStream}
    {s₀ : Source UInt8 IoError} (h : Filled 4096 k s₀ stream.source buf)
    (hturns : 4096 < k + turns) : (connectLoop turns buf stream).isSome = true := by
  induction turns generalizing k buf stream with
  | zero =>
      have hk := h.reads
      have hcap := h.length_le
      omega
  | succ turns ih =>
      rcases connectLoop_turn turns h with ⟨chunk, stream', hfill, hloop⟩ | ⟨_, e, hloop⟩
      · rw [hloop]
        cases connectVerdict (buf ++ chunk) with
        | none => exact ih hfill (by omega)
        | some r => cases r <;> rfl
      · rw [hloop]
        rfl

/-- Where the loop succeeds: the read before left the block incomplete, and
    with this one it is complete and a success. -/
theorem connectLoop_ok {turns k : Nat} {buf : Bytes} {stream stream' : TcpStream}
    {s₀ : Source UInt8 IoError} (h : Filled 4096 k s₀ stream.source buf)
    (hbuf : ¬ terminator <:+: buf) (hok : connectLoop turns buf stream = some (.ok stream')) :
    Succeeds s₀.unread ∧ ∃ j buf', Filled 4096 (j + 1) s₀ stream'.source buf' ∧
      terminator <:+: buf' ∧ ¬ terminator <:+: s₀.unread.take (min (boundary s₀.cuts j) 4096) := by
  induction turns generalizing k buf stream with
  | zero => exact absurd hok (by simp only [connectLoop, reduceCtorEq, not_false_eq_true])
  | succ turns ih =>
      rcases connectLoop_turn turns h with ⟨chunk, next, hfill, hloop⟩ | ⟨_, e, hloop⟩
      · rw [hloop] at hok
        cases hv : connectVerdict (buf ++ chunk) with
        -- No verdict yet, and a longer buffer for the turns that are left.
        | none =>
            rw [hv] at hok
            exact ih hfill (connectVerdict_eq_none.mp hv) hok
        | some r =>
            cases r with
            | error e =>
                simp only [hv, Option.some.injEq, reduceCtorEq] at hok
            | ok u =>
                simp only [hv, Option.some.injEq, TcpDial.ok.injEq] at hok
                rcases connectVerdict_eq_ok.mp hv with ⟨hterm, hstart⟩
                have hholds := hfill.holds
                refine ⟨(starts_take (hholds ▸ hterm)).mp (hholds ▸ hstart), k, buf ++ chunk,
                  hok ▸ hfill, hterm, ?_⟩
                rw [← h.holds]
                exact hbuf
      · rw [hloop] at hok
        exact absurd hok (by simp only [Option.some.injEq, reduceCtorEq, not_false_eq_true])

/-- Where it fails, the first 4096 bytes hold no complete block, or the stream
    begins with something else than a success. -/
theorem connectLoop_error {turns k : Nat} {buf : Bytes} {stream : TcpStream} {e : Error}
    {dropped : Option TcpStream} {s₀ : Source UInt8 IoError}
    (h : Filled 4096 k s₀ stream.source buf) (hbuf : ¬ terminator <:+: buf)
    (herr : connectLoop turns buf stream = some (.error e dropped)) :
    ¬ (terminator <:+: s₀.unread.take 4096 ∧ Succeeds s₀.unread) := by
  induction turns generalizing k buf stream with
  | zero => exact absurd herr (by simp only [connectLoop, reduceCtorEq, not_false_eq_true])
  | succ turns ih =>
      rcases connectLoop_turn turns h with ⟨chunk, next, hfill, hloop⟩ | ⟨hover, _, _⟩
      · rw [hloop] at herr
        cases hv : connectVerdict (buf ++ chunk) with
        | none =>
            rw [hv] at herr
            exact ih hfill (connectVerdict_eq_none.mp hv) herr
        | some r =>
            -- A verdict was given, so the block is complete in this buffer.
            have hterm : terminator <:+: buf ++ chunk := by
              by_contra hno
              rw [connectVerdict_eq_none.mpr hno] at hv
              exact absurd hv (by simp only [reduceCtorEq, not_false_eq_true])
            cases r with
            | ok u => simp only [hv, Option.some.injEq, reduceCtorEq] at herr
            | error e' =>
                rintro ⟨_, hsucc⟩
                have hholds := hfill.holds
                have hstart := (starts_take (hholds ▸ hterm)).mpr hsucc
                rw [← hholds] at hstart
                rw [connectVerdict_eq_ok.mpr ⟨hterm, hstart⟩] at hv
                exact absurd hv (by simp only [Option.some.injEq, reduceCtorEq, not_false_eq_true])
      · exact fun hc => hbuf (hover ▸ hc.1)

/-- With a connection and a request that was written, the dial is the loop, and
    begins with an empty buffer. -/
theorem dialHttpProxy_eq_loop {net : Network} {proxyAddr : String} {stream : TcpStream}
    (hconn : net.connect (.proxy proxyAddr) = .ok stream)
    (hwrite : stream.writeFailures.head = none) (turns : Nat) (targetHost : String)
    (targetPort : UInt16) : ∃ sent : TcpStream, Filled 4096 0 stream.source sent.source [] ∧
      dialHttpProxy turns net proxyAddr targetHost targetPort = connectLoop turns [] sent := by
  refine ⟨{ stream with
    written := stream.written ++ [utf8 (connectRequest targetHost targetPort)],
    writeFailures := stream.writeFailures.tail }, Filled.start 4096 stream.source, ?_⟩
  simp only [dialHttpProxy, Network.dialWith, hconn, TcpStream.writeAll, hwrite]

/-- A dial that succeeds had a connection and wrote its request. -/
theorem dialHttpProxy_ok {net : Network} {proxyAddr : String} {stream stream' : TcpStream}
    (hconn : net.connect (.proxy proxyAddr) = .ok stream) {turns : Nat} {targetHost : String}
    {targetPort : UInt16}
    (hok : dialHttpProxy turns net proxyAddr targetHost targetPort = some (.ok stream')) :
    stream.writeFailures.head = none := by
  cases hwrite : stream.writeFailures.head with
  | none => rfl
  | some e =>
      simp only [dialHttpProxy, Network.dialWith, hconn, TcpStream.writeAll, hwrite,
        Option.some.injEq, reduceCtorEq] at hok

/-- Some block ends within the first `n` bytes if the first one does. -/
theorem exists_headerEnd {s : Seq UInt8} {n : Nat} :
    terminator <:+: s.take n ↔ ∃ p, p ≤ n ∧ HeaderEnd s p := by
  rw [terminator_infix_take]
  constructor
  · rintro ⟨q, hq, hends⟩
    classical
    have hex : ∃ p, EndsAt s p := ⟨q, hends⟩
    exact ⟨Nat.find hex, le_trans (Nat.find_min' hex hends) hq, Nat.find_spec hex,
      fun r hr => Nat.find_min' hex hr⟩
  · rintro ⟨p, hp, hend⟩
    exact ⟨p, hp, hend.ends⟩

/-- The verdict on a CONNECT is reached after at most 4097 reads and does not
    depend on how the stream is cut, nor on what is in it besides the end of
    the first block and the first twelve bytes. -/
theorem dialHttpProxy_verdict {net : Network} {proxyAddr : String} {stream : TcpStream}
    (hconn : net.connect (.proxy proxyAddr) = .ok stream)
    (hwrite : stream.writeFailures.head = none) {turns : Nat} (hturns : 4097 ≤ turns)
    (targetHost : String) (targetPort : UInt16) :
    ∃ outcome, dialHttpProxy turns net proxyAddr targetHost targetPort = some outcome ∧
      ((∃ later, outcome = .ok later) ↔
        (∃ p, p ≤ 4096 ∧ HeaderEnd stream.unread p) ∧ Succeeds stream.unread) ∧
      ((∃ e dropped, outcome = .error e dropped) ↔
        ¬ ((∃ p, p ≤ 4096 ∧ HeaderEnd stream.unread p) ∧ Succeeds stream.unread)) := by
  rcases dialHttpProxy_eq_loop hconn hwrite turns targetHost targetPort with ⟨sent, hstart, heq⟩
  rcases Option.isSome_iff_exists.mp (connectLoop_isSome turns hstart (by omega))
    with ⟨outcome, hloop⟩
  rw [← exists_headerEnd]
  refine ⟨outcome, heq.trans hloop, ?_⟩
  -- The loop has ended; which way it did is what the stream decides.
  cases outcome with
  | ok later =>
      rcases connectLoop_ok hstart terminator_not_infix_nil hloop with
        ⟨hsucc, j, buf, hfill, hterm, _⟩
      have hterm' : terminator <:+: stream.source.unread.take 4096 := by
        refine terminator_infix_take.mpr ?_
        rcases terminator_infix_take.mp (hfill.holds ▸ hterm) with ⟨p, hp, hends⟩
        exact ⟨p, le_trans hp (min_le_right _ _), hends⟩
      exact ⟨⟨fun _ => ⟨hterm', hsucc⟩, fun _ => ⟨later, rfl⟩⟩,
        fun ⟨e, d, he⟩ => absurd he (by simp only [reduceCtorEq, not_false_eq_true]),
        fun hno => absurd ⟨hterm', hsucc⟩ hno⟩
  | error e dropped =>
      have hno := connectLoop_error hstart terminator_not_infix_nil hloop
      exact ⟨⟨fun ⟨l, hl⟩ => absurd hl (by simp only [reduceCtorEq, not_false_eq_true]),
        fun hyes => absurd hyes hno⟩, fun _ => hno, fun _ => ⟨e, dropped, rfl⟩⟩

/-- A proxy that opens the tunnel, with the first byte of a TLS record behind
    its reply, all of which has arrived when the dial reads. -/
def eagerProxy : TcpStream where
  source :=
    { sent := Seq.ofList (utf8 "HTTP/1.1 200 OK\r\n\r\n" ++ [22]), cuts := Stream'.const 99 }
  writeFailures := Stream'.const none

theorem eagerProxy_fresh : eagerProxy.written = [] := rfl

theorem eagerProxy_headerEnd : HeaderEnd eagerProxy.unread 19 := by
  have hbefore : ∀ q < 19, (eagerProxy.unread.take q).drop (q - 4) ≠ terminator := by
    decide +kernel
  refine ⟨⟨utf8 "HTTP/1.1 200 OK", by decide +kernel, rfl⟩, ?_⟩
  rintro q ⟨head, heq, hq⟩
  by_contra hlt
  refine hbefore q (not_le.mp hlt) ?_
  rw [heq, ← hq, Nat.add_sub_cancel]
  exact List.drop_left' rfl

theorem eagerProxy_succeeds : Succeeds eagerProxy.unread :=
  Or.inl (by decide +kernel)

theorem dialHttpProxy_verdict_eager : ∃ later,
    dialHttpProxy 4097 (Network.only eagerProxy eagerProxy_fresh) "127.0.0.1:8080" "a.test" 443 =
      some (.ok later) := by
  have hconn : (Network.only eagerProxy eagerProxy_fresh).connect (.proxy "127.0.0.1:8080") =
      .ok eagerProxy := rfl
  rcases dialHttpProxy_verdict hconn rfl (le_refl 4097) "a.test" 443 with ⟨outcome, heq, hok, _⟩
  rcases hok.mpr ⟨⟨19, by decide, eagerProxy_headerEnd⟩, eagerProxy_succeeds⟩ with ⟨later, rfl⟩
  exact ⟨later, heq⟩

/-- A dial that reads no further than the proxy's reply: whatever follows the
    first header block, if that is a success, is left for the tunnel. -/
def KeepsTunnel (net : Network) (proxyAddr targetHost : String) (targetPort : UInt16) : Prop :=
  ∀ turns stream stream' p, net.connect (.proxy proxyAddr) = .ok stream →
    HeaderEnd stream.unread p → Succeeds stream.unread →
    dialHttpProxy turns net proxyAddr targetHost targetPort = some (.ok stream') →
    stream.Consumed p stream'

/-- The reply is not followed by anything within the buffer, or one of the
    reads ends where it does. -/
def CutAtReply (stream : TcpStream) : Prop :=
  ∀ p, HeaderEnd stream.unread p → Succeeds stream.unread → p < 4096 →
    stream.unread.drop p ≠ Seq.nil → ∃ k, boundary stream.source.cuts k = p

theorem length_take_of_drop_ne_nil {s : Seq UInt8} {p n : Nat} (h : s.drop p ≠ Seq.nil)
    (hn : p < n) (hp : (s.take p).length = p) : p < (s.take n).length := by
  have hsplit := congrArg List.length (Seq.take_add s p (n - p))
  rw [Nat.add_sub_cancel' (le_of_lt hn), List.length_append, hp] at hsplit
  cases hs : s.drop p with
  | nil => exact absurd hs h
  | cons x rest =>
      rw [hs, show n - p = n - p - 1 + 1 by omega, Seq.take_succ_cons, List.length_cons] at hsplit
      omega

theorem length_take_of_drop_eq_nil {s : Seq UInt8} {p : Nat} (h : s.drop p = Seq.nil) (n : Nat) :
    (s.take n).length ≤ p := by
  rcases Nat.lt_or_ge n p with hlt | hge
  · exact le_trans Seq.length_take_le (le_of_lt hlt)
  · rw [← Nat.add_sub_cancel' hge, Seq.take_add, h, Seq.take_nil, List.append_nil]
    exact Seq.length_take_le

/-- If nothing of the tunnel is lost, the last read of the loop ended with the
    reply. -/
theorem cutAtReply_of_keeps {net : Network} {proxyAddr targetHost : String} {targetPort : UInt16}
    (hkeeps : KeepsTunnel net proxyAddr targetHost targetPort) {stream : TcpStream}
    (hconn : net.connect (.proxy proxyAddr) = .ok stream)
    (hwrite : stream.writeFailures.head = none) : CutAtReply stream := by
  intro p hend hsucc hp hmore
  rcases dialHttpProxy_eq_loop hconn hwrite 4097 targetHost targetPort with ⟨sent, hstart, heq⟩
  rcases Option.isSome_iff_exists.mp (connectLoop_isSome 4097 hstart (by omega))
    with ⟨outcome, hloop⟩
  cases outcome with
  | error e dropped =>
      exact absurd ⟨exists_headerEnd.mpr ⟨p, le_of_lt hp, hend⟩, hsucc⟩
        (connectLoop_error hstart terminator_not_infix_nil hloop)
  | ok stream' =>
      have hread := (hkeeps 4097 stream stream' p hconn hend hsucc (heq.trans hloop)).2
      rcases connectLoop_ok hstart terminator_not_infix_nil hloop with ⟨_, j, buf, hfill, _, _⟩
      have hlen : buf.length = p := by
        have hpos := hfill.position
        omega
      refine ⟨j + 1, ?_⟩
      -- All that the reads allowed was there, so that the buffer ends where they do.
      have hle : p ≤ min (boundary stream.source.cuts (j + 1)) 4096 := by
        rw [← hlen, hfill.holds]
        exact Seq.length_take_le
      have hge : ¬ p < min (boundary stream.source.cuts (j + 1)) 4096 := by
        intro hlt
        have hlong := length_take_of_drop_ne_nil hmore hlt hend.ends.length
        have hholds := congrArg List.length hfill.holds
        rw [TcpStream.unread] at hlong
        omega
      omega

/-- The buffer of a loop that succeeds holds the whole reply. -/
theorem headerEnd_le_length {cap k p : Nat} {s₀ s : Source UInt8 IoError} {buf : Bytes}
    (hfill : Filled cap k s₀ s buf) (hterm : terminator <:+: buf) (hend : HeaderEnd s₀.unread p) :
    p ≤ buf.length := by
  rcases terminator_infix_take.mp (hfill.holds ▸ hterm) with ⟨q, hq, hends⟩
  have hlen := congrArg List.length (Seq.take_take s₀.unread q (min (boundary s₀.cuts k) cap))
  rw [Nat.min_eq_left hq, List.length_take, ← hfill.holds, EndsAt.length hends] at hlen
  have hfirst := hend.first q hends
  omega

/-- It holds no more if the reads stop where the reply does: the read before the
    last ended in front of the cut there. -/
theorem length_le_headerEnd {j p : Nat} {stream : TcpStream} {s : Source UInt8 IoError}
    {buf : Bytes} (hcut : CutAtReply stream) (hend : HeaderEnd stream.unread p)
    (hsucc : Succeeds stream.unread) (hfill : Filled 4096 (j + 1) stream.source s buf)
    (hprev : ¬ terminator <:+: stream.unread.take (min (boundary stream.source.cuts j) 4096)) :
    buf.length ≤ p := by
  by_cases hroom : p < 4096
  · by_cases hmore : stream.unread.drop p = Seq.nil
    · rw [hfill.holds]
      exact length_take_of_drop_eq_nil hmore _
    · rcases hcut p hend hsucc hroom hmore with ⟨k, hk⟩
      have hbefore : ¬ p ≤ min (boundary stream.source.cuts j) 4096 :=
        fun hp => hprev (exists_headerEnd.mpr ⟨p, hp, hend⟩)
      have hjk : j < k := by
        refine (Source.boundary_strictMono stream.source.cuts).lt_iff_lt.mp ?_
        omega
      have hlast := (Source.boundary_strictMono stream.source.cuts).monotone
        (Nat.succ_le_of_lt hjk)
      calc buf.length ≤ min (boundary stream.source.cuts (j + 1)) 4096 := by
            rw [hfill.holds]
            exact Seq.length_take_le
        _ ≤ boundary stream.source.cuts k := le_trans (min_le_left _ _) hlast
        _ = p := hk
  -- A reply that fills the buffer leaves no room for more.
  · exact le_trans hfill.length_le (not_lt.mp hroom)

/-- The bytes of the tunnel survive the handshake exactly if the network cuts
    the stream where the reply ends. -/
theorem dialHttpProxy_keeps_iff (net : Network) (proxyAddr targetHost : String)
    (targetPort : UInt16) : KeepsTunnel net proxyAddr targetHost targetPort ↔
      ∀ stream, net.connect (.proxy proxyAddr) = .ok stream →
        stream.writeFailures.head = none → CutAtReply stream := by
  constructor
  · exact fun hkeeps stream hconn hwrite => cutAtReply_of_keeps hkeeps hconn hwrite
  · intro hcut turns stream stream' p hconn hend hsucc hok
    have hwrite := dialHttpProxy_ok hconn hok
    rcases dialHttpProxy_eq_loop hconn hwrite turns targetHost targetPort with ⟨sent, hstart, heq⟩
    rcases connectLoop_ok hstart terminator_not_infix_nil (heq.symm.trans hok) with
      ⟨_, j, buf, hfill, hterm, hprev⟩
    have hle := headerEnd_le_length hfill hterm hend
    have hge := length_le_headerEnd (hcut stream hconn hwrite) hend hsucc hfill hprev
    exact ⟨hfill.sent, by rw [hfill.position, Nat.le_antisymm hge hle]⟩

/-- The record's first byte is gone when the dial returns. -/
theorem eagerProxy_loses :
    ¬ KeepsTunnel (Network.only eagerProxy eagerProxy_fresh) "127.0.0.1:8080" "a.test" 443 := by
  intro h
  have hdial : dialHttpProxy 1 (Network.only eagerProxy eagerProxy_fresh) "127.0.0.1:8080"
      "a.test" 443 = some (.ok { eagerProxy with
        source := eagerProxy.source.advance 20
        written := [utf8 (connectRequest "a.test" 443)]
        writeFailures := eagerProxy.writeFailures.tail }) := rfl
  have hread := h 1 eagerProxy _ 19 rfl eagerProxy_headerEnd eagerProxy_succeeds hdial
  exact absurd hread.2 (by decide)

end Quik
