import Quik.ContentCoding
import Quik.Correlation
import Quik.Library.StrictText
import Quik.ResponseHead

/-!
# What the Caller Reads

From the message a server sends to the text the caller is given. `Response::text`
is `bytes` and then the strict decoding of UTF-8, so it returns a text exactly if
the bytes are its encoding. It never changes what was sent, and where it refuses,
the error says how far the bytes are text (`text_exact`).

Which transport a call goes over is decided by what the client has learned, and
the caller cannot tell. For a message with nothing outside its final section it
does not matter: whatever else happens on the client, whatever is dropped, and
however the two transports cut the body, the caller reads one status, the same
headers, the same bytes and the same text. A text that was sent in no coding, or
in the one of gzip, br and zstd that `bytes` looks for, is read as it was
(`reads_alike`).

## Main definitions

* `fromUtf8`, `Utf8Error.text`: `String::from_utf8` and how its error is written.
* `Response.text`, `Response.json`: The two readings on top of `bytes`.
* `BreaksAt`: How far bytes are text.

## Theorems

* `fromUtf8_eq_ok_iff`, `breaksAt_of_error`: The decoding, both ways.
* `text_exact`: What `text` returns.
* `bytes_congr`: What the readings depend on.
* `reads_alike`: One message over either transport.
-/

namespace Quik

open Transition

variable {Jar : Type} {cl : Client Jar}

/-- `String::from_utf8`. -/
def fromUtf8 (bytes : Bytes) : Except Utf8Error String :=
  (strictChars bytes.length 0 bytes).map String.ofList

/-- How the error is written. -/
def Utf8Error.text (e : Utf8Error) : String :=
  match e.errorLen with
  | some n => "invalid utf-8 sequence of " ++ toString n ++ " bytes from index " ++
      toString e.validUpTo
  | none => "incomplete utf-8 byte sequence from index " ++ toString e.validUpTo

/-- `Response::text`. -/
def Response.text (codecs : Codecs) (recv : Nat → List (Except String Bytes)) (r : Response) :
    Except Error String :=
  match r.bytes codecs recv with
  | .error e => .error e
  | .ok bytes => (fromUtf8 bytes).mapError (fun e => .connect e.text)

/-- `Response::json`. The parser is the one of the type that is asked for. -/
def Response.json {T : Type} (parse : Bytes → Except String T) (codecs : Codecs)
    (recv : Nat → List (Except String Bytes)) (r : Response) : Except Error T :=
  match r.bytes codecs recv with
  | .error e => .error e
  | .ok bytes => (parse bytes).mapError .connect

/-- The bytes are no text, and begin with one of this length and with no longer
    one. -/
def BreaksAt (bytes : Bytes) (n : Nat) : Prop :=
  (∀ s, utf8 s ≠ bytes) ∧ ∃ s, utf8 s <+: bytes ∧ (utf8 s).length = n ∧
    ∀ s', utf8 s' <+: bytes → utf8 s' <+: utf8 s

theorem utf8_eq_encode (s : String) : utf8 s = encode s.toList :=
  utf8_eq s

/-- The decoding returns the text the bytes encode. -/
theorem fromUtf8_eq_ok_iff {bytes : Bytes} {s : String} :
    fromUtf8 bytes = .ok s ↔ bytes = utf8 s := by
  rw [utf8_eq_encode]
  constructor
  · intro h
    unfold fromUtf8 at h
    cases hchars : strictChars bytes.length 0 bytes with
    | error e =>
        rw [hchars] at h
        cases h
    | ok chars =>
        rw [hchars] at h
        cases h
        rw [String.toList_ofList, encode_of_strictChars (Nat.le_refl _) hchars]
  · intro h
    rw [fromUtf8, h, strictChars_encode _ _ (Nat.le_refl _)]
    show Except.ok (String.ofList s.toList) = .ok s
    rw [String.ofList_toList]

/-- What its error says. -/
theorem breaksAt_of_error {bytes : Bytes} {e : Utf8Error} (h : fromUtf8 bytes = .error e) :
    BreaksAt bytes e.validUpTo := by
  refine ⟨fun s hs => ?_, ?_⟩
  · rw [fromUtf8_eq_ok_iff.mpr hs.symm] at h
    cases h
  · unfold fromUtf8 at h
    cases hchars : strictChars bytes.length 0 bytes with
    | ok chars =>
        rw [hchars] at h
        cases h
    | error e' =>
        rw [hchars] at h
        cases h
        rcases strictChars_error hchars with ⟨cs, hprefix, hup, hlongest⟩
        refine ⟨String.ofList cs, ?_, ?_, fun s' hs' => ?_⟩
        · rwa [utf8_eq_encode, String.toList_ofList]
        · rw [utf8_eq_encode, String.toList_ofList, hup, Nat.zero_add]
        · rw [utf8_eq_encode, utf8_eq_encode, String.toList_ofList]
          exact hlongest s'.toList (utf8_eq_encode s' ▸ hs')

section Text

variable {codecs : Codecs} {recv : Nat → List (Except String Bytes)} {r : Response}

theorem text_of_error {e : Error} (h : r.bytes codecs recv = .error e) :
    r.text codecs recv = .error e := by
  rw [Response.text, h]

theorem text_of_text {bytes : Bytes} {s : String} (h : r.bytes codecs recv = .ok bytes)
    (hs : fromUtf8 bytes = .ok s) : r.text codecs recv = .ok s := by
  rw [Response.text, h]
  simp only [hs, Except.mapError]

theorem text_of_refused {bytes : Bytes} {e : Utf8Error} (h : r.bytes codecs recv = .ok bytes)
    (he : fromUtf8 bytes = .error e) : r.text codecs recv = .error (.connect e.text) := by
  rw [Response.text, h]
  simp only [he, Except.mapError]

end Text

/-- For every response, over either transport and with any coding: `text` returns
    a text exactly if `bytes` returns its encoding; and an error is the one of
    `bytes`, or tells where the bytes stop being text. -/
theorem text_exact (codecs : Codecs) (recv : Nat → List (Except String Bytes)) (r : Response) :
    (∀ s, r.text codecs recv = .ok s ↔ r.bytes codecs recv = .ok (utf8 s)) ∧
    (∀ e, r.text codecs recv = .error e → r.bytes codecs recv = .error e ∨
      ∃ bytes, ∃ err : Utf8Error, r.bytes codecs recv = .ok bytes ∧
        BreaksAt bytes err.validUpTo ∧ e = .connect err.text) := by
  constructor
  · intro s
    constructor
    · intro h
      cases hbytes : r.bytes codecs recv with
      | error e =>
          rw [text_of_error hbytes] at h
          cases h
      | ok bytes =>
          cases htext : fromUtf8 bytes with
          | error err =>
              rw [text_of_refused hbytes htext] at h
              cases h
          | ok s' =>
              rw [text_of_text hbytes htext, Except.ok.injEq] at h
              rw [fromUtf8_eq_ok_iff.mp htext, h]
    · exact fun h => text_of_text h (fromUtf8_eq_ok_iff.mpr rfl)
  · intro e h
    cases hbytes : r.bytes codecs recv with
    | error e' =>
        rw [text_of_error hbytes, Except.error.injEq] at h
        exact Or.inl (congrArg Except.error h)
    | ok bytes =>
        cases htext : fromUtf8 bytes with
        | ok s =>
            rw [text_of_text hbytes htext] at h
            cases h
        | error err =>
            rw [text_of_refused hbytes htext, Except.error.injEq] at h
            exact Or.inr ⟨bytes, err, rfl, breaksAt_of_error htext, h.symm⟩

/-- What the readings look at: the first line of Content-Encoding, and the body as
    it was collected. -/
theorem bytes_congr (codecs : Codecs) {recv recv' : Nat → List (Except String Bytes)}
    {r r' : Response} (hheaders : ∀ name, r.headers.getAll name = r'.headers.getAll name)
    (hbody : r.body.collect recv = r'.body.collect recv') :
    r.bytes codecs recv = r'.bytes codecs recv' ∧ r.text codecs recv = r'.text codecs recv' ∧
      ∀ (T : Type) (parse : Bytes → Except String T),
        r.json parse codecs recv = r'.json parse codecs recv' := by
  have hencoding : encodingText r.headers = encodingText r'.headers := by
    rw [encodingText, encodingText, HeaderMap.get, HeaderMap.get, hheaders]
  have hbytes : r.bytes codecs recv = r'.bytes codecs recv' := by
    unfold Response.bytes
    rw [hbody, hencoding]
  refine ⟨hbytes, ?_, fun T parse => ?_⟩
  · rw [Response.text, Response.text, hbytes]
  · rw [Response.json, Response.json, hbytes]

section Delivered

variable {altSvc : AltSvcCache} {jar : Jar} {as : List ClientAction} {s : State cl}
  (hrun : run stepOrDrop (State.fresh cl altSvc jar) as = some s)
  {t : Nat} {v : Vars cl.crates.url} {session : Handle}
include hrun

/-- A response that a hop takes from its session, whatever the other calls do and
    whatever is dropped: if the stream that was opened for the hop carried a message
    with nothing outside its final section, the caller reads from it what it would
    read if the same message had come over HTTP/2, in any chunks. And if the message
    has a text for its body, in no coding or in the one of gzip, br and zstd that is
    looked for, the caller reads that text. -/
theorem reads_alike {resp : Response}
    (hreply : sessionReply s session v.ticket = some (.ok resp)) {streamId : StreamId}
    {cmd : SendRequest} {m : Driver.Message} (hcmd : cmd.responseTx = v.ticket)
    (hm : Driver.transcript streamId (sessionTraces cl altSvc jar as session.id) =
      some (cmd, m.events ++ [.finished])) (hbare : m.Bare) (codecs : Codecs)
    {recv : Nat → List (Except String Bytes)} {stream : Nat} {chunks : List Bytes}
    (hrecv : recv stream = chunks.map .ok) (hchunks : chunks.flatten = Driver.dataOf m.events)
    (urlStr : String) :
    let h2 := h2Response urlStr (m.h2Head.1, m.h2Head.2, stream)
    Driver.SameHead resp h2 ∧ resp.bytes codecs recv = h2.bytes codecs recv ∧
      resp.text codecs recv = h2.text codecs recv ∧
      (∀ (T : Type) (parse : Bytes → Except String T),
        resp.json parse codecs recv = h2.json parse codecs recv) ∧
      ∀ text, codecs.Lawful →
        EncodedBy codecs (decoderOf (encodingText m.h2Head.2)).toList (utf8 text)
          (Driver.dataOf m.events) → resp.text codecs recv = .ok text := by
  intro h2
  have hc := correlated_run altSvc jar hrun
  rcases reply_of_stream hc hreply with ⟨streamId', cmd', events, hticket, htr, hresp⟩
  -- The stream of the reply is the one that carried the message.
  have hsame := hc.opened_unique (Driver.mem_of_transcript hm) (Driver.mem_of_transcript htr)
    (hticket.trans hcmd.symm)
  rw [hsame.1, hsame.2, hm, Option.some.injEq, Prod.mk.injEq] at htr
  have hevents : m.events = events := List.append_cancel_right htr.2
  rw [hsame.2, ← hevents] at hresp
  have hhead : Driver.SameHead resp h2 := by
    rw [hresp]
    exact (Driver.sameHead_message m cmd urlStr stream).mpr hbare
  have hh2 : h2.body.collect recv = .ok (Driver.dataOf m.events) :=
    (Delivers.http2 hrecv).collect.trans (congrArg Except.ok hchunks)
  have hh3 : resp.body.collect recv = .ok (Driver.dataOf m.events) := by
    rw [hresp, Driver.response, Driver.pendingOf_body, ResponseBody.collect]
  have hread := bytes_congr codecs hhead.2 (hh3.trans hh2.symm)
  refine ⟨hhead, hread.1, hread.2.1, hread.2.2, fun text hlaw hencoded => ?_⟩
  rw [hread.2.1]
  refine text_of_text ?_ (fromUtf8_eq_ok_iff.mpr rfl)
  rw [bytes_eq codecs recv h2 hh2]
  -- At most one coding is looked for, so there is no order to undo.
  have hdecode := decodeAll_encodedBy hlaw hencoded
  have hone : ∀ k? : Option Coding, k?.toList.reverse = k?.toList := by
    intro k?
    cases k? <;> rfl
  rw [hone] at hdecode
  rw [show h2.headers = m.h2Head.2 from rfl, hdecode, Except.mapError]

end Delivered

/-- A message whose body is a text of two characters, cut inside the second. -/
def greeting : Driver.Message where
  interim := []
  final := [(utf8 ":status", utf8 "200")]
  status := .ok
  data := [[[0x61, 0xC3]], [[0xA9]]]
  trailers := none
  hasStatus := by decide +kernel

/-- It is sent to a call, beside another that is dropped. -/
def greeted : List ClientAction :=
  ([ .call "GET" "https://a.test/" none .navigate, .go, .go, .go, .go, .go, .go,
    .dial (.connected { ip := .v4 0xC0000201, port := 443 } none), .go ] : List Input).map
    (fun input => .act (.task 0 input)) ++
  ([ .call "GET" "https://a.test/" none .navigate, .go, .go, .go, .go, .go,
    .go ] : List Input).map (fun input => .act (.task 1 input)) ++
  ([ .datagram (packet []), .command (.ok 0) (.ok 0),
    .datagram (packet ((greeting.events ++ [H3Event.finished]).map (fun e => (0, e)))) ] :
      List Event).map (fun e => .act (.driver 0 e)) ++
  [.drop 1]

/-- What an HTTP/2 stream yields for it, cut elsewhere. -/
def greetingChunks (_ : Nat) : List (Except String Bytes) :=
  [.ok [0x61], .ok [0xC3, 0xA9]]

deriving instance DecidableEq for H3Event

theorem reads_alike_greeted :
    ∃ s v session resp, run stepOrDrop cachedA greeted = some s ∧
      s.tasks 0 = .inHop v (.awaitH3 session) ∧
      sessionReply s session v.ticket = some (.ok resp) ∧
      resp.text tagging greetingChunks = .ok "aé" := by
  have hanswered : ((run stepOrDrop cachedA greeted).bind (fun s =>
      (s.tasks 0).awaiting?.bind (fun w => (sessionReply s w.2 w.1.ticket).map
        (fun r => (r.isOk, w.1.ticket, w.2.id))))) = some (true, 0, 0) := by decide +kernel
  rcases Option.bind_eq_some_iff.mp hanswered with ⟨s, hs, hwaits⟩
  rcases Option.bind_eq_some_iff.mp hwaits with ⟨⟨v, session⟩, hwait, hreplied⟩
  rcases Option.map_eq_some_iff.mp hreplied with ⟨r, hreply, hids⟩
  have htask := awaiting?_eq_some hwait
  rw [Prod.mk.injEq, Prod.mk.injEq] at hids
  have hcarried : (Driver.transcript 0 (sessionTraces direct
      (AltSvcCache.new.insert "a.test:443" "h3=\":443\"") () greeted 0)).map
        (fun c => (c.1.responseTx, c.2)) = some (0, greeting.events ++ [.finished]) := by
    decide +kernel
  rcases Option.map_eq_some_iff.mp hcarried with ⟨⟨cmd, events⟩, hm, heq⟩
  have hticket : cmd.responseTx = 0 := congrArg Prod.fst heq
  have hevents : events = greeting.events ++ [.finished] := congrArg Prod.snd heq
  rw [hevents, ← hids.2.2] at hm
  have hbare : greeting.Bare :=
    ⟨fun _ h => absurd h List.not_mem_nil, fun _ h => absurd h (Option.not_mem_none _),
      fun _ h => absurd h (Option.not_mem_none _)⟩
  have hrecv : greetingChunks 0 = [[0x61], [0xC3, 0xA9]].map .ok := rfl
  cases r with
  | error e => cases hids.1
  | ok resp =>
      have hread := reads_alike hs hreply (hticket.trans hids.2.1.symm) hm hbare tagging hrecv rfl
        "https://a.test/"
      exact ⟨s, v, session, resp, hs, htask, hreply,
        hread.2.2.2.2 "aé" tagging_lawful (.nil _)⟩

end Quik
