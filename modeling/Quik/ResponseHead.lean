import Quik.Client
import Quik.Demux

/-!
# Response Heads over HTTP/3

A response message may begin with interim header sections and end with a
trailer section. Its head is the status and the fields of the final section.
If that is well formed, the HTTP/2 crate hands the head to
`QuikConnection::send` and keeps the other sections apart. The driver folds
every section of a stream into one table entry, so the fields of all of them are
in the response, and a status in the trailers would replace the final one. The
two transports give the same head exactly for messages whose other sections are
empty (`response_head_iff`).

## Main definitions

* `Message`: The sections and the data of one response.
* `Message.h2Head`: The head of its final section.
* `SameHead`: One status, and the same values under every name.
* `Message.Bare`: Nothing outside the final section and the data.

## Theorems

* `foldl_headerField_status`: The last status of a stream wins.
* `response_head_iff`: When the driver delivers the head of the message.
-/

namespace Quik

open Transition

namespace Driver

/-- The status a header field sets, if it sets one. -/
def statusField (header : Bytes × Bytes) : Option StatusCode :=
  if header.1 = utf8 ":status" then (parseU16 header.2).bind StatusCode.fromU16 else none

/-- The last status among the fields. -/
def statusOf : List (Bytes × Bytes) → Option StatusCode
  | [] => none
  | header :: rest => (statusOf rest).or (statusField header)

/-- A response message on a stream, section by section. -/
structure Message where
  interim : List (List (Bytes × Bytes))
  final : List (Bytes × Bytes)
  status : StatusCode
  /-- What each `Data` event reads. -/
  data : List (List Bytes)
  trailers : Option (List (Bytes × Bytes))
  /-- The status of the final section, by the driver's own parse of it. -/
  hasStatus : statusOf final = some status

namespace Message

/-- The events `poll` returns for the message. -/
def events (m : Message) : List H3Event :=
  m.interim.map .headers ++ [.headers m.final] ++ m.data.map .data ++
    (m.trailers.map H3Event.headers).toList

/-- The head of the final section, with the fields whose name and value are
    legal, in their order. Of a well-formed section these are all but the
    pseudo-header, and it is the head that comes with an HTTP/2 response. -/
def h2Head (m : Message) : StatusCode × HeaderMap :=
  (m.status,
    (m.final.filterMap usableField).foldl (fun headers f => headers.append f.1 f.2) HeaderMap.new)

/-- No section but the final one has a field to add, and the trailers have no
    status other than the final one. -/
structure Bare (m : Message) : Prop where
  interim : ∀ fields ∈ m.interim, fields.filterMap usableField = []
  trailers : ∀ fields ∈ m.trailers, fields.filterMap usableField = []
  status : ∀ fields ∈ m.trailers, ∀ code, statusOf fields = some code → code = m.status

end Message

/-- One status, and under every name the same values in the same order. -/
def SameHead (r r' : Response) : Prop :=
  r.status = r'.status ∧ ∀ name, r.headers.getAll name = r'.headers.getAll name

theorem statusOf_append (fields fields' : List (Bytes × Bytes)) :
    statusOf (fields ++ fields') = (statusOf fields').or (statusOf fields) := by
  induction fields with
  | nil => rw [List.nil_append, statusOf, Option.or_none]
  | cons header fields ih => rw [List.cons_append, statusOf, ih, statusOf, Option.or_assoc]

/-- The last status of a stream is the one its entry has. -/
theorem foldl_headerField_status (fields : List (Bytes × Bytes)) (req : PendingRequest) :
    (fields.foldl headerField req).status = (statusOf fields).or req.status := by
  induction fields generalizing req with
  | nil => rfl
  | cons header fields ih =>
      have hone : (headerField req header).status = (statusField header).or req.status := by
        unfold headerField statusField
        by_cases hstatus : header.1 = utf8 ":status"
        · rw [if_pos hstatus, if_pos hstatus]
          split
          · rename_i code hcode
            rw [hcode, Option.some_or]
          · rename_i hcode
            rw [hcode, Option.none_or]
        · rw [if_neg hstatus, if_neg hstatus, Option.none_or]
          split <;> rfl
      rw [List.foldl_cons, ih, hone, statusOf, Option.or_assoc]

theorem pendingOf_status (cmd : SendRequest) (events : List H3Event) :
    (pendingOf cmd events).status = statusOf (fieldsOf events) := by
  rw [pendingOf, foldl_headerField_status, Option.or_none]

theorem foldl_append_getAll (name : String) (fields : List (String × HeaderValue))
    (headers : HeaderMap) :
    (fields.foldl (fun headers f => headers.append f.1 f.2) headers).getAll name =
      headers.getAll name ++
        fields.filterMap (fun f => if f.1 = name then some f.2 else none) := by
  induction fields generalizing headers with
  | nil => exact (List.append_nil _).symm
  | cons f fields ih =>
      rw [List.foldl_cons, ih, HeaderMap.getAll_append, List.append_assoc]
      by_cases h : f.1 = name
      · simp only [List.filterMap_cons, h, if_true, List.singleton_append]
      · simp only [List.filterMap_cons, h, if_false, List.nil_append]

/-- Over HTTP/2 the values under a name are those of the final section. -/
theorem h2Head_getAll (m : Message) (name : String) :
    m.h2Head.2.getAll name = valuesOf name m.final := by
  rw [Message.h2Head, foldl_append_getAll, HeaderMap.getAll_new, List.nil_append, valuesOf]

theorem fieldsOf_append (events events' : List H3Event) :
    fieldsOf (events ++ events') = fieldsOf events ++ fieldsOf events' :=
  List.flatMap_append

/-- Over HTTP/3 all sections contribute, one after the other. -/
theorem fieldsOf_message (m : Message) :
    fieldsOf m.events = m.interim.flatten ++ (m.final ++ m.trailers.getD []) := by
  have hinterim : fieldsOf (m.interim.map .headers) = m.interim.flatten := by
    rw [fieldsOf, List.flatMap_map]
    exact List.flatMap_id'
  have hfinal : fieldsOf [.headers m.final] = m.final := by
    rw [fieldsOf, List.flatMap_singleton]
  have hdata : fieldsOf (m.data.map .data) = [] := by
    rw [fieldsOf, List.flatMap_map, List.flatMap_eq_nil_iff]
    exact fun _ _ => rfl
  have htrailers : fieldsOf (m.trailers.map H3Event.headers).toList = m.trailers.getD [] := by
    cases m.trailers with
    | none => rfl
    | some fields => rw [Option.map_some, Option.toList_some, fieldsOf, List.flatMap_singleton,
        Option.getD_some]
  rw [Message.events, fieldsOf_append, fieldsOf_append, fieldsOf_append, hinterim, hfinal, hdata,
    htrailers, List.append_nil, List.append_assoc]

/-- Fields that have no value under any name are fields that add nothing. -/
theorem valuesOf_eq_nil_iff {fields : List (Bytes × Bytes)} :
    (∀ name, valuesOf name fields = []) ↔ fields.filterMap usableField = [] := by
  constructor
  · intro h
    cases hf : fields.filterMap usableField with
    | nil => rfl
    | cons f rest =>
        have hnil := h f.1
        simp only [valuesOf, hf, List.filterMap_cons, if_true] at hnil
        exact absurd hnil (List.cons_ne_nil _ _)
  · intro h name
    rw [valuesOf, h, List.filterMap_nil]

/-- A bare message, by what its sections contribute. -/
theorem Message.bare_iff (m : Message) : m.Bare ↔
    m.interim.flatten.filterMap usableField = [] ∧
      (m.trailers.getD []).filterMap usableField = [] ∧
      (statusOf (m.trailers.getD [])).getD m.status = m.status := by
  constructor
  · intro hbare
    refine ⟨?_, ?_, ?_⟩
    · rw [List.filterMap_eq_nil_iff]
      intro f hf
      rcases List.mem_flatten.mp hf with ⟨fields, hin, hmem⟩
      exact List.filterMap_eq_nil_iff.mp (hbare.interim fields hin) f hmem
    · cases ht : m.trailers with
      | none => rfl
      | some fields => exact hbare.trailers fields (Option.mem_def.mpr ht)
    · cases ht : m.trailers with
      | none => rfl
      | some fields =>
          rw [Option.getD_some]
          cases hcode : statusOf fields with
          | none => rfl
          | some code => exact hbare.status fields (Option.mem_def.mpr ht) code hcode
  · rintro ⟨hinterim, htrailers, hstatus⟩
    constructor
    · intro fields hin
      rw [List.filterMap_eq_nil_iff] at hinterim ⊢
      exact fun f hf => hinterim f (List.mem_flatten.mpr ⟨fields, hin, hf⟩)
    · intro fields hin
      rw [Option.mem_def.mp hin, Option.getD_some] at htrailers
      exact htrailers
    · intro fields hin code hcode
      rw [Option.mem_def.mp hin, Option.getD_some, hcode, Option.getD_some] at hstatus
      exact hstatus

/-- The response of a whole message has the head of the final section exactly
    if the other sections are bare. -/
theorem sameHead_message (m : Message) (cmd : SendRequest) (urlStr : String) (stream : Nat) :
    SameHead (response (pendingOf cmd m.events))
        (h2Response urlStr (m.h2Head.1, m.h2Head.2, stream)) ↔ m.Bare := by
  have hvalues : ∀ name, (response (pendingOf cmd m.events)).headers.getAll name =
      valuesOf name m.interim.flatten ++
        (valuesOf name m.final ++ valuesOf name (m.trailers.getD [])) := by
    intro name
    rw [response, pendingOf_getAll, fieldsOf_message, valuesOf_append, valuesOf_append]
  have hstatus : (response (pendingOf cmd m.events)).status =
      (statusOf (m.trailers.getD [])).getD m.status := by
    rw [response, pendingOf_status, fieldsOf_message, statusOf_append, statusOf_append,
      m.hasStatus]
    cases statusOf (m.trailers.getD []) with
    | none => rfl
    | some code => rfl
  rw [m.bare_iff]
  constructor
  · rintro ⟨hst, hall⟩
    -- Whatever the others add makes some list of values longer.
    have hnil : ∀ name, valuesOf name m.interim.flatten = [] ∧
        valuesOf name (m.trailers.getD []) = [] := by
      intro name
      have hlen := congrArg List.length (hall name)
      rw [hvalues, h2Response, h2Head_getAll, List.length_append, List.length_append] at hlen
      constructor
      · exact List.eq_nil_of_length_eq_zero (by omega)
      · exact List.eq_nil_of_length_eq_zero (by omega)
    exact ⟨valuesOf_eq_nil_iff.mp (fun name => (hnil name).1),
      valuesOf_eq_nil_iff.mp (fun name => (hnil name).2), hstatus.symm.trans hst⟩
  · rintro ⟨hinterim, htrailers, hst⟩
    constructor
    · exact hstatus.trans hst
    · intro name
      rw [hvalues, valuesOf_eq_nil_iff.mpr hinterim, valuesOf_eq_nil_iff.mpr htrailers,
        List.nil_append, List.append_nil, h2Response, h2Head_getAll]

/-- In every run of a dialed session, a caller whose stream carried a message is
    given the head that HTTP/2 gives, exactly if the message has nothing to add
    outside its final section. -/
theorem response_head_iff (addr : SocketAddr) (socketAddr : Option SocketAddr)
    {as : List Session.Action} {s : Session}
    (hrun : run Session.step (Session.dialed addr socketAddr) as = some s) {ticket : Nat}
    {resp : Response} (hans : (ticket, .ok resp) ∈ s.driver.answers) {streamId : StreamId}
    {cmd : SendRequest} {m : Message} (hcmd : cmd.responseTx = ticket)
    (hm : transcript streamId (history Session.step observe [] (Session.dialed addr socketAddr) as)
      = some (cmd, m.events ++ [.finished])) (urlStr : String) (stream : Nat) :
    SameHead resp (h2Response urlStr (m.h2Head.1, m.h2Head.2, stream)) ↔ m.Bare := by
  have hd := demux_run addr socketAddr hrun
  generalize hr : Except.ok resp = r at hans
  cases hd.answers ticket r hans with
  | early | rejected | reset => cases hr
  | finished streamId' cmd' events htr =>
      -- One stream was opened for the caller's command, the message's.
      have htaken : (Seen.opened streamId cmd).taken? = some cmd'.responseTx := by
        rw [Seen.taken?, hcmd]
      cases eq_of_taken hd.distinct_taken (mem_of_transcript hm) (mem_of_transcript htr) htaken rfl
      rw [hm, Option.some.injEq, Prod.mk.injEq] at htr
      have hevents : m.events = events := List.append_cancel_right htr.2
      rw [Except.ok.inj hr, ← hevents]
      exact sameHead_message m cmd urlStr stream

/-- A response with these fields in an interim section before its 200. -/
def hinted (fields : List (Bytes × Bytes)) : Message where
  interim := [(utf8 ":status", utf8 "103") :: fields]
  final := [(utf8 ":status", utf8 "200"), (utf8 "server", utf8 "b")]
  status := .ok
  data := [[[1, 2]]]
  trailers := none
  hasStatus := by decide +kernel

/-- One request, answered with that message. -/
def answeredHinted (fields : List (Bytes × Bytes)) : List Session.Action :=
  [ h3Packet [], .send getA none, .turn (.command (.ok 0) (.ok 0)),
    h3Packet (((hinted fields).events ++ [H3Event.finished]).map (fun e => (0, e))) ]

/-- The interim section has a status and nothing else. -/
theorem bare_response_head :
    ∃ s resp, run Session.step (Session.dialed { ip := .v4 0xC0000201, port := 443 } none)
        (answeredHinted []) = some s ∧ (0, .ok resp) ∈ s.driver.answers ∧
      SameHead resp (h2Response "https://a.test/"
        ((hinted []).h2Head.1, (hinted []).h2Head.2, 0)) := by
  have hrun : run Session.step (Session.dialed { ip := .v4 0xC0000201, port := 443 } none)
      (answeredHinted []) = some _ := rfl
  have hbare : (hinted []).Bare := by
    refine ⟨fun fields hin => ?_, fun fields hin => ?_, fun fields hin => ?_⟩
    · rw [List.mem_singleton.mp hin]
      decide +kernel
    · exact absurd hin (by simp only [hinted, Option.mem_def, reduceCtorEq, not_false_eq_true])
    · exact absurd hin (by simp only [hinted, Option.mem_def, reduceCtorEq, not_false_eq_true])
  have hm : transcript 0 (history Session.step observe []
      (Session.dialed { ip := .v4 0xC0000201, port := 443 } none) (answeredHinted [])) =
        some (sessionCommand getA none 0, (hinted []).events ++ [.finished]) := rfl
  exact ⟨_, _, hrun, List.mem_cons_self, (response_head_iff { ip := .v4 0xC0000201, port := 443 }
    none hrun List.mem_cons_self rfl hm "https://a.test/" 0).mpr hbare⟩

/-- A cookie in the interim section ends up in the response. -/
theorem interim_cookie_leaks :
    ∃ s resp, run Session.step (Session.dialed { ip := .v4 0xC0000201, port := 443 } none)
        (answeredHinted [(utf8 "set-cookie", utf8 "a=1")]) = some s ∧
      (0, .ok resp) ∈ s.driver.answers ∧
      transcript 0 (history Session.step observe []
        (Session.dialed { ip := .v4 0xC0000201, port := 443 } none)
        (answeredHinted [(utf8 "set-cookie", utf8 "a=1")])) =
          some (sessionCommand getA none 0,
            (hinted [(utf8 "set-cookie", utf8 "a=1")]).events ++ [.finished]) ∧
      ¬ SameHead resp (h2Response "https://a.test/"
        ((hinted [(utf8 "set-cookie", utf8 "a=1")]).h2Head.1,
          (hinted [(utf8 "set-cookie", utf8 "a=1")]).h2Head.2, 0)) := by
  refine ⟨_, _, rfl, List.mem_cons_self, rfl, fun hsame => ?_⟩
  have hlen := congrArg List.length (hsame.2 "set-cookie")
  revert hlen
  decide +kernel

end Driver

end Quik
