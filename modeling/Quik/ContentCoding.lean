import Quik.HeaderText
import Quik.Library.FieldSyntax
import Quik.Request

/-!
# Content Codings

What the client says it can undo and what it undoes. Every request offers
`gzip`, `deflate` and `br`, and `zstd` where the profile has it. A response may
come with any of these applied one after the other, and lists them in the order
they were applied, in any letter case.

`Response::bytes` looks for three of the names in the first line of the field,
as they are written in lower case, and runs the decoder of the one it finds
first. So a list of two codings is undone by half, and `deflate`, `GZIP` and a
name in a second line are not undone at all. What is left exactly is the empty
list and a single `gzip`, `br` or `zstd` (`decoded_iff`).

The coders themselves are not part of the repository. They are parameters, and
all that is said of them is that each decoder inverts its encoder.

## Main definitions

* `Coding`, `offered`: The codings, and those a profile offers.
* `Codecs`, `Codecs.Lawful`: The coders.
* `Response.bytes`: Collecting and decoding a body.
* `EncodedBy`: A body with codings applied in order.
* `Decoded`: `bytes` undoes them, on both transports.

## Theorems

* `offered_eq`: The offer is what the request says.
* `decodeAll_encodedBy`: Codings are undone from the last to the first.
* `decoded_iff`: When `bytes` undoes them.
-/

namespace Quik

open FieldSyntax

/-- A content coding that the client may offer. -/
inductive Coding where
  | gzip
  | deflate
  | br
  | zstd
deriving DecidableEq

/-- Its registered name. -/
def Coding.name : Coding → String
  | .gzip => "gzip"
  | .deflate => "deflate"
  | .br => "br"
  | .zstd => "zstd"

/-- The codings a profile offers, in the order of its header. -/
def offered (profile : ChromeProfile) : List Coding :=
  if profile.headers.zstdEncoding then [.gzip, .deflate, .br, .zstd] else [.gzip, .deflate, .br]

/-- The coders: what may come of encoding a body, and the decoders. -/
structure Codecs where
  Encodes : Coding → Bytes → Bytes → Prop
  decode : Coding → Bytes → Except String Bytes

/-- Each decoder inverts its encoder. -/
def Codecs.Lawful (codecs : Codecs) : Prop :=
  ∀ k body encoded, codecs.Encodes k body encoded → codecs.decode k encoded = .ok body

/-- The chunks of an HTTP/2 stream, up to its end or the first error. -/
def collectChunks (data : Bytes) : List (Except String Bytes) → Except Error Bytes
  | [] => .ok data
  | .ok chunk :: rest => collectChunks (data ++ chunk) rest
  | .error e :: _ => .error (.http2 e)

/-- The body as it came, from either transport. `recv` is what the HTTP/2
    streams yield. -/
def ResponseBody.collect (recv : Nat → List (Except String Bytes)) :
    ResponseBody → Except Error Bytes
  | .http2 bodyStream => collectChunks [] (recv bodyStream)
  | .http3 bodyData => .ok bodyData

/-- The text of the first Content-Encoding line, empty if there is none. -/
def encodingText (headers : HeaderMap) : String :=
  ((headers.get "content-encoding").bind HeaderValue.toStr).getD ""

/-- `Response::bytes`. -/
def Response.bytes (codecs : Codecs) (recv : Nat → List (Except String Bytes)) (r : Response) :
    Except Error Bytes :=
  match r.body.collect recv with
  | .error e => .error e
  | .ok data =>
    let encoding := encodingText r.headers
    if containsStr encoding "br" then (codecs.decode .br data).mapError .connect
    else if containsStr encoding "zstd" then (codecs.decode .zstd data).mapError .connect
    else if containsStr encoding "gzip" then (codecs.decode .gzip data).mapError .connect
    else .ok data

/-- The codings a response says were applied: the elements of the field, over
    all its lines and in any letter case. -/
def Carries (headers : HeaderMap) (ks : List Coding) : Prop :=
  fieldList ((headers.getAll "content-encoding").map lowerLine) =
    ks.map (fun k => k.name.toList)

instance (headers : HeaderMap) (ks : List Coding) : Decidable (Carries headers ks) :=
  inferInstanceAs (Decidable (_ = _))

/-- A body with codings applied, the first of the list first. -/
inductive EncodedBy (codecs : Codecs) : List Coding → Bytes → Bytes → Prop where
  | nil (body) : EncodedBy codecs [] body body
  | cons {k ks body coded encoded} (hfirst : codecs.Encodes k body coded)
      (hrest : EncodedBy codecs ks coded encoded) : EncodedBy codecs (k :: ks) body encoded

/-- A body that is received in full, over HTTP/2 or HTTP/3. -/
inductive Delivers (recv : Nat → List (Except String Bytes)) : ResponseBody → Bytes → Prop where
  | http2 {stream} {chunks : List Bytes} (h : recv stream = chunks.map .ok) :
      Delivers recv (.http2 stream) chunks.flatten
  | http3 (data) : Delivers recv (.http3 data) data

/-- Whatever body the codings were applied to, and whichever transport it came
    over, `bytes` returns it. -/
def Decoded (headers : HeaderMap) (ks : List Coding) : Prop :=
  ∀ codecs : Codecs, codecs.Lawful → ∀ body encoded, EncodedBy codecs ks body encoded →
    ∀ recv (r : Response), r.headers = headers → Delivers recv r.body encoded →
      r.bytes codecs recv = .ok body

section Offer

/-- The value of the header that makes the offer. -/
theorem injectChromeHeaders_acceptEncoding (headers : HeaderMap) (profile : ChromeProfile)
    (site : String) (initial : Bool) (context : RequestContext) (acceptCh : Bool)
    (referer : Option String) :
    ∃ value, (injectChromeHeaders headers profile site initial context acceptCh referer).get
      "accept-encoding" = some value ∧
        value.bytes = utf8 (if profile.headers.zstdEncoding then "gzip, deflate, br, zstd"
          else "gzip, deflate, br") := by
  unfold injectChromeHeaders
  rw [HeaderMap.get_markSensitive, if_neg (by decide)]
  simp (disch := decide) only [HeaderMap.get_insertOk_of_ne, HeaderMap.get_insert_self]
  refine ⟨_, rfl, ?_⟩
  cases profile.headers.zstdEncoding with
  | true => rfl
  | false => rfl

/-- What a profile offers is what its requests list. -/
theorem offered_eq (headers : HeaderMap) (profile : ChromeProfile) (site : String)
    (initial : Bool) (context : RequestContext) (acceptCh : Bool) (referer : Option String) :
    fieldList (((injectChromeHeaders headers profile site initial context acceptCh referer).get
      "accept-encoding").toList.map lowerLine) =
        (offered profile).map (fun k => k.name.toList) := by
  rcases injectChromeHeaders_acceptEncoding headers profile site initial context acceptCh referer
    with ⟨value, hget, hbytes⟩
  rw [hget, Option.toList_some, List.map_singleton, lowerLine, HeaderValue.chars, hbytes, offered]
  cases profile.headers.zstdEncoding with
  | true => decide +kernel
  | false => decide +kernel

end Offer

section Undo

/-- Running decoders one after the other. -/
def Codecs.decodeAll (codecs : Codecs) : List Coding → Bytes → Except String Bytes
  | [], data => .ok data
  | k :: ks, data => (codecs.decode k data).bind (codecs.decodeAll ks)

theorem decodeAll_append (codecs : Codecs) (ks ls : List Coding) (data : Bytes) :
    codecs.decodeAll (ks ++ ls) data =
      (codecs.decodeAll ks data).bind (codecs.decodeAll ls) := by
  induction ks generalizing data with
  | nil => rfl
  | cons k ks ih =>
      rw [List.cons_append, Codecs.decodeAll, Codecs.decodeAll]
      cases codecs.decode k data with
      | error e => rfl
      | ok coded => exact ih coded

/-- Codings are undone from the last to the first. -/
theorem decodeAll_encodedBy {codecs : Codecs} (hlaw : codecs.Lawful) {ks : List Coding}
    {body encoded : Bytes} (h : EncodedBy codecs ks body encoded) :
    codecs.decodeAll ks.reverse encoded = .ok body := by
  induction h with
  | nil => rfl
  | @cons k ks body coded encoded hfirst _ ih =>
      rw [List.reverse_cons, decodeAll_append, ih]
      change (codecs.decode k coded).bind (codecs.decodeAll []) = .ok body
      rw [hlaw k body coded hfirst]
      rfl

end Undo

theorem collectChunks_ok (data : Bytes) (chunks : List Bytes) :
    collectChunks data (chunks.map .ok) = .ok (data ++ chunks.flatten) := by
  induction chunks generalizing data with
  | nil => rw [List.flatten_nil, List.append_nil]; rfl
  | cons chunk chunks ih =>
      rw [List.map_cons, collectChunks, ih, List.flatten_cons, List.append_assoc]

/-- What was delivered is collected. -/
theorem Delivers.collect {recv : Nat → List (Except String Bytes)} {body : ResponseBody}
    {data : Bytes} (h : Delivers recv body data) : body.collect recv = .ok data := by
  cases h with
  | http2 hrecv => rw [ResponseBody.collect, hrecv, collectChunks_ok, List.nil_append]
  | http3 => rfl

/-- The decoder `bytes` runs, if it runs one. -/
def decoderOf (encoding : String) : Option Coding :=
  if containsStr encoding "br" then some .br
  else if containsStr encoding "zstd" then some .zstd
  else if containsStr encoding "gzip" then some .gzip
  else none

/-- `bytes` undoes the coding whose name it finds. -/
theorem bytes_eq (codecs : Codecs) (recv : Nat → List (Except String Bytes)) (r : Response)
    {data : Bytes} (h : r.body.collect recv = .ok data) :
    r.bytes codecs recv =
      (codecs.decodeAll (decoderOf (encodingText r.headers)).toList data).mapError .connect := by
  have hsingle : ∀ k, (codecs.decode k data).mapError Error.connect =
      (codecs.decodeAll [k] data).mapError .connect := by
    intro k
    rw [Codecs.decodeAll]
    cases codecs.decode k data with
    | error e => rfl
    | ok decoded => rfl
  simp only [Response.bytes, h, decoderOf]
  split
  · exact hsingle .br
  · split
    · exact hsingle .zstd
    · split
      · exact hsingle .gzip
      · rfl

theorem decoderOf_eq_some {encoding : String} {k : Coding} (h : decoderOf encoding = some k) :
    containsStr encoding k.name = true ∧ k ≠ .deflate := by
  unfold decoderOf at h
  split at h
  · rename_i hbr
    rw [← Option.some.inj h]
    exact ⟨hbr, by decide⟩
  · split at h
    · rename_i hzstd
      rw [← Option.some.inj h]
      exact ⟨hzstd, by decide⟩
    · split at h
      · rename_i hgzip
        rw [← Option.some.inj h]
        exact ⟨hgzip, by decide⟩
      · exact absurd h (by simp only [reduceCtorEq, not_false_eq_true])

/-- A name that `bytes` finds is listed. -/
theorem mem_of_contains {headers : HeaderMap} {ks : List Coding} (h : Carries headers ks)
    {k : Coding} (hk : containsStr (encodingText headers) k.name = true) : k ∈ ks := by
  have hname : ∀ k : Coding, k.name.toList ≠ [] ∧ (∀ c ∈ k.name.toList, isTchar c = true) ∧
      k.name.toList.map Char.toLower = k.name.toList := by
    intro k
    have htoken : k.name.toList.all isTchar = true := by
      cases k <;> decide
    refine ⟨?_, List.all_eq_true.mp htoken, ?_⟩ <;> cases k <;> decide
  -- No name is a part of another.
  have hapart : ∀ k k' : Coding, k.name.toList <:+: k'.name.toList → k = k' := by
    intro k k'
    cases k <;> cases k' <;> decide
  rcases hname k with ⟨hne, htoken, hlower⟩
  rw [containsStr, decide_eq_true_eq] at hk
  unfold encodingText at hk
  cases hget : headers.get "content-encoding" with
  | none =>
      rw [hget] at hk
      exact absurd (List.infix_nil.mp hk) hne
  | some line =>
      rw [hget, Option.bind_some, HeaderValue.toStr_eq] at hk
      split at hk
      · rw [Option.getD_some, String.toList_ofList] at hk
        have hin : k.name.toList <:+: lowerLine line := hlower ▸ hk.map Char.toLower
        have hline : lowerLine line ∈ (headers.getAll "content-encoding").map lowerLine :=
          List.mem_map_of_mem (List.mem_of_head? hget)
        rcases mem_fieldList_of_infix hne htoken hline hin with ⟨e, he, hpart⟩
        rw [h] at he
        rcases List.mem_map.mp he with ⟨k', hk', rfl⟩
        rw [hapart k k' hpart]
        exact hk'
      · exact absurd (List.infix_nil.mp hk) hne

section Tagging

/-- A byte for each coding. -/
def Coding.tag : Coding → UInt8
  | .gzip => 0
  | .deflate => 1
  | .br => 2
  | .zstd => 3

/-- Coders that put the byte before the body. -/
def tagging : Codecs where
  Encodes := fun k body encoded => encoded = k.tag :: body
  decode := fun k data =>
    match data with
    | [] => .error "empty"
    | tag :: body => if tag = k.tag then .ok body else .error "tag"

theorem tagging_lawful : tagging.Lawful := by
  intro k body encoded h
  cases h
  exact if_pos rfl

theorem encodedBy_tagging (ks : List Coding) (body : Bytes) :
    EncodedBy tagging ks body ((ks.map Coding.tag).reverse ++ body) := by
  induction ks generalizing body with
  | nil => exact .nil body
  | cons k ks ih =>
      rw [List.map_cons, List.reverse_cons, List.append_assoc]
      exact .cons rfl (ih (k.tag :: body))

theorem Coding.tag_injective {k k' : Coding} (h : k.tag = k'.tag) : k = k' := by
  revert h
  cases k <;> cases k' <;> decide

end Tagging

/-- Codings that are undone are none at all, or the one whose decoder is run:
    tagged, the empty body comes back only then. -/
theorem Decoded.decoderOf_eq {headers : HeaderMap} {ks : List Coding} (h : Decoded headers ks) :
    ks = [] ∨ ∃ k, ks = [k] ∧ decoderOf (encodingText headers) = some k := by
  have hbytes := h tagging tagging_lawful [] _ (encodedBy_tagging ks []) (fun _ => [])
    { status := .ok, headers := headers, body := .http3 _, url := "" } rfl (.http3 _)
  rw [bytes_eq tagging _ _ (ResponseBody.collect.eq_2 _ _), List.append_nil] at hbytes
  cases hdecoder : decoderOf (encodingText headers) with
  | none =>
      rw [hdecoder] at hbytes
      exact Or.inl (List.map_eq_nil_iff.mp (List.reverse_eq_nil_iff.mp (Except.ok.inj hbytes)))
  | some k =>
      rw [hdecoder, Option.toList_some, Codecs.decodeAll] at hbytes
      refine Or.inr ⟨k, ?_, rfl⟩
      -- One tag is taken off, so there was one.
      cases htags : (ks.map Coding.tag).reverse with
      | nil =>
          rw [htags] at hbytes
          exact absurd hbytes (by simp only [tagging, Except.bind, Except.mapError, reduceCtorEq,
            not_false_eq_true])
      | cons tag rest =>
          rw [htags] at hbytes
          simp only [tagging] at hbytes
          split at hbytes
          · rename_i htag
            have hrest : rest = [] := Except.ok.inj hbytes
            rw [hrest, List.reverse_eq_cons_iff, List.reverse_nil, List.nil_append] at htags
            rcases List.map_eq_singleton_iff.mp htags with ⟨k', rfl, hk'⟩
            rw [Coding.tag_injective (hk'.trans htag)]
          · exact absurd hbytes (by simp only [Except.bind, Except.mapError, reduceCtorEq,
              not_false_eq_true])

/-- The decoder that is run for a single coding, if its name is found. -/
theorem decoderOf_single {headers : HeaderMap} {k : Coding} (hcarries : Carries headers [k])
    (hk : containsStr (encodingText headers) k.name = true) (hne : k ≠ .deflate) :
    decoderOf (encodingText headers) = some k := by
  have honly : ∀ k' : Coding, k' ≠ k → ¬ containsStr (encodingText headers) k'.name = true :=
    fun k' hne' hc => hne' (List.mem_singleton.mp (mem_of_contains hcarries hc))
  unfold decoderOf
  cases k with
  | br => exact if_pos hk
  | zstd =>
      have hbr : ¬ containsStr (encodingText headers) "br" = true := honly .br (by decide)
      rw [if_neg hbr]
      exact if_pos hk
  | gzip =>
      have hbr : ¬ containsStr (encodingText headers) "br" = true := honly .br (by decide)
      have hzstd : ¬ containsStr (encodingText headers) "zstd" = true := honly .zstd (by decide)
      rw [if_neg hbr, if_neg hzstd]
      exact if_pos hk
  | deflate => exact absurd rfl hne

/-- No decoder is run where no coding is listed. -/
theorem decoderOf_nil {headers : HeaderMap} (hcarries : Carries headers []) :
    decoderOf (encodingText headers) = none := by
  rw [Option.eq_none_iff_forall_ne_some]
  intro k hk
  exact absurd (mem_of_contains hcarries (decoderOf_eq_some hk).1) List.not_mem_nil

/-- Codings are undone if the decoder that is run is the one they need. -/
theorem decoded_of_decoderOf {headers : HeaderMap} {ks : List Coding}
    (h : (decoderOf (encodingText headers)).toList = ks) : Decoded headers ks := by
  intro codecs hlaw body encoded henc recv r hr hdel
  -- At most one decoder is run, so the order does not show.
  have hreverse : ks = ks.reverse := by
    rw [← h]
    cases decoderOf (encodingText headers) with
    | none => rfl
    | some k => rfl
  rw [bytes_eq codecs recv r hdel.collect, hr, h, hreverse, decodeAll_encodedBy hlaw henc]
  rfl

/-- A response that carries codings its request has offered is decoded exactly
    if they are none, or one of `gzip`, `br` and `zstd` whose name stands in the
    first line of the field in lower case. -/
theorem decoded_iff (profile : ChromeProfile) (headers : HeaderMap)
    (ks : List {k : Coding // k ∈ offered profile})
    (hcarries : Carries headers (ks.map Subtype.val)) :
    Decoded headers (ks.map Subtype.val) ↔
      ks = [] ∨ ∃ k, ks = [k] ∧ k.val ≠ .deflate ∧
        containsStr (encodingText headers) k.val.name = true := by
  constructor
  · intro h
    rcases h.decoderOf_eq with hnil | ⟨k, hk, hdecoder⟩
    · exact Or.inl (List.map_eq_nil_iff.mp hnil)
    · rcases List.map_eq_singleton_iff.mp hk with ⟨k', rfl, rfl⟩
      have hfound := decoderOf_eq_some hdecoder
      exact Or.inr ⟨k', rfl, hfound.2, hfound.1⟩
  · rintro (rfl | ⟨k, rfl, hne, hname⟩)
    · exact decoded_of_decoderOf (by rw [decoderOf_nil hcarries]; rfl)
    · exact decoded_of_decoderOf (by rw [decoderOf_single hcarries hname hne]; rfl)

section Example

/-- A field of one line. -/
def encodedAs (line : HeaderValue) : HeaderMap :=
  HeaderMap.new.insert "content-encoding" line

/-- A body that is compressed with Brotli comes out. -/
theorem brotli_decoded : Decoded (encodedAs (.fromStatic "br")) [.br] := by
  have hcarries : Carries (encodedAs (.fromStatic "br")) [.br] := by decide +kernel
  have hoffered : Coding.br ∈ offered (Chrome148.chrome148LinuxX64 "") := by decide +kernel
  have hname : containsStr (encodingText (encodedAs (.fromStatic "br"))) Coding.br.name = true := by
    decide +kernel
  exact (decoded_iff (Chrome148.chrome148LinuxX64 "") _ [⟨.br, hoffered⟩] hcarries).mpr
    (Or.inr ⟨_, rfl, Coding.noConfusion, hname⟩)

/-- A body that is compressed with gzip and then with Brotli does not. -/
theorem list_undecoded :
    (∀ k ∈ [Coding.gzip, Coding.br], k ∈ offered (Chrome148.chrome148LinuxX64 "")) ∧
      Carries (encodedAs (.fromStatic "gzip, br")) [.gzip, .br] ∧
      ¬ Decoded (encodedAs (.fromStatic "gzip, br")) [.gzip, .br] := by
  refine ⟨by decide +kernel, by decide +kernel, fun h => ?_⟩
  rcases h.decoderOf_eq with hnil | ⟨k, hone, _⟩
  · exact absurd hnil (List.cons_ne_nil _ _)
  · exact absurd (List.cons.inj hone).2 (List.cons_ne_nil _ _)

end Example

end Quik
