import Quik.OriginText
import Quik.HeaderText
import Quik.Resend
import Quik.Wire

/-!
# Method and Body along a Chain

What a hop sends for what the call was made with. The first response with
status 301, 302 or 303 turns the method into GET and drops the body, and
nothing brings either back (`rotation_run`). The origin header goes with the
method: it is there exactly for the three methods that carry one, since the
text of an origin is a legal header value (`isLegalText_origin`).

The source builds the request of the HTTP/2 fallback in a second copy of the
code. `fallbackRequest` is that copy, and it builds the request of the hop.

## Main definitions

* `UrlCrate.PrintableHosts`: What the hosts of parsed URLs are made of.
* `fallbackRequest`: The second copy of the request code.
* `CallLog.rotated`: Some earlier response has turned the method.

## Theorems

* `fallbackRequest_eq`: The two copies agree.
* `rotation_run`: Method and body after any chain.
* `requestHeaders_origin_isSome`: When an origin is sent.
* `rotation_sent`: What every request of a run carries.
-/

namespace Quik

open Transition

/-- The parser puts printable ASCII into a domain and nothing else. -/
def UrlCrate.PrintableHosts (c : UrlCrate) : Prop :=
  ∀ s u name, c.parse s = .ok u → u.host = some (.domain name) →
    name.toList.all isPrintable = true

theorem UrlCrate.ofTable_printableHosts {table : List Url}
    (h : table.all (fun u => u.domain.all (fun name => name.toList.all isPrintable)) = true) :
    (UrlCrate.ofTable table).PrintableHosts := by
  intro s u name hparse hhost
  have hu := List.all_eq_true.mp h u (UrlCrate.ofTable_parse hparse).1
  have hdomain : u.domain = some name := by rw [Url.domain, hhost]
  rwa [hdomain, Option.all_some] at hu

/-- Method and body after a chain of responses. -/
theorem rotation_run {c : UrlCrate} {h h' : Hop} {rs : List Response}
    (hrun : run (nextHop c) h rs = some h') :
    h'.currentMethod = (if rs.any (fun r => r.status.rotatesMethod) then "GET"
      else h.currentMethod) ∧
    h'.currentBody = if rs.any (fun r => r.status.rotatesMethod) then none else h.currentBody := by
  induction rs generalizing h with
  | nil =>
      simp only [run_nil, Option.some.injEq] at hrun
      rw [hrun]
      exact ⟨rfl, rfl⟩
  | cons r rs ih =>
      rcases run_cons_eq_some _ hrun with ⟨g, hnext, hrest⟩
      rcases nextHop_eq_some hnext with ⟨_, _, _, _, _, _, hfollow⟩
      rcases ih hrest with ⟨hmethod, hbody⟩
      rw [hmethod, hbody, hfollow, List.any_cons]
      -- A later rotation finds what an earlier one has left.
      cases hr : r.status.rotatesMethod <;>
        simp only [Hop.follow, hr, Bool.true_or, Bool.false_or, if_true, Bool.false_eq_true,
          if_false, ite_self, and_self]

section OriginText

/-- Digits are printable. -/
theorem isLegalText_toDigits {b : Nat} (hb : 1 < b) (hle : b ≤ 16) (n : Nat) :
    isLegalText (String.ofList (Nat.toDigits b n)) = true := by
  refine isLegalText_of_printable ?_
  rw [String.toList_ofList, List.all_eq_true]
  intro ch hch
  rcases digitChar_of_mem_toDigits hb n hch with ⟨d, hd, rfl⟩
  have hdigits : ∀ d < 16, isPrintable d.digitChar = true := by decide
  exact hdigits d (hd.trans_le hle)

theorem isLegalText_toString (n : Nat) : isLegalText (toString n) = true := by
  rw [Nat.toString_eq_repr, ← String.ofList_toList (s := n.repr), Nat.toList_repr]
  exact isLegalText_toDigits (by decide) (by decide) n

theorem isLegalText_hexSegments (segs : List Nat) :
    isLegalText (Host.hexSegments segs) = true := by
  rw [Host.hexSegments, isLegalText_intercalate (by decide +kernel), List.all_map,
    List.all_eq_true]
  exact fun n _ => isLegalText_toDigits (by decide) (Nat.le_refl 16) n

/-- A host is legal text if its name is. -/
theorem isLegalText_host {host : Host}
    (h : ∀ name, host = .domain name → name.toList.all isPrintable = true) :
    isLegalText host.text = true := by
  have hdot : isLegalText "." = true := by decide +kernel
  have hcolons : isLegalText "::" = true := by decide +kernel
  have hbrackets : isLegalText "[" = true ∧ isLegalText "]" = true := by decide +kernel
  cases host with
  | domain name => exact isLegalText_of_printable (h name rfl)
  | ipv4 addr =>
      simp only [Host.text, Host.ipv4Text, isLegalText_append, isLegalText_toString, hdot,
        Bool.and_self]
  | ipv6 addr =>
      simp only [Host.text, isLegalText_append, hbrackets.1, hbrackets.2, Bool.and_true,
        Bool.true_and, Host.ipv6Text]
      split
      · exact isLegalText_hexSegments _
      · simp only [isLegalText_append, isLegalText_hexSegments, hcolons, Bool.and_self]

theorem scheme_of_defaultPort {scheme : String} (h : (defaultPort scheme).isSome = true) :
    scheme = "http" ∨ scheme = "ws" ∨ scheme = "https" ∨ scheme = "wss" ∨ scheme = "ftp" := by
  unfold defaultPort at h
  split at h
  · rename_i hs
    exact hs.elim Or.inl (fun hs => Or.inr (Or.inl hs))
  · split at h
    · rename_i hs
      exact Or.inr (Or.inr (hs.elim Or.inl (fun hs => Or.inr (Or.inl hs))))
    · split at h
      · rename_i hs
        exact Or.inr (Or.inr (Or.inr (Or.inr hs)))
      · exact absurd h (by simp only [Option.isSome_none, Bool.false_eq_true, not_false_eq_true])

/-- The origin of a parsed URL is legal text. -/
theorem isLegalText_origin {c : UrlCrate} (hhosts : c.PrintableHosts) {s : String} {u : Url}
    (hparse : c.parse s = .ok u) : isLegalText u.origin.asciiSerialization = true := by
  cases ho : u.origin with
  | null => decide +kernel
  | tuple scheme host port =>
      rcases origin_eq_tuple ho with ⟨rfl, hh, dflt, hd, _⟩
      have hhost : isLegalText host.text = true :=
        isLegalText_host (fun name hname => hhosts s u name hparse (hname ▸ hh))
      have hscheme : isLegalText u.scheme = true := by
        rcases scheme_of_defaultPort (by rw [hd, Option.isSome_some]) with
          hs | hs | hs | hs | hs <;> rw [hs] <;> decide +kernel
      have hslashes : isLegalText "://" = true := by decide +kernel
      have hcolon : isLegalText ":" = true := by decide +kernel
      rw [Origin.asciiSerialization]
      split <;> simp only [isLegalText_append, isLegalText_toString, hhost, hscheme, hslashes,
        hcolon, Bool.and_self]

end OriginText

/-- An origin is sent exactly on a mutating method. -/
theorem requestHeaders_origin_isSome {c : UrlCrate} (hhosts : c.PrintableHosts) (h : Hop)
    (profile : ChromeProfile) {s : String} {u : Url} (hparse : c.parse s = .ok u)
    (cookieHeader : Option String) (context : RequestContext) (acceptCh : Bool) :
    ((h.requestHeaders c profile u cookieHeader context acceptCh).get "origin").isSome =
      sendsOrigin h.currentMethod := by
  rw [Hop.requestHeaders, requestHeaders_origin]
  cases hm : sendsOrigin h.currentMethod with
  | false => rfl
  | true => rw [if_pos rfl, fromStr_isSome, isLegalText_origin hhosts hparse]

variable {Jar : Type} {cl : Client Jar}

/-- The request of the HTTP/2 fallback, as the source builds it a second
    time. -/
def fallbackRequest (v : Vars cl.crates.url) : Except Error Request :=
  match cl.crates.buildUri v.hop.currentMethod v.parsedUrl.asStr with
  | .error e => .error (.invalidUrl e)
  | .ok uri =>
    let h := HeaderMap.new.insertOk "cookie" (v.cookieHeader.bind HeaderValue.fromStr)
    let h := h.insertOk "origin"
      (if v.hop.currentMethod = "POST" || v.hop.currentMethod = "PUT" ||
          v.hop.currentMethod = "PATCH" then
        HeaderValue.fromStr v.parsedUrl.origin.asciiSerialization
      else none)
    .ok
      { method := v.hop.currentMethod, uri := uri,
        headers := injectChromeHeaders h cl.profile v.hop.secFetchSite (v.hop.hop = 0) v.context
          v.acceptCh (v.hop.refererToSend cl.crates.url) }

/-- The two copies build the same request. -/
theorem fallbackRequest_eq (v : Vars cl.crates.url) : fallbackRequest v = buildRequest v := by
  unfold fallbackRequest buildRequest
  cases cl.crates.buildUri v.hop.currentMethod v.parsedUrl.asStr with
  | error e => rfl
  | ok uri => rfl

/-- Some response the call has evaluated has turned the method. -/
def CallLog.rotated (l : CallLog) : Bool :=
  l.responses.any (fun r => r.status.rotatesMethod)

/-- What a request of a run carries. Method and body are those of the call if no
    response before it has turned them, and otherwise GET and no body; a method
    once turned stays turned; the origin goes with the method; both copies of
    the request code build the request; and whatever else was sent under its
    ticket, over HTTP/3 or by the fallback, is the same request. -/
structure Rotates (cl : Client Jar) (altSvc : AltSvcCache) (jar : Jar) (as : List Action)
    (s : State cl) (r : Sent) : Prop where
  method : r.request.method = if (callLog cl altSvc jar as r.task).rotated then "GET"
    else (callLog cl altSvc jar as r.task).first.currentMethod
  body : r.body = if (callLog cl altSvc jar as r.task).rotated then none
    else (callLog cl altSvc jar as r.task).first.currentBody
  stays : ∀ pre, pre <+: as → (callLog cl altSvc jar pre r.task).rotated = true →
    r.request.method = "GET" ∧ r.body = none
  origin : (r.request.headers.get "origin").isSome = true ↔
    r.request.method = "POST" ∨ r.request.method = "PUT" ∨ r.request.method = "PATCH"
  copies : ∃ v stage, s.tasks r.task = .inHop v stage ∧ buildRequest v = .ok r.request ∧
    fallbackRequest v = .ok r.request
  same : ∀ r' ∈ wire cl altSvc jar as, r'.ticket = r.ticket →
    r'.request = r.request ∧ r'.body = r.body

theorem sendsOrigin_iff {method : String} :
    sendsOrigin method = true ↔ method = "POST" ∨ method = "PUT" ∨ method = "PATCH" := by
  simp only [sendsOrigin, Bool.or_eq_true, decide_eq_true_eq, or_assoc]

/-- Every request of every run, under any interleaving of the calls and with
    any mixture of statuses and transports. -/
theorem rotation_sent (hhosts : cl.crates.url.PrintableHosts) (altSvc : AltSvcCache) (jar : Jar)
    {as : List Action} {s : State cl} (hrun : run step (State.fresh cl altSvc jar) as = some s)
    {a : Action} {r : Sent} (hsent : sentBy s a = some r) : Rotates cl altSvc jar as s r := by
  rcases sentBy_eq_some hsent with ⟨t, input, v, stage, _, htask, _, hof⟩
  have hlog := logged_run altSvc jar hrun t
  rw [htask] at hlog
  rcases rotation_run hlog.2.1 with ⟨hmethod, hbody⟩
  rw [← hof.task] at hmethod hbody htask
  have hsends : r.request.method = v.hop.currentMethod := (buildRequest_eq_ok hof.built).2.1
  rw [← hsends] at hmethod
  rw [← hof.body] at hbody
  constructor
  · exact hmethod
  · exact hbody
  · intro pre hpre hrot
    rcases hpre with ⟨bs, rfl⟩
    -- A rotation is never forgotten, since the log only grows.
    have hsub := (callLog_grows altSvc jar pre r.task hrun).subset
    have hrot' : (callLog cl altSvc jar (pre ++ bs) r.task).rotated = true := by
      rw [CallLog.rotated, List.any_eq_true] at hrot ⊢
      rcases hrot with ⟨resp, hin, hturns⟩
      exact ⟨resp, hsub hin, hturns⟩
    rw [CallLog.rotated] at hrot'
    rw [hmethod, hbody, hrot']
    exact ⟨rfl, rfl⟩
  · rw [buildRequest_headers hof.built, hsends,
      requestHeaders_origin_isSome hhosts v.hop cl.profile v.parsed]
    exact sendsOrigin_iff
  · exact ⟨v, stage, htask, hof.built, (fallbackRequest_eq v).trans hof.built⟩
  · exact fun r' hr' hticket => wire_same altSvc jar hrun hsent hr' hticket

/-- The POST of https://a.test/ whose HTTP/3 attempt was reset is sent again by the
    fallback. A 307 takes it back to the same URL, where it is sent as it was, and a
    303 takes it there once more. -/
def postIsTurned : List Action :=
  postIsReset ++ postIsResent ++
  ([ .respond (.ok (.temporaryRedirect, (redirectTo "https://a.test/").headers, 0)), .go, .go,
    .go, .go, .go, .go, .go, .go, .go, .ready true, .transmit none,
    .respond (.ok (.seeOther, (redirectTo "https://a.test/").headers, 0)), .go, .go, .go, .go,
    .go, .go, .go, .go, .go, .ready true ] : List Input).map (.task 0)

/-- What is sent then is a GET without a body, after three POSTs with it. -/
theorem rotation_turned :
    let cache := AltSvcCache.new.insert "a.test:443" "h3=\":443\""
    ∃ s r, run step cachedA postIsTurned = some s ∧
      sentBy s (.task 0 (.transmit none)) = some r ∧
      (wire direct cache () postIsTurned).map (fun q => (q.request.method, q.body)) =
        List.replicate 3 ("POST", some [104, 105]) ∧
      (r.request.method, r.body) = ("GET", none) ∧
      Rotates direct cache () postIsTurned s r := by
  intro cache
  have hsends : ((run step cachedA postIsTurned).bind
      (fun s => sentBy s (.task 0 (.transmit none)))).map (fun r => (r.request.method, r.body)) =
        some ("GET", none) := by
    decide +kernel
  rcases Option.map_eq_some_iff.mp hsends with ⟨r, hr, hturned⟩
  rcases Option.bind_eq_some_iff.mp hr with ⟨s, hs, hsent⟩
  exact ⟨s, r, hs, hsent, by decide +kernel, hturned,
    rotation_sent (UrlCrate.ofTable_printableHosts (by decide +kernel)) _ () hs hsent⟩

end Quik
