import Quik.HeaderText
import Quik.Ledger
import Quik.Wire

/-!
# Cookies along a Chain

The cookie header of a hop against the jar. In every state of every run the jar
is what it was at first with every stored response replayed on it, and the
responses a call has evaluated are among those, in order, whether the call goes
on, has returned or has failed (`ownInv_run`). A hop reads the jar once, when
the responses of its earlier hops are in it, and its request carries what it
read then and nothing else.

What it carries is not always what it read. The pairs are joined first and the
whole text is checked after, so a single pair that is no legal header value
takes the others with it. The header is right exactly if the pairs are all
legal or all illegal (`cookie_get_iff`).

## Main definitions

* `cookiePairs`, `cookieText`: What the jar matches, and what of it can be sent.
* `ownStores`: The part of a ledger that one task has written.
* `CookiesFollow`: The cookie header of a request follows the jar.

## Theorems

* `requestHeaders_cookie`: The cookie header of a request.
* `ownInv_run`: The ledger holds what each call has evaluated.
* `cookies_follow_iff`: When the header is right.
-/

namespace Quik

open Transition

variable {Jar : Type} {cl : Client Jar}

/-- The pairs the jar matches for a URL, as they are written. -/
def cookiePairs (cl : Client Jar) (jar : Jar) (u : Url) : List String :=
  (cl.crates.cookies jar u).map (fun c => c.1 ++ "=" ++ c.2)

/-- The header that lists every pair that can be sent, if there is one. -/
def cookieText (pairs : List String) : Option String :=
  let legal := pairs.filter isLegalText
  if legal.isEmpty then none else some (String.intercalate "; " legal)

/-- The pairs are all legal header values, or none of them is. -/
def OneKind (pairs : List String) : Prop :=
  (∀ p ∈ pairs, isLegalText p = true) ∨ ∀ p ∈ pairs, isLegalText p = false

instance (pairs : List String) : Decidable (OneKind pairs) :=
  inferInstanceAs (Decidable (_ ∨ _))

/-- The profile's headers leave the cookies alone, but for the flag. -/
theorem injectChromeHeaders_cookie (headers : HeaderMap) (profile : ChromeProfile)
    (site : String) (initial : Bool) (context : RequestContext) (acceptCh : Bool)
    (referer : Option String) :
    ((injectChromeHeaders headers profile site initial context acceptCh referer).get "cookie").map
      HeaderValue.bytes = (headers.get "cookie").map HeaderValue.bytes := by
  unfold injectChromeHeaders
  rw [HeaderMap.get_markSensitive, if_pos (by decide), Option.map_map]
  simp (disch := decide) only [HeaderMap.get_insertOk_of_ne, HeaderMap.get_insert_of_ne]
  rfl

theorem fromStr_map_bytes (s : String) : (HeaderValue.fromStr s).map HeaderValue.bytes =
    if isLegalText s then some (utf8 s) else none := by
  by_cases h : isLegalText s = true
  · rw [if_pos h]
    rw [← fromStr_isSome] at h
    rcases Option.isSome_iff_exists.mp h with ⟨v, hv⟩
    rw [hv, Option.map_some, HeaderValue.fromStr_bytes hv]
  · rw [if_neg h]
    rw [← fromStr_isSome, Option.not_isSome_iff_eq_none] at h
    rw [h, Option.map_none]

/-- The bytes of the cookie header of a request: those of the text that was
    read, if it is legal. -/
theorem requestHeaders_cookie (profile : ChromeProfile) (method : String) (url : Url)
    (cookieHeader : Option String) (site : String) (initial : Bool) (context : RequestContext)
    (acceptCh : Bool) (referer : Option String) :
    ((requestHeaders profile method url cookieHeader site initial context acceptCh referer).get
      "cookie").map HeaderValue.bytes =
        (cookieHeader.filter isLegalText).map utf8 := by
  rw [requestHeaders, injectChromeHeaders_cookie]
  simp (disch := decide) only [HeaderMap.get_insertOk_of_ne, HeaderMap.get_insertOk_self,
    HeaderMap.get_new, Option.or_none]
  cases cookieHeader with
  | none => rfl
  | some text =>
      rw [Option.bind_some, fromStr_map_bytes, Option.filter_some]
      split <;> rfl

theorem cookieHeader_eq (jar : Jar) (u : Url) : cookieHeader cl jar u =
    if (cookiePairs cl jar u).isEmpty then none
    else some (String.intercalate "; " (cookiePairs cl jar u)) := rfl

/-- What is read survives the check if every pair does. -/
theorem filter_cookieHeader (jar : Jar) (u : Url) :
    (cookieHeader cl jar u).filter isLegalText =
      if (cookiePairs cl jar u).all isLegalText then cookieHeader cl jar u else none := by
  rw [cookieHeader_eq]
  by_cases hnil : (cookiePairs cl jar u).isEmpty = true
  · rw [if_pos hnil, ite_self]
    rfl
  · rw [if_neg hnil, Option.filter_some, isLegalText_intercalate (by decide +kernel)]

theorem utf8_map_inj {a b : Option String} (h : a.map utf8 = b.map utf8) : a = b := by
  cases a with
  | none => exact (Option.map_eq_none_iff.mp h.symm).symm
  | some s =>
      rcases Option.map_eq_some_iff.mp h.symm with ⟨t, ht, heq⟩
      rw [ht, utf8_injective heq]

/-- What is read and survives the check, against what can be sent: the two are
    the same exactly if the pairs are of one kind. -/
theorem cookie_get_iff (jar : Jar) (u : Url) :
    ((cookieHeader cl jar u).filter isLegalText).map utf8 =
        (cookieText (cookiePairs cl jar u)).map utf8 ↔ OneKind (cookiePairs cl jar u) := by
  rw [filter_cookieHeader, OneKind]
  by_cases hall : ∀ p ∈ cookiePairs cl jar u, isLegalText p = true
  · -- Every pair is legal: both are the pairs, joined.
    rw [if_pos (List.all_eq_true.mpr hall), cookieHeader_eq, cookieText,
      List.filter_eq_self.mpr hall]
    exact ⟨fun _ => Or.inl hall, fun _ => rfl⟩
  · -- Some pair is not: nothing is sent, which is right if no pair could be.
    rw [if_neg (fun h => hall (List.all_eq_true.mp h)), or_iff_right hall]
    have hnone : cookieText (cookiePairs cl jar u) = none ↔
        ∀ p ∈ cookiePairs cl jar u, isLegalText p = false := by
      simp only [cookieText, ite_eq_left_iff, reduceCtorEq, imp_false, Bool.not_eq_true, not_not,
        List.isEmpty_iff, List.filter_eq_nil_iff]
    rw [← hnone]
    exact ⟨fun h => (utf8_map_inj h).symm, fun h => by rw [h]⟩

/-- The part of a ledger that one task has written. -/
def ownStores (stores : List Stored) (t : Nat) : List (Url × Response) :=
  (stores.filter (fun e => e.task = t)).map (fun e => (e.url, e.resp))

theorem ownStores_concat (stores : List Stored) (e : Stored) (t : Nat) :
    ownStores (stores ++ [e]) t =
      ownStores stores t ++ if e.task = t then [(e.url, e.resp)] else [] := by
  rw [ownStores, List.filter_append, List.map_append, ownStores, List.filter_singleton]
  by_cases h : e.task = t
  · rw [if_pos h, decide_eq_true h]
    rfl
  · rw [if_neg h, decide_eq_false h]
    rfl

/-- The response of the current hop, once it is in the jar. -/
def storedHere (v : Vars cl.crates.url) : Stage → List (Url × Response)
  | .storeHints resp | .storeAltSvc resp | .redirect resp => [(v.parsedUrl, resp)]
  | _ => []

/-- A task against its part of the ledger: what the call has evaluated, and the
    response of the current hop once that is in the jar. What a hop has read of
    its own is what the call had evaluated before. -/
def OwnPc (call : CallLog) (l : Ledger) (t : Nat) : Pc cl.crates.url → Prop
  | .idle => ownStores l.cookies t = [] ∧ call.answers = []
  | .top _ _ | .done _ => ownStores l.cookies t = call.answers
  | .inHop v stage => ownStores l.cookies t = call.answers ++ storedHere v stage ∧
      (stage.cookiesUnread = false → ownStores (l.cookieReads t) t = call.answers)

def OwnInv (x : (Nat → CallLog) × Ledger) (s : State cl) : Prop :=
  ∀ t, OwnPc (x.1 t) x.2 t (s.tasks t)

theorem storedHere_afterClone (v : Vars cl.crates.url) (c? : Option PooledConnection) :
    storedHere v (afterClone c?) = [] := by
  rcases c? with _ | conn | session <;> rfl

theorem storedHere_afterMidLock (v : Vars cl.crates.url) (c? : Option PooledConnection) :
    storedHere v (afterMidLock c?) = [] := by
  rcases c? with _ | conn | session <;> rfl

/-- A move of a hop keeps its task in line. -/
theorem ownPc_move {call : CallLog} {l : Ledger} {t : Nat} {s : State cl}
    {v : Vars cl.crates.url} {stage : Stage} {input : Input} {pc : Pc cl.crates.url}
    {fx : List Effect} (hm : StageMove s v stage input pc fx)
    (h : OwnPc call l t (.inHop v stage)) :
    OwnPc (call.record s (.inHop v stage) input) (l.record t (.inHop v stage) input) t pc := by
  rcases h with ⟨hown, hread⟩
  cases hm with
  -- What is read is what the call has evaluated.
  | cookies =>
      refine ⟨hown, fun _ => ?_⟩
      simp only [Ledger.record, Function.update_self]
      exact hown.trans (List.append_nil _)
  | storeCookies resp =>
      refine ⟨?_, hread⟩
      have hbefore : ownStores l.cookies t = call.answers := hown.trans (List.append_nil _)
      rw [Ledger.record, ownStores_concat, if_pos rfl, hbefore]
      rfl
  | redirected | redirectFailed | answered => exact hown
  | lockClone => exact ⟨by rw [storedHere_afterClone]; exact hown, fun _ => hread rfl⟩
  | midLock => exact ⟨by rw [storedHere_afterMidLock]; exact hown, fun _ => hread rfl⟩
  | _ => first
    | exact ⟨hown, hread⟩
    | exact hown.trans (List.append_nil _)

/-- The top of the loop evaluates nothing. -/
theorem record_top_answers (call : CallLog) (s : State cl) (hop : Hop) (context : RequestContext) :
    (call.record s (.top hop context) .go).answers = call.answers := by
  simp only [CallLog.record]
  split <;> rfl

/-- A step of one task leaves the part of every other. -/
theorem ownStores_record_of_ne (l : Ledger) {t t' : Nat} (pc : Pc cl.crates.url) (input : Input)
    (h : t' ≠ t) : ownStores (l.record t pc input).cookies t' = ownStores l.cookies t' := by
  unfold Ledger.record
  split
  · rfl
  · rfl
  · rw [ownStores_concat, if_neg (fun hc => h hc.symm), List.append_nil]
  · rfl
  · rfl

theorem ownInv_step {x : (Nat → CallLog) × Ledger} {s s' : State cl} {a : Action}
    (hinv : OwnInv x s) (h : step s a = some s') :
    OwnInv (recordCall x.1 s a, recordLedger x.2 s a) s' := by
  intro t'
  cases a with
  | driver session e =>
      rcases step_driver_eq_some h with ⟨d, d', _, _, rfl⟩
      exact hinv t'
  | task t input =>
      rcases step_task_eq_some h with ⟨pc, fx, hm, rfl⟩
      rw [State.after_tasks]
      by_cases ht : t' = t
      · rw [ht, Function.update_self]
        simp only [recordCall, recordLedger, Function.update_self]
        have hpc := hinv t
        generalize s.tasks t = pc₀ at hm hpc
        cases hm with
        -- A call begins with an empty log, a hop with the log of the hop before.
        | call => exact hpc.1
        | enter v =>
            refine ⟨?_, fun hc => absurd hc Bool.true_eq_false_eq_False⟩
            rw [record_top_answers]
            exact hpc.trans (List.append_nil _).symm
        | refuse hop context e => exact hpc.trans (record_top_answers _ s hop context).symm
        | stage hm => exact ownPc_move hm hpc
      · -- What another task stores or reads is not in this one's share.
        rw [Function.update_of_ne ht]
        have hpc := hinv t'
        have hown := ownStores_record_of_ne x.2 (s.tasks t) input ht
        have hreads := (record_reads_of_ne x.2 (s.tasks t) input ht).1
        revert hpc
        simp only [recordCall, recordLedger, Function.update_of_ne ht]
        cases s.tasks t' <;> simp only [OwnPc, hown, hreads] <;> exact id

/-- At the end of every run. -/
theorem ownInv_run (altSvc : AltSvcCache) (jar : Jar) {as : List Action} {s : State cl}
    (hrun : run step (State.fresh cl altSvc jar) as = some s) :
    OwnInv (callLog cl altSvc jar as, ledger cl altSvc jar as) s := by
  have hfresh : OwnInv (fun _ => {}, {}) (State.fresh cl altSvc jar) := fun _ => ⟨rfl, rfl⟩
  have h := history_invariant step (J := OwnInv) (fun _ _ _ _ hinv hs => ownInv_step hinv hs)
    hfresh hrun
  rwa [history_prod] at h

/-- The cookie header of a request follows the jar. The jar is what it was at
    first with the ledger replayed on it, and every response that any call has
    evaluated is in the ledger, whatever became of the call. The request was
    made of what the jar held at one time, when of the responses of its own call
    exactly the earlier ones were in it; and it carries the pairs the jar
    matched then that can be sent, in order, and nothing else. -/
structure CookiesFollow (cl : Client Jar) (altSvc : AltSvcCache) (jar : Jar) (as : List Action)
    (s : State cl) (r : Sent) : Prop where
  kept : s.jar = jarAfter cl jar (ledger cl altSvc jar as).cookies
  stored : ∀ t, (callLog cl altSvc jar as t).answers <+:
    ownStores (ledger cl altSvc jar as).cookies t
  read : (ledger cl altSvc jar as).cookieReads r.task <+: (ledger cl altSvc jar as).cookies
  earlier : ownStores ((ledger cl altSvc jar as).cookieReads r.task) r.task =
    (callLog cl altSvc jar as r.task).answers
  header : (r.request.headers.get "cookie").map HeaderValue.bytes =
    (cookieText (cookiePairs cl
      (jarAfter cl jar ((ledger cl altSvc jar as).cookieReads r.task)) r.url)).map utf8

theorem OwnPc.evaluated {call : CallLog} {l : Ledger} {t : Nat} {pc : Pc cl.crates.url}
    (h : OwnPc call l t pc) : call.answers <+: ownStores l.cookies t := by
  cases pc with
  | idle => rw [h.2]; exact List.nil_prefix
  | top hop context | done res => exact h ▸ List.prefix_rfl
  | inHop v stage => rw [h.1]; exact List.prefix_append _ _

theorem Stage.cookiesUnread_of_sends {stage : Stage} (h : stage.sends = true) :
    stage.cookiesUnread = false := by
  cases stage <;> first
    | rfl
    | exact absurd h Bool.false_ne_true

/-- Every request of every run follows the jar exactly if the pairs the jar
    matched for it, when it was read, are of one kind. -/
theorem cookies_follow_iff (altSvc : AltSvcCache) (jar : Jar) {as : List Action} {s : State cl}
    (hrun : run step (State.fresh cl altSvc jar) as = some s) {a : Action} {r : Sent}
    (hsent : sentBy s a = some r) :
    CookiesFollow cl altSvc jar as s r ↔ OneKind (cookiePairs cl
      (jarAfter cl jar ((ledger cl altSvc jar as).cookieReads r.task)) r.url) := by
  have hledger := ledgerInv_run altSvc jar hrun
  have hown := ownInv_run altSvc jar hrun
  rcases sentBy_eq_some hsent with ⟨t, input, v, stage, _, htask, hsends, hof⟩
  rw [← hof.task] at htask
  have hread := Stage.cookiesUnread_of_sends hsends
  have hhop := hledger.hops r.task
  rw [htask] at hhop
  -- The bytes of the header are those of what was read, if it is legal.
  have hheader : (r.request.headers.get "cookie").map HeaderValue.bytes =
      ((cookieHeader cl (jarAfter cl jar ((ledger cl altSvc jar as).cookieReads r.task))
        r.url).filter isLegalText).map utf8 := by
    rw [buildRequest_headers hof.built, Hop.requestHeaders, requestHeaders_cookie, hhop.1 hread,
      hof.url]
  rw [← cookie_get_iff, ← hheader]
  constructor
  · exact fun h => h.header
  · intro h
    refine ⟨hledger.jar, fun t => (hown t).evaluated, (hledger.reads r.task).1, ?_, h⟩
    have hpc := hown r.task
    rw [htask] at hpc
    exact hpc.2 hread

section Example

/-- A jar that keeps every cookie and matches it with every URL. -/
def listJar : Client (List (String × String)) where
  crates :=
    { url := UrlCrate.ofTable [siteA], buildUri := direct.crates.buildUri
      cookies := fun jar _ => jar
      parseCookie := fun jar text _ =>
        let name := text.toList.takeWhile (fun ch => ch ≠ '=')
        jar ++ [(String.ofList name, String.ofList (text.toList.drop (name.length + 1)))] }
  profile := direct.profile
  proxy := none

/-- A redirect from https://a.test/ to itself that sets a cookie. -/
def setsCookie : HeaderMap :=
  (redirectTo "https://a.test/").headers.insert "set-cookie" (.fromStatic "a=1")

/-- A GET of https://a.test/, up to its request. -/
def firstRequest : List Action :=
  ([ .call "GET" "https://a.test/" none .navigate, .go, .go, .go, .go, .go, .go,
    .dial (.connected { ip := .v4 0, port := 443 } none) ] : List Input).map (.task 0)

/-- It is answered with a redirect, and the redirect is followed up to the
    second request. -/
def requestAfter (headers : HeaderMap) : List Action :=
  firstRequest ++ ([ .transmit none, .respond (.ok (.found, headers, 0)), .go, .go, .go, .go,
    .go, .go, .go, .go, .go, .ready true ] : List Input).map (.task 0)

def secondRequest : List Action :=
  requestAfter setsCookie

/-- The cookie that was set comes with the next request. -/
theorem cookies_follow_set :
    ∃ s r, run step (State.fresh listJar .new []) secondRequest = some s ∧
      sentBy s (.task 0 (.transmit none)) = some r ∧
      CookiesFollow listJar .new [] secondRequest s r ∧
      (r.request.headers.get "cookie").map HeaderValue.bytes = some (utf8 "a=1") := by
  have hsends : ((run step (State.fresh listJar .new []) secondRequest).bind
      (fun s => sentBy s (.task 0 (.transmit none)))).map
        (fun r => (r.task, (r.request.headers.get "cookie").map HeaderValue.bytes)) =
          some (0, some (utf8 "a=1")) := by
    decide +kernel
  have hread : jarAfter listJar [] ((ledger listJar .new [] secondRequest).cookieReads 0) =
      [("a", "1")] := by
    decide +kernel
  rcases Option.map_eq_some_iff.mp hsends with ⟨r, hr, hobs⟩
  rcases Option.bind_eq_some_iff.mp hr with ⟨s, hs, hsent⟩
  rw [Prod.mk.injEq] at hobs
  refine ⟨s, r, hs, hsent, (cookies_follow_iff .new [] hs hsent).mpr ?_, hobs.2⟩
  rw [hobs.1, hread]
  have hlegal : OneKind ["a=1"] := by decide +kernel
  exact hlegal

/-- A line feed in one cookie, which only the caller can have put there, leaves
    every cookie out of the request. -/
theorem cookie_suppressed :
    ∃ s r, run step (State.fresh listJar .new [("a", "1"), ("b", "\n")]) firstRequest = some s ∧
      sentBy s (.task 0 (.transmit none)) = some r ∧
      ¬ CookiesFollow listJar .new [("a", "1"), ("b", "\n")] firstRequest s r := by
  have hsends : ((run step (State.fresh listJar .new [("a", "1"), ("b", "\n")]) firstRequest).bind
      (fun s => sentBy s (.task 0 (.transmit none)))).map
        (fun r => (r.task, (r.request.headers.get "cookie").map HeaderValue.bytes)) =
          some (0, none) := by
    decide +kernel
  have hread : jarAfter listJar [("a", "1"), ("b", "\n")]
      ((ledger listJar .new [("a", "1"), ("b", "\n")] firstRequest).cookieReads 0) =
        [("a", "1"), ("b", "\n")] := by
    decide +kernel
  rcases Option.map_eq_some_iff.mp hsends with ⟨r, hr, hobs⟩
  rcases Option.bind_eq_some_iff.mp hr with ⟨s, hs, hsent⟩
  rw [Prod.mk.injEq] at hobs
  refine ⟨s, r, hs, hsent, fun hfollow => ?_⟩
  have hheader := hfollow.header
  rw [hobs.2, hobs.1, hread] at hheader
  have htext : cookieText (cookiePairs listJar [("a", "1"), ("b", "\n")] r.url) = some "a=1" := by
    have hpairs : cookieText ["a=1", "b=\n"] = some "a=1" := by decide +kernel
    exact hpairs
  rw [htext] at hheader
  exact absurd hheader (by simp only [Option.map_some, reduceCtorEq, not_false_eq_true])

end Example

end Quik
