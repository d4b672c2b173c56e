import Quik.CookieChain
import Quik.Library.FieldSyntax
import Quik.OriginText

/-!
# Solicited Client Hints

The platform version is sent to the origins that have asked for it in an
Accept-CH field. The field is a comma-separated list of tokens, over all its
lines and in any letter case (`solicits`). The client looks at the first line
only, as text, and searches it for the name of the hint (`asks`). So it takes
`x-sec-ch-ua-platform-version-list` for a request, and does not see a second
line.

The hint cache is keyed by the serialized origin. Two origins that are not
opaque are written alike only if they are the same (`sameText_iff`), and no
origin is written like an opaque one; all opaque origins share one entry.

A request follows what its origin has solicited exactly if, among the responses
the hop can know of, the search finds the hint where the list has it
(`hints_follow_iff`).

## Main definitions

* `solicits`: The field read as a list, beside the client's reading `asks`.
* `UrlCrate.HostsByText`: A parsed host is determined by its text.
* `Recognised`: The two readings come to the same for one URL.
* `HintsFollow`: A request has the hint exactly if it was solicited.

## Theorems

* `asks_iff`: The client's reading in terms of list elements.
* `hintsAfter_iff`: The hint cache after a list of responses.
* `hints_follow_iff`: When the hint is sent as it should be.
-/

namespace Quik

open Transition
open FieldSyntax

variable {Jar : Type} {cl : Client Jar}

/-- The Accept-CH field, read as one list over all its lines, has the hint. -/
def solicits (resp : Response) : Bool :=
  (fieldList ((resp.headers.getAll "accept-ch").map lowerLine)).contains platformVersion.toList

/-- The client finds the hint if an element of the first line has its name in
    it, as long as that line is text. -/
theorem asks_iff (resp : Response) : asks resp = true ↔
    ∃ line ∈ resp.headers.get "accept-ch", line.bytes.all isVisibleAscii = true ∧
      ∃ e ∈ fieldList [lowerLine line], platformVersion.toList <:+: e := by
  unfold asks
  cases hget : resp.headers.get "accept-ch" with
  | none =>
      simp only [Option.bind_none, Bool.false_eq_true, Option.mem_def, reduceCtorEq, false_and,
        exists_false]
  | some line =>
      rw [Option.bind_some, HeaderValue.toStr_eq]
      simp only [Option.mem_def, Option.some.injEq, exists_eq_left']
      by_cases htext : line.bytes.all isVisibleAscii = true
      · have hsub : containsStr (String.ofList line.chars).toLower platformVersion = true ↔
            platformVersion.toList <:+: lowerLine line := by
          change containsStr (String.map Char.toLower (String.ofList line.chars)) _ = true ↔ _
          rw [containsStr, decide_eq_true_eq, String.toList_map, String.toList_ofList]
          rfl
        simp only [htext, if_true, true_and, hsub]
        -- The name has no comma, so where the line has it an element has it.
        constructor
        · exact mem_fieldList_of_infix (by decide) (List.all_eq_true.mp (by decide))
            (List.mem_singleton_self _)
        · rintro ⟨e, he, hin⟩
          rcases infix_of_mem_fieldList he with ⟨l, hl, hel⟩
          exact List.mem_singleton.mp hl ▸ hin.trans hel
      · simp only [htext, Bool.false_eq_true, if_false, false_and]

/-- An origin is in the hint cache after a list of responses if one of them
    asked, and its origin is written the same. -/
theorem hintsAfter_iff (stores : List Stored) (key : String) : hintsAfter stores key = true ↔
    ∃ e ∈ stores, e.url.origin.asciiSerialization = key ∧ asks e.resp = true := by
  induction stores using List.reverseRecOn with
  | nil =>
      exact ⟨fun h => absurd h Bool.false_ne_true,
        fun ⟨_, he, _⟩ => absurd he List.not_mem_nil⟩
  | append_singleton stores e ih =>
      rw [hintsAfter_concat, storeHints_asks]
      simp only [List.mem_append, List.mem_singleton, or_and_right, exists_or, exists_eq_left, ← ih]
      by_cases hasks : asks e.resp = true
      · rw [if_pos hasks, Function.update_apply]
        by_cases hkey : key = e.url.origin.asciiSerialization
        · simp only [hkey, if_true, hasks, and_self, or_true]
        · have hkey' : ¬ e.url.origin.asciiSerialization = key := fun hc => hkey hc.symm
          simp only [hkey, hkey', if_false, false_and, or_false]
      · simp only [hasks, Bool.false_eq_true, if_false, and_false, or_false]

/-- Two parsed URLs of one scheme have the same host if they write it the
    same. -/
def UrlCrate.HostsByText (c : UrlCrate) : Prop :=
  ∀ s s' u u', c.parse s = .ok u → c.parse s' = .ok u' → u.scheme = u'.scheme →
    u.hostStr = u'.hostStr → u.host = u'.host

theorem UrlCrate.ofTable_hostsByText {table : List Url}
    (h : table.all (fun u =>
      table.all (fun v => u.hostStr ≠ v.hostStr || u.host = v.host)) = true) :
    (UrlCrate.ofTable table).HostsByText := by
  intro s s' u u' hu hu' _ htext
  have hrow := List.all_eq_true.mp h u (UrlCrate.ofTable_parse hu).1
  have hpair := List.all_eq_true.mp hrow u' (UrlCrate.ofTable_parse hu').1
  rw [Bool.or_eq_true, decide_eq_true_eq, decide_eq_true_eq] at hpair
  exact hpair.resolve_left (fun hne => hne htext)

/-- An opaque origin is written like no other. -/
theorem serialization_ne_null {u : Url} (h : u.origin ≠ .null) :
    u.origin.asciiSerialization ≠ Origin.null.asciiSerialization := by
  intro heq
  have hcolon : ':' ∈ u.origin.asciiSerialization.toList := by
    rw [serialization_tuple h]
    simp only [String.toList_append, List.mem_append]
    exact Or.inl (Or.inl (Or.inr (by decide)))
  rw [heq] at hcolon
  exact absurd hcolon (by decide)

/-- Two origins, one of them not opaque, are written the same exactly if they
    are the same. -/
theorem sameText_iff {c : UrlCrate} (hlegal : c.LegalHosts) (hhosts : c.HostsByText)
    {s s' : String} {u u' : Url} (hparse : c.parse s = .ok u) (hparse' : c.parse s' = .ok u')
    (h' : u'.origin ≠ .null) :
    u.origin.asciiSerialization = u'.origin.asciiSerialization ↔ sameOrigin u u' = true := by
  constructor
  · intro heq
    have h : u.origin ≠ .null := fun hnull => serialization_ne_null h' (heq ▸ congrArg _ hnull)
    rcases serialization_inj hlegal hparse hparse' h h' heq with ⟨hscheme, htext, hport⟩
    rcases Option.isSome_iff_exists.mp (origin_ne_null_iff.mp h).2 with ⟨host, hh⟩
    rcases Option.isSome_iff_exists.mp (origin_ne_null_iff.mp h').2 with ⟨host', hh'⟩
    have hstr : u.hostStr = u'.hostStr := by
      rw [Url.hostText, Url.hostText, Url.hostStr, Url.hostStr, hh, hh'] at htext
      rw [Url.hostStr, Url.hostStr, hh, hh']
      exact congrArg some htext
    have horigin : u.origin = u'.origin := by
      rw [Url.origin, Url.origin, hscheme, hport, hhosts s s' u u' hparse hparse' hscheme hstr]
    exact decide_eq_true ⟨h, horigin⟩
  · intro h
    rw [(of_decide_eq_true h).2]

/-- The responses of a list that came from the origin of a URL; from an opaque
    origin. -/
def fromOrigin (stores : List Stored) (u : Url) : List Response :=
  (stores.filter (fun e => sameOrigin e.url u)).map Stored.resp

def fromOpaque (stores : List Stored) : List Response :=
  (stores.filter (fun e => e.url.origin = .null)).map Stored.resp

/-- The client's reading and the list come to the same for a URL: of the
    responses from its origin, one asks exactly if one solicits. For a URL with
    an opaque origin, which no response shares, none from such an origin asks. -/
def Recognised (stores : List Stored) (u : Url) : Prop :=
  (fromOrigin stores u).any asks = (fromOrigin stores u).any solicits ∧
    (u.origin = .null → (fromOpaque stores).any asks = false)

instance (stores : List Stored) (u : Url) : Decidable (Recognised stores u) :=
  inferInstanceAs (Decidable (_ ∧ _))

/-- It is enough that every response is read alike, and that none is from an
    opaque origin. -/
theorem recognised_of_alike {stores : List Stored} (u : Url)
    (h : ∀ e ∈ stores, asks e.resp = solicits e.resp ∧ e.url.origin ≠ .null) :
    Recognised stores u := by
  refine ⟨?_, fun _ => ?_⟩
  · rw [fromOrigin, List.any_map, List.any_map, List.any_filter, List.any_filter, Bool.eq_iff_iff]
    simp only [List.any_eq_true, Function.comp_apply]
    exact exists_congr fun e => and_congr_right fun he => by rw [(h e he).1]
  · have hnil : stores.filter (fun e => e.url.origin = .null) = [] :=
      List.filter_eq_nil_iff.mpr fun e he hnull => (h e he).2 (of_decide_eq_true hnull)
    rw [fromOpaque, hnil]
    rfl

theorem any_fromOrigin (stores : List Stored) (u : Url) (p : Response → Bool) :
    (fromOrigin stores u).any p = true ↔
      ∃ e ∈ stores, sameOrigin e.url u = true ∧ p e.resp = true := by
  rw [fromOrigin, List.any_map, List.any_filter]
  simp only [List.any_eq_true, Function.comp_apply, Bool.and_eq_true]

theorem any_fromOpaque (stores : List Stored) (p : Response → Bool) :
    (fromOpaque stores).any p = true ↔
      ∃ e ∈ stores, e.url.origin = .null ∧ p e.resp = true := by
  rw [fromOpaque, List.any_map, List.any_filter]
  simp only [List.any_eq_true, Function.comp_apply, Bool.and_eq_true, decide_eq_true_eq]

/-- The URLs of a list of stores were parsed. -/
def ParsedStores (c : UrlCrate) (stores : List Stored) : Prop :=
  ∀ e ∈ stores, ∃ s, c.parse s = .ok e.url

/-- What the hint cache answers for a URL is what the list solicits exactly if
    the readings come to the same. -/
theorem hintsAfter_eq_iff {c : UrlCrate} (hlegal : c.LegalHosts) (hhosts : c.HostsByText)
    {stores : List Stored} (hparsed : ParsedStores c stores) {s : String} {u : Url}
    (hparse : c.parse s = .ok u) :
    (hintsAfter stores u.origin.asciiSerialization = true ↔
      ∃ e ∈ stores, sameOrigin e.url u = true ∧ solicits e.resp = true) ↔
        Recognised stores u := by
  have hreadings : (fromOrigin stores u).any asks = (fromOrigin stores u).any solicits ↔
      ((fromOrigin stores u).any asks = true ↔ (fromOrigin stores u).any solicits = true) :=
    Bool.eq_iff_iff
  rw [Recognised, hreadings, ← any_fromOrigin, hintsAfter_iff]
  by_cases hnull : u.origin = .null
  · -- No origin is the same, and the opaque ones are written the same.
    have hnone : ∀ p, ¬ (fromOrigin stores u).any p = true := by
      intro p h
      rcases (any_fromOrigin stores u p).mp h with ⟨e, _, hsame, _⟩
      exact (of_decide_eq_true hsame).1 ((of_decide_eq_true hsame).2.trans hnull)
    have htext : (∃ e ∈ stores, e.url.origin.asciiSerialization = u.origin.asciiSerialization ∧
        asks e.resp = true) ↔ (fromOpaque stores).any asks = true := by
      rw [any_fromOpaque]
      refine exists_congr fun e => and_congr_right fun _ => and_congr_left fun _ => ?_
      rw [hnull]
      exact ⟨fun h => Classical.by_contradiction fun hne => serialization_ne_null hne h,
        fun h => by rw [h]⟩
    rw [htext, iff_false_right (hnone solicits), Bool.not_eq_true]
    exact ⟨fun h => ⟨iff_of_false (hnone asks) (hnone solicits), fun _ => h⟩, fun h => h.2 hnull⟩
  · -- The entries of the cache are those of the same origin.
    have htext : (∃ e ∈ stores, e.url.origin.asciiSerialization = u.origin.asciiSerialization ∧
        asks e.resp = true) ↔ (fromOrigin stores u).any asks = true := by
      rw [any_fromOrigin]
      refine exists_congr fun e => and_congr_right fun he => and_congr_left fun _ => ?_
      rcases hparsed e he with ⟨s', hs'⟩
      exact sameText_iff hlegal hhosts hs' hparse hnull
    rw [htext]
    exact ⟨fun h => ⟨h, fun hc => absurd hc hnull⟩, fun h => h.1⟩

/-- Only the profile writes the hint, if it was solicited. -/
theorem requestHeaders_platformVersion (profile : ChromeProfile) (method : String) (url : Url)
    (cookieHeader : Option String) (site : String) (initial : Bool) (context : RequestContext)
    (acceptCh : Bool) (referer : Option String) :
    (requestHeaders profile method url cookieHeader site initial context acceptCh referer).get
      platformVersion =
        if acceptCh then HeaderValue.fromStr profile.headers.secChUaPlatformVersion else none := by
  unfold requestHeaders injectChromeHeaders platformVersion
  rw [HeaderMap.get_markSensitive, if_neg (by decide)]
  simp (disch := decide) only [HeaderMap.get_insertOk_of_ne, HeaderMap.get_insert_of_ne,
    HeaderMap.get_insertOk_self, HeaderMap.get_new, Option.or_none]

/-- In every run the responses in the ledger are those of parsed URLs. -/
theorem ledger_parsed (altSvc : AltSvcCache) (jar : Jar) {as : List Action} {s : State cl}
    (hrun : run step (State.fresh cl altSvc jar) as = some s) :
    ParsedStores cl.crates.url (ledger cl altSvc jar as).hints := by
  refine history_invariant step (J := fun (l : Ledger) _ => ParsedStores cl.crates.url l.hints)
    (fun l s a s' hl _ => ?_) (fun e he => absurd he List.not_mem_nil) hrun
  cases a with
  | driver session e => exact hl
  | task t input =>
      simp only [recordLedger]
      unfold Ledger.record
      split
      · exact hl
      · exact hl
      · exact hl
      · rename_i v resp _ _
        intro e he
        rcases List.mem_append.mp he with he | he
        · exact hl e he
        · rw [List.mem_singleton.mp he]
          exact ⟨_, v.parsed⟩
      · exact hl

/-- A request has the hint exactly if, before its hop read the hint cache, a
    response from its origin was processed whose Accept-CH field lists it. -/
structure HintsFollow (cl : Client Jar) (altSvc : AltSvcCache) (jar : Jar) (as : List Action)
    (r : Sent) : Prop where
  read : (ledger cl altSvc jar as).hintReads r.task <+: (ledger cl altSvc jar as).hints
  header : (r.request.headers.get platformVersion).isSome = true ↔
    ∃ e ∈ (ledger cl altSvc jar as).hintReads r.task,
      sameOrigin e.url r.url = true ∧ solicits e.resp = true

theorem Stage.unread_of_sends {stage : Stage} (h : stage.sends = true) :
    stage.unread = false := by
  cases stage <;> first
    | rfl
    | exact absurd h Bool.false_ne_true

/-- Every request of every run has the hint as it should exactly if what was
    read before it is recognised for its URL. -/
theorem hints_follow_iff (hlegal : cl.crates.url.LegalHosts) (hhosts : cl.crates.url.HostsByText)
    (hvalue : isLegalText cl.profile.headers.secChUaPlatformVersion = true)
    (altSvc : AltSvcCache) (jar : Jar) {as : List Action} {s : State cl}
    (hrun : run step (State.fresh cl altSvc jar) as = some s) {a : Action} {r : Sent}
    (hsent : sentBy s a = some r) :
    HintsFollow cl altSvc jar as r ↔
      Recognised ((ledger cl altSvc jar as).hintReads r.task) r.url := by
  have hledger := ledgerInv_run altSvc jar hrun
  have hreads := (hledger.reads r.task).2
  rcases sentBy_eq_some hsent with ⟨t, input, v, stage, _, htask, hsends, hof⟩
  rw [← hof.task] at htask
  have hhop := hledger.hops r.task
  rw [htask] at hhop
  -- The header is there if the cache had the origin when it was read.
  have hheader : (r.request.headers.get platformVersion).isSome =
      hintsAfter ((ledger cl altSvc jar as).hintReads r.task) r.url.origin.asciiSerialization := by
    rw [buildRequest_headers hof.built, Hop.requestHeaders, requestHeaders_platformVersion,
      hhop.2 (Stage.unread_of_sends hsends), hof.url]
    split
    · rename_i hcache
      rw [fromStr_isSome, hvalue, hcache]
    · rename_i hcache
      rw [Bool.eq_false_iff.mpr hcache, Option.isSome_none]
  have hparsed : ParsedStores cl.crates.url ((ledger cl altSvc jar as).hintReads r.task) :=
    fun e he => ledger_parsed altSvc jar hrun e (hreads.subset he)
  rw [← hintsAfter_eq_iff hlegal hhosts hparsed (hof.url ▸ v.parsed), ← hheader]
  exact ⟨fun h => h.header, fun h => ⟨hreads, h⟩⟩

section Example

/-- A redirect from https://a.test/ to itself with an Accept-CH line. -/
def soliciting (line : HeaderValue) : HeaderMap :=
  (redirectTo "https://a.test/").headers.insert "accept-ch" line

/-- The line asks for the hint, and the next request has it. -/
theorem hints_follow_solicited :
    ∃ s r, run step (State.fresh direct .new ())
        (requestAfter (soliciting (.fromStatic "Sec-CH-UA-Platform-Version"))) = some s ∧
      sentBy s (.task 0 (.transmit none)) = some r ∧
      HintsFollow direct .new ()
        (requestAfter (soliciting (.fromStatic "Sec-CH-UA-Platform-Version"))) r ∧
      (r.request.headers.get platformVersion).isSome = true := by
  have hsends : ((run step (State.fresh direct .new ())
      (requestAfter (soliciting (.fromStatic "Sec-CH-UA-Platform-Version")))).bind
      (fun s => sentBy s (.task 0 (.transmit none)))).map
        (fun r => (r.task, r.url, (r.request.headers.get platformVersion).isSome)) =
          some (0, siteA, true) := by
    decide +kernel
  have hread : Recognised ((ledger direct .new ()
      (requestAfter (soliciting (.fromStatic "Sec-CH-UA-Platform-Version")))).hintReads 0)
      siteA := by
    decide +kernel
  rcases Option.map_eq_some_iff.mp hsends with ⟨r, hr, hobs⟩
  rcases Option.bind_eq_some_iff.mp hr with ⟨s, hs, hsent⟩
  rw [Prod.mk.injEq, Prod.mk.injEq] at hobs
  refine ⟨s, r, hs, hsent, (hints_follow_iff (UrlCrate.ofTable_legalHosts (by decide +kernel))
    (UrlCrate.ofTable_hostsByText (by decide +kernel)) (by decide +kernel) .new () hs hsent).mpr ?_,
    hobs.2.2⟩
  rw [hobs.1, hobs.2.1]
  exact hread

/-- The line asks for another hint, whose name has this one's in it. -/
theorem hint_unsolicited :
    ∃ s r, run step (State.fresh direct .new ())
        (requestAfter (soliciting (.fromStatic "sec-ch-ua-platform-version-list"))) = some s ∧
      sentBy s (.task 0 (.transmit none)) = some r ∧
      ¬ HintsFollow direct .new ()
        (requestAfter (soliciting (.fromStatic "sec-ch-ua-platform-version-list"))) r := by
  have hsends : ((run step (State.fresh direct .new ())
      (requestAfter (soliciting (.fromStatic "sec-ch-ua-platform-version-list")))).bind
      (fun s => sentBy s (.task 0 (.transmit none)))).map
        (fun r => (r.task, (r.request.headers.get platformVersion).isSome)) = some (0, true) := by
    decide +kernel
  have hread : ((ledger direct .new () (requestAfter
      (soliciting (.fromStatic "sec-ch-ua-platform-version-list")))).hintReads 0).all
        (fun e => !solicits e.resp) = true := by
    decide +kernel
  rcases Option.map_eq_some_iff.mp hsends with ⟨r, hr, hobs⟩
  rcases Option.bind_eq_some_iff.mp hr with ⟨s, hs, hsent⟩
  rw [Prod.mk.injEq] at hobs
  refine ⟨s, r, hs, hsent, fun hfollow => ?_⟩
  rcases hfollow.header.mp hobs.2 with ⟨e, he, _, hsolicits⟩
  rw [hobs.1] at he
  have hnot := List.all_eq_true.mp hread e he
  rw [hsolicits] at hnot
  exact absurd hnot (by decide)

end Example

end Quik
