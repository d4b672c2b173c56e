import Quik.AltSvcKey
import Quik.HeaderText
import Quik.Library.FieldSyntax

/-!
# The Alt-Svc Field

An Alt-Svc field is the word `clear` or a list of alternatives: a protocol, an
equals sign, the authority as a quoted string, and parameters after semicolons.
Its lines are one list. `parseAltSvc` reads it; whatever is written by that
grammar, with white space and empty elements where they may stand, it reads as
what was meant (`parseAltSvc_text`).

The client does not read it. It looks for the two letters `h3` anywhere in the
first line and files that line. So an authority or a parameter with the letters
in it is taken for an offer, and `clear` withdraws nothing: an entry leaves the
cache only when a dial fails. An offer is missed where it stands in a later
line, or is filed where its origin does not look.

## Main definitions

* `AltService`, `AltSvcValue`: What a field says.
* `parseAltSvc`: The field read by its grammar.
* `AltService.Text`, `ListText`: The grammar.
* `demand`: Whether the field wants the origin on HTTP/3.
* `AltSvcFollows`: The cache does what the field demands.

## Theorems

* `parseAltSvc_text`: What is written is read.
* `mentionsH3_of_offer`: An offer in a single line is noticed.
* `altSvcFollows_iff`: When the cache does what the field demands.
-/

namespace Quik

open FieldSyntax

/-- One alternative. -/
structure AltService where
  protocol : List Char
  authority : List Char
  params : List (List Char × List Char) := []
deriving DecidableEq

/-- The value of a field. -/
inductive AltSvcValue where
  | clear
  | alternatives (services : List AltService)
deriving DecidableEq

/-- One element of the list: a protocol with its authority, then parameters. -/
def parseAltService (piece : List Char) : Option AltService :=
  match (splitUnquoted ';' piece).map trimOws with
  | [] => none
  | alternative :: params =>
    match namedValue? quotedString? alternative, params.mapM (namedValue? tokenOrQuoted?) with
    | some (protocol, authority), some ps =>
      some { protocol := protocol, authority := authority, params := ps }
    | _, _ => none

/-- The elements of the list that are not empty. -/
def altSvcElements (lines : List (List Char)) : List (List Char) :=
  ((splitUnquoted ',' ([','].intercalate lines)).map trimOws).filter (fun e => !e.isEmpty)

/-- The field: all its lines are one list. -/
def parseAltSvc (lines : List (List Char)) : Option AltSvcValue :=
  if trimOws ([','].intercalate lines) = "clear".toList then some .clear
  else if (altSvcElements lines).isEmpty then none
  else ((altSvcElements lines).mapM parseAltService).map .alternatives

section Grammar

/-- White space. -/
def IsBlank (l : List Char) : Prop :=
  ∀ c ∈ l, isOws c = true

/-- A parameter, its value as a token or quoted. -/
inductive ParamText : List Char × List Char → List Char → Prop where
  | token {name value} : IsToken name → IsToken value →
      ParamText (name, value) (name ++ '=' :: value)
  | quoted {name value} : IsToken name → ParamText (name, value) (name ++ '=' :: quote value)

/-- Parameters, each after a semicolon with white space around it. -/
inductive ParamsText : List (List Char × List Char) → List Char → Prop where
  | nil : ParamsText [] []
  | cons {p ps a b text rest} : IsBlank a → IsBlank b → ParamText p text → ParamsText ps rest →
      ParamsText (p :: ps) (a ++ ';' :: (b ++ text ++ rest))

/-- An alternative with its parameters. -/
inductive AltService.Text : AltService → List Char → Prop where
  | mk {protocol authority params rest} : IsToken protocol → ParamsText params rest →
      Text ⟨protocol, authority, params⟩ (protocol ++ '=' :: quote authority ++ rest)

/-- The pieces between the commas: alternatives with white space around them,
    and blanks. -/
inductive ListText : List AltService → List (List Char) → Prop where
  | nil : ListText [] []
  | blank {services pieces piece} : IsBlank piece → ListText services pieces →
      ListText services (piece :: pieces)
  | cons {s services pieces a text b} : IsBlank a → IsBlank b → s.Text text →
      ListText services pieces → ListText (s :: services) ((a ++ text ++ b) :: pieces)

/-- A character that separates: it is in no token and no name, and it is not
    white space. -/
structure IsSep (sep : Char) : Prop where
  tchar : isTchar sep = false
  ows : isOws sep = false
  equals : sep ≠ '='
  dquote : sep ≠ '"'

theorem isSep_comma : IsSep ',' := by
  constructor <;> decide

theorem isSep_semicolon : IsSep ';' := by
  constructor <;> decide

/-- A text that a separator cannot cut and white space cannot shorten. -/
structure Solid (sep : Char) (l : List Char) : Prop where
  passes : Passes sep .plain l .plain
  trimmed : Trimmed l
  nonempty : l ≠ []

theorem isOws_dquote : isOws '"' = false := by decide

theorem getLast?_quote (l s : List Char) : (l ++ quote s).getLast? = some '"' := by
  rw [quote, ← List.cons_append, ← List.append_assoc, List.getLast?_concat]

theorem head?_token {name : List Char} (h : IsToken name) (l : List Char) :
    ∀ c ∈ (name ++ l).head?, isOws c = false := by
  intro c hc
  cases name with
  | nil => exact absurd rfl h.1
  | cons n name => exact isTchar_not_ows (Option.some.inj hc ▸ h.2 n List.mem_cons_self)

theorem passes_named {sep : Char} (hsep : IsSep sep) {name l : List Char} (hname : IsToken name)
    (hl : Passes sep .plain l .plain) : Passes sep .plain (name ++ '=' :: l) .plain := by
  have hrest : Passes sep .plain ('=' :: l) .plain := ⟨fun hc => hsep.equals hc.2.symm, hl⟩
  exact hrest.append (passes_token hsep.tchar hname.2)

theorem solid_quoted {sep : Char} (hsep : IsSep sep) {name : List Char} (hname : IsToken name)
    (s : List Char) : Solid sep (name ++ '=' :: quote s) where
  passes := passes_named hsep hname (passes_quote hsep.dquote s)
  trimmed := by
    refine ⟨head?_token hname _, fun c hc => ?_⟩
    rw [← List.singleton_append, ← List.append_assoc, getLast?_quote] at hc
    exact Option.some.inj hc ▸ isOws_dquote
  nonempty := List.append_ne_nil_of_left_ne_nil hname.1 _

theorem ParamText.solid {sep : Char} (hsep : IsSep sep) {p : List Char × List Char}
    {text : List Char} (h : ParamText p text) : Solid sep text := by
  cases h with
  | quoted hname => exact solid_quoted hsep hname _
  | token hname hvalue =>
      refine ⟨passes_named hsep hname (passes_token hsep.tchar hvalue.2),
        ⟨head?_token hname _, fun c hc => ?_⟩, List.append_ne_nil_of_left_ne_nil hname.1 _⟩
      rw [← List.singleton_append, ← List.append_assoc,
        List.getLast?_append_of_ne_nil _ hvalue.1] at hc
      exact isTchar_not_ows (hvalue.2 c (List.mem_of_getLast? hc))

theorem ParamText.parse {p : List Char × List Char} {text : List Char} (h : ParamText p text) :
    namedValue? tokenOrQuoted? text = some p := by
  cases h with
  | quoted hname => exact namedValue?_join hname (tokenOrQuoted?_quote _)
  | token hname hvalue => exact namedValue?_join hname (tokenOrQuoted?_token hvalue)

theorem passes_blank {sep : Char} (hsep : IsSep sep) {l : List Char} (h : IsBlank l) :
    Passes sep .plain l .plain := by
  refine passes_plain fun c hc => ⟨?_, ?_⟩
  · rintro rfl
    exact absurd (h c hc) (by rw [hsep.ows]; exact Bool.false_ne_true)
  · rintro rfl
    exact absurd (h '"' hc) (by decide)

/-- What follows an alternative passes a comma. -/
theorem ParamsText.passes {ps : List (List Char × List Char)} {rest : List Char}
    (h : ParamsText ps rest) : Passes ',' .plain rest .plain := by
  induction h with
  | nil => rfl
  | cons ha hb hp _ ih =>
      have hpiece := passes_blank isSep_comma hb
      have htext := (hp.solid isSep_comma).passes
      have hsemi : Passes ',' .plain (';' :: (_ ++ _ ++ _)) .plain :=
        ⟨fun hc => absurd hc.2 (by decide), ih.append (htext.append hpiece)⟩
      exact hsemi.append (passes_blank isSep_comma ha)

/-- It does not end in white space. -/
theorem ParamsText.getLast? {ps : List (List Char × List Char)} {rest : List Char}
    (h : ParamsText ps rest) : ∀ c ∈ rest.getLast?, isOws c = false := by
  induction h with
  | nil => exact fun c hc => absurd hc (by simp only [List.getLast?_nil, Option.mem_def,
      reduceCtorEq, not_false_eq_true])
  | @cons p ps a b text rest _ _ hp _ ih =>
      have htext := hp.solid isSep_comma
      rw [← List.singleton_append, ← List.append_assoc, ← List.append_assoc, ← List.append_assoc,
        List.getLast?_append]
      intro c hc
      cases hrest : rest.getLast? with
      | some d =>
          rw [hrest] at hc
          exact ih c (hrest.trans hc)
      | none =>
          rw [hrest, Option.none_or, List.getLast?_append_of_ne_nil _ htext.nonempty] at hc
          exact htext.trimmed.2 c hc

/-- Cut at the semicolons, an alternative is followed by its parameters. -/
theorem ParamsText.split {ps : List (List Char × List Char)} {rest : List Char}
    (h : ParamsText ps rest) : ∀ {a x : List Char}, IsBlank a → Trimmed x →
      Passes ';' .plain x .plain → ∃ texts, List.Forall₂ ParamText ps texts ∧
        (splitUnquoted ';' (a ++ x ++ rest)).map trimOws = x :: texts := by
  induction h with
  | nil =>
      intro a x ha hx hpass
      refine ⟨[], List.Forall₂.nil, ?_⟩
      have hone : splitUnquoted ';' (a ++ x ++ []) = [a ++ x ++ []] :=
        splitFrom_passes (by
          rw [List.append_nil]
          exact hpass.append (passes_blank isSep_semicolon ha))
      rw [hone, List.map_singleton, trimOws_padded ha (fun c hc => absurd hc List.not_mem_nil) hx]
  | @cons p ps b c text rest hb hc hp hrest ih =>
      intro a x ha hx hpass
      have htext := hp.solid isSep_semicolon
      rcases ih hc htext.trimmed htext.passes with ⟨texts, hall, hsplit⟩
      refine ⟨text :: texts, List.Forall₂.cons hp hall, ?_⟩
      have hfirst : Passes ';' .plain (a ++ x ++ b) .plain :=
        (passes_blank isSep_semicolon hb).append (hpass.append (passes_blank isSep_semicolon ha))
      rw [← List.append_assoc, splitUnquoted, splitFrom_append hfirst, List.map_cons, hsplit,
        trimOws_padded ha hb hx]

theorem AltService.Text.solid {s : AltService} {text : List Char} (h : s.Text text) :
    Solid ',' text := by
  cases h with
  | @mk protocol authority params rest hprotocol hparams =>
      have hfirst := solid_quoted isSep_comma hprotocol authority
      refine ⟨hparams.passes.append hfirst.passes, ⟨?_, fun c hc => ?_⟩,
        List.append_ne_nil_of_left_ne_nil hfirst.nonempty _⟩
      · rw [List.append_assoc]
        exact head?_token hprotocol _
      · rw [List.getLast?_append] at hc
        cases hrest : rest.getLast? with
        | some d =>
            rw [hrest] at hc
            exact hparams.getLast? c (hrest.trans hc)
        | none =>
            rw [hrest, Option.none_or] at hc
            exact hfirst.trimmed.2 c hc

/-- An alternative that is written is read. -/
theorem parseAltService_text {s : AltService} {text : List Char} (h : s.Text text) :
    parseAltService text = some s := by
  cases h with
  | @mk protocol authority params rest hprotocol hparams =>
      have hfirst := solid_quoted isSep_semicolon hprotocol authority
      rcases hparams.split (a := []) (fun c hc => absurd hc List.not_mem_nil) hfirst.trimmed
        hfirst.passes with ⟨texts, hall, hsplit⟩
      have hread : namedValue? quotedString? (protocol ++ '=' :: quote authority) =
          some (protocol, authority) :=
        namedValue?_join hprotocol (quotedString?_quote authority)
      rw [List.nil_append] at hsplit
      rw [parseAltService, hsplit]
      simp only [hread, mapM_eq_some_iff.mpr (hall.imp fun _ _ hp => hp.parse)]

/-- The pieces of a list pass a comma. -/
theorem ListText.passes {services : List AltService} {pieces : List (List Char)}
    (h : ListText services pieces) : ∀ p ∈ pieces, Passes ',' .plain p .plain := by
  induction h with
  | nil => exact fun p hp => absurd hp List.not_mem_nil
  | blank hblank _ ih =>
      intro p hp
      rcases List.mem_cons.mp hp with rfl | hp
      · exact passes_blank isSep_comma hblank
      · exact ih p hp
  | cons ha hb hs _ ih =>
      intro p hp
      rcases List.mem_cons.mp hp with rfl | hp
      · exact (passes_blank isSep_comma hb).append
          (hs.solid.passes.append (passes_blank isSep_comma ha))
      · exact ih p hp

/-- Trimmed, and without the blanks, they are the alternatives. -/
theorem ListText.trim {services : List AltService} {pieces : List (List Char)}
    (h : ListText services pieces) :
    List.Forall₂ AltService.Text services
      ((pieces.map trimOws).filter (fun e => !e.isEmpty)) := by
  induction h with
  | nil => exact List.Forall₂.nil
  | @blank services pieces piece hblank _ ih =>
      have hnil : trimOws piece = [] := by
        have hpad := trimOws_padded (l := []) hblank (fun c hc => absurd hc List.not_mem_nil)
          trimmed_nil
        rwa [List.append_nil, List.append_nil] at hpad
      rw [List.map_cons, List.filter_cons_of_neg (by rw [hnil]; exact Bool.false_ne_true)]
      exact ih
  | @cons s services pieces a text b ha hb hs _ ih =>
      have htrim : trimOws (a ++ text ++ b) = text := trimOws_padded ha hb hs.solid.trimmed
      have hkeep : (!text.isEmpty) = true := by
        rw [List.isEmpty_eq_false_iff.mpr hs.solid.nonempty]
        rfl
      rw [List.map_cons, htrim,
        List.filter_cons_of_pos (p := fun e : List Char => !e.isEmpty) hkeep]
      exact List.Forall₂.cons hs ih

theorem eq_mem_of_text {s : AltService} {text : List Char} (h : s.Text text) : '=' ∈ text := by
  cases h with
  | mk _ _ => exact List.mem_append_left _ (List.mem_append_right _ List.mem_cons_self)

/-- A field with an alternative in it is not the word `clear`. -/
theorem ListText.ne_clear {services : List AltService} {pieces : List (List Char)}
    (h : ListText services pieces) (hne : services ≠ []) :
    trimOws ([','].intercalate pieces) ≠ "clear".toList := by
  have hpiece : ∃ p ∈ pieces, '=' ∈ p := by
    induction h with
    | nil => exact absurd rfl hne
    | @blank services pieces piece _ _ ih =>
        rcases ih hne with ⟨p, hp, heq⟩
        exact ⟨p, List.mem_cons_of_mem piece hp, heq⟩
    | @cons s services pieces a text b _ _ hs _ _ =>
        exact ⟨a ++ text ++ b, List.mem_cons_self,
          List.mem_append_left b (List.mem_append_right a (eq_mem_of_text hs))⟩
  rcases hpiece with ⟨p, hp, heq⟩
  intro hclear
  have hin : ['='] <:+: trimOws ([','].intercalate pieces) :=
    infix_trimOws (List.cons_ne_nil '=' []) (List.forall_mem_singleton.mpr (by decide))
      (((List.singleton_infix_iff '=' p).mpr heq).trans (infix_intercalate [','] hp))
  rw [hclear] at hin
  exact absurd hin (by decide)

/-- Lines that are written by the grammar are read as what was meant. -/
theorem parseAltSvc_text {services : List AltService} {lines : List (List (List Char))}
    (hlines : ∀ pieces ∈ lines, pieces ≠ []) (h : ListText services lines.flatten)
    (hne : services ≠ []) :
    parseAltSvc (lines.map [','].intercalate) = some (.alternatives services) := by
  have hpieces : lines.flatten ≠ [] := by
    intro hnil
    rw [hnil] at h
    cases h with
    | nil => exact hne rfl
  have helements := h.trim
  rw [← splitUnquoted_intercalate hpieces h.passes, ← intercalate_flatten hlines] at helements
  change List.Forall₂ AltService.Text services (altSvcElements (lines.map [','].intercalate))
    at helements
  have hsome : (altSvcElements (lines.map [','].intercalate)).isEmpty = false := by
    rw [List.isEmpty_eq_false_iff]
    intro hnil
    rw [hnil] at helements
    cases helements with
    | nil => exact hne rfl
  rw [parseAltSvc, intercalate_flatten hlines, if_neg (h.ne_clear hne), hsome,
    mapM_eq_some_iff.mpr (helements.imp fun _ _ hs => parseAltService_text hs)]
  rfl

end Grammar

/-- The protocols the QUIC dial offers, `set_application_protos`. -/
def applicationProtos : List (List Char) :=
  ["h3".toList, "h3-29".toList]

/-- The lines of the field. -/
def altSvcLines (resp : Response) : List (List Char) :=
  (resp.headers.getAll "alt-svc").map HeaderValue.chars

/-- Whether the field wants its origin on HTTP/3, if it says anything. -/
def demand (resp : Response) : Option Bool :=
  (parseAltSvc (altSvcLines resp)).map (fun
    | .clear => false
    | .alternatives services => services.any (fun s => applicationProtos.contains s.protocol))

/-- The test `store_alt_svc` makes: the first line is text and has `h3` in it
    somewhere. -/
def mentionsH3 (resp : Response) : Bool :=
  match (resp.headers.get "alt-svc").bind HeaderValue.toStr with
  | some altStr => containsStr altStr "h3"
  | none => false

theorem learnedAltSvc_isSome (resp : Response) (u : Url) :
    (learnedAltSvc resp u).isSome = mentionsH3 resp := by
  unfold learnedAltSvc mentionsH3
  cases resp.headers.get "alt-svc" with
  | none => rfl
  | some altSvc =>
      simp only [Option.bind_some]
      cases altSvc.toStr with
      | none => rfl
      | some altStr => cases hh3 : containsStr altStr "h3" <;> simp only [hh3] <;> rfl

/-- The protocol of an alternative that is read is a part of its piece. -/
theorem parseAltService_protocol {piece : List Char} {s : AltService}
    (h : parseAltService piece = some s) : s.protocol <:+: piece := by
  unfold parseAltService at h
  split at h
  · exact absurd h (by simp only [reduceCtorEq, not_false_eq_true])
  · rename_i alternative params hsplit
    split at h
    · rename_i protocol authority ps hname _
      have hin : alternative ∈ (splitUnquoted ';' piece).map trimOws :=
        hsplit ▸ List.mem_cons_self
      rcases List.mem_map.mp hin with ⟨p, hp, rfl⟩
      rw [← Option.some.inj h]
      exact (namedValue?_name hname).trans ((trimOws_sub p).trans (infix_of_mem_splitUnquoted hp))
    · exact absurd h (by simp only [reduceCtorEq, not_false_eq_true])

/-- An offer in a field of one line is noticed, if the line is text. -/
theorem mentionsH3_of_offer {resp : Response} {line : HeaderValue}
    (hline : resp.headers.getAll "alt-svc" = [line]) (htext : line.bytes.all isVisibleAscii = true)
    (hdemand : demand resp = some true) : mentionsH3 resp = true := by
  rcases Option.map_eq_some_iff.mp hdemand with ⟨value, hparse, hwants⟩
  cases value with
  | clear => exact absurd hwants Bool.false_ne_true
  | alternatives services =>
      rcases List.any_eq_true.mp hwants with ⟨s, hs, hoffer⟩
      rw [altSvcLines, hline, List.map_singleton] at hparse
      -- The alternative was read from a piece of the line.
      have hpieces : (altSvcElements [line.chars]).mapM parseAltService = some services := by
        unfold parseAltSvc at hparse
        split at hparse
        · exact absurd hparse (by simp only [Option.some.injEq, reduceCtorEq, not_false_eq_true])
        · split at hparse
          · exact absurd hparse (by simp only [reduceCtorEq, not_false_eq_true])
          · rcases Option.map_eq_some_iff.mp hparse with ⟨l, hl, heq⟩
            rw [hl, AltSvcValue.alternatives.inj heq]
      rcases mem_of_mapM hpieces hs with ⟨e, he, hread⟩
      rcases List.mem_map.mp (List.mem_filter.mp he).1 with ⟨p, hp, rfl⟩
      have hprotocol : s.protocol <:+: line.chars := by
        have hpiece := infix_of_mem_splitUnquoted hp
        rw [List.intercalate_singleton] at hpiece
        exact (parseAltService_protocol hread).trans ((trimOws_sub p).trans hpiece)
      have hh3 : "h3".toList <:+: s.protocol := by
        have hall : ∀ p ∈ applicationProtos, "h3".toList <:+: p := by decide
        exact hall _ (List.contains_iff_mem.mp hoffer)
      rw [mentionsH3, HeaderMap.get, hline, List.head?_cons, Option.bind_some,
        HeaderValue.toStr_eq, htext]
      simp only [if_true, containsStr, String.toList_ofList, decide_eq_true_eq]
      exact hh3.trans hprotocol

/-- What a response does to the routing of its own origin follows the field:
    on HTTP/3 if that is offered, not on HTTP/3 if only other things are or
    everything is withdrawn, and as before if there is no field. -/
structure AltSvcFollows (cache : AltSvcCache) (resp : Response) (u : Url) : Prop where
  told : ∀ wanted, demand resp = some wanted → routedH3 (storeAltSvc cache resp u) u = wanted
  silent : resp.headers.getAll "alt-svc" = [] → storeAltSvc cache resp u = cache

/-- It does so exactly if an offer is noticed and filed where the origin looks,
    or the origin is cached already; and if where HTTP/3 is not offered, the
    letters do not occur or are filed elsewhere, and the origin is not cached
    already. -/
theorem altSvcFollows_iff (cache : AltSvcCache) (resp : Response) (u : Url) :
    AltSvcFollows cache resp u ↔
      (demand resp = some true →
        (mentionsH3 resp = true ∧ ¬(u.scheme = "http" ∧ u.port = none)) ∨
          routedH3 cache u = true) ∧
      (demand resp = some false →
        ¬(mentionsH3 resp = true ∧ ¬(u.scheme = "http" ∧ u.port = none)) ∧
          routedH3 cache u = false) := by
  have hrouted := routedH3_storeAltSvc_iff cache resp u u
  -- The origin is routed if an entry is filed under its own key, or was there.
  rw [learnedAltSvc_isSome, learnKey_eq_routeKey_iff] at hrouted
  constructor
  · intro h
    refine ⟨fun hd => hrouted.mp (h.told true hd), fun hd => ?_⟩
    have hnot := mt hrouted.mpr (Bool.eq_false_iff.mp (h.told false hd))
    rw [not_or, Bool.not_eq_true (routedH3 cache u)] at hnot
    exact hnot
  · rintro ⟨hoffer, hother⟩
    constructor
    · intro wanted hd
      cases wanted with
      | true => exact hrouted.mpr (hoffer hd)
      | false =>
          rcases hother hd with ⟨hfiled, hcached⟩
          rw [Bool.eq_false_iff, ne_eq, hrouted, not_or, hcached]
          exact ⟨hfiled, Bool.false_ne_true⟩
    · -- Without a line there is no first one, and nothing is learned.
      intro hnone
      have hget : resp.headers.get "alt-svc" = none := by
        rw [HeaderMap.get, hnone, List.head?_nil]
      simp only [storeAltSvc, learnedAltSvc, hget]

/-- An answer with one Alt-Svc line. -/
def advertisingLine (line : HeaderValue) : Response where
  status := .ok
  headers := HeaderMap.new.insert "alt-svc" line
  body := .http3 []
  url := ""

/-- An HTTP/2 alternative on a host with `h3` in its name is taken for HTTP/3. -/
theorem altSvcFollows_otherProtocol :
    ¬ AltSvcFollows .new (advertisingLine (.fromStatic "h2=\"h3.example:443\"")) siteA := by
  intro h
  have hnot := h.told false (by decide +kernel)
  have hrouted : routedH3 (storeAltSvc .new
      (advertisingLine (.fromStatic "h2=\"h3.example:443\"")) siteA) siteA = true := by
    decide +kernel
  exact absurd (hrouted.symm.trans hnot) Bool.true_eq_false_eq_False

end Quik
