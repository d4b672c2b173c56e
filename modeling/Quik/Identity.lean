import Quik.BuilderCalls
import Quik.OriginText

/-!
# Two Profiles, One Handshake

Whether the calls on the builders tell two profiles apart. Lists are joined on
the way, the curves into one text and the ALPN names and the extra settings
into one buffer each, and most of this loses nothing: a group has a name
without a colon, and a setting has six bytes. An ALPN name stands behind its
length as one byte, which tells lists of names apart as long as the names are
no longer than a byte can say.

Three fields take part in no call: whether the new codepoint is used for ALPS,
whether session tickets are enabled, and the stream that the first HEADERS
frame depends on. Profiles that differ only in these are the same on the wire
(`connectCalls_distinguish_iff`).

## Main definitions

* `alpnFrames`: A list of names, with each length as one byte.
* `Indistinct`: Profiles that differ in the unused fields only.

## Theorems

* `curvesStr_injective`: The text determines the groups.
* `alpnFrames_inj`: The buffer determines the names, if they are short.
* `buildAlpsPayload_inj`: The payload determines its settings.
* `connectCalls_eq_iff`: The profiles that make the same calls.
* `connectCalls_distinguish_iff`: When two profiles are told apart.
-/

namespace Quik

/-- Words without the separator, and not empty, are told apart when joined. -/
theorem intercalate_inj {α : Type*} (sep : α) {l l' : List (List α)}
    (hl : ∀ w ∈ l, sep ∉ w ∧ w ≠ []) (hl' : ∀ w ∈ l', sep ∉ w ∧ w ≠ [])
    (h : [sep].intercalate l = [sep].intercalate l') : l = l' := by
  have hnil : ∀ {w : List α} {rest : List (List α)}, w ≠ [] →
      [sep].intercalate (w :: rest) ≠ [] := by
    intro w rest hw
    cases rest with
    | nil =>
        rw [List.intercalate_singleton]
        exact hw
    | cons w' rest =>
        rw [List.intercalate_cons_cons]
        exact fun hc => hw (List.append_eq_nil_iff.mp (List.append_eq_nil_iff.mp hc).1).1
  induction l generalizing l' with
  | nil =>
      cases l' with
      | nil => rfl
      | cons w' l' => exact absurd h.symm (hnil (hl' w' List.mem_cons_self).2)
  | cons w l ih =>
      cases l' with
      | nil => exact absurd h (hnil (hl w List.mem_cons_self).2)
      | cons w' l' =>
          have hw := (hl w List.mem_cons_self).1
          have hw' := (hl' w' List.mem_cons_self).1
          -- One word has no separator in it, and more than one have.
          cases l with
          | nil =>
              cases l' with
              | nil =>
                  rw [List.intercalate_singleton, List.intercalate_singleton] at h
                  rw [h]
              | cons v' l' =>
                  rw [List.intercalate_singleton, List.intercalate_cons_cons,
                    List.append_assoc] at h
                  exact absurd (h ▸ List.mem_append_right w' List.mem_cons_self) hw
          | cons v l =>
              cases l' with
              | nil =>
                  rw [List.intercalate_singleton, List.intercalate_cons_cons,
                    List.append_assoc] at h
                  exact absurd (h ▸ List.mem_append_right w List.mem_cons_self) hw'
              | cons v' l' =>
                  rw [List.intercalate_cons_cons, List.intercalate_cons_cons, List.append_assoc,
                    List.append_assoc] at h
                  rcases append_first_inj hw hw' h with ⟨heq, hrest⟩
                  rw [heq, ih (fun x hx => hl x (List.mem_cons_of_mem w hx))
                    (fun x hx => hl' x (List.mem_cons_of_mem w' hx)) hrest]

/-- The group of a name that is not a number. -/
def namedGroup (name : String) : Option UInt16 :=
  if name = "X25519MLKEM768" then some 4588
  else if name = "X25519" then some 29
  else if name = "P-256" then some 23
  else if name = "P-384" then some 24
  else none

theorem name_ne_toString {name : String} {c : Char} (hc : c ∈ name.toList)
    (hdigit : c.isDigit = false) (n : Nat) : toString n ≠ name :=
  fun h => sep_notMem_toString hdigit n (h ▸ hc)

/-- A group is named, or written as its number, and the name is no number. -/
theorem groupName_cases (g : UInt16) : namedGroup (groupName g) = some g ∨
    (namedGroup (groupName g) = none ∧ groupName g = toString g.toNat) := by
  unfold groupName
  by_cases h1 : g = 4588
  · rw [if_pos h1, h1]
    exact Or.inl (by decide)
  · rw [if_neg h1]
    by_cases h2 : g = 29
    · rw [if_pos h2, h2]
      exact Or.inl (by decide)
    · rw [if_neg h2]
      by_cases h3 : g = 23
      · rw [if_pos h3, h3]
        exact Or.inl (by decide)
      · rw [if_neg h3]
        by_cases h4 : g = 24
        · rw [if_pos h4, h4]
          exact Or.inl (by decide)
        · rw [if_neg h4]
          -- The names have a letter in them, and a number has none.
          have hX : 'X' ∈ "X25519MLKEM768".toList ∧ 'X' ∈ "X25519".toList := by decide
          have hP : 'P' ∈ "P-256".toList ∧ 'P' ∈ "P-384".toList := by decide
          refine Or.inr ⟨?_, rfl⟩
          rw [namedGroup, if_neg (name_ne_toString hX.1 (by decide) _),
            if_neg (name_ne_toString hX.2 (by decide) _),
            if_neg (name_ne_toString hP.1 (by decide) _),
            if_neg (name_ne_toString hP.2 (by decide) _)]

theorem groupName_injective : Function.Injective groupName := by
  intro g h heq
  have hnamed := congrArg namedGroup heq
  rcases groupName_cases g with hg | ⟨hg, hg'⟩
  · rcases groupName_cases h with hh | ⟨hh, _⟩
    · rw [hg, hh] at hnamed
      exact Option.some.inj hnamed
    · rw [hg, hh] at hnamed
      exact absurd hnamed (by simp only [reduceCtorEq, not_false_eq_true])
  · rcases groupName_cases h with hh | ⟨_, hh'⟩
    · rw [hg, hh] at hnamed
      exact absurd hnamed (by simp only [reduceCtorEq, not_false_eq_true])
    · rw [hg', hh'] at heq
      exact UInt16.toNat_inj.mp (toString_inj (congrArg String.toList heq))

/-- A name of a group has no colon, and is not empty. -/
theorem groupName_clean (g : UInt16) :
    ':' ∉ (groupName g).toList ∧ (groupName g).toList ≠ [] := by
  rcases groupName_cases g with h | ⟨_, h⟩
  · unfold namedGroup at h
    repeat' split at h
    all_goals first
      | (rename_i hname; rw [hname]; decide)
      | exact absurd h (by simp only [reduceCtorEq, not_false_eq_true])
  · rw [h]
    refine ⟨sep_notMem_toString (by decide) _, ?_⟩
    rw [Nat.toString_eq_repr, Nat.toList_repr]
    exact Nat.toDigits_ne_nil

/-- The curves list determines the groups and their order. -/
theorem curvesStr_injective : Function.Injective curvesStr := by
  intro l l' h
  have hlist := congrArg String.toList h
  simp only [curvesStr, String.toList_intercalate] at hlist
  have hclean : ∀ (gs : List UInt16), ∀ w ∈ (gs.map groupName).map String.toList,
      ':' ∉ w ∧ w ≠ [] := by
    intro gs w hw
    rcases List.mem_map.mp hw with ⟨name, hname, rfl⟩
    rcases List.mem_map.mp hname with ⟨g, _, rfl⟩
    exact groupName_clean g
  have hnames := intercalate_inj ':' (hclean l) (hclean l') hlist
  exact List.map_injective_iff.mpr groupName_injective
    (List.map_injective_iff.mpr (fun _ _ h => String.toList_injective h) hnames)

/-- The names of a list, each behind what one byte can say of its length. -/
def alpnFrames (protocols : List Bytes) : List Nat :=
  protocols.flatMap (fun proto => proto.length % 256 :: proto.map UInt8.toNat)

theorem map_toNat_alpnWire (protocols : List Bytes) :
    (alpnWire protocols).map UInt8.toNat = alpnFrames protocols := by
  rw [alpnWire, alpnFrames, List.map_flatMap]
  simp only [List.map_cons, UInt8.toNat_ofNat', Nat.reducePow]

/-- The buffers of two lists are the same exactly if the names come to the same
    behind their lengths. -/
theorem alpnWire_eq_iff {l l' : List Bytes} :
    alpnWire l = alpnWire l' ↔ alpnFrames l = alpnFrames l' := by
  rw [← map_toNat_alpnWire, ← map_toNat_alpnWire]
  have hinj : Function.Injective UInt8.toNat := fun _ _ h => UInt8.toNat_inj.mp h
  exact (List.map_injective_iff.mpr hinj).eq_iff.symm

/-- Names that fit behind a byte are told apart. -/
theorem alpnFrames_inj {l l' : List Bytes} (hl : ∀ proto ∈ l, proto.length ≤ 255)
    (hl' : ∀ proto ∈ l', proto.length ≤ 255) (h : alpnFrames l = alpnFrames l') : l = l' := by
  have hwire : ∀ names : List { name : List UInt8 // name.length ≤ 255 },
      names.flatMap counted.encode = alpnWire (names.map Subtype.val) := by
    intro names
    rw [alpnWire, List.flatMap_map]
    rfl
  have hne : ∀ name, counted.encode name ≠ [] := fun _ => List.cons_ne_nil _ _
  have hnames : l.attachWith _ hl = l'.attachWith _ hl' := by
    refine counted.flatMap_encode_injective hne ?_
    simp only [hwire, List.attachWith_map_subtype_val]
    exact alpnWire_eq_iff.mpr h
  have hval := congrArg (List.map Subtype.val) hnames
  rwa [List.attachWith_map_subtype_val, List.attachWith_map_subtype_val] at hval

/-- The payload determines its settings and the extra list. -/
theorem buildAlpsPayload_inj {s s' : SettingsFrame} {extra extra' : List (UInt16 × UInt32)}
    (h : buildAlpsPayload s extra = buildAlpsPayload s' extra') :
    s.records ++ extra = s'.records ++ extra' := by
  rw [buildAlpsPayload_eq, buildAlpsPayload_eq] at h
  exact alpsRecord.flatMap_encode_injective alpsRecord_ne_nil h

/-- The calls on the HTTP/2 builder among all of them. -/
def BuilderCall.http2? : BuilderCall → Option Http2Call
  | .http2 call => some call
  | _ => none

theorem filterMap_http2_connectCalls (p : TransportProfile) :
    (connectCalls p).filterMap BuilderCall.http2? = configureBuilder p.h2 := by
  have hnone : ∀ {b : Bool} {c : BuilderCall}, c.http2? = none →
      (if b then [c] else []).filterMap BuilderCall.http2? = [] := by
    intro b c hc
    cases b with
    | false => rfl
    | true => exact List.filterMap_cons_none hc
  -- Only the calls of the HTTP/2 part pass the filter, and they all do.
  have hmap : ((configureBuilder p.h2).map BuilderCall.http2).filterMap BuilderCall.http2? =
      configureBuilder p.h2 := by
    rw [List.filterMap_map]
    exact List.filterMap_some
  simp only [connectCalls, buildConnector, List.filterMap_append, hmap]
  rw [hnone rfl, hnone rfl, hnone rfl, hnone rfl, hnone rfl, hnone rfl]
  rfl

/-- Which calls are made for a profile, in their order. -/
@[simp] theorem mem_connectCalls {p : TransportProfile} {c : BuilderCall} : c ∈ connectCalls p ↔
    c = .setMinProtoVersion p.tls.minVersion ∨ c = .setMaxProtoVersion p.tls.maxVersion ∨
    c = .setCipherList p.tls.cipherList ∨ c = .setCurvesList (curvesStr p.tls.curves) ∨
    (p.tls.greaseEnabled = true ∧ c = .setGreaseEnabled true) ∨
    (p.tls.permuteExtensions = true ∧ c = .setPermuteExtensions true) ∨
    c = .setAlpnProtos (alpnWire p.tls.alpnProtocols) ∨ c = .enableSignedCertTimestamps ∨
    c = .setSigningAlgorithmPrefs p.tls.sigalgs ∨ c = .setVerifyAlgorithmPrefs p.tls.sigalgs ∨
    (p.tls.compressCertificate = true ∧ c = .addBrotliCompression) ∨
    (p.tls.verifyPeer = false ∧ c = .setVerifyNone) ∨ c = .setStatusTypeOcsp ∨
    (p.tls.enableEchGrease = true ∧ c = .setEnableEchGrease 1) ∨
    (p.tls.alpsEnabled = true ∧ c = .addApplicationSettings (utf8 "h2")
      (buildAlpsPayload p.h2.settings p.tls.alpsExtraSettings)) ∨
    ∃ call ∈ configureBuilder p.h2, .http2 call = c := by
  simp only [connectCalls, buildConnector, List.mem_append, List.mem_ite_nil_right,
    List.mem_cons, List.not_mem_nil, or_false, List.mem_map, Bool.not_eq_true', or_assoc]

/-- Two profiles that differ at most in the fields that are not used, and in
    ALPN names that come to the same behind their lengths. -/
def Indistinct (p q : TransportProfile) : Prop :=
  alpnFrames p.tls.alpnProtocols = alpnFrames q.tls.alpnProtocols ∧
  q = { tls := { p.tls with
          alpsUseNewCodepoint := q.tls.alpsUseNewCodepoint
          sessionTicketEnabled := q.tls.sessionTicketEnabled
          alpnProtocols := q.tls.alpnProtocols }
        h2 := { p.h2 with
          headersPriority := { p.h2.headersPriority with dep := q.h2.headersPriority.dep } } }

/-- Indistinct profiles make the same calls. -/
theorem connectCalls_eq {p q : TransportProfile} (h : Indistinct p q) :
    connectCalls p = connectCalls q := by
  rw [h.2]
  simp only [connectCalls, buildConnector, configureBuilder, alpnWire_eq_iff.mpr h.1]

/-- The HTTP/2 calls tell apart all but the unused stream. -/
theorem configureBuilder_inj {h h' : Http2Profile}
    (heq : configureBuilder h = configureBuilder h') :
    h' = { h with
      headersPriority := { h.headersPriority with dep := h'.headersPriority.dep } } := by
  rcases h with ⟨⟨table, push, window, list⟩, connection, order, ⟨dep, weight, exclusive⟩⟩
  rcases h' with ⟨⟨table', push', window', list'⟩, connection', order', ⟨dep', weight', exclusive'⟩⟩
  simp only [configureBuilder, List.cons.injEq, Http2Call.headerTableSize.injEq,
    Http2Call.enablePush.injEq, Http2Call.initialWindowSize.injEq,
    Http2Call.maxHeaderListSize.injEq, Http2Call.initialConnectionWindowSize.injEq,
    Http2Call.headersPseudoOrder.injEq, Http2Call.headersStreamDependency.injEq, true_and,
    and_true, Vector.toList_inj] at heq
  rcases heq with ⟨rfl, rfl, rfl, rfl, rfl, rfl, rfl, rfl⟩
  rfl

/-- The TLS calls tell apart all but the two unused fields and the names that
    frame alike. -/
theorem tls_of_calls {p q : TransportProfile} (hp : p.tls.alpsEnabled = true)
    (hq : q.tls.alpsEnabled = true) (hset : p.h2.settings = q.h2.settings)
    (hmem : ∀ c, c ∈ connectCalls p ↔ c ∈ connectCalls q) :
    alpnFrames p.tls.alpnProtocols = alpnFrames q.tls.alpnProtocols ∧
    q.tls = { p.tls with
      alpsUseNewCodepoint := q.tls.alpsUseNewCodepoint
      sessionTicketEnabled := q.tls.sessionTicketEnabled
      alpnProtocols := q.tls.alpnProtocols } := by
  -- A call with a value is made for both, with the same value.
  have hmin : p.tls.minVersion = q.tls.minVersion := by
    simpa using hmem (.setMinProtoVersion p.tls.minVersion)
  have hmax : p.tls.maxVersion = q.tls.maxVersion := by
    simpa using hmem (.setMaxProtoVersion p.tls.maxVersion)
  have hciphers : p.tls.cipherList = q.tls.cipherList := by
    simpa using hmem (.setCipherList p.tls.cipherList)
  have hcurves : p.tls.curves = q.tls.curves := by
    simpa [curvesStr_injective.eq_iff] using hmem (.setCurvesList (curvesStr p.tls.curves))
  have halpn : alpnWire p.tls.alpnProtocols = alpnWire q.tls.alpnProtocols := by
    simpa using hmem (.setAlpnProtos (alpnWire p.tls.alpnProtocols))
  have hsigalgs : p.tls.sigalgs = q.tls.sigalgs := by
    simpa using hmem (.setSigningAlgorithmPrefs p.tls.sigalgs)
  have hpayload : buildAlpsPayload p.h2.settings p.tls.alpsExtraSettings =
      buildAlpsPayload q.h2.settings q.tls.alpsExtraSettings := by
    simpa [hp, hq] using hmem (.addApplicationSettings (utf8 "h2")
      (buildAlpsPayload p.h2.settings p.tls.alpsExtraSettings))
  have hextra : p.tls.alpsExtraSettings = q.tls.alpsExtraSettings := by
    have happ := buildAlpsPayload_inj hpayload
    rw [hset] at happ
    exact List.append_cancel_left happ
  -- A call without one is made for both, or for neither.
  have hgrease : p.tls.greaseEnabled = q.tls.greaseEnabled :=
    Bool.eq_iff_iff.mpr (by simpa using hmem (.setGreaseEnabled true))
  have hpermute : p.tls.permuteExtensions = q.tls.permuteExtensions :=
    Bool.eq_iff_iff.mpr (by simpa using hmem (.setPermuteExtensions true))
  have hcompress : p.tls.compressCertificate = q.tls.compressCertificate :=
    Bool.eq_iff_iff.mpr (by simpa using hmem .addBrotliCompression)
  have hech : p.tls.enableEchGrease = q.tls.enableEchGrease :=
    Bool.eq_iff_iff.mpr (by simpa using hmem (.setEnableEchGrease 1))
  have hverify : p.tls.verifyPeer = q.tls.verifyPeer := by
    have hfalse : p.tls.verifyPeer = false ↔ q.tls.verifyPeer = false := by
      simpa using hmem .setVerifyNone
    exact Bool.eq_iff_iff.mpr (by simpa using not_congr hfalse)
  exact ⟨alpnWire_eq_iff.mp halpn, TlsProfile.ext hmin.symm hmax.symm hciphers.symm hcurves.symm
    hgrease.symm hpermute.symm hech.symm (hq.trans hp.symm) rfl hextra.symm hcompress.symm rfl rfl
    hsigalgs.symm hverify.symm⟩

/-- The calls of two profiles with ALPS are the same exactly if the profiles
    are indistinct. -/
theorem connectCalls_eq_iff {p q : TransportProfile} (hp : p.tls.alpsEnabled = true)
    (hq : q.tls.alpsEnabled = true) : connectCalls p = connectCalls q ↔ Indistinct p q := by
  refine ⟨fun heq => ?_, connectCalls_eq⟩
  have hmem : ∀ c, c ∈ connectCalls p ↔ c ∈ connectCalls q := fun c => by rw [heq]
  have hh2 := configureBuilder_inj
    ((filterMap_http2_connectCalls p).symm.trans
      ((congrArg _ heq).trans (filterMap_http2_connectCalls q)))
  have hset : p.h2.settings = q.h2.settings := by rw [hh2]
  rcases tls_of_calls hp hq hset hmem with ⟨hframes, htls⟩
  exact ⟨hframes, TransportProfile.ext htls hh2⟩

/-- With names that fit behind a byte, indistinct profiles are the same but for
    the three unused fields. -/
theorem Indistinct.same {p q : TransportProfile} (h : Indistinct p q)
    (hp : ∀ proto ∈ p.tls.alpnProtocols, proto.length ≤ 255)
    (hq : ∀ proto ∈ q.tls.alpnProtocols, proto.length ≤ 255) :
    q = { tls := { p.tls with
            alpsUseNewCodepoint := q.tls.alpsUseNewCodepoint
            sessionTicketEnabled := q.tls.sessionTicketEnabled }
          h2 := { p.h2 with
            headersPriority :=
              { p.h2.headersPriority with dep := q.h2.headersPriority.dep } } } := by
  have hnames := alpnFrames_inj hp hq h.1
  have hq := h.2
  rw [← hnames] at hq
  exact hq

/-- Two profiles with ALPS are told apart exactly if they differ in something
    that is used. -/
theorem connectCalls_distinguish_iff {p q : TransportProfile} (hp : p.tls.alpsEnabled = true)
    (hq : q.tls.alpsEnabled = true) :
    (p ≠ q → connectCalls p ≠ connectCalls q) ↔ (Indistinct p q → p = q) := by
  rw [ne_eq, ne_eq, not_imp_not, connectCalls_eq_iff hp hq]

/-- The default profile, with a smaller stream window. -/
def smallWindow : TransportProfile :=
  { Chrome148.transport with
    h2 := { Chrome148.baseH2 with
      settings := { Chrome148.baseH2.settings with initialWindowSize := 65535 } } }

theorem connectCalls_distinguish_window :
    connectCalls Chrome148.transport ≠ connectCalls smallWindow := by
  have hne : ¬ smallWindow.h2.settings = Chrome148.transport.h2.settings := by decide
  exact (connectCalls_distinguish_iff rfl rfl).mpr
    (fun h => absurd (congrArg (fun p => p.h2.settings) h.2) hne)
    (fun h => hne (congrArg (fun p => p.h2.settings) h.symm))

/-- The default profile, without session tickets. -/
def noTickets : TransportProfile :=
  { Chrome148.transport with tls := { Chrome148.baseTls with sessionTicketEnabled := false } }

/-- Without session tickets the same calls are made as with them. -/
theorem connectCalls_noTickets : Chrome148.transport.tls.alpsEnabled = true ∧
    noTickets.tls.alpsEnabled = true ∧ Chrome148.transport ≠ noTickets ∧
    connectCalls Chrome148.transport = connectCalls noTickets :=
  ⟨rfl, rfl, fun h => absurd (congrArg (fun p => p.tls.sessionTicketEnabled) h) (by decide), rfl⟩

end Quik
