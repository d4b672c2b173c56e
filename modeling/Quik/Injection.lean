import Quik.Request

/-!
# What Header Injection Touches

`injectChromeHeaders` is fifteen overwrites, each of which may be left out, and
a pass over all values. The overwrites go to fifteen different names, none of
them a secret one (`chromeWrites`), and so they do not get in each other's way
nor in that of the pass: a name that is written ends up with the one value
written, every other name with the values it had, and of these the cookies and
the credentials are marked. A second injection with the same arguments finds
every value in place already.

## Main definitions

* `chromeWrites`, `managedNames`: The overwrites, and the names they go to.

## Theorems

* `HeaderMap.insert_eq_self`: Writing what is there changes nothing.
* `HeaderMap.getAll_markSensitive`: The pass, name by name.
* `HeaderMap.lookup_writes_of_mem`, `HeaderMap.lookup_writes_of_not_written`:
    Several overwrites, name by name.
* `injectChromeHeaders_eq`: Injection is overwrites and a pass.
* `injectChromeHeaders_frame`: Marked, framed, and idempotent.
-/

namespace Quik

attribute [ext] HeaderMap

namespace HeaderMap

/-- Writing the one value a name has changes nothing. -/
theorem insert_eq_self {m : HeaderMap} {name : String} {v : HeaderValue}
    (h : m.entries.lookup name = some [v]) : m.insert name v = m :=
  HeaderMap.ext (Assoc.alter_eq_self h rfl)

/-- The flag pass, on all values of a name. -/
theorem getAll_markSensitive (p : String → Bool) (m : HeaderMap) (name : String) :
    (m.markSensitive p).getAll name =
      if p name then (m.getAll name).map (fun v => { v with sensitive := true })
      else m.getAll name := by
  rw [getAll, markSensitive,
    lookup_map_values (fun n vs => if p n then vs.map (fun v => { v with sensitive := true })
      else vs), getAll]
  cases m.entries.lookup name with
  | none => simp only [Option.map_none, Option.getD_none, List.map_nil, ite_self]
  | some vs => rfl

/-- A second pass finds every flag set. -/
theorem markSensitive_idem (p : String → Bool) (m : HeaderMap) :
    (m.markSensitive p).markSensitive p = m.markSensitive p := by
  ext1
  simp only [markSensitive, List.map_map]
  refine List.map_congr_left (fun e _ => ?_)
  by_cases hp : p e.1 = true
  · simp only [Function.comp_apply, hp, if_true, List.map_map, Function.comp_def]
  · simp only [Function.comp_apply, hp, Bool.false_eq_true, if_false]

/-- Overwrites one after another, each with a value that may be missing. -/
def writes (ws : List (String × Option HeaderValue)) (m : HeaderMap) : HeaderMap :=
  ws.foldl (fun m w => m.insertOk w.1 w.2) m

/-- A name that is not written keeps its values. -/
theorem lookup_writes_of_not_written {ws : List (String × Option HeaderValue)} {name : String}
    (h : ∀ v, (name, some v) ∉ ws) (m : HeaderMap) :
    (m.writes ws).entries.lookup name = m.entries.lookup name := by
  induction ws generalizing m with
  | nil => rfl
  | cons w ws ih =>
      have hrest := ih (fun v hv => h v (List.mem_cons_of_mem w hv)) (m.insertOk w.1 w.2)
      rw [writes, List.foldl_cons]
      refine hrest.trans ?_
      cases hw : w.2 with
      | none => rfl
      | some v =>
          have hne : name ≠ w.1 := by
            rintro rfl
            exact h v (hw ▸ List.mem_cons_self)
          exact Assoc.lookup_alter_of_ne hne _ _

/-- A name that is written once has the value written. -/
theorem lookup_writes_of_mem {ws : List (String × Option HeaderValue)}
    (hnodup : (ws.map Prod.fst).Nodup) {name : String} {v : HeaderValue}
    (h : (name, some v) ∈ ws) (m : HeaderMap) :
    (m.writes ws).entries.lookup name = some [v] := by
  induction ws generalizing m with
  | nil => exact absurd h List.not_mem_nil
  | cons w ws ih =>
      rw [List.map_cons, List.nodup_cons] at hnodup
      rcases List.mem_cons.mp h with rfl | h
      · have hrest : ∀ u, (name, some u) ∉ ws :=
          fun u hu => hnodup.1 (List.mem_map.mpr ⟨_, hu, rfl⟩)
        exact (lookup_writes_of_not_written hrest (m.insertOk name (some v))).trans
          (Assoc.lookup_alter_self _ _ _)
      · exact ih hnodup.2 h (m.insertOk w.1 w.2)

/-- Overwrites that find their values in place change nothing. -/
theorem writes_eq_self {ws : List (String × Option HeaderValue)} {m : HeaderMap}
    (h : ∀ name v, (name, some v) ∈ ws → m.entries.lookup name = some [v]) :
    m.writes ws = m := by
  induction ws with
  | nil => rfl
  | cons w ws ih =>
      have hstep : m.insertOk w.1 w.2 = m := by
        cases hw : w.2 with
        | none => rfl
        | some v => exact insert_eq_self (h w.1 v (hw ▸ List.mem_cons_self))
      have hrest := ih (fun name v hv => h name v (List.mem_cons_of_mem w hv))
      rw [writes, List.foldl_cons, hstep]
      exact hrest

end HeaderMap

/-- The overwrites of an injection, in their order. A value is missing where
    its text is not legal or its condition does not hold. -/
def chromeWrites (profile : ChromeProfile) (secFetchSite : String) (isInitialNavigation : Bool)
    (context : RequestContext) (acceptCh : Bool) (referer : Option String) :
    List (String × Option HeaderValue) :=
  let p := profile.headers
  let metadata := fetchMetadata context
  [ ("sec-ch-ua", HeaderValue.fromStr p.secChUa),
    ("sec-ch-ua-mobile", some (.fromStatic "?0" (Eq.refl true))),
    ("sec-ch-ua-platform", HeaderValue.fromStr p.secChUaPlatform),
    ("sec-ch-ua-platform-version",
      if acceptCh then HeaderValue.fromStr p.secChUaPlatformVersion else none),
    ("upgrade-insecure-requests", some (.fromStatic "1" (Eq.refl true))),
    ("user-agent", HeaderValue.fromStr p.userAgent),
    ("sec-fetch-site", HeaderValue.fromStr secFetchSite),
    ("accept", some metadata.2.2),
    ("sec-fetch-mode", some metadata.1),
    ("sec-fetch-user",
      if isInitialNavigation && context.isNavigation then some (.fromStatic "?1" (Eq.refl true))
        else none),
    ("sec-fetch-dest", some metadata.2.1),
    ("referer", referer.bind HeaderValue.fromStr),
    ("accept-encoding",
      some (if p.zstdEncoding then .fromStatic "gzip, deflate, br, zstd" (Eq.refl true)
        else .fromStatic "gzip, deflate, br" (Eq.refl true))),
    ("accept-language", HeaderValue.fromStr p.acceptLanguage),
    ("priority",
      if p.includePriorityHeader then some (.fromStatic "u=0, i" (Eq.refl true)) else none) ]

/-- The names an injection may write. -/
def managedNames : List String :=
  [ "sec-ch-ua", "sec-ch-ua-mobile", "sec-ch-ua-platform", "sec-ch-ua-platform-version",
    "upgrade-insecure-requests", "user-agent", "sec-fetch-site", "accept", "sec-fetch-mode",
    "sec-fetch-user", "sec-fetch-dest", "referer", "accept-encoding", "accept-language",
    "priority" ]

section Injection

variable (headers : HeaderMap) (profile : ChromeProfile) (secFetchSite : String)
  (isInitialNavigation : Bool) (context : RequestContext) (acceptCh : Bool)
  (referer : Option String)

theorem map_fst_chromeWrites :
    (chromeWrites profile secFetchSite isInitialNavigation context acceptCh referer).map Prod.fst =
      managedNames := rfl

theorem managedNames_nodup : managedNames.Nodup := by decide

/-- No name that is written is a secret one. -/
theorem not_secret_of_managed {name : String} (h : name ∈ managedNames) :
    isSecretName name = false := by
  have hall : ∀ n ∈ managedNames, isSecretName n = false := by decide
  exact hall name h

/-- An injection is its overwrites, and the pass. -/
theorem injectChromeHeaders_eq :
    injectChromeHeaders headers profile secFetchSite isInitialNavigation context acceptCh referer =
      (headers.writes (chromeWrites profile secFetchSite isInitialNavigation context acceptCh
        referer)).markSensitive isSecretName := by
  cases context <;> rfl

/-- A name the injection writes has the value written and no other. -/
theorem getAll_injectChromeHeaders_of_written {name : String} {v : HeaderValue}
    (h : (name, some v) ∈ chromeWrites profile secFetchSite isInitialNavigation context acceptCh
      referer) :
    (injectChromeHeaders headers profile secFetchSite isInitialNavigation context acceptCh
      referer).getAll name = [v] := by
  have hmanaged : name ∈ managedNames := by
    rw [← map_fst_chromeWrites profile secFetchSite isInitialNavigation context acceptCh referer]
    exact List.mem_map_of_mem h
  rw [injectChromeHeaders_eq, HeaderMap.getAll_markSensitive, not_secret_of_managed hmanaged,
    if_neg Bool.false_ne_true, HeaderMap.getAll,
    HeaderMap.lookup_writes_of_mem (map_fst_chromeWrites profile secFetchSite isInitialNavigation
      context acceptCh referer ▸ managedNames_nodup) h, Option.getD_some]

/-- A name it does not write has the values it had, with the secret ones
    marked. -/
theorem getAll_injectChromeHeaders_of_not_written {name : String}
    (h : ∀ v, (name, some v) ∉ chromeWrites profile secFetchSite isInitialNavigation context
      acceptCh referer) :
    (injectChromeHeaders headers profile secFetchSite isInitialNavigation context acceptCh
      referer).getAll name =
      if isSecretName name then
        (headers.getAll name).map (fun v => { v with sensitive := true })
      else headers.getAll name := by
  rw [injectChromeHeaders_eq, HeaderMap.getAll_markSensitive, HeaderMap.getAll,
    HeaderMap.lookup_writes_of_not_written h, HeaderMap.getAll]

/-- A second injection finds everything in place. -/
theorem injectChromeHeaders_idem :
    injectChromeHeaders (injectChromeHeaders headers profile secFetchSite isInitialNavigation
      context acceptCh referer) profile secFetchSite isInitialNavigation context acceptCh referer =
    injectChromeHeaders headers profile secFetchSite isInitialNavigation context acceptCh
      referer := by
  -- What the first injection wrote is still there, whatever the map was before.
  have hplace : ∀ name v, (name, some v) ∈ chromeWrites profile secFetchSite isInitialNavigation
      context acceptCh referer → (injectChromeHeaders headers profile secFetchSite
        isInitialNavigation context acceptCh referer).entries.lookup name = some [v] := by
    intro name v h
    have hall := getAll_injectChromeHeaders_of_written headers profile secFetchSite
      isInitialNavigation context acceptCh referer h
    rw [HeaderMap.getAll] at hall
    cases hl : (injectChromeHeaders headers profile secFetchSite isInitialNavigation context
        acceptCh referer).entries.lookup name with
    | none =>
        rw [hl] at hall
        exact absurd hall.symm (List.cons_ne_nil v [])
    | some vs =>
        rw [hl, Option.getD_some] at hall
        rw [hall]
  rw [injectChromeHeaders_eq (injectChromeHeaders headers profile secFetchSite isInitialNavigation
    context acceptCh referer), HeaderMap.writes_eq_self hplace, injectChromeHeaders_eq,
    HeaderMap.markSensitive_idem]

/-- After an injection every cookie and every credential is marked, a name that
    was not written has the values it had, a name that was written has one
    value, and a second injection changes nothing. -/
theorem injectChromeHeaders_frame :
    let writes := chromeWrites profile secFetchSite isInitialNavigation context acceptCh referer
    let inject := fun h => injectChromeHeaders h profile secFetchSite isInitialNavigation context
      acceptCh referer
    (∀ name, name = "cookie" ∨ name = "authorization" →
      ∀ v ∈ (inject headers).getAll name, v.sensitive = true) ∧
    (∀ name, name ∉ managedNames ∨ (name, none) ∈ writes →
      ((inject headers).getAll name).map HeaderValue.bytes =
        (headers.getAll name).map HeaderValue.bytes ∧
      (name ≠ "cookie" → name ≠ "authorization" →
        (inject headers).getAll name = headers.getAll name)) ∧
    (∀ name v, (name, some v) ∈ writes → (inject headers).getAll name = [v]) ∧
    inject (inject headers) = inject headers := by
  intro writes inject
  have hkeys : writes.map Prod.fst = managedNames := rfl
  have hkept : ∀ name, name ∉ managedNames ∨ (name, none) ∈ writes →
      (inject headers).getAll name = if isSecretName name then
        (headers.getAll name).map (fun v => { v with sensitive := true })
      else headers.getAll name := by
    intro name hname
    refine getAll_injectChromeHeaders_of_not_written headers profile secFetchSite
      isInitialNavigation context acceptCh referer (fun v hv => ?_)
    rcases hname with hname | hnone
    · exact hname (hkeys ▸ List.mem_map_of_mem hv)
    -- A name is among the overwrites once, so it is left out or has a value.
    · have hone := List.inj_on_of_nodup_map (hkeys ▸ managedNames_nodup) hnone hv rfl
      exact absurd (Prod.mk.inj hone).2 (by simp only [reduceCtorEq, not_false_eq_true])
  refine ⟨fun name hname v hv => ?_, fun name hname => ⟨?_, fun hcookie hauth => ?_⟩,
    fun name v hv => getAll_injectChromeHeaders_of_written headers profile secFetchSite
      isInitialNavigation context acceptCh referer hv,
    injectChromeHeaders_idem headers profile secFetchSite isInitialNavigation context acceptCh
      referer⟩
  · have hsecret : isSecretName name = true ∧ name ∉ managedNames := by
      rcases hname with rfl | rfl <;> decide
    rw [hkept name (Or.inl hsecret.2), if_pos hsecret.1] at hv
    rcases List.mem_map.mp hv with ⟨v', _, rfl⟩
    rfl
  · rw [hkept name hname]
    by_cases hsecret : isSecretName name = true
    · rw [if_pos hsecret, List.map_map]
      rfl
    · rw [if_neg hsecret]
  · rw [hkept name hname, if_neg]
    simp only [isSecretName, hcookie, hauth, decide_false, Bool.or_self, Bool.false_eq_true,
      not_false_eq_true]

end Injection

end Quik
