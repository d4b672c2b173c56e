import Quik.BuilderCalls
import Quik.HeaderText
import Quik.Library.StringList
import Quik.OneIdentity

/-!
# The Built-in Profiles

The profiles that come with the crate: three releases of Chrome on three systems.
Every profile of a release is made with a brand list of its own, which is drawn
at random: the name of the brand nobody has, for Chrome 134 its version too, and
the place where it stands among the others.

A server can compare what a request says of the browser in one header with what
it says in another. The requests of a client with a built-in profile stand the
comparison in every run: the release in the user agent is that of the brands,
the system in the user agent is that of the hint, and the brands can be read;
except for one of the names Chrome 147 and 148 may draw, which has a backslash
in it that is not escaped, so that a strict reader rejects the list
(`builtin_sent`).

## Main definitions

* `FullProfile`: A profile with all its parts.
* `brandList`, `brands`: The brand list, and what it says.
* `Release`, `Release.profile`: The releases, and their profiles.
* `akamai`: The fingerprint of the calls on the HTTP/2 builder.
* `Says`: A header map says a text under a name.
* `Consistent`: What a server can compare.

## Theorems

* `brandList_reads_iff`: When a brand list can be read.
* `akamai_builtin`: The HTTP/2 fingerprint of every profile.
* `builtin_sent`: The requests of a client with a built-in profile.
-/

namespace Quik

/-- `Platform`. -/
inductive Platform where
  | macOsArm
  | macOsX86
  | windowsX64
  | linuxX64
deriving DecidableEq, Repr

/-- The operating systems `profile_auto` is compiled for. -/
inductive HostOs where
  | macos
  | windows
  | other
deriving DecidableEq, Repr

def Platform.os : Platform → HostOs
  | .macOsArm | .macOsX86 => .macos
  | .windowsX64 => .windows
  | .linuxX64 => .other

/-- A `ChromeProfile` with all its fields. -/
structure FullProfile where
  version : UInt32
  platform : Platform
  tls : TlsProfile
  h2 : Http2Profile
  headers : HeaderProfile
deriving DecidableEq, Repr

/-- The part requests are made with. -/
def FullProfile.chrome (p : FullProfile) : ChromeProfile where
  h2 := p.h2
  headers := p.headers

/-- The part connections are made with. -/
def FullProfile.transport (p : FullProfile) : TransportProfile where
  tls := p.tls
  h2 := p.h2

/-- What `rand::random_range` gives for a brand list: the name, the version, of
    which Chrome 147 and 148 have one only, and the position. -/
structure Draw where
  brand : Fin 5
  version : Fin 3
  pos : Fin 3
deriving DecidableEq, Repr

/-- The three `format!` calls of `generate_sec_ch_ua`. -/
def brandList (major brand v : String) (pos : Nat) : String :=
  if pos = 0 then
    "\"" ++ brand ++ "\";v=\"" ++ v ++ "\", \"Chromium\";v=\"" ++ major ++
      "\", \"Google Chrome\";v=\"" ++ major ++ "\""
  else if pos = 1 then
    "\"Chromium\";v=\"" ++ major ++ "\", \"" ++ brand ++ "\";v=\"" ++ v ++
      "\", \"Google Chrome\";v=\"" ++ major ++ "\""
  else
    "\"Chromium\";v=\"" ++ major ++ "\", \"Google Chrome\";v=\"" ++ major ++ "\", \"" ++
      brand ++ "\";v=\"" ++ v ++ "\""

/-- The headers of a profile, by what the profiles differ in: the system and the
    release in the user agent, the brands, and the two hints of the platform. -/
def baseHeaders (system release secChUa platform platformVersion : String) : HeaderProfile where
  userAgent := "Mozilla/5.0 (" ++ system ++ ") AppleWebKit/537.36 (KHTML, like Gecko) Chrome/" ++
    release ++ " Safari/537.36"
  secChUa := secChUa
  secChUaPlatform := platform
  secChUaPlatformVersion := platformVersion
  includePriorityHeader := true
  zstdEncoding := true
  acceptLanguage := "en-US,en;q=0.9"

namespace Chrome134

/-- `AKAMAI_FINGERPRINT`, the same in the three releases. -/
def akamaiFingerprint : String :=
  "1:65536;2:0;4:6291456;6:262144|15663105|0|m,a,s,p"

/-- `base_tls`: like that of Chrome 148, with other signature algorithms. -/
def baseTls (alpsExtra : List (UInt16 × UInt32)) : TlsProfile :=
  { Chrome148.baseTls with
    alpsExtraSettings := alpsExtra
    sigalgs := [0x0403, 0x0804, 0x0401, 0x0503, 0x0805, 0x0501, 0x0806, 0x0601] }

def alpsExtraSettingsWinLinux : List (UInt16 × UInt32) :=
  [(0x7A9A, 0xE3590A45)]

def brandNames : Vector String 5 :=
  #v["Not:A-Brand", "Not(A:Brand", "Not/A)Brand", "Not A;Brand", "Not;A=Brand"]

def brandVersions : Vector String 3 :=
  #v["8", "24", "99"]

/-- `generate_sec_ch_ua` -/
def generateSecChUa (draw : Draw) : String :=
  brandList "134" brandNames[draw.brand] brandVersions[draw.version] draw.pos.val

/-- `chrome_134_macos_arm` -/
def chrome134MacosArm (draw : Draw) : FullProfile where
  version := 134
  platform := .macOsArm
  tls := baseTls []
  h2 := Chrome148.baseH2
  headers := baseHeaders "Macintosh; Intel Mac OS X 10_15_7" "134.0.6998.35"
    (generateSecChUa draw) "\"macOS\"" "\"15.0.0\""

/-- `chrome_134_windows_x64` -/
def chrome134WindowsX64 (draw : Draw) : FullProfile where
  version := 134
  platform := .windowsX64
  tls := baseTls alpsExtraSettingsWinLinux
  h2 := Chrome148.baseH2
  headers := baseHeaders "Windows NT 10.0; Win64; x64" "134.0.6998.35"
    (generateSecChUa draw) "\"Windows\"" "\"15.0.0\""

/-- `chrome_134_linux_x64` -/
def chrome134LinuxX64 (draw : Draw) : FullProfile where
  version := 134
  platform := .linuxX64
  tls := baseTls alpsExtraSettingsWinLinux
  h2 := Chrome148.baseH2
  headers := baseHeaders "X11; Linux x86_64" "134.0.6998.35"
    (generateSecChUa draw) "\"Linux\"" "\"0.0.0\""

/-- `profile` -/
def profile (draw : Draw) : Platform → FullProfile
  | .macOsArm | .macOsX86 => chrome134MacosArm draw
  | .windowsX64 => chrome134WindowsX64 draw
  | .linuxX64 => chrome134LinuxX64 draw

end Chrome134

namespace Chrome147

def brandNames : Vector String 5 :=
  #v["Not.A/Brand", "Not.A\\Brand", "Not.A)Brand", "Not.A;Brand", "Not.A=Brand"]

/-- `generate_sec_ch_ua` -/
def generateSecChUa (draw : Draw) : String :=
  brandList "147" brandNames[draw.brand] "8" draw.pos.val

/-- `chrome_147_macos_arm`, on the transport of Chrome 148. -/
def chrome147MacosArm (draw : Draw) : FullProfile where
  version := 147
  platform := .macOsArm
  tls := Chrome148.baseTls
  h2 := Chrome148.baseH2
  headers := baseHeaders "Macintosh; Intel Mac OS X 10_15_7" "147.0.7727.56"
    (generateSecChUa draw) "\"macOS\"" "\"14.4.0\""

/-- `chrome_147_windows_x64` -/
def chrome147WindowsX64 (draw : Draw) : FullProfile where
  version := 147
  platform := .windowsX64
  tls := Chrome148.baseTls
  h2 := Chrome148.baseH2
  headers := baseHeaders "Windows NT 10.0; Win64; x64" "147.0.7727.56"
    (generateSecChUa draw) "\"Windows\"" "\"10.0.0\""

/-- `chrome_147_linux_x64` -/
def chrome147LinuxX64 (draw : Draw) : FullProfile where
  version := 147
  platform := .linuxX64
  tls := Chrome148.baseTls
  h2 := Chrome148.baseH2
  headers := baseHeaders "X11; Linux x86_64" "147.0.7727.56"
    (generateSecChUa draw) "\"Linux\"" "\"\""

/-- `profile` -/
def profile (draw : Draw) : Platform → FullProfile
  | .macOsArm | .macOsX86 => chrome147MacosArm draw
  | .windowsX64 => chrome147WindowsX64 draw
  | .linuxX64 => chrome147LinuxX64 draw

end Chrome147

namespace Chrome148

/-- `generate_sec_ch_ua`, with the names of Chrome 147. -/
def generateSecChUa (draw : Draw) : String :=
  brandList "148" Chrome147.brandNames[draw.brand] "8" draw.pos.val

/-- `chrome_148_macos_arm` -/
def chrome148MacosArm (draw : Draw) : FullProfile where
  version := 148
  platform := .macOsArm
  tls := baseTls
  h2 := baseH2
  headers := baseHeaders "Macintosh; Intel Mac OS X 10_15_7" "148.0.0.0"
    (generateSecChUa draw) "\"macOS\"" "\"14.0.0\""

/-- `chrome_148_windows_x64` -/
def chrome148WindowsX64 (draw : Draw) : FullProfile where
  version := 148
  platform := .windowsX64
  tls := baseTls
  h2 := baseH2
  headers := baseHeaders "Windows NT 10.0; Win64; x64" "148.0.0.0"
    (generateSecChUa draw) "\"Windows\"" "\"13.0.0\""

/-- `chrome_148_linux_x64`, whose requests are those of `chrome148LinuxX64`. -/
def chrome148Linux (draw : Draw) : FullProfile where
  version := 148
  platform := .linuxX64
  tls := baseTls
  h2 := baseH2
  headers := (chrome148LinuxX64 (generateSecChUa draw)).headers

/-- `profile` -/
def profile (draw : Draw) : Platform → FullProfile
  | .macOsArm | .macOsX86 => chrome148MacosArm draw
  | .windowsX64 => chrome148WindowsX64 draw
  | .linuxX64 => chrome148Linux draw

/-- `profile_auto` -/
def profileAuto (draw : Draw) : HostOs → FullProfile
  | .macos => chrome148MacosArm draw
  | .windows => chrome148WindowsX64 draw
  | .other => chrome148Linux draw

end Chrome148

/-- The releases there are profiles of. -/
inductive Release where
  | chrome134
  | chrome147
  | chrome148
deriving DecidableEq, Repr

namespace Release

def profile (draw : Draw) : Release → Platform → FullProfile
  | .chrome134 => Chrome134.profile draw
  | .chrome147 => Chrome147.profile draw
  | .chrome148 => Chrome148.profile draw

def major : Release → String
  | .chrome134 => "134"
  | .chrome147 => "147"
  | .chrome148 => "148"

/-- The release as the user agents of the profiles have it. -/
def fullVersion : Release → String
  | .chrome134 => "134.0.6998.35"
  | .chrome147 => "147.0.7727.56"
  | .chrome148 => "148.0.0.0"

/-- The name and the version of the brand nobody has. -/
def brandName (draw : Draw) : Release → String
  | .chrome134 => Chrome134.brandNames[draw.brand]
  | .chrome147 | .chrome148 => Chrome147.brandNames[draw.brand]

def brandVersion (draw : Draw) : Release → String
  | .chrome134 => Chrome134.brandVersions[draw.version]
  | .chrome147 | .chrome148 => "8"

end Release

/-- The letter of a pseudo-header. -/
def PseudoOrder.letter : PseudoOrder → String
  | .method => "m"
  | .authority => "a"
  | .scheme => "s"
  | .path => "p"

/-- The HTTP/2 fingerprint: the settings in their order, the increment of the
    first WINDOW_UPDATE, the stream depended on, and the pseudo-headers. -/
def akamai (calls : List Http2Call) : String :=
  let settings := (sentSettings calls).map (fun s => toString s.1.toNat ++ ":" ++
    toString s.2.toNat)
  let increment := calls.filterMap (fun c => match c with
    | .initialConnectionWindowSize size => some (toString (size.toNat - 65535))
    | _ => none)
  let dependency := calls.filterMap (fun c => match c with
    | .headersStreamDependency streamId _ _ => some (toString streamId.toNat)
    | _ => none)
  let order := calls.filterMap (fun c => match c with
    | .headersPseudoOrder ids => some (",".intercalate (ids.map PseudoOrder.letter))
    | _ => none)
  "|".intercalate [";".intercalate settings, increment.getLast?.getD "",
    dependency.getLast?.getD "", order.getLast?.getD ""]

/-- The fingerprint of every profile is the one that is written down. -/
theorem akamai_builtin (release : Release) (draw : Draw) (platform : Platform) :
    akamai (configureBuilder (release.profile draw platform).h2) =
      Chrome134.akamaiFingerprint := by
  have hh2 : (release.profile draw platform).h2 = Chrome148.baseH2 := by
    cases release <;> cases platform <;> rfl
  rw [hh2]
  decide +kernel

/-- What a brand list says: the brands with their versions. -/
def brands (major brand v : String) (pos : Nat) : List StringList.Member :=
  let drawn := (brand.toList, v.toList)
  let chromium := ("Chromium".toList, major.toList)
  let chrome := ("Google Chrome".toList, major.toList)
  if pos = 0 then [drawn, chromium, chrome]
  else if pos = 1 then [chromium, drawn, chrome]
  else [chromium, chrome, drawn]

/-- A brand list is its brands between quotes, as they are. -/
theorem brandList_eq (major brand v : String) (pos : Nat) :
    (brandList major brand v pos).toList =
      StringList.bareList ['v'] (brands major brand v pos) := by
  -- The fixed parts of the three formats, cut where a name or a version begins and ends.
  have hquote : "\"".toList = ['"'] := rfl
  have hversion : "\";v=\"".toList = '"' :: (StringList.separator ['v'] ++ ['"']) := rfl
  have hfirst : "\"Chromium\";v=\"".toList =
      '"' :: ("Chromium".toList ++ '"' :: (StringList.separator ['v'] ++ ['"'])) := rfl
  have hnext : "\", \"".toList = '"' :: ',' :: ' ' :: ['"'] := rfl
  have hchromium : "\", \"Chromium\";v=\"".toList = '"' :: ',' :: ' ' :: '"' ::
      ("Chromium".toList ++ '"' :: (StringList.separator ['v'] ++ ['"'])) := rfl
  have hchrome : "\", \"Google Chrome\";v=\"".toList = '"' :: ',' :: ' ' :: '"' ::
      ("Google Chrome".toList ++ '"' :: (StringList.separator ['v'] ++ ['"'])) := rfl
  have hjoin : ∀ a b c : StringList.Member, StringList.bareList ['v'] [a, b, c] =
      StringList.bare ['v'] a ++ ',' :: ' ' :: (StringList.bare ['v'] b ++ ',' :: ' ' ::
        (StringList.bare ['v'] c ++ [])) := by
    intro a b c
    rw [StringList.bareList_cons, StringList.bareList_cons, StringList.bareList_singleton]
  unfold brandList brands
  split
  · rw [hjoin]
    simp only [String.toList_append, StringList.bare, hquote, hversion, hchromium, hchrome,
      List.append_assoc, List.cons_append, List.nil_append]
  · split
    · rw [hjoin]
      simp only [String.toList_append, StringList.bare, hquote, hversion, hfirst, hnext, hchrome,
        List.append_assoc, List.cons_append, List.nil_append]
    · rw [hjoin]
      simp only [String.toList_append, StringList.bare, hquote, hversion, hfirst, hnext, hchrome,
        List.append_assoc, List.cons_append, List.nil_append]

theorem forall_mem_brands {P : StringList.Member → Prop} (major brand v : String) (pos : Nat) :
    (∀ m ∈ brands major brand v pos, P m) ↔
      P (brand.toList, v.toList) ∧ P ("Chromium".toList, major.toList) ∧
        P ("Google Chrome".toList, major.toList) := by
  unfold brands
  split
  · simp only [List.forall_mem_cons, List.not_mem_nil, false_implies, implies_true, and_true]
  · split
    · simp only [List.forall_mem_cons, List.not_mem_nil, false_implies, implies_true, and_true]
      exact and_left_comm
    · simp only [List.forall_mem_cons, List.not_mem_nil, false_implies, implies_true, and_true]
      tauto

/-- A text that goes between quotes as it is. -/
structure Bare (s : String) : Prop where
  quotable : StringList.Quotable s.toList
  plain : '\\' ∉ s.toList

/-- A brand list can be read exactly if there is no backslash in the name that
    was drawn. -/
theorem brandList_reads_iff {major brand v : String} (hmajor : Bare major) (hv : Bare v)
    (hbrand : StringList.Quotable brand.toList) (pos : Nat) :
    StringList.read ['v'] (brandList major brand v pos).toList = some (brands major brand v pos) ↔
      '\\' ∉ brand.toList := by
  have hne : brands major brand v pos ≠ [] := by
    unfold brands
    split
    · exact List.cons_ne_nil _ _
    · split <;> exact List.cons_ne_nil _ _
  have hchromium : Bare "Chromium" := ⟨by decide +kernel, by decide +kernel⟩
  have hchrome : Bare "Google Chrome" := ⟨by decide +kernel, by decide +kernel⟩
  rw [brandList_eq, StringList.read_bareList_iff hne]
  · rw [forall_mem_brands]
    exact ⟨fun h => h.1.name, fun h => ⟨⟨h, hv.plain⟩, ⟨hchromium.plain, hmajor.plain⟩,
      ⟨hchrome.plain, hmajor.plain⟩⟩⟩
  · rw [forall_mem_brands]
    exact ⟨⟨hbrand, hv.quotable⟩, ⟨hchromium.quotable, hmajor.quotable⟩,
      ⟨hchrome.quotable, hmajor.quotable⟩⟩

/-- A brand list is a legal header value. -/
theorem isLegalText_brandList {major brand v : String} (hmajor : isLegalText major = true)
    (hbrand : isLegalText brand = true) (hv : isLegalText v = true) (pos : Nat) :
    isLegalText (brandList major brand v pos) = true := by
  unfold brandList
  split
  · simp only [isLegalText_append, hmajor, hbrand, hv, Bool.and_true]
    decide +kernel
  · split
    · simp only [isLegalText_append, hmajor, hbrand, hv, Bool.and_true]
      decide +kernel
    · simp only [isLegalText_append, hmajor, hbrand, hv, Bool.and_true]
      decide +kernel

/-- The brands of a profile. -/
def Release.brands (release : Release) (draw : Draw) : List StringList.Member :=
  Quik.brands release.major (release.brandName draw) (release.brandVersion draw) draw.pos

/-- The name that was drawn, with a backslash in it. -/
def Release.drewBackslash (release : Release) (draw : Draw) : Bool :=
  release ≠ .chrome134 ∧ draw.brand = 1

theorem secChUa_profile (release : Release) (draw : Draw) (platform : Platform) :
    (release.profile draw platform).headers.secChUa =
      brandList release.major (release.brandName draw) (release.brandVersion draw) draw.pos := by
  cases release <;> cases platform <;> rfl

/-- The texts a brand list is made of, and which names have a backslash in them. -/
theorem brandName_spec (release : Release) (draw : Draw) :
    StringList.Quotable (release.brandName draw).toList ∧
      ('\\' ∈ (release.brandName draw).toList ↔ release.drewBackslash draw = true) := by
  have h134 : ∀ i : Fin 5, StringList.Quotable Chrome134.brandNames[i].toList ∧
      '\\' ∉ Chrome134.brandNames[i].toList := by decide +kernel
  have h147 : ∀ i : Fin 5, StringList.Quotable Chrome147.brandNames[i].toList ∧
      ('\\' ∈ Chrome147.brandNames[i].toList ↔ i = 1) := by decide +kernel
  cases release with
  | chrome134 =>
      refine ⟨(h134 draw.brand).1, fun h => absurd h (h134 draw.brand).2, fun h => ?_⟩
      exact absurd rfl (of_decide_eq_true h).1
  | chrome147 | chrome148 =>
      refine ⟨(h147 draw.brand).1, (h147 draw.brand).2.trans ⟨fun h => ?_, fun h => ?_⟩⟩
      · exact decide_eq_true ⟨by decide, h⟩
      · exact (of_decide_eq_true h).2

theorem brandVersion_bare (release : Release) (draw : Draw) : Bare (release.brandVersion draw) := by
  have h134 : ∀ i : Fin 3, StringList.Quotable Chrome134.brandVersions[i].toList ∧
      '\\' ∉ Chrome134.brandVersions[i].toList := by decide +kernel
  cases release with
  | chrome134 => exact ⟨(h134 draw.version).1, (h134 draw.version).2⟩
  | chrome147 | chrome148 =>
      have h8 : StringList.Quotable "8".toList ∧ '\\' ∉ "8".toList := by decide +kernel
      exact ⟨h8.1, h8.2⟩

theorem major_bare (release : Release) : Bare release.major := by
  cases release <;> exact ⟨by decide +kernel, by decide +kernel⟩

/-- What follows the backslash is neither a quote nor a backslash. -/
theorem read_backslash : ∀ (i : Fin 5) (pos : Fin 3), i = 1 →
    StringList.read ['v'] (brandList "147" Chrome147.brandNames[i] "8" pos).toList = none ∧
    StringList.read ['v'] (brandList "148" Chrome147.brandNames[i] "8" pos).toList = none := by
  decide +kernel

/-- A strict reader reads the brands of a profile, or rejects the list. -/
theorem read_secChUa (release : Release) (draw : Draw) (platform : Platform) :
    StringList.read ['v'] (release.profile draw platform).headers.secChUa.toList =
      if release.drewBackslash draw then none else some (release.brands draw) := by
  rw [secChUa_profile]
  split
  · rename_i hdrew
    rcases of_decide_eq_true hdrew with ⟨hrelease, hbrand⟩
    cases release with
    | chrome134 => exact absurd rfl hrelease
    | chrome147 => exact (read_backslash draw.brand draw.pos hbrand).1
    | chrome148 => exact (read_backslash draw.brand draw.pos hbrand).2
  · rename_i hdrew
    have hspec := brandName_spec release draw
    exact (brandList_reads_iff (major_bare release) (brandVersion_bare release draw) hspec.1
      draw.pos).mpr (fun h => hdrew (hspec.2.mp h))

/-- The header map has one value for the name, with this text. -/
def Says (m : HeaderMap) (name text : String) : Prop :=
  (m.getAll name).map HeaderValue.bytes = [utf8 text]

theorem says_of_legal {m : HeaderMap} {name text : String} (hlegal : isLegalText text = true)
    (h : m.getAll name = (HeaderValue.fromStr text).toList) : Says m name text := by
  rw [← fromStr_isSome] at hlegal
  rcases Option.isSome_iff_exists.mp hlegal with ⟨v, hv⟩
  rw [Says, h, hv, Option.toList_some, List.map_singleton, HeaderValue.fromStr_bytes hv]

/-- What follows the first occurrence of a word. -/
def textAfter (word : List Char) : List Char → Option (List Char)
  | [] => none
  | c :: l => ((c :: l).dropPrefix? word).or (textAfter word l)

/-- The release a user agent names. -/
def chromeMajor (userAgent : List Char) : Option (List Char) :=
  (textAfter "Chrome/".toList userAgent).map (List.takeWhile Char.isDigit)

/-- How a user agent names a system, and how the hint does. -/
def HostOs.token : HostOs → String
  | .macos => "Macintosh"
  | .windows => "Windows NT"
  | .other => "X11; Linux"

/-- The system as the user agents of the profiles have it. -/
def HostOs.system : HostOs → String
  | .macos => "Macintosh; Intel Mac OS X 10_15_7"
  | .windows => "Windows NT 10.0; Win64; x64"
  | .other => "X11; Linux x86_64"

def HostOs.name : HostOs → String
  | .macos => "macOS"
  | .windows => "Windows"
  | .other => "Linux"

/-- What a server can compare: the release and the system in the user agent with
    those in the brand list and in the hint. -/
structure Consistent (release : Release) (draw : Draw) (os : HostOs) (m : HeaderMap) :
    Prop where
  userAgent : ∃ text, Says m "user-agent" text ∧
    chromeMajor text.toList = some release.major.toList ∧
    ∀ os', containsStr text os'.token = true ↔ os' = os
  platform : Says m "sec-ch-ua-platform" ("\"" ++ os.name ++ "\"")
  brands : ∃ text, Says m "sec-ch-ua" text ∧ StringList.read ['v'] text.toList =
    if release.drewBackslash draw then none else some (release.brands draw)

/-- The user agent of a release on a system. -/
def userAgentChars (release : Release) (os : HostOs) : List Char :=
  "Mozilla/5.0 (".toList ++ os.system.toList ++
    ") AppleWebKit/537.36 (KHTML, like Gecko) Chrome/".toList ++ release.fullVersion.toList ++
    " Safari/537.36".toList

theorem userAgent_toList (release : Release) (draw : Draw) (platform : Platform) :
    (release.profile draw platform).headers.userAgent.toList =
      userAgentChars release platform.os := by
  have hlinux : (Chrome148.chrome148LinuxX64 "").headers.userAgent =
      (baseHeaders "X11; Linux x86_64" "148.0.0.0" "" "" "").userAgent := by decide +kernel
  have hbase : (release.profile draw platform).headers.userAgent =
      "Mozilla/5.0 (" ++ platform.os.system ++
        ") AppleWebKit/537.36 (KHTML, like Gecko) Chrome/" ++ release.fullVersion ++
        " Safari/537.36" := by
    cases release with
    | chrome134 | chrome147 => cases platform <;> rfl
    | chrome148 =>
        cases platform with
        | linuxX64 => exact hlinux
        | _ => rfl
  have hparts : ∀ a b c d e : String, (a ++ b ++ c ++ d ++ e).toList =
      a.toList ++ b.toList ++ c.toList ++ d.toList ++ e.toList := by
    intro a b c d e
    simp only [String.toList_append]
  rw [hbase]
  exact hparts _ _ _ _ _

/-- Which system and which release the user agents name. -/
theorem userAgentChars_spec (release : Release) (os : HostOs) :
    (userAgentChars release os).all isPrintable = true ∧
      chromeMajor (userAgentChars release os) = some release.major.toList ∧
      ∀ os', os'.token.toList <:+: userAgentChars release os ↔ os' = os := by
  have hall : ∀ r ∈ [Release.chrome134, .chrome147, .chrome148],
      ∀ o ∈ [HostOs.macos, .windows, .other],
        (userAgentChars r o).all isPrintable = true ∧
        chromeMajor (userAgentChars r o) = some r.major.toList ∧
        ∀ o' ∈ [HostOs.macos, .windows, .other],
          o'.token.toList <:+: userAgentChars r o ↔ o' = o := by
    decide +kernel
  -- No user agent has the token of another system in it.
  have hat := hall release (by cases release <;> decide) os (by cases os <;> decide)
  exact ⟨hat.1, hat.2.1, fun os' => hat.2.2 os' (by cases os' <;> decide)⟩

theorem platform_profile (release : Release) (draw : Draw) (platform : Platform) :
    isLegalText (release.profile draw platform).headers.secChUaPlatform = true ∧
      (release.profile draw platform).headers.secChUaPlatform =
        "\"" ++ platform.os.name ++ "\"" := by
  have htext : (release.profile draw platform).headers.secChUaPlatform =
      "\"" ++ platform.os.name ++ "\"" := by
    cases release <;> cases platform <;> rfl
  refine ⟨?_, htext⟩
  rw [htext]
  cases platform <;> decide +kernel

theorem isLegalText_secChUa (release : Release) (draw : Draw) (platform : Platform) :
    isLegalText (release.profile draw platform).headers.secChUa = true := by
  have hbare : ∀ {s : String}, StringList.Quotable s.toList → isLegalText s = true :=
    fun h => isLegalText_of_printable (List.all_eq_true.mpr fun c hc => (h c hc).1)
  rw [secChUa_profile]
  exact isLegalText_brandList (hbare (major_bare release).quotable)
    (hbare (brandName_spec release draw).1) (hbare (brandVersion_bare release draw).quotable) _

section Wire

variable {Jar : Type} {cl : Client Jar}

open Transition

/-- In every run of a client with a built-in profile every request that is handed
    to a transport names one release and one system, in the user agent as in the
    hints; and its brand list can be read, unless a backslash was drawn. -/
theorem builtin_sent {release : Release} {draw : Draw} {platform : Platform}
    (hprofile : cl.profile = (release.profile draw platform).chrome) (altSvc : AltSvcCache)
    (jar : Jar) {as : List Action} {s : State cl}
    (hrun : run step (State.fresh cl altSvc jar) as = some s) {r : Sent}
    (hr : r ∈ wire cl altSvc jar as) :
    Consistent release draw platform.os r.request.headers := by
  rcases wire_built altSvc jar hrun hr with ⟨v, hchain, hbuilt, _⟩
  have hid := identified_requestHeaders (startInv_chain hchain) cl.crates.url cl.profile v.parsedUrl
    v.cookieHeader v.context v.acceptCh
  rw [← buildRequest_headers hbuilt, hprofile] at hid
  have hagent := userAgentChars_spec release platform.os
  have hplatform := platform_profile release draw platform
  have hpersona : ∀ name text, (name, HeaderValue.fromStr text) ∈
      persona (release.profile draw platform).chrome v.context → isLegalText text = true →
      Says r.request.headers name text :=
    fun name text hmem hlegal => says_of_legal hlegal (hid.persona name _ hmem)
  constructor
  · refine ⟨_, hpersona "user-agent" _ List.mem_cons_self (isLegalText_of_printable ?_), ?_, ?_⟩
    · exact userAgent_toList release draw platform ▸ hagent.1
    · exact userAgent_toList release draw platform ▸ hagent.2.1
    · intro os'
      rw [containsStr, decide_eq_true_eq, FullProfile.chrome, userAgent_toList]
      exact hagent.2.2 os'
  · rw [← hplatform.2]
    refine hpersona "sec-ch-ua-platform" _ ?_ hplatform.1
    simp only [persona, FullProfile.chrome, List.mem_cons, true_or, or_true]
  · refine ⟨_, hpersona "sec-ch-ua" _ ?_ (isLegalText_secChUa release draw platform),
      read_secChUa release draw platform⟩
    simp only [persona, FullProfile.chrome, List.mem_cons, true_or, or_true]

/-- A client with the profile of Chrome 148 for Linux that drew the backslash. -/
def drewBackslash : Client Unit :=
  { direct with profile := (Release.chrome148.profile ⟨1, 0, 1⟩ .linuxX64).chrome }

theorem builtin_sent_redirected :
    ∃ s, run step (State.fresh drewBackslash AltSvcCache.new ()) redirected = some s ∧
      (wire drewBackslash AltSvcCache.new () redirected).length = 2 ∧
      ∀ r ∈ wire drewBackslash AltSvcCache.new () redirected,
        Consistent .chrome148 ⟨1, 0, 1⟩ .other r.request.headers := by
  have hrun : (run step (State.fresh drewBackslash AltSvcCache.new ()) redirected).isSome =
      true := by decide +kernel
  rcases Option.isSome_iff_exists.mp hrun with ⟨s, hs⟩
  exact ⟨s, hs, by decide +kernel, fun r hr => @builtin_sent Unit drewBackslash .chrome148 ⟨1, 0, 1⟩
    .linuxX64 rfl AltSvcCache.new () _ _ hs _ hr⟩

end Wire

end Quik
