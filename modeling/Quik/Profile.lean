import Mathlib.Data.List.Basic

/-!
# Identity Profiles

The parts of a Chrome profile that the modelled code reads: the TLS
parameters, the HTTP/2 settings and window sizes, and the header values.
`chrome148LinuxX64` is the default profile on Linux, with the randomized brand
list as a parameter. `Chrome148.transport` is what its connections are made
with.
-/

namespace Quik

/-- `TlsVersion`, the versions of the `boring` crate. -/
inductive TlsVersion where
  | ssl3
  | tls1
  | tls1_1
  | tls1_2
  | tls1_3
deriving DecidableEq, Repr

/-- `TlsProfile`. -/
@[ext] structure TlsProfile where
  minVersion : TlsVersion
  maxVersion : TlsVersion
  cipherList : String
  curves : List UInt16
  greaseEnabled : Bool
  permuteExtensions : Bool
  enableEchGrease : Bool
  alpsEnabled : Bool
  alpsUseNewCodepoint : Bool
  alpsExtraSettings : List (UInt16 × UInt32)
  compressCertificate : Bool
  sessionTicketEnabled : Bool
  alpnProtocols : List (List UInt8)
  sigalgs : List UInt16
  verifyPeer : Bool
deriving DecidableEq, Repr

/-- The initial SETTINGS values, `SettingsFrame`. -/
structure SettingsFrame where
  headerTableSize : UInt32
  enablePush : Bool
  initialWindowSize : UInt32
  maxHeaderListSize : UInt32
deriving DecidableEq, Repr

inductive PseudoOrder where
  | method
  | authority
  | scheme
  | path
deriving DecidableEq, Repr

/-- Stream priority of the first HEADERS frame. -/
structure HeadersPriority where
  dep : UInt32
  weight : UInt8
  exclusive : Bool
deriving DecidableEq, Repr

/-- `Http2Profile`. The pseudo-header order is an array of four in the source. -/
structure Http2Profile where
  settings : SettingsFrame
  initialConnectionWindowSize : UInt32
  pseudoOrder : Vector PseudoOrder 4
  headersPriority : HeadersPriority
deriving DecidableEq, Repr

/-- The two parts of a `ChromeProfile` that a connection is made with. -/
@[ext] structure TransportProfile where
  tls : TlsProfile
  h2 : Http2Profile
deriving DecidableEq, Repr

/-- The header values and client hints, `HeaderProfile`. -/
structure HeaderProfile where
  userAgent : String
  secChUa : String
  secChUaPlatform : String
  secChUaPlatformVersion : String
  includePriorityHeader : Bool
  zstdEncoding : Bool
  acceptLanguage : String
deriving DecidableEq, Repr

/-- `ChromeProfile`, without the version, platform and TLS fields. -/
structure ChromeProfile where
  h2 : Http2Profile
  headers : HeaderProfile
deriving DecidableEq, Repr

namespace Chrome148

/-- `base_h2` -/
def baseH2 : Http2Profile where
  settings :=
    { headerTableSize := 65536
      enablePush := false
      initialWindowSize := 6291456
      maxHeaderListSize := 262144 }
  initialConnectionWindowSize := 15728640
  pseudoOrder := #v[.method, .authority, .scheme, .path]
  headersPriority := { dep := 0, weight := 255, exclusive := true }

/-- `base_tls` -/
def baseTls : TlsProfile where
  minVersion := .tls1_2
  maxVersion := .tls1_3
  cipherList := "TLS_AES_128_GCM_SHA256:" ++ "TLS_AES_256_GCM_SHA384:" ++
    "TLS_CHACHA20_POLY1305_SHA256:" ++ "ECDHE-ECDSA-AES128-GCM-SHA256:" ++
    "ECDHE-RSA-AES128-GCM-SHA256:" ++ "ECDHE-ECDSA-AES256-GCM-SHA384:" ++
    "ECDHE-RSA-AES256-GCM-SHA384:" ++ "ECDHE-ECDSA-CHACHA20-POLY1305:" ++
    "ECDHE-RSA-CHACHA20-POLY1305:" ++ "ECDHE-RSA-AES128-SHA:" ++ "ECDHE-RSA-AES256-SHA:" ++
    "AES128-GCM-SHA256:" ++ "AES256-GCM-SHA384:" ++ "AES128-SHA:" ++ "AES256-SHA"
  curves := [4588, 29, 23, 24]
  greaseEnabled := true
  permuteExtensions := true
  enableEchGrease := true
  alpsEnabled := true
  alpsUseNewCodepoint := true
  alpsExtraSettings := []
  compressCertificate := true
  sessionTicketEnabled := true
  -- "h2", then "http/1.1".
  alpnProtocols := [[104, 50], [104, 116, 116, 112, 47, 49, 46, 49]]
  sigalgs := [0x0403, 0x0804, 0x0401, 0x0503, 0x0805, 0x0501, 0x0806, 0x0601, 0x0201]
  verifyPeer := true

/-- The transport of every Chrome 148 profile. -/
def transport : TransportProfile where
  tls := baseTls
  h2 := baseH2

/-- `chrome_148_linux_x64`, given the brand list `generate_sec_ch_ua` drew. -/
def chrome148LinuxX64 (secChUa : String) : ChromeProfile where
  h2 := baseH2
  headers :=
    { userAgent := "Mozilla/5.0 (X11; Linux x86_64) AppleWebKit/537.36 " ++
        "(KHTML, like Gecko) Chrome/148.0.0.0 Safari/537.36"
      secChUa := secChUa
      secChUaPlatform := "\"Linux\""
      secChUaPlatformVersion := "\"\""
      includePriorityHeader := true
      zstdEncoding := true
      acceptLanguage := "en-US,en;q=0.9" }

end Chrome148

end Quik
