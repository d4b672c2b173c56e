import Quik.Header
import Quik.Library.Codec
import Quik.Profile

/-!
# The Calls on the Builders

What a profile turns into: the calls that `build_connector`, `connect` and
`configure_builder` make, in order, on the TLS connector, on the connection's
own TLS object and on the HTTP/2 builder. A call that fails ends the sequence
with an error, and what is here is the sequence without failures.

The HTTP/2 settings are written down twice. `configure_builder` gives the
builder their order and then their values; `build_alps_payload` writes them out
itself, six bytes each, for the TLS handshake. The two agree, in identifiers,
order and values (`alps_settings_agree`), and what follows them in the payload
is the extra list of the profile and nothing else.

## Main definitions

* `Http2Call`, `BuilderCall`: The calls.
* `buildConnector`, `configureBuilder`, `connectCalls`: The sequences.
* `buildAlpsPayload`: The settings, as the handshake carries them.
* `sentSettings`: The settings, as the HTTP/2 builder was told them.

## Theorems

* `decodeAll_alpsPayload`: The payload, cut into records.
* `sentSettings_configureBuilder`: The settings of the builder.
* `alps_settings_agree`: They are the same.
-/

namespace Quik

/-- `SettingId`, as far as it is used. -/
inductive SettingId where
  | headerTableSize
  | enablePush
  | initialWindowSize
  | maxHeaderListSize
deriving DecidableEq, Repr

/-- The identifier on the wire. -/
def SettingId.code : SettingId → UInt16
  | .headerTableSize => 1
  | .enablePush => 2
  | .initialWindowSize => 4
  | .maxHeaderListSize => 6

/-- A call on `http2::client::Builder`. An order is given with what was pushed
    on the builder of the order. -/
inductive Http2Call where
  | settingsOrder (ids : List SettingId)
  | headerTableSize (size : UInt32)
  | enablePush (enabled : Bool)
  | initialWindowSize (size : UInt32)
  | maxHeaderListSize (size : UInt32)
  | initialConnectionWindowSize (size : UInt32)
  | headersPseudoOrder (ids : List PseudoOrder)
  | headersStreamDependency (streamId : UInt32) (weight : UInt8) (exclusive : Bool)
deriving DecidableEq, Repr

/-- A call on the connector's builder, on the connection's TLS object, or on
    the HTTP/2 builder. -/
inductive BuilderCall where
  | setMinProtoVersion (version : TlsVersion)
  | setMaxProtoVersion (version : TlsVersion)
  | setCipherList (list : String)
  | setCurvesList (list : String)
  | setGreaseEnabled (enabled : Bool)
  | setPermuteExtensions (enabled : Bool)
  | setAlpnProtos (wire : Bytes)
  | enableSignedCertTimestamps
  | setSigningAlgorithmPrefs (algs : List UInt16)
  | setVerifyAlgorithmPrefs (algs : List UInt16)
  | addBrotliCompression
  | setVerifyNone
  | setStatusTypeOcsp
  | setEnableEchGrease (enable : Nat)
  | addApplicationSettings (proto settings : Bytes)
  | http2 (call : Http2Call)
deriving DecidableEq, Repr

/-- The name of a group in the curves list. -/
def groupName (group : UInt16) : String :=
  if group = 4588 then "X25519MLKEM768"
  else if group = 29 then "X25519"
  else if group = 23 then "P-256"
  else if group = 24 then "P-384"
  else toString group.toNat

/-- `curves_str`: the names with a colon between them. -/
def curvesStr (curves : List UInt16) : String :=
  ":".intercalate (curves.map groupName)

/-- `alpn`: each name behind its length, which is cast to a byte. -/
def alpnWire (protocols : List Bytes) : Bytes :=
  protocols.flatMap (fun proto => UInt8.ofNat proto.length :: proto)

/-- `build_connector`. -/
def buildConnector (profile : TlsProfile) : List BuilderCall :=
  [ .setMinProtoVersion profile.minVersion,
    .setMaxProtoVersion profile.maxVersion,
    .setCipherList profile.cipherList,
    .setCurvesList (curvesStr profile.curves) ] ++
  (if profile.greaseEnabled then [.setGreaseEnabled true] else []) ++
  (if profile.permuteExtensions then [.setPermuteExtensions true] else []) ++
  [ .setAlpnProtos (alpnWire profile.alpnProtocols),
    .enableSignedCertTimestamps,
    .setSigningAlgorithmPrefs profile.sigalgs,
    .setVerifyAlgorithmPrefs profile.sigalgs ] ++
  (if profile.compressCertificate then [.addBrotliCompression] else []) ++
  (if !profile.verifyPeer then [.setVerifyNone] else [])

/-- `build_alps_payload`. -/
def buildAlpsPayload (settings : SettingsFrame) (extra : List (UInt16 × UInt32)) : Bytes :=
  be16.encode 1 ++ be32.encode settings.headerTableSize ++
  be16.encode 2 ++ be32.encode (if settings.enablePush then 1 else 0) ++
  be16.encode 4 ++ be32.encode settings.initialWindowSize ++
  be16.encode 6 ++ be32.encode settings.maxHeaderListSize ++
  extra.flatMap (fun e => be16.encode e.1 ++ be32.encode e.2)

/-- `configure_builder`. -/
def configureBuilder (profile : Http2Profile) : List Http2Call :=
  [ .settingsOrder [.headerTableSize, .enablePush, .initialWindowSize, .maxHeaderListSize],
    .headerTableSize profile.settings.headerTableSize,
    .enablePush profile.settings.enablePush,
    .initialWindowSize profile.settings.initialWindowSize,
    .maxHeaderListSize profile.settings.maxHeaderListSize,
    .initialConnectionWindowSize profile.initialConnectionWindowSize,
    .headersPseudoOrder profile.pseudoOrder.toList,
    -- The stream is `StreamId::ZERO` whatever the profile's `dep` is.
    .headersStreamDependency 0 profile.headersPriority.weight profile.headersPriority.exclusive ]

/-- The calls of `connect`, from the connector to the HTTP/2 handshake. -/
def connectCalls (profile : TransportProfile) : List BuilderCall :=
  buildConnector profile.tls ++
  [.setStatusTypeOcsp] ++
  (if profile.tls.enableEchGrease then [.setEnableEchGrease 1] else []) ++
  (if profile.tls.alpsEnabled then
    [.addApplicationSettings (utf8 "h2")
      (buildAlpsPayload profile.h2.settings profile.tls.alpsExtraSettings)]
  else []) ++
  (configureBuilder profile.h2).map .http2

/-- The value a call sets for a setting. -/
def Http2Call.valueOf (id : SettingId) : Http2Call → Option UInt32
  | .headerTableSize size => if id = .headerTableSize then some size else none
  | .enablePush enabled => if id = .enablePush then some (if enabled then 1 else 0) else none
  | .initialWindowSize size => if id = .initialWindowSize then some size else none
  | .maxHeaderListSize size => if id = .maxHeaderListSize then some size else none
  | _ => none

/-- The order a call sets. -/
def Http2Call.order : Http2Call → Option (List SettingId)
  | .settingsOrder ids => some ids
  | _ => none

/-- The SETTINGS that calls on a builder ask for: the settings of the order it was
    given last, each with the value it was given last. -/
def sentSettings (calls : List Http2Call) : List (UInt16 × UInt32) :=
  ((calls.filterMap Http2Call.order).getLast?.getD []).filterMap
    (fun id => (calls.filterMap (Http2Call.valueOf id)).getLast?.map (fun v => (id.code, v)))

/-- One setting in the payload: identifier and value, six bytes. -/
def alpsRecord : Codec UInt8 (UInt16 × UInt32) :=
  be16.pair be32

/-- The four settings of a frame. -/
def SettingsFrame.records (settings : SettingsFrame) : List (UInt16 × UInt32) :=
  [ (1, settings.headerTableSize), (2, if settings.enablePush then 1 else 0),
    (4, settings.initialWindowSize), (6, settings.maxHeaderListSize) ]

theorem alpsRecord_ne_nil (r : UInt16 × UInt32) : alpsRecord.encode r ≠ [] :=
  List.cons_ne_nil _ _

/-- A record is six bytes long. -/
theorem alpsRecord_length (r : UInt16 × UInt32) : (alpsRecord.encode r).length = 6 := rfl

/-- The payload is its records, one after another. -/
theorem buildAlpsPayload_eq (settings : SettingsFrame) (extra : List (UInt16 × UInt32)) :
    buildAlpsPayload settings extra =
      (settings.records ++ extra).flatMap alpsRecord.encode := by
  rw [List.flatMap_append]
  simp only [buildAlpsPayload, SettingsFrame.records, List.flatMap_cons, List.flatMap_nil,
    List.append_nil, List.append_assoc]
  rfl

/-- The payload is cut into its records without remainder. -/
theorem decodeAll_alpsPayload (settings : SettingsFrame) (extra : List (UInt16 × UInt32)) :
    alpsRecord.decodeAll (buildAlpsPayload settings extra) = some (settings.records ++ extra) := by
  rw [buildAlpsPayload_eq, alpsRecord.decodeAll_encode alpsRecord_ne_nil]

theorem length_alpsPayload (settings : SettingsFrame) (extra : List (UInt16 × UInt32)) :
    (buildAlpsPayload settings extra).length = 6 * (settings.records ++ extra).length := by
  rw [buildAlpsPayload_eq, List.length_flatMap]
  simp only [alpsRecord_length, List.map_const', List.sum_replicate_nat]
  exact Nat.mul_comm _ _

/-- What `configure_builder` asks for. -/
theorem sentSettings_configureBuilder (profile : Http2Profile) :
    sentSettings (configureBuilder profile) = profile.settings.records := rfl

/-- The payload of the TLS handshake begins with the SETTINGS the HTTP/2 builder was
    told, and goes on with the profile's extra list. -/
theorem alps_settings_agree (profile : Http2Profile) (extra : List (UInt16 × UInt32)) :
    ∃ records, alpsRecord.decodeAll (buildAlpsPayload profile.settings extra) =
        some (records ++ extra) ∧
      (buildAlpsPayload profile.settings extra).length = 6 * (records ++ extra).length ∧
      records = [ (1, profile.settings.headerTableSize),
        (2, if profile.settings.enablePush then 1 else 0),
        (4, profile.settings.initialWindowSize), (6, profile.settings.maxHeaderListSize) ] ∧
      sentSettings (configureBuilder profile) = records :=
  ⟨profile.settings.records, decodeAll_alpsPayload profile.settings extra,
    length_alpsPayload profile.settings extra, rfl, sentSettings_configureBuilder profile⟩

end Quik
