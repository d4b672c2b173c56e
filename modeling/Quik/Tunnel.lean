import Quik.Library.ByteSource
import Quik.Library.Codec
import Quik.Library.LossyText
import Quik.Message
import Quik.Net

/-!
# Tunnels

The TCP stage of a connection, `dial_proxy` and the two handshakes under it: a
stream is connected to the proxy, the target is written to it, and what the
proxy answers is read up to the point where the tunnel begins.

A `TcpStream` is a source of bytes with the writes made so far. What the peer
sends and how the network cuts it are in the source; which of the writes fail
is in `writeFailures`. A buffer is recorded in `written` when it is handed to
`write_all`, also where that call fails.

The CONNECT handshake reads in a loop, and takes the number of turns it may
make; it is `none` if they do not suffice. The SOCKS5 handshake is a sequence
of writes and of reads of a known length.

## Main definitions

* `TcpStream`, `Network`: A connected stream, and what a connect may do.
* `TcpStream.Consumed`: How much has been read of a stream.
* `TcpDial`: How a dial ends, with the socket it leaves.
* `connectVerdict`, `connectLoop`, `dialHttpProxy`: The CONNECT handshake.
* `socks5Request`, `socks5Handshake`, `dialSocks5Proxy`: The SOCKS5 handshake.
* `dialProxy`, `dialTransport`: The proxy's handshake, and the whole stage.
-/

namespace Quik

/-- The text of a `std::io::Error`. -/
abbrev IoError := String

/-- `tokio::net::TcpStream`. -/
structure TcpStream where
  source : Source UInt8 IoError
  /-- The buffers handed to `write_all`. -/
  written : List Bytes := []
  /-- For each `write_all` to come, the error it fails with, if it fails. -/
  writeFailures : Stream' (Option IoError)

/-- `TcpStream::connect`, by the address it is called with. Nothing has been
    written to a stream that was just connected. -/
structure Network where
  connect : Peer → Except IoError TcpStream
  fresh : ∀ {peer stream}, connect peer = .ok stream → stream.written = []

/-- A network that answers every connect with one stream. -/
def Network.only (stream : TcpStream) (h : stream.written = []) : Network where
  connect := fun _ => .ok stream
  fresh := fun heq => Except.ok.inj heq ▸ h

namespace TcpStream

/-- What the peer sends that has not been read. -/
def unread (stream : TcpStream) : Stream'.Seq UInt8 :=
  stream.source.unread

/-- `later` is the stream when `n` more of its bytes have been read. -/
def Consumed (n : Nat) (stream later : TcpStream) : Prop :=
  later.source.sent = stream.source.sent ∧ later.source.position = stream.source.position + n

/-- `read`, into a buffer with room for `room` bytes. -/
def read (room : Nat) (stream : TcpStream) : Except IoError Bytes × TcpStream :=
  let (r, source) := stream.source.read room
  (r, { stream with source := source })

/-- `read_exact`, for a buffer of `n` bytes. -/
def readExact (n : Nat) : EStateM Error TcpStream Bytes := fun stream =>
  match stream.source.readExact "early eof" n with
  | (.ok bytes, source) => .ok bytes { stream with source := source }
  | (.error e, source) => .error (.connect e) { stream with source := source }

/-- `write_all`. -/
def writeAll (buf : Bytes) : EStateM Error TcpStream Unit := fun stream =>
  let stream' := { stream with
    written := stream.written ++ [buf], writeFailures := stream.writeFailures.tail }
  match stream.writeFailures.head with
  | none => .ok () stream'
  | some e => .error (.connect e) stream'

end TcpStream

/-- How a dial ends: with the stream, or with an error and the socket that is
    dropped then, if one was connected. -/
inductive TcpDial where
  | ok (stream : TcpStream)
  | error (e : Error) (dropped : Option TcpStream)

/-- What was handed to the socket of the dial. -/
def TcpDial.written : TcpDial → List Bytes
  | .ok stream => stream.written
  | .error _ dropped => dropped.elim [] TcpStream.written

/-- A connect, followed by a handshake on the stream. -/
def Network.dialWith (net : Network) (peer : Peer)
    (handshake : EStateM Error TcpStream Unit) : TcpDial :=
  match net.connect peer with
  | .error e => .error (.connect e) none
  | .ok stream =>
    match handshake stream with
    | .ok () stream => .ok stream
    | .error e stream => .error e (some stream)

/-- `starts_with`. -/
def startsWithStr (text pattern : String) : Bool :=
  decide (pattern.toList <+: text.toList)

/-- `String::from_utf8_lossy`. -/
def fromUtf8Lossy (bytes : Bytes) : String :=
  String.ofList (lossyChars bytes.length bytes)

/-- `lines().next()`: up to the first line feed, without it and without a
    carriage return before it. -/
def firstLine (text : String) : Option String :=
  let chars := text.toList
  let line := chars.takeWhile (fun c => c ≠ '\n')
  if chars = [] then none
  else if line.length < chars.length ∧ line.getLast? = some '\r' then
    some (String.ofList line.dropLast)
  else some (String.ofList line)

/-- The request `dial_http_proxy` writes. -/
def connectRequest (targetHost : String) (targetPort : UInt16) : String :=
  let authority := targetHost ++ ":" ++ toString targetPort.toNat
  "CONNECT " ++ authority ++ " HTTP/1.1\r\nHost: " ++ authority ++ "\r\n\r\n"

def connectAborted : Error :=
  .connect "Proxy closed connection during CONNECT handshake"

/-- What the bytes read so far amount to: nothing yet, a success, or an error. -/
def connectVerdict (buf : Bytes) : Option (Except Error Unit) :=
  let response := fromUtf8Lossy buf
  if containsStr response "\r\n\r\n" then
    if startsWithStr response "HTTP/1.1 200" || startsWithStr response "HTTP/1.0 200" then
      some (.ok ())
    else some (.error (.connect
      ("HTTP proxy returned error status: " ++ (firstLine response).getD "Unknown")))
  else none

/-- The read loop of `dial_http_proxy`, with `buf` read so far. -/
def connectLoop : Nat → Bytes → TcpStream → Option TcpDial
  | 0, _, _ => none
  | turns + 1, buf, stream =>
    match stream.read (4096 - buf.length) with
    | (.error e, stream) => some (.error (.connect e) (some stream))
    -- No bytes: the proxy has closed, or the buffer is full.
    | (.ok [], stream) => some (.error connectAborted (some stream))
    | (.ok chunk, stream) =>
      match connectVerdict (buf ++ chunk) with
      -- `buf` is dropped here, with whatever follows the header block in it.
      | some (.ok ()) => some (.ok stream)
      | some (.error e) => some (.error e (some stream))
      | none => connectLoop turns (buf ++ chunk) stream

/-- `dial_http_proxy`. -/
def dialHttpProxy (turns : Nat) (net : Network) (proxyAddr targetHost : String)
    (targetPort : UInt16) : Option TcpDial :=
  match net.dialWith (.proxy proxyAddr)
    (TcpStream.writeAll (utf8 (connectRequest targetHost targetPort))) with
  | .error e dropped => some (.error e dropped)
  | .ok stream => connectLoop turns [] stream

def socks5Greeting : Bytes := [0x05, 0x01, 0x00]

/-- The connection request. The length is cast to a byte. -/
def socks5Request (targetHost : String) (targetPort : UInt16) : Bytes :=
  let hostBytes := utf8 targetHost
  [0x05, 0x01, 0x00, 0x03, UInt8.ofNat hostBytes.length] ++ hostBytes ++
    be16.encode targetPort

/-- The bound address of the reply, by its type. -/
def drainAddr (addrType : UInt8) : EStateM Error TcpStream Unit := do
  if addrType = 0x01 then
    let _ ← TcpStream.readExact 4
  else if addrType = 0x03 then
    let len ← TcpStream.readExact 1
    let _ ← TcpStream.readExact (len.headD 0).toNat
  else if addrType = 0x04 then
    let _ ← TcpStream.readExact 16
  else throw (.connect "SOCKS5 server returned unsupported address type")

/-- The reply to the request: its header, the bound address and the port. -/
def drainReply : EStateM Error TcpStream Unit := do
  let respHeader ← TcpStream.readExact 4
  if respHeader.getD 0 0 ≠ 0x05 ∨ respHeader.getD 1 0 ≠ 0x00 then
    -- Only version and status are looked at; the third byte is reserved.
    throw (.connect ("SOCKS5 connection request failed with status code: " ++
      toString (respHeader.getD 1 0).toNat))
  drainAddr (respHeader.getD 3 0)
  let _ ← TcpStream.readExact 2

/-- `dial_socks5_proxy` on the connected stream. -/
def socks5Handshake (targetHost : String) (targetPort : UInt16) :
    EStateM Error TcpStream Unit := do
  TcpStream.writeAll socks5Greeting
  let response ← TcpStream.readExact 2
  if response.getD 0 0 ≠ 0x05 ∨ response.getD 1 0 ≠ 0x00 then
    throw (.connect "SOCKS5 server rejected 'No Authentication' method")
  TcpStream.writeAll (socks5Request targetHost targetPort)
  drainReply

/-- `dial_socks5_proxy`. -/
def dialSocks5Proxy (net : Network) (proxyAddr targetHost : String) (targetPort : UInt16) :
    TcpDial :=
  net.dialWith (.proxy proxyAddr) (socks5Handshake targetHost targetPort)

/-- `dial_proxy`. -/
def dialProxy (turns : Nat) (net : Network) (proxy : Proxy) (targetHost : String)
    (targetPort : UInt16) : Option TcpDial :=
  match proxy with
  | .http addr => dialHttpProxy turns net addr targetHost targetPort
  | .socks5 addr => some (dialSocks5Proxy net addr targetHost targetPort)

/-- The TCP stage of `connect`. -/
def dialTransport (turns : Nat) (net : Network) (host : String) (port : UInt16)
    (addr : SocketAddr) (proxy : Option Proxy) : Option TcpDial :=
  match proxy with
  | some p => dialProxy turns net p host port
  | none => some (net.dialWith (.origin addr) (pure ()))

end Quik
