import Quik.FetchSite
import Quik.Referer
import Quik.BodyStream
import Quik.Dialing
import Quik.DialPath
import Quik.RequestBody
import Quik.Chain
import Quik.Containment
import Quik.Resend
import Quik.Eviction
import Quik.Fallback
import Quik.DeadSession
import Quik.Demux
import Quik.ResponseHead
import Quik.HandshakeRace
import Quik.Isolation
import Quik.Deadlock
import Quik.HeadOfLine
import Quik.SingleFlight
import Quik.OriginHeader
import Quik.Transparent
import Quik.Independence
import Quik.AltSvcKey
import Quik.HintChain
import Quik.Endpoint
import Quik.CookieChain
import Quik.StatusLine
import Quik.ContentCoding
import Quik.RedirectLimit
import Quik.RedirectTarget
import Quik.Rotation
import Quik.HttpConnect
import Quik.Socks5
import Quik.ProxyUrl
import Quik.Identity
import Quik.Injection
import Quik.SessionHeaders
import Quik.FieldLimit
import Quik.Dropped
import Quik.CallBound
import Quik.Progress
import Quik.Outcome
import Quik.Attempts
import Quik.Correlation
import Quik.Finish
import Quik.Reading
import Quik.Stores
import Quik.OneIdentity
import Quik.Builtin
import Quik.ClientBuilder
