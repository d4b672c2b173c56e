import Quik.Header

/-!
# Errors, Requests and Responses

The values the layers of the client exchange: `Error` as the crate's error
enumeration with the texts it carries, status codes, requests as the builder
makes them, and responses with either a handle on an HTTP/2 stream or a
complete HTTP/3 body.
-/

namespace Quik

/-- `crate::error::Error`; each case carries the text of its cause. -/
inductive Error where
  | tlsBuild (cause : String)
  | tlsHandshake (cause : String)
  | http2 (cause : String)
  | connect (cause : String)
  | verify (cause : String)
  | invalidUrl (cause : String)
deriving DecidableEq, Repr

/-- `http::StatusCode`: three digits, the first not zero. -/
structure StatusCode where
  code : Nat
  valid : 100 ≤ code ∧ code < 1000 := by decide
deriving DecidableEq, Repr

namespace StatusCode

/-- `StatusCode::from_u16`. -/
def fromU16 (n : Nat) : Option StatusCode :=
  if h : 100 ≤ n ∧ n < 1000 then some { code := n, valid := h } else none

/-- `StatusCode::OK`. -/
def ok : StatusCode := { code := 200 }

/-- `StatusCode::FOUND`. -/
def found : StatusCode := { code := 302 }

/-- `StatusCode::SEE_OTHER`. -/
def seeOther : StatusCode := { code := 303 }

/-- `StatusCode::TEMPORARY_REDIRECT` and `StatusCode::PERMANENT_REDIRECT`. -/
def temporaryRedirect : StatusCode := { code := 307 }

def permanentRedirect : StatusCode := { code := 308 }

/-- `is_redirection`: 300 to 399. -/
def isRedirection (s : StatusCode) : Bool :=
  decide (300 ≤ s.code ∧ s.code < 400)

/-- The three statuses on which the method becomes GET. -/
def rotatesMethod (s : StatusCode) : Bool :=
  decide (s.code = 301 ∨ s.code = 302 ∨ s.code = 303)

end StatusCode

/-- `http::Uri`: its parts, and the text it displays as. -/
structure Uri where
  scheme : Option String
  authority : Option String
  pathAndQuery : Option String
  text : String
deriving DecidableEq

/-- `http::Request<()>`. -/
structure Request where
  method : String
  uri : Uri
  headers : HeaderMap

/-- `ResponseBody`: the stream still to be read, or the bytes already read. -/
inductive ResponseBody where
  | http2 (stream : Nat)
  | http3 (data : Bytes)
deriving DecidableEq

/-- `Response`. -/
structure Response where
  status : StatusCode
  headers : HeaderMap
  body : ResponseBody
  url : String
deriving DecidableEq

/-- `Response::set_url`. -/
def Response.setUrl (r : Response) (url : String) : Response :=
  { r with url := url }

end Quik
