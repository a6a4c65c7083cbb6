import WorkspaceGateway.Fault
import WorkspaceGateway.Headers
import WorkspaceGateway.Json.Writer

/-!
# Responses

A response has a status, header fields and a body. Faults are answered by a JSON document that
repeats the status.
-/

set_option autoImplicit false

namespace WorkspaceGateway

structure Response where
  status : Nat
  headers : Headers
  body : Octets

def reasonPhrase (status : Nat) : String :=
  match status with
  | 400 => "Bad Request"
  | 401 => "Unauthorized"
  | 403 => "Forbidden"
  | 404 => "Not Found"
  | 500 => "Internal Server Error"
  | 502 => "Bad Gateway"
  | _ => "Unknown"

namespace Response

def json (status : Nat) (v : Json.Value) : Response :=
  ⟨status, Headers.empty.insert "content-type" (Octets.ofText "application/json"),
    Octets.ofText (Json.write v)⟩

def ofFault (f : Fault) : Response :=
  json f.status (.object [("code", .number (.ofNat f.status)),
    ("details", .string f.kind.details), ("message", .string f.message),
    ("status", .string (reasonPhrase f.status))])

def isSuccess (r : Response) : Bool := 200 ≤ r.status && r.status < 300

def withLength (r : Response) : Response :=
  if r.headers.contains "content-length" then r
  else { r with
    headers := r.headers.insert "content-length" (Octets.ofText (toString r.body.length)) }

/-- The response as the method lets it go out: the answer to a successful `CONNECT` has no body,
any other states its length, and the answer to a `HEAD` keeps its fields only. -/
def forMethod (method : String) (r : Response) : Response :=
  if method = "CONNECT" && r.isSuccess then { r with body := [] }
  else
    let r := r.withLength
    if method = "HEAD" then { r with body := [] } else r

end Response

end WorkspaceGateway
