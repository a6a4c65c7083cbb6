import WorkspaceGateway.Credential.Subprotocol

/-!
# Bearer tokens and the caller's identity

The credential of a request is the bearer token of its one authorization field, or for a
WebSocket the token among its sub-protocols. A token reader turns it into the caller's claims.
-/

set_option autoImplicit false

namespace WorkspaceGateway

structure Claims where
  subject : String
  username : String
  email : Option String
  deriving DecidableEq, Repr

structure Identity where
  /-- Stable subject, preferred for lookups. -/
  userId : String
  username : String
  /-- Consulted for the banned-user check. -/
  email : Option String
  deriving DecidableEq, Repr

namespace Identity

def publicViewerName : String := "kubesaw-authenticated"

def publicViewer : Identity := ⟨"", publicViewerName, none⟩

def isPublicViewer (i : Identity) : Bool := i.username = publicViewerName

def ofClaims (c : Claims) : Identity := ⟨c.subject, c.username, c.email⟩

end Identity

namespace Credential

inductive BearerError where
  | absent
  | several
  | malformed
  deriving DecidableEq, Repr

namespace BearerError

def message : BearerError → String
  | absent => "no token found: a Bearer token is expected"
  | several => "multiple Authorization headers: a single Bearer token is expected"
  | malformed => "a Bearer token is expected"

end BearerError

def schemeLead : List Char := "Bearer ".toList

def tokenOfValue? (v : Octets) : Option String := do
  let s ← Headers.readable? v
  let t ← Text.stripLead? schemeLead s
  if t.isEmpty || t.any Text.isBlank then none else some (String.ofList t)

def bearerToken (h : Headers) : Except BearerError String :=
  match h.values "authorization" with
  | [] => .error .absent
  | [v] =>
    match tokenOfValue? v with
    | some t => .ok t
    | none => .error .malformed
  | _ => .error .several

def token (h : Headers) : Except Fault String :=
  if h.isWebSocketRequest then
    (subprotocolToken h).mapError fun e => .unauthorized e.message
  else (bearerToken h).mapError fun e => .unauthorized e.message

def authenticate (readToken : String → Option Claims) (h : Headers) : Except Fault Identity :=
  match token h with
  | .error f => .error f
  | .ok t =>
    match readToken t with
    | none => .error (.unauthorized "unable to extract userID from token")
    | some c => .ok (.ofClaims c)

end Credential

end WorkspaceGateway
