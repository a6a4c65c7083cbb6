/-!
# Faults of the gateway's API

What a caller is told when a request is not served: a kind, which fixes the status and the
details line, and a text.
-/

set_option autoImplicit false

namespace WorkspaceGateway

inductive FaultKind where
  | unauthorized
  | forbidden
  | badRequest
  /-- The object does not exist or is not visible to the caller. -/
  | notFound
  | proxy
  | config
  /-- A lookup or resolution failure that is not the caller's doing. -/
  | internal
  deriving DecidableEq, Repr

structure Fault where
  kind : FaultKind
  text : String
  deriving DecidableEq, Repr

namespace FaultKind

def status : FaultKind → Nat
  | unauthorized => 401
  | forbidden => 403
  | badRequest => 400
  | notFound => 404
  | proxy => 502
  | config => 500
  | internal => 500

def details : FaultKind → String
  | unauthorized => "authentication failed"
  | forbidden => "authorization failed"
  | badRequest => "invalid request"
  | notFound => "not found"
  | proxy => "upstream unavailable"
  | config => "internal error"
  | internal => "internal error"

def lead : FaultKind → String
  | unauthorized => "invalid bearer token: "
  | proxy => "proxy error: "
  | config => "configuration error: "
  | _ => ""

end FaultKind

namespace Fault

def status (f : Fault) : Nat := f.kind.status

def message (f : Fault) : String := f.kind.lead ++ f.text

def unauthorized (text : String) : Fault := ⟨.unauthorized, text⟩
def forbidden (text : String) : Fault := ⟨.forbidden, text⟩
def badRequest (text : String) : Fault := ⟨.badRequest, text⟩
def notFound (text : String) : Fault := ⟨.notFound, text⟩
def proxy (text : String) : Fault := ⟨.proxy, text⟩
def config (text : String) : Fault := ⟨.config, text⟩
def internal (text : String) : Fault := ⟨.internal, text⟩

end Fault

end WorkspaceGateway
