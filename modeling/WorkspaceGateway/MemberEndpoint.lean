import WorkspaceGateway.RequestTarget
import WorkspaceGateway.Text.Quoted

/-!
# Endpoints of member clusters

A member cluster's routes are watched through its API endpoint, which has to be written as a
request target is.
-/

set_option autoImplicit false

namespace WorkspaceGateway

structure EndpointError where
  cluster : String
  endpoint : String
  cause : TargetError
  deriving DecidableEq, Repr

namespace EndpointError

def message (e : EndpointError) : String :=
  "invalid API endpoint " ++ Text.quote e.endpoint ++ " for member " ++ e.cluster ++ ": " ++
    e.cause.message

end EndpointError

def memberEndpoint (cluster endpoint : String) : Except EndpointError RequestTarget :=
  (RequestTarget.parse (Octets.ofText endpoint)).mapError fun e => ⟨cluster, endpoint, e⟩

end WorkspaceGateway
