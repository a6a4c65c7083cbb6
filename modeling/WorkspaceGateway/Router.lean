import WorkspaceGateway.Url.Percent
import WorkspaceGateway.WorkspaceApi

/-!
# The gateway's router

The health check and the workspace API are answered by the gateway, every other path is proxied.
Preflights are answered before anything else, and impersonation fields are taken out before any
part reads the request.
-/

set_option autoImplicit false

namespace WorkspaceGateway

inductive Endpoint where
  | health
  | workspaceList
  /-- One workspace; the name is as it stands in the path. -/
  | workspace (segment : List Char)
  | proxied
  deriving DecidableEq, Repr

namespace Endpoint

def healthPath : String := "/proxyhealth"

def ofPath (path : String) : Endpoint :=
  if path = healthPath then .health
  else if path = WorkspaceApi.path then .workspaceList
  else match Text.stripLead? (WorkspaceApi.path.toList ++ ['/']) path.toList with
    | some name => if name.isEmpty || name.contains '/' then .proxied else .workspace name
    | none => .proxied

def isReadOnly : Endpoint → Bool
  | proxied => false
  | _ => true

end Endpoint

namespace Router

def uncounted (r : Response) : Exchange := ⟨r, none, none, []⟩

def health : Response := .json 200 (.object [("alive", .bool true)])

def badName : Response :=
  ⟨400, Headers.empty.insert "content-type" (Octets.ofText "text/plain; charset=utf-8"),
    Octets.ofText "Invalid URL: Invalid UTF-8 in `name`"⟩

def methodNotAllowed : Response := ⟨405, Headers.empty, []⟩

def preflight (r : Request) : Response :=
  ⟨204, Cors.preflightHeaders r.headers Headers.empty, []⟩

def dispatch (g : Gateway) (view : Views) (e : Endpoint) (r : Request) : Exchange :=
  match e with
  | .health => uncounted health
  | .workspaceList => WorkspaceApi.handleList g view r
  | .workspace segment =>
    match (Url.percentDecode (Octets.ofText (String.ofList segment))).text? with
    | some name => WorkspaceApi.handleGet g view r name
    | none => uncounted badName
  | .proxied => Proxy.handle g view r

def withAllow (r : Response) : Response :=
  { r with headers := r.headers.insert "allow" (Octets.ofText "GET,HEAD") }

def handle (g : Gateway) (view : Views) (r : Request) : Exchange :=
  let endpoint := Endpoint.ofPath r.target.path
  let refused := endpoint.isReadOnly && r.method ≠ "GET" && r.method ≠ "HEAD"
  let x :=
    if Cors.isPreflight r.method r.headers then uncounted (preflight r)
    else if refused then uncounted methodNotAllowed
    else dispatch g view endpoint { r with headers := r.headers.withoutImpersonation }
  let response := if refused then withAllow x.response else x.response
  { x with response := response.forMethod r.method }

def handleMetrics (metrics : Octets) (r : Request) : Response :=
  if r.target.path ≠ "/metrics" then ⟨404, Headers.empty, []⟩
  else if r.method = "GET" || r.method = "HEAD" then
    Response.forMethod r.method
      ⟨200, Headers.empty.insert "content-type" (Octets.ofText "text/plain; version=0.0.4"),
        metrics⟩
  else (withAllow methodNotAllowed).forMethod r.method

end Router

end WorkspaceGateway
