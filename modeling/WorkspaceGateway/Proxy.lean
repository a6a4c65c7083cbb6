import WorkspaceGateway.Access
import WorkspaceGateway.Metrics
import WorkspaceGateway.Relay

/-!
# Proxied requests

A request is sent on only after its caller was authenticated and found not banned, its path was
understood, the member cluster was found and the workspace and namespace were authorized. A
workspace that the caller cannot reach may be reached as the public viewer; where that fails too
the answer is the same whether or not the workspace exists.
-/

set_option autoImplicit false

namespace WorkspaceGateway

structure RequestContext where
  identity : Option Identity
  plugin : Option String
  workspace : Option String
  «namespace» : Option String
  /-- Host the request was sent to. -/
  routeTo : Option String
  /-- Whether the request got as far as being sent on. -/
  decided : Bool
  deriving DecidableEq, Repr

namespace RequestContext

def unknown : RequestContext := ⟨none, none, none, none, none, false⟩

def routeLabel (c : RequestContext) : String := c.routeTo.getD Count.rejected

end RequestContext

structure Gateway where
  publicViewer : Bool
  /-- The claims of a token that is accepted. -/
  readToken : String → Option Claims
  send : Sender

namespace Proxy

def checkNotBanned (d : Directory) (i : Identity) : Except Fault Unit :=
  match i.email with
  | none => .ok ()
  | some email =>
    if email.isEmpty then .ok ()
    else match d.isBanned email with
      | .ok false => .ok ()
      | .ok true => .error (.forbidden "user access is forbidden")
      | .error _ => .error (.internal "user access could not be verified")

def listWorkspaces (d : Directory) (i : Identity) (name : Option String) :
    Except Fault (List Workspace) :=
  (d.workspaces i name).mapError fun e =>
    .internal ("unable to retrieve user workspaces: " ++ e.message)

def holds (ws : List Workspace) (name : String) : Bool := ws.any fun w => w.name = name

def reachable (ws : List Workspace) (name : Option String) : Bool :=
  match name with
  | none => true
  | some n => holds ws n

/-- The workspaces that count for a request, and the identity they are reached under. -/
def accessibleWorkspaces (g : Gateway) (view : Views) (i : Identity) (name : Option String) :
    Except Fault (Identity × List Workspace) :=
  match listWorkspaces (view .ownWorkspaces) i name with
  | .error f => .error f
  | .ok own =>
    if reachable own name || !g.publicViewer || i.isPublicViewer then .ok (i, own)
    else match listWorkspaces (view .viewerWorkspaces) Identity.publicViewer name with
      | .error f => .error f
      | .ok shared =>
        if reachable shared name then .ok (Identity.publicViewer, shared) else .ok (i, own)

def accessFault (isReachable : Bool) (e : AccessError) : Fault :=
  if e = .spaceNotAvailable || !isReachable then .forbidden spaceNotAvailable
  else .internal ("unable to get target cluster: " ++ e.message)

structure Routing where
  context : RequestContext
  /-- Whether the workspace was authorized, where it came to that. -/
  decision : Option Bool
  outcome : Except Fault (ClusterAccess × RequestPath)

def routeTarget (g : Gateway) (view : Views) (i : Identity) (p : RequestPath) : Routing :=
  let «namespace» := namespaceOf p.rest
  let context : RequestContext := ⟨some i, p.plugin, p.workspace, «namespace», none, false⟩
  match accessibleWorkspaces g view i p.workspace with
  | .error f => ⟨context, none, .error f⟩
  | .ok (caller, ws) =>
    match Access.resolve view caller.userId caller.username p.workspace p.plugin g.publicViewer with
    | .error e => ⟨context, none, .error (accessFault (reachable ws p.workspace) e)⟩
    | .ok access =>
      match Workspace.authorize p.workspace «namespace» ws with
      | .error e => ⟨context, some false, .error e.fault⟩
      | .ok _ => ⟨{ context with routeTo := access.url.host?, decided := true }, some true,
          .ok (access, p)⟩

def route (g : Gateway) (view : Views) (r : Request) : Routing :=
  match Credential.authenticate g.readToken r.headers with
  | .error f => ⟨.unknown, none, .error f⟩
  | .ok i =>
    match checkNotBanned (view .banned) i with
    | .error f => ⟨{ RequestContext.unknown with identity := some i }, none, .error f⟩
    | .ok () =>
      match RequestPath.parse r.target.path with
      | .error e => ⟨{ RequestContext.unknown with identity := some i }, none,
          .error (.badRequest ("unable to get workspace context: " ++ e.message))⟩
      | .ok p => routeTarget g view i p

end Proxy

structure Exchange where
  response : Response
  context : Option RequestContext
  sent : Option Sent
  counts : List Count

namespace Proxy

def responseOf (answer : Except Fault Response) : Response :=
  match answer with
  | .ok r => r
  | .error f => .ofFault f

def follow (g : Gateway) (r : Request) (routing : Routing) :
    Except Fault Response × Option Sent :=
  match routing.outcome with
  | .error f => (.error f, none)
  | .ok (access, p) => Relay.forward g.send access r p.rest p.plugin.isSome

def handle (g : Gateway) (view : Views) (r : Request) : Exchange :=
  let routing := route g view r
  let (answer, sent) := follow g r routing
  let response := responseOf answer
  ⟨response, some routing.context, sent,
    routing.decision.toList.map Count.decision ++
      [Count.proxied response.status routing.context.routeLabel]⟩

end Proxy

end WorkspaceGateway
