import WorkspaceGateway.Proxy

/-!
# The workspace API

The list of the caller's workspaces and one workspace by name, answered from the read models. A
caller sees only workspaces that are bound to them; any other is not found.
-/

set_option autoImplicit false

namespace WorkspaceGateway.WorkspaceApi

def path : String := "/apis/toolchain.dev.openshift.com/v1alpha1/workspaces"

def caller (g : Gateway) (view : Views) (h : Headers) : Except Fault Identity :=
  match Credential.authenticate g.readToken h with
  | .error f => .error f
  | .ok i =>
    match Proxy.checkNotBanned (view .banned) i with
    | .error f => .error f
    | .ok () => .ok i

def provisioned (view : Views) (i : Identity) : Except Fault Bool :=
  (Access.isProvisioned (view .signup) i.userId i.username).mapError fun e =>
    .internal ("unable to retrieve user workspaces: " ++ e.message)

def addNew (ws : List Workspace) (more : List Workspace) : List Workspace :=
  more.foldl (fun ws w => if Proxy.holds ws w.name then ws else ws ++ [w]) ws

def listFor (g : Gateway) (view : Views) (h : Headers) : Except Fault (List Workspace) :=
  match caller g view h with
  | .error f => .error f
  | .ok i =>
    match provisioned view i with
    | .error f => .error f
    | .ok false => .ok []
    | .ok true =>
      match Proxy.listWorkspaces (view .ownWorkspaces) i none with
      | .error f => .error f
      | .ok own =>
        if g.publicViewer && !i.isPublicViewer then
          (Proxy.listWorkspaces (view .viewerWorkspaces) .publicViewer none).map (addNew own)
        else .ok own

def notFound (name : String) : Fault :=
  .notFound ("workspaces.toolchain.dev.openshift.com \"" ++ name ++ "\" not found")

def getFor (g : Gateway) (view : Views) (h : Headers) (name : String) : Except Fault Workspace :=
  match caller g view h with
  | .error f => .error f
  | .ok i =>
    match provisioned view i with
    | .error f => .error f
    | .ok false => .error (notFound name)
    | .ok true =>
      match Proxy.listWorkspaces (view .ownWorkspaces) i (some name) with
      | .error f => .error f
      | .ok ws =>
        match ws.find? fun w => w.name = name with
        | some w => .ok w
        | none => .error (notFound name)

def exchange (verb : WorkspaceVerb) (answer : Except Fault Json.Value) : Exchange :=
  let response := match answer with
    | .ok v => Response.json 200 v
    | .error f => .ofFault f
  ⟨response, none, none, [.workspaceApi response.status verb]⟩

def handleList (g : Gateway) (view : Views) (r : Request) : Exchange :=
  exchange .list ((listFor g view r.headers).map Workspace.listObject)

def handleGet (g : Gateway) (view : Views) (r : Request) (name : String) : Exchange :=
  exchange .get ((getFor g view r.headers name).map Workspace.object)

end WorkspaceGateway.WorkspaceApi
