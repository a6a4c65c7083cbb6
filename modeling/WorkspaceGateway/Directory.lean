import WorkspaceGateway.Credential.Bearer
import WorkspaceGateway.Route
import WorkspaceGateway.Text.Quoted
import WorkspaceGateway.Workspace

/-!
# What the gateway looks up

Signups, workspaces, member clusters, plugins and banned addresses are looked up in read models.
A lookup may find nothing or fail. One request makes several lookups, each at a moment of its
own, and the read models may change in between.
-/

set_option autoImplicit false

namespace WorkspaceGateway

inductive LookupError where
  | notFound (kind name : String)
  | unavailable (text : String)
  deriving DecidableEq, Repr

namespace LookupError

def message : LookupError → String
  | notFound kind name => kind ++ " '" ++ name ++ "' not found"
  | unavailable text => text

end LookupError

abbrev Lookup (α : Type) := Except LookupError α

structure Signup where
  name : String
  /-- The name on member clusters; empty until provisioned. -/
  compliantUsername : String
  /-- The member cluster of the home workspace. -/
  clusterName : String
  apiEndpoint : String
  deriving DecidableEq, Repr

structure MemberCluster where
  name : String
  apiEndpoint : String
  operatorNamespace : String
  bearerToken : String
  /-- The cluster's routes; without them no plugin can be served. -/
  routes : Option (RouteRef → Lookup Route)

structure ProxyPlugin where
  name : String
  route : Option RouteRef
  deriving DecidableEq, Repr

structure Directory where
  isBanned : String → Lookup Bool
  /-- The workspaces of a caller; with a name only that one, which may be reached through its
  parents. -/
  workspaces : Identity → Option String → Lookup (List Workspace)
  /-- The signup of a user by id, or else by name. -/
  signup : String → String → Lookup (Option Signup)
  workspace : String → Lookup Workspace
  members : List MemberCluster
  plugin : String → Lookup ProxyPlugin

inductive Reading where
  | banned
  | signup
  | ownWorkspaces
  | viewerWorkspaces
  | workspace
  | members
  | plugin
  deriving DecidableEq, Repr

/-- The read models at each moment of a request. -/
abbrev Views := Reading → Directory

def Directory.steady (d : Directory) : Views := fun _ => d

def MemberCluster.summary (m : MemberCluster) : String :=
  "MemberCluster \x7b name: " ++ Text.quote m.name ++ ", api_endpoint: " ++
    Text.quote m.apiEndpoint ++ ", operator_namespace: " ++ Text.quote m.operatorNamespace ++
    ", routes: " ++ (if m.routes.isSome then "true" else "false") ++ " \x7d"

structure Failures where
  signup : Option String
  /-- Workspaces of a caller other than the public viewer. -/
  list : Option String
  listViewer : Option String
  workspace : Option String
  plugin : Option String
  route : Option String
  banned : Option String

namespace Failures

def orElse {α : Type} (failure : Option String) (lookup : Lookup α) : Lookup α :=
  match failure with
  | some text => .error (.unavailable text)
  | none => lookup

def applyTo (f : Failures) (d : Directory) : Directory where
  isBanned email := orElse f.banned (d.isBanned email)
  workspaces i name :=
    orElse (if i.isPublicViewer then f.listViewer else f.list) (d.workspaces i name)
  signup id name := orElse f.signup (d.signup id name)
  workspace name := orElse f.workspace (d.workspace name)
  members := d.members.map fun m =>
    { m with routes := m.routes.map fun look ref => orElse f.route (look ref) }
  plugin name := orElse f.plugin (d.plugin name)

end Failures

end WorkspaceGateway
