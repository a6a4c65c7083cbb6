import WorkspaceGateway.Directory
import WorkspaceGateway.Outbound

/-!
# Cluster access

For a caller and the workspace and plugin that a path names: the member cluster that serves it,
the URL to send to, and the user to act as. Without a workspace the caller's signup says which
cluster, with one the workspace does.
-/

set_option autoImplicit false

namespace WorkspaceGateway

inductive AccessError where
  | notProvisioned
  | signupLookup (cause : String)
  | noMemberClusters
  | noMemberClusterForUser
  | noMemberClusterForSpace (space : String)
  | spaceNotAvailable
  | memberClientNotSet (cluster : String)
  | pluginConfig (name cause : String)
  | pluginRouteNotDefined (name : String)
  | routeLookup (route cause : String)
  | routeNotAdmitted (route : String)
  | invalidUrl (url cause : String)
  deriving DecidableEq, Repr

namespace AccessError

def message : AccessError → String
  | notProvisioned => "user is not provisioned (yet)"
  | signupLookup cause => "unable to get signup: " ++ cause
  | noMemberClusters => "no member clusters found"
  | noMemberClusterForUser => "no member cluster found for the user"
  | noMemberClusterForSpace space => "no member cluster found for space '" ++ space ++ "'"
  | spaceNotAvailable => WorkspaceGateway.spaceNotAvailable
  | memberClientNotSet cluster => "client for member " ++ cluster ++ " not set"
  | pluginConfig name cause => "unable to get proxy config " ++ name ++ ": " ++ cause
  | pluginRouteNotDefined name =>
    "the proxy plugin config " ++ name ++ " does not define an openshift route endpoint"
  | routeLookup route cause => "unable to get route " ++ route ++ ": " ++ cause
  | routeNotAdmitted route =>
    "the route " ++ Text.quote route ++
      " has not initialized to the point where the status ingress is populated"
  | invalidUrl url cause => "invalid target URL " ++ Text.quote url ++ ": " ++ cause

end AccessError

namespace ClusterAccess

/-- What is written of an access to a log: all but the token. -/
def summary (a : ClusterAccess) : String :=
  "ClusterAccess \x7b api_url: " ++ Text.quote a.url.text ++
    ", impersonation_token: \"<redacted>\", impersonated_username: " ++
    Text.quote a.username ++ " \x7d"

end ClusterAccess

namespace Access

def signup (d : Directory) (userId username : String) : Except AccessError (Option Signup) :=
  (d.signup userId username).mapError fun e => .signupLookup e.message

def isProvisioned (d : Directory) (userId username : String) : Except AccessError Bool :=
  (signup d userId username).map fun s =>
    match s with
    | some s => !s.compliantUsername.isEmpty
    | none => false

def provisionedSignup (d : Directory) (userId username : String) : Except AccessError Signup :=
  match signup d userId username with
  | .error e => .error e
  | .ok none => .error .notProvisioned
  | .ok (some s) => if s.compliantUsername.isEmpty then .error .notProvisioned else .ok s

def registeredMembers (d : Directory) : Except AccessError (List MemberCluster) :=
  if d.members.isEmpty then .error .noMemberClusters else .ok d.members

def pluginUrl (d : Directory) (m : MemberCluster) (plugin : String) : Except AccessError Url :=
  match m.routes with
  | none => .error (.memberClientNotSet m.name)
  | some routes =>
    match d.plugin plugin with
    | .error e => .error (.pluginConfig plugin e.message)
    | .ok config =>
      match config.route with
      | none => .error (.pluginRouteNotDefined plugin)
      | some ref =>
        let key := ref.namespace ++ "/" ++ ref.name
        match routes ref with
        | .error e => .error (.routeLookup key e.message)
        | .ok route =>
          match route.url? with
          | none => .error (.routeNotAdmitted key)
          | some (.error e) => .error (.invalidUrl (route.hosts.head?.getD "") e.message)
          | some (.ok u) => .ok u

def memberUrl (d : Directory) (m : MemberCluster) (plugin : Option String) :
    Except AccessError Url :=
  match plugin with
  | none => (Url.parse m.apiEndpoint).mapError fun e => .invalidUrl m.apiEndpoint e.message
  | some p => pluginUrl d m p

def toMember (d : Directory) (m : MemberCluster) (username : String) (plugin : Option String) :
    Except AccessError ClusterAccess :=
  (memberUrl d m plugin).map fun u => ⟨u, m.bearerToken, username⟩

def home (view : Views) (userId username : String) (plugin : Option String) :
    Except AccessError ClusterAccess :=
  match provisionedSignup (view .signup) userId username with
  | .error e => .error e
  | .ok s =>
    match registeredMembers (view .members) with
    | .error e => .error e
    | .ok ms =>
      match ms.find? fun m => m.apiEndpoint = s.apiEndpoint && m.name = s.clusterName with
      | none => .error .noMemberClusterForUser
      | some m => toMember (view .plugin) m s.compliantUsername plugin

def impersonated (view : Views) (userId username : String) (viewerEnabled : Bool) :
    Except AccessError String :=
  if viewerEnabled && username = Identity.publicViewerName then .ok username
  else (provisionedSignup (view .signup) userId username).map Signup.compliantUsername

def named (view : Views) (userId username workspace : String) (plugin : Option String)
    (viewerEnabled : Bool) : Except AccessError ClusterAccess :=
  match impersonated view userId username viewerEnabled with
  | .error e => .error e
  | .ok user =>
    match (view .workspace).workspace workspace with
    | .error _ => .error .spaceNotAvailable
    | .ok space =>
      match registeredMembers (view .members) with
      | .error e => .error e
      | .ok ms =>
        match ms.find? fun m => m.name = space.targetCluster with
        | none => .error (.noMemberClusterForSpace space.name)
        | some m => toMember (view .plugin) m user plugin

def resolve (view : Views) (userId username : String) (workspace plugin : Option String)
    (viewerEnabled : Bool) : Except AccessError ClusterAccess :=
  match workspace with
  | none => home view userId username plugin
  | some w => named view userId username w plugin viewerEnabled

end Access

end WorkspaceGateway
