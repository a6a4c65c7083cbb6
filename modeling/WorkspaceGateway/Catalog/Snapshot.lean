import WorkspaceGateway.Catalog.Document
import WorkspaceGateway.Directory
import WorkspaceGateway.Files
import WorkspaceGateway.Text.Blank

/-!
# Catalog snapshots

A snapshot is a catalog document with the token of each member cluster, which stands in the
document or in a file of its own. All lookups are answered from one snapshot.
-/

set_option autoImplicit false

namespace WorkspaceGateway.Catalog

/-! ## Loading -/

inductive CatalogError where
  | read (path : String) (cause : FileError)
  | parse (path : String)
  | tokenFile (cluster path : String) (cause : FileError)
  | duplicateMember (name : String)
  | noToken (name : String)
  deriving DecidableEq, Repr

namespace CatalogError

def message : CatalogError → String
  | read path cause => "failed to read catalog " ++ path ++ ": " ++ cause.message
  | parse path => "failed to parse catalog " ++ path
  | tokenFile cluster path cause =>
    "failed to read token file " ++ path ++ " for member " ++ cluster ++ ": " ++ cause.message
  | duplicateMember name => "invalid catalog: duplicate member cluster " ++ name
  | noToken name => "invalid catalog: member cluster " ++ name ++ " has neither token nor tokenFile"

end CatalogError

structure Snapshot where
  document : Document
  /-- The token of each member cluster, by name. -/
  tokens : List (String × String)

def memberToken (files : Files) (m : MemberEntry) : Except CatalogError String :=
  match m.token, m.tokenFile with
  | some t, _ => .ok t
  | none, some path =>
    match readTextFile files path with
    | .ok s => .ok (String.ofList (Text.trim s.toList))
    | .error e => .error (.tokenFile m.name path e)
  | none, none => .error (.noToken m.name)

def memberTokens (files : Files) (seen : List (String × String)) :
    List MemberEntry → Except CatalogError (List (String × String))
  | [] => .ok seen
  | m :: ms =>
    if seen.any fun t => t.1 = m.name then .error (.duplicateMember m.name)
    else match memberToken files m with
      | .error e => .error e
      | .ok t => memberTokens files (seen ++ [(m.name, t)]) ms

namespace Snapshot

def ofDocument (files : Files) (d : Document) : Except CatalogError Snapshot :=
  (memberTokens files [] d.members).map fun tokens => ⟨d, tokens⟩

def load (files : Files) (path : String) : Except CatalogError Snapshot :=
  match readTextFile files path with
  | .error e => .error (.read path e)
  | .ok s =>
    match Document.read? s with
    | none => .error (.parse path)
    | some d => ofDocument files d

/-! ## Lookups -/

def signup? (s : Snapshot) (userId username : String) : Option SignupEntry :=
  match s.document.signups.find? fun e => !userId.isEmpty && e.userId = userId with
  | some e => some e
  | none => s.document.signups.find? fun e => !username.isEmpty && e.name = username

def space? (s : Snapshot) (name : String) : Option SpaceEntry :=
  s.document.spaces.find? fun e => e.name = name

def member? (s : Snapshot) (name : String) : Option MemberEntry :=
  s.document.members.find? fun e => e.name = name

def binding? (s : Snapshot) (user space : String) : Option BindingEntry :=
  s.document.bindings.find? fun b => b.user = user && b.space = space

/-- Chains of parents longer than this are taken for cycles. -/
def maxSpaceDepth : Nat := 16

/-- The first binding of a user along a chain of parents, where no space of `visited` counts
again and `depth` more may be visited. -/
def bindingAlong (s : Snapshot) (user : String) :
    Nat → List String → SpaceEntry → Option BindingEntry
  | 0, _, _ => none
  | depth + 1, visited, space =>
    if visited.contains space.name then none
    else match s.binding? user space.name with
      | some b => some b
      | none =>
        match space.parentSpace.bind s.space? with
        | some parent => bindingAlong s user depth (space.name :: visited) parent
        | none => none

def inheritedBinding? (s : Snapshot) (user : String) (space : SpaceEntry) : Option BindingEntry :=
  bindingAlong s user maxSpaceDepth [] space

def names? (s : Snapshot) (i : Identity) : Option (String × String) :=
  if i.isPublicViewer then some (Identity.publicViewerName, Identity.publicViewerName)
  else match s.signup? i.userId i.username with
    | some e => if e.compliantUsername.isEmpty then none else some (e.name, e.compliantUsername)
    | none => none

def workspaceOf (signup : Option String) (role : String) (e : SpaceEntry) : Workspace :=
  ⟨e.name, if signup = some e.owner then .home else .other, e.namespaces, e.owner, role,
    e.targetCluster⟩

def firstBindings (seen : List String) : List BindingEntry → List BindingEntry
  | [] => []
  | b :: bs =>
    if seen.contains b.space then firstBindings seen bs
    else b :: firstBindings (b.space :: seen) bs

def workspaces (s : Snapshot) (i : Identity) (name : Option String) : List Workspace :=
  match s.names? i with
  | none => []
  | some (signup, user) =>
    match name with
    | some n =>
      match s.space? n with
      | none => []
      | some e =>
        match s.inheritedBinding? user e with
        | none => []
        | some b => [workspaceOf (some signup) b.role e]
    | none =>
      (firstBindings [] (s.document.bindings.filter fun b => b.user = user)).filterMap fun b =>
        (s.space? b.space).map (workspaceOf (some signup) b.role)

def signup (s : Snapshot) (userId username : String) : Option Signup :=
  (s.signup? userId username).map fun e =>
    ⟨e.name, e.compliantUsername, e.clusterName,
      match e.apiEndpoint with
      | some u => u
      | none => ((s.member? e.clusterName).map MemberEntry.apiEndpoint).getD ""⟩

def workspace (s : Snapshot) (name : String) : Lookup Workspace :=
  match s.space? name with
  | some e => .ok (workspaceOf none "" e)
  | none => .error (.notFound "space" name)

def tokenOf (s : Snapshot) (name : String) : String :=
  ((s.tokens.find? fun t => t.1 = name).map Prod.snd).getD ""

abbrev AttachedRoutes := String → Option (RouteRef → Lookup Route)

def members (s : Snapshot) (routes : AttachedRoutes) : List MemberCluster :=
  s.document.members.map fun e =>
    ⟨e.name, e.apiEndpoint, e.operatorNamespace, s.tokenOf e.name, routes e.name⟩

def routeRef? (e : PluginEntry) : Option RouteRef :=
  match e.routeNamespace, e.routeName with
  | some ns, some n => if ns.isEmpty || n.isEmpty then none else some ⟨ns, n⟩
  | _, _ => none

def plugin (s : Snapshot) («namespace» name : String) : Lookup ProxyPlugin :=
  match s.document.plugins.find? fun e => e.name = name && e.namespace = «namespace» with
  | some e => .ok ⟨e.name, routeRef? e⟩
  | none => .error (.notFound "proxyplugin" name)

def isBanned (s : Snapshot) (email : String) : Bool :=
  s.document.banned.any fun b => b.toList.map Char.toLower = email.toList.map Char.toLower

def directory (s : Snapshot) («namespace» : String) (routes : AttachedRoutes) : Directory where
  isBanned email := .ok (s.isBanned email)
  workspaces i name := .ok (s.workspaces i name)
  signup userId username := .ok (s.signup userId username)
  workspace name := s.workspace name
  members := s.members routes
  plugin name := s.plugin «namespace» name

end Snapshot

end WorkspaceGateway.Catalog
