import WorkspaceGateway.Fault
import WorkspaceGateway.Json.Value

/-!
# Workspaces

A workspace as one caller sees it, its written form, and the rule that decides whether a caller
may send a request into it.
-/

set_option autoImplicit false

namespace WorkspaceGateway

inductive WorkspaceType where
  | home
  | other
  deriving DecidableEq, Repr

structure Workspace where
  name : String
  type : WorkspaceType
  namespaces : List String
  owner : String
  /-- The caller's role, from the binding that grants access. -/
  role : String
  targetCluster : String
  deriving DecidableEq, Repr

namespace Workspace

def apiVersion : String := "toolchain.dev.openshift.com/v1alpha1"

def object (w : Workspace) : Json.Value :=
  let role := if w.role.isEmpty then [] else [("role", .string w.role)]
  let type := if w.type = .home then [("type", .string "home")] else []
  .object [("kind", .string "Workspace"), ("apiVersion", .string apiVersion),
    ("metadata", .object [("name", .string w.name)]),
    ("status", .object ([
      ("namespaces", .array (w.namespaces.map fun n => .object [("name", .string n)])),
      ("owner", .string w.owner)] ++ role ++ type))]

def listObject (ws : List Workspace) : Json.Value :=
  .object [("kind", .string "WorkspaceList"), ("apiVersion", .string apiVersion),
    ("items", .array (ws.map object))]

end Workspace

/-! ## Authorization -/

inductive AuthorizationError where
  /-- There is not exactly one home workspace. -/
  | noSingleHome
  | notAvailable
  | namespaceForbidden («namespace» workspace : String)
  deriving DecidableEq, Repr

/-- The answer for a named workspace that the caller cannot reach, whether or not it exists. -/
def spaceNotAvailable : String := "the requested space is not available"

namespace AuthorizationError

def message : AuthorizationError → String
  | noSingleHome => "unable to determine the home workspace"
  | notAvailable => spaceNotAvailable
  | namespaceForbidden n w =>
    "access to namespace '" ++ n ++ "' in workspace '" ++ w ++ "' is forbidden"

def fault (e : AuthorizationError) : Fault := .forbidden e.message

end AuthorizationError

namespace Workspace

def select (name : Option String) (accessible : List Workspace) :
    Except AuthorizationError Workspace :=
  match name with
  | none =>
    match accessible.filter fun w => w.type = .home with
    | [w] => .ok w
    | _ => .error .noSingleHome
  | some n =>
    match accessible.find? fun w => w.name = n with
    | some w => .ok w
    | none => .error .notAvailable

def authorize (name «namespace» : Option String) (accessible : List Workspace) :
    Except AuthorizationError Workspace :=
  match select name accessible with
  | .error e => .error e
  | .ok w =>
    match «namespace» with
    | none => .ok w
    | some n => if w.namespaces.contains n then .ok w else .error (.namespaceForbidden n w.name)

end Workspace

end WorkspaceGateway
