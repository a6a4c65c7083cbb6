import WorkspaceGateway.Yaml.Node

/-!
# Catalog documents

A catalog is a YAML document that lists member clusters, signups, spaces, bindings, plugins and
banned addresses. Every list may be left out; keys that are not known are passed over, and a
known key may stand only once. A scalar is read as a text by its letters; for an optional text
the null words and nothing at all mean that it is absent.
-/

set_option autoImplicit false

namespace WorkspaceGateway.Catalog

structure MemberEntry where
  name : String
  apiEndpoint : String
  operatorNamespace : String
  token : Option String
  tokenFile : Option String
  watchRoutes : Bool
  deriving DecidableEq, Repr

structure SignupEntry where
  name : String
  userId : String
  /-- The provisioned name; empty while not provisioned. -/
  compliantUsername : String
  clusterName : String
  /-- The cluster's endpoint, where it is not the one registered. -/
  apiEndpoint : Option String
  deriving DecidableEq, Repr

structure SpaceEntry where
  name : String
  targetCluster : String
  /-- The space whose bindings count here too. -/
  parentSpace : Option String
  namespaces : List String
  owner : String
  deriving DecidableEq, Repr

structure BindingEntry where
  space : String
  user : String
  role : String
  deriving DecidableEq, Repr

structure PluginEntry where
  name : String
  «namespace» : String
  routeNamespace : Option String
  routeName : Option String
  deriving DecidableEq, Repr

structure Document where
  members : List MemberEntry
  signups : List SignupEntry
  spaces : List SpaceEntry
  bindings : List BindingEntry
  plugins : List PluginEntry
  banned : List String
  deriving DecidableEq, Repr

namespace Document

def empty : Document := ⟨[], [], [], [], [], []⟩

end Document

/-! ## Reading -/

namespace Reading

open Yaml

def isAbsent : Node → Bool
  | .scalar s .plain _ => s.isEmpty
  | _ => false

def isNullWord (s : String) : Bool := ["null", "Null", "NULL", "~"].contains s

def nullTag : String := "tag:yaml.org,2002:null"

def boolTag : String := "tag:yaml.org,2002:bool"

def text? (d : Yaml.Document) (n : Node) : Option String :=
  match d.resolve n with
  | .scalar s _ _ => some s
  | _ => none

def optionalText? (d : Yaml.Document) (n : Node) : Option (Option String) :=
  match d.resolve n with
  | .scalar s .plain none => some (if s.isEmpty || isNullWord s then none else some s)
  | .scalar s .plain (some t) =>
    if t = nullTag then if isNullWord s then some none else none else some (some s)
  | .scalar s _ _ => some (some s)
  | _ => none

def boolWord? (s : String) : Option Bool :=
  if ["true", "True", "TRUE"].contains s then some true
  else if ["false", "False", "FALSE"].contains s then some false
  else none

def flag? (d : Yaml.Document) (n : Node) : Option Bool :=
  match d.resolve n with
  | .scalar s .plain _ => boolWord? s
  | .scalar s .literal (some t) => if t = boolTag then boolWord? s else none
  | _ => none

def items? (d : Yaml.Document) (n : Node) : Option (List Node) :=
  match d.resolve n with
  | .sequence ns => some ns
  | n => if isAbsent n then some [] else none

def members? (d : Yaml.Document) (n : Node) : Option (List (String × Node)) :=
  match d.resolve n with
  | .mapping ms => ms.mapM fun (k, v) => (text? d k).map fun k => (k, v)
  | n => if isAbsent n then some [] else none

def find? (ms : List (String × Node)) (key : String) : Option (Option Node) :=
  match ms.filter (·.1 = key) with
  | [] => some none
  | [m] => some (some m.2)
  | _ => none

def field? {α : Type} (ms : List (String × Node)) (key : String) (read : Node → Option α)
    (default : Option α) : Option α :=
  match find? ms key with
  | none => none
  | some none => default
  | some (some n) => read n

def list? {α : Type} (d : Yaml.Document) (read : Node → Option α) (n : Node) : Option (List α) :=
  (items? d n).bind fun ns => ns.mapM read

def member? (d : Yaml.Document) (n : Node) : Option MemberEntry := do
  let ms ← members? d n
  return ⟨← field? ms "name" (text? d) none, ← field? ms "apiEndpoint" (text? d) none,
    ← field? ms "operatorNamespace" (text? d) (some ""),
    ← field? ms "token" (optionalText? d) (some none),
    ← field? ms "tokenFile" (optionalText? d) (some none),
    ← field? ms "watchRoutes" (flag? d) (some false)⟩

def signup? (d : Yaml.Document) (n : Node) : Option SignupEntry := do
  let ms ← members? d n
  return ⟨← field? ms "name" (text? d) none, ← field? ms "userId" (text? d) (some ""),
    ← field? ms "compliantUsername" (text? d) (some ""),
    ← field? ms "clusterName" (text? d) (some ""),
    ← field? ms "apiEndpoint" (optionalText? d) (some none)⟩

def space? (d : Yaml.Document) (n : Node) : Option SpaceEntry := do
  let ms ← members? d n
  return ⟨← field? ms "name" (text? d) none, ← field? ms "targetCluster" (text? d) none,
    ← field? ms "parentSpace" (optionalText? d) (some none),
    ← field? ms "namespaces" (list? d (text? d)) (some []),
    ← field? ms "owner" (text? d) (some "")⟩

def binding? (d : Yaml.Document) (n : Node) : Option BindingEntry := do
  let ms ← members? d n
  return ⟨← field? ms "space" (text? d) none, ← field? ms "user" (text? d) none,
    ← field? ms "role" (text? d) (some "")⟩

def plugin? (d : Yaml.Document) (n : Node) : Option PluginEntry := do
  let ms ← members? d n
  return ⟨← field? ms "name" (text? d) none, ← field? ms "namespace" (text? d) none,
    ← field? ms "routeNamespace" (optionalText? d) (some none),
    ← field? ms "routeName" (optionalText? d) (some none)⟩

def document? (d : Yaml.Document) (n : Node) : Option Document := do
  let ms ← members? d n
  return ⟨← field? ms "memberClusters" (list? d (member? d)) (some []),
    ← field? ms "signups" (list? d (signup? d)) (some []),
    ← field? ms "spaces" (list? d (space? d)) (some []),
    ← field? ms "spaceBindings" (list? d (binding? d)) (some []),
    ← field? ms "proxyPlugins" (list? d (plugin? d)) (some []),
    ← field? ms "bannedEmails" (list? d (text? d)) (some [])⟩

end Reading

def Document.read? (s : String) : Option Document :=
  match Yaml.read? s.toList with
  | none => none
  | some d =>
    match d.root with
    | none => some Document.empty
    | some n => Reading.document? d n

end WorkspaceGateway.Catalog
