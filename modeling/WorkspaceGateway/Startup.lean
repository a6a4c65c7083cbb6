import WorkspaceGateway.Catalog.Store
import WorkspaceGateway.CommandLine.Words
import WorkspaceGateway.MemberEndpoint
import WorkspaceGateway.Tls.Material

/-!
# Starting the gateway

The gateway starts with a catalog that registers member clusters, with endpoints at which routes
can be watched where that is asked for, and with a listener whose certificates can be used.
-/

set_option autoImplicit false

namespace WorkspaceGateway

inductive StartupError where
  | catalog (cause : Catalog.CatalogError)
  | noMembers (path : String)
  | endpoint (cause : EndpointError)
  | listener (cause : CommandLine.ListenerError)
  | tls (cause : Tls.MaterialError)
  deriving DecidableEq, Repr

namespace StartupError

def message : StartupError → String
  | catalog cause => "Failed to load catalog: " ++ cause.message
  | noMembers path => "Catalog " ++ Text.quote path ++ " registers no member clusters"
  | endpoint cause => cause.message
  | listener cause => cause.message
  | tls cause => "Server failed: " ++ cause.fault.message

end StartupError

namespace Startup

open CommandLine

def catalog (o : Options) (files : Files) : Except StartupError Catalog.Store :=
  match Catalog.Store.load files o.catalog o.namespace with
  | .error e => .error (.catalog e)
  | .ok c => if c.snapshot.document.members.isEmpty then .error (.noMembers o.catalog) else .ok c

def checkEndpoints : List Catalog.MemberEntry → Except StartupError Unit
  | [] => .ok ()
  | m :: ms =>
    if !m.watchRoutes then checkEndpoints ms
    else match memberEndpoint m.name m.apiEndpoint with
      | .error e => .error (.endpoint e)
      | .ok _ => checkEndpoints ms

def checkTls (l : Listener) : Except StartupError Unit :=
  match l.tls with
  | none => .ok ()
  | some t => (Tls.check t.certificate t.key).mapError .tls

def prepare (o : Options) (files : Files) : Except StartupError (Catalog.Store × Listener) :=
  match catalog o files with
  | .error e => .error e
  | .ok c =>
    match checkEndpoints c.snapshot.document.members with
    | .error e => .error e
    | .ok () =>
      match o.listener files with
      | .error e => .error (.listener e)
      | .ok l => (checkTls l).map fun _ => (c, l)

def otherPaths (o : Options) (catalog : Option Catalog.Document) : List String :=
  let tokens := match catalog with
    | some d => d.members.filterMap Catalog.MemberEntry.tokenFile
    | none => []
  let tls := match o.tls with
    | some f => [f.certificate, f.key]
    | none => []
  tokens ++ tls

def summary (o : Options) (c : Catalog.Store) (l : Listener) : String :=
  "listen address " ++ l.address.text ++ ", metrics address " ++ l.metricsAddress.text ++
    ", environment " ++ o.environment ++ ", namespace " ++ o.namespace ++ ", member clusters " ++
    toString c.snapshot.document.members.length

end Startup

end WorkspaceGateway
