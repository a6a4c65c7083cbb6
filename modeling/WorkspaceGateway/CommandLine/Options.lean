import WorkspaceGateway.Files
import WorkspaceGateway.SocketAddress
import WorkspaceGateway.Text.Quoted

/-!
# Options of the gateway

What the gateway can be told when it is started: where to listen, where its catalog and the
provider's keys are, and how often to read them again. An option may have an environment
variable and a default value.
-/

set_option autoImplicit false

namespace WorkspaceGateway.CommandLine

inductive Setting where
  | listenAddress
  | metricsAddress
  | environment
  | «namespace»
  | catalog
  | catalogRefresh
  | publicViewer
  | keysUrl
  | keysRefresh
  | certificate
  | key
  | headerTimeout
  deriving DecidableEq, Repr

namespace Setting

def all : List Setting :=
  [listenAddress, metricsAddress, environment, «namespace», catalog, catalogRefresh, publicViewer,
    keysUrl, keysRefresh, certificate, key, headerTimeout]

def label : Setting → String
  | listenAddress => "listen-addr"
  | metricsAddress => "metrics-addr"
  | environment => "environment"
  | «namespace» => "namespace"
  | catalog => "catalog"
  | catalogRefresh => "catalog-refresh-secs"
  | publicViewer => "public-viewer-enabled"
  | keysUrl => "jwks-url"
  | keysRefresh => "jwks-refresh-secs"
  | certificate => "tls-cert"
  | key => "tls-key"
  | headerTimeout => "header-read-timeout-secs"

def envName? : Setting → Option String
  | listenAddress => some "KUBEGATE_LISTEN_ADDR"
  | metricsAddress => some "KUBEGATE_METRICS_ADDR"
  | environment => some "KUBEGATE_ENVIRONMENT"
  | «namespace» => some "WATCH_NAMESPACE"
  | catalog => some "KUBEGATE_CATALOG"
  | publicViewer => some "KUBEGATE_PUBLIC_VIEWER_ENABLED"
  | keysUrl => some "KUBEGATE_JWKS_URL"
  | _ => none

def isSwitch (s : Setting) : Bool := s = publicViewer

def ofLabel? (l : String) : Option Setting := all.find? fun s => s.label = l

end Setting

inductive Refusal where
  | help
  | version
  | unknown (word : String)
  | withoutValue (s : Setting)
  | emptyPath (s : Setting)
  | notBoolean (s : Setting) (value : String)
  | malformed (s : Setting) (value : String)
  | unneededValue (label value : String)
  | repeated (s : Setting)
  | missing (s : Setting)
  deriving DecidableEq, Repr

namespace Refusal

def message : Refusal → String
  | help => "help requested"
  | version => "version requested"
  | unknown word => "unexpected argument " ++ Text.quote word
  | withoutValue s => "a value is required for --" ++ s.label
  | emptyPath s => "a path is required for --" ++ s.label
  | notBoolean s v => "neither true nor false for --" ++ s.label ++ ": " ++ Text.quote v
  | malformed s v => "invalid value for --" ++ s.label ++ ": " ++ Text.quote v
  | unneededValue l v => "unexpected value for --" ++ l ++ ": " ++ Text.quote v
  | repeated s => "--" ++ s.label ++ " cannot be used multiple times"
  | missing s => "--" ++ s.label ++ " is required"

end Refusal

/-! ## Values -/

def seconds? (s : String) : Option Nat :=
  let digits := match s.toList with
    | '+' :: r => r
    | r => r
  SocketAddress.number? UInt64.size digits

def readValue {α : Type} (read : String → Option α) (s : Setting) (v : String) :
    Except Refusal α :=
  match read v with
  | some a => .ok a
  | none => .error (.malformed s v)

def readPath (s : Setting) (v : String) : Except Refusal String :=
  if v.isEmpty then .error (.emptyPath s) else .ok v

def readBoolean (s : Setting) (v : String) : Except Refusal Bool :=
  match v with
  | "true" => .ok true
  | "false" => .ok false
  | _ => .error (.notBoolean s v)

structure Given where
  listenAddress : Option SocketAddress
  metricsAddress : Option SocketAddress
  environment : Option String
  «namespace» : Option String
  catalog : Option String
  catalogRefresh : Option Nat
  publicViewer : Option Bool
  keysUrl : Option String
  keysRefresh : Option Nat
  certificate : Option String
  key : Option String
  headerTimeout : Option Nat
  deriving DecidableEq, Repr

namespace Given

def empty : Given :=
  ⟨none, none, none, none, none, none, none, none, none, none, none, none⟩

def contains (g : Given) : Setting → Bool
  | .listenAddress => g.listenAddress.isSome
  | .metricsAddress => g.metricsAddress.isSome
  | .environment => g.environment.isSome
  | .namespace => g.namespace.isSome
  | .catalog => g.catalog.isSome
  | .catalogRefresh => g.catalogRefresh.isSome
  | .publicViewer => g.publicViewer.isSome
  | .keysUrl => g.keysUrl.isSome
  | .keysRefresh => g.keysRefresh.isSome
  | .certificate => g.certificate.isSome
  | .key => g.key.isSome
  | .headerTimeout => g.headerTimeout.isSome

def set (g : Given) (s : Setting) (v : String) : Except Refusal Given :=
  match s with
  | .listenAddress =>
    (readValue SocketAddress.read? s v).map fun a => { g with listenAddress := some a }
  | .metricsAddress =>
    (readValue SocketAddress.read? s v).map fun a => { g with metricsAddress := some a }
  | .environment => .ok { g with environment := some v }
  | .namespace => .ok { g with «namespace» := some v }
  | .catalog => (readPath s v).map fun p => { g with catalog := some p }
  | .catalogRefresh => (readValue seconds? s v).map fun n => { g with catalogRefresh := some n }
  | .publicViewer => (readBoolean s v).map fun b => { g with publicViewer := some b }
  | .keysUrl => .ok { g with keysUrl := some v }
  | .keysRefresh => (readValue seconds? s v).map fun n => { g with keysRefresh := some n }
  | .certificate => (readPath s v).map fun p => { g with certificate := some p }
  | .key => (readPath s v).map fun p => { g with key := some p }
  | .headerTimeout => (readValue seconds? s v).map fun n => { g with headerTimeout := some n }

def add (g : Given) (s : Setting) (v : String) : Except Refusal Given :=
  if g.contains s then .error (.repeated s) else g.set s v

end Given

/-! ## Options -/

structure TlsFiles where
  certificate : String
  key : String
  deriving DecidableEq, Repr

structure Options where
  listenAddress : SocketAddress
  metricsAddress : SocketAddress
  /-- Only in production are members' certificates checked. -/
  environment : String
  «namespace» : String
  catalog : String
  /-- Seconds between two readings of the catalog, at least one. -/
  catalogRefresh : Nat
  publicViewer : Bool
  keysUrl : String
  keysRefresh : Nat
  tls : Option TlsFiles
  /-- Seconds in which the fields of a request have to arrive. -/
  headerTimeout : Nat
  deriving DecidableEq, Repr

def required (s : Setting) (v : Option String) : Except Refusal String :=
  match v with
  | some v => .ok v
  | none => .error (.missing s)

def tlsFiles (g : Given) : Except Refusal (Option TlsFiles) :=
  match g.certificate, g.key with
  | some c, some k => .ok (some ⟨c, k⟩)
  | none, none => .ok none
  | some _, none => .error (.missing .key)
  | none, some _ => .error (.missing .certificate)

def Given.options (g : Given) : Except Refusal Options := do
  let tls ← tlsFiles g
  return {
    listenAddress := g.listenAddress.getD (.v4 0 8081)
    metricsAddress := g.metricsAddress.getD (.v4 0 8082)
    environment := g.environment.getD "prod"
    «namespace» := ← required .namespace g.namespace
    catalog := ← required .catalog g.catalog
    catalogRefresh := max 1 (g.catalogRefresh.getD 5)
    publicViewer := g.publicViewer.getD false
    keysUrl := ← required .keysUrl g.keysUrl
    keysRefresh := max 1 (g.keysRefresh.getD 3600)
    tls
    headerTimeout := g.headerTimeout.getD 2 }

/-! ## The listener -/

structure TlsTexts where
  certificate : String
  key : String
  deriving DecidableEq, Repr

structure Listener where
  address : SocketAddress
  metricsAddress : SocketAddress
  tls : Option TlsTexts
  headerTimeout : Nat
  deriving DecidableEq, Repr

inductive ListenerError where
  | certificate (path : String) (cause : FileError)
  | key (path : String) (cause : FileError)
  deriving DecidableEq, Repr

namespace ListenerError

def message : ListenerError → String
  | certificate path cause =>
    "Failed to read TLS certificate " ++ Text.quote path ++ ": " ++ cause.message
  | key path cause => "Failed to read TLS key " ++ Text.quote path ++ ": " ++ cause.message

end ListenerError

def readTls (files : Files) (f : TlsFiles) : Except ListenerError TlsTexts :=
  match readTextFile files f.certificate with
  | .error e => .error (.certificate f.certificate e)
  | .ok c =>
    match readTextFile files f.key with
    | .error e => .error (.key f.key e)
    | .ok k => .ok ⟨c, k⟩

def Options.listener (o : Options) (files : Files) : Except ListenerError Listener :=
  match o.tls with
  | none => .ok ⟨o.listenAddress, o.metricsAddress, none, o.headerTimeout⟩
  | some f => (readTls files f).map fun t =>
    ⟨o.listenAddress, o.metricsAddress, some t, o.headerTimeout⟩

end WorkspaceGateway.CommandLine
