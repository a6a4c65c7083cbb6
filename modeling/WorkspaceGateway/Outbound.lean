import WorkspaceGateway.Credential.Subprotocol
import WorkspaceGateway.RequestPath
import WorkspaceGateway.RequestTarget
import WorkspaceGateway.Url.Path

/-!
# Requests to member clusters

A request that may be sent on gets the target's address, the member cluster's own credential in
place of the caller's, and the name of the user to act as. The fields that concern the caller's
connection only are taken out; an upgrade that was asked for is asked for again.
-/

set_option autoImplicit false

namespace WorkspaceGateway

structure Request where
  method : String
  target : RequestTarget
  headers : Headers
  body : Octets

structure ClusterAccess where
  /-- The API endpoint or the plugin's route. -/
  url : Url
  token : String
  /-- The user the member cluster is asked to act as. -/
  username : String

structure Outbound where
  method : String
  url : Url
  headers : Headers
  /-- A change of protocol is asked for, which only HTTP/1.1 has. -/
  upgrade : Bool

namespace Outbound

def http1Only (o : Outbound) : Bool := o.upgrade

def userField : String := "impersonate-user"

def joinQueries (target request : Option String) : Option String :=
  match target.getD "", request.getD "" with
  | "", "" => none
  | t, "" => some t
  | "", r => some r
  | t, r => some (t ++ "&" ++ r)

def targetUrl (target : Url) (path : String) (query : Option String) : Url :=
  (target.setPath (joinPaths target.path.text path.toList)).setQuery
    (joinQueries target.query query)

def hostField (u : Url) : String :=
  match u.host?, u.port? with
  | some h, some p => h ++ ":" ++ toString p
  | some h, none => h
  | none, _ => ""

def fieldValue (s : String) : Except Fault Octets :=
  let v := Octets.ofText s
  if Headers.isValue v then .ok v
  else .error (.internal "invalid outbound header value: failed to parse header value")

def passedOn (h : Headers) : Headers :=
  let out := h.endToEnd.erase "host"
  match h.upgradeProtocol? with
  | none => out
  | some p => (out.insert "connection" (Octets.ofText "Upgrade")).insert "upgrade" p

def withUserAgent (h : Headers) : Headers :=
  if h.contains "user-agent" then h else h.insert "user-agent" []

/-- Puts the member's token where the caller's was: in the sub-protocols of a WebSocket that
still has them, in the authorization field otherwise. -/
def withCredential (inbound out : Headers) (token : String) : Except Fault Headers :=
  if inbound.isWebSocketRequest && out.contains Credential.subprotocolField then
    Credential.exchangeSubprotocolToken (out.erase "authorization") token
  else
    (fieldValue ("Bearer " ++ token)).map fun v => out.insert "authorization" v

def direct (access : ClusterAccess) (r : Request) (path : String) (plugin : Bool) :
    Except Fault Outbound := do
  let url := targetUrl access.url path r.target.query
  let out := passedOn r.headers
  let out ← if plugin then (fieldValue (hostField url)).map fun v => out.insert "host" v
    else .ok out
  let out ← withCredential r.headers (withUserAgent out) access.token
  let user ← fieldValue access.username
  return ⟨r.method, url, out.insert userField user, r.headers.upgradeProtocol?.isSome⟩

end Outbound

def verifiesCertificates (environment : String) : Bool := environment = "prod"

end WorkspaceGateway
