import WorkspaceGateway.Cors
import WorkspaceGateway.Outbound
import WorkspaceGateway.Response

/-!
# Sending on and passing back

A request made for a member cluster is sent there and what the member answers is passed back,
without the fields that concern the member's connection and with the cross-origin fields of the
gateway. Where the member changes the protocol, as the caller asked, the two connections are
joined and its answer is passed back as it is.
-/

set_option autoImplicit false

namespace WorkspaceGateway

structure Sent where
  outbound : Outbound
  body : Octets
  /-- Whether the caller's connection can be joined to the member's. -/
  bridged : Bool

abbrev Sender := Sent → Except Fault Response

/-- What a member cluster answers; nothing when it cannot be reached. -/
abbrev Transport := Outbound → Octets → Option Response

namespace Relay

def unreachable (u : Url) : Fault :=
  .proxy ("failed to reach " ++ u.host?.getD "" ++ ": error sending request for url (" ++
    u.text ++ ")")

def passedBack (bridged : Bool) (answer : Response) : Response :=
  if bridged && answer.status = 101 then { answer with body := [] }
  else { answer with headers := answer.headers.endToEnd }

def through (transport : Transport) : Sender := fun sent =>
  match transport sent.outbound sent.body with
  | none => .error (unreachable sent.outbound.url)
  | some answer => .ok (passedBack sent.bridged answer)

/-- Sends an authorized request on under a path. The second part is what was sent. -/
def forward (send : Sender) (access : ClusterAccess) (r : Request) (path : String)
    (plugin : Bool) : Except Fault Response × Option Sent :=
  match Outbound.direct access r path plugin with
  | .error f => (.error f, none)
  | .ok out =>
    let sent : Sent := ⟨out, r.body, r.headers.upgradeProtocol?.isSome⟩
    let answer := (send sent).map fun resp =>
      { resp with headers := Cors.applyResponseHeaders resp.headers }
    (answer, some sent)

end Relay

end WorkspaceGateway
