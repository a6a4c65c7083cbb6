import WorkspaceGateway.Text.Split

/-!
# Counts

What the gateway counts, and the names under which the counts are published. The publisher adds
the unit and the kind of a series to its name.
-/

set_option autoImplicit false

namespace WorkspaceGateway

inductive WorkspaceVerb where
  | get
  | list
  deriving DecidableEq, Repr

def WorkspaceVerb.label : WorkspaceVerb → String
  | get => "get"
  | list => "list"

inductive Count where
  | proxied (status : Nat) (routeTo : String)
  | workspaceApi (status : Nat) (verb : WorkspaceVerb)
  | decision (allowed : Bool)
  deriving DecidableEq, Repr

namespace Count

def rejected : String := "rejected"

def decisionLabel (allowed : Bool) : String := if allowed then "allow" else "deny"

def labelValue (s : String) : String :=
  String.ofList (s.toList.flatMap fun c =>
    if c = '\\' then ['\\', '\\']
    else if c = '"' then ['\\', '"']
    else if c = '\n' then ['\\', 'n']
    else [c])

def series (name : String) (labels : List (String × String)) : String :=
  let one (l : String × String) : List Char := (l.1 ++ "=\"" ++ labelValue l.2 ++ "\"").toList
  name ++ "\x7b" ++ String.ofList (Text.joinWith [','] (labels.map one)) ++ "\x7d"

def published : Count → List String
  | proxied status routeTo =>
    let labels := [("route_to", routeTo), ("status_code", toString status)]
    [series "kubegate_proxy_api_request_duration_seconds_seconds_count" labels,
      series "kubegate_proxy_requests_total_total" labels]
  | workspaceApi status verb =>
    [series "kubegate_proxy_workspace_request_duration_seconds_seconds_count"
      [("kube_verb", verb.label), ("status_code", toString status)]]
  | decision allowed =>
    [series "kubegate_workspace_authz_decisions_total_total"
      [("decision", decisionLabel allowed)]]

end Count

/-- The time from a request's receipt to the decision on it; none when the clock went back. -/
def routingDuration (received decided : Nat) : Nat := decided - received

end WorkspaceGateway
