import WorkspaceGateway.ObjectKey
import WorkspaceGateway.Url.Parser

/-!
# Routes

A route names the hosts under which a plugin is served and the port it is served from. The
routes of a member cluster are known from its list and from the changes that follow; the newest
state of an object is the one that counts.
-/

set_option autoImplicit false

namespace WorkspaceGateway

structure Route where
  /-- Name or number of the target port, when there is one. -/
  targetPort : Option String
  /-- Hosts under which the route was admitted, in order. -/
  hosts : List String
  deriving DecidableEq, Repr

structure RouteRef where
  «namespace» : String
  name : String
  deriving DecidableEq, Repr

namespace Route

def scheme (r : Route) : String := if r.targetPort = some "http" then "http" else "https"

def url? (r : Route) : Option (Except UrlError Url) :=
  r.hosts.head?.map fun h => Url.parse (r.scheme ++ "://" ++ h)

def member? (v : Json.Value) : List String → Option Json.Value
  | [] => some v
  | n :: ns => (v.member? n).bind fun w => member? w ns

def ingressHost? (v : Json.Value) : Option String :=
  match (v.member? "host").bind Json.Value.string? with
  | some h => if h.isEmpty then none else some h
  | none => none

def ofObject (v : Json.Value) : Route :=
  let targetPort := match member? v ["spec", "port", "targetPort"] with
    | some (.string s) => some s
    | some (.number n) => n.text?
    | _ => none
  let hosts := match member? v ["status", "ingress"] with
    | some (.array vs) => vs.filterMap ingressHost?
    | _ => []
  ⟨targetPort, hosts⟩

end Route

/-! ## The routes of a cluster -/

/-- The routes of a member cluster, newest first. -/
structure RouteTable where
  entries : List (ObjectKey × Route)

inductive RouteEvent where
  | applied (key : ObjectKey) (route : Route)
  | deleted (key : ObjectKey)

namespace RouteTable

def empty : RouteTable := ⟨[]⟩

def remove (t : RouteTable) (key : ObjectKey) : RouteTable :=
  ⟨t.entries.filter fun e => e.1 ≠ key⟩

def insert (t : RouteTable) (key : ObjectKey) (route : Route) : RouteTable :=
  ⟨(key, route) :: (t.remove key).entries⟩

def step (t : RouteTable) : RouteEvent → RouteTable
  | .applied key route => t.insert key route
  | .deleted key => t.remove key

def ofEvents (events : List RouteEvent) : RouteTable := events.foldl step empty

def get? (t : RouteTable) (ref : RouteRef) : Option Route :=
  (t.entries.find? fun e => e.1 = ⟨some ref.namespace, ref.name⟩).map Prod.snd

theorem get?_remove (t : RouteTable) (key : ObjectKey) (ref : RouteRef) :
    (t.remove key).get? ref =
      if key = ⟨some ref.namespace, ref.name⟩ then none else t.get? ref := by
  simp only [remove, get?, List.find?_filter]
  split
  · rename_i h
    subst h
    simp
  · rename_i h
    congr 2
    funext e
    by_cases he : e.1 = ⟨some ref.namespace, ref.name⟩
    · simp [he, Ne.symm h]
    · simp [he]

theorem get?_insert (t : RouteTable) (key : ObjectKey) (route : Route) (ref : RouteRef) :
    (t.insert key route).get? ref =
      if key = ⟨some ref.namespace, ref.name⟩ then some route else t.get? ref := by
  by_cases h : key = ⟨some ref.namespace, ref.name⟩
  · simp [insert, get?, h]
  · have hr := get?_remove t key ref
    simp only [if_neg h] at hr
    simp only [insert, get?, List.find?_cons, h, decide_false, if_false]
    exact hr

end RouteTable

end WorkspaceGateway
