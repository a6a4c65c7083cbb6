import WorkspaceGateway.Catalog.Snapshot

/-!
# The catalog over time

The catalog is read again at intervals. A snapshot that loads replaces the one before, and one
that does not leaves it as it was. Routes are attached to clusters by name and stay attached.
-/

set_option autoImplicit false

namespace WorkspaceGateway.Catalog

structure Store where
  path : String
  «namespace» : String
  snapshot : Snapshot
  /-- Routes by cluster, newest first. -/
  routes : List (String × (RouteRef → Lookup Route))

namespace Store

def load (files : Files) (path «namespace» : String) : Except CatalogError Store :=
  (Snapshot.load files path).map fun s => ⟨path, «namespace», s, []⟩

def reload (c : Store) (files : Files) : Except CatalogError Store :=
  (Snapshot.load files c.path).map fun s => { c with snapshot := s }

def refresh (c : Store) (files : Files) : Store :=
  match c.reload files with
  | .ok c' => c'
  | .error _ => c

def attachRoutes (c : Store) (cluster : String) (routes : RouteRef → Lookup Route) : Store :=
  { c with routes := (cluster, routes) :: c.routes }

def attached (c : Store) : Snapshot.AttachedRoutes :=
  fun name => (c.routes.find? fun r => r.1 = name).map Prod.snd

def directory (c : Store) : Directory := c.snapshot.directory c.namespace c.attached

end Store

/-- How many times a period has ended in `(earlier, later]`, for a period that began at `start`. -/
def ticks (start period earlier later : Nat) : Nat :=
  if period = 0 then 0 else (later - start) / period - (earlier - start) / period

end WorkspaceGateway.Catalog
