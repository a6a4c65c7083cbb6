import WorkspaceGateway.Proofs.CompleteMediation
import WorkspaceGateway.Proofs.PublicViewer

/-!
# Three answers about a workspace

The list goes through a caller's bindings, one workspace is looked for by its name and up its
parents, and a request tries the public viewer as well. Still they agree: what is listed lets a
request in, as the same space, and what the caller's own bindings list is found by name as the
same workspace. By name there is found what the directory has, for a caller who is not banned.
-/

set_option autoImplicit false

namespace WorkspaceGateway

open Catalog

structure Workspace.SameSpace (v w : Workspace) : Prop where
  name : v.name = w.name
  namespaces : v.namespaces = w.namespaces
  owner : v.owner = w.owner
  targetCluster : v.targetCluster = w.targetCluster

/-! ## In a catalog -/

namespace Catalog.Snapshot

variable {s : Snapshot} {i j : Identity} {user : String} {e : SpaceEntry} {b : BindingEntry}
  {v w : Workspace} {name name' : Option String}

theorem inherited_of_bound (h : s.binding? user e.name = some b) :
    s.inheritedBinding? user e = some b := by
  simp [inheritedBinding?, maxSpaceDepth, bindingAlong, h]

theorem workspaces_of_listed (h : w ∈ s.workspaces i none) :
    s.workspaces i (some w.name) = [w] := by
  unfold workspaces at h
  cases hn : s.names? i with
  | none => simp [hn] at h
  | some su =>
    obtain ⟨signup, user⟩ := su
    simp only [hn, List.mem_filterMap, Option.map_eq_some_iff] at h
    obtain ⟨b, hb, e, he, rfl⟩ := h
    have hname : (workspaceOf (some signup) b.role e).name = b.space := space_name he
    have hbound : s.binding? user e.name = some b := by
      rw [space_name he]
      exact binding_of_listed hb
    rw [workspaces_named, hname, hn, he]
    simp [inherited_of_bound hbound]

theorem workspaces_named_cases (s : Snapshot) (i : Identity) (n : String) :
    s.workspaces i (some n) = [] ∨ ∃ v, v.name = n ∧ s.workspaces i (some n) = [v] := by
  rw [workspaces_named]
  cases s.names? i with
  | none => exact .inl rfl
  | some su =>
    cases he : s.space? n with
    | none => exact .inl rfl
    | some e =>
      cases hb : s.inheritedBinding? su.2 e with
      | none => exact .inl (by simp [hb])
      | some b =>
        exact .inr ⟨workspaceOf (some su.1) b.role e, space_name he, by simp [hb]⟩

theorem sameSpace_of_listed (hv : v ∈ s.workspaces i name) (hw : w ∈ s.workspaces j name')
    (hn : v.name = w.name) : v.SameSpace w := by
  obtain ⟨signup, user, e, b, -, he, -, rfl⟩ := mem_workspaces hv
  obtain ⟨signup', user', e', b', -, he', -, rfl⟩ := mem_workspaces hw
  rw [hn] at he
  obtain rfl : e = e' := Option.some.inj (he.symm.trans he')
  exact ⟨rfl, rfl, rfl, rfl⟩

end Catalog.Snapshot

variable {g : Gateway} {s : Snapshot} {ns : String} {routes : Snapshot.AttachedRoutes}
  {h : Headers} {i j : Identity} {w : Workspace} {ws more : List Workspace}

/-! ## On the way of a request -/

namespace Proxy

theorem holds_listed (hw : w ∈ s.workspaces j none) :
    holds (s.workspaces j (some w.name)) w.name = true := by
  simp [holds, Snapshot.workspaces_of_listed hw]

theorem authorized_of_listed (g : Gateway) (ns : String) (routes : Snapshot.AttachedRoutes)
    (hw : w ∈ s.workspaces j none) (hacc : Accessible g s i w.name) :
    ∃ caller ws v, accessibleWorkspaces g (s.directory ns routes).steady i (some w.name) =
        .ok (caller, ws) ∧ Workspace.authorize (some w.name) none ws = .ok v ∧ v.SameSpace w := by
  obtain ⟨caller, ws, hl, hh⟩ := accessible_listed g s ns routes i w.name
  obtain ⟨v, hv⟩ := select_listed (hh.mpr hacc)
  -- The list that lets it in may be another caller's, with the same space under that name.
  have hlisted : ∃ k, v ∈ s.workspaces k (some w.name) := by
    rcases accessible_ok hl with ⟨-, hown⟩ | ⟨-, -, -, -, hshared⟩
    · exact ⟨i, Except.ok.inj hown ▸ Workspace.select_mem hv⟩
    · exact ⟨.publicViewer, Except.ok.inj hshared ▸ Workspace.select_mem hv⟩
  obtain ⟨k, hk⟩ := hlisted
  refine ⟨caller, ws, v, hl, Workspace.authorize_ok_iff.mpr ⟨hv, by simp⟩, ?_⟩
  exact Snapshot.sameSpace_of_listed hk hw (Workspace.select_name hv)

end Proxy

/-! ## In the workspace API -/

namespace WorkspaceApi

theorem mem_addNew (hw : w ∈ addNew ws more) : w ∈ ws ∨ w ∈ more := by
  induction more generalizing ws with
  | nil => exact .inl hw
  | cons v more ih =>
    rw [addNew, List.foldl_cons, ← addNew] at hw
    rcases ih hw with hws | hmore
    · split at hws
      · exact .inl hws
      · rcases List.mem_append.mp hws with hws | hv
        · exact .inl hws
        · exact .inr (List.mem_singleton.mp hv ▸ List.mem_cons_self)
    · exact .inr (List.mem_cons_of_mem v hmore)

theorem listFor_of_caller (hc : caller g (s.directory ns routes).steady h = .ok i) {known : Bool}
    (hp : Access.isProvisioned (s.directory ns routes) i.userId i.username = .ok known) :
    listFor g (s.directory ns routes).steady h =
      .ok (if known then
        if g.publicViewer && !i.isPublicViewer then
          addNew (s.workspaces i none) (s.workspaces .publicViewer none)
        else s.workspaces i none
      else []) := by
  have hknown : provisioned (s.directory ns routes).steady i = .ok known := by
    rw [provisioned, Directory.steady, hp]
    rfl
  unfold listFor
  simp only [hc, hknown, Directory.steady, Proxy.list_of_snapshot]
  cases known with
  | false => rfl
  | true =>
    cases g.publicViewer && !i.isPublicViewer <;> rfl

theorem mem_listFor (ha : Credential.authenticate g.readToken h = .ok i)
    (hl : listFor g (s.directory ns routes).steady h = .ok ws) (hw : w ∈ ws) :
    caller g (s.directory ns routes).steady h = .ok i ∧
      Access.isProvisioned (s.directory ns routes) i.userId i.username = .ok true ∧
      (w ∈ s.workspaces i none ∨
        g.publicViewer = true ∧ w ∈ s.workspaces .publicViewer none) := by
  cases hc : caller g (s.directory ns routes).steady h with
  | error f => simp [listFor, hc] at hl
  | ok k =>
    obtain rfl : k = i := Except.ok.inj ((admitted_iff.mp (caller_ok_iff.mp hc)).1.symm.trans ha)
    obtain ⟨known, hp, -⟩ := provisioned_of_snapshot s ns routes k
    obtain rfl := Except.ok.inj ((listFor_of_caller hc hp).symm.trans hl)
    cases known with
    | false => simp at hw
    | true =>
      refine ⟨rfl, hp, ?_⟩
      rw [if_pos rfl] at hw
      split at hw
      · rename_i hon
        rw [Bool.and_eq_true] at hon
        exact (mem_addNew hw).imp_right fun hshared => ⟨hon.1, hshared⟩
      · exact .inl hw

theorem getFor_ok_iff (hc : caller g (s.directory ns routes).steady h = .ok i) {n : String} :
    getFor g (s.directory ns routes).steady h n = .ok w ↔
      Access.isProvisioned (s.directory ns routes) i.userId i.username = .ok true ∧
        s.workspaces i (some n) = [w] := by
  obtain ⟨known, hknown, hp⟩ := provisioned_of_snapshot s ns routes i
  unfold getFor
  simp only [hc, hp, hknown, Directory.steady, Proxy.list_of_snapshot]
  cases known with
  | false => simp
  | true =>
    rcases Snapshot.workspaces_named_cases s i n with hnone | ⟨v, hv, hone⟩
    · simp [hnone]
    · simp [hone, hv]

/-- The list, one workspace by name and the way of a request agree. What is listed lets a request
of the caller in, as the same space; what the caller's own list has is found by name as it is
listed; and a workspace is found by name exactly when the caller is not banned and provisioned and
it is the one that the directory lists by that name. -/
theorem answers_agree (g : Gateway) (s : Snapshot) (ns : String)
    (routes : Snapshot.AttachedRoutes) (h : Headers) (i : Identity)
    (ha : Credential.authenticate g.readToken h = .ok i) :
    (∀ ws, listFor g (s.directory ns routes).steady h = .ok ws → ∀ w ∈ ws,
      (∃ caller accessible v,
        Proxy.accessibleWorkspaces g (s.directory ns routes).steady i (some w.name) =
            .ok (caller, accessible) ∧
          Workspace.authorize (some w.name) none accessible = .ok v ∧ v.SameSpace w) ∧
      (w ∈ s.workspaces i none →
        getFor g (s.directory ns routes).steady h w.name = .ok w)) ∧
    ∀ n w, getFor g (s.directory ns routes).steady h n = .ok w ↔
      Proxy.checkNotBanned (s.directory ns routes) i = .ok () ∧
        Access.isProvisioned (s.directory ns routes) i.userId i.username = .ok true ∧
        s.workspaces i (some n) = [w] := by
  constructor
  · intro ws hl w hw
    obtain ⟨hc, hp, hfrom⟩ := mem_listFor ha hl hw
    constructor
    · rcases hfrom with hown | ⟨hon, hshared⟩
      · exact Proxy.authorized_of_listed g ns routes hown (.inl (Proxy.holds_listed hown))
      · exact Proxy.authorized_of_listed g ns routes hshared
          (.inr ⟨hon, Proxy.holds_listed hshared⟩)
    · intro hown
      exact (getFor_ok_iff hc).mpr ⟨hp, Snapshot.workspaces_of_listed hown⟩
  · intro n w
    constructor
    · intro hg
      cases hc : caller g (s.directory ns routes).steady h with
      | error f => simp [getFor, hc] at hg
      | ok k =>
        obtain ⟨ha', hb⟩ := admitted_iff.mp (caller_ok_iff.mp hc)
        obtain rfl : k = i := Except.ok.inj (ha'.symm.trans ha)
        exact ⟨hb, (getFor_ok_iff hc).mp hg⟩
    · rintro ⟨hb, hp, hone⟩
      have hc : caller g (s.directory ns routes).steady h = .ok i :=
        caller_ok_iff.mpr (admitted_iff.mpr ⟨ha, hb⟩)
      exact (getFor_ok_iff hc).mpr ⟨hp, hone⟩

theorem community_answers_agree :
    Credential.authenticate (smithGateway.withViewer true).readToken smithRequest.headers =
      .ok smith ∧
    ∃ own shared, listFor (smithGateway.withViewer true) Router.communityViews
        smithRequest.headers = .ok [own, shared] ∧
      getFor (smithGateway.withViewer true) Router.communityViews smithRequest.headers "smith" =
        .ok own ∧
      shared ∉ Router.communityCatalog.workspaces smith none ∧
      ∃ caller accessible v, Proxy.accessibleWorkspaces (smithGateway.withViewer true)
          Router.communityViews smith (some "community") = .ok (caller, accessible) ∧
        Workspace.authorize (some "community") none accessible = .ok v ∧ v.SameSpace shared := by
  have hauth : Credential.authenticate (smithGateway.withViewer true).readToken
      smithRequest.headers = .ok smith := smith_authenticated
  have hlist : listFor (smithGateway.withViewer true) Router.communityViews smithRequest.headers =
      .ok [⟨"smith", .home, ["dev"], "smith", "admin", "member"⟩,
        ⟨"community", .other, ["dev"], "someone", "viewer", "member"⟩] :=
    ok_of_toOption (by decide +kernel)
  obtain ⟨hlisted, -⟩ := answers_agree (smithGateway.withViewer true) Router.communityCatalog ""
    (fun _ => none) smithRequest.headers smith hauth
  have hown := (hlisted _ hlist _ List.mem_cons_self).2 (by decide +kernel)
  have hshared := (hlisted _ hlist _ (List.mem_cons_of_mem _ List.mem_cons_self)).1
  exact ⟨hauth, _, _, hlist, hown, by decide +kernel, hshared⟩

def addressGateway : Gateway :=
  { smithGateway with
    readToken := fun t =>
      if t = "token" then some ⟨"user-1", "smith", some "smith@example.com"⟩ else none }

def banningCatalog : Snapshot :=
  { smithCatalog with document := { smithCatalog.document with banned := ["smith@example.com"] } }

/-- A banned caller is provisioned and listed, and finds nothing. -/
theorem banned_caller_finds_nothing :
    Credential.authenticate addressGateway.readToken smithRequest.headers =
        .ok ⟨"user-1", "smith", some "smith@example.com"⟩ ∧
    Access.isProvisioned (banningCatalog.directory "" fun _ => none) "user-1" "smith" = .ok true ∧
    banningCatalog.workspaces ⟨"user-1", "smith", some "smith@example.com"⟩ (some "smith") =
        [⟨"smith", .home, ["dev"], "smith", "admin", "member"⟩] ∧
    getFor addressGateway (banningCatalog.directory "" fun _ => none).steady
      smithRequest.headers "smith" = .error (.forbidden "user access is forbidden") :=
  ⟨ok_of_toOption (by decide +kernel), rfl, by decide +kernel, by rfl⟩

end WorkspaceApi

end WorkspaceGateway
