import WorkspaceGateway.Proofs.DirectedFields
import WorkspaceGateway.Proofs.HiddenWorkspace

/-!
# What the public viewer adds

Turning the public viewer on takes nothing from a caller of another name. What was sent on before
is sent on as it was, and what is sent on in addition goes into a named workspace in which the
public viewer has a binding and the caller has none that counts, as the public viewer. Bindings
count as far as the chain of parents is followed, which is for sixteen spaces.
-/

set_option autoImplicit false

namespace WorkspaceGateway

open Catalog

def Gateway.withViewer (g : Gateway) (on : Bool) : Gateway := { g with publicViewer := on }

namespace Access

variable {view : Views} {userId username : String} {workspace plugin : Option String}

theorem resolve_of_other (h : username ≠ Identity.publicViewerName) (on on' : Bool) :
    resolve view userId username workspace plugin on =
      resolve view userId username workspace plugin on' := by
  cases workspace with
  | none => rfl
  | some w => simp only [resolve, named, impersonated, h, decide_false, Bool.and_false]

end Access

namespace Proxy

variable {g : Gateway} {s : Snapshot} {ns : String} {routes : Snapshot.AttachedRoutes}
  {i : Identity} {p : RequestPath} {r : Request} {n : String}

theorem unbound_of_unlisted (h : holds (s.workspaces i (some n)) n = false) {signup user : String}
    {e : SpaceEntry} (hn : s.names? i = some (signup, user)) (he : s.space? n = some e)
    (b : BindingEntry) : ¬ s.GrantsWithin Snapshot.maxSpaceDepth user e b := by
  cases hb : s.inheritedBinding? user e with
  | none => exact Snapshot.unbound_within he hb
  | some b' =>
    have hlisted := holds_named.mpr ⟨signup, user, e, b', hn, he, hb⟩
    simp [h] at hlisted

structure Added (s : Snapshot) (i : Identity) (n : String) : Prop where
  lacking : holds (s.workspaces i (some n)) n = false
  holding : holds (s.workspaces .publicViewer (some n)) n = true

theorem accessible_without (g : Gateway) (s : Snapshot) (ns : String)
    (routes : Snapshot.AttachedRoutes) (i : Identity) (name : Option String) :
    accessibleWorkspaces (g.withViewer false) (s.directory ns routes).steady i name =
      .ok (i, s.workspaces i name) := by
  simp [accessibleWorkspaces, Directory.steady, list_of_snapshot, Gateway.withViewer]

theorem accessible_with (g : Gateway) (s : Snapshot) (ns : String)
    (routes : Snapshot.AttachedRoutes) (i : Identity) (name : Option String) :
    accessibleWorkspaces (g.withViewer true) (s.directory ns routes).steady i name =
        .ok (i, s.workspaces i name) ∨
      ∃ n, name = some n ∧ Added s i n := by
  simp only [accessibleWorkspaces, Directory.steady, list_of_snapshot, Gateway.withViewer,
    Bool.not_true, Bool.or_false]
  split
  · exact .inl rfl
  · rename_i hn
    cases name with
    | none => simp [reachable] at hn
    | some n =>
      simp only [Bool.or_eq_true, not_or, Bool.not_eq_true, reachable] at hn
      cases hs : holds (s.workspaces .publicViewer (some n)) n with
      | false => exact .inl (by simp [reachable, hs])
      | true => exact .inr ⟨n, rfl, hn.1, hs⟩

/-- A path leads the same way with the public viewer on, or it names a workspace that is added
and before led nowhere. -/
theorem routeTarget_with (g : Gateway) (s : Snapshot) (ns : String)
    (routes : Snapshot.AttachedRoutes) (p : RequestPath)
    (hv : i.username ≠ Identity.publicViewerName) :
    routeTarget (g.withViewer true) (s.directory ns routes).steady i p =
        routeTarget (g.withViewer false) (s.directory ns routes).steady i p ∨
      ∃ n, p.workspace = some n ∧ Added s i n ∧
        (routeTarget (g.withViewer false) (s.directory ns routes).steady i p).outcome =
          .error (.forbidden spaceNotAvailable) := by
  have hwithout := accessible_without g s ns routes i p.workspace
  rcases accessible_with g s ns routes i p.workspace with hwith | ⟨n, hn, hadded⟩
  · left
    unfold routeTarget
    simp only [hwith, hwithout, Access.resolve_of_other hv (g.withViewer true).publicViewer
      (g.withViewer false).publicViewer]
  · right
    refine ⟨n, hn, hadded, unlisted_hidden hn hwithout ?_⟩
    rw [hn]
    exact hadded.lacking

theorem handle_with (s : Snapshot) (ns : String) (routes : Snapshot.AttachedRoutes)
    (ha : Credential.authenticate g.readToken r.headers = .ok i)
    (hv : i.username ≠ Identity.publicViewerName) :
    handle (g.withViewer true) (s.directory ns routes).steady r =
        handle (g.withViewer false) (s.directory ns routes).steady r ∨
      ∃ p n, RequestPath.parse r.target.path = .ok p ∧ p.workspace = some n ∧ Added s i n ∧
        (handle (g.withViewer false) (s.directory ns routes).steady r).sent = none := by
  have ha' (on : Bool) : Credential.authenticate (g.withViewer on).readToken r.headers = .ok i := ha
  have same (h : route (g.withViewer true) (s.directory ns routes).steady r =
      route (g.withViewer false) (s.directory ns routes).steady r) :
      handle (g.withViewer true) (s.directory ns routes).steady r =
        handle (g.withViewer false) (s.directory ns routes).steady r := by
    unfold handle
    rw [h]
    rfl
  cases hb : checkNotBanned ((s.directory ns routes).steady .banned) i with
  | error f => exact .inl (same (by simp only [route, ha', hb]))
  | ok _ =>
    cases hp : RequestPath.parse r.target.path with
    | error e => exact .inl (same (by simp only [route, ha', hb, hp]))
    | ok p =>
      have hroute (on : Bool) := route_of_caller (ha' on) hb hp
      rcases routeTarget_with g s ns routes p hv with h | ⟨n, hn, hadded, h⟩
      · left
        apply same
        rw [hroute true, hroute false, h]
      · right
        rw [← hroute false] at h
        exact ⟨p, n, rfl, hn, hadded, (handle_of_fault h).2⟩

theorem added_sent {x : Sent} (ha : Credential.authenticate g.readToken r.headers = .ok i)
    (hp : RequestPath.parse r.target.path = .ok p) (hn : p.workspace = some n)
    (hadded : Added s i n)
    (h : (handle (g.withViewer true) (s.directory ns routes).steady r).sent = some x) :
    x.outbound.headers.values Outbound.userField =
      [Octets.ofText Identity.publicViewerName] := by
  obtain ⟨access, q, hroute, hdirect, -, -⟩ := handle_sent h
  obtain ⟨j, q', ha', -, hp', ht⟩ := route_ok hroute
  obtain rfl : j = i := Except.ok.inj (ha'.symm.trans ha)
  obtain rfl : q' = p := Except.ok.inj (hp'.symm.trans hp)
  obtain ⟨rfl, caller, ws, w, hl, hr, hw⟩ := route_target_ok ht
  have hcaller : caller = .publicViewer := by
    cases accessible_listedFor hl with
    | own listed =>
      -- The caller's own list lacks the workspace and would not let it in.
      obtain rfl : s.workspaces j q.workspace = ws := Except.ok.inj listed
      have hselect := (Workspace.authorize_ok_iff.mp hw).1
      rw [hn, select_unlisted hadded.lacking] at hselect
      simp at hselect
    | viewer => rfl
  subst hcaller
  have huser : access.username = Identity.publicViewerName := by
    rcases Access.resolve_user hr with ⟨-, -, -, hu⟩ | ⟨hwhen, -⟩
    · exact hu
    · rcases hwhen with hoff | hother | hnone
      · simp [Gateway.withViewer] at hoff
      · exact absurd rfl hother
      · simp [hn] at hnone
  rw [Outbound.direct_user hdirect, huser]

end Proxy

namespace WorkspaceApi

variable {g : Gateway} {view : Views} {h : Headers} {ws : List Workspace} {f : Fault}

theorem addNew_extends (ws more : List Workspace) : ∃ added, addNew ws more = ws ++ added := by
  induction more generalizing ws with
  | nil => exact ⟨[], by simp [addNew]⟩
  | cons w more ih =>
    cases hw : Proxy.holds ws w.name with
    | true =>
      obtain ⟨added, ha⟩ := ih ws
      exact ⟨added, by simpa [addNew, hw] using ha⟩
    | false =>
      obtain ⟨added, ha⟩ := ih (ws ++ [w])
      exact ⟨w :: added, by simpa [addNew, hw] using ha⟩

theorem listFor_with (hs : ∃ shared, Proxy.listWorkspaces (view .viewerWorkspaces) .publicViewer
      none = .ok shared) (hl : listFor (g.withViewer false) view h = .ok ws) :
    ∃ added, listFor (g.withViewer true) view h = .ok (ws ++ added) := by
  have hcaller : caller (g.withViewer true) view h = caller (g.withViewer false) view h := rfl
  unfold listFor at hl ⊢
  rw [hcaller]
  cases hc : caller (g.withViewer false) view h with
  | error f => simp [hc] at hl
  | ok i =>
    simp only [hc] at hl ⊢
    cases hp : provisioned view i with
    | error f => simp [hp] at hl
    | ok known =>
      cases known with
      | false => exact ⟨[], by simpa [hp] using hl⟩
      | true =>
        simp only [hp] at hl ⊢
        cases ho : Proxy.listWorkspaces (view .ownWorkspaces) i none with
        | error f => simp [ho] at hl
        | ok own =>
          simp only [ho, Gateway.withViewer, Bool.false_and, Bool.false_eq_true, if_false,
            Except.ok.injEq] at hl
          subst hl
          simp only [Gateway.withViewer, Bool.true_and]
          split
          · obtain ⟨shared, hshared⟩ := hs
            obtain ⟨added, hadded⟩ := addNew_extends own shared
            exact ⟨added, by rw [hshared, ← hadded]; rfl⟩
          · exact ⟨[], by simp⟩

end WorkspaceApi

namespace Router

open Proxy

/-- For a caller of another name the public viewer only adds. A request that is sent on without it
is sent on alike with it. One that is sent on only with it names a workspace to which the caller
has no binding among the spaces whose bindings count and the public viewer has one, and it acts as
the public viewer. The list of workspaces begins with the list without it. -/
theorem viewer_only_adds (g : Gateway) (s : Snapshot) (ns : String)
    (routes : Snapshot.AttachedRoutes) (r : Request) (i : Identity)
    (ha : Credential.authenticate g.readToken r.headers = .ok i)
    (hv : i.username ≠ Identity.publicViewerName) :
    (∀ x, (handle (g.withViewer false) (s.directory ns routes).steady r).sent = some x →
      (handle (g.withViewer true) (s.directory ns routes).steady r).sent = some x) ∧
    (∀ x, (handle (g.withViewer false) (s.directory ns routes).steady r).sent = none →
      (handle (g.withViewer true) (s.directory ns routes).steady r).sent = some x →
      ∃ p n e, RequestPath.parse r.target.path = .ok p ∧ p.workspace = some n ∧
        s.space? n = some e ∧
        (∀ signup user b, s.names? i = some (signup, user) →
          ¬ s.GrantsWithin Snapshot.maxSpaceDepth user e b) ∧
        (∃ b, s.GrantsWithin Snapshot.maxSpaceDepth Identity.publicViewerName e b) ∧
        x.outbound.headers.values Outbound.userField =
          [Octets.ofText Identity.publicViewerName]) ∧
    ∀ ws, WorkspaceApi.listFor (g.withViewer false) (s.directory ns routes).steady r.headers =
        .ok ws →
      ∃ added, WorkspaceApi.listFor (g.withViewer true) (s.directory ns routes).steady r.headers =
        .ok (ws ++ added) := by
  have ha' : Credential.authenticate g.readToken r.stripped.headers = .ok i :=
    (Credential.authenticate_withoutImpersonation g.readToken r.headers).trans ha
  simp only [sent_eq]
  refine ⟨fun x hx => ?_, fun x hnone hx => ?_, fun ws hl => ?_⟩
  · split at hx
    · rename_i hrelays
      rw [if_pos hrelays]
      rcases handle_with s ns routes ha' hv with h | ⟨p, n, -, -, -, h⟩
      · rw [h, hx]
      · simp [h] at hx
    · simp at hx
  · split at hx
    · rename_i hrelays
      rw [if_pos hrelays] at hnone
      rcases handle_with s ns routes ha' hv with h | ⟨p, n, hp, hn, hadded, -⟩
      · rw [h, hnone] at hx
        simp at hx
      · obtain ⟨signup, user, e, b, hviewer, he, hb⟩ := bound_of_listed hadded.holding
        rw [Snapshot.names_of_viewer (by decide), Option.some.injEq, Prod.mk.injEq] at hviewer
        obtain ⟨-, rfl⟩ := hviewer
        exact ⟨p, n, e, hp, hn, he,
          fun signup user b' hnames => unbound_of_unlisted hadded.lacking hnames he b', ⟨b, hb⟩,
          added_sent ha' hp hn hadded hx⟩
    · simp at hx
  · exact WorkspaceApi.listFor_with ⟨_, list_of_snapshot _ _⟩ hl

def communityCatalog : Snapshot :=
  { smithCatalog with
    document := { smithCatalog.document with
      spaces := smithCatalog.document.spaces ++ [⟨"community", "member", none, ["dev"], "someone"⟩]
      bindings := smithCatalog.document.bindings ++
        [⟨"community", Identity.publicViewerName, "viewer"⟩] } }

def communityViews : Views := (communityCatalog.directory "" fun _ => none).steady

def communityRequest : Request :=
  { smithRequest with target := ⟨"/workspaces/community/api/v1/pods", none⟩ }

theorem community_added :
    (∃ x, (handle (smithGateway.withViewer false) communityViews smithRequest).sent = some x ∧
      (handle (smithGateway.withViewer true) communityViews smithRequest).sent = some x) ∧
    (handle (smithGateway.withViewer false) communityViews communityRequest).sent = none ∧
    (∃ x n e, (handle (smithGateway.withViewer true) communityViews communityRequest).sent =
        some x ∧ communityCatalog.space? n = some e ∧
      (∀ signup user b, communityCatalog.names? smith = some (signup, user) →
        ¬ communityCatalog.GrantsWithin Snapshot.maxSpaceDepth user e b) ∧
      (∃ b, communityCatalog.GrantsWithin Snapshot.maxSpaceDepth Identity.publicViewerName e b) ∧
      x.outbound.headers.values Outbound.userField =
        [Octets.ofText Identity.publicViewerName]) ∧
    ∃ ws added,
      WorkspaceApi.listFor (smithGateway.withViewer false) communityViews smithRequest.headers =
        .ok ws ∧
      WorkspaceApi.listFor (smithGateway.withViewer true) communityViews smithRequest.headers =
        .ok (ws ++ added) := by
  have hother : smith.username ≠ Identity.publicViewerName := by decide
  obtain ⟨hkept, -, hlist⟩ := viewer_only_adds smithGateway communityCatalog "" (fun _ => none)
    smithRequest smith smith_authenticated hother
  obtain ⟨-, hadded, -⟩ := viewer_only_adds smithGateway communityCatalog "" (fun _ => none)
    communityRequest smith smith_authenticated hother
  have hhome : (handle (smithGateway.withViewer false) communityViews smithRequest).sent.isSome =
      true := by decide +kernel
  have hnone : (handle (smithGateway.withViewer false) communityViews communityRequest).sent.isNone
      = true := by decide +kernel
  have hsome : (handle (smithGateway.withViewer true) communityViews communityRequest).sent.isSome
      = true := by decide +kernel
  have hlisted : (WorkspaceApi.listFor (smithGateway.withViewer false) communityViews
      smithRequest.headers).toOption.isSome = true := by decide +kernel
  obtain ⟨y, hy⟩ := Option.isSome_iff_exists.mp hhome
  obtain ⟨x, hx⟩ := Option.isSome_iff_exists.mp hsome
  obtain ⟨ws, hws⟩ := Option.isSome_iff_exists.mp hlisted
  obtain ⟨-, n, e, -, -, he, hunbound, hbound, huser⟩ :=
    hadded x (Option.isNone_iff_eq_none.mp hnone) hx
  obtain ⟨added, hmore⟩ := hlist ws (ok_of_toOption hws)
  exact ⟨⟨y, hy, hkept y hy⟩, Option.isNone_iff_eq_none.mp hnone,
    ⟨x, n, e, hx, he, hunbound, hbound, huser⟩, ws, added, ok_of_toOption hws, hmore⟩

/-! ### A chain of seventeen spaces -/

def deepName (n : Nat) : String := String.ofList (List.replicate (n + 1) 's')

def deepSpace (n : Nat) : SpaceEntry :=
  ⟨deepName n, "member", if n < 16 then some (deepName (n + 1)) else none, ["dev"], "someone"⟩

def deepCatalog : Snapshot :=
  { smithCatalog with
    document := { smithCatalog.document with
      spaces := (List.range 17).map deepSpace
      bindings := [⟨deepName 0, Identity.publicViewerName, "viewer"⟩,
        ⟨deepName 16, "smith", "admin"⟩] } }

def deepRequest : Request :=
  { smithRequest with target := ⟨"/workspaces/s/api/v1/pods", none⟩ }

theorem deep_inherits {n : Nat} (h : n ≤ 16) :
    deepCatalog.Inherits (deepSpace (16 - n)) (deepSpace 16) := by
  have hparent : ∀ k < 16, (deepSpace k).parentSpace.bind deepCatalog.space? =
      some (deepSpace (k + 1)) := by decide +kernel
  induction n with
  | zero => exact .self _
  | succ n ih =>
    have hk : 16 - (n + 1) + 1 = 16 - n := by omega
    refine .parent (hparent (16 - (n + 1)) (by omega)) ?_
    rw [hk]
    exact ih (by omega)

/-- Only with the public viewer on is the request sent, though smith has a binding to an ancestor
of the workspace: it is the seventeenth space of the chain. -/
theorem deep_binding_passed_over :
    Credential.authenticate smithGateway.readToken deepRequest.headers = .ok smith ∧
    (handle (smithGateway.withViewer false)
      (deepCatalog.directory "" fun _ => none).steady deepRequest).sent.isNone = true ∧
    (handle (smithGateway.withViewer true)
      (deepCatalog.directory "" fun _ => none).steady deepRequest).sent.isSome = true ∧
    RequestPath.parse deepRequest.target.path = .ok ⟨none, some (deepName 0), "/api/v1/pods"⟩ ∧
    deepCatalog.space? (deepName 0) = some (deepSpace 0) ∧
    deepCatalog.names? smith = some ("smith", "smith") ∧
    deepCatalog.Grants "smith" (deepSpace 0) ⟨deepName 16, "smith", "admin"⟩ := by
  refine ⟨smith_authenticated, by decide +kernel, by decide +kernel,
    ok_of_toOption (by decide +kernel), by decide +kernel, by decide +kernel, ?_⟩
  exact ⟨List.mem_cons_of_mem _ List.mem_cons_self, rfl, deepSpace 16,
    deep_inherits (Nat.le_refl 16), rfl⟩

end Router

end WorkspaceGateway
