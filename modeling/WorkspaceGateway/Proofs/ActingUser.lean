import WorkspaceGateway.Proofs.CatalogListing
import WorkspaceGateway.Proofs.DirectedFields
import WorkspaceGateway.Proofs.RoutingStages

/-!
# The user a request acts as

Two parts of the gateway name a user for one caller: the list of workspaces is made for one, and
the member cluster is asked to act as one. They are the same user but for a caller who bears the
public viewer's name, whose list is always the public viewer's and who acts as the public viewer
only where that is on and a workspace is named.
-/

set_option autoImplicit false

namespace WorkspaceGateway

open Catalog

namespace Proxy

def LetInto (g : Gateway) (view : Views) (i : Identity) (p : RequestPath) (w : Workspace) : Prop :=
  ∃ caller ws, accessibleWorkspaces g view i p.workspace = .ok (caller, ws) ∧
    Workspace.authorize p.workspace (namespaceOf p.rest) ws = .ok w

/-- Whether the list is made for the public viewer and the signup's user acts. -/
def actsAsAnother (viewerEnabled : Bool) (i : Identity) (name : Option String) : Bool :=
  i.isPublicViewer && !(viewerEnabled && name.isSome)

variable {g : Gateway} {s : Snapshot} {ns : String} {routes : Snapshot.AttachedRoutes}
  {i caller : Identity} {p q : RequestPath} {access : ClusterAccess} {ws : List Workspace}

theorem resolved_user_listed {signup user : String}
    (hr : Access.resolve (s.directory ns routes).steady caller.userId caller.username p.workspace
      p.plugin g.publicViewer = .ok access)
    (hn : s.names? caller = some (signup, user)) :
    actsAsAnother g.publicViewer caller p.workspace = true ∨ access.username = user := by
  rcases Access.resolve_user hr with ⟨-, hv, -, hu⟩ | ⟨hwhen, sg, hs, hu⟩
  · have hviewer : caller.isPublicViewer = true := by simp [Identity.isPublicViewer, hv]
    rw [Snapshot.names_of_viewer hviewer] at hn
    simp only [Option.some.injEq, Prod.mk.injEq] at hn
    exact .inr (by rw [hu, hv, hn.2])
  · cases hviewer : caller.isPublicViewer with
    | false => exact .inr (hu.trans (Snapshot.provisioned_user hviewer hn hs))
    | true =>
      left
      have hname : caller.username = Identity.publicViewerName := by
        simpa [Identity.isPublicViewer] using hviewer
      rcases hwhen with hf | hne | hw
      · simp [actsAsAnother, hviewer, hf]
      · exact absurd hname hne
      · simp [actsAsAnother, hviewer, hw]

theorem routed_user_granted (h : (routeTarget g (s.directory ns routes).steady i p).outcome =
      .ok (access, q)) (hsame : actsAsAnother g.publicViewer i p.workspace = false) :
    ∃ w e b, LetInto g (s.directory ns routes).steady i p w ∧ s.space? w.name = some e ∧
      s.Grants access.username e b := by
  obtain ⟨-, caller, ws, w, hl, hr, hw⟩ := route_target_ok h
  have hmem := Workspace.select_mem (Workspace.authorize_ok_iff.mp hw).1
  have hcaller : w ∈ s.workspaces caller p.workspace ∧
      actsAsAnother g.publicViewer caller p.workspace = false := by
    rcases accessible_ok hl with ⟨rfl, ho⟩ | ⟨rfl, hg, -, ⟨n, hname⟩, ho⟩
    · exact ⟨Except.ok.inj ho ▸ hmem, hsame⟩
    · exact ⟨Except.ok.inj ho ▸ hmem, by simp [actsAsAnother, hg, hname]⟩
  obtain ⟨hlisted, hcsame⟩ := hcaller
  obtain ⟨signup, user, e, b, hn, he, hb, -⟩ := Snapshot.mem_workspaces hlisted
  rcases resolved_user_listed hr hn with hother | hu
  · rw [hcsame] at hother
    exact absurd hother (by decide)
  · exact ⟨w, e, b, ⟨caller, ws, hl, hw⟩, he, hu ▸ hb⟩

/-! ## A catalog in which the two users differ -/

/-- One workspace bound to the public viewer, whose signup is provisioned under another name. -/
def viewerCatalog (p : RequestPath) : Snapshot :=
  let name := p.workspace.getD "home"
  ⟨⟨[⟨"member", "https://member", "", some "token", none, false⟩],
    [⟨Identity.publicViewerName, "", "someone", "member", none⟩],
    [⟨name, "member", none, (namespaceOf p.rest).toList, Identity.publicViewerName⟩],
    [⟨name, Identity.publicViewerName, ""⟩],
    p.plugin.toList.map fun n => ⟨n, "", some "route", some "route"⟩, []⟩,
    [("member", "token")]⟩

def viewerRoutes : Snapshot.AttachedRoutes := fun _ => some memberRoutes

def viewerDirectory (p : RequestPath) : Directory := (viewerCatalog p).directory "" viewerRoutes

def viewerMember (p : RequestPath) : MemberCluster :=
  ⟨"member", "https://member", "", (viewerCatalog p).tokenOf "member", viewerRoutes "member"⟩

theorem viewer_signup (p : RequestPath) {i : Identity} (hv : i.isPublicViewer = true) :
    Access.provisionedSignup (viewerDirectory p) i.userId i.username =
      .ok ⟨Identity.publicViewerName, "someone", "member", "https://member"⟩ := by
  have hname : i.username = Identity.publicViewerName := by
    simpa [Identity.isPublicViewer] using hv
  refine Snapshot.provisioned_iff.mpr ⟨?_, by decide⟩
  have hsignup : (viewerCatalog p).signup? i.userId i.username =
      some ⟨Identity.publicViewerName, "", "someone", "member", none⟩ := by
    unfold Snapshot.signup?
    rw [hname]
    by_cases hid : i.userId = ""
    · simp [viewerCatalog, hid, Identity.publicViewerName]
    · have hne : ¬ "" = i.userId := fun h => hid h.symm
      simp [viewerCatalog, hne, Identity.publicViewerName]
  rw [Snapshot.signup, hsignup]
  simp [Snapshot.member?, viewerCatalog]

theorem viewer_url (p : RequestPath) :
    Access.memberUrl (viewerDirectory p) (viewerMember p) p.plugin = .ok memberUrl := by
  refine memberUrl_resolved rfl rfl fun n hp => ⟨⟨"route", "route"⟩, ?_⟩
  simp [viewerDirectory, Snapshot.directory, Snapshot.plugin, viewerCatalog, hp,
    Snapshot.routeRef?]

theorem viewer_resolved (p : RequestPath) {i : Identity} {viewerEnabled : Bool}
    (hv : i.isPublicViewer = true)
    (hother : actsAsAnother viewerEnabled i p.workspace = true) :
    Access.resolve (viewerDirectory p).steady i.userId i.username p.workspace p.plugin
      viewerEnabled = .ok ⟨memberUrl, (viewerCatalog p).tokenOf "member", "someone"⟩ := by
  have hto : Access.toMember (viewerDirectory p) (viewerMember p) "someone" p.plugin =
      .ok ⟨memberUrl, (viewerCatalog p).tokenOf "member", "someone"⟩ := by
    rw [Access.toMember, viewer_url]
    rfl
  have hmembers : (viewerDirectory p).members = [viewerMember p] := rfl
  cases hw : p.workspace with
  | none =>
    simp only [Access.resolve, Access.home, Directory.steady, viewer_signup p hv,
      Access.registeredMembers, hmembers]
    simpa [viewerMember] using hto
  | some n =>
    have hflag : viewerEnabled = false := by
      simpa [actsAsAnother, hv, hw] using hother
    have hspace : (viewerDirectory p).workspace n =
        .ok ⟨n, .other, (namespaceOf p.rest).toList, Identity.publicViewerName, "", "member"⟩ := by
      simp [viewerDirectory, Snapshot.directory, Snapshot.workspace, Snapshot.space?,
        viewerCatalog, hw, Snapshot.workspaceOf]
    simp only [Access.resolve, Access.named, Access.impersonated, hflag, Bool.false_and,
      Bool.false_eq_true, if_false, Directory.steady, viewer_signup p hv, hspace,
      Access.registeredMembers, hmembers, Except.map]
    simpa [viewerMember] using hto

def viewerWorkspace (p : RequestPath) : Workspace :=
  ⟨p.workspace.getD "home", .home, (namespaceOf p.rest).toList, Identity.publicViewerName, "",
    "member"⟩

theorem viewer_listed (p : RequestPath) {i : Identity} (hv : i.isPublicViewer = true) :
    (viewerCatalog p).workspaces i p.workspace = [viewerWorkspace p] := by
  unfold Snapshot.workspaces
  rw [Snapshot.names_of_viewer hv]
  cases hw : p.workspace with
  | none =>
    simp [viewerCatalog, hw, Snapshot.firstBindings, Snapshot.space?, Snapshot.workspaceOf,
      viewerWorkspace]
  | some n =>
    simp [viewerCatalog, hw, Snapshot.space?, Snapshot.inheritedBinding?, Snapshot.maxSpaceDepth,
      Snapshot.bindingAlong, Snapshot.binding?, Snapshot.workspaceOf, viewerWorkspace]

theorem viewer_routed {g : Gateway} (p : RequestPath) {i : Identity}
    (hv : i.isPublicViewer = true)
    (hother : actsAsAnother g.publicViewer i p.workspace = true) :
    (routeTarget g (viewerDirectory p).steady i p).outcome =
      .ok (⟨memberUrl, (viewerCatalog p).tokenOf "member", "someone"⟩, p) := by
  have hlist : accessibleWorkspaces g (viewerDirectory p).steady i p.workspace =
      .ok (i, [viewerWorkspace p]) := by
    have hl : listWorkspaces (viewerDirectory p) i p.workspace = .ok [viewerWorkspace p] := by
      rw [list_ok_iff, ← viewer_listed p hv]
      rfl
    simp [accessibleWorkspaces, Directory.steady, hl, hv]
  have hauth : Workspace.authorize p.workspace (namespaceOf p.rest) [viewerWorkspace p] =
      .ok (viewerWorkspace p) := Workspace.authorize_single rfl rfl rfl
  rw [route_target_outcome hlist, viewer_resolved p hv hother]
  simp only [hauth]

theorem viewer_sent {g : Gateway} {r : Request} {i : Identity} {p : RequestPath}
    (ha : Credential.authenticate g.readToken r.headers = .ok i)
    (hp : RequestPath.parse r.target.path = .ok p)
    (hv : i.isPublicViewer = true)
    (hother : actsAsAnother g.publicViewer i p.workspace = true) :
    ∃ x, (handle g (viewerDirectory p).steady r).sent = some x ∧
      x.outbound.headers.values Outbound.userField = [Octets.ofText "someone"] := by
  have hnot : checkNotBanned ((viewerDirectory p).steady .banned) i = .ok () :=
    admitted_of_no_ban (fun _ => rfl) i
  have htoken : (viewerCatalog p).tokenOf "member" = "token" := by
    simp [Snapshot.tokenOf, viewerCatalog]
  have hroute := (congrArg Routing.outcome (route_of_caller ha hnot hp)).trans
    (viewer_routed p hv hother)
  rw [htoken] at hroute
  obtain ⟨out, hout⟩ := Outbound.direct_of_values ⟨memberUrl, "token", "someone"⟩
    (by decide +kernel) (by decide +kernel) (by decide +kernel) r p.rest p.plugin.isSome
  exact ⟨_, handle_of_routed hroute hout, Outbound.direct_user hout⟩

theorem viewer_grants_no_other {p : RequestPath} {e : SpaceEntry} {b : BindingEntry}
    (h : (viewerCatalog p).Grants "someone" e b) : False := by
  have hb : b = ⟨p.workspace.getD "home", Identity.publicViewerName, ""⟩ := by
    simpa [viewerCatalog] using h.listed
  have hu := h.user_eq
  rw [hb] at hu
  exact absurd hu (show Identity.publicViewerName ≠ "someone" by decide)

/-! ## The two users -/

/-- In every catalog the user a request acts as has the binding that let it in, exactly when the
caller does not bear the public viewer's name or the public viewer is on and a workspace is
named. -/
theorem acting_user_granted_iff (g : Gateway) (r : Request) (i : Identity) (p : RequestPath)
    (ha : Credential.authenticate g.readToken r.headers = .ok i)
    (hp : RequestPath.parse r.target.path = .ok p) :
    (∀ (s : Snapshot) (ns : String) (routes : Snapshot.AttachedRoutes) (x : Sent) (u : String),
      (handle g (s.directory ns routes).steady r).sent = some x →
      x.outbound.headers.values Outbound.userField = [Octets.ofText u] →
      ∃ w e b, LetInto g (s.directory ns routes).steady i p w ∧ s.space? w.name = some e ∧
        s.Grants u e b) ↔
    (i.username ≠ Identity.publicViewerName ∨
      g.publicViewer = true ∧ p.workspace.isSome = true) := by
  have hcond : (i.username ≠ Identity.publicViewerName ∨
      g.publicViewer = true ∧ p.workspace.isSome = true) ↔
      actsAsAnother g.publicViewer i p.workspace = false := by
    by_cases hv : i.username = Identity.publicViewerName <;>
      simp [actsAsAnother, Identity.isPublicViewer, hv]
  rw [hcond]
  constructor
  · intro h
    cases hother : actsAsAnother g.publicViewer i p.workspace with
    | false => rfl
    | true =>
      have hv : i.isPublicViewer = true := by
        simp only [actsAsAnother, Bool.and_eq_true] at hother
        exact hother.1
      -- In the catalog made for this path the signup's user acts and has no binding.
      obtain ⟨x, hx, hu⟩ := viewer_sent ha hp hv hother
      obtain ⟨w, e, b, -, -, hb⟩ := h _ "" viewerRoutes x "someone" hx hu
      exact (viewer_grants_no_other hb).elim
  · intro hsame s ns routes x u hx hu
    obtain ⟨access, q, hroute, hdirect, -, -⟩ := handle_sent hx
    obtain ⟨i', p', ha', -, hp', ht⟩ := route_ok hroute
    have hi : i' = i := Except.ok.inj (ha'.symm.trans ha)
    have hpp : p' = p := Except.ok.inj (hp'.symm.trans hp)
    rw [hi, hpp] at ht
    have huser : access.username = u := by
      rw [Outbound.direct_user hdirect] at hu
      exact Octets.ofText_injective (List.cons.inj hu).1
    obtain ⟨w, e, b, hw, he, hb⟩ := routed_user_granted ht hsame
    exact ⟨w, e, b, hw, he, huser ▸ hb⟩

theorem signup_user_granted :
    Credential.authenticate smithGateway.readToken smithRequest.headers = .ok smith ∧
    RequestPath.parse smithRequest.target.path = .ok ⟨none, none, "/api/v1/pods"⟩ ∧
    ∀ (s : Snapshot) (ns : String) (routes : Snapshot.AttachedRoutes) (x : Sent) (u : String),
      (handle smithGateway (s.directory ns routes).steady smithRequest).sent = some x →
      x.outbound.headers.values Outbound.userField = [Octets.ofText u] →
      ∃ w e b, LetInto smithGateway (s.directory ns routes).steady smith
        ⟨none, none, "/api/v1/pods"⟩ w ∧ s.space? w.name = some e ∧ s.Grants u e b :=
  ⟨smith_authenticated, smith_path,
    (acting_user_granted_iff smithGateway smithRequest smith ⟨none, none, "/api/v1/pods"⟩
      smith_authenticated smith_path).mpr (.inl (by decide))⟩

def viewerGateway : Gateway :=
  ⟨false, fun t => if t = "token" then some ⟨"", Identity.publicViewerName, none⟩ else none,
    fun _ => .error (.proxy "no member")⟩

def viewerRequest : Request :=
  ⟨"GET", ⟨"/workspaces/community/api", none⟩,
    ⟨[("authorization", Octets.ofText "Bearer token")]⟩, []⟩

/-- With the public viewer off, the public viewer's binding lets a caller of that name in, and
the request acts as a user without any binding. -/
theorem unbound_user_acts : ∃ x, (handle viewerGateway
      (viewerDirectory ⟨none, some "community", "/api"⟩).steady viewerRequest).sent = some x ∧
    x.outbound.headers.values Outbound.userField = [Octets.ofText "someone"] ∧
    ∀ e b, ¬ (viewerCatalog ⟨none, some "community", "/api"⟩).Grants "someone" e b := by
  obtain ⟨x, hx, hu⟩ := viewer_sent (g := viewerGateway) (r := viewerRequest)
    (i := Identity.publicViewer) (p := ⟨none, some "community", "/api"⟩)
    (ok_of_toOption (by decide +kernel)) (ok_of_toOption (by decide +kernel)) (by decide)
    (by decide)
  exact ⟨x, hx, hu, fun e b hb => viewer_grants_no_other hb⟩

end Proxy

end WorkspaceGateway
