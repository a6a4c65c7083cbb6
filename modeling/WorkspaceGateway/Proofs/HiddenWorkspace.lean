import WorkspaceGateway.Proofs.CatalogListing
import WorkspaceGateway.Proofs.FaultAnswers
import WorkspaceGateway.Proofs.RoutingStages

/-!
# Hidden workspaces

A caller who cannot reach a workspace is not told whether there is one. On the way of a request
every failure to resolve it ends in the answer that authorization would give, and the workspace
API answers by the name alone. A workspace that can be reached never gets that answer.
-/

set_option autoImplicit false

namespace WorkspaceGateway

open Catalog

/-! ## The way of a request -/

namespace Proxy

variable {g : Gateway} {view : Views} {r : Request} {s : Snapshot} {ns : String}
  {routes : Snapshot.AttachedRoutes} {i caller : Identity} {p : RequestPath} {w : String}
  {ws : List Workspace} {f : Fault}

/-- Whether a caller's list holds a workspace, or the public viewer's where that is on. -/
def Accessible (g : Gateway) (s : Snapshot) (i : Identity) (w : String) : Prop :=
  holds (s.workspaces i (some w)) w = true ∨
    g.publicViewer = true ∧ holds (s.workspaces .publicViewer (some w)) w = true

structure Names (g : Gateway) (d : Directory) (r : Request) (i : Identity) (w : String) : Prop where
  caller : Credential.authenticate g.readToken r.headers = .ok i
  admitted : checkNotBanned d i = .ok ()
  path : ∃ p, RequestPath.parse r.target.path = .ok p ∧ p.workspace = some w

theorem viewer_workspaces (hv : i.isPublicViewer = true) (name : Option String) :
    s.workspaces i name = s.workspaces .publicViewer name := by
  unfold Snapshot.workspaces
  rw [Snapshot.names_of_viewer hv, Snapshot.names_of_viewer (by decide)]

theorem accessible_listed (g : Gateway) (s : Snapshot) (ns : String)
    (routes : Snapshot.AttachedRoutes) (i : Identity) (w : String) :
    ∃ caller ws, accessibleWorkspaces g (s.directory ns routes).steady i (some w) =
        .ok (caller, ws) ∧ (holds ws w = true ↔ Accessible g s i w) := by
  simp only [accessibleWorkspaces, Directory.steady, list_of_snapshot, reachable, Accessible]
  cases ho : holds (s.workspaces i (some w)) w with
  | true => exact ⟨i, _, rfl, by simp [ho]⟩
  | false =>
    cases hg : g.publicViewer with
    | false => exact ⟨i, _, rfl, by simp [ho]⟩
    | true =>
      cases hv : i.isPublicViewer with
      | true =>
        refine ⟨i, _, rfl, ?_⟩
        rw [← viewer_workspaces hv, ho]
        simp
      | false =>
        by_cases hs : holds (s.workspaces .publicViewer (some w)) w = true
        · exact ⟨.publicViewer, s.workspaces .publicViewer (some w), by simp [hs], by simp [hs]⟩
        · exact ⟨i, s.workspaces i (some w), by simp [hs], by simp [ho, hs]⟩

theorem holds_named : holds (s.workspaces i (some w)) w = true ↔
    ∃ signup user e b, s.names? i = some (signup, user) ∧ s.space? w = some e ∧
      s.inheritedBinding? user e = some b := by
  rw [Snapshot.workspaces_named]
  cases hn : s.names? i with
  | none => simp [holds]
  | some su =>
    obtain ⟨signup, user⟩ := su
    cases he : s.space? w with
    | none => simp [holds]
    | some e =>
      have hname : e.name = w := Snapshot.space_name he
      cases hb : s.inheritedBinding? user e with
      | none => simp [holds, hb]
      | some b =>
        constructor
        · intro _
          exact ⟨signup, user, e, b, rfl, rfl, hb⟩
        · intro _
          simp [holds, hb, Snapshot.workspaceOf, hname]

theorem bound_of_listed (h : holds (s.workspaces i (some w)) w = true) :
    ∃ signup user e b, s.names? i = some (signup, user) ∧ s.space? w = some e ∧
      s.GrantsWithin Snapshot.maxSpaceDepth user e b := by
  obtain ⟨signup, user, e, b, hn, he, hb⟩ := holds_named.mp h
  exact ⟨signup, user, e, b, hn, he, Snapshot.binding_along_within hb⟩

theorem space_of_holds (h : holds (s.workspaces i (some w)) w = true) :
    ∃ e, s.space? w = some e := by
  obtain ⟨-, -, e, -, -, he, -⟩ := holds_named.mp h
  exact ⟨e, he⟩

theorem select_unlisted (h : holds ws w = false) :
    Workspace.select (some w) ws = .error .notAvailable := by
  have hf : (ws.find? fun v => v.name = w) = none := by
    rw [List.find?_eq_none]
    intro v hv
    have hne := List.any_eq_false.mp h v hv
    simpa using hne
  simp [Workspace.select, hf]

theorem select_listed (h : holds ws w = true) : ∃ v, Workspace.select (some w) ws = .ok v := by
  obtain ⟨v, hv, hw⟩ := List.any_eq_true.mp h
  cases hf : ws.find? fun u => u.name = w with
  | none => exact absurd hw (List.find?_eq_none.mp hf v hv)
  | some u => exact ⟨u, by simp [Workspace.select, hf]⟩

/-- Whatever resolving a workspace outside the list comes to, the answer is that of
authorization. -/
theorem unlisted_hidden (hp : p.workspace = some w)
    (hl : accessibleWorkspaces g view i p.workspace = .ok (caller, ws)) (hn : holds ws w = false) :
    (routeTarget g view i p).outcome = .error (.forbidden spaceNotAvailable) := by
  rw [route_target_outcome hl]
  cases hr : Access.resolve view caller.userId caller.username p.workspace p.plugin
      g.publicViewer with
  | error e => simp [accessFault, reachable, hp, hn]
  | ok access =>
    rw [hp, Workspace.authorize, select_unlisted hn]
    rfl

theorem listed_refused {space : Workspace} (hp : p.workspace = some w)
    (hl : accessibleWorkspaces g view i p.workspace = .ok (caller, ws)) (hh : holds ws w = true)
    (hw : (view .workspace).workspace w = .ok space)
    (h : (routeTarget g view i p).outcome = .error f) :
    f.kind = .internal ∨ ∃ n v, f = (AuthorizationError.namespaceForbidden n v).fault := by
  rw [route_target_outcome hl, hp] at h
  cases hr : Access.resolve view caller.userId caller.username (some w) p.plugin
      g.publicViewer with
  | error e =>
    have hne : e ≠ .spaceNotAvailable := by
      rintro rfl
      obtain ⟨cause, hc⟩ := Access.named_not_available hr
      simp [hw] at hc
    left
    simp only [hr, accessFault, hne, reachable, hh, decide_false, Bool.not_true, Bool.or_self,
      Bool.false_eq_true, if_false, Except.error.injEq] at h
    rw [← h]
    rfl
  | ok access =>
    right
    obtain ⟨v, hv⟩ := select_listed hh
    simp only [hr, Workspace.authorize, hv] at h
    cases hn : namespaceOf p.rest with
    | none => simp [hn] at h
    | some n =>
      by_cases hc : v.namespaces.contains n = true
      · simp only [hn, hc, if_true, reduceCtorEq] at h
      · simp only [hn, hc] at h
        exact ⟨n, v.name, (Except.error.inj h).symm⟩

/-- A proxied request gets the answer of a workspace that is not available, and nothing is sent,
exactly when the workspace it names is not accessible. -/
theorem hidden_iff_inaccessible (hn : Names g (s.directory ns routes) r i w) :
    ((handle g (s.directory ns routes).steady r).response =
        .ofFault (.forbidden spaceNotAvailable) ∧
      (handle g (s.directory ns routes).steady r).sent = none) ↔ ¬ Accessible g s i w := by
  obtain ⟨p, hp, hw⟩ := hn.path
  obtain ⟨caller, ws, hl, hacc⟩ := accessible_listed g s ns routes i w
  rw [← hw] at hl
  have hroute : route g (s.directory ns routes).steady r =
      routeTarget g (s.directory ns routes).steady i p := route_of_caller hn.caller hn.admitted hp
  rw [← hacc]
  constructor
  · rintro ⟨hresp, hsent⟩ hh
    -- A listed workspace is sent on, or refused in words that are not those of a hidden one.
    cases ho : (route g (s.directory ns routes).steady r).outcome with
    | error f =>
      rw [(handle_of_fault ho).1] at hresp
      obtain ⟨e, he⟩ : ∃ e, s.space? w = some e := by
        rcases hacc.mp hh with hown | ⟨-, hshared⟩
        · exact space_of_holds hown
        · exact space_of_holds hshared
      have hspace : ((s.directory ns routes).steady .workspace).workspace w =
          .ok (Snapshot.workspaceOf none "" e) := by
        simp [Directory.steady, Snapshot.directory, Snapshot.workspace, he]
      rcases listed_refused hw hl hh hspace (hroute ▸ ho) with hk | ⟨n, v, rfl⟩
      · exact Response.internal_not_hidden hk hresp
      · exact Response.namespace_not_hidden n v hresp
    | ok ap =>
      obtain ⟨access, q⟩ := ap
      cases hd : Outbound.direct access r q.rest q.plugin.isSome with
      | error f =>
        rw [(handle_of_undirected ho hd).1] at hresp
        exact Response.internal_not_hidden (Outbound.direct_error hd) hresp
      | ok out => simp [handle_of_routed ho hd] at hsent
  · intro hh
    have hout := unlisted_hidden hw hl (by simpa using hh)
    exact handle_of_fault (hroute ▸ hout)

end Proxy

/-! ## Through the router -/

theorem RequestPath.named_lead {path : String} {p : RequestPath} (h : parse path = .ok p)
    (hw : p.workspace.isSome = true) :
    path.toList.take 3 = "/pl".toList ∨ path.toList.take 3 = "/wo".toList := by
  unfold parse ofChars at h
  cases hp : Text.stripLead? pluginLead path.toList with
  | some t =>
    left
    rw [Text.stripLead?_eq_some_iff.mp hp]
    rfl
  | none =>
    right
    simp only [hp, takeWorkspace] at h
    cases hs : Text.stripLead? workspaceLead path.toList with
    | none =>
      simp only [hs, Except.ok.injEq] at h
      rw [← h] at hw
      simp at hw
    | some t =>
      rw [Text.stripLead?_eq_some_iff.mp hs]
      rfl

theorem Endpoint.proxied_of_named {path : String} {p : RequestPath}
    (h : RequestPath.parse path = .ok p) (hw : p.workspace.isSome = true) :
    ofPath path = .proxied := by
  have hlead := RequestPath.named_lead h hw
  have hhealth : path ≠ healthPath := by
    rintro rfl
    exact absurd hlead (by decide +kernel)
  have hlist : path ≠ WorkspaceApi.path := by
    rintro rfl
    exact absurd hlead (by decide +kernel)
  have hone : Text.stripLead? (WorkspaceApi.path.toList ++ ['/']) path.toList = none := by
    cases hs : Text.stripLead? (WorkspaceApi.path.toList ++ ['/']) path.toList with
    | none => rfl
    | some t =>
      have ha : path.toList.take 3 = "/ap".toList := by
        rw [Text.stripLead?_eq_some_iff.mp hs, List.take_append_of_le_length (by decide +kernel)]
        decide +kernel
      rw [ha] at hlead
      exact absurd hlead (by decide)
  simp [ofPath, hhealth, hlist, hone]

theorem Headers.entries_withoutImpersonation (h : Headers) {n : String}
    (hn : isImpersonation n = false) : h.withoutImpersonation.entries n = h.entries n := by
  rw [entries, entries, readableValues, readableValues, values_withoutImpersonation, hn]
  rfl

theorem Credential.token_withoutImpersonation (h : Headers) :
    token h.withoutImpersonation = token h := by
  have hconnection := h.entries_withoutImpersonation (n := "connection") (by decide)
  have hupgrade := h.entries_withoutImpersonation (n := "upgrade") (by decide)
  have hprotocols := h.entries_withoutImpersonation (n := subprotocolField) (by decide)
  have hbearer : h.withoutImpersonation.values "authorization" = h.values "authorization" :=
    Headers.values_withoutImpersonation h "authorization"
  rw [token, token, Headers.isWebSocketRequest, Headers.isWebSocketRequest, Headers.listsUpgrade,
    Headers.listsUpgrade, Headers.hasToken, Headers.hasToken, Headers.hasToken, Headers.hasToken,
    hconnection, hupgrade, subprotocolToken, subprotocolToken, encodedTokens, encodedTokens,
    hprotocols, bearerToken, bearerToken, hbearer]

theorem Credential.authenticate_withoutImpersonation (readToken : String → Option Claims)
    (h : Headers) : authenticate readToken h.withoutImpersonation = authenticate readToken h := by
  rw [authenticate, authenticate, token_withoutImpersonation]

namespace Router

open Proxy

variable {g : Gateway} {view : Views} {r : Request} {s : Snapshot} {ns : String}
  {routes : Snapshot.AttachedRoutes} {i : Identity} {w : String}

theorem names_stripped {d : Directory} (hn : Names g d r i w) : Names g d r.stripped i w := by
  refine ⟨?_, hn.admitted, hn.path⟩
  rw [← hn.caller]
  exact Credential.authenticate_withoutImpersonation g.readToken r.headers

theorem hidden_of_inaccessible (hn : Names g (s.directory ns routes) r i w)
    (hi : ¬ Accessible g s i w) :
    (handle g (s.directory ns routes).steady r).response =
        (if Cors.isPreflight r.method r.headers then preflight r
          else .ofFault (.forbidden spaceNotAvailable)).forMethod r.method ∧
      (handle g (s.directory ns routes).steady r).sent = none := by
  obtain ⟨p, hp, hw⟩ := hn.path
  have he : Endpoint.ofPath r.target.path = .proxied :=
    Endpoint.proxied_of_named hp (by simp [hw])
  have hm : refuses r = false := by
    rw [refuses, he]
    rfl
  obtain ⟨hresp, hsent⟩ := (hidden_iff_inaccessible (names_stripped hn)).mpr hi
  cases hpre : Cors.isPreflight r.method r.headers with
  | true =>
    rw [handle_of_preflight hpre, hm]
    exact ⟨rfl, rfl⟩
  | false =>
    rw [handle_of_dispatched hpre hm, he]
    simp only [dispatch, hresp, hsent]
    exact ⟨rfl, trivial⟩

end Router

/-! ## In the workspace API -/

namespace WorkspaceApi

open Proxy

variable {g : Gateway} {r : Request} {s : Snapshot} {ns : String}
  {routes : Snapshot.AttachedRoutes} {i : Identity} {name : String}

def Bound (s : Snapshot) (i : Identity) (name : String) : Prop :=
  ∃ signup user e b, s.names? i = some (signup, user) ∧ s.space? name = some e ∧ s.Grants user e b

theorem bound_of_holds (h : holds (s.workspaces i (some name)) name = true) : Bound s i name := by
  obtain ⟨signup, user, e, b, hn, he, hb⟩ := bound_of_listed h
  exact ⟨signup, user, e, b, hn, he, hb.grants⟩

theorem provisioned_of_snapshot (s : Snapshot) (ns : String) (routes : Snapshot.AttachedRoutes)
    (i : Identity) : ∃ known,
      Access.isProvisioned (s.directory ns routes) i.userId i.username = .ok known ∧
        provisioned (s.directory ns routes).steady i = .ok known :=
  ⟨_, rfl, rfl⟩

theorem not_found_iff (hc : caller g (s.directory ns routes).steady r.headers = .ok i) :
    (handleGet g (s.directory ns routes).steady r name).response = .ofFault (notFound name) ↔
      Access.isProvisioned (s.directory ns routes) i.userId i.username = .ok false ∨
        holds (s.workspaces i (some name)) name = false := by
  obtain ⟨known, hknown, hp⟩ := provisioned_of_snapshot s ns routes i
  simp only [handleGet, exchange, getFor, hc, hp, hknown]
  cases known with
  | false => simp [Except.map]
  | true =>
    simp only [Directory.steady, list_of_snapshot, Except.ok.injEq, Bool.true_eq_false, false_or]
    cases hf : (s.workspaces i (some name)).find? fun w => w.name = name with
    | none =>
      have hh : holds (s.workspaces i (some name)) name = false := by
        have hall := List.find?_eq_none.mp hf
        exact List.any_eq_false.mpr hall
      simp [Except.map, hh]
    | some w =>
      have hh : holds (s.workspaces i (some name)) name = true :=
        by
        refine List.any_eq_true.mpr ⟨w, List.mem_of_find?_eq_some hf, ?_⟩
        simpa using List.find?_some hf
      simp only [Except.map, hh, Bool.true_eq_false, iff_false]
      intro h
      have hs := congrArg Response.status h
      exact absurd hs (show (200 : Nat) ≠ 404 by decide)

theorem not_found_of_unbound (hc : caller g (s.directory ns routes).steady r.headers = .ok i)
    (h : Access.isProvisioned (s.directory ns routes) i.userId i.username = .ok false ∨
      ¬ Bound s i name) :
    (handleGet g (s.directory ns routes).steady r name).response = .ofFault (notFound name) := by
  rw [not_found_iff hc]
  rcases h with hp | hb
  · exact .inl hp
  · right
    by_cases hh : holds (s.workspaces i (some name)) name = true
    · exact absurd (bound_of_holds hh) hb
    · simpa using hh

end WorkspaceApi

/-! ## Hidden -/

open Proxy

/-- A workspace that is not accessible cannot be told from one that does not exist. The proxy
answers for it alone with one and the same fault; whatever two catalogs hold of it, the answers
are equal; and the workspace API answers by its name. -/
theorem inaccessible_workspace_hidden (g : Gateway) :
    (∀ (s : Snapshot) ns routes r i w, Names g (s.directory ns routes) r i w →
      ((Proxy.handle g (s.directory ns routes).steady r).response =
          .ofFault (.forbidden spaceNotAvailable) ∧
        (Proxy.handle g (s.directory ns routes).steady r).sent = none ↔ ¬ Accessible g s i w)) ∧
    (∀ (s s' : Snapshot) ns ns' routes routes' r i w, Names g (s.directory ns routes) r i w →
      Names g (s'.directory ns' routes') r i w → ¬ Accessible g s i w → ¬ Accessible g s' i w →
      (Router.handle g (s.directory ns routes).steady r).response =
          (Router.handle g (s'.directory ns' routes').steady r).response ∧
        (Router.handle g (s.directory ns routes).steady r).sent = none ∧
        (Router.handle g (s'.directory ns' routes').steady r).sent = none) ∧
    ∀ (s : Snapshot) ns routes r i name,
      WorkspaceApi.caller g (s.directory ns routes).steady r.headers = .ok i →
      ((WorkspaceApi.handleGet g (s.directory ns routes).steady r name).response =
          .ofFault (WorkspaceApi.notFound name) ↔
        Access.isProvisioned (s.directory ns routes) i.userId i.username = .ok false ∨
          holds (s.workspaces i (some name)) name = false) ∧
      (Access.isProvisioned (s.directory ns routes) i.userId i.username = .ok false ∨
          ¬ WorkspaceApi.Bound s i name →
        (WorkspaceApi.handleGet g (s.directory ns routes).steady r name).response =
          .ofFault (WorkspaceApi.notFound name)) := by
  refine ⟨fun s ns routes r i w hn => hidden_iff_inaccessible hn, ?_, ?_⟩
  · intro s s' ns ns' routes routes' r i w hn hn' hi hi'
    obtain ⟨hresp, hsent⟩ := Router.hidden_of_inaccessible hn hi
    obtain ⟨hresp', hsent'⟩ := Router.hidden_of_inaccessible hn' hi'
    exact ⟨hresp.trans hresp'.symm, hsent, hsent'⟩
  · intro s ns routes r i name hc
    exact ⟨WorkspaceApi.not_found_iff hc, WorkspaceApi.not_found_of_unbound hc⟩

def otherRequest : Request :=
  { smithRequest with target := ⟨"/workspaces/other/api/v1/pods", none⟩ }

def otherCatalog : Snapshot :=
  { smithCatalog with
    document := { smithCatalog.document with
      spaces := smithCatalog.document.spaces ++ [⟨"other", "member", none, ["dev"], "someone"⟩] } }

theorem other_named (s : Snapshot) (routes : Snapshot.AttachedRoutes) :
    Names smithGateway (s.directory "" routes) otherRequest smith "other" :=
  ⟨smith_authenticated, rfl, ⟨⟨none, some "other", "/api/v1/pods"⟩,
    ok_of_toOption (by decide +kernel), rfl⟩⟩

theorem other_workspace_hidden :
    (Proxy.handle smithGateway (otherCatalog.directory "" fun _ => none).steady
      otherRequest).response = .ofFault (.forbidden spaceNotAvailable) ∧
    (Router.handle smithGateway (otherCatalog.directory "" fun _ => none).steady
        otherRequest).response = (Router.handle smithGateway smithViews otherRequest).response ∧
    (WorkspaceApi.handleGet smithGateway (otherCatalog.directory "" fun _ => none).steady
      smithRequest "other").response = .ofFault (WorkspaceApi.notFound "other") := by
  obtain ⟨hproxy, htwo, hget⟩ := inaccessible_workspace_hidden smithGateway
  have hother : ¬ Accessible smithGateway otherCatalog smith "other" := by
    unfold Accessible
    decide +kernel
  have hsmith : ¬ Accessible smithGateway smithCatalog smith "other" := by
    unfold Accessible
    decide +kernel
  have hcaller : WorkspaceApi.caller smithGateway (otherCatalog.directory "" fun _ => none).steady
      smithRequest.headers = .ok smith := ok_of_toOption (by decide +kernel)
  refine ⟨?_, ?_, ?_⟩
  · exact ((hproxy otherCatalog "" (fun _ => none) otherRequest smith "other"
      (other_named _ _)).mpr hother).1
  · exact (htwo otherCatalog smithCatalog "" "" (fun _ => none) (fun _ => none) otherRequest smith
      "other" (other_named _ _) (other_named _ _) hother hsmith).1
  · exact (hget otherCatalog "" (fun _ => none) smithRequest smith "other" hcaller).1.mpr
      (.inr (by decide +kernel))

end WorkspaceGateway
