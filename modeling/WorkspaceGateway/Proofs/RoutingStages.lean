import WorkspaceGateway.Catalog.Snapshot
import WorkspaceGateway.Proofs.ResolvedAccess
import WorkspaceGateway.Router

/-!
# Stages of a request

A request that is sent on has passed every stage, and what each stage needed can be read off.
These lemmas take the pipeline apart once; later proofs cite a stage and do not open it.
-/

set_option autoImplicit false

namespace WorkspaceGateway

theorem ok_of_toOption {ε α : Type} {x : Except ε α} {a : α} (h : x.toOption = some a) :
    x = .ok a := by
  cases x with
  | error e => simp [Except.toOption] at h
  | ok b => simpa [Except.toOption] using h

namespace Credential

variable {readToken : String → Option Claims} {h : Headers} {i : Identity}

theorem authenticate_ok_iff : authenticate readToken h = .ok i ↔
    ∃ t c, token h = .ok t ∧ readToken t = some c ∧ i = .ofClaims c := by
  unfold authenticate
  cases ht : token h with
  | error f => simp
  | ok t =>
    cases hc : readToken t with
    | none => simp [hc]
    | some c => simp [hc, eq_comm]

end Credential

namespace Proxy

variable {g : Gateway} {view : Views} {r : Request} {i caller : Identity} {p q : RequestPath}
  {access : ClusterAccess} {ws : List Workspace} {name : Option String}

theorem list_ok_iff (d : Directory) (i : Identity) (name : Option String) :
    listWorkspaces d i name = .ok ws ↔ d.workspaces i name = .ok ws := by
  unfold listWorkspaces
  cases d.workspaces i name <;> simp [mapError_ok, mapError_error]

theorem list_of_snapshot {s : Catalog.Snapshot} {ns : String}
    {routes : Catalog.Snapshot.AttachedRoutes} (i : Identity) (name : Option String) :
    listWorkspaces (s.directory ns routes) i name = .ok (s.workspaces i name) :=
  (list_ok_iff _ _ _).mpr rfl

theorem checkNotBanned_ok_iff {d : Directory} : checkNotBanned d i = .ok () ↔
    ∀ email, i.email = some email → email = "" ∨ d.isBanned email = .ok false := by
  unfold checkNotBanned
  cases i.email with
  | none => simp
  | some email =>
    by_cases he : email = ""
    · simp [he]
    · cases hb : d.isBanned email with
      | error cause => simp [he, hb]
      | ok banned => cases banned <;> simp [he, hb]

theorem admitted_of_no_ban {d : Directory} (h : ∀ email, d.isBanned email = .ok false)
    (i : Identity) : checkNotBanned d i = .ok () :=
  checkNotBanned_ok_iff.mpr fun email _ => .inr (h email)

theorem route_of_caller (ha : Credential.authenticate g.readToken r.headers = .ok i)
    (hb : checkNotBanned (view .banned) i = .ok ())
    (hp : RequestPath.parse r.target.path = .ok p) :
    route g view r = routeTarget g view i p := by
  simp [route, ha, hb, hp]

theorem route_ok (h : (route g view r).outcome = .ok (access, p)) :
    ∃ i q, Credential.authenticate g.readToken r.headers = .ok i ∧
      checkNotBanned (view .banned) i = .ok () ∧
      RequestPath.parse r.target.path = .ok q ∧
      (routeTarget g view i q).outcome = .ok (access, p) := by
  cases ha : Credential.authenticate g.readToken r.headers with
  | error f => simp [route, ha] at h
  | ok i =>
    cases hb : checkNotBanned (view .banned) i with
    | error f => simp [route, ha, hb] at h
    | ok _ =>
      cases hp : RequestPath.parse r.target.path with
      | error e => simp [route, ha, hb, hp] at h
      | ok q =>
        rw [route_of_caller ha hb hp] at h
        exact ⟨i, q, rfl, hb, rfl, h⟩

theorem route_target_outcome
    (hl : accessibleWorkspaces g view i p.workspace = .ok (caller, ws)) :
    (routeTarget g view i p).outcome =
      match Access.resolve view caller.userId caller.username p.workspace p.plugin
        g.publicViewer with
      | .error e => .error (accessFault (reachable ws p.workspace) e)
      | .ok access =>
        match Workspace.authorize p.workspace (namespaceOf p.rest) ws with
        | .error e => .error e.fault
        | .ok _ => .ok (access, p) := by
  unfold routeTarget
  simp only [hl]
  cases Access.resolve view caller.userId caller.username p.workspace p.plugin g.publicViewer with
  | error e => rfl
  | ok access =>
    cases Workspace.authorize p.workspace (namespaceOf p.rest) ws with
    | error e => rfl
    | ok w => rfl

theorem route_target_ok (h : (routeTarget g view i p).outcome = .ok (access, q)) :
    q = p ∧ ∃ caller ws w, accessibleWorkspaces g view i p.workspace = .ok (caller, ws) ∧
      Access.resolve view caller.userId caller.username p.workspace p.plugin g.publicViewer =
        .ok access ∧
      Workspace.authorize p.workspace (namespaceOf p.rest) ws = .ok w := by
  cases hl : accessibleWorkspaces g view i p.workspace with
  | error f => simp [routeTarget, hl] at h
  | ok cw =>
    obtain ⟨caller, ws⟩ := cw
    rw [route_target_outcome hl] at h
    cases hr : Access.resolve view caller.userId caller.username p.workspace p.plugin
        g.publicViewer with
    | error e => simp [hr] at h
    | ok a =>
      cases hw : Workspace.authorize p.workspace (namespaceOf p.rest) ws with
      | error e => simp [hr, hw] at h
      | ok w =>
        simp only [hr, hw, Except.ok.injEq, Prod.mk.injEq] at h
        obtain ⟨rfl, rfl⟩ := h
        exact ⟨rfl, caller, ws, w, rfl, hr, hw⟩

/-- The identity a request goes under and the list it is authorized on: the caller's own, or for a
named workspace that it lacks the public viewer's where that is on. -/
inductive ListedFor (g : Gateway) (view : Views) (i : Identity) (name : Option String) :
    Identity → List Workspace → Prop
  | own {ws : List Workspace} (listed : (view .ownWorkspaces).workspaces i name = .ok ws) :
      ListedFor g view i name i ws
  | viewer {n : String} {own ws : List Workspace} (enabled : g.publicViewer = true)
      (other : i.isPublicViewer = false) (named : name = some n)
      (listed : (view .ownWorkspaces).workspaces i name = .ok own) (lacking : holds own n = false)
      (shared : (view .viewerWorkspaces).workspaces .publicViewer name = .ok ws)
      (holding : holds ws n = true) : ListedFor g view i name .publicViewer ws

theorem accessible_listedFor (h : accessibleWorkspaces g view i name = .ok (caller, ws)) :
    ListedFor g view i name caller ws := by
  unfold accessibleWorkspaces at h
  cases ho : listWorkspaces (view .ownWorkspaces) i name with
  | error f => simp [ho] at h
  | ok own =>
    have hown := (list_ok_iff _ _ _).mp ho
    simp only [ho] at h
    split at h
    · simp only [Except.ok.injEq, Prod.mk.injEq] at h
      obtain ⟨rfl, rfl⟩ := h
      exact .own hown
    · rename_i hn
      simp only [Bool.or_eq_true, Bool.not_eq_true', not_or, Bool.not_eq_false,
        Bool.not_eq_true] at hn
      obtain ⟨⟨hr, hg⟩, hv⟩ := hn
      cases name with
      | none => simp [reachable] at hr
      | some n =>
        cases hs : listWorkspaces (view .viewerWorkspaces) .publicViewer (some n) with
        | error f => simp [hs] at h
        | ok shared =>
          simp only [hs] at h
          split at h
          · rename_i hshared
            simp only [Except.ok.injEq, Prod.mk.injEq] at h
            obtain ⟨rfl, rfl⟩ := h
            exact .viewer hg hv rfl hown hr ((list_ok_iff _ _ _).mp hs) hshared
          · simp only [Except.ok.injEq, Prod.mk.injEq] at h
            obtain ⟨rfl, rfl⟩ := h
            exact .own hown

theorem accessible_ok (h : accessibleWorkspaces g view i name = .ok (caller, ws)) :
    (caller = i ∧ (view .ownWorkspaces).workspaces i name = .ok ws) ∨
    (caller = .publicViewer ∧ g.publicViewer = true ∧ i.isPublicViewer = false ∧
      (∃ n, name = some n) ∧
      (view .viewerWorkspaces).workspaces .publicViewer name = .ok ws) := by
  cases accessible_listedFor h with
  | own listed => exact .inl ⟨rfl, listed⟩
  | viewer enabled other named listed lacking shared holding =>
    exact .inr ⟨rfl, enabled, other, ⟨_, named⟩, shared⟩

theorem handle_of_fault {f : Fault} (h : (route g view r).outcome = .error f) :
    (handle g view r).response = .ofFault f ∧ (handle g view r).sent = none := by
  have hfollow : follow g r (route g view r) = (.error f, none) := by
    unfold follow
    rw [h]
  constructor
  · change responseOf (follow g r (route g view r)).1 = .ofFault f
    rw [hfollow]
    rfl
  · change (follow g r (route g view r)).2 = none
    rw [hfollow]

theorem handle_of_routed (h : (route g view r).outcome = .ok (access, p)) {out : Outbound}
    (hd : Outbound.direct access r p.rest p.plugin.isSome = .ok out) :
    (handle g view r).sent = some ⟨out, r.body, r.headers.upgradeProtocol?.isSome⟩ := by
  change (follow g r (route g view r)).2 = _
  unfold follow
  rw [h]
  simp only [Relay.forward, hd]

theorem handle_of_undirected (h : (route g view r).outcome = .ok (access, p)) {f : Fault}
    (hd : Outbound.direct access r p.rest p.plugin.isSome = .error f) :
    (handle g view r).response = .ofFault f ∧ (handle g view r).sent = none := by
  have hfollow : follow g r (route g view r) = (.error f, none) := by
    unfold follow
    rw [h]
    simp only [Relay.forward, hd]
  constructor
  · change responseOf (follow g r (route g view r)).1 = .ofFault f
    rw [hfollow]
    rfl
  · change (follow g r (route g view r)).2 = none
    rw [hfollow]

theorem handle_sent {x : Sent} (h : (handle g view r).sent = some x) :
    ∃ access p, (route g view r).outcome = .ok (access, p) ∧
      Outbound.direct access r p.rest p.plugin.isSome = .ok x.outbound ∧
      x.body = r.body ∧ x.bridged = r.headers.upgradeProtocol?.isSome := by
  cases ho : (route g view r).outcome with
  | error f =>
    rw [(handle_of_fault ho).2] at h
    simp at h
  | ok ap =>
    obtain ⟨access, p⟩ := ap
    cases hd : Outbound.direct access r p.rest p.plugin.isSome with
    | error f =>
      rw [(handle_of_undirected ho hd).2] at h
      simp at h
    | ok out =>
      rw [handle_of_routed ho hd, Option.some.injEq] at h
      subst h
      exact ⟨access, p, rfl, hd, rfl, rfl⟩

def SentTo (view : Views) (r : Request) (p : RequestPath) (x : Sent) (m : MemberCluster) : Prop :=
  ∃ access, Access.LeadsTo view p.plugin access m ∧
    Outbound.direct access r p.rest p.plugin.isSome = .ok x.outbound

/-- What is sent goes to the member that was chosen for the identity whose list let it in. -/
theorem sent_to_member {x : Sent} (h : (handle g view r).sent = some x) :
    ∃ i p caller ws w m, Credential.authenticate g.readToken r.headers = .ok i ∧
      RequestPath.parse r.target.path = .ok p ∧
      accessibleWorkspaces g view i p.workspace = .ok (caller, ws) ∧
      Workspace.authorize p.workspace (namespaceOf p.rest) ws = .ok w ∧
      Access.Chosen view caller.userId caller.username p.workspace m ∧ SentTo view r p x m := by
  obtain ⟨access, q, hroute, hdirect, -, -⟩ := handle_sent h
  obtain ⟨i, p, ha, -, hp, ht⟩ := route_ok hroute
  obtain ⟨rfl, caller, ws, w, hl, hr, hw⟩ := route_target_ok ht
  obtain ⟨m, hleads, hchosen⟩ := Access.resolve_member hr
  exact ⟨i, q, caller, ws, w, m, ha, hp, hl, hw, hchosen, access, hleads, hdirect⟩

end Proxy

namespace Workspace

variable {name «namespace» : Option String} {ws : List Workspace} {w : Workspace}

theorem authorize_ok_iff : authorize name «namespace» ws = .ok w ↔
    select name ws = .ok w ∧ ∀ n, «namespace» = some n → n ∈ w.namespaces := by
  unfold authorize
  cases hs : select name ws with
  | error e => simp
  | ok v =>
    cases «namespace» with
    | none => simp
    | some n =>
      by_cases hn : n ∈ v.namespaces
      · simp only [List.contains_iff_mem, hn, if_true, Except.ok.injEq, Option.some.injEq,
          forall_eq']
        exact ⟨fun h => ⟨h, h ▸ hn⟩, fun h => h.1⟩
      · simp only [List.contains_iff_mem, hn, if_false, reduceCtorEq, Except.ok.injEq,
          Option.some.injEq, forall_eq', false_iff, not_and]
        intro h
        exact h ▸ hn

theorem select_mem (h : select name ws = .ok w) : w ∈ ws := by
  unfold select at h
  cases name with
  | none =>
    have hsub : w ∈ ws.filter fun w => w.type = .home := by
      cases hf : ws.filter fun w => w.type = .home with
      | nil => simp [hf] at h
      | cons v vs =>
        cases vs with
        | nil => simp only [hf, Except.ok.injEq] at h; simp [h]
        | cons u us => simp [hf] at h
    exact (List.mem_filter.mp hsub).1
  | some n =>
    cases hf : ws.find? fun w => w.name = n with
    | none => simp [hf] at h
    | some v =>
      simp only [hf, Except.ok.injEq] at h
      subst h
      exact List.mem_of_find?_eq_some hf

theorem select_name {n : String} (h : select (some n) ws = .ok w) : w.name = n := by
  unfold select at h
  cases hf : ws.find? fun w => w.name = n with
  | none => simp [hf] at h
  | some v =>
    have hname := List.find?_some hf
    simp only [hf, Except.ok.injEq] at h
    exact h ▸ of_decide_eq_true hname

theorem authorize_single (hn : w.name = name.getD "home") (ht : w.type = .home)
    (hs : w.namespaces = «namespace».toList) :
    authorize name «namespace» [w] = .ok w := by
  refine authorize_ok_iff.mpr ⟨?_, fun n h => by simp [hs, h]⟩
  cases hname : name with
  | none => simp [select, ht]
  | some n =>
    rw [hname] at hn
    simp [select, hn]

end Workspace

def Request.stripped (r : Request) : Request :=
  { r with headers := r.headers.withoutImpersonation }

namespace Router

variable {g : Gateway} {view : Views} {r : Request}

def refuses (r : Request) : Bool :=
  (Endpoint.ofPath r.target.path).isReadOnly && r.method ≠ "GET" && r.method ≠ "HEAD"

theorem handle_of_preflight (hp : Cors.isPreflight r.method r.headers = true) :
    handle g view r = uncounted
      ((if refuses r then withAllow (preflight r) else preflight r).forMethod r.method) := by
  simp only [handle, hp, if_true]
  rfl

theorem handle_of_refused (hp : Cors.isPreflight r.method r.headers = false)
    (hm : refuses r = true) :
    handle g view r = uncounted ((withAllow methodNotAllowed).forMethod r.method) := by
  rw [refuses] at hm
  simp only [handle, hp, hm, Bool.false_eq_true, if_false, if_true]
  rfl

theorem handle_of_dispatched (hp : Cors.isPreflight r.method r.headers = false)
    (hm : refuses r = false) :
    handle g view r =
      let x := dispatch g view (Endpoint.ofPath r.target.path) r.stripped
      { x with response := x.response.forMethod r.method } := by
  rw [refuses] at hm
  simp only [handle, hp, hm, Bool.false_eq_true, if_false]
  rfl

def relays (r : Request) : Bool :=
  !Cors.isPreflight r.method r.headers && !refuses r && Endpoint.ofPath r.target.path = .proxied

/-- Nothing but a proxied request is sent on, and that without its impersonation fields. -/
theorem sent_eq (g : Gateway) (view : Views) (r : Request) : (handle g view r).sent =
    if relays r then (Proxy.handle g view r.stripped).sent else none := by
  unfold relays
  cases hp : Cors.isPreflight r.method r.headers with
  | true => simp [handle_of_preflight hp, uncounted]
  | false =>
    cases hm : refuses r with
    | true => simp [handle_of_refused hp hm, uncounted]
    | false =>
      rw [handle_of_dispatched hp hm]
      cases he : Endpoint.ofPath r.target.path with
      | health => simp [dispatch, uncounted]
      | workspaceList => simp [dispatch, WorkspaceApi.handleList, WorkspaceApi.exchange]
      | workspace segment =>
        simp only [dispatch]
        split <;> simp [uncounted, WorkspaceApi.handleGet, WorkspaceApi.exchange]
      | proxied => simp [dispatch]

theorem handle_sent {x : Sent} (h : (handle g view r).sent = some x) :
    (Proxy.handle g view r.stripped).sent = some x := by
  rw [sent_eq] at h
  split at h
  · exact h
  · simp at h

end Router

/-! ## A caller -/

def smith : Identity := ⟨"user-1", "smith", none⟩

def smithGateway : Gateway :=
  ⟨false, fun t => if t = "token" then some ⟨"user-1", "smith", none⟩ else none,
    fun _ => .error (.proxy "no member")⟩

def smithRequest : Request :=
  ⟨"GET", ⟨"/api/v1/pods", none⟩, ⟨[("authorization", Octets.ofText "Bearer token")]⟩, []⟩

def smithCatalog : Catalog.Snapshot :=
  ⟨⟨[⟨"member", "https://member", "", some "token", none, false⟩],
    [⟨"smith", "user-1", "smith", "member", none⟩],
    [⟨"smith", "member", none, ["dev"], "smith"⟩],
    [⟨"smith", "smith", "admin"⟩], [], []⟩, [("member", "token")]⟩

def smithViews : Views := (smithCatalog.directory "" fun _ => none).steady

theorem smith_authenticated :
    Credential.authenticate smithGateway.readToken smithRequest.headers = .ok smith :=
  ok_of_toOption (by decide +kernel)

theorem smith_path :
    RequestPath.parse smithRequest.target.path = .ok ⟨none, none, "/api/v1/pods"⟩ :=
  ok_of_toOption (by decide +kernel)

/-! ## A member cluster -/

def memberUrl : Url :=
  ⟨"https", some ⟨"", none, "member", none⟩, .segments [[]], none, none⟩

theorem memberUrl_parse : Url.parse "https://member" = .ok memberUrl :=
  ok_of_toOption (by decide +kernel)

def memberRoutes : RouteRef → Lookup Route := fun _ => .ok ⟨none, ["member"]⟩

theorem memberUrl_resolved {d : Directory} {m : MemberCluster} {plugin : Option String}
    (he : m.apiEndpoint = "https://member") (hr : m.routes = some memberRoutes)
    (hp : ∀ n, plugin = some n → ∃ ref, d.plugin n = .ok ⟨n, some ref⟩) :
    Access.memberUrl d m plugin = .ok memberUrl := by
  cases plugin with
  | none => simp only [Access.memberUrl, he, memberUrl_parse, mapError_ok]
  | some n =>
    obtain ⟨ref, hn⟩ := hp n rfl
    have hroute : (⟨none, ["member"]⟩ : Route).url? = some (.ok memberUrl) := by
      rw [← memberUrl_parse]
      rfl
    simp [Access.memberUrl, Access.pluginUrl, hr, hn, memberRoutes, hroute]

end WorkspaceGateway
