import WorkspaceGateway.Proofs.RoutingStages

/-!
# What a request looks up

The questions one request puts to the read models, in their order. What is asked next depends on
the answers before it, and what becomes of the request depends on nothing else that the read
models hold.
-/

set_option autoImplicit false

namespace WorkspaceGateway

inductive Question where
  | banned (email : String)
  | own (i : Identity) (name : Option String)
  | viewer (name : Option String)
  | signup (userId username : String)
  | workspace (name : String)
  | members
  | plugin (name : String)
  deriving DecidableEq, Repr

namespace Question

def reading : Question → Reading
  | banned _ => .banned
  | own .. => .ownWorkspaces
  | viewer _ => .viewerWorkspaces
  | signup .. => .signup
  | workspace _ => .workspace
  | members => .members
  | plugin _ => .plugin

def Alike (view view' : Views) : Question → Prop
  | banned email => (view .banned).isBanned email = (view' .banned).isBanned email
  | own i name =>
    (view .ownWorkspaces).workspaces i name = (view' .ownWorkspaces).workspaces i name
  | viewer name =>
    (view .viewerWorkspaces).workspaces .publicViewer name =
      (view' .viewerWorkspaces).workspaces .publicViewer name
  | signup userId username =>
    (view .signup).signup userId username = (view' .signup).signup userId username
  | workspace name => (view .workspace).workspace name = (view' .workspace).workspace name
  | members => (view .members).members = (view' .members).members
  | plugin name => (view .plugin).plugin name = (view' .plugin).plugin name

variable {view view' : Views} {q : Question}

theorem alike_of_eq (h : view q.reading = view' q.reading) : q.Alike view view' := by
  cases q <;> simp only [reading] at h <;> simp only [Alike, h]

end Question

def AnsweredAlike (view view' : Views) (qs : List Question) : Prop :=
  ∀ q ∈ qs, q.Alike view view'

section

variable {view view' : Views} {q : Question} {qs qs' : List Question}

@[simp]
theorem answeredAlike_nil : AnsweredAlike view view' [] := by
  simp [AnsweredAlike]

@[simp]
theorem answeredAlike_cons : AnsweredAlike view view' (q :: qs) ↔
    q.Alike view view' ∧ AnsweredAlike view view' qs := by
  simp [AnsweredAlike]

@[simp]
theorem answeredAlike_append : AnsweredAlike view view' (qs ++ qs') ↔
    AnsweredAlike view view' qs ∧ AnsweredAlike view view' qs' := by
  simp only [AnsweredAlike, List.mem_append, or_imp, forall_and]

def InOrder (qs : List Question) (readings : List Reading) : Prop :=
  (qs.map Question.reading).Sublist readings

theorem inOrder_nil (readings : List Reading) : InOrder [] readings := List.nil_sublist readings

theorem inOrder_cons {readings : List Reading} (h : InOrder qs readings) :
    InOrder (q :: qs) (q.reading :: readings) := List.Sublist.cons_cons _ h

theorem inOrder_append (readings : List Reading) {readings' : List Reading}
    (h : InOrder qs readings) (h' : InOrder qs' readings') :
    InOrder (qs ++ qs') (readings ++ readings') := by
  rw [InOrder, List.map_append]
  exact List.Sublist.append h h'

end

/-! ## Finding the member -/

namespace Access

variable {view view' : Views} {m : MemberCluster} {userId username user : String}
  {workspace plugin : Option String} {flag : Bool} {chosen : MemberCluster → Bool}

def pluginAsked (m : MemberCluster) (plugin : Option String) : List Question :=
  match m.routes, plugin with
  | some _, some name => [.plugin name]
  | _, _ => []

theorem pluginAsked_inOrder (m : MemberCluster) (plugin : Option String) :
    InOrder (pluginAsked m plugin) [.plugin] := by
  unfold pluginAsked
  split
  · exact inOrder_cons (inOrder_nil [])
  · exact inOrder_nil _

theorem toMember_alike (h : AnsweredAlike view view' (pluginAsked m plugin)) :
    toMember (view .plugin) m user plugin = toMember (view' .plugin) m user plugin := by
  have hurl : memberUrl (view .plugin) m plugin = memberUrl (view' .plugin) m plugin := by
    cases plugin with
    | none => rfl
    | some name =>
      cases hr : m.routes with
      | none => simp only [memberUrl, pluginUrl, hr]
      | some routes =>
        simp only [pluginAsked, hr, answeredAlike_cons, answeredAlike_nil, and_true] at h
        have hp : (view .plugin).plugin name = (view' .plugin).plugin name := h
        simp only [memberUrl, pluginUrl, hr, hp]
  rw [toMember, toMember, hurl]

def memberAsked (view : Views) (chosen : MemberCluster → Bool) (plugin : Option String) :
    List Question :=
  .members :: match (view .members).members.find? chosen with
    | none => []
    | some m => pluginAsked m plugin

theorem memberAsked_inOrder (view : Views) (chosen : MemberCluster → Bool)
    (plugin : Option String) : InOrder (memberAsked view chosen plugin) [.members, .plugin] := by
  refine inOrder_cons (q := .members) ?_
  split
  · exact inOrder_nil _
  · exact pluginAsked_inOrder _ plugin

def serve (view : Views) (chosen : MemberCluster → Bool) (missing : AccessError) (user : String)
    (plugin : Option String) : Except AccessError ClusterAccess :=
  match registeredMembers (view .members) with
  | .error e => .error e
  | .ok ms =>
    match ms.find? chosen with
    | none => .error missing
    | some m => toMember (view .plugin) m user plugin

theorem serve_alike (missing : AccessError)
    (h : AnsweredAlike view view' (memberAsked view chosen plugin)) :
    serve view chosen missing user plugin = serve view' chosen missing user plugin := by
  obtain ⟨hmembers, hrest⟩ := answeredAlike_cons.mp h
  have hm : (view .members).members = (view' .members).members := hmembers
  unfold serve
  rw [registeredMembers, registeredMembers, ← hm]
  split
  · rfl
  · rename_i ms hr
    obtain ⟨rfl, -⟩ := registered_ok.mp hr
    cases hf : (view .members).members.find? chosen with
    | none => rfl
    | some m =>
      rw [hf] at hrest
      exact toMember_alike hrest

theorem provisionedSignup_alike {d d' : Directory}
    (h : d.signup userId username = d'.signup userId username) :
    provisionedSignup d userId username = provisionedSignup d' userId username := by
  rw [provisionedSignup, provisionedSignup, signup, signup, h]

def homeAsked (view : Views) (userId username : String) (plugin : Option String) :
    List Question :=
  .signup userId username :: match provisionedSignup (view .signup) userId username with
    | .error _ => []
    | .ok s => memberAsked view
        (fun m => m.apiEndpoint = s.apiEndpoint && m.name = s.clusterName) plugin

theorem home_alike (h : AnsweredAlike view view' (homeAsked view userId username plugin)) :
    home view userId username plugin = home view' userId username plugin := by
  obtain ⟨hsignup, hrest⟩ := answeredAlike_cons.mp h
  have hs : (view .signup).signup userId username = (view' .signup).signup userId username :=
    hsignup
  unfold home
  rw [← provisionedSignup_alike hs]
  cases hp : provisionedSignup (view .signup) userId username with
  | error e => rfl
  | ok s =>
    rw [hp] at hrest
    exact serve_alike .noMemberClusterForUser hrest

def impersonatedAsked (userId username : String) (viewerEnabled : Bool) : List Question :=
  if viewerEnabled && username = Identity.publicViewerName then [] else [.signup userId username]

theorem impersonated_alike (h : AnsweredAlike view view' (impersonatedAsked userId username flag)) :
    impersonated view userId username flag = impersonated view' userId username flag := by
  unfold impersonatedAsked at h
  unfold impersonated
  split at h
  · rename_i hv
    rw [if_pos hv, if_pos hv]
  · rename_i hv
    have hs : (view .signup).signup userId username = (view' .signup).signup userId username :=
      (answeredAlike_cons.mp h).1
    rw [if_neg hv, if_neg hv, provisionedSignup_alike hs]

def namedAsked (view : Views) (userId username workspace : String) (plugin : Option String)
    (viewerEnabled : Bool) : List Question :=
  impersonatedAsked userId username viewerEnabled ++
    match impersonated view userId username viewerEnabled with
    | .error _ => []
    | .ok _ => .workspace workspace :: match (view .workspace).workspace workspace with
      | .error _ => []
      | .ok space => memberAsked view (fun m => m.name = space.targetCluster) plugin

theorem named_alike {w : String}
    (h : AnsweredAlike view view' (namedAsked view userId username w plugin flag)) :
    named view userId username w plugin flag = named view' userId username w plugin flag := by
  obtain ⟨huser, hrest⟩ := answeredAlike_append.mp h
  unfold named
  rw [← impersonated_alike huser]
  cases hu : impersonated view userId username flag with
  | error e => rfl
  | ok user =>
    rw [hu] at hrest
    obtain ⟨hspace, hrest⟩ := answeredAlike_cons.mp hrest
    have hw : (view .workspace).workspace w = (view' .workspace).workspace w := hspace
    simp only
    rw [← hw]
    cases hs : (view .workspace).workspace w with
    | error e => rfl
    | ok space =>
      rw [hs] at hrest
      exact serve_alike (.noMemberClusterForSpace space.name) hrest

def asked (view : Views) (userId username : String) (workspace plugin : Option String)
    (viewerEnabled : Bool) : List Question :=
  match workspace with
  | none => homeAsked view userId username plugin
  | some w => namedAsked view userId username w plugin viewerEnabled

theorem resolve_alike
    (h : AnsweredAlike view view' (asked view userId username workspace plugin flag)) :
    resolve view userId username workspace plugin flag =
      resolve view' userId username workspace plugin flag := by
  cases workspace with
  | none => exact home_alike h
  | some w => exact named_alike h

theorem asked_inOrder (view : Views) (userId username : String)
    (workspace plugin : Option String) (flag : Bool) :
    InOrder (asked view userId username workspace plugin flag)
      [.signup, .workspace, .members, .plugin] := by
  cases workspace with
  | none =>
    refine inOrder_cons (q := .signup userId username) ?_
    split
    · exact inOrder_nil _
    · exact List.Sublist.cons _ (memberAsked_inOrder view _ plugin)
  | some w =>
    refine inOrder_append [.signup] ?_ ?_
    · unfold impersonatedAsked
      split
      · exact inOrder_nil _
      · exact inOrder_cons (inOrder_nil [])
    · split
      · exact inOrder_nil _
      · refine inOrder_cons (q := .workspace w) ?_
        split
        · exact inOrder_nil _
        · exact memberAsked_inOrder view _ plugin

end Access

/-! ## Proxied requests -/

namespace Proxy

variable {g : Gateway} {view view' : Views} {i : Identity} {p : RequestPath} {r : Request}
  {name : Option String}

def bannedAsked (i : Identity) : List Question :=
  match i.email with
  | none => []
  | some email => if email.isEmpty then [] else [.banned email]

theorem checkNotBanned_alike (h : AnsweredAlike view view' (bannedAsked i)) :
    checkNotBanned (view .banned) i = checkNotBanned (view' .banned) i := by
  unfold bannedAsked at h
  unfold checkNotBanned
  cases hi : i.email with
  | none => rfl
  | some email =>
    cases he : email.isEmpty with
    | true => simp only [he, if_true]
    | false =>
      simp only [hi, he, Bool.false_eq_true, if_false] at h ⊢
      have hb : (view .banned).isBanned email = (view' .banned).isBanned email :=
        (answeredAlike_cons.mp h).1
      rw [hb]

theorem bannedAsked_inOrder (i : Identity) : InOrder (bannedAsked i) [.banned] := by
  unfold bannedAsked
  split
  · exact inOrder_nil _
  · split
    · exact inOrder_nil _
    · exact inOrder_cons (inOrder_nil [])

theorem listWorkspaces_alike {d d' : Directory}
    (h : d.workspaces i name = d'.workspaces i name) :
    listWorkspaces d i name = listWorkspaces d' i name := by
  rw [listWorkspaces, listWorkspaces, h]

/-- The public viewer's list is asked for only after the caller's own lacked the workspace. -/
def listsAsked (g : Gateway) (view : Views) (i : Identity) (name : Option String) :
    List Question :=
  .own i name :: match listWorkspaces (view .ownWorkspaces) i name with
    | .error _ => []
    | .ok own =>
      if reachable own name || !g.publicViewer || i.isPublicViewer then [] else [.viewer name]

theorem accessibleWorkspaces_alike (h : AnsweredAlike view view' (listsAsked g view i name)) :
    accessibleWorkspaces g view i name = accessibleWorkspaces g view' i name := by
  obtain ⟨hown, hrest⟩ := answeredAlike_cons.mp h
  have hl : (view .ownWorkspaces).workspaces i name = (view' .ownWorkspaces).workspaces i name :=
    hown
  unfold accessibleWorkspaces
  rw [← listWorkspaces_alike hl]
  cases ho : listWorkspaces (view .ownWorkspaces) i name with
  | error f => rfl
  | ok own =>
    simp only [ho] at hrest ⊢
    split at hrest
    · rename_i hn
      rw [if_pos hn, if_pos hn]
    · rename_i hn
      have hs : (view .viewerWorkspaces).workspaces .publicViewer name =
          (view' .viewerWorkspaces).workspaces .publicViewer name :=
        (answeredAlike_cons.mp hrest).1
      rw [if_neg hn, if_neg hn, listWorkspaces_alike hs]

theorem listsAsked_inOrder (g : Gateway) (view : Views) (i : Identity) (name : Option String) :
    InOrder (listsAsked g view i name) [.ownWorkspaces, .viewerWorkspaces] := by
  refine inOrder_cons (q := .own i name) ?_
  split
  · exact inOrder_nil _
  · split
    · exact inOrder_nil _
    · exact inOrder_cons (inOrder_nil [])

def targetAsked (g : Gateway) (view : Views) (i : Identity) (p : RequestPath) : List Question :=
  listsAsked g view i p.workspace ++
    match accessibleWorkspaces g view i p.workspace with
    | .error _ => []
    | .ok (caller, _) =>
      Access.asked view caller.userId caller.username p.workspace p.plugin g.publicViewer

theorem routeTarget_alike (h : AnsweredAlike view view' (targetAsked g view i p)) :
    routeTarget g view i p = routeTarget g view' i p := by
  obtain ⟨hlists, hrest⟩ := answeredAlike_append.mp h
  unfold routeTarget
  rw [← accessibleWorkspaces_alike hlists]
  cases hl : accessibleWorkspaces g view i p.workspace with
  | error f => rfl
  | ok cw =>
    obtain ⟨caller, ws⟩ := cw
    rw [hl] at hrest
    simp only [Access.resolve_alike hrest]

def asked (g : Gateway) (view : Views) (r : Request) : List Question :=
  match Credential.authenticate g.readToken r.headers with
  | .error _ => []
  | .ok i => bannedAsked i ++
    match checkNotBanned (view .banned) i, RequestPath.parse r.target.path with
    | .ok (), .ok p => targetAsked g view i p
    | _, _ => []

theorem route_alike (h : AnsweredAlike view view' (asked g view r)) :
    route g view r = route g view' r := by
  unfold asked at h
  unfold route
  cases ha : Credential.authenticate g.readToken r.headers with
  | error f => rfl
  | ok i =>
    rw [ha] at h
    obtain ⟨hbanned, hrest⟩ := answeredAlike_append.mp h
    simp only
    rw [← checkNotBanned_alike hbanned]
    cases hb : checkNotBanned (view .banned) i with
    | error f => rfl
    | ok _ =>
      cases hp : RequestPath.parse r.target.path with
      | error e => rfl
      | ok p =>
        rw [hb, hp] at hrest
        exact routeTarget_alike hrest

def readings : List Reading :=
  [.banned, .ownWorkspaces, .viewerWorkspaces, .signup, .workspace, .members, .plugin]

theorem asked_inOrder (g : Gateway) (view : Views) (r : Request) :
    InOrder (asked g view r) readings := by
  unfold asked
  split
  · exact inOrder_nil _
  · refine inOrder_append [.banned] (bannedAsked_inOrder _) ?_
    split
    · refine inOrder_append [.ownWorkspaces, .viewerWorkspaces]
        (listsAsked_inOrder g view _ _) ?_
      split
      · exact inOrder_nil _
      · exact Access.asked_inOrder view _ _ _ _ _
    · exact inOrder_nil _

theorem handle_alike (h : AnsweredAlike view view' (asked g view r)) :
    handle g view r = handle g view' r := by
  rw [handle, handle, route_alike h]

end Proxy

/-! ## The workspace API -/

namespace WorkspaceApi

variable {g : Gateway} {view view' : Views} {h : Headers} {name : String}

def asked (g : Gateway) (view : Views) (h : Headers) (next : Identity → List Question) :
    List Question :=
  match Credential.authenticate g.readToken h with
  | .error _ => []
  | .ok i => Proxy.bannedAsked i ++
    match Proxy.checkNotBanned (view .banned) i with
    | .error _ => []
    | .ok () => .signup i.userId i.username ::
      match provisioned view i with
      | .ok true => next i
      | _ => []

theorem asked_inOrder {readings : List Reading} {next : Identity → List Question}
    (hn : ∀ i, InOrder (next i) readings) :
    InOrder (asked g view h next) (.banned :: .signup :: readings) := by
  unfold asked
  split
  · exact inOrder_nil _
  · rename_i i ha
    refine inOrder_append [.banned] (Proxy.bannedAsked_inOrder i) ?_
    split
    · exact inOrder_nil _
    · refine inOrder_cons (q := .signup i.userId i.username) ?_
      split
      · exact hn i
      · exact inOrder_nil _

theorem caller_alike {next : Identity → List Question}
    (hq : AnsweredAlike view view' (asked g view h next)) :
    caller g view h = caller g view' h ∧ ∀ i, caller g view h = .ok i →
      provisioned view i = provisioned view' i ∧
        (provisioned view i = .ok true → AnsweredAlike view view' (next i)) := by
  unfold asked at hq
  unfold caller
  cases ha : Credential.authenticate g.readToken h with
  | error f => simp
  | ok i =>
    rw [ha] at hq
    obtain ⟨hbanned, hrest⟩ := answeredAlike_append.mp hq
    simp only
    rw [← Proxy.checkNotBanned_alike hbanned]
    refine ⟨rfl, ?_⟩
    cases hb : Proxy.checkNotBanned (view .banned) i with
    | error f => simp
    | ok _ =>
      rw [hb] at hrest
      obtain ⟨hsignup, hrest⟩ := answeredAlike_cons.mp hrest
      have hs : (view .signup).signup i.userId i.username =
          (view' .signup).signup i.userId i.username := hsignup
      rintro j hj
      obtain rfl : i = j := Except.ok.inj hj
      refine ⟨?_, fun hp => ?_⟩
      · rw [provisioned, provisioned, Access.isProvisioned, Access.isProvisioned, Access.signup,
          Access.signup, hs]
      · rwa [hp] at hrest

def listAsked (g : Gateway) (view : Views) (h : Headers) : List Question :=
  asked g view h fun i => .own i none ::
    match Proxy.listWorkspaces (view .ownWorkspaces) i none with
    | .error _ => []
    | .ok _ => if g.publicViewer && !i.isPublicViewer then [.viewer none] else []

theorem listFor_alike (hq : AnsweredAlike view view' (listAsked g view h)) :
    listFor g view h = listFor g view' h := by
  obtain ⟨hcaller, hnext⟩ := caller_alike hq
  unfold listFor
  rw [← hcaller]
  cases hc : caller g view h with
  | error f => rfl
  | ok i =>
    obtain ⟨hprovisioned, hlists⟩ := hnext i hc
    simp only
    rw [← hprovisioned]
    cases hp : provisioned view i with
    | error f => rfl
    | ok known =>
      cases known with
      | false => rfl
      | true =>
        obtain ⟨hown, hrest⟩ := answeredAlike_cons.mp (hlists hp)
        have hl : (view .ownWorkspaces).workspaces i none =
            (view' .ownWorkspaces).workspaces i none := hown
        simp only
        rw [← Proxy.listWorkspaces_alike hl]
        cases ho : Proxy.listWorkspaces (view .ownWorkspaces) i none with
        | error f => rfl
        | ok own =>
          simp only [ho] at hrest ⊢
          split at hrest
          · rename_i hv
            have hs : (view .viewerWorkspaces).workspaces .publicViewer none =
                (view' .viewerWorkspaces).workspaces .publicViewer none :=
              (answeredAlike_cons.mp hrest).1
            rw [if_pos hv, if_pos hv, Proxy.listWorkspaces_alike hs]
          · rename_i hv
            rw [if_neg hv, if_neg hv]

def getAsked (g : Gateway) (view : Views) (h : Headers) (name : String) : List Question :=
  asked g view h fun i => [.own i (some name)]

theorem getFor_alike (hq : AnsweredAlike view view' (getAsked g view h name)) :
    getFor g view h name = getFor g view' h name := by
  obtain ⟨hcaller, hnext⟩ := caller_alike hq
  unfold getFor
  rw [← hcaller]
  cases hc : caller g view h with
  | error f => rfl
  | ok i =>
    obtain ⟨hprovisioned, hlists⟩ := hnext i hc
    simp only
    rw [← hprovisioned]
    cases hp : provisioned view i with
    | error f => rfl
    | ok known =>
      cases known with
      | false => rfl
      | true =>
        have hl : (view .ownWorkspaces).workspaces i (some name) =
            (view' .ownWorkspaces).workspaces i (some name) := (answeredAlike_cons.mp (hlists hp)).1
        simp only [Proxy.listWorkspaces_alike hl]

end WorkspaceApi

/-! ## The router -/

def Endpoint.readings : Endpoint → List Reading
  | health => []
  | workspaceList => [.banned, .signup, .ownWorkspaces, .viewerWorkspaces]
  | workspace _ => [.banned, .signup, .ownWorkspaces]
  | proxied => Proxy.readings

namespace Router

variable {g : Gateway} {view view' : Views} {r : Request}

def dispatchAsked (g : Gateway) (view : Views) (e : Endpoint) (r : Request) : List Question :=
  match e with
  | .health => []
  | .workspaceList => WorkspaceApi.listAsked g view r.headers
  | .workspace segment =>
    match (Url.percentDecode (Octets.ofText (String.ofList segment))).text? with
    | some name => WorkspaceApi.getAsked g view r.headers name
    | none => []
  | .proxied => Proxy.asked g view r

def asked (g : Gateway) (view : Views) (r : Request) : List Question :=
  if Cors.isPreflight r.method r.headers || refuses r then []
  else dispatchAsked g view (Endpoint.ofPath r.target.path) r.stripped

/-- A request asks in the order of its endpoint, and at most once at each moment. -/
theorem asked_inOrder (g : Gateway) (view : Views) (r : Request) :
    InOrder (asked g view r) (Endpoint.ofPath r.target.path).readings := by
  unfold asked dispatchAsked
  split
  · exact inOrder_nil _
  · cases Endpoint.ofPath r.target.path with
    | health => exact inOrder_nil _
    | workspaceList =>
      refine WorkspaceApi.asked_inOrder fun i => inOrder_cons (q := .own i none) ?_
      split
      · exact inOrder_nil _
      · split
        · exact inOrder_cons (inOrder_nil [])
        · exact inOrder_nil _
    | workspace segment =>
      simp only
      split
      · exact WorkspaceApi.asked_inOrder fun i => inOrder_cons (inOrder_nil [])
      · exact inOrder_nil _
    | proxied => exact Proxy.asked_inOrder g view r.stripped

theorem dispatch_alike {e : Endpoint}
    (h : AnsweredAlike view view' (dispatchAsked g view e r)) :
    dispatch g view e r = dispatch g view' e r := by
  cases e with
  | health => rfl
  | workspaceList =>
    rw [dispatch, dispatch, WorkspaceApi.handleList, WorkspaceApi.handleList,
      WorkspaceApi.listFor_alike h]
  | workspace segment =>
    simp only [dispatch, dispatchAsked] at h ⊢
    split
    · rename_i name hn
      rw [hn] at h
      rw [WorkspaceApi.handleGet, WorkspaceApi.handleGet, WorkspaceApi.getFor_alike h]
    · rfl
  | proxied => exact Proxy.handle_alike h

/-- What becomes of a request depends only on the answers to its questions. -/
theorem handle_alike (h : AnsweredAlike view view' (asked g view r)) :
    handle g view r = handle g view' r := by
  unfold asked at h
  cases hp : Cors.isPreflight r.method r.headers with
  | true => rw [handle_of_preflight hp, handle_of_preflight hp]
  | false =>
    cases hm : refuses r with
    | true => rw [handle_of_refused hp hm, handle_of_refused hp hm]
    | false =>
      simp only [hp, hm, Bool.or_self, Bool.false_eq_true, if_false] at h
      rw [handle_of_dispatched hp hm, handle_of_dispatched hp hm, dispatch_alike h]

end Router

end WorkspaceGateway
