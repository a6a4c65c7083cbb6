import WorkspaceGateway.Proofs.SameFields

/-!
# Impersonation fields of a caller

A member cluster acts as the user that the gateway names and as no other. Fields by which a caller
claims an identity are gone before any part reads the request, and the one that goes out is the
gateway's own: the last that the director sets, whatever the connection field lists.
-/

set_option autoImplicit false

namespace WorkspaceGateway

open Headers

structure Request.SameButImpersonation (r s : Request) : Prop where
  method : r.method = s.method
  target : r.target = s.target
  headers : ∀ n, isImpersonation n = false → r.headers.values n = s.headers.values n
  body : r.body = s.body

namespace Request

variable {r s : Request}

theorem SameButImpersonation.stripped (hs : SameButImpersonation r s) :
    Request.Same r.stripped s.stripped := by
  refine ⟨hs.method, hs.target, fun n => ?_, hs.body⟩
  rw [Request.stripped, Request.stripped, values_withoutImpersonation,
    values_withoutImpersonation]
  cases hn : isImpersonation n with
  | true => rfl
  | false => exact hs.headers n hn

end Request

namespace WorkspaceApi

variable {g : Gateway} {view : Views} {h k : Headers}

theorem caller_same (hs : Headers.Same h k) : caller g view h = caller g view k := by
  rw [caller, caller, Credential.authenticate_same hs]

theorem listFor_same (hs : Headers.Same h k) : listFor g view h = listFor g view k := by
  rw [listFor, listFor, caller_same hs]

theorem getFor_same (hs : Headers.Same h k) (name : String) :
    getFor g view h name = getFor g view k name := by
  rw [getFor, getFor, caller_same hs]

end WorkspaceApi

namespace Proxy

/-- The access that is resolved for a request: for its authenticated caller, or for the public
viewer where the workspace is reached as that. -/
def ResolvedTo (g : Gateway) (view : Views) (r : Request) (access : ClusterAccess) : Prop :=
  ∃ i p caller ws, Credential.authenticate g.readToken r.headers = .ok i ∧
    RequestPath.parse r.target.path = .ok p ∧
    accessibleWorkspaces g view i p.workspace = .ok (caller, ws) ∧
    Access.resolve view caller.userId caller.username p.workspace p.plugin g.publicViewer =
      .ok access

theorem resolved_of_route {g : Gateway} {view : Views} {r : Request} {access : ClusterAccess}
    {p : RequestPath} (h : (route g view r).outcome = .ok (access, p)) :
    ResolvedTo g view r access := by
  obtain ⟨i, q, ha, -, hq, ht⟩ := route_ok h
  obtain ⟨rfl, caller, ws, w, hl, hr, -⟩ := route_target_ok ht
  exact ⟨i, p, caller, ws, ha, hq, hl, hr⟩

end Proxy

namespace Router

variable {g : Gateway} {view : Views} {r s : Request}

theorem dispatch_same (g : Gateway) (view : Views) (hs : Request.Same r s) (e : Endpoint) :
    Option.Rel Sent.Same (dispatch g view e r).sent (dispatch g view e s).sent ∧
      ((∀ x y, (dispatch g view e r).sent = some x → (dispatch g view e s).sent = some y →
          g.send x = g.send y) →
        (dispatch g view e r).response = (dispatch g view e s).response) := by
  cases e with
  | health => exact ⟨.none, fun _ => rfl⟩
  | workspaceList =>
    simp only [dispatch, WorkspaceApi.handleList, WorkspaceApi.listFor_same hs.headers]
    exact ⟨.none, fun _ => trivial⟩
  | workspace segment =>
    simp only [dispatch]
    split
    · simp only [WorkspaceApi.handleGet, WorkspaceApi.getFor_same hs.headers]
      exact ⟨.none, fun _ => trivial⟩
    · exact ⟨.none, fun _ => rfl⟩
  | proxied => exact Proxy.handle_same hs

theorem preflight_same (hs : Request.SameButImpersonation r s) :
    Cors.isPreflight r.method r.headers = Cors.isPreflight s.method s.headers ∧
      preflight r = preflight s := by
  have ho := hs.headers "origin" (by decide)
  have hm := hs.headers "access-control-request-method" (by decide)
  have hh := hs.headers "access-control-request-headers" (by decide)
  constructor
  · rw [hs.method]
    exact Cors.isPreflight_same _ hm
  · rw [preflight, preflight, Cors.preflightHeaders_same _ ho hm hh]

theorem handle_same_but_impersonation (hs : Request.SameButImpersonation r s) :
    Option.Rel Sent.Same (handle g view r).sent (handle g view s).sent ∧
      ((∀ x y, (handle g view r).sent = some x → (handle g view s).sent = some y →
          g.send x = g.send y) →
        (handle g view r).response = (handle g view s).response) := by
  obtain ⟨hpre, hanswer⟩ := preflight_same hs
  have href : refuses r = refuses s := by rw [refuses, refuses, hs.target, hs.method]
  cases hp : Cors.isPreflight r.method r.headers with
  | true =>
    rw [handle_of_preflight hp, handle_of_preflight (hpre ▸ hp), hanswer, href, hs.method]
    exact ⟨.none, fun _ => rfl⟩
  | false =>
    cases hm : refuses r with
    | true =>
      rw [handle_of_refused hp hm, handle_of_refused (hpre ▸ hp) (href ▸ hm), hs.method]
      exact ⟨.none, fun _ => rfl⟩
    | false =>
      rw [handle_of_dispatched hp hm, handle_of_dispatched (hpre ▸ hp) (href ▸ hm), hs.target,
        hs.method]
      obtain ⟨hsent, hresp⟩ := dispatch_same g view hs.stripped
        (Endpoint.ofPath s.target.path)
      refine ⟨hsent, fun hsend => ?_⟩
      simp only [hresp hsend]

theorem sent_impersonation {x : Sent} (h : (handle g view r).sent = some x) :
    ∃ access, Proxy.ResolvedTo g view r.stripped access ∧
      ∀ n, isImpersonation n = true → x.outbound.headers.values n =
        if n = Outbound.userField then [Octets.ofText access.username] else [] := by
  obtain ⟨access, p, hroute, hdirect, -, -⟩ := Proxy.handle_sent (handle_sent h)
  refine ⟨access, Proxy.resolved_of_route hroute, fun n hn => ?_⟩
  split
  · rename_i hu
    rw [hu]
    exact Outbound.direct_user hdirect
  · rename_i hu
    -- Of the names that the director sets only the user's is one of these.
    have hown : n ∉ Outbound.ownFields := by
      intro hmem
      simp only [Outbound.ownFields, List.mem_cons, List.not_mem_nil, or_false, hu] at hmem
      rcases hmem with rfl | rfl | rfl | rfl | rfl | rfl <;> exact absurd hn (by decide)
    have hstripped : r.stripped.headers.values n = [] := by
      rw [Request.stripped, values_withoutImpersonation, if_pos hn]
    rw [Outbound.direct_values hdirect hown, values_endToEnd, hstripped, ite_self]

theorem handle_of_other_fields (hm : r.method = s.method) (ht : r.target = s.target)
    (hb : r.body = s.body)
    (hh : r.headers.withoutImpersonation = s.headers.withoutImpersonation) :
    handle g view r = handle g view s := by
  have hs : Request.SameButImpersonation r s := by
    refine ⟨hm, ht, fun n hn => ?_, hb⟩
    have hv := congrArg (fun h => h.values n) hh
    simpa [values_withoutImpersonation, hn] using hv
  obtain ⟨hpre, hanswer⟩ := preflight_same hs
  have hstripped : r.stripped = s.stripped := by
    rw [Request.stripped, Request.stripped, hh]
    cases r
    cases s
    simp_all
  have href : refuses r = refuses s := by rw [refuses, refuses, ht, hm]
  cases hp : Cors.isPreflight r.method r.headers with
  | true =>
    rw [handle_of_preflight hp, handle_of_preflight (hpre ▸ hp), hanswer, href, hm]
  | false =>
    cases hn : refuses r with
    | true => rw [handle_of_refused hp hn, handle_of_refused (hpre ▸ hp) (href ▸ hn), hm]
    | false =>
      rw [handle_of_dispatched hp hn, handle_of_dispatched (hpre ▸ hp) (href ▸ hn), hstripped,
        ht, hm]

/-! ## No effect -/

/-- Identities that a caller claims in fields have no effect. Of the fields sent on that name an
identity there is one, with the user that was resolved; and requests that differ only in such
fields are sent on and answered alike. -/
theorem claimed_identities_have_no_effect (g : Gateway) (view : Views) :
    (∀ r x, (handle g view r).sent = some x →
      ∃ access, Proxy.ResolvedTo g view r.stripped access ∧
        ∀ n, isImpersonation n = true → x.outbound.headers.values n =
          if n = Outbound.userField then [Octets.ofText access.username] else []) ∧
    (∀ r s, Request.SameButImpersonation r s →
      Option.Rel Sent.Same (handle g view r).sent (handle g view s).sent ∧
      ((∀ x y, (handle g view r).sent = some x → (handle g view s).sent = some y →
          g.send x = g.send y) →
        (handle g view r).response = (handle g view s).response)) ∧
    ∀ r s : Request, r.method = s.method → r.target = s.target → r.body = s.body →
      r.headers.withoutImpersonation = s.headers.withoutImpersonation →
      handle g view r = handle g view s := by
  refine ⟨fun r x hx => ?_, fun r s hs => handle_same_but_impersonation hs,
    fun r s hm ht hb hh => handle_of_other_fields hm ht hb hh⟩
  obtain ⟨access, hresolved, hfields⟩ := sent_impersonation hx
  exact ⟨access, hresolved, hfields⟩

def forgedRequest : Request :=
  { smithRequest with headers := ⟨smithRequest.headers.fields ++
      [("impersonate-user", Octets.ofText "root"), ("connection", Octets.ofText "impersonate-user"),
        ("impersonate-group", Octets.ofText "system:masters")]⟩ }

def unforgedRequest : Request :=
  { smithRequest with headers := ⟨smithRequest.headers.fields ++
      [("connection", Octets.ofText "impersonate-user")]⟩ }

theorem forged_identity_has_no_effect :
    (∃ x, (handle smithGateway smithViews forgedRequest).sent = some x ∧
      ∀ n, isImpersonation n = true → x.outbound.headers.values n =
        if n = Outbound.userField then [Octets.ofText "smith"] else []) ∧
    handle smithGateway smithViews forgedRequest =
      handle smithGateway smithViews unforgedRequest := by
  have hsent : ((handle smithGateway smithViews forgedRequest).sent.map fun x =>
      x.outbound.headers.values Outbound.userField) = some [Octets.ofText "smith"] := by
    decide +kernel
  obtain ⟨hown, -, hsame⟩ := claimed_identities_have_no_effect smithGateway smithViews
  constructor
  · obtain ⟨x, hx, hu⟩ := Option.map_eq_some_iff.mp hsent
    obtain ⟨access, -, hfields⟩ := hown forgedRequest x hx
    have huser := hfields Outbound.userField (by decide)
    rw [if_pos rfl, hu] at huser
    exact ⟨x, hx, huser ▸ hfields⟩
  · exact hsame forgedRequest unforgedRequest rfl rfl rfl (by decide +kernel)

end Router

end WorkspaceGateway
