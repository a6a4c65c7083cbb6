import WorkspaceGateway.Proofs.HiddenWorkspace
import WorkspaceGateway.Proofs.RequestCounts

/-!
# Which refusals are counted

A request for a workspace that its caller may not use is refused by the authorization, which
counts what it decides, or before that, when access to the workspace does not resolve. The caller
gets the same answer both times, but of the second nothing is counted. So the denials of a run
fall short of its refusals by the requests that did not resolve.
-/

set_option autoImplicit false

namespace WorkspaceGateway

/-! ## Faults that refuse -/

theorem Credential.authenticate_error {readToken : String → Option Claims} {h : Headers}
    {f : Fault} (ha : authenticate readToken h = .error f) : f.kind = .unauthorized := by
  unfold authenticate at ha
  cases ht : token h with
  | error e =>
    rw [ht] at ha
    obtain rfl := Except.error.inj ha
    unfold token at ht
    split at ht
    · obtain ⟨-, -, rfl⟩ := mapError_eq_error ht
      rfl
    · obtain ⟨-, -, rfl⟩ := mapError_eq_error ht
      rfl
  | ok t =>
    rw [ht] at ha
    cases hc : readToken t with
    | some c => simp [hc] at ha
    | none =>
      simp only [hc, Except.error.injEq] at ha
      rw [← ha]
      rfl

namespace Proxy

def bannedFault : Fault := .forbidden "user access is forbidden"

/-- Whether a fault refuses what was asked for, and not the caller. -/
def isRefusal (f : Fault) : Bool := f.kind = .forbidden && f ≠ bannedFault

theorem isRefusal_fault (e : AuthorizationError) : isRefusal e.fault = true := by
  have hne : e.fault ≠ bannedFault := by
    intro h
    have hm : e.message = "user access is forbidden" := congrArg Fault.text h
    cases e with
    | noSingleHome => exact absurd hm (by decide)
    | notAvailable => exact absurd hm (by decide)
    | namespaceForbidden n w =>
      obtain ⟨r, hr⟩ := Response.namespace_message_head n w
      rw [hm] at hr
      have hu : "user access is forbidden".toList = 'u' :: "ser access is forbidden".toList := by
        decide +kernel
      rw [hu] at hr
      exact absurd (List.cons.inj hr).1 (by decide)
  have hk : e.fault.kind = .forbidden := rfl
  simp [isRefusal, hk, hne]

theorem isRefusal_of_kind {f : Fault} (h : f.kind ≠ .forbidden) : isRefusal f = false := by
  simp [isRefusal, h]

/-! ## One request -/

/-- A request of a caller who is let in and whose workspaces are listed, for which access does not
resolve, and whose failure is answered like a workspace that is not available. -/
inductive Unresolved (g : Gateway) (view : Views) (r : Request) : Prop
  | intro (i : Identity) (p : RequestPath) (caller : Identity) (ws : List Workspace)
      (e : AccessError)
      (authenticated : Credential.authenticate g.readToken r.headers = .ok i)
      (admitted : checkNotBanned (view .banned) i = .ok ())
      (understood : RequestPath.parse r.target.path = .ok p)
      (listed : accessibleWorkspaces g view i p.workspace = .ok (caller, ws))
      (failed : Access.resolve view caller.userId caller.username p.workspace p.plugin
        g.publicViewer = .error e)
      (hidden : e = .spaceNotAvailable ∨ reachable ws p.workspace = false)

inductive Ruling (g : Gateway) (view : Views) (r : Request) : Prop
  | failed (f : Fault) (outcome : (route g view r).outcome = .error f)
      (undecided : (route g view r).decision = none) (other : isRefusal f = false)
  | unresolved
      (outcome : (route g view r).outcome = .error AuthorizationError.notAvailable.fault)
      (undecided : (route g view r).decision = none) (cause : Unresolved g view r)
  | denied (e : AuthorizationError) (outcome : (route g view r).outcome = .error e.fault)
      (decided : (route g view r).decision = some false)
  | allowed (way : ClusterAccess × RequestPath) (outcome : (route g view r).outcome = .ok way)
      (decided : (route g view r).decision = some true)

variable {g : Gateway} {view : Views} {r : Request} {i : Identity} {p : RequestPath} {f : Fault}

theorem checkNotBanned_error {d : Directory} (h : checkNotBanned d i = .error f) :
    isRefusal f = false := by
  unfold checkNotBanned at h
  cases he : i.email with
  | none => simp [he] at h
  | some email =>
    simp only [he] at h
    split at h
    · simp at h
    · split at h
      · simp at h
      · obtain rfl := Except.error.inj h
        decide
      · obtain rfl := Except.error.inj h
        decide

theorem accessible_error {name : Option String}
    (h : accessibleWorkspaces g view i name = .error f) : f.kind = .internal := by
  have hlist {d : Directory} {i : Identity} {f : Fault} (h : listWorkspaces d i name = .error f) :
      f.kind = .internal := by
    obtain ⟨e, -, rfl⟩ := mapError_eq_error h
    rfl
  unfold accessibleWorkspaces at h
  split at h
  · rename_i hown
    exact Except.error.inj h ▸ hlist hown
  · split at h
    · simp at h
    · split at h
      · rename_i hshared
        exact Except.error.inj h ▸ hlist hshared
      · split at h <;> simp at h

theorem accessFault_cases (isReachable : Bool) (e : AccessError) :
    (accessFault isReachable e = AuthorizationError.notAvailable.fault ∧
      (e = .spaceNotAvailable ∨ isReachable = false)) ∨
    ((accessFault isReachable e).kind = .internal ∧ e ≠ .spaceNotAvailable ∧
      isReachable = true) := by
  unfold accessFault
  split
  · rename_i h
    exact .inl ⟨rfl, by simpa using h⟩
  · rename_i h
    exact .inr ⟨rfl, by simpa using h⟩

theorem ruling_of_caller (ha : Credential.authenticate g.readToken r.headers = .ok i)
    (hb : checkNotBanned (view .banned) i = .ok ())
    (hp : RequestPath.parse r.target.path = .ok p) : Ruling g view r := by
  have hroute := route_of_caller ha hb hp
  cases hl : accessibleWorkspaces g view i p.workspace with
  | error f =>
    have hk : f.kind ≠ .forbidden := by
      rw [accessible_error hl]
      decide
    exact .failed f (by simp [hroute, routeTarget, hl]) (by simp [hroute, routeTarget, hl])
      (isRefusal_of_kind hk)
  | ok cw =>
    obtain ⟨caller, ws⟩ := cw
    cases hr : Access.resolve view caller.userId caller.username p.workspace p.plugin
        g.publicViewer with
    | error e =>
      have hout : (route g view r).outcome =
          .error (accessFault (reachable ws p.workspace) e) := by
        simp [hroute, routeTarget, hl, hr]
      have hdec : (route g view r).decision = none := by simp [hroute, routeTarget, hl, hr]
      rcases accessFault_cases (reachable ws p.workspace) e with ⟨hf, hh⟩ | ⟨hk, -⟩
      · exact .unresolved (hf ▸ hout) hdec ⟨i, p, caller, ws, e, ha, hb, hp, hl, hr, hh⟩
      · exact .failed _ hout hdec (isRefusal_of_kind (by rw [hk]; decide))
    | ok access =>
      cases hw : Workspace.authorize p.workspace (namespaceOf p.rest) ws with
      | error e =>
        exact .denied e (by simp [hroute, routeTarget, hl, hr, hw])
          (by simp [hroute, routeTarget, hl, hr, hw])
      | ok w =>
        exact .allowed (access, p) (by simp [hroute, routeTarget, hl, hr, hw])
          (by simp [hroute, routeTarget, hl, hr, hw])

theorem ruling (g : Gateway) (view : Views) (r : Request) : Ruling g view r := by
  cases ha : Credential.authenticate g.readToken r.headers with
  | error f =>
    have hk : f.kind ≠ .forbidden := by
      rw [Credential.authenticate_error ha]
      decide
    exact .failed f (by simp [route, ha]) (by simp [route, ha]) (isRefusal_of_kind hk)
  | ok i =>
    cases hb : checkNotBanned (view .banned) i with
    | error f =>
      exact .failed f (by simp [route, ha, hb]) (by simp [route, ha, hb])
        (checkNotBanned_error hb)
    | ok _ =>
      cases hp : RequestPath.parse r.target.path with
      | error e =>
        have hk : FaultKind.badRequest ≠ .forbidden := by decide
        exact .failed _ (by simp [route, ha, hb, hp]; rfl) (by simp [route, ha, hb, hp])
          (isRefusal_of_kind hk)
      | ok p => exact ruling_of_caller ha hb hp

theorem route_of_unresolved (h : Unresolved g view r) :
    (route g view r).outcome = .error AuthorizationError.notAvailable.fault ∧
      (route g view r).decision = none := by
  obtain ⟨i, p, caller, ws, e, ha, hb, hp, hl, hr, hh⟩ := h
  have hfault : accessFault (reachable ws p.workspace) e =
      AuthorizationError.notAvailable.fault := by
    rcases accessFault_cases (reachable ws p.workspace) e with ⟨hf, -⟩ | ⟨-, hne, hreach⟩
    · exact hf
    · rcases hh with he | hn
      · exact absurd he hne
      · simp [hreach] at hn
  rw [route_of_caller ha hb hp, ← hfault]
  exact ⟨by simp [routeTarget, hl, hr], by simp [routeTarget, hl, hr]⟩

end Proxy

namespace Arrival

open Proxy Catalog

def isRefused (a : Arrival) : Bool :=
  a.isProxied && match a.routing.outcome with
    | .error f => isRefusal f
    | .ok _ => false

def isUnresolved (a : Arrival) : Bool := a.isRefused && a.routing.decision.isNone

variable {a : Arrival}

theorem isRefused_iff : a.isRefused = true ↔ a.isProxied = true ∧
    ∃ e : AuthorizationError, a.routing.outcome = .error e.fault := by
  rw [isRefused, Bool.and_eq_true]
  refine and_congr_right fun _ => ?_
  constructor
  · intro h
    cases ruling a.gateway a.views a.request.stripped with
    | failed f outcome undecided other => simp [routing, outcome, other] at h
    | unresolved outcome undecided cause => exact ⟨.notAvailable, outcome⟩
    | denied e outcome decided => exact ⟨e, outcome⟩
    | allowed way outcome decided => simp [routing, outcome] at h
  · rintro ⟨e, he⟩
    simp only [he, isRefusal_fault]

theorem isUnresolved_iff : a.isUnresolved = true ↔ a.isProxied = true ∧
    Unresolved a.gateway a.views a.request.stripped := by
  rw [isUnresolved, Bool.and_eq_true, isRefused_iff, and_assoc]
  refine and_congr_right fun _ => ?_
  constructor
  · rintro ⟨⟨e, he⟩, hd⟩
    cases ruling a.gateway a.views a.request.stripped with
    | failed f outcome undecided other =>
      have hf : f = e.fault := Except.error.inj (outcome.symm.trans he)
      rw [hf, isRefusal_fault] at other
      simp at other
    | unresolved outcome undecided cause => exact cause
    | denied e outcome decided => simp [routing, decided] at hd
    | allowed way outcome decided => simp [routing, decided] at hd
  · intro h
    obtain ⟨hout, hdec⟩ := route_of_unresolved h
    exact ⟨⟨.notAvailable, hout⟩, by simp [routing, hdec]⟩

theorem answer_of_refused {e : AuthorizationError} (hp : a.isProxied = true)
    (he : a.routing.outcome = .error e.fault) :
    a.answer.response = (Response.ofFault e.fault).forMethod a.request.method ∧
      a.answer.response.status = 403 ∧ a.answer.sent = none := by
  obtain ⟨hresponse, hsent⟩ := handle_of_fault he
  rw [answer_of_proxied hp]
  simp only [hresponse, hsent, Response.status_forMethod]
  exact ⟨trivial, rfl, trivial⟩

theorem denied_eq (hp : a.isProxied = true) :
    (a.isRefused && !a.isUnresolved) = decide (a.routing.decision = some false) := by
  cases ruling a.gateway a.views a.request.stripped with
  | failed f outcome undecided other =>
    simp [isUnresolved, isRefused, routing, outcome, undecided, other]
  | unresolved outcome undecided cause =>
    simp [isUnresolved, isRefused, routing, outcome, undecided]
  | denied e outcome decided =>
    simp [isUnresolved, isRefused, routing, hp, outcome, decided, isRefusal_fault]
  | allowed way outcome decided => simp [isUnresolved, isRefused, routing, outcome, decided]

theorem count_denied (a : Arrival) : a.answer.counts.count (.decision false) =
    if a.isRefused && !a.isUnresolved then 1 else 0 := by
  cases hp : a.isProxied with
  | false =>
    rw [List.count, countP_of_aside (fun c hc => counts_of_local hp hc) fun _ _ => rfl]
    simp [isRefused, hp]
  | true =>
    rw [denied_eq hp, counts_of_proxied hp]
    rcases a.routing.decision with - | - | - <;> simp

/-! ## A run -/

/-- The denials of a run are its refusals less those that did not resolve. -/
theorem denials_and_unresolved (run : List Arrival) :
    (countsOf run).count (.decision false) + run.countP isUnresolved = run.countP isRefused := by
  have hdenied : (countsOf run).count (.decision false) =
      run.countP fun a => a.isRefused && !a.isUnresolved :=
    countP_countsOf fun a _ => count_denied a
  rw [hdenied, List.countP_eq_countP_filter_add run isRefused isUnresolved, List.countP_filter,
    List.countP_filter, Nat.add_comm]
  congr 1
  refine List.countP_congr fun a _ => ?_
  simp [isUnresolved]

/-! ## Workspaces that are probed for -/

def ofCatalog (g : Gateway) (s : Snapshot) (ns : String) (routes : Snapshot.AttachedRoutes)
    (r : Request) : Arrival :=
  ⟨g, (s.directory ns routes).steady, r⟩

variable {g : Gateway} {s : Snapshot} {ns : String} {routes : Snapshot.AttachedRoutes}
  {r : Request} {i : Identity} {w : String}

theorem resolve_of_missing (hs : s.space? w = none) (ns : String)
    (routes : Snapshot.AttachedRoutes) (userId username : String) (plugin : Option String)
    (viewerEnabled : Bool) :
    ∃ e, Access.resolve (s.directory ns routes).steady userId username (some w) plugin
      viewerEnabled = .error e := by
  rw [Access.resolve, Access.named]
  cases Access.impersonated (s.directory ns routes).steady userId username viewerEnabled with
  | error e => exact ⟨e, rfl⟩
  | ok user =>
    refine ⟨.spaceNotAvailable, ?_⟩
    simp [Directory.steady, Snapshot.directory, Snapshot.workspace, hs]

theorem refused_of_inaccessible (hn : Names g (s.directory ns routes) r i w)
    (hi : ¬ Accessible g s i w) (hp : (ofCatalog g s ns routes r).isProxied = true) :
    (ofCatalog g s ns routes r).isRefused = true := by
  obtain ⟨ha, hb, p, hpath, hw⟩ := Router.names_stripped hn
  obtain ⟨caller, ws, hl, hacc⟩ := accessible_listed g s ns routes i w
  refine isRefused_iff.mpr ⟨hp, .notAvailable, ?_⟩
  have hunlisted : holds ws w = false := by simpa using mt hacc.mp hi
  have hout := unlisted_hidden hw (hw ▸ hl) hunlisted
  exact (congrArg Routing.outcome (route_of_caller ha hb hpath)).trans hout

theorem unresolved_of_missing (hn : Names g (s.directory ns routes) r i w)
    (hi : ¬ Accessible g s i w) (hp : (ofCatalog g s ns routes r).isProxied = true)
    (hs : s.space? w = none) : (ofCatalog g s ns routes r).isUnresolved = true := by
  obtain ⟨ha, hb, p, hpath, hw⟩ := Router.names_stripped hn
  obtain ⟨caller, ws, hl, hacc⟩ := accessible_listed g s ns routes i w
  obtain ⟨e, he⟩ := resolve_of_missing hs ns routes caller.userId caller.username p.plugin
    g.publicViewer
  have hout : reachable ws p.workspace = false := by
    rw [hw]
    simpa [reachable] using mt hacc.mp hi
  exact isUnresolved_iff.mpr
    ⟨hp, ⟨i, p, caller, ws, e, ha, hb, hpath, hw ▸ hl, hw ▸ he, .inr hout⟩⟩

theorem resolved_of_access {p : RequestPath} {caller : Identity} {ws : List Workspace}
    {access : ClusterAccess} (hn : Names g (s.directory ns routes) r i w)
    (hpath : RequestPath.parse r.target.path = .ok p)
    (hl : accessibleWorkspaces g (s.directory ns routes).steady i p.workspace = .ok (caller, ws))
    (hr : Access.resolve (s.directory ns routes).steady caller.userId caller.username p.workspace
      p.plugin g.publicViewer = .ok access) :
    (ofCatalog g s ns routes r).isUnresolved = false := by
  rw [← Bool.not_eq_true, isUnresolved_iff]
  rintro ⟨-, ⟨i', p', caller', ws', e, ha, hb, hpath', hl', hr', hh⟩⟩
  obtain rfl : i' = i := Except.ok.inj (ha.symm.trans (Router.names_stripped hn).caller)
  obtain rfl : p' = p := Except.ok.inj (hpath'.symm.trans hpath)
  have hsame := Except.ok.inj (hl'.symm.trans hl)
  obtain rfl : caller' = caller := congrArg Prod.fst hsame
  exact nomatch hr'.symm.trans hr

/-- The denials that are counted in a run are its refusals exactly when each refused request
resolved. A refused request is one that is answered for a reason that authorization gives; it is
missed when access to its workspace fails to resolve. A workspace that is not accessible is
refused in any case; the refusal is missed when the catalog has no such workspace, and counted
when access to it resolves. -/
theorem denials_counted_iff (run : List Arrival) :
    (∀ a : Arrival, a.isRefused = true ↔ a.isProxied = true ∧
      ∃ e : AuthorizationError, a.routing.outcome = .error e.fault ∧
        a.answer.response = (Response.ofFault e.fault).forMethod a.request.method ∧
        a.answer.response.status = 403 ∧ a.answer.sent = none) ∧
    (∀ a : Arrival, a.isUnresolved = true ↔
      a.isProxied = true ∧ Unresolved a.gateway a.views a.request.stripped) ∧
    (countsOf run).count (.decision false) + run.countP isUnresolved = run.countP isRefused ∧
    ((countsOf run).count (.decision false) = run.countP isRefused ↔
      ∀ a ∈ run, a.isUnresolved = false) ∧
    ∀ (g : Gateway) (s : Snapshot) ns routes r i w, Names g (s.directory ns routes) r i w →
      ¬ Accessible g s i w → (ofCatalog g s ns routes r).isProxied = true →
      (ofCatalog g s ns routes r).isRefused = true ∧
      (s.space? w = none → (ofCatalog g s ns routes r).isUnresolved = true) ∧
      ∀ p caller ws access, RequestPath.parse r.target.path = .ok p →
        accessibleWorkspaces g (s.directory ns routes).steady i p.workspace = .ok (caller, ws) →
        Access.resolve (s.directory ns routes).steady caller.userId caller.username p.workspace
          p.plugin g.publicViewer = .ok access →
        (ofCatalog g s ns routes r).isUnresolved = false := by
  have hsum := denials_and_unresolved run
  refine ⟨fun a => ?_, fun a => isUnresolved_iff, hsum, ?_, ?_⟩
  · rw [isRefused_iff]
    refine and_congr_right fun hp => ?_
    constructor
    · rintro ⟨e, he⟩
      exact ⟨e, he, answer_of_refused hp he⟩
    · rintro ⟨e, he, -⟩
      exact ⟨e, he⟩
  · have hnone : run.countP isUnresolved = 0 ↔ ∀ a ∈ run, a.isUnresolved = false := by
      simp [List.countP_eq_zero]
    rw [← hnone]
    omega
  · intro g s ns routes r i w hn hi hp
    exact ⟨refused_of_inaccessible hn hi hp, unresolved_of_missing hn hi hp,
      fun p caller ws access hpath hl hr => resolved_of_access hn hpath hl hr⟩

def otherProbe (s : Snapshot) : Arrival := ofCatalog smithGateway s "" (fun _ => none) otherRequest

def deniedRun : List Arrival :=
  [otherProbe otherCatalog,
    ⟨smithGateway, smithViews,
      { smithRequest with target := ⟨"/api/v1/namespaces/other/pods", none⟩ }⟩,
    ⟨smithGateway, smithViews, smithRequest⟩]

theorem denied_run_counted :
    (countsOf deniedRun).count (.decision false) = deniedRun.countP isRefused ∧
      deniedRun.countP isRefused = 2 := by
  have hall : (deniedRun.all fun a => !a.isUnresolved) = true := by decide +kernel
  have hresolved : ∀ a ∈ deniedRun, a.isUnresolved = false := by
    intro a ha
    simpa using List.all_eq_true.mp hall a ha
  obtain ⟨-, -, -, hiff, -⟩ := denials_counted_iff deniedRun
  exact ⟨hiff.mpr hresolved, by decide +kernel⟩

/-- A workspace that does not exist and one of someone else's are refused in the same words, but
only the second refusal is counted. -/
theorem missing_workspace_uncounted :
    ((otherProbe smithCatalog).answer.response.status = 403 ∧
      (otherProbe smithCatalog).answer.response.body =
        (otherProbe otherCatalog).answer.response.body) ∧
    ([otherProbe smithCatalog].countP isRefused = 1 ∧
      (countsOf [otherProbe smithCatalog]).count (.decision false) = 0) ∧
    [otherProbe otherCatalog].countP isRefused = 1 ∧
      (countsOf [otherProbe otherCatalog]).count (.decision false) = 1 := by
  have hcounts (a : Arrival) : (countsOf [a]).count (.decision false) =
      if a.isRefused && !a.isUnresolved then 1 else 0 := by
    rw [← count_denied, countsOf, List.flatMap_singleton]
  have hmissing : (otherProbe smithCatalog).isUnresolved = true := by decide +kernel
  have hother : (otherProbe otherCatalog).isUnresolved = false := by decide +kernel
  have hrefused : (otherProbe smithCatalog).isRefused = true :=
    (Bool.and_eq_true_iff.mp hmissing).1
  have hdenied : (otherProbe otherCatalog).isRefused = true := by decide +kernel
  refine ⟨by decide +kernel, ?_, ?_⟩
  · rw [hcounts, hrefused, hmissing]
    simp [hrefused]
  · rw [hcounts, hdenied, hother]
    simp [hdenied]

end Arrival

end WorkspaceGateway
