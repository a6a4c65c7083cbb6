import WorkspaceGateway.Access

/-!
# Where resolved access comes from

Access that was resolved has a member cluster, a URL of that cluster, the cluster's own token and
one user. Each way of resolving it says where these four come from.
-/

set_option autoImplicit false

namespace WorkspaceGateway

theorem mapError_ok {ε ε' α : Type} (f : ε → ε') (a : α) :
    (Except.ok a : Except ε α).mapError f = .ok a := rfl

theorem mapError_error {ε ε' α : Type} (f : ε → ε') (e : ε) :
    (Except.error e : Except ε α).mapError f = .error (f e) := rfl

theorem mapError_eq_error {ε ε' α : Type} {f : ε → ε'} {x : Except ε α} {y : ε'}
    (h : x.mapError f = .error y) : ∃ e, x = .error e ∧ f e = y := by
  cases x with
  | error e => exact ⟨e, rfl, Except.error.inj h⟩
  | ok a => simp [mapError_ok] at h

namespace Access

variable {d : Directory} {view : Views} {m : MemberCluster} {ms : List MemberCluster}
  {userId username user workspace : String} {plugin : Option String} {flag : Bool}
  {access : ClusterAccess} {e : AccessError}

theorem signup_ok {sg : Option Signup} :
    signup d userId username = .ok sg ↔ d.signup userId username = .ok sg := by
  unfold signup
  cases d.signup userId username <;> simp [mapError_ok, mapError_error]

theorem provisioned_ok {sg : Signup} : provisionedSignup d userId username = .ok sg ↔
    d.signup userId username = .ok (some sg) ∧ sg.compliantUsername.isEmpty = false := by
  rw [← signup_ok]
  unfold provisionedSignup
  cases signup d userId username with
  | error e => simp
  | ok found =>
    cases found with
    | none => simp
    | some s =>
      cases hs : s.compliantUsername.isEmpty with
      | true =>
        simp only [hs, if_true, reduceCtorEq, Except.ok.injEq, Option.some.injEq, false_iff,
          not_and, Bool.not_eq_false]
        rintro rfl
        exact hs
      | false =>
        simp only [hs, Bool.false_eq_true, if_false, Except.ok.injEq, Option.some.injEq]
        exact ⟨fun h => ⟨h, h ▸ hs⟩, fun h => h.1⟩

theorem registered_ok : registeredMembers d = .ok ms ↔ d.members = ms ∧ ms ≠ [] := by
  unfold registeredMembers
  cases hm : d.members with
  | nil =>
    simp only [List.isEmpty_nil, if_true, reduceCtorEq, false_iff, not_and]
    exact fun h hne => hne h.symm
  | cons a as =>
    simp only [List.isEmpty_cons, Bool.false_eq_true, if_false, Except.ok.injEq]
    exact ⟨fun h => ⟨h, h ▸ List.cons_ne_nil a as⟩, fun h => h.1⟩

theorem to_member_ok (h : toMember d m user plugin = .ok access) :
    ∃ u, memberUrl d m plugin = .ok u ∧ access = ⟨u, m.bearerToken, user⟩ := by
  unfold toMember at h
  cases hu : memberUrl d m plugin with
  | error e => simp [hu, Except.map] at h
  | ok u =>
    simp only [hu, Except.map, Except.ok.injEq] at h
    exact ⟨u, rfl, h.symm⟩

theorem home_ok (h : home view userId username plugin = .ok access) :
    ∃ sg m, provisionedSignup (view .signup) userId username = .ok sg ∧
      ((view .members).members.find? fun m =>
        m.apiEndpoint = sg.apiEndpoint && m.name = sg.clusterName) = some m ∧
      toMember (view .plugin) m sg.compliantUsername plugin = .ok access := by
  unfold home at h
  cases hs : provisionedSignup (view .signup) userId username with
  | error e => simp [hs] at h
  | ok sg =>
    cases hm : registeredMembers (view .members) with
    | error e => simp [hs, hm] at h
    | ok ms =>
      obtain ⟨rfl, -⟩ := registered_ok.mp hm
      simp only [hs, hm] at h
      split at h
      · simp at h
      · rename_i m hf
        exact ⟨sg, m, rfl, hf, h⟩

theorem named_ok (h : named view userId username workspace plugin flag = .ok access) :
    ∃ user space m, impersonated view userId username flag = .ok user ∧
      (view .workspace).workspace workspace = .ok space ∧
      ((view .members).members.find? fun m => m.name = space.targetCluster) = some m ∧
      toMember (view .plugin) m user plugin = .ok access := by
  unfold named at h
  cases hu : impersonated view userId username flag with
  | error e => simp [hu] at h
  | ok user =>
    cases hw : (view .workspace).workspace workspace with
    | error e => simp [hu, hw] at h
    | ok space =>
      cases hm : registeredMembers (view .members) with
      | error e => simp [hu, hw, hm] at h
      | ok ms =>
        obtain ⟨rfl, -⟩ := registered_ok.mp hm
        simp only [hu, hw, hm] at h
        split at h
        · simp at h
        · rename_i m hf
          exact ⟨user, space, m, rfl, rfl, hf, h⟩

theorem provisioned_error (h : provisionedSignup d userId username = .error e) :
    e ≠ .spaceNotAvailable := by
  rintro rfl
  unfold provisionedSignup signup at h
  cases hs : d.signup userId username with
  | error cause => simp [hs, mapError_error] at h
  | ok found =>
    cases found with
    | none => simp [hs, mapError_ok] at h
    | some sg =>
      simp only [hs, mapError_ok] at h
      split at h <;> simp at h

theorem plugin_url_error {name : String} (h : pluginUrl d m name = .error e) :
    e ≠ .spaceNotAvailable := by
  rintro rfl
  unfold pluginUrl at h
  cases hr : m.routes with
  | none => simp [hr] at h
  | some routes =>
    cases hp : d.plugin name with
    | error cause => simp [hr, hp] at h
    | ok config =>
      cases hc : config.route with
      | none => simp [hr, hp, hc] at h
      | some ref =>
        cases hl : routes ref with
        | error cause => simp [hr, hp, hc, hl] at h
        | ok route =>
          simp only [hr, hp, hc, hl] at h
          split at h <;> simp at h

theorem to_member_error (h : toMember d m user plugin = .error e) : e ≠ .spaceNotAvailable := by
  unfold toMember at h
  cases hu : memberUrl d m plugin with
  | ok u => simp [hu, Except.map] at h
  | error cause =>
    simp only [hu, Except.map, Except.error.injEq] at h
    subst h
    unfold memberUrl at hu
    cases plugin with
    | some name => exact plugin_url_error hu
    | none =>
      cases hp : Url.parse m.apiEndpoint with
      | ok u => simp [hp, mapError_ok] at hu
      | error bad =>
        simp only [hp, mapError_error, Except.error.injEq] at hu
        simp [← hu]

theorem named_not_available
    (h : named view userId username workspace plugin flag = .error .spaceNotAvailable) :
    ∃ cause, (view .workspace).workspace workspace = .error cause := by
  unfold named at h
  cases hu : impersonated view userId username flag with
  | error e =>
    simp only [hu, Except.error.injEq] at h
    subst h
    unfold impersonated at hu
    split at hu
    · simp at hu
    · cases hs : provisionedSignup (view .signup) userId username with
      | ok sg => simp [hs, Except.map] at hu
      | error e =>
        simp only [hs, Except.map, Except.error.injEq] at hu
        exact absurd hu (provisioned_error hs)
  | ok user =>
    cases hw : (view .workspace).workspace workspace with
    | error cause => exact ⟨cause, rfl⟩
    | ok space =>
      simp only [hu, hw, registeredMembers] at h
      split at h
      · rename_i e he
        split at he <;> simp_all
      · split at h
        · simp at h
        · exact absurd rfl (to_member_error h)

theorem resolve_user {name : Option String}
    (h : resolve view userId username name plugin flag = .ok access) :
    (flag = true ∧ username = Identity.publicViewerName ∧ name.isSome = true ∧
      access.username = username) ∨
    ((flag = false ∨ username ≠ Identity.publicViewerName ∨ name = none) ∧
      ∃ sg, provisionedSignup (view .signup) userId username = .ok sg ∧
        access.username = sg.compliantUsername) := by
  cases name with
  | none =>
    obtain ⟨sg, m, hs, -, hm⟩ := home_ok h
    obtain ⟨u, -, rfl⟩ := to_member_ok hm
    exact .inr ⟨.inr (.inr rfl), sg, hs, rfl⟩
  | some w =>
    obtain ⟨user, space, m, hu, -, -, hm⟩ := named_ok h
    obtain ⟨u, -, rfl⟩ := to_member_ok hm
    unfold impersonated at hu
    split at hu
    · rename_i hv
      simp only [Bool.and_eq_true, decide_eq_true_eq] at hv
      exact .inl ⟨hv.1, hv.2, rfl, (Except.ok.inj hu).symm⟩
    · rename_i hv
      simp only [Bool.and_eq_true, decide_eq_true_eq, Classical.not_and_iff_not_or_not,
        Bool.not_eq_true] at hv
      cases hs : provisionedSignup (view .signup) userId username with
      | error e => simp [hs, Except.map] at hu
      | ok sg =>
        simp only [hs, Except.map, Except.ok.injEq] at hu
        refine .inr ⟨?_, sg, rfl, hu.symm⟩
        rcases hv with hf | hn
        · exact .inl hf
        · exact .inr (.inl hn)

/-! ## The serving member -/

/-- A URL of a member cluster: its parsed endpoint or, for a plugin, what the plugin's route
comes to among the cluster's own. -/
inductive Reaches (d : Directory) (m : MemberCluster) : Option String → Url → Prop
  | endpoint {u : Url} (parsed : Url.parse m.apiEndpoint = .ok u) : Reaches d m none u
  | route {p : String} {u : Url} {config : ProxyPlugin} {ref : RouteRef} {route : Route}
      {routes : RouteRef → Lookup Route} (own : m.routes = some routes)
      (configured : d.plugin p = .ok config) (defined : config.route = some ref)
      (found : routes ref = .ok route) (admitted : route.url? = some (.ok u)) :
      Reaches d m (some p) u

theorem memberUrl_ok_iff {u : Url} : memberUrl d m plugin = .ok u ↔ Reaches d m plugin u := by
  constructor
  · intro h
    cases plugin with
    | none =>
      cases hp : Url.parse m.apiEndpoint with
      | error bad => simp [memberUrl, hp, mapError_error] at h
      | ok v =>
        simp only [memberUrl, hp, mapError_ok, Except.ok.injEq] at h
        exact .endpoint (h ▸ hp)
    | some p =>
      simp only [memberUrl, pluginUrl] at h
      split at h
      · simp at h
      · rename_i routes hr
        split at h
        · simp at h
        · rename_i config hc
          split at h
          · simp at h
          · rename_i ref hd
            split at h
            · simp at h
            · rename_i route hf
              split at h
              · simp at h
              · simp at h
              · rename_i v hu
                exact .route hr hc hd hf (Except.ok.inj h ▸ hu)
  · intro h
    cases h with
    | endpoint parsed => simp only [memberUrl, parsed, mapError_ok]
    | route own configured defined found admitted =>
      simp only [memberUrl, pluginUrl, own, configured, defined, found, admitted]

theorem Reaches.unique {u v : Url} (hu : Reaches d m plugin u) (hv : Reaches d m plugin v) :
    u = v :=
  Except.ok.inj ((memberUrl_ok_iff.mpr hu).symm.trans (memberUrl_ok_iff.mpr hv))

/-- The records that choose a member cluster: without a workspace the caller's signup, by name
and endpoint, with one the workspace, by name. -/
inductive Chosen (view : Views) (userId username : String) :
    Option String → MemberCluster → Prop
  | home {sg : Signup} {m : MemberCluster}
      (signup : provisionedSignup (view .signup) userId username = .ok sg)
      (endpoint : m.apiEndpoint = sg.apiEndpoint) (name : m.name = sg.clusterName) :
      Chosen view userId username none m
  | named {w : String} {space : Workspace} {m : MemberCluster}
      (workspace : (view .workspace).workspace w = .ok space)
      (name : m.name = space.targetCluster) : Chosen view userId username (some w) m

structure LeadsTo (view : Views) (plugin : Option String) (access : ClusterAccess)
    (m : MemberCluster) : Prop where
  registered : m ∈ (view .members).members
  reached : Reaches (view .plugin) m plugin access.url
  token : access.token = m.bearerToken

theorem leads_of_member (hm : m ∈ (view .members).members)
    (h : toMember (view .plugin) m user plugin = .ok access) : LeadsTo view plugin access m := by
  obtain ⟨u, hu, rfl⟩ := to_member_ok h
  exact ⟨hm, memberUrl_ok_iff.mp hu, rfl⟩

/-- One registered member serves a resolved access: URL and token are both its own. -/
theorem resolve_member {name : Option String}
    (h : resolve view userId username name plugin flag = .ok access) :
    ∃ m, LeadsTo view plugin access m ∧ Chosen view userId username name m := by
  cases name with
  | none =>
    obtain ⟨sg, m, hs, hf, hm⟩ := home_ok h
    have hwhich := List.find?_some hf
    simp only [Bool.and_eq_true, decide_eq_true_eq] at hwhich
    exact ⟨m, leads_of_member (List.mem_of_find?_eq_some hf) hm, .home hs hwhich.1 hwhich.2⟩
  | some w =>
    obtain ⟨user, space, m, -, hw, hf, hm⟩ := named_ok h
    have hwhich := List.find?_some hf
    exact ⟨m, leads_of_member (List.mem_of_find?_eq_some hf) hm,
      .named hw (of_decide_eq_true hwhich)⟩

end Access

end WorkspaceGateway
