import WorkspaceGateway.Proofs.ActingUser
import WorkspaceGateway.Proofs.MemberTokens

/-!
# The cluster that serves a request

A request that names a workspace is served by the workspace's cluster. Without a name it is served
by the cluster that the caller's signup records, whatever cluster the home workspace has: the
records come from two lists of the catalog, and nothing holds them together. Where they agree,
both ways to the home workspace end at one member.
-/

set_option autoImplicit false

namespace WorkspaceGateway

open Catalog

namespace Proxy

structure SentFor (g : Gateway) (view : Views) (i : Identity) (r : Request) (p : RequestPath)
    (x : Sent) : Prop where
  caller : Credential.authenticate g.readToken r.headers = .ok i
  path : RequestPath.parse r.target.path = .ok p
  sent : (handle g view r).sent = some x

variable {g : Gateway} {s : Snapshot} {ns : String} {routes : Snapshot.AttachedRoutes}
  {i caller : Identity} {p : RequestPath} {r : Request} {x : Sent} {w : Workspace}
  {ws : List Workspace} {m : MemberCluster}

theorem letInto_unique {view : Views} {v : Workspace} (hv : LetInto g view i p v)
    (hw : LetInto g view i p w) : v = w := by
  obtain ⟨j, vs, hl, hv⟩ := hv
  obtain ⟨k, ws, hl', hw⟩ := hw
  obtain ⟨-, rfl⟩ := Prod.mk.inj (Except.ok.inj (hl.symm.trans hl'))
  exact Except.ok.inj (hv.symm.trans hw)

theorem letInto_name {view : Views} {n : String} (hw : LetInto g view i p w)
    (hn : p.workspace = some n) : w.name = n := by
  obtain ⟨caller, ws, -, hw⟩ := hw
  rw [hn] at hw
  exact Workspace.select_name (Workspace.authorize_ok_iff.mp hw).1

theorem letInto_space (hw : LetInto g (s.directory ns routes).steady i p w) :
    ∃ e, s.space? w.name = some e ∧ w.targetCluster = e.targetCluster := by
  obtain ⟨caller, ws, hl, hw⟩ := hw
  have hmem := Workspace.select_mem (Workspace.authorize_ok_iff.mp hw).1
  have hlisted : ∃ j, w ∈ s.workspaces j p.workspace := by
    rcases accessible_ok hl with ⟨-, ho⟩ | ⟨-, -, -, -, ho⟩ <;>
      exact ⟨_, Except.ok.inj ho ▸ hmem⟩
  obtain ⟨j, hj⟩ := hlisted
  obtain ⟨signup, user, e, b, -, he, -, hwe⟩ := Snapshot.mem_workspaces hj
  exact ⟨e, he, by rw [hwe]; rfl⟩

theorem serving_member (h : SentFor g (s.directory ns routes).steady i r p x) :
    ∃ w m, LetInto g (s.directory ns routes).steady i p w ∧
      SentTo (s.directory ns routes).steady r p x m ∧
      (p.workspace.isSome = true → m.name = w.targetCluster) ∧
      (p.workspace = none → ∃ sg, s.signup i.userId i.username = some sg ∧
        m.name = sg.clusterName ∧ m.apiEndpoint = sg.apiEndpoint) := by
  obtain ⟨j, q, caller, ws, w, m, ha, hq, hl, hw, hchosen, hsent⟩ := sent_to_member h.sent
  obtain rfl : j = i := Except.ok.inj (ha.symm.trans h.caller)
  obtain rfl : q = p := Except.ok.inj (hq.symm.trans h.path)
  have hin : LetInto g (s.directory ns routes).steady j q w := ⟨caller, ws, hl, hw⟩
  have hspace := letInto_space hin
  have hnamed (n : String) := letInto_name hin (n := n)
  refine ⟨w, m, hin, hsent, ?_⟩
  generalize q.workspace = name at hl hchosen hnamed
  cases hchosen with
  | home signup endpoint hname =>
    refine ⟨fun h => absurd h (by decide), fun _ => ?_⟩
    -- Only for a name may the public viewer stand in, so the signup is the caller's own.
    rcases accessible_ok hl with ⟨rfl, -⟩ | ⟨-, -, -, ⟨n, hn⟩, -⟩
    · exact ⟨_, (Snapshot.provisioned_iff.mp signup).1, hname, endpoint⟩
    · exact absurd hn (by simp)
  | @named n space _ workspace hname =>
    refine ⟨fun _ => ?_, fun h => absurd h (by simp)⟩
    obtain ⟨e, he, hcluster⟩ := hspace
    rw [hnamed n rfl] at he
    have hrecord : s.workspace n = .ok space := workspace
    simp only [Snapshot.workspace, he, Except.ok.injEq] at hrecord
    rw [hname, hcluster, ← hrecord]
    rfl

/-! ## One cluster -/

/-- In every loaded catalog a request for a named workspace is served by the one member that the
workspace's cluster names, and one without a name by the one that the caller's signup records.
Where the signup records the cluster of the home workspace, that workspace is served by the same
member under its name. -/
theorem serving_cluster (g : Gateway) (files : Files) (d : Document) (s : Snapshot) (ns : String)
    (routes : Snapshot.AttachedRoutes) (hs : Snapshot.ofDocument files d = .ok s) (i : Identity) :
    (∀ r p x, SentFor g (s.directory ns routes).steady i r p x →
      ∃ w m, LetInto g (s.directory ns routes).steady i p w ∧
        SentTo (s.directory ns routes).steady r p x m ∧
        (∀ k ∈ s.members routes, k.name = m.name → k = m) ∧
        (p.workspace.isSome = true → m.name = w.targetCluster) ∧
        (p.workspace = none → ∃ sg, s.signup i.userId i.username = some sg ∧
          m.name = sg.clusterName ∧ m.apiEndpoint = sg.apiEndpoint)) ∧
    ∀ r p x r' p' x' w sg, SentFor g (s.directory ns routes).steady i r p x →
      SentFor g (s.directory ns routes).steady i r' p' x' →
      p.workspace = none → LetInto g (s.directory ns routes).steady i p w →
      p'.workspace = some w.name → s.signup i.userId i.username = some sg →
      sg.clusterName = w.targetCluster →
      ∃ m, SentTo (s.directory ns routes).steady r p x m ∧
        SentTo (s.directory ns routes).steady r' p' x' m := by
  have hregistered {r : Request} {p : RequestPath} {x : Sent} {m : MemberCluster}
      (h : SentTo (s.directory ns routes).steady r p x m) : m ∈ s.members routes := by
    obtain ⟨access, hleads, -⟩ := h
    exact hleads.registered
  constructor
  · intro r p x h
    obtain ⟨w, m, hw, hsent, hnamed, hhome⟩ := serving_member h
    exact ⟨w, m, hw, hsent,
      fun k hk hn => Snapshot.member_unique hs hk (hregistered hsent) hn, hnamed, hhome⟩
  · intro r p x r' p' x' w sg h h' hp hw hp' hsg hcluster
    obtain ⟨v, m, hv, hsent, -, hhome⟩ := serving_member h
    obtain ⟨v', m', hv', hsent', hnamed, -⟩ := serving_member h'
    obtain rfl := letInto_unique hv hw
    obtain ⟨sg', hsg', hname, -⟩ := hhome hp
    obtain rfl : sg' = sg := Option.some.inj (hsg'.symm.trans hsg)
    -- The space of the workspace is found by its name on both ways.
    obtain ⟨e, he, htarget⟩ := letInto_space hv
    obtain ⟨e', he', htarget'⟩ := letInto_space hv'
    rw [letInto_name hv' hp', he, Option.some.injEq] at he'
    have hname' : m'.name = e.targetCluster :=
      (hnamed (by simp [hp'])).trans (he' ▸ htarget')
    have hsame : m' = m := Snapshot.member_unique hs (hregistered hsent') (hregistered hsent)
      (hname'.trans (htarget.symm.trans (hcluster.symm.trans hname.symm)))
    exact ⟨m, hsent, hsame ▸ hsent'⟩

def homeByName : Request :=
  { smithRequest with target := ⟨"/workspaces/smith/api/v1/pods", none⟩ }

theorem home_served_alike :
    ∃ x x' m, SentFor smithGateway smithViews smith smithRequest ⟨none, none, "/api/v1/pods"⟩ x ∧
      SentFor smithGateway smithViews smith homeByName ⟨none, some "smith", "/api/v1/pods"⟩ x' ∧
      SentTo smithViews smithRequest ⟨none, none, "/api/v1/pods"⟩ x m ∧
      SentTo smithViews homeByName ⟨none, some "smith", "/api/v1/pods"⟩ x' m := by
  have hs : Snapshot.ofDocument (fun _ => .error .missing) smithCatalog.document =
      .ok smithCatalog := rfl
  have hsent : (handle smithGateway smithViews smithRequest).sent.isSome = true := by
    decide +kernel
  have hsent' : (handle smithGateway smithViews homeByName).sent.isSome = true := by
    decide +kernel
  obtain ⟨x, hx⟩ := Option.isSome_iff_exists.mp hsent
  obtain ⟨x', hx'⟩ := Option.isSome_iff_exists.mp hsent'
  have h : SentFor smithGateway smithViews smith smithRequest ⟨none, none, "/api/v1/pods"⟩ x :=
    ⟨smith_authenticated, smith_path, hx⟩
  have h' : SentFor smithGateway smithViews smith homeByName
      ⟨none, some "smith", "/api/v1/pods"⟩ x' :=
    ⟨smith_authenticated, ok_of_toOption (by decide +kernel), hx'⟩
  have hw : LetInto smithGateway smithViews smith ⟨none, none, "/api/v1/pods"⟩
      ⟨"smith", .home, ["dev"], "smith", "admin", "member"⟩ :=
    ⟨smith, [⟨"smith", .home, ["dev"], "smith", "admin", "member"⟩],
      ok_of_toOption (by decide +kernel), ok_of_toOption (by decide +kernel)⟩
  obtain ⟨m, hm, hm'⟩ := (serving_cluster smithGateway _ _ smithCatalog "" (fun _ => none) hs
    smith).2 _ _ _ _ _ _ _ ⟨"smith", "smith", "member", "https://member"⟩ h h' rfl hw rfl
    (by decide +kernel) rfl
  exact ⟨x, x', m, h, h', hm, hm'⟩

def movedCatalog : Snapshot :=
  ⟨⟨[⟨"member", "https://member", "", some "token", none, false⟩,
      ⟨"other", "https://other", "", some "other-token", none, false⟩],
    [⟨"smith", "user-1", "smith", "member", none⟩],
    [⟨"smith", "other", none, ["dev"], "smith"⟩],
    [⟨"smith", "smith", "admin"⟩], [], []⟩, [("member", "token"), ("other", "other-token")]⟩

def movedViews : Views := (movedCatalog.directory "" fun _ => none).steady

/-- The home workspace that lets the request in has a cluster, and another serves the request. -/
theorem home_served_elsewhere :
    Snapshot.ofDocument (fun _ => .error .missing) movedCatalog.document = .ok movedCatalog ∧
    ∃ x w, SentFor smithGateway movedViews smith smithRequest ⟨none, none, "/api/v1/pods"⟩ x ∧
      LetInto smithGateway movedViews smith ⟨none, none, "/api/v1/pods"⟩ w ∧
      ∀ m, SentTo movedViews smithRequest ⟨none, none, "/api/v1/pods"⟩ x m →
        m.name ≠ w.targetCluster := by
  have hsent : ((handle smithGateway movedViews smithRequest).sent.map fun x =>
      x.outbound.headers.values "authorization") = some [Octets.ofText "Bearer token"] := by
    decide +kernel
  obtain ⟨x, hx, hauth⟩ := Option.map_eq_some_iff.mp hsent
  refine ⟨rfl, x, ⟨"smith", .home, ["dev"], "smith", "admin", "other"⟩,
    ⟨smith_authenticated, smith_path, hx⟩,
    ⟨smith, [⟨"smith", .home, ["dev"], "smith", "admin", "other"⟩],
      ok_of_toOption (by decide +kernel), ok_of_toOption (by decide +kernel)⟩, ?_⟩
  rintro m ⟨access, hleads, hd⟩ hname
  have hplain : smithRequest.headers.keepsSubprotocols = false := by decide +kernel
  have hvalues := Outbound.direct_authorization hd
  rw [hauth, hplain] at hvalues
  have htoken : "Bearer token" = "Bearer " ++ m.bearerToken := by
    rw [← hleads.token]
    exact Octets.ofText_injective (List.cons.inj hvalues).1
  -- The one member of that name has another token.
  have hm : m ∈ [(⟨"member", "https://member", "", "token", none⟩ : MemberCluster),
      ⟨"other", "https://other", "", "other-token", none⟩] := hleads.registered
  rcases List.mem_cons.mp hm with rfl | hm
  · exact absurd hname (by decide)
  · obtain rfl := List.mem_singleton.mp hm
    exact absurd htoken (by decide)

end Proxy

end WorkspaceGateway
