import WorkspaceGateway.Proofs.CatalogRuns
import WorkspaceGateway.Proofs.CompleteMediation
import WorkspaceGateway.Proofs.RequestLookups

/-!
# A catalog that changes during a request

Each lookup of a request reads the catalog as it is at that moment, and nothing holds the catalog
still from one lookup to the next. A request is answered as by one catalog where that catalog has
the answers to all its questions. While no reload succeeds there is always one: routes that are
attached meanwhile show only in the list of the members, so the catalog at that lookup has all the
answers. Otherwise what the request gets may be what no catalog alone would give; what is sent was
still let in by the lists of catalogs that held at their moments, and it goes to a member that was
registered at its own.
-/

set_option autoImplicit false

namespace WorkspaceGateway

open Catalog

structure Interleaving where
  start : Store
  changes : List Change
  /-- How many of the changes come before the lookup at each moment. -/
  before : Reading → Nat

namespace Interleaving

def catalog (x : Interleaving) (n : Nat) : Store := x.start.run (x.changes.take n)

def readAt (x : Interleaving) (reading : Reading) : Store := x.catalog (x.before reading)

def views (x : Interleaving) : Views := fun reading => (x.readAt reading).directory

def Ordered (x : Interleaving) : Prop :=
  Proxy.readings.Pairwise fun earlier later => x.before earlier ≤ x.before later

/-- Every reload between two catalogs is refused. Routes may be attached. -/
def Unreloaded (x : Interleaving) (first last : Nat) : Prop :=
  ∀ n, first ≤ n → n < last → ∀ files, x.changes[n]? = some (.reload files) →
    ∃ e, Refused files x.start.path e

variable {x : Interleaving} {first last : Nat}

theorem catalog_succ {n : Nat} {change : Change} (h : x.changes[n]? = some change) :
    x.catalog (n + 1) = (x.catalog n).apply change := by
  rw [catalog, catalog, List.take_add_one, h, Option.toList_some, Store.run_append]
  rfl

theorem catalog_place (x : Interleaving) (n : Nat) :
    (x.catalog n).path = x.start.path ∧ (x.catalog n).namespace = x.start.namespace :=
  x.start.run_place (x.changes.take n)

/-- One change leaves the snapshot what it was, unless it is a reload that succeeds. -/
theorem snapshot_succ (h : x.Unreloaded first last) {n : Nat} (hf : first ≤ n) (hl : n < last) :
    (x.catalog (n + 1)).snapshot = (x.catalog n).snapshot := by
  cases hc : x.changes[n]? with
  | none =>
    rw [catalog, catalog, List.take_add_one, hc]
    simp
  | some change =>
    rw [catalog_succ hc]
    cases change with
    | attach cluster routes => rfl
    | reload files =>
      obtain ⟨e, hrefused⟩ := h n hf hl files hc
      rw [← (x.catalog_place n).1, ← load_error_iff] at hrefused
      exact congrArg Store.snapshot
        (Store.refresh_of_error (Store.reload_error_iff.mpr hrefused))

theorem snapshot_of_unreloaded (h : x.Unreloaded first last) {n : Nat} (hf : first ≤ n)
    (hl : n ≤ last) : (x.catalog n).snapshot = (x.catalog first).snapshot := by
  induction hf with
  | refl => rfl
  | @step n hn ih => exact (snapshot_succ h hn hl).trans (ih (Nat.le_of_succ_le hl))

end Interleaving

theorem Question.alike_of_snapshot {view view' : Views} {q : Question} {c c' : Store}
    (hs : c.snapshot = c'.snapshot) (hn : c.namespace = c'.namespace) (hq : q ≠ .members)
    (hc : view q.reading = c.directory) (hc' : view' q.reading = c'.directory) :
    q.Alike view view' := by
  cases q with
  | members => exact absurd rfl hq
  | banned | own | viewer | signup | workspace | plugin =>
    simp only [reading] at hc hc'
    simp only [Alike, hc, hc', Store.directory, Snapshot.directory, hs, hn]

/-! ## One catalog -/

namespace Router

/-- A catalog that has the answers to all the questions of a request, which is then answered as if
nothing else had been read. -/
structure AnsweredBy (g : Gateway) (x : Interleaving) (r : Request) (c : Store) : Prop where
  alike : AnsweredAlike x.views c.directory.steady (asked g x.views r)
  outcome : handle g x.views r = handle g c.directory.steady r

variable {g : Gateway} {r : Request} {x : Interleaving} {i : Identity} {first last : Nat}

theorem AnsweredBy.of_alike {c : Store}
    (h : AnsweredAlike x.views c.directory.steady (asked g x.views r)) : AnsweredBy g x r c :=
  ⟨h, handle_alike h⟩

/-- Where no reload succeeds, the catalog that the members are read from has all the answers, and
when they are not read each has. -/
theorem alike_while_unreloaded {n : Nat} (hx : x.Unreloaded first last)
    (hq : ∀ q ∈ asked g x.views r, first ≤ x.before q.reading ∧ x.before q.reading ≤ last)
    (hf : first ≤ n) (hl : n ≤ last)
    (hm : .members ∈ asked g x.views r → n = x.before .members) :
    AnsweredAlike x.views (x.catalog n).directory.steady (asked g x.views r) := by
  intro q hmem
  by_cases hmembers : q = .members
  · subst hmembers
    exact Question.alike_of_eq (congrArg (fun k => (x.catalog k).directory) (hm hmem).symm)
  · obtain ⟨hqf, hql⟩ := hq q hmem
    have hsnapshot : (x.readAt q.reading).snapshot = (x.catalog n).snapshot :=
      (x.snapshot_of_unreloaded hx hqf hql).trans (x.snapshot_of_unreloaded hx hf hl).symm
    have hnamespace : (x.readAt q.reading).namespace = (x.catalog n).namespace :=
      (x.catalog_place _).2.trans (x.catalog_place n).2.symm
    exact Question.alike_of_snapshot hsnapshot hnamespace hmembers rfl rfl

theorem answered_while_unreloaded (hx : x.Unreloaded first last)
    (hq : ∀ q ∈ asked g x.views r, first ≤ x.before q.reading ∧ x.before q.reading ≤ last) :
    (.members ∈ asked g x.views r → AnsweredBy g x r (x.readAt .members)) ∧
    (.members ∉ asked g x.views r → ∀ n, first ≤ n → n ≤ last →
      AnsweredBy g x r (x.catalog n)) := by
  constructor
  · intro hm
    obtain ⟨hf, hl⟩ := hq .members hm
    exact .of_alike (alike_while_unreloaded hx hq hf hl fun _ => rfl)
  · intro hm n hf hl
    exact .of_alike (alike_while_unreloaded hx hq hf hl fun h => absurd h hm)

/-! ## More than one -/

def ListedIn (s : Snapshot) (caller : Identity) (w : Workspace) : Prop :=
  ∃ signup user e b, s.names? caller = some (signup, user) ∧ s.space? w.name = some e ∧
    s.Grants user e b ∧ w = Snapshot.workspaceOf (some signup) b.role e

theorem listed_in_catalog {name : Option String} {caller : Identity} {ws : List Workspace}
    {w : Workspace} (h : Proxy.ListedFor g x.views i name caller ws) (hw : w ∈ ws) :
    caller = i ∧ ListedIn (x.readAt .ownWorkspaces).snapshot i w ∨
      caller = .publicViewer ∧ g.publicViewer = true ∧
        ListedIn (x.readAt .viewerWorkspaces).snapshot .publicViewer w := by
  cases h with
  | own listed =>
    exact .inl ⟨rfl, Snapshot.mem_workspaces (Except.ok.inj listed ▸ hw)⟩
  | viewer enabled other named listed lacking shared holding =>
    exact .inr ⟨rfl, enabled, Snapshot.mem_workspaces (Except.ok.inj shared ▸ hw)⟩

/-- A request asks in the order of its endpoint and gets what its answers make of it, so the same
as by one catalog where that has the same answers. While no reload succeeds between its lookups,
whatever routes are attached there, the catalog that the members are read from has them, and every
one when the members are not read. Whatever else falls between them, what is sent was let in by a
list of bans and a binding that held when they were read, and it goes to a member that was
registered when the members were read, with the token of that member. -/
theorem answered_by_catalogs_read (g : Gateway) (x : Interleaving) (r : Request) :
    InOrder (asked g x.views r) (Endpoint.ofPath r.target.path).readings ∧
    (∀ view, AnsweredAlike x.views view (asked g x.views r) →
      handle g x.views r = handle g view r) ∧
    (∀ first last, x.Unreloaded first last →
      (∀ q ∈ asked g x.views r, first ≤ x.before q.reading ∧ x.before q.reading ≤ last) →
      (.members ∈ asked g x.views r → AnsweredBy g x r (x.readAt .members)) ∧
      (.members ∉ asked g x.views r → ∀ n, first ≤ n → n ≤ last →
        AnsweredBy g x r (x.catalog n))) ∧
    ∀ y, (handle g x.views r).sent = some y → ∃ i p caller w m,
      Admitted g x.views r.headers i ∧ RequestPath.parse r.target.path = .ok p ∧
      (caller = i ∧ ListedIn (x.readAt .ownWorkspaces).snapshot i w ∨
        caller = .publicViewer ∧ g.publicViewer = true ∧
          ListedIn (x.readAt .viewerWorkspaces).snapshot .publicViewer w) ∧
      (∀ n, p.workspace = some n → w.name = n) ∧
      (∀ n, namespaceOf p.rest = some n → n ∈ w.namespaces) ∧
      Access.Chosen x.views caller.userId caller.username p.workspace m ∧
      Proxy.SentTo x.views r.stripped p y m := by
  refine ⟨asked_inOrder g x.views r, fun view => handle_alike,
    fun first last => answered_while_unreloaded, fun y hy => ?_⟩
  have hproxied := handle_sent hy
  obtain ⟨access, q, hroute, -, -, -⟩ := Proxy.handle_sent hproxied
  obtain ⟨j, -, ha', hb, -, -⟩ := Proxy.route_ok hroute
  obtain ⟨i, p, caller, ws, w, m, ha, hp, hl, hw, hchosen, hsent⟩ :=
    Proxy.sent_to_member hproxied
  obtain rfl : j = i := Except.ok.inj (ha'.symm.trans ha)
  obtain ⟨hselect, hnamespace⟩ := Workspace.authorize_ok_iff.mp hw
  exact ⟨j, p, caller, w, m, admitted_stripped (admitted_iff.mpr ⟨ha, hb⟩), hp,
    listed_in_catalog (Proxy.accessible_listedFor hl) (Workspace.select_mem hselect),
    fun n hn => Workspace.select_name (hn ▸ hselect), hnamespace, hchosen, hsent⟩

def pluginCatalog : Snapshot :=
  ⟨{ smithCatalog.document with plugins := [⟨"plugin", "", some "plugins", some "route"⟩] },
    smithCatalog.tokens⟩

def spreadOut : Reading → Nat
  | .banned | .ownWorkspaces | .viewerWorkspaces => 0
  | .signup | .workspace => 1
  | .members | .plugin => 3

theorem spreadOut_le (reading : Reading) : spreadOut reading ≤ 3 := by
  cases reading <;> decide

/-- While smith's request for the plugin is handled the catalog file is lost, the routes of the
member cluster are attached, and the file is still not there. -/
def routesMeanwhile : Interleaving :=
  ⟨⟨"catalog", "", pluginCatalog, []⟩,
    [.reload fun _ => .error .missing, .attach "member" memberRoutes,
      .reload fun _ => .error .missing], spreadOut⟩

def pluginRequest : Request :=
  { smithRequest with target := ⟨"/plugins/plugin/api/v1/pods", none⟩ }

/-- The request is answered as by the catalog that has the routes, and sent on. The catalog that its
caller was listed in would not have sent it. -/
theorem routes_attached_meanwhile :
    routesMeanwhile.Ordered ∧ routesMeanwhile.Unreloaded 0 3 ∧
    AnsweredAlike routesMeanwhile.views (routesMeanwhile.readAt .members).directory.steady
      (asked smithGateway routesMeanwhile.views pluginRequest) ∧
    handle smithGateway routesMeanwhile.views pluginRequest =
      handle smithGateway (routesMeanwhile.readAt .members).directory.steady pluginRequest ∧
    (handle smithGateway (routesMeanwhile.catalog 0).directory.steady pluginRequest).sent = none ∧
    ∃ y i p caller w m,
      (handle smithGateway routesMeanwhile.views pluginRequest).sent = some y ∧
      Admitted smithGateway routesMeanwhile.views pluginRequest.headers i ∧
      (caller = i ∧ ListedIn (routesMeanwhile.readAt .ownWorkspaces).snapshot i w ∨
        caller = .publicViewer ∧ smithGateway.publicViewer = true ∧
          ListedIn (routesMeanwhile.readAt .viewerWorkspaces).snapshot .publicViewer w) ∧
      Proxy.SentTo routesMeanwhile.views pluginRequest.stripped p y m := by
  obtain ⟨-, hanswers, hunreloaded, hsent⟩ :=
    answered_by_catalogs_read smithGateway routesMeanwhile pluginRequest
  have hlost : routesMeanwhile.Unreloaded 0 3 := by
    intro n _ _ files hc
    have hmem := List.mem_of_getElem? hc
    simp only [routesMeanwhile, List.mem_cons, reduceCtorEq, Change.reload.injEq,
      List.not_mem_nil, or_false, false_or, or_self] at hmem
    subst hmem
    exact ⟨_, .unreadable rfl⟩
  have hbetween (q : Question)
      (_ : q ∈ asked smithGateway routesMeanwhile.views pluginRequest) :
      0 ≤ routesMeanwhile.before q.reading ∧ routesMeanwhile.before q.reading ≤ 3 :=
    ⟨Nat.zero_le _, spreadOut_le q.reading⟩
  have hmembers : .members ∈ asked smithGateway routesMeanwhile.views pluginRequest := by
    decide +kernel
  have hone := (hunreloaded 0 3 hlost hbetween).1 hmembers
  have hsome : (handle smithGateway routesMeanwhile.views pluginRequest).sent.isSome = true := by
    rw [hanswers _ hone.alike]
    decide +kernel
  obtain ⟨y, hy⟩ := Option.isSome_iff_exists.mp hsome
  obtain ⟨i, p, caller, w, m, ha, -, hl, -, -, -, hm⟩ := hsent y hy
  have hnone : (handle smithGateway (routesMeanwhile.catalog 0).directory.steady
      pluginRequest).sent.isNone = true := by decide +kernel
  exact ⟨by unfold Interleaving.Ordered; decide, hlost, hone.alike, hone.outcome,
    Option.isNone_iff_eq_none.mp hnone, y, i, p, caller, w, m, hy, ha, hl, hm⟩

/-! ### A request that no catalog alone explains -/

def catalogFiles (text : String) : Files := fun path =>
  if path = "catalog" then .ok (Octets.ofText text) else .error .missing

def heldText : String :=
  "memberClusters:\n- name: a\n  apiEndpoint: https://a\n  token: s\n" ++
    "signups:\n- name: smith\n  compliantUsername: u\n" ++
    "spaces:\n- name: w\n  targetCluster: a\n" ++
    "spaceBindings:\n- space: w\n  user: u\n"

def movedText : String :=
  "memberClusters:\n- name: b\n  apiEndpoint: https://b\n  token: t\n" ++
    "signups:\n- name: smith\n  compliantUsername: u\n" ++
    "spaces:\n- name: w\n  targetCluster: b\n"

def held : Snapshot :=
  ⟨⟨[⟨"a", "https://a", "", some "s", none, false⟩], [⟨"smith", "", "u", "", none⟩],
    [⟨"w", "a", none, [], ""⟩], [⟨"w", "u", ""⟩], [], []⟩, [("a", "s")]⟩

def moved : Snapshot :=
  ⟨⟨[⟨"b", "https://b", "", some "t", none, false⟩], [⟨"smith", "", "u", "", none⟩],
    [⟨"w", "b", none, [], ""⟩], [], [], []⟩, [("b", "t")]⟩

def afterLists : Reading → Nat
  | .banned | .ownWorkspaces | .viewerWorkspaces => 0
  | _ => 1

def movedMeanwhile : Interleaving :=
  ⟨⟨"catalog", "", held, []⟩, [.reload (catalogFiles movedText)], afterLists⟩

def workspaceRequest : Request :=
  { smithRequest with target := ⟨"/workspaces/w/api/v1/pods", none⟩ }

def mixedViews : Views
  | .banned | .ownWorkspaces | .viewerWorkspaces => held.directory "" fun _ => none
  | _ => moved.directory "" fun _ => none

def tokenSent (view : Views) : Option (List Octets) :=
  (handle smithGateway view workspaceRequest).sent.map fun y =>
    y.outbound.headers.values "authorization"

/-- Both catalogs load and the moments are in order. The request is let in by the first and sent to
the cluster of the second, which neither would do alone. -/
theorem two_catalogs_mixed :
    Store.load (catalogFiles heldText) "catalog" "" = .ok movedMeanwhile.start ∧
    Snapshot.load (catalogFiles movedText) "catalog" = .ok moved ∧
    movedMeanwhile.Ordered ∧
    ∀ n, handle smithGateway movedMeanwhile.views workspaceRequest ≠
      handle smithGateway (movedMeanwhile.catalog n).directory.steady workspaceRequest := by
  have hheld : Snapshot.load (catalogFiles heldText) "catalog" = .ok held :=
    load_of_text (d := held.document) (if_pos rfl) (by decide +kernel)
  have hmoved : Snapshot.load (catalogFiles movedText) "catalog" = .ok moved :=
    load_of_text (d := moved.document) (if_pos rfl) (by decide +kernel)
  have hafter (n : Nat) : movedMeanwhile.catalog (n + 1) = ⟨"catalog", "", moved, []⟩ := by
    have htake : movedMeanwhile.changes.take (n + 1) = [.reload (catalogFiles movedText)] := by
      simp [movedMeanwhile]
    rw [Interleaving.catalog, htake, Store.run, List.foldl_cons, List.foldl_nil, Store.apply]
    exact Store.refresh_of_loaded hmoved
  have hviews : movedMeanwhile.views = mixedViews := by
    funext reading
    cases reading with
    | banned | ownWorkspaces | viewerWorkspaces => rfl
    | signup | workspace | members | plugin => exact congrArg Store.directory (hafter 0)
  have hmixed : tokenSent movedMeanwhile.views = some [Octets.ofText "Bearer t"] := by
    rw [hviews]
    decide +kernel
  refine ⟨?_, hmoved, ?_, fun n heq => ?_⟩
  · rw [Store.load, hheld]
    rfl
  · unfold Interleaving.Ordered
    decide
  · have hsame : tokenSent (movedMeanwhile.catalog n).directory.steady =
        some [Octets.ofText "Bearer t"] := by
      rw [← hmixed, tokenSent, tokenSent, heq]
    cases n with
    | zero =>
      have hfirst : tokenSent (held.directory "" fun _ => none).steady =
          some [Octets.ofText "Bearer s"] := by decide +kernel
      exact absurd (hfirst.symm.trans hsame) (by decide)
    | succ n =>
      rw [hafter n] at hsame
      have hsecond : tokenSent (moved.directory "" fun _ => none).steady = none := by
        decide +kernel
      exact absurd (hsecond.symm.trans hsame) (by decide)

end Router

end WorkspaceGateway
