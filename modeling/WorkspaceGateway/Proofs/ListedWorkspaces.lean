import WorkspaceGateway.Proofs.WorkspaceAnswers

/-!
# The list of workspaces

A binding may be repeated, may name no space, and may be to a space that another user has too. The
list shows each space that is bound to a user once: at the place of the user's first binding to it
and in the role of that binding. What the public viewer has comes after the caller's own, without
the spaces that are there already.
-/

set_option autoImplicit false

namespace WorkspaceGateway

open Catalog

/-! ## In a catalog -/

namespace Catalog.Snapshot

variable {s : Snapshot} {i : Identity} {signup user : String} {shown : List String}
  {w : Workspace} {ws own more : List Workspace}

/-- The place of the first binding to a space among bindings of which some count. -/
def place (p : BindingEntry → Bool) (bs : List BindingEntry) (space : String) : Nat :=
  bs.findIdx fun b => p b && b.space = space

def boundAt (s : Snapshot) (user space : String) : Nat :=
  place (fun b => b.user = user) s.document.bindings space

/-- The spaces that bindings of a user name directly, in the order of the first of them and with
its role, without those that are shown already. -/
structure Listing (s : Snapshot) (signup user : String) (shown : List String)
    (ws : List Workspace) : Prop where
  mem_iff (w : Workspace) : w ∈ ws ↔ w.name ∉ shown ∧ ∃ e b, s.space? e.name = some e ∧
    s.binding? user e.name = some b ∧ w = workspaceOf (some signup) b.role e
  ordered : ws.Pairwise fun v w => s.boundAt user v.name < s.boundAt user w.name

namespace Listing

theorem distinct (h : s.Listing signup user shown ws) :
    ws.Pairwise fun v w => v.name ≠ w.name :=
  h.ordered.imp fun hlt hn => Nat.ne_of_lt hlt (congrArg (s.boundAt user) hn)

theorem nodup (h : s.Listing signup user shown ws) : ws.Nodup :=
  h.distinct.imp fun hne heq => hne (congrArg Workspace.name heq)

theorem unique (h : s.Listing signup user shown ws) (h' : s.Listing signup user shown more) :
    ws = more := by
  have hperm : ws.Perm more := (List.perm_ext_iff_of_nodup h.nodup h'.nodup).mpr fun w =>
    (h.mem_iff w).trans (h'.mem_iff w).symm
  refine hperm.eq_of_pairwise ?_ h.ordered h'.ordered
  exact fun v w _ _ hvw hwv => absurd hvw (Nat.lt_asymm hwv)

theorem without (h : s.Listing signup user [] ws) (shown : List String) :
    s.Listing signup user shown (ws.filter fun w => w.name ∉ shown) := by
  refine ⟨fun w => ?_, h.ordered.filter _⟩
  rw [List.mem_filter, h.mem_iff, decide_eq_true_iff, and_comm]
  simp

end Listing

structure ListsFor (s : Snapshot) (viewer : Bool) (signup user : String)
    (own shared : List Workspace) : Prop where
  bound : s.Listing signup user [] own
  added : viewer = true → s.Listing Identity.publicViewerName Identity.publicViewerName
    (own.map Workspace.name) shared
  nothingAdded : viewer = false → shared = []

namespace ListsFor

variable {viewer : Bool} {shared own' shared' : List Workspace}

theorem distinct (h : s.ListsFor viewer signup user own shared) :
    (own ++ shared).Pairwise fun v w => v.name ≠ w.name := by
  cases viewer with
  | false =>
    rw [h.nothingAdded rfl, List.append_nil]
    exact h.bound.distinct
  | true =>
    have hshared := h.added rfl
    refine List.pairwise_append.mpr ⟨h.bound.distinct, hshared.distinct, fun v hv w hw hn => ?_⟩
    exact ((hshared.mem_iff w).mp hw).1 (hn ▸ List.mem_map_of_mem hv)

theorem unique (h : s.ListsFor viewer signup user own shared)
    (h' : s.ListsFor viewer signup user own' shared') : own' = own ∧ shared' = shared := by
  obtain rfl := h'.bound.unique h.bound
  refine ⟨rfl, ?_⟩
  cases viewer with
  | false => rw [h.nothingAdded rfl, h'.nothingAdded rfl]
  | true => exact (h'.added rfl).unique (h.added rfl)

end ListsFor

theorem place_self {p : BindingEntry → Bool} {b : BindingEntry} (hp : p b = true)
    (bs : List BindingEntry) : place p (b :: bs) b.space = 0 := by
  rw [place, List.findIdx_cons]
  simp [hp]

theorem place_other {p : BindingEntry → Bool} {b : BindingEntry} {space : String}
    (h : p b = true → b.space ≠ space) (bs : List BindingEntry) :
    place p (b :: bs) space = place p bs space + 1 := by
  rw [place, place, List.findIdx_cons]
  cases hp : p b with
  | false => simp
  | true => simp [h hp]

theorem firstBindings_ordered (p : BindingEntry → Bool) (seen : List String)
    (bs : List BindingEntry) : (firstBindings seen (bs.filter p)).Pairwise fun b c =>
      place p bs b.space < place p bs c.space := by
  induction bs generalizing seen with
  | nil => exact .nil
  | cons x xs ih =>
    -- The order among the rest, where the first binding is to a space that was seen.
    have hrest (seen : List String) (hx : p x = true → x.space ∈ seen) :
        (firstBindings seen (xs.filter p)).Pairwise fun b c =>
          place p (x :: xs) b.space < place p (x :: xs) c.space := by
      have hnew {b : BindingEntry} (hb : b ∈ firstBindings seen (xs.filter p)) (hp : p x = true) :
          x.space ≠ b.space := fun heq => (firstBindings_first hb).1 (heq ▸ hx hp)
      refine (ih seen).imp_of_mem fun hb hc hlt => ?_
      rw [place_other (hnew hb), place_other (hnew hc)]
      exact Nat.add_lt_add_right hlt 1
    rw [List.filter_cons]
    split
    · rename_i hp
      rw [firstBindings]
      split
      · rename_i hseen
        exact hrest seen fun _ => List.contains_iff_mem.mp hseen
      · refine List.pairwise_cons.mpr ⟨fun c hc => ?_, hrest _ fun _ => List.mem_cons_self⟩
        have hne : x.space ≠ c.space := fun heq =>
          (firstBindings_first hc).1 (heq ▸ List.mem_cons_self)
        rw [place_self hp, place_other fun _ => hne]
        exact Nat.succ_pos _
    · rename_i hp
      exact hrest seen fun h => absurd h hp

theorem workspaces_listing (h : s.names? i = some (signup, user)) :
    s.Listing signup user [] (s.workspaces i none) := by
  constructor
  · intro w
    rw [mem_workspaces_all, h]
    constructor
    · rintro ⟨signup', user', e, b, hsu, he, hb, rfl⟩
      obtain ⟨rfl, rfl⟩ := Prod.mk.inj (Option.some.inj hsu)
      exact ⟨List.not_mem_nil, e, b, he, hb, rfl⟩
    · rintro ⟨-, e, b, he, hb, rfl⟩
      exact ⟨signup, user, e, b, rfl, he, hb, rfl⟩
  · unfold workspaces
    rw [h]
    refine List.pairwise_filterMap.mpr ((firstBindings_ordered _ _ _).imp ?_)
    intro b c hlt w hw v hv
    obtain ⟨e, he, rfl⟩ := Option.map_eq_some_iff.mp hw
    obtain ⟨f, hf, rfl⟩ := Option.map_eq_some_iff.mp hv
    change s.boundAt user e.name < s.boundAt user f.name
    rw [space_name he, space_name hf]
    exact hlt

/-! ### Dangling bindings -/

def withoutDangling (s : Snapshot) : Snapshot :=
  { s with document := { s.document with
    bindings := s.document.bindings.filter fun b => (s.space? b.space).isSome } }

theorem firstBindings_congr {seen seen' : List String} {bs : List BindingEntry}
    (h : ∀ b ∈ bs, (b.space ∈ seen ↔ b.space ∈ seen')) :
    firstBindings seen bs = firstBindings seen' bs := by
  induction bs generalizing seen seen' with
  | nil => rfl
  | cons b bs ih =>
    rw [List.forall_mem_cons] at h
    rw [firstBindings, firstBindings]
    by_cases hb : b.space ∈ seen
    · rw [if_pos (List.contains_iff_mem.mpr hb), if_pos (List.contains_iff_mem.mpr (h.1.mp hb))]
      exact ih h.2
    · have hb' : b.space ∉ seen' := fun hmem => hb (h.1.mpr hmem)
      rw [if_neg (by simpa using hb), if_neg (by simpa using hb')]
      refine congrArg (b :: ·) (ih fun c hc => ?_)
      rw [List.mem_cons, List.mem_cons, h.2 c hc]

/-- To leave spaces out before or after the bindings were gone through makes no difference. -/
theorem filter_firstBindings (q : String → Bool) (seen : List String) (bs : List BindingEntry) :
    (firstBindings seen bs).filter (fun b => q b.space) =
      firstBindings seen (bs.filter fun b => q b.space) := by
  induction bs generalizing seen with
  | nil => rfl
  | cons b bs ih =>
    cases hq : q b.space with
    | true =>
      rw [List.filter_cons, if_pos hq, firstBindings, firstBindings]
      split
      · exact ih seen
      · rw [List.filter_cons, if_pos hq, ih]
    | false =>
      rw [List.filter_cons, if_neg (by simp [hq]), firstBindings]
      split
      · exact ih seen
      · rw [List.filter_cons, if_neg (by simp [hq]), ih]
        -- A space that is left out is none of those that are still to come.
        refine firstBindings_congr fun c hc => ?_
        have hne : c.space ≠ b.space := fun heq => by
          simp [heq, hq] at hc
        simp [hne]

theorem workspaces_withoutDangling (s : Snapshot) (i : Identity) :
    s.withoutDangling.workspaces i none = s.workspaces i none := by
  have hnames : s.withoutDangling.names? i = s.names? i := rfl
  unfold workspaces
  rw [hnames]
  cases s.names? i with
  | none => rfl
  | some su =>
    have hswap : (s.withoutDangling.document.bindings.filter fun b => b.user = su.2) =
        (s.document.bindings.filter fun b => b.user = su.2).filter fun b =>
          (s.space? b.space).isSome := by
      simp only [withoutDangling, List.filter_filter, Bool.and_comm]
    simp only [hswap]
    rw [← filter_firstBindings fun name => (s.space? name).isSome, List.filterMap_filter]
    refine congrArg (List.filterMap · _) (funext fun b => ?_)
    change (if (s.space? b.space).isSome = true then (s.space? b.space).map _ else none) = _
    cases s.space? b.space <;> rfl

/-! ### Provisioned callers -/

theorem names_of_provisioned {ns : String} {routes : AttachedRoutes}
    (hv : i.isPublicViewer = false)
    (hp : Access.isProvisioned (s.directory ns routes) i.userId i.username = .ok true) :
    ∃ sg, s.signup i.userId i.username = some sg ∧ sg.compliantUsername.isEmpty = false ∧
      s.names? i = some (sg.name, sg.compliantUsername) := by
  have hknown := Except.ok.inj hp
  cases hs : s.signup? i.userId i.username with
  | none => simp [Snapshot.signup, hs] at hknown
  | some e =>
    have hnamed : e.compliantUsername.isEmpty = false := by
      simpa [directory, Snapshot.signup, hs] using hknown
    exact ⟨_, by rw [Snapshot.signup, hs]; rfl, hnamed,
      (names_of_caller hv).mpr ⟨e, hs, hnamed, rfl, rfl⟩⟩

end Catalog.Snapshot

/-! ## In the workspace API -/

namespace WorkspaceApi

variable {g : Gateway} {s : Snapshot} {ns : String} {routes : Snapshot.AttachedRoutes}
  {h : Headers} {i : Identity} {ws more : List Workspace}

theorem addNew_eq (hd : more.Pairwise fun v w => v.name ≠ w.name) (ws : List Workspace) :
    addNew ws more = ws ++ more.filter fun w => w.name ∉ ws.map Workspace.name := by
  induction more generalizing ws with
  | nil => simp [addNew]
  | cons v more ih =>
    rw [List.pairwise_cons] at hd
    have hholds : Proxy.holds ws v.name = true ↔ v.name ∈ ws.map Workspace.name := by
      simp [Proxy.holds]
    rw [addNew, List.foldl_cons, ← addNew, ih hd.2, List.filter_cons]
    by_cases hv : v.name ∈ ws.map Workspace.name
    · rw [if_pos (hholds.mpr hv), if_neg (by simp [hv])]
    · rw [if_neg (fun hh => hv (hholds.mp hh)), if_pos (by simpa using hv), List.append_assoc,
        List.singleton_append]
      -- None of the others has the name that was just added.
      refine congrArg (fun added => ws ++ v :: added) (List.filter_congr fun w hw => ?_)
      have hne : w.name ≠ v.name := (hd.1 w hw).symm
      simp [hne]

theorem listFor_of_provisioned {signup user : String}
    (hc : caller g (s.directory ns routes).steady h = .ok i)
    (hp : Access.isProvisioned (s.directory ns routes) i.userId i.username = .ok true)
    (hv : i.isPublicViewer = false) (hn : s.names? i = some (signup, user)) :
    ∃ shared, listFor g (s.directory ns routes).steady h = .ok (s.workspaces i none ++ shared) ∧
      s.ListsFor g.publicViewer signup user (s.workspaces i none) shared := by
  have hown := Snapshot.workspaces_listing hn
  have hviewer := Snapshot.workspaces_listing (Snapshot.names_of_viewer (s := s)
    (show Identity.publicViewer.isPublicViewer = true by decide))
  have hlist := listFor_of_caller hc hp
  rw [if_pos rfl, hv, Bool.not_false, Bool.and_true] at hlist
  cases hg : g.publicViewer with
  | false =>
    rw [hg, if_neg (by decide)] at hlist
    exact ⟨[], by rw [hlist, List.append_nil], hown, by simp, fun _ => rfl⟩
  | true =>
    rw [hg, if_pos rfl, addNew_eq hviewer.distinct] at hlist
    exact ⟨_, hlist, hown, fun _ => hviewer.without _, by simp⟩

/-- A caller who is let in gets an empty list while not provisioned. Once provisioned, and not the
public viewer, the caller gets the spaces that are bound to the caller's user and then, where the
public viewer is on, those that are bound to it and are not among them; each space once, and in the
order of the first bindings, which leaves no other list. Bindings that name no space change
nothing. -/
theorem listed_exactly (g : Gateway) (s : Snapshot) (ns : String)
    (routes : Snapshot.AttachedRoutes) (h : Headers) (i : Identity)
    (ha : Credential.authenticate g.readToken h = .ok i)
    (hb : Proxy.checkNotBanned (s.directory ns routes) i = .ok ()) :
    (Access.isProvisioned (s.directory ns routes) i.userId i.username = .ok false →
      listFor g (s.directory ns routes).steady h = .ok []) ∧
    (Access.isProvisioned (s.directory ns routes) i.userId i.username = .ok true →
      i.isPublicViewer = false → ∃ sg own shared,
        s.signup i.userId i.username = some sg ∧ sg.compliantUsername.isEmpty = false ∧
        listFor g (s.directory ns routes).steady h = .ok (own ++ shared) ∧
        ((own ++ shared).Pairwise fun v w => v.name ≠ w.name) ∧
        s.ListsFor g.publicViewer sg.name sg.compliantUsername own shared ∧
        ∀ own' shared', s.ListsFor g.publicViewer sg.name sg.compliantUsername own' shared' →
          own' = own ∧ shared' = shared) ∧
    listFor g (s.withoutDangling.directory ns routes).steady h =
      listFor g (s.directory ns routes).steady h := by
  have hc : caller g (s.directory ns routes).steady h = .ok i :=
    caller_ok_iff.mpr (admitted_iff.mpr ⟨ha, hb⟩)
  refine ⟨fun hp => ?_, fun hp hv => ?_, ?_⟩
  · exact listFor_of_caller hc hp
  · obtain ⟨sg, hsg, hnamed, hnames⟩ := Snapshot.names_of_provisioned hv hp
    obtain ⟨shared, hlist, hfor⟩ := listFor_of_provisioned hc hp hv hnames
    exact ⟨sg, _, shared, hsg, hnamed, hlist, hfor.distinct, hfor, fun _ _ => hfor.unique⟩
  · obtain ⟨known, hp, -⟩ := provisioned_of_snapshot s ns routes i
    have hc' : caller g (s.withoutDangling.directory ns routes).steady h = .ok i := hc
    have hp' : Access.isProvisioned (s.withoutDangling.directory ns routes) i.userId i.username =
        .ok known := hp
    rw [listFor_of_caller hc hp, listFor_of_caller hc' hp',
      Snapshot.workspaces_withoutDangling, Snapshot.workspaces_withoutDangling]

/-- Smith has two spaces, one of them written twice, and the public viewer has one of them too.
Bindings are repeated in other roles, and the first of them names no space. -/
def repeatingCatalog : Snapshot :=
  { smithCatalog with
    document := { smithCatalog.document with
      spaces := smithCatalog.document.spaces ++
        [⟨"community", "member", none, ["dev"], "someone"⟩,
          ⟨"shared", "member", none, ["dev"], "someone"⟩,
          ⟨"shared", "member", none, ["other"], "smith"⟩]
      bindings := [⟨"gone", "smith", "admin"⟩, ⟨"community", Identity.publicViewerName, "viewer"⟩,
        ⟨"shared", "smith", "edit"⟩, ⟨"shared", Identity.publicViewerName, "viewer"⟩,
        ⟨"smith", "smith", "admin"⟩, ⟨"shared", "smith", "admin"⟩,
        ⟨"community", Identity.publicViewerName, "edit"⟩] } }

theorem repeated_bindings_listed_once :
    ∃ own shared, listFor (smithGateway.withViewer true)
        (repeatingCatalog.directory "" fun _ => none).steady smithRequest.headers =
        .ok (own ++ shared) ∧
      own ++ shared = [⟨"shared", .other, ["dev"], "someone", "edit", "member"⟩,
        ⟨"smith", .home, ["dev"], "smith", "admin", "member"⟩,
        ⟨"community", .other, ["dev"], "someone", "viewer", "member"⟩] ∧
      repeatingCatalog.Listing "smith" "smith" [] own ∧
      repeatingCatalog.Listing Identity.publicViewerName Identity.publicViewerName
        (own.map Workspace.name) shared := by
  have hsignup : repeatingCatalog.signup "user-1" "smith" =
      some ⟨"smith", "smith", "member", "https://member"⟩ := by decide +kernel
  have hlisted : listFor (smithGateway.withViewer true)
      (repeatingCatalog.directory "" fun _ => none).steady smithRequest.headers =
      .ok [⟨"shared", .other, ["dev"], "someone", "edit", "member"⟩,
        ⟨"smith", .home, ["dev"], "smith", "admin", "member"⟩,
        ⟨"community", .other, ["dev"], "someone", "viewer", "member"⟩] :=
    ok_of_toOption (by decide +kernel)
  obtain ⟨sg, own, shared, hsg, -, hlist, -, hfor, -⟩ :=
    (listed_exactly (smithGateway.withViewer true) repeatingCatalog "" (fun _ => none)
      smithRequest.headers smith smith_authenticated rfl).2.1 rfl (by decide)
  obtain rfl := Option.some.inj (hsignup.symm.trans hsg)
  exact ⟨own, shared, hlist, Except.ok.inj (hlist.symm.trans hlisted), hfor.bound,
    hfor.added rfl⟩

/-- A banned caller is provisioned and has a workspace, and no list is given. -/
theorem banned_caller_gets_no_list :
    Credential.authenticate addressGateway.readToken smithRequest.headers =
        .ok ⟨"user-1", "smith", some "smith@example.com"⟩ ∧
    (⟨"user-1", "smith", some "smith@example.com"⟩ : Identity).isPublicViewer = false ∧
    Access.isProvisioned (banningCatalog.directory "" fun _ => none) "user-1" "smith" = .ok true ∧
    banningCatalog.workspaces ⟨"user-1", "smith", some "smith@example.com"⟩ none =
        [⟨"smith", .home, ["dev"], "smith", "admin", "member"⟩] ∧
    ∀ ws, listFor addressGateway (banningCatalog.directory "" fun _ => none).steady
      smithRequest.headers ≠ .ok ws := by
  refine ⟨ok_of_toOption (by decide +kernel), by decide, rfl, by decide +kernel, fun ws hl => ?_⟩
  have hrefused : listFor addressGateway (banningCatalog.directory "" fun _ => none).steady
      smithRequest.headers = .error (.forbidden "user access is forbidden") := by rfl
  simp [hrefused] at hl

end WorkspaceApi

end WorkspaceGateway
