import WorkspaceGateway.Catalog.Store
import WorkspaceGateway.Proofs.ResolvedAccess

/-!
# What a catalog lists

A workspace that a catalog lists for a caller is one of its spaces, and a binding of the caller's
user grants it: on the space itself or on one that it inherits from.
-/

set_option autoImplicit false

namespace WorkspaceGateway.Catalog.Snapshot

inductive Inherits (s : Snapshot) : SpaceEntry → SpaceEntry → Prop
  | self (e : SpaceEntry) : Inherits s e e
  | parent {e f a : SpaceEntry} (he : e.parentSpace.bind s.space? = some f)
      (ha : Inherits s f a) : Inherits s e a

structure Grants (s : Snapshot) (user : String) (e : SpaceEntry) (b : BindingEntry) : Prop where
  listed : b ∈ s.document.bindings
  user_eq : b.user = user
  inherited : ∃ a, s.Inherits e a ∧ b.space = a.name

variable {s : Snapshot} {i : Identity} {user : String} {e : SpaceEntry} {b : BindingEntry}
  {w : Workspace}

theorem space_name {name : String} (h : s.space? name = some e) : e.name = name := by
  simpa using List.find?_some h

theorem space_found {name : String} (h : s.space? name = some e) : s.space? e.name = some e :=
  (congrArg s.space? (space_name h)).trans h

theorem parent_found {f : SpaceEntry} (h : e.parentSpace.bind s.space? = some f) :
    s.space? f.name = some f := by
  obtain ⟨name, -, hf⟩ := Option.bind_eq_some_iff.mp h
  exact space_found hf

/-! ## Up the chain of parents -/

inductive InheritsWithin (s : Snapshot) : Nat → SpaceEntry → SpaceEntry → Prop
  | self {n : Nat} (e : SpaceEntry) : InheritsWithin s (n + 1) e e
  | parent {n : Nat} {e f a : SpaceEntry} (he : e.parentSpace.bind s.space? = some f)
      (ha : InheritsWithin s n f a) : InheritsWithin s (n + 1) e a

structure GrantsWithin (s : Snapshot) (n : Nat) (user : String) (e : SpaceEntry)
    (b : BindingEntry) : Prop where
  listed : b ∈ s.document.bindings
  user_eq : b.user = user
  inherited : ∃ a, s.InheritsWithin n e a ∧ b.space = a.name

theorem InheritsWithin.inherits {n : Nat} {a : SpaceEntry} (h : s.InheritsWithin n e a) :
    s.Inherits e a := by
  induction h with
  | self e => exact .self e
  | parent he ha ih => exact .parent he ih

theorem GrantsWithin.grants {n : Nat} (h : s.GrantsWithin n user e b) : s.Grants user e b := by
  obtain ⟨a, ha, hs⟩ := h.inherited
  exact ⟨h.listed, h.user_eq, a, ha.inherits, hs⟩

theorem binding_grants {n : Nat} (h : s.binding? user e.name = some b) :
    s.GrantsWithin (n + 1) user e b := by
  have hb := List.find?_some h
  simp only [Bool.and_eq_true, decide_eq_true_eq] at hb
  exact ⟨List.mem_of_find?_eq_some h, hb.1, e, .self e, hb.2⟩

theorem binding_none (h : s.binding? user e.name = none) (hb : b ∈ s.document.bindings)
    (hu : b.user = user) : b.space ≠ e.name := by
  have hnot := List.find?_eq_none.mp h b hb
  simpa [hu] using hnot

theorem binding_along_within {depth : Nat} {visited : List String}
    (h : s.bindingAlong user depth visited e = some b) : s.GrantsWithin depth user e b := by
  -- The binding is that of the space or, by induction, of an ancestor of its parent.
  induction depth generalizing visited e with
  | zero => simp [bindingAlong] at h
  | succ depth ih =>
    unfold bindingAlong at h
    split at h
    · simp at h
    · cases hb : s.binding? user e.name with
      | some b' =>
        simp only [hb, Option.some.injEq] at h
        exact h ▸ binding_grants hb
      | none =>
        simp only [hb] at h
        split at h
        · rename_i parent hp
          obtain ⟨hl, hu, a, ha, hs⟩ := ih h
          exact ⟨hl, hu, a, .parent hp ha, hs⟩
        · simp at h

theorem binding_along_grants {depth : Nat} {visited : List String}
    (h : s.bindingAlong user depth visited e = some b) : s.Grants user e b :=
  (binding_along_within h).grants

/-- The spaces passed on the way to a space: the user has no binding to one of them, and their
parents were passed too or are that space. -/
structure Passed (s : Snapshot) (user : String) (visited : List String) (e : SpaceEntry) :
    Prop where
  unbound : ∀ v ∈ visited, s.binding? user v = none
  parents : ∀ v ∈ visited, ∀ f g, s.space? v = some f → f.parentSpace.bind s.space? = some g →
    g.name ∈ visited ∨ g = e

theorem Passed.step {visited : List String} {f : SpaceEntry} (h : s.Passed user visited e)
    (he : s.space? e.name = some e) (hb : s.binding? user e.name = none)
    (hf : e.parentSpace.bind s.space? = some f) : s.Passed user (e.name :: visited) f := by
  constructor
  · intro v hv
    rcases List.mem_cons.mp hv with rfl | hv
    · exact hb
    · exact h.unbound v hv
  · intro v hv f' g hf' hg
    rcases List.mem_cons.mp hv with rfl | hv
    · obtain rfl : e = f' := Option.some.inj (he.symm.trans hf')
      exact .inr (Option.some.inj (hg.symm.trans hf))
    · rcases h.parents v hv f' g hf' hg with hmem | rfl
      · exact .inl (List.mem_cons_of_mem _ hmem)
      · exact .inl List.mem_cons_self

theorem Passed.loops {visited : List String} {n : Nat} {a : SpaceEntry}
    (h : s.Passed user visited e) (he : s.space? e.name = some e) (hv : e.name ∈ visited)
    (ha : s.InheritsWithin n e a) : a.name ∈ visited := by
  have hclosed : ∀ v ∈ visited, ∀ f g, s.space? v = some f →
      f.parentSpace.bind s.space? = some g → g.name ∈ visited := by
    intro v hm f g hf hg
    rcases h.parents v hm f g hf hg with hmem | rfl
    · exact hmem
    · exact hv
  clear h
  induction ha with
  | self e => exact hv
  | @parent n e f a hp ha ih => exact ih (parent_found hp) (hclosed e.name hv e f he hp)

theorem binding_along_none {depth : Nat} {visited : List String} {a : SpaceEntry}
    (h : s.bindingAlong user depth visited e = none) (he : s.space? e.name = some e)
    (hv : s.Passed user visited e) (ha : s.InheritsWithin depth e a) :
    s.binding? user a.name = none := by
  induction depth generalizing visited e with
  | zero => nomatch ha
  | succ depth ih =>
    by_cases hm : e.name ∈ visited
    · exact hv.unbound a.name (hv.loops he hm ha)
    · cases hb : s.binding? user e.name with
      | some b => simp [bindingAlong, hm, hb] at h
      | none =>
        cases ha with
        | self => exact hb
        | @parent _ _ f _ hp ha =>
          have hrest : s.bindingAlong user depth (e.name :: visited) f = none := by
            simpa [bindingAlong, hm, hb, hp] using h
          exact ih hrest (parent_found hp) (hv.step he hb hp) ha

theorem unbound_within {name : String} (he : s.space? name = some e)
    (h : s.inheritedBinding? user e = none) : ¬ s.GrantsWithin maxSpaceDepth user e b := by
  rintro ⟨hl, hu, a, ha, hs⟩
  have hnone := binding_along_none h (space_found he) ⟨by simp, by simp⟩ ha
  exact binding_none hnone hl hu hs

/-! ## Lists -/

theorem firstBindings_first {seen : List String} {bs : List BindingEntry}
    (h : b ∈ firstBindings seen bs) :
    b.space ∉ seen ∧ bs.find? (fun c => c.space = b.space) = some b := by
  induction bs generalizing seen with
  | nil => simp [firstBindings] at h
  | cons c cs ih =>
    unfold firstBindings at h
    split at h
    · rename_i hseen
      obtain ⟨hnew, hfind⟩ := ih h
      have hne : c.space ≠ b.space := fun heq => hnew (heq ▸ List.contains_iff_mem.mp hseen)
      exact ⟨hnew, by simp [hne, hfind]⟩
    · rename_i hseen
      rcases List.mem_cons.mp h with rfl | hc
      · exact ⟨fun hmem => hseen (List.contains_iff_mem.mpr hmem), by simp⟩
      · obtain ⟨hnew, hfind⟩ := ih hc
        rw [List.mem_cons, not_or] at hnew
        exact ⟨hnew.2, by simp [Ne.symm hnew.1, hfind]⟩

theorem mem_firstBindings {seen : List String} {bs : List BindingEntry}
    (h : b ∈ firstBindings seen bs) : b ∈ bs :=
  List.mem_of_find?_eq_some (firstBindings_first h).2

theorem firstBindings_distinct (seen : List String) (bs : List BindingEntry) :
    (firstBindings seen bs).Pairwise fun b c => b.space ≠ c.space := by
  induction bs generalizing seen with
  | nil => exact .nil
  | cons b bs ih =>
    unfold firstBindings
    split
    · exact ih seen
    · refine List.pairwise_cons.mpr ⟨fun c hc heq => ?_, ih _⟩
      exact (firstBindings_first hc).1 (heq ▸ List.mem_cons_self)

theorem firstBindings_covers {seen : List String} {bs : List BindingEntry} (hb : b ∈ bs)
    (hn : b.space ∉ seen) : ∃ c ∈ firstBindings seen bs, c.space = b.space := by
  induction bs generalizing seen with
  | nil => simp at hb
  | cons c cs ih =>
    unfold firstBindings
    by_cases hc : b.space = c.space
    · rw [if_neg (by simpa [← hc] using hn)]
      exact ⟨c, List.mem_cons_self, hc.symm⟩
    · have hb : b ∈ cs := (List.mem_cons.mp hb).resolve_left fun heq => hc (congrArg _ heq)
      split
      · exact ih hb hn
      · have hn : b.space ∉ c.space :: seen := by simp [hc, hn]
        obtain ⟨d, hd, hs⟩ := ih hb hn
        exact ⟨d, List.mem_cons_of_mem c hd, hs⟩

theorem binding_of_listed
    (h : b ∈ firstBindings [] (s.document.bindings.filter fun b => b.user = user)) :
    s.binding? user b.space = some b := by
  have hfirst := (firstBindings_first h).2
  simpa [binding?, List.find?_filter, Bool.decide_and] using hfirst

/-- By name a caller's list is the one workspace whose space a binding of the caller grants. -/
theorem workspaces_named (s : Snapshot) (i : Identity) (name : String) :
    s.workspaces i (some name) =
      match s.names? i, s.space? name with
      | some (signup, user), some e =>
        ((s.inheritedBinding? user e).map fun b => workspaceOf (some signup) b.role e).toList
      | _, _ => [] := by
  unfold workspaces
  cases s.names? i with
  | none => rfl
  | some su =>
    obtain ⟨signup, user⟩ := su
    cases he : s.space? name with
    | none => simp [he]
    | some e =>
      cases hb : s.inheritedBinding? user e with
      | none => simp [he, hb]
      | some b => simp [he, hb]

theorem mem_workspaces {name : Option String} (h : w ∈ s.workspaces i name) :
    ∃ signup user e b, s.names? i = some (signup, user) ∧ s.space? w.name = some e ∧
      s.Grants user e b ∧ w = workspaceOf (some signup) b.role e := by
  cases name with
  | some n =>
    rw [workspaces_named] at h
    cases hn : s.names? i with
    | none => simp [hn] at h
    | some su =>
      obtain ⟨signup, user⟩ := su
      cases he : s.space? n with
      | none => simp [hn, he] at h
      | some e =>
        simp only [hn, he, Option.mem_toList, Option.map_eq_some_iff] at h
        obtain ⟨b, hb, rfl⟩ := h
        have hname : (workspaceOf (some signup) b.role e).name = n := space_name he
        exact ⟨signup, user, e, b, rfl, hname ▸ he, binding_along_grants hb, rfl⟩
  | none =>
    unfold workspaces at h
    cases hn : s.names? i with
    | none => simp [hn] at h
    | some su =>
      obtain ⟨signup, user⟩ := su
      simp only [hn, List.mem_filterMap, Option.map_eq_some_iff] at h
      obtain ⟨b, hb, e, he, rfl⟩ := h
      obtain ⟨hl, hu⟩ := List.mem_filter.mp (mem_firstBindings hb)
      have hname : (workspaceOf (some signup) b.role e).name = b.space := space_name he
      exact ⟨signup, user, e, b, rfl, hname ▸ he,
        ⟨hl, of_decide_eq_true hu, e, .self e, (space_name he).symm⟩, rfl⟩

/-- A caller's list shows the spaces that are bound to the caller's user themselves. -/
theorem mem_workspaces_all : w ∈ s.workspaces i none ↔ ∃ signup user e b,
    s.names? i = some (signup, user) ∧ s.space? e.name = some e ∧
      s.binding? user e.name = some b ∧ w = workspaceOf (some signup) b.role e := by
  unfold workspaces
  cases hn : s.names? i with
  | none => simp
  | some su =>
    obtain ⟨signup, user⟩ := su
    simp only [List.mem_filterMap, Option.map_eq_some_iff]
    constructor
    · rintro ⟨b, hb, e, he, rfl⟩
      exact ⟨signup, user, e, b, rfl, space_found he, (space_name he).symm ▸ binding_of_listed hb,
        rfl⟩
    · rintro ⟨signup', user', e, b, hsu, he, hb, rfl⟩
      obtain ⟨rfl, rfl⟩ := Prod.mk.inj (Option.some.inj hsu)
      have hb' := List.find?_some hb
      simp only [Bool.and_eq_true, decide_eq_true_eq] at hb'
      obtain ⟨hu, hs⟩ := hb'
      have hmem : b ∈ s.document.bindings.filter fun b => b.user = user :=
        List.mem_filter.mpr ⟨List.mem_of_find?_eq_some hb, decide_eq_true hu⟩
      obtain ⟨c, hc, hcs⟩ := firstBindings_covers hmem List.not_mem_nil
      have hcb : s.binding? user e.name = some c := by
        rw [← hs, ← hcs]
        exact binding_of_listed hc
      obtain rfl : b = c := Option.some.inj (hb.symm.trans hcb)
      exact ⟨b, hc, e, hs ▸ he, rfl⟩

theorem workspaces_distinct (s : Snapshot) (i : Identity) :
    (s.workspaces i none).Pairwise fun w v => w.name ≠ v.name := by
  unfold workspaces
  cases s.names? i with
  | none => exact .nil
  | some su =>
    obtain ⟨signup, user⟩ := su
    refine List.pairwise_filterMap.mpr ((firstBindings_distinct _ _).imp ?_)
    intro b c hne w hw v hv
    obtain ⟨e, he, rfl⟩ := Option.map_eq_some_iff.mp hw
    obtain ⟨f, hf, rfl⟩ := Option.map_eq_some_iff.mp hv
    exact fun heq => hne ((space_name he).symm.trans (heq.trans (space_name hf)))

theorem names_of_viewer (h : i.isPublicViewer = true) :
    s.names? i = some (Identity.publicViewerName, Identity.publicViewerName) := by
  simp [names?, h]

theorem names_of_caller (h : i.isPublicViewer = false) {signup : String} :
    s.names? i = some (signup, user) ↔
      ∃ e, s.signup? i.userId i.username = some e ∧ e.compliantUsername.isEmpty = false ∧
        e.name = signup ∧ e.compliantUsername = user := by
  simp only [names?, h, Bool.false_eq_true, if_false]
  cases s.signup? i.userId i.username with
  | none => simp
  | some e =>
    simp only [Option.some.injEq, exists_eq_left']
    cases hc : e.compliantUsername.isEmpty with
    | true => simp only [if_true, reduceCtorEq, false_and]
    | false => simp only [Bool.false_eq_true, if_false, Option.some.injEq, Prod.mk.injEq, true_and]

theorem provisioned_iff {ns : String} {routes : AttachedRoutes} {userId username : String}
    {sg : Signup} :
    Access.provisionedSignup (s.directory ns routes) userId username = .ok sg ↔
      s.signup userId username = some sg ∧ sg.compliantUsername.isEmpty = false := by
  rw [Access.provisioned_ok]
  simp [directory]

theorem provisioned_user {ns : String} {routes : AttachedRoutes} {sg : Signup} {signup : String}
    (hv : i.isPublicViewer = false) (hn : s.names? i = some (signup, user))
    (hs : Access.provisionedSignup (s.directory ns routes) i.userId i.username = .ok sg) :
    sg.compliantUsername = user := by
  obtain ⟨e, he, -, -, rfl⟩ := (names_of_caller hv).mp hn
  obtain ⟨hsg, -⟩ := provisioned_iff.mp hs
  simp only [Snapshot.signup, he, Option.map_some, Option.some.injEq] at hsg
  rw [← hsg]

end WorkspaceGateway.Catalog.Snapshot
