import WorkspaceGateway.Proofs.CatalogListing

/-!
# The nearest binding

The binding that gives a user access to a space is that of the nearest bound space up its chain of
parents, as far as the chain goes on, names no space twice and is no longer than the limit. The
search is a loop over the names it has visited; it ends for every chain, and what the snapshot
answers is what it ends with. On a space that is found by its name nothing is lost where the chain
comes back to a name: the spaces after that were all passed before.
-/

set_option autoImplicit false

namespace WorkspaceGateway.Catalog.Snapshot

variable {s : Snapshot} {user : String} {e a : SpaceEntry} {b : BindingEntry}
  {visited : List String} {depth : Nat}

/-! ## The chain -/

def parent? (s : Snapshot) (e : SpaceEntry) : Option SpaceEntry := e.parentSpace.bind s.space?

def chain (s : Snapshot) : Nat → SpaceEntry → List SpaceEntry
  | 0, _ => []
  | n + 1, e =>
    match s.parent? e with
    | none => [e]
    | some f => e :: chain s n f

theorem mem_chain_iff : a ∈ s.chain depth e ↔ s.InheritsWithin depth e a := by
  induction depth generalizing e with
  | zero =>
    refine ⟨fun h => absurd h List.not_mem_nil, fun h => nomatch h⟩
  | succ depth ih =>
    cases hp : s.parent? e with
    | none =>
      simp only [chain, hp, List.mem_singleton]
      constructor
      · rintro rfl
        exact .self a
      · rintro (_ | ⟨he, -⟩)
        · rfl
        · exact absurd (hp.symm.trans he) nofun
    | some f =>
      simp only [chain, hp, List.mem_cons, ih]
      constructor
      · rintro (rfl | ha)
        · exact .self a
        · exact .parent hp ha
      · rintro (_ | ⟨he, ha⟩)
        · exact .inl rfl
        · obtain rfl := Option.some.inj (hp.symm.trans he)
          exact .inr ha

/-! ## The search -/

/-- The search as a loop, without a bound beforehand: from the names visited and the space it is at
it takes a number of turns and ends with a binding or without. A turn at a name visited before, or
past the limit, is the last. -/
inductive Searches (s : Snapshot) (user : String) :
    List String → Option SpaceEntry → Nat → Option BindingEntry → Prop
  | ended (visited : List String) : Searches s user visited none 0 none
  | halted {visited : List String} {e : SpaceEntry}
      (h : e.name ∈ visited ∨ maxSpaceDepth < (e.name :: visited).length) :
      Searches s user visited (some e) 1 none
  | found {visited : List String} {e : SpaceEntry} {b : BindingEntry} (new : e.name ∉ visited)
      (near : (e.name :: visited).length ≤ maxSpaceDepth)
      (bound : s.binding? user e.name = some b) : Searches s user visited (some e) 1 (some b)
  | further {visited : List String} {e : SpaceEntry} {turns : Nat} {r : Option BindingEntry}
      (new : e.name ∉ visited) (near : (e.name :: visited).length ≤ maxSpaceDepth)
      (unbound : s.binding? user e.name = none)
      (rest : Searches s user (e.name :: visited) (s.parent? e) turns r) :
      Searches s user visited (some e) (turns + 1) r

theorem Searches.unique {at? : Option SpaceEntry} {m n : Nat} {r t : Option BindingEntry}
    (h : s.Searches user visited at? m r) (k : s.Searches user visited at? n t) :
    m = n ∧ r = t := by
  induction h generalizing n t with
  | ended visited =>
    cases k with
    | ended => exact ⟨rfl, rfl⟩
  | halted h =>
    cases k with
    | halted => exact ⟨rfl, rfl⟩
    | found new near => exact absurd h (by simp only [new, false_or]; omega)
    | further new near => exact absurd h (by simp only [new, false_or]; omega)
  | found new near bound =>
    cases k with
    | halted h => exact absurd h (by simp only [new, false_or]; omega)
    | found _ _ bound' => exact ⟨rfl, bound.symm.trans bound'⟩
    | further _ _ unbound => exact absurd (bound.symm.trans unbound) nofun
  | further new near unbound rest ih =>
    cases k with
    | halted h => exact absurd h (by simp only [new, false_or]; omega)
    | found _ _ bound => exact absurd (bound.symm.trans unbound) nofun
    | further _ _ _ rest' =>
      obtain ⟨hm, hr⟩ := ih rest'
      exact ⟨congrArg (· + 1) hm, hr⟩

/-- With as many turns left as the limit allows, the search ends, with what the walk finds. -/
theorem searches_bindingAlong (hd : visited.length + depth = maxSpaceDepth) (e : SpaceEntry) :
    ∃ turns ≤ depth + 1,
      s.Searches user visited (some e) turns (s.bindingAlong user depth visited e) := by
  induction depth generalizing visited e with
  | zero =>
    refine ⟨1, by omega, .halted (.inr ?_)⟩
    rw [List.length_cons]
    omega
  | succ depth ih =>
    have hnear : (e.name :: visited).length ≤ maxSpaceDepth := by
      rw [List.length_cons]
      omega
    by_cases hv : e.name ∈ visited
    · have hnone : s.bindingAlong user (depth + 1) visited e = none := by simp [bindingAlong, hv]
      exact ⟨1, by omega, hnone ▸ .halted (.inl hv)⟩
    · cases hb : s.binding? user e.name with
      | some b =>
        have hsome : s.bindingAlong user (depth + 1) visited e = some b := by
          simp [bindingAlong, hv, hb]
        exact ⟨1, by omega, hsome ▸ .found hv hnear hb⟩
      | none =>
        cases hp : s.parent? e with
        | none =>
          have hnone : s.bindingAlong user (depth + 1) visited e = none := by
            rw [parent?] at hp
            simp [bindingAlong, hv, hb, hp]
          refine ⟨1, by omega, hnone ▸ .further hv hnear hb ?_⟩
          rw [hp]
          exact .ended _
        | some f =>
          have hrest : s.bindingAlong user (depth + 1) visited e =
              s.bindingAlong user depth (e.name :: visited) f := by
            rw [parent?] at hp
            simp [bindingAlong, hv, hb, hp]
          have hdepth : (e.name :: visited).length + depth = maxSpaceDepth := by
            rw [List.length_cons]
            omega
          obtain ⟨turns, hturns, hsearch⟩ := ih hdepth f
          exact ⟨turns + 1, by omega, hrest ▸ .further hv hnear hb (hp ▸ hsearch)⟩

/-! ## The nearest bound space -/

def FirstBound (s : Snapshot) (user : String) (a : SpaceEntry) (b : BindingEntry) : Prop :=
  b.user = user ∧ b.space = a.name ∧ ∃ before after, s.document.bindings = before ++ b :: after ∧
    ∀ c ∈ before, c.user = user → c.space ≠ a.name

def Unbound (s : Snapshot) (user : String) (a : SpaceEntry) : Prop :=
  ∀ c ∈ s.document.bindings, c.user = user → c.space ≠ a.name

theorem binding_some_iff : s.binding? user a.name = some b ↔ s.FirstBound user a b := by
  simp only [binding?, List.find?_eq_some_iff_append, FirstBound, Bool.and_eq_true,
    decide_eq_true_eq, Bool.not_eq_true', Bool.and_eq_false_imp, decide_eq_false_iff_not, and_assoc]

theorem binding_none_iff : s.binding? user a.name = none ↔ s.Unbound user a := by
  simp only [binding?, List.find?_eq_none, Unbound, Bool.and_eq_true, decide_eq_true_eq, not_and]

structure Reached (s : Snapshot) (n : Nat) (e : SpaceEntry) (before : List SpaceEntry)
    (a : SpaceEntry) : Prop where
  along : before ++ [a] <+: s.chain n e
  distinct : ((before ++ [a]).map SpaceEntry.name).Nodup

def Nearest (s : Snapshot) (n : Nat) (user : String) (e : SpaceEntry) (b : BindingEntry) : Prop :=
  ∃ before a, s.Reached n e before a ∧ (∀ c ∈ before, s.Unbound user c) ∧ s.FirstBound user a b

theorem reached_cons {f : SpaceEntry} {before : List SpaceEntry} (hp : s.parent? e = some f)
    (h : s.Reached depth f before a) (hnew : ∀ c ∈ before ++ [a], c.name ≠ e.name) :
    s.Reached (depth + 1) e (e :: before) a := by
  refine ⟨?_, ?_⟩
  · simpa only [chain, hp, List.cons_append, List.cons_prefix_cons, true_and] using h.along
  · rw [List.cons_append, List.map_cons, List.nodup_cons]
    refine ⟨fun hm => ?_, h.distinct⟩
    obtain ⟨c, hc, hname⟩ := List.mem_map.mp hm
    exact hnew c hc hname

theorem reached_nil : s.Reached (depth + 1) e [] a ↔ a = e := by
  refine ⟨fun h => ?_, ?_⟩
  · have halong := h.along
    unfold chain at halong
    split at halong <;> exact (List.cons_prefix_cons.mp halong).1
  · rintro rfl
    refine ⟨?_, by simp⟩
    unfold chain
    split
    · exact List.prefix_rfl
    · exact List.prefix_append [a] _

theorem reached_head {c : SpaceEntry} {before : List SpaceEntry}
    (h : s.Reached (depth + 1) e (c :: before) a) :
    c = e ∧ (∀ d ∈ before ++ [a], d.name ≠ e.name) ∧
      ∃ f, s.parent? e = some f ∧ s.Reached depth f before a := by
  obtain ⟨halong, hdistinct⟩ := h
  rw [List.cons_append, List.map_cons, List.nodup_cons] at hdistinct
  have hnew : ∀ d ∈ before ++ [a], d.name ≠ c.name := fun d hd hname =>
    hdistinct.1 (List.mem_map.mpr ⟨d, hd, hname⟩)
  cases hp : s.parent? e with
  | none =>
    simp only [chain, hp, List.cons_append, List.cons_prefix_cons] at halong
    exact absurd halong.2 (by simp)
  | some f =>
    simp only [chain, hp, List.cons_append, List.cons_prefix_cons] at halong
    obtain ⟨rfl, halong⟩ := halong
    exact ⟨rfl, hnew, f, rfl, halong, hdistinct.2⟩

theorem bindingAlong_some_iff : s.bindingAlong user depth visited e = some b ↔
    ∃ before a, s.Reached depth e before a ∧ (∀ c ∈ before ++ [a], c.name ∉ visited) ∧
      (∀ c ∈ before, s.Unbound user c) ∧ s.FirstBound user a b := by
  induction depth generalizing visited e with
  | zero =>
    refine ⟨fun h => by simp [bindingAlong] at h, ?_⟩
    rintro ⟨before, a, ⟨halong, -⟩, -⟩
    have hnil : before ++ [a] = [] := List.prefix_nil.mp halong
    exact absurd hnil (by simp)
  | succ depth ih =>
    constructor
    · intro h
      unfold bindingAlong at h
      split at h
      · simp at h
      · rename_i hv
        rw [List.contains_iff_mem] at hv
        cases hb : s.binding? user e.name with
        | some c =>
          obtain rfl : c = b := by simpa [hb] using h
          refine ⟨[], e, reached_nil.mpr rfl, ?_, by simp, binding_some_iff.mp hb⟩
          simpa using hv
        | none =>
          cases hp : s.parent? e with
          | none => simp [hb, show e.parentSpace.bind s.space? = none from hp] at h
          | some f =>
            simp only [hb, show e.parentSpace.bind s.space? = some f from hp] at h
            obtain ⟨before, a, hreached, hnew, hunbound, hbound⟩ := ih.mp h
            have hother : ∀ c ∈ before ++ [a], c.name ≠ e.name := fun c hc heq =>
              hnew c hc (heq ▸ List.mem_cons_self)
            refine ⟨e :: before, a, reached_cons hp hreached hother, ?_, ?_, hbound⟩
            · intro c hc
              rcases List.mem_cons.mp hc with rfl | hc
              · exact hv
              · exact fun hm => hnew c hc (List.mem_cons_of_mem _ hm)
            · intro c hc
              rcases List.mem_cons.mp hc with rfl | hc
              · exact binding_none_iff.mp hb
              · exact hunbound c hc
    · rintro ⟨before, a, hreached, hnew, hunbound, hbound⟩
      cases before with
      | nil =>
        obtain rfl := reached_nil.mp hreached
        have hv : a.name ∉ visited := hnew a (by simp)
        simp [bindingAlong, hv, binding_some_iff.mpr hbound]
      | cons c before =>
        obtain ⟨rfl, hother, f, hp, hrest⟩ := reached_head hreached
        have hv : c.name ∉ visited := hnew c (by simp)
        have hb : s.binding? user c.name = none :=
          binding_none_iff.mpr (hunbound c List.mem_cons_self)
        have hstep : s.bindingAlong user (depth + 1) visited c =
            s.bindingAlong user depth (c.name :: visited) f := by
          simp [bindingAlong, hv, hb, show c.parentSpace.bind s.space? = some f from hp]
        rw [hstep, ih]
        refine ⟨before, a, hrest, fun d hd hm => ?_,
          fun d hd => hunbound d (List.mem_cons_of_mem c hd), hbound⟩
        rcases List.mem_cons.mp hm with heq | hm
        · exact hother d hd heq
        · exact hnew d (List.mem_cons_of_mem c hd) hm

theorem Reached.earlier {before mid after : List SpaceEntry} {c : SpaceEntry}
    (h : s.Reached depth e before a) (hsplit : before ++ [a] = mid ++ c :: after) :
    s.Reached depth e mid c := by
  have hstart : mid ++ [c] <+: before ++ [a] :=
    hsplit ▸ ⟨after, by simp⟩
  exact ⟨hstart.trans h.along, h.distinct.sublist (hstart.sublist.map SpaceEntry.name)⟩

theorem inheritedBinding_some_iff :
    s.inheritedBinding? user e = some b ↔ s.Nearest maxSpaceDepth user e b := by
  rw [inheritedBinding?, bindingAlong_some_iff]
  simp [Nearest]

theorem inheritedBinding_none_iff : s.inheritedBinding? user e = none ↔
    ∀ before a, s.Reached maxSpaceDepth e before a → s.Unbound user a := by
  constructor
  · intro h before a hreached
    -- Of a bound space and those before it the first that is bound would have been found.
    cases hfirst : (before ++ [a]).findSome? fun c => s.binding? user c.name with
    | none => exact binding_none_iff.mp (List.findSome?_eq_none_iff.mp hfirst a (by simp))
    | some b =>
      obtain ⟨mid, c, after, hsplit, hb, hmid⟩ := List.findSome?_eq_some_iff.mp hfirst
      have hnearest : s.Nearest maxSpaceDepth user e b :=
        ⟨mid, c, hreached.earlier hsplit, fun d hd => binding_none_iff.mp (hmid d hd),
          binding_some_iff.mp hb⟩
      exact absurd (h.symm.trans (inheritedBinding_some_iff.mpr hnearest)) nofun
  · intro h
    cases hb : s.inheritedBinding? user e with
    | none => rfl
    | some b =>
      obtain ⟨before, a, hreached, -, huser, hspace, earlier, later, hlisted, -⟩ :=
        inheritedBinding_some_iff.mp hb
      have hmem : b ∈ s.document.bindings := by simp [hlisted]
      exact absurd hspace (h before a hreached b hmem huser)

theorem bindingAlong_eq_findSome (he : s.space? e.name = some e)
    (hv : s.Passed user visited e) : s.bindingAlong user depth visited e =
      (s.chain depth e).findSome? fun a => s.binding? user a.name := by
  cases h : s.bindingAlong user depth visited e with
  | none =>
    symm
    rw [List.findSome?_eq_none_iff]
    intro a ha
    exact binding_along_none h he hv (mem_chain_iff.mp ha)
  | some b =>
    obtain ⟨before, a, hreached, -, hunbound, hbound⟩ := bindingAlong_some_iff.mp h
    obtain ⟨after, hchain⟩ := hreached.along
    rw [← hchain, List.append_assoc, List.findSome?_append]
    have hnone : (before.findSome? fun a => s.binding? user a.name) = none :=
      List.findSome?_eq_none_iff.mpr fun c hc => binding_none_iff.mpr (hunbound c hc)
    simp [hnone, binding_some_iff.mpr hbound]

/-- Access is inherited from the nearest bound space. The search ends for every space of every
catalog, after at most one turn more than the limit, and always alike; what it ends with is a
user's first binding to the nearest bound space that is reached within the limit, and nothing
exactly when no space reached is bound. For a space that is found by its name the spaces reached
may be taken for all of the first of the chain. -/
theorem nearest_binding_inherited (s : Snapshot) (user name : String) (e : SpaceEntry)
    (h : s.space? name = some e) :
    (∃ turns ≤ maxSpaceDepth + 1, ∀ n r,
      s.Searches user [] (some e) n r ↔ n = turns ∧ r = s.inheritedBinding? user e) ∧
    (∀ b, s.inheritedBinding? user e = some b ↔ s.Nearest maxSpaceDepth user e b) ∧
    (s.inheritedBinding? user e = none ↔
      ∀ before a, s.Reached maxSpaceDepth e before a → s.Unbound user a) ∧
    s.inheritedBinding? user e =
      (s.chain maxSpaceDepth e).findSome? fun a => s.binding? user a.name := by
  refine ⟨?_, fun b => inheritedBinding_some_iff, inheritedBinding_none_iff,
    bindingAlong_eq_findSome (space_found h) ⟨by simp, by simp⟩⟩
  have hstart : ([] : List String).length + maxSpaceDepth = maxSpaceDepth := rfl
  obtain ⟨turns, hturns, hsearch⟩ := searches_bindingAlong hstart e
  refine ⟨turns, hturns, fun n r => ⟨fun hr => ?_, ?_⟩⟩
  · exact hr.unique hsearch
  · rintro ⟨rfl, rfl⟩
    exact hsearch

/-- A team under an organisation that is listed twice, and whose parent leads back to the team. -/
def circle : Snapshot :=
  ⟨⟨[], [],
    [⟨"team", "", some "unit", [], ""⟩, ⟨"unit", "", some "root", [], ""⟩,
      ⟨"unit", "", none, [], ""⟩, ⟨"root", "", some "team", [], ""⟩],
    [⟨"root", "smith", "admin"⟩, ⟨"unit", "smith", "viewer"⟩, ⟨"unit", "smith", "admin"⟩], [], []⟩,
    []⟩

theorem nearest_in_circle :
    circle.space? "team" = some ⟨"team", "", some "unit", [], ""⟩ ∧
    circle.inheritedBinding? "smith" ⟨"team", "", some "unit", [], ""⟩ =
      some ⟨"unit", "smith", "viewer"⟩ ∧
    ∃ turns ≤ 17, circle.Searches "jones" [] (some ⟨"team", "", some "unit", [], ""⟩) turns none := by
  have hteam : circle.space? "team" = some ⟨"team", "", some "unit", [], ""⟩ := by decide +kernel
  obtain ⟨-, -, -, hsmith⟩ := nearest_binding_inherited circle "smith" "team" _ hteam
  obtain ⟨⟨turns, hturns, hall⟩, -, -, hjones⟩ :=
    nearest_binding_inherited circle "jones" "team" _ hteam
  refine ⟨hteam, hsmith.trans (by decide +kernel), turns, hturns, ?_⟩
  exact (hall turns none).mpr ⟨rfl, (hjones.trans (by decide +kernel)).symm⟩

end WorkspaceGateway.Catalog.Snapshot
