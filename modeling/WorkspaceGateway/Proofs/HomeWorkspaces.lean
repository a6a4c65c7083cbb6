import WorkspaceGateway.Proofs.CatalogListing

/-!
# Home workspaces of a caller

A space is home to a caller when it is bound to the caller's user and owned by the caller's
signup. A list shows exactly these as homes, each once; so it has at most one when no two spaces
are home to the caller, and a request without a workspace is let in when exactly one is. A
catalog is loaded whichever it is.
-/

set_option autoImplicit false

namespace WorkspaceGateway

open Catalog

namespace Workspace

def homes (ws : List Workspace) : List Workspace := ws.filter fun w => w.type = .home

theorem mem_homes {ws : List Workspace} {w : Workspace} :
    w ∈ homes ws ↔ w ∈ ws ∧ w.type = .home := by
  simp [homes]

theorem select_home_iff {ws : List Workspace} {w : Workspace} :
    select none ws = .ok w ↔ homes ws = [w] := by
  simp only [select, homes]
  cases ws.filter fun w => w.type = .home with
  | nil => simp
  | cons v vs =>
    cases vs with
    | nil => simp
    | cons u us => simp

theorem length_le_one_iff {ws : List Workspace} (hd : ws.Pairwise fun w v => w.name ≠ v.name) :
    ws.length ≤ 1 ↔ ∀ w ∈ ws, ∀ v ∈ ws, w.name = v.name := by
  match ws, hd with
  | [], _ => simp
  | [w], _ => simp
  | w :: v :: us, hd =>
    have hne : w.name ≠ v.name := (List.pairwise_cons.mp hd).1 v List.mem_cons_self
    constructor
    · intro hlen
      simp at hlen
    · intro hall
      exact absurd (hall w List.mem_cons_self v (List.mem_cons_of_mem w List.mem_cons_self)) hne

end Workspace

namespace Catalog.Snapshot

variable {s : Snapshot} {i : Identity} {e f : SpaceEntry} {b : BindingEntry} {w : Workspace}

/-- The space is home to the caller: the caller's signup owns it, and a binding of its own gives
the user of that signup access. -/
structure IsHome (s : Snapshot) (i : Identity) (e : SpaceEntry) : Prop where
  found : s.space? e.name = some e
  own : ∃ user, s.names? i = some (e.owner, user) ∧
    ∃ b ∈ s.document.bindings, b.user = user ∧ b.space = e.name

theorem type_home_iff {signup role : String} :
    (workspaceOf (some signup) role e).type = .home ↔ signup = e.owner := by
  by_cases h : signup = e.owner <;> simp [workspaceOf, h]

theorem home_of_listed (hw : w ∈ s.workspaces i none) (ht : w.type = .home) :
    ∃ e, s.IsHome i e ∧ e.name = w.name := by
  obtain ⟨signup, user, e, b, hn, he, hb, rfl⟩ := mem_workspaces_all.mp hw
  obtain rfl := type_home_iff.mp ht
  have hgrant := binding_grants (n := 0) hb
  have hspace := List.find?_some hb
  simp only [Bool.and_eq_true, decide_eq_true_eq] at hspace
  exact ⟨e, ⟨he, user, hn, b, hgrant.listed, hspace.1, hspace.2⟩, rfl⟩

theorem listed_of_home (he : s.IsHome i e) :
    ∃ w ∈ s.workspaces i none, w.type = .home ∧ w.name = e.name := by
  obtain ⟨user, hn, b, hb, hu, hs⟩ := he.own
  have hbound : (s.binding? user e.name).isSome = true := by
    rw [binding?, List.find?_isSome]
    exact ⟨b, hb, by simp [hu, hs]⟩
  obtain ⟨c, hc⟩ := Option.isSome_iff_exists.mp hbound
  exact ⟨workspaceOf (some e.owner) c.role e,
    mem_workspaces_all.mpr ⟨e.owner, user, e, c, hn, he.found, hc, rfl⟩, type_home_iff.mpr rfl, rfl⟩

theorem homes_same_iff : (∀ w ∈ Workspace.homes (s.workspaces i none),
    ∀ v ∈ Workspace.homes (s.workspaces i none), w.name = v.name) ↔
      ∀ e f, s.IsHome i e → s.IsHome i f → e = f := by
  constructor
  · intro hall e f he hf
    obtain ⟨w, hw, htw, hwe⟩ := listed_of_home he
    obtain ⟨v, hv, htv, hvf⟩ := listed_of_home hf
    have hname := hall w (Workspace.mem_homes.mpr ⟨hw, htw⟩) v (Workspace.mem_homes.mpr ⟨hv, htv⟩)
    rw [hwe, hvf] at hname
    exact Option.some.inj (he.found.symm.trans (hname ▸ hf.found))
  · intro hall w hw v hv
    obtain ⟨hw, htw⟩ := Workspace.mem_homes.mp hw
    obtain ⟨hv, htv⟩ := Workspace.mem_homes.mp hv
    obtain ⟨e, he, hew⟩ := home_of_listed hw htw
    obtain ⟨f, hf, hfv⟩ := home_of_listed hv htv
    rw [← hew, ← hfv, hall e f he hf]

theorem homes_nonempty_iff : Workspace.homes (s.workspaces i none) ≠ [] ↔ ∃ e, s.IsHome i e := by
  constructor
  · intro hne
    obtain ⟨w, hw⟩ := List.exists_mem_of_ne_nil _ hne
    obtain ⟨hl, ht⟩ := Workspace.mem_homes.mp hw
    obtain ⟨e, he, -⟩ := home_of_listed hl ht
    exact ⟨e, he⟩
  · rintro ⟨e, he⟩
    obtain ⟨w, hw, ht, -⟩ := listed_of_home he
    exact List.ne_nil_of_mem (Workspace.mem_homes.mpr ⟨hw, ht⟩)

theorem homes_le_one_iff : (Workspace.homes (s.workspaces i none)).length ≤ 1 ↔
    ∀ e f, s.IsHome i e → s.IsHome i f → e = f :=
  (Workspace.length_le_one_iff ((workspaces_distinct s i).filter _)).trans homes_same_iff

/-! ## One home -/

/-- A list has at most one home exactly when no two spaces are home to the caller, and a request
without a workspace is let in exactly when one is and no other. -/
theorem single_home_iff (s : Snapshot) (i : Identity) :
    ((Workspace.homes (s.workspaces i none)).length ≤ 1 ↔
      ∀ e f, s.IsHome i e → s.IsHome i f → e = f) ∧
    ((∃ w, Workspace.select none (s.workspaces i none) = .ok w) ↔
      ∃ e, s.IsHome i e ∧ ∀ f, s.IsHome i f → f = e) := by
  refine ⟨homes_le_one_iff, ?_⟩
  simp only [Workspace.select_home_iff, ← List.length_eq_one_iff]
  constructor
  · intro hone
    have hle := homes_le_one_iff.mp (Nat.le_of_eq hone)
    obtain ⟨e, he⟩ := homes_nonempty_iff.mp (List.ne_nil_of_length_eq_add_one hone)
    exact ⟨e, he, fun f hf => hle f e hf he⟩
  · rintro ⟨e, he, hall⟩
    have hle := homes_le_one_iff.mpr fun f g hf hg => (hall f hf).trans (hall g hg).symm
    have hpos := List.length_pos_iff.mpr (homes_nonempty_iff.mpr ⟨e, he⟩)
    omega

def twoHomesCatalog : Snapshot :=
  ⟨⟨[⟨"member", "https://member", "", some "token", none, false⟩],
    [⟨"smith", "user-1", "smith", "member", none⟩],
    [⟨"smith", "member", none, ["dev"], "smith"⟩,
      ⟨"playground", "member", none, ["playground-dev"], "smith"⟩],
    [⟨"smith", "smith", "admin"⟩, ⟨"playground", "smith", "admin"⟩], [], []⟩,
    [("member", "token")]⟩

/-- The catalog is loaded, smith's list has two homes, and a request without a workspace is let
into neither. -/
theorem second_home_listed :
    ofDocument (fun _ => .error .missing) twoHomesCatalog.document = .ok twoHomesCatalog ∧
      ¬ (Workspace.homes (twoHomesCatalog.workspaces ⟨"user-1", "smith", none⟩ none)).length ≤ 1 ∧
      Workspace.select none (twoHomesCatalog.workspaces ⟨"user-1", "smith", none⟩ none) =
        .error .noSingleHome :=
  ⟨rfl, by decide +kernel, rfl⟩

end Catalog.Snapshot

end WorkspaceGateway
