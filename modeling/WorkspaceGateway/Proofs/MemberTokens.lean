import Mathlib.Data.List.Forall2
import Mathlib.Data.List.Nodup
import WorkspaceGateway.Proofs.CatalogRuns
import WorkspaceGateway.Proofs.ResolvedAccess

/-!
# Member clusters and their own tokens

The tokens of a catalog are read once, entry by entry, and kept by name; the member clusters are
put together from the entries and the tokens later. A document is loaded exactly when no two
entries have one name and each gives a token, and is refused for the first entry that fails this.
Once it is loaded every cluster has the token of its own entry and no other cluster has its name,
so whatever finds a cluster by its name finds that one.
-/

set_option autoImplicit false

namespace WorkspaceGateway.Catalog

/-! ## Entries -/

inductive OwnToken (files : Files) (m : MemberEntry) : String → Prop
  | inline {t : String} (token : m.token = some t) : OwnToken files m t
  | file {path text : String} (inline : m.token = none) (file : m.tokenFile = some path)
      (read : readTextFile files path = .ok text) :
      OwnToken files m (String.ofList (Text.trim text.toList))

structure Sound (files : Files) (ms : List MemberEntry) : Prop where
  distinct : (ms.map MemberEntry.name).Nodup
  tokens : ∀ m ∈ ms, ∃ t, OwnToken files m t

/-- Why an entry cannot be loaded behind others. A repeated name counts before a missing token. -/
inductive Violation (files : Files) (before : List MemberEntry) (m : MemberEntry) :
    CatalogError → Prop
  | duplicate (known : m.name ∈ before.map MemberEntry.name) :
      Violation files before m (.duplicateMember m.name)
  | noToken (new : m.name ∉ before.map MemberEntry.name) (inline : m.token = none)
      (file : m.tokenFile = none) : Violation files before m (.noToken m.name)
  | tokenFile {path : String} {cause : FileError} (new : m.name ∉ before.map MemberEntry.name)
      (inline : m.token = none) (file : m.tokenFile = some path)
      (unreadable : readTextFile files path = .error cause) :
      Violation files before m (.tokenFile m.name path cause)

variable {files : Files} {m : MemberEntry} {ms : List MemberEntry} {e : CatalogError}
  {seen tokens : List (String × String)} {d : Document} {s : Snapshot}

theorem memberToken_ok_iff {t : String} : memberToken files m = .ok t ↔ OwnToken files m t := by
  constructor
  · intro h
    unfold memberToken at h
    split at h
    · rename_i token
      exact Except.ok.inj h ▸ .inline token
    · rename_i path inline file
      split at h
      · rename_i text read
        exact Except.ok.inj h ▸ .file inline file read
      · simp at h
    · simp at h
  · intro h
    cases h with
    | inline token => simp [memberToken, token]
    | file inline file read => simp [memberToken, inline, file, read]

theorem memberTokens_cons_iff : memberTokens files seen (m :: ms) = .ok tokens ↔
    (∀ t ∈ seen, t.1 ≠ m.name) ∧ ∃ t, OwnToken files m t ∧
      memberTokens files (seen ++ [(m.name, t)]) ms = .ok tokens := by
  by_cases hknown : ∃ t ∈ seen, t.1 = m.name
  · rw [memberTokens_of_known hknown]
    obtain ⟨t, ht, hn⟩ := hknown
    simp only [reduceCtorEq, false_iff]
    exact fun h => h.1 t ht hn
  · have hnew : ∀ t ∈ seen, t.1 ≠ m.name := fun t ht hn => hknown ⟨t, ht, hn⟩
    rw [memberTokens_of_new hnew, and_iff_right hnew]
    simp only [← memberToken_ok_iff]
    cases memberToken files m with
    | error cause => simp
    | ok t => simp

/-! ## Tokens kept by name -/

structure KeptFor (files : Files) (m : MemberEntry) (kept : String × String) : Prop where
  name : kept.1 = m.name
  own : OwnToken files m kept.2

theorem names_of_kept (h : List.Forall₂ (KeptFor files) ms tokens) :
    tokens.map Prod.fst = ms.map MemberEntry.name := by
  induction h with
  | nil => rfl
  | cons hm _ ih => rw [List.map_cons, List.map_cons, ih, hm.name]

theorem found_of_kept (h : List.Forall₂ (KeptFor files) ms tokens)
    (hd : (ms.map MemberEntry.name).Nodup) (hm : m ∈ ms) :
    ∃ t, OwnToken files m t ∧ tokens.find? (fun kept => kept.1 = m.name) = some (m.name, t) := by
  induction h with
  | nil => simp at hm
  | @cons k kept ks rest hk _ ih =>
    rw [List.map_cons, List.nodup_cons] at hd
    obtain ⟨name, t⟩ := kept
    obtain rfl : name = k.name := hk.name
    rcases List.mem_cons.mp hm with rfl | hm
    · exact ⟨t, hk.own, by simp⟩
    · obtain ⟨t', ht', hfind⟩ := ih hd.2 hm
      have hne : k.name ≠ m.name := fun hn => hd.1 (hn ▸ List.mem_map_of_mem hm)
      exact ⟨t', ht', by simpa [hne] using hfind⟩

theorem nodup_kept_snoc {name : String} (hs : (seen.map Prod.fst).Nodup)
    (hnew : ∀ t ∈ seen, t.1 ≠ name) (t : String) :
    ((seen ++ [(name, t)]).map Prod.fst).Nodup := by
  rw [List.map_append, List.nodup_append]
  refine ⟨hs, by simp, ?_⟩
  intro a ha b hb
  obtain ⟨kept, hk, rfl⟩ := List.mem_map.mp ha
  rw [List.mem_singleton.mp hb]
  exact hnew kept hk

/-- Entries are read, behind what was kept before, when no name is repeated and each gives a
token; and then that token is kept for it. -/
theorem memberTokens_ok_iff (hs : (seen.map Prod.fst).Nodup) :
    memberTokens files seen ms = .ok tokens ↔
      (seen.map Prod.fst ++ ms.map MemberEntry.name).Nodup ∧
        ∃ own, List.Forall₂ (KeptFor files) ms own ∧ tokens = seen ++ own := by
  induction ms generalizing seen with
  | nil => simp [memberTokens, hs, eq_comm]
  | cons k ks ih =>
    have hassoc (t : String) : (seen ++ [(k.name, t)]).map Prod.fst ++ ks.map MemberEntry.name =
        seen.map Prod.fst ++ (k :: ks).map MemberEntry.name := by simp
    rw [memberTokens_cons_iff]
    constructor
    · rintro ⟨hnew, t, ht, h⟩
      obtain ⟨hnodup, own, hown, rfl⟩ := (ih (nodup_kept_snoc hs hnew t)).mp h
      exact ⟨hassoc t ▸ hnodup, (k.name, t) :: own, .cons ⟨rfl, ht⟩ hown, by simp⟩
    · rintro ⟨hnodup, own, hown, rfl⟩
      obtain ⟨⟨name, t⟩, rest, hk, hrest, rfl⟩ := List.forall₂_cons_left_iff.mp hown
      obtain rfl : name = k.name := hk.name
      have hnew : ∀ kept ∈ seen, kept.1 ≠ k.name := fun kept hm =>
        (List.nodup_append.mp hnodup).2.2 _ (List.mem_map_of_mem hm) _ List.mem_cons_self
      exact ⟨hnew, t, hk.own, (ih (nodup_kept_snoc hs hnew t)).mpr
        ⟨(hassoc t).symm ▸ hnodup, rest, hrest, by simp⟩⟩

theorem exists_kept (h : ∀ m ∈ ms, ∃ t, OwnToken files m t) :
    ∃ tokens, List.Forall₂ (KeptFor files) ms tokens := by
  induction ms with
  | nil => exact ⟨[], .nil⟩
  | cons m ms ih =>
    obtain ⟨t, ht⟩ := h m List.mem_cons_self
    obtain ⟨own, hown⟩ := ih fun k hk => h k (List.mem_cons_of_mem m hk)
    exact ⟨(m.name, t) :: own, .cons ⟨rfl, ht⟩ hown⟩

theorem memberTokens_all_iff : memberTokens files [] ms = .ok tokens ↔
    Sound files ms ∧ List.Forall₂ (KeptFor files) ms tokens := by
  rw [memberTokens_ok_iff (by simp), List.map_nil, List.nil_append]
  constructor
  · rintro ⟨hnodup, own, hown, rfl⟩
    refine ⟨⟨hnodup, fun m hm => ?_⟩, hown⟩
    obtain ⟨t, ht, -⟩ := found_of_kept hown hnodup hm
    exact ⟨t, ht⟩
  · rintro ⟨hsound, hkept⟩
    exact ⟨hsound.distinct, tokens, hkept, rfl⟩

/-! ## Loading -/

/-- Behind entries that were read an entry is refused by the names of those entries. -/
theorem refusedEntry_iff (h : List.Forall₂ (KeptFor files) ms tokens) :
    RefusedEntry files tokens m e ↔ Violation files ms m e := by
  have hknown : (∃ t ∈ tokens, t.1 = m.name) ↔ m.name ∈ ms.map MemberEntry.name := by
    rw [← names_of_kept h, List.mem_map]
  have hnew : (∀ t ∈ tokens, t.1 ≠ m.name) ↔ m.name ∉ ms.map MemberEntry.name := by
    rw [← hknown]
    exact ⟨fun h ⟨t, ht, hn⟩ => h t ht hn, fun h t ht hn => h ⟨t, ht, hn⟩⟩
  constructor
  · intro hr
    cases hr with
    | duplicate known => exact .duplicate (hknown.mp known)
    | noToken new inline file => exact .noToken (hnew.mp new) inline file
    | tokenFile new inline file unreadable => exact .tokenFile (hnew.mp new) inline file unreadable
  · intro hv
    cases hv with
    | duplicate known => exact .duplicate (hknown.mpr known)
    | noToken new inline file => exact .noToken (hnew.mpr new) inline file
    | tokenFile new inline file unreadable =>
      exact .tokenFile (hnew.mpr new) inline file unreadable

namespace Snapshot

theorem ofDocument_ok_iff : ofDocument files d = .ok s ↔
    s.document = d ∧ Sound files d.members ∧ List.Forall₂ (KeptFor files) d.members s.tokens := by
  rw [← memberTokens_all_iff, ofDocument]
  obtain ⟨document, tokens⟩ := s
  cases memberTokens files [] d.members with
  | error cause => simp [Except.map]
  | ok own => simp [Except.map, eq_comm]

theorem ofDocument_error_iff : ofDocument files d = .error e ↔ ∃ before m after,
    d.members = before ++ m :: after ∧ Sound files before ∧ Violation files before m e := by
  have hread : ofDocument files d = .error e ↔ memberTokens files [] d.members = .error e := by
    rw [ofDocument]
    cases memberTokens files [] d.members <;> simp [Except.map]
  rw [hread, memberTokens_error_iff]
  constructor
  · rintro ⟨before, m, after, tokens, hs, hb, hm⟩
    obtain ⟨hsound, hkept⟩ := memberTokens_all_iff.mp hb
    exact ⟨before, m, after, hs, hsound, (refusedEntry_iff hkept).mp hm⟩
  · rintro ⟨before, m, after, hs, hsound, hm⟩
    obtain ⟨tokens, hkept⟩ := exists_kept hsound.tokens
    exact ⟨before, m, after, tokens, hs, memberTokens_all_iff.mpr ⟨hsound, hkept⟩,
      (refusedEntry_iff hkept).mpr hm⟩

structure Shows (files : Files) (routes : AttachedRoutes) (e : MemberEntry) (m : MemberCluster) :
    Prop where
  name : m.name = e.name
  endpoint : m.apiEndpoint = e.apiEndpoint
  operatorNamespace : m.operatorNamespace = e.operatorNamespace
  token : OwnToken files e m.bearerToken
  routes : m.routes = routes e.name

theorem tokenOf_own (h : ofDocument files d = .ok s) (hm : m ∈ d.members) :
    ∃ t, OwnToken files m t ∧ (s.tokens.find? fun kept => kept.1 = m.name) = some (m.name, t) := by
  obtain ⟨-, hsound, hkept⟩ := ofDocument_ok_iff.mp h
  exact found_of_kept hkept hsound.distinct hm

theorem members_shown (h : ofDocument files d = .ok s) (routes : AttachedRoutes) :
    List.Forall₂ (Shows files routes) d.members (s.members routes) := by
  obtain ⟨rfl, -, -⟩ := ofDocument_ok_iff.mp h
  rw [members, List.forall₂_map_right_iff, List.forall₂_same]
  intro e he
  obtain ⟨t, ht, hfind⟩ := tokenOf_own h he
  have htoken : s.tokenOf e.name = t := by rw [tokenOf, hfind]; rfl
  exact ⟨rfl, rfl, rfl, htoken ▸ ht, rfl⟩

theorem entry_of_shown {routes : AttachedRoutes} {es : List MemberEntry}
    {shown : List MemberCluster} (h : List.Forall₂ (Shows files routes) es shown)
    {m : MemberCluster} (hm : m ∈ shown) : ∃ e ∈ es, Shows files routes e m := by
  obtain ⟨i, hi, rfl⟩ := List.mem_iff_getElem.mp hm
  have hi' : i < es.length := h.length_eq ▸ hi
  exact ⟨es[i], List.getElem_mem hi', h.get hi' hi⟩

theorem members_distinct (h : ofDocument files d = .ok s) (routes : AttachedRoutes) :
    ((s.members routes).map MemberCluster.name).Nodup := by
  obtain ⟨rfl, hsound, -⟩ := ofDocument_ok_iff.mp h
  rw [members, List.map_map]
  exact hsound.distinct

theorem member_unique (h : ofDocument files d = .ok s) {routes : AttachedRoutes}
    {m k : MemberCluster} (hm : m ∈ s.members routes) (hk : k ∈ s.members routes)
    (hn : m.name = k.name) : m = k :=
  List.inj_on_of_nodup_map (members_distinct h routes) hm hk hn

end Snapshot

/-! ## Serving -/

namespace Store

def attaching (attached : List (String × (RouteRef → Lookup Route))) : List Change :=
  attached.map fun a => .attach a.1 a.2

theorem run_attaching (c : Store) (attached : List (String × (RouteRef → Lookup Route))) :
    (c.run (attaching attached)).snapshot = c.snapshot := by
  induction attached generalizing c with
  | nil => rfl
  | cons a attached ih => exact ih (c.attachRoutes a.1 a.2)

theorem members_attaching (path «namespace» : String) (s : Snapshot)
    (attached : List (String × (RouteRef → Lookup Route))) :
    (run ⟨path, «namespace», s, []⟩ (attaching attached)).directory.members =
      s.members (lastAttached (attaching attached)) := by
  have hlast : (run ⟨path, «namespace», s, []⟩ (attaching attached)).attached =
      lastAttached (attaching attached) := by
    funext cluster
    rw [run_attached]
    exact Option.or_none
  change Snapshot.members _ _ = _
  rw [run_attaching, hlast]

/-- A document is loaded exactly when its entries can be loaded together, and is else refused for
the first that cannot be loaded behind those before it. Once it is loaded there is a token kept for
each entry, and, after any routes were attached, one member cluster for each entry, in their
order, with the entry's own token and the last routes of its name. No two clusters have one name,
and the cluster that a request is resolved to is the only one of the name that it was looked up
by, with the token of its own entry. -/
theorem members_carry_own_tokens (files : Files) (d : Document) :
    ((∃ s, Snapshot.ofDocument files d = .ok s) ↔ Sound files d.members) ∧
    (∀ e, Snapshot.ofDocument files d = .error e ↔ ∃ before m after,
      d.members = before ++ m :: after ∧ Sound files before ∧ Violation files before m e) ∧
    ∀ s, Snapshot.ofDocument files d = .ok s →
      (∀ m ∈ d.members, ∃ t, OwnToken files m t ∧
        (s.tokens.find? fun kept => kept.1 = m.name) = some (m.name, t)) ∧
      ∀ path «namespace» attached c, c = run ⟨path, «namespace», s, []⟩ (attaching attached) →
        List.Forall₂ (Snapshot.Shows files (lastAttached (attaching attached))) d.members
          c.directory.members ∧
        (c.directory.members.map MemberCluster.name).Nodup ∧
        ∀ userId username workspace plugin viewer access,
          Access.resolve c.directory.steady userId username workspace plugin viewer =
            .ok access →
          ∃ m ∈ c.directory.members, Access.Chosen c.directory.steady userId username workspace m ∧
            (∀ k ∈ c.directory.members, k.name = m.name → k = m) ∧
            ∃ e ∈ d.members, e.name = m.name ∧ OwnToken files e access.token := by
  refine ⟨?_, fun e => Snapshot.ofDocument_error_iff, fun s hs =>
    ⟨fun m hm => Snapshot.tokenOf_own hs hm, ?_⟩⟩
  · constructor
    · rintro ⟨s, hs⟩
      exact (Snapshot.ofDocument_ok_iff.mp hs).2.1
    · intro hsound
      obtain ⟨tokens, hkept⟩ := exists_kept hsound.tokens
      exact ⟨⟨d, tokens⟩, Snapshot.ofDocument_ok_iff.mpr ⟨rfl, hsound, hkept⟩⟩
  · rintro path «namespace» attached c rfl
    have hshown := Snapshot.members_shown hs (lastAttached (attaching attached))
    rw [members_attaching]
    refine ⟨hshown, Snapshot.members_distinct hs _, ?_⟩
    intro userId username workspace plugin viewer access hr
    obtain ⟨m, hleads, hchosen⟩ := Access.resolve_member hr
    have hm : m ∈ s.members (lastAttached (attaching attached)) :=
      members_attaching path «namespace» s attached ▸ hleads.registered
    obtain ⟨e, he, hshows⟩ := Snapshot.entry_of_shown hshown hm
    exact ⟨m, hm, hchosen, fun k hk hn => Snapshot.member_unique hs hk hm hn, e, he,
      hshows.name.symm, hleads.token ▸ hshows.token⟩

def mixedTokens : Document :=
  ⟨[⟨"member", "https://member", "", some " inline", none, false⟩,
      ⟨"other", "https://other", "", none, some "token", true⟩],
    [⟨"smith", "user-1", "smith", "other", none⟩], [], [], [], []⟩

def mixedFiles : Files := fun path =>
  if path = "token" then .ok (Octets.ofText " one\n") else .error .missing

def smithStore : Store :=
  run ⟨"catalog", "", ⟨mixedTokens, [("member", " inline"), ("other", "one")]⟩, []⟩
    (attaching [("member", noRoutes), ("other", noRoutes)])

theorem file_token_resolved :
    ∃ access m, Access.resolve smithStore.directory.steady "user-1" "smith" none none false =
        .ok access ∧
      m ∈ smithStore.directory.members ∧
      (∀ k ∈ smithStore.directory.members, k.name = m.name → k = m) ∧
      ∃ e ∈ mixedTokens.members, e.name = m.name ∧ OwnToken mixedFiles e access.token := by
  have hs : Snapshot.ofDocument mixedFiles mixedTokens =
      .ok ⟨mixedTokens, [("member", " inline"), ("other", "one")]⟩ := rfl
  have hr : (Access.resolve smithStore.directory.steady "user-1" "smith" none none false).isOk =
      true := by decide +kernel
  cases h : Access.resolve smithStore.directory.steady "user-1" "smith" none none false with
  | error e => simp [h, Except.isOk, Except.toBool] at hr
  | ok access =>
    obtain ⟨-, -, hresolved⟩ :=
      ((members_carry_own_tokens mixedFiles mixedTokens).2.2 _ hs).2 _ _ _ smithStore rfl
    obtain ⟨m, hm, -, hone, howner⟩ := hresolved _ _ _ _ _ access h
    exact ⟨access, m, rfl, hm, hone, howner⟩

end Store

end WorkspaceGateway.Catalog
