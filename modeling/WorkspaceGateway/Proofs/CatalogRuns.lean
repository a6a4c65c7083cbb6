import WorkspaceGateway.Catalog.Store

/-!
# The catalog after many changes

A catalog that was loaded is read again and gets routes attached, in any order and any number of
times. Every lookup is answered by the last contents that could be loaded, as if they had just been
loaded, and with the newest routes of each cluster. Contents that cannot be loaded are refused for
a cause that can be named, and change nothing.
-/

set_option autoImplicit false

namespace WorkspaceGateway.Catalog

/-! ## Contents that cannot be loaded -/

inductive RefusedEntry (files : Files) (tokens : List (String × String)) (m : MemberEntry) :
    CatalogError → Prop
  | duplicate (known : ∃ t ∈ tokens, t.1 = m.name) :
      RefusedEntry files tokens m (.duplicateMember m.name)
  | noToken (new : ∀ t ∈ tokens, t.1 ≠ m.name) (inline : m.token = none)
      (file : m.tokenFile = none) : RefusedEntry files tokens m (.noToken m.name)
  | tokenFile {path : String} {cause : FileError} (new : ∀ t ∈ tokens, t.1 ≠ m.name)
      (inline : m.token = none) (file : m.tokenFile = some path)
      (unreadable : readTextFile files path = .error cause) :
      RefusedEntry files tokens m (.tokenFile m.name path cause)

inductive Refused (files : Files) (path : String) : CatalogError → Prop
  | unreadable {cause : FileError} (text : readTextFile files path = .error cause) :
      Refused files path (.read path cause)
  | malformed {text : String} (read : readTextFile files path = .ok text)
      (document : Document.read? text = none) : Refused files path (.parse path)
  | entry {text : String} {d : Document} {before after : List MemberEntry} {m : MemberEntry}
      {tokens : List (String × String)} {e : CatalogError}
      (read : readTextFile files path = .ok text) (document : Document.read? text = some d)
      (members : d.members = before ++ m :: after)
      (earlier : memberTokens files [] before = .ok tokens)
      (refused : RefusedEntry files tokens m e) : Refused files path e

variable {files : Files} {path : String} {m : MemberEntry} {e : CatalogError}
  {seen : List (String × String)}

theorem known_iff (seen : List (String × String)) (name : String) :
    (seen.any fun t => t.1 = name) = true ↔ ∃ t ∈ seen, t.1 = name := by
  simp [List.any_eq_true]

theorem new_iff (seen : List (String × String)) (name : String) :
    (seen.any fun t => t.1 = name) = false ↔ ∀ t ∈ seen, t.1 ≠ name := by
  simp [List.any_eq_false]

theorem memberTokens_of_known (h : ∃ t ∈ seen, t.1 = m.name) (ms : List MemberEntry) :
    memberTokens files seen (m :: ms) = .error (.duplicateMember m.name) := by
  rw [memberTokens, if_pos ((known_iff seen m.name).mpr h)]

theorem memberTokens_of_new (h : ∀ t ∈ seen, t.1 ≠ m.name) (ms : List MemberEntry) :
    memberTokens files seen (m :: ms) =
      match memberToken files m with
      | .error e => .error e
      | .ok t => memberTokens files (seen ++ [(m.name, t)]) ms := by
  rw [memberTokens, (new_iff seen m.name).mpr h]
  rfl

theorem memberToken_error_iff : memberToken files m = .error e ↔
    m.token = none ∧ (m.tokenFile = none ∧ e = .noToken m.name ∨
      ∃ path cause, m.tokenFile = some path ∧ readTextFile files path = .error cause ∧
        e = .tokenFile m.name path cause) := by
  unfold memberToken
  cases m.token with
  | some t => simp
  | none =>
    cases m.tokenFile with
    | none => simp [eq_comm]
    | some path =>
      cases hr : readTextFile files path with
      | error cause => simp [hr, eq_comm]
      | ok s => simp [hr]

theorem entry_refused (new : ∀ t ∈ seen, t.1 ≠ m.name) (h : memberToken files m = .error e) :
    RefusedEntry files seen m e := by
  obtain ⟨inline, ⟨hfile, rfl⟩ | ⟨path, cause, hfile, hr, rfl⟩⟩ := memberToken_error_iff.mp h
  · exact .noToken new inline hfile
  · exact .tokenFile new inline hfile hr

theorem memberTokens_of_refused (h : RefusedEntry files seen m e) (ms : List MemberEntry) :
    memberTokens files seen (m :: ms) = .error e := by
  cases h with
  | duplicate known => exact memberTokens_of_known known ms
  | noToken new inline file =>
    rw [memberTokens_of_new new, memberToken_error_iff.mpr ⟨inline, .inl ⟨file, rfl⟩⟩]
  | tokenFile new inline file unreadable =>
    rw [memberTokens_of_new new,
      memberToken_error_iff.mpr ⟨inline, .inr ⟨_, _, file, unreadable, rfl⟩⟩]

theorem memberTokens_error_iff {ms : List MemberEntry} :
    memberTokens files seen ms = .error e ↔ ∃ before m after tokens,
      ms = before ++ m :: after ∧ memberTokens files seen before = .ok tokens ∧
        RefusedEntry files tokens m e := by
  induction ms generalizing seen with
  | nil => simp [memberTokens]
  | cons k ks ih =>
    constructor
    · intro h
      by_cases hknown : ∃ t ∈ seen, t.1 = k.name
      · rw [memberTokens_of_known hknown] at h
        exact ⟨[], k, ks, seen, rfl, rfl, Except.error.inj h ▸ .duplicate hknown⟩
      · have hnew : ∀ t ∈ seen, t.1 ≠ k.name := fun t ht hn => hknown ⟨t, ht, hn⟩
        rw [memberTokens_of_new hnew] at h
        cases ht : memberToken files k with
        | error e' =>
          simp only [ht, Except.error.injEq] at h
          exact ⟨[], k, ks, seen, rfl, rfl, h ▸ entry_refused hnew ht⟩
        | ok t =>
          simp only [ht] at h
          obtain ⟨before, m, after, tokens, hs, hb, hm⟩ := ih.mp h
          refine ⟨k :: before, m, after, tokens, by rw [hs, List.cons_append], ?_, hm⟩
          simp only [memberTokens_of_new hnew, ht, hb]
    · rintro ⟨before, m, after, tokens, hs, hb, hm⟩
      cases before with
      | nil =>
        obtain ⟨rfl, rfl⟩ := List.cons.inj hs
        obtain rfl : seen = tokens := Except.ok.inj hb
        exact memberTokens_of_refused hm ks
      | cons b bs =>
        obtain ⟨rfl, hks⟩ := List.cons.inj hs
        by_cases hknown : ∃ t ∈ seen, t.1 = k.name
        · simp [memberTokens_of_known hknown] at hb
        · have hnew : ∀ t ∈ seen, t.1 ≠ k.name := fun t ht hn => hknown ⟨t, ht, hn⟩
          rw [memberTokens_of_new hnew] at hb ⊢
          cases ht : memberToken files k with
          | error e' => simp [ht] at hb
          | ok t =>
            simp only [ht] at hb ⊢
            exact ih.mpr ⟨bs, m, after, tokens, hks, hb, hm⟩

theorem load_of_text {text : String} {d : Document} (hf : files path = .ok (Octets.ofText text))
    (hd : Document.read? text = some d) :
    Snapshot.load files path = Snapshot.ofDocument files d := by
  simp [Snapshot.load, readTextFile, hf, Octets.text?_ofText, hd]

/-- Contents are refused exactly for one of the causes. -/
theorem load_error_iff : Snapshot.load files path = .error e ↔ Refused files path e := by
  unfold Snapshot.load
  cases hr : readTextFile files path with
  | error cause =>
    constructor
    · intro h
      exact Except.error.inj h ▸ .unreadable hr
    · intro h
      cases h with
      | unreadable text => rw [hr] at text; rw [Except.error.inj text]
      | malformed read => simp [hr] at read
      | entry read => simp [hr] at read
  | ok text =>
    cases hd : Document.read? text with
    | none =>
      simp only [hd]
      constructor
      · intro h
        exact Except.error.inj h ▸ .malformed hr hd
      · intro h
        cases h with
        | unreadable text => simp [hr] at text
        | malformed => rfl
        | entry read document =>
          rw [hr] at read
          simp [← Except.ok.inj read, hd] at document
    | some d =>
      have hdoc : Snapshot.ofDocument files d = .error e ↔
          memberTokens files [] d.members = .error e := by
        unfold Snapshot.ofDocument
        cases memberTokens files [] d.members <;> simp [Except.map]
      simp only [hd]
      rw [hdoc, memberTokens_error_iff]
      constructor
      · rintro ⟨before, m, after, tokens, hs, hb, hm⟩
        exact .entry hr hd hs hb hm
      · intro h
        cases h with
        | unreadable text => simp [hr] at text
        | malformed read document =>
          rw [hr] at read
          simp [← Except.ok.inj read, hd] at document
        | entry read document members earlier refused =>
          rw [hr] at read
          rw [← Except.ok.inj read, hd] at document
          rw [← Option.some.inj document] at members
          exact ⟨_, _, _, _, members, earlier, refused⟩

/-! ## Changes -/

inductive Change where
  | attach (cluster : String) (routes : RouteRef → Lookup Route)
  /-- It is read again while its files hold these contents. -/
  | reload (files : Files)

namespace Change

def contents? : Change → Option Files
  | attach .. => none
  | reload files => some files

def routesOf? (cluster : String) : Change → Option (RouteRef → Lookup Route)
  | attach name routes => if name = cluster then some routes else none
  | reload _ => none

end Change

def loads (path : String) (files : Files) : Bool := (Snapshot.load files path).isOk

def lastLoaded (path : String) (first : Files) (changes : List Change) : Files :=
  ((changes.filterMap Change.contents?).filter (loads path)).getLastD first

def lastAttached (changes : List Change) : Snapshot.AttachedRoutes := fun cluster =>
  (changes.filterMap (Change.routesOf? cluster)).getLast?

theorem lastLoaded_attach (path : String) (first : Files) (cluster : String)
    (routes : RouteRef → Lookup Route) (changes : List Change) :
    lastLoaded path first (.attach cluster routes :: changes) = lastLoaded path first changes := rfl

theorem lastLoaded_reload (path : String) (first files : Files) (changes : List Change) :
    lastLoaded path first (.reload files :: changes) =
      lastLoaded path (if loads path files then files else first) changes := by
  unfold lastLoaded
  rw [List.filterMap_cons_some (show Change.contents? (.reload files) = some files from rfl),
    List.filter_cons]
  cases loads path files with
  | true => rw [if_pos rfl, if_pos rfl, List.getLastD_cons]
  | false => rfl

theorem lastAttached_cons (change : Change) (changes : List Change) (cluster : String) :
    lastAttached (change :: changes) cluster =
      (lastAttached changes cluster).or (Change.routesOf? cluster change) := by
  unfold lastAttached
  cases h : Change.routesOf? cluster change with
  | none => rw [List.filterMap_cons_none h, Option.or_none]
  | some routes =>
    rw [List.filterMap_cons_some h, List.getLast?_cons]
    cases (changes.filterMap (Change.routesOf? cluster)).getLast? <;> rfl

namespace Store

def apply (c : Store) : Change → Store
  | .attach cluster routes => c.attachRoutes cluster routes
  | .reload files => c.refresh files

def run (c : Store) (changes : List Change) : Store := changes.foldl apply c

variable {c : Store} {first : Files} {«namespace» : String}

theorem reload_eq (c : Store) (files : Files) :
    c.reload files = (Snapshot.load files c.path).map fun s => { c with snapshot := s } := rfl

theorem reload_error_iff {files : Files} {e : CatalogError} :
    c.reload files = .error e ↔ Snapshot.load files c.path = .error e := by
  rw [reload_eq]
  cases Snapshot.load files c.path <;> simp [Except.map]

theorem refresh_of_error {files : Files} {e : CatalogError} (h : c.reload files = .error e) :
    c.refresh files = c := by
  rw [refresh, h]

theorem refresh_of_loaded {files : Files} {s : Snapshot}
    (h : Snapshot.load files c.path = .ok s) :
    c.refresh files = { c with snapshot := s } := by
  simp [refresh, reload_eq, h, Except.map]

theorem apply_place (c : Store) (change : Change) :
    (c.apply change).path = c.path ∧ (c.apply change).namespace = c.namespace := by
  cases change with
  | attach cluster routes => exact ⟨rfl, rfl⟩
  | reload files =>
    cases h : Snapshot.load files c.path with
    | error e =>
      rw [apply, refresh_of_error (reload_error_iff.mpr h)]
      exact ⟨rfl, rfl⟩
    | ok s =>
      rw [apply, refresh_of_loaded h]
      exact ⟨rfl, rfl⟩

theorem run_place (c : Store) (changes : List Change) :
    (c.run changes).path = c.path ∧ (c.run changes).namespace = c.namespace := by
  induction changes generalizing c with
  | nil => exact ⟨rfl, rfl⟩
  | cons change changes ih =>
    obtain ⟨hp, hn⟩ := ih (c.apply change)
    obtain ⟨hp', hn'⟩ := apply_place c change
    exact ⟨hp.trans hp', hn.trans hn'⟩

/-- After any changes the snapshot is that of the last contents that could be loaded. -/
theorem run_snapshot (h : Snapshot.load first c.path = .ok c.snapshot) (changes : List Change) :
    Snapshot.load (lastLoaded c.path first changes) c.path = .ok (c.run changes).snapshot := by
  induction changes generalizing c first with
  | nil => exact h
  | cons change changes ih =>
    cases change with
    | attach cluster routes => exact ih (c := c.attachRoutes cluster routes) h
    | reload files =>
      rw [lastLoaded_reload]
      change Snapshot.load _ c.path = .ok ((c.refresh files).run changes).snapshot
      cases hl : Snapshot.load files c.path with
      | error e =>
        rw [refresh_of_error (reload_error_iff.mpr hl),
          if_neg (by simp [loads, hl, Except.isOk, Except.toBool])]
        exact ih h
      | ok s =>
        rw [refresh_of_loaded hl, if_pos (by simp [loads, hl, Except.isOk, Except.toBool])]
        exact ih (c := { c with snapshot := s }) hl

theorem apply_attached (c : Store) (change : Change) (cluster : String) :
    (c.apply change).attached cluster =
      (Change.routesOf? cluster change).or (c.attached cluster) := by
  cases change with
  | attach name routes =>
    by_cases h : name = cluster <;> simp [apply, attached, attachRoutes, Change.routesOf?, h]
  | reload files =>
    cases h : Snapshot.load files c.path with
    | error e =>
      rw [apply, refresh_of_error (reload_error_iff.mpr h)]
      rfl
    | ok s =>
      rw [apply, refresh_of_loaded h]
      rfl

theorem run_attached (c : Store) (changes : List Change) (cluster : String) :
    (c.run changes).attached cluster =
      (lastAttached changes cluster).or (c.attached cluster) := by
  induction changes generalizing c with
  | nil => rfl
  | cons change changes ih =>
    change ((c.apply change).run changes).attached cluster = _
    rw [ih, apply_attached, lastAttached_cons, Option.or_assoc]

theorem run_append (c : Store) (changes more : List Change) :
    c.run (changes ++ more) = (c.run changes).run more := List.foldl_append

theorem load_ok {files : Files} {path : String} (h : load files path «namespace» = .ok c) :
    Snapshot.load files path = .ok c.snapshot ∧ c.path = path ∧ c.namespace = «namespace» ∧
      c.routes = [] := by
  unfold load at h
  cases hs : Snapshot.load files path with
  | error e => simp [hs, Except.map] at h
  | ok s =>
    simp only [hs, Except.map, Except.ok.injEq] at h
    subst h
    exact ⟨rfl, rfl, rfl, rfl⟩

/-- After any changes every lookup is answered as by a catalog just loaded from the last contents
that could be loaded, with the last routes of each cluster. Contents are refused exactly for one
of the causes, and then no lookup is answered differently. -/
theorem run_answers_as_last_loaded {files : Files} {path : String}
    (h : load files path «namespace» = .ok c) (changes : List Change) :
    (∃ fresh, load (lastLoaded path files changes) path «namespace» = .ok fresh ∧
      (c.run changes).directory =
        fresh.snapshot.directory «namespace» (lastAttached changes)) ∧
    ∀ contents e,
      ((c.run changes).reload contents = .error e ↔ Refused contents path e) ∧
      ((c.run changes).reload contents = .error e →
        (c.run (changes ++ [.reload contents])).directory = (c.run changes).directory) := by
  obtain ⟨hs, rfl, rfl, hroutes⟩ := load_ok h
  obtain ⟨hpath, hnamespace⟩ := run_place c changes
  have hattached : (c.run changes).attached = lastAttached changes := by
    funext cluster
    rw [run_attached, attached, hroutes]
    exact Option.or_none
  constructor
  · refine ⟨⟨c.path, c.namespace, (c.run changes).snapshot, []⟩, ?_, ?_⟩
    · rw [load, run_snapshot hs]
      rfl
    · rw [directory, hnamespace, hattached]
  · intro contents e
    refine ⟨?_, fun he => ?_⟩
    · rw [reload_error_iff, hpath, load_error_iff]
    · rw [run_append]
      exact congrArg directory (refresh_of_error he)

def twoMembers : Document :=
  ⟨[⟨"member", "https://member", "", some "inline", none, false⟩,
    ⟨"other", "https://other", "", none, some "token", false⟩], [], [], [], [], []⟩

def twoMembersText : String :=
  "memberClusters:\n- name: member\n  apiEndpoint: https://member\n  token: inline\n" ++
    "- name: other\n  apiEndpoint: https://other\n  tokenFile: token\n"

def twoMemberFiles (token : Except FileError Octets) : Files := fun path =>
  if path = "catalog" then .ok (Octets.ofText twoMembersText)
  else if path = "token" then token
  else .error .missing

theorem load_twoMembers (token : Except FileError Octets) :
    Snapshot.load (twoMemberFiles token) "catalog" =
      Snapshot.ofDocument (twoMemberFiles token) twoMembers :=
  load_of_text (if_pos rfl) (by decide +kernel)

def noRoutes : RouteRef → Lookup Route := fun ref => .error (.notFound "route" ref.name)

/-- The token file is lost, routes are attached, and the catalog is read again twice. -/
def lostToken : List Change :=
  [.reload (twoMemberFiles (.error .missing)), .attach "other" noRoutes,
    .reload (twoMemberFiles (.error .missing))]

theorem token_kept_when_lost :
    load (twoMemberFiles (.ok (Octets.ofText "one\n"))) "catalog" "" =
      .ok ⟨"catalog", "", ⟨twoMembers, [("member", "inline"), ("other", "one")]⟩, []⟩ ∧
    (run ⟨"catalog", "", ⟨twoMembers, [("member", "inline"), ("other", "one")]⟩, []⟩
        lostToken).reload (twoMemberFiles (.error .missing)) =
      .error (.tokenFile "other" "token" .missing) ∧
    (run ⟨"catalog", "", ⟨twoMembers, [("member", "inline"), ("other", "one")]⟩, []⟩
        lostToken).directory =
      Snapshot.directory ⟨twoMembers, [("member", "inline"), ("other", "one")]⟩ ""
        (lastAttached lostToken) := by
  have hload : load (twoMemberFiles (.ok (Octets.ofText "one\n"))) "catalog" "" =
      .ok ⟨"catalog", "", ⟨twoMembers, [("member", "inline"), ("other", "one")]⟩, []⟩ := by
    rw [load, load_twoMembers]
    rfl
  have hlost : Snapshot.load (twoMemberFiles (.error .missing)) "catalog" =
      .error (.tokenFile "other" "token" .missing) := by
    rw [load_twoMembers]
    rfl
  have hlast : lastLoaded "catalog" (twoMemberFiles (.ok (Octets.ofText "one\n"))) lostToken =
      twoMemberFiles (.ok (Octets.ofText "one\n")) := by
    rw [lostToken, lastLoaded_reload, lastLoaded_attach, lastLoaded_reload, loads, hlost]
    rfl
  obtain ⟨⟨fresh, hfresh, hdirectory⟩, hrefused⟩ := run_answers_as_last_loaded hload lostToken
  rw [hlast, hload] at hfresh
  refine ⟨hload, (hrefused _ _).1.mpr (load_error_iff.mp hlost), ?_⟩
  rw [hdirectory, ← Except.ok.inj hfresh]

end Store

end WorkspaceGateway.Catalog
