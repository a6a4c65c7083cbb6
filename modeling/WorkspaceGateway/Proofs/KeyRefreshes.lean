import Mathlib.Data.Finset.Card
import WorkspaceGateway.Token.Keys

/-!
# Signing keys after many fetches

The keys that are known after any number of fetches are those of the last document that had a
usable one, and there are always some. A fetch that brings none is refused and changes nothing,
and one that brings some replaces all that were known before.
-/

set_option autoImplicit false

namespace WorkspaceGateway.Token

/-! ## The keys of a document -/

namespace KeyDocument

def usableKeys (d : KeyDocument) : List (String × RsaKey) := d.filterMap KeyEntry.usable?

def hasUsable (d : KeyDocument) : Bool := d.any fun k => k.usable?.isSome

def lastKey? (d : KeyDocument) (id : String) : Option RsaKey :=
  (d.usableKeys.reverse.find? (·.1 = id)).map Prod.snd

def usableNames (d : KeyDocument) : Finset String := (d.usableKeys.map Prod.fst).toFinset

theorem mem_usableNames {d : KeyDocument} {id : String} :
    id ∈ d.usableNames ↔ ∃ k ∈ d.usableKeys, k.1 = id := by
  simp [usableNames]

theorem hasUsable_iff {d : KeyDocument} : d.hasUsable = true ↔ d.usableKeys ≠ [] := by
  rw [hasUsable, usableKeys, List.any_eq_true, ne_eq, List.filterMap_eq_nil_iff]
  simp [Option.isSome_iff_ne_none]

theorem lastKey_isSome_iff {d : KeyDocument} {id : String} :
    (d.lastKey? id).isSome = true ↔ id ∈ d.usableNames := by
  rw [lastKey?, Option.isSome_map, List.find?_isSome, mem_usableNames]
  simp

end KeyDocument

namespace KeySet

variable {s : KeySet} {id : String} {key : RsaKey}

def names (s : KeySet) : List String := s.entries.map Prod.fst

def insertAll (s : KeySet) (ks : List (String × RsaKey)) : KeySet :=
  ks.foldl (fun s k => s.insert k.1 k.2) s

theorem usable_eq (d : KeyDocument) : usable d = empty.insertAll d.usableKeys := rfl

theorem mem_names_insert {other : String} :
    other ∈ (s.insert id key).names ↔ other = id ∨ other ∈ s.names := by
  simp only [names, insert, List.map_cons, List.mem_cons, List.mem_map, List.mem_filter,
    decide_eq_true_eq]
  constructor
  · rintro (rfl | ⟨k, ⟨hk, -⟩, rfl⟩)
    · exact .inl rfl
    · exact .inr ⟨k, hk, rfl⟩
  · rintro (rfl | ⟨k, hk, rfl⟩)
    · exact .inl rfl
    · by_cases h : k.1 = id
      · exact .inl h
      · exact .inr ⟨k, ⟨hk, h⟩, rfl⟩

theorem nodup_insert (h : s.names.Nodup) : (s.insert id key).names.Nodup := by
  rw [names, insert, List.map_cons, List.nodup_cons]
  constructor
  · simp
  · exact h.sublist (List.filter_sublist.map Prod.fst)

theorem mem_names_insertAll {ks : List (String × RsaKey)} :
    id ∈ (s.insertAll ks).names ↔ (∃ k ∈ ks, k.1 = id) ∨ id ∈ s.names := by
  induction ks generalizing s with
  | nil => simp [insertAll]
  | cons k ks ih =>
    have hhead : (∃ k' ∈ k :: ks, k'.1 = id) ↔ (∃ k' ∈ ks, k'.1 = id) ∨ id = k.1 := by
      rw [List.exists_mem_cons_iff, or_comm, eq_comm]
    rw [insertAll, List.foldl_cons, ← insertAll, ih, mem_names_insert, hhead, or_assoc]

theorem nodup_insertAll (h : s.names.Nodup) (ks : List (String × RsaKey)) :
    (s.insertAll ks).names.Nodup := by
  induction ks generalizing s with
  | nil => exact h
  | cons k ks ih => exact ih (nodup_insert h)

theorem get?_insertAll (ks : List (String × RsaKey)) :
    (s.insertAll ks).get? id =
      ((ks.reverse.find? (·.1 = id)).map Prod.snd).or (s.get? id) := by
  induction ks generalizing s with
  | nil => rfl
  | cons k ks ih =>
    rw [insertAll, List.foldl_cons, ← insertAll, ih, get?_insert, List.reverse_cons,
      List.find?_append, Option.map_or, Option.or_assoc]
    by_cases h : id = k.1 <;> simp [h, eq_comm]

theorem get?_usable (d : KeyDocument) (id : String) : (usable d).get? id = d.lastKey? id := by
  rw [usable_eq, get?_insertAll, get?_empty, Option.or_none, KeyDocument.lastKey?]

theorem size_usable (d : KeyDocument) : (usable d).size = d.usableNames.card := by
  have hnames : (usable d).names.toFinset = d.usableNames := by
    ext id
    rw [List.mem_toFinset, usable_eq, mem_names_insertAll, KeyDocument.mem_usableNames]
    simp [names, empty]
  have hempty : empty.names.Nodup := List.nodup_nil
  have hnodup : (usable d).names.Nodup := nodup_insertAll hempty d.usableKeys
  rw [← hnames, List.toFinset_card_of_nodup hnodup, names, List.length_map, size]

theorem usable_entries_eq_nil_iff {d : KeyDocument} :
    (usable d).entries = [] ↔ d.hasUsable = false := by
  rw [← List.length_eq_zero_iff, ← size, size_usable, Finset.card_eq_zero,
    KeyDocument.usableNames, List.toFinset_eq_empty_iff, List.map_eq_nil_iff,
    ← Bool.not_eq_true, KeyDocument.hasUsable_iff, not_not]

end KeySet

theorem keysOf_of_usable {d : KeyDocument} (h : d.hasUsable = true) :
    keysOf d = .ok (KeySet.usable d) := by
  have hne : (KeySet.usable d).entries ≠ [] := by simp [KeySet.usable_entries_eq_nil_iff, h]
  simp [keysOf, hne]

theorem keysOf_of_unusable {d : KeyDocument} (h : d.hasUsable = false) :
    keysOf d = .error .noUsableKeys := by
  simp [keysOf, KeySet.usable_entries_eq_nil_iff.mpr h]

theorem keysOf_ok_iff {d : KeyDocument} {s : KeySet} :
    keysOf d = .ok s ↔ d.hasUsable = true ∧ s = KeySet.usable d := by
  cases h : d.hasUsable with
  | true => simp [keysOf_of_usable h, eq_comm]
  | false => simp [keysOf_of_unusable h]

/-! ## One fetch after another -/

def FetchOutcome.usableDocument? : FetchOutcome → Option KeyDocument
  | .document d => if d.hasUsable then some d else none
  | _ => none

variable {url : String} {known : KeySet} {o first : FetchOutcome} {d : KeyDocument}

theorem fetched_of_usable (url : String) (h : o.usableDocument? = some d) :
    fetched url o = .ok (KeySet.usable d) ∧ d.hasUsable = true := by
  cases o with
  | document d' =>
    simp only [FetchOutcome.usableDocument?, Option.ite_none_right_eq_some,
      Option.some.injEq] at h
    obtain ⟨hu, rfl⟩ := h
    exact ⟨keysOf_of_usable hu, hu⟩
  | _ => simp [FetchOutcome.usableDocument?] at h

theorem fetched_of_unusable (url : String) (h : o.usableDocument? = none) :
    ∃ e, fetched url o = .error e := by
  cases o with
  | document d =>
    simp only [FetchOutcome.usableDocument?, ite_eq_right_iff, reduceCtorEq, imp_false,
      Bool.not_eq_true] at h
    exact ⟨_, keysOf_of_unusable h⟩
  | _ => exact ⟨_, rfl⟩

theorem refresh_of_usable (url : String) (known : KeySet) (h : o.usableDocument? = some d) :
    refresh url known o = (KeySet.usable d, .ok d.usableNames.card) := by
  rw [refresh, (fetched_of_usable url h).1, ← KeySet.size_usable]

theorem refresh_of_unusable (url : String) (known : KeySet) (h : o.usableDocument? = none) :
    ∃ e, refresh url known o = (known, .error e) := by
  obtain ⟨e, he⟩ := fetched_of_unusable url h
  exact ⟨e, by rw [refresh, he]⟩

def refreshAll (url : String) (known : KeySet) (os : List FetchOutcome) : KeySet :=
  os.foldl (fun s o => (refresh url s o).1) known

/-- One fetch keeps that the known keys are those of the last usable document. -/
theorem refresh_last (url : String) (o : FetchOutcome) (h : keysOf d = .ok known) :
    keysOf (o.usableDocument?.getD d) = .ok (refresh url known o).1 := by
  cases ho : o.usableDocument? with
  | some d' =>
    rw [refresh_of_usable url _ ho]
    exact keysOf_of_usable (fetched_of_usable url ho).2
  | none =>
    obtain ⟨e, he⟩ := refresh_of_unusable url known ho
    rw [he]
    exact h

theorem refreshAll_last (url : String) (h : keysOf d = .ok known) (os : List FetchOutcome) :
    keysOf ((os.filterMap FetchOutcome.usableDocument?).getLastD d) =
      .ok (refreshAll url known os) := by
  -- Over the fetches, for any document that the keys come from before the first of them.
  induction os generalizing d known with
  | nil => exact h
  | cons o os ih =>
    have hstep := ih (refresh_last url o h)
    cases ho : o.usableDocument? with
    | some d' =>
      rw [List.filterMap_cons_some ho, List.getLastD_cons]
      rwa [ho] at hstep
    | none =>
      rw [List.filterMap_cons_none ho]
      rwa [ho] at hstep

theorem usable_of_loaded {count : Nat} (h : refresh url .empty first = (known, .ok count)) :
    ∃ d, first.usableDocument? = some d ∧ keysOf d = .ok known := by
  cases hd : first.usableDocument? with
  | some d =>
    rw [refresh_of_usable url _ hd, Prod.mk.injEq] at h
    exact ⟨d, rfl, keysOf_ok_iff.mpr ⟨(fetched_of_usable url hd).2, h.1.symm⟩⟩
  | none =>
    obtain ⟨e, he⟩ := refresh_of_unusable url .empty hd
    simp [he] at h

/-- Once a first fetch succeeded, there are always keys, and they are those of the last document
that had a usable one: under each name its last usable key. The next fetch brings such a document
and replaces them all, telling the number of names, or fails and changes none. -/
theorem keys_of_last_usable {count : Nat} (h : refresh url .empty first = (known, .ok count))
    (os : List FetchOutcome) :
    ∃ d, ((first :: os).filterMap FetchOutcome.usableDocument?).getLast? = some d ∧
      keysOf d = .ok (refreshAll url known os) ∧
      (refreshAll url known os).entries ≠ [] ∧
      (∀ id, (refreshAll url known os).get? id = d.lastKey? id) ∧
      ∀ o,
        (∀ d', o.usableDocument? = some d' →
          (refresh url (refreshAll url known os) o).2 = .ok d'.usableNames.card ∧
          keysOf d' = .ok (refresh url (refreshAll url known os) o).1 ∧
          ∀ id, ((refresh url (refreshAll url known os) o).1.get? id).isSome = true ↔
            id ∈ d'.usableNames) ∧
        (o.usableDocument? = none →
          ∃ e, refresh url (refreshAll url known os) o = (refreshAll url known os, .error e)) := by
  obtain ⟨d₀, hfirst, hknown⟩ := usable_of_loaded h
  have hlast := refreshAll_last url hknown os
  obtain ⟨husable, hkeys⟩ := keysOf_ok_iff.mp hlast
  refine ⟨_, ?_, hlast, ?_, fun id => ?_, fun o => ⟨fun d' ho => ?_, refresh_of_unusable url _⟩⟩
  · rw [List.filterMap_cons_some hfirst, List.getLast?_cons, ← List.getLastD_eq_getLast?]
  · rw [hkeys, ne_eq, KeySet.usable_entries_eq_nil_iff, husable]
    simp
  · rw [hkeys, KeySet.get?_usable]
  · rw [refresh_of_usable url _ ho]
    refine ⟨rfl, keysOf_of_usable (fetched_of_usable url ho).2, fun id => ?_⟩
    rw [KeySet.get?_usable, KeyDocument.lastKey_isSome_iff]

def keyNamed (id : String) : KeyEntry := ⟨"RSA", some id, some "AQAB", some "AQAB"⟩

def smallKey : RsaKey := ⟨[1, 0, 1], [1, 0, 1]⟩

/-- The key changes, and then the provider fails and publishes a document without keys. -/
def rotation : List FetchOutcome :=
  [.document [keyNamed "new"], .status 500 "Internal Server Error", .document []]

theorem new_key_kept :
    refresh "url" .empty (.document [keyNamed "old"]) = (⟨[("old", smallKey)]⟩, .ok 1) ∧
    (refreshAll "url" ⟨[("old", smallKey)]⟩ rotation).get? "new" = some smallKey ∧
    (refreshAll "url" ⟨[("old", smallKey)]⟩ rotation).get? "old" = none ∧
    ∃ e, refresh "url" (refreshAll "url" ⟨[("old", smallKey)]⟩ rotation) .unreachable =
      (refreshAll "url" ⟨[("old", smallKey)]⟩ rotation, .error e) := by
  have hload : refresh "url" .empty (.document [keyNamed "old"]) =
      (⟨[("old", smallKey)]⟩, .ok 1) := by rfl
  obtain ⟨d, hd, -, -, hkeys, hnext⟩ := keys_of_last_usable hload rotation
  obtain rfl : [keyNamed "new"] = d := Option.some.inj (Eq.trans (by rfl) hd)
  refine ⟨hload, ?_, ?_, (hnext .unreachable).2 rfl⟩
  · rw [hkeys]
    decide +kernel
  · rw [hkeys]
    decide +kernel

end WorkspaceGateway.Token
