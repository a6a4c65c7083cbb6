import WorkspaceGateway.Proofs.BitGroups
import WorkspaceGateway.Proofs.KeyRefreshes

/-!
# The usable keys of a document

An entry is usable when it is an RSA key with a name of its own, both of whose numbers are written
in unpadded base64url. A document brings the key of the last usable entry of each name, as many
keys as its usable entries have names, and is refused when it has none. The other entries count
for nothing, whatever name they have and wherever they stand.
-/

set_option autoImplicit false

namespace WorkspaceGateway.Token

namespace KeyEntry

structure Holds (k : KeyEntry) (id : String) (key : RsaKey) : Prop where
  rsa : k.type = "RSA"
  named : k.id = some id
  modulus : ∃ n, k.modulus = some n ∧ Base64Url.Writes n.toList key.modulus
  exponent : ∃ e, k.exponent = some e ∧ Base64Url.Writes e.toList key.exponent

def IsUsable (k : KeyEntry) : Prop := ∃ id key, k.Holds id key

variable {k : KeyEntry} {id : String} {key : RsaKey}

theorem usable?_eq_some_iff : k.usable? = some (id, key) ↔ k.Holds id key := by
  constructor
  · intro h
    simp only [usable?, Option.bind_eq_bind, Option.bind_eq_some_iff] at h
    obtain ⟨i, hi, h⟩ := h
    split at h
    · simp at h
    · rename_i hrsa
      simp only [Option.bind_eq_some_iff, Option.pure_def, Option.some.injEq, Prod.mk.injEq] at h
      obtain ⟨n, hn, m, hm, e, he, x, hx, rfl, rfl⟩ := h
      exact ⟨not_not.mp hrsa, hi, ⟨n, hn, Base64Url.decode?_writes.mp hm⟩,
        ⟨e, he, Base64Url.decode?_writes.mp hx⟩⟩
  · rintro ⟨hrsa, hi, ⟨n, hn, hm⟩, e, he, hx⟩
    simp [usable?, hrsa, hi, hn, he, Base64Url.decode?_writes.mpr hm,
      Base64Url.decode?_writes.mpr hx]

theorem isSome_usable?_iff : k.usable?.isSome = true ↔ k.IsUsable := by
  rw [Option.isSome_iff_exists]
  constructor
  · rintro ⟨⟨id, key⟩, h⟩
    exact ⟨id, key, usable?_eq_some_iff.mp h⟩
  · rintro ⟨id, key, h⟩
    exact ⟨(id, key), usable?_eq_some_iff.mpr h⟩

instance : DecidablePred IsUsable := fun _ => decidable_of_iff _ isSome_usable?_iff

end KeyEntry

namespace KeyDocument

variable {d : KeyDocument} {id : String} {key : RsaKey}

def LastHeld (d : KeyDocument) (id : String) (key : RsaKey) : Prop :=
  ∃ before k after, d = before ++ k :: after ∧ k.Holds id key ∧
    ∀ j ∈ after, ∀ other, ¬ j.Holds id other

def usableEntries (d : KeyDocument) : KeyDocument := d.filter fun k => k.IsUsable

theorem mem_usableKeys : (id, key) ∈ d.usableKeys ↔ ∃ k ∈ d, k.Holds id key := by
  simp only [usableKeys, List.mem_filterMap, KeyEntry.usable?_eq_some_iff]

theorem mem_usableNames_iff : id ∈ d.usableNames ↔ ∃ k ∈ d, ∃ key, k.Holds id key := by
  rw [mem_usableNames]
  constructor
  · rintro ⟨⟨_, key⟩, hk, rfl⟩
    obtain ⟨k, hd, h⟩ := mem_usableKeys.mp hk
    exact ⟨k, hd, key, h⟩
  · rintro ⟨k, hd, key, h⟩
    exact ⟨(id, key), mem_usableKeys.mpr ⟨k, hd, h⟩, rfl⟩

theorem hasUsable_iff_exists : d.hasUsable = true ↔ ∃ k ∈ d, k.IsUsable := by
  simp only [hasUsable, List.any_eq_true, KeyEntry.isSome_usable?_iff]

theorem lastKey_of_lastHeld (h : d.LastHeld id key) : d.lastKey? id = some key := by
  obtain ⟨before, k, after, rfl, hk, hafter⟩ := h
  have hnone : (usableKeys after).reverse.find? (·.1 = id) = none := by
    rw [List.find?_eq_none]
    rintro ⟨i, other⟩ hi
    obtain ⟨j, hj, hheld⟩ := mem_usableKeys.mp (List.mem_reverse.mp hi)
    rw [decide_eq_true_eq]
    rintro rfl
    exact hafter j hj other hheld
  have hsplit : usableKeys (before ++ k :: after) =
      usableKeys before ++ (id, key) :: usableKeys after := by
    rw [usableKeys, List.filterMap_append,
      List.filterMap_cons_some (KeyEntry.usable?_eq_some_iff.mpr hk)]
    rfl
  rw [lastKey?, hsplit, List.reverse_append, List.reverse_cons, List.find?_append,
    List.find?_append, hnone]
  simp

theorem exists_lastHeld (h : ∃ k ∈ d, ∃ key, k.Holds id key) : ∃ key, d.LastHeld id key := by
  induction d with
  | nil => simp at h
  | cons k d ih =>
    by_cases hlater : ∃ j ∈ d, ∃ key, j.Holds id key
    · obtain ⟨key, before, j, after, hd, hj, hafter⟩ := ih hlater
      exact ⟨key, k :: before, j, after, by rw [hd, List.cons_append], hj, hafter⟩
    · obtain ⟨j, hj, key, hheld⟩ := h
      rcases List.mem_cons.mp hj with rfl | hj
      · exact ⟨key, [], j, d, rfl, hheld, fun i hi other ho => hlater ⟨i, hi, other, ho⟩⟩
      · exact absurd ⟨j, hj, key, hheld⟩ hlater

theorem lastKey_eq_some_iff : d.lastKey? id = some key ↔ d.LastHeld id key := by
  refine ⟨fun h => ?_, lastKey_of_lastHeld⟩
  have hname : id ∈ d.usableNames := by rw [← lastKey_isSome_iff, h, Option.isSome_some]
  obtain ⟨other, ho⟩ := exists_lastHeld (mem_usableNames_iff.mp hname)
  obtain rfl : key = other := Option.some.inj (h.symm.trans (lastKey_of_lastHeld ho))
  exact ho

theorem usableKeys_usableEntries (d : KeyDocument) :
    usableKeys d.usableEntries = d.usableKeys := by
  rw [usableKeys, usableEntries, List.filterMap_filter, usableKeys]
  refine List.filterMap_congr fun k _ => ?_
  by_cases hk : k.IsUsable
  · simp [hk]
  · have hnone : k.usable? = none := by
      rw [← Option.not_isSome_iff_eq_none, KeyEntry.isSome_usable?_iff]
      exact hk
    simp [hk, hnone]

end KeyDocument

theorem keysOf_usableEntries (d : KeyDocument) : keysOf d.usableEntries = keysOf d := by
  have h : KeySet.usable d.usableEntries = KeySet.usable d := by
    rw [KeySet.usable_eq, KeySet.usable_eq, KeyDocument.usableKeys_usableEntries]
  rw [keysOf, keysOf, h]

/-- A document without a usable entry is refused and leaves the known keys as they are. Any other
brings a key for exactly the names of its usable entries, that of the last one of each name, and
tells how many names there are. Its unusable entries may as well be left out. -/
theorem document_keys_exact (d : KeyDocument) :
    (keysOf d = .error .noUsableKeys ↔ ∀ k ∈ d, ¬ k.IsUsable) ∧
    ((∀ k ∈ d, ¬ k.IsUsable) → ∀ url known,
      refresh url known (.document d) = (known, .error .noUsableKeys)) ∧
    ((∃ k ∈ d, k.IsUsable) → ∃ s, keysOf d = .ok s ∧
      (∀ id, (s.get? id).isSome = true ↔ ∃ k ∈ d, ∃ key, k.Holds id key) ∧
      (∀ id key, s.get? id = some key ↔ d.LastHeld id key) ∧
      ∃ names : Finset String, (∀ id, id ∈ names ↔ ∃ k ∈ d, ∃ key, k.Holds id key) ∧
        ∀ url known, refresh url known (.document d) = (s, .ok names.card)) ∧
    keysOf d.usableEntries = keysOf d ∧
    ∀ url known, refresh url known (.document d.usableEntries) =
      refresh url known (.document d) := by
  have hnone : d.hasUsable = false ↔ ∀ k ∈ d, ¬ k.IsUsable := by
    rw [← Bool.not_eq_true, KeyDocument.hasUsable_iff_exists]
    simp
  have hrefused (h : ∀ k ∈ d, ¬ k.IsUsable) : keysOf d = .error .noUsableKeys :=
    keysOf_of_unusable (hnone.mpr h)
  refine ⟨⟨fun h k hk hu => ?_, hrefused⟩, fun h url known => ?_, fun h => ?_,
    keysOf_usableEntries d, fun url known => ?_⟩
  · rw [keysOf_of_usable (KeyDocument.hasUsable_iff_exists.mpr ⟨k, hk, hu⟩)] at h
    simp at h
  · rw [refresh, fetched, hrefused h]
  · have husable : d.hasUsable = true := KeyDocument.hasUsable_iff_exists.mpr h
    refine ⟨_, keysOf_of_usable husable, fun id => ?_, fun id key => ?_, d.usableNames,
      fun id => KeyDocument.mem_usableNames_iff, fun url known => ?_⟩
    · rw [KeySet.get?_usable, KeyDocument.lastKey_isSome_iff, KeyDocument.mem_usableNames_iff]
    · rw [KeySet.get?_usable, KeyDocument.lastKey_eq_some_iff]
    · exact refresh_of_usable url known (by simp [FetchOutcome.usableDocument?, husable])
  · rw [refresh, fetched, keysOf_usableEntries]
    rfl

/-- The name a stands in two usable entries and, before, between and behind them, in entries of
another type, with padding and without an exponent. -/
def mixedDocument : KeyDocument :=
  [⟨"EC", some "a", some "AQAB", some "AQAB"⟩, keyNamed "a", keyNamed "b",
    ⟨"RSA", some "a", some "AQAB=", some "AQAB"⟩, ⟨"RSA", some "a", some "Aw", some "AQAB"⟩,
    ⟨"RSA", some "a", some "AQAB", none⟩, ⟨"RSA", none, some "AQAB", some "AQAB"⟩]

theorem last_of_mixed_kept :
    (∃ k ∈ mixedDocument, k.IsUsable) ∧ ∃ s, keysOf mixedDocument = .ok s ∧
      s.get? "a" = some ⟨[3], [1, 0, 1]⟩ ∧ s.get? "b" = some smallKey ∧ s.get? "c" = none ∧
      refresh "url" .empty (.document mixedDocument) = (s, .ok 2) := by
  have husable : ∃ k ∈ mixedDocument, k.IsUsable := by decide +kernel
  obtain ⟨-, -, hsome, -, -⟩ := document_keys_exact mixedDocument
  obtain ⟨s, hs, hnames, hkeys, names, hmem, hrefresh⟩ := hsome husable
  have ha : mixedDocument.lastKey? "a" = some ⟨[3], [1, 0, 1]⟩ := by decide +kernel
  have hb : mixedDocument.lastKey? "b" = some smallKey := by decide +kernel
  have hc : mixedDocument.lastKey? "c" = none := by decide +kernel
  have htwo : names = {"a", "b"} := by
    ext id
    rw [hmem, ← KeyDocument.mem_usableNames_iff]
    have : mixedDocument.usableNames = {"a", "b"} := by decide +kernel
    rw [this]
  refine ⟨husable, s, hs, (hkeys _ _).mpr (KeyDocument.lastKey_eq_some_iff.mp ha),
    (hkeys _ _).mpr (KeyDocument.lastKey_eq_some_iff.mp hb), ?_, ?_⟩
  · rw [← Option.not_isSome_iff_eq_none, hnames, ← KeyDocument.mem_usableNames_iff,
      ← KeyDocument.lastKey_isSome_iff, hc]
    simp
  · rw [hrefresh, htwo]
    rfl

end WorkspaceGateway.Token
