import WorkspaceGateway.Credential.Bearer
import WorkspaceGateway.Proofs.ResolvedAccess
import WorkspaceGateway.Proofs.ResolvedPath

/-!
# Entries that are written and read back

The sub-protocols of a handshake are read as the trimmed pieces between commas, over all values
that are readable, and written back as one value. Nothing that is an entry can fall apart or lose
an end on that way, so a token that was put in is the token that is found.
-/

set_option autoImplicit false

namespace WorkspaceGateway

namespace Text

theorem trimLeft_head {c : Char} {s r : List Char} (h : trimLeft s = c :: r) :
    isBlank c = false := by
  have hhead := List.head?_dropWhile_not isBlank s
  rw [show s.dropWhile isBlank = c :: r from h] at hhead
  simpa using hhead

theorem trimLeft_trimLeft (s : List Char) : trimLeft (trimLeft s) = trimLeft s := by
  cases hs : trimLeft s with
  | nil => rfl
  | cons c r => exact trimLeft_of_head (trimLeft_head hs)

theorem trimLeft_trim (s : List Char) : trimLeft (trim s) = trim s := by
  have hlead : ∃ t, trimLeft s = trim s ++ t := by
    obtain ⟨t, ht⟩ := List.dropWhile_suffix isBlank (l := (trimLeft s).reverse)
    refine ⟨t.reverse, ?_⟩
    have hrev := congrArg List.reverse ht
    rw [List.reverse_append, List.reverse_reverse] at hrev
    exact hrev.symm
  obtain ⟨t, ht⟩ := hlead
  cases hs : trim s with
  | nil => rfl
  | cons c r =>
    rw [hs] at ht
    exact trimLeft_of_head (trimLeft_head ht)

theorem trimRight_trim (s : List Char) : trimRight (trim s) = trim s := by
  unfold trim trimRight
  rw [List.reverse_reverse]
  exact congrArg List.reverse (trimLeft_trimLeft _)

theorem trim_trim (s : List Char) : trim (trim s) = trim s := by
  rw [trim, trimLeft_trim, trimRight_trim]

theorem mem_of_mem_trim {c : Char} {s : List Char} (h : c ∈ trim s) : c ∈ s := by
  unfold trim trimRight trimLeft at h
  have hrev := (List.dropWhile_suffix isBlank).mem (List.mem_reverse.mp h)
  exact (List.dropWhile_suffix isBlank).mem (List.mem_reverse.mp hrev)

theorem trimLeft_of_plain {s : List Char} (h : ∀ c ∈ s, isBlank c = false) : trimLeft s = s := by
  cases s with
  | nil => rfl
  | cons c r => exact trimLeft_of_head (h c List.mem_cons_self)

theorem trimRight_of_plain {s : List Char} (h : ∀ c ∈ s, isBlank c = false) :
    trimRight s = s := by
  have hrev := trimLeft_of_plain (s := s.reverse) fun c hc => h c (List.mem_reverse.mp hc)
  unfold trimLeft at hrev
  rw [trimRight, hrev, List.reverse_reverse]

theorem splitAt_joinWith {α : Type} [DecidableEq α] {sep : α} {ps : List (List α)}
    (hne : ps ≠ []) (h : ∀ p ∈ ps, sep ∉ p) : splitAt sep (joinWith [sep] ps) = ps := by
  induction ps with
  | nil => exact absurd rfl hne
  | cons p ps ih =>
    have hp : splitAt sep p = [p] := splitAt_of_not_mem (h p List.mem_cons_self)
    cases ps with
    | nil => exact hp
    | cons q qs =>
      rw [joinWith, List.append_assoc, List.singleton_append, splitAt_append_sep, hp,
        ih (List.cons_ne_nil q qs) fun t ht => h t (List.mem_cons_of_mem p ht)]
      rfl

end Text

namespace Headers

open Octets

def isVisible (c : Char) : Bool := (0x20 ≤ c.toNat && c.toNat < 0x7f) || c = '\t'

theorem isVisible_ascii {c : Char} (h : isVisible c = true) : c.toNat < 0x7f := by
  simp only [isVisible, Bool.or_eq_true, Bool.and_eq_true, decide_eq_true_eq] at h
  rcases h with h | rfl
  · exact h.2
  · decide

theorem visible_char {c : Char} (h : isVisible c = true) :
    String.utf8EncodeChar c = [UInt8.ofNat c.toNat] ∧
      isVisibleOctet (UInt8.ofNat c.toNat) = true ∧
      Char.ofNat (UInt8.ofNat c.toNat).toNat = c := by
  have hc := isVisible_ascii h
  have hn : (UInt8.ofNat c.toNat).toNat = c.toNat := by
    rw [UInt8.toNat_ofNat']
    omega
  refine ⟨ascii_char (by omega), ?_, by rw [hn, Char.ofNat_toNat]⟩
  simp only [isVisible, Bool.or_eq_true, Bool.and_eq_true, decide_eq_true_eq] at h
  simp only [isVisibleOctet, hn, Bool.or_eq_true, Bool.and_eq_true, decide_eq_true_eq]
  rcases h with h | rfl
  · exact .inl h
  · right
    decide

theorem visible_octet {x : UInt8} (h : isVisibleOctet x = true) :
    isVisible (Char.ofNat x.toNat) = true ∧ String.utf8EncodeChar (Char.ofNat x.toNat) = [x] := by
  have hx : x.toNat < 0x7f := by
    simp only [isVisibleOctet, Bool.or_eq_true, Bool.and_eq_true, decide_eq_true_eq] at h
    rcases h with h | rfl
    · exact h.2
    · decide
  have hc : (Char.ofNat x.toNat).toNat = x.toNat := by
    rw [Char.ofNat, dif_pos (Or.inl (by omega))]
    rfl
  constructor
  · simp only [isVisibleOctet, Bool.or_eq_true, Bool.and_eq_true, decide_eq_true_eq] at h
    simp only [isVisible, hc, Bool.or_eq_true, Bool.and_eq_true, decide_eq_true_eq]
    rcases h with h | rfl
    · exact .inl h
    · right
      decide
  · rw [ascii_char (by omega), hc, UInt8.ofNat_toNat]

theorem readable?_ofChars {s : List Char} (h : ∀ c ∈ s, isVisible c = true) :
    readable? (ofChars s) = some s := by
  induction s with
  | nil => rfl
  | cons c s ih =>
    obtain ⟨hc, hv, hb⟩ := visible_char (h c List.mem_cons_self)
    have ih := ih fun d hd => h d (List.mem_cons_of_mem c hd)
    unfold readable? at ih ⊢
    rw [ofChars_cons, hc, List.singleton_append, List.all_cons, hv, Bool.true_and,
      List.map_cons, hb]
    split at ih
    · rename_i ha
      rw [if_pos ha, Option.some.inj ih]
    · simp at ih

theorem readable?_eq_some_iff {v : Octets} {s : List Char} :
    readable? v = some s ↔ v = ofChars s ∧ ∀ c ∈ s, isVisible c = true := by
  constructor
  · intro h
    unfold readable? at h
    split at h
    · rename_i ha
      rw [← Option.some.inj h]
      have hall := List.all_eq_true.mp ha
      constructor
      · clear h ha
        induction v with
        | nil => rfl
        | cons x v ih =>
          rw [List.map_cons, ofChars_cons, (visible_octet (hall x List.mem_cons_self)).2,
            ← ih fun y hy => hall y (List.mem_cons_of_mem x hy)]
          rfl
      · intro c hc
        obtain ⟨x, hx, rfl⟩ := List.mem_map.mp hc
        exact (visible_octet (hall x hx)).1
    · simp at h
  · rintro ⟨rfl, hs⟩
    exact readable?_ofChars hs

/-! ## Entries -/

def valueEntries (v : Octets) : List (List Char) :=
  match readable? v with
  | none => []
  | some s => (Text.splitAt ',' s).map Text.trim

theorem entries_eq_flatMap (h : Headers) (n : String) :
    h.entries n = (h.values n).flatMap valueEntries := by
  unfold entries readableValues
  induction h.values n with
  | nil => rfl
  | cons v vs ih =>
    rw [List.flatMap_cons, ← ih, valueEntries, List.filterMap_cons]
    cases readable? v with
    | none => rfl
    | some s => rfl

structure IsEntry (e : List Char) : Prop where
  visible : ∀ c ∈ e, isVisible c = true
  unbroken : ',' ∉ e
  trimmed : Text.trim e = e

theorem isEntry_of_mem {h : Headers} {n : String} {e : List Char} (he : e ∈ h.entries n) :
    IsEntry e := by
  obtain ⟨s, hs, he⟩ := List.mem_flatMap.mp he
  obtain ⟨p, hp, rfl⟩ := List.mem_map.mp he
  obtain ⟨v, -, hv⟩ := List.mem_filterMap.mp hs
  have hvisible := (readable?_eq_some_iff.mp hv).2
  exact ⟨fun c hc => hvisible c (Text.mem_of_mem_splitAt hp (Text.mem_of_mem_trim hc)),
    fun hc => Text.not_mem_of_mem_splitAt ',' s p hp (Text.mem_of_mem_trim hc), Text.trim_trim p⟩

theorem mem_joinWith {c : Char} {es : List (List Char)} (h : c ∈ Text.joinWith [','] es) :
    c = ',' ∨ ∃ e ∈ es, c ∈ e := by
  induction es with
  | nil => simp [Text.joinWith] at h
  | cons e es ih =>
    cases es with
    | nil => exact .inr ⟨e, List.mem_cons_self, h⟩
    | cons f fs =>
      simp only [Text.joinWith, List.mem_append, List.mem_singleton] at h
      rcases h with (h | h) | h
      · exact .inr ⟨e, List.mem_cons_self, h⟩
      · exact .inl h
      · rcases ih h with h | ⟨g, hg, h⟩
        · exact .inl h
        · exact .inr ⟨g, List.mem_cons_of_mem e hg, h⟩

theorem joined_visible {es : List (List Char)} (hes : ∀ e ∈ es, IsEntry e) :
    ∀ c ∈ Text.joinWith [','] es, isVisible c = true := by
  intro c hc
  rcases mem_joinWith hc with rfl | ⟨e, he, hc⟩
  · decide
  · exact (hes e he).visible c hc

/-- Entries written as one value are read back as they are; of none, one empty entry. -/
theorem entries_of_joined {h : Headers} {n : String} {es : List (List Char)}
    (hes : ∀ e ∈ es, IsEntry e)
    (hv : h.values n = [ofText (String.ofList (Text.joinWith [','] es))]) :
    h.entries n = if es = [] then [[]] else es := by
  have hread : h.readableValues n = [Text.joinWith [','] es] := by
    rw [readableValues, hv, ofText_ofList, List.filterMap_cons,
      readable?_ofChars (joined_visible hes)]
    rfl
  rw [entries, hread, List.flatMap_singleton]
  by_cases hne : es = []
  · simp [hne, Text.joinWith]
  · rw [if_neg hne, Text.splitAt_joinWith hne fun e he => (hes e he).unbroken]
    exact (List.map_congr_left fun e he => (hes e he).trimmed).trans (List.map_id es)

theorem isValueOctet_of_visible {x : UInt8} (h : isVisibleOctet x = true) :
    isValueOctet x = true := by
  simp only [isVisibleOctet, isValueOctet, Bool.or_eq_true, Bool.and_eq_true,
    decide_eq_true_eq] at h ⊢
  rcases h with ⟨hle, hlt⟩ | htab
  · exact .inl ⟨hle, by omega⟩
  · exact .inr htab

theorem isValue_of_readable {v : Octets} {s : List Char} (h : readable? v = some s) :
    isValue v = true := by
  unfold readable? at h
  split at h
  · rename_i hall
    exact List.all_eq_true.mpr fun x hx =>
      isValueOctet_of_visible (List.all_eq_true.mp hall x hx)
  · simp at h

end Headers

/-! ## Bearer entries -/

namespace Credential

open Headers Octets

def isFirm (c : Char) : Bool := isVisible c && !Text.isBlank c && c ≠ ','

theorem isFirm_letter {n : Nat} (h : n < 64) : isFirm (Base64Url.letter n) = true := by
  revert n
  decide

theorem bearerEntry_firm (t : String) : ∀ c ∈ bearerEntry t, isFirm c = true := by
  intro c hc
  have hleads : ∀ c ∈ bearerLead, isFirm c = true := List.all_eq_true.mp (by decide)
  rcases List.mem_append.mp hc with hlead | hcode
  · exact hleads c hlead
  · obtain ⟨n, hn, rfl⟩ := Base64Url.mem_encode hcode
    exact isFirm_letter hn

theorem isFirm_iff {c : Char} :
    isFirm c = true ↔ isVisible c = true ∧ Text.isBlank c = false ∧ c ≠ ',' := by
  simp [isFirm, and_assoc]

theorem isEntry_of_firm {e : List Char} (h : ∀ c ∈ e, isFirm c = true) : IsEntry e := by
  have hplain : ∀ c ∈ e, Text.isBlank c = false := fun c hc => (isFirm_iff.mp (h c hc)).2.1
  refine ⟨fun c hc => (isFirm_iff.mp (h c hc)).1, fun hc => (isFirm_iff.mp (h _ hc)).2.2 rfl, ?_⟩
  rw [Text.trim, Text.trimLeft_of_plain hplain, Text.trimRight_of_plain hplain]

theorem isPrefixOf_iff {e : List Char} :
    bearerLead.isPrefixOf e = true ↔ ∃ r, e = bearerLead ++ r := by
  rw [List.isPrefixOf_iff_prefix]
  exact ⟨fun ⟨r, h⟩ => ⟨r, h.symm⟩, fun ⟨r, h⟩ => ⟨r, h.symm⟩⟩

theorem stripLead_of_not {e : List Char} (h : bearerLead.isPrefixOf e = false) :
    Text.stripLead? bearerLead e = none := by
  cases hs : Text.stripLead? bearerLead e with
  | none => rfl
  | some r =>
    rw [isPrefixOf_iff.mpr ⟨r, Text.stripLead?_eq_some_iff.mp hs⟩] at h
    exact absurd h (by decide)

theorem stripLead_replaceEntry (t : String) (e : List Char) :
    Text.stripLead? bearerLead (replaceEntry (bearerEntry t) e) =
      (Text.stripLead? bearerLead e).map fun _ => Base64Url.encode (ofText t) := by
  unfold replaceEntry
  cases hp : bearerLead.isPrefixOf e with
  | false => simp [stripLead_of_not hp]
  | true =>
    obtain ⟨r, hr⟩ := isPrefixOf_iff.mp hp
    rw [if_pos rfl, Text.stripLead?_eq_some_iff.mpr hr]
    exact Text.stripLead?_eq_some_iff.mpr rfl

def replacedEntries (h : Headers) (token : String) : List (List Char) :=
  ((h.entries subprotocolField).filter fun e => !e.isEmpty).map (replaceEntry (bearerEntry token))

theorem replacedEntries_isEntry (h : Headers) (token : String) :
    ∀ e ∈ replacedEntries h token, IsEntry e := by
  intro e he
  obtain ⟨d, hd, rfl⟩ := List.mem_map.mp he
  unfold replaceEntry
  split
  · exact isEntry_of_firm (bearerEntry_firm token)
  · exact isEntry_of_mem (List.mem_filter.mp hd).1

theorem values_replace (h : Headers) (token : String) :
    (replaceSubprotocolToken h token).values subprotocolField =
      [ofText (String.ofList (Text.joinWith [','] (replacedEntries h token)))] := by
  unfold replaceSubprotocolToken
  rw [values_insert, if_pos rfl]
  rfl

theorem entries_replace (h : Headers) (token : String) :
    (replaceSubprotocolToken h token).entries subprotocolField =
      if replacedEntries h token = [] then [[]] else replacedEntries h token :=
  entries_of_joined (replacedEntries_isEntry h token) (values_replace h token)

/-- The entries always make a header value, so replacing the token never fails. -/
theorem exchange_eq (h : Headers) (token : String) :
    exchangeSubprotocolToken h token = .ok (replaceSubprotocolToken h token) := by
  have hread := readable?_ofChars (joined_visible (replacedEntries_isEntry h token))
  have hvalue : isValue (ofText (String.ofList (Text.joinWith [','] (replacedEntries h token)))) =
      true := by
    rw [ofText_ofList]
    exact isValue_of_readable hread
  simp [exchangeSubprotocolToken, values_replace, hvalue]

theorem encodedTokens_replace (h : Headers) (token : String) :
    encodedTokens (replaceSubprotocolToken h token) =
      (encodedTokens h).map fun _ => Base64Url.encode (ofText token) := by
  have hnone : Text.stripLead? bearerLead [] = none := by decide
  have hjoined : encodedTokens (replaceSubprotocolToken h token) =
      (replacedEntries h token).filterMap (Text.stripLead? bearerLead) := by
    rw [encodedTokens, entries_replace]
    by_cases hne : replacedEntries h token = []
    · simp [hne, hnone]
    · rw [if_neg hne]
  have hkept : ((h.entries subprotocolField).filter fun e => !e.isEmpty).filterMap
      (Text.stripLead? bearerLead) = encodedTokens h := by
    rw [List.filterMap_filter, encodedTokens]
    congr 1
    funext e
    cases e with
    | nil => simp [hnone]
    | cons c r => simp
  rw [hjoined, replacedEntries, List.filterMap_map, ← hkept, List.map_filterMap]
  congr 1
  funext e
  exact stripLead_replaceEntry token e

/-! ## The token that is found -/

theorem encodedTokens_congr {h k : Headers}
    (he : h.entries subprotocolField = k.entries subprotocolField) :
    encodedTokens h = encodedTokens k := by
  rw [encodedTokens, encodedTokens, he]

theorem decodeToken_ok_iff {e : List Char} {t : String} :
    decodeToken e = .ok t ↔ e = Base64Url.encode (ofText t) ∧ t ≠ "" := by
  constructor
  · intro h
    cases hd : Base64Url.decode? e with
    | none => simp [decodeToken, hd] at h
    | some b =>
      cases ht : text? b with
      | none => simp [decodeToken, hd, ht] at h
      | some s =>
        simp only [decodeToken, hd, ht] at h
        split at h
        · simp at h
        · rename_i hs
          obtain rfl := Except.ok.inj h
          refine ⟨?_, fun hnil => hs (String.isEmpty_iff.mpr hnil)⟩
          rw [← text?_eq_some_iff.mp ht]
          exact (Base64Url.encode_of_decode? hd).symm
  · rintro ⟨rfl, ht⟩
    simp [decodeToken, Base64Url.decode?_encode, text?_ofText, ht]

/-- A token is found exactly when it is encoded in the one bearer entry and is not empty. -/
theorem found_iff {h : Headers} {t : String} : subprotocolToken h = .ok t ↔
    encodedTokens h = [Base64Url.encode (ofText t)] ∧ t ≠ "" := by
  unfold subprotocolToken
  cases encodedTokens h with
  | nil => simp
  | cons e es =>
    cases es with
    | nil => simp [decodeToken_ok_iff]
    | cons d ds => simp

theorem found_of_token {h : Headers} {t : String} (hw : h.isWebSocketRequest = true)
    (ht : token h = .ok t) : subprotocolToken h = .ok t := by
  rw [token, if_pos hw] at ht
  cases hs : subprotocolToken h with
  | error e => simp [hs, mapError_error] at ht
  | ok u => simpa [hs, mapError_ok] using ht

theorem found_replaced {h : Headers} {s t : String} (hs : subprotocolToken h = .ok s)
    (ht : t ≠ "") : subprotocolToken (replaceSubprotocolToken h t) = .ok t := by
  rw [found_iff, encodedTokens_replace, (found_iff.mp hs).1]
  exact ⟨rfl, ht⟩

end Credential

end WorkspaceGateway
