import WorkspaceGateway.Proofs.BitGroups
import WorkspaceGateway.Proofs.SubprotocolEntries

/-!
# The one written form of a token

A token is found among the sub-protocols exactly when one entry has the bearer lead and goes on
with the written form of the token's text. Each refusal has its own exact condition, so no other
spelling of a token is ever taken for it, and two bearer entries are one too many whatever they
hold.
-/

set_option autoImplicit false

namespace WorkspaceGateway.Credential

open Headers Octets

def bearerEntries (h : Headers) : List (List Char) :=
  (h.entries subprotocolField).filter fun e => bearerLead.isPrefixOf e

theorem bearerEntries_eq (h : Headers) :
    bearerEntries h = (encodedTokens h).map (bearerLead ++ ·) := by
  unfold bearerEntries encodedTokens
  induction h.entries subprotocolField with
  | nil => rfl
  | cons e es ih =>
    cases hp : bearerLead.isPrefixOf e with
    | false => simp [hp, stripLead_of_not hp, ih]
    | true =>
      obtain ⟨s, rfl⟩ := isPrefixOf_iff.mp hp
      simp [hp, Text.stripLead?_eq_some_iff.mpr rfl, ih]

theorem length_bearerEntries (h : Headers) :
    (bearerEntries h).length = (encodedTokens h).length := by
  rw [bearerEntries_eq, List.length_map]

theorem bearerEntries_eq_nil_iff {h : Headers} :
    bearerEntries h = [] ↔ encodedTokens h = [] := by
  rw [bearerEntries_eq, List.map_eq_nil_iff]

theorem bearerEntries_eq_one_iff {h : Headers} {s : List Char} :
    bearerEntries h = [bearerLead ++ s] ↔ encodedTokens h = [s] := by
  rw [bearerEntries_eq, ← List.map_singleton]
  exact List.map_inj_right fun x y => List.append_cancel_left

/-! ## One encoded token -/

theorem decode_of_illWritten {s : List Char} (h : ∀ b, ¬ Base64Url.Writes s b) :
    decodeToken s = .error .badEncoding := by
  have hnone : Base64Url.decode? s = none :=
    Option.eq_none_iff_forall_ne_some.mpr fun b hb => h b (Base64Url.decode?_writes.mp hb)
  simp only [decodeToken, hnone]

theorem decode_of_noText {s : List Char} {b : Octets} (h : Base64Url.Writes s b)
    (hb : ∀ t, b ≠ ofText t) : decodeToken s = .error .notText := by
  have hnone : text? b = none :=
    Option.eq_none_iff_forall_ne_some.mpr fun t ht => hb t (text?_eq_some_iff.mp ht)
  simp only [decodeToken, Base64Url.decode?_writes.mpr h, hnone]

theorem decode_of_written {s : List Char} {t : String} (h : Base64Url.Writes s (ofText t))
    (ht : t ≠ "") : decodeToken s = .ok t :=
  decodeToken_ok_iff.mpr ⟨Base64Url.writes_iff.mp h, ht⟩

theorem writes_empty_iff {s : List Char} : Base64Url.Writes s (ofText "") ↔ s = [] :=
  Base64Url.writes_iff

/-! ## What is found -/

theorem token_of_none {h : Headers} (hn : bearerEntries h = []) :
    subprotocolToken h = .error .absent := by
  simp only [subprotocolToken, bearerEntries_eq_nil_iff.mp hn]

theorem token_of_one {h : Headers} {s : List Char} (ho : bearerEntries h = [bearerLead ++ s]) :
    subprotocolToken h = decodeToken s := by
  simp only [subprotocolToken, bearerEntries_eq_one_iff.mp ho]

theorem token_of_several {h : Headers} (hs : 2 ≤ (bearerEntries h).length) :
    subprotocolToken h = .error .several := by
  rw [length_bearerEntries] at hs
  unfold subprotocolToken
  match encodedTokens h, hs with
  | _ :: _ :: _, _ => rfl

inductive Outcome (h : Headers) : Except SubprotocolError String → Prop
  | noEntry (none : bearerEntries h = []) : Outcome h (.error .absent)
  | several (two : 2 ≤ (bearerEntries h).length) : Outcome h (.error .several)
  | illWritten {s : List Char} (one : bearerEntries h = [bearerLead ++ s])
      (unwritten : ∀ b, ¬ Base64Url.Writes s b) : Outcome h (.error .badEncoding)
  | noText {s : List Char} {b : Octets} (one : bearerEntries h = [bearerLead ++ s])
      (written : Base64Url.Writes s b) (noText : ∀ t, b ≠ ofText t) :
      Outcome h (.error .notText)
  | empty (one : bearerEntries h = [bearerLead]) : Outcome h (.error .absent)
  | token {s : List Char} {t : String} (one : bearerEntries h = [bearerLead ++ s])
      (written : Base64Url.Writes s (ofText t)) (nonempty : t ≠ "") : Outcome h (.ok t)

theorem outcome_of_one {h : Headers} {s : List Char}
    (ho : bearerEntries h = [bearerLead ++ s]) : Outcome h (subprotocolToken h) := by
  rw [token_of_one ho]
  by_cases hw : ∃ b, Base64Url.Writes s b
  · obtain ⟨b, hw⟩ := hw
    by_cases ht : ∃ t, b = ofText t
    · obtain ⟨t, rfl⟩ := ht
      by_cases hne : t = ""
      · subst hne
        obtain rfl := writes_empty_iff.mp hw
        exact .empty (by simpa using ho)
      · rw [decode_of_written hw hne]
        exact .token ho hw hne
    · have hno : ∀ t, b ≠ ofText t := fun t he => ht ⟨t, he⟩
      rw [decode_of_noText hw hno]
      exact .noText ho hw hno
  · have hno : ∀ b, ¬ Base64Url.Writes s b := fun b hb => hw ⟨b, hb⟩
    rw [decode_of_illWritten hno]
    exact .illWritten ho hno

theorem outcome (h : Headers) : Outcome h (subprotocolToken h) := by
  cases hc : encodedTokens h with
  | nil =>
    have hn := bearerEntries_eq_nil_iff.mpr hc
    rw [token_of_none hn]
    exact .noEntry hn
  | cons e es =>
    cases es with
    | nil => exact outcome_of_one (bearerEntries_eq_one_iff.mpr hc)
    | cons d ds =>
      have hs : 2 ≤ (bearerEntries h).length := by simp [length_bearerEntries, hc]
      rw [token_of_several hs]
      exact .several hs

/-! ## Exact -/

theorem ok_iff {h : Headers} {t : String} : subprotocolToken h = .ok t ↔ t ≠ "" ∧
    ∃ s, bearerEntries h = [bearerLead ++ s] ∧ Base64Url.Writes s (ofText t) := by
  constructor
  · intro ht
    have ho := ht ▸ outcome h
    cases ho with
    | token one written nonempty => exact ⟨nonempty, _, one, written⟩
  · rintro ⟨hne, s, ho, hw⟩
    rw [token_of_one ho, decode_of_written hw hne]

theorem several_iff {h : Headers} :
    subprotocolToken h = .error .several ↔ 2 ≤ (bearerEntries h).length := by
  refine ⟨fun he => ?_, token_of_several⟩
  have ho := he ▸ outcome h
  cases ho with
  | several two => exact two

theorem absent_iff {h : Headers} : subprotocolToken h = .error .absent ↔
    bearerEntries h = [] ∨ bearerEntries h = [bearerLead] := by
  constructor
  · intro he
    have ho := he ▸ outcome h
    cases ho with
    | noEntry none => exact .inl none
    | empty one => exact .inr one
  · rintro (hn | hl)
    · exact token_of_none hn
    · rw [token_of_one (s := []) (by simpa using hl)]
      rfl

theorem badEncoding_iff {h : Headers} : subprotocolToken h = .error .badEncoding ↔
    ∃ s, bearerEntries h = [bearerLead ++ s] ∧
      ((∃ c ∈ s, c ∉ Base64Url.alphabet) ∨ s.length % 4 = 1 ∨
        true ∈ Base64Url.spareBits s) := by
  simp only [← Base64Url.not_writes_iff]
  constructor
  · intro he
    have ho := he ▸ outcome h
    cases ho with
    | illWritten one unwritten => exact ⟨_, one, unwritten⟩
  · rintro ⟨s, ho, hs⟩
    rw [token_of_one ho, decode_of_illWritten hs]

theorem notText_iff {h : Headers} : subprotocolToken h = .error .notText ↔
    ∃ s b, bearerEntries h = [bearerLead ++ s] ∧ Base64Url.Writes s b ∧ ∀ t, b ≠ ofText t := by
  constructor
  · intro he
    have ho := he ▸ outcome h
    cases ho with
    | noText one written noText => exact ⟨_, _, one, written, noText⟩
  · rintro ⟨s, b, ho, hw, hno⟩
    rw [token_of_one ho, decode_of_noText hw hno]

/-- A token is found exactly when one entry is the bearer lead with the written form of the
token behind it, and whatever else it is found in has the same bearer entry. Each refusal has its
own exact condition, so padding and the letters of another alphabet are refused. -/
theorem written_token_found (h k : Headers) :
    (∀ t, subprotocolToken h = .ok t ↔ t ≠ "" ∧
      ∃ s, bearerEntries h = [bearerLead ++ s] ∧ Base64Url.Writes s (ofText t)) ∧
    (subprotocolToken h = .error .several ↔ 2 ≤ (bearerEntries h).length) ∧
    (subprotocolToken h = .error .absent ↔
      bearerEntries h = [] ∨ bearerEntries h = [bearerLead]) ∧
    (subprotocolToken h = .error .badEncoding ↔ ∃ s, bearerEntries h = [bearerLead ++ s] ∧
      ((∃ c ∈ s, c ∉ Base64Url.alphabet) ∨ s.length % 4 = 1 ∨
        true ∈ Base64Url.spareBits s)) ∧
    (subprotocolToken h = .error .notText ↔ ∃ s b, bearerEntries h = [bearerLead ++ s] ∧
      Base64Url.Writes s b ∧ ∀ t, b ≠ ofText t) ∧
    (∀ t, subprotocolToken h = .ok t → subprotocolToken k = .ok t →
      bearerEntries h = bearerEntries k) ∧
    (∀ s c, bearerEntries h = [bearerLead ++ s] → c ∈ s → c ∈ ['=', '+', '/'] →
      subprotocolToken h = .error .badEncoding) := by
  refine ⟨fun t => ok_iff, several_iff, absent_iff, badEncoding_iff, notText_iff, ?_, ?_⟩
  · intro t hh hk
    obtain ⟨-, s, hs, hw⟩ := ok_iff.mp hh
    obtain ⟨-, s', hs', hw'⟩ := ok_iff.mp hk
    rw [hs, hs', hw.unique hw']
  · intro s c ho hc hm
    have hforeign : c ∉ Base64Url.alphabet := by
      simp only [List.mem_cons, List.not_mem_nil, or_false] at hm
      rcases hm with rfl | rfl | rfl <;> decide
    exact badEncoding_iff.mpr ⟨s, ho, .inl ⟨c, hc, hforeign⟩⟩

def offering (values : List String) : Headers :=
  ⟨values.map fun v => (subprotocolField, ofText v)⟩

/-- The same entry among others and before them, and that entry with padding. -/
theorem padded_token_refused :
    let among := offering ["v4.channel.k8s.io, base64url.bearer.authorization.k8s.io.dG9rZW4"]
    let before := offering ["base64url.bearer.authorization.k8s.io.dG9rZW4 ", "v5.channel.k8s.io"]
    let padded := offering ["base64url.bearer.authorization.k8s.io.dG9rZW4="]
    subprotocolToken among = .ok "token" ∧ subprotocolToken before = .ok "token" ∧
      bearerEntries among = bearerEntries before ∧
      bearerEntries padded = [bearerLead ++ "dG9rZW4=".toList] ∧
      subprotocolToken padded = .error .badEncoding := by
  intro among before padded
  have hamong : subprotocolToken among = .ok "token" := by decide +kernel
  have hbefore : subprotocolToken before = .ok "token" := by decide +kernel
  have hpadded : bearerEntries padded = [bearerLead ++ "dG9rZW4=".toList] := by decide +kernel
  have hsame := (written_token_found among before).2.2.2.2.2.1 "token" hamong hbefore
  have hrefused := (written_token_found padded among).2.2.2.2.2.2 "dG9rZW4=".toList '=' hpadded
    (by decide) (by decide)
  exact ⟨hamong, hbefore, hsame, hpadded, hrefused⟩

end WorkspaceGateway.Credential
