import WorkspaceGateway.Text.Split
import WorkspaceGateway.Url.Percent

/-!
# Decoding what was encoded

A reader that decodes a path does not see which of its characters were encoded: the encoding of a
URL adds nothing to it and hides nothing. A slash in the text splits its decoded form where it
stands.
-/

set_option autoImplicit false

namespace WorkspaceGateway

namespace Octets

def ofChars (s : List Char) : Octets := s.flatMap String.utf8EncodeChar

theorem ofText_ofList (s : List Char) : ofText (String.ofList s) = ofChars s := by
  simp [ofText, ofChars, String.ofList, List.utf8Encode]

theorem ofText_eq (s : String) : ofText s = ofChars s.toList := by
  rw [← ofText_ofList, String.ofList_toList]

@[simp] theorem ofChars_nil : ofChars [] = [] := rfl

@[simp] theorem ofChars_cons (c : Char) (s : List Char) :
    ofChars (c :: s) = String.utf8EncodeChar c ++ ofChars s := rfl

@[simp] theorem ofChars_append (s t : List Char) : ofChars (s ++ t) = ofChars s ++ ofChars t := by
  simp [ofChars]

theorem ascii_char {c : Char} (h : c.toNat < 0x80) :
    String.utf8EncodeChar c = [UInt8.ofNat c.toNat] := by
  have hv : c.val.toNat = c.toNat := rfl
  unfold String.utf8EncodeChar
  simp only [hv]
  rw [if_pos (by omega)]

theorem wide_char {c : Char} (h : 0x80 ≤ c.toNat) :
    ∀ x ∈ String.utf8EncodeChar c, 0x80 ≤ x.toNat := by
  have hv : c.val.toNat = c.toNat := rfl
  have hgt : ¬ c.val.toNat ≤ 0x7f := by omega
  intro x hx
  simp only [String.utf8EncodeChar, hgt, if_false] at hx
  split at hx
  · simp only [List.mem_cons, List.not_mem_nil, or_false] at hx
    rcases hx with rfl | rfl <;> simp only [UInt8.toNat_ofNat'] <;> omega
  · split at hx
    · simp only [List.mem_cons, List.not_mem_nil, or_false] at hx
      rcases hx with rfl | rfl | rfl <;> simp only [UInt8.toNat_ofNat'] <;> omega
    · simp only [List.mem_cons, List.not_mem_nil, or_false] at hx
      rcases hx with rfl | rfl | rfl | rfl <;> simp only [UInt8.toNat_ofNat'] <;> omega

theorem ascii_mem {c : Char} {x : UInt8} (hx : x.toNat < 0x80) (h : x ∈ String.utf8EncodeChar c) :
    c.toNat = x.toNat := by
  by_cases hc : c.toNat < 0x80
  · rw [ascii_char hc, List.mem_singleton] at h
    rw [h, UInt8.toNat_ofNat']
    omega
  · have hw := wide_char (by omega : 0x80 ≤ c.toNat) x h
    omega

def hexOctet? (x : UInt8) : Option Nat := hexValue? (Char.ofNat x.toNat)

theorem unhex_head {c : Char} (h : hexValue? c = none) :
    ∃ x t, String.utf8EncodeChar c = x :: t ∧ hexOctet? x = none := by
  by_cases hc : c.toNat < 0x80
  · refine ⟨UInt8.ofNat c.toNat, [], ascii_char hc, ?_⟩
    have hn : (UInt8.ofNat c.toNat).toNat = c.toNat := by
      rw [UInt8.toNat_ofNat']
      omega
    rw [hexOctet?, hn, Char.ofNat_toNat]
    exact h
  · cases he : String.utf8EncodeChar c with
    | nil => exact absurd he String.utf8EncodeChar_ne_nil
    | cons x t =>
      refine ⟨x, t, rfl, ?_⟩
      have hw := wide_char (by omega : 0x80 ≤ c.toNat) x (by simp [he])
      have hlt := x.toNat_lt
      have hx : (Char.ofNat x.toNat).toNat = x.toNat := by
        rw [Char.ofNat, dif_pos (Or.inl (by omega))]
        rfl
      simp only [hexOctet?, hexValue?, hx]
      have h1 : ¬ x.toNat ≤ 57 := by omega
      have h2 : ¬ x.toNat ≤ 102 := by omega
      have h3 : ¬ x.toNat ≤ 70 := by omega
      simp [h1, h2, h3]

theorem hex_range {c : Char} {v : Nat} (h : hexValue? c = some v) :
    (48 ≤ c.toNat ∧ c.toNat ≤ 57) ∨ (97 ≤ c.toNat ∧ c.toNat ≤ 102) ∨
      (65 ≤ c.toNat ∧ c.toNat ≤ 70) := by
  simp only [hexValue?, Bool.and_eq_true, decide_eq_true_eq] at h
  split at h
  · left
    assumption
  · split at h
    · right
      left
      assumption
    · split at h
      · right
        right
        assumption
      · simp at h

theorem hex_char {c : Char} {v : Nat} (h : hexValue? c = some v) :
    ∃ x, String.utf8EncodeChar c = [x] ∧ hexOctet? x = some v := by
  have hc : c.toNat < 0x80 := by
    have hr := hex_range h
    omega
  refine ⟨UInt8.ofNat c.toNat, ascii_char hc, ?_⟩
  have hn : (UInt8.ofNat c.toNat).toNat = c.toNat := by
    rw [UInt8.toNat_ofNat']
    omega
  rw [hexOctet?, hn, Char.ofNat_toNat]
  exact h

end Octets

namespace Url

open Octets

def hexPair? : Octets → Option (UInt8 × Octets)
  | a :: b :: r =>
    match hexOctet? a, hexOctet? b with
    | some x, some y => some (UInt8.ofNat (16 * x + y), r)
    | _, _ => none
  | _ => none

theorem percentDecode_other {x : UInt8} (h : x ≠ 0x25) (r : Octets) :
    percentDecode (x :: r) = x :: percentDecode r := by
  rw [percentDecode.eq_def]
  split
  · rename_i he
    simp only [List.cons.injEq] at he
    exact absurd he.1 h
  · rename_i he
    simp only [List.cons.injEq] at he
    rw [he.1, he.2]
  · simp at *

theorem percentDecode_percent (r : Octets) :
    percentDecode (0x25 :: r) =
      match hexPair? r with
      | some (v, t) => v :: percentDecode t
      | none => 0x25 :: percentDecode r := by
  cases r with
  | nil => simp [percentDecode, hexPair?]
  | cons a r =>
    cases r with
    | nil => simp [percentDecode, hexPair?]
    | cons b r =>
      rw [percentDecode]
      simp only [hexPair?, hexOctet?]
      split <;> simp_all

theorem percentDecode_append {a : Octets} (h : (0x25 : UInt8) ∉ a) (r : Octets) :
    percentDecode (a ++ r) = a ++ percentDecode r := by
  induction a with
  | nil => rfl
  | cons x a ih =>
    have hx : x ≠ 0x25 := by
      rintro rfl
      exact h List.mem_cons_self
    rw [List.cons_append, percentDecode_other hx, ih (fun hm => h (List.mem_cons_of_mem x hm)),
      List.cons_append]

theorem percentDecode_nil : percentDecode [] = [] := by
  rw [percentDecode]

theorem percentDecode_plain {a : Octets} (h : (0x25 : UInt8) ∉ a) : percentDecode a = a := by
  have ha := percentDecode_append h []
  rwa [List.append_nil, percentDecode_nil, List.append_nil] at ha

/-! ## Encoding before decoding -/

def encodePath (s : List Char) : List Char := percentEncode inPathSet s

@[simp] theorem encodePath_nil : encodePath [] = [] := rfl

theorem encodePath_cons (c : Char) (s : List Char) :
    encodePath (c :: s) = encodeChar inPathSet c ++ encodePath s := rfl

theorem encodePath_kept {c : Char} (h : inPathSet c = false) (s : List Char) :
    encodePath (c :: s) = c :: encodePath s := by
  simp [encodePath_cons, encodeChar, h]

theorem encodeChar_set {c : Char} (h : inPathSet c = true) :
    encodeChar inPathSet c = (String.utf8EncodeChar c).flatMap percentOctet := by
  have ho : ofText (String.singleton c) = String.utf8EncodeChar c := by
    rw [ofText_eq, String.toList_singleton]
    simp
  simp [encodeChar, h, ho]

theorem kept_of_hex {c : Char} {v : Nat} (h : hexValue? c = some v) : inPathSet c = false := by
  cases hc : inPathSet c with
  | false => rfl
  | true =>
    simp only [inPathSet, inFragmentSet, isControl, Bool.or_eq_true, decide_eq_true_eq] at hc
    have hr := hex_range h
    rcases hc with (((((((((hc | hc) | rfl) | rfl) | rfl) | rfl) | hc) | rfl) | rfl) | rfl) | rfl
    all_goals first
      | omega
      | exact absurd hr (by decide)

theorem hexOctet_percent : hexOctet? 0x25 = none := by decide

theorem hex_digit {n : Nat} (h : n < 16) : hexValue? (hexDigit n) = some n := by
  have hall : ∀ m : Fin 16, hexValue? (hexDigit m) = some m.val := by decide
  exact hall ⟨n, h⟩

theorem percentDecode_octet (x : UInt8) (r : Octets) :
    percentDecode (ofChars (percentOctet x) ++ r) = x :: percentDecode r := by
  have hx := x.toNat_lt
  obtain ⟨a, ha, hav⟩ := hex_char (hex_digit (by omega : x.toNat / 16 < 16))
  obtain ⟨b, hb, hbv⟩ := hex_char (hex_digit (by omega : x.toNat % 16 < 16))
  have hp : String.utf8EncodeChar '%' = [0x25] := by decide
  have hsum : 16 * (x.toNat / 16) + x.toNat % 16 = x.toNat := by omega
  simp only [percentOctet, ofChars_cons, ofChars_nil, hp, ha, hb, List.cons_append,
    List.nil_append]
  rw [percentDecode_percent]
  simp only [hexPair?, hav, hbv, hsum, UInt8.ofNat_toNat]

theorem percentDecode_octets (b r : Octets) :
    percentDecode (ofChars (b.flatMap percentOctet) ++ r) = b ++ percentDecode r := by
  induction b with
  | nil => rfl
  | cons x b ih =>
    rw [List.flatMap_cons, ofChars_append, List.append_assoc, percentDecode_octet, ih,
      List.cons_append]

theorem unhex_encodePath {c : Char} (h : hexValue? c = none) (s : List Char) :
    ∃ x t, ofChars (encodePath (c :: s)) = x :: t ∧ hexOctet? x = none := by
  cases hset : inPathSet c with
  | false =>
    obtain ⟨x, t, hx, hv⟩ := unhex_head h
    exact ⟨x, t ++ ofChars (encodePath s), by rw [encodePath_kept hset, ofChars_cons, hx]; rfl, hv⟩
  | true =>
    obtain ⟨x, t, hx, -⟩ := unhex_head h
    have hp : String.utf8EncodeChar '%' = [0x25] := by decide
    refine ⟨0x25, ofChars (hexDigit (x.toNat / 16) :: hexDigit (x.toNat % 16) ::
      (t.flatMap percentOctet ++ encodePath s)), ?_, hexOctet_percent⟩
    rw [encodePath_cons, encodeChar_set hset, hx, List.flatMap_cons, percentOctet]
    simp [hp]

theorem hexPair_unhex {x : UInt8} (h : hexOctet? x = none) (r : Octets) :
    hexPair? (x :: r) = none := by
  cases r with
  | nil => rfl
  | cons y r => simp [hexPair?, h]

theorem hexPair_second {x y : UInt8} (h : hexOctet? y = none) (r : Octets) :
    hexPair? (x :: y :: r) = none := by
  simp only [hexPair?, h]
  split <;> simp_all

theorem hexPair_encodePath (s : List Char) :
    (hexPair? (ofChars s) = none ∧ hexPair? (ofChars (encodePath s)) = none) ∨
      ∃ a b t v, s = a :: b :: t ∧ hexPair? (ofChars s) = some (v, ofChars t) ∧
        hexPair? (ofChars (encodePath s)) = some (v, ofChars (encodePath t)) := by
  -- An encoded character begins with a percent sign, which is as little a digit as itself.
  cases s with
  | nil => exact .inl ⟨rfl, rfl⟩
  | cons a r =>
    cases ha : hexValue? a with
    | none =>
      left
      obtain ⟨x, t, hx, hxv⟩ := unhex_head ha
      obtain ⟨y, u, hy, hyv⟩ := unhex_encodePath ha r
      rw [ofChars_cons, hx, hy]
      exact ⟨hexPair_unhex hxv _, hexPair_unhex hyv _⟩
    | some x =>
      obtain ⟨ao, hao, hax⟩ := hex_char ha
      rw [encodePath_kept (kept_of_hex ha), ofChars_cons, ofChars_cons, hao]
      cases r with
      | nil => exact .inl ⟨rfl, rfl⟩
      | cons b t =>
        cases hb : hexValue? b with
        | none =>
          left
          obtain ⟨y, u, hy, hyv⟩ := unhex_head hb
          obtain ⟨z, w, hz, hzv⟩ := unhex_encodePath hb t
          rw [ofChars_cons, hy, hz]
          exact ⟨hexPair_second hyv _, hexPair_second hzv _⟩
        | some y =>
          right
          obtain ⟨bo, hbo, hby⟩ := hex_char hb
          rw [encodePath_kept (kept_of_hex hb), ofChars_cons, ofChars_cons, hbo]
          refine ⟨a, b, t, UInt8.ofNat (16 * x + y), rfl, ?_, ?_⟩
          · simp [hexPair?, hax, hby]
          · simp [hexPair?, hax, hby]

/-- Decoding an encoded path gives what decoding the path itself gives. -/
theorem percentDecode_encodePath (s : List Char) :
    percentDecode (ofChars (encodePath s)) = percentDecode (ofChars s) := by
  -- On the length, for an escape takes the two characters after it as well.
  induction hn : s.length using Nat.strongRecOn generalizing s with
  | ind n ih =>
  cases s with
  | nil => rfl
  | cons c r =>
    have hr : r.length < n := by simp at hn; omega
    by_cases hc : c = '%'
    · have hp : String.utf8EncodeChar '%' = [0x25] := by decide
      rw [hc, encodePath_kept (by decide), ofChars_cons, ofChars_cons, hp, List.singleton_append,
        List.singleton_append, percentDecode_percent, percentDecode_percent]
      rcases hexPair_encodePath r with ⟨hs, he⟩ | ⟨a, b, t, v, rfl, hs, he⟩
      · rw [hs, he]
        simp only
        rw [ih _ hr r rfl]
      · have ht : t.length < n := by simp at hr; omega
        rw [hs, he]
        simp only
        rw [ih _ ht t rfl]
    · have hno : (0x25 : UInt8) ∉ String.utf8EncodeChar c := by
        intro hm
        have hv := ascii_mem (by decide) hm
        exact hc (Char.toNat_inj.mp hv)
      rw [ofChars_cons, percentDecode_append hno]
      cases hset : inPathSet c with
      | false =>
        rw [encodePath_kept hset, ofChars_cons, percentDecode_append hno, ih _ hr r rfl]
      | true =>
        rw [encodePath_cons, ofChars_append, encodeChar_set hset, percentDecode_octets,
          ih _ hr r rfl]

/-! ## Decoding before splitting -/

theorem hexOctet_slash : hexOctet? 0x2F = none := by decide

theorem hexPair_slash (r t : Octets) :
    hexPair? (r ++ 0x2F :: t) = (hexPair? r).map fun p => (p.1, p.2 ++ 0x2F :: t) := by
  cases r with
  | nil => exact hexPair_unhex hexOctet_slash t
  | cons a r =>
    cases r with
    | nil => exact hexPair_second hexOctet_slash t
    | cons b r =>
      simp only [List.cons_append, hexPair?]
      cases hexOctet? a with
      | none => rfl
      | some x =>
        cases hexOctet? b with
        | none => rfl
        | some y => rfl

/-- No escape reaches over a slash. -/
theorem percentDecode_slash (a b : Octets) :
    percentDecode (a ++ 0x2F :: b) = percentDecode a ++ 0x2F :: percentDecode b := by
  induction hn : a.length using Nat.strongRecOn generalizing a with
  | ind n ih =>
  cases a with
  | nil =>
    rw [List.nil_append, percentDecode_other (by decide), percentDecode_nil, List.nil_append]
  | cons x r =>
    have hr : r.length < n := by simp at hn; omega
    by_cases hx : x = 0x25
    · rw [hx, List.cons_append, percentDecode_percent, percentDecode_percent, hexPair_slash]
      cases hp : hexPair? r with
      | none =>
        simp only [Option.map_none]
        rw [ih _ hr r rfl, List.cons_append]
      | some p =>
        have ht : p.2.length < n := by
          cases r with
          | nil => simp [hexPair?] at hp
          | cons a r =>
            cases r with
            | nil => simp [hexPair?] at hp
            | cons b r =>
              simp only [hexPair?] at hp
              split at hp
              · simp only [Option.some.injEq] at hp
                rw [← hp]
                simp at hr
                simp
                omega
              · simp at hp
        simp only [Option.map_some]
        rw [ih _ ht p.2 rfl, List.cons_append]
    · rw [List.cons_append, percentDecode_other hx, percentDecode_other hx, ih _ hr r rfl,
        List.cons_append]

end Url

end WorkspaceGateway
