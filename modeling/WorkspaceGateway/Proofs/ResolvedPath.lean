import WorkspaceGateway.Proofs.PercentCoding
import WorkspaceGateway.Url.Path

/-!
# Paths that are resolved

A URL resolves dots, backslashes and drive letters in a path that it has already encoded. No
character that is encoded counts for that, so the same comes out when the path is resolved first.
-/

set_option autoImplicit false

namespace WorkspaceGateway

namespace Text

variable {α : Type} [DecidableEq α]

theorem splitAt_append_sep (sep : α) (a b : List α) :
    splitAt sep (a ++ sep :: b) = splitAt sep a ++ splitAt sep b := by
  induction a with
  | nil => simp
  | cons c a ih =>
    by_cases h : c = sep
    · simp [splitAt, h, ih]
    · cases hs : splitAt sep a with
      | nil => exact absurd hs (splitAt_ne_nil sep a)
      | cons p ps => simp [splitAt, h, ih, hs]

theorem splitAt_of_not_mem {sep : α} {a : List α} (h : sep ∉ a) : splitAt sep a = [a] := by
  induction a with
  | nil => rfl
  | cons c a ih =>
    have hc : c ≠ sep := by
      rintro rfl
      exact h List.mem_cons_self
    rw [splitAt, if_neg hc, ih (fun hm => h (List.mem_cons_of_mem c hm))]

theorem mem_of_mem_splitAt {sep c : α} {s t : List α} (ht : t ∈ splitAt sep s) (hc : c ∈ t) :
    c ∈ s := by
  induction s generalizing t with
  | nil =>
    rw [splitAt_nil, List.mem_singleton] at ht
    rw [ht] at hc
    exact hc
  | cons d s ih =>
    by_cases hd : d = sep
    · rw [hd, splitAt_cons_self, List.mem_cons] at ht
      rcases ht with rfl | ht
      · simp at hc
      · exact List.mem_cons_of_mem d (ih ht hc)
    · cases hs : splitAt sep s with
      | nil => exact absurd hs (splitAt_ne_nil sep s)
      | cons p ps =>
        rw [splitAt, if_neg hd, hs] at ht
        rw [hs] at ih
        rcases List.mem_cons.mp ht with rfl | ht
        · rcases List.mem_cons.mp hc with rfl | hc
          · exact List.mem_cons_self
          · exact List.mem_cons_of_mem d (ih List.mem_cons_self hc)
        · exact List.mem_cons_of_mem d (ih (List.mem_cons_of_mem p ht) hc)

theorem splitAt_flatMap {β : Type} (sep : α) (f : β → List α) (bs : List β) :
    splitAt sep (bs.flatMap fun b => sep :: f b) = [] :: bs.flatMap fun b => splitAt sep (f b) := by
  induction bs with
  | nil => rfl
  | cons b bs ih =>
    cases bs with
    | nil => simp
    | cons c cs =>
      rw [List.flatMap_cons, List.cons_append, splitAt_cons_self] at ih
      have htail := (List.cons.inj ih).2
      rw [List.flatMap_cons, List.flatMap_cons, List.cons_append, splitAt_cons_self,
        List.cons_append, splitAt_append_sep, htail]
      rfl

end Text

namespace Url

open Octets

theorem encodePath_head (c : Char) (s : List Char) :
    (inPathSet c = false ∧ encodePath (c :: s) = c :: encodePath s) ∨
      (inPathSet c = true ∧ ∃ x y t, encodePath (c :: s) = '%' :: x :: y :: t) := by
  cases hset : inPathSet c with
  | false => exact .inl ⟨rfl, encodePath_kept hset s⟩
  | true =>
    right
    refine ⟨rfl, ?_⟩
    cases he : String.utf8EncodeChar c with
    | nil => exact absurd he String.utf8EncodeChar_ne_nil
    | cons x t =>
      refine ⟨hexDigit (x.toNat / 16), hexDigit (x.toNat % 16),
        t.flatMap percentOctet ++ encodePath s, ?_⟩
      rw [encodePath_cons, encodeChar_set hset, he]
      simp [percentOctet]

theorem encodePath_length (s : List Char) : s.length ≤ (encodePath s).length := by
  induction s with
  | nil => exact Nat.le_refl 0
  | cons c s ih =>
    rcases encodePath_head c s with ⟨-, he⟩ | ⟨hset, -⟩
    · rw [he]
      simpa using ih
    · have hpos : 0 < (encodeChar inPathSet c).length := by
        rw [encodeChar_set hset]
        cases hu : String.utf8EncodeChar c with
        | nil => exact absurd hu String.utf8EncodeChar_ne_nil
        | cons x t => simp [percentOctet]
      rw [encodePath_cons, List.length_append, List.length_cons]
      omega

theorem encodePath_eq_nil {s : List Char} : encodePath s = [] ↔ s = [] := by
  constructor
  · intro h
    have hl := encodePath_length s
    rw [h] at hl
    exact List.length_eq_zero_iff.mp (Nat.le_zero.mp hl)
  · rintro rfl
    rfl

theorem encodePath_short {s : List Char} (h : (encodePath s).length ≤ 2) : encodePath s = s := by
  induction s with
  | nil => rfl
  | cons c s ih =>
    rcases encodePath_head c s with ⟨-, he⟩ | ⟨-, x, y, t, he⟩
    · rw [he] at h ⊢
      rw [ih (by simp at h; omega)]
    · rw [he] at h
      simp at h

/-! ## Dots -/

theorem takeDot_other {c : Char} (hd : c ≠ '.') (hp : c ≠ '%') (s : List Char) :
    takeDot? (c :: s) = none := by
  unfold takeDot?
  split
  · rename_i he
    exact absurd (List.cons.inj he).1 hd
  · rename_i he
    exact absurd (List.cons.inj he).1 hp
  · rfl

theorem digit_two {n : Nat} (h : n < 16) (hd : hexDigit n = '2') : n = 2 := by
  have hall : ∀ m : Fin 16, hexDigit m = '2' → m.val = 2 := by decide
  exact hall ⟨n, h⟩ hd

theorem digit_e {n : Nat} (h : n < 16) (hd : hexDigit n = 'e' ∨ hexDigit n = 'E') : n = 14 := by
  have hall : ∀ m : Fin 16, hexDigit m = 'e' ∨ hexDigit m = 'E' → m.val = 14 := by decide
  exact hall ⟨n, h⟩ hd

theorem takeDot_escape {x : UInt8} (hx : x ≠ 0x2E) (s : List Char) :
    takeDot? ('%' :: hexDigit (x.toNat / 16) :: hexDigit (x.toNat % 16) :: s) = none := by
  have hlt := x.toNat_lt
  -- The digits `2E` are those of the one octet that is excluded.
  by_cases h2 : hexDigit (x.toNat / 16) = '2'
  · by_cases he : hexDigit (x.toNat % 16) = 'e' ∨ hexDigit (x.toNat % 16) = 'E'
    · have hq := digit_two (by omega) h2
      have hr := digit_e (by omega) he
      have hdot : x.toNat = 0x2E := by omega
      exact absurd (UInt8.toNat_inj.mp hdot) hx
    · rw [h2]
      simp [takeDot?, he]
  · unfold takeDot?
    split
    · rename_i heq
      exact absurd (List.cons.inj heq).1 (by decide)
    · rename_i heq
      simp only [List.cons.injEq] at heq
      exact absurd heq.2.1 h2
    · rfl

theorem takeDot_encoded {c : Char} (hset : inPathSet c = true) (s : List Char) :
    takeDot? (encodePath (c :: s)) = none := by
  cases hu : String.utf8EncodeChar c with
  | nil => exact absurd hu String.utf8EncodeChar_ne_nil
  | cons x t =>
    have hx : x ≠ 0x2E := by
      rintro rfl
      have hn := ascii_mem (c := c) (x := 0x2E) (by decide) (by simp [hu])
      have hc : c = '.' := Char.toNat_inj.mp hn
      rw [hc] at hset
      exact absurd hset (by decide)
    rw [encodePath_cons, encodeChar_set hset, hu, List.flatMap_cons, percentOctet]
    exact takeDot_escape hx (t.flatMap percentOctet ++ encodePath s)

theorem takeDot_percent_other {d : Char} (hd : d ≠ '2') (s : List Char) :
    takeDot? ('%' :: d :: s) = none := by
  unfold takeDot?
  split
  · rename_i he
    exact absurd (List.cons.inj he).1 (by decide)
  · rename_i he
    simp only [List.cons.injEq] at he
    exact absurd he.2.1 hd
  · rfl

theorem takeDot_percent (s : List Char) :
    takeDot? ('%' :: encodePath s) = (takeDot? ('%' :: s)).map encodePath := by
  cases s with
  | nil => rfl
  | cons d s =>
    by_cases hd : d = '2'
    · rw [hd, encodePath_kept (by decide)]
      cases s with
      | nil => rfl
      | cons e s =>
        by_cases he : e = 'e' ∨ e = 'E'
        · have hkept : inPathSet e = false := by
            rcases he with rfl | rfl <;> decide
          rw [encodePath_kept hkept]
          simp [takeDot?, he]
        · have hno (c : Char) (t : List Char) (hc : ¬ (c = 'e' ∨ c = 'E')) :
              takeDot? ('%' :: '2' :: c :: t) = none := by
            simp [takeDot?, hc]
          rw [hno e s he]
          rcases encodePath_head e s with ⟨-, hkept⟩ | ⟨-, x, y, t, hset⟩
          · rw [hkept, hno e _ he]
            rfl
          · rw [hset, hno '%' _ (by decide)]
            rfl
    · rw [takeDot_percent_other hd]
      rcases encodePath_head d s with ⟨-, hkept⟩ | ⟨-, x, y, t, hset⟩
      · rw [hkept, takeDot_percent_other hd]
        rfl
      · rw [hset, takeDot_percent_other (by decide)]
        rfl

theorem takeDot_encodePath (s : List Char) :
    takeDot? (encodePath s) = (takeDot? s).map encodePath := by
  cases s with
  | nil => rfl
  | cons c s =>
    by_cases hdot : c = '.'
    · rw [hdot, encodePath_kept (by decide)]
      rfl
    · by_cases hpercent : c = '%'
      · rw [hpercent, encodePath_kept (by decide), takeDot_percent]
      · rw [takeDot_other hdot hpercent]
        rcases encodePath_head c s with ⟨-, he⟩ | ⟨hset, -⟩
        · rw [he, takeDot_other hdot hpercent]
          rfl
        · rw [takeDot_encoded hset]
          rfl

theorem map_encodePath_eq_empty (o : Option (List Char)) :
    o.map encodePath = some [] ↔ o = some [] := by
  cases o with
  | none => simp
  | some t => simp [encodePath_eq_nil]

theorem isSingleDot_encodePath (s : List Char) : isSingleDot (encodePath s) = isSingleDot s := by
  rw [isSingleDot, isSingleDot, takeDot_encodePath, decide_eq_decide]
  exact map_encodePath_eq_empty _

theorem isDoubleDot_encodePath (s : List Char) : isDoubleDot (encodePath s) = isDoubleDot s := by
  rw [isDoubleDot, isDoubleDot, takeDot_encodePath, decide_eq_decide]
  cases takeDot? s with
  | none => simp
  | some t =>
    simp only [Option.map_some, Option.bind_some, takeDot_encodePath]
    exact map_encodePath_eq_empty _

/-! ## Drive letters -/

theorem alpha_kept {c : Char} (h : c.isAlpha = true) : inPathSet c = false := by
  have hr : 65 ≤ c.toNat ∧ c.toNat ≤ 90 ∨ 97 ≤ c.toNat ∧ c.toNat ≤ 122 := by
    have hv : (decide ('A'.val ≤ c.val ∧ c.val ≤ 'Z'.val) ||
        (decide ('a'.val ≤ c.val) && decide (c.val ≤ 'z'.val))) = true := h
    simpa [UInt32.le_iff_toNat_le] using hv
  cases hc : inPathSet c with
  | false => rfl
  | true =>
    simp only [inPathSet, inFragmentSet, isControl, Bool.or_eq_true, decide_eq_true_eq] at hc
    rcases hc with (((((((((hc | hc) | rfl) | rfl) | rfl) | rfl) | hc) | rfl) | rfl) | rfl) | rfl
    all_goals first
      | omega
      | exact absurd hr (by decide)

theorem drive_kept {b : Char} (h : b = ':' ∨ b = '|') : inPathSet b = false := by
  rcases h with rfl | rfl <;> decide

theorem isDriveLetter_iff {s : List Char} :
    isDriveLetter s = true ↔ ∃ a b, s = [a, b] ∧ a.isAlpha = true ∧ (b = ':' ∨ b = '|') := by
  constructor
  · intro h
    unfold isDriveLetter at h
    split at h
    · rename_i a b
      simp only [Bool.and_eq_true, Bool.or_eq_true, decide_eq_true_eq] at h
      exact ⟨a, b, rfl, h⟩
    · simp at h
  · rintro ⟨a, b, rfl, ha, hb⟩
    simp [isDriveLetter, ha, hb]

theorem isDriveLetter_encodePath (s : List Char) :
    isDriveLetter (encodePath s) = isDriveLetter s := by
  rw [Bool.eq_iff_iff]
  constructor
  · intro h
    -- Two characters are too few for an encoded one.
    obtain ⟨a, b, he, -⟩ := isDriveLetter_iff.mp h
    rw [encodePath_short (by simp [he])] at h
    exact h
  · intro h
    obtain ⟨a, b, rfl, ha, hb⟩ := isDriveLetter_iff.mp h
    rw [encodePath_kept (alpha_kept ha), encodePath_kept (drive_kept hb)]
    exact h

theorem normalizeDrive_other {a : Char} (ha : a.isAlpha = false) (s : List Char)
    (ss : List (List Char)) : normalizeDrive ((a :: s) :: ss) = (a :: s) :: ss := by
  cases s with
  | nil => rfl
  | cons b r => simp [normalizeDrive, ha]

theorem normalizeDrive_unmarked {a b : Char} (hc : b ≠ ':') (hb : b ≠ '|') (r : List Char)
    (ss : List (List Char)) : normalizeDrive ((a :: b :: r) :: ss) = (a :: b :: r) :: ss := by
  simp [normalizeDrive, hc, hb]

theorem normalizeDrive_encodePath (ss : List (List Char)) :
    normalizeDrive (ss.map encodePath) = (normalizeDrive ss).map encodePath := by
  cases ss with
  | nil => rfl
  | cons s ss =>
    cases s with
    | nil => rfl
    | cons a s =>
      rw [List.map_cons]
      by_cases ha : a.isAlpha = true
      · rw [encodePath_kept (alpha_kept ha)]
        cases s with
        | nil =>
          simp [normalizeDrive, encodePath_kept (alpha_kept ha)]
        | cons b r =>
          by_cases hb : b = ':' ∨ b = '|'
          · rw [encodePath_kept (drive_kept hb)]
            have hempty : (encodePath r).isEmpty = r.isEmpty := by
              rw [Bool.eq_iff_iff, List.isEmpty_iff, List.isEmpty_iff]
              exact encodePath_eq_nil
            have hdrive : encodePath [a, ':'] = [a, ':'] := by
              rw [encodePath_kept (alpha_kept ha)]
              rfl
            simp only [normalizeDrive, hempty]
            split
            · rw [List.map_cons, hdrive]
            · split
              · rw [List.map_cons, List.map_cons, hdrive]
              · rw [List.map_cons, encodePath_kept (alpha_kept ha),
                  encodePath_kept (drive_kept hb)]
          · simp only [not_or] at hb
            rw [normalizeDrive_unmarked hb.1 hb.2, List.map_cons,
              encodePath_kept (alpha_kept ha)]
            rcases encodePath_head b r with ⟨-, he⟩ | ⟨-, x, y, t, he⟩
            · rw [he, normalizeDrive_unmarked hb.1 hb.2]
            · rw [he, normalizeDrive_unmarked (by decide) (by decide)]
      · rw [Bool.not_eq_true] at ha
        rw [normalizeDrive_other ha, List.map_cons]
        rcases encodePath_head a s with ⟨-, he⟩ | ⟨-, x, y, t, he⟩
        · rw [he, normalizeDrive_other ha]
        · rw [he, normalizeDrive_other (by decide)]

theorem dropEmptySegments_encodePath (ss : List (List Char)) :
    dropEmptySegments (ss.map encodePath) = (dropEmptySegments ss).map encodePath := by
  induction ss with
  | nil => rfl
  | cons s ss ih =>
    cases s with
    | nil =>
      cases ss with
      | nil => rfl
      | cons t r => exact ih
    | cons c s =>
      have hkept (d : Char) (u : List Char) (us : List (List Char)) :
          dropEmptySegments ((d :: u) :: us) = (d :: u) :: us := by
        simp [dropEmptySegments]
      rw [hkept, List.map_cons]
      rcases encodePath_head c s with ⟨-, he⟩ | ⟨-, x, y, t, he⟩
      · rw [he, hkept]
      · rw [he, hkept]

/-! ## Segments -/

theorem dropSegment_encodePath (done : List (List Char)) :
    dropSegment (done.map encodePath) = (dropSegment done).map encodePath := by
  cases done with
  | nil => rfl
  | cons s ss =>
    simp only [List.map_cons, dropSegment, isDriveLetter_encodePath]
    split <;> rfl

theorem enterSegment_encodePath (done : List (List Char)) (s : List Char) :
    enterSegment (done.map encodePath) (encodePath s) =
      (enterSegment done s).map encodePath := by
  simp only [enterSegment, isDoubleDot_encodePath, isSingleDot_encodePath]
  split
  · exact dropSegment_encodePath done
  · split <;> rfl

theorem closeSegments_encodePath (done : List (List Char)) (s : List Char) :
    closeSegments (done.map encodePath) (encodePath s) =
      (closeSegments done s).map encodePath := by
  simp only [closeSegments, isDoubleDot_encodePath, isSingleDot_encodePath]
  split
  · rw [dropSegment_encodePath, ← List.map_reverse, List.map_append]
    rfl
  · split <;> rw [← List.map_reverse, List.map_append] <;> rfl

theorem resolveSegments_encodePath (done ss : List (List Char)) :
    resolveSegments (done.map encodePath) (ss.map encodePath) =
      (resolveSegments done ss).map encodePath := by
  induction ss generalizing done with
  | nil => exact closeSegments_encodePath done []
  | cons s ss ih =>
    cases ss with
    | nil => exact closeSegments_encodePath done s
    | cons t r =>
      have hstep := ih (enterSegment done s)
      rw [← enterSegment_encodePath] at hstep
      exact hstep

def bareSegments (scheme : String) (s : List Char) : List (List Char) :=
  let raw := cutSegments (isSpecialScheme scheme) (s.filter (!isSkipped ·))
  if scheme = "file" then dropEmptySegments (resolveSegments [] (normalizeDrive raw))
  else resolveSegments [] raw

/-- The segments of a URL are those of the path itself, each encoded. -/
theorem segmentsAfterRoot_eq (scheme : String) (s : List Char) :
    segmentsAfterRoot scheme s = (bareSegments scheme s).map encodePath := by
  have hmap (ss : List (List Char)) : ss.map (percentEncode inPathSet) = ss.map encodePath := rfl
  unfold segmentsAfterRoot bareSegments
  simp only [hmap]
  by_cases hf : scheme = "file"
  · simp only [hf, if_true]
    rw [normalizeDrive_encodePath, ← dropEmptySegments_encodePath, ← resolveSegments_encodePath]
    rfl
  · simp only [hf, if_false]
    exact resolveSegments_encodePath [] _

/-! ## The decoded path -/

theorem ofChars_slash : String.utf8EncodeChar '/' = [0x2F] := by decide

theorem percentDecode_segments (ss : List (List Char)) :
    percentDecode (ofChars (UrlPath.segments (ss.map encodePath)).text) =
      ss.flatMap fun s => 0x2F :: percentDecode (ofChars s) := by
  rw [UrlPath.text]
  induction ss with
  | nil => exact percentDecode_nil
  | cons s ss ih =>
    rw [List.map_cons, List.flatMap_cons, List.cons_append, ofChars_cons, ofChars_slash,
      List.singleton_append, percentDecode_other (by decide), ofChars_append, List.flatMap_cons,
      List.cons_append]
    cases ss with
    | nil => simp [percentDecode_encodePath]
    | cons t ts =>
      rw [List.map_cons, List.flatMap_cons, List.cons_append, ofChars_cons, ofChars_slash,
        List.singleton_append] at ih
      rw [List.map_cons, List.flatMap_cons, List.cons_append, ofChars_cons, ofChars_slash,
        List.singleton_append, percentDecode_slash, percentDecode_encodePath]
      rw [percentDecode_other (by decide)] at ih
      rw [ih]

/-- What a reader finds that decodes the path of a URL and cuts it at its slashes. -/
theorem split_decoded_path (scheme : String) (s : List Char) :
    Text.splitAt 0x2F (percentDecode
        (ofChars (UrlPath.segments (segmentsAfterRoot scheme s)).text)) =
      [] :: (bareSegments scheme s).flatMap fun t =>
        Text.splitAt 0x2F (percentDecode (ofChars t)) := by
  rw [segmentsAfterRoot_eq, percentDecode_segments, Text.splitAt_flatMap]

/-! ## Plain paths -/

structure IsPlain (s : List Char) : Prop where
  character : ∀ c ∈ s, c ≠ '%' ∧ c ≠ '\\' ∧ isSkipped c = false
  segment : ∀ t ∈ Text.splitAt '/' s, t ≠ ['.'] ∧ t ≠ ['.', '.']

theorem resolveSegments_plain (done ss : List (List Char)) (hne : ss ≠ [])
    (h : ∀ s ∈ ss, isSingleDot s = false ∧ isDoubleDot s = false) :
    resolveSegments done ss = done.reverse ++ ss := by
  induction ss generalizing done with
  | nil => exact absurd rfl hne
  | cons s ss ih =>
    obtain ⟨hs, hd⟩ := h s List.mem_cons_self
    cases ss with
    | nil => simp [resolveSegments, closeSegments, hs, hd]
    | cons t r =>
      have hrest := ih (s :: done) (List.cons_ne_nil t r)
        (fun u hu => h u (List.mem_cons_of_mem s hu))
      rw [resolveSegments, enterSegment, hs, hd]
      simpa using hrest

theorem takeDot_plain {s t : List Char} (h : '%' ∉ s) (ht : takeDot? s = some t) :
    s = '.' :: t := by
  unfold takeDot? at ht
  split at ht
  · rw [Option.some.inj ht]
  · exact absurd List.mem_cons_self h
  · simp at ht

theorem not_dots_plain {s : List Char} (h : '%' ∉ s) (h1 : s ≠ ['.']) (h2 : s ≠ ['.', '.']) :
    isSingleDot s = false ∧ isDoubleDot s = false := by
  constructor
  · rw [isSingleDot, decide_eq_false_iff_not]
    intro ht
    exact h1 (takeDot_plain h ht)
  · rw [isDoubleDot, decide_eq_false_iff_not]
    intro ht
    obtain ⟨t, ht, hu⟩ := Option.bind_eq_some_iff.mp ht
    have hs := takeDot_plain h ht
    have hno : '%' ∉ t := fun hm => h (hs ▸ List.mem_cons_of_mem '.' hm)
    rw [takeDot_plain hno hu] at hs
    exact h2 hs

theorem cutSegments_clean {special : Bool} {s : List Char}
    (h : ∀ c ∈ s, isSkipped c = false ∧ (isSlash special c = true → c = '/')) :
    cutSegments special (s.filter (!isSkipped ·)) = Text.splitAt '/' s := by
  have hfilter : s.filter (!isSkipped ·) = s := by
    rw [List.filter_eq_self]
    intro c hc
    simp [(h c hc).1]
  have hself (c : Char) (hc : c ∈ s) : (if isSlash special c then '/' else c) = c := by
    cases hs : isSlash special c with
    | false => rfl
    | true => exact ((h c hc).2 hs).symm
  rw [hfilter, cutSegments, List.map_congr_left hself, List.map_id']

theorem bareSegments_plain {scheme : String} {s : List Char} (hf : scheme ≠ "file")
    (h : IsPlain s) : bareSegments scheme s = Text.splitAt '/' s := by
  have hcut : cutSegments (isSpecialScheme scheme) (s.filter (!isSkipped ·)) =
      Text.splitAt '/' s := by
    refine cutSegments_clean fun c hc => ?_
    obtain ⟨-, hb, hskipped⟩ := h.character c hc
    exact ⟨hskipped, fun hs => by simpa [isSlash, hb] using hs⟩
  have hdots (t : List Char) (ht : t ∈ Text.splitAt '/' s) :
      isSingleDot t = false ∧ isDoubleDot t = false := by
    obtain ⟨h1, h2⟩ := h.segment t ht
    exact not_dots_plain (fun hm => (h.character '%' (Text.mem_of_mem_splitAt ht hm)).1 rfl) h1 h2
  simp only [bareSegments, hf, if_false, hcut]
  exact resolveSegments_plain [] _ (Text.splitAt_ne_nil '/' s) hdots

end Url

end WorkspaceGateway
