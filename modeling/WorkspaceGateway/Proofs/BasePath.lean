import WorkspaceGateway.Proofs.ConfinedCredential
import WorkspaceGateway.Proofs.NamespaceReading

/-!
# Paths under the base path of a target

The path of a request is put after the base path of its target, and the whole is resolved. A
segment of two dots takes a segment of the request away while there is one, and a segment of the
base from then on. A path that never climbs so far stays under the base of every target; each
other path leaves the base of some target.
-/

set_option autoImplicit false

namespace WorkspaceGateway

namespace Url

open Octets

/-! ## Settled segments -/

/-- A segment that is read as itself when the path it stands in is read again. -/
structure IsSettled (s : List Char) : Prop where
  character : ∀ c ∈ s, inPathSet c = false ∧ isSlash true c = false
  dots : isSingleDot s = false ∧ isDoubleDot s = false

theorem isSettled_nil : IsSettled [] := ⟨by simp, by decide⟩

theorem not_skipped_of_kept {c : Char} (h : inPathSet c = false) : isSkipped c = false := by
  cases hs : isSkipped c with
  | false => rfl
  | true =>
    simp only [isSkipped, Bool.or_eq_true, decide_eq_true_eq] at hs
    rcases hs with (rfl | rfl) | rfl <;> exact absurd h (by decide)

namespace IsSettled

variable {s : List Char}

theorem encoded (h : IsSettled s) : encodePath s = s := by
  have hkept (t : List Char) (ht : ∀ c ∈ t, inPathSet c = false) : encodePath t = t := by
    induction t with
    | nil => rfl
    | cons c t ih =>
      rw [encodePath_kept (ht c List.mem_cons_self),
        ih (fun d hd => ht d (List.mem_cons_of_mem c hd))]
  exact hkept s fun c hc => (h.character c hc).1

theorem slash_not_mem (h : IsSettled s) : '/' ∉ s := fun hm =>
  absurd (h.character '/' hm).2 (by decide)

end IsSettled

def pieces (s : List Char) : List (List Char) := cutSegments true (s.filter (!isSkipped ·))

theorem pieces_ne_nil (s : List Char) : pieces s ≠ [] := Text.splitAt_ne_nil '/' _

theorem flatMap_of_single {α : Type} {f : α → List α} {l : List α} (h : ∀ t ∈ l, f t = [t]) :
    l.flatMap f = l := by
  rw [List.flatMap_def, List.map_congr_left h, ← List.flatMap_def, List.flatMap_singleton']

theorem IsSettled.pieces_eq {s : List Char} (h : IsSettled s) : pieces s = [s] := by
  have hcut : pieces s = Text.splitAt '/' s := cutSegments_clean fun c hc => by
    obtain ⟨hkept, hslash⟩ := h.character c hc
    exact ⟨not_skipped_of_kept hkept, fun hs => absurd hs (by simp [hslash])⟩
  rw [hcut, Text.splitAt_of_not_mem h.slash_not_mem]

theorem not_slash_of_mem_pieces {s t : List Char} (ht : t ∈ pieces s) :
    ∀ c ∈ t, isSlash true c = false := by
  intro c hc
  have hne : c ≠ '/' := by
    rintro rfl
    exact Text.not_mem_of_mem_splitAt '/' _ t ht hc
  obtain ⟨d, -, hd⟩ := List.mem_map.mp (Text.mem_of_mem_splitAt ht hc)
  cases hs : isSlash true d with
  | true =>
    rw [hs, if_pos rfl] at hd
    exact absurd hd.symm hne
  | false =>
    rw [hs] at hd
    exact hd ▸ hs

theorem hexDigit_plain {n : Nat} (h : n < 16) :
    inPathSet (hexDigit n) = false ∧ isSlash true (hexDigit n) = false := by
  have hall : ∀ m : Fin 16, inPathSet (hexDigit m) = false ∧ isSlash true (hexDigit m) = false := by
    decide
  exact hall ⟨n, h⟩

theorem percentOctet_plain (x : UInt8) :
    ∀ c ∈ percentOctet x, inPathSet c = false ∧ isSlash true c = false := by
  have hx := x.toNat_lt
  intro c hc
  simp only [percentOctet, List.mem_cons, List.not_mem_nil, or_false] at hc
  rcases hc with rfl | rfl | rfl
  · decide
  · exact hexDigit_plain (by omega)
  · exact hexDigit_plain (by omega)

theorem encodePath_plain {s : List Char} (h : ∀ c ∈ s, isSlash true c = false) :
    ∀ c ∈ encodePath s, inPathSet c = false ∧ isSlash true c = false := by
  intro c hc
  obtain ⟨d, hd, hcd⟩ := List.mem_flatMap.mp hc
  cases hset : inPathSet d with
  | false =>
    simp only [encodeChar, hset, Bool.false_eq_true, if_false, List.mem_singleton] at hcd
    exact hcd ▸ ⟨hset, h d hd⟩
  | true =>
    rw [encodeChar_set hset] at hcd
    obtain ⟨x, -, hx⟩ := List.mem_flatMap.mp hcd
    exact percentOctet_plain x c hx

/-! ## Resolving after a base -/

theorem dropSegment_subset (done : List (List Char)) : ∀ t ∈ dropSegment done, t ∈ done := by
  cases done with
  | nil => simp [dropSegment]
  | cons s ss =>
    intro t ht
    rw [dropSegment] at ht
    split at ht
    · exact ht
    · exact List.mem_cons_of_mem s ht

section All

variable {P : List Char → Prop} {done ss : List (List Char)} {s : List Char}

theorem enterSegment_all (hdone : ∀ t ∈ done, P t)
    (hs : isSingleDot s = false ∧ isDoubleDot s = false → P s) :
    ∀ t ∈ enterSegment done s, P t := by
  intro t ht
  unfold enterSegment at ht
  split at ht
  · exact hdone t (dropSegment_subset done t ht)
  · split at ht
    · exact hdone t ht
    · rcases List.mem_cons.mp ht with rfl | ht
      · exact hs (by simp_all)
      · exact hdone t ht

theorem closeSegments_all (hnil : P []) (hdone : ∀ t ∈ done, P t)
    (hs : isSingleDot s = false ∧ isDoubleDot s = false → P s) :
    ∀ t ∈ closeSegments done s, P t := by
  intro t ht
  unfold closeSegments at ht
  split at ht
  · simp only [List.mem_append, List.mem_reverse, List.mem_singleton] at ht
    exact ht.elim (fun h => hdone t (dropSegment_subset done t h)) fun h => h ▸ hnil
  · split at ht
    · simp only [List.mem_append, List.mem_reverse, List.mem_singleton] at ht
      exact ht.elim (hdone t) fun h => h ▸ hnil
    · simp only [List.mem_append, List.mem_reverse, List.mem_singleton] at ht
      exact ht.elim (hdone t) fun h => h ▸ hs (by simp_all)

theorem resolveSegments_all (hnil : P []) (hdone : ∀ t ∈ done, P t)
    (hss : ∀ t ∈ ss, isSingleDot t = false ∧ isDoubleDot t = false → P t) :
    ∀ t ∈ resolveSegments done ss, P t := by
  fun_induction resolveSegments done ss with
  | case1 done => exact closeSegments_all hnil hdone fun _ => hnil
  | case2 done s => exact closeSegments_all hnil hdone (hss s List.mem_cons_self)
  | case3 done s t r ih =>
    exact ih (enterSegment_all hdone (hss s List.mem_cons_self))
      fun u hu => hss u (List.mem_cons_of_mem s hu)

end All

theorem resolveSegments_settled {done : List (List Char)} (base ss : List (List Char))
    (hbase : ∀ t ∈ base, IsSettled t) (hne : ss ≠ []) :
    resolveSegments done (base ++ ss) = resolveSegments (base.reverse ++ done) ss := by
  induction base generalizing done with
  | nil => rfl
  | cons b base ih =>
    obtain ⟨h1, h2⟩ := (hbase b List.mem_cons_self).dots
    obtain ⟨t, r, hr⟩ := List.exists_cons_of_ne_nil (List.append_ne_nil_of_right_ne_nil base hne)
    rw [List.cons_append, hr, resolveSegments, ← hr, enterSegment, h1, h2]
    simp only [Bool.false_eq_true, if_false]
    rw [ih (fun u hu => hbase u (List.mem_cons_of_mem b hu))]
    simp

/-- Whether two dots come when no segment of the path's own is left for them to take away. -/
def climbsFrom (own : List (List Char)) : List (List Char) → Bool
  | [] => false
  | s :: ss => isDoubleDot s && own.isEmpty || climbsFrom (enterSegment own s) ss

theorem dropSegment_append {own : List (List Char)} (h : own ≠ []) (done : List (List Char)) :
    dropSegment (own ++ done) = dropSegment own ++ done := by
  cases own with
  | nil => exact absurd rfl h
  | cons s ss =>
    simp only [List.cons_append, dropSegment]
    split <;> rfl

theorem enterSegment_append {own : List (List Char)} {s : List Char}
    (h : (isDoubleDot s && own.isEmpty) = false) (done : List (List Char)) :
    enterSegment (own ++ done) s = enterSegment own s ++ done := by
  unfold enterSegment
  split
  · rename_i hd
    exact dropSegment_append (by simpa [hd] using h) done
  · split <;> rfl

theorem closeSegments_append {own : List (List Char)} {s : List Char}
    (h : (isDoubleDot s && own.isEmpty) = false) (done : List (List Char)) :
    closeSegments (own ++ done) s = done.reverse ++ closeSegments own s := by
  unfold closeSegments
  split
  · rename_i hd
    rw [dropSegment_append (by simpa [hd] using h)]
    simp
  · split <;> simp

theorem resolveSegments_append (done : List (List Char)) {own ss : List (List Char)}
    (h : climbsFrom own ss = false) :
    resolveSegments (own ++ done) ss = done.reverse ++ resolveSegments own ss := by
  induction ss generalizing own with
  | nil => exact closeSegments_append (by simp [show isDoubleDot [] = false by decide]) done
  | cons s ss ih =>
    simp only [climbsFrom, Bool.or_eq_false_iff] at h
    cases ss with
    | nil => exact closeSegments_append h.1 done
    | cons t r =>
      rw [resolveSegments, enterSegment_append h.1, ih h.2]
      rfl

theorem resolveSegments_climbing {b c : List Char} (hb : isDriveLetter b = false)
    (hc : isDriveLetter c = false) {own ss : List (List Char)}
    (h : climbsFrom own ss = true) :
    resolveSegments (own ++ [b]) ss = resolveSegments (own ++ [c]) ss := by
  have hdrop (d : List Char) (hd : isDriveLetter d = false) : dropSegment [d] = [] := by
    simp [dropSegment, hd]
  induction ss generalizing own with
  | nil => simp [climbsFrom] at h
  | cons s ss ih =>
    cases hs : isDoubleDot s && own.isEmpty with
    | true =>
      simp only [Bool.and_eq_true, List.isEmpty_iff] at hs
      obtain ⟨hs, rfl⟩ := hs
      cases ss with
      | nil => simp [resolveSegments, closeSegments, hs, hdrop b hb, hdrop c hc]
      | cons t r => simp [resolveSegments, enterSegment, hs, hdrop b hb, hdrop c hc]
    | false =>
      rw [climbsFrom, hs, Bool.false_or] at h
      cases ss with
      | nil => simp [climbsFrom] at h
      | cons t r =>
        rw [resolveSegments, resolveSegments, enterSegment_append hs, enterSegment_append hs]
        exact ih h

/-! ## Paths that are read -/

theorem pathSegments_settled {scheme : String} (hs : isSpecialScheme scheme = true)
    (hf : scheme ≠ "file") (s : List Char) : ∀ t ∈ pathSegments scheme s, IsSettled t := by
  have hroot (s : List Char) : ∀ t ∈ segmentsAfterRoot scheme s, IsSettled t := by
    intro t ht
    simp only [segmentsAfterRoot, hf, if_false, hs] at ht
    refine resolveSegments_all isSettled_nil (by simp) (fun u hu hdots => ⟨?_, hdots⟩) t ht
    obtain ⟨v, hv, rfl⟩ := List.mem_map.mp hu
    exact encodePath_plain (not_slash_of_mem_pieces hv)
  unfold pathSegments
  split
  · rw [hs]
    simpa using isSettled_nil
  · split <;> exact hroot _

theorem pathSegments_text {scheme : String} (hs : isSpecialScheme scheme = true)
    (hf : scheme ≠ "file") {ts : List (List Char)} (hne : ts ≠ []) :
    pathSegments scheme (UrlPath.segments ts).text =
      (resolveSegments [] (ts.flatMap pieces)).map encodePath := by
  obtain ⟨t, ts, rfl⟩ := List.exists_cons_of_ne_nil hne
  have hcut (ts : List (List Char)) :
      cutSegments true ((UrlPath.segments ts).text.filter (!isSkipped ·)) =
        [] :: ts.flatMap pieces := by
    have hpiece (t : List Char) :
        (('/' :: t).filter (!isSkipped ·)).map (fun c => if isSlash true c then '/' else c) =
          '/' :: (t.filter (!isSkipped ·)).map fun c => if isSlash true c then '/' else c := by
      rw [List.filter_cons_of_pos (by decide), List.map_cons, if_pos (by decide)]
    rw [UrlPath.text, List.filter_flatMap, cutSegments, List.map_flatMap]
    simp only [hpiece]
    exact Text.splitAt_flatMap '/' _ ts
  have hroot : (UrlPath.segments (t :: ts)).text = '/' :: (t ++ (UrlPath.segments ts).text) := rfl
  have htail : cutSegments true ((t ++ (UrlPath.segments ts).text).filter (!isSkipped ·)) =
      (t :: ts).flatMap pieces := by
    have hall := hcut (t :: ts)
    rw [hroot, List.filter_cons_of_pos (by decide), cutSegments, List.map_cons,
      if_pos (by decide), Text.splitAt_cons_self] at hall
    exact (List.cons.inj hall).2
  rw [hroot, pathSegments_root, segmentsAfterRoot_eq, bareSegments, hs, htail]
  simp only [hf, if_false]

theorem hierarchy_special {scheme : String} (hs : isSpecialScheme scheme = true)
    (hf : scheme ≠ "file") {s : List Char} {cut : Bool} {a : Option Authority} {path : UrlPath}
    (h : hierarchy scheme s cut = .ok (a, path)) :
    ∃ t, path = .segments (pathSegments scheme t) := by
  simp only [hierarchy, hf, if_false, hs, if_true] at h
  generalize (s.dropWhile (isSlash true)).span (fun c => !isSlash true c) = cutting at h
  obtain ⟨lead, rest⟩ := cutting
  cases ha : authority? scheme lead rest cut with
  | error e => simp [ha, bind, Except.bind] at h
  | ok b =>
    simp only [ha, bind, Except.bind, pure, Except.pure, Except.ok.injEq, Prod.mk.injEq] at h
    exact ⟨rest, h.2.symm⟩

def IsWeb (u : Url) : Prop := u.scheme = "http" ∨ u.scheme = "https"

theorem IsWeb.special {u : Url} (h : u.IsWeb) :
    isSpecialScheme u.scheme = true ∧ u.scheme ≠ "file" := by
  rcases h with h | h <;> rw [h] <;> decide

theorem parse_settled {text : String} {u : Url} (h : parse text = .ok u) (hw : u.IsWeb) :
    ∃ parts, u.path = .segments parts ∧ ∀ t ∈ parts, IsSettled t := by
  obtain ⟨hs, hf⟩ := hw.special
  obtain ⟨s, cut, hh⟩ := parse_hierarchy h
  obtain ⟨t, ht⟩ := hierarchy_special hs hf hh
  exact ⟨_, ht, pathSegments_settled hs hf t⟩

/-! ## The base path -/

def basePath (u : Url) : List Char := withoutLastSlash u.path.text

def baseParts (parts : List (List Char)) : List (List Char) :=
  if parts.getLast? = some [] then parts.dropLast else parts

def Under (target u : Url) : Prop := ∃ rest, u.path.text = basePath target ++ '/' :: rest

def baseSegments (u : Url) : List (List Char) :=
  match u.path with
  | .segments parts => baseParts parts
  | .flat _ => []

def Beneath (base parts : List (List Char)) : Prop :=
  base <+: parts ∧ base.length < parts.length

instance (base parts : List (List Char)) : Decidable (Beneath base parts) :=
  inferInstanceAs (Decidable (_ ∧ _))

def partsUnder (base : List (List Char)) (path : String) : List (List Char) :=
  (resolveSegments base.reverse (pieces (afterRoot path.toList))).map encodePath

def climbs (path : String) : Bool := climbsFrom [] (pieces (afterRoot path.toList))

theorem baseParts_subset (parts : List (List Char)) : ∀ t ∈ baseParts parts, t ∈ parts := by
  intro t ht
  unfold baseParts at ht
  split at ht
  · exact List.dropLast_subset parts ht
  · exact ht

theorem withoutLastSlash_text {parts : List (List Char)} (h : ∀ t ∈ parts, IsSettled t) :
    withoutLastSlash (UrlPath.segments parts).text = (UrlPath.segments (baseParts parts)).text := by
  rcases List.eq_nil_or_concat parts with rfl | ⟨ps, p, rfl⟩
  · rfl
  · have htext : (UrlPath.segments (ps ++ [p])).text = (UrlPath.segments ps).text ++ '/' :: p := by
      simp [UrlPath.text]
    rw [List.concat_eq_append] at h ⊢
    cases p with
    | nil => simp [withoutLastSlash, baseParts, htext]
    | cons c p =>
      have hlast : (UrlPath.segments (ps ++ [c :: p])).text.getLast? ≠ some '/' := by
        intro hl
        rw [htext, List.getLast?_append, List.getLast?_cons_cons,
          List.getLast?_eq_some_getLast (List.cons_ne_nil c p), Option.some_or,
          ← List.getLast?_eq_some_getLast] at hl
        exact (h (c :: p) (by simp)).slash_not_mem (List.mem_of_getLast? hl)
      simp [withoutLastSlash, baseParts, hlast]

theorem partsUnder_ne_nil (base : List (List Char)) (path : String) :
    partsUnder base path ≠ [] := by
  simpa [partsUnder] using resolveSegments_ne_nil _ _

theorem pathSegments_join {scheme : String} (hs : isSpecialScheme scheme = true)
    (hf : scheme ≠ "file") {parts : List (List Char)} (hp : ∀ t ∈ parts, IsSettled t)
    (path : String) :
    pathSegments scheme (joinPaths (UrlPath.segments parts).text path.toList) =
      partsUnder (baseParts parts) path := by
  have hbase (t : List Char) (ht : t ∈ baseParts parts) : IsSettled t :=
    hp t (baseParts_subset parts t ht)
  have hone : (baseParts parts).flatMap pieces = baseParts parts :=
    flatMap_of_single fun t ht => (hbase t ht).pieces_eq
  have htext : (UrlPath.segments (baseParts parts)).text ++ '/' :: afterRoot path.toList =
      (UrlPath.segments (baseParts parts ++ [afterRoot path.toList])).text := by
    simp [UrlPath.text]
  rw [joinPaths_eq, withoutLastSlash_text hp, htext, pathSegments_text hs hf (by simp),
    List.flatMap_append, hone, List.flatMap_singleton,
    resolveSegments_settled _ _ hbase (pieces_ne_nil _), List.append_nil, partsUnder]

theorem splitAt_text {parts : List (List Char)} (h : ∀ t ∈ parts, '/' ∉ t) :
    Text.splitAt '/' (UrlPath.segments parts).text = [] :: parts := by
  have hone : (parts.flatMap fun t => Text.splitAt '/' t) = parts :=
    flatMap_of_single fun t ht => Text.splitAt_of_not_mem (h t ht)
  have hsplit := Text.splitAt_flatMap '/' id parts
  simp only [id_eq] at hsplit
  rw [UrlPath.text, hsplit, hone]

theorem text_beneath_iff {base parts : List (List Char)} (hb : ∀ t ∈ base, '/' ∉ t)
    (hp : ∀ t ∈ parts, '/' ∉ t) :
    (∃ rest, (UrlPath.segments parts).text = (UrlPath.segments base).text ++ '/' :: rest) ↔
      Beneath base parts := by
  constructor
  · rintro ⟨rest, h⟩
    have hsplit := congrArg (Text.splitAt '/') h
    rw [Text.splitAt_append_sep, splitAt_text hp, splitAt_text hb, List.cons_append] at hsplit
    obtain rfl := (List.cons.inj hsplit).2
    have hpos := List.length_pos_iff.mpr (Text.splitAt_ne_nil '/' rest)
    exact ⟨List.prefix_append _ _, by rw [List.length_append]; omega⟩
  · rintro ⟨⟨r, rfl⟩, hlt⟩
    cases r with
    | nil => simp at hlt
    | cons p ps => exact ⟨p ++ (UrlPath.segments ps).text, by simp [UrlPath.text]⟩

/-! ## Paths that climb and paths that do not -/

theorem partsUnder_of_not_climbing {base : List (List Char)} (hb : ∀ t ∈ base, IsSettled t)
    {path : String} (h : climbs path = false) :
    partsUnder base path = base ++ partsUnder [] path := by
  have hencoded : base.map encodePath = base := by
    rw [List.map_congr_left fun t ht => (hb t ht).encoded, List.map_id']
  have happend := resolveSegments_append base.reverse h
  rw [List.nil_append, List.reverse_reverse] at happend
  rw [partsUnder, happend, List.map_append, hencoded]
  rfl

theorem beneath_of_not_climbing {base : List (List Char)} (hb : ∀ t ∈ base, IsSettled t)
    {path : String} (h : climbs path = false) : Beneath base (partsUnder base path) := by
  rw [partsUnder_of_not_climbing hb h]
  have hpos := List.length_pos_iff.mpr (partsUnder_ne_nil [] path)
  exact ⟨List.prefix_append _ _, by rw [List.length_append]; omega⟩

theorem not_beneath_of_climbing {b c : List Char} (hb : isDriveLetter b = false)
    (hc : isDriveLetter c = false) (hne : b ≠ c) {path : String} (h : climbs path = true) :
    ¬ (Beneath [b] (partsUnder [b] path) ∧ Beneath [c] (partsUnder [c] path)) := by
  rintro ⟨⟨⟨r, hr⟩, -⟩, ⟨⟨t, ht⟩, -⟩⟩
  have hsame : partsUnder [b] path = partsUnder [c] path :=
    congrArg (List.map encodePath) (resolveSegments_climbing hb hc h)
  rw [hsame, ← ht] at hr
  exact hne (List.cons.inj hr).1

theorem baseSegments_settled {text : String} {u : Url} (h : parse text = .ok u) (hw : u.IsWeb) :
    (∀ t ∈ u.baseSegments, IsSettled t) ∧
      basePath u = (UrlPath.segments u.baseSegments).text := by
  obtain ⟨parts, hparts, hset⟩ := parse_settled h hw
  have hbase : u.baseSegments = baseParts parts := by rw [baseSegments, hparts]
  rw [hbase, basePath, hparts]
  exact ⟨fun t ht => hset t (baseParts_subset parts t ht), withoutLastSlash_text hset⟩

theorem targetUrl_parts {text : String} {u : Url} (h : parse text = .ok u) (hw : u.IsWeb)
    (path : String) (query : Option String) :
    (Outbound.targetUrl u path query).path = .segments (partsUnder u.baseSegments path) ∧
      ∀ t ∈ partsUnder u.baseSegments path, IsSettled t := by
  obtain ⟨hs, hf⟩ := hw.special
  obtain ⟨parts, hparts, hset⟩ := parse_settled h hw
  have hbase : u.baseSegments = baseParts parts := by rw [baseSegments, hparts]
  rw [hbase, ← pathSegments_join hs hf hset path]
  exact ⟨hparts ▸ Outbound.targetUrl_path hparts path query, pathSegments_settled hs hf _⟩

/-- What is sent for a path goes under the base of its target exactly when the segments it is
resolved to after those of the base are beneath them. -/
theorem targetUrl_under_iff {text : String} {u : Url} (h : parse text = .ok u) (hw : u.IsWeb)
    (path : String) (query : Option String) :
    u.Under (Outbound.targetUrl u path query) ↔
      Beneath u.baseSegments (partsUnder u.baseSegments path) := by
  obtain ⟨hbase, htext⟩ := baseSegments_settled h hw
  obtain ⟨hsent, hset⟩ := targetUrl_parts h hw path query
  rw [Under, htext, hsent]
  exact text_beneath_iff (fun t ht => (hbase t ht).slash_not_mem)
    fun t ht => (hset t ht).slash_not_mem

def targetAt (base : List String) : Url :=
  { memberUrl with path := .segments (base.map String.toList) }

theorem targetAt_parse :
    parse "https://member/one" = .ok (targetAt ["one"]) ∧
      parse "https://member/two" = .ok (targetAt ["two"]) ∧
      parse "https://member/shared/one" = .ok (targetAt ["shared", "one"]) :=
  ⟨ok_of_toOption (by decide +kernel), ok_of_toOption (by decide +kernel),
    ok_of_toOption (by decide +kernel)⟩

theorem targetAt_isWeb (base : List String) : (targetAt base).IsWeb := .inr rfl

end Url

namespace Outbound

open Octets Url

def accessAt (base : List String) : ClusterAccess := ⟨targetAt base, "token", "user"⟩

theorem accessAt_directed (base : List String) (path : String) :
    ∃ out, direct (accessAt base) smithRequest path false = .ok out := by
  have hhost : Headers.isValue (ofText (hostField memberUrl)) = true := by decide +kernel
  have htoken : Headers.isValue (ofText ("Bearer " ++ "token")) = true := by decide +kernel
  have huser : Headers.isValue (ofText "user") = true := by decide +kernel
  exact direct_of_values (accessAt base) hhost htoken huser smithRequest path false

/-- For every path: what is directed with it goes under the base path of its target exactly when
the path, resolved after the segments of the base, is beneath them. It does so for every target
that can be read exactly when the path does not climb. -/
theorem base_path_kept_iff (path : String) :
    (∀ text access r plugin out, Url.parse text = .ok access.url → access.url.IsWeb →
      direct access r path plugin = .ok out →
      (access.url.Under out.url ↔
        Beneath access.url.baseSegments (partsUnder access.url.baseSegments path))) ∧
    ((∀ text access r plugin out, Url.parse text = .ok access.url → access.url.IsWeb →
      direct access r path plugin = .ok out → access.url.Under out.url) ↔
        climbs path = false) := by
  have hexact (text : String) (access : ClusterAccess) (r : Request) (plugin : Bool)
      (out : Outbound) (hp : Url.parse text = .ok access.url) (hw : access.url.IsWeb)
      (hd : direct access r path plugin = .ok out) :
      access.url.Under out.url ↔
        Beneath access.url.baseSegments (partsUnder access.url.baseSegments path) := by
    rw [(direct_ok_values hd).1]
    exact targetUrl_under_iff hp hw path r.target.query
  refine ⟨hexact, ?_, ?_⟩
  · intro hall
    have hkept (text name : String) (hp : Url.parse text = .ok (targetAt [name])) :
        Beneath (targetAt [name]).baseSegments
          (partsUnder (targetAt [name]).baseSegments path) := by
      obtain ⟨out, hd⟩ := accessAt_directed [name] path
      have hw := targetAt_isWeb [name]
      exact (hexact _ (accessAt [name]) _ _ _ hp hw hd).mp (hall _ _ _ _ _ hp hw hd)
    have hone := hkept _ "one" targetAt_parse.1
    have htwo := hkept _ "two" targetAt_parse.2.1
    -- Of these two siblings at least one is left by a path that climbs.
    cases hc : climbs path with
    | false => rfl
    | true =>
      have hnot := not_beneath_of_climbing (b := "one".toList) (c := "two".toList) (by decide)
        (by decide) (by decide) hc
      exact absurd ⟨hone, htwo⟩ hnot
  · intro hc text access r plugin out hp hw hd
    have hbase := (baseSegments_settled hp hw).1
    exact (hexact text access r plugin out hp hw hd).mpr (beneath_of_not_climbing hbase hc)

/-- Dots that take only segments of the request away keep the base, and so do dots that leave it
and return. -/
theorem shared_paths_kept :
    (∃ out, direct (accessAt ["shared", "one"]) smithRequest "/api/../pods" false = .ok out ∧
      (targetAt ["shared", "one"]).Under out.url) ∧
    climbs "/../one/pods" = true ∧
    ∃ out, direct (accessAt ["shared", "one"]) smithRequest "/../one/pods" false = .ok out ∧
      (targetAt ["shared", "one"]).Under out.url := by
  have hw := targetAt_isWeb ["shared", "one"]
  refine ⟨?_, by decide +kernel, ?_⟩
  · obtain ⟨out, hd⟩ := accessAt_directed ["shared", "one"] "/api/../pods"
    have hstays : climbs "/api/../pods" = false := by decide +kernel
    exact ⟨out, hd, (base_path_kept_iff "/api/../pods").2.mpr hstays _ (accessAt _) _ _ out
      targetAt_parse.2.2 hw hd⟩
  · obtain ⟨out, hd⟩ := accessAt_directed ["shared", "one"] "/../one/pods"
    have hbeneath : Beneath (targetAt ["shared", "one"]).baseSegments
        (partsUnder (targetAt ["shared", "one"]).baseSegments "/../one/pods") := by
      decide +kernel
    exact ⟨out, hd, ((base_path_kept_iff "/../one/pods").1 _ (accessAt _) _ _ out
      targetAt_parse.2.2 hw hd).mpr hbeneath⟩

def ReachesSibling (path : String) : Prop :=
  RequestTarget.parse (ofText path) = .ok ⟨path, none⟩ ∧
    ∃ out, direct (accessAt ["shared", "one"]) smithRequest path false = .ok out ∧
      out.url.pathText = "/shared/two/pods" ∧
      out.headers.values "authorization" = [ofText "Bearer token"] ∧
      ¬ (targetAt ["shared", "one"]).Under out.url

theorem reachesSibling_of_parts {path : String}
    (ht : (RequestTarget.parse (ofText path)).toOption = some ⟨path, none⟩)
    (hp : partsUnder (targetAt ["shared", "one"]).baseSegments path =
      ["shared".toList, "two".toList, "pods".toList]) : ReachesSibling path := by
  have hw := targetAt_isWeb ["shared", "one"]
  have hparse := targetAt_parse.2.2
  obtain ⟨out, hd⟩ := accessAt_directed ["shared", "one"] path
  have hurl := (direct_ok_values hd).1
  have hsent : (targetUrl (accessAt ["shared", "one"]).url path smithRequest.target.query).path =
      .segments ["shared".toList, "two".toList, "pods".toList] :=
    hp ▸ (targetUrl_parts hparse hw path smithRequest.target.query).1
  have hkeeps : smithRequest.headers.keepsSubprotocols = false := by decide +kernel
  refine ⟨ok_of_toOption ht, out, hd, ?_, ?_, fun hunder => ?_⟩
  · rw [hurl, pathText, hsent]
    decide
  · rw [direct_authorization hd, hkeeps]
    rfl
  · rw [hurl] at hunder
    have hbeneath := (targetUrl_under_iff hparse hw path smithRequest.target.query).mp hunder
    rw [hp] at hbeneath
    exact absurd hbeneath (by decide)

/-- Two dots take a request to the sibling of its target's base, however they are spelled and
whatever they stand after. -/
theorem sibling_path_reached :
    Url.parse "https://member/shared/one" = .ok (targetAt ["shared", "one"]) ∧
      basePath (targetAt ["shared", "one"]) = "/shared/one".toList ∧
      ReachesSibling "/../two/pods" ∧ ReachesSibling "/%2e%2E/two/pods" ∧
      ReachesSibling "/..\\two/pods" ∧ ReachesSibling "/api/../../two/pods" := by
  refine ⟨targetAt_parse.2.2, by decide +kernel, ?_, ?_, ?_, ?_⟩ <;>
    exact reachesSibling_of_parts (by decide +kernel) (by decide +kernel)

end Outbound

end WorkspaceGateway
