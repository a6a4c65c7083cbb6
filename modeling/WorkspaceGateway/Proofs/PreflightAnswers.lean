import Mathlib
import WorkspaceGateway.Cors
import WorkspaceGateway.Proofs.SubprotocolEntries

/-!
# Answers to preflights

A preflight that says where it comes from and asks for an allowed method gets every field of the
policy, and any other gets none of them. The names that it asks for are read by one pass over the
list, which drops signs and ends names as it goes; still they are what is kept of each run between
the separators, and they are read back from the answer as they were found.
-/

set_option autoImplicit false

namespace WorkspaceGateway.Cors

open Headers Octets

variable {request response : Headers} {s : List Char} {names : List (List Char)} {c : Char}

/-! ## Names in a list -/

def isKept (c : Char) : Bool := c.isAlpha || isKeptSign c

def runs (s : List Char) : List (List Char) := (s.splitOnP isSeparator).filter (· ≠ [])

def keptRuns (s : List Char) : List (List Char) :=
  ((runs s).map (List.filter isKept)).filter (· ≠ [])

def small (s : List Char) : List Char := s.map Char.toLower

theorem small_append (s t : List Char) : small (s ++ t) = small s ++ small t := List.map_append

theorem small_eq_nil_iff : small s = [] ↔ s = [] := List.map_eq_nil_iff

theorem map_small_nonempty (ns : List (List Char)) :
    (ns.filter (· ≠ [])).map small = (ns.map small).filter (· ≠ []) := by
  rw [List.filter_map]
  refine congrArg _ (List.filter_congr fun n _ => ?_)
  simp [small_eq_nil_iff]

theorem keptRuns_eq (s : List Char) :
    keptRuns s = ((s.splitOnP isSeparator).map (List.filter isKept)).filter (· ≠ []) := by
  rw [keptRuns, runs, List.filter_map, List.filter_map, List.filter_filter]
  refine congrArg _ (List.filter_congr fun p _ => ?_)
  cases p <;> simp

theorem nameChar_separator (upper : Bool) (h : isSeparator c = true) : nameChar upper c = [] := by
  simp only [isSeparator, Bool.or_eq_true, decide_eq_true_eq] at h
  rcases h with rfl | rfl <;> rfl

theorem small_nameChar (upper : Bool) (c : Char) :
    small (nameChar upper c) = small ([c].filter isKept) := by
  rw [nameChar, List.filter_singleton, isKept]
  cases c.isAlpha with
  | true => cases upper <;> simp [small]
  | false =>
    cases hc : isKeptSign c with
    | true => simp [small]
    | false => simp [small]

def smallKept (p : List Char) : List Char := small (p.filter isKept)

theorem smallKept_cons (c : Char) (p : List Char) :
    smallKept (c :: p) = small ([c].filter isKept) ++ smallKept p := by
  rw [smallKept, smallKept, ← small_append, ← List.filter_append, List.singleton_append]

/-- The names are those of the pieces, and a name that was begun belongs to the first piece. -/
theorem small_headerNames {p : List Char} {ps : List (List Char)}
    (h : s.splitOnP isSeparator = p :: ps) (upper : Bool) (current : List Char) :
    (headerNames upper current s).map small =
      ((small current ++ smallKept p) :: ps.map smallKept).filter (· ≠ []) := by
  induction s generalizing p ps upper current with
  | nil =>
    obtain ⟨rfl, rfl⟩ := List.cons.inj h
    cases current <;> simp [headerNames, small, smallKept]
  | cons c r ih =>
    obtain ⟨q, qs, hq⟩ := List.exists_cons_of_ne_nil (List.splitOnP_ne_nil isSeparator r)
    rw [List.splitOnP_cons_eq_if_modifyHead, hq, List.modifyHead_cons] at h
    unfold headerNames
    by_cases hc : isSeparator c = true
    · rw [if_pos hc] at h
      obtain ⟨rfl, rfl⟩ := List.cons.inj h
      rw [nameChar_separator upper hc, List.append_nil]
      simp only [hc, if_true]
      cases current with
      | nil =>
        rw [List.isEmpty_nil, if_pos rfl, ih hq]
        rfl
      | cons d ds =>
        rw [List.isEmpty_cons, if_neg (by decide), List.map_cons, ih hq]
        simp [small, smallKept]
    · rw [if_neg hc] at h
      obtain ⟨rfl, rfl⟩ := List.cons.inj h
      simp only [hc, Bool.false_eq_true, if_false]
      rw [ih hq, small_append, small_nameChar, smallKept_cons, List.append_assoc]

theorem small_parseHeaderList (s : List Char) :
    (parseHeaderList s).map small = (keptRuns s).map small := by
  obtain ⟨p, ps, h⟩ := List.exists_cons_of_ne_nil (List.splitOnP_ne_nil isSeparator s)
  have hkept : (keptRuns s).map small =
      ((s.splitOnP isSeparator).map smallKept).filter (· ≠ []) := by
    rw [keptRuns_eq, map_small_nonempty, List.map_map]
    rfl
  rw [parseHeaderList, small_headerNames h, hkept, h]
  rfl

/-! ### What a name can hold -/

theorem isKept_toLower (c : Char) : isKept c.toLower = isKept c := by
  rw [isKept, isKept, Char.isAlpha_toLower_eq_isAlpha]
  cases ha : c.isAlpha with
  | true => rfl
  | false =>
    have hupper : ¬ c.isUpper = true := fun hu => by simp [Char.isAlpha, hu] at ha
    rw [Char.toLower_eq_of_not_isUpper hupper]

theorem kept_of_name {n : List Char} (hn : n ∈ parseHeaderList s) :
    n ≠ [] ∧ ∀ c ∈ n, isKept c = true := by
  have hsmall : small n ∈ (keptRuns s).map small := by
    rw [← small_parseHeaderList]
    exact List.mem_map_of_mem hn
  obtain ⟨p, hp, hpn⟩ := List.mem_map.mp hsmall
  obtain ⟨hp, hne⟩ := List.mem_filter.mp hp
  obtain ⟨r, -, rfl⟩ := List.mem_map.mp hp
  constructor
  · rintro rfl
    exact of_decide_eq_true hne (small_eq_nil_iff.mp hpn)
  · intro c hc
    have hlower : c.toLower ∈ small (r.filter isKept) := hpn ▸ List.mem_map_of_mem hc
    obtain ⟨d, hd, hdc⟩ := List.mem_map.mp hlower
    rw [← isKept_toLower, ← hdc, isKept_toLower]
    exact (List.mem_filter.mp hd).2

theorem isKept_ascii (h : isKept c = true) : c.toNat < 128 := by
  simp only [isKept, isKeptSign, Bool.or_eq_true, decide_eq_true_eq, Char.isAlpha, Char.isUpper,
    Char.isLower, Char.isDigit, Bool.and_eq_true, UInt32.le_iff_toNat_le] at h
  rcases h with (h | h) | ((rfl | rfl) | rfl) | h
  · exact Nat.lt_of_le_of_lt h.2 (by decide)
  · exact Nat.lt_of_le_of_lt h.2 (by decide)
  · decide
  · decide
  · decide
  · exact Nat.lt_of_le_of_lt h.2 (by decide)

theorem isFirm_of_kept (h : isKept c = true) : Credential.isFirm c = true := by
  have hall : ∀ n < 128, isKept (Char.ofNat n) = true → Credential.isFirm (Char.ofNat n) = true := by
    decide
  rw [← Char.ofNat_toNat c] at h ⊢
  exact hall c.toNat (isKept_ascii (Char.ofNat_toNat c ▸ h)) h

theorem isEntry_of_name {n : List Char} (hn : n ∈ parseHeaderList s) : IsEntry n :=
  Credential.isEntry_of_firm fun c hc => isFirm_of_kept ((kept_of_name hn).2 c hc)

/-! ### Names in a field -/

theorem joinWith_spaced (n : List Char) (ns : List (List Char)) :
    Text.joinWith [',', ' '] (n :: ns) = Text.joinWith [','] (n :: ns.map (' ' :: ·)) := by
  induction ns generalizing n with
  | nil => rfl
  | cons m ns ih =>
    rw [Text.joinWith, ih, List.map_cons, Text.joinWith, List.append_assoc, List.append_assoc]
    cases ns <;> rfl

theorem mem_joinWith_spaced (hc : c ∈ Text.joinWith [',', ' '] names) :
    isSeparator c = true ∨ ∃ n ∈ names, c ∈ n := by
  cases names with
  | nil => simp [Text.joinWith] at hc
  | cons n ns =>
    rw [joinWith_spaced] at hc
    rcases mem_joinWith hc with rfl | ⟨e, he, hce⟩
    · exact .inl rfl
    · rcases List.mem_cons.mp he with rfl | he
      · exact .inr ⟨e, List.mem_cons_self, hce⟩
      · obtain ⟨m, hm, rfl⟩ := List.mem_map.mp he
        rcases List.mem_cons.mp hce with rfl | hcm
        · exact .inl rfl
        · exact .inr ⟨m, List.mem_cons_of_mem n hm, hcm⟩

theorem isVisible_of_separator (h : isSeparator c = true) : isVisible c = true := by
  simp only [isSeparator, Bool.or_eq_true, decide_eq_true_eq] at h
  rcases h with rfl | rfl <;> decide

theorem joinNames_readable (hn : ∀ n ∈ names, IsEntry n) :
    readable? (ofText (joinNames names)) = some (Text.joinWith [',', ' '] names) := by
  rw [joinNames, ofText_ofList]
  refine readable?_ofChars fun c hc => ?_
  rcases mem_joinWith_spaced hc with hc | ⟨n, hmem, hc⟩
  · exact isVisible_of_separator hc
  · exact (hn n hmem).visible c hc

theorem joinNames_isValue (hn : ∀ n ∈ names, IsEntry n) :
    isValue (ofText (joinNames names)) = true :=
  isValue_of_readable (joinNames_readable hn)

theorem entries_of_names {h : Headers} {field : String} (hne : names ≠ [])
    (hn : ∀ n ∈ names, IsEntry n) (hv : h.values field = [ofText (joinNames names)]) :
    h.entries field = names := by
  obtain ⟨n, ns, rfl⟩ := List.exists_cons_of_ne_nil hne
  have hread : h.readableValues field = [Text.joinWith [',', ' '] (n :: ns)] := by
    rw [readableValues, hv, List.filterMap_cons, joinNames_readable hn]
    rfl
  have hunbroken : ∀ p ∈ n :: ns.map (' ' :: ·), ',' ∉ p := by
    intro p hp hc
    rcases List.mem_cons.mp hp with rfl | hp
    · exact (hn p List.mem_cons_self).unbroken hc
    · obtain ⟨m, hm, rfl⟩ := List.mem_map.mp hp
      rcases List.mem_cons.mp hc with hc | hc
      · exact absurd hc (by decide)
      · exact (hn m (List.mem_cons_of_mem n hm)).unbroken hc
  rw [entries, hread, List.flatMap_singleton, joinWith_spaced,
    Text.splitAt_joinWith (List.cons_ne_nil _ _) hunbroken, List.map_cons, List.map_map,
    (hn n List.mem_cons_self).trimmed]
  refine congrArg (n :: ·) ((List.map_congr_left fun m hm => ?_).trans (List.map_id ns))
  exact (hn m (List.mem_cons_of_mem n hm)).trimmed

theorem insertText_of_names (h : Headers) (field : String) (hn : ∀ n ∈ names, IsEntry n) :
    insertText h field (joinNames names) = h.insert field (ofText (joinNames names)) := by
  rw [insertText, if_pos (joinNames_isValue hn)]

/-! ## Answers -/

/-- A preflight that can be granted: its first origin can be read and is not empty, and the first
method that it asks for is an allowed one, whatever the case of its letters. -/
structure Asks (request : Headers) : Prop where
  origin : ∃ v o, request.first? "origin" = some v ∧ readable? v = some o ∧ o ≠ []
  method : ∃ v m, request.first? "access-control-request-method" = some v ∧
    readable? v = some m ∧ ∃ allowed ∈ allowedMethods, small m = small allowed.toList

def requested (request : Headers) : List Char :=
  request.firstText "access-control-request-headers"

theorem firstText_iff {h : Headers} {field : String} (P : List Char → Prop) (hP : ¬ P []) :
    P (h.firstText field) ↔ ∃ v t, h.first? field = some v ∧ readable? v = some t ∧ P t := by
  unfold firstText
  cases h.first? field with
  | none => simp [hP]
  | some v =>
    cases hv : readable? v with
    | none => simp [hv, hP]
    | some t => simp [hv]

theorem isMethodAllowed_iff {m : List Char} : isMethodAllowed m = true ↔
    ∃ allowed ∈ allowedMethods, small m = small allowed.toList := by
  rw [isMethodAllowed, List.contains_iff_mem]
  constructor
  · intro h
    refine ⟨_, h, ?_⟩
    simp [small, Function.comp_def]
  · rintro ⟨allowed, hmem, hm⟩
    have hcapital : ∀ a ∈ allowedMethods, a.toList.map Char.toUpper = a.toList := by decide
    have hupper : m.map Char.toUpper = allowed.toList.map Char.toUpper := by
      simpa [small, Function.comp_def] using congrArg (List.map Char.toUpper) hm
    rw [hupper, hcapital allowed hmem, String.ofList_toList]
    exact hmem

theorem asks_iff : Asks request ↔ request.firstText "origin" ≠ [] ∧
    isMethodAllowed (request.firstText "access-control-request-method") = true := by
  rw [firstText_iff (· ≠ []) (by simp),
    firstText_iff (fun m => isMethodAllowed m = true) (by decide)]
  simp only [isMethodAllowed_iff]
  exact ⟨fun h => ⟨h.origin, h.method⟩, fun h => ⟨h.1, h.2⟩⟩

def varied (response : Headers) : Headers :=
  ["Origin", "Access-Control-Request-Method", "Access-Control-Request-Headers"].foldl
    (fun h v => h.append "vary" (ofText v)) response

theorem values_varied (response : Headers) (field : String) :
    (varied response).values field = response.values field ++ if field = "vary" then
      ["Origin", "Access-Control-Request-Method", "Access-Control-Request-Headers"].map ofText
      else [] := by
  by_cases h : field = "vary"
  · simp [varied, values_append, h]
  · simp [varied, values_append, h, Ne.symm h]

theorem preflightHeaders_of_not (h : ¬ Asks request) (response : Headers) :
    preflightHeaders request response = varied response := by
  simp only [preflightHeaders]
  split
  · rfl
  · rename_i ho
    split
    · rfl
    · rename_i hm
      exact absurd (asks_iff.mpr ⟨by simpa using ho, by simpa using hm⟩) h

theorem insertText_methods (h : Headers) (field : String) :
    insertText h field (joinNames (allowedMethods.map String.toList)) =
      h.insert field (ofText "PUT, PATCH, POST, GET, DELETE, OPTIONS") := by
  have htext : joinNames (allowedMethods.map String.toList) =
      "PUT, PATCH, POST, GET, DELETE, OPTIONS" := by decide
  rw [htext, insertText, if_pos (by decide +kernel)]

def grantFields : List String :=
  ["access-control-allow-origin", "access-control-allow-methods", "access-control-allow-headers",
    "access-control-allow-credentials"]

theorem values_of_asks (h : Asks request) (response : Headers) (field : String) :
    (preflightHeaders request response).values field =
      if field = "access-control-allow-credentials" then [ofText "true"]
      else if field = "access-control-allow-headers" ∧ parseHeaderList (requested request) ≠ [] then
        [ofText (joinNames (parseHeaderList (requested request)))]
      else if field = "access-control-allow-methods" then
        [ofText "PUT, PATCH, POST, GET, DELETE, OPTIONS"]
      else if field = "access-control-allow-origin" then [ofText "*"]
      else (varied response).values field := by
  obtain ⟨ho, hm⟩ := asks_iff.mp h
  have hwritten (h : Headers) := insertText_of_names h "access-control-allow-headers"
    fun n => isEntry_of_name (s := requested request) (n := n)
  rw [preflightHeaders, if_neg (by simpa using ho), if_neg (by simpa using hm)]
  simp only [insertText_methods]
  rw [← requested]
  cases hnames : parseHeaderList (requested request) with
  | nil => simp [values_insert, varied]
  | cons n ns =>
    rw [hnames] at hwritten
    simp [hwritten, values_insert, varied]

structure Answered (request response answer : Headers) : Prop where
  vary : answer.values "vary" = response.values "vary" ++
    ["Origin", "Access-Control-Request-Method", "Access-Control-Request-Headers"].map ofText
  granted : Asks request →
    answer.values "access-control-allow-origin" = [ofText "*"] ∧
    answer.values "access-control-allow-methods" =
      [ofText "PUT, PATCH, POST, GET, DELETE, OPTIONS"] ∧
    answer.values "access-control-allow-credentials" = [ofText "true"]
  echoed : Asks request → parseHeaderList (requested request) ≠ [] →
    answer.values "access-control-allow-headers" =
      [ofText (joinNames (parseHeaderList (requested request)))] ∧
    answer.entries "access-control-allow-headers" = parseHeaderList (requested request)
  nameless : Asks request → parseHeaderList (requested request) = [] →
    answer.values "access-control-allow-headers" = response.values "access-control-allow-headers"
  refused : ¬ Asks request → ∀ field ∈ grantFields, answer.values field = response.values field
  others : ∀ field, field ≠ "vary" → field ∉ grantFields →
    answer.values field = response.values field

/-- A preflight adds the three `Vary` values and sets the fields of the policy, all of them when it
can be granted and else none. The names of any list are, but for the case of their letters, what is
kept of its runs, in their order, and they always make a value. -/
theorem preflight_answered (request response : Headers) :
    Answered request response (preflightHeaders request response) ∧
    (∀ s, (parseHeaderList s).map small = (keptRuns s).map small) ∧
    ∀ s, isValue (ofText (joinNames (parseHeaderList s))) = true := by
  refine ⟨?_, small_parseHeaderList, fun s => joinNames_isValue fun n => isEntry_of_name⟩
  have hother {field : String} (hf : field ≠ "vary") :
      (varied response).values field = response.values field := by
    rw [values_varied, if_neg hf, List.append_nil]
  by_cases h : Asks request
  · have hv := values_of_asks h response
    refine ⟨?_, fun _ => ⟨?_, ?_, ?_⟩, fun _ hne => ?_, fun _ hnil => ?_, fun hn => absurd h hn,
      fun field hf hg => ?_⟩
    · simp [hv, values_varied]
    · simp [hv]
    · simp [hv]
    · simp [hv]
    · have hvalue : (preflightHeaders request response).values "access-control-allow-headers" =
          [ofText (joinNames (parseHeaderList (requested request)))] := by
        simp [hv, hne]
      exact ⟨hvalue, entries_of_names hne (fun n => isEntry_of_name) hvalue⟩
    · simp [hv, hnil, hother]
    · simp only [grantFields, List.mem_cons, List.not_mem_nil, or_false, not_or] at hg
      simp [hv, hg, hother hf]
  · rw [preflightHeaders_of_not h]
    refine ⟨by simp [values_varied], fun hy => absurd hy h, fun hy => absurd hy h,
      fun hy => absurd hy h, fun _ field hf => hother ?_, fun field hf _ => hother hf⟩
    rintro rfl
    simp [grantFields] at hf

/-- A run of which nothing is kept gives no name, and a sign that is dropped parts none. -/
example : parseHeaderList "content-type,, x-é-REQUESTED-with a!b, ü".toList =
    ["Content-Type", "X--Requested-With", "Ab"].map String.toList := by decide

end WorkspaceGateway.Cors
