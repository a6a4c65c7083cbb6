import Mathlib
import WorkspaceGateway.Proofs.PreflightAnswers

/-!
# Canonical names

A name is canonical when a letter is capital at its start and after a hyphen or an underscore and
small everywhere else. The pass over a list makes a letter capital by the sign that it read last,
also when that sign was dropped and stands in no name. So a dropped sign hides the place of a
capital from a letter behind it, and nothing else does. Names that are read back from their own
text have no such sign between them, and so reading back is what makes every name canonical.
-/

set_option autoImplicit false

namespace WorkspaceGateway.Cors

variable {P Q : List Char → Char → Prop} {s n m : List Char} {names : List (List Char)} {c d : Char}

/-! ## Letters at their places -/

def HasLetter (P : List Char → Char → Prop) (s : List Char) : Prop :=
  ∃ before c after, s = before ++ c :: after ∧ c.isAlpha = true ∧ P before c

theorem not_hasLetter_nil : ¬ HasLetter P [] := by simp [HasLetter]

theorem hasLetter_cons : HasLetter P (c :: s) ↔
    (c.isAlpha = true ∧ P [] c) ∨ HasLetter (fun before => P (c :: before)) s := by
  constructor
  · rintro ⟨before, d, after, hs, hd⟩
    cases before with
    | nil =>
      obtain ⟨rfl, -⟩ := List.cons.inj hs
      exact .inl hd
    | cons e before =>
      obtain ⟨rfl, rfl⟩ := List.cons.inj hs
      exact .inr ⟨before, d, after, rfl, hd⟩
  · rintro (hc | ⟨before, d, after, rfl, hd⟩)
    · exact ⟨[], c, s, rfl, hc⟩
    · exact ⟨c :: before, d, after, rfl, hd⟩

theorem hasLetter_concat : HasLetter P (s ++ [c]) ↔
    HasLetter P s ∨ (c.isAlpha = true ∧ P s c) := by
  induction s generalizing P with
  | nil => simp [hasLetter_cons, not_hasLetter_nil]
  | cons d s ih => rw [List.cons_append, hasLetter_cons, hasLetter_cons, ih, or_assoc]

theorem hasLetter_congr (h : ∀ before c, c.isAlpha = true → (P before c ↔ Q before c)) :
    HasLetter P s ↔ HasLetter Q s := by
  constructor
  · rintro ⟨before, c, after, hs, hc, hP⟩
    exact ⟨before, c, after, hs, hc, (h before c hc).mp hP⟩
  · rintro ⟨before, c, after, hs, hc, hQ⟩
    exact ⟨before, c, after, hs, hc, (h before c hc).mpr hQ⟩

/-! ## Characters -/

def isHyphen (c : Char) : Bool := c = '-' || c = '_'

def isDropped (c : Char) : Bool := !isKept c && !isSeparator c

theorem isDropped_iff : isDropped c = true ↔ isKept c = false ∧ isSeparator c = false := by
  simp [isDropped]

theorem not_dropped_of_kept (h : isKept c = true) : isDropped c = false := by
  simp [isDropped, h]

theorem not_dropped_of_separator (h : isSeparator c = true) : isDropped c = false := by
  simp [isDropped, h]

theorem not_kept_of_separator (h : isSeparator c = true) : isKept c = false := by
  simp only [isSeparator, Bool.or_eq_true, decide_eq_true_eq] at h
  rcases h with rfl | rfl <;> decide

theorem not_alpha_of_not_kept (h : isKept c = false) : c.isAlpha = false := by
  simp only [isKept, Bool.or_eq_false_iff] at h
  exact h.1

theorem not_separator_of_kept (h : isKept c = true) : isSeparator c = false := by
  by_contra hs
  rw [not_kept_of_separator (by simpa using hs)] at h
  contradiction

theorem kept_of_hyphen (h : isHyphen c = true) : isKept c = true := by
  simp only [isHyphen, Bool.or_eq_true, decide_eq_true_eq] at h
  rcases h with rfl | rfl <;> decide

theorem not_hyphen_of_not_kept (h : isKept c = false) : isHyphen c = false := by
  by_contra hh
  rw [kept_of_hyphen (by simpa using hh)] at h
  contradiction

theorem separator_or_kept_or_dropped (c : Char) :
    isSeparator c = true ∨ isKept c = true ∨ isDropped c = true := by
  cases hs : isSeparator c with
  | true => exact .inl rfl
  | false =>
    cases hk : isKept c with
    | true => exact .inr (.inl rfl)
    | false => exact .inr (.inr (isDropped_iff.mpr ⟨hk, hs⟩))

def inCase (upper : Bool) (c : Char) : Char := if upper then c.toUpper else c.toLower

theorem isAlpha_inCase (upper : Bool) (c : Char) : (inCase upper c).isAlpha = c.isAlpha := by
  cases upper <;> simp [inCase]

theorem isUpper_inCase (upper : Bool) (h : c.isAlpha = true) :
    (inCase upper c).isUpper = upper := by
  cases upper <;> simp [inCase, h]

theorem inCase_of_not_alpha (upper : Bool) (h : c.isAlpha = false) : inCase upper c = c := by
  simp only [Char.isAlpha, Bool.or_eq_false_iff] at h
  cases upper with
  | true => exact Char.toUpper_eq_of_not_isLower (by simp [h.2])
  | false => exact Char.toLower_eq_of_not_isUpper (by simp [h.1])

theorem inCase_toLower (c : Char) : inCase c.isUpper c.toLower = c := by
  cases h : c.isUpper with
  | true => simp [inCase, Char.toUpper_eq_of_not_isLower (Char.not_isLower_of_isUpper h)]
  | false =>
    have hnot : ¬ c.isUpper = true := by simp [h]
    simp [inCase, Char.toLower_eq_of_not_isUpper hnot]

theorem eq_of_toLower (hsmall : c.toLower = d.toLower)
    (hcase : c.isAlpha = true → d.isAlpha = true → c.isUpper = d.isUpper) : c = d := by
  have halpha : c.isAlpha = d.isAlpha := by
    rw [← Char.isAlpha_toLower_eq_isAlpha c, hsmall, Char.isAlpha_toLower_eq_isAlpha]
  have hupper : c.isUpper = d.isUpper := by
    cases hc : c.isAlpha with
    | true => exact hcase hc (halpha ▸ hc)
    | false =>
      have hd := halpha ▸ hc
      simp only [Char.isAlpha, Bool.or_eq_false_iff] at hc hd
      rw [hc.1, hd.1]
  rw [← inCase_toLower c, hupper, hsmall, inCase_toLower]

theorem not_hyphen_of_alpha (h : c.isAlpha = true) : isHyphen c = false := by
  by_contra hh
  simp only [isHyphen, Bool.not_eq_false, Bool.or_eq_true, decide_eq_true_eq] at hh
  rcases hh with rfl | rfl <;> exact absurd h (by decide)

theorem isHyphen_inCase (upper : Bool) (c : Char) : isHyphen (inCase upper c) = isHyphen c := by
  cases h : c.isAlpha with
  | false => rw [inCase_of_not_alpha upper h]
  | true => rw [not_hyphen_of_alpha h, not_hyphen_of_alpha (isAlpha_inCase upper c ▸ h)]

theorem nameChar_kept (upper : Bool) (h : isKept c = true) :
    nameChar upper c = [inCase upper c] := by
  cases ha : c.isAlpha with
  | true => simp [nameChar, ha, inCase]
  | false =>
    have hsign : isKeptSign c = true := by simpa [isKept, ha] using h
    simp [nameChar, ha, hsign, inCase_of_not_alpha upper ha]

theorem nameChar_not_kept (upper : Bool) (h : isKept c = false) : nameChar upper c = [] := by
  simp only [isKept, Bool.or_eq_false_iff] at h
  simp [nameChar, h.1, h.2]

/-! ## The pass over a list -/

/-- What the pass knows between two characters: whether a letter would be capital, and the name
that it has begun. -/
structure Scan where
  upper : Bool
  name : List Char

namespace Scan

variable (st : Scan)

def next (c : Char) : Scan :=
  if isSeparator c then if st.name.isEmpty then st else ⟨true, []⟩
  else ⟨isHyphen c, st.name ++ nameChar st.upper c⟩

def run (s : List Char) : Scan := s.foldl next st

theorem next_separator (h : isSeparator c = true) :
    st.next c = if st.name.isEmpty then st else ⟨true, []⟩ := by
  rw [next, if_pos h]

theorem next_kept (h : isKept c = true) :
    st.next c = ⟨isHyphen c, st.name ++ [inCase st.upper c]⟩ := by
  rw [next, if_neg (by simp [not_separator_of_kept h]), nameChar_kept st.upper h]

theorem next_dropped (h : isDropped c = true) : st.next c = ⟨false, st.name⟩ := by
  obtain ⟨hk, hs⟩ := isDropped_iff.mp h
  rw [next, if_neg (by simp [hs]), nameChar_not_kept st.upper hk, not_hyphen_of_not_kept hk,
    List.append_nil]

theorem name_next_separator (h : isSeparator c = true) : (st.next c).name = [] := by
  rw [next_separator st h]
  split
  · rename_i hname
    exact List.isEmpty_iff.mp hname
  · rfl

theorem headerNames_cons (c : Char) (s : List Char) :
    headerNames st.upper st.name (c :: s) =
      (if isSeparator c && !st.name.isEmpty then [st.name] else []) ++
        headerNames (st.next c).upper (st.next c).name s := by
  rw [headerNames]
  by_cases h : isSeparator c = true
  · rw [nameChar_separator st.upper h, List.append_nil, if_pos h, next_separator st h, h]
    by_cases hname : st.name.isEmpty = true
    · simp [List.isEmpty_iff.mp hname]
    · simp [hname]
  · simp [next, h, isHyphen]

theorem hasLetter_next (c : Char) :
    ((∃ n ∈ (if isSeparator c && !st.name.isEmpty then [st.name] else []), HasLetter P n) ∨
        HasLetter P (st.next c).name) ↔
      HasLetter P st.name ∨ (c.isAlpha = true ∧ P st.name (inCase st.upper c)) := by
  rcases separator_or_kept_or_dropped c with h | h | h
  · have hletter := not_alpha_of_not_kept (not_kept_of_separator h)
    rw [name_next_separator st h]
    cases hname : st.name with
    | nil => simp [not_hasLetter_nil, hletter]
    | cons e es => simp [not_hasLetter_nil, hletter, h]
  · rw [next_kept st h, hasLetter_concat, isAlpha_inCase, not_separator_of_kept h]
    simp
  · obtain ⟨hk, hs⟩ := isDropped_iff.mp h
    rw [next_dropped st h, hs]
    simp [not_alpha_of_not_kept hk]

/-- The letters of the names are the letters of the list, each behind what the pass had of its
name and in the case that the pass had come to. -/
theorem hasLetter_headerNames : (∃ n ∈ headerNames st.upper st.name s, HasLetter P n) ↔
    HasLetter P st.name ∨
      HasLetter (fun before c => P (st.run before).name (inCase (st.run before).upper c)) s := by
  induction s generalizing st with
  | nil =>
    cases hname : st.name with
    | nil => simp [headerNames, not_hasLetter_nil]
    | cons e es => simp [headerNames, not_hasLetter_nil]
  | cons c s ih =>
    rw [headerNames_cons, hasLetter_cons]
    simp only [List.mem_append, or_and_right, exists_or]
    rw [ih (st.next c), ← or_assoc, hasLetter_next, or_assoc]
    rfl

end Scan

def scan (s : List Char) : Scan := Scan.run ⟨true, []⟩ s

theorem scan_concat (s : List Char) (c : Char) : scan (s ++ [c]) = (scan s).next c := by
  simp [scan, Scan.run]

theorem hasLetter_names : (∃ n ∈ parseHeaderList s, HasLetter P n) ↔
    HasLetter (fun before c => P (scan before).name (inCase (scan before).upper c)) s := by
  rw [parseHeaderList, Scan.hasLetter_headerNames ⟨true, []⟩, or_iff_right not_hasLetter_nil]
  rfl

/-! ## Where a capital is due -/

def capitalDue (name : List Char) : Bool := name.getLast?.all isHyphen

/-- The letters that are capital are those at the start and behind a hyphen or an underscore. -/
def IsCanonical (n : List Char) : Prop :=
  ∀ before c after, n = before ++ c :: after → c.isAlpha = true → c.isUpper = capitalDue before

theorem isCanonical_iff :
    IsCanonical n ↔ ¬ HasLetter (fun before c => c.isUpper ≠ capitalDue before) n := by
  simp [IsCanonical, HasLetter]

theorem isCanonical_concat : IsCanonical (n ++ [c]) ↔
    IsCanonical n ∧ (c.isAlpha = true → c.isUpper = capitalDue n) := by
  rw [isCanonical_iff, hasLetter_concat, isCanonical_iff, not_or]
  simp

def StartsCapital (n : List Char) : Prop := ∀ c after, n = c :: after → c.isAlpha = true →
  c.isUpper = true

theorem startsCapital_iff :
    StartsCapital n ↔ ¬ HasLetter (fun before c => before = [] ∧ c.isUpper = false) n := by
  simp [StartsCapital, HasLetter]

theorem capitalDue_of_upper (h : (scan s).upper = true) : capitalDue (scan s).name = true := by
  induction s using List.reverseRecOn with
  | nil => rfl
  | append_singleton s c ih =>
    rw [scan_concat] at h ⊢
    rcases separator_or_kept_or_dropped c with hc | hc | hc
    · rw [Scan.name_next_separator _ hc]
      rfl
    · rw [Scan.next_kept _ hc] at h ⊢
      simpa [capitalDue, isHyphen_inCase] using h
    · rw [Scan.next_dropped _ hc] at h
      contradiction

/-! ## Hidden capitals -/

def beginsName (before : List Char) : Bool := before.getLast?.all isSeparator

def endsInHyphen (before : List Char) : Bool := before.getLast?.any isHyphen

/-- At such a place a sign was dropped, and only characters that leave the place open were read
behind it. -/
def Hides (place : List Char → Bool) (leavesOpen : Char → Bool) (before : List Char) : Prop :=
  ∃ first sign between, before = first ++ sign :: between ∧ place first = true ∧
    isDropped sign = true ∧ ∀ c ∈ between, leavesOpen c = true

def HidesStart : List Char → Prop := Hides beginsName fun c => !isKept c

def HidesJoint : List Char → Prop := Hides endsInHyphen isDropped

section Hides

variable {place : List Char → Bool} {leavesOpen : Char → Bool}

theorem not_hides_nil : ¬ Hides place leavesOpen [] := by simp [Hides]

theorem hides_concat : Hides place leavesOpen (s ++ [c]) ↔
    (leavesOpen c = true ∧ Hides place leavesOpen s) ∨ (isDropped c = true ∧ place s = true) := by
  constructor
  · rintro ⟨first, sign, between, hs, hfirst, hsign, hbetween⟩
    rcases List.eq_nil_or_concat' between with rfl | ⟨between, d, rfl⟩
    · obtain ⟨rfl, hc⟩ := List.append_inj' hs rfl
      obtain rfl := List.singleton_inj.mp hc
      exact .inr ⟨hsign, hfirst⟩
    · rw [← List.cons_append, ← List.append_assoc] at hs
      obtain ⟨rfl, hc⟩ := List.append_inj' hs rfl
      obtain rfl := List.singleton_inj.mp hc
      exact .inl ⟨hbetween c (by simp), first, sign, between, rfl, hfirst, hsign,
        fun d hd => hbetween d (List.mem_append_left [c] hd)⟩
  · rintro (⟨hc, first, sign, between, rfl, hfirst, hsign, hbetween⟩ | ⟨hsign, hs⟩)
    · refine ⟨first, sign, between ++ [c], by simp, hfirst, hsign, fun d hd => ?_⟩
      rcases List.mem_append.mp hd with hd | hd
      · exact hbetween d hd
      · exact List.mem_singleton.mp hd ▸ hc
    · exact ⟨s, c, [], rfl, hs, hsign, by simp⟩

theorem dropped_of_hides (h : Hides place leavesOpen s) : ∃ sign ∈ s, isDropped sign = true := by
  obtain ⟨first, sign, between, rfl, -, hsign, -⟩ := h
  exact ⟨sign, by simp, hsign⟩

end Hides

theorem hidesStart_concat : HidesStart (s ++ [c]) ↔
    (isKept c = false ∧ HidesStart s) ∨ (isDropped c = true ∧ beginsName s = true) := by
  simp [HidesStart, hides_concat]

theorem hidesJoint_concat : HidesJoint (s ++ [c]) ↔
    isDropped c = true ∧ (HidesJoint s ∨ endsInHyphen s = true) := by
  rw [HidesJoint, hides_concat, ← and_or_left]

theorem scan_name_nil_iff : (scan s).name = [] ↔ beginsName s = true ∨ HidesStart s := by
  induction s using List.reverseRecOn with
  | nil => simp [scan, Scan.run, beginsName]
  | append_singleton s c ih =>
    rw [scan_concat, hidesStart_concat]
    rcases separator_or_kept_or_dropped c with h | h | h
    · simp [Scan.name_next_separator _ h, beginsName, h]
    · simp [Scan.next_kept _ h, beginsName, not_separator_of_kept h, not_dropped_of_kept h, h]
    · obtain ⟨hk, hs⟩ := isDropped_iff.mp h
      simp [Scan.next_dropped _ h, beginsName, hk, hs, h, ih, or_comm]

theorem start_missed_iff :
    (scan s).name = [] ∧ (scan s).upper = false ↔ HidesStart s := by
  induction s using List.reverseRecOn with
  | nil => simp [scan, Scan.run, HidesStart, not_hides_nil]
  | append_singleton s c ih =>
    rw [scan_concat, hidesStart_concat]
    rcases separator_or_kept_or_dropped c with h | h | h
    · -- A separator that ends no name leaves the case of the next letter as it was.
      rw [← ih, Scan.next_separator _ h]
      by_cases hname : (scan s).name = []
      · simp [hname, not_kept_of_separator h, not_dropped_of_separator h]
      · simp [hname, not_dropped_of_separator h]
    · simp [Scan.next_kept _ h, not_dropped_of_kept h, h]
    · simp [Scan.next_dropped _ h, (isDropped_iff.mp h).1, h, scan_name_nil_iff, or_comm]

theorem scan_name_hyphen_iff :
    endsInHyphen (scan s).name = true ↔ endsInHyphen s = true ∨ HidesJoint s := by
  induction s using List.reverseRecOn with
  | nil => simp [scan, Scan.run, endsInHyphen, HidesJoint, not_hides_nil]
  | append_singleton s c ih =>
    rw [scan_concat, hidesJoint_concat]
    rcases separator_or_kept_or_dropped c with h | h | h
    · have hhyphen := not_hyphen_of_not_kept (not_kept_of_separator h)
      simp [Scan.name_next_separator _ h, endsInHyphen, hhyphen, not_dropped_of_separator h]
    · simp [Scan.next_kept _ h, endsInHyphen, isHyphen_inCase, not_dropped_of_kept h]
    · have hhyphen : endsInHyphen (s ++ [c]) = false := by
        simp [endsInHyphen, not_hyphen_of_not_kept (isDropped_iff.mp h).1]
      simp [Scan.next_dropped _ h, ih, h, hhyphen, or_comm]

theorem joint_missed_iff :
    endsInHyphen (scan s).name = true ∧ (scan s).upper = false ↔ HidesJoint s := by
  rcases List.eq_nil_or_concat' s with rfl | ⟨s, c, rfl⟩
  · simp [scan, Scan.run, endsInHyphen, HidesJoint, not_hides_nil]
  · rw [scan_concat, hidesJoint_concat]
    rcases separator_or_kept_or_dropped c with h | h | h
    · simp [Scan.name_next_separator _ h, endsInHyphen, not_dropped_of_separator h]
    · simp [Scan.next_kept _ h, endsInHyphen, isHyphen_inCase, not_dropped_of_kept h]
    · simp [Scan.next_dropped _ h, h, scan_name_hyphen_iff, or_comm]

theorem capitalDue_iff : capitalDue n = true ↔ n = [] ∨ endsInHyphen n = true := by
  rcases List.eq_nil_or_concat' n with rfl | ⟨n, c, rfl⟩
  · simp [capitalDue]
  · simp [capitalDue, endsInHyphen]

def HidesInitial (s : List Char) : Prop := HasLetter (fun before _ => HidesStart before) s

/-- A letter of the list begins a name, or follows a hyphen or an underscore in one, behind signs
that hide this. -/
def HidesCapital (s : List Char) : Prop :=
  HasLetter (fun before _ => HidesStart before ∨ HidesJoint before) s

theorem initials_iff : (∀ n ∈ parseHeaderList s, StartsCapital n) ↔ ¬ HidesInitial s := by
  have hplace : (∃ n ∈ parseHeaderList s,
      HasLetter (fun before c => before = [] ∧ c.isUpper = false) n) ↔ HidesInitial s := by
    rw [hasLetter_names]
    refine hasLetter_congr fun before c hc => ?_
    rw [isUpper_inCase _ hc, start_missed_iff]
  rw [← hplace]
  simp only [startsCapital_iff, not_exists, not_and]

/-- The names are canonical exactly when no capital is hidden. -/
theorem canonical_iff : (∀ n ∈ parseHeaderList s, IsCanonical n) ↔ ¬ HidesCapital s := by
  have hplace : (∃ n ∈ parseHeaderList s,
      HasLetter (fun before c => c.isUpper ≠ capitalDue before) n) ↔ HidesCapital s := by
    rw [hasLetter_names]
    refine hasLetter_congr fun before c hc => ?_
    rw [isUpper_inCase _ hc, ← start_missed_iff, ← joint_missed_iff, ← or_and_right,
      ← capitalDue_iff]
    cases hupper : (scan before).upper with
    | true => simp [capitalDue_of_upper hupper]
    | false => simp
  rw [← hplace]
  simp only [isCanonical_iff, not_exists, not_and]

/-- A sign hides what is due also when it stands in an earlier run, of which nothing was kept. -/
example : parseHeaderList "! a, x-!b".toList = ["a", "X-b"].map String.toList := by decide

theorem not_hidesCapital_of_none_dropped (h : ∀ c ∈ s, isDropped c = false) : ¬ HidesCapital s := by
  rintro ⟨before, c, after, rfl, -, hhides⟩
  obtain ⟨sign, hmem, hsign⟩ := hhides.elim dropped_of_hides dropped_of_hides
  rw [h sign (List.mem_append_left (c :: after) hmem)] at hsign
  contradiction

/-! ## Reading names back -/

def readBack (names : List (List Char)) : List (List Char) :=
  parseHeaderList (joinNames names).toList

structure IsName (n : List Char) : Prop where
  nonempty : n ≠ []
  kept : ∀ c ∈ n, isKept c = true

theorem isName_of_mem (hn : n ∈ parseHeaderList s) : IsName n :=
  ⟨(kept_of_name hn).1, (kept_of_name hn).2⟩

theorem splitOnP_joined (hn : ∀ c ∈ n, isSeparator c = false) (m : List Char)
    (ms : List (List Char)) :
    (Text.joinWith [',', ' '] (n :: m :: ms)).splitOnP isSeparator =
      n :: [] :: (Text.joinWith [',', ' '] (m :: ms)).splitOnP isSeparator := by
  rw [Text.joinWith, List.append_assoc, List.cons_append, List.singleton_append,
    List.splitOnP_append_cons_of_forall_mem hn _ (by decide),
    List.splitOnP_cons_eq_if_modifyHead, if_pos (by decide)]

theorem keptRuns_joined (hn : ∀ n ∈ names, IsName n) :
    keptRuns (Text.joinWith [',', ' '] names) = names := by
  rw [keptRuns_eq]
  induction names with
  | nil => rfl
  | cons n ns ih =>
    have hname := hn n List.mem_cons_self
    have hfree : ∀ c ∈ n, isSeparator c = false := fun c hc =>
      not_separator_of_kept (hname.kept c hc)
    have hself : n.filter isKept = n := List.filter_eq_self.mpr hname.kept
    cases ns with
    | nil =>
      rw [Text.joinWith, List.splitOnP_eq_singleton hfree]
      simp [hself, hname.nonempty]
    | cons m ms =>
      have hrest := ih fun k hk => hn k (List.mem_cons_of_mem n hk)
      rw [splitOnP_joined hfree, List.map_cons, List.map_cons, hself, List.filter_nil,
        List.filter_cons_of_pos (by simpa using hname.nonempty),
        List.filter_cons_of_neg (by simp), hrest]

theorem small_readBack (hn : ∀ n ∈ names, IsName n) :
    (readBack names).map small = names.map small := by
  rw [readBack, joinNames, String.toList_ofList, small_parseHeaderList, keptRuns_joined hn]

theorem canonical_readBack (hn : ∀ n ∈ names, IsName n) : ∀ n ∈ readBack names, IsCanonical n := by
  refine canonical_iff.mpr (not_hidesCapital_of_none_dropped fun c hc => ?_)
  rw [joinNames, String.toList_ofList] at hc
  rcases mem_joinWith_spaced hc with h | ⟨n, hmem, hc⟩
  · simp [isDropped, h]
  · simp [isDropped, (hn n hmem).kept c hc]

theorem canonical_unique (hn : IsCanonical n) (hm : IsCanonical m) (h : small n = small m) :
    n = m := by
  induction n using List.reverseRecOn generalizing m with
  | nil => exact (small_eq_nil_iff.mp h.symm).symm
  | append_singleton n c ih =>
    rcases List.eq_nil_or_concat' m with rfl | ⟨m, d, rfl⟩
    · simp [small] at h
    · rw [small_append, small_append] at h
      obtain ⟨hnm, hcd⟩ := List.append_inj' h rfl
      obtain ⟨hn, hc⟩ := isCanonical_concat.mp hn
      obtain ⟨hm, hd⟩ := isCanonical_concat.mp hm
      obtain rfl := ih hn hm hnm
      rw [eq_of_toLower (List.singleton_inj.mp hcd) fun ha hb => (hc ha).trans (hd hb).symm]

theorem canonical_names_unique {others : List (List Char)} (hn : ∀ n ∈ names, IsCanonical n)
    (ho : ∀ n ∈ others, IsCanonical n) (h : names.map small = others.map small) :
    names = others := by
  induction names generalizing others with
  | nil => exact (List.map_eq_nil_iff.mp h.symm).symm
  | cons n ns ih =>
    cases others with
    | nil => simp at h
    | cons m ms =>
      rw [List.forall_mem_cons] at hn ho
      obtain ⟨hnm, hrest⟩ := List.cons.inj h
      rw [canonical_unique hn.1 ho.1 hnm, ih hn.2 ho.2 hrest]

theorem readBack_eq_iff (hn : ∀ n ∈ names, IsName n) :
    readBack names = names ↔ ∀ n ∈ names, IsCanonical n := by
  constructor
  · intro h
    exact h ▸ canonical_readBack hn
  · intro h
    exact canonical_names_unique (canonical_readBack hn) h (small_readBack hn)

theorem startsCapital_of_canonical (h : IsCanonical n) : StartsCapital n := by
  intro c after hn hc
  rw [h [] c after hn hc]
  rfl

/-- Reading the names of a list back changes nothing and the names start capital exactly when the
list hides no capital; the second holds by itself when it hides no initial. Names that were read
back once are canonical, whatever the list hides, and reading them back again changes nothing. -/
theorem normalized_iff (s : List Char) :
    (readBack (parseHeaderList s) = parseHeaderList s ∧
        (∀ n ∈ parseHeaderList s, StartsCapital n) ↔ ¬ HidesCapital s) ∧
      ((∀ n ∈ parseHeaderList s, StartsCapital n) ↔ ¬ HidesInitial s) ∧
      (∀ n ∈ readBack (parseHeaderList s), IsCanonical n) ∧
      readBack (readBack (parseHeaderList s)) = readBack (parseHeaderList s) := by
  have hnames : ∀ n ∈ parseHeaderList s, IsName n := fun n => isName_of_mem
  have hcanonical := canonical_readBack hnames
  refine ⟨?_, initials_iff, hcanonical, (readBack_eq_iff fun n => isName_of_mem).mpr hcanonical⟩
  rw [readBack_eq_iff hnames, ← canonical_iff]
  exact ⟨fun h => h.1, fun h => ⟨h, fun n hn => startsCapital_of_canonical (h n hn)⟩⟩

/-- The sign that is dropped from the front of a name hides its initial. -/
theorem initial_hidden : parseHeaderList "!a".toList = [['a']] ∧
    readBack (parseHeaderList "!a".toList) = [['A']] ∧
    ¬ ∀ n ∈ parseHeaderList "!a".toList, StartsCapital n := by
  have hname : parseHeaderList "!a".toList = [['a']] := by decide
  refine ⟨hname, by decide, fun h => ?_⟩
  exact absurd (h ['a'] (hname ▸ List.mem_singleton_self ['a']) 'a' [] rfl (by decide)) (by decide)

end WorkspaceGateway.Cors
