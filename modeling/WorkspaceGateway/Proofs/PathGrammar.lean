import WorkspaceGateway.Proofs.ResolvedPath
import WorkspaceGateway.RequestPath

/-!
# The grammar of request paths

A request path is read exactly as it is written: a plugin part, a workspace part and what remains,
each of which can be told from the text alone. What is read off a path writes that path again,
what is written by admissible parts is read as those parts, and every other text is refused. The
parts may as well be cut out at offsets in octets, which all lie between two characters.
-/

set_option autoImplicit false

namespace WorkspaceGateway

namespace Text

variable {α : Type} [DecidableEq α]

theorem stripLead?_append (lead s : List α) : stripLead? lead (lead ++ s) = some s :=
  stripLead?_eq_some_iff.mpr rfl

theorem stripLead?_eq_none_iff {lead s : List α} : stripLead? lead s = none ↔ ¬ lead <+: s := by
  rw [Option.eq_none_iff_forall_not_mem]
  constructor
  · rintro h ⟨r, rfl⟩
    exact h r (stripLead?_append lead r)
  · rintro h r hr
    exact h ⟨r, (stripLead?_eq_some_iff.mp hr).symm⟩

end Text

namespace RequestPath

/-! ## Names -/

def Rooted (s : List Char) : Prop := s = [] ∨ s.head? = some '/'

theorem name_append_afterName (s : List Char) : name s ++ afterName s = s :=
  List.takeWhile_append_dropWhile

theorem slash_not_mem_name (s : List Char) : '/' ∉ name s := by
  intro h
  simpa using List.all_eq_true.mp (List.all_takeWhile (l := s)) '/' h

theorem afterName_rooted (s : List Char) : Rooted (afterName s) := by
  cases h : afterName s with
  | nil => exact .inl rfl
  | cons c r =>
    have hc := List.head?_dropWhile_not (· ≠ '/') s
    rw [show s.dropWhile (· ≠ '/') = c :: r from h] at hc
    right
    simpa using hc

theorem name_of_written {n r : List Char} (hn : '/' ∉ n) (hr : Rooted r) :
    name (n ++ r) = n ∧ afterName (n ++ r) = r := by
  have hall : ∀ c ∈ n, decide (c ≠ '/') = true := fun c hc =>
    decide_eq_true fun h => hn (h ▸ hc)
  have hstop : r.takeWhile (· ≠ '/') = [] ∧ r.dropWhile (· ≠ '/') = r := by
    rcases hr with rfl | hr
    · exact ⟨rfl, rfl⟩
    · cases r with
      | nil => simp at hr
      | cons c r =>
        obtain rfl : c = '/' := by simpa using hr
        simp
  constructor
  · rw [name, List.takeWhile_append_of_pos hall, hstop.1, List.append_nil]
  · rw [afterName, List.dropWhile_append_of_pos hall, hstop.2]

/-! ## What is written -/

def partText (lead : List Char) (name : Option String) : List Char :=
  match name with
  | none => []
  | some n => lead ++ n.toList

def written (p : RequestPath) : String :=
  String.ofList (partText pluginLead p.plugin ++ partText workspaceLead p.workspace ++
    p.rest.toList)

structure Admissible (p : RequestPath) : Prop where
  plugin_name : ∀ n, p.plugin = some n → '/' ∉ n.toList ∧ Text.isBlankText n.toList = false
  workspace_name : ∀ n, p.workspace = some n → '/' ∉ n.toList ∧ n ≠ ""
  rooted : p.plugin.isSome = true ∨ p.workspace.isSome = true → Rooted p.rest.toList
  followed : p.workspace.isSome = true → p.plugin = none → p.rest ≠ ""
  workspace_lead : workspaceLead <+: p.rest.toList → p.workspace.isSome = true
  plugin_lead : pluginLead <+: p.rest.toList → p.plugin.isSome = true ∨ p.workspace.isSome = true

structure Ended (p : RequestPath) : Prop where
  workspace_name : ∀ n, p.workspace = some n → '/' ∉ n.toList ∧ n ≠ ""
  rooted : p.workspace.isSome = true → Rooted p.rest.toList
  followed : p.workspace.isSome = true → p.plugin = none → p.rest ≠ ""
  workspace_lead : workspaceLead <+: p.rest.toList → p.workspace.isSome = true

variable {p : RequestPath} {plugin : Option String} {s : List Char}

theorem Admissible.ended (h : p.Admissible) : p.Ended :=
  ⟨h.workspace_name, fun hw => h.rooted (.inr hw), h.followed, h.workspace_lead⟩

theorem partText_rooted {r : List Char} (name : Option String) (hr : Rooted r) :
    Rooted (partText workspaceLead name ++ r) := by
  cases name with
  | none => exact hr
  | some n => exact .inr rfl

theorem takeWorkspace_ok_iff : takeWorkspace plugin s = .ok p ↔
    p.plugin = plugin ∧ s = partText workspaceLead p.workspace ++ p.rest.toList ∧ p.Ended := by
  constructor
  · intro h
    unfold takeWorkspace at h
    cases hs : Text.stripLead? workspaceLead s with
    | none =>
      simp only [hs, Except.ok.injEq] at h
      subst h
      refine ⟨rfl, by simp [partText], nofun, nofun, nofun, fun hlead => ?_⟩
      rw [String.toList_ofList] at hlead
      exact absurd hlead (Text.stripLead?_eq_none_iff.mp hs)
    | some t =>
      simp only [hs] at h
      split at h
      · simp at h
      · rename_i hfull
        simp only [Bool.or_eq_true, Bool.and_eq_true, not_or, not_and, List.isEmpty_iff] at hfull
        simp only [Except.ok.injEq] at h
        subst h
        refine ⟨rfl, ?_, ?_, fun _ => ?_, fun _ hp => ?_, fun _ => rfl⟩
        · simp [partText, Text.stripLead?_eq_some_iff.mp hs, name_append_afterName]
        · rintro n hn
          obtain rfl := Option.some.inj hn
          rw [String.toList_ofList]
          exact ⟨slash_not_mem_name t, by simpa using hfull.1⟩
        · rw [String.toList_ofList]
          exact afterName_rooted t
        · simpa [show plugin = none from hp] using hfull.2
  · rintro ⟨rfl, rfl, h⟩
    cases hw : p.workspace with
    | none =>
      have hlead : Text.stripLead? workspaceLead p.rest.toList = none := by
        refine Text.stripLead?_eq_none_iff.mpr fun hlead => ?_
        simpa [hw] using h.workspace_lead hlead
      simp [partText, takeWorkspace, hlead, ← hw]
    | some n =>
      have hsome : p.workspace.isSome = true := by rw [hw]; rfl
      obtain ⟨hslash, hne⟩ := h.workspace_name n hw
      obtain ⟨hname, hafter⟩ := name_of_written hslash (h.rooted hsome)
      have hfollowed : p.plugin.isNone = true → p.rest.toList.isEmpty = false := fun hp => by
        simpa using h.followed hsome (Option.isNone_iff_eq_none.mp hp)
      simp only [partText, List.append_assoc, takeWorkspace, Text.stripLead?_append, hname, hafter]
      rw [if_neg]
      · simp [← hw]
      · simp only [Bool.or_eq_true, Bool.and_eq_true, not_or, not_and, Bool.not_eq_true]
        exact ⟨by simpa using hne, hfollowed⟩

theorem plugin_lead_not_written (name : Option String) {r : List Char}
    (h : pluginLead <+: partText workspaceLead name ++ r) : name = none ∧ pluginLead <+: r := by
  cases name with
  | none => exact ⟨rfl, h⟩
  | some n =>
    obtain ⟨t, ht⟩ := h
    have hplugin : (pluginLead ++ t)[1]? = some 'p' := rfl
    have hworkspace : (partText workspaceLead (some n) ++ r)[1]? = some 'w' := rfl
    rw [ht, hworkspace] at hplugin
    exact absurd hplugin (by decide)

theorem ofChars_ok_iff : ofChars s = .ok p ↔ p.Admissible ∧ s = p.written.toList := by
  rw [written, String.toList_ofList]
  constructor
  · intro h
    unfold ofChars at h
    cases hs : Text.stripLead? pluginLead s with
    | none =>
      simp only [hs] at h
      obtain ⟨hp, hwritten, hended⟩ := takeWorkspace_ok_iff.mp h
      refine ⟨⟨by simp [hp], hended.workspace_name, ?_, hended.followed, hended.workspace_lead,
        fun hlead => ?_⟩, by simpa [hp, partText] using hwritten⟩
      · rintro (hplugin | hworkspace)
        · simp [hp] at hplugin
        · exact hended.rooted hworkspace
      · cases hw : p.workspace with
        | some n => exact .inr rfl
        | none =>
          rw [hw] at hwritten
          exact absurd (show pluginLead <+: s from hwritten ▸ hlead)
            (Text.stripLead?_eq_none_iff.mp hs)
    | some t =>
      simp only [hs] at h
      split at h
      · simp at h
      · rename_i hblank
        obtain ⟨hp, hwritten, hended⟩ := takeWorkspace_ok_iff.mp h
        have hsome : p.plugin.isSome = true := by rw [hp]; rfl
        refine ⟨⟨?_, hended.workspace_name, fun _ => ?_, hended.followed, hended.workspace_lead,
          fun _ => .inl hsome⟩, ?_⟩
        · rintro n hn
          obtain rfl := Option.some.inj (hp.symm.trans hn)
          rw [String.toList_ofList]
          exact ⟨slash_not_mem_name t, by simpa using hblank⟩
        · cases hw : p.workspace with
          | none =>
            have hrest : afterName t = p.rest.toList := by rw [hwritten, hw]; rfl
            exact hrest ▸ afterName_rooted t
          | some n => exact hended.rooted (by rw [hw]; rfl)
        · rw [Text.stripLead?_eq_some_iff.mp hs, hp, partText, String.toList_ofList,
            List.append_assoc, List.append_assoc, ← hwritten, name_append_afterName]
  · rintro ⟨h, rfl⟩
    have hended : p.Ended := h.ended
    cases hp : p.plugin with
    | none =>
      have hlead : Text.stripLead? pluginLead
          (partText workspaceLead p.workspace ++ p.rest.toList) = none := by
        refine Text.stripLead?_eq_none_iff.mpr fun hlead => ?_
        obtain ⟨hw, hrest⟩ := plugin_lead_not_written _ hlead
        simpa [hp, hw] using h.plugin_lead hrest
      rw [partText, List.nil_append, ofChars, hlead]
      exact takeWorkspace_ok_iff.mpr ⟨hp, rfl, hended⟩
    | some n =>
      have hsome : p.plugin.isSome = true := by rw [hp]; rfl
      obtain ⟨hslash, hblank⟩ := h.plugin_name n hp
      obtain ⟨hname, hafter⟩ := name_of_written hslash
        (partText_rooted p.workspace (h.rooted (.inl hsome)))
      rw [partText, List.append_assoc, List.append_assoc, ofChars, Text.stripLead?_append]
      simp only [hname, hafter, hblank, Bool.false_eq_true, if_false, String.ofList_toList]
      exact takeWorkspace_ok_iff.mpr ⟨hp, rfl, hended⟩

theorem parse_ok_iff {path : String} : parse path = .ok p ↔ p.Admissible ∧ path = p.written := by
  rw [parse, ofChars_ok_iff, String.toList_inj]

/-! ## Offsets -/

/-- What follows an offset in octets; none where that is past the end or inside a character. -/
def sliceAt? (s : String) (offset : Nat) : Option String :=
  (s.pos? ⟨offset⟩).map fun p => (s.sliceFrom p).copy

theorem sliceAt_append (a b : String) : sliceAt? (a ++ b) a.utf8ByteSize = some b := by
  have hvalid : (⟨a.utf8ByteSize⟩ : String.Pos.Raw).IsValid (a ++ b) :=
    String.Pos.Raw.isValid_iff_exists_append.mpr ⟨a, b, rfl, rfl⟩
  have hsplits : ((a ++ b).pos _ hvalid).Splits a b := ⟨rfl, rfl⟩
  have hrest := ((a ++ b).pos _ hvalid).splits.eq_right hsplits
  unfold sliceAt? String.pos? String.Slice.pos?
  rw [dif_pos (by simpa using hvalid)]
  simp only [Option.map_some, Option.some.injEq]
  exact hrest

theorem sliceAt_after (lead n r : List Char) :
    sliceAt? (String.ofList (lead ++ n ++ r))
      ((String.ofList lead).utf8ByteSize + (String.ofList n).utf8ByteSize) =
        some (String.ofList r) := by
  rw [← String.utf8ByteSize_append, String.ofList_append, String.ofList_append]
  exact sliceAt_append _ _

def segment (s : String) (n : Nat) : List Char := (Text.splitAt '/' s.toList)[n]?.getD []

/-- The workspace part, told by the number of segments and cut out at an offset; none where the
offset cuts nothing out. -/
def sliceWorkspace? (plugin : Option String) (s : String) :
    Option (Except PathError RequestPath) :=
  let fewest := if plugin.isSome then 3 else 4
  if workspaceLead.isPrefixOf s.toList then
    let n := String.ofList (segment s 2)
    if (Text.splitAt '/' s.toList).length < fewest || n.isEmpty then
      some (.error (.tooFewSegments s plugin.isSome))
    else
      (sliceAt? s ((String.ofList workspaceLead).utf8ByteSize + n.utf8ByteSize)).map fun rest =>
        .ok ⟨plugin, some n, rest⟩
  else some (.ok ⟨plugin, none, s⟩)

def slice? (path : String) : Option (Except PathError RequestPath) :=
  if pluginLead.isPrefixOf path.toList then
    let n := String.ofList (segment path 2)
    if Text.isBlankText n.toList then some (.error (.blankPlugin path))
    else
      (sliceAt? path ((String.ofList pluginLead).utf8ByteSize + n.utf8ByteSize)).bind fun rest =>
        sliceWorkspace? (some n) rest
  else sliceWorkspace? none path

theorem isPrefixOf_of_none {lead s : List Char} (h : Text.stripLead? lead s = none) :
    lead.isPrefixOf s = false := by
  rw [Bool.eq_false_iff, ne_eq, List.isPrefixOf_iff_prefix]
  exact Text.stripLead?_eq_none_iff.mp h

theorem splitAt_name (s : List Char) : ∃ more, Text.splitAt '/' s = name s :: more ∧
    (more = [] ↔ afterName s = []) := by
  have hname : Text.splitAt '/' (name s) = [name s] :=
    Text.splitAt_of_not_mem (slash_not_mem_name s)
  have hs := name_append_afterName s
  rcases afterName_rooted s with hr | hr
  · rw [hr, List.append_nil] at hs
    rw [hs] at hname
    exact ⟨[], by rw [hs, hname], by simp [hr]⟩
  · obtain ⟨r, hr⟩ := List.head?_eq_some_iff.mp hr
    refine ⟨Text.splitAt '/' r, ?_, by simp [hr, Text.splitAt_ne_nil]⟩
    rw [← List.singleton_append, ← hname, ← Text.splitAt_append_sep, ← hr, hs]

structure Led (lead t : List Char) (s : String) : Prop where
  lead_eq : ∃ w, lead = '/' :: (w ++ ['/']) ∧ '/' ∉ w
  path_eq : s.toList = lead ++ t

namespace Led

variable {lead t : List Char} {path : String}

theorem isPrefixOf (h : Led lead t path) : lead.isPrefixOf path.toList = true :=
  List.isPrefixOf_iff_prefix.mpr ⟨t, h.path_eq.symm⟩

theorem segments (h : Led lead t path) :
    ∃ w, Text.splitAt '/' path.toList = [] :: w :: Text.splitAt '/' t := by
  obtain ⟨w, rfl, hw⟩ := h.lead_eq
  refine ⟨w, ?_⟩
  rw [h.path_eq, List.cons_append, List.append_assoc, Text.splitAt_cons_self,
    List.singleton_append, Text.splitAt_append_sep, Text.splitAt_of_not_mem hw]
  rfl

theorem segment_eq (h : Led lead t path) : segment path 2 = name t := by
  obtain ⟨w, hw⟩ := h.segments
  obtain ⟨more, hmore, -⟩ := splitAt_name t
  rw [segment, hw, hmore]
  rfl

theorem length_lt_iff (h : Led lead t path) (plugin : Option String) :
    (Text.splitAt '/' path.toList).length < (if plugin.isSome then 3 else 4) ↔
      plugin.isNone = true ∧ afterName t = [] := by
  obtain ⟨w, hw⟩ := h.segments
  obtain ⟨more, hmore, hempty⟩ := splitAt_name t
  rw [hw, hmore, ← hempty]
  cases plugin with
  | none => cases more <;> simp
  | some n => simp

theorem sliceAt_eq (h : Led lead t path) :
    sliceAt? path ((String.ofList lead).utf8ByteSize + (String.ofList (name t)).utf8ByteSize) =
      some (String.ofList (afterName t)) := by
  have hall : path = String.ofList (lead ++ name t ++ afterName t) := by
    rw [List.append_assoc, name_append_afterName, ← h.path_eq, String.ofList_toList]
  rw [hall]
  exact sliceAt_after lead (name t) (afterName t)

end Led

theorem led_plugin {t : List Char} {path : String}
    (h : Text.stripLead? pluginLead path.toList = some t) : Led pluginLead t path :=
  ⟨⟨"plugins".toList, by decide, by decide⟩, Text.stripLead?_eq_some_iff.mp h⟩

theorem led_workspace {t : List Char} {path : String}
    (h : Text.stripLead? workspaceLead path.toList = some t) : Led workspaceLead t path :=
  ⟨⟨"workspaces".toList, by decide, by decide⟩, Text.stripLead?_eq_some_iff.mp h⟩

theorem sliceWorkspace_eq (plugin : Option String) (path : String) :
    sliceWorkspace? plugin path = some (takeWorkspace plugin path.toList) := by
  unfold sliceWorkspace? takeWorkspace
  cases hs : Text.stripLead? workspaceLead path.toList with
  | none => simp [isPrefixOf_of_none hs]
  | some t =>
    have hled := led_workspace hs
    have hfew : (decide ((Text.splitAt '/' path.toList).length < if plugin.isSome then 3 else 4) ||
        (String.ofList (name t)).isEmpty) =
          ((name t).isEmpty || (plugin.isNone && (afterName t).isEmpty)) := by
      rw [Bool.eq_iff_iff, Bool.or_eq_true, decide_eq_true_eq, hled.length_lt_iff]
      simp [or_comm]
    simp only [hled.isPrefixOf, if_true, hled.segment_eq, hled.sliceAt_eq, Option.map_some, hfew,
      String.ofList_toList]
    split <;> rfl

theorem slice_eq_parse (path : String) : slice? path = some (parse path) := by
  unfold slice? parse ofChars
  cases hs : Text.stripLead? pluginLead path.toList with
  | none => simp [isPrefixOf_of_none hs, sliceWorkspace_eq]
  | some t =>
    have hled := led_plugin hs
    simp only [hled.isPrefixOf, if_true, hled.segment_eq, hled.sliceAt_eq, String.toList_ofList,
      Option.bind_some, sliceWorkspace_eq, String.ofList_toList]
    split <;> rfl

/-! ## Exact -/

/-- The grammar is exact and loses nothing. A path is read as some parts exactly when these are
admissible and written it is; a path that no admissible parts write is refused as malformed, and
only such a path; and to cut the parts out at offsets in octets never fails and comes to the
same. -/
theorem path_grammar_exact (path : String) :
    (∀ p, parse path = .ok p ↔ p.Admissible ∧ path = p.written) ∧
    ((¬ ∃ p : RequestPath, p.Admissible ∧ path = p.written) ↔
      ∃ e, parse path = .error e ∧ e.fault.kind = .badRequest) ∧
    slice? path = some (parse path) := by
  refine ⟨fun p => parse_ok_iff, ?_, slice_eq_parse path⟩
  simp only [← parse_ok_iff]
  cases parse path with
  | ok p => simp
  | error e => exact ⟨fun _ => ⟨e, rfl, rfl⟩, fun _ => nofun⟩

end RequestPath

end WorkspaceGateway
