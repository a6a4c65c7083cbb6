import WorkspaceGateway.Proofs.DirectedFields
import WorkspaceGateway.Proofs.SameFields
import WorkspaceGateway.Proofs.SubprotocolEntries

/-!
# The caller's credential

What is sent on does not depend on the token that a caller presented. In the authorization field
it is overwritten or taken out; among the sub-protocols its entry is replaced as a whole, wherever
it stands and whatever stands around it.
-/

set_option autoImplicit false

namespace WorkspaceGateway

namespace Text

theorem trimLeft_plain_append {m y : List Char} (hne : m ≠ [])
    (h : ∀ c ∈ m, isBlank c = false) : trimLeft (m ++ y) = m ++ y := by
  cases m with
  | nil => exact absurd rfl hne
  | cons c m => exact trimLeft_of_head (h c List.mem_cons_self)

theorem trimLeft_append {x w : List Char} (hw : trimLeft w = w) :
    trimLeft (x ++ w) = trimLeft x ++ w := by
  unfold trimLeft at *
  rw [List.dropWhile_append]
  split
  · rename_i he
    rw [hw, List.isEmpty_iff.mp he, List.nil_append]
  · rfl

theorem trimRight_eq (s : List Char) : trimRight s = (trimLeft s.reverse).reverse := rfl

theorem trim_around {x m y : List Char} (hne : m ≠ []) (h : ∀ c ∈ m, isBlank c = false) :
    trim (x ++ (m ++ y)) = trimLeft x ++ (m ++ trimRight y) := by
  have hrev : trimLeft (m.reverse ++ (trimLeft x).reverse) = m.reverse ++ (trimLeft x).reverse :=
    trimLeft_plain_append (by simpa using hne) fun c hc => h c (List.mem_reverse.mp hc)
  rw [trim, trimLeft_append (trimLeft_plain_append hne h), trimRight_eq, List.reverse_append,
    List.reverse_append, List.append_assoc, trimLeft_append hrev, trimRight_eq]
  simp

theorem splitAt_append_of_not_mem {α : Type} [DecidableEq α] {sep : α} {m b y : List α}
    {qs : List (List α)} (hm : sep ∉ m) (hb : splitAt sep b = y :: qs) :
    splitAt sep (m ++ b) = (m ++ y) :: qs := by
  induction m with
  | nil => exact hb
  | cons c m ih =>
    have hc : c ≠ sep := by
      rintro rfl
      exact hm List.mem_cons_self
    rw [List.cons_append, splitAt, if_neg hc, ih fun h => hm (List.mem_cons_of_mem c h)]
    rfl

theorem splitAt_around {α : Type} [DecidableEq α] (sep : α) (a b : List α) :
    ∃ ps x y qs, ∀ m, sep ∉ m →
      splitAt sep (a ++ (m ++ b)) = ps ++ (x ++ (m ++ y)) :: qs := by
  obtain ⟨y, qs, hb⟩ : ∃ y qs, splitAt sep b = y :: qs :=
    List.exists_cons_of_ne_nil (splitAt_ne_nil sep b)
  -- The part goes to the piece that is open where `a` ends, and joins the first of `b`.
  induction a with
  | nil => exact ⟨[], [], y, qs, fun m hm => splitAt_append_of_not_mem (m := m) hm hb⟩
  | cons c a ih =>
    obtain ⟨ps, x, y, qs, ih⟩ := ih
    by_cases hc : c = sep
    · refine ⟨[] :: ps, x, y, qs, fun m hm => ?_⟩
      rw [hc, List.cons_append, splitAt_cons_self, ih m hm]
      rfl
    · cases ps with
      | nil =>
        refine ⟨[], c :: x, y, qs, fun m hm => ?_⟩
        rw [List.cons_append, splitAt, if_neg hc, ih m hm]
        rfl
      | cons p ps =>
        refine ⟨(c :: p) :: ps, x, y, qs, fun m hm => ?_⟩
        rw [List.cons_append, splitAt, if_neg hc, ih m hm]
        rfl

end Text

namespace Headers

open Octets

theorem readable?_append (a b : Octets) :
    readable? (a ++ b) = (readable? a).bind fun s => (readable? b).map (s ++ ·) := by
  unfold readable?
  rw [List.all_append, List.map_append]
  cases a.all isVisibleOctet <;> cases b.all isVisibleOctet <;> rfl

end Headers

namespace Credential

open Headers Octets

def bearerOctets (t : String) : Octets := ofText (String.ofList (bearerEntry t))

theorem readable_bearer (t : String) : readable? (bearerOctets t) = some (bearerEntry t) := by
  rw [bearerOctets, ofText_ofList]
  exact readable?_ofChars fun c hc => (isFirm_iff.mp (bearerEntry_firm t c hc)).1

theorem trim_around_bearer (x y : List Char) (t : String) :
    Text.trim (x ++ (bearerEntry t ++ y)) =
      Text.trimLeft x ++ (bearerEntry t ++ Text.trimRight y) := by
  have hplain : ∀ c ∈ bearerEntry t, Text.isBlank c = false :=
    fun c hc => (isFirm_iff.mp (bearerEntry_firm t c hc)).2.1
  exact Text.trim_around (List.cons_ne_nil _ _) hplain

/-- The entries of a value around a bearer entry: none of them depends on the token, or one does
and holds the entry with what is directly around it. -/
theorem valueEntries_around (a b : Octets) :
    (∀ t, valueEntries (a ++ (bearerOctets t ++ b)) = []) ∨
      ∃ es x y fs, ∀ t, valueEntries (a ++ (bearerOctets t ++ b)) =
        es ++ (x ++ (bearerEntry t ++ y)) :: fs := by
  -- One octet that is not readable, on either side, takes the whole value out.
  cases ha : readable? a with
  | none =>
    left
    intro t
    simp [valueEntries, readable?_append, ha]
  | some s =>
    cases hb : readable? b with
    | none =>
      left
      intro t
      simp [valueEntries, readable?_append, ha, hb]
    | some u =>
      right
      obtain ⟨ps, x, y, qs, hsplit⟩ := Text.splitAt_around ',' s u
      refine ⟨ps.map Text.trim, Text.trimLeft x, Text.trimRight y, qs.map Text.trim, fun t => ?_⟩
      have hcomma : ',' ∉ bearerEntry t :=
        fun hc => (isFirm_iff.mp (bearerEntry_firm t _ hc)).2.2 rfl
      have hread : readable? (a ++ (bearerOctets t ++ b)) = some (s ++ (bearerEntry t ++ u)) := by
        simp [readable?_append, ha, hb, readable_bearer]
      rw [valueEntries, hread]
      simp only [hsplit (bearerEntry t) hcomma, List.map_append, List.map_cons,
        trim_around_bearer]

def OneTokenApart (t u : String) (vs ws : List Octets) : Prop :=
  ∃ before a b after, vs = before ++ (a ++ (bearerOctets t ++ b)) :: after ∧
    ws = before ++ (a ++ (bearerOctets u ++ b)) :: after

theorem isPrefixOf_around (x y : List Char) (t : String) :
    bearerLead.isPrefixOf (x ++ (bearerEntry t ++ y)) = bearerLead.isPrefixOf (x ++ bearerLead) := by
  have hassoc : x ++ (bearerEntry t ++ y) =
      (x ++ bearerLead) ++ (Base64Url.encode (ofText t) ++ y) := by
    simp [bearerEntry]
  rw [hassoc, Bool.eq_iff_iff, List.isPrefixOf_iff_prefix, List.isPrefixOf_iff_prefix]
  constructor
  · intro h
    exact List.prefix_of_prefix_length_le h (List.prefix_append _ _) (by simp)
  · intro h
    exact h.trans (List.prefix_append _ _)

variable {h k : Headers} {t u : String}

theorem replacedEntries_of_apart (hh : subprotocolToken h = .ok t)
    (hk : subprotocolToken k = .ok u)
    (ha : OneTokenApart t u (h.values subprotocolField) (k.values subprotocolField))
    (token : String) : replacedEntries h token = replacedEntries k token := by
  obtain ⟨before, a, b, after, hv, kv⟩ := ha
  have he := h.entries_eq_flatMap subprotocolField
  have ke := k.entries_eq_flatMap subprotocolField
  rw [hv, List.flatMap_append, List.flatMap_cons] at he
  rw [kv, List.flatMap_append, List.flatMap_cons] at ke
  rcases valueEntries_around a b with hnone | ⟨es, x, y, fs, hsome⟩
  · rw [hnone] at he ke
    rw [replacedEntries, replacedEntries, he, ke]
  · rw [hsome] at he ke
    have hpre (s : String) := isPrefixOf_around x y s
    cases hp : bearerLead.isPrefixOf (x ++ bearerLead) with
    | true =>
      -- The entry is a bearer entry on both sides and goes as a whole.
      have hne (s : String) : (x ++ (bearerEntry s ++ y)).isEmpty = false :=
        List.isEmpty_eq_false_iff.mpr (List.append_ne_nil_of_right_ne_nil _ (List.cons_ne_nil _ _))
      have hr (s : String) : replaceEntry (bearerEntry token) (x ++ (bearerEntry s ++ y)) =
          bearerEntry token := by
        rw [replaceEntry, hpre, hp, if_pos rfl]
      simp only [replacedEntries, he, ke, List.filter_append, List.map_append, List.filter_cons,
        hne, Bool.not_false, if_true, List.map_cons, hr]
    | false =>
      -- It is none on either side, so the token that was found stands elsewhere.
      have hnot (s : String) : Text.stripLead? bearerLead (x ++ (bearerEntry s ++ y)) = none :=
        stripLead_of_not ((hpre s).trans hp)
      have htokens : encodedTokens h = encodedTokens k := by
        simp only [encodedTokens, he, ke, List.filterMap_append, List.filterMap_cons, hnot]
      have hsame : subprotocolToken h = subprotocolToken k := by
        rw [subprotocolToken, subprotocolToken, htokens]
      obtain rfl : t = u := Except.ok.inj (hh.symm.trans (hsame.trans hk))
      rw [replacedEntries, replacedEntries, he, ke]

end Credential

namespace Headers

def SameBut (names : List String) (h k : Headers) : Prop :=
  ∀ n, n ∉ names → h.values n = k.values n

variable {h k : Headers}

theorem SameBut.mono {names more : List String} (hs : SameBut names h k)
    (hsub : ∀ n ∈ names, n ∈ more) : SameBut more h k :=
  fun n hn => hs n fun hm => hn (hsub n hm)

theorem SameBut.entries (hs : SameBut credentialFields h k) {n : String}
    (hn : n ∉ credentialFields) : h.entries n = k.entries n :=
  entries_congr (hs n hn)

theorem SameBut.upgradeProtocol? (hs : SameBut credentialFields h k) :
    h.upgradeProtocol? = k.upgradeProtocol? := by
  rw [Headers.upgradeProtocol?, Headers.upgradeProtocol?, listsUpgrade, listsUpgrade, hasToken,
    hasToken, hs.entries (by decide), first?, first?, hs _ (by decide)]

theorem SameBut.isWebSocketRequest (hs : SameBut credentialFields h k) :
    h.isWebSocketRequest = k.isWebSocketRequest := by
  rw [Headers.isWebSocketRequest, Headers.isWebSocketRequest, listsUpgrade, listsUpgrade, hasToken,
    hasToken, hasToken, hasToken, hs.entries (n := "connection") (by decide),
    hs.entries (n := "upgrade") (by decide)]

theorem SameBut.connectionNames (hs : SameBut credentialFields h k) :
    h.connectionNames = k.connectionNames := by
  rw [Headers.connectionNames, Headers.connectionNames, hs.entries (by decide)]

theorem SameBut.endToEnd (hs : SameBut credentialFields h k) {n : String}
    (hv : h.values n = k.values n) : h.endToEnd.values n = k.endToEnd.values n := by
  rw [values_endToEnd, values_endToEnd, hs.connectionNames, hv]

end Headers

namespace Outbound

open Headers

variable {access : ClusterAccess} {r s : Request} {path : String} {plugin : Bool} {h k : Headers}
  {t u : String}

theorem framedValues_congr (hs : SameBut credentialFields h k) (url : Url) {n : String}
    (hn : n ∉ credentialFields) : framedValues url h plugin n = framedValues url k plugin n := by
  rw [framedValues, framedValues, hs.upgradeProtocol?, hs.endToEnd (hs n hn)]

structure OffersAlike (token : String) (h k : Headers) : Prop where
  kept : h.keepsSubprotocols = k.keepsSubprotocols
  replaced : h.keepsSubprotocols = true →
    Credential.replacedEntries h token = Credential.replacedEntries k token
  left : h.keepsSubprotocols = false →
    h.endToEnd.values Credential.subprotocolField = k.endToEnd.values Credential.subprotocolField

theorem directedValues_congr (hs : SameBut credentialFields h k)
    (ho : OffersAlike access.token h k) (n : String) :
    directedValues access h plugin n = directedValues access k plugin n := by
  rw [directedValues, directedValues, ← ho.kept]
  by_cases hf : n = Credential.subprotocolField
  · subst hf
    have hne : Credential.subprotocolField ≠ "authorization" := by decide
    cases hk : h.keepsSubprotocols with
    | true =>
      have hr := ho.replaced hk
      unfold Credential.replacedEntries at hr
      simp [Credential.replaceSubprotocolToken, hr, hne]
    | false => simp [framed_subprotocols, ho.left hk, hne]
  · by_cases ha : n = "authorization"
    · simp [ha]
    · have hn : n ∉ credentialFields := by simp [credentialFields, ha, hf]
      rw [framedValues_congr hs _ hn]
      simp [ha, hf]

theorem direct_of_alike (hm : r.method = s.method) (ht : r.target = s.target)
    (hs : SameBut credentialFields r.headers s.headers)
    (ho : OffersAlike access.token r.headers s.headers) :
    Agree Outbound.Same (direct access r path plugin) (direct access s path plugin) :=
  direct_agree hm ht ho.kept hs.upgradeProtocol? (directedValues_congr hs ho) path

theorem offersAlike_of_bearer (hs : SameBut ["authorization"] h k) (token : String) :
    OffersAlike token h k := by
  have hcred : SameBut credentialFields h k := hs.mono (by decide)
  have hv := hs Credential.subprotocolField (by decide)
  have hend := hcred.endToEnd hv
  refine ⟨?_, fun _ => ?_, fun _ => hend⟩
  · rw [keepsSubprotocols, keepsSubprotocols, hcred.isWebSocketRequest, contains, contains, hend]
  · rw [Credential.replacedEntries, Credential.replacedEntries, entries_congr hv]

theorem offersAlike_of_apart (hs : SameBut credentialFields h k)
    (hw : h.isWebSocketRequest = true) (ht : Credential.token h = .ok t)
    (hu : Credential.token k = .ok u)
    (ha : Credential.OneTokenApart t u (h.values Credential.subprotocolField)
      (k.values Credential.subprotocolField)) (token : String) : OffersAlike token h k := by
  have hfound := Credential.found_of_token hw ht
  have hfound' := Credential.found_of_token (hs.isWebSocketRequest ▸ hw) hu
  have hkept : h.keepsSubprotocols = k.keepsSubprotocols := by
    obtain ⟨before, a, b, after, hv, kv⟩ := ha
    have hne (v : Octets) : (before ++ v :: after).isEmpty = false :=
      List.isEmpty_eq_false_iff.mpr (List.append_ne_nil_of_right_ne_nil _ (List.cons_ne_nil _ _))
    rw [keepsSubprotocols, keepsSubprotocols, hs.isWebSocketRequest, contains, contains,
      values_endToEnd, values_endToEnd, hs.connectionNames, hv, kv, apply_ite List.isEmpty,
      apply_ite List.isEmpty, hne, hne]
  refine ⟨hkept, fun _ => Credential.replacedEntries_of_apart hfound hfound' ha token,
    fun hnone => ?_⟩
  have hgone {f : Headers} (hf : f.isWebSocketRequest = true) (hn : f.keepsSubprotocols = false) :
      f.endToEnd.values Credential.subprotocolField = [] := by
    simpa [keepsSubprotocols, hf, contains] using hn
  rw [hgone hw hnone, hgone (hs.isWebSocketRequest ▸ hw) (hkept ▸ hnone)]

/-! ## No influence -/

/-- Requests that differ only in the token that their caller presents are directed alike: outside
a WebSocket handshake in the authorization field, in one in the encoding in a bearer entry and in
any authorization fields. -/
theorem caller_credential_has_no_influence (access : ClusterAccess) (path : String)
    (plugin : Bool) (r s : Request) (t u : String)
    (ht : Credential.token r.headers = .ok t) (hu : Credential.token s.headers = .ok u)
    (hm : r.method = s.method) (hg : r.target = s.target)
    (hs : (r.headers.isWebSocketRequest = false ∧
        SameBut ["authorization"] r.headers s.headers) ∨
      (r.headers.isWebSocketRequest = true ∧
        SameBut ["authorization", Credential.subprotocolField] r.headers s.headers ∧
        Credential.OneTokenApart t u (r.headers.values Credential.subprotocolField)
          (s.headers.values Credential.subprotocolField))) :
    Agree Outbound.Same (direct access r path plugin) (direct access s path plugin) := by
  rcases hs with ⟨-, hs⟩ | ⟨hw, hs, ha⟩
  · exact direct_of_alike hm hg (hs.mono (by decide)) (offersAlike_of_bearer hs access.token)
  · exact direct_of_alike hm hg hs (offersAlike_of_apart hs hw ht hu ha access.token)

def offering (token : String) (elsewhere : List String) : Request :=
  ⟨"GET", ⟨"/api/v1/pods", none⟩, ⟨[("connection", Octets.ofText "Upgrade"),
    ("upgrade", Octets.ofText "websocket"),
    ("sec-websocket-protocol", Octets.ofText "v4.channel.k8s.io, " ++
      (Credential.bearerOctets token ++ Octets.ofText ",v5.channel.k8s.io"))] ++
    elsewhere.map fun v => ("authorization", Octets.ofText v)⟩, []⟩

theorem other_offer_has_no_influence :
    ∃ o u, direct ⟨memberUrl, "member-token", "smith"⟩ (offering "token" []) "/api/v1/pods" true =
        .ok o ∧
      direct ⟨memberUrl, "member-token", "smith"⟩ (offering "other" ["Bearer token", "Basic x"])
        "/api/v1/pods" true = .ok u ∧ Outbound.Same o u := by
  have hs : SameBut ["authorization", Credential.subprotocolField] (offering "token" []).headers
      (offering "other" ["Bearer token", "Basic x"]).headers := by
    intro n hn
    simp only [List.mem_cons, List.not_mem_nil, or_false, not_or] at hn
    have ha : "authorization" ≠ n := Ne.symm hn.1
    have hp : "sec-websocket-protocol" ≠ n := Ne.symm hn.2
    simp [values, offering, List.filter_cons, ha, hp]
  have hagree := caller_credential_has_no_influence ⟨memberUrl, "member-token", "smith"⟩
    "/api/v1/pods" true (offering "token" []) (offering "other" ["Bearer token", "Basic x"])
    "token" "other" (ok_of_toOption (by decide +kernel)) (ok_of_toOption (by decide +kernel)) rfl
    rfl (.inr ⟨by decide +kernel, hs, [], Octets.ofText "v4.channel.k8s.io, ",
      Octets.ofText ",v5.channel.k8s.io", [], by decide +kernel, by decide +kernel⟩)
  have hok : (direct ⟨memberUrl, "member-token", "smith"⟩ (offering "token" []) "/api/v1/pods"
      true).toOption.isSome = true := by decide +kernel
  obtain ⟨o, ho⟩ := Option.isSome_iff_exists.mp hok
  rw [ok_of_toOption ho] at hagree ⊢
  obtain ⟨u, hu, hsame⟩ := hagree.of_ok
  exact ⟨o, u, rfl, hu, hsame⟩

end Outbound

end WorkspaceGateway
