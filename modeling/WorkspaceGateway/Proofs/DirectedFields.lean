import WorkspaceGateway.Proofs.OutboundFields
import WorkspaceGateway.Proofs.SubprotocolEntries

/-!
# Every field of a directed request

The director works in stages, each of which sets a field or takes one out. Here the stages are put
together once: what each name holds at the end, from the fields that came in and the access, and
exactly when no request is directed at all. Later proofs read a field off and open no stage.
-/

set_option autoImplicit false

namespace WorkspaceGateway

namespace Headers

def credentialFields : List String := ["authorization", Credential.subprotocolField]

def keepsSubprotocols (h : Headers) : Bool :=
  h.isWebSocketRequest && h.endToEnd.contains Credential.subprotocolField

theorem webSocket_of_keeps {h : Headers} (hk : h.keepsSubprotocols = true) :
    h.isWebSocketRequest = true := by
  simp only [keepsSubprotocols, Bool.and_eq_true] at hk
  exact hk.1

theorem contains_iff {h : Headers} {n : String} : h.contains n = true ↔ h.values n ≠ [] := by
  simp [contains]

theorem values_hopByHop (h : Headers) {n : String} (hn : n ∈ hopByHop) :
    h.endToEnd.values n = [] := by
  rw [values_endToEnd, if_pos (.inr hn)]

theorem entries_congr {h k : Headers} {n : String} (hv : h.values n = k.values n) :
    h.entries n = k.entries n := by
  rw [entries, entries, readableValues, readableValues, hv]

theorem values_of_contains_endToEnd {h : Headers} {n : String}
    (hc : h.endToEnd.contains n = true) : h.endToEnd.values n = h.values n := by
  have hv := contains_iff.mp hc
  rw [values_endToEnd] at hv ⊢
  split at hv
  · exact absurd rfl hv
  · rename_i hn
    rw [if_neg hn]

end Headers

theorem Credential.replaced_congr {h k : Headers}
    (he : h.entries subprotocolField = k.entries subprotocolField) (token : String) :
    (replaceSubprotocolToken h token).values subprotocolField =
      (replaceSubprotocolToken k token).values subprotocolField := by
  rw [replaceSubprotocolToken, replaceSubprotocolToken, he, Headers.values_insert_self,
    Headers.values_insert_self]

namespace Outbound

open Octets

variable {access : ClusterAccess} {h : Headers} {r : Request} {path : String} {plugin : Bool}
  {n : String}

def badValue : Fault := .internal "invalid outbound header value: failed to parse header value"

def directable (access : ClusterAccess) (h : Headers) (plugin : Bool) : Bool :=
  (!plugin || Headers.isValue (ofText (hostField access.url))) &&
    (h.keepsSubprotocols || Headers.isValue (ofText ("Bearer " ++ access.token))) &&
    Headers.isValue (ofText access.username)

def framedValues (url : Url) (h : Headers) (plugin : Bool) (n : String) : List Octets :=
  if n = "host" then if plugin then [ofText (hostField url)] else []
  else if n = "connection" then if h.upgradeProtocol?.isSome then [ofText "Upgrade"] else []
  else if n = "upgrade" then h.upgradeProtocol?.toList
  else if n = "user-agent" ∧ h.endToEnd.values n = [] then [[]]
  else h.endToEnd.values n

def directedValues (access : ClusterAccess) (h : Headers) (plugin : Bool) (n : String) :
    List Octets :=
  if n = userField then [ofText access.username]
  else if n = "authorization" then
    if h.keepsSubprotocols then [] else [ofText ("Bearer " ++ access.token)]
  else if n = Credential.subprotocolField ∧ h.keepsSubprotocols = true then
    (Credential.replaceSubprotocolToken h access.token).values n
  else framedValues access.url h plugin n

theorem fieldValue_of_not {s : String} (hv : Headers.isValue (ofText s) = false) :
    fieldValue s = .error badValue := by
  simp [fieldValue, hv, badValue]

theorem values_passedOn_upgrade (h : Headers) (n : String) :
    (passedOn h).values n =
      if n = "host" then []
      else if n = "connection" then
        if h.upgradeProtocol?.isSome then [ofText "Upgrade"] else []
      else if n = "upgrade" then h.upgradeProtocol?.toList
      else h.endToEnd.values n := by
  have hconnection := h.values_hopByHop (n := "connection") (by decide)
  have hupgrade := h.values_hopByHop (n := "upgrade") (by decide)
  unfold passedOn
  cases h.upgradeProtocol? with
  | none =>
    by_cases hh : n = "host"
    · simp [Headers.values_erase, hh]
    · by_cases hc : n = "connection"
      · simp [Headers.values_erase, hc, hconnection]
      · by_cases hu : n = "upgrade"
        · simp [Headers.values_erase, hu, hupgrade]
        · simp [Headers.values_erase, hh, hc, hu]
  | some p =>
    by_cases hu : n = "upgrade"
    · simp [hu]
    · by_cases hc : n = "connection"
      · simp [Headers.values_insert, hc]
      · simp [Headers.values_insert, Headers.values_erase, hu, hc]

theorem values_hosted {url : Url} {hosted : Headers} (hw : withHost url plugin h = .ok hosted)
    (n : String) :
    hosted.values n = if n = "host" ∧ plugin = true then [ofText (hostField url)]
      else h.values n := by
  unfold withHost at hw
  cases plugin with
  | false =>
    simp only [Bool.false_eq_true, if_false, Except.ok.injEq] at hw
    simp [hw]
  | true =>
    cases hv : fieldValue (hostField url) with
    | error f => simp [hv, Except.map] at hw
    | ok v =>
      simp only [hv, if_true, Except.map, Except.ok.injEq] at hw
      rw [← hw, Headers.values_insert, fieldValue_eq hv]
      simp

theorem values_userAgent (h : Headers) (n : String) :
    (withUserAgent h).values n = if n = "user-agent" ∧ h.values n = [] then [[]]
      else h.values n := by
  unfold withUserAgent
  by_cases hc : h.contains "user-agent" = true
  · rw [if_pos hc, if_neg]
    rintro ⟨rfl, hv⟩
    exact Headers.contains_iff.mp hc hv
  · have hv : h.values "user-agent" = [] := by simpa [Headers.contains] using hc
    rw [if_neg hc, Headers.values_insert]
    by_cases hn : n = "user-agent"
    · simp [hn, hv]
    · simp [hn]

theorem values_framed {url : Url} {hosted : Headers}
    (hw : withHost url plugin (passedOn h) = .ok hosted) (n : String) :
    (withUserAgent hosted).values n = framedValues url h plugin n := by
  rw [values_userAgent, values_hosted hw, values_passedOn_upgrade, framedValues]
  by_cases hh : n = "host"
  · cases plugin <;> simp [hh]
  · by_cases hc : n = "connection"
    · simp [hc]
    · by_cases hu : n = "upgrade"
      · simp [hu]
      · simp [hh, hc, hu]

theorem framed_subprotocols (url : Url) (h : Headers) (plugin : Bool) :
    framedValues url h plugin Credential.subprotocolField =
      h.endToEnd.values Credential.subprotocolField := by
  simp [framedValues, Credential.subprotocolField]

theorem withCredential_of_kept {inbound out : Headers} (token : String)
    (hk : (inbound.isWebSocketRequest && out.contains Credential.subprotocolField) = true) :
    ∃ fields, withCredential inbound out token = .ok fields ∧ ∀ n, fields.values n =
      if n = Credential.subprotocolField then
        (Credential.replaceSubprotocolToken out token).values n
      else if n = "authorization" then [] else out.values n := by
  refine ⟨_, (if_pos hk).trans (Credential.exchange_eq _ token), fun n => ?_⟩
  have he : (out.erase "authorization").entries Credential.subprotocolField =
      out.entries Credential.subprotocolField := by
    apply Headers.entries_congr
    rw [Headers.values_erase, if_neg (by decide)]
  unfold Credential.replaceSubprotocolToken
  rw [he, Headers.values_insert, Headers.values_erase]
  by_cases hn : n = Credential.subprotocolField <;> simp [hn]

theorem kept_framed {framed : Headers} {url : Url}
    (hf : ∀ n, framed.values n = framedValues url h plugin n) :
    (h.isWebSocketRequest && framed.contains Credential.subprotocolField) =
      h.keepsSubprotocols := by
  rw [Headers.keepsSubprotocols, Headers.contains, Headers.contains, hf, framed_subprotocols]

/-- The credential's stage: it fails where the token can stand in no field, and else puts the
token in the one place for it. -/
theorem withCredential_framed {framed : Headers} (access : ClusterAccess)
    (hf : ∀ n, framed.values n = framedValues access.url h plugin n) :
    ((h.keepsSubprotocols || Headers.isValue (ofText ("Bearer " ++ access.token))) = false ∧
      withCredential h framed access.token = .error badValue) ∨
    ((h.keepsSubprotocols || Headers.isValue (ofText ("Bearer " ++ access.token))) = true ∧
      ∃ fields, withCredential h framed access.token = .ok fields ∧ ∀ n, n ≠ userField →
        fields.values n = directedValues access h plugin n) := by
  have hkept := kept_framed hf
  cases hk : h.keepsSubprotocols with
  | true =>
    obtain ⟨fields, hc, hv⟩ := withCredential_of_kept access.token (hkept.trans hk)
    refine .inr ⟨rfl, fields, hc, fun n hn => ?_⟩
    have hend : h.endToEnd.contains Credential.subprotocolField = true := by
      simp only [Headers.keepsSubprotocols, Bool.and_eq_true] at hk
      exact hk.2
    have he : framed.entries Credential.subprotocolField =
        h.entries Credential.subprotocolField := by
      apply Headers.entries_congr
      rw [hf, framed_subprotocols, Headers.values_of_contains_endToEnd hend]
    have hr := Credential.replaced_congr he access.token
    have hne : Credential.subprotocolField ≠ "authorization" := by decide
    rw [hv, directedValues, if_neg hn, hk, hf]
    by_cases hs : n = Credential.subprotocolField
    · simp [hs, hr, hne]
    · simp [hs]
  | false =>
    have hplain : withCredential h framed access.token =
        (fieldValue ("Bearer " ++ access.token)).map fun v => framed.insert "authorization" v := by
      rw [withCredential, hkept, hk]
      exact if_neg (by decide)
    rw [hplain, Bool.false_or]
    cases hv : Headers.isValue (ofText ("Bearer " ++ access.token)) with
    | false => exact .inl ⟨rfl, by rw [fieldValue_of_not hv]; rfl⟩
    | true =>
      refine .inr ⟨rfl, _, by rw [fieldValue_of_isValue hv]; rfl, fun n hn => ?_⟩
      rw [directedValues, if_neg hn, hk, Headers.values_insert, hf]
      by_cases ha : n = "authorization" <;> simp [ha]

/-! ## The director -/

theorem direct_cases (access : ClusterAccess) (r : Request) (path : String) (plugin : Bool) :
    (directable access r.headers plugin = false ∧
      direct access r path plugin = .error badValue) ∨
    (directable access r.headers plugin = true ∧ ∃ fields : Headers,
      direct access r path plugin = .ok ⟨r.method, targetUrl access.url path r.target.query,
        fields, r.headers.upgradeProtocol?.isSome⟩ ∧
      ∀ n, fields.values n = directedValues access r.headers plugin n) := by
  rw [direct_eq]
  have hhost : (withHost (targetUrl access.url path r.target.query) plugin (passedOn r.headers)) =
      if plugin then (fieldValue (hostField access.url)).map
        fun v => (passedOn r.headers).insert "host" v else .ok (passedOn r.headers) := by
    rw [withHost, hostField_targetUrl]
  -- Each stage either gives the one fault, which ends the rest, or hands its fields on.
  cases hp : (!plugin || Headers.isValue (ofText (hostField access.url))) with
  | false =>
    simp only [Bool.or_eq_false_iff, Bool.not_eq_false'] at hp
    refine .inl ⟨by simp [directable, hp], ?_⟩
    rw [hhost, hp.1, if_pos rfl, fieldValue_of_not hp.2]
    rfl
  | true =>
    obtain ⟨hosted, hw⟩ : ∃ hosted, withHost (targetUrl access.url path r.target.query) plugin
        (passedOn r.headers) = .ok hosted := by
      rw [hhost]
      cases plugin with
      | false => exact ⟨_, rfl⟩
      | true => exact ⟨_, by rw [fieldValue_of_isValue (by simpa using hp)]; rfl⟩
    have hframed (n : String) : (withUserAgent hosted).values n =
        framedValues access.url r.headers plugin n := by
      rw [values_framed hw, framedValues, framedValues, hostField_targetUrl]
    rw [hw, Except.bind]
    rcases withCredential_framed access hframed with ⟨hd, hc⟩ | ⟨hd, fields, hc, hv⟩
    · exact .inl ⟨by simp [directable, hd], by rw [hc]; rfl⟩
    · rw [hc, Except.bind]
      cases hu : Headers.isValue (ofText access.username) with
      | false => exact .inl ⟨by simp [directable, hu], by rw [fieldValue_of_not hu]; rfl⟩
      | true =>
        refine .inr ⟨by rw [directable, hp, hd, hu]; rfl, _,
          by rw [fieldValue_of_isValue hu]; rfl, fun n => ?_⟩
        rw [Headers.values_insert]
        by_cases hn : n = userField
        · simp [directedValues, hn]
        · rw [if_neg hn, hv n hn]

theorem direct_ok_values {out : Outbound} (hd : direct access r path plugin = .ok out) :
    out.url = targetUrl access.url path r.target.query ∧
      ∀ n, out.headers.values n = directedValues access r.headers plugin n := by
  rcases direct_cases access r path plugin with ⟨-, he⟩ | ⟨-, fields, hok, hv⟩
  · rw [he] at hd
    simp at hd
  · rw [hok, Except.ok.injEq] at hd
    exact ⟨by rw [← hd], by rw [← hd]; exact hv⟩

theorem direct_authorization {out : Outbound} (hd : direct access r path plugin = .ok out) :
    out.headers.values "authorization" =
      if r.headers.keepsSubprotocols then [] else [ofText ("Bearer " ++ access.token)] := by
  rw [(direct_ok_values hd).2]
  simp [directedValues, userField]

theorem direct_subprotocols {out : Outbound} (hd : direct access r path plugin = .ok out) :
    out.headers.values Credential.subprotocolField =
      if r.headers.keepsSubprotocols then
        (Credential.replaceSubprotocolToken r.headers access.token).values
          Credential.subprotocolField
      else r.headers.endToEnd.values Credential.subprotocolField := by
  have huser : Credential.subprotocolField ≠ userField := by decide
  have hauth : Credential.subprotocolField ≠ "authorization" := by decide
  rw [(direct_ok_values hd).2, directedValues, if_neg huser, if_neg hauth, framed_subprotocols]
  simp

theorem direct_of_values (access : ClusterAccess)
    (hh : Headers.isValue (ofText (hostField access.url)) = true)
    (ht : Headers.isValue (ofText ("Bearer " ++ access.token)) = true)
    (hu : Headers.isValue (ofText access.username) = true) (r : Request) (path : String)
    (plugin : Bool) : ∃ out, direct access r path plugin = .ok out := by
  rcases direct_cases access r path plugin with ⟨hnot, -⟩ | ⟨-, fields, hok, -⟩
  · simp [directable, hh, ht, hu] at hnot
  · exact ⟨_, hok⟩

def ownFields : List String :=
  ["connection", "upgrade", "host", "user-agent", "authorization", Credential.subprotocolField,
    userField]

theorem direct_values {out : Outbound} (hd : direct access r path plugin = .ok out)
    (hn : n ∉ ownFields) : out.headers.values n = r.headers.endToEnd.values n := by
  simp only [ownFields, List.mem_cons, List.not_mem_nil, or_false, not_or] at hn
  rw [(direct_ok_values hd).2]
  simp [directedValues, framedValues, hn]

theorem direct_user {out : Outbound} (hd : direct access r path plugin = .ok out) :
    out.headers.values userField = [ofText access.username] := by
  rw [(direct_ok_values hd).2]
  simp [directedValues]

end Outbound

end WorkspaceGateway
