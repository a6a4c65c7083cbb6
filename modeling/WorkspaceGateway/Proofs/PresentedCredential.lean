import WorkspaceGateway.Proofs.DirectedFields
import WorkspaceGateway.Proofs.RoutingStages
import WorkspaceGateway.Proofs.SubprotocolEntries

/-!
# Where a receiver finds the credential

A receiver reads the token as the gateway does: from the authorization field, or from the
sub-protocols of a WebSocket handshake. The director leaves a token among the sub-protocols where
any value of the upgrade field asks for a WebSocket, but it sends only the first value on.
-/

set_option autoImplicit false

namespace WorkspaceGateway

namespace Headers

def valueLists (word : List Char) (v : Octets) : Bool :=
  (valueEntries v).any fun t => t.map Char.toLower == word

theorem hasToken_eq_any (h : Headers) (name : String) (word : List Char) :
    h.hasToken name word = (h.values name).any (valueLists word) := by
  rw [hasToken, entries_eq_flatMap, List.any_flatMap]
  rfl

def firstUpgradeIsWebSocket (h : Headers) : Bool :=
  (h.first? "upgrade").any (valueLists "websocket".toList)

end Headers

namespace Credential

open Headers Octets

/-- Whether fields present a token to a receiver that reads them as the gateway does. -/
def Presents (h : Headers) (token : String) : Prop :=
  bearerToken h = .ok token ∨ h.isWebSocketRequest = true ∧ subprotocolToken h = .ok token

variable {h : Headers} {t : String}

theorem subprotocolToken_congr {k : Headers}
    (hv : h.values subprotocolField = k.values subprotocolField) :
    subprotocolToken h = subprotocolToken k := by
  rw [subprotocolToken, subprotocolToken, encodedTokens_congr (entries_congr hv)]

structure IsFieldToken (token : String) : Prop where
  nonempty : token ≠ ""
  visible : ∀ c ∈ token.toList, 0x21 ≤ c.toNat ∧ c.toNat ≤ 0x7e

theorem isFieldToken_iff : IsFieldToken t ↔ t ≠ "" ∧
    (t.toList.all fun c => 0x21 ≤ c.toNat && c.toNat ≤ 0x7e) = true := by
  rw [List.all_eq_true]
  simp only [Bool.and_eq_true, decide_eq_true_eq]
  exact ⟨fun h => ⟨h.nonempty, h.visible⟩, fun h => ⟨h.1, h.2⟩⟩

instance (token : String) : Decidable (IsFieldToken token) :=
  decidable_of_iff' _ isFieldToken_iff

theorem not_blank_of_range {c : Char} (h : 0x21 ≤ c.toNat ∧ c.toNat ≤ 0x7e) :
    Text.isBlank c = false := by
  simp only [Text.isBlank, Bool.or_eq_false_iff, Bool.and_eq_false_iff, decide_eq_false_iff_not]
  omega

theorem tokenOfValue_bearer (ht : IsFieldToken t) :
    tokenOfValue? (ofText ("Bearer " ++ t)) = some t := by
  have hchars : ("Bearer " ++ t).toList = schemeLead ++ t.toList := String.toList_append ..
  have hlead : ∀ c ∈ schemeLead, isVisible c = true := List.all_eq_true.mp (by decide)
  have hread : readable? (ofText ("Bearer " ++ t)) = some (schemeLead ++ t.toList) := by
    rw [ofText_eq, hchars]
    apply readable?_ofChars
    intro c hc
    rcases List.mem_append.mp hc with hc | hc
    · exact hlead c hc
    · have hrange := ht.visible c hc
      simp only [isVisible, Bool.or_eq_true, Bool.and_eq_true, decide_eq_true_eq]
      omega
  have hstrip : Text.stripLead? schemeLead (schemeLead ++ t.toList) = some t.toList :=
    Text.stripLead?_eq_some_iff.mpr rfl
  have hempty : t.toList.isEmpty = false := by
    simpa using ht.nonempty
  have hblank : t.toList.any Text.isBlank = false := by
    apply List.any_eq_false.mpr
    intro c hc
    simp [not_blank_of_range (ht.visible c hc)]
  simp only [tokenOfValue?, hread, Option.bind_eq_bind, Option.bind_some, hstrip, hempty, hblank,
    Bool.or_self, Bool.false_eq_true, if_false, String.ofList_toList]

theorem bearerToken_of_values (ht : IsFieldToken t)
    (hv : h.values "authorization" = [ofText ("Bearer " ++ t)]) : bearerToken h = .ok t := by
  simp [bearerToken, hv, tokenOfValue_bearer ht]

theorem bearerToken_of_none (hv : h.values "authorization" = []) :
    bearerToken h = .error .absent := by
  simp [bearerToken, hv]

end Credential

namespace Outbound

open Headers Octets

variable {access : ClusterAccess} {r : Request} {path : String} {plugin : Bool} {out : Outbound}
  {t : String}

theorem upgradeProtocol_of_webSocket {h : Headers} (hw : h.isWebSocketRequest = true) :
    ∃ v, h.upgradeProtocol? = some v ∧ h.first? "upgrade" = some v := by
  simp only [isWebSocketRequest, Bool.and_eq_true] at hw
  obtain ⟨hl, hu⟩ := hw
  rw [hasToken_eq_any] at hu
  rw [upgradeProtocol?, if_pos hl, first?]
  cases hv : h.values "upgrade" with
  | nil => simp [hv] at hu
  | cons v vs => exact ⟨v, rfl, rfl⟩

/-- A handshake whose sub-protocols are kept goes out as one to the first protocol it names. -/
theorem directed_isWebSocket (hd : direct access r path plugin = .ok out)
    (hw : r.headers.isWebSocketRequest = true) :
    out.headers.isWebSocketRequest = r.headers.firstUpgradeIsWebSocket := by
  obtain ⟨v, hp, hf⟩ := upgradeProtocol_of_webSocket hw
  have hv := (direct_ok_values hd).2
  have hconnection : out.headers.values "connection" = [ofText "Upgrade"] := by
    rw [hv]
    simp [directedValues, framedValues, userField, Credential.subprotocolField, hp]
  have hupgrade : out.headers.values "upgrade" = [v] := by
    rw [hv]
    simp [directedValues, framedValues, userField, Credential.subprotocolField, hp]
  have hlists : valueLists "upgrade".toList (ofText "Upgrade") = true := by decide +kernel
  rw [isWebSocketRequest, listsUpgrade, hasToken_eq_any, hasToken_eq_any, hconnection, hupgrade,
    firstUpgradeIsWebSocket, hf, List.any_cons, hlists]
  simp only [List.any_cons, List.any_nil, Bool.true_and, Bool.or_false,
    Option.any_some]

theorem directed_subprotocolToken (hd : direct access r path plugin = .ok out)
    (hk : r.headers.keepsSubprotocols = true) (hs : Credential.subprotocolToken r.headers = .ok t)
    (hne : access.token ≠ "") : Credential.subprotocolToken out.headers = .ok access.token := by
  rw [← Credential.found_replaced hs hne]
  apply Credential.subprotocolToken_congr
  rw [direct_subprotocols hd, if_pos hk]

/-! ## Presented -/

/-- The member's token is presented to the member exactly when a handshake that keeps its
sub-protocols names the WebSocket in the first value of its upgrade field. -/
theorem member_token_presented_iff (ht : Credential.token r.headers = .ok t)
    (hm : Credential.IsFieldToken access.token) (hd : direct access r path plugin = .ok out) :
    Credential.Presents out.headers access.token ↔
      (r.headers.keepsSubprotocols = true → r.headers.firstUpgradeIsWebSocket = true) := by
  have hauth := direct_authorization hd
  cases hk : r.headers.keepsSubprotocols with
  | false =>
    rw [hk] at hauth
    exact ⟨fun _ h => absurd h (by decide),
      fun _ => .inl (Credential.bearerToken_of_values hm hauth)⟩
  | true =>
    rw [hk] at hauth
    have hw : r.headers.isWebSocketRequest = true := webSocket_of_keeps hk
    have hfound := directed_subprotocolToken hd hk (Credential.found_of_token hw ht) hm.nonempty
    rw [Credential.Presents, Credential.bearerToken_of_none hauth, directed_isWebSocket hd hw,
      hfound]
    simp

def handshake (upgrades : List String) : Request :=
  ⟨"GET", ⟨"/api/v1/pods", none⟩, ⟨[("connection", ofText "Upgrade"),
    ("sec-websocket-protocol", ofText "base64url.bearer.authorization.k8s.io.dG9rZW4")] ++
    upgrades.map fun u => ("upgrade", ofText u)⟩, []⟩

def smithAccess : ClusterAccess := ⟨memberUrl, "member-token", "smith"⟩

theorem member_token_of_webSocket_presented :
    ∃ out, direct smithAccess (handshake ["websocket", "h2c"]) "/api/v1/pods" false = .ok out ∧
      Credential.Presents out.headers "member-token" := by
  have hok : (direct smithAccess (handshake ["websocket", "h2c"]) "/api/v1/pods"
      false).toOption.isSome = true := by decide +kernel
  obtain ⟨out, hout⟩ := Option.isSome_iff_exists.mp hok
  have hd := ok_of_toOption hout
  have hiff := member_token_presented_iff (t := "token") (ok_of_toOption (by decide +kernel))
    (by decide +kernel) hd
  exact ⟨out, hd, hiff.mpr fun _ => by decide +kernel⟩

/-- With another protocol named first, the token goes out where no receiver looks for it. -/
theorem member_token_not_presented :
    Credential.token (handshake ["h2c", "websocket"]).headers = .ok "token" ∧
      Credential.IsFieldToken "member-token" ∧
      Headers.isValue (ofText "smith") = true ∧
      ∃ out, direct smithAccess (handshake ["h2c", "websocket"]) "/api/v1/pods" false = .ok out ∧
        ¬ Credential.Presents out.headers "member-token" := by
  have hread : ((direct smithAccess (handshake ["h2c", "websocket"]) "/api/v1/pods"
      false).toOption.map fun out =>
        (out.headers.values "authorization", out.headers.isWebSocketRequest)) =
      some ([], false) := by decide +kernel
  obtain ⟨out, hout, hpair⟩ := Option.map_eq_some_iff.mp hread
  obtain ⟨hauth, hplain⟩ := Prod.mk.inj hpair
  refine ⟨ok_of_toOption (by decide +kernel), (by decide +kernel), by decide +kernel, out,
    ok_of_toOption hout, ?_⟩
  rw [Credential.Presents, Credential.bearerToken_of_none hauth, hplain]
  simp

end Outbound

end WorkspaceGateway
