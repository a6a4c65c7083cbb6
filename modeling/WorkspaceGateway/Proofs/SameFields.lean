import WorkspaceGateway.Proofs.DirectedFields
import WorkspaceGateway.Proofs.RoutingStages

/-!
# The same fields

Two sets of fields are the same when each name has the same values in both; how the names stand
among each other does not count. Every reader of fields answers alike on the same fields, and
every rewriting of fields keeps them the same.
-/

set_option autoImplicit false

namespace WorkspaceGateway

namespace Headers

def Same (h k : Headers) : Prop := ∀ n, h.values n = k.values n

variable {h k : Headers}

theorem Same.eraseWhere (hs : Same h k) (p : String → Bool) :
    Same (h.eraseWhere p) (k.eraseWhere p) := by
  intro n
  rw [values_eraseWhere, values_eraseWhere, hs n]

theorem Same.insert (hs : Same h k) (name : String) (v : Octets) :
    Same (h.insert name v) (k.insert name v) := by
  intro n
  rw [values_insert, values_insert, hs n]

theorem Same.first? (hs : Same h k) (name : String) : h.first? name = k.first? name := by
  rw [Headers.first?, Headers.first?, hs name]

theorem Same.contains (hs : Same h k) (name : String) : h.contains name = k.contains name := by
  rw [Headers.contains, Headers.contains, hs name]

theorem Same.entries (hs : Same h k) (name : String) : h.entries name = k.entries name := by
  rw [Headers.entries, Headers.entries, readableValues, readableValues, hs name]

theorem Same.hasToken (hs : Same h k) (name : String) (word : List Char) :
    h.hasToken name word = k.hasToken name word := by
  rw [Headers.hasToken, Headers.hasToken, hs.entries name]

theorem Same.upgradeProtocol? (hs : Same h k) : h.upgradeProtocol? = k.upgradeProtocol? := by
  rw [Headers.upgradeProtocol?, Headers.upgradeProtocol?, listsUpgrade, listsUpgrade,
    hs.hasToken, hs.first?]

theorem Same.isWebSocketRequest (hs : Same h k) :
    h.isWebSocketRequest = k.isWebSocketRequest := by
  rw [Headers.isWebSocketRequest, Headers.isWebSocketRequest, listsUpgrade, listsUpgrade,
    hs.hasToken, hs.hasToken]

theorem Same.endToEnd (hs : Same h k) : Same h.endToEnd k.endToEnd := by
  have hc : h.connectionNames = k.connectionNames := by
    rw [connectionNames, connectionNames, hs.entries]
  rw [Headers.endToEnd, Headers.endToEnd, hc]
  exact hs.eraseWhere _

theorem Same.keepsSubprotocols (hs : Same h k) :
    h.keepsSubprotocols = k.keepsSubprotocols := by
  rw [Headers.keepsSubprotocols, Headers.keepsSubprotocols, hs.isWebSocketRequest,
    hs.endToEnd.contains]

end Headers

open Headers

/-! ## Reading the caller -/

theorem Credential.token_same {h k : Headers} (hs : Same h k) : token h = token k := by
  have hb : bearerToken h = bearerToken k := by rw [bearerToken, bearerToken, hs]
  have he : subprotocolToken h = subprotocolToken k := by
    rw [subprotocolToken, subprotocolToken, encodedTokens, encodedTokens, hs.entries]
  rw [token, token, hs.isWebSocketRequest, hb, he]

theorem Credential.authenticate_same {h k : Headers} (hs : Same h k)
    (readToken : String → Option Claims) : authenticate readToken h = authenticate readToken k := by
  rw [authenticate, authenticate, token_same hs]

theorem Cors.isPreflight_same {h k : Headers} (method : String)
    (hm : h.values "access-control-request-method" = k.values "access-control-request-method") :
    isPreflight method h = isPreflight method k := by
  rw [isPreflight, isPreflight, first?, first?, hm]

theorem Cors.preflightHeaders_same {h k : Headers} (response : Headers)
    (ho : h.values "origin" = k.values "origin")
    (hm : h.values "access-control-request-method" = k.values "access-control-request-method")
    (hh : h.values "access-control-request-headers" = k.values "access-control-request-headers") :
    preflightHeaders h response = preflightHeaders k response := by
  have hot : h.firstText "origin" = k.firstText "origin" := by
    rw [firstText, firstText, first?, first?, ho]
  have hmt : h.firstText "access-control-request-method" =
      k.firstText "access-control-request-method" := by
    rw [firstText, firstText, first?, first?, hm]
  have hht : h.firstText "access-control-request-headers" =
      k.firstText "access-control-request-headers" := by
    rw [firstText, firstText, first?, first?, hh]
  rw [preflightHeaders, preflightHeaders, hot, hmt, hht]

/-! ## Rewriting -/

/-- Two outcomes agree when both fail alike or both give related results. -/
inductive Agree {ε α : Type} (R : α → α → Prop) : Except ε α → Except ε α → Prop
  | error (e : ε) : Agree R (.error e) (.error e)
  | ok {a b : α} (h : R a b) : Agree R (.ok a) (.ok b)

theorem Agree.of_ok {ε α : Type} {R : α → α → Prop} {a : α} {y : Except ε α}
    (h : Agree R (.ok a) y) : ∃ b, y = .ok b ∧ R a b := by
  cases h with
  | ok hab => exact ⟨_, rfl, hab⟩

structure Outbound.Same (o u : Outbound) : Prop where
  method : o.method = u.method
  url : o.url = u.url
  headers : Headers.Same o.headers u.headers
  upgrade : o.upgrade = u.upgrade

structure Sent.Same (x y : Sent) : Prop where
  outbound : Outbound.Same x.outbound y.outbound
  body : x.body = y.body
  bridged : x.bridged = y.bridged

structure Request.Same (r s : Request) : Prop where
  method : r.method = s.method
  target : r.target = s.target
  headers : Headers.Same r.headers s.headers
  body : r.body = s.body

namespace Outbound

variable {h k : Headers}

theorem direct_agree {r s : Request} {access : ClusterAccess} {plugin : Bool}
    (hm : r.method = s.method) (ht : r.target = s.target)
    (hk : r.headers.keepsSubprotocols = s.headers.keepsSubprotocols)
    (hu : r.headers.upgradeProtocol? = s.headers.upgradeProtocol?)
    (hv : ∀ n, directedValues access r.headers plugin n = directedValues access s.headers plugin n)
    (path : String) :
    Agree Outbound.Same (direct access r path plugin) (direct access s path plugin) := by
  have hdirectable : directable access r.headers plugin = directable access s.headers plugin := by
    rw [directable, directable, hk]
  rcases direct_cases access r path plugin with ⟨hr, hro⟩ | ⟨hr, fields, hro, hrv⟩ <;>
    rcases direct_cases access s path plugin with ⟨hs, hso⟩ | ⟨hs, others, hso, hsv⟩
  · rw [hro, hso]
    exact .error _
  · rw [hdirectable, hs] at hr
    exact absurd hr (by decide)
  · rw [hdirectable, hs] at hr
    exact absurd hr (by decide)
  · rw [hro, hso]
    exact .ok ⟨hm, by rw [ht], fun n => by rw [hrv, hsv, hv], by rw [hu]⟩

theorem directedValues_same (hs : Headers.Same h k) (access : ClusterAccess) (plugin : Bool)
    (n : String) : directedValues access h plugin n = directedValues access k plugin n := by
  have hreplaced : (Credential.replaceSubprotocolToken h access.token).values n =
      (Credential.replaceSubprotocolToken k access.token).values n := by
    unfold Credential.replaceSubprotocolToken
    rw [hs.entries]
    exact hs.insert _ _ n
  rw [directedValues, directedValues, framedValues, framedValues, hs.keepsSubprotocols, hreplaced,
    hs.upgradeProtocol?, hs.endToEnd n]

theorem direct_same {r s : Request} (hs : Request.Same r s) (access : ClusterAccess)
    (path : String) (plugin : Bool) :
    Agree Outbound.Same (direct access r path plugin) (direct access s path plugin) :=
  direct_agree hs.method hs.target hs.headers.keepsSubprotocols hs.headers.upgradeProtocol?
    (directedValues_same hs.headers access plugin) path

end Outbound

/-! ## Answering -/

namespace Proxy

variable {g : Gateway} {view : Views} {r s : Request}

theorem route_same (hs : Request.Same r s) : route g view r = route g view s := by
  rw [route, route, Credential.authenticate_same hs.headers, hs.target]

theorem follow_same (hs : Request.Same r s) (routing : Routing) :
    Option.Rel Sent.Same (follow g r routing).2 (follow g s routing).2 ∧
      ((∀ x y, (follow g r routing).2 = some x → (follow g s routing).2 = some y →
          g.send x = g.send y) →
        (follow g r routing).1 = (follow g s routing).1) := by
  unfold follow
  cases routing.outcome with
  | error f => exact ⟨.none, fun _ => rfl⟩
  | ok ap =>
    obtain ⟨access, p⟩ := ap
    have hd := Outbound.direct_same hs access p.rest p.plugin.isSome
    simp only [Relay.forward]
    generalize Outbound.direct access r p.rest p.plugin.isSome = o at hd ⊢
    generalize Outbound.direct access s p.rest p.plugin.isSome = u at hd ⊢
    cases hd with
    | error f => exact ⟨.none, fun _ => rfl⟩
    | ok hab =>
      refine ⟨.some ⟨hab, hs.body, congrArg Option.isSome hs.headers.upgradeProtocol?⟩,
        fun hsend => ?_⟩
      simp only
      rw [hsend _ _ rfl rfl]

/-- Requests with the same fields are routed alike, sent on alike and, where the member answers
alike, answered alike. -/
theorem handle_same (hs : Request.Same r s) :
    Option.Rel Sent.Same (handle g view r).sent (handle g view s).sent ∧
      ((∀ x y, (handle g view r).sent = some x → (handle g view s).sent = some y →
          g.send x = g.send y) →
        (handle g view r).response = (handle g view s).response) := by
  obtain ⟨hsent, hresp⟩ := follow_same (g := g) hs (route g view s)
  rw [← route_same hs] at hsent hresp
  constructor
  · change Option.Rel Sent.Same (follow g r (route g view r)).2 (follow g s (route g view s)).2
    rw [← route_same hs]
    exact hsent
  · intro hsend
    change responseOf (follow g r (route g view r)).1 = responseOf (follow g s (route g view s)).1
    rw [← route_same hs, hresp]
    intro x y hx hy
    refine hsend x y hx ?_
    change (follow g s (route g view s)).2 = some y
    rw [← route_same hs]
    exact hy

end Proxy

end WorkspaceGateway
