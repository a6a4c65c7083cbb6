import WorkspaceGateway.Proofs.DirectedFields
import WorkspaceGateway.Proofs.RoutingStages

/-!
# What each field of a directed request holds

A caller may list any name in the connection field, the ones that the director sets included.
Here it is said for every name, in terms of the fields that came in alone, what the directed
request holds under it; and that nothing is left open by that.
-/

set_option autoImplicit false

namespace WorkspaceGateway

namespace Headers

variable {h : Headers} {n : String}

def Lists (h : Headers) (n : String) : Prop := ∃ e ∈ h.entries "connection", name? e = some n

def AsksUpgrade (h : Headers) : Prop :=
  h.values "upgrade" ≠ [] ∧ ∃ e ∈ h.entries "connection", e.map Char.toLower = "upgrade".toList

def StaysHere (h : Headers) (n : String) : Prop := h.Lists n ∨ n ∈ hopByHop

instance (h : Headers) (n : String) : Decidable (h.Lists n) :=
  inferInstanceAs (Decidable (∃ e ∈ h.entries "connection", name? e = some n))

instance (h : Headers) : Decidable h.AsksUpgrade := inferInstanceAs (Decidable (_ ∧ _))

instance (h : Headers) (n : String) : Decidable (h.StaysHere n) :=
  inferInstanceAs (Decidable (_ ∨ _))

def OffersOn (h : Headers) : Prop :=
  h.isWebSocketRequest = true ∧ h.values Credential.subprotocolField ≠ [] ∧
    ¬ h.Lists Credential.subprotocolField

instance (h : Headers) : Decidable h.OffersOn := inferInstanceAs (Decidable (_ ∧ _ ∧ _))

end Headers

namespace Outbound

open Headers Octets

variable {access : ClusterAccess} {r : Request} {path : String} {plugin : Bool} {out u : Outbound}
  {h : Headers}

structure Determined (access : ClusterAccess) (h : Headers) (plugin : Bool) (out : Outbound) :
    Prop where
  dropped : ∀ n, n ∉ ownFields → h.StaysHere n → out.headers.values n = []
  kept : ∀ n, n ∉ ownFields → ¬ h.StaysHere n → out.headers.values n = h.values n
  upgraded : h.AsksUpgrade → out.headers.values "connection" = [ofText "Upgrade"] ∧
    (∃ p, h.first? "upgrade" = some p ∧ out.headers.values "upgrade" = [p]) ∧
    out.upgrade = true ∧ out.http1Only = true
  notUpgraded : ¬ h.AsksUpgrade → out.headers.values "connection" = [] ∧
    out.headers.values "upgrade" = [] ∧ out.upgrade = false ∧ out.http1Only = false
  hosted : plugin = true → out.headers.values "host" = [ofText (hostField out.url)]
  notHosted : plugin = false → out.headers.values "host" = []
  agent : h.values "user-agent" ≠ [] → ¬ h.Lists "user-agent" →
    out.headers.values "user-agent" = h.values "user-agent"
  noAgent : h.values "user-agent" = [] ∨ h.Lists "user-agent" →
    out.headers.values "user-agent" = [[]]
  listedOffer : h.Lists Credential.subprotocolField →
    out.headers.values Credential.subprotocolField = []
  replacedOffer : h.OffersOn → out.headers.values Credential.subprotocolField =
    (Credential.replaceSubprotocolToken h access.token).values Credential.subprotocolField
  keptOffer : ¬ h.Lists Credential.subprotocolField → ¬ h.OffersOn →
    out.headers.values Credential.subprotocolField = h.values Credential.subprotocolField
  bearer : ¬ h.OffersOn →
    out.headers.values "authorization" = [ofText ("Bearer " ++ access.token)]
  noBearer : h.OffersOn → out.headers.values "authorization" = []
  user : out.headers.values userField = [ofText access.username]

/-! ## The director determines each field -/

theorem Determined.unique (ho : Determined access h plugin out)
    (hu : Determined access h plugin u) (hurl : u.url = out.url) :
    u.upgrade = out.upgrade ∧ ∀ n, u.headers.values n = out.headers.values n := by
  have hasked : u.upgrade = out.upgrade ∧
      u.headers.values "connection" = out.headers.values "connection" ∧
      u.headers.values "upgrade" = out.headers.values "upgrade" := by
    by_cases ha : h.AsksUpgrade
    · obtain ⟨hc, ⟨p, hp, hv⟩, hup, -⟩ := ho.upgraded ha
      obtain ⟨hc', ⟨p', hp', hv'⟩, hup', -⟩ := hu.upgraded ha
      obtain rfl : p = p' := Option.some.inj (hp.symm.trans hp')
      exact ⟨hup'.trans hup.symm, hc'.trans hc.symm, hv'.trans hv.symm⟩
    · obtain ⟨hc, hv, hup, -⟩ := ho.notUpgraded ha
      obtain ⟨hc', hv', hup', -⟩ := hu.notUpgraded ha
      exact ⟨hup'.trans hup.symm, hc'.trans hc.symm, hv'.trans hv.symm⟩
  have hhost : u.headers.values "host" = out.headers.values "host" := by
    cases plugin with
    | true => rw [ho.hosted rfl, hu.hosted rfl, hurl]
    | false => rw [ho.notHosted rfl, hu.notHosted rfl]
  have hagent : u.headers.values "user-agent" = out.headers.values "user-agent" := by
    by_cases ha : h.values "user-agent" = [] ∨ h.Lists "user-agent"
    · rw [ho.noAgent ha, hu.noAgent ha]
    · rw [not_or] at ha
      rw [ho.agent ha.1 ha.2, hu.agent ha.1 ha.2]
  have hoffer : u.headers.values Credential.subprotocolField =
        out.headers.values Credential.subprotocolField ∧
      u.headers.values "authorization" = out.headers.values "authorization" := by
    by_cases hs : h.OffersOn
    · rw [ho.replacedOffer hs, hu.replacedOffer hs, ho.noBearer hs, hu.noBearer hs]
      exact ⟨rfl, rfl⟩
    · rw [ho.bearer hs, hu.bearer hs]
      refine ⟨?_, rfl⟩
      by_cases hl : h.Lists Credential.subprotocolField
      · rw [ho.listedOffer hl, hu.listedOffer hl]
      · rw [ho.keptOffer hl hs, hu.keptOffer hl hs]
  refine ⟨hasked.1, fun n => ?_⟩
  by_cases hn : n ∈ ownFields
  · simp only [ownFields, List.mem_cons, List.not_mem_nil, or_false] at hn
    rcases hn with rfl | rfl | rfl | rfl | rfl | rfl | rfl
    · exact hasked.2.1
    · exact hasked.2.2
    · exact hhost
    · exact hagent
    · exact hoffer.2
    · exact hoffer.1
    · rw [ho.user, hu.user]
  · by_cases hs : h.StaysHere n
    · rw [ho.dropped n hn hs, hu.dropped n hn hs]
    · rw [ho.kept n hn hs, hu.kept n hn hs]

end Outbound

end WorkspaceGateway
