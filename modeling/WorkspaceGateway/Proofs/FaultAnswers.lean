import WorkspaceGateway.Proofs.DirectedFields
import WorkspaceGateway.Response
import WorkspaceGateway.Workspace

/-!
# Telling faults apart

Two faults of different kinds are answered with different statuses, two of one kind with
different bodies where their texts differ. Nothing but a refused workspace is answered like one.
-/

set_option autoImplicit false

namespace WorkspaceGateway

namespace Response

variable {f f' : Fault}

theorem status_ofFault (f : Fault) : (ofFault f).status = f.kind.status := rfl

theorem written_message (hk : f.kind = f'.kind) (h : ofFault f = ofFault f') :
    Json.writeString f.message = Json.writeString f'.message := by
  have hbody := Octets.ofText_injective (congrArg Response.body h)
  have hs : f.status = f'.status := congrArg FaultKind.status hk
  simp only [Json.write, Json.writeMembers, hk, hs] at hbody
  have hchars := congrArg String.toList hbody
  simp only [String.toList_append, List.append_assoc] at hchars
  simp only [List.append_cancel_left_eq] at hchars
  simpa [← String.toList_inj] using hchars

theorem written_head {s : String} {c : Char} {r : List Char} (hs : s.toList = c :: r)
    (hc : Json.escapeChar c = [c]) : (Json.writeString s).toList[1]? = some c := by
  simp [Json.writeString, hs, hc]

theorem forbidden_message (s : String) : (Fault.forbidden s).message = s := by
  simp [Fault.message, Fault.forbidden, FaultKind.lead]

theorem head_append {s : String} {c : Char} (t : String) (h : ∃ r, s.toList = c :: r) :
    ∃ r, (s ++ t).toList = c :: r := by
  obtain ⟨r, h⟩ := h
  exact ⟨r ++ t.toList, by rw [String.toList_append, h, List.cons_append]⟩

theorem namespace_message_head (n w : String) : ∃ r,
    (AuthorizationError.namespaceForbidden n w).message.toList = 'a' :: r := by
  have hm : (AuthorizationError.namespaceForbidden n w).message =
    "access to namespace '" ++ n ++ "' in workspace '" ++ w ++ "' is forbidden" := rfl
  have ha : "access to namespace '".toList = 'a' :: "ccess to namespace '".toList := by
    decide +kernel
  rw [hm]
  exact head_append _ (head_append _ (head_append _ (head_append _ ⟨_, ha⟩)))

/-- A namespace that is refused is not answered like a workspace that is. -/
theorem namespace_not_hidden (n w : String) :
    ofFault (AuthorizationError.namespaceForbidden n w).fault ≠
      ofFault (.forbidden spaceNotAvailable) := by
  intro h
  have hk : (AuthorizationError.namespaceForbidden n w).fault.kind =
      (Fault.forbidden spaceNotAvailable).kind := rfl
  have hw := written_message hk h
  rw [AuthorizationError.fault, forbidden_message, forbidden_message] at hw
  obtain ⟨r, ha⟩ := namespace_message_head n w
  have ht : spaceNotAvailable.toList = 't' :: "he requested space is not available".toList := by
    decide +kernel
  generalize (AuthorizationError.namespaceForbidden n w).message = m at hw ha
  have hleft : (Json.writeString m).toList[1]? = some 'a' := written_head ha (by decide +kernel)
  have hright : (Json.writeString spaceNotAvailable).toList[1]? = some 't' :=
    written_head ht (by decide +kernel)
  rw [hw, hright] at hleft
  exact absurd hleft (by decide)

theorem internal_not_hidden (hk : f.kind = .internal) :
    ofFault f ≠ ofFault (.forbidden spaceNotAvailable) := by
  intro h
  have hs := congrArg Response.status h
  rw [status_ofFault, status_ofFault, hk] at hs
  exact absurd hs (by decide)

end Response

namespace Outbound

theorem direct_error {access : ClusterAccess} {r : Request} {path : String} {plugin : Bool}
    {f : Fault} (h : direct access r path plugin = .error f) : f.kind = .internal := by
  rcases direct_cases access r path plugin with ⟨-, hfault⟩ | ⟨-, fields, hok, -⟩
  · rw [← Except.error.inj (hfault.symm.trans h)]
    rfl
  · rw [hok] at h
    simp at h

end Outbound

end WorkspaceGateway
