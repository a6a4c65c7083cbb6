import WorkspaceGateway.Outbound

/-!
# The parts of a request that is sent on

The director makes a request of a URL and of fields. Here its stages are named and put one after
another, and the URL is shown to keep the place it leads to.
-/

set_option autoImplicit false

namespace WorkspaceGateway

namespace Headers

@[simp] theorem values_insert_self (h : Headers) (n : String) (v : Octets) :
    (h.insert n v).values n = [v] := by
  simp [values_insert]

theorem values_endToEnd (h : Headers) (n : String) :
    h.endToEnd.values n =
      if n ∈ h.connectionNames ∨ n ∈ hopByHop then [] else h.values n := by
  simp [endToEnd, values_eraseWhere]

theorem values_withoutImpersonation (h : Headers) (n : String) :
    h.withoutImpersonation.values n = if isImpersonation n then [] else h.values n :=
  values_eraseWhere h isImpersonation n

end Headers

namespace Outbound

theorem targetUrl_lead (target : Url) (path : String) (query : Option String) :
    (targetUrl target path query).scheme = target.scheme ∧
      (targetUrl target path query).authority = target.authority := by
  have hpath (s : List Char) : (target.setPath s).scheme = target.scheme ∧
      (target.setPath s).authority = target.authority := by
    unfold Url.setPath
    split
    · split <;> exact ⟨rfl, rfl⟩
    · exact ⟨rfl, rfl⟩
  unfold targetUrl Url.setQuery
  split
  · exact hpath _
  · unfold Url.trimFlatPath
    split <;> exact hpath _

theorem targetUrl_path {target : Url} {parts : List (List Char)}
    (h : target.path = .segments parts) (path : String) (query : Option String) :
    (targetUrl target path query).path =
      .segments (Url.pathSegments target.scheme (joinPaths target.path.text path.toList)) := by
  have hset : (target.setPath (joinPaths target.path.text path.toList)).path =
      .segments (Url.pathSegments target.scheme (joinPaths target.path.text path.toList)) := by
    unfold Url.setPath
    rw [h]
  unfold targetUrl Url.setQuery
  split
  · exact hset
  · unfold Url.trimFlatPath
    split
    · rename_i hflat _
      exact absurd (hflat.symm.trans hset) (by simp)
    · exact hset

theorem hostField_targetUrl (target : Url) (path : String) (query : Option String) :
    hostField (targetUrl target path query) = hostField target := by
  rw [hostField, hostField, Url.host?, Url.host?, Url.port?, Url.port?,
    (targetUrl_lead target path query).2]

theorem fieldValue_of_isValue {s : String} (h : Headers.isValue (Octets.ofText s) = true) :
    fieldValue s = .ok (Octets.ofText s) := by
  simp [fieldValue, h]

theorem fieldValue_eq {s : String} {v : Octets} (h : fieldValue s = .ok v) :
    v = Octets.ofText s := by
  simp only [fieldValue] at h
  split at h
  · exact (Except.ok.inj h).symm
  · simp at h

def withHost (url : Url) (plugin : Bool) (h : Headers) : Except Fault Headers :=
  if plugin then (fieldValue (hostField url)).map fun v => h.insert "host" v else .ok h

theorem direct_eq (access : ClusterAccess) (r : Request) (path : String) (plugin : Bool) :
    direct access r path plugin =
      (withHost (targetUrl access.url path r.target.query) plugin (passedOn r.headers)).bind
        fun hosted => (withCredential r.headers (withUserAgent hosted) access.token).bind
          fun fields => (fieldValue access.username).map fun user =>
            ⟨r.method, targetUrl access.url path r.target.query, fields.insert userField user,
              r.headers.upgradeProtocol?.isSome⟩ := by
  unfold direct withHost
  cases plugin <;> rfl

theorem direct_ok {access : ClusterAccess} {r : Request} {path : String} {plugin : Bool}
    {out : Outbound} (h : direct access r path plugin = .ok out) :
    ∃ hosted fields, withHost (targetUrl access.url path r.target.query) plugin
        (passedOn r.headers) = .ok hosted ∧
      withCredential r.headers (withUserAgent hosted) access.token = .ok fields ∧
      out = ⟨r.method, targetUrl access.url path r.target.query,
        fields.insert userField (Octets.ofText access.username),
        r.headers.upgradeProtocol?.isSome⟩ := by
  rw [direct_eq] at h
  cases hh : withHost (targetUrl access.url path r.target.query) plugin (passedOn r.headers) with
  | error f => simp [hh, Except.bind] at h
  | ok hosted =>
    cases hc : withCredential r.headers (withUserAgent hosted) access.token with
    | error f => simp [hh, hc, Except.bind] at h
    | ok fields =>
      cases hu : fieldValue access.username with
      | error f => simp [hh, hc, hu, Except.bind, Except.map] at h
      | ok user =>
        simp only [hh, hc, hu, Except.bind, Except.map, Except.ok.injEq] at h
        rw [fieldValue_eq hu] at h
        exact ⟨hosted, fields, rfl, hc, h.symm⟩

end Outbound

end WorkspaceGateway
