import WorkspaceGateway.Proofs.DirectedFields
import WorkspaceGateway.Proofs.ResolvedAccess
import WorkspaceGateway.Proofs.ResolvedPath
import WorkspaceGateway.Proofs.RoutingStages

/-!
# Two readings of a namespace

The authorizer cuts the path of a request at its slashes as it stands. The member cluster reads
the path of the URL it is sent, which is resolved, and decodes it. Where the two readings of a
path differ, the namespace that was authorized is not the one that is acted on.
-/

set_option autoImplicit false

namespace WorkspaceGateway

open Octets Url

/-! ## The receiver's reading -/

def octetNamespace : List Octets → Option Octets
  | [] => none
  | s :: ss =>
    if s = ofText "namespaces" then
      match ss with
      | [] => none
      | n :: _ => if n.isEmpty then none else some n
    else octetNamespace ss

theorem octetNamespace_other {s : Octets} (h : s ≠ ofText "namespaces") (ss : List Octets) :
    octetNamespace (s :: ss) = octetNamespace ss := if_neg h

theorem octetNamespace_lead {s : Octets} (h : s = ofText "namespaces") (ss : List Octets) :
    octetNamespace (s :: ss) = match ss with
      | [] => none
      | n :: _ => if n.isEmpty then none else some n := if_pos h

theorem namespaceAfter_other {s : List Char} (h : s ≠ "namespaces".toList)
    (ss : List (List Char)) : namespaceAfter (s :: ss) = namespaceAfter ss := if_neg h

theorem namespaceAfter_lead {s : List Char} (h : s = "namespaces".toList)
    (ss : List (List Char)) : namespaceAfter (s :: ss) = match ss with
      | [] => none
      | n :: _ => if n.isEmpty then none else some n := if_pos h

def receivedNamespace (u : Url) : Option Octets :=
  octetNamespace (Text.splitAt 0x2F (percentDecode (ofText u.pathText)))

theorem ofChars_injective {s t : List Char} (h : ofChars s = ofChars t) : s = t := by
  rw [← ofText_ofList, ← ofText_ofList] at h
  exact String.ofList_injective (ofText_injective h)

theorem octetNamespace_ofChars (ss : List (List Char)) :
    octetNamespace (ss.map ofChars) = (namespaceAfter ss).map ofChars := by
  induction ss with
  | nil => rfl
  | cons s ss ih =>
    have hlead : ofChars s = ofText "namespaces" ↔ s = "namespaces".toList := by
      rw [ofText_eq]
      exact ⟨ofChars_injective, fun h => congrArg ofChars h⟩
    rw [List.map_cons]
    by_cases hs : s = "namespaces".toList
    · rw [octetNamespace_lead (hlead.mpr hs), namespaceAfter_lead hs]
      cases ss with
      | nil => rfl
      | cons n r =>
        have hempty : (ofChars n).isEmpty = n.isEmpty := by
          cases n with
          | nil => rfl
          | cons c n => simp
        simp only [List.map_cons, hempty]
        split <;> rfl
    · rw [octetNamespace_other (fun h => hs (hlead.mp h)), namespaceAfter_other hs]
      exact ih

theorem octetNamespace_root (ss : List Octets) : octetNamespace ([] :: ss) = octetNamespace ss :=
  octetNamespace_other (by decide +kernel) ss

theorem namespaceAfter_root (ss : List (List Char)) :
    namespaceAfter ([] :: ss) = namespaceAfter ss :=
  namespaceAfter_other (by decide) ss

/-! ## The URL that is sent -/

def afterRoot : List Char → List Char
  | '/' :: r => r
  | r => r

theorem namespaceAfter_afterRoot (s : List Char) :
    namespaceAfter (Text.splitAt '/' (afterRoot s)) = namespaceAfter (Text.splitAt '/' s) := by
  unfold afterRoot
  split
  · rw [Text.splitAt_cons_self, namespaceAfter_root]
  · rfl

def withoutLastSlash (s : List Char) : List Char :=
  if s.getLast? = some '/' then s.dropLast else s

theorem afterRoot_cases (s : List Char) :
    (∃ r, s = '/' :: r ∧ afterRoot s = r) ∨ ((s.head? == some '/') = false ∧ afterRoot s = s) := by
  cases s with
  | nil => exact .inr ⟨rfl, rfl⟩
  | cons c r =>
    by_cases hc : c = '/'
    · exact .inl ⟨r, by rw [hc], by rw [hc]; rfl⟩
    · refine .inr ⟨by simpa using hc, ?_⟩
      unfold afterRoot
      split
      · rename_i he
        exact absurd (List.cons.inj he).1 hc
      · rfl

theorem withoutLastSlash_cases (s : List Char) :
    (∃ r, s = r ++ ['/'] ∧ withoutLastSlash s = r) ∨
      ((s.getLast? == some '/') = false ∧ withoutLastSlash s = s) := by
  by_cases hs : s.getLast? = some '/'
  · obtain rfl | ⟨r, c, rfl⟩ := List.eq_nil_or_concat s
    · simp at hs
    · obtain rfl : c = '/' := by simpa using hs
      exact .inl ⟨r, by simp, by simp [withoutLastSlash]⟩
  · exact .inr ⟨by simpa using hs, if_neg hs⟩

theorem joinPaths_eq (a b : List Char) :
    joinPaths a b = withoutLastSlash a ++ '/' :: afterRoot b := by
  rcases withoutLastSlash_cases a with ⟨w, rfl, ha⟩ | ⟨hlast, ha⟩
  · rcases afterRoot_cases b with ⟨r, rfl, hb⟩ | ⟨hhead, hb⟩
    · simp [ha, hb, joinPaths]
    · simp [ha, hb, joinPaths, hhead]
  · rcases afterRoot_cases b with ⟨r, rfl, hb⟩ | ⟨hhead, hb⟩
    · simp [ha, hb, joinPaths, hlast]
    · simp only [ha, hb, joinPaths, hlast, hhead]

theorem joinPaths_root (s : List Char) : joinPaths ['/'] s = '/' :: afterRoot s :=
  joinPaths_eq ['/'] s

theorem pathSegments_root (scheme : String) (s : List Char) :
    pathSegments scheme ('/' :: s) = segmentsAfterRoot scheme s := by
  have hkept : ('/' :: s).filter (!isSkipped ·) = '/' :: s.filter (!isSkipped ·) := by
    simp [isSkipped]
  have hroot : isSlash (isSpecialScheme scheme) '/' = true := by simp [isSlash]
  rw [pathSegments, hkept]
  simp only [hroot, if_true, segmentsAfterRoot, List.filter_filter, Bool.and_self]

def resolvedNamespace (scheme path : String) : Option Octets :=
  octetNamespace ((bareSegments scheme (afterRoot path.toList)).flatMap fun t =>
    Text.splitAt 0x2F (percentDecode (ofChars t)))

/-- What a receiver at the root of a URL reads depends on the path alone, however it is encoded. -/
theorem received_targetUrl {target : Url} (h : target.path = .segments [[]]) (path : String)
    (query : Option String) :
    receivedNamespace (Outbound.targetUrl target path query) =
      resolvedNamespace target.scheme path := by
  have hroot : target.path.text = ['/'] := by
    rw [h]
    rfl
  have hpath : (Outbound.targetUrl target path query).path =
      .segments (segmentsAfterRoot target.scheme (afterRoot path.toList)) := by
    rw [Outbound.targetUrl_path h, hroot, joinPaths_root, pathSegments_root]
  rw [receivedNamespace, pathText, hpath, ofText_ofList, split_decoded_path, octetNamespace_root]
  rfl

def ReadAlike (scheme path : String) : Prop :=
  resolvedNamespace scheme path = (namespaceOf path).map ofText

instance (scheme path : String) : Decidable (ReadAlike scheme path) :=
  inferInstanceAs (Decidable (_ = _))

theorem plain_afterRoot {s : List Char} (h : IsPlain s) : IsPlain (afterRoot s) := by
  unfold afterRoot
  split
  · rename_i r
    refine ⟨fun c hc => h.character c (List.mem_cons_of_mem '/' hc), fun t ht => h.segment t ?_⟩
    rw [Text.splitAt_cons_self]
    exact List.mem_cons_of_mem [] ht
  · exact h

theorem readAlike_of_plain {scheme path : String} (hf : scheme ≠ "file")
    (h : IsPlain path.toList) : ReadAlike scheme path := by
  have hplain := plain_afterRoot h
  have hsegment (t : List Char) (ht : t ∈ Text.splitAt '/' (afterRoot path.toList)) :
      Text.splitAt 0x2F (percentDecode (ofChars t)) = [ofChars t] := by
    have hoctets (c : Char) (x : UInt8) (hx : x.toNat = c.toNat) (hlt : x.toNat < 0x80)
        (hc : c ∉ t) : x ∉ ofChars t := by
      intro hm
      obtain ⟨d, hd, hmem⟩ := List.mem_flatMap.mp hm
      have hn := ascii_mem hlt hmem
      exact hc (Char.toNat_inj.mp (hn.trans hx) ▸ hd)
    have hpercent : '%' ∉ t := fun hm =>
      (hplain.character '%' (Text.mem_of_mem_splitAt ht hm)).1 rfl
    have hslash : '/' ∉ t := Text.not_mem_of_mem_splitAt '/' _ t ht
    rw [percentDecode_plain (hoctets '%' 0x25 (by decide) (by decide) hpercent),
      Text.splitAt_of_not_mem (hoctets '/' 0x2F (by decide) (by decide) hslash)]
  have hmap : ((bareSegments scheme (afterRoot path.toList)).flatMap fun t =>
      Text.splitAt 0x2F (percentDecode (ofChars t))) =
        (Text.splitAt '/' (afterRoot path.toList)).map ofChars := by
    rw [bareSegments_plain hf hplain, List.map_eq_flatMap, List.flatMap_def, List.flatMap_def,
      List.map_congr_left hsegment]
  rw [ReadAlike, resolvedNamespace, hmap, octetNamespace_ofChars, namespaceAfter_afterRoot,
    namespaceOf, Option.map_map]
  congr 1
  funext s
  exact (ofText_ofList s).symm

/-! ## A directory that lets every path in -/

def openMember : MemberCluster :=
  ⟨"member", "https://member", "", "token", some memberRoutes⟩

def openWorkspace (p : RequestPath) : Workspace :=
  ⟨p.workspace.getD "home", .home, (namespaceOf p.rest).toList, "", "", "member"⟩

def openDirectory (p : RequestPath) : Directory where
  isBanned _ := .ok false
  workspaces _ _ := .ok [openWorkspace p]
  signup _ _ := .ok (some ⟨"user", "user", "member", "https://member"⟩)
  workspace name := .ok ⟨name, .other, [], "", "", "member"⟩
  members := [openMember]
  plugin name := .ok ⟨name, some ⟨"route", "route"⟩⟩

namespace Proxy

variable {g : Gateway} {i : Identity} {p : RequestPath}

theorem open_resolved (p : RequestPath) (userId username : String) (viewerEnabled : Bool) :
    ∃ user, Headers.isValue (ofText user) = true ∧
      Access.resolve (openDirectory p).steady userId username p.workspace p.plugin
        viewerEnabled = .ok ⟨memberUrl, "token", user⟩ := by
  have hto (user : String) : Access.toMember (openDirectory p) openMember user p.plugin =
      .ok ⟨memberUrl, "token", user⟩ := by
    have hurl : Access.memberUrl (openDirectory p) openMember p.plugin = .ok memberUrl :=
      memberUrl_resolved rfl rfl fun n _ => ⟨⟨"route", "route"⟩, rfl⟩
    rw [Access.toMember, hurl]
    rfl
  have hsignup : Access.provisionedSignup (openDirectory p) userId username =
      .ok ⟨"user", "user", "member", "https://member"⟩ := by
    exact Access.provisioned_ok.mpr ⟨rfl, by decide⟩
  have hmembers : (openDirectory p).members = [openMember] := rfl
  cases hw : p.workspace with
  | none =>
    refine ⟨"user", by decide +kernel, ?_⟩
    simp only [Access.resolve, Access.home, Directory.steady, hsignup, Access.registeredMembers,
      hmembers]
    simpa [openMember] using hto "user"
  | some n =>
    have huser : ∃ user, Headers.isValue (ofText user) = true ∧
        Access.impersonated (openDirectory p).steady userId username viewerEnabled =
          .ok user := by
      unfold Access.impersonated
      split
      · rename_i hv
        simp only [Bool.and_eq_true, decide_eq_true_eq] at hv
        exact ⟨username, hv.2 ▸ by decide +kernel, rfl⟩
      · simp only [Directory.steady, hsignup]
        exact ⟨"user", by decide +kernel, rfl⟩
    obtain ⟨user, hv, hu⟩ := huser
    refine ⟨user, hv, ?_⟩
    have hspace : (openDirectory p).workspace n = .ok ⟨n, .other, [], "", "", "member"⟩ := rfl
    rw [Access.resolve, Access.named, hu]
    simp only [Directory.steady, hspace, Access.registeredMembers, hmembers]
    simpa [openMember] using hto user

theorem open_routed (g : Gateway) (i : Identity) (p : RequestPath) :
    ∃ user, Headers.isValue (ofText user) = true ∧
      (routeTarget g (openDirectory p).steady i p).outcome =
        .ok (⟨memberUrl, "token", user⟩, p) := by
  have hlist : accessibleWorkspaces g (openDirectory p).steady i p.workspace =
      .ok (i, [openWorkspace p]) := by
    have hl : listWorkspaces (openDirectory p) i p.workspace = .ok [openWorkspace p] :=
      (list_ok_iff _ _ _).mpr rfl
    have hr : reachable [openWorkspace p] p.workspace = true := by
      cases hw : p.workspace with
      | none => rfl
      | some n => simp [reachable, holds, openWorkspace, hw]
    simp [accessibleWorkspaces, Directory.steady, hl, hr]
  have hauth : Workspace.authorize p.workspace (namespaceOf p.rest) [openWorkspace p] =
      .ok (openWorkspace p) := Workspace.authorize_single rfl rfl rfl
  obtain ⟨user, hv, hr⟩ := open_resolved p i.userId i.username g.publicViewer
  refine ⟨user, hv, ?_⟩
  rw [route_target_outcome hlist, hr]
  simp only [hauth]

/-- Every path of an authenticated caller is sent on to a root by some directory. -/
theorem open_sent {r : Request} (ha : Credential.authenticate g.readToken r.headers = .ok i)
    (hp : RequestPath.parse r.target.path = .ok p) :
    ∃ access x, (route g (openDirectory p).steady r).outcome = .ok (access, p) ∧
      access.url = memberUrl ∧ (handle g (openDirectory p).steady r).sent = some x := by
  have hnot : checkNotBanned ((openDirectory p).steady .banned) i = .ok () :=
    admitted_of_no_ban (fun _ => rfl) i
  obtain ⟨user, hv, ht⟩ := open_routed g i p
  have hroute := (congrArg Routing.outcome (route_of_caller ha hnot hp)).trans ht
  have hhost : Headers.isValue (ofText (Outbound.hostField memberUrl)) = true := by decide +kernel
  have htoken : Headers.isValue (ofText ("Bearer " ++ "token")) = true := by decide +kernel
  obtain ⟨out, hout⟩ := Outbound.direct_of_values ⟨memberUrl, "token", user⟩
    hhost htoken hv r p.rest p.plugin.isSome
  exact ⟨_, _, hroute, rfl, handle_of_routed hroute hout⟩

/-! ## The namespace that is sent -/

/-- For every request of an authenticated caller that is sent on to a root: the namespace that the
receiver reads is the one that was authorized exactly when the path reads alike once it is resolved
and decoded. Every such path is sent on by some directory, and a plain path always reads alike. -/
theorem received_namespace_iff (g : Gateway) (r : Request) (i : Identity) (p : RequestPath)
    (ha : Credential.authenticate g.readToken r.headers = .ok i)
    (hp : RequestPath.parse r.target.path = .ok p) :
    (∀ view access q x, (route g view r).outcome = .ok (access, q) →
      access.url.path = .segments [[]] → (handle g view r).sent = some x →
      (receivedNamespace x.outbound.url = (namespaceOf p.rest).map ofText ↔
        ReadAlike access.url.scheme p.rest)) ∧
    (∃ view access x, (route g view r).outcome = .ok (access, p) ∧ access.url = memberUrl ∧
      (handle g view r).sent = some x) ∧
    (∀ scheme, scheme ≠ "file" → IsPlain p.rest.toList → ReadAlike scheme p.rest) := by
  refine ⟨?_, ?_, fun scheme hf hplain => readAlike_of_plain hf hplain⟩
  · intro view access q x hroute hroot hsent
    obtain ⟨access', p', hroute', hdirect, -, -⟩ := handle_sent hsent
    obtain ⟨i', q', -, -, hq, ht⟩ := route_ok hroute'
    obtain ⟨hpq, -⟩ := route_target_ok ht
    have hsame := Except.ok.inj (hroute'.symm.trans hroute)
    have haccess : access' = access := congrArg Prod.fst hsame
    have hpath : p' = p := hpq.trans (Except.ok.inj (hq.symm.trans hp))
    rw [haccess, hpath] at hdirect
    obtain ⟨hosted, fields, -, -, hout⟩ := Outbound.direct_ok hdirect
    rw [hout, received_targetUrl hroot]
    rfl
  · obtain ⟨access, x, hroute, hurl, hsent⟩ := open_sent ha hp
    exact ⟨_, access, x, hroute, hurl, hsent⟩

def devRequest : Request :=
  { smithRequest with target := ⟨"/api/v1/namespaces/dev/pods", none⟩ }

theorem dev_namespace_received :
    Credential.authenticate smithGateway.readToken devRequest.headers = .ok smith ∧
    RequestPath.parse devRequest.target.path = .ok ⟨none, none, "/api/v1/namespaces/dev/pods"⟩ ∧
    ∃ view x, (handle smithGateway view devRequest).sent = some x ∧
      receivedNamespace x.outbound.url = some (ofText "dev") := by
  have hp : RequestPath.parse devRequest.target.path =
      .ok ⟨none, none, "/api/v1/namespaces/dev/pods"⟩ := ok_of_toOption (by decide +kernel)
  have hall : ("/api/v1/namespaces/dev/pods".toList.all fun c =>
      c ≠ '%' && c ≠ '\\' && !isSkipped c) = true := by decide +kernel
  have hplain : IsPlain "/api/v1/namespaces/dev/pods".toList := by
    refine ⟨fun c hc => ?_, by decide +kernel⟩
    have hcharacter := List.all_eq_true.mp hall c hc
    simpa [and_assoc] using hcharacter
  have hdev : namespaceOf "/api/v1/namespaces/dev/pods" = some "dev" := by decide +kernel
  obtain ⟨hiff, ⟨view, access, x, hroute, hurl, hsent⟩, halike⟩ :=
    received_namespace_iff smithGateway devRequest smith _ smith_authenticated hp
  have hroot : access.url.path = .segments [[]] := by
    rw [hurl]
    rfl
  have hreads := halike access.url.scheme (by rw [hurl]; decide) hplain
  have hsame := (hiff view access _ x hroute hroot hsent).mpr hreads
  rw [hdev] at hsame
  exact ⟨smith_authenticated, hp, view, x, hsent, hsame⟩

def strayRequest (path : String) : Request :=
  { smithRequest with target := ⟨"/workspaces/smith" ++ path, none⟩ }

/-- Of a path that is sent on: the path of the target, the namespace that was authorized and the
one that the receiver reads. -/
def strayReading (path : String) : Option (UrlPath × Option String × Option Octets) :=
  match (route smithGateway smithViews (strayRequest path)).outcome,
    (handle smithGateway smithViews (strayRequest path)).sent with
  | .ok (access, p), some x =>
    some (access.url.path, namespaceOf p.rest, receivedNamespace x.outbound.url)
  | _, _ => none

/-- A path that leaves the authorized namespace by dots, spells the word `namespaces` by an escape
or cuts itself by backslashes names another namespace to the receiver. -/
theorem other_namespace_received :
    strayReading "/api/v1/namespaces/dev/../other/secrets" =
        some (.segments [[]], some "dev", some (ofText "other")) ∧
      strayReading "/api/v1/%6eamespaces/other/secrets" =
        some (.segments [[]], none, some (ofText "other")) ∧
      strayReading "/api/v1\\namespaces\\other\\secrets" =
        some (.segments [[]], none, some (ofText "other")) := by
  refine ⟨?_, ?_, ?_⟩ <;> decide +kernel

end Proxy

end WorkspaceGateway
