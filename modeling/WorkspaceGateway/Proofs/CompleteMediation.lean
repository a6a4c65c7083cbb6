import WorkspaceGateway.Proofs.HiddenWorkspace

/-!
# Complete mediation

Whatever the token reader, the read models and the member clusters answer, a request reaches a
member at most once, and only after every check let it pass: its caller is known and not banned,
its path was understood, and its workspace and namespace were found on a list that counts for it.
The workspace API tells a caller who is not let in nothing of what the read models hold.
-/

set_option autoImplicit false

namespace WorkspaceGateway

/-! ## Who is let in -/

structure Admitted (g : Gateway) (view : Views) (h : Headers) (i : Identity) : Prop where
  accepted : ∃ t c, Credential.token h = .ok t ∧ g.readToken t = some c ∧ i = .ofClaims c
  cleared : ∀ email, i.email = some email →
    email = "" ∨ (view .banned).isBanned email = .ok false

variable {g : Gateway} {view : Views} {r : Request} {i : Identity} {h : Headers} {f : Fault}

theorem admitted_iff : Admitted g view h i ↔ Credential.authenticate g.readToken h = .ok i ∧
    Proxy.checkNotBanned (view .banned) i = .ok () := by
  rw [Credential.authenticate_ok_iff, Proxy.checkNotBanned_ok_iff]
  exact ⟨fun ⟨ha, hc⟩ => ⟨ha, hc⟩, fun ⟨ha, hc⟩ => ⟨ha, hc⟩⟩

namespace WorkspaceApi

theorem caller_ok_iff : caller g view h = .ok i ↔ Admitted g view h i := by
  rw [admitted_iff]
  unfold caller
  cases ha : Credential.authenticate g.readToken h with
  | error f => simp
  | ok j =>
    cases hb : Proxy.checkNotBanned (view .banned) j with
    | error f =>
      simp only [hb, reduceCtorEq, Except.ok.injEq, false_iff, not_and]
      rintro rfl
      simp [hb]
    | ok _ =>
      simp only [hb, Except.ok.injEq]
      exact ⟨fun hj => ⟨hj, hj ▸ hb⟩, fun hj => hj.1⟩

theorem answers_of_refused (hf : caller g view r.headers = .error f) :
    (handleList g view r).response = .ofFault f ∧
      ∀ name, (handleGet g view r name).response = .ofFault f := by
  constructor
  · simp [handleList, exchange, listFor, hf, Except.map]
  · intro name
    simp [handleGet, exchange, getFor, hf, Except.map]

theorem caller_congr {view' : Views} (hb : view' .banned = view .banned) :
    caller g view' h = caller g view h := by
  rw [caller, caller, hb]

end WorkspaceApi

/-! ## At most one request to a member -/

/-- A course of handling that asks the members nothing, or asks one thing and goes on with the
answer. -/
inductive Asking (α : Type) where
  | done (result : α)
  | ask (question : Sent) (next : Except Fault Response → α)

namespace Asking

variable {α : Type}

def run (send : Sender) : Asking α → α
  | done result => result
  | ask question next => next (send question)

def asked : Asking α → Option Sent
  | done _ => none
  | ask question _ => some question

def map {β : Type} (f : α → β) : Asking α → Asking β
  | done result => .done (f result)
  | ask question next => .ask question fun answer => f (next answer)

theorem run_map {β : Type} (f : α → β) (send : Sender) (course : Asking α) :
    (course.map f).run send = f (course.run send) := by
  cases course <;> rfl

theorem asked_map {β : Type} (f : α → β) (course : Asking α) :
    (course.map f).asked = course.asked := by
  cases course <;> rfl

end Asking

def Gateway.before (g : Gateway) (send : Sender) : Gateway := { g with send := send }

namespace Proxy

theorem follow_asking (g : Gateway) (r : Request) (routing : Routing) :
    ∃ course : Asking (Except Fault Response × Option Sent), ∀ send,
      follow (g.before send) r routing = course.run send ∧
        (follow (g.before send) r routing).2 = course.asked := by
  unfold follow
  cases routing.outcome with
  | error f => exact ⟨.done (.error f, none), fun send => ⟨rfl, rfl⟩⟩
  | ok ap =>
    obtain ⟨access, p⟩ := ap
    cases hd : Outbound.direct access r p.rest p.plugin.isSome with
    | error f =>
      refine ⟨.done (.error f, none), fun send => ?_⟩
      simp only [Relay.forward, hd]
      exact ⟨rfl, rfl⟩
    | ok out =>
      refine ⟨.ask ⟨out, r.body, r.headers.upgradeProtocol?.isSome⟩ fun answer =>
        (answer.map fun resp => { resp with headers := Cors.applyResponseHeaders resp.headers },
          some ⟨out, r.body, r.headers.upgradeProtocol?.isSome⟩), fun send => ?_⟩
      simp only [Relay.forward, hd]
      exact ⟨rfl, rfl⟩

/-- Where a request goes is found without the members, and then one of them is asked at most. -/
theorem handle_asking (g : Gateway) (view : Views) (r : Request) :
    ∃ course : Asking Exchange, ∀ send, handle (g.before send) view r = course.run send ∧
      (handle (g.before send) view r).sent = course.asked := by
  obtain ⟨course, hcourse⟩ := follow_asking g r (route g view r)
  refine ⟨course.map fun x => ⟨responseOf x.1, some (route g view r).context, x.2,
    (route g view r).decision.toList.map Count.decision ++
      [Count.proxied (responseOf x.1).status (route g view r).context.routeLabel]⟩,
    fun send => ?_⟩
  obtain ⟨hrun, hasked⟩ := hcourse send
  rw [Asking.run_map, Asking.asked_map, ← hrun, ← hasked]
  exact ⟨rfl, rfl⟩

end Proxy

namespace Router

theorem dispatch_asking (g : Gateway) (view : Views) (e : Endpoint) (r : Request) :
    ∃ course : Asking Exchange, ∀ send, dispatch (g.before send) view e r = course.run send ∧
      (dispatch (g.before send) view e r).sent = course.asked := by
  cases e with
  | health => exact ⟨.done (uncounted health), fun send => ⟨rfl, rfl⟩⟩
  | workspaceList => exact ⟨.done (WorkspaceApi.handleList g view r), fun send => ⟨rfl, rfl⟩⟩
  | workspace segment =>
    simp only [dispatch]
    cases (Url.percentDecode (Octets.ofText (String.ofList segment))).text? with
    | none => exact ⟨.done (uncounted badName), fun send => ⟨rfl, rfl⟩⟩
    | some name => exact ⟨.done (WorkspaceApi.handleGet g view r name), fun send => ⟨rfl, rfl⟩⟩
  | proxied => exact Proxy.handle_asking g view r

theorem handle_asking (g : Gateway) (view : Views) (r : Request) :
    ∃ course : Asking Exchange, ∀ send, handle (g.before send) view r = course.run send ∧
      (handle (g.before send) view r).sent = course.asked := by
  cases hp : Cors.isPreflight r.method r.headers with
  | true =>
    refine ⟨.done (handle g view r), fun send => ?_⟩
    rw [handle_of_preflight hp, handle_of_preflight hp]
    exact ⟨rfl, rfl⟩
  | false =>
    cases hm : refuses r with
    | true =>
      refine ⟨.done (handle g view r), fun send => ?_⟩
      rw [handle_of_refused hp hm, handle_of_refused hp hm]
      exact ⟨rfl, rfl⟩
    | false =>
      obtain ⟨course, hcourse⟩ :=
        dispatch_asking g view (Endpoint.ofPath r.target.path) r.stripped
      refine ⟨course.map fun x => { x with response := x.response.forMethod r.method },
        fun send => ?_⟩
      obtain ⟨hrun, hasked⟩ := hcourse send
      rw [handle_of_dispatched hp hm, Asking.run_map, Asking.asked_map, ← hrun, ← hasked]
      exact ⟨rfl, rfl⟩

theorem admitted_stripped (ha : Admitted g view r.stripped.headers i) :
    Admitted g view r.headers i := by
  obtain ⟨⟨t, c, ht, hc, hi⟩, hcleared⟩ := ha
  have ht' : Credential.token r.headers = .ok t :=
    (Credential.token_withoutImpersonation r.headers).symm.trans ht
  exact ⟨⟨t, c, ht', hc, hi⟩, hcleared⟩

/-- Every check stands before the members: at most one request is put to them, and only for a
caller who was let in, on a path that was understood, into a workspace and a namespace that were
authorized on a list that counts. The workspace API answers a caller who is not let in by a fault
that no other lookup has a part in. -/
theorem complete_mediation (g : Gateway) (view : Views) (r : Request) :
    (∃ course : Asking Exchange, ∀ send, handle (g.before send) view r = course.run send ∧
      (handle (g.before send) view r).sent = course.asked) ∧
    (∀ x, (handle g view r).sent = some x → ∃ i p caller ws w access,
      Admitted g view r.headers i ∧ RequestPath.parse r.target.path = .ok p ∧
      Proxy.ListedFor g view i p.workspace caller ws ∧
      Workspace.authorize p.workspace (namespaceOf p.rest) ws = .ok w ∧
      Outbound.direct access r.stripped p.rest p.plugin.isSome = .ok x.outbound) ∧
    ((∀ i, ¬ Admitted g view r.headers i) → ∃ f, ∀ view', view' .banned = view .banned →
      (WorkspaceApi.handleList g view' r).response = .ofFault f ∧
      ∀ name, (WorkspaceApi.handleGet g view' r name).response = .ofFault f) := by
  refine ⟨handle_asking g view r, fun x hx => ?_, fun hnone => ?_⟩
  · obtain ⟨access, q, hroute, hdirect, -, -⟩ := Proxy.handle_sent (handle_sent hx)
    obtain ⟨i, p, ha, hb, hp, ht⟩ := Proxy.route_ok hroute
    obtain ⟨rfl, caller, ws, w, hl, -, hw⟩ := Proxy.route_target_ok ht
    exact ⟨i, q, caller, ws, w, access, admitted_stripped (admitted_iff.mpr ⟨ha, hb⟩), hp,
      Proxy.accessible_listedFor hl, hw, hdirect⟩
  · cases hc : WorkspaceApi.caller g view r.headers with
    | ok i => exact absurd (WorkspaceApi.caller_ok_iff.mp hc) (hnone i)
    | error f =>
      exact ⟨f, fun view' hb =>
        WorkspaceApi.answers_of_refused ((WorkspaceApi.caller_congr hb).trans hc)⟩

def anonymousRequest : Request := { smithRequest with headers := Headers.empty }

theorem anonymous_refused :
    (∃ x i p caller ws w access, (handle smithGateway smithViews smithRequest).sent = some x ∧
      Admitted smithGateway smithViews smithRequest.headers i ∧
      RequestPath.parse smithRequest.target.path = .ok p ∧
      Proxy.ListedFor smithGateway smithViews i p.workspace caller ws ∧
      Workspace.authorize p.workspace (namespaceOf p.rest) ws = .ok w ∧
      Outbound.direct access smithRequest.stripped p.rest p.plugin.isSome = .ok x.outbound) ∧
    (∀ i, ¬ Admitted smithGateway smithViews anonymousRequest.headers i) ∧
    ∃ f, ∀ view', view' .banned = smithViews .banned →
      (WorkspaceApi.handleList smithGateway view' anonymousRequest).response = .ofFault f ∧
      ∀ name, (WorkspaceApi.handleGet smithGateway view' anonymousRequest name).response =
        .ofFault f := by
  have hsent : (handle smithGateway smithViews smithRequest).sent.isSome = true := by
    decide +kernel
  obtain ⟨x, hx⟩ := Option.isSome_iff_exists.mp hsent
  have hnone (i : Identity) : ¬ Admitted smithGateway smithViews anonymousRequest.headers i := by
    rintro ⟨⟨t, c, ht, -⟩, -⟩
    have habsent : (Credential.token anonymousRequest.headers).toOption = none := by
      decide +kernel
    simp [ht, Except.toOption] at habsent
  obtain ⟨-, hmediated, -⟩ := complete_mediation smithGateway smithViews smithRequest
  obtain ⟨-, -, hrefused⟩ := complete_mediation smithGateway smithViews anonymousRequest
  obtain ⟨i, p, caller, ws, w, access, h⟩ := hmediated x hx
  exact ⟨⟨x, i, p, caller, ws, w, access, hx, h⟩, hnone, hrefused hnone⟩

end Router

end WorkspaceGateway
