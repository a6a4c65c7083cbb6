import WorkspaceGateway.Proofs.CompleteMediation

/-!
# What requests are counted as

A request that goes to the proxy is counted once, under the status of its answer; one that is let
through to be sent on is counted as allowed as well, and no other is. The totals of a run follow by
induction over its arrivals. Each arrival has keys, read models and members of its own, so nothing
has to stay as it is between two requests.
-/

set_option autoImplicit false

namespace WorkspaceGateway

namespace Count

def isProxied : Count → Bool
  | proxied .. => true
  | _ => false

def isProxiedAs (status : Nat) : Count → Bool
  | proxied s _ => s = status
  | _ => false

def isSentOn : Count → Bool
  | proxied _ target => target ≠ rejected
  | _ => false

end Count

/-! ## One request -/

namespace Response

theorem status_forMethod (method : String) (r : Response) :
    (r.forMethod method).status = r.status := by
  have hlength : r.withLength.status = r.status := by
    unfold withLength
    split <;> rfl
  unfold forMethod
  split
  · rfl
  · simp only
    split <;> exact hlength

end Response

namespace Proxy

inductive Routing.Ended (routing : Routing) : Prop
  | rejected (f : Fault) (outcome : routing.outcome = .error f)
      (decision : routing.decision ≠ some true) (target : routing.context.routeTo = none)
  | letThrough (access : ClusterAccess) (p : RequestPath)
      (outcome : routing.outcome = .ok (access, p)) (decision : routing.decision = some true)
      (target : routing.context.routeTo = access.url.host?)

variable {g : Gateway} {view : Views} {r : Request} {i : Identity} {p : RequestPath}

theorem routeTarget_ended : (routeTarget g view i p).Ended := by
  unfold routeTarget
  cases accessibleWorkspaces g view i p.workspace with
  | error f => exact .rejected f rfl nofun rfl
  | ok cw =>
    obtain ⟨caller, ws⟩ := cw
    simp only
    cases Access.resolve view caller.userId caller.username p.workspace p.plugin
        g.publicViewer with
    | error e => exact .rejected _ rfl nofun rfl
    | ok access =>
      simp only
      cases Workspace.authorize p.workspace (namespaceOf p.rest) ws with
      | error e => exact .rejected _ rfl nofun rfl
      | ok w => exact .letThrough access p rfl rfl rfl

theorem handle_of_way {access : ClusterAccess} (h : (route g view r).outcome = .ok (access, p)) :
    (handle g view r).response =
        responseOf (Relay.forward g.send access r p.rest p.plugin.isSome).1 ∧
      (handle g view r).sent = (Relay.forward g.send access r p.rest p.plugin.isSome).2 := by
  have hfollow : follow g r (route g view r) =
      Relay.forward g.send access r p.rest p.plugin.isSome := by
    simp only [follow, h]
  rw [← hfollow]
  exact ⟨rfl, rfl⟩

theorem route_ended : (route g view r).Ended := by
  unfold route
  cases Credential.authenticate g.readToken r.headers with
  | error f => exact .rejected f rfl nofun rfl
  | ok i =>
    simp only
    cases checkNotBanned (view .banned) i with
    | error f => exact .rejected f rfl nofun rfl
    | ok _ =>
      simp only
      cases RequestPath.parse r.target.path with
      | error e => exact .rejected _ rfl nofun rfl
      | ok p => exact routeTarget_ended

end Proxy

/-- A request and what it met: the gateway with its keys and members, and what each of its lookups
saw. -/
structure Arrival where
  gateway : Gateway
  views : Views
  request : Request

namespace Arrival

def answer (a : Arrival) : Exchange := Router.handle a.gateway a.views a.request

def isProxied (a : Arrival) : Bool := Router.relays a.request

def routing (a : Arrival) : Proxy.Routing :=
  Proxy.route a.gateway a.views a.request.stripped

def forwarding (a : Arrival) : Option (Except Fault Response × Option Sent) :=
  if a.isProxied then
    a.routing.outcome.toOption.map fun way =>
      Relay.forward a.gateway.send way.1 a.request.stripped way.2.rest way.2.plugin.isSome
  else none

def isForwarded (a : Arrival) : Bool := a.forwarding.isSome

/-- Where the request is let through, its URL has a host, and not one of the name that rejected
requests are counted under. -/
def IsAddressed (a : Arrival) : Prop :=
  a.isProxied = true → ∀ access p, a.routing.outcome = .ok (access, p) →
    ∃ host, access.url.host? = some host ∧ host ≠ Count.rejected

variable {a : Arrival}

theorem answer_of_proxied (h : a.isProxied = true) :
    a.answer = { Proxy.handle a.gateway a.views a.request.stripped with
      response := (Proxy.handle a.gateway a.views a.request.stripped).response.forMethod
        a.request.method } := by
  simp only [isProxied, Router.relays, Bool.and_eq_true, Bool.not_eq_true', decide_eq_true_eq] at h
  obtain ⟨⟨hp, hm⟩, he⟩ := h
  rw [answer, Router.handle_of_dispatched hp hm, he]
  rfl

theorem counts_of_local (h : a.isProxied = false) {c : Count} (hc : c ∈ a.answer.counts) :
    ∃ status verb, c = .workspaceApi status verb := by
  unfold isProxied Router.relays at h
  unfold answer at hc
  cases hp : Cors.isPreflight a.request.method a.request.headers with
  | true => simp [Router.handle_of_preflight hp, Router.uncounted] at hc
  | false =>
    cases hm : Router.refuses a.request with
    | true => simp [Router.handle_of_refused hp hm, Router.uncounted] at hc
    | false =>
      rw [Router.handle_of_dispatched hp hm] at hc
      cases he : Endpoint.ofPath a.request.target.path with
      | health => simp [he, Router.dispatch, Router.uncounted] at hc
      | workspaceList =>
        rw [he] at hc
        exact ⟨_, .list, List.mem_singleton.mp hc⟩
      | workspace segment =>
        simp only [he, Router.dispatch] at hc
        split at hc
        · exact ⟨_, .get, List.mem_singleton.mp hc⟩
        · simp [Router.uncounted] at hc
      | proxied => simp [hp, hm, he] at h

/-- The ways in which a request is done with, and all that is counted on each. -/
inductive Exit (a : Arrival) : Prop
  /-- Answered by the gateway itself. -/
  | aside (unproxied : a.isProxied = false) (kept : a.forwarding = none)
      (unsent : a.answer.sent = none)
      (counts : ∀ c ∈ a.answer.counts, ∃ status verb, c = .workspaceApi status verb)
  | rejected (f : Fault) (decision : Option Bool) (proxied : a.isProxied = true)
      (kept : a.forwarding = none) (unsent : a.answer.sent = none)
      (answered : a.answer.response = (Response.ofFault f).forMethod a.request.method)
      (refused : decision ≠ some true)
      (counts : a.answer.counts = decision.toList.map Count.decision ++
        [.proxied a.answer.response.status Count.rejected])
  | forwarded (access : ClusterAccess) (p : RequestPath) (x : Except Fault Response × Option Sent)
      (proxied : a.isProxied = true) (way : a.routing.outcome = .ok (access, p))
      (called : a.forwarding = some x) (sent : a.answer.sent = x.2)
      (answered : a.answer.response = (Proxy.responseOf x.1).forMethod a.request.method)
      (counts : a.answer.counts = [.decision true,
        .proxied a.answer.response.status (access.url.host?.getD Count.rejected)])

theorem counts_of_proxied (h : a.isProxied = true) : a.answer.counts =
    a.routing.decision.toList.map Count.decision ++
      [.proxied a.answer.response.status (a.routing.context.routeTo.getD Count.rejected)] := by
  rw [answer_of_proxied h]
  simp only [Response.status_forMethod]
  rfl

theorem exit (a : Arrival) : Exit a := by
  cases hp : a.isProxied with
  | false =>
    have hkept : a.forwarding = none := by simp [forwarding, hp]
    have hunsent : a.answer.sent = none := by
      have hrelays : Router.relays a.request = false := hp
      simp [answer, Router.sent_eq, hrelays]
    exact .aside hp hkept hunsent fun c hc => counts_of_local hp hc
  | true =>
    have hanswer := answer_of_proxied hp
    have hcounts := counts_of_proxied hp
    have hended : a.routing.Ended := Proxy.route_ended
    cases hended with
    | rejected f outcome decision target =>
      obtain ⟨hfault, hunsent⟩ := Proxy.handle_of_fault outcome
      have hkept : a.forwarding = none := by simp [forwarding, outcome, Except.toOption]
      rw [target] at hcounts
      refine .rejected f _ hp hkept ?_ ?_ decision hcounts
      · rw [hanswer, hunsent]
      · rw [hanswer, hfault]
    | letThrough access p outcome decision target =>
      obtain ⟨hresponse, hsent⟩ := Proxy.handle_of_way outcome
      have hcalled : a.forwarding = some (Relay.forward a.gateway.send access a.request.stripped
          p.rest p.plugin.isSome) := by
        simp [forwarding, hp, outcome, Except.toOption]
      rw [decision, target] at hcounts
      refine .forwarded access p _ hp outcome hcalled ?_ ?_ hcounts
      · rw [hanswer, hsent]
      · rw [hanswer, hresponse]

theorem answered_as_forwarded (a : Arrival) :
    (∀ x, a.forwarding = some x → a.answer.sent = x.2 ∧
      a.answer.response = (Proxy.responseOf x.1).forMethod a.request.method) ∧
    (a.forwarding = none → a.answer.sent = none) := by
  cases a.exit with
  | aside unproxied kept unsent counts => exact ⟨by simp [kept], fun _ => unsent⟩
  | rejected f decision proxied kept unsent answered refused counts =>
    exact ⟨by simp [kept], fun _ => unsent⟩
  | forwarded access p x proxied way called sent answered counts =>
    refine ⟨fun y hy => ?_, by simp [called]⟩
    obtain rfl : x = y := Option.some.inj (called.symm.trans hy)
    exact ⟨sent, answered⟩

theorem counted_once (h : a.isProxied = true) : ∃ target,
    a.answer.counts.filter Count.isProxied = [.proxied a.answer.response.status target] := by
  refine ⟨a.routing.context.routeTo.getD Count.rejected, ?_⟩
  rw [counts_of_proxied h]
  cases a.routing.decision <;> simp [Count.isProxied]

theorem countP_of_aside
    (counts : ∀ c ∈ a.answer.counts, ∃ status verb, c = .workspaceApi status verb)
    {p : Count → Bool} (hp : ∀ status verb, p (.workspaceApi status verb) = false) :
    a.answer.counts.countP p = 0 := by
  refine List.countP_eq_zero.mpr fun c hc => ?_
  obtain ⟨status, verb, rfl⟩ := counts c hc
  simp [hp]

theorem countP_proxied (a : Arrival) :
    a.answer.counts.countP Count.isProxied = if a.isProxied then 1 else 0 := by
  cases a.exit with
  | aside unproxied kept unsent counts =>
    rw [countP_of_aside counts fun _ _ => rfl]
    simp [unproxied]
  | rejected f decision proxied kept unsent answered refused counts =>
    rw [proxied, counts]
    cases decision <;> simp [Count.isProxied]
  | forwarded access p x proxied way called sent answered counts =>
    rw [proxied, counts]
    simp [Count.isProxied]

theorem countP_proxiedAs (a : Arrival) (status : Nat) :
    a.answer.counts.countP (Count.isProxiedAs status) =
      if a.isProxied && a.answer.response.status = status then 1 else 0 := by
  cases a.exit with
  | aside unproxied kept unsent counts =>
    rw [countP_of_aside counts fun _ _ => rfl]
    simp [unproxied]
  | rejected f decision proxied kept unsent answered refused counts =>
    rw [proxied, counts]
    cases decision <;> simp [Count.isProxiedAs, List.countP_cons]
  | forwarded access p x proxied way called sent answered counts =>
    rw [proxied, counts]
    simp [Count.isProxiedAs, List.countP_cons]

theorem count_allowed (a : Arrival) :
    a.answer.counts.count (.decision true) = if a.isForwarded then 1 else 0 := by
  cases a.exit with
  | aside unproxied kept unsent counts =>
    rw [List.count, countP_of_aside counts fun _ _ => rfl]
    simp [isForwarded, kept]
  | rejected f decision proxied kept unsent answered refused counts =>
    rw [isForwarded, kept, counts]
    -- It may have been refused by the authorization, or before it came to that.
    rcases decision with - | - | -
    · simp
    · simp
    · exact absurd rfl refused
  | forwarded access p x proxied way called sent answered counts =>
    rw [isForwarded, called, counts]
    simp

theorem countP_sentOn (ha : a.IsAddressed) :
    a.answer.counts.countP Count.isSentOn = if a.isForwarded then 1 else 0 := by
  cases a.exit with
  | aside unproxied kept unsent counts =>
    rw [countP_of_aside counts fun _ _ => rfl]
    simp [isForwarded, kept]
  | rejected f decision proxied kept unsent answered refused counts =>
    rw [isForwarded, kept, counts]
    cases decision <;> simp [Count.isSentOn]
  | forwarded access p x proxied way called sent answered counts =>
    obtain ⟨host, hhost, hne⟩ := ha proxied access p way
    rw [isForwarded, called, counts, hhost]
    simp [Count.isSentOn, hne]

/-! ## A run -/

def countsOf (run : List Arrival) : List Count := run.flatMap fun a => a.answer.counts

theorem countP_countsOf {run : List Arrival} {p : Count → Bool} {kind : Arrival → Bool}
    (step : ∀ a ∈ run, a.answer.counts.countP p = if kind a then 1 else 0) :
    (countsOf run).countP p = run.countP kind := by
  induction run with
  | nil => rfl
  | cons a run ih =>
    have hrun := ih fun b hb => step b (List.mem_cons_of_mem a hb)
    rw [countsOf, List.flatMap_cons, ← countsOf, List.countP_append, hrun,
      step a List.mem_cons_self, List.countP_cons, Nat.add_comm]

/-- The counts of a run balance. Each request that goes to the proxy is counted once, under the
status of its answer, so the totals are those of the requests, for all statuses and for each. As
often as a request is let through, to be answered with what sending it on comes to, it is counted
as allowed, and where each of these has a host, also under a target other than that of rejected
requests. -/
theorem counts_balance (run : List Arrival) :
    (∀ a ∈ run, a.isProxied = true → ∃ target, a.answer.counts.filter Count.isProxied =
      [.proxied a.answer.response.status target]) ∧
    (countsOf run).countP Count.isProxied = run.countP isProxied ∧
    (∀ status, (countsOf run).countP (Count.isProxiedAs status) =
      run.countP fun a => a.isProxied && a.answer.response.status = status) ∧
    (∀ a ∈ run, (∀ x, a.forwarding = some x → a.answer.sent = x.2 ∧
        a.answer.response = (Proxy.responseOf x.1).forMethod a.request.method) ∧
      (a.forwarding = none → a.answer.sent = none)) ∧
    (countsOf run).count (.decision true) = run.countP isForwarded ∧
    ((∀ a ∈ run, a.IsAddressed) →
      (countsOf run).countP Count.isSentOn = run.countP isForwarded) :=
  ⟨fun _ _ h => counted_once h,
    countP_countsOf fun a _ => countP_proxied a,
    fun status => countP_countsOf fun a _ => countP_proxiedAs a status,
    fun a _ => answered_as_forwarded a,
    countP_countsOf fun a _ => count_allowed a,
    fun ha => countP_countsOf fun a h => countP_sentOn (ha a h)⟩

/-- Smith's request, which no member answers, then one for a namespace that is not smith's, one
without a token, a health check and a preflight. -/
def mixedRun : List Arrival :=
  [smithRequest,
    { smithRequest with target := ⟨"/api/v1/namespaces/other/pods", none⟩ },
    Router.anonymousRequest,
    { smithRequest with target := ⟨Endpoint.healthPath, none⟩ },
    { smithRequest with
      method := "OPTIONS"
      headers := ⟨[("origin", Octets.ofText "https://example.com"),
        ("access-control-request-method", Octets.ofText "GET")]⟩ }].map
    fun r => ⟨smithGateway, smithViews, r⟩

theorem mixed_run_balances : (∀ a ∈ mixedRun, a.IsAddressed) ∧
    (countsOf mixedRun).countP Count.isProxied = 3 ∧
    (countsOf mixedRun).countP (Count.isProxiedAs 502) = 1 ∧
    (countsOf mixedRun).count (.decision true) = 1 ∧
    (countsOf mixedRun).countP Count.isSentOn = 1 := by
  have hhosts : (mixedRun.all fun a => a.routing.outcome.toOption.all fun way =>
      way.1.url.host?.any fun host => host ≠ Count.rejected) = true := by
    decide +kernel
  have haddressed : ∀ a ∈ mixedRun, a.IsAddressed := by
    intro a ha _ access p hway
    have hhost := List.all_eq_true.mp hhosts a ha
    simpa [hway, Except.toOption, Option.any_eq_true] using hhost
  have hforwarded : mixedRun.countP isForwarded = 1 := by decide +kernel
  obtain ⟨-, hproxied, hstatus, -, hallowed, hsent⟩ := counts_balance mixedRun
  exact ⟨haddressed, hproxied.trans (by decide +kernel), (hstatus 502).trans (by decide +kernel),
    hallowed.trans hforwarded, (hsent haddressed).trans hforwarded⟩

end Arrival

end WorkspaceGateway
