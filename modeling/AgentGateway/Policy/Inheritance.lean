import AgentGateway.Policy.Merge

/-! What `route_policies` computes, field by field. -/

namespace AgentGateway.Policy.Inheritance

open AgentGateway.Routing.Types AgentGateway.Policy.Types AgentGateway.Policy.Merge Library.Fold

variable {α : Type}

def routeSlot : TrafficPolicy α → Option (RouteField × RequestPolicy α)
  | .timeout p => some (.timeout, .single p)
  | .retry p => some (.retry, .single p)
  | .delay p => some (.delay, .single p)
  | .ai p => some (.llm, .singleArc p)
  | .authorization _ => none
  | .localRateLimit p => some (.localRateLimit, p)
  | .remoteRateLimit p => some (.remoteRateLimit, p)
  | .extAuthz p => some (.extAuthz, p)
  | .extProc p => some (.extProc, p)
  | .jwtAuth p => some (.jwt, p)
  | .oidc p => some (.oidc, p)
  | .basicAuth p => some (.basicAuth, p)
  | .apiKey p => some (.apiKey, p)
  | .transformation p => some (.transformation, p)
  | .csrf p => some (.csrf, p)
  | .requestHeaderModifier p => some (.requestHeaderModifier, p)
  | .responseHeaderModifier p => some (.responseHeaderModifier, p)
  | .requestRedirect p => some (.requestRedirect, p)
  | .urlRewrite p => some (.urlRewrite, p)
  | .hostRewrite p => some (.hostnameRewrite, .single p)
  | .requestMirror p => some (.requestMirror, .single p)
  | .directResponse p => some (.directResponse, p)
  | .buffer p => some (.buffer, p)
  | .cors p => some (.cors, p)

def slotEntry (f : RouteField) : PolicyInheritance × TrafficPolicy α → Option (RequestPolicy α × Bool)
  | (inheritance, rule) =>
    (routeSlot rule).bind fun (g, p) => if g = f then some (p, inheritance == .override) else none

def slotEntries (f : RouteField) (rules : List (PolicyInheritance × TrafficPolicy α)) :
    List (RequestPolicy α × Bool) :=
  rules.filterMap (slotEntry f)

def authzEntry : PolicyInheritance × TrafficPolicy α → Option (α × Bool)
  | (inheritance, .authorization p) => some (p, inheritance == .override)
  | _ => none

def bufferEntry : PolicyInheritance × TrafficPolicy α → Option (RequestPolicy α)
  | (_, .buffer p) => some p
  | _ => none

/-- The value the inheritance law gives a field: the first locking entry, else the last entry,
else nothing. -/
def inheritedValue (entries : List (RequestPolicy α × Bool)) : RequestPolicyInner α :=
  match entries.find? (·.2) with
  | some (p, _) => p.inner
  | none =>
    match entries.getLast? with
    | some (p, _) => p.inner
    | none => .empty

/-! ### One iteration of the loop -/

lemma mergeWithInheritance_eq_lockStep (s p : RequestPolicy α) (b : Bool) :
    s.mergeWithInheritance p b =
      lockStep RequestPolicy.inheritanceLocked (fun p b => { p with inheritanceLocked := b }) s
        (p, b) := rfl

lemma setIfUnset_eq_fillStep (s p : RequestPolicy α) :
    s.setIfUnset p = fillStep RequestPolicy.isEmpty s p := rfl

namespace MergeState

variable (s : MergeState α) (f g : RouteField) (p : RequestPolicy α) (b : Bool)

@[simp] lemma mergeField_fields :
    (s.mergeField f p b).pol.fields g =
      if g = f then (s.pol.fields f).mergeWithInheritance p b else s.pol.fields g := by
  simp [MergeState.mergeField, Function.update_apply]

@[simp] lemma mergeField_authz : (s.mergeField f p b).authz = s.authz := rfl

@[simp] lemma mergeField_authzLocked : (s.mergeField f p b).authzLocked = s.authzLocked := rfl

@[simp] lemma setIfUnset_fields :
    (s.setIfUnset f p).pol.fields g = if g = f then (s.pol.fields f).setIfUnset p else s.pol.fields g := by
  simp [MergeState.setIfUnset, Function.update_apply]

@[simp] lemma setIfUnset_authz : (s.setIfUnset f p).authz = s.authz := rfl

@[simp] lemma setIfUnset_authzLocked : (s.setIfUnset f p).authzLocked = s.authzLocked := rfl

end MergeState

lemma mergeRule_of_routeSlot (s : MergeState α) (inheritance : PolicyInheritance)
    {rule : TrafficPolicy α} {g : RouteField} {p : RequestPolicy α}
    (h : routeSlot rule = some (g, p)) (hg : g ≠ .buffer) :
    mergeRule s (inheritance, rule) = s.mergeField g p (inheritance == .override) := by
  cases rule <;> simp only [routeSlot, Option.some.injEq, Prod.mk.injEq, reduceCtorEq] at h <;>
    obtain ⟨rfl, rfl⟩ := h <;> first | rfl | exact absurd rfl hg

lemma routeSlot_eq_none {rule : TrafficPolicy α} (h : routeSlot rule = none) :
    ∃ p, rule = .authorization p := by
  cases rule <;> simp_all [routeSlot]

lemma routeSlot_eq_buffer {rule : TrafficPolicy α} {p : RequestPolicy α}
    (h : routeSlot rule = some (.buffer, p)) : rule = .buffer p := by
  cases rule <;> simp_all [routeSlot]

lemma mergeRule_fields (s : MergeState α) (x : PolicyInheritance × TrafficPolicy α)
    {f : RouteField} (hf : f ≠ .buffer) :
    (mergeRule s x).pol.fields f =
      (slotEntry f x).elim (s.pol.fields f)
        (lockStep RequestPolicy.inheritanceLocked (fun p b => { p with inheritanceLocked := b })
          (s.pol.fields f)) := by
  obtain ⟨inheritance, rule⟩ := x
  cases hslot : routeSlot rule with
  | none =>
    obtain ⟨p, rfl⟩ := routeSlot_eq_none hslot
    by_cases hl : s.authzLocked <;> simp [mergeRule, slotEntry, routeSlot, hl]
  | some gp =>
    obtain ⟨g, p⟩ := gp
    by_cases hg : g = .buffer
    · subst hg
      rw [routeSlot_eq_buffer hslot]
      simp [mergeRule, slotEntry, routeSlot, hf, Ne.symm hf]
    · rw [mergeRule_of_routeSlot s inheritance hslot hg]
      by_cases hfg : f = g
      · subst hfg
        simp [slotEntry, hslot, mergeWithInheritance_eq_lockStep]
      · simp [slotEntry, hslot, hfg, Ne.symm hfg]

lemma mergeRule_buffer (s : MergeState α) (x : PolicyInheritance × TrafficPolicy α) :
    (mergeRule s x).pol.fields .buffer =
      (bufferEntry x).elim (s.pol.fields .buffer)
        (fillStep RequestPolicy.isEmpty (s.pol.fields .buffer)) := by
  obtain ⟨inheritance, rule⟩ := x
  cases hslot : routeSlot rule with
  | none =>
    obtain ⟨p, rfl⟩ := routeSlot_eq_none hslot
    by_cases hl : s.authzLocked <;> simp [mergeRule, bufferEntry, hl]
  | some gp =>
    obtain ⟨g, p⟩ := gp
    by_cases hg : g = .buffer
    · subst hg
      rw [routeSlot_eq_buffer hslot]
      simp [mergeRule, bufferEntry, setIfUnset_eq_fillStep]
    · rw [mergeRule_of_routeSlot s inheritance hslot hg]
      have hb : bufferEntry (inheritance, rule) = none := by
        cases rule <;> simp_all [bufferEntry, routeSlot]
      simp [hb, Ne.symm hg]

lemma mergeRule_authz (s : MergeState α) (x : PolicyInheritance × TrafficPolicy α) :
    ((mergeRule s x).authz, (mergeRule s x).authzLocked) =
      (authzEntry x).elim (s.authz, s.authzLocked) (collectStep (s.authz, s.authzLocked)) := by
  obtain ⟨inheritance, rule⟩ := x
  cases hslot : routeSlot rule with
  | none =>
    obtain ⟨p, rfl⟩ := routeSlot_eq_none hslot
    by_cases hl : s.authzLocked <;> simp [mergeRule, authzEntry, collectStep, hl]
  | some gp =>
    obtain ⟨g, p⟩ := gp
    have ha : authzEntry (inheritance, rule) = none := by
      cases rule <;> simp_all [authzEntry, routeSlot]
    by_cases hg : g = .buffer
    · subst hg
      rw [routeSlot_eq_buffer hslot]
      simp [mergeRule, authzEntry]
    · rw [mergeRule_of_routeSlot s inheritance hslot hg, ha]
      simp

lemma mergeRule_frame (s : MergeState α) (x : PolicyInheritance × TrafficPolicy α) :
    (mergeRule s x).pol.authorization = s.pol.authorization := by
  obtain ⟨inheritance, rule⟩ := x
  cases rule <;> simp only [mergeRule] <;> first | rfl | split <;> rfl

lemma lockResult_inner (entries : List (RequestPolicy α × Bool)) :
    (lockResult (fun (p : RequestPolicy α) b => { p with inheritanceLocked := b }) default
      entries).inner =
      inheritedValue entries := by
  unfold lockResult inheritedValue
  cases entries.find? (·.2) with
  | some x => rfl
  | none =>
    cases entries.getLast? with
    | some x => rfl
    | none => rfl

/-! ### The whole walk -/

section Walk

variable (policiesByKey : AList fun _ : PolicyKey => TargetedPolicy α)
  (policiesByTarget : AList fun _ : PolicyTarget => List PolicyKey) (path : RoutePath α)

def walked : MergeState α :=
  (pathRules policiesByKey policiesByTarget path).foldl mergeRule ⟨[], false, default⟩

lemma routePolicies_fields (f : RouteField) :
    (routePolicies policiesByKey policiesByTarget path).fields f =
      (walked policiesByKey policiesByTarget path).pol.fields f := by
  unfold routePolicies walked
  dsimp only
  split <;> rfl

lemma walked_authorization :
    (walked policiesByKey policiesByTarget path).pol.authorization = default := by
  have hproj := foldl_proj (fun s : MergeState α => s.pol.authorization)
    (fun _ => (none : Option Unit)) (fun a _ => a) mergeRule (fun s x => mergeRule_frame s x)
    (pathRules policiesByKey policiesByTarget path) ⟨[], false, default⟩
  rw [walked, hproj, List.filterMap_eq_nil_iff.mpr fun _ _ => rfl]
  rfl

lemma routePolicies_authorization_eq :
    (routePolicies policiesByKey policiesByTarget path).authorization =
      if (walked policiesByKey policiesByTarget path).authz.isEmpty then default
      else RequestPolicy.single (walked policiesByKey policiesByTarget path).authz := by
  rw [← walked_authorization policiesByKey policiesByTarget path]
  unfold routePolicies walked
  dsimp only
  split <;> simp_all

/-- Every field but `buffer` obeys the inheritance law over the path's rules. -/
theorem routePolicies_inherited {f : RouteField} (hf : f ≠ .buffer) :
    ((routePolicies policiesByKey policiesByTarget path).fields f).inner =
      inheritedValue (slotEntries f (pathRules policiesByKey policiesByTarget path)) := by
  have hproj := foldl_proj (fun s : MergeState α => s.pol.fields f) (slotEntry f) _ mergeRule
    (fun s x => mergeRule_fields s x hf) (pathRules policiesByKey policiesByTarget path)
    ⟨[], false, default⟩
  rw [routePolicies_fields, walked, hproj, foldl_lockStep (fun _ _ => rfl) _ _ rfl]
  exact lockResult_inner _

/-- Authorization is the conjunction of the rule sets up to and including the first locking
one. -/
theorem routePolicies_authorization :
    (routePolicies policiesByKey policiesByTarget path).authorization =
      let entries := (pathRules policiesByKey policiesByTarget path).filterMap authzEntry
      if entries = [] then default
      else RequestPolicy.single ((takeThrough (·.2) entries).map (·.1)) := by
  have hproj := foldl_proj (fun s : MergeState α => (s.authz, s.authzLocked)) authzEntry _
    mergeRule mergeRule_authz (pathRules policiesByKey policiesByTarget path) ⟨[], false, default⟩
  have hauthz : (walked policiesByKey policiesByTarget path).authz =
      (takeThrough (·.2) ((pathRules policiesByKey policiesByTarget path).filterMap
        authzEntry)).map (·.1) := by
    have h := congrArg Prod.fst hproj
    rw [foldl_collectStep] at h
    simpa [walked] using h
  rw [routePolicies_authorization_eq, hauthz]
  simp only [List.isEmpty_iff, List.map_eq_nil_iff, takeThrough_eq_nil]

theorem routePolicies_buffer :
    (routePolicies policiesByKey policiesByTarget path).fields .buffer =
      let entries := (pathRules policiesByKey policiesByTarget path).filterMap bufferEntry
      (entries.find? fun p => !p.isEmpty).getD (entries.getLast?.getD default) := by
  have hproj := foldl_proj (fun s : MergeState α => s.pol.fields .buffer) bufferEntry _ mergeRule
    mergeRule_buffer (pathRules policiesByKey policiesByTarget path) ⟨[], false, default⟩
  rw [routePolicies_fields, walked, hproj, foldl_fillStep _ _ rfl]
  rfl

end Walk

def bufferListener : ListenerName := ⟨"gw", "ns", "http", none⟩

def bufferRoute : RouteName := ⟨"r", "ns", none, none⟩

def bufferPolicies : AList fun _ : PolicyKey => TargetedPolicy String :=
  ((∅ : AList fun _ : PolicyKey => TargetedPolicy String).insert "gateway-buffer"
      ⟨"gateway-buffer", bufferListener.asGatewayTargetRef, .default,
        .traffic ⟨.route, .buffer (.single "gateway")⟩⟩).insert "route-buffer"
    ⟨"route-buffer", bufferRoute.asRouteTargetRef, .default,
      .traffic ⟨.route, .buffer (.single "route")⟩⟩

def bufferTargets : AList fun _ : PolicyTarget => List PolicyKey :=
  ((∅ : AList fun _ : PolicyTarget => List PolicyKey).insert bufferListener.asGatewayTargetRef
    ["gateway-buffer"]).insert bufferRoute.asRouteTargetRef ["route-buffer"]

def bufferPath : RoutePath String := ⟨bufferListener, none, [bufferRoute], [[]]⟩

/-- No buffer entry of the walk locks and the last one is the route's, yet the gateway's buffer
is the one kept. -/
theorem routePolicies_buffer_keeps_gateway :
    (slotEntries .buffer (pathRules bufferPolicies bufferTargets bufferPath)).all (!·.2) ∧
      (slotEntries .buffer (pathRules bufferPolicies bufferTargets bufferPath)).getLast?.map
        (·.1.inner) = some (.single ⟨"route", none⟩) ∧
      ((routePolicies bufferPolicies bufferTargets bufferPath).fields .buffer).inner =
        .single ⟨"gateway", none⟩ := by
  refine ⟨by decide, by decide, ?_⟩
  -- the slot is the first non-empty buffer of the walk
  rw [routePolicies_buffer]
  decide

/-- Two timeout policies and two authorization policies, one of them `Override`, all on one route;
the key set of the route is enumerated in the order `keys`. -/
def orderRoute : RouteName := ⟨"r", "ns", none, none⟩

def orderPolicy (key : PolicyKey) (inheritance : PolicyInheritance) (p : TrafficPolicy String) :
    TargetedPolicy String :=
  ⟨key, orderRoute.asRouteTargetRef, inheritance, .traffic ⟨.route, p⟩⟩

def orderPolicies : AList fun _ : PolicyKey => TargetedPolicy String :=
  (((∅ : AList fun _ : PolicyKey => TargetedPolicy String).insert "timeout-a"
      (orderPolicy "timeout-a" .default (.timeout "1s"))).insert "timeout-b"
      (orderPolicy "timeout-b" .default (.timeout "2s"))).insert "authz-deny"
      (orderPolicy "authz-deny" .override (.authorization "deny-all")) |>.insert "authz-allow"
    (orderPolicy "authz-allow" .default (.authorization "allow-admin"))

def orderTargets (keys : List PolicyKey) : AList fun _ : PolicyTarget => List PolicyKey :=
  (∅ : AList fun _ : PolicyTarget => List PolicyKey).insert orderRoute.asRouteTargetRef keys

def orderPath : RoutePath String := ⟨bufferListener, none, [orderRoute], [[]]⟩

theorem routePolicies_depend_on_key_order :
    let first : RoutePolicies String := routePolicies orderPolicies (orderTargets ["timeout-a", "timeout-b", "authz-deny", "authz-allow"]) orderPath
    let second : RoutePolicies String := routePolicies orderPolicies (orderTargets ["timeout-b", "timeout-a", "authz-allow", "authz-deny"]) orderPath
    ["timeout-a", "timeout-b", "authz-deny", "authz-allow"].Perm ["timeout-b", "timeout-a", "authz-allow", "authz-deny"] ∧
      (first.fields .timeout).inner = .single ⟨"2s", none⟩ ∧ (second.fields .timeout).inner = .single ⟨"1s", none⟩ ∧
      first.authorization.inner = .single ⟨["deny-all"], none⟩ ∧
      second.authorization.inner = .single ⟨["allow-admin", "deny-all"], none⟩ := by
  decide

theorem routePolicies_inherited_timeout :
    RouteField.timeout ≠ .buffer ∧
    ((routePolicies orderPolicies (orderTargets ["timeout-a", "timeout-b"]) orderPath).fields .timeout).inner =
      inheritedValue (slotEntries .timeout (pathRules orderPolicies (orderTargets ["timeout-a", "timeout-b"]) orderPath)) :=
  ⟨by decide, routePolicies_inherited _ _ _ (by decide)⟩

end AgentGateway.Policy.Inheritance
