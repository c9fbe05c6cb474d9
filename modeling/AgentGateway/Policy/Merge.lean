import Mathlib.Data.List.AList
import AgentGateway.Library.Fold
import AgentGateway.Policy.Types

/-! `Store::route_policies` (`store/binds.rs`): the policies along a route path folded into
one `RoutePolicies`. -/

namespace AgentGateway.Policy.Merge

open AgentGateway.Routing.Types AgentGateway.Policy.Types Library.Fold

inductive RouteField where
  | localRateLimit
  | remoteRateLimit
  | jwt
  | oidc
  | basicAuth
  | apiKey
  | extAuthz
  | extProc
  | transformation
  | csrf
  | directResponse
  | llm
  | timeout
  | retry
  | delay
  | requestHeaderModifier
  | responseHeaderModifier
  | requestRedirect
  | urlRewrite
  | hostnameRewrite
  | requestMirror
  | cors
  | buffer
  deriving DecidableEq, Repr

variable {α : Type}

/-- `RoutePolicies`, its single-valued fields read through `fields`. The authorization slot holds
the rule sets that are all required. -/
structure RoutePolicies (α : Type) where
  fields : RouteField → RequestPolicy α
  authorization : RequestPolicy (List α)

instance : Inhabited (RoutePolicies α) := ⟨⟨fun _ => default, default⟩⟩

structure RoutePath (α : Type) where
  listener : ListenerName
  service : Option NamespacedHostname
  routes : List RouteName
  routeInlines : List (List (TrafficPolicy α))

section Store

variable (policiesByKey : AList fun _ : PolicyKey => TargetedPolicy α)
  (policiesByTarget : AList fun _ : PolicyTarget => List PolicyKey)

def targetKeys (t : PolicyTarget) : List PolicyKey :=
  (policiesByTarget.lookup t).getD []

def routePhaseRule (n : PolicyKey) : Option (PolicyInheritance × TrafficPolicy α) :=
  (policiesByKey.lookup n).bind fun p => p.policy.asTrafficRoutePhase.map (p.inheritance, ·)

def routeRules (path : RoutePath α) : List (PolicyInheritance × TrafficPolicy α) :=
  path.routes.zipIdx.flatMap fun (route, idx) =>
    (targetKeys policiesByTarget route.asRouteTargetRef).filterMap (routePhaseRule policiesByKey) ++
      (targetKeys policiesByTarget route.asRouteRuleTargetRef).filterMap
        (routePhaseRule policiesByKey) ++
      ((path.routeInlines[idx]?).map fun inline => inline.map (PolicyInheritance.default, ·)).getD []

def sharedRules (path : RoutePath α) : List (PolicyInheritance × TrafficPolicy α) :=
  (targetKeys policiesByTarget path.listener.asGatewayTargetRef ++
      targetKeys policiesByTarget path.listener.asListenerTargetRef ++
      (path.service.map fun s =>
        targetKeys policiesByTarget (NamespacedHostname.asPolicyTargetRef s)).getD []).filterMap
    (routePhaseRule policiesByKey)

/-- `shared_rules.chain(route_rules)`: gateway, listener, service, then each route of the path
with its route-level, rule-level and inline policies. -/
def pathRules (path : RoutePath α) : List (PolicyInheritance × TrafficPolicy α) :=
  sharedRules policiesByKey policiesByTarget path ++ routeRules policiesByKey policiesByTarget path

end Store

structure MergeState (α : Type) where
  authz : List α
  authzLocked : Bool
  pol : RoutePolicies α

namespace MergeState

def mergeField (s : MergeState α) (f : RouteField) (p : RequestPolicy α) (lock : Bool) :
    MergeState α :=
  { s with pol := { s.pol with
      fields := Function.update s.pol.fields f ((s.pol.fields f).mergeWithInheritance p lock) } }

def setIfUnset (s : MergeState α) (f : RouteField) (p : RequestPolicy α) : MergeState α :=
  { s with pol := { s.pol with
      fields := Function.update s.pol.fields f ((s.pol.fields f).setIfUnset p) } }

end MergeState

def mergeRule (s : MergeState α) : PolicyInheritance × TrafficPolicy α → MergeState α
  | (inheritance, rule) =>
    let lockInheritance := inheritance == .override
    match rule with
    | .localRateLimit p => s.mergeField .localRateLimit p lockInheritance
    | .extAuthz p => s.mergeField .extAuthz p lockInheritance
    | .extProc p => s.mergeField .extProc p lockInheritance
    | .remoteRateLimit p => s.mergeField .remoteRateLimit p lockInheritance
    | .jwtAuth p => s.mergeField .jwt p lockInheritance
    | .oidc p => s.mergeField .oidc p lockInheritance
    | .basicAuth p => s.mergeField .basicAuth p lockInheritance
    | .apiKey p => s.mergeField .apiKey p lockInheritance
    | .transformation p => s.mergeField .transformation p lockInheritance
    | .authorization p =>
      if !s.authzLocked then { s with authz := s.authz ++ [p], authzLocked := lockInheritance }
      else s
    | .ai p => s.mergeField .llm (RequestPolicy.singleArc p) lockInheritance
    | .csrf p => s.mergeField .csrf p lockInheritance
    | .timeout p => s.mergeField .timeout (RequestPolicy.single p) lockInheritance
    | .retry p => s.mergeField .retry (RequestPolicy.single p) lockInheritance
    | .delay p => s.mergeField .delay (RequestPolicy.single p) lockInheritance
    | .requestHeaderModifier p => s.mergeField .requestHeaderModifier p lockInheritance
    | .responseHeaderModifier p => s.mergeField .responseHeaderModifier p lockInheritance
    | .requestRedirect p => s.mergeField .requestRedirect p lockInheritance
    | .urlRewrite p => s.mergeField .urlRewrite p lockInheritance
    | .hostRewrite p => s.mergeField .hostnameRewrite (RequestPolicy.single p) lockInheritance
    | .requestMirror p => s.mergeField .requestMirror (RequestPolicy.single p) lockInheritance
    | .directResponse p => s.mergeField .directResponse p lockInheritance
    | .cors p => s.mergeField .cors p lockInheritance
    | .buffer p => s.setIfUnset .buffer p

def routePolicies (policiesByKey : AList fun _ : PolicyKey => TargetedPolicy α)
    (policiesByTarget : AList fun _ : PolicyTarget => List PolicyKey) (path : RoutePath α) :
    RoutePolicies α :=
  let rules := pathRules policiesByKey policiesByTarget path
  let s := rules.foldl mergeRule ⟨[], false, default⟩
  if !s.authz.isEmpty then { s.pol with authorization := RequestPolicy.single s.authz } else s.pol

end AgentGateway.Policy.Merge
