import AgentGateway.Routing.Types

/-! Policy attachment (`types/agent.rs`, `store/policy.rs`): targets, inheritance and the
`RequestPolicy` slot. -/

namespace AgentGateway.Policy.Types

open AgentGateway.Routing.Types

abbrev PolicyKey := Strng

abbrev Expression := String

structure RouteName where
  name : Strng
  «namespace» : Strng
  ruleName : Option Strng
  kind : Option Strng
  deriving DecidableEq, Repr

abbrev RouteTarget := RouteName

structure ResourceName where
  name : Strng
  «namespace» : Strng
  deriving DecidableEq, Repr

structure ListenerName where
  gatewayName : Strng
  gatewayNamespace : Strng
  listenerName : Strng
  listenerSet : Option ResourceName
  deriving DecidableEq, Repr

structure ListenerTarget where
  gatewayName : Strng
  gatewayNamespace : Strng
  listenerName : Option Strng
  port : Option UInt16
  deriving DecidableEq, Repr

structure ListenerSetTarget where
  name : Strng
  «namespace» : Strng
  «section» : Option Strng
  deriving DecidableEq, Repr

inductive BackendTarget where
  | backend (name «namespace» : Strng) («section» : Option Strng)
  | service (hostname «namespace» : Strng) (port : Option UInt16)
  | invalid
  deriving DecidableEq, Repr

inductive PolicyTarget where
  | gateway (t : ListenerTarget)
  | route (t : RouteTarget)
  | backend (t : BackendTarget)
  | listenerSet (t : ListenerSetTarget)
  deriving DecidableEq, Repr

def RouteName.asRouteTargetRef (r : RouteName) : PolicyTarget :=
  .route { r with ruleName := none }

def RouteName.asRouteRuleTargetRef (r : RouteName) : PolicyTarget :=
  .route r

def ListenerName.asGatewayTargetRef (l : ListenerName) : PolicyTarget :=
  .gateway ⟨l.gatewayName, l.gatewayNamespace, none, none⟩

def ListenerName.asListenerTargetRef (l : ListenerName) : PolicyTarget :=
  .gateway ⟨l.gatewayName, l.gatewayNamespace, some l.listenerName, none⟩

def ListenerName.asListenersetTargetRef (l : ListenerName) : Option PolicyTarget :=
  l.listenerSet.map fun ls => .listenerSet ⟨ls.name, ls.namespace, none⟩

def ListenerName.asListenersetListenerTargetRef (l : ListenerName) : Option PolicyTarget :=
  l.listenerSet.map fun ls => .listenerSet ⟨ls.name, ls.namespace, some l.listenerName⟩

def NamespacedHostname.asPolicyTargetRef (s : NamespacedHostname) : PolicyTarget :=
  .backend (.service s.hostname s.namespace none)

inductive PolicyInheritance where
  | default
  | override
  deriving DecidableEq, Repr

inductive PolicyPhase where
  | route
  | gateway
  deriving DecidableEq, Repr

structure PolicyWithCondition (α : Type) where
  pol : α
  condition : Option Expression
  deriving DecidableEq, Repr

inductive RequestPolicyInner (α : Type) where
  | empty
  | single (p : PolicyWithCondition α)
  | multiple (ps : List (PolicyWithCondition α))
  deriving DecidableEq, Repr

/-- A merged policy slot. `inheritanceLocked` is set once a less specific attachment with
`inheritance: Override` has filled the slot. -/
structure RequestPolicy (α : Type) where
  inner : RequestPolicyInner α
  inheritanceLocked : Bool
  deriving DecidableEq, Repr

namespace RequestPolicy

variable {α : Type}

instance : Inhabited (RequestPolicy α) := ⟨⟨.empty, false⟩⟩

def single (pol : α) : RequestPolicy α := ⟨.single ⟨pol, none⟩, false⟩

def singleArc (pol : α) : RequestPolicy α := ⟨.single ⟨pol, none⟩, false⟩

def isEmpty (p : RequestPolicy α) : Bool :=
  match p.inner with
  | .empty => true
  | _ => false

def setIfUnset (self policy : RequestPolicy α) : RequestPolicy α :=
  if self.isEmpty then policy else self

def mergeWithInheritance (self policy : RequestPolicy α) (lockInheritance : Bool) :
    RequestPolicy α :=
  if self.inheritanceLocked then self else { policy with inheritanceLocked := lockInheritance }

end RequestPolicy

/-- `TrafficPolicy`, one constructor per variant in the source's order. Variants that carry a bare
policy are wrapped into a `RequestPolicy` when merged. -/
inductive TrafficPolicy (α : Type) where
  | timeout (p : α)
  | retry (p : α)
  | delay (p : α)
  | ai (p : α)
  | authorization (p : α)
  | localRateLimit (p : RequestPolicy α)
  | remoteRateLimit (p : RequestPolicy α)
  | extAuthz (p : RequestPolicy α)
  | extProc (p : RequestPolicy α)
  | jwtAuth (p : RequestPolicy α)
  | oidc (p : RequestPolicy α)
  | basicAuth (p : RequestPolicy α)
  | apiKey (p : RequestPolicy α)
  | transformation (p : RequestPolicy α)
  | csrf (p : RequestPolicy α)
  | requestHeaderModifier (p : RequestPolicy α)
  | responseHeaderModifier (p : RequestPolicy α)
  | requestRedirect (p : RequestPolicy α)
  | urlRewrite (p : RequestPolicy α)
  | hostRewrite (p : α)
  | requestMirror (p : α)
  | directResponse (p : RequestPolicy α)
  | buffer (p : RequestPolicy α)
  | cors (p : RequestPolicy α)
  deriving DecidableEq, Repr

structure PhasedTrafficPolicy (α : Type) where
  phase : PolicyPhase
  policy : TrafficPolicy α
  deriving DecidableEq, Repr

/-- `PolicyType`; frontend and backend policies are only ever skipped by the traffic merge, so
their payloads are left out. -/
inductive PolicyType (α : Type) where
  | frontend
  | traffic (t : PhasedTrafficPolicy α)
  | backend
  deriving DecidableEq, Repr

def PolicyType.asTrafficGatewayPhase {α : Type} : PolicyType α → Option (TrafficPolicy α)
  | .traffic t => if t.phase = .gateway then some t.policy else none
  | _ => none

def PolicyType.asTrafficRoutePhase {α : Type} : PolicyType α → Option (TrafficPolicy α)
  | .traffic t => if t.phase = .route then some t.policy else none
  | _ => none

structure TargetedPolicy (α : Type) where
  key : PolicyKey
  target : PolicyTarget
  inheritance : PolicyInheritance
  policy : PolicyType α
  deriving DecidableEq, Repr

end AgentGateway.Policy.Types
