import Mathlib
import AgentGateway.Routing.Types
import AgentGateway.LoadBalancer.EndpointSet
import AgentGateway.Library.Text

/-! The discovery types the stores of `store/discovery.rs` read, the locality ranker and the
endpoint insertion of `types/loadbalancer.rs`. -/

namespace AgentGateway.Discovery

open AgentGateway.Routing.Types (Strng NamespacedHostname)
open AgentGateway.LoadBalancer Library.Text

inductive NetworkMode where
  | standard
  | hostNetwork
  deriving DecidableEq, Repr

inductive HealthStatus where
  | healthy
  | unhealthy
  deriving DecidableEq, Repr

inductive InboundProtocol where
  | tcp
  | hbone
  | legacyIstioMtls
  deriving DecidableEq, Repr

structure Locality where
  region : Strng
  zone : Strng
  subzone : Strng
  deriving DecidableEq, Repr

inductive LoadBalancerScopes where
  | region
  | zone
  | subzone
  | node
  | cluster
  | network
  deriving DecidableEq, Repr

inductive LoadBalancerHealthPolicy where
  | onlyHealthy
  | allowAll
  deriving DecidableEq, Repr

inductive LoadBalancerMode where
  | standard
  | strict
  | failover
  | passthrough
  deriving DecidableEq, Repr

structure LoadBalancer where
  routingPreferences : List LoadBalancerScopes
  mode : LoadBalancerMode
  healthPolicy : LoadBalancerHealthPolicy
  deriving DecidableEq, Repr

abbrev IpAddr := List UInt8

structure NetworkAddress where
  network : Strng
  address : IpAddr
  deriving DecidableEq, Repr

def networkAddr (network : Strng) (vip : IpAddr) : NetworkAddress := ⟨network, vip⟩

abbrev Ports := List (UInt16 × UInt16)

inductive ProtoError where
  | namespacedHostnameParse (value : String)
  deriving DecidableEq, Repr

def NamespacedHostname.fromStr (value : String) : Except ProtoError NamespacedHostname :=
  match splitOnce '/' value.toList with
  | some (ns, hostname) => .ok ⟨String.ofList ns, String.ofList hostname⟩
  | none => .error (.namespacedHostnameParse value)

structure Workload where
  workloadIps : List IpAddr
  protocol : InboundProtocol
  networkMode : NetworkMode
  uid : Strng
  node : Strng
  network : Strng
  status : HealthStatus
  locality : Locality
  clusterId : Strng
  services : AList fun _ : NamespacedHostname => Ports
  capacity : Nat

structure Endpoint where
  workloadUid : Strng
  port : Ports
  status : HealthStatus

structure Service where
  «namespace» : Strng
  hostname : Strng
  vips : List NetworkAddress
  loadBalancer : Option LoadBalancer
  endpoints : EndpointSet Strng Endpoint

namespace Service

def namespacedHostname (s : Service) : NamespacedHostname := ⟨s.namespace, s.hostname⟩

def shouldIncludeEndpoint (s : Service) (epHealth : HealthStatus) : Bool :=
  epHealth == .healthy || (s.loadBalancer.map fun lb => lb.healthPolicy == .allowAll).getD false

end Service

/-! ### Locality buckets -/

structure LocalityRanker where
  lb : Option LoadBalancer
  source : Option Workload

namespace LocalityRanker

def usesBuckets (lb : LoadBalancer) : Bool :=
  match lb.mode with
  | .standard | .passthrough => false
  | .strict | .failover => true

def priorityLevels (r : LocalityRanker) : Nat :=
  match r.lb with
  | some lb => if usesBuckets lb then lb.routingPreferences.length + 1 else 1
  | none => 1

def scopeMatches (src wl : Workload) : LoadBalancerScopes → Bool
  | .region => src.locality.region == wl.locality.region
  | .zone => src.locality.zone == wl.locality.zone
  | .subzone => src.locality.subzone == wl.locality.subzone
  | .node => src.node == wl.node
  | .cluster => src.clusterId == wl.clusterId
  | .network => src.network == wl.network

/-- `rank`: the length of the prefix of preferences the workload matches, or nothing when Strict
mode requires all of them and it misses one. -/
def rank (r : LocalityRanker) (wl : Workload) : Option Nat :=
  match r.lb, r.source with
  | some lb, some src =>
    let rank := (lb.routingPreferences.takeWhile (scopeMatches src wl)).length
    if lb.mode = .strict ∧ rank ≠ lb.routingPreferences.length then none else some rank
  | _, _ => some 0

/-- `bucket_for`: bucket 0 while the source is unknown and in modes that do not bucket; the
preferences the workload misses otherwise. -/
def bucketFor (r : LocalityRanker) (wl : Workload) : Option Nat :=
  if r.source.isNone then some 0
  else
    match r.lb with
    | some lb => if !usesBuckets lb then some 0 else (r.rank wl).map fun rank => lb.routingPreferences.length - rank
    | none => (r.rank wl).map fun rank => 0 - rank

theorem bucketFor_lt (r : LocalityRanker) {wl : Workload} {b : Nat} (h : r.bucketFor wl = some b) :
    b < r.priorityLevels := by
  unfold bucketFor at h
  unfold priorityLevels
  split_ifs at h with hsrc
  · cases h
    split <;> (try split) <;> omega
  · split at h
    · next lb _ =>
      split_ifs at h with hb
      · cases h
        simp only [Bool.not_eq_true'] at hb
        simp [hb]
      · obtain ⟨rank, -, rfl⟩ := Option.map_eq_some_iff.1 h
        simp only [Bool.not_eq_true', Bool.not_eq_false] at hb
        simp only [hb, if_true]
        omega
    · obtain ⟨rank, -, rfl⟩ := Option.map_eq_some_iff.1 h
      simp

end LocalityRanker

/-! ### Workloads by address -/

inductive WorkloadByAddr where
  | single (w : Workload)
  | many (ws : List Workload)

namespace WorkloadByAddr

def workloads : WorkloadByAddr → List Workload
  | .single w => [w]
  | .many ws => ws

def insert : WorkloadByAddr → Workload → WorkloadByAddr
  | .single workload, w => .many [workload, w]
  | .many v, w => .many (v ++ [w])

def removeUid : WorkloadByAddr → Strng → Bool × WorkloadByAddr
  | .single wl, uid => (wl.uid == uid, .single wl)
  | .many ws, uid =>
    match ws.filter (·.uid != uid) with
    | [] => (true, .many [])
    | [wl] => (false, .single wl)
    | ws' => (false, .many ws')

def preference (w : Workload) : Nat :=
  let isPod := decide ("//Pod/".toList <:+: w.uid.toList)
  let isHbone := w.protocol == .hbone
  match isPod, isHbone with
  | true, true => 3
  | true, false => 2
  | false, true => 1
  | false, false => 0

/-- `get`: `max_by_key`, which keeps the last of the best; `none` where the source panics on
an empty list. -/
def get : WorkloadByAddr → Option Workload
  | .single workload => some workload
  | .many [] => none
  | .many (w :: ws) => some (ws.foldl (fun best x => if preference best ≤ preference x then x else best) w)

end WorkloadByAddr

end AgentGateway.Discovery

namespace AgentGateway.LoadBalancer.EndpointSet

open AgentGateway.Discovery
open AgentGateway.Routing.Types (Strng)

/-- `EndpointSet<Endpoint>::insert`: into the bucket the ranker gives the destination workload,
with a fresh `EndpointInfo` of its capacity, or nowhere on a Strict-mode mismatch. -/
def insert (s : EndpointSet Strng Endpoint) (ep : Endpoint) (destWorkload : Workload) (ranker : LocalityRanker) :
    EndpointSet Strng Endpoint :=
  match ranker.bucketFor destWorkload with
  | some bucket =>
    { s with evictedUntil := Function.update s.evictedUntil s.nextInfo none, nextInfo := s.nextInfo + 1 }.event
      (.add ep.workloadUid ⟨ep, s.nextInfo, destWorkload.capacity⟩ bucket)
  | none => s

end AgentGateway.LoadBalancer.EndpointSet
