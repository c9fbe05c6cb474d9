import AgentGateway.Discovery.Types
import AgentGateway.Library.Map

/-! The discovery store of `store/discovery.rs`; hash maps are association lists whose order
stands for the hash map's iteration order. -/

namespace AgentGateway.Discovery

open AgentGateway.Routing.Types (Strng NamespacedHostname)
open AgentGateway.LoadBalancer Library.Text

/-! ### The workload store -/

structure WorkloadStore where
  byService : AList fun _ : NamespacedHostname => List Strng
  byAddr : AList fun _ : NetworkAddress => WorkloadByAddr
  byUid : AList fun _ : Strng => Workload

namespace WorkloadStore

def empty : WorkloadStore := ⟨∅, ∅, ∅⟩

def removeAddr (prev : Workload) (byAddr : AList fun _ : NetworkAddress => WorkloadByAddr) (k : NetworkAddress) :
    AList fun _ : NetworkAddress => WorkloadByAddr :=
  match byAddr.lookup k with
  | some o => if (o.removeUid prev.uid).1 then byAddr.erase k else byAddr.insert k (o.removeUid prev.uid).2
  | none => byAddr

def removeService (uid : Strng) (byService : AList fun _ : NamespacedHostname => List Strng) (svc : NamespacedHostname) :
    AList fun _ : NamespacedHostname => List Strng :=
  match byService.lookup svc with
  | some set => if (set.erase uid).isEmpty then byService.erase svc else byService.insert svc (set.erase uid)
  | none => byService

def remove (s : WorkloadStore) (uid : Strng) : Option Workload × WorkloadStore :=
  match s.byUid.lookup uid with
  | none => (none, s)
  | some prev =>
    let byAddr := if prev.networkMode ≠ .hostNetwork then
        prev.workloadIps.foldl (fun m wip => removeAddr prev m (networkAddr prev.network wip)) s.byAddr
      else s.byAddr
    (some prev, ⟨prev.services.keys.foldl (removeService prev.uid) s.byService, byAddr, s.byUid.erase uid⟩)

def addAddr (w : Workload) (byAddr : AList fun _ : NetworkAddress => WorkloadByAddr) (k : NetworkAddress) :
    AList fun _ : NetworkAddress => WorkloadByAddr :=
  match byAddr.lookup k with
  | some ws => byAddr.insert k (ws.insert w)
  | none => byAddr.insert k (.single w)

def addService (uid : Strng) (byService : AList fun _ : NamespacedHostname => List Strng) (svc : NamespacedHostname) :
    AList fun _ : NamespacedHostname => List Strng :=
  byService.insert svc (((byService.lookup svc).getD []).insert uid)

def insert (s : WorkloadStore) (w : Workload) : WorkloadStore :=
  -- first the entry goes entirely, so that nothing of the old one is left
  let s := (s.remove w.uid).2
  let byAddr := if w.networkMode ≠ .hostNetwork then
      w.workloadIps.foldl (fun m ip => addAddr w m (networkAddr w.network ip)) s.byAddr
    else s.byAddr
  ⟨w.services.keys.foldl (addService w.uid) s.byService, byAddr, s.byUid.insert w.uid w⟩

def findUid (s : WorkloadStore) (uid : Strng) : Option Workload := s.byUid.lookup uid

def findAddress (s : WorkloadStore) (addr : NetworkAddress) : Option Workload :=
  (s.byAddr.lookup addr).bind WorkloadByAddr.get

def iterByService (s : WorkloadStore) (svc : NamespacedHostname) : List Workload :=
  ((s.byService.lookup svc).getD []).filterMap s.byUid.lookup

end WorkloadStore

/-! ### The service store -/

structure ServiceStore where
  stagedServices : AList fun _ : NamespacedHostname => AList fun _ : Strng => Endpoint
  byVip : AList fun _ : NetworkAddress => NamespacedHostname
  byHost : AList fun _ : Strng => List Service

namespace ServiceStore

def empty : ServiceStore := ⟨∅, ∅, ∅⟩

def getByNamespacedHost (s : ServiceStore) (host : NamespacedHostname) : Option Service :=
  (s.byHost.lookup host.hostname).bind fun services => services.find? (·.namespace == host.namespace)

def getByHostname (s : ServiceStore) (hostname : Strng) : Option (List Service) := s.byHost.lookup hostname

/-- A change to the endpoint set of the service `get_by_namespaced_host` returns, made through
its `Arc`. -/
def updateEndpoints (s : ServiceStore) (host : NamespacedHostname)
    (f : EndpointSet Strng Endpoint → EndpointSet Strng Endpoint) : ServiceStore :=
  match s.byHost.lookup host.hostname with
  | some services =>
    match services.findIdx? (·.namespace == host.namespace) with
    | some i =>
      { s with byHost := s.byHost.insert host.hostname (services.modify i fun svc => { svc with endpoints := f svc.endpoints }) }
    | none => s
  | none => s

def insertEndpoint (s : ServiceStore) (serviceName : NamespacedHostname) (ep : Endpoint) (destWorkload : Workload)
    (localitySource : Option Workload) : ServiceStore :=
  match s.getByNamespacedHost serviceName with
  | some svc =>
    if !svc.shouldIncludeEndpoint ep.status then s
    else s.updateEndpoints serviceName fun eps => eps.insert ep destWorkload ⟨svc.loadBalancer, localitySource⟩
  | none =>
    -- the service is not known yet: the endpoint waits for it
    let staged := ((s.stagedServices.lookup serviceName).getD ∅).insert ep.workloadUid ep
    { s with stagedServices := s.stagedServices.insert serviceName staged }

def insertEndpointForServices (s : ServiceStore) (workload : Workload) :
    List (String × Ports) → Option Workload → ServiceStore × Except ProtoError Unit
  | [], _ => (s, .ok ())
  | (namespacedHost, ports) :: rest, localitySource =>
    match NamespacedHostname.fromStr namespacedHost with
    | .error e => (s, .error e)
    | .ok nh =>
      (s.insertEndpoint nh ⟨workload.uid, ports, workload.status⟩ workload localitySource).insertEndpointForServices
        workload rest localitySource

/-- One service of the staging loop of `remove_endpoint`: the UID leaves the staged map of the
service, which goes when it is empty. -/
def unstage (uid : Strng) (staged : AList fun _ : NamespacedHostname => AList fun _ : Strng => Endpoint)
    (svc : NamespacedHostname) : AList fun _ : NamespacedHostname => AList fun _ : Strng => Endpoint :=
  if (((staged.lookup svc).getD ∅).erase uid).entries.isEmpty then staged.erase svc
  else staged.insert svc (((staged.lookup svc).getD ∅).erase uid)

def removeEndpoint (s : ServiceStore) (prevWorkload : Workload) : ServiceStore :=
  let s := { s with stagedServices := prevWorkload.services.keys.foldl (unstage prevWorkload.uid) s.stagedServices }
  prevWorkload.services.keys.foldl (fun s svc => s.updateEndpoints svc (·.remove prevWorkload.uid)) s

def remove (s : ServiceStore) (namespacedHost : NamespacedHostname) : Bool × ServiceStore :=
  match s.byHost.lookup namespacedHost.hostname with
  | none => (false, s)
  | some services =>
    match services.findIdx? (·.namespace == namespacedHost.namespace) with
    | none => (false, s)
    | some i =>
      let byHost := if (services.eraseIdx i).isEmpty then s.byHost.erase namespacedHost.hostname
        else s.byHost.insert namespacedHost.hostname (services.eraseIdx i)
      let byVip := ((services[i]?.map (·.vips)).getD []).foldl (fun m addr => m.erase addr) s.byVip
      (true, ⟨s.stagedServices.erase namespacedHost, byVip, byHost⟩)

def insert (s : ServiceStore) (service : Service) : ServiceStore :=
  let s := (s.remove service.namespacedHostname).2
  let byVip := service.vips.foldl (fun m vip => m.insert vip service.namespacedHostname) s.byVip
  let byHost := match s.byHost.lookup service.hostname with
    | none => s.byHost.insert service.hostname [service]
    | some services =>
      match services.findIdx? (·.namespace == service.namespace) with
      | some cur => s.byHost.insert service.hostname (services.set cur service)
      | none => s.byHost.insert service.hostname (services ++ [service])
  { s with byVip, byHost }

end ServiceStore

/-! ### The store and its updates -/

structure Store where
  workloads : WorkloadStore
  services : ServiceStore
  selfWorkload : Option Workload

structure XdsWorkload where
  workload : Workload
  services : List (String × Ports)

def Workload.tryFromXdsWithServices (resource : XdsWorkload) : Except ProtoError (Workload × List (String × Ports)) := do
  let services ← resource.services.foldlM (fun m p => do
    let nh ← NamespacedHostname.fromStr p.1
    pure (m.insert nh p.2)) (∅ : AList fun _ : NamespacedHostname => Ports)
  pure ({ resource.workload with services }, resource.services)

inductive XdsAddress where
  | workload (w : XdsWorkload)
  | service (s : Service)
  | unknown

inductive UpdateError where
  | proto (e : ProtoError)
  | unknownAddressType

structure LocalWorkload where
  workload : Workload
  services : List (String × Ports)

structure PreviousState where
  workloads : List Strng
  services : List NamespacedHostname

def LocalWorkload.merged (wl : LocalWorkload) : Workload :=
  wl.services.foldl (fun workload p =>
    match splitOnce '/' p.1.toList with
    | some (ns, hostname) => { workload with services := workload.services.insert ⟨String.ofList ns, String.ofList hostname⟩ p.2 }
    | none => workload) wl.workload

namespace Store

def new : Store := ⟨WorkloadStore.empty, ServiceStore.empty, none⟩

/-- One workload of the rebuild in the slow path of `insert_service_internal`: its endpoint, with
the ports of its membership, if the service admits its health. -/
def buildStep (service : Service) (source : Option Workload) (eps : EndpointSet Strng Endpoint) (wl : Workload) :
    EndpointSet Strng Endpoint :=
  match wl.services.lookup service.namespacedHostname with
  | none => eps
  | some ports =>
    if !service.shouldIncludeEndpoint wl.status then eps
    else eps.insert ⟨wl.uid, ports, wl.status⟩ wl ⟨service.loadBalancer, source⟩

def buildEndpoints (workloads : WorkloadStore) (service : Service) (source : Option Workload) :
    EndpointSet Strng Endpoint :=
  (workloads.iterByService service.namespacedHostname).foldl (buildStep service source)
    (EndpointSet.newEmpty (LocalityRanker.mk service.loadBalancer source).priorityLevels)

def insertServiceInternal (st : Store) (service : Service) : Store :=
  let key := service.namespacedHostname
  let prev := st.services.getByNamespacedHost key
  -- endpoints that came in before the service
  let hadStaged := (st.services.stagedServices.lookup key).isSome
  let services := { st.services with stagedServices := st.services.stagedServices.erase key }
  -- an unchanged load balancer keeps the endpoints; otherwise they are rebuilt from the workloads
  let endpoints := match prev with
    | some prev =>
      if prev.loadBalancer = service.loadBalancer ∧ hadStaged = false then prev.endpoints
      else buildEndpoints st.workloads service st.selfWorkload
    | none => buildEndpoints st.workloads service st.selfWorkload
  { st with services := services.insert { service with endpoints } }

/-- The workload branch of `remove_internal`, which the last loop of `sync_local` repeats:
the workload leaves the workload store and its endpoints leave the services; nothing when there is
no workload of that UID. -/
def removeWorkload (st : Store) (uid : Strng) : Option Store :=
  match st.workloads.remove uid with
  | (some prev, workloads) => some { st with workloads, services := st.services.removeEndpoint prev }
  | (none, _) => none

def removeInternal (st : Store) (xdsName : Strng) (forWorkloadInsert : Bool) : Store :=
  match st.removeWorkload xdsName with
  | some st => st
  | none =>
    if forWorkloadInsert then st
    else
      match NamespacedHostname.fromStr xdsName with
      | .error _ => st
      | .ok name =>
        -- namespaces and hostnames have no `/`: such a name is a workload UID
        if name.hostname.toList.contains '/' then st
        else { st with services := (st.services.remove name).2 }

def remove (st : Store) (xdsName : Strng) : Store := st.removeInternal xdsName false

def removeWorkloadForInsert (st : Store) (xdsName : Strng) : Store := st.removeInternal xdsName true

/-- What `insert_workload` and the workload loop of `sync_local` both do with a converted
workload: the old entry goes entirely, then the workload goes into the workload store and its
endpoints into the services it names. -/
def replaceWorkload (st : Store) (workload : Workload) (services : List (String × Ports)) (source : Option Workload) :
    Store × Except ProtoError Unit :=
  let st := st.removeWorkloadForInsert workload.uid
  let st := { st with workloads := st.workloads.insert workload }
  let r := st.services.insertEndpointForServices workload services source
  ({ st with services := r.1 }, r.2)

def insertWorkload (st : Store) (w : XdsWorkload) : Store × Except ProtoError Unit :=
  match Workload.tryFromXdsWithServices w with
  | .error e => (st, .error e)
  | .ok (workload, services) => st.replaceWorkload workload services st.selfWorkload

def insertAddress (st : Store) : XdsAddress → Store × Except UpdateError Unit
  | .workload w =>
    let r := st.insertWorkload w
    (r.1, r.2.mapError .proto)
  | .service s => (st.insertServiceInternal s, .ok ())
  | .unknown => (st, .error .unknownAddressType)

def rebucketService (workloads : WorkloadStore) (source : Workload) (svc : Service) : Service :=
  { svc with endpoints := svc.endpoints.rebucket fun ep =>
      (workloads.findUid ep.workloadUid).bind (LocalityRanker.mk svc.loadBalancer (some source)).bucketFor }

def rebucketAll (st : Store) : Store :=
  match st.selfWorkload with
  | none => st
  | some source =>
    let byHost := Library.Map.filterMapVals (fun _ services => some (services.map (rebucketService st.workloads source)))
      st.services.byHost
    { st with services := { st.services with byHost } }

def syncWorkloads (source : Option Workload) :
    Store → List Strng → List Strng → List LocalWorkload → Store × Except ProtoError (List Strng × List Strng)
  | st, old, next, [] => (st, .ok (old, next))
  | st, old, next, wl :: wls =>
    match st.replaceWorkload wl.merged wl.services source with
    | (st, .error e) => (st, .error e)
    | (st, .ok ()) => syncWorkloads source st (old.erase wl.merged.uid) (next.insert wl.merged.uid) wls

def syncServices : Store → List NamespacedHostname → List NamespacedHostname → List Service →
    Store × List NamespacedHostname × List NamespacedHostname
  | st, old, next, [] => (st, old, next)
  | st, old, next, svc :: svcs =>
    syncServices (st.insertServiceInternal svc) (old.erase svc.namespacedHostname)
      (next.insert svc.namespacedHostname) svcs

def syncLocal (st : Store) (services : List Service) (workloads : List LocalWorkload) (prev : PreviousState) :
    Store × Except ProtoError PreviousState :=
  match syncWorkloads st.selfWorkload st prev.workloads [] workloads with
  | (st, .error e) => (st, .error e)
  | (st, .ok (oldWorkloads, nextWorkloads)) =>
    let (st, oldServices, nextServices) := syncServices st prev.services [] services
    let st := oldServices.foldl (fun st svc => { st with services := (st.services.remove svc).2 }) st
    let st := oldWorkloads.foldl (fun st uid => (st.removeWorkload uid).getD st) st
    (st, .ok ⟨nextWorkloads, nextServices⟩)

/-- Self-identity resolution (`state_manager.rs`): `SelfWorkload::set`, where the first value
stays, then `rebucket_all`, both under the store's lock. -/
def resolveSelf (st : Store) (w : Workload) : Store :=
  { st with selfWorkload := some (st.selfWorkload.getD w) }.rebucketAll

/-- What updates the store: an xDS update or removal, a local configuration with the state of the
previous one, the resolution of the self identity, and `rebucket_all`. -/
inductive Event where
  | update (a : XdsAddress)
  | remove (name : Strng)
  | syncLocal (services : List Service) (workloads : List LocalWorkload) (prev : PreviousState)
  | resolveSelf (w : Workload)
  | rebucketAll

def step (st : Store) : Event → Store
  | .update a => (st.insertAddress a).1
  | .remove name => st.remove name
  | .syncLocal services workloads prev => (st.syncLocal services workloads prev).1
  | .resolveSelf w => st.resolveSelf w
  | .rebucketAll => st.rebucketAll

def run (st : Store) (events : List Event) : Store := events.foldl step st

end Store

end AgentGateway.Discovery
