import AgentGateway.Library.Map
import AgentGateway.Store.Types

/-! The writes of `binds::Store` through `StoreUpdater::handle` and `sync_local`; a `none`
result is a panic in a route set insert. -/

namespace AgentGateway.Store.Binds

open AgentGateway.Routing.Types AgentGateway.Routing.RouteTable AgentGateway.Store.Types Library.Map
open AgentGateway.Policy.Types (PolicyKey PolicyTarget TargetedPolicy)

variable {α : Type}

/-- The content of `binds::Store` (`store::BindStore`): the bind-event channel and the listener-change counter are
not part of it. -/
structure BindStore (α : Type) where
  binds : AList fun _ : BindKey => Bind
  resources : AList fun _ : Strng => ResourceKind
  policiesByKey : AList fun _ : PolicyKey => TargetedPolicy α
  /-- The `HashSet` of keys per target, as a list without duplicates. -/
  policiesByTarget : AList fun _ : PolicyTarget => List PolicyKey
  backends : AList fun _ : BackendKey => BackendWithPolicies
  pendingListeners : AList fun _ : BindKey => ListenerSet
  httpRoutes : AList fun _ : RouteTarget => RouteSet
  tcpRoutes : AList fun _ : RouteTarget => TCPRouteSet

def BindStore.new {α : Type} : BindStore α := ⟨∅, ∅, ∅, ∅, ∅, ∅, ∅, ∅⟩

namespace BindStore

/-- `upsert_bind`: the listeners kept pending for the bind join it, and the bind replaces the one
under `key`. Opening sockets and the bind events are side effects outside the store. -/
def upsertBind (s : BindStore α) (key : BindKey) (bind : Bind) : BindStore α :=
  let pending := ((s.pendingListeners.lookup bind.key).getD ∅).entries
  let bind := { bind with
    listeners := pending.foldl (fun ls l => ls.insert l.2.key l.2) bind.listeners }
  { s with pendingListeners := s.pendingListeners.erase bind.key, binds := s.binds.insert key bind }

def removeBind (s : BindStore α) (bind : BindKey) : BindStore α :=
  { s with binds := s.binds.erase bind }

def eraseTargetKey (byTarget : AList fun _ : PolicyTarget => List PolicyKey) (t : PolicyTarget)
    (key : PolicyKey) : AList fun _ : PolicyTarget => List PolicyKey :=
  match byTarget.lookup t with
  | some o => byTarget.insert t (o.erase key)
  | none => byTarget

def removePolicy (s : BindStore α) (pol : PolicyKey) : BindStore α :=
  match s.policiesByKey.lookup pol with
  | none => s
  | some old =>
    { s with policiesByKey := s.policiesByKey.erase pol,
             policiesByTarget := eraseTargetKey s.policiesByTarget old.target pol }

def removeBackend (s : BindStore α) (backend : BackendKey) : BindStore α :=
  { s with backends := s.backends.erase backend }

/-- `remove_listener`: the first bind, in the map's iteration order, holding the listener loses it
and is upserted again; a listener only kept pending is not looked for. -/
def removeListener (s : BindStore α) (listener : ListenerKey) : BindStore α :=
  match s.binds.entries.find? (fun e => decide (listener ∈ e.2.listeners)) with
  | none => s
  | some ⟨bindKey, bind⟩ =>
    s.upsertBind bindKey { bind with listeners := bind.listeners.erase listener }

def removeRouteGroup (s : BindStore α) (rg : RouteGroupKey) : BindStore α :=
  { s with httpRoutes := s.httpRoutes.erase (.routeGroup rg) }

/-- The closure of `http_routes.retain`: drop the route from a set holding it, keep the set only
while it is not empty. -/
def retainWithout (routeKey : RouteKey) (_ : RouteTarget) (routeSet : RouteSet) : Option RouteSet :=
  let routeSet := if routeSet.contains routeKey then routeSet.remove routeKey else routeSet
  if !routeSet.isEmpty then some routeSet else none

def retainTcpWithout (routeKey : RouteKey) (_ : RouteTarget) (routeSet : TCPRouteSet) :
    Option TCPRouteSet :=
  let routeSet := if routeSet.contains routeKey then routeSet.remove routeKey else routeSet
  if !routeSet.isEmpty then some routeSet else none

def removeHttpRoute (s : BindStore α) (routeKey : RouteKey) : BindStore α × Bool :=
  ({ s with httpRoutes := filterMapVals (retainWithout routeKey) s.httpRoutes },
    s.httpRoutes.entries.any fun e => e.2.contains routeKey)

def removeTcpRouteFromTargets (s : BindStore α) (routeKey : RouteKey) : BindStore α × Bool :=
  ({ s with tcpRoutes := filterMapVals (retainTcpWithout routeKey) s.tcpRoutes },
    s.tcpRoutes.entries.any fun e => e.2.contains routeKey)

def removeRoute (s : BindStore α) (route : RouteKey) : BindStore α := (s.removeHttpRoute route).1

def removeTcpRoute (s : BindStore α) (tcpRoute : RouteKey) : BindStore α :=
  (s.removeTcpRouteFromTargets tcpRoute).1

def insertBind (s : BindStore α) (bind : Bind) : BindStore α := s.upsertBind bind.key bind

def insertBackend (s : BindStore α) (key : BackendKey) (b : BackendWithPolicies) : BindStore α :=
  { s with backends := s.backends.insert key b }

def insertPolicy (s : BindStore α) (pol : TargetedPolicy α) : BindStore α :=
  let byTarget := match s.policiesByKey.lookup pol.key with
    | some old => eraseTargetKey s.policiesByTarget old.target pol.key
    | none => s.policiesByTarget
  { s with policiesByKey := s.policiesByKey.insert pol.key pol,
           policiesByTarget :=
             byTarget.insert pol.target (((byTarget.lookup pol.target).getD []).insert pol.key) }

def insertListener (s : BindStore α) (lis : Listener) (bindName : BindKey) : BindStore α :=
  match s.binds.lookup bindName with
  | some b =>
    s.upsertBind bindName { b with listeners := (b.listeners.erase lis.key).insert lis.key lis }
  | none =>
    let pending := ((s.pendingListeners.lookup bindName).getD ∅).insert lis.key lis
    { s with pendingListeners := s.pendingListeners.insert bindName pending }

def insertHttpRouteTarget (s : BindStore α) (target : RouteTarget) (route : Route) :
    Option (BindStore α) := do
  let routes ← ((s.httpRoutes.lookup target).getD RouteSet.default).insert route
  pure { s with httpRoutes := s.httpRoutes.insert target routes }

def insertTcpRouteTarget (s : BindStore α) (target : RouteTarget) (route : TCPRoute) :
    Option (BindStore α) := do
  let routes ← ((s.tcpRoutes.lookup target).getD TCPRouteSet.default).insert route
  pure { s with tcpRoutes := s.tcpRoutes.insert target routes }

def insertRouteIntoGroup (s : BindStore α) (r : Route) (ln : RouteGroupKey) : Option (BindStore α) :=
  s.insertHttpRouteTarget (.routeGroup ln) r

def insertRoute (s : BindStore α) (r : Route) (ln : ListenerKey) : Option (BindStore α) :=
  s.insertHttpRouteTarget (.listener ln) r

def insertTcpRoute (s : BindStore α) (r : TCPRoute) (ln : ListenerKey) : Option (BindStore α) :=
  s.insertTcpRouteTarget (.listener ln) r

def insertServiceRoute (s : BindStore α) (r : Route) (serviceKey : NamespacedHostname) :
    Option (BindStore α) :=
  s.insertHttpRouteTarget (.service serviceKey) r

def insertServiceTcpRoute (s : BindStore α) (r : TCPRoute) (serviceKey : NamespacedHostname) :
    Option (BindStore α) :=
  s.insertTcpRouteTarget (.service serviceKey) r

def removeResource (s : BindStore α) (res : Strng) : BindStore α :=
  match s.resources.lookup res with
  | none => s
  | some old =>
    let s := { s with resources := s.resources.erase res }
    match old with
    | .policy n => s.removePolicy n
    | .bind n => s.removeBind n
    | .route n => s.removeRoute n
    | .tcpRoute n => s.removeTcpRoute n
    | .listener n => s.removeListener n
    | .backend n => s.removeBackend n

def insertXdsBind (s : BindStore α) (key : BindKey) (config : String) : BindStore α :=
  let bind : Bind := ⟨key, config, ∅⟩
  let bind := match s.binds.lookup bind.key with
    | some old => { bind with listeners := old.listeners }
    | none => bind
  s.insertBind bind

def insertXdsRoute (s : BindStore α) (route : Route) (listenerName : ListenerKey)
    (rgk : Option RouteGroupKey) : Option (BindStore α) :=
  match rgk with
  | some rgk => s.insertRouteIntoGroup route rgk
  | none =>
    match route.serviceKey with
    | some sk => s.insertServiceRoute route sk
    | none => s.insertRoute route listenerName

def insertXdsTcpRoute (s : BindStore α) (route : TCPRoute) (listenerName : ListenerKey) :
    Option (BindStore α) :=
  match route.serviceKey with
  | some sk => s.insertServiceTcpRoute route sk
  | none => s.insertTcpRoute route listenerName

def recordResource (s : BindStore α) (name : Strng) (kind : ResourceKind) : BindStore α :=
  { s with resources := s.resources.insert name kind }

def insertXds (s : BindStore α) (name : Strng) : Resource α → Option (BindStore α)
  | .bind key config => some ((s.recordResource name (.bind key)).insertXdsBind key config)
  | .listener lis bindName =>
    some ((s.recordResource name (.listener lis.key)).insertListener lis bindName)
  | .route r listenerName rgk =>
    (s.recordResource name (.route r.key)).insertXdsRoute r listenerName rgk
  | .tcpRoute r listenerName =>
    (s.recordResource name (.tcpRoute r.key)).insertXdsTcpRoute r listenerName
  | .backend key b => some ((s.recordResource name (.backend key)).insertBackend key b)
  | .policy p => some ((s.recordResource name (.policy p.key)).insertPolicy p)

def handleUpdate (s : BindStore α) : XdsUpdate α → Option (BindStore α)
  | .update name resource => s.insertXds name resource
  | .remove name => some (s.removeResource name)

end BindStore

def handle (s : BindStore α) (updates : List (XdsUpdate α)) : Option (BindStore α) :=
  updates.foldlM BindStore.handleUpdate s

/-! ### Local configuration -/

structure PreviousState where
  binds : List BindKey
  routes : List RouteKey
  tcpRoutes : List RouteKey
  policies : List PolicyKey
  backends : List BackendKey
  routeGroups : List RouteGroupKey
  deriving DecidableEq, Repr

def PreviousState.default : PreviousState := ⟨[], [], [], [], [], []⟩

structure LocalConfig (α : Type) where
  binds : List Bind
  listenerRoutes : List (ListenerKey × List Route)
  listenerTcpRoutes : List (ListenerKey × List TCPRoute)
  policies : List (TargetedPolicy α)
  backends : List BackendWithPolicies
  routeGroups : List (RouteGroupKey × List Route)

/-- The state of `sync_local`'s loops: the store, the previous keys not seen again yet
(`old_*`) and the keys inserted so far (`next_state`). -/
structure SyncState (α : Type) where
  store : BindStore α
  old : PreviousState
  next : PreviousState

namespace SyncState

def syncBind (t : SyncState α) (b : Bind) : SyncState α :=
  ⟨t.store.insertBind b, { t.old with binds := t.old.binds.erase b.key },
    { t.next with binds := t.next.binds.insert b.key }⟩

def syncBackend (t : SyncState α) (b : BackendWithPolicies) : SyncState α :=
  ⟨t.store.insertBackend b.name b, { t.old with backends := t.old.backends.erase b.name },
    { t.next with backends := t.next.backends.insert b.name }⟩

def syncRoute (listenerKey : ListenerKey) (t : SyncState α) (route : Route) :
    Option (SyncState α) := do
  let store ← t.store.insertRoute route listenerKey
  pure ⟨store, { t.old with routes := t.old.routes.erase route.key },
    { t.next with routes := t.next.routes.insert route.key }⟩

def syncTcpRoute (listenerKey : ListenerKey) (t : SyncState α) (route : TCPRoute) :
    Option (SyncState α) := do
  let store ← t.store.insertTcpRoute route listenerKey
  pure ⟨store, { t.old with tcpRoutes := t.old.tcpRoutes.erase route.key },
    { t.next with tcpRoutes := t.next.tcpRoutes.insert route.key }⟩

def syncPolicy (t : SyncState α) (p : TargetedPolicy α) : SyncState α :=
  ⟨t.store.insertPolicy p, { t.old with policies := t.old.policies.erase p.key },
    { t.next with policies := t.next.policies.insert p.key }⟩

/-- A route group: its key is marked seen, then its routes go into its set; the routes of a group
are not recorded as routes. -/
def syncRouteGroup (t : SyncState α) (rg : RouteGroupKey × List Route) : Option (SyncState α) := do
  let t : SyncState α := ⟨t.store, { t.old with routeGroups := t.old.routeGroups.erase rg.1 },
    { t.next with routeGroups := t.next.routeGroups.insert rg.1 }⟩
  let store ← rg.2.foldlM (fun s r => s.insertRouteIntoGroup r rg.1) t.store
  pure { t with store := store }

end SyncState

/-- `sync_local`: insert everything of the new configuration, then remove what the previous one
had and this one no longer names. -/
def syncLocal (s : BindStore α) (c : LocalConfig α) (prev : PreviousState) :
    Option (BindStore α × PreviousState) := do
  let t : SyncState α := ⟨s, prev, PreviousState.default⟩
  let t := c.binds.foldl SyncState.syncBind t
  let t := c.backends.foldl SyncState.syncBackend t
  let t ← c.listenerRoutes.foldlM (fun t lr => lr.2.foldlM (SyncState.syncRoute lr.1) t) t
  let t ← c.listenerTcpRoutes.foldlM (fun t lr => lr.2.foldlM (SyncState.syncTcpRoute lr.1) t) t
  let t := c.policies.foldl SyncState.syncPolicy t
  let t ← c.routeGroups.foldlM SyncState.syncRouteGroup t
  let s := t.old.binds.foldl BindStore.removeBind t.store
  let s := t.old.routes.foldl BindStore.removeRoute s
  let s := t.old.tcpRoutes.foldl BindStore.removeTcpRoute s
  let s := t.old.policies.foldl BindStore.removePolicy s
  let s := t.old.backends.foldl BindStore.removeBackend s
  let s := t.old.routeGroups.foldl BindStore.removeRouteGroup s
  pure (s, t.next)

end AgentGateway.Store.Binds
