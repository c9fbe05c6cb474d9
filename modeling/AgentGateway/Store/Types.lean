import Mathlib.Data.List.AList
import AgentGateway.Library.BinarySearch
import AgentGateway.Routing.RouteTable
import AgentGateway.Policy.Types

/-! The data the bind store of `store/binds.rs` keeps. -/

namespace AgentGateway.Store.Types

open AgentGateway.Routing.Types AgentGateway.Routing.RouteTable AgentGateway.Policy.Types
  Library.BinarySearch

abbrev BindKey := Strng
abbrev ListenerKey := Strng
abbrev BackendKey := Strng
abbrev RouteGroupKey := Strng

structure Listener where
  key : ListenerKey
  config : String
  deriving DecidableEq, Repr

abbrev ListenerSet := AList fun _ : ListenerKey => Listener

structure Bind where
  key : BindKey
  config : String
  listeners : ListenerSet

structure BackendWithPolicies where
  name : BackendKey
  config : String
  deriving DecidableEq, Repr

structure TCPRoute where
  key : RouteKey
  serviceKey : Option NamespacedHostname
  hostnames : List Strng
  deriving DecidableEq, Repr

structure TCPRouteSet where
  inner : AList fun _ : HostnameMatch => List RouteKey
  all : AList fun _ : RouteKey => TCPRoute

namespace TCPRouteSet

def default : TCPRouteSet := ⟨∅, ∅⟩

def hostnameMatchers (r : TCPRoute) : List HostnameMatch :=
  if r.hostnames.isEmpty then [.none] else r.hostnames.map HostnameMatch.fromStrng

def contains (rs : TCPRouteSet) (key : RouteKey) : Bool := (rs.all.lookup key).isSome

def removeFromBucket (key : RouteKey) (inner : AList fun _ : HostnameMatch => List RouteKey)
    (h : HostnameMatch) : AList fun _ : HostnameMatch => List RouteKey :=
  match inner.lookup h with
  | none => inner
  | some v =>
    let v' := v.filter (· != key)
    if v'.isEmpty then inner.erase h else inner.insert h v'

def remove (rs : TCPRouteSet) (key : RouteKey) : TCPRouteSet :=
  match rs.all.lookup key with
  | none => rs
  | some old => ⟨(hostnameMatchers old).foldl (removeFromBucket key) rs.inner, rs.all.erase key⟩

/-- One round of `for hostname_match in Self::hostname_matchers(&r)`: the key goes in at the
position `binary_search_by(|existing| existing.cmp(&r.key))` gives. -/
def insertBucket (key : RouteKey) (inner : AList fun _ : HostnameMatch => List RouteKey)
    (h : HostnameMatch) : Option (AList fun _ : HostnameMatch => List RouteKey) := do
  let v := (inner.lookup h).getD []
  let toInsert ← binarySearchBy v fun existing => some (compare existing key)
  pure (inner.insert h (v.insertIdx (position toInsert) key))

def insert (rs : TCPRouteSet) (r : TCPRoute) : Option TCPRouteSet :=
  let rs := if rs.contains r.key then rs.remove r.key else rs
  let all := rs.all.insert r.key r
  do
    let inner ← (hostnameMatchers r).foldlM (insertBucket r.key) rs.inner
    pure ⟨inner, all⟩

def isEmpty (rs : TCPRouteSet) : Bool := rs.inner.entries.isEmpty

end TCPRouteSet

inductive RouteTarget where
  | listener (l : ListenerKey)
  | service (s : NamespacedHostname)
  | routeGroup (g : RouteGroupKey)
  deriving DecidableEq, Repr

inductive ResourceKind where
  | policy (k : PolicyKey)
  | bind (k : BindKey)
  | route (k : RouteKey)
  | tcpRoute (k : RouteKey)
  | listener (k : ListenerKey)
  | backend (k : BackendKey)
  deriving DecidableEq, Repr

/-- An xDS resource after conversion (`Bind::from_xds`, `Listener::from_xds`, `Route::from_xds`,
..): a converted bind has no listeners yet. -/
inductive Resource (α : Type) where
  | bind (key : BindKey) (config : String)
  | listener (l : Listener) (bindKey : BindKey)
  | route (r : Route) (listenerKey : ListenerKey) (routeGroup : Option RouteGroupKey)
  | tcpRoute (r : TCPRoute) (listenerKey : ListenerKey)
  | backend (key : BackendKey) (b : BackendWithPolicies)
  | policy (p : TargetedPolicy α)

inductive XdsUpdate (α : Type) where
  | update (name : Strng) (resource : Resource α)
  | remove (name : Strng)

end AgentGateway.Store.Types
