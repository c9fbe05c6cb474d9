import AgentGateway.Library.BinarySearch
import AgentGateway.Routing.Types

/-! `RouteSet` of `types/agent.rs`; a `none` result is the `expect` panic. -/

namespace AgentGateway.Routing.RouteTable

open Library.BinarySearch AgentGateway.Routing.Types

structure SingleRouteMatch where
  key : RouteKey
  index : ℕ
  deriving DecidableEq, Repr

structure RouteSet where
  inner : AList fun _ : HostnameMatch => List SingleRouteMatch
  all : AList fun _ : RouteKey => Route

def RouteSet.default : RouteSet := ⟨∅, ∅⟩

def getPathRank : PathMatch → ℕ
  | .exact _ => 3
  | .pathPrefix _ => 2
  | .regex _ => 2
  | .invalid => 0

def getPathLength : PathMatch → ℕ
  | .exact s => s.utf8ByteSize
  | .pathPrefix s => s.utf8ByteSize
  | .regex r => r.asStr.utf8ByteSize
  | .invalid => 0

def compareRoute (a b : RouteMatch × RouteKey) : Ordering :=
  if getPathRank a.1.path ≠ getPathRank b.1.path then
    (compare (getPathRank a.1.path) (getPathRank b.1.path)).swap
  else if getPathLength a.1.path ≠ getPathLength b.1.path then
    (compare (getPathLength a.1.path) (getPathLength b.1.path)).swap
  else if a.1.method.isSome ≠ b.1.method.isSome then
    (compare a.1.method.isSome b.1.method.isSome).swap
  else if a.1.headers.length ≠ b.1.headers.length then
    (compare a.1.headers.length b.1.headers.length).swap
  else if a.1.query.length ≠ b.1.query.length then
    (compare a.1.query.length b.1.query.length).swap
  else compare a.2 b.2

def hostnameMatchers (r : Route) : List HostnameMatch :=
  if r.hostnames.isEmpty then [.none] else r.hostnames.map HostnameMatch.fromStrng

namespace RouteSet

def contains (rs : RouteSet) (key : RouteKey) : Bool := (rs.all.lookup key).isSome

def removeFromBucket (key : RouteKey) (inner : AList fun _ : HostnameMatch => List SingleRouteMatch)
    (h : HostnameMatch) : AList fun _ : HostnameMatch => List SingleRouteMatch :=
  match inner.lookup h with
  | none => inner
  | some v =>
    let v' := v.filter fun r => r.key != key
    if v'.isEmpty then inner.erase h else inner.insert h v'

def remove (rs : RouteSet) (key : RouteKey) : RouteSet :=
  match rs.all.lookup key with
  | none => rs
  | some old => ⟨(hostnameMatchers old).foldl (removeFromBucket key) rs.inner, rs.all.erase key⟩

def existingOrder (all : AList fun _ : RouteKey => Route) (m : RouteMatch) (key : RouteKey)
    (existing : SingleRouteMatch) : Option Ordering := do
  let haveRoute ← all.lookup existing.key
  let haveMatch ← haveRoute.matches[existing.index]?
  pure (compareRoute (m, key) (haveMatch, existing.key)).swap

def insertMatch (all : AList fun _ : RouteKey => Route) (key : RouteKey)
    (v : List SingleRouteMatch) (mi : RouteMatch × ℕ) : Option (List SingleRouteMatch) := do
  let toInsert ← binarySearchBy v (existingOrder all mi.1 key)
  pure (v.insertIdx (position toInsert) ⟨key, mi.2⟩)

def insertBucket (all : AList fun _ : RouteKey => Route) (r : Route)
    (inner : AList fun _ : HostnameMatch => List SingleRouteMatch) (h : HostnameMatch) :
    Option (AList fun _ : HostnameMatch => List SingleRouteMatch) := do
  let v ← r.matches.zipIdx.foldlM (insertMatch all r.key) ((inner.lookup h).getD [])
  pure (inner.insert h v)

def insert (rs : RouteSet) (r : Route) : Option RouteSet :=
  -- an existing key is replaced through `remove`; `all` is updated before the buckets so that
  -- the comparator can resolve the new route's own entries
  let rs := if rs.contains r.key then rs.remove r.key else rs
  let all := rs.all.insert r.key r
  do
    let inner ← (hostnameMatchers r).foldlM (insertBucket all r) rs.inner
    pure ⟨inner, all⟩

/-- `get_hostname`: the lazy iterator, an element being `none` where it would panic. Entries whose
route is absent are skipped. -/
def getHostname (rs : RouteSet) (hnm : HostnameMatch) : List (Option (Route × RouteMatch)) :=
  ((rs.inner.lookup hnm).getD []).filterMap fun rl =>
    (rs.all.lookup rl.key).map fun r => r.matches[rl.index]?.map fun m => (r, m)

def isEmpty (rs : RouteSet) : Bool := rs.inner.entries.isEmpty

end RouteSet

inductive Op where
  | insert (r : Route)
  | remove (key : RouteKey)

def Op.apply (rs : RouteSet) : Op → Option RouteSet
  | .insert r => rs.insert r
  | .remove key => some (rs.remove key)

def run (ops : List Op) : Option RouteSet := ops.foldlM Op.apply RouteSet.default

/-! ## `compare_route` is a lexicographic comparison -/

lemma ite_swap_compare {β : Type*} [Ord β] [DecidableEq β] [Std.OrientedOrd β] [Std.LawfulEqOrd β] (x y : β)
    (o : Ordering) : (if x ≠ y then (compare x y).swap else o) = (compare y x).then o := by
  by_cases h : x = y
  · subst h
    simp [Std.ReflOrd.compare_self]
  · have hne : compare y x ≠ .eq := fun he => h (Std.LawfulEqOrd.eq_of_compare he).symm
    rw [if_pos h, ← Std.OrientedOrd.eq_swap]
    cases hc : compare y x <;> simp_all

theorem compareRoute_eq_lex :
    compareRoute = compareLex (fun a b => compareOn (fun x : RouteMatch × RouteKey => getPathRank x.1.path) b a)
      (compareLex (fun a b => compareOn (fun x : RouteMatch × RouteKey => getPathLength x.1.path) b a)
        (compareLex (fun a b => compareOn (fun x : RouteMatch × RouteKey => x.1.method.isSome) b a)
          (compareLex (fun a b => compareOn (fun x : RouteMatch × RouteKey => x.1.headers.length) b a)
            (compareLex (fun a b => compareOn (fun x : RouteMatch × RouteKey => x.1.query.length) b a)
              (compareOn fun x : RouteMatch × RouteKey => x.2))))) := by
  funext a b
  simp only [compareRoute, compareLex, compareOn, ite_swap_compare]

instance : Std.TransCmp compareRoute := by
  rw [compareRoute_eq_lex]
  infer_instance

end AgentGateway.Routing.RouteTable
