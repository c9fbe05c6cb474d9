import AgentGateway.Store.Binds

/-! Whether the bind store reaches the same content whatever path the configuration took. -/

namespace AgentGateway.Store.Convergence

open AgentGateway.Routing.Types AgentGateway.Routing.RouteTable AgentGateway.Store.Types
  AgentGateway.Store.Binds

def listenerIn {α : Type} (b : BindKey) (l : ListenerKey) (s : BindStore α) : Option Bool :=
  (s.binds.lookup b).map fun bind => decide (l ∈ bind.listeners)

def routeUnder {α : Type} (t : RouteTarget) (r : RouteKey) (s : BindStore α) : Option Bool :=
  (s.httpRoutes.lookup t).map (·.contains r)

def bindUpdate : XdsUpdate Unit := .update "bind-b" (.bind "b" "")

def listenerUpdate : XdsUpdate Unit := .update "listener-l" (.listener ⟨"l", ""⟩ "b")

def plainRoute (key : RouteKey) : Route := ⟨key, none, 0, [], []⟩

def routeUpdate (listener : ListenerKey) : XdsUpdate Unit :=
  .update "route-r" (.route (plainRoute "r") listener none)

/-- Three histories and, after each, the batch of the last surviving update of every name: a
listener removed while its bind was pending comes back with the bind; a route moved to another
listener stays under the first; a bind removed and pushed again has lost its listener. -/
theorem handle_history_diverges :
    (handle BindStore.new [listenerUpdate, .remove "listener-l", bindUpdate]).map (listenerIn "b" "l") =
      some (some true) ∧
    (handle BindStore.new [bindUpdate]).map (listenerIn "b" "l") = some (some false) ∧
    (handle BindStore.new [routeUpdate "l1", routeUpdate "l2"]).map
      (routeUnder (.listener "l1") "r") = some (some true) ∧
    (handle BindStore.new [routeUpdate "l2"]).map (routeUnder (.listener "l1") "r") = some none ∧
    (handle BindStore.new [bindUpdate, listenerUpdate, .remove "bind-b", bindUpdate]).map
      (listenerIn "b" "l") = some (some false) ∧
    (handle BindStore.new [bindUpdate, listenerUpdate]).map (listenerIn "b" "l") = some (some true) ∧
    (handle BindStore.new [listenerUpdate, bindUpdate]).map (listenerIn "b" "l") = some (some true) := by
  decide

def groupConfig (routes : List Route) : LocalConfig Unit := ⟨[], [], [], [], [], [("g", routes)]⟩

def listenerConfig (l : ListenerKey) : LocalConfig Unit :=
  ⟨[], [(l, [plainRoute "r"])], [], [], [], []⟩

/-- Reload after reload against one reload: a route dropped from a group that stays keeps its
place, and a route moved to another listener stays under the first. -/
theorem syncLocal_reload_diverges :
    ((syncLocal BindStore.new (groupConfig [plainRoute "r1", plainRoute "r2"]) .default).bind
        fun p => syncLocal p.1 (groupConfig [plainRoute "r1"]) p.2).map
      (routeUnder (.routeGroup "g") "r2" ·.1) = some (some true) ∧
    (syncLocal BindStore.new (groupConfig [plainRoute "r1"]) .default).map
      (routeUnder (.routeGroup "g") "r2" ·.1) = some (some false) ∧
    ((syncLocal BindStore.new (listenerConfig "l1") .default).bind
        fun p => syncLocal p.1 (listenerConfig "l2") p.2).map
      (routeUnder (.listener "l1") "r" ·.1) = some (some true) ∧
    (syncLocal BindStore.new (listenerConfig "l2") .default).map
      (routeUnder (.listener "l1") "r" ·.1) = some none := by
  decide

end AgentGateway.Store.Convergence
