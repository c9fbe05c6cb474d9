import AgentGateway.Routing.RouteSetInvariant
import AgentGateway.Library.Fold
import AgentGateway.Store.Binds

/-! What the bind store keeps true under every xDS history and local reload, so no insert
panics. -/

namespace AgentGateway.Store.Invariants

open AgentGateway.Routing AgentGateway.Routing.Types AgentGateway.Routing.RouteTable
  AgentGateway.Store.Types AgentGateway.Store.Binds Library.BinarySearch Library.Map Library.Fold
open AgentGateway.Policy.Types (PolicyKey PolicyTarget TargetedPolicy)

variable {α : Type}

/-! ### The policy index -/

section PolicyIndex

variable {byKey : AList fun _ : PolicyKey => TargetedPolicy α}
  {byTarget : AList fun _ : PolicyTarget => List PolicyKey}

def keysAt (byTarget : AList fun _ : PolicyTarget => List PolicyKey) (t : PolicyTarget) :
    List PolicyKey :=
  (byTarget.lookup t).getD []

structure PolicyIndexed (byKey : AList fun _ : PolicyKey => TargetedPolicy α)
    (byTarget : AList fun _ : PolicyTarget => List PolicyKey) : Prop where
  key_eq : ∀ k p, byKey.lookup k = some p → p.key = k
  mem_target : ∀ k p, byKey.lookup k = some p → k ∈ keysAt byTarget p.target
  target_eq : ∀ t k, k ∈ keysAt byTarget t → ∃ p, byKey.lookup k = some p ∧ p.target = t
  nodup : ∀ t, (keysAt byTarget t).Nodup

lemma policyIndexed_empty : PolicyIndexed (∅ : AList fun _ : PolicyKey => TargetedPolicy α) ∅ where
  key_eq k p h := by simp at h
  mem_target k p h := by simp at h
  target_eq t k h := by simp [keysAt] at h
  nodup t := by simp [keysAt]

@[simp] lemma keysAt_insert (t t' : PolicyTarget) (l : List PolicyKey) :
    keysAt (byTarget.insert t l) t' = if t' = t then l else keysAt byTarget t' := by
  by_cases h : t' = t
  · subst h
    simp [keysAt]
  · simp [keysAt, h, AList.lookup_insert_ne h]

lemma keysAt_eraseTargetKey (t t' : PolicyTarget) (k : PolicyKey) :
    keysAt (BindStore.eraseTargetKey byTarget t k) t' =
      if t' = t then (keysAt byTarget t).erase k else keysAt byTarget t' := by
  unfold BindStore.eraseTargetKey
  cases h : byTarget.lookup t with
  | some o =>
    rw [keysAt_insert]
    simp [keysAt, h]
  | none =>
    by_cases ht : t' = t
    · subst ht
      simp [keysAt, h]
    · simp [ht]

lemma PolicyIndexed.not_mem_of_lookup_none (hI : PolicyIndexed byKey byTarget) {k : PolicyKey}
    (h : byKey.lookup k = none) (t : PolicyTarget) : k ∉ keysAt byTarget t := by
  intro hk
  obtain ⟨p, hp, -⟩ := hI.target_eq t k hk
  simp [h] at hp

lemma PolicyIndexed.mem_keysAt_eraseTargetKey (hI : PolicyIndexed byKey byTarget) {k : PolicyKey}
    {old : TargetedPolicy α} (hold : byKey.lookup k = some old) (t : PolicyTarget) (k' : PolicyKey) :
    k' ∈ keysAt (BindStore.eraseTargetKey byTarget old.target k) t ↔ k' ≠ k ∧ k' ∈ keysAt byTarget t := by
  rw [keysAt_eraseTargetKey]
  by_cases ht : t = old.target
  · subst ht
    simp only [if_true]
    exact (hI.nodup _).mem_erase_iff
  · simp only [ht, if_false]
    refine ⟨fun hk' => ⟨?_, hk'⟩, fun h => h.2⟩
    rintro rfl
    obtain ⟨p, hp, hpt⟩ := hI.target_eq t k' hk'
    rw [hold, Option.some.injEq] at hp
    exact ht (hp ▸ hpt).symm

theorem PolicyIndexed.eraseTargetKey (hI : PolicyIndexed byKey byTarget) {k : PolicyKey}
    {old : TargetedPolicy α} (hold : byKey.lookup k = some old) :
    PolicyIndexed (byKey.erase k) (BindStore.eraseTargetKey byTarget old.target k) where
  key_eq k' p h := by
    by_cases hk : k' = k
    · subst hk
      simp at h
    · rw [AList.lookup_erase_ne hk] at h
      exact hI.key_eq k' p h
  mem_target k' p h := by
    by_cases hk : k' = k
    · subst hk
      simp at h
    · rw [AList.lookup_erase_ne hk] at h
      exact (hI.mem_keysAt_eraseTargetKey hold _ _).mpr ⟨hk, hI.mem_target k' p h⟩
  target_eq t k' h := by
    obtain ⟨hk, hmem⟩ := (hI.mem_keysAt_eraseTargetKey hold _ _).mp h
    rw [AList.lookup_erase_ne hk]
    exact hI.target_eq t k' hmem
  nodup t := by
    rw [keysAt_eraseTargetKey]
    split
    · exact (hI.nodup _).erase k
    · exact hI.nodup t

lemma PolicyIndexed.insert (hI : PolicyIndexed byKey byTarget) (pol : TargetedPolicy α)
    {cleared : AList fun _ : PolicyTarget => List PolicyKey}
    (hcleared : ∀ t k, k ∈ keysAt cleared t ↔ k ≠ pol.key ∧ k ∈ keysAt byTarget t)
    (hnodup : ∀ t, (keysAt cleared t).Nodup) :
    PolicyIndexed (byKey.insert pol.key pol) (cleared.insert pol.target ((keysAt cleared pol.target).insert pol.key)) := by
  constructor
  · intro k p h
    by_cases hk : k = pol.key
    · subst hk
      simp only [AList.lookup_insert, Option.some.injEq] at h
      exact h ▸ rfl
    · rw [AList.lookup_insert_ne hk] at h
      exact hI.key_eq k p h
  · intro k p h
    by_cases hk : k = pol.key
    · subst hk
      simp only [AList.lookup_insert, Option.some.injEq] at h
      subst h
      simp
    · rw [AList.lookup_insert_ne hk] at h
      have hmem : k ∈ keysAt cleared p.target := (hcleared _ _).mpr ⟨hk, hI.mem_target k p h⟩
      rw [keysAt_insert]
      split
      · next ht => exact List.mem_insert_of_mem (ht ▸ hmem)
      · exact hmem
  · intro t k h
    rw [keysAt_insert] at h
    split at h
    · next ht =>
      rcases List.mem_insert_iff.mp h with rfl | hk
      · exact ⟨pol, AList.lookup_insert _, ht.symm⟩
      · obtain ⟨hne, hmem⟩ := (hcleared _ _).mp (ht ▸ hk)
        rw [AList.lookup_insert_ne hne]
        exact hI.target_eq t k hmem
    · obtain ⟨hne, hmem⟩ := (hcleared _ _).mp h
      rw [AList.lookup_insert_ne hne]
      exact hI.target_eq t k hmem
  · intro t
    rw [keysAt_insert]
    split
    · exact (hnodup _).insert
    · exact hnodup t

end PolicyIndex

section BindStore

variable {s : BindStore α}

def policiesIndexed (s : BindStore α) : Prop :=
  PolicyIndexed s.policiesByKey s.policiesByTarget

theorem policiesIndexed_removePolicy (hI : policiesIndexed s) (k : PolicyKey) :
    policiesIndexed (s.removePolicy k) := by
  unfold BindStore.removePolicy
  cases hold : s.policiesByKey.lookup k with
  | none => exact hI
  | some old => exact PolicyIndexed.eraseTargetKey hI hold

theorem policiesIndexed_insertPolicy (hI : policiesIndexed s) (pol : TargetedPolicy α) :
    policiesIndexed (s.insertPolicy pol) := by
  unfold policiesIndexed BindStore.insertPolicy
  -- the target sets once the key has left its previous target
  cases hold : s.policiesByKey.lookup pol.key with
  | some old =>
    exact hI.insert pol (hI.mem_keysAt_eraseTargetKey hold) (PolicyIndexed.eraseTargetKey hI hold).nodup
  | none =>
    refine hI.insert pol (fun t k => ⟨fun hk => ⟨?_, hk⟩, fun h => h.2⟩) hI.nodup
    rintro rfl
    exact hI.not_mem_of_lookup_none hold t hk

end BindStore

/-! ### TCP route sets never panic -/

lemma TCPRouteSet.insertBucket_total (key : RouteKey)
    (inner : AList fun _ : HostnameMatch => List RouteKey) (h : HostnameMatch) :
    ∃ inner', TCPRouteSet.insertBucket key inner h = some inner' := by
  obtain ⟨r, hr⟩ := binarySearchBy_total (v := (inner.lookup h).getD [])
    (f := fun existing => some (compare existing key)) fun _ _ => rfl
  simp [TCPRouteSet.insertBucket, hr]

lemma TCPRouteSet.insert_total (rs : TCPRouteSet) (r : TCPRoute) : ∃ rs', rs.insert r = some rs' := by
  obtain ⟨inner, hinner, -⟩ := foldlM_invariant (P := fun _ => True)
    (fun inner h _ => (TCPRouteSet.insertBucket_total r.key inner h).imp fun _ h => ⟨h, trivial⟩)
    (TCPRouteSet.hostnameMatchers r) (if rs.contains r.key then rs.remove r.key else rs).inner trivial
  exact ⟨_, by simp only [TCPRouteSet.insert, hinner, Option.bind_eq_bind, Option.bind_some]; rfl⟩

/-! ### The store invariant -/

structure StoreInvariant (s : BindStore α) : Prop where
  policies : policiesIndexed s
  httpRoutes : ∀ t rs, s.httpRoutes.lookup t = some rs → RouteSetInvariant.Invariant rs

lemma storeInvariant_new : StoreInvariant (BindStore.new : BindStore α) where
  policies := policyIndexed_empty
  httpRoutes t rs h := by simp [BindStore.new] at h

namespace StoreInvariant

variable {s s' : BindStore α}

lemma of_frame (hs : StoreInvariant s) (hkey : s'.policiesByKey = s.policiesByKey)
    (htarget : s'.policiesByTarget = s.policiesByTarget) (hroutes : s'.httpRoutes = s.httpRoutes) :
    StoreInvariant s' where
  policies := by
    unfold policiesIndexed
    rw [hkey, htarget]
    exact hs.policies
  httpRoutes := hroutes ▸ hs.httpRoutes

lemma upsertBind (hs : StoreInvariant s) (key : BindKey) (bind : Bind) :
    StoreInvariant (s.upsertBind key bind) :=
  hs.of_frame rfl rfl rfl

lemma removeListener (hs : StoreInvariant s) (listener : ListenerKey) :
    StoreInvariant (s.removeListener listener) := by
  unfold BindStore.removeListener
  split
  · exact hs
  · exact hs.upsertBind _ _

lemma insertListener (hs : StoreInvariant s) (lis : Listener) (bindName : BindKey) :
    StoreInvariant (s.insertListener lis bindName) := by
  unfold BindStore.insertListener
  split
  · exact hs.upsertBind _ _
  · exact hs.of_frame rfl rfl rfl

lemma removePolicy (hs : StoreInvariant s) (k : PolicyKey) : StoreInvariant (s.removePolicy k) where
  policies := policiesIndexed_removePolicy hs.policies k
  httpRoutes := by
    unfold BindStore.removePolicy
    split
    · exact hs.httpRoutes
    · exact hs.httpRoutes

lemma insertPolicy (hs : StoreInvariant s) (p : TargetedPolicy α) :
    StoreInvariant (s.insertPolicy p) where
  policies := policiesIndexed_insertPolicy hs.policies p
  httpRoutes := hs.httpRoutes

lemma removeRoute (hs : StoreInvariant s) (route : RouteKey) :
    StoreInvariant (s.removeRoute route) where
  policies := hs.policies
  httpRoutes t rs h := by
    simp only [BindStore.removeRoute, BindStore.removeHttpRoute, lookup_filterMapVals,
      Option.bind_eq_some_iff] at h
    obtain ⟨rs₀, h₀, hkeep⟩ := h
    have hinv₀ := hs.httpRoutes t rs₀ h₀
    simp only [BindStore.retainWithout, Bool.not_eq_true', Option.ite_none_right_eq_some,
      Option.some.injEq] at hkeep
    obtain ⟨-, rfl⟩ := hkeep
    split
    · exact RouteSetInvariant.invariant_remove hinv₀ route
    · exact hinv₀

lemma removeRouteGroup (hs : StoreInvariant s) (rg : RouteGroupKey) :
    StoreInvariant (s.removeRouteGroup rg) where
  policies := hs.policies
  httpRoutes t rs h := by
    by_cases ht : t = .routeGroup rg
    · subst ht
      simp [BindStore.removeRouteGroup] at h
    · rw [BindStore.removeRouteGroup, AList.lookup_erase_ne ht] at h
      exact hs.httpRoutes t rs h

lemma insertHttpRouteTarget (hs : StoreInvariant s) (target : RouteTarget) (route : Route) :
    ∃ s', s.insertHttpRouteTarget target route = some s' ∧ StoreInvariant s' := by
  have hinv : RouteSetInvariant.Invariant ((s.httpRoutes.lookup target).getD RouteSet.default) := by
    cases h : s.httpRoutes.lookup target with
    | none => exact RouteSetInvariant.invariant_default
    | some rs => exact hs.httpRoutes target rs h
  obtain ⟨rs', hrs', hinv'⟩ := RouteSetInvariant.invariant_insert hinv route
  refine ⟨{ s with httpRoutes := s.httpRoutes.insert target rs' },
    by simp [BindStore.insertHttpRouteTarget, hrs'], hs.policies, ?_⟩
  intro t rs h
  by_cases ht : t = target
  · subst ht
    simp only [AList.lookup_insert, Option.some.injEq] at h
    exact h ▸ hinv'
  · rw [AList.lookup_insert_ne ht] at h
    exact hs.httpRoutes t rs h

lemma insertTcpRouteTarget (hs : StoreInvariant s) (target : RouteTarget) (route : TCPRoute) :
    ∃ s', s.insertTcpRouteTarget target route = some s' ∧ StoreInvariant s' := by
  obtain ⟨rs', hrs'⟩ := TCPRouteSet.insert_total
    ((s.tcpRoutes.lookup target).getD TCPRouteSet.default) route
  exact ⟨{ s with tcpRoutes := s.tcpRoutes.insert target rs' },
    by simp [BindStore.insertTcpRouteTarget, hrs'], hs.of_frame rfl rfl rfl⟩

lemma insertXdsRoute (hs : StoreInvariant s) (route : Route) (listenerName : ListenerKey)
    (rgk : Option RouteGroupKey) :
    ∃ s', s.insertXdsRoute route listenerName rgk = some s' ∧ StoreInvariant s' := by
  unfold BindStore.insertXdsRoute
  split
  · exact hs.insertHttpRouteTarget _ _
  · split
    · exact hs.insertHttpRouteTarget _ _
    · exact hs.insertHttpRouteTarget _ _

lemma insertXdsTcpRoute (hs : StoreInvariant s) (route : TCPRoute) (listenerName : ListenerKey) :
    ∃ s', s.insertXdsTcpRoute route listenerName = some s' ∧ StoreInvariant s' := by
  unfold BindStore.insertXdsTcpRoute
  split
  · exact hs.insertTcpRouteTarget _ _
  · exact hs.insertTcpRouteTarget _ _

lemma insertBind (hs : StoreInvariant s) (bind : Bind) : StoreInvariant (s.insertBind bind) :=
  hs.upsertBind _ _

lemma insertXdsBind (hs : StoreInvariant s) (key : BindKey) (config : String) :
    StoreInvariant (s.insertXdsBind key config) :=
  hs.insertBind _

lemma removeBind (hs : StoreInvariant s) (bind : BindKey) : StoreInvariant (s.removeBind bind) :=
  hs.of_frame rfl rfl rfl

lemma insertBackend (hs : StoreInvariant s) (key : BackendKey) (b : BackendWithPolicies) :
    StoreInvariant (s.insertBackend key b) :=
  hs.of_frame rfl rfl rfl

lemma removeBackend (hs : StoreInvariant s) (backend : BackendKey) :
    StoreInvariant (s.removeBackend backend) :=
  hs.of_frame rfl rfl rfl

lemma removeTcpRoute (hs : StoreInvariant s) (route : RouteKey) :
    StoreInvariant (s.removeTcpRoute route) :=
  hs.of_frame rfl rfl rfl

lemma recordResource (hs : StoreInvariant s) (name : Strng) (kind : ResourceKind) :
    StoreInvariant (s.recordResource name kind) :=
  hs.of_frame rfl rfl rfl

lemma removeResource (hs : StoreInvariant s) (res : Strng) :
    StoreInvariant (s.removeResource res) := by
  unfold BindStore.removeResource
  split
  · exact hs
  · -- forgetting the name touches nothing the invariant reads
    have hs₁ : StoreInvariant { s with resources := s.resources.erase res } :=
      hs.of_frame rfl rfl rfl
    split
    · exact hs₁.removePolicy _
    · exact hs₁.removeBind _
    · exact hs₁.removeRoute _
    · exact hs₁.removeTcpRoute _
    · exact hs₁.removeListener _
    · exact hs₁.removeBackend _

lemma insertXds (hs : StoreInvariant s) (name : Strng) (res : Resource α) :
    ∃ s', s.insertXds name res = some s' ∧ StoreInvariant s' := by
  cases res with
  | bind key config => exact ⟨_, rfl, (hs.recordResource _ _).insertXdsBind _ _⟩
  | listener lis bindName => exact ⟨_, rfl, (hs.recordResource _ _).insertListener _ _⟩
  | route r listenerName rgk => exact (hs.recordResource _ _).insertXdsRoute _ _ _
  | tcpRoute r listenerName => exact (hs.recordResource _ _).insertXdsTcpRoute _ _
  | backend key b => exact ⟨_, rfl, (hs.recordResource _ _).insertBackend _ _⟩
  | policy p => exact ⟨_, rfl, (hs.recordResource _ _).insertPolicy _⟩

lemma handleUpdate (hs : StoreInvariant s) (u : XdsUpdate α) :
    ∃ s', s.handleUpdate u = some s' ∧ StoreInvariant s' := by
  cases u with
  | update name resource => exact hs.insertXds name resource
  | remove name => exact ⟨_, rfl, hs.removeResource name⟩

end StoreInvariant

theorem handle_storeInvariant {s : BindStore α} (hs : StoreInvariant s) (updates : List (XdsUpdate α)) :
    ∃ s', handle s updates = some s' ∧ StoreInvariant s' :=
  foldlM_invariant (fun _ u hs => hs.handleUpdate u) updates s hs

/-! ### Local reloads -/

namespace StoreInvariant

variable {t : SyncState α}

lemma syncBind (ht : StoreInvariant t.store) (b : Bind) : StoreInvariant (t.syncBind b).store :=
  ht.insertBind b

lemma syncBackend (ht : StoreInvariant t.store) (b : BackendWithPolicies) :
    StoreInvariant (t.syncBackend b).store :=
  ht.insertBackend _ _

lemma syncPolicy (ht : StoreInvariant t.store) (p : TargetedPolicy α) :
    StoreInvariant (t.syncPolicy p).store :=
  ht.insertPolicy p

lemma syncRoute (ht : StoreInvariant t.store) (listenerKey : ListenerKey) (route : Route) :
    ∃ t', t.syncRoute listenerKey route = some t' ∧ StoreInvariant t'.store := by
  obtain ⟨s', h, hs'⟩ := ht.insertHttpRouteTarget (.listener listenerKey) route
  simpa [SyncState.syncRoute, BindStore.insertRoute, h] using hs'

lemma syncTcpRoute (ht : StoreInvariant t.store) (listenerKey : ListenerKey) (route : TCPRoute) :
    ∃ t', t.syncTcpRoute listenerKey route = some t' ∧ StoreInvariant t'.store := by
  obtain ⟨s', h, hs'⟩ := ht.insertTcpRouteTarget (.listener listenerKey) route
  simpa [SyncState.syncTcpRoute, BindStore.insertTcpRoute, h] using hs'

lemma syncRouteGroup (ht : StoreInvariant t.store) (rg : RouteGroupKey × List Route) :
    ∃ t', t.syncRouteGroup rg = some t' ∧ StoreInvariant t'.store := by
  obtain ⟨s', h, hs'⟩ := foldlM_invariant (P := StoreInvariant)
    (fun s r hs => hs.insertHttpRouteTarget (.routeGroup rg.1) r) rg.2 t.store ht
  simpa [SyncState.syncRouteGroup, BindStore.insertRouteIntoGroup, h] using hs'

end StoreInvariant

/-- A local reload never panics and keeps the invariant: the insert loops keep it step by step,
and so do the removals of what the previous reload had. -/
theorem syncLocal_storeInvariant {s : BindStore α} (hs : StoreInvariant s) (c : LocalConfig α)
    (prev : PreviousState) :
    ∃ s' next, syncLocal s c prev = some (s', next) ∧ StoreInvariant s' := by
  let P : SyncState α → Prop := fun t => StoreInvariant t.store
  have h₁ : P (c.binds.foldl SyncState.syncBind ⟨s, prev, .default⟩) :=
    List.foldlRecOn _ _ hs fun _ ht b _ => StoreInvariant.syncBind ht b
  have h₂ : P (c.backends.foldl SyncState.syncBackend _) :=
    List.foldlRecOn _ _ h₁ fun _ ht b _ => StoreInvariant.syncBackend ht b
  obtain ⟨t₃, e₃, h₃⟩ := foldlM_invariant (P := P)
    (fun t lr ht => foldlM_invariant (P := P) (fun t r ht => StoreInvariant.syncRoute ht lr.1 r)
      lr.2 t ht) c.listenerRoutes _ h₂
  obtain ⟨t₄, e₄, h₄⟩ := foldlM_invariant (P := P)
    (fun t lr ht => foldlM_invariant (P := P) (fun t r ht => StoreInvariant.syncTcpRoute ht lr.1 r)
      lr.2 t ht) c.listenerTcpRoutes t₃ h₃
  have h₅ : P (c.policies.foldl SyncState.syncPolicy t₄) :=
    List.foldlRecOn _ _ h₄ fun _ ht p _ => StoreInvariant.syncPolicy ht p
  obtain ⟨t₆, e₆, h₆⟩ := foldlM_invariant (P := P)
    (fun t rg ht => StoreInvariant.syncRouteGroup ht rg) c.routeGroups _ h₅
  -- the removals are plain folds over the keys left in `old`
  have h₇ := List.foldlRecOn (motive := StoreInvariant) t₆.old.binds _ h₆ fun s hs b _ => StoreInvariant.removeBind hs b
  have h₈ := List.foldlRecOn t₆.old.routes _ h₇ fun s hs r _ => StoreInvariant.removeRoute hs r
  have h₉ := List.foldlRecOn t₆.old.tcpRoutes _ h₈ fun s hs r _ => StoreInvariant.removeTcpRoute hs r
  have h₁₀ := List.foldlRecOn t₆.old.policies _ h₉ fun s hs p _ => StoreInvariant.removePolicy hs p
  have h₁₁ := List.foldlRecOn t₆.old.backends _ h₁₀ fun s hs b _ => StoreInvariant.removeBackend hs b
  have h₁₂ := List.foldlRecOn t₆.old.routeGroups _ h₁₁
    fun s hs g _ => StoreInvariant.removeRouteGroup hs g
  exact ⟨_, t₆.next, by simp [syncLocal, e₃, e₄, e₆], h₁₂⟩

/-! ### Reachable stores -/

/-- The stores a gateway can hold: the empty store, then any batch of xDS updates or any local
reload, each run from the store before it. -/
inductive Reachable : BindStore α → Prop where
  | new : Reachable BindStore.new
  | batch {s s' : BindStore α} {updates : List (XdsUpdate α)} :
      Reachable s → handle s updates = some s' → Reachable s'
  | reload {s s' : BindStore α} {c : LocalConfig α} {prev next : PreviousState} :
      Reachable s → syncLocal s c prev = some (s', next) → Reachable s'

theorem Reachable.storeInvariant {s : BindStore α} (h : Reachable s) : StoreInvariant s := by
  induction h with
  | new => exact storeInvariant_new
  | batch _ hrun ih =>
    obtain ⟨s', h', hs'⟩ := handle_storeInvariant ih _
    exact (Option.some.inj (hrun.symm.trans h')) ▸ hs'
  | reload _ hrun ih =>
    obtain ⟨s', next, h', hs'⟩ := syncLocal_storeInvariant ih _ _
    exact (Prod.mk.inj (Option.some.inj (hrun.symm.trans h'))).1 ▸ hs'

/-- In a reachable store a policy is filed under its current target and under no other. -/
theorem Reachable.policy_filed_under_target {s : BindStore α} (h : Reachable s) {k : PolicyKey}
    {p : TargetedPolicy α} (hp : s.policiesByKey.lookup k = some p) (t : PolicyTarget) :
    k ∈ keysAt s.policiesByTarget t ↔ t = p.target := by
  have hI : policiesIndexed s := h.storeInvariant.policies
  constructor
  · intro hk
    obtain ⟨p', hp', rfl⟩ := hI.target_eq t k hk
    rw [hp, Option.some.injEq] at hp'
    exact hp' ▸ rfl
  · rintro rfl
    exact hI.mem_target k p hp

def gatewayPolicy : TargetedPolicy Unit := ⟨"p", .gateway ⟨"gw", "ns", none, none⟩, .default, .frontend⟩

theorem policy_filed_under_target_local :
    ∃ s next, syncLocal (BindStore.new : BindStore Unit) ⟨[], [], [], [gatewayPolicy], [], []⟩ .default = some (s, next) ∧
      s.policiesByKey.lookup "p" = some gatewayPolicy ∧
      ("p" ∈ keysAt s.policiesByTarget (.gateway ⟨"gw", "ns", none, none⟩) ↔
        PolicyTarget.gateway ⟨"gw", "ns", none, none⟩ = gatewayPolicy.target) :=
  ⟨_, _, rfl, rfl, Reachable.policy_filed_under_target
    (@Reachable.reload Unit _ _ ⟨[], [], [], [gatewayPolicy], [], []⟩ .default _ .new rfl) rfl _⟩

end AgentGateway.Store.Invariants
