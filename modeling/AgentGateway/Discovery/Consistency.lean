import AgentGateway.Discovery.Services

/-! Consistency of the discovery store: indexes agree with the workloads, endpoints agree with
them per service, and each update keeps this. -/

namespace AgentGateway.Discovery

open AgentGateway.Routing.Types (Strng NamespacedHostname)
open AgentGateway.LoadBalancer Library

namespace ServiceStore

variable {ss : ServiceStore} {look : Strng → Option Workload} {src : Option Workload} {uid : Strng}

/-! ### The endpoint loop of `remove_endpoint` -/

section RemoveEndpoint

lemma stagedServices_foldl_updateEndpoints (keys : List NamespacedHostname) (f : EndpointSet Strng Endpoint → EndpointSet Strng Endpoint) :
    ∀ ss : ServiceStore, (keys.foldl (fun s k => s.updateEndpoints k f) ss).stagedServices = ss.stagedServices := by
  induction keys with
  | nil => exact fun _ => rfl
  | cons k keys ih =>
    intro ss
    rw [List.foldl_cons, ih, updateEndpoints_stagedServices]

lemma WellFormed.foldl_updateEndpoints (hwf : ss.WellFormed) (keys : List NamespacedHostname)
    (f : EndpointSet Strng Endpoint → EndpointSet Strng Endpoint) :
    (keys.foldl (fun s k => s.updateEndpoints k f) ss).WellFormed :=
  Library.Fold.foldl_invariant (P := WellFormed) (fun _ k hs => hs.updateEndpoints k f) keys ss hwf

lemma names_foldl_updateEndpoints (keys : List NamespacedHostname) (f : EndpointSet Strng Endpoint → EndpointSet Strng Endpoint) :
    ∀ ss : ServiceStore, ss.WellFormed → ∀ svc ∈ (keys.foldl (fun s k => s.updateEndpoints k f) ss).allServices,
      ∃ svc₀ ∈ ss.allServices, svc₀.namespacedHostname = svc.namespacedHostname := by
  induction keys with
  | nil => exact fun _ _ svc hs => ⟨svc, hs, rfl⟩
  | cons k keys ih =>
    intro ss hwf svc hs
    obtain ⟨svc₁, hs₁, hk₁⟩ := ih _ (hwf.updateEndpoints k f) svc hs
    rcases mem_allServices_updateEndpoints hwf hs₁ with ⟨hs₀, -⟩ | ⟨svc₀, hs₀, -, rfl⟩
    · exact ⟨svc₁, hs₀, hk₁⟩
    · exact ⟨svc₀, hs₀, hk₁⟩

lemma agrees_removeUid_of_either {svc : Service}
    (h : Agrees look src svc ∨ Agrees (Function.update look uid none) src svc) :
    Agrees (Function.update look uid none) src { svc with endpoints := svc.endpoints.remove uid } := by
  rcases h with h | h
  · exact h.removeUid uid
  · simpa using h.removeUid uid

lemma agrees_foldl_removeUid (keys : List NamespacedHostname) :
    ∀ (ss : ServiceStore) (done : NamespacedHostname → Prop), ss.WellFormed →
      (∀ svc ∈ ss.allServices, (Agrees look src svc ∨ Agrees (Function.update look uid none) src svc) ∧
        (done svc.namespacedHostname → Agrees (Function.update look uid none) src svc)) →
      ∀ svc ∈ (keys.foldl (fun s k => s.updateEndpoints k (·.remove uid)) ss).allServices,
        (Agrees look src svc ∨ Agrees (Function.update look uid none) src svc) ∧
        (done svc.namespacedHostname ∨ svc.namespacedHostname ∈ keys →
          Agrees (Function.update look uid none) src svc) := by
  induction keys with
  | nil => exact fun ss done _ h svc hs => ⟨(h svc hs).1, fun hd => (h svc hs).2 (by simpa using hd)⟩
  | cons k keys ih =>
    intro ss done hwf h svc hs
    rw [List.foldl_cons] at hs
    -- after the first step the service of that name has lost the UID
    have hstep : ∀ svc ∈ (ss.updateEndpoints k (·.remove uid)).allServices,
        (Agrees look src svc ∨ Agrees (Function.update look uid none) src svc) ∧
        (done svc.namespacedHostname ∨ svc.namespacedHostname = k → Agrees (Function.update look uid none) src svc) := by
      intro svc hs
      rcases mem_allServices_updateEndpoints hwf hs with ⟨hs, hk⟩ | ⟨svc₀, hs₀, -, rfl⟩
      · exact ⟨(h svc hs).1, fun hd => (h svc hs).2 (hd.resolve_right hk)⟩
      · have := agrees_removeUid_of_either (h svc₀ hs₀).1
        exact ⟨.inr this, fun _ => this⟩
    obtain ⟨h₁, h₂⟩ := ih _ (fun n => done n ∨ n = k) (hwf.updateEndpoints k _) hstep svc hs
    refine ⟨h₁, fun hd => h₂ ?_⟩
    rcases hd with hd | hd
    · exact .inl (.inl hd)
    · rcases List.mem_cons.1 hd with hd | hd
      · exact .inl (.inr hd)
      · exact .inr hd

lemma mem_unstage {staged : AList fun _ : NamespacedHostname => AList fun _ : Strng => Endpoint}
    {svc k : NamespacedHostname} (hk : k ∈ unstage uid staged svc) : k ∈ staged := by
  unfold unstage at hk
  split_ifs at hk with he
  · exact (AList.mem_erase.1 hk).2
  · rcases (AList.mem_insert _).1 hk with rfl | hk
    · -- a service kept in the staged map was there
      by_contra hn
      rw [AList.lookup_eq_none.2 hn] at he
      exact he rfl
    · exact hk

theorem WellFormed.removeEndpoint (hwf : ss.WellFormed) (prev : Workload) : (ss.removeEndpoint prev).WellFormed :=
  WellFormed.foldl_updateEndpoints
    (show ({ ss with stagedServices := prev.services.keys.foldl (unstage prev.uid) ss.stagedServices } : ServiceStore).WellFormed
      from ⟨hwf.hostname_eq, hwf.namespaces_nodup⟩) prev.services.keys (·.remove prev.uid)

lemma stagedServices_removeEndpoint (prev : Workload) :
    (ss.removeEndpoint prev).stagedServices = prev.services.keys.foldl (unstage prev.uid) ss.stagedServices :=
  stagedServices_foldl_updateEndpoints _ _ _

lemma names_removeEndpoint (hwf : ss.WellFormed) (prev : Workload) :
    ∀ svc ∈ (ss.removeEndpoint prev).allServices,
      ∃ svc₀ ∈ ss.allServices, svc₀.namespacedHostname = svc.namespacedHostname :=
  names_foldl_updateEndpoints prev.services.keys (·.remove prev.uid)
    { ss with stagedServices := prev.services.keys.foldl (unstage prev.uid) ss.stagedServices }
    ⟨hwf.hostname_eq, hwf.namespaces_nodup⟩

/-- `remove_endpoint` takes the UID out of every service the workload names, and the others
never held it. -/
theorem agrees_removeEndpoint (hwf : ss.WellFormed) (hag : ∀ svc ∈ ss.allServices, Agrees look src svc)
    {prev : Workload} (hprev : look prev.uid = some prev) :
    ∀ svc ∈ (ss.removeEndpoint prev).allServices, Agrees (Function.update look prev.uid none) src svc := by
  intro svc hs
  obtain ⟨hA, hB⟩ := agrees_foldl_removeUid prev.services.keys
    { ss with stagedServices := prev.services.keys.foldl (unstage prev.uid) ss.stagedServices } (fun _ => False)
    ⟨hwf.hostname_eq, hwf.namespaces_nodup⟩ (fun svc hs => ⟨.inl (hag svc hs), False.elim⟩) svc hs
  by_cases hk : svc.namespacedHostname ∈ prev.services
  · exact hB (.inr (AList.mem_keys.1 hk))
  · rcases hA with hA | hA
    · exact hA.erase_of_not_mem hprev hk
    · exact hA

theorem staged_removeEndpoint (hwf : ss.WellFormed)
    (hst : ∀ k ∈ ss.stagedServices, ss.getByNamespacedHost k = none) (prev : Workload) :
    ∀ k ∈ (ss.removeEndpoint prev).stagedServices, (ss.removeEndpoint prev).getByNamespacedHost k = none := by
  intro k hk
  rw [stagedServices_removeEndpoint] at hk
  have hk₀ : k ∈ ss.stagedServices :=
    Library.Fold.foldl_invariant (P := fun m => k ∈ m → k ∈ ss.stagedServices) (fun m svc hm hk => hm (mem_unstage hk))
      _ _ id hk
  have hno := (getByNamespacedHost_eq_none hwf).1 (hst k hk₀)
  refine (getByNamespacedHost_eq_none (WellFormed.removeEndpoint hwf prev)).2 fun svc hs hsk => ?_
  obtain ⟨svc₀, hs₀, hk₀'⟩ := names_removeEndpoint hwf prev svc hs
  exact hno svc₀ hs₀ (hk₀'.trans hsk)

end RemoveEndpoint

/-! ### The loop of `insert_endpoint_for_services` -/

section InsertEndpoint

variable {before : Strng → Option Workload} {w : Workload} {reached : NamespacedHostname → Prop}

/-- The service store while a workload's endpoints go in: every service agrees with the workloads
before the workload came or after, and with those after once the loop has reached it or when the
workload does not name it. -/
structure Inserting (before : Strng → Option Workload) (src : Option Workload) (w : Workload)
    (reached : NamespacedHostname → Prop) (ss : ServiceStore) : Prop where
  wf : ss.WellFormed
  agrees : ∀ svc ∈ ss.allServices, Agrees before src svc ∨ Agrees (Function.update before w.uid (some w)) src svc
  agrees_after : ∀ svc ∈ ss.allServices, (svc.namespacedHostname ∉ w.services ∨ reached svc.namespacedHostname) →
    Agrees (Function.update before w.uid (some w)) src svc
  staged : ∀ k ∈ ss.stagedServices, ss.getByNamespacedHost k = none

lemma Inserting.mono {reached' : NamespacedHostname → Prop} (h : Inserting before src w reached ss)
    (hr : ∀ k, reached' k → reached k) : Inserting before src w reached' ss :=
  ⟨h.wf, h.agrees, fun svc hs hk => h.agrees_after svc hs (hk.imp_right (hr _)), h.staged⟩

lemma agrees_withEndpoint_of_either (hbefore : before w.uid = none) {svc : Service}
    (hk : svc.namespacedHostname ∈ w.services) (ports : Ports)
    (h : Agrees before src svc ∨ Agrees (Function.update before w.uid (some w)) src svc) :
    Agrees (Function.update before w.uid (some w)) src (svc.withEndpoint ⟨w.uid, ports, w.status⟩ w src) := by
  rcases h with h | h
  · exact h.withEndpoint rfl hk (.inl hbefore) ports
  · simpa using h.withEndpoint rfl hk (.inr (by simp)) ports

/-- One name of the loop: the endpoint goes into the service of that name, or is staged while there
is none. -/
theorem Inserting.insertEndpoint (h : Inserting before src w reached ss) (hbefore : before w.uid = none)
    {nh : NamespacedHostname} (hnh : nh ∈ w.services) (ports : Ports) :
    Inserting before src w (fun k => reached k ∨ k = nh) (ss.insertEndpoint nh ⟨w.uid, ports, w.status⟩ w src) := by
  unfold ServiceStore.insertEndpoint
  cases hg : ss.getByNamespacedHost nh with
  | none =>
    -- no service of the name: only the staged map changes
    have hno := (getByNamespacedHost_eq_none h.wf).1 hg
    refine ⟨⟨h.wf.hostname_eq, h.wf.namespaces_nodup⟩, h.agrees, fun svc hs hk => h.agrees_after svc hs ?_,
      fun k hk => ?_⟩
    · rcases hk with hk | hk | hk
      · exact .inl hk
      · exact .inr hk
      · exact absurd hk (hno svc hs)
    · rcases (AList.mem_insert _).1 hk with rfl | hk
      · exact hg
      · exact h.staged k hk
  | some svc₀ =>
    obtain ⟨hs₀, hk₀⟩ := (getByNamespacedHost_eq_some h.wf).1 hg
    have hA := agrees_withEndpoint_of_either hbefore (hk₀ ▸ hnh) ports (h.agrees svc₀ hs₀)
    -- the service of the name is the one found
    have hname : ∀ svc ∈ ss.allServices, svc.namespacedHostname = nh → svc = svc₀ := fun svc hs hk =>
      eq_of_namespacedHostname h.wf hs hs₀ (hk.trans hk₀.symm)
    by_cases hinc : svc₀.shouldIncludeEndpoint w.status = true
    · simp only [hinc, Bool.not_true, Bool.false_eq_true, if_false]
      have hsvc : ∀ svc ∈ (ss.updateEndpoints nh fun eps => eps.insert ⟨w.uid, ports, w.status⟩ w ⟨svc₀.loadBalancer, src⟩).allServices,
          (svc ∈ ss.allServices ∧ svc.namespacedHostname ≠ nh) ∨ svc = svc₀.withEndpoint ⟨w.uid, ports, w.status⟩ w src := by
        intro svc hs
        rcases mem_allServices_updateEndpoints h.wf hs with hold | ⟨svc₁, hs₁, hk₁, rfl⟩
        · exact .inl hold
        · obtain rfl := hname svc₁ hs₁ hk₁
          right
          simp [Service.withEndpoint, hinc]
      refine ⟨h.wf.updateEndpoints _ _, fun svc hs => ?_, fun svc hs hk => ?_, fun k hk => ?_⟩
      · rcases hsvc svc hs with ⟨hs, -⟩ | rfl
        · exact h.agrees svc hs
        · exact .inr hA
      · rcases hsvc svc hs with ⟨hs, hne⟩ | rfl
        · exact h.agrees_after svc hs (hk.imp_right fun hk => hk.resolve_right hne)
        · exact hA
      · rw [updateEndpoints_stagedServices] at hk
        have hno := (getByNamespacedHost_eq_none h.wf).1 (h.staged k hk)
        refine (getByNamespacedHost_eq_none (h.wf.updateEndpoints _ _)).2 fun svc hs hsk => ?_
        rcases hsvc svc hs with ⟨hs, -⟩ | rfl
        · exact hno svc hs hsk
        · exact hno svc₀ hs₀ hsk
    · -- the health policy keeps the workload out: nothing changes
      simp only [Bool.not_eq_true] at hinc
      simp only [hinc, Bool.not_false, if_true]
      have hA' : Agrees (Function.update before w.uid (some w)) src svc₀ := by
        simpa [Service.withEndpoint, hinc] using hA
      refine ⟨h.wf, h.agrees, fun svc hs hk => ?_, h.staged⟩
      by_cases hsk : svc.namespacedHostname = nh
      · rw [hname svc hs hsk]
        exact hA'
      · exact h.agrees_after svc hs (hk.imp_right fun hk => hk.resolve_right hsk)

theorem Inserting.insertEndpointForServices (hbefore : before w.uid = none) :
    ∀ (services : List (String × Ports)) (ss : ServiceStore) (reached : NamespacedHostname → Prop),
      Inserting before src w reached ss →
      (∀ p ∈ services, ∃ nh, NamespacedHostname.fromStr p.1 = .ok nh ∧ nh ∈ w.services) →
      Inserting before src w (fun k => reached k ∨ ∃ p ∈ services, NamespacedHostname.fromStr p.1 = .ok k)
          (ss.insertEndpointForServices w services src).1 ∧
        (ss.insertEndpointForServices w services src).2 = .ok () := by
  intro services
  induction services with
  | nil =>
    intro ss reached h _
    exact ⟨h.mono fun k hk => hk.resolve_right (by simp), rfl⟩
  | cons p services ih =>
    intro ss reached h hp
    obtain ⟨nh, hnh, hmem⟩ := hp p List.mem_cons_self
    obtain ⟨raw, ports⟩ := p
    simp only [ServiceStore.insertEndpointForServices, hnh]
    refine (ih _ _ (h.insertEndpoint hbefore hmem ports) fun q hq => hp q (List.mem_cons_of_mem _ hq)).imp_left
      fun h' => h'.mono fun k hk => ?_
    rcases hk with hk | ⟨q, hq, hqk⟩
    · exact .inl (.inl hk)
    · rcases List.mem_cons.1 hq with rfl | hq
      · exact .inl (.inr (Except.ok.inj (hnh.symm.trans hqk)).symm)
      · exact .inr ⟨q, hq, hqk⟩

end InsertEndpoint

/-! ### Changing every service, as `rebucket_all` does -/

section MapServices

variable (g : Service → Service)

lemma mem_allServices_mapServices {svc : Service} :
    svc ∈ ({ ss with byHost := Library.Map.filterMapVals (fun _ svcs => some (svcs.map g)) ss.byHost } : ServiceStore).allServices ↔
      ∃ svc₀ ∈ ss.allServices, svc = g svc₀ := by
  simp only [mem_allServices, Library.Map.lookup_filterMapVals, Option.bind_eq_some_iff, Option.some.injEq]
  constructor
  · rintro ⟨h, _, ⟨svcs, hl, rfl⟩, hs⟩
    obtain ⟨svc₀, hs₀, rfl⟩ := List.mem_map.1 hs
    exact ⟨svc₀, ⟨h, svcs, hl, hs₀⟩, rfl⟩
  · rintro ⟨svc₀, ⟨h, svcs, hl, hs₀⟩, rfl⟩
    exact ⟨h, _, ⟨svcs, hl, rfl⟩, List.mem_map_of_mem hs₀⟩

lemma lookup_mapServices (h : Strng) :
    ({ ss with byHost := Library.Map.filterMapVals (fun _ svcs => some (svcs.map g)) ss.byHost } : ServiceStore).byHost.lookup h =
      (ss.byHost.lookup h).map (List.map g) := by
  simp only [Library.Map.lookup_filterMapVals]
  cases ss.byHost.lookup h <;> rfl

lemma WellFormed.mapServices (hwf : ss.WellFormed) (hh : ∀ svc, (g svc).hostname = svc.hostname)
    (hn : ∀ svc, (g svc).namespace = svc.namespace) :
    ({ ss with byHost := Library.Map.filterMapVals (fun _ svcs => some (svcs.map g)) ss.byHost } : ServiceStore).WellFormed := by
  refine ⟨fun h svcs hl svc hs => ?_, fun h svcs hl => ?_⟩ <;>
    obtain ⟨svcs₀, hl₀, rfl⟩ := Option.map_eq_some_iff.1 ((lookup_mapServices g h).symm.trans hl)
  · obtain ⟨svc₀, hs₀, rfl⟩ := List.mem_map.1 hs
    rw [hh]
    exact hwf.hostname_eq _ _ hl₀ svc₀ hs₀
  · have hmap : (svcs₀.map g).map (·.namespace) = svcs₀.map (·.namespace) := by
      rw [List.map_map]
      exact List.map_congr_left fun svc _ => hn svc
    rw [hmap]
    exact hwf.namespaces_nodup _ _ hl₀

end MapServices

end ServiceStore

/-! ### The store -/

namespace Store

variable {st st' : Store} {src : Option Workload}

/-- The store is consistent for a source of locality: (a) the workload indexes agree with the
workloads, (b) every service holds, in one bucket and one pool, exactly the workloads it admits,
(c) staged endpoints wait only for services the store does not have. -/
structure ConsistentAt (src : Option Workload) (st : Store) : Prop where
  workloads : st.workloads.Inv
  services : st.services.WellFormed
  agrees : ∀ svc ∈ st.services.allServices, Agrees st.workloads.findUid src svc
  staged : ∀ k ∈ st.services.stagedServices, st.services.getByNamespacedHost k = none

def Consistent (st : Store) : Prop := st.ConsistentAt st.selfWorkload

theorem consistent_new : new.Consistent where
  workloads := WorkloadStore.inv_empty
  services := ServiceStore.wellFormed_empty
  agrees svc hs := by simp [ServiceStore.allServices, new, ServiceStore.empty] at hs
  staged k hk := by simp [new, ServiceStore.empty] at hk

/-! #### What the updates do to the source -/

lemma removeWorkload_eq (st : Store) (uid : Strng) : st.removeWorkload uid =
    (st.workloads.findUid uid).map fun prev => ⟨(st.workloads.remove uid).2, st.services.removeEndpoint prev, st.selfWorkload⟩ := by
  have h₁ := WorkloadStore.remove_fst st.workloads uid
  unfold removeWorkload WorkloadStore.findUid
  rcases hr : st.workloads.remove uid with ⟨_ | prev, ws⟩ <;> rw [hr] at h₁ <;> simp [← h₁]

lemma removeWorkload_selfWorkload {uid : Strng} (hr : st.removeWorkload uid = some st') :
    st'.selfWorkload = st.selfWorkload := by
  rw [removeWorkload_eq, Option.map_eq_some_iff] at hr
  obtain ⟨prev, -, rfl⟩ := hr
  rfl

@[simp] lemma removeWorkloadForInsert_selfWorkload (st : Store) (uid : Strng) :
    (st.removeWorkloadForInsert uid).selfWorkload = st.selfWorkload := by
  unfold Store.removeWorkloadForInsert removeInternal
  cases hr : st.removeWorkload uid with
  | none => rfl
  | some st' => exact removeWorkload_selfWorkload hr

@[simp] lemma replaceWorkload_selfWorkload (st : Store) (w : Workload) (services : List (String × Ports))
    (source : Option Workload) : (st.replaceWorkload w services source).1.selfWorkload = st.selfWorkload :=
  removeWorkloadForInsert_selfWorkload st w.uid

/-- An insertion leaves the workload in the workload store, whatever happens to its endpoints. -/
@[simp] lemma replaceWorkload_findUid (st : Store) (w : Workload) (services : List (String × Ports))
    (source : Option Workload) : (st.replaceWorkload w services source).1.workloads.findUid w.uid = some w := by
  show ((st.removeWorkloadForInsert w.uid).workloads.insert w).findUid w.uid = some w
  rw [WorkloadStore.findUid_insert, Function.update_self]

@[simp] lemma remove_selfWorkload (st : Store) (name : Strng) : (st.remove name).selfWorkload = st.selfWorkload := by
  unfold Store.remove removeInternal
  cases hr : st.removeWorkload name with
  | some st' => exact removeWorkload_selfWorkload hr
  | none =>
    simp only [Bool.false_eq_true, if_false]
    cases NamespacedHostname.fromStr name with
    | error e => rfl
    | ok nh =>
      dsimp only
      split_ifs <;> rfl

@[simp] lemma rebucketAll_selfWorkload (st : Store) : st.rebucketAll.selfWorkload = st.selfWorkload := by
  unfold Store.rebucketAll
  split <;> rfl

lemma resolveSelf_selfWorkload (st : Store) (w : Workload) :
    (st.resolveSelf w).selfWorkload = some (st.selfWorkload.getD w) :=
  rebucketAll_selfWorkload _

/-! #### Workloads leaving -/

theorem ConsistentAt.removeWorkload (h : st.ConsistentAt src) {uid : Strng} (hr : st.removeWorkload uid = some st') :
    st'.ConsistentAt src ∧ st'.workloads.findUid = Function.update st.workloads.findUid uid none := by
  rw [removeWorkload_eq, Option.map_eq_some_iff] at hr
  obtain ⟨prev, hprev, rfl⟩ := hr
  have hlook := WorkloadStore.findUid_remove st.workloads uid
  have hpu : prev.uid = uid := h.workloads.uid_eq hprev
  refine ⟨⟨h.workloads.remove uid, h.services.removeEndpoint prev, fun svc hs => ?_,
    ServiceStore.staged_removeEndpoint h.services h.staged prev⟩, hlook⟩
  rw [hlook, ← hpu]
  exact ServiceStore.agrees_removeEndpoint h.services h.agrees (hpu ▸ hprev) svc hs

theorem ConsistentAt.removeWorkloadForInsert (h : st.ConsistentAt src) (uid : Strng) :
    (st.removeWorkloadForInsert uid).ConsistentAt src ∧ (st.removeWorkloadForInsert uid).workloads.findUid uid = none := by
  unfold Store.removeWorkloadForInsert removeInternal
  cases hr : st.removeWorkload uid with
  | none =>
    rw [removeWorkload_eq, Option.map_eq_none_iff] at hr
    exact ⟨h, hr⟩
  | some st' =>
    obtain ⟨h', hl⟩ := h.removeWorkload hr
    exact ⟨h', by simp [hl]⟩

/-! #### Workloads arriving -/

/-- The names a workload's endpoints go in under: each parses, to a service the workload names, and
every service it names has one. -/
def NamesMatch (w : Workload) (services : List (String × Ports)) : Prop :=
  (∀ p ∈ services, ∃ nh, NamespacedHostname.fromStr p.1 = .ok nh ∧ nh ∈ w.services) ∧
    ∀ nh ∈ w.services, ∃ p ∈ services, NamespacedHostname.fromStr p.1 = .ok nh

/-- `insert_workload` and the workload loop of `sync_local`: with names that match, the
workload's endpoint is in every service it names and in no other. -/
theorem ConsistentAt.replaceWorkload (h : st.ConsistentAt src) {w : Workload} {services : List (String × Ports)}
    (hn : NamesMatch w services) :
    (st.replaceWorkload w services src).1.ConsistentAt src ∧ (st.replaceWorkload w services src).2 = .ok () := by
  obtain ⟨h₁, hnone⟩ := h.removeWorkloadForInsert w.uid
  set st₁ := st.removeWorkloadForInsert w.uid
  -- before the loop every service agrees with the workloads before the insertion, and those it does
  -- not name with the workloads after
  have hins : ServiceStore.Inserting st₁.workloads.findUid src w (fun _ => False) st₁.services :=
    ⟨h₁.services, fun svc hs => .inl (h₁.agrees svc hs),
      fun svc hs hk => (h₁.agrees svc hs).of_not_mem (hk.resolve_right id) (.inl hnone), h₁.staged⟩
  obtain ⟨hI, hok⟩ := ServiceStore.Inserting.insertEndpointForServices hnone services st₁.services _ hins hn.1
  refine ⟨⟨h₁.workloads.insert w, hI.wf, fun svc hs => ?_, hI.staged⟩, hok⟩
  have hlook : (st₁.workloads.insert w).findUid = Function.update st₁.workloads.findUid w.uid (some w) :=
    WorkloadStore.findUid_insert _ _
  change Agrees (st₁.workloads.insert w).findUid src svc
  rw [hlook]
  refine hI.agrees_after svc hs ?_
  by_cases hk : svc.namespacedHostname ∈ w.services
  · obtain ⟨p, hp, hpk⟩ := hn.2 _ hk
    exact .inr (.inr ⟨p, hp, hpk⟩)
  · exact .inl hk

/-! #### Services arriving and leaving -/

lemma ConsistentAt.insertService (h : st.ConsistentAt src) {service : Service} {key : NamespacedHostname}
    (hkey : service.namespacedHostname = key) (hnew : Agrees st.workloads.findUid src service) :
    ConsistentAt src { st with services :=
      ({ st.services with stagedServices := st.services.stagedServices.erase key } : ServiceStore).insert service } := by
  set ss₀ : ServiceStore := { st.services with stagedServices := st.services.stagedServices.erase key }
  have hwf₀ : ss₀.WellFormed := ⟨h.services.hostname_eq, h.services.namespaces_nodup⟩
  refine ⟨h.workloads, hwf₀.insert service, fun svc hs => ?_, fun k hk => ?_⟩
  · rcases ServiceStore.mem_allServices_insert hwf₀ hs with rfl | hs
    · exact hnew
    · exact h.agrees svc hs
  · rw [ServiceStore.insert_stagedServices] at hk
    obtain ⟨hne, hk₁⟩ := AList.mem_erase.1 (ServiceStore.stagedServices_remove k hk)
    have hno := (ServiceStore.getByNamespacedHost_eq_none h.services).1 (h.staged k hk₁)
    refine (ServiceStore.getByNamespacedHost_eq_none (hwf₀.insert service)).2 fun svc hs hsk => ?_
    rcases ServiceStore.mem_allServices_insert hwf₀ hs with rfl | hs
    · exact hne (hsk.symm.trans hkey)
    · exact hno svc hs hsk

/-- `insert_service_internal`: the endpoints of the service it replaces, under the same load
balancer, or those rebuilt from the workloads. -/
theorem ConsistentAt.insertServiceInternal (h : st.ConsistentAt src) (hsrc : st.selfWorkload = src) (service : Service) :
    (st.insertServiceInternal service).ConsistentAt src := by
  dsimp only [Store.insertServiceInternal]
  refine h.insertService rfl ?_
  split
  · rename_i prev hg
    obtain ⟨hp, hpk⟩ := (ServiceStore.getByNamespacedHost_eq_some h.services).1 hg
    split_ifs with hfast
    · -- the fast path keeps the endpoints, which agree under the same load balancer
      exact (h.agrees prev hp).congr hpk.symm hfast.1.symm rfl
    · exact hsrc ▸ agrees_buildEndpoints h.workloads service st.selfWorkload
  · exact hsrc ▸ agrees_buildEndpoints h.workloads service st.selfWorkload

lemma ConsistentAt.removeService (h : st.ConsistentAt src) (key : NamespacedHostname) :
    ConsistentAt src { st with services := (st.services.remove key).2 } := by
  have hwf := h.services.remove key
  refine ⟨h.workloads, hwf, fun svc hs => h.agrees svc (ServiceStore.mem_allServices_remove h.services hs),
    fun k hk => ?_⟩
  have hno := (ServiceStore.getByNamespacedHost_eq_none h.services).1
    (h.staged k (ServiceStore.stagedServices_remove k hk))
  exact (ServiceStore.getByNamespacedHost_eq_none hwf).2 fun svc hs =>
    hno svc (ServiceStore.mem_allServices_remove h.services hs)

theorem ConsistentAt.remove (h : st.ConsistentAt src) (name : Strng) : (st.remove name).ConsistentAt src := by
  unfold Store.remove removeInternal
  cases hr : st.removeWorkload name with
  | some st' => exact (h.removeWorkload hr).1
  | none =>
    simp only [Bool.false_eq_true, if_false]
    cases NamespacedHostname.fromStr name with
    | error e => exact h
    | ok nh =>
      dsimp only
      split_ifs
      · exact h
      · exact h.removeService nh

/-! #### Rebucketing -/

/-- `rebucket_all` makes a store consistent for its source, from consistency for that source or
for none. -/
theorem ConsistentAt.rebucketAll (h : st.ConsistentAt src) (hsrc : src = none ∨ src = st.selfWorkload) :
    st.rebucketAll.Consistent := by
  unfold Consistent Store.rebucketAll
  cases hs : st.selfWorkload with
  | none =>
    have hn : src = none := hsrc.elim id (·.trans hs)
    simpa [hs, hn] using h
  | some source =>
    dsimp only
    have hsrc' : src = none ∨ src = some source := hsrc.imp_right (·.trans hs)
    have hwf := h.services.mapServices (Store.rebucketService st.workloads source) (fun _ => rfl) (fun _ => rfl)
    refine ⟨h.workloads, hwf, fun svc hsv => ?_, fun k hk => ?_⟩
    · obtain ⟨svc₀, hs₀, rfl⟩ := (ServiceStore.mem_allServices_mapServices _).1 hsv
      exact (h.agrees svc₀ hs₀).rebucketService hsrc'
    · have hno := (ServiceStore.getByNamespacedHost_eq_none h.services).1 (h.staged k hk)
      refine (ServiceStore.getByNamespacedHost_eq_none hwf).2 fun svc hsv hsk => ?_
      obtain ⟨svc₀, hs₀, rfl⟩ := (ServiceStore.mem_allServices_mapServices _).1 hsv
      exact hno svc₀ hs₀ hsk

theorem Consistent.resolveSelf (h : st.Consistent) (w : Workload) : (st.resolveSelf w).Consistent := by
  have h' : ConsistentAt st.selfWorkload { st with selfWorkload := some (st.selfWorkload.getD w) } :=
    ⟨h.workloads, h.services, h.agrees, h.staged⟩
  refine h'.rebucketAll ?_
  cases st.selfWorkload <;> simp

end Store

end AgentGateway.Discovery
