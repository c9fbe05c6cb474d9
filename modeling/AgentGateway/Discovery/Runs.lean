import AgentGateway.Discovery.Consistency

/-! Consistency of the discovery store over whole runs from the empty store, and the `sync_local`
path that breaks it. -/

namespace AgentGateway.Discovery

open AgentGateway.Routing.Types (Strng NamespacedHostname)
open AgentGateway.LoadBalancer Library

/-! ### The names a workload comes with -/

section Names

lemma foldlM_insert_spec {f : (AList fun _ : NamespacedHostname => Ports) → String × Ports →
      Except ProtoError (AList fun _ : NamespacedHostname => Ports)}
    (hf : ∀ m p m', f m p = .ok m' → ∃ nh, NamespacedHostname.fromStr p.1 = .ok nh ∧ m' = m.insert nh p.2) :
    ∀ (raws : List (String × Ports)) m m', raws.foldlM f m = .ok m' →
      (∀ nh ∈ m, nh ∈ m') ∧ (∀ p ∈ raws, ∃ nh, NamespacedHostname.fromStr p.1 = .ok nh ∧ nh ∈ m') ∧
        ∀ nh ∈ m', nh ∈ m ∨ ∃ p ∈ raws, NamespacedHostname.fromStr p.1 = .ok nh := by
  intro raws
  induction raws with
  | nil =>
    intro m m' h
    cases h
    exact ⟨fun _ => id, by simp, fun _ => .inl⟩
  | cons p raws ih =>
    intro m m' h
    rw [List.foldlM_cons] at h
    cases hp : f m p with
    | error e =>
      rw [hp] at h
      cases h
    | ok m₁ =>
      rw [hp] at h
      obtain ⟨nh, hnh, rfl⟩ := hf m p m₁ hp
      obtain ⟨hmono, hall, hnew⟩ := ih _ _ h
      refine ⟨fun k hk => hmono k ((AList.mem_insert _).2 (.inr hk)), fun q hq => ?_, fun k hk => ?_⟩
      · rcases List.mem_cons.1 hq with rfl | hq
        · exact ⟨nh, hnh, hmono nh ((AList.mem_insert _).2 (.inl rfl))⟩
        · exact hall q hq
      · rcases hnew k hk with hk | ⟨q, hq, hqk⟩
        · rcases (AList.mem_insert _).1 hk with rfl | hk
          · exact .inr ⟨p, List.mem_cons_self, hnh⟩
          · exact .inl hk
        · exact .inr ⟨q, List.mem_cons_of_mem _ hq, hqk⟩

theorem namesMatch_of_tryFromXds {x : XdsWorkload} {w : Workload} {raws : List (String × Ports)}
    (h : Workload.tryFromXdsWithServices x = .ok (w, raws)) : Store.NamesMatch w raws := by
  unfold Workload.tryFromXdsWithServices at h
  simp only [bind, Except.bind] at h
  split at h
  · cases h
  · rename_i m hm
    cases h
    refine (foldlM_insert_spec ?_ _ _ _ hm).elim fun _ hs =>
      ⟨hs.1, fun nh hn => (hs.2 nh hn).resolve_left (AList.notMem_empty nh)⟩
    -- one name: it parses, and goes in
    intro m p m' hp
    split at hp
    · cases hp
    · rename_i nh hnh
      cases hp
      exact ⟨nh, hnh, rfl⟩

lemma foldl_services_spec {g : Workload → String × Ports → Workload}
    (hg : ∀ w p, (g w p).uid = w.uid ∧
      ∀ nh, nh ∈ (g w p).services ↔ nh ∈ w.services ∨ NamespacedHostname.fromStr p.1 = .ok nh) :
    ∀ (raws : List (String × Ports)) w, (raws.foldl g w).uid = w.uid ∧
      ∀ nh, nh ∈ (raws.foldl g w).services ↔ nh ∈ w.services ∨ ∃ p ∈ raws, NamespacedHostname.fromStr p.1 = .ok nh := by
  intro raws
  induction raws with
  | nil => exact fun w => ⟨rfl, fun nh => by simp⟩
  | cons p raws ih =>
    intro w
    obtain ⟨hu, hs⟩ := ih (g w p)
    refine ⟨hu.trans (hg w p).1, fun nh => ?_⟩
    rw [List.foldl_cons, hs, (hg w p).2]
    simp only [List.mem_cons, exists_eq_or_imp]
    tauto

lemma LocalWorkload.merged_spec (wl : LocalWorkload) : wl.merged.uid = wl.workload.uid ∧
    ∀ nh, nh ∈ wl.merged.services ↔
      nh ∈ wl.workload.services ∨ ∃ p ∈ wl.services, NamespacedHostname.fromStr p.1 = .ok nh := by
  refine foldl_services_spec (fun w p => ?_) wl.services wl.workload
  -- the text before the first `/` and the text after it, as `from_str` reads them
  cases hs : Text.splitOnce '/' p.1.toList with
  | none => simp [hs, NamespacedHostname.fromStr]
  | some r =>
    simp only [hs, NamespacedHostname.fromStr, AList.mem_insert, Except.ok.injEq, true_and]
    tauto

def LocalWorkload.WellFormed (wl : LocalWorkload) : Prop :=
  (∀ p ∈ wl.services, (NamespacedHostname.fromStr p.1).toOption.isSome) ∧
    ∀ nh ∈ wl.workload.services.keys, nh ∈ wl.services.filterMap fun p => (NamespacedHostname.fromStr p.1).toOption

instance (wl : LocalWorkload) : Decidable wl.WellFormed := by
  show Decidable (_ ∧ _)
  infer_instance

lemma toOption_eq_some {x : Except ProtoError NamespacedHostname} {nh : NamespacedHostname} :
    x.toOption = some nh ↔ x = .ok nh := by
  cases x <;> simp [Except.toOption]

theorem LocalWorkload.namesMatch_merged {wl : LocalWorkload} (h : wl.WellFormed) :
    Store.NamesMatch wl.merged wl.services := by
  obtain ⟨-, hmem⟩ := wl.merged_spec
  refine ⟨fun p hp => ?_, fun nh hn => ?_⟩
  · obtain ⟨nh, hnh⟩ := Option.isSome_iff_exists.1 (h.1 p hp)
    have hok := toOption_eq_some.1 hnh
    exact ⟨nh, hok, (hmem nh).2 (.inr ⟨p, hp, hok⟩)⟩
  · rcases (hmem nh).1 hn with hown | hraw
    · -- the workload's own services are among its raw names
      obtain ⟨p, hp, hpk⟩ := List.mem_filterMap.1 (h.2 nh (AList.mem_keys.2 hown))
      exact ⟨p, hp, toOption_eq_some.1 hpk⟩
    · exact hraw

end Names

namespace Store

variable {st : Store} {src : Option Workload}

lemma consistent_of {st : Store} (h : st.ConsistentAt src) (hs : st.selfWorkload = src) : st.Consistent := by
  unfold Consistent
  rw [hs]
  exact h

/-! ### `sync_local` -/

section SyncLocal

lemma syncWorkloads_selfWorkload (source : Option Workload) :
    ∀ (wls : List LocalWorkload) (st : Store) (old next : List Strng),
      (syncWorkloads source st old next wls).1.selfWorkload = st.selfWorkload := by
  intro wls
  induction wls with
  | nil => exact fun _ _ _ => rfl
  | cons wl wls ih =>
    intro st old next
    have hs := replaceWorkload_selfWorkload st wl.merged wl.services source
    rcases hr : st.replaceWorkload wl.merged wl.services source with ⟨st₁, e | ⟨⟩⟩ <;>
      rw [hr] at hs <;> simp only [syncWorkloads, hr]
    · exact hs
    · exact (ih _ _ _).trans hs

lemma syncServices_selfWorkload :
    ∀ (svcs : List Service) (st : Store) (old next : List NamespacedHostname),
      (syncServices st old next svcs).1.selfWorkload = st.selfWorkload := by
  intro svcs
  induction svcs with
  | nil => exact fun _ _ _ => rfl
  | cons svc svcs ih => exact fun st old next => ih _ _ _

@[simp] lemma syncLocal_selfWorkload (st : Store) (services : List Service) (workloads : List LocalWorkload)
    (prev : PreviousState) : (st.syncLocal services workloads prev).1.selfWorkload = st.selfWorkload := by
  have hs₁ := syncWorkloads_selfWorkload st.selfWorkload workloads st prev.workloads []
  unfold Store.syncLocal
  rcases hsw : syncWorkloads st.selfWorkload st prev.workloads [] workloads with ⟨st₁, e | ⟨oldW, nextW⟩⟩ <;>
    rw [hsw] at hs₁
  · exact hs₁
  have hs₂ := syncServices_selfWorkload services st₁ prev.services []
  rcases hss : syncServices st₁ prev.services [] services with ⟨st₂, oldS, nextS⟩
  rw [hss] at hs₂
  dsimp only
  simp only [hss]
  -- neither removal loop touches the source
  have h₃ := Library.Fold.foldl_invariant (P := fun s : Store => s.selfWorkload = st₂.selfWorkload)
    (f := fun st svc => { st with services := (st.services.remove svc).2 }) (fun _ _ hs => hs) oldS st₂ rfl
  have h₄ := Library.Fold.foldl_invariant (P := fun s : Store => s.selfWorkload = st₂.selfWorkload)
    (f := fun st uid => (st.removeWorkload uid).getD st) (fun s uid hs => ?_) oldW _ h₃
  · exact h₄.trans (hs₂.trans hs₁)
  · cases hrw : s.removeWorkload uid with
    | none => exact hs
    | some s' => exact (removeWorkload_selfWorkload hrw).trans hs

lemma syncWorkloads_spec (source : Option Workload) :
    ∀ (wls : List LocalWorkload) (st : Store) (old next : List Strng), st.ConsistentAt source →
      (∀ wl ∈ wls, wl.WellFormed) →
      (syncWorkloads source st old next wls).1.ConsistentAt source ∧
        ∃ r, (syncWorkloads source st old next wls).2 = .ok r := by
  intro wls
  induction wls with
  | nil => exact fun st old next h _ => ⟨h, _, rfl⟩
  | cons wl wls ih =>
    intro st old next h hw
    obtain ⟨h₁, hok⟩ := h.replaceWorkload (LocalWorkload.namesMatch_merged (hw wl List.mem_cons_self))
    rcases hr : st.replaceWorkload wl.merged wl.services source with ⟨st₁, e | ⟨⟩⟩
    · rw [hr] at hok
      cases hok
    · rw [hr] at h₁
      simp only [syncWorkloads, hr]
      exact ih _ _ _ h₁ fun wl hwl => hw wl (List.mem_cons_of_mem _ hwl)

lemma syncServices_spec :
    ∀ (svcs : List Service) (st : Store) (old next : List NamespacedHostname), st.ConsistentAt src →
      st.selfWorkload = src → (syncServices st old next svcs).1.ConsistentAt src := by
  intro svcs
  induction svcs with
  | nil => exact fun st old next h _ => h
  | cons svc svcs ih =>
    intro st old next h hs
    exact ih _ _ _ (h.insertServiceInternal hs svc) hs

theorem Consistent.syncLocal (h : st.Consistent) {services : List Service} {workloads : List LocalWorkload}
    (hw : ∀ wl ∈ workloads, wl.WellFormed) (prev : PreviousState) :
    (st.syncLocal services workloads prev).1.Consistent ∧ ∃ next, (st.syncLocal services workloads prev).2 = .ok next := by
  suffices hc : (st.syncLocal services workloads prev).1.ConsistentAt st.selfWorkload ∧
      ∃ next, (st.syncLocal services workloads prev).2 = .ok next from
    ⟨consistent_of hc.1 (syncLocal_selfWorkload st services workloads prev), hc.2⟩
  obtain ⟨h₁, r, hr⟩ := syncWorkloads_spec st.selfWorkload workloads st prev.workloads [] h hw
  have hs₁ := syncWorkloads_selfWorkload st.selfWorkload workloads st prev.workloads []
  unfold Store.syncLocal
  rcases hsw : syncWorkloads st.selfWorkload st prev.workloads [] workloads with ⟨st₁, e | ⟨oldW, nextW⟩⟩
  · rw [hsw] at hr
    cases hr
  rw [hsw] at h₁ hs₁
  have h₂ := syncServices_spec services st₁ prev.services [] h₁ hs₁
  rcases hss : syncServices st₁ prev.services [] services with ⟨st₂, oldS, nextS⟩
  rw [hss] at h₂
  dsimp only
  simp only [hss]
  -- the services and then the workloads of the previous configuration leave
  have h₃ := Library.Fold.foldl_invariant (P := fun s : Store => s.ConsistentAt st.selfWorkload)
    (fun s svc hs => hs.removeService svc) oldS st₂ h₂
  have h₄ := Library.Fold.foldl_invariant (P := fun s : Store => s.ConsistentAt st.selfWorkload)
    (f := fun st uid => (st.removeWorkload uid).getD st) (fun s uid hs => ?_) oldW _ h₃
  · exact ⟨h₄, _, rfl⟩
  · cases hrw : s.removeWorkload uid with
    | none => exact hs
    | some s' => exact (hs.removeWorkload hrw).1

end SyncLocal

/-! ### Runs -/

def Event.WellFormed : Event → Prop
  | .syncLocal _ workloads _ => ∀ wl ∈ workloads, wl.WellFormed
  | _ => True

instance (e : Event) : Decidable e.WellFormed := by
  cases e <;> unfold Event.WellFormed <;> infer_instance

theorem Consistent.step (h : st.Consistent) {e : Event} (he : e.WellFormed) : (st.step e).Consistent := by
  cases e with
  | update a =>
    cases a with
    | workload x =>
      simp only [Store.step, insertAddress, insertWorkload]
      cases hx : Workload.tryFromXdsWithServices x with
      | error e => exact h
      | ok r =>
        obtain ⟨w, raws⟩ := r
        exact consistent_of (h.replaceWorkload (namesMatch_of_tryFromXds hx)).1
          (replaceWorkload_selfWorkload st w raws st.selfWorkload)
    | service s => exact h.insertServiceInternal rfl s
    | unknown => exact h
  | remove name => exact consistent_of (h.remove name) (remove_selfWorkload st name)
  | syncLocal services workloads prev => exact (h.syncLocal he prev).1
  | resolveSelf w => exact h.resolveSelf w
  | rebucketAll => exact h.rebucketAll (.inr rfl)

theorem Consistent.run (h : st.Consistent) :
    ∀ events : List Event, (∀ e ∈ events, e.WellFormed) → (st.run events).Consistent := by
  intro events
  induction events generalizing st with
  | nil => exact fun _ => h
  | cons e events ih =>
    intro he
    exact ih (h.step (he e List.mem_cons_self)) fun e' he' => he e' (List.mem_cons_of_mem _ he')

/-- Every store that well-formed updates reach from the empty one is consistent. -/
theorem run_new_consistent (events : List Event) (he : ∀ e ∈ events, e.WellFormed) : (new.run events).Consistent :=
  consistent_new.run events he

def localService : Service := ⟨"ns", "a", [], none, EndpointSet.newEmpty 1⟩

def localWorkloadParsed : LocalWorkload :=
  ⟨⟨[], .tcp, .standard, "w", "", "", .healthy, ⟨"", "", ""⟩, "", ∅, 0⟩, [("ns/a", [])]⟩

theorem run_new_consistent_local :
    (∀ e ∈ [.update (.service localService), .syncLocal [] [localWorkloadParsed] ⟨[], []⟩,
      .resolveSelf localWorkloadParsed.workload, .remove "w"], Event.WellFormed e) ∧
    (new.run [.update (.service localService), .syncLocal [] [localWorkloadParsed] ⟨[], []⟩,
      .resolveSelf localWorkloadParsed.workload, .remove "w"]).Consistent :=
  ⟨by decide, run_new_consistent _ (by decide)⟩

/-- The fast path of `insert_service_internal`: the endpoints of the service it replaces, under the
same load balancer, hold every UID in the bucket where the rebuild from the workloads puts it. -/
theorem Consistent.fastPath_keysAt_iff (h : st.Consistent) {service prev : Service}
    (hprev : st.services.getByNamespacedHost service.namespacedHostname = some prev)
    (hlb : prev.loadBalancer = service.loadBalancer) (uid : Strng) (b : Nat) :
    (∃ p, uid ∈ prev.endpoints.keysAt b p) ↔
      ∃ p, uid ∈ (buildEndpoints st.workloads service st.selfWorkload).keysAt b p := by
  obtain ⟨hp, hpk⟩ := (ServiceStore.getByNamespacedHost_eq_some h.services).1 hprev
  exact (h.agrees prev hp).mem_keysAt_iff (agrees_buildEndpoints h.workloads service st.selfWorkload)
    hpk.symm hlb.symm b

theorem fastPath_keysAt_iff_local :
    (new.run [.update (.service localService), .syncLocal [] [localWorkloadParsed] ⟨[], []⟩]).Consistent ∧
      ∃ prev, (new.run [.update (.service localService), .syncLocal [] [localWorkloadParsed] ⟨[], []⟩]).services.getByNamespacedHost
          localService.namespacedHostname = some prev ∧ prev.loadBalancer = localService.loadBalancer ∧
        ((∃ p, "w" ∈ prev.endpoints.keysAt 0 p) ↔
          ∃ p, "w" ∈ (buildEndpoints (new.run [.update (.service localService),
            .syncLocal [] [localWorkloadParsed] ⟨[], []⟩]).workloads localService none).keysAt 0 p) := by
  have h := consistent_new.run [.update (.service localService), .syncLocal [] [localWorkloadParsed] ⟨[], []⟩]
    (by decide)
  exact ⟨h, _, rfl, rfl, Consistent.fastPath_keysAt_iff h rfl rfl "w" 0⟩

/-- `insert_workload` of a workload that converts: it succeeds, and the workload's endpoint is in
exactly the services that keep it, in any bucket. -/
theorem Consistent.insertWorkload_endpoints (h : st.Consistent) {x : XdsWorkload} {w : Workload}
    {raws : List (String × Ports)} (hx : Workload.tryFromXdsWithServices x = .ok (w, raws)) :
    (st.insertWorkload x).2 = .ok () ∧ (st.insertWorkload x).1.workloads.findUid w.uid = some w ∧
      ∀ svc ∈ (st.insertWorkload x).1.services.allServices,
        (∃ b p, w.uid ∈ svc.endpoints.keysAt b p) ↔ Included st.selfWorkload svc w := by
  have hins : st.insertWorkload x = st.replaceWorkload w raws st.selfWorkload := by
    unfold Store.insertWorkload
    rw [hx]
  obtain ⟨hc, hok⟩ := h.replaceWorkload (namesMatch_of_tryFromXds hx)
  have hfind := replaceWorkload_findUid st w raws st.selfWorkload
  rw [hins]
  refine ⟨hok, hfind, fun svc hs => ⟨fun hk => ?_, fun hi => (hc.agrees svc hs).complete _ w hfind hi⟩⟩
  obtain ⟨b, p, hk⟩ := hk
  obtain ⟨v, hv, hi, -⟩ := (hc.agrees svc hs).sound _ b p hk
  rw [hfind] at hv
  cases hv
  exact hi

theorem insertWorkload_endpoints_local :
    (new.insertServiceInternal localService).Consistent ∧
      ∃ w raws, Workload.tryFromXdsWithServices ⟨localWorkloadParsed.workload, [("ns/a", [])]⟩ = .ok (w, raws) ∧
        ((new.insertServiceInternal localService).insertWorkload ⟨localWorkloadParsed.workload, [("ns/a", [])]⟩).2 =
          .ok () ∧
        ((new.insertServiceInternal localService).insertWorkload
          ⟨localWorkloadParsed.workload, [("ns/a", [])]⟩).1.workloads.findUid w.uid = some w ∧
        ∀ svc ∈ ((new.insertServiceInternal localService).insertWorkload
          ⟨localWorkloadParsed.workload, [("ns/a", [])]⟩).1.services.allServices,
          (∃ b p, w.uid ∈ svc.endpoints.keysAt b p) ↔ Included none svc w := by
  have h : (new.insertServiceInternal localService).Consistent := consistent_new.insertServiceInternal rfl _
  exact ⟨h, _, _, rfl, Consistent.insertWorkload_endpoints h rfl⟩

/-- An xDS removal by a workload's UID takes the workload out, and its endpoint out of every service. -/
theorem Consistent.remove_workload (h : st.Consistent) {uid : Strng} (hw : (st.workloads.findUid uid).isSome) :
    (st.remove uid).workloads.findUid uid = none ∧
      ∀ svc ∈ (st.remove uid).services.allServices, ∀ b p, uid ∉ svc.endpoints.keysAt b p := by
  obtain ⟨prev, hprev⟩ := Option.isSome_iff_exists.1 hw
  have hr : st.removeWorkload uid =
      some ⟨(st.workloads.remove uid).2, st.services.removeEndpoint prev, st.selfWorkload⟩ := by
    rw [removeWorkload_eq, hprev, Option.map_some]
  have hrem : st.remove uid = ⟨(st.workloads.remove uid).2, st.services.removeEndpoint prev, st.selfWorkload⟩ := by
    unfold Store.remove removeInternal
    rw [hr]
  obtain ⟨h', hlook⟩ := ConsistentAt.removeWorkload h hr
  have hnone : (st.workloads.remove uid).2.findUid uid = none := by
    rw [hlook, Function.update_self]
  rw [hrem]
  refine ⟨hnone, fun svc hs b p hk => ?_⟩
  -- every service agrees with the workloads after the removal, which have no such UID
  obtain ⟨v, hv, -⟩ := (h'.agrees svc hs).sound uid b p hk
  rw [hnone] at hv
  cases hv

theorem remove_workload_local :
    (new.run [.update (.service localService), .syncLocal [] [localWorkloadParsed] ⟨[], []⟩]).Consistent ∧
      ((new.run [.update (.service localService), .syncLocal [] [localWorkloadParsed] ⟨[], []⟩]).workloads.findUid
        "w").isSome ∧
      ((new.run [.update (.service localService), .syncLocal [] [localWorkloadParsed] ⟨[], []⟩]).remove
        "w").workloads.findUid "w" = none ∧
      ∀ svc ∈ ((new.run [.update (.service localService), .syncLocal [] [localWorkloadParsed] ⟨[], []⟩]).remove
        "w").services.allServices, ∀ b p, "w" ∉ svc.endpoints.keysAt b p := by
  have h := consistent_new.run [.update (.service localService), .syncLocal [] [localWorkloadParsed] ⟨[], []⟩]
    (by decide)
  exact ⟨h, rfl, Consistent.remove_workload h rfl⟩

/-- Once the source is resolved, every endpoint of every service sits in the bucket that the ranker
for that source gives its workload. -/
theorem Consistent.resolveSelf_buckets (h : st.Consistent) (w : Workload) :
    ∀ svc ∈ (st.resolveSelf w).services.allServices, ∀ uid b p, uid ∈ svc.endpoints.keysAt b p →
      ∃ v, (st.resolveSelf w).workloads.findUid uid = some v ∧
        (LocalityRanker.mk svc.loadBalancer (some (st.selfWorkload.getD w))).bucketFor v = some b := by
  intro svc hs uid b p hk
  have h' := h.resolveSelf w
  unfold Consistent at h'
  rw [resolveSelf_selfWorkload] at h'
  obtain ⟨v, hv, -, hb⟩ := (h'.agrees svc hs).sound uid b p hk
  exact ⟨v, hv, hb⟩

theorem resolveSelf_buckets_local :
    (new.run [.update (.service localService), .syncLocal [] [localWorkloadParsed] ⟨[], []⟩]).Consistent ∧
      ∀ svc ∈ ((new.run [.update (.service localService), .syncLocal [] [localWorkloadParsed] ⟨[], []⟩]).resolveSelf
        localWorkloadParsed.workload).services.allServices, ∀ uid b p, uid ∈ svc.endpoints.keysAt b p →
        ∃ v, ((new.run [.update (.service localService), .syncLocal [] [localWorkloadParsed] ⟨[], []⟩]).resolveSelf
          localWorkloadParsed.workload).workloads.findUid uid = some v ∧
          (LocalityRanker.mk svc.loadBalancer (some localWorkloadParsed.workload)).bucketFor v = some b := by
  have h := consistent_new.run [.update (.service localService), .syncLocal [] [localWorkloadParsed] ⟨[], []⟩]
    (by decide)
  exact ⟨h, Consistent.resolveSelf_buckets h localWorkloadParsed.workload⟩

/-! ### A name that does not parse -/

section ParseError

lemma ConsistentAt.replaceWorkload_parse_error (h : st.ConsistentAt src) {w : Workload} (raw : String) (ports : Ports)
    (raws : List (String × Ports)) {e : ProtoError} (hbad : NamespacedHostname.fromStr raw = .error e) :
    (st.replaceWorkload w ((raw, ports) :: raws) src).2 = .error e ∧
      (st.replaceWorkload w ((raw, ports) :: raws) src).1.workloads.findUid w.uid = some w ∧
      ∀ svc ∈ (st.replaceWorkload w ((raw, ports) :: raws) src).1.services.allServices, ∀ b p,
        w.uid ∉ svc.endpoints.keysAt b p := by
  obtain ⟨h₁, hnone⟩ := h.removeWorkloadForInsert w.uid
  set st₁ := st.removeWorkloadForInsert w.uid
  have hloop : st₁.services.insertEndpointForServices w ((raw, ports) :: raws) src = (st₁.services, .error e) := by
    simp only [ServiceStore.insertEndpointForServices, hbad]
  have hr : st.replaceWorkload w ((raw, ports) :: raws) src =
      (⟨st₁.workloads.insert w, st₁.services, st₁.selfWorkload⟩, .error e) := by
    unfold Store.replaceWorkload
    dsimp only
    rw [hloop]
  refine ⟨by rw [hr], replaceWorkload_findUid _ _ _ _, fun svc hs b p hk => ?_⟩
  rw [hr] at hs
  -- every service agrees with the workloads without the UID, so it does not hold it
  obtain ⟨v, hv, -⟩ := (h₁.agrees svc hs).sound w.uid b p hk
  rw [hnone] at hv
  cases hv

/-- `sync_local` whose first local workload has, first among its raw names, one without a `/`:
the `?` returns with that workload in the workload store and its endpoint in no service, also in
those it names. -/
theorem Consistent.syncLocal_parse_error (h : st.Consistent) (services : List Service) {wl : LocalWorkload}
    (wls : List LocalWorkload) (prev : PreviousState) {raw : String} {ports : Ports} {raws : List (String × Ports)}
    {e : ProtoError} (hraws : wl.services = (raw, ports) :: raws) (hbad : NamespacedHostname.fromStr raw = .error e) :
    (st.syncLocal services (wl :: wls) prev).2 = .error e ∧
      (st.syncLocal services (wl :: wls) prev).1.workloads.findUid wl.merged.uid = some wl.merged ∧
      ∀ svc ∈ (st.syncLocal services (wl :: wls) prev).1.services.allServices, ∀ b p,
        wl.merged.uid ∉ svc.endpoints.keysAt b p := by
  obtain ⟨herr, hfind, hout⟩ := ConsistentAt.replaceWorkload_parse_error h (w := wl.merged) raw ports raws hbad
  rw [← hraws] at herr hfind hout
  rcases hr : st.replaceWorkload wl.merged wl.services st.selfWorkload with ⟨st₁, r⟩
  rw [hr] at herr hfind hout
  obtain rfl : r = .error e := herr
  simp only [Store.syncLocal, syncWorkloads, hr, true_and]
  exact ⟨hfind, hout⟩

/-- A healthy local workload that names `ns/a` twice: by the raw name `a`, without namespace,
which `insert_endpoint_for_services` meets first, and by `ns/a`. -/
def localWorkloadUnparsed : LocalWorkload :=
  ⟨⟨[], .tcp, .standard, "w", "", "", .healthy, ⟨"", "", ""⟩, "", ∅, 0⟩, [("a", []), ("ns/a", [])]⟩

theorem syncLocal_parse_error_new : Store.new.Consistent ∧ localWorkloadUnparsed.services = ("a", []) :: [("ns/a", [])] ∧
    NamespacedHostname.fromStr "a" = .error (.namespacedHostnameParse "a") ∧
    ((Store.new.syncLocal [] [localWorkloadUnparsed] ⟨[], []⟩).2 = .error (.namespacedHostnameParse "a") ∧
      (Store.new.syncLocal [] [localWorkloadUnparsed] ⟨[], []⟩).1.workloads.findUid localWorkloadUnparsed.merged.uid =
        some localWorkloadUnparsed.merged ∧
      ∀ svc ∈ (Store.new.syncLocal [] [localWorkloadUnparsed] ⟨[], []⟩).1.services.allServices, ∀ b p,
        localWorkloadUnparsed.merged.uid ∉ svc.endpoints.keysAt b p) :=
  ⟨consistent_new, rfl, by decide, Consistent.syncLocal_parse_error consistent_new [] [] ⟨[], []⟩ rfl (by decide)⟩

/-- The local service, then the local workload: the store is left with a workload that names the
service, that the service admits, and that it does not hold. -/
theorem syncLocal_unparsed_name_breaks_consistency :
    ¬ (Store.new.run [.update (.service localService), .syncLocal [] [localWorkloadUnparsed] ⟨[], []⟩]).Consistent := by
  intro hc
  set st₁ := new.insertServiceInternal localService
  have h₁ : st₁.ConsistentAt none := consistent_new.insertServiceInternal rfl localService
  obtain ⟨-, hfind, hout⟩ := h₁.replaceWorkload_parse_error (w := localWorkloadUnparsed.merged) "a" [] [("ns/a", [])]
    (e := .namespacedHostnameParse "a") (by decide)
  -- the run stops in the workload loop of sync_local, after the workload went in
  have hrun : Store.new.run [.update (.service localService), .syncLocal [] [localWorkloadUnparsed] ⟨[], []⟩] =
      (st₁.replaceWorkload localWorkloadUnparsed.merged [("a", []), ("ns/a", [])] none).1 := rfl
  have hall : (st₁.replaceWorkload localWorkloadUnparsed.merged [("a", []), ("ns/a", [])] none).1.services.allServices =
      [{ localService with endpoints := buildEndpoints WorkloadStore.empty localService none }] := rfl
  rw [hrun] at hc
  set svc := { localService with endpoints := buildEndpoints WorkloadStore.empty localService none }
  have hmem : svc ∈ (st₁.replaceWorkload localWorkloadUnparsed.merged [("a", []), ("ns/a", [])] none).1.services.allServices := by
    rw [hall]
    exact List.mem_singleton_self svc
  have hinc : Included none svc localWorkloadUnparsed.merged := by
    refine ⟨?_, ?_, ?_⟩ <;> decide
  obtain ⟨b, p, hk⟩ := (hc.agrees svc hmem).complete _ _ hfind hinc
  exact hout svc hmem b p hk

end ParseError

end Store

end AgentGateway.Discovery
