import AgentGateway.Discovery.Endpoints
import AgentGateway.Library.KeyedList

/-! The shape of the service store: `by_host` files each service under its hostname, at most one
per namespace; changing, removing and inserting services keep it. -/

namespace AgentGateway.Discovery

open AgentGateway.Routing.Types (Strng NamespacedHostname)
open AgentGateway.LoadBalancer Library

namespace ServiceStore

def allServices (s : ServiceStore) : List Service := s.byHost.entries.flatMap (·.2)

structure WellFormed (s : ServiceStore) : Prop where
  hostname_eq : ∀ h svcs, s.byHost.lookup h = some svcs → ∀ svc ∈ svcs, svc.hostname = h
  namespaces_nodup : ∀ h svcs, s.byHost.lookup h = some svcs → (svcs.map (·.namespace)).Nodup

variable {s : ServiceStore} {host key : NamespacedHostname} {svc : Service} {h : Strng}
  {f : EndpointSet Strng Endpoint → EndpointSet Strng Endpoint}

lemma mem_allServices : svc ∈ s.allServices ↔ ∃ h svcs, s.byHost.lookup h = some svcs ∧ svc ∈ svcs := by
  simp only [allServices, List.mem_flatMap]
  constructor
  · rintro ⟨⟨h, svcs⟩, he, hs⟩
    exact ⟨h, svcs, AList.mem_lookup_iff.2 he, hs⟩
  · rintro ⟨h, svcs, hl, hs⟩
    exact ⟨⟨h, svcs⟩, AList.mem_lookup_iff.1 hl, hs⟩

theorem wellFormed_empty : empty.WellFormed where
  hostname_eq h svcs hl := by simp [empty] at hl
  namespaces_nodup h svcs hl := by simp [empty] at hl

lemma namespacedHostname_eq {svc : Service} : svc.namespacedHostname = key ↔ svc.namespace = key.namespace ∧ svc.hostname = key.hostname := by
  cases key
  simp [Service.namespacedHostname]

lemma getByNamespacedHost_eq_some (hwf : s.WellFormed) :
    s.getByNamespacedHost key = some svc ↔ svc ∈ s.allServices ∧ svc.namespacedHostname = key := by
  unfold getByNamespacedHost
  rw [Option.bind_eq_some_iff, mem_allServices, namespacedHostname_eq]
  constructor
  · rintro ⟨svcs, hl, hf⟩
    obtain ⟨hs, hn⟩ := (KeyedList.find_eq_some (fun svc : Service => svc.namespace) (hwf.namespaces_nodup _ _ hl)).1 hf
    exact ⟨⟨_, svcs, hl, hs⟩, hn, hwf.hostname_eq _ _ hl svc hs⟩
  · rintro ⟨⟨h, svcs, hl, hs⟩, hn, hh⟩
    have hhk : h = key.hostname := (hwf.hostname_eq _ _ hl svc hs).symm.trans hh
    subst hhk
    exact ⟨svcs, hl, (KeyedList.find_eq_some (fun svc : Service => svc.namespace) (hwf.namespaces_nodup _ _ hl)).2 ⟨hs, hn⟩⟩

lemma getByNamespacedHost_eq_none (hwf : s.WellFormed) :
    s.getByNamespacedHost key = none ↔ ∀ svc ∈ s.allServices, svc.namespacedHostname ≠ key := by
  constructor
  · intro hn svc hs hk
    rw [(getByNamespacedHost_eq_some hwf).2 ⟨hs, hk⟩] at hn
    cases hn
  · intro hno
    cases hg : s.getByNamespacedHost key with
    | none => rfl
    | some svc =>
      obtain ⟨hs, hk⟩ := (getByNamespacedHost_eq_some hwf).1 hg
      exact absurd hk (hno svc hs)

lemma eq_of_namespacedHostname (hwf : s.WellFormed) {svc' : Service} (hs : svc ∈ s.allServices)
    (hs' : svc' ∈ s.allServices) (hk : svc.namespacedHostname = svc'.namespacedHostname) : svc = svc' := by
  have h₁ := (getByNamespacedHost_eq_some hwf).2 ⟨hs, hk⟩
  have h₂ := (getByNamespacedHost_eq_some hwf).2 ⟨hs', rfl⟩
  exact Option.some.inj (h₁.symm.trans h₂)

/-! ### Filing a list of services under a hostname -/

section Filing

variable {byHost : AList fun _ : Strng => List Service} {l : List Service}

lemma mem_flatMap_insert (hl : ∀ svc ∈ l, svc.hostname = h)
    (hwf : ∀ h svcs, byHost.lookup h = some svcs → ∀ svc ∈ svcs, svc.hostname = h) :
    svc ∈ (byHost.insert h l).entries.flatMap (·.2) → svc ∈ l ∨ (svc ∈ byHost.entries.flatMap (·.2) ∧ svc.hostname ≠ h) := by
  simp only [List.mem_flatMap]
  rintro ⟨⟨h', svcs⟩, he, hs⟩
  have hl' := AList.mem_lookup_iff.2 he
  by_cases hh : h' = h
  · subst hh
    rw [AList.lookup_insert] at hl'
    cases hl'
    exact .inl hs
  · rw [AList.lookup_insert_ne hh] at hl'
    exact .inr ⟨⟨⟨h', svcs⟩, AList.mem_lookup_iff.1 hl', hs⟩, (hwf h' svcs hl' svc hs).trans_ne hh⟩

end Filing

/-! ### Changing the endpoints of a service -/

lemma updateEndpoints_stagedServices (s : ServiceStore) (host : NamespacedHostname) (f) :
    (s.updateEndpoints host f).stagedServices = s.stagedServices := by
  unfold updateEndpoints
  split
  · split <;> rfl
  · rfl

lemma mem_allServices_updateEndpoints (hwf : s.WellFormed) (hs : svc ∈ (s.updateEndpoints host f).allServices) :
    (svc ∈ s.allServices ∧ svc.namespacedHostname ≠ host) ∨
      ∃ svc₀ ∈ s.allServices, svc₀.namespacedHostname = host ∧ svc = { svc₀ with endpoints := f svc₀.endpoints } := by
  -- a service left as it was does not have the name, or it would have been found
  have hold : svc ∈ s.allServices → (∀ svcs, s.byHost.lookup host.hostname = some svcs →
      ∀ x ∈ svcs, x.namespace ≠ host.namespace) →
      (svc ∈ s.allServices ∧ svc.namespacedHostname ≠ host) := fun hs hno => by
    refine ⟨hs, fun hk => ?_⟩
    obtain ⟨h, svcs, hl, hsv⟩ := mem_allServices.1 hs
    obtain ⟨hn, hh⟩ := namespacedHostname_eq.1 hk
    have hhk : h = host.hostname := (hwf.hostname_eq _ _ hl svc hsv).symm.trans hh
    subst hhk
    exact hno svcs hl svc hsv hn
  unfold updateEndpoints at hs
  cases hl : s.byHost.lookup host.hostname with
  | none =>
    simp only [hl] at hs
    exact .inl (hold hs fun svcs h' => by cases h'.symm.trans hl)
  | some svcs =>
    simp only [hl] at hs
    cases hi : svcs.findIdx? (·.namespace == host.namespace) with
    | none =>
      simp only [hi] at hs
      refine .inl (hold hs fun svcs' h' => ?_)
      rw [hl] at h'
      cases h'
      exact (KeyedList.findIdx_eq_none (fun svc : Service => svc.namespace)).1 hi
    | some i =>
      simp only [hi] at hs
      have hnd := hwf.namespaces_nodup _ _ hl
      have hhost : ∀ x ∈ svcs.modify i (fun svc => { svc with endpoints := f svc.endpoints }), x.hostname = host.hostname := by
        intro x hx
        rcases (KeyedList.mem_modify_findIdx (fun svc : Service => svc.namespace) hnd hi _).1 hx with ⟨hx, -⟩ | ⟨y, hy, -, rfl⟩
        · exact hwf.hostname_eq _ _ hl x hx
        · exact hwf.hostname_eq _ _ hl y hy
      rcases mem_flatMap_insert hhost hwf.hostname_eq hs with hm | ⟨hs, hh⟩
      · rcases (KeyedList.mem_modify_findIdx (fun svc : Service => svc.namespace) hnd hi _).1 hm with ⟨hx, hn⟩ | ⟨y, hy, hn, rfl⟩
        · exact .inl ⟨mem_allServices.2 ⟨_, svcs, hl, hx⟩, fun hk => hn (namespacedHostname_eq.1 hk).1⟩
        · refine .inr ⟨y, mem_allServices.2 ⟨_, svcs, hl, hy⟩, namespacedHostname_eq.2 ⟨hn, hwf.hostname_eq _ _ hl y hy⟩, rfl⟩
      · exact .inl ⟨hs, fun hk => hh (namespacedHostname_eq.1 hk).2⟩

lemma WellFormed.updateEndpoints (hwf : s.WellFormed) (host : NamespacedHostname) (f) :
    (s.updateEndpoints host f).WellFormed := by
  unfold ServiceStore.updateEndpoints
  cases hl : s.byHost.lookup host.hostname with
  | none => exact hwf
  | some svcs =>
    dsimp only
    cases hi : svcs.findIdx? (·.namespace == host.namespace) with
    | none => exact hwf
    | some i =>
      dsimp only
      have hnd := hwf.namespaces_nodup _ _ hl
      refine ⟨fun h' svcs' hl' x hx => ?_, fun h' svcs' hl' => ?_⟩
      · by_cases hh : h' = host.hostname
        · subst hh
          simp only [AList.lookup_insert, Option.some.injEq] at hl'
          subst hl'
          rcases (KeyedList.mem_modify_findIdx (fun svc : Service => svc.namespace) hnd hi _).1 hx with ⟨hx, -⟩ | ⟨y, hy, -, rfl⟩
          · exact hwf.hostname_eq _ _ hl x hx
          · exact hwf.hostname_eq _ _ hl y hy
        · rw [AList.lookup_insert_ne hh] at hl'
          exact hwf.hostname_eq _ _ hl' x hx
      · by_cases hh : h' = host.hostname
        · subst hh
          simp only [AList.lookup_insert, Option.some.injEq] at hl'
          subst hl'
          exact KeyedList.nodup_map_modify (fun svc : Service => svc.namespace) hnd _ fun _ => rfl
        · rw [AList.lookup_insert_ne hh] at hl'
          exact hwf.namespaces_nodup _ _ hl'

/-! ### Removing a service -/

lemma mem_allServices_remove (hwf : s.WellFormed) (hs : svc ∈ (s.remove key).2.allServices) :
    svc ∈ s.allServices := by
  unfold remove at hs
  cases hl : s.byHost.lookup key.hostname with
  | none =>
    simp only [hl] at hs
    exact hs
  | some svcs =>
    simp only [hl] at hs
    cases hi : svcs.findIdx? (·.namespace == key.namespace) with
    | none =>
      simp only [hi] at hs
      exact hs
    | some i =>
      simp only [hi] at hs
      have hnd := hwf.namespaces_nodup _ _ hl
      split_ifs at hs with he
      · obtain ⟨h', svcs', hl', hsv⟩ := mem_allServices.1 hs
        by_cases hh : h' = key.hostname
        · subst hh
          simp at hl'
        · rw [AList.lookup_erase_ne hh] at hl'
          exact mem_allServices.2 ⟨h', svcs', hl', hsv⟩
      · have hhost : ∀ x ∈ svcs.eraseIdx i, x.hostname = key.hostname := fun x hx =>
          hwf.hostname_eq _ _ hl x ((KeyedList.mem_eraseIdx_findIdx (fun svc : Service => svc.namespace) hnd hi).1 hx).1
        rcases mem_flatMap_insert hhost hwf.hostname_eq hs with hm | ⟨hs, -⟩
        · exact mem_allServices.2 ⟨_, svcs, hl,
            ((KeyedList.mem_eraseIdx_findIdx (fun svc : Service => svc.namespace) hnd hi).1 hm).1⟩
        · exact hs

lemma stagedServices_remove (k : NamespacedHostname) (hk : k ∈ (s.remove key).2.stagedServices) :
    k ∈ s.stagedServices := by
  unfold remove at hk
  split at hk
  · exact hk
  · split at hk
    · exact hk
    · exact (AList.mem_erase.1 hk).2

lemma WellFormed.remove (hwf : s.WellFormed) (key : NamespacedHostname) : (s.remove key).2.WellFormed := by
  unfold ServiceStore.remove
  cases hl : s.byHost.lookup key.hostname with
  | none => exact hwf
  | some svcs =>
    dsimp only
    cases hi : svcs.findIdx? (·.namespace == key.namespace) with
    | none => exact hwf
    | some i =>
      dsimp only
      have hnd := hwf.namespaces_nodup _ _ hl
      split_ifs with he
      · -- the hostname goes with its last service
        refine ⟨fun h' svcs' hl' => ?_, fun h' svcs' hl' => ?_⟩
        · by_cases hh : h' = key.hostname
          · subst hh
            simp at hl'
          · rw [AList.lookup_erase_ne hh] at hl'
            exact hwf.hostname_eq _ _ hl'
        · by_cases hh : h' = key.hostname
          · subst hh
            simp at hl'
          · rw [AList.lookup_erase_ne hh] at hl'
            exact hwf.namespaces_nodup _ _ hl'
      · refine ⟨fun h' svcs' hl' x hx => ?_, fun h' svcs' hl' => ?_⟩
        · by_cases hh : h' = key.hostname
          · subst hh
            simp only [AList.lookup_insert, Option.some.injEq] at hl'
            subst hl'
            exact hwf.hostname_eq _ _ hl x (List.mem_of_mem_eraseIdx hx)
          · rw [AList.lookup_insert_ne hh] at hl'
            exact hwf.hostname_eq _ _ hl' x hx
        · by_cases hh : h' = key.hostname
          · subst hh
            simp only [AList.lookup_insert, Option.some.injEq] at hl'
            subst hl'
            exact KeyedList.nodup_map_eraseIdx (fun svc : Service => svc.namespace) hnd
          · rw [AList.lookup_insert_ne hh] at hl'
            exact hwf.namespaces_nodup _ _ hl'

/-! ### Inserting a service -/

lemma insert_stagedServices (s : ServiceStore) (service : Service) :
    (s.insert service).stagedServices = (s.remove service.namespacedHostname).2.stagedServices := rfl

lemma mem_allServices_insert (hwf : s.WellFormed) {service : Service} (hs : svc ∈ (s.insert service).allServices) :
    svc = service ∨ svc ∈ s.allServices := by
  have hwf' := hwf.remove service.namespacedHostname
  set s' := (s.remove service.namespacedHostname).2 with hs'
  have hold : svc ∈ s'.allServices → svc = service ∨ svc ∈ s.allServices := fun h => .inr (mem_allServices_remove hwf h)
  unfold ServiceStore.insert at hs
  rw [← hs'] at hs
  cases hl : s'.byHost.lookup service.hostname with
  | none =>
    simp only [hl] at hs
    rcases mem_flatMap_insert (l := [service]) (by simp) hwf'.hostname_eq hs with hm | ⟨hm, -⟩
    · exact .inl (List.mem_singleton.1 hm)
    · exact hold hm
  | some svcs =>
    have hnd := hwf'.namespaces_nodup _ _ hl
    simp only [hl] at hs
    cases hi : svcs.findIdx? (·.namespace == service.namespace) with
    | none =>
      simp only [hi] at hs
      have hhost : ∀ x ∈ svcs ++ [service], x.hostname = service.hostname := by
        intro x hx
        rcases List.mem_append.1 hx with hx | hx
        · exact hwf'.hostname_eq _ _ hl x hx
        · rw [List.mem_singleton.1 hx]
      rcases mem_flatMap_insert hhost hwf'.hostname_eq hs with hm | ⟨hm, -⟩
      · rcases List.mem_append.1 hm with hm | hm
        · exact hold (mem_allServices.2 ⟨_, svcs, hl, hm⟩)
        · exact .inl (List.mem_singleton.1 hm)
      · exact hold hm
    | some cur =>
      simp only [hi] at hs
      have hhost : ∀ x ∈ svcs.set cur service, x.hostname = service.hostname := by
        intro x hx
        rcases (KeyedList.mem_set_findIdx (fun svc : Service => svc.namespace) hnd hi service).1 hx with rfl | ⟨hx, -⟩
        · rfl
        · exact hwf'.hostname_eq _ _ hl x hx
      rcases mem_flatMap_insert hhost hwf'.hostname_eq hs with hm | ⟨hm, -⟩
      · rcases (KeyedList.mem_set_findIdx (fun svc : Service => svc.namespace) hnd hi service).1 hm with rfl | ⟨hm, -⟩
        · exact .inl rfl
        · exact hold (mem_allServices.2 ⟨_, svcs, hl, hm⟩)
      · exact hold hm

lemma WellFormed.insert (hwf : s.WellFormed) (service : Service) : (s.insert service).WellFormed := by
  have hwf' := hwf.remove service.namespacedHostname
  set s' := (s.remove service.namespacedHostname).2 with hs'
  -- the new list under the service's hostname, and the others as they were
  have hfile : ∀ l : List Service, (∀ x ∈ l, x.hostname = service.hostname) → (l.map (·.namespace)).Nodup →
      WellFormed { s' with byHost := s'.byHost.insert service.hostname l } := by
    intro l hl hnd
    refine ⟨fun h' svcs' hl' x hx => ?_, fun h' svcs' hl' => ?_⟩
    · by_cases hh : h' = service.hostname
      · subst hh
        simp only [AList.lookup_insert, Option.some.injEq] at hl'
        subst hl'
        exact hl x hx
      · rw [AList.lookup_insert_ne hh] at hl'
        exact hwf'.hostname_eq _ _ hl' x hx
    · by_cases hh : h' = service.hostname
      · subst hh
        simp only [AList.lookup_insert, Option.some.injEq] at hl'
        subst hl'
        exact hnd
      · rw [AList.lookup_insert_ne hh] at hl'
        exact hwf'.namespaces_nodup _ _ hl'
  -- the shape does not read `by_vip`
  have hwfv : ∀ (t : ServiceStore) v, t.WellFormed → WellFormed { t with byVip := v } :=
    fun t v h => ⟨h.hostname_eq, h.namespaces_nodup⟩
  unfold ServiceStore.insert
  rw [← hs']
  dsimp only
  cases hl : s'.byHost.lookup service.hostname with
  | none => exact hwfv _ _ (hfile [service] (by simp) (by simp))
  | some svcs =>
    dsimp only
    have hnd := hwf'.namespaces_nodup _ _ hl
    cases hi : svcs.findIdx? (·.namespace == service.namespace) with
    | none =>
      dsimp only
      refine hwfv _ _ (hfile _ ?_ ?_)
      · intro x hx
        rcases List.mem_append.1 hx with hx | hx
        · exact hwf'.hostname_eq _ _ hl x hx
        · rw [List.mem_singleton.1 hx]
      · exact KeyedList.nodup_map_append (fun svc : Service => svc.namespace) hnd
          ((KeyedList.findIdx_eq_none (fun svc : Service => svc.namespace)).1 hi)
    | some cur =>
      dsimp only
      refine hwfv _ _ (hfile _ ?_ (KeyedList.nodup_map_set (fun svc : Service => svc.namespace) hnd hi rfl))
      intro x hx
      rcases (KeyedList.mem_set_findIdx (fun svc : Service => svc.namespace) hnd hi service).1 hx with rfl | ⟨hx, -⟩
      · rfl
      · exact hwf'.hostname_eq _ _ hl x hx

end ServiceStore

end AgentGateway.Discovery
