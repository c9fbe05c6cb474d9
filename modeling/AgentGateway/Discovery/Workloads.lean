import AgentGateway.Discovery.Store
import AgentGateway.Library.Fold

/-! The indexes of the workload store agree with its workloads; `remove` and `insert` keep
this, so `find_address` never reaches the `get` panic. -/

namespace AgentGateway.Discovery

open AgentGateway.Routing.Types (Strng NamespacedHostname)

def Workload.addresses (w : Workload) : List NetworkAddress :=
  if w.networkMode ≠ .hostNetwork then w.workloadIps.map (networkAddr w.network) else []

namespace WorkloadByAddr

def pickBest (best x : Workload) : Workload := if preference best ≤ preference x then x else best

lemma foldl_pickBest_spec : ∀ (ws : List Workload) (w : Workload),
    ws.foldl pickBest w ∈ w :: ws ∧ ∀ y ∈ w :: ws, preference y ≤ preference (ws.foldl pickBest w)
  | [], w => by simp
  | x :: ws, w => by
    obtain ⟨hmem, hmax⟩ := foldl_pickBest_spec ws (pickBest w x)
    -- the pick so far is one of the two and of the higher preference
    have hp : pickBest w x ∈ [w, x] ∧ preference w ≤ preference (pickBest w x) ∧
        preference x ≤ preference (pickBest w x) := by
      unfold pickBest
      split_ifs with hle
      · exact ⟨by simp, hle, le_rfl⟩
      · exact ⟨by simp, le_rfl, by omega⟩
    refine ⟨?_, fun y hy => ?_⟩
    · rw [List.foldl_cons]
      rcases List.mem_cons.1 hmem with he | hm
      · rw [he]
        rcases List.mem_pair.1 hp.1 with h | h <;> simp [h]
      · exact List.mem_cons_of_mem _ (List.mem_cons_of_mem _ hm)
    · rw [List.foldl_cons]
      have hb := hmax _ List.mem_cons_self
      rcases List.mem_cons.1 hy with rfl | hy
      · exact hp.2.1.trans hb
      rcases List.mem_cons.1 hy with rfl | hy
      · exact hp.2.2.trans hb
      · exact hmax y (List.mem_cons_of_mem _ hy)

theorem get_spec {o : WorkloadByAddr} {x : Workload} (h : o.get = some x) :
    x ∈ o.workloads ∧ ∀ y ∈ o.workloads, preference y ≤ preference x := by
  cases o with
  | single w =>
    cases h
    simp [workloads]
  | many ws =>
    cases ws with
    | nil => cases h
    | cons w ws =>
      cases h
      exact foldl_pickBest_spec ws w

lemma get_isSome {o : WorkloadByAddr} : o.get.isSome ↔ o.workloads ≠ [] := by
  cases o with
  | single w => simp [get, workloads]
  | many ws => cases ws <;> simp [get, workloads]

end WorkloadByAddr

namespace WorkloadStore

def uidsOf (byService : AList fun _ : NamespacedHostname => List Strng) (svc : NamespacedHostname) : List Strng :=
  (byService.lookup svc).getD []

def filed (byAddr : AList fun _ : NetworkAddress => WorkloadByAddr) (addr : NetworkAddress) : List Workload :=
  ((byAddr.lookup addr).map WorkloadByAddr.workloads).getD []

def SetsOk (byService : AList fun _ : NamespacedHostname => List Strng) : Prop :=
  ∀ svc set, byService.lookup svc = some set → set ≠ [] ∧ set.Nodup

def ManyOk (byAddr : AList fun _ : NetworkAddress => WorkloadByAddr) : Prop :=
  ∀ addr ws, byAddr.lookup addr = some (.many ws) → 2 ≤ ws.length

structure Inv (s : WorkloadStore) : Prop where
  uid_eq : ∀ {uid w}, s.byUid.lookup uid = some w → w.uid = uid
  mem_uidsOf : ∀ {svc uid}, uid ∈ uidsOf s.byService svc ↔ ∃ w, s.byUid.lookup uid = some w ∧ svc ∈ w.services
  sets : SetsOk s.byService
  mem_filed : ∀ {addr w}, w ∈ filed s.byAddr addr ↔ s.byUid.lookup w.uid = some w ∧ addr ∈ w.addresses
  many : ManyOk s.byAddr

theorem inv_empty : empty.Inv where
  uid_eq h := by simp [empty] at h
  mem_uidsOf := by simp [empty, uidsOf]
  sets _ _ h := by simp [empty] at h
  mem_filed := by simp [empty, filed]
  many _ _ h := by simp [empty] at h

/-! ### The service index -/

section ByService

variable {uid : Strng} {m : AList fun _ : NamespacedHostname => List Strng} {k a : NamespacedHostname}

def dropUid (uid : Strng) (set : List Strng) : Option (List Strng) :=
  if (set.erase uid).isEmpty then none else some (set.erase uid)

lemma lookup_removeService :
    (removeService uid m k).lookup a = if a = k then (m.lookup k).bind (dropUid uid) else m.lookup a := by
  unfold removeService
  cases hk : m.lookup k with
  | none =>
    split_ifs with hak
    · rw [hak, hk]
      rfl
    · rfl
  | some set =>
    by_cases hak : a = k
    · subst hak
      by_cases he : (set.erase uid).isEmpty <;> simp [he, dropUid]
    · by_cases he : (set.erase uid).isEmpty
      · simp [he, hak, AList.lookup_erase_ne hak]
      · simp [he, hak, AList.lookup_insert_ne hak]

lemma lookup_addService :
    (addService uid m k).lookup a = if a = k then some ((uidsOf m k).insert uid) else m.lookup a := by
  unfold addService
  by_cases hak : a = k
  · subst hak
    simp [uidsOf]
  · simp [hak, AList.lookup_insert_ne hak]

lemma SetsOk.removeService (h : SetsOk m) : SetsOk (removeService uid m k) := by
  intro svc set hset
  rw [lookup_removeService] at hset
  split_ifs at hset with hk
  · obtain ⟨set₀, h₀, hd⟩ := Option.bind_eq_some_iff.1 hset
    unfold dropUid at hd
    split_ifs at hd with he
    cases hd
    exact ⟨fun hn => he (by simp [hn]), (h _ _ h₀).2.erase uid⟩
  · exact h _ _ hset

lemma SetsOk.addService (h : SetsOk m) : SetsOk (addService uid m k) := by
  intro svc set hset
  rw [lookup_addService] at hset
  split_ifs at hset with hk
  · cases hset
    have hnd : (uidsOf m k).Nodup := by
      unfold uidsOf
      cases hm : m.lookup k with
      | none => exact List.nodup_nil
      | some set₀ => exact (h _ _ hm).2
    exact ⟨List.ne_nil_of_mem List.mem_insert_self, hnd.insert⟩
  · exact h _ _ hset

lemma lookup_foldl_removeService (l : List NamespacedHostname) (hl : l.Nodup)
    (m : AList fun _ : NamespacedHostname => List Strng) (a : NamespacedHostname) :
    (l.foldl (removeService uid) m).lookup a = if a ∈ l then (m.lookup a).bind (dropUid uid) else m.lookup a :=
  Library.Map.lookup_foldl_pointwise (fun _ o => o.bind (dropUid uid)) (fun _ _ _ => lookup_removeService) l hl m a

lemma lookup_foldl_addService (l : List NamespacedHostname) (hl : l.Nodup)
    (m : AList fun _ : NamespacedHostname => List Strng) (a : NamespacedHostname) :
    (l.foldl (addService uid) m).lookup a = if a ∈ l then some ((uidsOf m a).insert uid) else m.lookup a :=
  Library.Map.lookup_foldl_pointwise (fun _ o => some ((o.getD []).insert uid)) (fun _ _ _ => lookup_addService) l hl m a

lemma mem_dropUid {set : List Strng} (hnd : set.Nodup) {x : Strng} :
    x ∈ ((dropUid uid set).getD []) ↔ x ∈ set ∧ x ≠ uid := by
  rw [and_comm, ← hnd.mem_erase_iff]
  unfold dropUid
  split_ifs with he
  · simp [List.isEmpty_iff.1 he]
  · rfl

end ByService

/-! ### The address index -/

section ByAddr

variable {prev w x : Workload} {m : AList fun _ : NetworkAddress => WorkloadByAddr} {k a : NetworkAddress}

def dropWorkload (uid : Strng) (o : WorkloadByAddr) : Option WorkloadByAddr :=
  if (o.removeUid uid).1 then none else some (o.removeUid uid).2

lemma mem_dropWorkload (uid : Strng) (o : WorkloadByAddr) :
    x ∈ ((dropWorkload uid o).map WorkloadByAddr.workloads).getD [] ↔ x ∈ o.workloads ∧ x.uid ≠ uid := by
  unfold dropWorkload
  cases o with
  | single wl =>
    by_cases hu : wl.uid = uid
    · simp only [WorkloadByAddr.removeUid, hu, beq_self_eq_true, if_true, Option.map_none,
        Option.getD_none, List.not_mem_nil, WorkloadByAddr.workloads, List.mem_singleton, false_iff]
      rintro ⟨rfl, hx⟩
      exact hx hu
    · simp only [WorkloadByAddr.removeUid, beq_eq_false_iff_ne.2 hu, Bool.false_eq_true, if_false,
        Option.map_some, Option.getD_some, WorkloadByAddr.workloads, List.mem_singleton]
      constructor
      · rintro rfl
        exact ⟨rfl, hu⟩
      · exact And.left
  | many ws =>
    -- what is left is the filtered list, whichever of the three shapes it takes
    have hf : x ∈ ws.filter (·.uid != uid) ↔ x ∈ ws ∧ x.uid ≠ uid := by simp
    rw [show (WorkloadByAddr.many ws).workloads = ws from rfl, ← hf]
    rcases hws : ws.filter (·.uid != uid) with _ | ⟨a, _ | ⟨b, t⟩⟩ <;>
      simp [WorkloadByAddr.removeUid, hws, WorkloadByAddr.workloads]

lemma length_of_dropWorkload {uid : Strng} {o : WorkloadByAddr} {ws : List Workload}
    (h : dropWorkload uid o = some (.many ws)) : 2 ≤ ws.length := by
  unfold dropWorkload at h
  cases o with
  | single wl => simp [WorkloadByAddr.removeUid] at h
  | many v =>
    rcases hv : v.filter (·.uid != uid) with _ | ⟨a, _ | ⟨b, t⟩⟩ <;>
      simp [WorkloadByAddr.removeUid, hv] at h
    subst h
    simp

lemma lookup_removeAddr :
    (removeAddr prev m k).lookup a = if a = k then (m.lookup k).bind (dropWorkload prev.uid) else m.lookup a := by
  unfold removeAddr
  cases hk : m.lookup k with
  | none =>
    split_ifs with hak
    · rw [hak, hk]
      rfl
    · rfl
  | some o =>
    by_cases hak : a = k
    · subst hak
      by_cases he : (o.removeUid prev.uid).1 <;> simp [he, dropWorkload]
    · by_cases he : (o.removeUid prev.uid).1
      · simp [he, hak, AList.lookup_erase_ne hak]
      · simp [he, hak, AList.lookup_insert_ne hak]

lemma lookup_addAddr :
    (addAddr w m k).lookup a =
      if a = k then some (((m.lookup k).map (·.insert w)).getD (.single w)) else m.lookup a := by
  unfold addAddr
  by_cases hak : a = k
  · subst hak
    cases m.lookup a <;> simp
  · cases m.lookup k <;> simp [hak, AList.lookup_insert_ne hak]

@[simp] lemma workloads_insert (o : WorkloadByAddr) (w : Workload) : (o.insert w).workloads = o.workloads ++ [w] := by
  cases o <;> rfl

lemma mem_filed_removeAddr : x ∈ filed (removeAddr prev m k) a ↔ x ∈ filed m a ∧ (a = k → x.uid ≠ prev.uid) := by
  unfold filed
  rw [lookup_removeAddr]
  by_cases hak : a = k
  · subst hak
    cases m.lookup a with
    | none => simp
    | some o => simpa using mem_dropWorkload prev.uid o
  · simp [hak]

lemma mem_filed_addAddr : x ∈ filed (addAddr w m k) a ↔ x ∈ filed m a ∨ (a = k ∧ x = w) := by
  unfold filed
  rw [lookup_addAddr]
  by_cases hak : a = k
  · subst hak
    cases m.lookup a with
    | none => simp [WorkloadByAddr.workloads]
    | some o => simp
  · simp [hak]

lemma ManyOk.removeAddr (h : ManyOk m) : ManyOk (removeAddr prev m k) := by
  intro addr ws hws
  rw [lookup_removeAddr] at hws
  split_ifs at hws with hak
  · obtain ⟨o, -, ho⟩ := Option.bind_eq_some_iff.1 hws
    exact length_of_dropWorkload ho
  · exact h _ _ hws

lemma ManyOk.addAddr (h : ManyOk m) : ManyOk (addAddr w m k) := by
  intro addr ws hws
  rw [lookup_addAddr] at hws
  split_ifs at hws with hak
  · cases ho : m.lookup k with
    | none => simp [ho] at hws
    | some o =>
      cases o with
      | single v =>
        simp only [ho, Option.map_some, Option.getD_some, WorkloadByAddr.insert, Option.some.injEq,
          WorkloadByAddr.many.injEq] at hws
        simp [← hws]
      | many v =>
        simp only [ho, Option.map_some, Option.getD_some, WorkloadByAddr.insert, Option.some.injEq,
          WorkloadByAddr.many.injEq] at hws
        have := h _ _ ho
        simp only [← hws, List.length_append, List.length_singleton]
        omega
  · exact h _ _ hws

end ByAddr

/-! ### `remove` and `insert` -/

section Ops

variable {s : WorkloadStore} {uid : Strng} {prev w : Workload}

lemma remove_fst (s : WorkloadStore) (uid : Strng) : (s.remove uid).1 = s.byUid.lookup uid := by
  unfold remove
  cases s.byUid.lookup uid <;> rfl

lemma remove_of_lookup_none (hu : s.byUid.lookup uid = none) : (s.remove uid).2 = s := by
  unfold remove
  rw [hu]

lemma remove_byService (hu : s.byUid.lookup uid = some prev) :
    (s.remove uid).2.byService = prev.services.keys.foldl (removeService prev.uid) s.byService := by
  unfold remove
  rw [hu]

lemma remove_byAddr (hu : s.byUid.lookup uid = some prev) :
    (s.remove uid).2.byAddr = prev.addresses.foldl (removeAddr prev) s.byAddr := by
  unfold remove Workload.addresses
  rw [hu]
  by_cases hn : prev.networkMode = .hostNetwork <;> simp [hn, List.foldl_map]

lemma lookup_remove (s : WorkloadStore) (uid a : Strng) :
    (s.remove uid).2.byUid.lookup a = if a = uid then none else s.byUid.lookup a := by
  cases hu : s.byUid.lookup uid with
  | none =>
    rw [remove_of_lookup_none hu]
    split_ifs with ha
    · rw [ha, hu]
    · rfl
  | some prev =>
    unfold remove
    rw [hu]
    by_cases ha : a = uid
    · subst ha
      simp
    · simp [ha, AList.lookup_erase_ne ha]

lemma mem_uidsOf_remove (h : s.Inv) {svc : NamespacedHostname} {x : Strng} :
    x ∈ uidsOf (s.remove uid).2.byService svc ↔ x ∈ uidsOf s.byService svc ∧ x ≠ uid := by
  cases hu : s.byUid.lookup uid with
  | none =>
    rw [remove_of_lookup_none hu]
    refine ⟨fun hx => ⟨hx, ?_⟩, And.left⟩
    rintro rfl
    obtain ⟨v, hv, -⟩ := h.mem_uidsOf.1 hx
    rw [hu] at hv
    cases hv
  | some prev =>
    have hpu : prev.uid = uid := h.uid_eq hu
    rw [remove_byService hu, uidsOf, lookup_foldl_removeService _ prev.services.keys_nodup]
    split_ifs with hsvc
    · -- a service of the workload: its set loses the UID
      cases hset : s.byService.lookup svc with
      | none => simp [uidsOf, hset]
      | some set =>
        rw [← hpu]
        simpa [uidsOf, hset] using mem_dropUid (h.sets _ _ hset).2
    · -- any other service never had it
      refine ⟨fun hx => ⟨hx, ?_⟩, And.left⟩
      rintro rfl
      obtain ⟨v, hv, hs⟩ := h.mem_uidsOf.1 hx
      rw [hu] at hv
      cases hv
      exact hsvc (AList.mem_keys.2 hs)

lemma mem_filed_remove (h : s.Inv) {addr : NetworkAddress} {y : Workload} :
    y ∈ filed (s.remove uid).2.byAddr addr ↔ y ∈ filed s.byAddr addr ∧ y.uid ≠ uid := by
  cases hu : s.byUid.lookup uid with
  | none =>
    rw [remove_of_lookup_none hu]
    refine ⟨fun hy => ⟨hy, fun hyu => ?_⟩, And.left⟩
    have hl := (h.mem_filed.1 hy).1
    rw [hyu, hu] at hl
    cases hl
  | some prev =>
    have hpu : prev.uid = uid := h.uid_eq hu
    have hk := Library.Fold.foldl_keyed_filter (fun m a x => x ∈ filed m a) (removeAddr prev)
      (fun x => x.uid ≠ prev.uid) (fun _ _ _ _ => mem_filed_removeAddr) prev.addresses s.byAddr addr y
    beta_reduce at hk
    rw [remove_byAddr hu, hk, hpu]
    -- a workload filed under the UID is the removed one, filed only under its own addresses
    refine and_congr_right fun hy => ⟨fun hp hyu => ?_, fun hyu _ => hyu⟩
    obtain ⟨hl, ha⟩ := h.mem_filed.1 hy
    rw [hyu, hu] at hl
    cases hl
    exact hp ha hyu

lemma sets_remove (h : s.Inv) (uid : Strng) : SetsOk (s.remove uid).2.byService := by
  cases hu : s.byUid.lookup uid with
  | none => simpa [remove_of_lookup_none hu] using h.sets
  | some prev =>
    rw [remove_byService hu]
    exact Library.Fold.foldl_invariant (P := SetsOk) (fun _ _ hm => hm.removeService) _ _ h.sets

lemma many_remove (h : s.Inv) (uid : Strng) : ManyOk (s.remove uid).2.byAddr := by
  cases hu : s.byUid.lookup uid with
  | none => simpa [remove_of_lookup_none hu] using h.many
  | some prev =>
    rw [remove_byAddr hu]
    exact Library.Fold.foldl_invariant (P := ManyOk) (fun _ _ hm => hm.removeAddr) _ _ h.many

theorem Inv.remove (h : s.Inv) (uid : Strng) : (s.remove uid).2.Inv where
  uid_eq {a v} hv := by
    rw [lookup_remove] at hv
    split_ifs at hv
    exact h.uid_eq hv
  mem_uidsOf {svc x} := by
    rw [mem_uidsOf_remove h, h.mem_uidsOf, lookup_remove]
    by_cases hx : x = uid <;> simp [hx]
  sets := sets_remove h uid
  mem_filed {addr y} := by
    rw [mem_filed_remove h, h.mem_filed, lookup_remove]
    by_cases hy : y.uid = uid <;> simp [hy]
  many := many_remove h uid

lemma insert_byService (s : WorkloadStore) (w : Workload) :
    (s.insert w).byService = w.services.keys.foldl (addService w.uid) (s.remove w.uid).2.byService := rfl

lemma insert_byAddr (s : WorkloadStore) (w : Workload) :
    (s.insert w).byAddr = w.addresses.foldl (addAddr w) (s.remove w.uid).2.byAddr := by
  unfold insert Workload.addresses
  by_cases hn : w.networkMode = .hostNetwork <;> simp [hn, List.foldl_map]

lemma lookup_insert (s : WorkloadStore) (w : Workload) (a : Strng) :
    (s.insert w).byUid.lookup a = if a = w.uid then some w else s.byUid.lookup a := by
  show ((s.remove w.uid).2.byUid.insert w.uid w).lookup a = _
  by_cases ha : a = w.uid
  · subst ha
    simp
  · simp [ha, AList.lookup_insert_ne ha, lookup_remove]

lemma mem_uidsOf_insert (h : s.Inv) {svc : NamespacedHostname} {x : Strng} :
    x ∈ uidsOf (s.insert w).byService svc ↔ (x ∈ uidsOf s.byService svc ∧ x ≠ w.uid) ∨ (x = w.uid ∧ svc ∈ w.services) := by
  rw [insert_byService, uidsOf, lookup_foldl_addService _ w.services.keys_nodup]
  split_ifs with hsvc
  · rw [Option.getD_some, List.mem_insert_iff, mem_uidsOf_remove h]
    have : svc ∈ w.services := AList.mem_keys.1 hsvc
    tauto
  · change x ∈ uidsOf _ svc ↔ _
    rw [mem_uidsOf_remove h]
    have : svc ∉ w.services := fun h' => hsvc (AList.mem_keys.2 h')
    tauto

lemma mem_filed_insert (h : s.Inv) {addr : NetworkAddress} {y : Workload} :
    y ∈ filed (s.insert w).byAddr addr ↔ (y ∈ filed s.byAddr addr ∧ y.uid ≠ w.uid) ∨ (y = w ∧ addr ∈ w.addresses) := by
  have hk := Library.Fold.foldl_keyed_add (fun m a x => x ∈ filed m a) (addAddr w) (fun x => x = w)
    (fun _ _ _ _ => mem_filed_addAddr) w.addresses (s.remove w.uid).2.byAddr addr y
  beta_reduce at hk
  rw [insert_byAddr, hk, mem_filed_remove h]
  tauto

theorem Inv.insert (h : s.Inv) (w : Workload) : (s.insert w).Inv where
  uid_eq {a v} hv := by
    rw [lookup_insert] at hv
    split_ifs at hv with ha
    · cases hv
      exact ha.symm
    · exact h.uid_eq hv
  mem_uidsOf {svc x} := by
    rw [mem_uidsOf_insert h, h.mem_uidsOf, lookup_insert]
    by_cases hx : x = w.uid <;> simp [hx]
  sets := by
    rw [insert_byService]
    exact Library.Fold.foldl_invariant (P := SetsOk) (fun _ _ hm => hm.addService) _ _ (h.remove w.uid).sets
  mem_filed {addr y} := by
    rw [mem_filed_insert h, h.mem_filed, lookup_insert]
    by_cases hy : y.uid = w.uid
    · simp only [hy, ne_eq, not_true_eq_false, and_false, if_true, Option.some.injEq, false_or]
      constructor
      · rintro ⟨rfl, ha⟩
        exact ⟨rfl, ha⟩
      · rintro ⟨rfl, ha⟩
        exact ⟨rfl, ha⟩
    · have hyw : y ≠ w := fun e => hy (e ▸ rfl)
      simp [hy, hyw]
  many := by
    rw [insert_byAddr]
    exact Library.Fold.foldl_invariant (P := ManyOk) (fun _ _ hm => hm.addAddr) _ _ (h.remove w.uid).many

lemma findUid_remove (s : WorkloadStore) (uid : Strng) :
    (s.remove uid).2.findUid = Function.update s.findUid uid none := by
  funext a
  rw [findUid, lookup_remove, Function.update_apply]
  rfl

lemma findUid_insert (s : WorkloadStore) (w : Workload) :
    (s.insert w).findUid = Function.update s.findUid w.uid (some w) := by
  funext a
  rw [findUid, lookup_insert, Function.update_apply]
  rfl

end Ops

/-! ### The lookups -/

section Lookups

variable {s : WorkloadStore}

theorem mem_iterByService (h : s.Inv) {svc : NamespacedHostname} {w : Workload} :
    w ∈ s.iterByService svc ↔ s.byUid.lookup w.uid = some w ∧ svc ∈ w.services := by
  unfold iterByService
  rw [List.mem_filterMap]
  constructor
  · rintro ⟨u, hu, hw⟩
    have hwu : w.uid = u := h.uid_eq hw
    subst hwu
    obtain ⟨v, hv, hs⟩ := h.mem_uidsOf.1 hu
    rw [hv] at hw
    cases hw
    exact ⟨hv, hs⟩
  · rintro ⟨hw, hs⟩
    exact ⟨w.uid, h.mem_uidsOf.2 ⟨w, hw, hs⟩, hw⟩

theorem nodup_iterByService (h : s.Inv) (svc : NamespacedHostname) :
    ((s.iterByService svc).map Workload.uid).Nodup := by
  have hnd : (uidsOf s.byService svc).Nodup := by
    unfold uidsOf
    cases hs : s.byService.lookup svc with
    | none => exact List.nodup_nil
    | some set => exact (h.sets _ _ hs).2
  refine List.Nodup.map_on (fun x hx y hy hxy => ?_) (hnd.filterMap fun a a' b hb hb' => ?_)
  · have hx' := ((mem_iterByService h).1 hx).1
    rw [hxy, ((mem_iterByService h).1 hy).1] at hx'
    exact (Option.some.inj hx').symm
  · exact (h.uid_eq hb).symm.trans (h.uid_eq hb')

/-- `find_address` on a store whose indexes agree: a workload with the address whenever there
is one, of the highest preference among those, so never the panic of an empty `Many`. -/
theorem findAddress_spec (h : s.Inv) (addr : NetworkAddress) :
    ((s.findAddress addr).isSome ↔ ∃ w, s.byUid.lookup w.uid = some w ∧ addr ∈ w.addresses) ∧
    ∀ x, s.findAddress addr = some x → (s.byUid.lookup x.uid = some x ∧ addr ∈ x.addresses) ∧
      ∀ y, s.byUid.lookup y.uid = some y → addr ∈ y.addresses →
        WorkloadByAddr.preference y ≤ WorkloadByAddr.preference x := by
  have hfiled : ∀ o, s.byAddr.lookup addr = some o → ∀ y, y ∈ o.workloads ↔
      s.byUid.lookup y.uid = some y ∧ addr ∈ y.addresses := fun o ho y => by
    rw [← h.mem_filed, filed, ho]
    rfl
  unfold findAddress
  cases ho : s.byAddr.lookup addr with
  | none =>
    -- nothing filed: no workload has the address
    refine ⟨?_, fun x hx => ?_⟩
    · simp only [Option.bind_none, Option.isSome_none, Bool.false_eq_true, false_iff, not_exists]
      intro w hw
      have := h.mem_filed.2 hw
      simp [filed, ho] at this
    · cases hx
  | some o =>
    refine ⟨?_, fun x hx => ?_⟩
    · rw [Option.bind_some, WorkloadByAddr.get_isSome]
      constructor
      · intro hne
        obtain ⟨y, hy⟩ := List.exists_mem_of_ne_nil _ hne
        exact ⟨y, (hfiled o ho y).1 hy⟩
      · rintro ⟨y, hy⟩
        exact List.ne_nil_of_mem ((hfiled o ho y).2 hy)
    · obtain ⟨hm, hmax⟩ := WorkloadByAddr.get_spec hx
      exact ⟨(hfiled o ho x).1 hm, fun y hy ha => hmax y ((hfiled o ho y).2 ⟨hy, ha⟩)⟩

def addressedWorkload : Workload := ⟨[[10, 0, 0, 2]], .tcp, .standard, "w", "", "", .healthy, ⟨"", "", ""⟩, "", ∅, 0⟩

theorem findAddress_spec_single :
    (empty.insert addressedWorkload).Inv ∧
      ((((empty.insert addressedWorkload).findAddress ⟨"", [10, 0, 0, 2]⟩).isSome ↔
        ∃ w, (empty.insert addressedWorkload).byUid.lookup w.uid = some w ∧ ⟨"", [10, 0, 0, 2]⟩ ∈ w.addresses) ∧
      ∀ x, (empty.insert addressedWorkload).findAddress ⟨"", [10, 0, 0, 2]⟩ = some x →
        ((empty.insert addressedWorkload).byUid.lookup x.uid = some x ∧ ⟨"", [10, 0, 0, 2]⟩ ∈ x.addresses) ∧
        ∀ y, (empty.insert addressedWorkload).byUid.lookup y.uid = some y → ⟨"", [10, 0, 0, 2]⟩ ∈ y.addresses →
          WorkloadByAddr.preference y ≤ WorkloadByAddr.preference x) :=
  ⟨inv_empty.insert _, findAddress_spec (inv_empty.insert _) _⟩

end Lookups

end WorkloadStore

end AgentGateway.Discovery
