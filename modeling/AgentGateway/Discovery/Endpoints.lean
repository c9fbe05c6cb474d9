import AgentGateway.Discovery.Workloads
import AgentGateway.LoadBalancer.Placement

/-! A service's endpoints agree with the workloads it keeps; inserting, removing and rebucketing
endpoints keep the agreement. -/

namespace AgentGateway.LoadBalancer.EndpointSet

open AgentGateway.Discovery
open AgentGateway.Routing.Types (Strng)

variable {s : EndpointSet Strng Endpoint} {ep : Endpoint} {w : Workload} {r : LocalityRanker} {x : Strng}
  {b : Nat} {p : Bool}

lemma insert_of_bucketFor (h : r.bucketFor w = some b) :
    s.insert ep w r =
      { s with evictedUntil := Function.update s.evictedUntil s.nextInfo none, nextInfo := s.nextInfo + 1 }.event
        (.add ep.workloadUid ⟨ep, s.nextInfo, w.capacity⟩ b) := by
  simp [insert, h]

lemma insert_of_bucketFor_none (h : r.bucketFor w = none) : s.insert ep w r = s := by
  simp [insert, h]

@[simp] lemma length_insert : (s.insert ep w r).buckets.length = s.buckets.length := by
  cases h : r.bucketFor w with
  | none => rw [insert_of_bucketFor_none h]
  | some b => rw [insert_of_bucketFor h, length_event]

lemma mem_keysAt_insert (hb : ∀ b, r.bucketFor w = some b → b < s.buckets.length) :
    x ∈ (s.insert ep w r).keysAt b p ↔
      (r.bucketFor w = some b ∧ p = true ∧ x = ep.workloadUid) ∨
        (¬(r.bucketFor w = some b ∧ x = ep.workloadUid) ∧ x ∈ s.keysAt b p) := by
  cases h : r.bucketFor w with
  | none =>
    rw [insert_of_bucketFor_none h]
    simp
  | some b' =>
    rw [insert_of_bucketFor h]
    -- the record update leaves the buckets, so the keys, as they were
    set s' : EndpointSet Strng Endpoint :=
      { s with evictedUntil := Function.update s.evictedUntil s.nextInfo none, nextInfo := s.nextInfo + 1 }
    have hk : ∀ b p, s'.keysAt b p = s.keysAt b p := fun _ _ => rfl
    rw [mem_keysAt_add (s := s') (hb b' h), hk, Option.some.injEq]
    by_cases hbb : b = b'
    · subst hbb
      rfl
    · simp [hbb, Ne.symm hbb]

lemma mem_entriesAt_insert {e : Strng × EndpointWithInfo Endpoint Nat}
    (hb : ∀ b, r.bucketFor w = some b → b < s.buckets.length) (he : e ∈ (s.insert ep w r).entriesAt b p) :
    (e.1 = ep.workloadUid ∧ e.2.endpoint = ep) ∨ e ∈ s.entriesAt b p := by
  cases h : r.bucketFor w with
  | none =>
    rw [insert_of_bucketFor_none h] at he
    exact .inr he
  | some b' =>
    rw [insert_of_bucketFor h] at he
    set s' : EndpointSet Strng Endpoint :=
      { s with evictedUntil := Function.update s.evictedUntil s.nextInfo none, nextInfo := s.nextInfo + 1 }
    rcases mem_entriesAt_add (s := s') (hb b' h) he with he | he
    · subst he
      exact .inl ⟨rfl, rfl⟩
    · exact .inr he

lemma KeysUnique.insert (hu : s.KeysUnique) (hb : ∀ b, r.bucketFor w = some b → b < s.buckets.length)
    (hk : ∀ b p, ep.workloadUid ∈ s.keysAt b p → r.bucketFor w = some b) : (s.insert ep w r).KeysUnique := by
  cases h : r.bucketFor w with
  | none =>
    rw [insert_of_bucketFor_none h]
    exact hu
  | some b' =>
    rw [insert_of_bucketFor h]
    exact KeysUnique.add hu (hb b' h) fun b p hx => Option.some.inj ((hk b p hx).symm.trans h)

end AgentGateway.LoadBalancer.EndpointSet

namespace AgentGateway.Discovery

open AgentGateway.Routing.Types (Strng NamespacedHostname)
open AgentGateway.LoadBalancer

/-- A service keeps an endpoint for a workload, with this source of locality: the workload names the
service, the service admits its health, and the ranker gives it a bucket. -/
def Included (src : Option Workload) (svc : Service) (w : Workload) : Prop :=
  svc.namespacedHostname ∈ w.services ∧ svc.shouldIncludeEndpoint w.status = true ∧
    ((LocalityRanker.mk svc.loadBalancer src).bucketFor w).isSome

/-- A service's endpoints agree with the workloads `look` finds by UID: as many buckets as its
ranker has levels, every entry under the UID of its endpoint, every key in one pool of one bucket,
and the keys exactly the UIDs of the workloads the service keeps, each in the bucket the ranker
gives it. -/
structure Agrees (look : Strng → Option Workload) (src : Option Workload) (svc : Service) : Prop where
  levels : svc.endpoints.buckets.length = (LocalityRanker.mk svc.loadBalancer src).priorityLevels
  keyed : ∀ b p e, e ∈ svc.endpoints.entriesAt b p → e.2.endpoint.workloadUid = e.1
  unique : svc.endpoints.KeysUnique
  sound : ∀ uid b p, uid ∈ svc.endpoints.keysAt b p →
    ∃ w, look uid = some w ∧ Included src svc w ∧ (LocalityRanker.mk svc.loadBalancer src).bucketFor w = some b
  complete : ∀ uid w, look uid = some w → Included src svc w → ∃ b p, uid ∈ svc.endpoints.keysAt b p

variable {look look' : Strng → Option Workload} {src : Option Workload} {svc : Service} {w : Workload}
  {uid : Strng}

lemma priorityLevels_source (lb : Option LoadBalancer) (src src' : Option Workload) :
    (LocalityRanker.mk lb src).priorityLevels = (LocalityRanker.mk lb src').priorityLevels := rfl

lemma included_congr {svc' : Service} (hn : svc'.namespacedHostname = svc.namespacedHostname)
    (hl : svc'.loadBalancer = svc.loadBalancer) : Included src svc' = Included src svc := by
  funext v
  simp only [Included, Service.shouldIncludeEndpoint, hn, hl]

lemma Agrees.congr {svc' : Service} (h : Agrees look src svc) (hn : svc'.namespacedHostname = svc.namespacedHostname)
    (hl : svc'.loadBalancer = svc.loadBalancer) (he : svc'.endpoints = svc.endpoints) : Agrees look src svc' := by
  have hi : Included src svc' = Included src svc := included_congr hn hl
  refine ⟨?_, ?_, ?_, ?_, ?_⟩
  · rw [he, hl]
    exact h.levels
  · rw [he]
    exact h.keyed
  · rw [he]
    exact h.unique
  · rw [he, hi, hl]
    exact h.sound
  · rw [he, hi]
    exact h.complete

lemma Agrees.mem_keysAt_of {svc' : Service} (h : Agrees look src svc) (h' : Agrees look src svc')
    (hn : svc'.namespacedHostname = svc.namespacedHostname) (hl : svc'.loadBalancer = svc.loadBalancer)
    {b : Nat} {p : Bool} (hk : uid ∈ svc.endpoints.keysAt b p) : ∃ p', uid ∈ svc'.endpoints.keysAt b p' := by
  obtain ⟨w, hw, hi, hb⟩ := h.sound uid b p hk
  obtain ⟨b', p', hk'⟩ := h'.complete uid w hw ((included_congr hn hl).symm ▸ hi)
  obtain ⟨w', hw', -, hb'⟩ := h'.sound uid b' p' hk'
  rw [hw] at hw'
  cases hw'
  rw [hl, hb] at hb'
  cases hb'
  exact ⟨p', hk'⟩

/-- Two endpoint sets that agree with the same workloads, under one name and load balancer, hold
each UID in the same bucket. -/
theorem Agrees.mem_keysAt_iff {svc' : Service} (h : Agrees look src svc) (h' : Agrees look src svc')
    (hn : svc'.namespacedHostname = svc.namespacedHostname) (hl : svc'.loadBalancer = svc.loadBalancer) (b : Nat) :
    (∃ p, uid ∈ svc.endpoints.keysAt b p) ↔ ∃ p, uid ∈ svc'.endpoints.keysAt b p :=
  ⟨fun hx => hx.elim fun _ hk => h.mem_keysAt_of h' hn hl hk,
    fun hx => hx.elim fun _ hk => h'.mem_keysAt_of h hn.symm hl.symm hk⟩

lemma Agrees.of_lookup (h : Agrees look src svc)
    (heq : ∀ a, look' a = look a ∨
      ((∀ b p, a ∉ svc.endpoints.keysAt b p) ∧ ∀ v, look' a = some v → ¬ Included src svc v)) :
    Agrees look' src svc where
  levels := h.levels
  keyed := h.keyed
  unique := h.unique
  sound a b p ha := by
    rcases heq a with he | ⟨hno, -⟩
    · rw [he]
      exact h.sound a b p ha
    · exact absurd ha (hno b p)
  complete a v hv hi := by
    rcases heq a with he | ⟨-, hno⟩
    · rw [he] at hv
      exact h.complete a v hv hi
    · exact absurd hi (hno v hv)

lemma Agrees.lt_levels_of_bucketFor (h : Agrees look src svc) {b : Nat}
    (hb : (LocalityRanker.mk svc.loadBalancer src).bucketFor w = some b) : b < svc.endpoints.buckets.length :=
  h.levels ▸ LocalityRanker.bucketFor_lt _ hb

/-- The endpoint `insert_endpoint` puts into a service that names the workload and exists: by the
service's health policy and ranker, or nothing. -/
def Service.withEndpoint (svc : Service) (ep : Endpoint) (w : Workload) (src : Option Workload) : Service :=
  { svc with endpoints := if svc.shouldIncludeEndpoint ep.status then
      svc.endpoints.insert ep w ⟨svc.loadBalancer, src⟩ else svc.endpoints }

/-- Inserting a workload's endpoint into a service it names, when the UID was absent or already held
that workload, makes the service agree with the workloads that have it. -/
theorem Agrees.withEndpoint (h : Agrees look src svc) (hw : w.uid = uid)
    (hk : svc.namespacedHostname ∈ w.services) (hold : look uid = none ∨ look uid = some w) (ports : Ports) :
    Agrees (Function.update look uid (some w)) src (svc.withEndpoint ⟨uid, ports, w.status⟩ w src) := by
  set r : LocalityRanker := ⟨svc.loadBalancer, src⟩
  have hb : ∀ b, r.bucketFor w = some b → b < svc.endpoints.buckets.length := fun b hb =>
    h.lt_levels_of_bucketFor hb
  -- where the UID already is, it is in the bucket of this workload
  have huid : ∀ b p, uid ∈ svc.endpoints.keysAt b p → r.bucketFor w = some b := by
    intro b p hx
    obtain ⟨v, hv, -, hvb⟩ := h.sound uid b p hx
    rcases hold with hn | hs
    · rw [hn] at hv
      cases hv
    · rw [hs] at hv
      cases hv
      exact hvb
  have hlook : ∀ a, a ≠ uid → Function.update look uid (some w) a = look a := fun a ha => Function.update_of_ne ha _ _
  unfold Service.withEndpoint
  by_cases hinc : svc.shouldIncludeEndpoint w.status = true
  · simp only [hinc, if_true]
    refine ⟨by simpa using h.levels, fun b p e he => ?_, h.unique.insert hb huid, fun a b p ha => ?_,
      fun a v hv hi => ?_⟩
    · rcases EndpointSet.mem_entriesAt_insert hb he with ⟨he1, he2⟩ | he
      · rw [he2, he1]
      · exact h.keyed b p e he
    · rcases (EndpointSet.mem_keysAt_insert hb).1 ha with ⟨hbw, -, rfl⟩ | ⟨-, ha⟩
      · exact ⟨w, Function.update_self _ _ _, ⟨hk, hinc, by rw [hbw]; rfl⟩, hbw⟩
      · obtain ⟨v, hv, hi, hvb⟩ := h.sound a b p ha
        by_cases hau : a = uid
        · rw [hau] at hv
          rcases hold with hn | hs
          · rw [hn] at hv
            cases hv
          · have hvw : v = w := Option.some.inj (hv.symm.trans hs)
            exact ⟨v, by rw [hau, Function.update_self, hvw], hi, hvb⟩
        · exact ⟨v, by rw [hlook a hau]; exact hv, hi, hvb⟩
    · by_cases hau : a = uid
      · subst hau
        simp only [Function.update_self, Option.some.injEq] at hv
        subst hv
        obtain ⟨b, hbw⟩ := Option.isSome_iff_exists.1 hi.2.2
        exact ⟨b, true, (EndpointSet.mem_keysAt_insert hb).2 (.inl ⟨hbw, rfl, rfl⟩)⟩
      · rw [hlook a hau] at hv
        obtain ⟨b, p, ha⟩ := h.complete a v hv hi
        exact ⟨b, p, (EndpointSet.mem_keysAt_insert hb).2 (.inr ⟨fun h' => hau h'.2, ha⟩)⟩
  · -- the health policy keeps the workload out: the endpoints stay
    simp only [hinc, Bool.false_eq_true, if_false]
    refine (h.of_lookup fun a => ?_).congr rfl rfl rfl
    by_cases hau : a = uid
    · subst hau
      rcases hold with hn | hs
      · refine .inr ⟨fun b p ha => ?_, fun v hv hi => ?_⟩
        · obtain ⟨v, hv, -⟩ := h.sound a b p ha
          rw [hn] at hv
          cases hv
        · simp only [Function.update_self, Option.some.injEq] at hv
          subst hv
          exact hinc hi.2.1
      · left
        rw [Function.update_self, hs]
    · exact .inl (hlook a hau)

lemma Agrees.of_not_mem (h : Agrees look src svc) (hk : svc.namespacedHostname ∉ w.services)
    (hold : look uid = none ∨ look uid = some w) :
    Agrees (Function.update look uid (some w)) src svc := by
  refine h.of_lookup fun a => ?_
  by_cases hau : a = uid
  · subst hau
    rcases hold with hn | hs
    · refine .inr ⟨fun b p ha => ?_, fun v hv hi => ?_⟩
      · obtain ⟨v, hv, -⟩ := h.sound a b p ha
        rw [hn] at hv
        cases hv
      · simp only [Function.update_self, Option.some.injEq] at hv
        subst hv
        exact hk hi.1
    · left
      rw [Function.update_self, hs]
  · exact .inl (Function.update_of_ne hau _ _)

lemma Agrees.erase_of_not_mem (h : Agrees look src svc) {prev : Workload} (hprev : look uid = some prev)
    (hk : svc.namespacedHostname ∉ prev.services) : Agrees (Function.update look uid none) src svc := by
  refine h.of_lookup fun a => ?_
  by_cases hau : a = uid
  · subst hau
    refine .inr ⟨fun b p ha => ?_, fun v hv => by simp at hv⟩
    obtain ⟨v, hv, hi, -⟩ := h.sound a b p ha
    rw [hprev] at hv
    cases hv
    exact hk hi.1
  · exact .inl (Function.update_of_ne hau _ _)

theorem Agrees.removeUid (h : Agrees look src svc) (uid : Strng) :
    Agrees (Function.update look uid none) src { svc with endpoints := svc.endpoints.remove uid } where
  levels := by simpa [EndpointSet.remove] using h.levels
  keyed b p e he := h.keyed b p e (EndpointSet.mem_entriesAt_delete he)
  unique := h.unique.delete uid
  sound a b p ha := by
    obtain ⟨ha, hau⟩ := (EndpointSet.mem_keysAt_delete h.unique).1 ha
    obtain ⟨v, hv, hi, hvb⟩ := h.sound a b p ha
    exact ⟨v, by rw [Function.update_of_ne hau]; exact hv, hi, hvb⟩
  complete a v hv hi := by
    by_cases hau : a = uid
    · rw [hau, Function.update_self] at hv
      cases hv
    · rw [Function.update_of_ne hau] at hv
      obtain ⟨b, p, ha⟩ := h.complete a v hv hi
      exact ⟨b, p, (EndpointSet.mem_keysAt_delete h.unique).2 ⟨ha, hau⟩⟩

@[simp] lemma Store.rebucketService_loadBalancer (ws : WorkloadStore) (source : Workload) (svc : Service) :
    (Store.rebucketService ws source svc).loadBalancer = svc.loadBalancer := rfl

lemma included_rebucketService (ws : WorkloadStore) (source : Workload) (svc : Service) (src' : Option Workload) :
    Included src' (Store.rebucketService ws source svc) = Included src' svc := rfl

/-- While the source is unknown every workload has bucket 0, so a service agreeing then holds every
workload it admits; rebucketing against the source, once known, or against the same source, makes it
agree with that source. -/
theorem Agrees.rebucketService {ws : WorkloadStore} (h : Agrees ws.findUid src svc) {source : Workload}
    (hsrc : src = none ∨ src = some source) : Agrees ws.findUid (some source) (Store.rebucketService ws source svc) := by
  set r : LocalityRanker := ⟨svc.loadBalancer, some source⟩
  have hlen : (Store.rebucketService ws source svc).endpoints.buckets.length = svc.endpoints.buckets.length := by
    simp [Store.rebucketService]
  refine ⟨?_, fun b p e he => ?_, h.unique.rebucket _, fun a b p ha => ?_, fun a v hv hi => ?_⟩
  · rw [hlen, Store.rebucketService_loadBalancer]
    exact h.levels.trans (priorityLevels_source _ _ _)
  · obtain ⟨b₀, he, -⟩ := EndpointSet.mem_entriesAt_rebucket he
    exact h.keyed b₀ p e he
  · obtain ⟨-, b₀, v, hv, hr⟩ := EndpointSet.mem_keysAt_rebucket.1 ha
    have hva : v.endpoint.workloadUid = a := h.keyed b₀ p (a, v) hv
    rw [hva] at hr
    obtain ⟨w, hw, hbw⟩ := Option.bind_eq_some_iff.1 hr
    obtain ⟨w', hw', hi, -⟩ := h.sound a b₀ p (List.mem_map_of_mem (f := Prod.fst) hv)
    rw [hw] at hw'
    cases hw'
    refine ⟨w, hw, ?_, hbw⟩
    rw [included_rebucketService]
    exact ⟨hi.1, hi.2.1, by rw [hbw]; rfl⟩
  · rw [included_rebucketService] at hi
    obtain ⟨b, hbv⟩ := Option.isSome_iff_exists.1 hi.2.2
    -- the workload was held before: with no source every admitted workload is in bucket 0
    have hi₀ : Included src svc v := by
      refine ⟨hi.1, hi.2.1, ?_⟩
      rcases hsrc with rfl | rfl
      · rfl
      · exact hi.2.2
    obtain ⟨b₀, p, ha⟩ := h.complete a v hv hi₀
    obtain ⟨e, he, rfl⟩ := List.mem_map.1 ha
    have hea : e.2.endpoint.workloadUid = e.1 := h.keyed b₀ p e he
    refine ⟨b, p, EndpointSet.mem_keysAt_rebucket.2 ⟨?_, b₀, e.2, he, ?_⟩⟩
    · rw [h.levels, priorityLevels_source _ _ (some source)]
      exact LocalityRanker.bucketFor_lt _ hbv
    · rw [hea]
      exact Option.bind_eq_some_iff.2 ⟨v, hv, hbv⟩

/-! ### The rebuild of the slow path -/

lemma buildStep_of_lookup {service : Service} {eps : EndpointSet Strng Endpoint} {ports : Ports}
    (h : w.services.lookup service.namespacedHostname = some ports) :
    { service with endpoints := Store.buildStep service src eps w } =
      Service.withEndpoint { service with endpoints := eps } ⟨w.uid, ports, w.status⟩ w src := by
  unfold Store.buildStep Service.withEndpoint
  rw [h]
  have hs : ({ service with endpoints := eps } : Service).shouldIncludeEndpoint w.status =
      service.shouldIncludeEndpoint w.status := rfl
  simp only [hs]
  cases service.shouldIncludeEndpoint w.status <;> rfl

lemma agrees_newEmpty (service : Service) (src : Option Workload) :
    Agrees (fun _ => none) src
      { service with endpoints := EndpointSet.newEmpty (LocalityRanker.mk service.loadBalancer src).priorityLevels } where
  levels := by simp
  keyed b p e he := by simp at he
  unique := EndpointSet.keysUnique_newEmpty _
  sound a b p ha := by simp at ha
  complete a v hv := by cases hv

/-- The rebuild of the slow path agrees with the workload store: it visits every workload that names
the service once, and inserts each as `insert_endpoint` would. -/
theorem agrees_buildEndpoints {ws : WorkloadStore} (h : ws.Inv) (service : Service) (src : Option Workload) :
    Agrees ws.findUid src { service with endpoints := Store.buildEndpoints ws service src } := by
  set L := ws.iterByService service.namespacedHostname with hL
  -- the workloads visited so far, by UID
  let lookPre : List Workload → Strng → Option Workload := fun P a => if a ∈ P.map Workload.uid then ws.findUid a else none
  have hmem : ∀ v ∈ L, ws.findUid v.uid = some v ∧ service.namespacedHostname ∈ v.services := fun v hv =>
    (WorkloadStore.mem_iterByService h).1 hv
  -- the fold over what is left, from the endpoints built for what was visited
  have hrun : ∀ (R P : List Workload) (eps : EndpointSet Strng Endpoint), P ++ R = L →
      Agrees (lookPre P) src { service with endpoints := eps } →
      Agrees (lookPre L) src { service with endpoints := R.foldl (Store.buildStep service src) eps } := by
    intro R
    induction R with
    | nil =>
      intro P eps hPR hP
      simpa [← hPR] using hP
    | cons v R ih =>
      intro P eps hPR hP
      have hvL : v ∈ L := hPR ▸ List.mem_append_right P List.mem_cons_self
      obtain ⟨hfind, hk⟩ := hmem v hvL
      obtain ⟨ports, hports⟩ := Option.isSome_iff_exists.1 (AList.lookup_isSome.2 hk)
      -- the UIDs of the list are distinct, so this one was not visited yet
      have hfresh : v.uid ∉ P.map Workload.uid := by
        have hnd := WorkloadStore.nodup_iterByService h service.namespacedHostname
        rw [← hL, ← hPR, List.map_append, List.map_cons] at hnd
        exact fun hv => (List.nodup_append.1 hnd).2.2 _ hv _ List.mem_cons_self rfl
      have hstep := hP.withEndpoint rfl hk (.inl (if_neg hfresh)) ports
      rw [← buildStep_of_lookup hports] at hstep
      refine ih (P ++ [v]) _ (by simp [hPR]) (hstep.of_lookup fun a => .inl ?_)
      by_cases hav : a = v.uid
      · simp [lookPre, hav, hfind]
      · simp [lookPre, hav, Ne.symm hav]
  have hL' := hrun L [] _ rfl ((agrees_newEmpty service src).of_lookup fun a => .inl (by simp [lookPre]))
  refine hL'.of_lookup fun a => ?_
  by_cases ha : a ∈ L.map Workload.uid
  · exact .inl (if_pos ha).symm
  · -- a workload that is not visited does not name the service
    refine .inr ⟨fun b p hab => ?_, fun v hv hi => ha ?_⟩
    · obtain ⟨v, hv, -⟩ := hL'.sound a b p hab
      have hnone : lookPre L a = none := if_neg ha
      rw [hnone] at hv
      cases hv
    · have hva : v.uid = a := h.uid_eq hv
      exact hva ▸ List.mem_map_of_mem ((WorkloadStore.mem_iterByService h).2 ⟨hva ▸ hv, hi.1⟩)

end AgentGateway.Discovery
