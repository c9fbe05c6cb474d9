import AgentGateway.Routing.RouteTable

/-! The representation invariant of `RouteSet`, kept by `insert` and `remove`. -/

namespace AgentGateway.Routing.RouteSetInvariant

open Library.BinarySearch AgentGateway.Routing.Types AgentGateway.Routing.RouteTable

abbrev Buckets := AList fun _ : HostnameMatch => List SingleRouteMatch
abbrev Routes := AList fun _ : RouteKey => Route

def resolveKey (all : Routes) (e : SingleRouteMatch) : RouteMatch × RouteKey :=
  (((all.lookup e.key).bind fun r => r.matches[e.index]?).getD default, e.key)

def expectedCount (all : Routes) (h : HostnameMatch) (k : RouteKey) (i : ℕ) : ℕ :=
  match all.lookup k with
  | some r => if i < r.matches.length then (hostnameMatchers r).count h else 0
  | none => 0

def bucket (inner : Buckets) (h : HostnameMatch) : List SingleRouteMatch :=
  (inner.lookup h).getD []

def SortedBucket (all : Routes) (v : List SingleRouteMatch) : Prop :=
  v.Pairwise fun a b => (compareRoute (resolveKey all a) (resolveKey all b)).isLE

structure Invariant (rs : RouteSet) : Prop where
  key_eq : ∀ k r, rs.all.lookup k = some r → r.key = k
  count_eq : ∀ h e, (bucket rs.inner h).count e = expectedCount rs.all h e.key e.index
  empty_bucket : ∀ h, rs.inner.lookup h = some [] →
    ∃ k r, rs.all.lookup k = some r ∧ h ∈ hostnameMatchers r ∧ r.matches = []
  sorted : ∀ h, SortedBucket rs.all (bucket rs.inner h)

lemma invariant_default : Invariant RouteSet.default where
  key_eq k r h := by simp [RouteSet.default] at h
  count_eq h e := by simp [RouteSet.default, bucket, expectedCount]
  empty_bucket h hh := by simp [RouteSet.default] at hh
  sorted h := by simp [RouteSet.default, bucket, SortedBucket]

/-! ## Entries and their routes -/

lemma expectedCount_pos {all : Routes} {h : HostnameMatch} {k : RouteKey} {i : ℕ}
    (hc : 0 < expectedCount all h k i) :
    ∃ r, all.lookup k = some r ∧ i < r.matches.length ∧ h ∈ hostnameMatchers r := by
  unfold expectedCount at hc
  split at hc
  · next r hr =>
    split_ifs at hc with hi
    · exact ⟨r, hr, hi, List.count_pos_iff.mp hc⟩
    · omega
  · omega

lemma Invariant.resolves {rs : RouteSet} (hinv : Invariant rs) {h : HostnameMatch}
    {e : SingleRouteMatch} (he : e ∈ bucket rs.inner h) :
    ∃ r, rs.all.lookup e.key = some r ∧ e.index < r.matches.length ∧ h ∈ hostnameMatchers r := by
  apply expectedCount_pos
  rw [← hinv.count_eq h e]
  exact List.count_pos_iff.mpr he

lemma Invariant.key_ne_of_mem {rs : RouteSet} (hinv : Invariant rs) {h : HostnameMatch}
    {e : SingleRouteMatch} {k : RouteKey} (hk : rs.all.lookup k = none) (he : e ∈ bucket rs.inner h) :
    e.key ≠ k := by
  rintro rfl
  obtain ⟨r, hr, -⟩ := hinv.resolves he
  simp [hk] at hr

lemma sortedBucket_congr {all all' : Routes} {v : List SingleRouteMatch}
    (hv : ∀ e ∈ v, resolveKey all' e = resolveKey all e) (hs : SortedBucket all v) :
    SortedBucket all' v := by
  refine hs.imp_of_mem fun {a b} ha hb hab => ?_
  rwa [hv a ha, hv b hb]

lemma resolveKey_erase {all : Routes} {k : RouteKey} {e : SingleRouteMatch} (he : e.key ≠ k) :
    resolveKey (all.erase k) e = resolveKey all e := by
  simp [resolveKey, AList.lookup_erase_ne he]

lemma resolveKey_insert {all : Routes} {k : RouteKey} {r : Route} {e : SingleRouteMatch}
    (he : e.key ≠ k) : resolveKey (all.insert k r) e = resolveKey all e := by
  simp [resolveKey, AList.lookup_insert_ne he]

/-! ## `remove` -/

lemma lookup_removeFromBucket (key : RouteKey) (inner : Buckets) (h h' : HostnameMatch) :
    (RouteSet.removeFromBucket key inner h).lookup h' =
      if h' = h then (inner.lookup h).bind fun v =>
        if (v.filter fun r => r.key != key).isEmpty then none else some (v.filter fun r => r.key != key)
      else inner.lookup h' := by
  unfold RouteSet.removeFromBucket
  cases hl : inner.lookup h with
  | none =>
    split_ifs with hh
    · subst hh
      simp [hl]
    · rfl
  | some v =>
    simp only [Option.bind_some]
    split_ifs with hv hh hh
    · subst hh
      exact AList.lookup_erase _ _
    · exact AList.lookup_erase_ne hh
    · subst hh
      exact AList.lookup_insert _
    · exact AList.lookup_insert_ne hh

lemma bucket_removeFromBucket (key : RouteKey) (inner : Buckets) (h h' : HostnameMatch) :
    bucket (RouteSet.removeFromBucket key inner h) h' =
      if h' = h then (bucket inner h').filter fun r => r.key != key else bucket inner h' := by
  rw [bucket, lookup_removeFromBucket]
  split_ifs with hh
  · subst hh
    cases hl : inner.lookup h' with
    | none => simp [bucket, hl]
    | some v =>
      simp only [Option.bind_some, bucket, hl, Option.getD_some]
      split_ifs with hv
      · simpa using (List.isEmpty_iff.mp hv).symm
      · rfl
  · rfl

lemma bucket_foldl_removeFromBucket (key : RouteKey) (hs : List HostnameMatch) :
    ∀ (inner : Buckets) (h : HostnameMatch),
      bucket (hs.foldl (RouteSet.removeFromBucket key) inner) h =
        if h ∈ hs then (bucket inner h).filter fun r => r.key != key else bucket inner h := by
  induction hs with
  | nil => simp
  | cons h₀ hs ih =>
    intro inner h
    rw [List.foldl_cons, ih, bucket_removeFromBucket]
    by_cases hh : h = h₀
    · subst hh
      simp [List.filter_filter]
    · by_cases hm : h ∈ hs <;> simp [hh, hm]

lemma lookup_foldl_removeFromBucket_ne_nil (key : RouteKey) (hs : List HostnameMatch) :
    ∀ (inner : Buckets) (h : HostnameMatch),
      (hs.foldl (RouteSet.removeFromBucket key) inner).lookup h = some [] →
        h ∉ hs ∧ inner.lookup h = some [] := by
  induction hs with
  | nil => simp
  | cons h₀ hs ih =>
    intro inner h hh
    rw [List.foldl_cons] at hh
    obtain ⟨hn, hl⟩ := ih _ h hh
    rw [lookup_removeFromBucket] at hl
    split_ifs at hl with he
    · subst he
      cases hv : inner.lookup h with
      | none => simp [hv] at hl
      | some v =>
        simp only [hv, Option.bind_some] at hl
        split_ifs at hl with hv'
        rw [Option.some.inj hl] at hv'
        simp at hv'
    · exact ⟨by simp [he, hn], hl⟩

theorem invariant_remove {rs : RouteSet} (hinv : Invariant rs) (key : RouteKey) :
    Invariant (rs.remove key) := by
  unfold RouteSet.remove
  cases hold : rs.all.lookup key with
  | none => exact hinv
  | some old =>
    have hbucket := bucket_foldl_removeFromBucket key (hostnameMatchers old) rs.inner
    constructor
    · intro k r hr
      by_cases hk : k = key
      · subst hk
        simp [AList.lookup_erase] at hr
      · exact hinv.key_eq k r (by rwa [AList.lookup_erase_ne hk] at hr)
    · intro h e
      rw [hbucket]
      by_cases hk : e.key = key
      · -- every entry of the removed route is gone, from every bucket it was filed under
        have hexp : expectedCount (rs.all.erase key) h e.key e.index = 0 := by
          rw [expectedCount, hk, AList.lookup_erase]
        rw [hexp]
        split_ifs with hm
        · exact List.count_eq_zero.mpr fun he => by simp [hk] at he
        · rw [hinv.count_eq, expectedCount, hk, hold]
          simp [List.count_eq_zero.mpr hm]
      · have hexp : expectedCount (rs.all.erase key) h e.key e.index =
            expectedCount rs.all h e.key e.index := by
          simp [expectedCount, AList.lookup_erase_ne hk]
        rw [hexp, ← hinv.count_eq]
        split_ifs
        · exact List.count_filter (by simpa using hk)
        · rfl
    · intro h hh
      obtain ⟨hn, hl⟩ := lookup_foldl_removeFromBucket_ne_nil key _ rs.inner h hh
      obtain ⟨k, r, hr, hm, hnil⟩ := hinv.empty_bucket h hl
      have hk : k ≠ key := by
        rintro rfl
        rw [hold] at hr
        cases hr
        exact hn hm
      exact ⟨k, r, by rwa [AList.lookup_erase_ne hk], hm, hnil⟩
    · intro h
      rw [hbucket]
      split_ifs with hm
      · refine sortedBucket_congr (fun e he => ?_) ((hinv.sorted h).sublist List.filter_sublist)
        exact resolveKey_erase (by simpa using (List.mem_filter.mp he).2)
      · -- an untouched bucket holds no entry of the removed route
        refine sortedBucket_congr (fun e he => resolveKey_erase ?_) (hinv.sorted h)
        rintro hk
        obtain ⟨r, hr, -, hmr⟩ := hinv.resolves he
        rw [hk, hold] at hr
        cases hr
        exact hm hmr

/-! ## `insert` -/

def BucketResolves (all : Routes) (v : List SingleRouteMatch) : Prop :=
  ∀ e ∈ v, ∃ r, all.lookup e.key = some r ∧ e.index < r.matches.length

lemma resolveKey_of_lookup {all : Routes} {e : SingleRouteMatch} {r : Route} {m : RouteMatch}
    (hr : all.lookup e.key = some r) (hm : r.matches[e.index]? = some m) :
    resolveKey all e = (m, e.key) := by
  simp [resolveKey, hr, hm]

lemma existingOrder_eq {all : Routes} {m : RouteMatch} {key : RouteKey} {e : SingleRouteMatch}
    {r : Route} (hr : all.lookup e.key = some r) (hi : e.index < r.matches.length) :
    RouteSet.existingOrder all m key e = some (compareRoute (resolveKey all e) (m, key)) := by
  rw [resolveKey_of_lookup hr (List.getElem?_eq_getElem hi)]
  simp [RouteSet.existingOrder, hr, List.getElem?_eq_getElem hi,
    ← Std.OrientedCmp.eq_swap]

lemma insertMatch_spec {all : Routes} {r : Route} {v : List SingleRouteMatch} {m : RouteMatch}
    {i : ℕ} (hr : all.lookup r.key = some r) (hm : r.matches[i]? = some m)
    (hres : BucketResolves all v) (hs : SortedBucket all v) :
    ∃ p ≤ v.length, RouteSet.insertMatch all r.key v (m, i) = some (v.insertIdx p ⟨r.key, i⟩) ∧
      SortedBucket all (v.insertIdx p ⟨r.key, i⟩) := by
  let g := fun e => compareRoute (resolveKey all e) (m, r.key)
  have hf : ∀ e ∈ v, RouteSet.existingOrder all m r.key e = some (g e) := by
    intro e he
    obtain ⟨r', hr', hi'⟩ := hres e he
    exact existingOrder_eq hr' hi'
  have hp : Partitioned g v :=
    List.pairwise_map.mp (partitioned_of_sorted (List.pairwise_map.mpr hs) (m, r.key))
  obtain ⟨res, hbs, hle, hbefore, hafter⟩ := binarySearchBy_spec hf hp
  have hnew : resolveKey all ⟨r.key, i⟩ = (m, r.key) := resolveKey_of_lookup hr hm
  refine ⟨position res, hle, by simp [RouteSet.insertMatch, hbs], ?_⟩
  refine pairwise_insertIdx hs hle (fun j y hj hy => ?_) (fun j y hj hy => ?_)
  · rw [hnew]
    exact Ordering.ne_gt_iff_isLE.mp (hbefore j y hj hy)
  · rw [hnew, ← Ordering.ne_gt_iff_isLE, Std.OrientedCmp.gt_iff_lt]
    exact hafter j y hj hy

lemma count_insertIdx {v : List SingleRouteMatch} {p : ℕ} (hp : p ≤ v.length)
    (x e : SingleRouteMatch) : (v.insertIdx p x).count e = v.count e + if x = e then 1 else 0 := by
  rw [(List.perm_insertIdx x v hp).count_eq, List.count_cons]
  simp [beq_iff_eq]

lemma bucketResolves_insertIdx {all : Routes} {v : List SingleRouteMatch} {p : ℕ}
    (hp : p ≤ v.length) {x : SingleRouteMatch} (hres : BucketResolves all v)
    (hx : ∃ r, all.lookup x.key = some r ∧ x.index < r.matches.length) :
    BucketResolves all (v.insertIdx p x) := by
  intro e he
  rcases (List.mem_insertIdx hp).mp he with rfl | he
  · exact hx
  · exact hres e he

lemma foldlM_insertMatch_spec {all : Routes} {r : Route} (hr : all.lookup r.key = some r) :
    ∀ (l : List (RouteMatch × ℕ)) (v : List SingleRouteMatch), (∀ mi ∈ l, r.matches[mi.2]? = some mi.1) →
      BucketResolves all v → SortedBucket all v →
      ∃ v', l.foldlM (RouteSet.insertMatch all r.key) v = some v' ∧ BucketResolves all v' ∧
        SortedBucket all v' ∧
        ∀ e, v'.count e = v.count e + (l.map fun mi => (⟨r.key, mi.2⟩ : SingleRouteMatch)).count e := by
  intro l
  induction l with
  | nil =>
    intro v _ hres hs
    exact ⟨v, rfl, hres, hs, by simp⟩
  | cons mi l ih =>
    intro v hl hres hs
    obtain ⟨m, i⟩ := mi
    have hm := hl (m, i) List.mem_cons_self
    obtain ⟨p, hp, hins, hs'⟩ := insertMatch_spec hr hm hres hs
    have hres' : BucketResolves all (v.insertIdx p ⟨r.key, i⟩) :=
      bucketResolves_insertIdx hp hres ⟨r, hr, (List.getElem?_eq_some_iff.mp hm).1⟩
    obtain ⟨v', hfold, hres'', hs'', hcount⟩ :=
      ih _ (fun mi hmi => hl mi (List.mem_cons_of_mem _ hmi)) hres' hs'
    refine ⟨v', by simp [hins, hfold], hres'', hs'', fun e => ?_⟩
    rw [hcount, count_insertIdx hp, List.map_cons, List.count_cons]
    simp only [beq_iff_eq]
    omega

lemma count_map_zipIdx (r : Route) (e : SingleRouteMatch) :
    (r.matches.zipIdx.map fun mi => (⟨r.key, mi.2⟩ : SingleRouteMatch)).count e =
      if e.key = r.key ∧ e.index < r.matches.length then 1 else 0 := by
  have hmap : (r.matches.zipIdx.map fun mi => (⟨r.key, mi.2⟩ : SingleRouteMatch)) =
      (List.range' 0 r.matches.length).map (SingleRouteMatch.mk r.key) := by
    rw [← List.zipIdx_map_snd 0 r.matches, List.map_map]
    rfl
  have hnodup : ((List.range' 0 r.matches.length).map (SingleRouteMatch.mk r.key)).Nodup :=
    (List.nodup_range' ..).map fun a b hab => by simpa using hab
  rw [hmap, hnodup.count]
  obtain ⟨k, i⟩ := e
  by_cases hk : k = r.key
  · subst hk
    simp
  · simp [hk, Ne.symm hk]

lemma insertBucket_spec {all : Routes} {r : Route} (hr : all.lookup r.key = some r)
    (inner : Buckets) (h : HostnameMatch) (hres : ∀ h', BucketResolves all (bucket inner h'))
    (hs : ∀ h', SortedBucket all (bucket inner h')) :
    ∃ inner', RouteSet.insertBucket all r inner h = some inner' ∧
      (∀ h', BucketResolves all (bucket inner' h')) ∧ (∀ h', SortedBucket all (bucket inner' h')) ∧
      (∀ h' e, (bucket inner' h').count e = (bucket inner h').count e +
        if h' = h ∧ e.key = r.key ∧ e.index < r.matches.length then 1 else 0) ∧
      (∀ h', inner'.lookup h' = some [] → inner.lookup h' = some [] ∨ (h' = h ∧ r.matches = [])) := by
  obtain ⟨v', hfold, hres', hs', hcount⟩ := foldlM_insertMatch_spec hr r.matches.zipIdx (bucket inner h)
    (fun mi hmi => List.mem_zipIdx_iff_getElem?.mp hmi) (hres h) (hs h)
  have hbucket : ∀ h', bucket (inner.insert h v') h' = if h' = h then v' else bucket inner h' := by
    intro h'
    split_ifs with hh
    · subst hh
      simp [bucket, AList.lookup_insert]
    · simp [bucket, AList.lookup_insert_ne hh]
  refine ⟨inner.insert h v', ?_, ?_, ?_, ?_, ?_⟩
  · rw [RouteSet.insertBucket, show (inner.lookup h).getD [] = bucket inner h from rfl, hfold]
    rfl
  · intro h'
    rw [hbucket]
    split_ifs
    exacts [hres', hres h']
  · intro h'
    rw [hbucket]
    split_ifs
    exacts [hs', hs h']
  · intro h' e
    rw [hbucket]
    by_cases hh : h' = h
    · subst hh
      rw [if_pos rfl, hcount, count_map_zipIdx]
      simp
    · simp [hh]
  · intro h' hh
    by_cases he : h' = h
    · subst he
      rw [AList.lookup_insert] at hh
      cases hh
      -- nothing was added to the bucket, so the route has no matches
      have h0 := hcount ⟨r.key, 0⟩
      rw [count_map_zipIdx] at h0
      refine Or.inr ⟨rfl, List.eq_nil_of_length_eq_zero ?_⟩
      by_contra hne
      simp [Nat.pos_of_ne_zero hne] at h0
    · exact Or.inl (by rwa [AList.lookup_insert_ne he] at hh)

lemma foldlM_insertBucket_spec {all : Routes} {r : Route} (hr : all.lookup r.key = some r) :
    ∀ (hs : List HostnameMatch) (inner : Buckets), (∀ h', BucketResolves all (bucket inner h')) →
      (∀ h', SortedBucket all (bucket inner h')) →
      ∃ inner', hs.foldlM (RouteSet.insertBucket all r) inner = some inner' ∧
        (∀ h', BucketResolves all (bucket inner' h')) ∧ (∀ h', SortedBucket all (bucket inner' h')) ∧
        (∀ h' e, (bucket inner' h').count e = (bucket inner h').count e +
          if e.key = r.key ∧ e.index < r.matches.length then hs.count h' else 0) ∧
        (∀ h', inner'.lookup h' = some [] → inner.lookup h' = some [] ∨ (h' ∈ hs ∧ r.matches = [])) := by
  intro hs
  induction hs with
  | nil =>
    intro inner hres hsort
    exact ⟨inner, rfl, hres, hsort, by simp, fun h' hh => Or.inl hh⟩
  | cons h hs ih =>
    intro inner hres hsort
    obtain ⟨inner₁, hins, hres₁, hsort₁, hcount₁, hempty₁⟩ := insertBucket_spec hr inner h hres hsort
    obtain ⟨inner₂, hfold, hres₂, hsort₂, hcount₂, hempty₂⟩ := ih inner₁ hres₁ hsort₁
    refine ⟨inner₂, by simp [hins, hfold], hres₂, hsort₂, fun h' e => ?_, fun h' hh => ?_⟩
    · rw [hcount₂, hcount₁, List.count_cons]
      by_cases he : e.key = r.key ∧ e.index < r.matches.length
      · obtain ⟨hk, hi⟩ := he
        by_cases hh : h' = h
        · subst hh
          simp [hk, hi]
          omega
        · simp [hk, hi, hh, Ne.symm hh]
      · simp [he]
    · rcases hempty₂ h' hh with hh₁ | ⟨hm, hnil⟩
      · rcases hempty₁ h' hh₁ with hh₀ | ⟨rfl, hnil⟩
        · exact Or.inl hh₀
        · exact Or.inr ⟨List.mem_cons_self, hnil⟩
      · exact Or.inr ⟨List.mem_cons_of_mem _ hm, hnil⟩

lemma lookup_remove_self (rs : RouteSet) (key : RouteKey) : (rs.remove key).all.lookup key = none := by
  unfold RouteSet.remove
  cases hold : rs.all.lookup key with
  | none => exact hold
  | some old => exact AList.lookup_erase _ _

theorem invariant_insert {rs : RouteSet} (hinv : Invariant rs) (r : Route) :
    ∃ rs', rs.insert r = some rs' ∧ Invariant rs' := by
  -- the replaced route, if any, is removed first
  set rs₁ := if rs.contains r.key then rs.remove r.key else rs with hrs₁
  have hinv₁ : Invariant rs₁ := by
    rw [hrs₁]
    split_ifs
    exacts [invariant_remove hinv r.key, hinv]
  have hnone : rs₁.all.lookup r.key = none := by
    rw [hrs₁]
    split_ifs with hc
    · exact lookup_remove_self rs r.key
    · simpa [RouteSet.contains] using hc
  set all := rs₁.all.insert r.key r
  have hr : all.lookup r.key = some r := AList.lookup_insert _
  have hkey : ∀ h, ∀ e ∈ bucket rs₁.inner h, e.key ≠ r.key := fun h e he =>
    hinv₁.key_ne_of_mem hnone he
  have hres : ∀ h, BucketResolves all (bucket rs₁.inner h) := by
    intro h e he
    obtain ⟨r', hr', hi, -⟩ := hinv₁.resolves he
    exact ⟨r', by rwa [AList.lookup_insert_ne (hkey h e he)], hi⟩
  have hsort : ∀ h, SortedBucket all (bucket rs₁.inner h) := fun h =>
    sortedBucket_congr (fun e he => resolveKey_insert (hkey h e he)) (hinv₁.sorted h)
  obtain ⟨inner, hfold, -, hsort', hcount, hempty⟩ :=
    foldlM_insertBucket_spec hr (hostnameMatchers r) rs₁.inner hres hsort
  refine ⟨⟨inner, all⟩, by simp [RouteSet.insert, ← hrs₁, all, hfold], ?_⟩
  constructor
  · intro k r' hr'
    by_cases hk : k = r.key
    · subst hk
      rw [hr] at hr'
      cases hr'
      rfl
    · exact hinv₁.key_eq k r' (by rwa [AList.lookup_insert_ne hk] at hr')
  · intro h e
    rw [hcount, hinv₁.count_eq]
    by_cases hk : e.key = r.key
    · rw [expectedCount, expectedCount, hk, hnone, hr]
      simp
    · simp [expectedCount, hk, AList.lookup_insert_ne hk, all]
  · intro h hh
    rcases hempty h hh with hh₁ | ⟨hm, hnil⟩
    · obtain ⟨k, r', hr', hm, hnil⟩ := hinv₁.empty_bucket h hh₁
      have hk : k ≠ r.key := by
        rintro rfl
        rw [hnone] at hr'
        cases hr'
      exact ⟨k, r', by rwa [AList.lookup_insert_ne hk], hm, hnil⟩
    · exact ⟨r.key, r, hr, hm, hnil⟩
  · exact hsort'

/-- Every sequence of calls from `RouteSet::default()` runs without a panic and ends in a
well-formed set. -/
theorem invariant_run (ops : List Op) : ∃ rs, run ops = some rs ∧ Invariant rs := by
  suffices h : ∀ rs, Invariant rs → ∃ rs', ops.foldlM Op.apply rs = some rs' ∧ Invariant rs' from
    h _ invariant_default
  induction ops with
  | nil => exact fun rs hinv => ⟨rs, rfl, hinv⟩
  | cons op ops ih =>
    intro rs hinv
    cases op with
    | insert r =>
      obtain ⟨rs', hins, hinv'⟩ := invariant_insert hinv r
      obtain ⟨rs'', hrun, hinv''⟩ := ih rs' hinv'
      exact ⟨rs'', by simp [Op.apply, hins, hrun], hinv''⟩
    | remove key =>
      obtain ⟨rs'', hrun, hinv''⟩ := ih _ (invariant_remove hinv key)
      exact ⟨rs'', by simp [Op.apply, hrun], hinv''⟩

/-! ## `get_hostname` on a well-formed set -/

lemma filterMap_resolved {all : Routes} (hkey : ∀ k r, all.lookup k = some r → r.key = k) :
    ∀ l : List SingleRouteMatch, BucketResolves all l →
      (∀ x ∈ l.filterMap (fun rl => (all.lookup rl.key).map fun r =>
          r.matches[rl.index]?.map fun m => (r, m)), x.isSome) ∧
      ((l.filterMap fun rl => (all.lookup rl.key).map fun r =>
          r.matches[rl.index]?.map fun m => (r, m)).filterMap id).map (fun x => (x.2, x.1.key)) =
        l.map (resolveKey all) := by
  intro l
  induction l with
  | nil => simp
  | cons e l ih =>
    intro hres
    obtain ⟨r, hr, hi⟩ := hres e List.mem_cons_self
    obtain ⟨ih₁, ih₂⟩ := ih fun e' he' => hres e' (List.mem_cons_of_mem _ he')
    have hm := List.getElem?_eq_getElem hi
    refine ⟨fun x hx => ?_, ?_⟩
    · simp only [List.filterMap_cons, hr, hm, Option.map_some] at hx
      rcases List.mem_cons.mp hx with rfl | hx
      · rfl
      · exact ih₁ x hx
    · simp only [List.filterMap_cons, hr, hm, Option.map_some, List.map_cons, id,
        resolveKey_of_lookup hr hm, hkey e.key r hr]
      exact congrArg _ ih₂

lemma Invariant.getHostname {rs : RouteSet} (hinv : Invariant rs) (h : HostnameMatch) :
    (∀ x ∈ rs.getHostname h, x.isSome) ∧
      ((rs.getHostname h).filterMap id).map (fun x => (x.2, x.1.key)) =
        (bucket rs.inner h).map (resolveKey rs.all) :=
  filterMap_resolved hinv.key_eq _ fun e he => by
    obtain ⟨r, hr, hi, -⟩ := hinv.resolves he
    exact ⟨r, hr, hi⟩

theorem run_buckets_wellFormed (ops : List Op) :
    ∃ rs, run ops = some rs ∧
      (∀ k r, rs.all.lookup k = some r → r.key = k) ∧
      (∀ h k i, ((rs.inner.lookup h).getD []).count ⟨k, i⟩ = expectedCount rs.all h k i) ∧
      (∀ h, rs.inner.lookup h = some [] →
        ∃ k r, rs.all.lookup k = some r ∧ h ∈ hostnameMatchers r ∧ r.matches = []) ∧
      (∀ h, (∀ x ∈ rs.getHostname h, x.isSome) ∧
        ((rs.getHostname h).filterMap id).Pairwise
          fun a b => (compareRoute (a.2, a.1.key) (b.2, b.1.key)).isLE) := by
  obtain ⟨rs, hrun, hinv⟩ := invariant_run ops
  refine ⟨rs, hrun, hinv.key_eq, fun h k i => hinv.count_eq h ⟨k, i⟩, hinv.empty_bucket, fun h => ?_⟩
  obtain ⟨hsome, hmap⟩ := hinv.getHostname h
  refine ⟨hsome, (List.pairwise_map (R := fun x y => (compareRoute x y).isLE)
    (f := fun x : Route × RouteMatch => (x.2, x.1.key))).mp ?_⟩
  rw [hmap]
  exact List.pairwise_map.mpr (hinv.sorted h)

def matchlessRoute : Route := ⟨"e", none, 0, [], []⟩

def rootMatch : RouteMatch := ⟨[], defaultRouteMatchPath, none, []⟩

def tiedRoute : Route := ⟨"r", none, 0, [], [rootMatch, rootMatch]⟩

/-- Inserting a route without matches leaves an empty bucket, and the second of two tied matches
of one route is placed before the first: `binary_search_by` finds the first and returns its
position. -/
theorem insert_leaves_empty_bucket_and_reverses_ties :
    (run [.insert matchlessRoute]).map (fun rs => rs.inner.lookup .none) = some (some []) ∧
      compareRoute (rootMatch, "r") (rootMatch, "r") = .eq ∧
      (run [.insert tiedRoute]).map (fun rs => rs.inner.lookup .none) =
        some (some [⟨"r", 1⟩, ⟨"r", 0⟩]) := by
  decide

end AgentGateway.Routing.RouteSetInvariant
