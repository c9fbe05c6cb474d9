import AgentGateway.LoadBalancer.EndpointSet
import AgentGateway.Library.Fold

/-! Where an endpoint set holds its keys, and how `event` and `rebucket` move them. -/

namespace AgentGateway.LoadBalancer

open Library

variable {K T I : Type}

namespace EndpointGroup

def pool (g : EndpointGroup K T I) : Bool → Pool K T I
  | true => g.active
  | false => g.rejected

@[simp] lemma pool_true (g : EndpointGroup K T I) : g.pool true = g.active := rfl

@[simp] lemma pool_false (g : EndpointGroup K T I) : g.pool false = g.rejected := rfl

variable [DecidableEq K] {g : EndpointGroup K T I} {k x : K} {a : Bool} {e : K × EndpointWithInfo T I}

lemma add_pool (ep : EndpointWithInfo T I) :
    (g.add k ep).pool a = if a then g.active.insert k ep else (g.rejected.swapRemove k).2 := by
  cases a <;> simp [add]

lemma mem_keys_add_pool {ep : EndpointWithInfo T I} :
    x ∈ ((g.add k ep).pool a).keys ↔ (a = true ∧ x = k) ∨ (x ≠ k ∧ x ∈ (g.pool a).keys) := by
  rw [add_pool]
  cases a
  · simp [IndexMap.mem_keys_swapRemove]
  · by_cases hx : x = k <;> simp [hx, IndexMap.mem_keys_insert]

lemma mem_entries_add_pool {ep : EndpointWithInfo T I} (he : e ∈ ((g.add k ep).pool a).entries) :
    e = (k, ep) ∨ e ∈ (g.pool a).entries := by
  rw [add_pool] at he
  cases a
  · exact .inr (IndexMap.mem_of_mem_swapRemove he)
  · exact IndexMap.mem_insert he

lemma remove_pool (k : K) (a : Bool) :
    (g.remove k).pool a = ((g.pool a).swapRemove k).2 ∨
      ((g.remove k).pool a = g.pool a ∧ a = false ∧ k ∈ g.active.keys) := by
  unfold remove
  rcases ha : g.active.swapRemove k with ⟨_ | v, active⟩
  · obtain rfl : active = (g.active.swapRemove k).2 := by rw [ha]
    rcases hr : g.rejected.swapRemove k with ⟨_ | w, rejected⟩
    all_goals
      obtain rfl : rejected = (g.rejected.swapRemove k).2 := by rw [hr]
      cases a <;> simp
  · obtain rfl : active = (g.active.swapRemove k).2 := by rw [ha]
    have hka : k ∈ g.active.keys := IndexMap.mem_keys_of_swapRemove_some (by rw [ha])
    cases a <;> simp [hka]

lemma mem_keys_remove_pool (hk : k ∈ g.active.keys → k ∉ g.rejected.keys) :
    x ∈ ((g.remove k).pool a).keys ↔ x ∈ (g.pool a).keys ∧ x ≠ k := by
  rcases remove_pool (g := g) k a with h | ⟨h, rfl, hka⟩
  · rw [h, IndexMap.mem_keys_swapRemove, and_comm]
  · -- the key was active, so not rejected
    rw [h]
    exact ⟨fun hx => ⟨hx, fun hxk => hk hka (hxk ▸ hx)⟩, And.left⟩

lemma mem_entries_remove_pool (he : e ∈ ((g.remove k).pool a).entries) : e ∈ (g.pool a).entries := by
  rcases remove_pool (g := g) k a with h | ⟨h, -⟩ <;> rw [h] at he
  · exact IndexMap.mem_of_mem_swapRemove he
  · exact he

end EndpointGroup

namespace EndpointSet

variable {s : EndpointSet K T} {k x : K} {b a : Nat} {p : Bool}

def entriesAt (s : EndpointSet K T) (b : Nat) (p : Bool) : List (K × EndpointWithInfo T Nat) :=
  ((s.buckets[b]?).map fun g => (g.pool p).entries).getD []

def keysAt (s : EndpointSet K T) (b : Nat) (p : Bool) : List K := (s.entriesAt b p).map Prod.fst

def KeysUnique (s : EndpointSet K T) : Prop :=
  ∀ k b p b' p', k ∈ s.keysAt b p → k ∈ s.keysAt b' p' → b = b' ∧ p = p'

lemma mem_entriesAt {e : K × EndpointWithInfo T Nat} :
    e ∈ s.entriesAt b p ↔ ∃ g, s.buckets[b]? = some g ∧ e ∈ (g.pool p).entries := by
  unfold entriesAt
  cases s.buckets[b]? <;> simp

lemma mem_keysAt : x ∈ s.keysAt b p ↔ ∃ g, s.buckets[b]? = some g ∧ x ∈ (g.pool p).keys := by
  unfold keysAt entriesAt
  cases s.buckets[b]? <;> simp [IndexMap.keys]

lemma exists_mem_entriesAt : (∃ b₀, e ∈ s.entriesAt b₀ p) ↔ ∃ g ∈ s.buckets, e ∈ (g.pool p).entries := by
  constructor
  · rintro ⟨b₀, he⟩
    obtain ⟨g, hg, he⟩ := mem_entriesAt.1 he
    exact ⟨g, List.mem_of_getElem? hg, he⟩
  · rintro ⟨g, hg, he⟩
    obtain ⟨b₀, hb₀⟩ := List.mem_iff_getElem?.1 hg
    exact ⟨b₀, mem_entriesAt.2 ⟨g, hb₀, he⟩⟩

lemma eq_of_mem_entriesAt {v v' : EndpointWithInfo T Nat} (h : (x, v) ∈ s.entriesAt b p)
    (h' : (x, v') ∈ s.entriesAt b p) : v = v' := by
  obtain ⟨g, hg, hv⟩ := mem_entriesAt.1 h
  obtain ⟨g', hg', hv'⟩ := mem_entriesAt.1 h'
  rw [hg] at hg'
  cases hg'
  exact congrArg Prod.snd (List.inj_on_of_nodup_map (g.pool p).nodup hv hv' rfl)

@[simp] lemma entriesAt_newEmpty (n : Nat) : (newEmpty n : EndpointSet K T).entriesAt b p = [] := by
  unfold entriesAt newEmpty
  by_cases hb : b < n
  · simp [hb, EndpointGroup.default, EndpointGroup.pool, IndexMap.empty]
    cases p <;> rfl
  · simp [hb]

@[simp] lemma keysAt_newEmpty (n : Nat) : (newEmpty n : EndpointSet K T).keysAt b p = [] := by
  simp [keysAt]

@[simp] lemma length_newEmpty (n : Nat) : (newEmpty n : EndpointSet K T).buckets.length = n := by
  simp [newEmpty]

lemma keysUnique_newEmpty (n : Nat) : (newEmpty n : EndpointSet K T).KeysUnique := by
  intro k b p b' p' h
  simp at h

def poolEntries (into : List (Pool K T Nat)) (b : Nat) : List (K × EndpointWithInfo T Nat) :=
  ((into[b]?).map IndexMap.entries).getD []

@[simp] lemma poolEntries_replicate (n : Nat) :
    poolEntries (List.replicate n (IndexMap.empty : Pool K T Nat)) b = [] := by
  unfold poolEntries
  by_cases hb : b < n <;> simp [hb, IndexMap.empty]

variable [LinearOrder K]

@[simp] lemma length_event (s : EndpointSet K T) (ev : EndpointEvent K T) :
    (s.event ev).buckets.length = s.buckets.length := by
  cases ev with
  | add k ep bucket =>
    simp only [event]
    split_ifs <;> simp
  | delete k =>
    simp only [event]
    cases findBucketAtomic s.buckets k <;> simp

/-! ### Adds -/

section Add

variable {ep : EndpointWithInfo T Nat} {bucket : Nat}

lemma getElem?_add (hb : bucket < s.buckets.length) :
    (s.event (.add k ep bucket)).buckets[b]? = (s.buckets[b]?).map fun g => if bucket = b then g.add k ep else g := by
  simp [event, hb, List.getElem?_modify]

lemma mem_keysAt_add (hb : bucket < s.buckets.length) :
    x ∈ (s.event (.add k ep bucket)).keysAt b p ↔
      (b = bucket ∧ p = true ∧ x = k) ∨ (¬(b = bucket ∧ x = k) ∧ x ∈ s.keysAt b p) := by
  rw [mem_keysAt, mem_keysAt, getElem?_add hb]
  cases hg : s.buckets[b]? with
  | none =>
    have hbb : b ≠ bucket := by
      rintro rfl
      rw [List.getElem?_eq_getElem hb] at hg
      cases hg
    simp [hbb]
  | some g =>
    by_cases hbb : bucket = b
    · subst hbb
      simp only [Option.map_some, if_true, Option.some.injEq, exists_eq_left', EndpointGroup.mem_keys_add_pool]
      tauto
    · simp [hbb, Ne.symm hbb]

lemma mem_entriesAt_add (hb : bucket < s.buckets.length) {e : K × EndpointWithInfo T Nat}
    (he : e ∈ (s.event (.add k ep bucket)).entriesAt b p) : e = (k, ep) ∨ e ∈ s.entriesAt b p := by
  rw [mem_entriesAt, getElem?_add hb] at he
  obtain ⟨g', hg', he⟩ := he
  obtain ⟨g, hg, rfl⟩ := Option.map_eq_some_iff.1 hg'
  split_ifs at he
  · exact (EndpointGroup.mem_entries_add_pool he).imp_right fun he => mem_entriesAt.2 ⟨g, hg, he⟩
  · exact .inr (mem_entriesAt.2 ⟨g, hg, he⟩)

lemma KeysUnique.add (h : s.KeysUnique) (hb : bucket < s.buckets.length)
    (hk : ∀ b p, k ∈ s.keysAt b p → b = bucket) : (s.event (.add k ep bucket)).KeysUnique := by
  -- the added key is in the active pool of its bucket only; the others stay where they were
  have hplace : ∀ y b p, y ∈ (s.event (.add k ep bucket)).keysAt b p →
      (y = k ∧ b = bucket ∧ p = true) ∨ (y ≠ k ∧ y ∈ s.keysAt b p) := by
    intro y b p hy
    rcases (mem_keysAt_add hb).1 hy with ⟨rfl, rfl, rfl⟩ | ⟨hn, hold⟩
    · exact .inl ⟨rfl, rfl, rfl⟩
    · by_cases hyk : y = k
      · exact absurd ⟨hk b p (hyk ▸ hold), hyk⟩ hn
      · exact .inr ⟨hyk, hold⟩
  intro y b p b' p' hy hy'
  rcases hplace y b p hy with ⟨rfl, rfl, rfl⟩ | ⟨hyk, hy⟩ <;>
    rcases hplace y b' p' hy' with ⟨hyk', rfl, rfl⟩ | ⟨hyk', hy'⟩
  · exact ⟨rfl, rfl⟩
  · exact absurd rfl hyk'
  · exact absurd hyk' hyk
  · exact h y b p b' p' hy hy'

end Add

/-! ### Deletes -/

section Delete

lemma mem_keysAt_delete (h : s.KeysUnique) :
    x ∈ (s.event (.delete k)).keysAt b p ↔ x ∈ s.keysAt b p ∧ x ≠ k := by
  simp only [event]
  cases hf : findBucketAtomic s.buckets k with
  | none =>
    -- no bucket holds the key
    have hno : ∀ g ∈ s.buckets, EndpointSet.holdsKey k g = false := List.findIdx?_eq_none_iff.1 hf
    refine ⟨fun hx => ⟨hx, ?_⟩, And.left⟩
    rintro rfl
    obtain ⟨g, hg, hx⟩ := mem_keysAt.1 hx
    have hg' := hno g (List.mem_of_getElem? hg)
    simp only [holdsKey, Bool.or_eq_false_iff] at hg'
    cases p
    · rw [EndpointGroup.pool_false, ← IndexMap.containsKey_iff, hg'.2] at hx
      cases hx
    · rw [EndpointGroup.pool_true, ← IndexMap.containsKey_iff, hg'.1] at hx
      cases hx
  | some i =>
    obtain ⟨hi, hold, -⟩ := List.findIdx?_eq_some_iff_getElem.1 hf
    -- the key is in bucket i, in one pool of it
    obtain ⟨q, hq⟩ : ∃ q, k ∈ s.keysAt i q := by
      simp only [holdsKey, Bool.or_eq_true, IndexMap.containsKey_iff] at hold
      rcases hold with hold | hold
      · exact ⟨true, mem_keysAt.2 ⟨_, List.getElem?_eq_getElem hi, hold⟩⟩
      · exact ⟨false, mem_keysAt.2 ⟨_, List.getElem?_eq_getElem hi, hold⟩⟩
    simp only [mem_keysAt, List.getElem?_modify]
    by_cases hib : i = b
    · subst hib
      have hnot : k ∈ s.buckets[i].active.keys → k ∉ s.buckets[i].rejected.keys := fun ha hr => by
        have := (h k i true i false (mem_keysAt.2 ⟨_, List.getElem?_eq_getElem hi, ha⟩)
          (mem_keysAt.2 ⟨_, List.getElem?_eq_getElem hi, hr⟩)).2
        cases this
      simp [List.getElem?_eq_getElem hi, EndpointGroup.mem_keys_remove_pool hnot]
    · -- another bucket never held the key
      have hk : x = k → x ∉ s.keysAt b p := by
        rintro rfl hx
        exact hib (h x i q b p hq hx).1
      simp only [hib, if_false, Option.map_eq_map, Option.map_id']
      rw [← mem_keysAt]
      exact ⟨fun hx => ⟨hx, fun hxk => hk hxk hx⟩, And.left⟩

lemma mem_entriesAt_delete {e : K × EndpointWithInfo T Nat} (he : e ∈ (s.event (.delete k)).entriesAt b p) :
    e ∈ s.entriesAt b p := by
  simp only [event] at he
  cases hf : findBucketAtomic s.buckets k with
  | none => rwa [hf] at he
  | some i =>
    rw [hf, mem_entriesAt] at he
    obtain ⟨g', hg', he⟩ := he
    simp only [List.getElem?_modify] at hg'
    obtain ⟨g, hg, rfl⟩ := Option.map_eq_some_iff.1 hg'
    refine mem_entriesAt.2 ⟨g, hg, ?_⟩
    split_ifs at he
    · exact EndpointGroup.mem_entries_remove_pool he
    · exact he

lemma KeysUnique.delete (h : s.KeysUnique) (k : K) : (s.event (.delete k)).KeysUnique := by
  intro y b p b' p' hy hy'
  exact h y b p b' p' ((mem_keysAt_delete h).1 hy).1 ((mem_keysAt_delete h).1 hy').1

end Delete

/-! ### Rebucketing -/

section Rebucket

variable {ranker : T → Option Nat} {n : Nat} {into : List (Pool K T Nat)} {e : K × EndpointWithInfo T Nat}

/-- One entry of `rebucket`'s pass: into the pool of the bucket the ranker gives it, if there
is one. -/
def place (ranker : T → Option Nat) (n : Nat) (into : List (Pool K T Nat)) (e : K × EndpointWithInfo T Nat) :
    List (Pool K T Nat) :=
  match ranker e.2.endpoint with
  | some b => if b < n then into.modify b (·.insert e.1 e.2) else into
  | none => into

lemma redistribute_eq (ranker : T → Option Nat) (n : Nat) (pools : List (Pool K T Nat)) :
    redistribute ranker n pools =
      pools.foldl (fun into pool => pool.entries.foldl (place ranker n) into) (List.replicate n IndexMap.empty) :=
  rfl

@[simp] lemma length_place : (place ranker n into e).length = into.length := by
  unfold place
  rcases ranker e.2.endpoint with _ | b
  · rfl
  · dsimp only
    split_ifs <;> simp

lemma getElem?_place :
    (place ranker n into e)[b]? =
      if ranker e.2.endpoint = some b ∧ b < n then (into[b]?).map (·.insert e.1 e.2) else into[b]? := by
  unfold place
  cases hr : ranker e.2.endpoint with
  | none => simp
  | some b' =>
    by_cases hb' : b' < n
    · by_cases hbb : b' = b
      · subst hbb
        simp [hb']
      · simp [hb', hbb]
    · by_cases hbb : b' = b
      · subst hbb
        simp [hb']
      · simp [hb', hbb]

lemma mem_keys_place (hn : into.length = n) :
    x ∈ (poolEntries (place ranker n into e) b).map Prod.fst ↔
      x ∈ (poolEntries into b).map Prod.fst ∨ (x = e.1 ∧ ranker e.2.endpoint = some b ∧ b < n) := by
  unfold poolEntries
  rw [getElem?_place]
  split_ifs with hr
  · -- the index is in range, so the pool is there
    rw [List.getElem?_eq_getElem (hn ▸ hr.2)]
    simp only [Option.map_some, Option.getD_some]
    rw [← IndexMap.keys, ← IndexMap.keys, IndexMap.mem_keys_insert]
    simp [hr, or_comm]
  · exact ⟨Or.inl, fun h => h.elim id fun h' => absurd ⟨h'.2.1, h'.2.2⟩ hr⟩

lemma mem_place {e' : K × EndpointWithInfo T Nat} (he : e' ∈ poolEntries (place ranker n into e) b) :
    e' ∈ poolEntries into b ∨ (e' = e ∧ ranker e.2.endpoint = some b) := by
  unfold poolEntries at he ⊢
  rw [getElem?_place] at he
  split_ifs at he with hr
  · cases hb : into[b]? with
    | none => simp [hb] at he
    | some m =>
      simp only [hb, Option.map_some, Option.getD_some] at he ⊢
      rcases IndexMap.mem_insert he with rfl | he
      · exact .inr ⟨rfl, hr.1⟩
      · exact .inl he
  · exact .inl he

lemma mem_keys_foldl_place (l : List (K × EndpointWithInfo T Nat)) :
    ∀ into : List (Pool K T Nat), into.length = n →
      (x ∈ (poolEntries (l.foldl (place ranker n) into) b).map Prod.fst ↔
        x ∈ (poolEntries into b).map Prod.fst ∨ b < n ∧ ∃ v, (x, v) ∈ l ∧ ranker v.endpoint = some b) := by
  induction l with
  | nil => simp
  | cons e l ih =>
    intro into hn
    rw [List.foldl_cons, ih _ (by simp [hn]), mem_keys_place hn]
    constructor
    · rintro ((h | ⟨rfl, hr, hb⟩) | ⟨hb, v, hv, hr⟩)
      · exact .inl h
      · exact .inr ⟨hb, e.2, by simp, hr⟩
      · exact .inr ⟨hb, v, List.mem_cons_of_mem _ hv, hr⟩
    · rintro (h | ⟨hb, v, hv, hr⟩)
      · exact .inl (.inl h)
      · rcases List.mem_cons.1 hv with he | hv
        · exact .inl (.inr ⟨by rw [← he], by rw [← he]; exact hr, hb⟩)
        · exact .inr ⟨hb, v, hv, hr⟩

lemma mem_foldl_place {e' : K × EndpointWithInfo T Nat} (l : List (K × EndpointWithInfo T Nat)) :
    ∀ into : List (Pool K T Nat), e' ∈ poolEntries (l.foldl (place ranker n) into) b →
      e' ∈ poolEntries into b ∨ (e' ∈ l ∧ ranker e'.2.endpoint = some b) := by
  induction l with
  | nil => exact fun _ => .inl
  | cons e l ih =>
    intro into he
    rcases ih _ he with he | ⟨hl, hr⟩
    · rcases mem_place he with he | ⟨rfl, hr⟩
      · exact .inl he
      · exact .inr ⟨List.mem_cons_self, hr⟩
    · exact .inr ⟨List.mem_cons_of_mem _ hl, hr⟩

@[simp] lemma length_redistribute (pools : List (Pool K T Nat)) : (redistribute ranker n pools).length = n := by
  rw [redistribute_eq]
  refine Library.Fold.foldl_invariant (P := fun into : List (Pool K T Nat) => into.length = n)
    (fun into pool hn => ?_) _ _ (by simp)
  exact Library.Fold.foldl_invariant (P := fun into : List (Pool K T Nat) => into.length = n)
    (fun into e hn => by simp [hn]) _ _ hn

lemma mem_keys_redistribute_iff (pools : List (Pool K T Nat)) :
    x ∈ (poolEntries (redistribute ranker n pools) b).map Prod.fst ↔
      b < n ∧ ∃ p ∈ pools, ∃ v, (x, v) ∈ p.entries ∧ ranker v.endpoint = some b := by
  rw [redistribute_eq]
  -- the outer fold over the pools, from pools of nothing
  suffices h : ∀ into : List (Pool K T Nat), into.length = n →
      (x ∈ (poolEntries (pools.foldl (fun into pool => pool.entries.foldl (place ranker n) into) into) b).map Prod.fst ↔
        x ∈ (poolEntries into b).map Prod.fst ∨ b < n ∧ ∃ p ∈ pools, ∃ v, (x, v) ∈ p.entries ∧ ranker v.endpoint = some b) by
    rw [h _ (by simp)]
    simp
  induction pools with
  | nil => simp
  | cons q pools ih =>
    intro into hn
    have hn' : (q.entries.foldl (place ranker n) into).length = n :=
      Library.Fold.foldl_invariant (P := fun into : List (Pool K T Nat) => into.length = n)
        (fun into e hn => by simp [hn]) _ _ hn
    rw [List.foldl_cons, ih _ hn', mem_keys_foldl_place _ _ hn]
    constructor
    · rintro ((h | ⟨hb, v, hv, hr⟩) | ⟨hb, p, hp, v, hv, hr⟩)
      · exact .inl h
      · exact .inr ⟨hb, q, List.mem_cons_self, v, hv, hr⟩
      · exact .inr ⟨hb, p, List.mem_cons_of_mem _ hp, v, hv, hr⟩
    · rintro (h | ⟨hb, p, hp, v, hv, hr⟩)
      · exact .inl (.inl h)
      · rcases List.mem_cons.1 hp with rfl | hp
        · exact .inl (.inr ⟨hb, v, hv, hr⟩)
        · exact .inr ⟨hb, p, hp, v, hv, hr⟩

lemma mem_redistribute (pools : List (Pool K T Nat)) (he : e ∈ poolEntries (redistribute ranker n pools) b) :
    ∃ p ∈ pools, e ∈ p.entries ∧ ranker e.2.endpoint = some b := by
  rw [redistribute_eq] at he
  suffices h : ∀ into : List (Pool K T Nat),
      e ∈ poolEntries (pools.foldl (fun into pool => pool.entries.foldl (place ranker n) into) into) b →
        e ∈ poolEntries into b ∨ ∃ p ∈ pools, e ∈ p.entries ∧ ranker e.2.endpoint = some b by
    rcases h _ he with he | h
    · simp at he
    · exact h
  clear he
  induction pools with
  | nil => exact fun _ => .inl
  | cons q pools ih =>
    intro into he
    rcases ih _ he with he | ⟨p, hp, hpe, hr⟩
    · rcases mem_foldl_place _ _ he with he | ⟨hq, hr⟩
      · exact .inl he
      · exact .inr ⟨q, List.mem_cons_self, hq, hr⟩
    · exact .inr ⟨p, List.mem_cons_of_mem _ hp, hpe, hr⟩

@[simp] lemma length_rebucket (s : EndpointSet K T) (ranker : T → Option Nat) :
    (s.rebucket ranker).buckets.length = s.buckets.length := by
  simp [rebucket]

lemma entriesAt_rebucket :
    (s.rebucket ranker).entriesAt b p =
      poolEntries (redistribute ranker s.buckets.length (s.buckets.map (·.pool p))) b := by
  unfold entriesAt poolEntries rebucket
  simp only [List.getElem?_map]
  by_cases hb : b < s.buckets.length
  · obtain ⟨a, ha⟩ := Option.isSome_iff_exists.1
      (by simpa using hb : (redistribute ranker s.buckets.length (s.buckets.map (·.active)))[b]?.isSome)
    obtain ⟨r, hr⟩ := Option.isSome_iff_exists.1
      (by simpa using hb : (redistribute ranker s.buckets.length (s.buckets.map (·.rejected)))[b]?.isSome)
    rw [(List.getElem?_zip_eq_some (z := (a, r))).2 ⟨ha, hr⟩]
    cases p
    · simp [hr, EndpointGroup.fromPools]
    · simp [ha, EndpointGroup.fromPools]
  · have hn : ∀ l : List (Pool K T Nat), l.length = s.buckets.length → l[b]? = none :=
      fun l hl => List.getElem?_eq_none (by omega)
    rw [List.getElem?_eq_none (by simp; omega), hn _ (by simp)]
    rfl

lemma mem_keysAt_rebucket :
    x ∈ (s.rebucket ranker).keysAt b p ↔
      b < s.buckets.length ∧ ∃ b₀ v, (x, v) ∈ s.entriesAt b₀ p ∧ ranker v.endpoint = some b := by
  rw [keysAt, entriesAt_rebucket, mem_keys_redistribute_iff]
  refine and_congr_right fun _ => ⟨?_, ?_⟩
  · rintro ⟨q, hq, v, hv, hr⟩
    obtain ⟨g, hg, rfl⟩ := List.mem_map.1 hq
    obtain ⟨b₀, hb₀⟩ := exists_mem_entriesAt.2 ⟨g, hg, hv⟩
    exact ⟨b₀, v, hb₀, hr⟩
  · rintro ⟨b₀, v, hv, hr⟩
    obtain ⟨g, hg, hv⟩ := exists_mem_entriesAt.1 ⟨b₀, hv⟩
    exact ⟨g.pool p, List.mem_map_of_mem hg, v, hv, hr⟩

lemma mem_entriesAt_rebucket (he : e ∈ (s.rebucket ranker).entriesAt b p) :
    ∃ b₀, e ∈ s.entriesAt b₀ p ∧ ranker e.2.endpoint = some b := by
  rw [entriesAt_rebucket] at he
  obtain ⟨q, hq, hqe, hr⟩ := mem_redistribute _ he
  obtain ⟨g, hg, rfl⟩ := List.mem_map.1 hq
  obtain ⟨b₀, hb₀⟩ := exists_mem_entriesAt.2 ⟨g, hg, hqe⟩
  exact ⟨b₀, hb₀, hr⟩

lemma KeysUnique.rebucket (h : s.KeysUnique) (ranker : T → Option Nat) : (s.rebucket ranker).KeysUnique := by
  intro y b p b' p' hy hy'
  obtain ⟨-, b₀, v, hv, hr⟩ := mem_keysAt_rebucket.1 hy
  obtain ⟨-, b₀', v', hv', hr'⟩ := mem_keysAt_rebucket.1 hy'
  have hkv : y ∈ s.keysAt b₀ p := List.mem_map_of_mem (f := Prod.fst) hv
  have hkv' : y ∈ s.keysAt b₀' p' := List.mem_map_of_mem (f := Prod.fst) hv'
  obtain ⟨rfl, rfl⟩ := h y b₀ p b₀' p' hkv hkv'
  have hvv : v = v' := eq_of_mem_entriesAt hv hv'
  subst hvv
  rw [hr] at hr'
  exact ⟨Option.some.inj hr', rfl⟩

end Rebucket

end EndpointSet

end AgentGateway.LoadBalancer
