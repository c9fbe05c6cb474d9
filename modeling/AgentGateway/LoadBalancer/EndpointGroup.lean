import AgentGateway.Library.IndexMap
import Mathlib.Algebra.BigOperators.Group.List.Basic
import Mathlib.Algebra.Order.Field.Rat
import Mathlib.Data.List.GetD

/-! The endpoint groups of `types/loadbalancer.rs` and the sampler cached for the active pool,
read as the distribution of one `select_p2c` draw. -/

namespace AgentGateway.LoadBalancer

open Library

structure EndpointWithInfo (T I : Type) where
  endpoint : T
  info : I
  capacity : Nat

inductive Sampler where
  | uniform
  | weighted (weights : List Nat)
  | drained
  deriving DecidableEq, Repr

variable {K T I : Type} [DecidableEq K]

abbrev Pool (K T I : Type) := IndexMap K (EndpointWithInfo T I)

def buildSampler (active : List (K × EndpointWithInfo T I)) : Sampler :=
  if active.isEmpty then .uniform
  else
    let allOnes := active.all fun e => e.2.capacity == 1
    let anyNonzero := active.any fun e => e.2.capacity != 0
    if !anyNonzero then .drained
    else if allOnes then .uniform
    else .weighted (active.map fun e => e.2.capacity)

structure EndpointGroup (K T I : Type) where
  active : Pool K T I
  rejected : Pool K T I
  sampler : Sampler

namespace EndpointGroup

def default : EndpointGroup K T I := ⟨IndexMap.empty, IndexMap.empty, .uniform⟩

def fromPools (active rejected : Pool K T I) : EndpointGroup K T I :=
  ⟨active, rejected, buildSampler active.entries⟩

def updateSampler (g : EndpointGroup K T I) (addedEpCap : Option Nat) : EndpointGroup K T I :=
  let preserved := match g.sampler, addedEpCap with
    | .uniform, some 1 => true
    | .uniform, none => true
    | .drained, some 0 => true
    | .drained, none => !g.active.isEmpty
    | _, _ => false
  if preserved then g else { g with sampler := buildSampler g.active.entries }

def add (g : EndpointGroup K T I) (key : K) (ep : EndpointWithInfo T I) : EndpointGroup K T I :=
  { g with rejected := (g.rejected.swapRemove key).2, active := g.active.insert key ep }.updateSampler
    (some ep.capacity)

def remove (g : EndpointGroup K T I) (key : K) : EndpointGroup K T I :=
  match g.active.swapRemove key with
  | (some _, active) => { g with active }.updateSampler none
  | (none, active) =>
    match g.rejected.swapRemove key with
    | (some _, rejected) => { g with active, rejected }.updateSampler none
    | (none, rejected) => { g with active, rejected }

def evict (g : EndpointGroup K T I) (key : K) : EndpointGroup K T I :=
  match g.active.swapRemove key with
  | (some ep, active) => { g with active, rejected := g.rejected.insert key ep }.updateSampler none
  | (none, _) => g

def unevict (g : EndpointGroup K T I) (key : K) (edit : EndpointWithInfo T I → Bool) : EndpointGroup K T I :=
  match g.rejected.swapRemove key with
  | (some ep, rejected) =>
    if edit ep then { g with rejected, active := g.active.insert key ep }.updateSampler (some ep.capacity)
    else { g with rejected := rejected.insert key ep }
  | (none, _) => g

end EndpointGroup

section Sampler

variable {l : List (K × EndpointWithInfo T I)}

omit [DecidableEq K]

/-- `build_sampler` in words: uniform for an empty pool or one where every capacity is one, drained
for a non-empty pool of zero capacities, otherwise the capacities as weights in index order. -/
theorem buildSampler_eq (l : List (K × EndpointWithInfo T I)) :
    buildSampler l =
      if l = [] ∨ ∀ e ∈ l, e.2.capacity = 1 then .uniform
      else if ∀ e ∈ l, e.2.capacity = 0 then .drained
      else .weighted (l.map fun e => e.2.capacity) := by
  unfold buildSampler
  by_cases hl : l = []
  · simp [hl]
  have he : l.isEmpty = false := List.isEmpty_eq_false_iff.2 hl
  by_cases h1 : ∀ e ∈ l, e.2.capacity = 1
  · -- all ones: a non-empty pool then has a nonzero capacity
    obtain ⟨e, hm⟩ := List.exists_mem_of_ne_nil l hl
    have ha : (l.any fun e => e.2.capacity != 0) = true := List.any_eq_true.2 ⟨e, hm, by simp [h1 e hm]⟩
    have hb : (l.all fun e => e.2.capacity == 1) = true := by simpa using h1
    simp only [he, ha, hb, Bool.not_true, Bool.false_eq_true, if_false, if_true]
    rw [if_pos (.inr h1)]
  rw [if_neg (not_or.2 ⟨hl, h1⟩)]
  by_cases h0 : ∀ e ∈ l, e.2.capacity = 0
  · have ha : (l.any fun e => e.2.capacity != 0) = false := by simpa using h0
    simp only [he, ha, Bool.not_false, Bool.false_eq_true, if_false, if_true]
    rw [if_pos h0]
  · have ha : (l.any fun e => e.2.capacity != 0) = true := by simpa using h0
    have hb : (l.all fun e => e.2.capacity == 1) = false := by simpa using h1
    simp only [he, ha, hb, Bool.not_true, Bool.false_eq_true, if_false]
    rw [if_neg h0]

lemma buildSampler_of_forall_one (h : ∀ e ∈ l, e.2.capacity = 1) : buildSampler l = .uniform := by
  rw [buildSampler_eq, if_pos (.inr h)]

lemma buildSampler_of_forall_zero (hne : l ≠ []) (h : ∀ e ∈ l, e.2.capacity = 0) :
    buildSampler l = .drained := by
  have h1 : ¬ (l = [] ∨ ∀ e ∈ l, e.2.capacity = 1) := by
    rintro (hl | h1)
    · exact hne hl
    · obtain ⟨e, he⟩ := List.exists_mem_of_ne_nil l hne
      have := h e he
      rw [h1 e he] at this
      cases this
  rw [buildSampler_eq, if_neg h1, if_pos h]

lemma forall_one_of_buildSampler (h : buildSampler l = .uniform) : ∀ e ∈ l, e.2.capacity = 1 := by
  rw [buildSampler_eq] at h
  split at h
  · next hc =>
    rcases hc with rfl | hc
    · simp
    · exact hc
  · split at h <;> cases h

lemma forall_zero_of_buildSampler (h : buildSampler l = .drained) : l ≠ [] ∧ ∀ e ∈ l, e.2.capacity = 0 := by
  rw [buildSampler_eq] at h
  split at h
  · cases h
  · next hc =>
    split at h
    · exact ⟨fun hl => hc (.inl hl), ‹_›⟩
    · cases h

end Sampler

namespace EndpointGroup

omit [DecidableEq K] in
lemma updateSampler_cases (g : EndpointGroup K T I) (added : Option Nat) :
    g.updateSampler added = { g with sampler := buildSampler g.active.entries } ∨
      (g.updateSampler added = g ∧ ((g.sampler = .uniform ∧ (added = some 1 ∨ added = none)) ∨
        (g.sampler = .drained ∧ (added = some 0 ∨ (added = none ∧ g.active.isEmpty = false))))) := by
  unfold updateSampler
  dsimp only
  split_ifs with h
  · exact .inr ⟨rfl, by split at h <;> simp_all⟩
  · exact .inl rfl

omit [DecidableEq K] in
lemma updateSampler_sampler {g : EndpointGroup K T I} {old : List (K × EndpointWithInfo T I)} {added : Option Nat}
    (hs : g.sampler = buildSampler old)
    (hsub : ∀ e ∈ g.active.entries, e ∈ old ∨ added = some e.2.capacity)
    (hnew : ∀ c, added = some c → ∃ e ∈ g.active.entries, e.2.capacity = c) :
    (g.updateSampler added).sampler = buildSampler g.active.entries := by
  rcases updateSampler_cases g added with h | ⟨h, hc⟩
  · rw [h]
  · rw [h]
    rcases hc with ⟨hu, ha⟩ | ⟨hd, ha⟩
    · -- uniform: every old capacity is one, and so is an added one
      have hold := forall_one_of_buildSampler (hs ▸ hu)
      rw [hu, buildSampler_of_forall_one]
      intro e he
      rcases hsub e he with he | he
      · exact hold e he
      · rcases ha with rfl | rfl
        · exact (Option.some.inj he).symm
        · cases he
    · -- drained: every old capacity is zero, and so is an added one; the pool is not empty
      obtain ⟨-, hold⟩ := forall_zero_of_buildSampler (hs ▸ hd)
      rw [hd, buildSampler_of_forall_zero]
      · rcases ha with rfl | ⟨rfl, hemp⟩
        · obtain ⟨e, he, -⟩ := hnew 0 rfl
          exact List.ne_nil_of_mem he
        · simpa [IndexMap.isEmpty] using hemp
      · intro e he
        rcases hsub e he with he | he
        · exact hold e he
        · rcases ha with rfl | ⟨rfl, -⟩
          · exact (Option.some.inj he).symm
          · cases he

omit [DecidableEq K] in
@[simp] lemma updateSampler_active (g : EndpointGroup K T I) (added : Option Nat) :
    (g.updateSampler added).active = g.active := by
  unfold updateSampler
  dsimp only
  split_ifs <;> rfl

omit [DecidableEq K] in
@[simp] lemma updateSampler_rejected (g : EndpointGroup K T I) (added : Option Nat) :
    (g.updateSampler added).rejected = g.rejected := by
  unfold updateSampler
  dsimp only
  split_ifs <;> rfl

section Pools

variable {g : EndpointGroup K T I} {key x : K}

lemma add_active (ep : EndpointWithInfo T I) : (g.add key ep).active = g.active.insert key ep := by
  simp [add]

lemma remove_active : (g.remove key).active = (g.active.swapRemove key).2 := by
  unfold EndpointGroup.remove
  rcases g.active.swapRemove key with ⟨_ | _, active⟩
  · dsimp only
    rcases g.rejected.swapRemove key with ⟨_ | _, rejected⟩ <;> simp
  · simp

lemma evict_active : (g.evict key).active = (g.active.swapRemove key).2 := by
  unfold EndpointGroup.evict
  rcases ha : g.active.swapRemove key with ⟨_ | _, active⟩
  · -- nothing was active under the key, so taking it out changed nothing
    have := IndexMap.swapRemove_of_none (m := g.active) (k := key) (by rw [ha])
    rw [ha] at this
    exact this.symm
  · simp

lemma mem_active_keys_of_unevict {edit : EndpointWithInfo T I → Bool}
    (h : x ∈ (g.unevict key edit).active.keys) : x = key ∨ x ∈ g.active.keys := by
  unfold EndpointGroup.unevict at h
  rcases hr : g.rejected.swapRemove key with ⟨_ | ep, rejected⟩ <;> rw [hr] at h
  · exact .inr h
  · dsimp only at h
    split_ifs at h
    · rw [updateSampler_active] at h
      exact IndexMap.mem_keys_insert.1 h
    · exact .inr h

end Pools

/-- The invariant of every endpoint group: the cached sampler is the one `build_sampler` gives for
the active pool, and no key is in both pools. -/
structure Inv (g : EndpointGroup K T I) : Prop where
  sampler : g.sampler = buildSampler g.active.entries
  disjoint : ∀ k ∈ g.active.keys, k ∉ g.rejected.keys

omit [DecidableEq K] in
lemma inv_default : Inv (default : EndpointGroup K T I) := ⟨rfl, by simp [default, IndexMap.keys, IndexMap.empty]⟩

omit [DecidableEq K] in
lemma inv_fromPools {active rejected : Pool K T I} (h : ∀ k ∈ active.keys, k ∉ rejected.keys) :
    Inv (fromPools active rejected) := ⟨rfl, h⟩

omit [DecidableEq K] in
lemma Inv.updateSampler {g g' : EndpointGroup K T I} {added : Option Nat} (h : Inv g)
    (hs : g'.sampler = g.sampler)
    (hsub : ∀ e ∈ g'.active.entries, e ∈ g.active.entries ∨ added = some e.2.capacity)
    (hnew : ∀ c, added = some c → ∃ e ∈ g'.active.entries, e.2.capacity = c)
    (hd : ∀ k ∈ g'.active.keys, k ∉ g'.rejected.keys) : Inv (g'.updateSampler added) := by
  refine ⟨?_, ?_⟩
  · rw [updateSampler_active]
    exact updateSampler_sampler (hs.trans h.sampler) hsub hnew
  · rw [updateSampler_active, updateSampler_rejected]
    exact hd

variable {g : EndpointGroup K T I} {key : K}

lemma Inv.add (h : Inv g) (ep : EndpointWithInfo T I) : Inv (g.add key ep) := by
  refine h.updateSampler rfl ?_ ?_ (IndexMap.disjoint_insert_swapRemove h.disjoint)
  · intro e he
    rcases IndexMap.mem_insert he with rfl | he
    · exact .inr rfl
    · exact .inl he
  · rintro c ⟨⟩
    exact ⟨_, IndexMap.self_mem_insert, rfl⟩

lemma Inv.remove (h : Inv g) : Inv (g.remove key) := by
  unfold EndpointGroup.remove
  rcases ha : g.active.swapRemove key with ⟨_ | _, active⟩
  · -- the key is not active: the active pool is unchanged and the rejected pool is tried
    obtain rfl : active = g.active := by
      have := IndexMap.swapRemove_of_none (m := g.active) (k := key) (by rw [ha])
      rwa [ha] at this
    rcases hr : g.rejected.swapRemove key with ⟨_ | _, rejected⟩
    · obtain rfl : rejected = g.rejected := by
        have := IndexMap.swapRemove_of_none (m := g.rejected) (k := key) (by rw [hr])
        rwa [hr] at this
      exact h
    · refine h.updateSampler rfl (fun e he => .inl he) (by simp) ?_
      intro k hk hk'
      have hk'' : k ∈ (g.rejected.swapRemove key).2.keys := by rw [hr]; exact hk'
      exact h.disjoint k hk (IndexMap.mem_keys_swapRemove.1 hk'').2
  · -- the key was active: only entries of the old active pool are left
    have hsub : ∀ e ∈ active.entries, e ∈ g.active.entries := fun e he =>
      IndexMap.mem_of_mem_swapRemove (by rw [ha]; exact he)
    refine h.updateSampler rfl (fun e he => .inl (hsub e he)) (by simp) ?_
    intro k hk
    have hk' : k ∈ (g.active.swapRemove key).2.keys := by rw [ha]; exact hk
    exact h.disjoint k (IndexMap.mem_keys_swapRemove.1 hk').2

lemma Inv.evict (h : Inv g) : Inv (g.evict key) := by
  unfold EndpointGroup.evict
  rcases ha : g.active.swapRemove key with ⟨_ | ep, active⟩
  · exact h
  · have hsub : ∀ e ∈ active.entries, e ∈ g.active.entries := fun e he =>
      IndexMap.mem_of_mem_swapRemove (by rw [ha]; exact he)
    refine h.updateSampler rfl (fun e he => .inl (hsub e he)) (by simp) ?_
    have hd := IndexMap.disjoint_swapRemove_insert (k := key) (v := ep) h.disjoint
    rw [ha] at hd
    exact hd

lemma unevict_of_edit {edit : EndpointWithInfo T I → Bool} {ep : EndpointWithInfo T I}
    (hr : (g.rejected.swapRemove key).1 = some ep) (he : edit ep = true) :
    g.unevict key edit = g.add key ep := by
  unfold unevict add
  rcases hs : g.rejected.swapRemove key with ⟨o, rejected⟩
  rw [hs] at hr
  subst hr
  simp only [he, if_true]

lemma Inv.unevict (h : Inv g) (edit : EndpointWithInfo T I → Bool) : Inv (g.unevict key edit) := by
  rcases hr : g.rejected.swapRemove key with ⟨_ | ep, rejected⟩
  · -- not rejected: nothing changes
    unfold EndpointGroup.unevict
    rw [hr]
    exact h
  by_cases he : edit ep = true
  · rw [unevict_of_edit (by rw [hr]) he]
    exact h.add ep
  · -- the edit refuses: the entry goes back into the rejected pool and the active pool is untouched
    unfold EndpointGroup.unevict
    rw [hr]
    simp only [he]
    refine ⟨h.sampler, ?_⟩
    intro k hk hk'
    rcases IndexMap.mem_keys_insert.1 hk' with rfl | hk'
    · exact h.disjoint k hk (IndexMap.mem_keys_of_swapRemove_some (by rw [hr]))
    · have hk'' : k ∈ (g.rejected.swapRemove key).2.keys := by rw [hr]; exact hk'
      exact h.disjoint k hk (IndexMap.mem_keys_swapRemove.1 hk'').2

/-- The changes `EndpointSet` makes to one group: `event` adds and removes endpoints, the eviction
worker evicts and unevicts them. -/
inductive Op (K T I : Type) where
  | add (key : K) (ep : EndpointWithInfo T I)
  | remove (key : K)
  | evict (key : K)
  | unevict (key : K) (edit : EndpointWithInfo T I → Bool)

def apply (g : EndpointGroup K T I) : Op K T I → EndpointGroup K T I
  | .add key ep => g.add key ep
  | .remove key => g.remove key
  | .evict key => g.evict key
  | .unevict key edit => g.unevict key edit

def run (g : EndpointGroup K T I) : List (Op K T I) → EndpointGroup K T I
  | [] => g
  | op :: ops => (g.apply op).run ops

lemma Inv.apply (h : Inv g) : ∀ op : Op K T I, Inv (g.apply op)
  | .add _ ep => h.add ep
  | .remove _ => h.remove
  | .evict _ => h.evict
  | .unevict _ edit => h.unevict edit

lemma Inv.run (h : Inv g) (ops : List (Op K T I)) : Inv (g.run ops) := by
  induction ops generalizing g with
  | nil => exact h
  | cons op ops ih => exact ih (h.apply op)

end EndpointGroup

structure ActiveEndpointsIter (K T I : Type) where
  group : EndpointGroup K T I

namespace ActiveEndpointsIter

def isActivePhase (it : ActiveEndpointsIter K T I) : Bool := !it.group.active.isEmpty

def index (it : ActiveEndpointsIter K T I) : Pool K T I :=
  if it.isActivePhase then it.group.active else it.group.rejected

def sampler (it : ActiveEndpointsIter K T I) : Option Sampler :=
  if it.isActivePhase then some it.group.sampler else none

end ActiveEndpointsIter

/-- The probability that one of the two draws of `select_p2c` is index `i` of `index()`: nothing is
drawn from an empty index or with a drained sampler, `WeightedIndex` draws `i` with probability
`w i / Σ w`, and `random_range(0..len)` draws every index below `len` alike. -/
def drawProb (it : ActiveEndpointsIter K T I) (i : Nat) : ℚ :=
  if it.index.isEmpty then 0
  else match it.sampler with
    | some .drained => 0
    | some (.weighted ws) => (ws.getD i 0 : ℚ) / ws.sum
    | some .uniform | none => if i < it.index.len then 1 / it.index.len else 0

def capacities (pool : Pool K T I) : List Nat := pool.entries.map fun e => e.2.capacity

def capacityShare (pool : Pool K T I) (i : Nat) : ℚ := ((capacities pool).getD i 0 : ℚ) / (capacities pool).sum

section Draw

omit [DecidableEq K]

variable {l : List (K × EndpointWithInfo T I)}

lemma map_capacity_of_forall {c : Nat} (h : ∀ e ∈ l, e.2.capacity = c) :
    l.map (fun e => e.2.capacity) = List.replicate l.length c := by
  rw [List.eq_replicate_iff]
  exact ⟨List.length_map _, fun b hb => by
    obtain ⟨e, he, rfl⟩ := List.mem_map.1 hb
    exact h e he⟩

lemma buildSampler_of_not (h1 : ¬ ∀ e ∈ l, e.2.capacity = 1) (h0 : ¬ ∀ e ∈ l, e.2.capacity = 0) :
    buildSampler l = .weighted (l.map fun e => e.2.capacity) := by
  have hne : ¬ (l = [] ∨ ∀ e ∈ l, e.2.capacity = 1) := by
    rintro (rfl | h)
    · exact h1 (by simp)
    · exact h1 h
  rw [buildSampler_eq, if_neg hne, if_neg h0]

lemma eq_map_of_buildSampler {ws : List Nat} (h : buildSampler l = .weighted ws) :
    ws = l.map fun e => e.2.capacity := by
  rw [buildSampler_eq] at h
  split_ifs at h
  cases h
  rfl

variable {g : EndpointGroup K T I}

lemma index_of_active (ha : g.active.isEmpty = false) : (ActiveEndpointsIter.mk g).index = g.active := by
  simp [ActiveEndpointsIter.index, ActiveEndpointsIter.isActivePhase, ha]

lemma sampler_of_active (ha : g.active.isEmpty = false) : (ActiveEndpointsIter.mk g).sampler = some g.sampler := by
  simp [ActiveEndpointsIter.sampler, ActiveEndpointsIter.isActivePhase, ha]

lemma active_of_sampler {s : Sampler} (h : (ActiveEndpointsIter.mk g).sampler = some s) :
    g.active.isEmpty = false := by
  unfold ActiveEndpointsIter.sampler ActiveEndpointsIter.isActivePhase at h
  split at h
  · next ha => simpa using ha
  · cases h

theorem drawProb_of_active (h : g.Inv) (ha : g.active.isEmpty = false) (i : Nat) :
    drawProb ⟨g⟩ i = capacityShare g.active i := by
  have hne : g.active.entries ≠ [] := List.isEmpty_eq_false_iff.1 ha
  unfold drawProb capacityShare capacities
  rw [index_of_active ha, sampler_of_active ha, if_neg (by simp [ha]), h.sampler]
  by_cases h1 : ∀ e ∈ g.active.entries, e.2.capacity = 1
  · -- uniform: every capacity is one, so the total is the length
    have hsum : (List.replicate g.active.entries.length 1).sum = g.active.len := by
      simp [IndexMap.len]
    rw [buildSampler_of_forall_one h1, map_capacity_of_forall h1, hsum]
    dsimp only
    split_ifs with hi
    · rw [List.getD_replicate 1 (show i < g.active.entries.length from hi)]
      simp
    · rw [List.getD_eq_default _ _ (by simpa [IndexMap.len] using hi)]
      simp
  by_cases h0 : ∀ e ∈ g.active.entries, e.2.capacity = 0
  · -- drained: every capacity is zero, so the total is zero and nothing is drawn
    rw [buildSampler_of_forall_zero hne h0, map_capacity_of_forall h0]
    simp
  · rw [buildSampler_of_not h1 h0]

/-- `get_index(idx).expect(..)` never panics: every index drawn with positive probability is below the
length of the pool drawn from. -/
theorem drawProb_lt_len (h : g.Inv) {i : Nat} (hi : drawProb ⟨g⟩ i ≠ 0) :
    i < (ActiveEndpointsIter.mk g).index.len := by
  unfold drawProb at hi
  by_cases he : (ActiveEndpointsIter.mk g).index.isEmpty
  · simp [he] at hi
  rw [if_neg he] at hi
  rcases hs : (ActiveEndpointsIter.mk g).sampler with _ | (_ | ws | _) <;> rw [hs] at hi <;> dsimp only at hi
  · -- the rejected fallback: a uniform draw below the length
    by_contra hl
    exact hi (if_neg hl)
  · by_contra hl
    exact hi (if_neg hl)
  · -- a weighted sampler belongs to the active phase, where it has one weight per active entry
    have ha := active_of_sampler hs
    rw [sampler_of_active ha, Option.some.injEq, h.sampler] at hs
    rw [index_of_active ha]
    by_contra hlen
    apply hi
    rw [eq_map_of_buildSampler hs, List.getD_eq_default _ _ (by simpa [IndexMap.len] using hlen)]
    simp
  · exact absurd rfl hi

end Draw

open EndpointGroup in
theorem sampler_fast_path_agrees_with_rebuild (g₀ : EndpointGroup K T I)
    (h₀ : g₀ = default ∨ ∃ active rejected : Pool K T I,
      (∀ k ∈ active.keys, k ∉ rejected.keys) ∧ g₀ = fromPools active rejected)
    (ops : List (Op K T I)) :
    let g := g₀.run ops
    (∀ k ∈ g.active.keys, k ∉ g.rejected.keys) ∧
    g.sampler =
      (if g.active.entries = [] ∨ ∀ e ∈ g.active.entries, e.2.capacity = 1 then .uniform
      else if ∀ e ∈ g.active.entries, e.2.capacity = 0 then .drained
      else .weighted (g.active.entries.map fun e => e.2.capacity)) ∧
    (∀ i, drawProb ⟨g⟩ i ≠ 0 → i < (ActiveEndpointsIter.mk g).index.len) ∧
    (g.active.isEmpty = false → ∀ i, drawProb ⟨g⟩ i = capacityShare g.active i) := by
  intro g
  have h : g.Inv := by
    refine Inv.run ?_ ops
    rcases h₀ with rfl | ⟨active, rejected, hd, rfl⟩
    · exact inv_default
    · exact inv_fromPools hd
  exact ⟨h.disjoint, h.sampler.trans (buildSampler_eq _), fun _ => drawProb_lt_len h, drawProb_of_active h⟩

open EndpointGroup in
theorem sampler_fast_path_agrees_after_add :
    ((default : EndpointGroup Nat Unit Unit) = default ∨ ∃ active rejected : Pool Nat Unit Unit,
      (∀ k ∈ active.keys, k ∉ rejected.keys) ∧ default = fromPools active rejected) ∧
    let g := (default : EndpointGroup Nat Unit Unit).run [.add 1 ⟨(), (), 2⟩, .add 2 ⟨(), (), 0⟩]
    (∀ k ∈ g.active.keys, k ∉ g.rejected.keys) ∧
    g.sampler =
      (if g.active.entries = [] ∨ ∀ e ∈ g.active.entries, e.2.capacity = 1 then .uniform
      else if ∀ e ∈ g.active.entries, e.2.capacity = 0 then .drained
      else .weighted (g.active.entries.map fun e => e.2.capacity)) ∧
    (∀ i, drawProb ⟨g⟩ i ≠ 0 → i < (ActiveEndpointsIter.mk g).index.len) ∧
    (g.active.isEmpty = false → ∀ i, drawProb ⟨g⟩ i = capacityShare g.active i) :=
  ⟨.inl rfl, sampler_fast_path_agrees_with_rebuild default (.inl rfl) [.add 1 ⟨(), (), 2⟩, .add 2 ⟨(), (), 0⟩]⟩

/-- Where the agreement stops: `from_pools` does not check that its pools are disjoint, and with no
active endpoint `select_p2c` draws the rejected ones uniformly whatever their capacities, here an
endpoint of capacity 0 with probability one half. -/
theorem sampler_overlap_and_fallback :
    (let a : Pool Nat Unit Unit := IndexMap.empty.insert 1 ⟨(), (), 1⟩
     1 ∈ (EndpointGroup.fromPools a a).active.keys ∧ 1 ∈ (EndpointGroup.fromPools a a).rejected.keys) ∧
    (let g := (EndpointGroup.default : EndpointGroup Nat Unit Unit).run
        [.add 1 ⟨(), (), 0⟩, .add 2 ⟨(), (), 5⟩, .evict 1, .evict 2]
     g.active.isEmpty = true ∧ drawProb ⟨g⟩ 0 = 1 / 2 ∧ capacityShare g.rejected 0 = 0) := by
  refine ⟨by decide, ?_⟩
  intro g
  -- the two evictions leave the active pool empty and the rejected pool in eviction order
  have hA : g.active.entries = [] := rfl
  have hR : g.rejected.entries = [(1, ⟨(), (), 0⟩), (2, ⟨(), (), 5⟩)] := rfl
  refine ⟨by simp [IndexMap.isEmpty, hA], ?_, ?_⟩
  · simp [drawProb, ActiveEndpointsIter.index, ActiveEndpointsIter.sampler, ActiveEndpointsIter.isActivePhase,
      IndexMap.isEmpty, IndexMap.len, hA, hR]
  · simp [capacityShare, capacities, hR]

end AgentGateway.LoadBalancer
