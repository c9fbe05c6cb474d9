import Mathlib.Data.List.Perm.Basic
import Mathlib.Data.List.Nodup

/-! Insertion-ordered maps in the manner of the `indexmap` crate. -/

namespace Library

structure IndexMap (κ β : Type*) where
  entries : List (κ × β)
  nodup : (entries.map Prod.fst).Nodup

namespace IndexMap

variable {κ β : Type*} [DecidableEq κ]

def insertEntries (k : κ) (v : β) : List (κ × β) → List (κ × β)
  | [] => [(k, v)]
  | e :: l => if e.1 = k then (k, v) :: l else e :: insertEntries k v l

def swapRemoveEntries (k : κ) : List (κ × β) → Option β × List (κ × β)
  | [] => (none, [])
  | e :: l =>
    if e.1 = k then (some e.2, match l.getLast? with
      | none => []
      | some last => last :: l.dropLast)
    else ((swapRemoveEntries k l).1, e :: (swapRemoveEntries k l).2)

variable {k : κ} {v : β} {e : κ × β}

lemma mem_insertEntries : ∀ {l : List (κ × β)}, e ∈ insertEntries k v l → e = (k, v) ∨ e ∈ l
  | [], h => by simpa [insertEntries] using h
  | x :: l, h => by
    unfold insertEntries at h
    split at h
    · rcases List.mem_cons.1 h with rfl | h
      · exact .inl rfl
      · exact .inr (List.mem_cons_of_mem _ h)
    · rcases List.mem_cons.1 h with rfl | h
      · exact .inr List.mem_cons_self
      · exact (mem_insertEntries h).imp_right (List.mem_cons_of_mem _)

lemma self_mem_insertEntries : ∀ {l : List (κ × β)}, (k, v) ∈ insertEntries k v l
  | [] => List.mem_singleton_self _
  | x :: l => by
    unfold insertEntries
    split
    · exact List.mem_cons_self
    · exact List.mem_cons_of_mem _ self_mem_insertEntries

lemma keys_insertEntries : ∀ l : List (κ × β),
    (insertEntries k v l).map Prod.fst = if k ∈ l.map Prod.fst then l.map Prod.fst else l.map Prod.fst ++ [k]
  | [] => rfl
  | x :: l => by
    unfold insertEntries
    by_cases hx : x.1 = k
    · simp [hx]
    · rw [if_neg hx, List.map_cons, keys_insertEntries l]
      by_cases hk : k ∈ l.map Prod.fst <;> simp [hk, Ne.symm hx]

lemma swapRemoveEntries_perm : ∀ l : List (κ × β), (swapRemoveEntries k l).2.Perm (l.eraseP fun e => e.1 = k)
  | [] => List.Perm.refl _
  | x :: l => by
    unfold swapRemoveEntries
    by_cases hx : x.1 = k
    · -- the last entry moves into the hole
      rw [if_pos hx, List.eraseP_cons_of_pos (by simpa using hx)]
      cases h : l.getLast? with
      | none => simp [List.getLast?_eq_none_iff.1 h]
      | some last =>
        have hl := List.dropLast_append_getLast? last h
        dsimp only
        calc (last :: l.dropLast).Perm (l.dropLast ++ [last]) := (List.perm_append_singleton _ _).symm
          _ = l := hl
    · rw [if_neg hx, List.eraseP_cons_of_neg (by simpa using hx)]
      exact (swapRemoveEntries_perm l).cons x

lemma mem_eraseP_key : ∀ {l : List (κ × β)}, (l.map Prod.fst).Nodup →
    (e ∈ l.eraseP (fun e => e.1 = k) ↔ e.1 ≠ k ∧ e ∈ l)
  | [], _ => by simp
  | x :: l, hl => by
    rw [List.map_cons, List.nodup_cons] at hl
    by_cases hx : x.1 = k
    · rw [List.eraseP_cons_of_pos (by simpa using hx)]
      constructor
      · intro he
        exact ⟨fun hek => hl.1 (hx ▸ hek ▸ List.mem_map_of_mem he), List.mem_cons_of_mem _ he⟩
      · rintro ⟨hek, he⟩
        rcases List.mem_cons.1 he with rfl | he
        · exact absurd hx hek
        · exact he
    · rw [List.eraseP_cons_of_neg (by simpa using hx), List.mem_cons, List.mem_cons, mem_eraseP_key hl.2]
      constructor
      · rintro (rfl | ⟨hek, he⟩)
        · exact ⟨hx, .inl rfl⟩
        · exact ⟨hek, .inr he⟩
      · rintro ⟨hek, rfl | he⟩
        · exact .inl rfl
        · exact .inr ⟨hek, he⟩

lemma mem_of_mem_swapRemoveEntries {l : List (κ × β)} (h : e ∈ (swapRemoveEntries k l).2) : e ∈ l :=
  List.mem_of_mem_eraseP ((swapRemoveEntries_perm l).subset h)

lemma keys_swapRemoveEntries_sublist (l : List (κ × β)) :
    ∃ l', ((swapRemoveEntries k l).2.map Prod.fst).Perm l' ∧ List.Sublist l' (l.map Prod.fst) :=
  ⟨_, (swapRemoveEntries_perm l).map Prod.fst, (List.eraseP_sublist (l := l)).map Prod.fst⟩

lemma not_mem_keys_swapRemoveEntries {l : List (κ × β)} (hl : (l.map Prod.fst).Nodup) :
    k ∉ (swapRemoveEntries k l).2.map Prod.fst := by
  intro hk
  obtain ⟨e, he, rfl⟩ := List.mem_map.1 hk
  exact ((mem_eraseP_key hl).1 ((swapRemoveEntries_perm l).subset he)).1 rfl

lemma swapRemoveEntries_of_none : ∀ {l : List (κ × β)}, (swapRemoveEntries k l).1 = none →
    (swapRemoveEntries k l).2 = l
  | [], _ => rfl
  | x :: l, h => by
    unfold swapRemoveEntries at h ⊢
    split
    · next hx => simp [hx] at h
    · next hx =>
      rw [if_neg hx] at h
      rw [swapRemoveEntries_of_none h]

lemma mem_of_swapRemoveEntries_some : ∀ {l : List (κ × β)}, (swapRemoveEntries k l).1 = some v → (k, v) ∈ l
  | [], h => by cases h
  | x :: l, h => by
    unfold swapRemoveEntries at h
    split at h
    · next hx =>
      cases h
      exact hx ▸ List.mem_cons_self
    · exact List.mem_cons_of_mem _ (mem_of_swapRemoveEntries_some h)

def empty : IndexMap κ β := ⟨[], List.nodup_nil⟩

def keys (m : IndexMap κ β) : List κ := m.entries.map Prod.fst

def isEmpty (m : IndexMap κ β) : Bool := m.entries.isEmpty

def len (m : IndexMap κ β) : Nat := m.entries.length

def getIndex (m : IndexMap κ β) (i : Nat) : Option (κ × β) := m.entries[i]?

def containsKey (m : IndexMap κ β) (k : κ) : Bool := m.keys.contains k

def get (m : IndexMap κ β) (k : κ) : Option β := (m.entries.find? fun e => e.1 = k).map Prod.snd

def insert (m : IndexMap κ β) (k : κ) (v : β) : IndexMap κ β where
  entries := insertEntries k v m.entries
  nodup := by
    rw [keys_insertEntries]
    split
    · exact m.nodup
    · next hk =>
      refine List.nodup_append.2 ⟨m.nodup, List.nodup_singleton k, ?_⟩
      intro a ha b hb hab
      rw [List.mem_singleton] at hb
      exact hk (hb ▸ hab ▸ ha)

def swapRemove (m : IndexMap κ β) (k : κ) : Option β × IndexMap κ β :=
  ((swapRemoveEntries k m.entries).1,
    ⟨(swapRemoveEntries k m.entries).2, by
      obtain ⟨l', hp, hs⟩ := keys_swapRemoveEntries_sublist (k := k) m.entries
      exact hp.nodup_iff.2 (hs.nodup m.nodup)⟩)

variable {m : IndexMap κ β} {x : κ}

lemma swapRemove_of_none (h : (m.swapRemove k).1 = none) : (m.swapRemove k).2 = m := by
  cases m
  simp only [swapRemove, IndexMap.mk.injEq]
  exact swapRemoveEntries_of_none h

lemma mem_keys_of_swapRemove_some (h : (m.swapRemove k).1 = some v) : k ∈ m.keys :=
  List.mem_map_of_mem (f := Prod.fst) (mem_of_swapRemoveEntries_some h)

@[simp] lemma containsKey_iff : m.containsKey k = true ↔ k ∈ m.keys := List.contains_iff_mem

lemma mem_of_get_eq_some (h : m.get k = some v) : (k, v) ∈ m.entries := by
  obtain ⟨e, he, rfl⟩ := Option.map_eq_some_iff.1 h
  have hk : e.1 = k := by simpa using List.find?_some he
  exact hk ▸ List.mem_of_find?_eq_some he

lemma mem_keys_of_get_eq_some (h : m.get k = some v) : k ∈ m.keys :=
  List.mem_map_of_mem (f := Prod.fst) (mem_of_get_eq_some h)

lemma mem_insert {e : κ × β} : e ∈ (m.insert k v).entries → e = (k, v) ∨ e ∈ m.entries := mem_insertEntries

lemma self_mem_insert : (k, v) ∈ (m.insert k v).entries := self_mem_insertEntries

lemma mem_of_mem_swapRemove {e : κ × β} (h : e ∈ (m.swapRemove k).2.entries) : e ∈ m.entries :=
  mem_of_mem_swapRemoveEntries h

lemma mem_keys_insert : x ∈ (m.insert k v).keys ↔ x = k ∨ x ∈ m.keys := by
  simp only [keys, insert, keys_insertEntries]
  split
  · next hk => exact ⟨Or.inr, fun h => h.elim (fun hx => hx ▸ hk) id⟩
  · simp [or_comm]

lemma mem_keys_swapRemove : x ∈ (m.swapRemove k).2.keys ↔ x ≠ k ∧ x ∈ m.keys := by
  constructor
  · intro hx
    refine ⟨fun hxk => not_mem_keys_swapRemoveEntries m.nodup (hxk ▸ hx), ?_⟩
    obtain ⟨e, he, rfl⟩ := List.mem_map.1 hx
    exact List.mem_map_of_mem (mem_of_mem_swapRemoveEntries he)
  · rintro ⟨hxk, hx⟩
    obtain ⟨e, he, rfl⟩ := List.mem_map.1 hx
    have : e ∈ m.entries.eraseP fun e => e.1 = k := (mem_eraseP_key m.nodup).2 ⟨hxk, he⟩
    exact List.mem_map_of_mem ((swapRemoveEntries_perm m.entries).symm.subset this)

section Disjoint

variable {a r : IndexMap κ β}

-- moving a key from one map into another keeps two maps with disjoint keys disjoint
lemma disjoint_insert_swapRemove (h : ∀ x ∈ a.keys, x ∉ r.keys) :
    ∀ x ∈ (a.insert k v).keys, x ∉ (r.swapRemove k).2.keys := by
  intro x hx hx'
  obtain ⟨hxk, hr⟩ := mem_keys_swapRemove.1 hx'
  rcases mem_keys_insert.1 hx with rfl | ha
  · exact hxk rfl
  · exact h x ha hr

lemma disjoint_swapRemove_insert (h : ∀ x ∈ a.keys, x ∉ r.keys) :
    ∀ x ∈ (a.swapRemove k).2.keys, x ∉ (r.insert k v).keys := by
  intro x hx hx'
  obtain ⟨hxk, ha⟩ := mem_keys_swapRemove.1 hx
  rcases mem_keys_insert.1 hx' with rfl | hr
  · exact hxk rfl
  · exact h x ha hr

end Disjoint

end IndexMap

end Library
