import Mathlib

/-! Lists with distinct keys, searched with `iter().find` and `iter().position`. -/

namespace Library.KeyedList

variable {α κ : Type*} (key : α → κ) {l : List α} {n : κ} {i : Nat} {x y : α}

lemma eq_of_key_eq (hnd : (l.map key).Nodup) (hx : x ∈ l) (hy : y ∈ l) (h : key x = key y) : x = y :=
  List.inj_on_of_nodup_map hnd hx hy h

section Find

variable [BEq κ] [LawfulBEq κ]

lemma key_getElem_of_findIdx (hi : l.findIdx? (fun x => key x == n) = some i) :
    ∃ h : i < l.length, key l[i] = n := by
  obtain ⟨h, hp, -⟩ := List.findIdx?_eq_some_iff_getElem.1 hi
  exact ⟨h, beq_iff_eq.1 hp⟩

lemma findIdx_eq_none : l.findIdx? (fun x => key x == n) = none ↔ ∀ x ∈ l, key x ≠ n := by
  rw [List.findIdx?_eq_none_iff]
  simp

lemma find_eq_some (hnd : (l.map key).Nodup) : l.find? (fun x => key x == n) = some x ↔ x ∈ l ∧ key x = n := by
  constructor
  · intro h
    exact ⟨List.mem_of_find?_eq_some h, beq_iff_eq.1 (List.find?_eq_some_iff_getElem.1 h).1⟩
  · rintro ⟨hx, hk⟩
    have hsome : (l.find? fun x => key x == n).isSome := List.find?_isSome.2 ⟨x, hx, beq_iff_eq.2 hk⟩
    obtain ⟨y, hy⟩ := Option.isSome_iff_exists.1 hsome
    have hyk : key y = n := beq_iff_eq.1 (List.find?_eq_some_iff_getElem.1 hy).1
    rw [hy, eq_of_key_eq key hnd (List.mem_of_find?_eq_some hy) hx (hyk.trans hk.symm)]

section Position

variable (hnd : (l.map key).Nodup) (hi : l.findIdx? (fun x => key x == n) = some i)
include hnd hi

lemma index_eq_of_key {j : Nat} (hj : j < l.length) (hk : key l[j] = n) : j = i := by
  obtain ⟨hil, hki⟩ := key_getElem_of_findIdx key hi
  have : l[j] = l[i] := eq_of_key_eq key hnd (List.getElem_mem hj) (List.getElem_mem hil) (hk.trans hki.symm)
  exact (List.Nodup.getElem_inj_iff (List.Nodup.of_map key hnd)).1 this

lemma mem_modify_findIdx (f : α → α) :
    y ∈ l.modify i f ↔ (y ∈ l ∧ key y ≠ n) ∨ ∃ x ∈ l, key x = n ∧ y = f x := by
  obtain ⟨hil, hki⟩ := key_getElem_of_findIdx key hi
  constructor
  · intro hy
    obtain ⟨j, hj, rfl⟩ := List.getElem_of_mem hy
    have hj' : j < l.length := by simpa using hj
    rw [List.getElem_modify]
    split_ifs with hij
    · subst hij
      exact .inr ⟨l[i], List.getElem_mem hil, hki, rfl⟩
    · exact .inl ⟨List.getElem_mem hj', fun hk => hij (index_eq_of_key key hnd hi hj' hk).symm⟩
  · rintro (⟨hy, hk⟩ | ⟨x, hx, hk, rfl⟩)
    · obtain ⟨j, hj, rfl⟩ := List.getElem_of_mem hy
      have hji : i ≠ j := fun h => hk (h ▸ hki)
      have hj' : j < (l.modify i f).length := by simpa using hj
      have he := List.getElem_modify f i l j hj'
      rw [if_neg hji] at he
      rw [← he]
      exact List.getElem_mem hj'
    · have hxi : x = l[i] := eq_of_key_eq key hnd hx (List.getElem_mem hil) (hk.trans hki.symm)
      have hi' : i < (l.modify i f).length := by simpa using hil
      subst hxi
      have he := List.getElem_modify f i l i hi'
      rw [if_pos rfl] at he
      rw [← he]
      exact List.getElem_mem hi'

lemma mem_eraseIdx_findIdx : y ∈ l.eraseIdx i ↔ y ∈ l ∧ key y ≠ n := by
  obtain ⟨hil, hki⟩ := key_getElem_of_findIdx key hi
  rw [List.mem_eraseIdx_iff_getElem]
  constructor
  · rintro ⟨j, hj, hji, rfl⟩
    exact ⟨List.getElem_mem hj, fun hk => hji (index_eq_of_key key hnd hi hj hk)⟩
  · rintro ⟨hy, hk⟩
    obtain ⟨j, hj, rfl⟩ := List.getElem_of_mem hy
    exact ⟨j, hj, fun hji => hk (hji ▸ hki), rfl⟩

lemma mem_set_findIdx (v : α) : y ∈ l.set i v ↔ y = v ∨ (y ∈ l ∧ key y ≠ n) := by
  obtain ⟨hil, hki⟩ := key_getElem_of_findIdx key hi
  constructor
  · intro hy
    obtain ⟨j, hj, rfl⟩ := List.getElem_of_mem hy
    have hj' : j < l.length := by simpa using hj
    rw [List.getElem_set]
    split_ifs with hij
    · exact .inl rfl
    · exact .inr ⟨List.getElem_mem hj', fun hk => hij (index_eq_of_key key hnd hi hj' hk).symm⟩
  · rintro (rfl | ⟨hy, hk⟩)
    · exact List.mem_set hil y
    · obtain ⟨j, hj, rfl⟩ := List.getElem_of_mem hy
      have hji : i ≠ j := fun h => hk (h ▸ hki)
      have hj' : j < (l.set i v).length := by simpa using hj
      have he : (l.set i v)[j] = l[j] := by rw [List.getElem_set, if_neg hji]
      rw [← he]
      exact List.getElem_mem hj'

end Position

lemma nodup_map_set (hnd : (l.map key).Nodup) {v : α} (hi : l.findIdx? (fun x => key x == n) = some i)
    (hv : key v = n) : ((l.set i v).map key).Nodup := by
  obtain ⟨hil, hki⟩ := key_getElem_of_findIdx key hi
  have : (l.set i v).map key = l.map key := by
    refine List.ext_getElem (by simp) fun j h₁ h₂ => ?_
    simp only [List.getElem_map, List.getElem_set]
    split_ifs with hij
    · subst hij
      rw [hv, hki]
    · rfl
  rwa [this]

end Find

lemma nodup_map_modify (hnd : (l.map key).Nodup) (f : α → α) (hf : ∀ x, key (f x) = key x) :
    ((l.modify i f).map key).Nodup := by
  have : (l.modify i f).map key = l.map key := by
    refine List.ext_getElem (by simp) fun j h₁ h₂ => ?_
    simp only [List.getElem_map, List.getElem_modify]
    split_ifs <;> simp [hf]
  rwa [this]

lemma nodup_map_eraseIdx (hnd : (l.map key).Nodup) : ((l.eraseIdx i).map key).Nodup :=
  hnd.sublist ((List.eraseIdx_sublist l i).map key)

lemma nodup_map_append (hnd : (l.map key).Nodup) {v : α} (hv : ∀ x ∈ l, key x ≠ key v) :
    ((l ++ [v]).map key).Nodup := by
  rw [List.map_append, List.nodup_append]
  refine ⟨hnd, List.nodup_singleton _, fun a ha b hb hab => ?_⟩
  obtain ⟨x, hx, rfl⟩ := List.mem_map.1 ha
  simp only [List.map_cons, List.map_nil, List.mem_singleton] at hb
  exact hv x hx (hab.trans hb)

end Library.KeyedList
