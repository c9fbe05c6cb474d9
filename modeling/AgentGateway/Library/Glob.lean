import Mathlib.Computability.Language

/-! Glob patterns over an alphabet with one wildcard symbol, and their languages. -/

namespace Library.Glob

variable {α : Type*} [DecidableEq α] (star : α)

def atom (c : α) : Language α := if c = star then ⊤ else {[c]}

def lang (p : List α) : Language α := (p.map (atom star)).prod

variable {star} {p q u w : List α} {c : α}

@[simp] lemma lang_nil : lang star ([] : List α) = 1 := rfl

lemma lang_cons : lang star (c :: p) = atom star c * lang star p := List.prod_cons

lemma lang_append : lang star (p ++ q) = lang star p * lang star q := by
  simp [lang, List.prod_append]

lemma mem_lang_nil : w ∈ lang star ([] : List α) ↔ w = [] := Language.mem_one w

lemma mem_lang_star_cons : w ∈ lang star (star :: p) ↔ ∃ u v, w = u ++ v ∧ v ∈ lang star p := by
  rw [lang_cons, atom, if_pos rfl, Language.mem_mul]
  constructor
  · rintro ⟨u, -, v, hv, rfl⟩
    exact ⟨u, v, rfl, hv⟩
  · rintro ⟨u, v, rfl, hv⟩
    exact ⟨u, trivial, v, hv, rfl⟩

lemma mem_lang_lit_cons (hc : c ≠ star) : w ∈ lang star (c :: p) ↔ ∃ v, w = c :: v ∧ v ∈ lang star p := by
  rw [lang_cons, atom, if_neg hc, Language.mem_mul]
  constructor
  · rintro ⟨_, rfl, v, hv, rfl⟩
    exact ⟨v, rfl, hv⟩
  · rintro ⟨v, rfl, hv⟩
    exact ⟨[c], rfl, v, hv, rfl⟩

lemma lang_of_not_mem (hu : star ∉ u) : lang star u = {u} := by
  induction u with
  | nil => rfl
  | cons c u ih =>
    have hc : c ≠ star := fun h => hu (h ▸ List.mem_cons_self)
    ext w
    rw [mem_lang_lit_cons hc, ih (fun h => hu (List.mem_cons_of_mem c h))]
    constructor
    · rintro ⟨v, rfl, rfl⟩
      rfl
    · rintro rfl
      exact ⟨u, rfl, rfl⟩

lemma mem_lang_literal_append (hu : star ∉ u) :
    w ∈ lang star (u ++ p) ↔ ∃ v, w = u ++ v ∧ v ∈ lang star p := by
  rw [lang_append, lang_of_not_mem hu, Language.mem_mul]
  constructor
  · rintro ⟨_, rfl, v, hv, rfl⟩
    exact ⟨v, rfl, hv⟩
  · rintro ⟨v, rfl, hv⟩
    exact ⟨u, rfl, v, hv, rfl⟩

section Suffix

variable {v : List α} {j k : Nat}

omit [DecidableEq α] in
lemma drop_eq_cons_of_getElem? (h : v[j]? = some c) : v.drop j = c :: v.drop (j + 1) := by
  obtain ⟨hj, rfl⟩ := List.getElem?_eq_some_iff.1 h
  exact List.drop_eq_getElem_cons hj

omit [DecidableEq α] in
lemma eq_drop_of_drop_eq_append (h : v.drop j = u ++ w) : w = v.drop (j + u.length) := by
  rw [← List.drop_drop, h, List.drop_left]

lemma drop_mem_lang_star_cons :
    v.drop j ∈ lang star (star :: p) ↔ ∃ k, j ≤ k ∧ v.drop k ∈ lang star p := by
  rw [mem_lang_star_cons]
  constructor
  · rintro ⟨u, w, h, hw⟩
    exact ⟨j + u.length, by omega, eq_drop_of_drop_eq_append h ▸ hw⟩
  · rintro ⟨k, hjk, hk⟩
    have hdrop : v.drop k = (v.drop j).drop (k - j) := by rw [List.drop_drop, Nat.add_sub_cancel' hjk]
    exact ⟨(v.drop j).take (k - j), v.drop k, by rw [hdrop, List.take_append_drop], hk⟩

lemma drop_mem_lang_lit_cons (hc : c ≠ star) (hv : v[j]? = some c) :
    v.drop j ∈ lang star (c :: p) ↔ v.drop (j + 1) ∈ lang star p := by
  rw [drop_eq_cons_of_getElem? hv, mem_lang_lit_cons hc]
  constructor
  · rintro ⟨w, hw, hwp⟩
    exact (List.cons.inj hw).2 ▸ hwp
  · intro h
    exact ⟨_, rfl, h⟩

lemma drop_not_mem_lang_of_mismatch (hj : j < v.length)
    (h : p = [] ∨ ∃ c q, p = c :: q ∧ c ≠ star ∧ v[j]? ≠ some c) : v.drop j ∉ lang star p := by
  rcases h with rfl | ⟨c, q, rfl, hc, hvc⟩
  · rw [mem_lang_nil, List.drop_eq_nil_iff]
    omega
  · rw [mem_lang_lit_cons hc]
    rintro ⟨w, hw, -⟩
    apply hvc
    rw [List.drop_eq_getElem_cons hj, List.cons.injEq] at hw
    rw [List.getElem?_eq_getElem hj, hw.1]

end Suffix

end Library.Glob
