import Mathlib.Data.List.Basic

/-! `slice::binary_search_by` and insertion at the position it returns; a failing comparator
aborts the search. -/

namespace Library.BinarySearch

variable {α : Type*}

/-- The halving loop: `base` moves up to `mid` unless the element there compares greater, and the
window shrinks by `size / 2`. `fuel` bounds the number of rounds. -/
def searchLoop (v : List α) (f : α → Option Ordering) : ℕ → ℕ → ℕ → Option ℕ
  | 0, base, _ => some base
  | fuel + 1, base, size =>
    if size ≤ 1 then some base
    else do
      let c ← v[base + size / 2]?.bind f
      searchLoop v f fuel (if c = .gt then base else base + size / 2) (size - size / 2)

def binarySearchBy (v : List α) (f : α → Option Ordering) : Option (Except ℕ ℕ) :=
  if v.length = 0 then some (.error 0)
  else do
    let base ← searchLoop v f v.length 0 v.length
    let c ← v[base]?.bind f
    pure (if c = .eq then .ok base else .error (base + if c = .lt then 1 else 0))

def position : Except ℕ ℕ → ℕ
  | .ok p => p
  | .error p => p

def Partitioned (g : α → Ordering) (v : List α) : Prop :=
  v.Pairwise fun a b => (g b = .lt → g a = .lt) ∧ (g a = .gt → g b = .gt)

section Spec

variable {v : List α} {f : α → Option Ordering} {g : α → Ordering}

lemma Partitioned.gt_of_gt (hp : Partitioned g v) {i j : ℕ} {x y : α} (hij : i < j)
    (hx : v[i]? = some x) (hy : v[j]? = some y) (h : g x = .gt) : g y = .gt := by
  obtain ⟨hi, rfl⟩ := List.getElem?_eq_some_iff.mp hx
  obtain ⟨hj, rfl⟩ := List.getElem?_eq_some_iff.mp hy
  exact ((List.pairwise_iff_getElem.mp hp) i j hi hj hij).2 h

lemma bind_getElem?_of_lt (hf : ∀ x ∈ v, f x = some (g x)) {i : ℕ} (hi : i < v.length) :
    v[i]?.bind f = some (g v[i]) := by
  rw [List.getElem?_eq_getElem hi, Option.bind_some, hf _ (List.getElem_mem hi)]

lemma searchLoop_spec (hf : ∀ x ∈ v, f x = some (g x)) (hp : Partitioned g v) :
    ∀ fuel base size, 1 ≤ size → size ≤ fuel + 1 → base + size ≤ v.length →
      (0 < base → ∀ x, v[base]? = some x → g x ≠ .gt) →
      (∀ i x, base + size ≤ i → v[i]? = some x → g x = .gt) →
      ∃ b, searchLoop v f fuel base size = some b ∧ b < v.length ∧
        (0 < b → ∀ x, v[b]? = some x → g x ≠ .gt) ∧
        (∀ i x, b < i → v[i]? = some x → g x = .gt) := by
  intro fuel
  induction fuel with
  | zero =>
    intro base size h1 hs hlen hbase hpast
    refine ⟨base, rfl, by omega, hbase, fun i x hi hx => hpast i x (by omega) hx⟩
  | succ fuel ih =>
    intro base size h1 hs hlen hbase hpast
    by_cases hsize : size ≤ 1
    · refine ⟨base, by simp [searchLoop, hsize], by omega, hbase,
        fun i x hi hx => hpast i x (by omega) hx⟩
    have hmid : base + size / 2 < v.length := by omega
    have hc := bind_getElem?_of_lt hf hmid
    simp only [searchLoop, hsize, if_false, hc, Option.bind_eq_bind, Option.bind_some]
    by_cases hgt : g v[base + size / 2] = .gt
    · -- the middle element is greater: keep `base`, everything from `mid` on is greater
      rw [if_pos hgt]
      refine ih base (size - size / 2) (by omega) (by omega) (by omega) hbase ?_
      intro i x hi hx
      rcases Nat.lt_or_ge i (base + size / 2) with hlt | hge
      · omega
      rcases Nat.eq_or_lt_of_le hge with heq | hlt
      · subst heq
        rw [List.getElem?_eq_getElem hmid] at hx
        cases hx
        exact hgt
      · exact hp.gt_of_gt hlt (List.getElem?_eq_getElem hmid) hx hgt
    · -- the middle element is not greater: it becomes the candidate
      rw [if_neg hgt]
      refine ih (base + size / 2) (size - size / 2) (by omega) (by omega) (by omega) ?_ ?_
      · intro _ x hx
        rw [List.getElem?_eq_getElem hmid] at hx
        cases hx
        exact hgt
      · intro i x hi hx
        exact hpast i x (by omega) hx

/-- The position returned splits `v`: nothing before it compares greater, nothing from it on
compares less. -/
theorem binarySearchBy_spec (hf : ∀ x ∈ v, f x = some (g x)) (hp : Partitioned g v) :
    ∃ r, binarySearchBy v f = some r ∧ position r ≤ v.length ∧
      (∀ i x, i < position r → v[i]? = some x → g x ≠ .gt) ∧
      (∀ i x, position r ≤ i → v[i]? = some x → g x ≠ .lt) := by
  by_cases hnil : v.length = 0
  · refine ⟨.error 0, by simp [binarySearchBy, hnil], by simp [position], ?_, ?_⟩
    · intro i x hi
      simp [position] at hi
    · intro i x _ hx
      have := (List.getElem?_eq_some_iff.mp hx).1
      omega
  obtain ⟨b, hloop, hb, hcand, hpast⟩ := searchLoop_spec hf hp v.length 0 v.length
    (by omega) (by omega) (by omega) (by omega) fun i x hi hx => by
      have := (List.getElem?_eq_some_iff.mp hx).1
      omega
  have hc := bind_getElem?_of_lt hf hb
  have hvb := List.getElem?_eq_getElem hb
  -- every element before the candidate is not greater than it
  have hbefore : ∀ i x, i < b → v[i]? = some x → g x ≠ .gt := by
    intro i x hi hx hx'
    exact hcand (by omega) _ hvb (hp.gt_of_gt hi hx hvb hx')
  simp only [binarySearchBy, hnil, if_false, hloop, hc, Option.bind_eq_bind, Option.bind_some]
  by_cases heq : g v[b] = .eq
  · refine ⟨.ok b, by simp [heq], by simp [position]; omega, hbefore, ?_⟩
    intro i x hi hx
    rcases Nat.eq_or_lt_of_le hi with rfl | hlt
    · simp only [position] at hx
      rw [hvb] at hx
      cases hx
      simp [heq]
    · simp [hpast i x hlt hx]
  by_cases hlt : g v[b] = .lt
  · refine ⟨.error (b + 1), by simp [hlt], by simp [position]; omega, ?_, ?_⟩
    · intro i x hi hx
      rcases Nat.lt_or_ge i b with hib | hib
      · exact hbefore i x hib hx
      · have hib' : i = b := by simp [position] at hi; omega
        subst hib'
        rw [hvb] at hx
        cases hx
        simp [hlt]
    · intro i x hi hx
      simp [hpast i x (by simp [position] at hi; omega) hx]
  -- the candidate is greater, so it is the start and everything is greater
  have hgt : g v[b] = .gt := by cases h : g v[b] <;> simp_all
  have hb0 : b = 0 := by
    by_contra hb0
    exact hcand (by omega) _ hvb hgt
  subst hb0
  refine ⟨.error 0, by simp [heq, hlt], by simp [position], ?_, ?_⟩
  · intro i x hi
    simp [position] at hi
  · intro i x _ hx
    rcases Nat.eq_zero_or_pos i with rfl | hi
    · rw [hvb] at hx
      cases hx
      simp [hgt]
    · simp [hp.gt_of_gt hi hvb hx hgt]

lemma searchLoop_total (hf : ∀ x ∈ v, (f x).isSome) :
    ∀ fuel base size, 1 ≤ size → base + size ≤ v.length →
      ∃ b, searchLoop v f fuel base size = some b ∧ b < v.length := by
  intro fuel
  induction fuel with
  | zero =>
    intro base size h1 hlen
    exact ⟨base, rfl, by omega⟩
  | succ fuel ih =>
    intro base size h1 hlen
    by_cases hsize : size ≤ 1
    · exact ⟨base, by simp [searchLoop, hsize], by omega⟩
    have hmid : base + size / 2 < v.length := by omega
    obtain ⟨c, hc⟩ := Option.isSome_iff_exists.mp (hf _ (List.getElem_mem hmid))
    simp only [searchLoop, hsize, if_false, List.getElem?_eq_getElem hmid, Option.bind_some, hc,
      Option.bind_eq_bind]
    -- either way the window keeps its end and at least one element
    split
    · exact ih base (size - size / 2) (by omega) (by omega)
    · exact ih (base + size / 2) (size - size / 2) (by omega) (by omega)

theorem binarySearchBy_total (hf : ∀ x ∈ v, (f x).isSome) : ∃ r, binarySearchBy v f = some r := by
  by_cases hnil : v.length = 0
  · exact ⟨.error 0, by simp [binarySearchBy, hnil]⟩
  obtain ⟨b, hloop, hb⟩ := searchLoop_total hf v.length 0 v.length (by omega) (by omega)
  obtain ⟨c, hc⟩ := Option.isSome_iff_exists.mp (hf _ (List.getElem_mem hb))
  simp [binarySearchBy, hnil, hloop, List.getElem?_eq_getElem hb, hc]

end Spec

section Insert

variable {R : α → α → Prop}

/-- `Vec::insert` at a position where everything before relates to `x` and `x` relates to
everything after keeps a list sorted. -/
theorem pairwise_insertIdx {l : List α} {p : ℕ} {x : α} (hl : l.Pairwise R) (hp : p ≤ l.length)
    (hbefore : ∀ i y, i < p → l[i]? = some y → R y x)
    (hafter : ∀ i y, p ≤ i → l[i]? = some y → R x y) :
    (l.insertIdx p x).Pairwise R := by
  induction l generalizing p with
  | nil =>
    obtain rfl : p = 0 := by simpa using hp
    simp
  | cons a l ih =>
    cases p with
    | zero =>
      rw [List.insertIdx_zero, List.pairwise_cons]
      refine ⟨fun y hy => ?_, hl⟩
      obtain ⟨i, hi, rfl⟩ := List.getElem_of_mem hy
      exact hafter i _ (Nat.zero_le _) (by simp)
    | succ p =>
      rw [List.insertIdx_succ_cons, List.pairwise_cons]
      rw [List.pairwise_cons] at hl
      refine ⟨fun y hy => ?_, ih hl.2 (by simpa using hp) ?_ ?_⟩
      · rcases (List.mem_insertIdx (by simpa using hp)).mp hy with rfl | hy
        · exact hbefore 0 a (by omega) rfl
        · exact hl.1 y hy
      · intro i y hi hy
        exact hbefore (i + 1) y (by omega) (by simpa using hy)
      · intro i y hi hy
        exact hafter (i + 1) y (by omega) (by simpa using hy)

lemma partitioned_of_sorted {cmp : α → α → Ordering} [Std.TransCmp cmp] {l : List α}
    (hl : l.Pairwise fun a b => (cmp a b).isLE) (x : α) :
    Partitioned (fun y => cmp y x) l := by
  refine hl.imp fun {a b} hab => ⟨fun h => ?_, fun h => ?_⟩
  · exact Std.TransCmp.lt_of_isLE_of_lt hab h
  · exact Std.TransCmp.gt_of_isGE_of_gt (Std.OrientedCmp.isGE_of_isLE hab) h

end Insert

section FirstMatch

end FirstMatch

end Library.BinarySearch
