import Mathlib

/-! Hash maps as association lists, rewritten in one pass as `HashMap::retain` does. -/

namespace Library.Map

variable {κ β γ : Type*}

def filterMapEntries (f : κ → β → Option γ) :
    List (Sigma fun _ : κ => β) → List (Sigma fun _ : κ => γ) :=
  List.filterMap fun x => (f x.1 x.2).map (Sigma.mk x.1)

lemma keys_filterMapEntries_sublist (f : κ → β → Option γ) :
    ∀ l : List (Sigma fun _ : κ => β), List.Sublist (filterMapEntries f l).keys l.keys
  | [] => by simp [filterMapEntries]
  | x :: l => by
    have ih := keys_filterMapEntries_sublist f l
    cases hx : f x.1 x.2 with
    | none => simpa [filterMapEntries, List.filterMap_cons, hx] using ih.cons x.1
    | some c => simpa [filterMapEntries, List.filterMap_cons, hx] using ih.cons_cons x.1

def filterMapVals (f : κ → β → Option γ) (s : AList fun _ : κ => β) : AList fun _ : κ => γ :=
  ⟨filterMapEntries f s.entries, (keys_filterMapEntries_sublist f s.entries).nodup s.nodupKeys⟩

variable [DecidableEq κ]

lemma dlookup_filterMapEntries (f : κ → β → Option γ) (a : κ) :
    ∀ l : List (Sigma fun _ : κ => β), l.NodupKeys →
      (filterMapEntries f l).dlookup a = (l.dlookup a).bind (f a)
  | [], _ => rfl
  | ⟨k, b⟩ :: l, hnd => by
    have hl : l.NodupKeys := (List.nodupKeys_cons.mp hnd).2
    have hk : k ∉ l.keys := (List.nodupKeys_cons.mp hnd).1
    have ih := dlookup_filterMapEntries f a l hl
    by_cases hka : a = k
    · subst hka
      have hnone : l.dlookup a = none := List.dlookup_eq_none.mpr hk
      cases hf : f a b <;> simp [filterMapEntries, hf] at ih ⊢
      all_goals simp [ih, hnone]
    · have hka' : k ≠ a := Ne.symm hka
      cases hf : f k b <;> simp [filterMapEntries, hf, List.dlookup, hka'] at ih ⊢ <;> exact ih

@[simp] theorem lookup_filterMapVals (f : κ → β → Option γ) (s : AList fun _ : κ => β) (a : κ) :
    (filterMapVals f s).lookup a = (s.lookup a).bind (f a) :=
  dlookup_filterMapEntries f a s.entries s.nodupKeys

/-! Maps as functions `κ → Option β`: deleting a list of keys, and setting the entries of a list
of records in order, the later record of a key winning. -/

section Update

variable {ρ : Type*} {m : κ → Option β} {a : κ} {v : Option β}

def eraseAll (l : List κ) (m : κ → Option β) : κ → Option β :=
  l.foldl (fun m k => Function.update m k none) m

def setAll (p : ρ → Bool) (key : ρ → κ) (val : ρ → β) (rs : List ρ) (m : κ → Option β) : κ → Option β :=
  rs.foldl (fun m r => if p r then Function.update m (key r) (some (val r)) else m) m

@[simp] lemma eraseAll_nil : eraseAll [] m = m := rfl

@[simp] lemma eraseAll_cons (k : κ) (l : List κ) : eraseAll (k :: l) m = eraseAll l (Function.update m k none) := rfl

@[simp] lemma setAll_nil (p : ρ → Bool) (key : ρ → κ) (val : ρ → β) : setAll p key val [] m = m := rfl

lemma setAll_cons (p : ρ → Bool) (key : ρ → κ) (val : ρ → β) (r : ρ) (rs : List ρ) :
    setAll p key val (r :: rs) m =
      setAll p key val rs (if p r then Function.update m (key r) (some (val r)) else m) := rfl

lemma eraseAll_update (l : List κ) (ha : a ∉ l) (m : κ → Option β) :
    eraseAll l (Function.update m a v) = Function.update (eraseAll l m) a v := by
  induction l generalizing m with
  | nil => rfl
  | cons k l ih =>
    have hk : a ≠ k := fun h => ha (h ▸ List.mem_cons_self)
    rw [eraseAll_cons, eraseAll_cons, Function.update_comm hk, ih (fun h => ha (List.mem_cons_of_mem k h))]

lemma setAll_eraseAll (p : ρ → Bool) (key : ρ → κ) (val : ρ → β) (l : List κ) :
    ∀ (rs : List ρ), (∀ r ∈ rs, key r ∉ l) → ∀ m : κ → Option β,
      setAll p key val rs (eraseAll l m) = eraseAll l (setAll p key val rs m)
  | [], _, _ => rfl
  | r :: rs, h, m => by
    have hr : key r ∉ l := h r List.mem_cons_self
    have ih := setAll_eraseAll p key val l rs (fun r' hr' => h r' (List.mem_cons_of_mem r hr'))
    rw [setAll_cons, setAll_cons]
    split
    · rw [← eraseAll_update l hr, ih]
    · exact ih m

lemma setAll_congr {p q : ρ → Bool} (key : ρ → κ) (val : ρ → β) :
    ∀ (rs : List ρ), (∀ r ∈ rs, p r = q r) → ∀ m : κ → Option β, setAll p key val rs m = setAll q key val rs m
  | [], _, _ => rfl
  | r :: rs, h, m => by
    rw [setAll_cons, setAll_cons, h r List.mem_cons_self]
    exact setAll_congr key val rs (fun r' hr' => h r' (List.mem_cons_of_mem r hr')) _

end Update

/-! Folds over distinct keys of an association list whose steps each change only the entry of the
key they read. -/

section Pointwise

variable {f : (AList fun _ : κ => β) → κ → AList fun _ : κ => β}

lemma lookup_foldl_pointwise (g : κ → Option β → Option β)
    (hf : ∀ m k a, (f m k).lookup a = if a = k then g k (m.lookup k) else m.lookup a) :
    ∀ l : List κ, l.Nodup → ∀ (m : AList fun _ : κ => β) (a : κ),
      (l.foldl f m).lookup a = if a ∈ l then g a (m.lookup a) else m.lookup a
  | [], _, m, a => by simp
  | k :: l, hnd, m, a => by
    have hk : k ∉ l := (List.nodup_cons.1 hnd).1
    rw [List.foldl_cons, lookup_foldl_pointwise g hf l (List.nodup_cons.1 hnd).2, hf]
    by_cases hak : a = k
    · subst hak
      simp [hk]
    · simp [hak]

end Pointwise

end Library.Map
