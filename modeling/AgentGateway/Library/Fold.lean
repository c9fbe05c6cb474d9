import Mathlib.Data.List.Basic

/-! Left folds of a state machine: projections, failing folds, and slot updates by locking,
first-set and collecting writes. -/

namespace Library.Fold

variable {σ τ γ δ : Type*}

theorem foldl_proj (proj : σ → τ) (sel : γ → Option δ) (stepτ : τ → δ → τ) (step : σ → γ → σ)
    (h : ∀ s x, proj (step s x) = (sel x).elim (proj s) (stepτ (proj s))) :
    ∀ (l : List γ) (s : σ), proj (l.foldl step s) = (l.filterMap sel).foldl stepτ (proj s)
  | [], _ => rfl
  | x :: l, s => by
    rw [List.foldl_cons, foldl_proj proj sel stepτ step h l, h]
    cases hx : sel x <;> simp [hx]

/-- The run rule of a fallible fold: a property every step keeps, and keeps the step from
failing, holds at the end of a run that does not fail. -/
theorem foldlM_invariant {P : σ → Prop} {f : σ → γ → Option σ}
    (hstep : ∀ s x, P s → ∃ s', f s x = some s' ∧ P s') :
    ∀ (l : List γ) (s : σ), P s → ∃ s', l.foldlM f s = some s' ∧ P s'
  | [], s, hs => ⟨s, rfl, hs⟩
  | x :: l, s, hs => by
    obtain ⟨s₁, h₁, hs₁⟩ := hstep s x hs
    obtain ⟨s', h', hs'⟩ := foldlM_invariant hstep l s₁ hs₁
    exact ⟨s', by simp [h₁, h'], hs'⟩

section Lock

variable (locked : σ → Bool) (set : δ → Bool → σ)

def lockStep (s : σ) (x : δ × Bool) : σ := if locked s then s else set x.1 x.2

def lockResult (s : σ) (l : List (δ × Bool)) : σ :=
  match l.find? (·.2) with
  | some x => set x.1 x.2
  | none =>
    match l.getLast? with
    | some x => set x.1 x.2
    | none => s

variable {locked set}

lemma foldl_lockStep_of_locked {s : σ} (hs : locked s = true) :
    ∀ l : List (δ × Bool), l.foldl (lockStep locked set) s = s
  | [] => rfl
  | x :: l => by
    rw [List.foldl_cons, show lockStep locked set s x = s by simp [lockStep, hs]]
    exact foldl_lockStep_of_locked hs l

theorem foldl_lockStep (hset : ∀ v b, locked (set v b) = b) :
    ∀ (l : List (δ × Bool)) (s : σ), locked s = false →
      l.foldl (lockStep locked set) s = lockResult set s l
  | [], _, _ => rfl
  | (v, b) :: l, s, hs => by
    have hstep : lockStep locked set s (v, b) = set v b := by simp [lockStep, hs]
    rw [List.foldl_cons, hstep]
    cases b with
    | true =>
      rw [foldl_lockStep_of_locked (hset v true)]
      simp [lockResult]
    | false =>
      rw [foldl_lockStep hset l _ (hset v false)]
      cases hf : l.find? (·.2) with
      | some x => simp [lockResult, hf]
      | none =>
        cases hl : l.getLast? with
        | some x =>
          simp [lockResult, hf, hl, List.getLast?_cons, Option.getD]
        | none =>
          obtain rfl := List.getLast?_eq_none_iff.mp hl
          simp [lockResult]

end Lock

section Fill

variable (unset : σ → Bool)

def fillStep (s x : σ) : σ := if unset s then x else s

variable {unset}

lemma foldl_fillStep_of_set {s : σ} (hs : unset s = false) :
    ∀ l : List σ, l.foldl (fillStep unset) s = s
  | [] => rfl
  | x :: l => by
    rw [List.foldl_cons, show fillStep unset s x = s by simp [fillStep, hs]]
    exact foldl_fillStep_of_set hs l

theorem foldl_fillStep :
    ∀ (l : List σ) (s : σ), unset s = true →
      l.foldl (fillStep unset) s = (l.find? fun x => !unset x).getD (l.getLast?.getD s)
  | [], _, _ => rfl
  | x :: l, s, hs => by
    rw [List.foldl_cons, show fillStep unset s x = x by simp [fillStep, hs]]
    cases hx : unset x with
    | false =>
      rw [foldl_fillStep_of_set hx]
      simp [hx]
    | true =>
      rw [foldl_fillStep l x hx]
      cases l with
      | nil => simp [hx]
      | cons y l => simp [hx, List.getLast?_cons]

end Fill

section Collect

def takeThrough (p : δ → Bool) : List δ → List δ
  | [] => []
  | x :: xs => if p x then [x] else x :: takeThrough p xs

@[simp] lemma takeThrough_eq_nil {p : δ → Bool} {l : List δ} : takeThrough p l = [] ↔ l = [] := by
  cases l with
  | nil => simp [takeThrough]
  | cons x l => by_cases hx : p x <;> simp [takeThrough, hx]

def collectStep (s : List δ × Bool) (x : δ × Bool) : List δ × Bool :=
  if s.2 then s else (s.1 ++ [x.1], x.2)

lemma foldl_collectStep_of_locked (acc : List δ) :
    ∀ l : List (δ × Bool), l.foldl collectStep (acc, true) = (acc, true)
  | [] => rfl
  | x :: l => by
    rw [List.foldl_cons, show collectStep (acc, true) x = (acc, true) by simp [collectStep]]
    exact foldl_collectStep_of_locked acc l

theorem foldl_collectStep :
    ∀ (l : List (δ × Bool)) (acc : List δ),
      l.foldl collectStep (acc, false) = (acc ++ (takeThrough (·.2) l).map (·.1), l.any (·.2))
  | [], acc => by simp [takeThrough]
  | (v, b) :: l, acc => by
    rw [List.foldl_cons]
    cases b with
    | true => simp [collectStep, takeThrough, foldl_collectStep_of_locked]
    | false => simp [collectStep, takeThrough, foldl_collectStep l]

end Collect

section Combine

variable (op : τ → τ → τ) {e : τ}

/-- A fold of an associative operation with an identity starts anywhere: the run from `t` is `t`
combined with the run from the identity. -/
theorem foldl_combine (assoc : ∀ a b c, op (op a b) c = op a (op b c)) (he : ∀ a, op e a = a)
    (he' : ∀ a, op a e = a) : ∀ (l : List τ) (t : τ), l.foldl op t = op t (l.foldl op e)
  | [], t => (he' t).symm
  | x :: l, t => by
    rw [List.foldl_cons, List.foldl_cons, foldl_combine assoc he he' l, foldl_combine assoc he he' l (op e x),
      he, assoc]

/-- A component of the state that every input combines into: its value after a run is the fold
of what the inputs contribute. -/
theorem foldl_proj_op (proj : σ → τ) (g : γ → τ) (step : σ → γ → σ)
    (h : ∀ s x, proj (step s x) = op (proj s) (g x)) :
    ∀ (l : List γ) (s : σ), proj (l.foldl step s) = (l.map g).foldl op (proj s)
  | [], _ => rfl
  | x :: l, s => by
    rw [List.foldl_cons, foldl_proj_op proj g step h l, h]
    rfl

/-- Such a component of a run over `A ++ B` from a state where it is the identity is the
combination of its values after the runs over `A` and over `B`. -/
theorem foldl_append_proj_op (assoc : ∀ a b c, op (op a b) c = op a (op b c)) (he : ∀ a, op e a = a)
    (he' : ∀ a, op a e = a) (proj : σ → τ) (g : γ → τ) (step : σ → γ → σ)
    (h : ∀ s x, proj (step s x) = op (proj s) (g x)) {s₀ : σ} (h₀ : proj s₀ = e) (A B : List γ) :
    proj ((A ++ B).foldl step s₀) = op (proj (A.foldl step s₀)) (proj (B.foldl step s₀)) := by
  rw [foldl_proj_op op proj g step h, foldl_proj_op op proj g step h, foldl_proj_op op proj g step h, h₀,
    List.map_append, List.foldl_append, foldl_combine op assoc he he' (B.map g)]

end Combine

/-! Folds over keys whose steps each change what is filed under the key they read: the rules for
an invariant every step keeps, and for membership when each step only takes elements out or only
puts them in. -/

section Keyed

variable {κ α : Type*}

theorem foldl_invariant {P : σ → Prop} {f : σ → γ → σ} (h : ∀ s x, P s → P (f s x)) :
    ∀ (l : List γ) (s : σ), P s → P (l.foldl f s)
  | [], _, hs => hs
  | x :: l, s, hs => foldl_invariant h l (f s x) (h s x hs)

variable (F : σ → κ → α → Prop) (f : σ → κ → σ)

/-- Steps that each drop, under their key, the elements failing `P` drop them under every key of
the run. -/
theorem foldl_keyed_filter (P : α → Prop) (h : ∀ s k a x, F (f s k) a x ↔ F s a x ∧ (a = k → P x)) :
    ∀ (l : List κ) (s : σ) (a : κ) (x : α), F (l.foldl f s) a x ↔ F s a x ∧ (a ∈ l → P x)
  | [], s, a, x => by simp
  | k :: l, s, a, x => by
    rw [List.foldl_cons, foldl_keyed_filter P h l, h, List.mem_cons]
    tauto

/-- Steps that each file, under their key, the elements passing `Q` file them under every key of
the run. -/
theorem foldl_keyed_add (Q : α → Prop) (h : ∀ s k a x, F (f s k) a x ↔ F s a x ∨ (a = k ∧ Q x)) :
    ∀ (l : List κ) (s : σ) (a : κ) (x : α), F (l.foldl f s) a x ↔ F s a x ∨ (a ∈ l ∧ Q x)
  | [], s, a, x => by simp
  | k :: l, s, a, x => by
    rw [List.foldl_cons, foldl_keyed_add Q h l, h, List.mem_cons]
    tauto

end Keyed

end Library.Fold
