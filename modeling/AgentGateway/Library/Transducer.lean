import Mathlib.Data.List.Basic

/-! Mealy machines checked against a monitor: a run refines the monitor once each step does. -/

namespace Library.Transducer

variable {σ ι ε μ : Type*}

def run (step : σ → ι → σ × List ε) : σ → List ι → σ × List ε
  | s, [] => (s, [])
  | s, x :: xs =>
    let r := step s x
    let r' := run step r.1 xs
    (r'.1, r.2 ++ r'.2)

@[simp] lemma run_nil (step : σ → ι → σ × List ε) (s : σ) : run step s [] = (s, []) := rfl

lemma run_cons (step : σ → ι → σ × List ε) (s : σ) (x : ι) (xs : List ι) :
    run step s (x :: xs) = ((run step (step s x).1 xs).1, (step s x).2 ++ (run step (step s x).1 xs).2) :=
  rfl

lemma run_append (step : σ → ι → σ × List ε) (s : σ) (xs ys : List ι) :
    run step s (xs ++ ys) = ((run step (run step s xs).1 ys).1, (run step s xs).2 ++ (run step (run step s xs).1 ys).2) := by
  induction xs generalizing s with
  | nil => rfl
  | cons x xs ih => simp [run_cons, ih]

/-- The run rule for an invariant of the state and a property of what is emitted: inputs that
satisfy `R` keep `P` and emit only outputs that satisfy `Q`. -/
theorem run_invariant {step : σ → ι → σ × List ε} {R : ι → Prop} {P : σ → Prop} {Q : ε → Prop}
    (hstep : ∀ s x, R x → P s → P (step s x).1 ∧ ∀ o ∈ (step s x).2, Q o) :
    ∀ (xs : List ι), (∀ x ∈ xs, R x) → ∀ s, P s →
      P (run step s xs).1 ∧ ∀ o ∈ (run step s xs).2, Q o
  | [], _, _, hs => ⟨hs, by simp⟩
  | x :: xs, hxs, s, hs => by
    obtain ⟨hs₁, hout₁⟩ := hstep s x (hxs x List.mem_cons_self) hs
    obtain ⟨hs₂, hout₂⟩ := run_invariant hstep xs (fun y hy => hxs y (List.mem_cons_of_mem x hy)) _ hs₁
    refine ⟨hs₂, fun o ho => ?_⟩
    rcases List.mem_append.mp ho with ho | ho
    · exact hout₁ o ho
    · exact hout₂ o ho

section Emits

variable (mon : μ → ε → Option μ) (abs : σ → μ) (Wf : σ → Prop)

/-- Going from `s` to `s'` while emitting `out` is seen by the monitor as going from `abs s` to
`abs s'`, and lands in a well-formed state. -/
def Emits (s s' : σ) (out : List ε) : Prop :=
  Wf s' ∧ out.foldlM mon (abs s) = some (abs s')

variable {mon abs Wf}

lemma Emits.refl {s : σ} (hs : Wf s) : Emits mon abs Wf s s [] := ⟨hs, rfl⟩

lemma Emits.trans {s s₁ s₂ : σ} {o₁ o₂ : List ε} (h₁ : Emits mon abs Wf s s₁ o₁)
    (h₂ : Emits mon abs Wf s₁ s₂ o₂) : Emits mon abs Wf s s₂ (o₁ ++ o₂) := by
  refine ⟨h₂.1, ?_⟩
  rw [List.foldlM_append, h₁.2]
  exact h₂.2

lemma Emits.mono {W : σ → Prop} (hW : ∀ s, W s → Wf s) {s s' : σ} {out : List ε}
    (h : Emits mon abs W s s' out) : Emits mon abs Wf s s' out :=
  ⟨hW s' h.1, h.2⟩

end Emits

end Library.Transducer
