import Mathlib.Data.List.Pairwise
import Mathlib.Data.List.Count
import Mathlib.Data.List.Nodup

/-! Work queues that keep the entries with a property ahead of the rest. -/

namespace Library.Queue

variable {α : Type*}

def FrontLoaded (p : α → Prop) (q : List α) : Prop :=
  q.Pairwise fun a b => p b → p a

variable {p p' : α → Prop} {q q' : List α} {a : α}

@[simp] lemma frontLoaded_nil : FrontLoaded p [] := List.Pairwise.nil

lemma FrontLoaded.sublist (h : FrontLoaded p q) (hs : List.Sublist q' q) : FrontLoaded p q' :=
  List.Pairwise.sublist hs h

lemma FrontLoaded.of_cons (h : FrontLoaded p (a :: q)) : FrontLoaded p q :=
  List.Pairwise.of_cons h

lemma FrontLoaded.erase [DecidableEq α] (h : FrontLoaded p q) (a : α) : FrontLoaded p (q.erase a) :=
  h.sublist (List.erase_sublist (l := q))

lemma FrontLoaded.cons (h : FrontLoaded p q) (ha : p a) : FrontLoaded p (a :: q) :=
  List.Pairwise.cons (fun _ _ _ => ha) h

lemma FrontLoaded.cons_of_forall_not (h : FrontLoaded p q) (hq : ∀ b ∈ q, ¬ p b) :
    FrontLoaded p (a :: q) :=
  List.Pairwise.cons (fun b hb hpb => absurd hpb (hq b hb)) h

lemma FrontLoaded.append_of_not (h : FrontLoaded p q) (ha : ¬ p a) : FrontLoaded p (q ++ [a]) := by
  refine List.pairwise_append.2 ⟨h, List.pairwise_singleton _ _, ?_⟩
  intro b _ c hc hpc
  rw [List.mem_singleton] at hc
  subst hc
  exact absurd hpc ha

lemma FrontLoaded.congr (h : FrontLoaded p q) (hp : ∀ b ∈ q, p b ↔ p' b) : FrontLoaded p' q :=
  List.Pairwise.imp_of_mem (fun hb hc hbc hpc => (hp _ hb).1 (hbc ((hp _ hc).2 hpc))) h

lemma FrontLoaded.forall_not_of_head (h : FrontLoaded p (a :: q)) (ha : ¬ p a) : ∀ b ∈ a :: q, ¬ p b := by
  intro b hb hpb
  rcases List.mem_cons.1 hb with rfl | hb
  · exact ha hpb
  · exact ha (List.rel_of_pairwise_cons h hb hpb)

theorem FrontLoaded.head_of_exists (h : FrontLoaded p q) (hex : ∃ b ∈ q, p b) :
    ∃ a, q.head? = some a ∧ p a := by
  cases q with
  | nil => simp at hex
  | cons a q =>
    refine ⟨a, rfl, ?_⟩
    by_contra ha
    obtain ⟨b, hb, hpb⟩ := hex
    exact h.forall_not_of_head ha b hb hpb

end Library.Queue
