import AgentGateway.Library.Queue
import AgentGateway.Pool.Types

/-! `H2Pool`, the queue of tracked HTTP/2 connections, with free connections ahead of full ones. -/

namespace AgentGateway.Pool.H2Pool

open Library.Queue

def ensureTracked (loads : Nat → H2Load) (q : List Nat) (c : Nat) : List Nat :=
  if c ∈ q then q
  else if (loads c).remainingCapacity = 0 then q ++ [c] else c :: q

def removeByLoad (q : List Nat) (rc : Nat) : Option Nat × List Nat :=
  if rc ∈ q then (some rc, q.erase rc) else (none, q)

def remove (q : List Nat) (rc : Nat) : Option Nat × List Nat :=
  removeByLoad q rc

def markFull (q : List Nat) (c : Nat) : List Nat :=
  match remove q c with
  | (some old, q) => q ++ [old]
  | (none, q) => q

def markActiveByLoad (q : List Nat) (c : Nat) : List Nat :=
  match removeByLoad q c with
  | (some v, q) => v :: q
  | (none, q) => q

def markActive (q : List Nat) (c : Nat) : List Nat :=
  c :: (remove q c).2

def incrementLoad (loads : Nat → H2Load) (q : List Nat) :
    HttpConnection → (Nat → H2Load) × List Nat × Option CapacityReservationResult
  | .http1 _ => (loads, q, none)
  | .http2 h2 =>
    let (load, res) := (loads h2).tryReserveStreamSlot
    (Function.update loads h2 load, if res = .reservedAndFilled then markFull q h2 else q, some res)

def maybeInsertNew (loads : Nat → H2Load) (q : List Nat) (conn : HttpConnection) (reserve : Bool) :
    (Nat → H2Load) × List Nat × HttpConnection :=
  match conn with
  | .http2 h =>
    (if reserve then Function.update loads h (loads h).tryReserveStreamSlot.1 else loads, h :: q, .http2 h)
  | .http1 h => (loads, q, .http1 h)

def reserve (ready : Nat → Bool) (loads : Nat → H2Load) :
    List Nat → (Nat → H2Load) × List Nat × Option Nat
  | [] => (loads, [], none)
  | h :: q =>
    if !ready h then reserve ready loads q
    else match (loads h).tryReserveStreamSlot with
      | (_, .noCapacity) => (loads, h :: q, none)
      | (load, .reservedAndFilled) => (Function.update loads h load, q ++ [h], some h)
      | (load, .reservedButNotFilled) => (Function.update loads h load, h :: q, some h)

def Avail (loads : Nat → H2Load) (c : Nat) : Prop :=
  (loads c).activeStreams < (loads c).maxStreams

instance (loads : Nat → H2Load) (c : Nat) : Decidable (Avail loads c) :=
  inferInstanceAs (Decidable (_ < _))

lemma remainingCapacity_eq_zero {l : H2Load} : l.remainingCapacity = 0 ↔ ¬ l.activeStreams < l.maxStreams := by
  unfold H2Load.remainingCapacity
  omega

lemma avail_update_ne {loads : Nat → H2Load} {c x : Nat} (l : H2Load) (hx : x ≠ c) :
    Avail (Function.update loads c l) x ↔ Avail loads x := by
  simp [Avail, Function.update_of_ne hx]

/-! ### Membership and duplicates -/

lemma removeByLoad_snd (q : List Nat) (rc : Nat) : (removeByLoad q rc).2 = q.erase rc := by
  unfold removeByLoad
  split
  · rfl
  · rename_i h
    exact (List.erase_of_not_mem h).symm

lemma markFull_eq (q : List Nat) (c : Nat) : markFull q c = if c ∈ q then q.erase c ++ [c] else q := by
  by_cases hc : c ∈ q <;> simp [markFull, remove, removeByLoad, hc]

lemma markActiveByLoad_eq (q : List Nat) (c : Nat) :
    markActiveByLoad q c = if c ∈ q then c :: q.erase c else q := by
  by_cases hc : c ∈ q <;> simp [markActiveByLoad, removeByLoad, hc]

lemma markActive_eq (q : List Nat) (c : Nat) : markActive q c = c :: q.erase c := by
  rw [markActive, remove, removeByLoad_snd]

variable {q : List Nat} {c x : Nat}

lemma mem_ensureTracked (loads : Nat → H2Load) : x ∈ ensureTracked loads q c ↔ x ∈ q ∨ x = c := by
  unfold ensureTracked
  split
  · constructor
    · exact Or.inl
    · rintro (h | rfl) <;> assumption
  · split <;> simp [or_comm]

lemma nodup_ensureTracked (loads : Nat → H2Load) (h : q.Nodup) : (ensureTracked loads q c).Nodup := by
  unfold ensureTracked
  split
  · exact h
  · rename_i hc
    split
    · rw [List.nodup_append]
      exact ⟨h, List.nodup_singleton c, fun a ha b hb => by rw [List.mem_singleton] at hb; exact hb ▸ fun hac => hc (hac ▸ ha)⟩
    · exact List.nodup_cons.2 ⟨hc, h⟩

lemma mem_erase_iff_of_nodup (h : q.Nodup) : x ∈ q.erase c ↔ x ∈ q ∧ x ≠ c := by
  rw [List.Nodup.mem_erase_iff h, and_comm]

lemma mem_markFull (h : q.Nodup) : x ∈ markFull q c ↔ x ∈ q := by
  rw [markFull_eq]
  split
  · rename_i hc
    rw [List.mem_append, mem_erase_iff_of_nodup h, List.mem_singleton]
    constructor
    · rintro (⟨hx, -⟩ | rfl) <;> assumption
    · intro hx
      by_cases hxc : x = c
      · exact Or.inr hxc
      · exact Or.inl ⟨hx, hxc⟩
  · rfl

lemma nodup_markFull (h : q.Nodup) : (markFull q c).Nodup := by
  rw [markFull_eq]
  split
  · rw [List.nodup_append]
    refine ⟨h.erase c, List.nodup_singleton c, fun a ha b hb => ?_⟩
    rw [List.mem_singleton] at hb
    subst hb
    exact fun hac => List.Nodup.not_mem_erase h (hac ▸ ha)
  · exact h

lemma mem_markActiveByLoad (h : q.Nodup) : x ∈ markActiveByLoad q c ↔ x ∈ q := by
  rw [markActiveByLoad_eq]
  split
  · rename_i hc
    rw [List.mem_cons, mem_erase_iff_of_nodup h]
    constructor
    · rintro (rfl | ⟨hx, -⟩) <;> assumption
    · intro hx
      by_cases hxc : x = c
      · exact Or.inl hxc
      · exact Or.inr ⟨hx, hxc⟩
  · rfl

lemma nodup_markActiveByLoad (h : q.Nodup) : (markActiveByLoad q c).Nodup := by
  rw [markActiveByLoad_eq]
  split
  · exact List.nodup_cons.2 ⟨List.Nodup.not_mem_erase h, h.erase c⟩
  · exact h

lemma erase_markFull (h : q.Nodup) : (markFull q c).erase c = q.erase c := by
  rw [markFull_eq]
  split
  · rw [List.erase_append_right _ (List.Nodup.not_mem_erase h)]
    simp
  · rfl

/-! ### Keeping free connections in front -/

variable {p : Nat → Prop}

lemma frontLoaded_ensureTracked {loads : Nat → H2Load} (h : FrontLoaded (Avail loads) q) :
    FrontLoaded (Avail loads) (ensureTracked loads q c) := by
  unfold ensureTracked
  split
  · exact h
  · split
    · rename_i hfull
      exact h.append_of_not (remainingCapacity_eq_zero.1 hfull)
    · rename_i hfree
      exact h.cons (by by_contra hc; exact hfree (remainingCapacity_eq_zero.2 hc))

lemma frontLoaded_markFull (h : FrontLoaded p (q.erase c)) (hc : ¬ p c) : FrontLoaded p (markFull q c) := by
  rw [markFull_eq]
  split
  · exact h.append_of_not hc
  · rename_i hcq
    rwa [List.erase_of_not_mem hcq] at h

lemma frontLoaded_markActiveByLoad (h : FrontLoaded p (q.erase c)) (hc : p c) :
    FrontLoaded p (markActiveByLoad q c) := by
  rw [markActiveByLoad_eq]
  split
  · exact h.cons hc
  · rename_i hcq
    rwa [List.erase_of_not_mem hcq] at h

lemma frontLoaded_update {loads : Nat → H2Load} (h : FrontLoaded (Avail loads) q) (l : H2Load)
    (hc : c ∈ q → (Avail (Function.update loads c l) c ↔ Avail loads c)) :
    FrontLoaded (Avail (Function.update loads c l)) q := by
  refine h.congr fun x hx => ?_
  by_cases hxc : x = c
  · subst hxc
    exact (hc hx).symm
  · exact (avail_update_ne l hxc).symm

lemma frontLoaded_erase_update {loads : Nat → H2Load} (h : FrontLoaded (Avail loads) (q.erase c)) (hn : q.Nodup)
    (l : H2Load) : FrontLoaded (Avail (Function.update loads c l)) (q.erase c) :=
  h.congr fun _ hx => (avail_update_ne l fun hxc => List.Nodup.not_mem_erase hn (hxc ▸ hx)).symm

/-! ### Reservations -/

lemma incrementLoad_http2 (loads : Nat → H2Load) (q : List Nat) (h : Nat) :
    incrementLoad loads q (.http2 h) =
      (Function.update loads h (loads h).tryReserveStreamSlot.1,
        if (loads h).tryReserveStreamSlot.2 = .reservedAndFilled then markFull q h else q,
        some (loads h).tryReserveStreamSlot.2) := rfl

end AgentGateway.Pool.H2Pool
