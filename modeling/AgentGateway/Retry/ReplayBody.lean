import Mathlib
import AgentGateway.Library.Checked

/-! `ReplayBody` of `http/retry/body.rs`: a request body that buffers what it reads so that
clones can replay it. -/

namespace AgentGateway.Retry

open Library.Checked

inductive Frame (β τ : Type) where
  | data (chunk : List β)
  | trailers (t : τ)

inductive Poll (β τ : Type) where
  | data (chunk : List β)
  | trailers (t : τ)
  | capped
  | done
  deriving DecidableEq

variable {β τ : Type}

@[ext]
structure BodyState (β τ : Type) where
  replay : List (List β)
  replayIdx : Nat
  trailers : Option τ
  rest : List (Frame β τ)
  isCompleted : Bool
  maxBytes : Nat

namespace BodyState

def isCapped (s : BodyState β τ) : Bool := s.maxBytes == 0

def hasRemaining (replay : List (List β)) : Bool := replay.any fun c => !c.isEmpty

def recordBytes (s : BodyState β τ) (data : List β) : BodyState β τ × List β :=
  let s := { s with maxBytes := s.maxBytes - data.length }
  if s.isCapped then
    ((if hasRemaining s.replay then { s with replay := [] } else s), data)
  else
    ({ s with replay := s.replay ++ [data] }, data)

end BodyState

structure ReplayBody (β τ : Type) where
  state : Option (BodyState β τ)
  replayBody : Bool
  replayTrailers : Bool

namespace ReplayBody

/-- `try_new`, with the shared slot it creates; the lower bound of the body's size hint is
`sizeHintLower`, and `max_bytes + 1` is a `usize` sum. -/
def tryNew (body : List (Frame β τ)) (sizeHintLower maxBytes : Nat) :
    Option (Except Unit (ReplayBody β τ × Option (BodyState β τ))) :=
  if sizeHintLower > maxBytes then some (.error ())
  else (checkedAdd 64 maxBytes 1).map fun budget =>
    .ok (⟨some ⟨[], 0, none, body, false, budget⟩, false, false⟩, none)

/-- `acquire_state`: the state this body holds, else the one taken from the shared slot; `none` is
the `expect("missing body state")` panic. -/
def acquireState (state shared : Option (BodyState β τ)) : Option (BodyState β τ × Option (BodyState β τ)) :=
  match state with
  | some st => some (st, shared)
  | none => shared.map fun st => (st, none)

def pollRest (replayTrailers : Bool) (state : BodyState β τ) : BodyState β τ × Poll β τ :=
  match replayTrailers, state.trailers with
  | true, some t => (state, .trailers t)
  | _, _ =>
    if state.isCompleted then (state, .done)
    else
      match state.rest with
      | [] => ({ state with isCompleted := true }, .done)
      | .data c :: rest =>
        let (state, chunk) := ({ state with rest } : BodyState β τ).recordBytes c
        (state, .data chunk)
      | .trailers t :: rest => ({ state with rest, trailers := some t, isCompleted := true }, .trailers t)

def pollFrame (this : ReplayBody β τ) (shared : Option (BodyState β τ)) :
    Option (ReplayBody β τ × Option (BodyState β τ) × Poll β τ) := do
  let (state, shared) ← acquireState this.state shared
  if this.replayBody then
    match state.replay[state.replayIdx]? with
    | some frame =>
      return (⟨some { state with replayIdx := state.replayIdx + 1 }, true, this.replayTrailers⟩, shared, .data frame)
    | none =>
      if state.isCapped then return (⟨some state, false, this.replayTrailers⟩, shared, .capped)
      else
        let (state, r) := pollRest this.replayTrailers state
        return (⟨some state, false, false⟩, shared, r)
  else
    let (state, r) := pollRest this.replayTrailers state
    return (⟨some state, false, false⟩, shared, r)

def clone (_ : ReplayBody β τ) : ReplayBody β τ := ⟨none, true, true⟩

def drop (this : ReplayBody β τ) (shared : Option (BodyState β τ)) : Option (BodyState β τ) :=
  match this.state with
  | some st => some { st with replayIdx := 0 }
  | none => shared

/-- `is_capped`: from the state this body holds, else from the shared slot; `none` while another
body holds the state. -/
def isCapped (this : ReplayBody β τ) (shared : Option (BodyState β τ)) : Option Bool :=
  (this.state.map BodyState.isCapped).or (shared.map BodyState.isCapped)

def read (h : ReplayBody β τ) (shared : Option (BodyState β τ)) :
    Nat → Option (ReplayBody β τ × Option (BodyState β τ) × List (Poll β τ))
  | 0 => some (h, shared, [])
  | k + 1 => do
    let (h, shared, r) ← h.pollFrame shared
    let (h, shared, rs) ← h.read shared k
    return (h, shared, r :: rs)

/-- A schedule of holders: the body reads its count of frames and is dropped, then each clone in
turn, a clone being polled only after the previous holder was dropped. -/
def runHolders (h : ReplayBody β τ) (shared : Option (BodyState β τ)) :
    List Nat → Option (List (List (Poll β τ)))
  | [] => some []
  | k :: ks => do
    let (h', shared', out) ← h.read shared k
    let rest ← runHolders h.clone (h'.drop shared') ks
    return out :: rest

end ReplayBody

/-! ## The state after a prefix of the inner body

The inner body is `datas` (non-empty chunks) followed by the trailers `tr`. Whoever holds the state,
it is always `stateOf n done idx` for the number `n` of inner frames read so far: the read chunks
are buffered until more than `max` bytes were read, and then the buffer is empty for good. -/

section Config

variable (datas : List (List β)) (tr : Option τ) (max : Nat)

def innerFrames : List (Frame β τ) := datas.map .data ++ tr.toList.map .trailers

def expected (j : Nat) : Poll β τ := ((datas.map .data ++ tr.toList.map .trailers)[j]?).getD .done

def bytesRead (n : Nat) : Nat := ((datas.take n).map List.length).sum

def stateOf (n : Nat) (done : Bool) (idx : Nat) : BodyState β τ where
  replay := if max < bytesRead datas n then [] else datas.take n
  replayIdx := idx
  trailers := if datas.length < n then tr else none
  rest := (innerFrames datas tr).drop n
  isCompleted := done
  maxBytes := max + 1 - bytesRead datas n

/-- The configurations a run reaches: the end is seen only once every frame was read, and reading
the trailers ends the stream. -/
structure Reached (n : Nat) (done : Bool) : Prop where
  le_length : n ≤ (innerFrames datas tr).length
  length_of_done : done = true → n = (innerFrames datas tr).length
  done_of_trailers : datas.length < n → done = true

def next (n : Nat) : Nat × Bool :=
  if n < datas.length then (n + 1, false)
  else if n < (innerFrames datas tr).length then (n + 1, true)
  else (n, true)

/-- The frames of the inner body read once a holder that started after `n` of them has made `k`
polls: one replaying the buffer reads on where its polls pass `n`, one failing with `Capped` reads
on from its second poll. -/
def readAfter (n k : Nat) : Nat :=
  if max < bytesRead datas n then min (n + (k - 1)) (innerFrames datas tr).length
  else Max.max n (min k (innerFrames datas tr).length)

def cloneStarts : Nat → List Nat → List Nat
  | _, [] => []
  | n, k :: ks => n :: cloneStarts (readAfter datas tr max n k) ks

variable {datas tr max}

@[simp] lemma length_innerFrames :
    (innerFrames datas tr).length = datas.length + tr.toList.length := by
  simp [innerFrames]

lemma drop_innerFrames_of_lt {n : Nat} (h : n < datas.length) :
    (innerFrames datas tr).drop n = .data datas[n] :: (innerFrames datas tr).drop (n + 1) := by
  have h' : n < (innerFrames datas tr).length := by simp; omega
  rw [List.drop_eq_getElem_cons h']
  simp [innerFrames, List.getElem_append_left, h]

lemma drop_innerFrames_length : (innerFrames datas tr).drop datas.length = tr.toList.map .trailers := by
  simp [innerFrames]

lemma expected_of_lt {j : Nat} (h : j < datas.length) : expected datas tr j = .data datas[j] := by
  simp [expected, List.getElem?_append_left, h]

lemma expected_length : expected datas tr datas.length = (tr.map .trailers).getD .done := by
  cases tr <;> simp [expected]

lemma expected_of_le {j : Nat} (h : (innerFrames datas tr).length ≤ j) : expected datas tr j = .done := by
  have h' : (datas.map Poll.data ++ tr.toList.map Poll.trailers).length ≤ j := by simpa using h
  simp [expected, List.getElem?_eq_none h']

lemma bytesRead_succ {n : Nat} (h : n < datas.length) :
    bytesRead datas (n + 1) = bytesRead datas n + datas[n].length := by
  rw [bytesRead, bytesRead, List.take_add_one, List.getElem?_eq_getElem h]
  simp only [Option.toList_some, List.map_append, List.sum_append, List.map_cons, List.map_nil,
    List.sum_cons, List.sum_nil, Nat.add_zero]

lemma bytesRead_of_le {n : Nat} (h : datas.length ≤ n) :
    bytesRead datas n = (datas.map List.length).sum := by
  simp [bytesRead, List.take_of_length_le h]

lemma bytesRead_le_sum (n : Nat) : bytesRead datas n ≤ (datas.map List.length).sum := by
  have h := congrArg (fun l => (l.map List.length).sum) (List.take_append_drop n datas)
  simp only [List.map_append, List.sum_append] at h
  unfold bytesRead
  omega

@[simp] lemma stateOf_replayIdx (n : Nat) (done : Bool) (idx idx' : Nat) :
    { stateOf datas tr max n done idx with replayIdx := idx' } = stateOf datas tr max n done idx' := rfl

@[simp] lemma replayIdx_stateOf (n : Nat) (done : Bool) (idx : Nat) :
    (stateOf datas tr max n done idx).replayIdx = idx := rfl

@[simp] lemma isCompleted_stateOf (n : Nat) (done : Bool) (idx : Nat) :
    (stateOf datas tr max n done idx).isCompleted = done := rfl

lemma isCapped_stateOf (n : Nat) (done : Bool) (idx : Nat) :
    (stateOf datas tr max n done idx).isCapped = decide (max < bytesRead datas n) := by
  simp only [BodyState.isCapped, stateOf]
  by_cases h : max < bytesRead datas n
  · simp [h]
  · simp [h]
    omega

lemma isCapped_clone_stateOf (rb rt : Bool) (n : Nat) (done : Bool) (idx : Nat) :
    ReplayBody.isCapped ⟨none, rb, rt⟩ (some (stateOf datas tr max n done idx)) =
      some (decide (max < bytesRead datas n)) := by
  simp [ReplayBody.isCapped, isCapped_stateOf]

lemma isCapped_original (rb rt : Bool) :
    ReplayBody.isCapped ⟨some (stateOf datas tr max 0 false 0), rb, rt⟩ none = some false := by
  simp [ReplayBody.isCapped, isCapped_stateOf, bytesRead]

lemma replay_getElem?_of_lt {n i : Nat} {done : Bool} {idx : Nat} (hc : bytesRead datas n ≤ max)
    (hi : i < min n datas.length) :
    (stateOf datas tr max n done idx).replay[i]? = datas[i]? := by
  have hn : ¬ max < bytesRead datas n := by omega
  simp [stateOf, hn, show i < n by omega]

lemma replay_getElem?_min {n : Nat} {done : Bool} {idx : Nat} :
    (stateOf datas tr max n done idx).replay[min n datas.length]? = none := by
  simp only [stateOf]
  split_ifs <;> simp

lemma replay_of_capped {n : Nat} {done : Bool} {idx : Nat} (hc : max < bytesRead datas n) :
    (stateOf datas tr max n done idx).replay = [] := by
  simp [stateOf, hc]

lemma eq_nil_of_hasRemaining {l : List (List β)} (hne : ∀ c ∈ l, c ≠ [])
    (h : BodyState.hasRemaining l = false) : l = [] := by
  cases l with
  | nil => rfl
  | cons c l =>
    simp only [BodyState.hasRemaining, List.any_cons, Bool.or_eq_false_iff, Bool.not_eq_false',
      List.isEmpty_iff] at h
    exact absurd h.1 (hne c List.mem_cons_self)

lemma recordBytes_stateOf (hne : ∀ c ∈ datas, c ≠ []) {n : Nat} (h : n < datas.length) (idx : Nat) :
    ({ stateOf datas tr max n false idx with rest := (innerFrames datas tr).drop (n + 1) }).recordBytes
      datas[n] = (stateOf datas tr max (n + 1) false idx, datas[n]) := by
  have hb := bytesRead_succ (n := n) h
  have htake : datas.take (n + 1) = datas.take n ++ [datas[n]] := by
    rw [List.take_add_one, List.getElem?_eq_getElem h]
    rfl
  have hne' : ∀ c ∈ datas.take n, c ≠ [] := fun c hc => hne c (List.mem_of_mem_take hc)
  have hlen : ¬ datas.length < n := by omega
  have hlen1 : ¬ datas.length < n + 1 := by omega
  simp only [BodyState.recordBytes, BodyState.isCapped, stateOf, hb, Nat.sub_sub, beq_iff_eq, hlen,
    hlen1, if_false, htake]
  by_cases hc : max < bytesRead datas n + datas[n].length
  · -- the budget is spent: whatever was buffered is dropped
    have hcap : max + 1 - (bytesRead datas n + datas[n].length) = 0 := by omega
    simp only [hcap, if_true, hc]
    split_ifs
    · rfl
    · rfl
    · rfl
    · rename_i hrem
      rw [eq_nil_of_hasRemaining hne' (by simpa using hrem)]
  · have hcap : max + 1 - (bytesRead datas n + datas[n].length) ≠ 0 := by omega
    have h2 : ¬ max < bytesRead datas n := by omega
    simp only [hcap, if_false, hc, h2]

lemma pollRest_of_trailers_none {state : BodyState β τ} (h : state.trailers = none) (rt : Bool) :
    ReplayBody.pollRest rt state = ReplayBody.pollRest false state := by
  cases rt <;> simp [ReplayBody.pollRest, h]

lemma reached_zero : Reached datas tr 0 false :=
  ⟨Nat.zero_le _, Bool.false_ne_true.elim, fun h => absurd h (Nat.not_lt_zero _)⟩

lemma Reached.next {n : Nat} (hr : Reached datas tr n false) :
    Reached datas tr (next datas tr n).1 (next datas tr n).2 := by
  have hn : ¬ datas.length < n := fun h => Bool.false_ne_true (hr.done_of_trailers h)
  have hle := hr.le_length
  have htr : tr.toList.length ≤ 1 := by cases tr <;> simp
  simp only [length_innerFrames] at hle
  constructor <;> simp only [AgentGateway.Retry.next, length_innerFrames] <;> split_ifs <;> simp <;> omega

lemma pollRest_of_not_done (hne : ∀ c ∈ datas, c ≠ []) {n : Nat} (hr : Reached datas tr n false)
    (rt : Bool) (idx : Nat) :
    ReplayBody.pollRest rt (stateOf datas tr max n false idx) =
      (stateOf datas tr max (next datas tr n).1 (next datas tr n).2 idx, expected datas tr n) := by
  have hn : ¬ datas.length < n := fun h => Bool.false_ne_true (hr.done_of_trailers h)
  rw [pollRest_of_trailers_none (by simp [stateOf, hn])]
  have hdone : (stateOf datas tr max n false idx).isCompleted = false := rfl
  by_cases h : n < datas.length
  · -- chunk `n` is read and recorded
    have hrest : (stateOf datas tr max n false idx).rest =
        .data datas[n] :: (innerFrames datas tr).drop (n + 1) := drop_innerFrames_of_lt h
    have hnext : next datas tr n = (n + 1, false) := by simp [AgentGateway.Retry.next, h]
    have hrec := @recordBytes_stateOf β τ datas tr max hne n h idx
    simp only [hdone] at hrec
    simp only [ReplayBody.pollRest, hdone, hrest, Bool.false_eq_true, if_false]
    rw [hrec, hnext, expected_of_lt h]
  · obtain rfl : n = datas.length := by omega
    cases tr with
    | none =>
      -- no trailers: the end of the inner body
      have hrest : (stateOf datas (none : Option τ) max datas.length false idx).rest = [] := by
        simp [stateOf, drop_innerFrames_length]
      have hnext : next datas (none : Option τ) datas.length = (datas.length, true) := by
        simp [AgentGateway.Retry.next]
      simp only [ReplayBody.pollRest, hdone, hrest, Bool.false_eq_true, if_false]
      rw [hnext, expected_length]
      simp [stateOf, innerFrames]
    | some t =>
      -- the trailers are read, which ends the stream
      have hrest : (stateOf datas (some t) max datas.length false idx).rest = [.trailers t] := by
        simp [stateOf, drop_innerFrames_length]
      have hnext : next datas (some t) datas.length = (datas.length + 1, true) := by
        simp [AgentGateway.Retry.next]
      have hbytes : bytesRead datas (datas.length + 1) = bytesRead datas datas.length := by
        rw [bytesRead_of_le (by omega), bytesRead_of_le le_rfl]
      simp only [ReplayBody.pollRest, hdone, hrest, Bool.false_eq_true, if_false]
      rw [hnext, expected_length]
      simp [stateOf, hbytes, List.take_of_length_le, innerFrames]

lemma pollRest_false_of_done (n idx : Nat) :
    ReplayBody.pollRest false (stateOf datas tr max n true idx) = (stateOf datas tr max n true idx, .done) := by
  simp [ReplayBody.pollRest]

lemma pollRest_true_of_done {n : Nat} (hr : Reached datas tr n true) (idx : Nat) :
    ReplayBody.pollRest true (stateOf datas tr max n true idx) =
      (stateOf datas tr max n true idx, expected datas tr datas.length) := by
  have hn := hr.length_of_done rfl
  rw [expected_length]
  cases tr with
  | none =>
    have htr : (stateOf datas (none : Option τ) max n true idx).trailers = none := by simp [stateOf]
    rw [pollRest_of_trailers_none htr, pollRest_false_of_done]
    rfl
  | some t =>
    have htr : (stateOf datas (some t) max n true idx).trailers = some t := by
      simp only [length_innerFrames, Option.toList_some, List.length_singleton] at hn
      simp [stateOf, hn]
    simp [ReplayBody.pollRest, htr]

lemma next_fst {n : Nat} (hn : n ≤ (innerFrames datas tr).length) :
    (next datas tr n).1 = min (n + 1) (innerFrames datas tr).length := by
  unfold AgentGateway.Retry.next
  simp only [length_innerFrames] at hn ⊢
  split_ifs <;> dsimp only <;> omega

lemma pollRest_config (hne : ∀ c ∈ datas, c ≠ []) {n : Nat} {done : Bool} (hr : Reached datas tr n done)
    (rt : Bool) (idx : Nat) :
    ∃ done', Reached datas tr (min (n + 1) (innerFrames datas tr).length) done' ∧
      (ReplayBody.pollRest rt (stateOf datas tr max n done idx)).1 =
        stateOf datas tr max (min (n + 1) (innerFrames datas tr).length) done' idx := by
  cases done with
  | false =>
    rw [← next_fst hr.le_length]
    exact ⟨_, hr.next, by rw [pollRest_of_not_done hne hr]⟩
  | true =>
    -- the end was seen: every frame is read, and the state stays
    have hn : min (n + 1) (innerFrames datas tr).length = n := by
      have := hr.length_of_done rfl
      omega
    rw [hn]
    refine ⟨true, hr, ?_⟩
    cases rt
    · rw [pollRest_false_of_done]
    · rw [pollRest_true_of_done hr]

lemma next_cases (datas : List (List β)) (tr : Option τ) (n : Nat) :
    (next datas tr n).2 = false ∧ (next datas tr n).1 = n + 1 ∨
      (next datas tr n).2 = true ∧ (next datas tr n).1 ≤ n + 1 := by
  unfold AgentGateway.Retry.next
  split_ifs <;> simp

end Config

/-! ## Runs of holders -/

section Holders

variable (datas : List (List β)) (tr : Option τ) (max : Nat)

/-- Where the state is between polls: in the shared slot, to be replayed from the start, or held by
the body polled. -/
inductive Holds : ReplayBody β τ → Option (BodyState β τ) → Prop
  | shared {n done rb rt} : Reached datas tr n done →
      Holds ⟨none, rb, rt⟩ (some (stateOf datas tr max n done 0))
  | held {n done idx rb rt} : Reached datas tr n done →
      Holds ⟨some (stateOf datas tr max n done idx), rb, rt⟩ none

/-- A body that has yielded `j` polls, each the `expected` one, with `n` frames of the inner body
read: a clone not yet polled or replaying the buffer, which needs the budget unspent, or a body
reading the inner body. -/
inductive Phase : ReplayBody β τ → Option (BodyState β τ) → Nat → Nat → Prop
  | fresh {n done} : Reached datas tr n done → bytesRead datas n ≤ max →
      Phase ⟨none, true, true⟩ (some (stateOf datas tr max n done 0)) 0 n
  | replaying {n done i} : Reached datas tr n done → bytesRead datas n ≤ max → i ≤ min n datas.length →
      Phase ⟨some (stateOf datas tr max n done i), true, true⟩ none i n
  | live {n done idx j} : Reached datas tr n done → (done = false ∧ j = n ∨ done = true ∧ n ≤ j) →
      Phase ⟨some (stateOf datas tr max n done idx), false, false⟩ none j n

variable {datas tr max}

lemma pollFrame_shared (st : BodyState β τ) (rb rt : Bool) :
    ReplayBody.pollFrame ⟨none, rb, rt⟩ (some st) = ReplayBody.pollFrame ⟨some st, rb, rt⟩ none := rfl

lemma pollFrame_of_replayBody_false (st : BodyState β τ) (rt : Bool) :
    ReplayBody.pollFrame ⟨some st, false, rt⟩ none =
      some (⟨some (ReplayBody.pollRest rt st).1, false, false⟩, none, (ReplayBody.pollRest rt st).2) := rfl

lemma pollFrame_replay {st : BodyState β τ} {c : List β} (hget : st.replay[st.replayIdx]? = some c)
    (rt : Bool) :
    ReplayBody.pollFrame ⟨some st, true, rt⟩ none =
      some (⟨some { st with replayIdx := st.replayIdx + 1 }, true, rt⟩, none, .data c) := by
  simp [ReplayBody.pollFrame, ReplayBody.acquireState, hget]

lemma pollFrame_capped {st : BodyState β τ} (hget : st.replay[st.replayIdx]? = none)
    (hc : st.isCapped = true) (rt : Bool) :
    ReplayBody.pollFrame ⟨some st, true, rt⟩ none = some (⟨some st, false, rt⟩, none, .capped) := by
  simp [ReplayBody.pollFrame, ReplayBody.acquireState, hget, hc]

lemma pollFrame_exhausted {st : BodyState β τ} (hget : st.replay[st.replayIdx]? = none)
    (hc : st.isCapped = false) (rt : Bool) :
    ReplayBody.pollFrame ⟨some st, true, rt⟩ none = ReplayBody.pollFrame ⟨some st, false, rt⟩ none := by
  simp [ReplayBody.pollFrame, ReplayBody.acquireState, hget, hc]

lemma Holds.drop {h : ReplayBody β τ} {sh : Option (BodyState β τ)} (hh : Holds datas tr max h sh) :
    ∃ n done, Reached datas tr n done ∧ h.drop sh = some (stateOf datas tr max n done 0) := by
  cases hh with
  | shared hr => exact ⟨_, _, hr, rfl⟩
  | held hr => exact ⟨_, _, hr, rfl⟩

lemma Phase.holds {h : ReplayBody β τ} {sh : Option (BodyState β τ)} {j n : Nat}
    (hp : Phase datas tr max h sh j n) : Holds datas tr max h sh := by
  cases hp with
  | fresh hr _ => exact .shared hr
  | replaying hr _ _ => exact .held hr
  | live hr _ => exact .held hr

lemma Phase.drop {h : ReplayBody β τ} {sh : Option (BodyState β τ)} {j n : Nat}
    (hp : Phase datas tr max h sh j n) :
    ∃ done, Reached datas tr n done ∧ h.drop sh = some (stateOf datas tr max n done 0) := by
  cases hp with
  | fresh hr _ => exact ⟨_, hr, rfl⟩
  | replaying hr _ _ => exact ⟨_, hr, rfl⟩
  | live hr _ => exact ⟨_, hr, rfl⟩

lemma Phase.congr {h : ReplayBody β τ} {sh : Option (BodyState β τ)} {j j' n n' : Nat}
    (hp : Phase datas tr max h sh j n) (ej : j = j') (en : n = n') : Phase datas tr max h sh j' n' :=
  ej ▸ en ▸ hp

lemma Phase.le {h : ReplayBody β τ} {sh : Option (BodyState β τ)} {j n : Nat}
    (hp : Phase datas tr max h sh j n) : min j (innerFrames datas tr).length ≤ n := by
  cases hp with
  | fresh _ _ => omega
  | replaying _ _ hi => omega
  | live hr hj =>
    rcases hj with ⟨_, rfl⟩ | ⟨rfl, _⟩
    · omega
    · have := hr.length_of_done rfl
      omega

lemma live_pollFrame (hne : ∀ c ∈ datas, c ≠ []) {n j : Nat} {done : Bool} (hr : Reached datas tr n done)
    (hj : done = false ∧ j = n ∨ done = true ∧ n ≤ j) (idx : Nat) :
    ∃ h', ReplayBody.pollFrame ⟨some (stateOf datas tr max n done idx), false, false⟩ none =
      some (h', none, expected datas tr j) ∧
      Phase datas tr max h' none (j + 1) (Max.max n (min (j + 1) (innerFrames datas tr).length)) := by
  rw [pollFrame_of_replayBody_false]
  have hle := hr.le_length
  rcases hj with ⟨rfl, rfl⟩ | ⟨rfl, hj⟩
  · rw [pollRest_of_not_done hne hr]
    refine ⟨_, rfl, (Phase.live hr.next ?_).congr rfl (by rw [next_fst hle]; omega)⟩
    rcases next_cases datas tr j with ⟨h2, h1⟩ | ⟨h2, h1⟩
    · exact Or.inl ⟨h2, h1.symm⟩
    · exact Or.inr ⟨h2, h1⟩
  · have hnL := hr.length_of_done rfl
    have hend : (innerFrames datas tr).length ≤ j := hnL ▸ hj
    rw [pollRest_false_of_done, expected_of_le hend]
    exact ⟨_, rfl, (Phase.live hr (Or.inr ⟨rfl, by omega⟩)).congr rfl (by omega)⟩

lemma replaying_pollFrame (hne : ∀ c ∈ datas, c ≠ []) {n i : Nat} {done : Bool}
    (hr : Reached datas tr n done) (hc : bytesRead datas n ≤ max) (hi : i ≤ min n datas.length) :
    ∃ h', ReplayBody.pollFrame ⟨some (stateOf datas tr max n done i), true, true⟩ none =
      some (h', none, expected datas tr i) ∧
      Phase datas tr max h' none (i + 1) (Max.max n (min (i + 1) (innerFrames datas tr).length)) := by
  have hle := hr.le_length
  rcases Nat.lt_or_eq_of_le hi with hi | rfl
  · -- chunk `i` is replayed from the buffer
    have hlt : i < datas.length := by omega
    have hget : (stateOf datas tr max n done i).replay[i]? = some datas[i] := by
      rw [replay_getElem?_of_lt hc hi, List.getElem?_eq_getElem hlt]
    rw [pollFrame_replay hget, ← expected_of_lt hlt]
    exact ⟨_, rfl, (Phase.replaying (i := i + 1) hr hc (by omega)).congr rfl (by omega)⟩
  · -- the buffer is exhausted and the budget unspent: the trailers, then the inner body
    have hcap : (stateOf datas tr max n done (min n datas.length)).isCapped = false := by
      simp [isCapped_stateOf]
      omega
    rw [pollFrame_exhausted replay_getElem?_min hcap, pollFrame_of_replayBody_false]
    cases done with
    | false =>
      have hn : n ≤ datas.length := Nat.le_of_not_lt fun h => Bool.false_ne_true (hr.done_of_trailers h)
      have hmin : min n datas.length = n := Nat.min_eq_left hn
      rw [hmin, pollRest_of_not_done hne hr]
      refine ⟨_, rfl, (Phase.live hr.next ?_).congr rfl (by rw [next_fst hle]; omega)⟩
      rcases next_cases datas tr n with ⟨h2, h1⟩ | ⟨h2, h1⟩
      · exact Or.inl ⟨h2, h1.symm⟩
      · exact Or.inr ⟨h2, h1⟩
    | true =>
      have hn := hr.length_of_done rfl
      have htr : tr.toList.length ≤ 1 := by cases tr <;> simp
      simp only [length_innerFrames] at hn hle ⊢
      have hmin : min n datas.length = datas.length := Nat.min_eq_right (by omega)
      rw [hmin, pollRest_true_of_done hr]
      exact ⟨_, rfl, (Phase.live hr (Or.inr ⟨rfl, by omega⟩)).congr rfl (by omega)⟩

lemma Phase.pollFrame (hne : ∀ c ∈ datas, c ≠ []) {h : ReplayBody β τ} {sh : Option (BodyState β τ)}
    {j n : Nat} (hp : Phase datas tr max h sh j n) :
    ∃ h' sh', h.pollFrame sh = some (h', sh', expected datas tr j) ∧
      Phase datas tr max h' sh' (j + 1) (Max.max n (min (j + 1) (innerFrames datas tr).length)) := by
  cases hp with
  | fresh hr hc =>
    obtain ⟨h', hpoll, hp'⟩ := replaying_pollFrame hne hr hc (Nat.zero_le _)
    exact ⟨h', none, by rw [pollFrame_shared, hpoll], hp'⟩
  | replaying hr hc hi =>
    obtain ⟨h', hpoll, hp'⟩ := replaying_pollFrame hne hr hc hi
    exact ⟨h', none, hpoll, hp'⟩
  | live hr hj =>
    obtain ⟨h', hpoll, hp'⟩ := live_pollFrame hne hr hj _
    exact ⟨h', none, hpoll, hp'⟩

lemma Phase.read (hne : ∀ c ∈ datas, c ≠ []) (k : Nat) :
    ∀ {h : ReplayBody β τ} {sh : Option (BodyState β τ)} {j n : Nat}, Phase datas tr max h sh j n →
      ∃ h' sh', h.read sh k = some (h', sh', (List.range' j k).map (expected datas tr)) ∧
        Phase datas tr max h' sh' (j + k) (Max.max n (min (j + k) (innerFrames datas tr).length)) := by
  induction k with
  | zero => exact fun hp => ⟨_, _, rfl, hp.congr rfl (by have := hp.le; omega)⟩
  | succ k ih =>
    intro h sh j n hp
    obtain ⟨h₁, sh₁, hpoll, hp₁⟩ := hp.pollFrame hne
    obtain ⟨h₂, sh₂, hread, hp₂⟩ := ih hp₁
    refine ⟨h₂, sh₂, ?_, hp₂.congr (by omega) (by omega)⟩
    simp [ReplayBody.read, hpoll, hread, List.range'_succ]

lemma clone_pollFrame_capped {n : Nat} {done : Bool} (hc : max < bytesRead datas n) :
    ReplayBody.pollFrame ⟨none, true, true⟩ (some (stateOf datas tr max n done 0)) =
      some (⟨some (stateOf datas tr max n done 0), false, true⟩, none, .capped) := by
  have hget : (stateOf datas tr max n done 0).replay[(stateOf datas tr max n done 0).replayIdx]? = none := by
    simp [replay_of_capped hc]
  have hcap : (stateOf datas tr max n done 0).isCapped = true := by simp [isCapped_stateOf, hc]
  rw [pollFrame_shared, pollFrame_capped hget hcap]

lemma reading_read (hne : ∀ c ∈ datas, c ≠ []) (k : Nat) :
    ∀ {n : Nat} {done : Bool} {rt : Bool} {idx : Nat}, Reached datas tr n done →
      ∃ done' rt' out, ReplayBody.read ⟨some (stateOf datas tr max n done idx), false, rt⟩ none k =
        some (⟨some (stateOf datas tr max (min (n + k) (innerFrames datas tr).length) done' idx), false, rt'⟩,
          none, out) ∧
        Reached datas tr (min (n + k) (innerFrames datas tr).length) done' := by
  induction k with
  | zero =>
    intro n done rt idx hr
    have hn : min (n + 0) (innerFrames datas tr).length = n := by
      have := hr.le_length
      omega
    rw [hn]
    exact ⟨done, rt, [], rfl, hr⟩
  | succ k ih =>
    intro n done rt idx hr
    obtain ⟨done₁, hr₁, hst⟩ := @pollRest_config β τ datas tr max hne n done hr rt idx
    obtain ⟨done₂, rt₂, out, hread, hr₂⟩ := @ih _ _ false idx hr₁
    have hn : min (min (n + 1) (innerFrames datas tr).length + k) (innerFrames datas tr).length =
        min (n + (k + 1)) (innerFrames datas tr).length := by omega
    rw [hn] at hread hr₂
    refine ⟨done₂, rt₂, (ReplayBody.pollRest rt (stateOf datas tr max n done idx)).2 :: out, ?_, hr₂⟩
    simp only [ReplayBody.read, pollFrame_of_replayBody_false, hst, Option.bind_eq_bind, Option.bind_some]
    rw [hread]
    rfl

lemma clone_read (hne : ∀ c ∈ datas, c ≠ []) {n : Nat} {done : Bool} (hr : Reached datas tr n done)
    (k : Nat) :
    ∃ h' sh' out, ReplayBody.read ⟨none, true, true⟩ (some (stateOf datas tr max n done 0)) k =
      some (h', sh', out) ∧
      (∃ done', Reached datas tr (readAfter datas tr max n k) done' ∧
        h'.drop sh' = some (stateOf datas tr max (readAfter datas tr max n k) done' 0)) ∧
      (bytesRead datas n ≤ max → out = (List.range k).map (expected datas tr)) ∧
      (max < bytesRead datas n → ∀ r ∈ out.head?, r = .capped) := by
  by_cases hc : bytesRead datas n ≤ max
  · have hafter : readAfter datas tr max n k = Max.max n (min (0 + k) (innerFrames datas tr).length) := by
      simp [readAfter, Nat.not_lt.mpr hc]
    obtain ⟨h', sh', hread, hp⟩ := Phase.read hne k (Phase.fresh hr hc)
    rw [← hafter] at hp
    refine ⟨h', sh', _, hread, hp.drop, fun _ => by rw [List.range_eq_range'], fun h => ?_⟩
    omega
  · have hc : max < bytesRead datas n := by omega
    cases k with
    | zero =>
      have hafter : readAfter datas tr max n 0 = n := by
        have := hr.le_length
        simp only [length_innerFrames] at this
        simp [readAfter, hc]
        omega
      exact ⟨_, _, [], rfl, ⟨done, by rw [hafter]; exact hr, by rw [hafter]; rfl⟩, fun h => by omega, by simp⟩
    | succ k =>
      -- after `Capped`, the clone reads the inner body on from where the earlier holders stopped
      have hafter : readAfter datas tr max n (k + 1) = min (n + k) (innerFrames datas tr).length := by
        simp [readAfter, hc]
      obtain ⟨done', rt', out, hread, hr'⟩ := @reading_read β τ datas tr max hne k n done true 0 hr
      refine ⟨⟨some (stateOf datas tr max (min (n + k) (innerFrames datas tr).length) done' 0), false, rt'⟩,
        none, .capped :: out, ?_, ⟨done', by rw [hafter]; exact hr', by rw [hafter]; rfl⟩, fun h => by omega, by simp⟩
      simp [ReplayBody.read, clone_pollFrame_capped hc, hread]

lemma runHolders_clone (hne : ∀ c ∈ datas, c ≠ []) (ks : List Nat) :
    ∀ {n : Nat} {done : Bool}, Reached datas tr n done →
      ∃ outs, ReplayBody.runHolders ⟨none, true, true⟩ (some (stateOf datas tr max n done 0)) ks = some outs ∧
        List.Forall₂ (fun (kn : Nat × Nat) out =>
          (bytesRead datas kn.2 ≤ max → out = (List.range kn.1).map (expected datas tr)) ∧
          (max < bytesRead datas kn.2 → ∀ r ∈ out.head?, r = .capped))
          (ks.zip (cloneStarts datas tr max n ks)) outs := by
  induction ks with
  | nil => exact fun _ => ⟨[], rfl, .nil⟩
  | cons k ks ih =>
    intro n done hr
    obtain ⟨h', sh', out, hread, ⟨done', hr', hdrop⟩, hfit, hcap⟩ := @clone_read β τ datas tr max hne n done hr k
    obtain ⟨outs, hrun, hall⟩ := ih hr'
    refine ⟨out :: outs, ?_, .cons ⟨hfit, hcap⟩ hall⟩
    simp only [ReplayBody.runHolders, hread, Option.bind_eq_bind, Option.bind_some]
    rw [hdrop]
    simp [ReplayBody.clone, hrun]

lemma stateOf_zero : stateOf datas tr max 0 false 0 = ⟨[], 0, none, innerFrames datas tr, false, max + 1⟩ := by
  simp [stateOf, bytesRead]

lemma tryNew_ok {lower : Nat} (hlower : lower ≤ max) (hmax : max + 1 < 2 ^ 64) :
    ReplayBody.tryNew (innerFrames datas tr) lower max =
      some (.ok (⟨some (stateOf datas tr max 0 false 0), false, false⟩, none)) := by
  simp [ReplayBody.tryNew, Nat.not_lt.mpr hlower, checkedAdd_of_lt hmax, stateOf_zero]

/-- The original body yields the inner body exactly; every clone, polled after the previous holder
was dropped, yields exactly the same stream when at most `max_bytes` bytes of the inner body were
read before it started, and fails with `Capped` first when more were. No poll panics. -/
theorem replayBody_holders_replay_or_capped (datas : List (List β)) (tr : Option τ)
    (hne : ∀ c ∈ datas, c ≠ []) (lower max : Nat) (hlower : lower ≤ max) (hmax : max + 1 < 2 ^ 64)
    (k₀ : Nat) (ks : List Nat) :
    ∃ h sh, ReplayBody.tryNew (innerFrames datas tr) lower max = some (.ok (h, sh)) ∧
      ∃ out₀ outs, ReplayBody.runHolders h sh (k₀ :: ks) = some (out₀ :: outs) ∧
        out₀ = (List.range k₀).map (expected datas tr) ∧
        List.Forall₂ (fun (kn : Nat × Nat) out =>
          (bytesRead datas kn.2 ≤ max → out = (List.range kn.1).map (expected datas tr)) ∧
          (max < bytesRead datas kn.2 → ∀ r ∈ out.head?, r = .capped))
          (ks.zip (cloneStarts datas tr max (readAfter datas tr max 0 k₀) ks)) outs := by
  refine ⟨_, _, tryNew_ok hlower hmax, ?_⟩
  -- the original body reads the inner body from the start
  have hp : Phase datas tr max ⟨some (stateOf datas tr max 0 false 0), false, false⟩ none 0 0 :=
    .live reached_zero (Or.inl ⟨rfl, rfl⟩)
  have hafter : readAfter datas tr max 0 k₀ = Max.max 0 (min (0 + k₀) (innerFrames datas tr).length) := by
    simp [readAfter, bytesRead]
  obtain ⟨h', sh', hread, hp'⟩ := Phase.read hne k₀ hp
  rw [← hafter] at hp'
  obtain ⟨done, hr, hdrop⟩ := hp'.drop
  obtain ⟨outs, hrun, hall⟩ := @runHolders_clone β τ datas tr max hne ks _ done hr
  refine ⟨_, outs, ?_, by rw [List.range_eq_range'], hall⟩
  simp only [ReplayBody.runHolders, hread, Option.bind_eq_bind, Option.bind_some]
  rw [hdrop]
  simp [ReplayBody.clone, hrun]

theorem replayBody_holders_two_chunks :
    (∀ c ∈ [[()], [()]], c ≠ []) ∧ 0 ≤ 1 ∧ 1 + 1 < 2 ^ 64 ∧
      ∃ h sh, ReplayBody.tryNew (innerFrames [[()], [()]] (none : Option Unit)) 0 1 = some (.ok (h, sh)) ∧
        ∃ out₀ outs, ReplayBody.runHolders h sh [0, 3] = some (out₀ :: outs) ∧
          out₀ = (List.range 0).map (expected [[()], [()]] none) ∧
          List.Forall₂ (fun (kn : Nat × Nat) out =>
            (bytesRead [[()], [()]] kn.2 ≤ 1 → out = (List.range kn.1).map (expected [[()], [()]] none)) ∧
            (1 < bytesRead [[()], [()]] kn.2 → ∀ r ∈ out.head?, r = .capped))
            ([3].zip (cloneStarts [[()], [()]] (none : Option Unit) 1 (readAfter [[()], [()]] (none : Option Unit) 1 0 0) [3]))
            outs :=
  ⟨by decide, by decide, by decide,
    replayBody_holders_replay_or_capped [[()], [()]] none (by decide) 0 1 (by decide) (by decide) 0 [3]⟩

/-- A clone started before the budget was spent reads the inner body past it and yields the whole
body, not `Capped`: here two one-byte chunks and a budget of one byte, the original body dropped
unread. -/
theorem replayBody_clone_reads_past_cap :
    ∃ h sh, ReplayBody.tryNew (innerFrames [[()], [()]] (none : Option Unit)) 0 1 = some (.ok (h, sh)) ∧
      ReplayBody.runHolders h sh [0, 3] = some [[], [.data [()], .data [()], .done]] :=
  ⟨_, _, rfl, by decide⟩

end Holders

end AgentGateway.Retry
