import AgentGateway.Retry.ReplayBody

/-! The retry loop of the HTTP proxy (`proxy/httpproxy.rs`), with the upstream given per
attempt. -/

namespace AgentGateway.Proxy

open Retry Library.Checked

/-- The `ProxyError`s the loop tells apart: those `is_retryable` accepts, the request timeout, and
the rest. -/
inductive ProxyError where
  | upstreamCallFailed
  | upstreamCallTimeout
  | dnsResolution
  | requestTimeout
  | other
  deriving DecidableEq

def ProxyError.isRetryable : ProxyError → Bool
  | .upstreamCallFailed | .upstreamCallTimeout | .dnsResolution => true
  | _ => false

inductive Outcome (ρ : Type) where
  | response (status : Nat) (resp : ρ)
  | error (e : ProxyError)
  | directResponse
  deriving DecidableEq

/-- `retry::Policy`: `attempts` is a `NonZeroU8` and the backoff a duration; the CEL `condition` is
given by its value on a response. -/
structure Policy (ρ : Type) where
  attempts : Nat
  attempts_pos : 0 < attempts
  attempts_lt : attempts < 2 ^ 8
  backoff : Option Nat
  codes : List Nat
  condition : Option (Nat → ρ → Bool)

variable {ρ β τ : Type}

def shouldRetry (pol : Policy ρ) : Outcome ρ → Bool
  | .response status resp =>
    if pol.codes.contains status then true
    else
      match pol.condition with
      | some cond => cond status resp
      | none => false
  | .error e => e.isRetryable
  | .directResponse => false

structure Upstream (ρ : Type) where
  reads : Nat
  released : Bool
  outcome : Outcome ρ
  deadlinePassed : Bool

structure Sent (β τ : Type) where
  retryAttempt : Option Nat
  body : List (Poll β τ)
  deriving DecidableEq

def maxBufferedBytes : Nat := 64 * 1024

def plainRead (body : List (Frame β τ)) (k : Nat) : List (Poll β τ) :=
  (List.range k).map fun j =>
    ((body.map fun | .data c => .data c | .trailers t => .trailers t)[j]?).getD .done

/-- The iterations `n, n + 1, …` of `for n in 0..attempts`, `fuel` of them left before the
`unreachable!()` after the loop; `none` is a panic. Returns the result and the requests sent. -/
def retryLoop (retries : Option (Policy ρ)) (attempts : Nat) (retryBackoff requestTimeout : Option Nat)
    (upstream : Nat → Upstream ρ) :
    Nat → Nat → Option (ReplayBody β τ) → Option (BodyState β τ) → Option (Outcome ρ) →
      Option (Outcome ρ × List (Sent β τ))
  | 0, _, _, _, _ => none
  | fuel + 1, n, next, shared, lastRes => do
    let last := n == attempts - 1
    let this ← next
    match this.isCapped shared with
    | some false =>
      let next := if !last then some this.clone else none
      let up := upstream n
      let (held, shared, body) ← this.read shared up.reads
      -- the connection may still hold the body when the result comes back
      let shared := if up.released then held.drop shared else shared
      let sent : Sent β τ := ⟨if n > 0 then some n else none, body⟩
      let stop ← if last then some true else retries.map fun pol => !shouldRetry pol up.outcome
      if stop then return (up.outcome, [sent])
      else if retryBackoff.isSome && requestTimeout.isSome && up.deadlinePassed then
        return (.error .requestTimeout, [sent])
      else
        let (res, sents) ← retryLoop retries attempts retryBackoff requestTimeout upstream fuel (n + 1) next
          shared (some up.outcome)
        return (res, sent :: sents)
    | _ =>
      -- too much buffered, or the previous attempt still holds the body
      let res ← lastRes
      return (res, [])

/-- The request path from the count of attempts on, for a body with size hint lower bound
`sizeHintLower`; `none` is a panic. -/
def retryRequest (retries : Option (Policy ρ)) (requestTimeout : Option Nat) (body : List (Frame β τ))
    (sizeHintLower : Nat) (upstream : Nat → Upstream ρ) : Option (Outcome ρ × List (Sent β τ)) := do
  -- `r.attempts.get() + 1` is a `u8` sum
  let attempts ← match retries with
    | some r => checkedAdd 8 r.attempts 1
    | none => some 1
  let retryBackoff := retries.bind Policy.backoff
  let replay ← if attempts > 1 then ReplayBody.tryNew body sizeHintLower maxBufferedBytes else some (.error ())
  match replay with
  | .ok (this, shared) =>
    retryLoop retries attempts retryBackoff requestTimeout upstream attempts 0 (some this) shared none
  | .error () => return ((upstream 0).outcome, [⟨none, plainRead body (upstream 0).reads⟩])

/-- With `attempts` at the largest `NonZeroU8` the count of attempts overflows, so the request
panics before any attempt, whatever the body and the upstream. -/
theorem retryRequest_attempts_overflow (pol : Policy ρ) (h : pol.attempts = 255)
    (requestTimeout : Option Nat) (body : List (Frame β τ)) (sizeHintLower : Nat)
    (upstream : Nat → Upstream ρ) :
    retryRequest (some pol) requestTimeout body sizeHintLower upstream = none := by
  have hover : checkedAdd 8 pol.attempts 1 = none := by simp [checkedAdd, h]
  simp [retryRequest, hover]

theorem retryRequest_attempts_overflow_at_255 :
    let pol : Policy Unit := ⟨255, by decide, by decide, none, [503], none⟩
    pol.attempts = 255 ∧
      retryRequest (some pol) none ([.data [()]] : List (Frame Unit Unit)) 0
        (fun _ => ⟨1, true, .error .upstreamCallFailed, false⟩) = none :=
  ⟨rfl, retryRequest_attempts_overflow _ rfl _ _ _ _⟩

/-! ## Runs of the loop -/

section Loop

variable (datas : List (List β)) (tr : Option τ) (max : Nat)

/-- The body an attempt finds: the original one, or a clone with the state in the shared slot, or
held by the connection of an earlier attempt. -/
inductive Ready : ReplayBody β τ → Option (BodyState β τ) → Prop
  | original : Ready ⟨some (stateOf datas tr max 0 false 0), false, false⟩ none
  | clone {n done} : Reached datas tr n done → Ready ⟨none, true, true⟩ (some (stateOf datas tr max n done 0))
  | held : Ready ⟨none, true, true⟩ none

def expectedSent (upstream : Nat → Upstream ρ) (n : Nat) : Sent β τ :=
  ⟨if n > 0 then some n else none, (List.range (upstream n).reads).map (expected datas tr)⟩

/-- What a run of the loop from attempt `n` returns: the requests it sent, as expected; every one
but the last retried; and the result of the last one, or the request timeout after it, or the
previous result when nothing was sent. -/
structure Returned (pol : Policy ρ) (upstream : Nat → Upstream ρ) (attempts n : Nat)
    (lastRes : Option (Outcome ρ)) (res : Outcome ρ) (sents : List (Sent β τ)) : Prop where
  length_le : sents.length ≤ attempts - n
  sent : ∀ i (hi : i < sents.length), sents[i] = expectedSent datas tr upstream (n + i)
  retried : ∀ i, i + 1 < sents.length → shouldRetry pol (upstream (n + i)).outcome = true
  rejected : ∀ i < sents.length, shouldRetry pol (upstream (n + i)).outcome = false →
    res = (upstream (n + i)).outcome
  result : sents = [] ∧ lastRes = some res ∨
    sents ≠ [] ∧ (res = (upstream (n + sents.length - 1)).outcome ∨ res = .error .requestTimeout)

variable {datas tr max}

lemma Ready.read (hne : ∀ c ∈ datas, c ≠ []) {this : ReplayBody β τ} {shared : Option (BodyState β τ)}
    (hr : Ready datas tr max this shared) (hc : this.isCapped shared = some false) (k : Nat) :
    ∃ held shared', this.read shared k = some (held, shared', (List.range k).map (expected datas tr)) ∧
      Holds datas tr max held shared' := by
  cases hr with
  | original =>
    have hp : Phase datas tr max ⟨some (stateOf datas tr max 0 false 0), false, false⟩ none 0 0 :=
      .live reached_zero (Or.inl ⟨rfl, rfl⟩)
    obtain ⟨held, shared', hread, hp'⟩ := Phase.read hne k hp
    exact ⟨held, shared', by rw [List.range_eq_range']; exact hread, hp'.holds⟩
  | @clone n done hr =>
    -- `is_capped` is `Some(false)`: the budget was not spent when the clone started
    have hfit : bytesRead datas n ≤ max := by
      rw [isCapped_clone_stateOf] at hc
      simpa using hc
    obtain ⟨held, shared', hread, hp'⟩ := Phase.read hne k (Phase.fresh hr hfit)
    exact ⟨held, shared', by rw [List.range_eq_range']; exact hread, hp'.holds⟩
  | held => simp [ReplayBody.isCapped] at hc

lemma Ready.of_holds {h : ReplayBody β τ} {shared : Option (BodyState β τ)} (hh : Holds datas tr max h shared) :
    Ready datas tr max ⟨none, true, true⟩ shared := by
  cases hh with
  | shared hr => exact .clone hr
  | held _ => exact .held

lemma Ready.of_drop {h : ReplayBody β τ} {shared : Option (BodyState β τ)}
    (hh : Holds datas tr max h shared) : Ready datas tr max ⟨none, true, true⟩ (h.drop shared) := by
  obtain ⟨n, done, hr, hdrop⟩ := hh.drop
  rw [hdrop]
  exact .clone hr

variable {pol : Policy ρ} {attempts : Nat} {retryBackoff requestTimeout : Option Nat}
  {upstream : Nat → Upstream ρ}

lemma retryLoop_of_not_ready {fuel n : Nat} {this : ReplayBody β τ} {shared : Option (BodyState β τ)}
    {lastRes : Option (Outcome ρ)} (hc : this.isCapped shared ≠ some false) :
    retryLoop (some pol) attempts retryBackoff requestTimeout upstream (fuel + 1) n (some this) shared lastRes =
      lastRes.map fun res => (res, []) := by
  cases h : this.isCapped shared with
  | none => cases lastRes <;> simp [retryLoop, h]
  | some b =>
    cases b with
    | false => exact absurd h hc
    | true => cases lastRes <;> simp [retryLoop, h]

section Sent

variable {fuel n : Nat} {this : ReplayBody β τ} {shared : Option (BodyState β τ)} {lastRes : Option (Outcome ρ)}
  {held : ReplayBody β τ} {shared' : Option (BodyState β τ)} {body : List (Poll β τ)}

lemma retryLoop_of_stop (hc : this.isCapped shared = some false)
    (hread : this.read shared (upstream n).reads = some (held, shared', body))
    (hstop : n = attempts - 1 ∨ shouldRetry pol (upstream n).outcome = false) :
    retryLoop (some pol) attempts retryBackoff requestTimeout upstream (fuel + 1) n (some this) shared lastRes =
      some ((upstream n).outcome, [⟨if n > 0 then some n else none, body⟩]) := by
  by_cases hlast : n = attempts - 1
  · have hlast : (n == attempts - 1) = true := beq_iff_eq.mpr hlast
    simp [retryLoop, hc, hread, hlast]
  · have hstop : shouldRetry pol (upstream n).outcome = false := hstop.resolve_left hlast
    simp [retryLoop, hc, hread, hlast, hstop]

lemma retryLoop_of_timeout (hc : this.isCapped shared = some false)
    (hread : this.read shared (upstream n).reads = some (held, shared', body))
    (hlast : n ≠ attempts - 1) (hretry : shouldRetry pol (upstream n).outcome = true)
    (ht : (retryBackoff.isSome && requestTimeout.isSome && (upstream n).deadlinePassed) = true) :
    retryLoop (some pol) attempts retryBackoff requestTimeout upstream (fuel + 1) n (some this) shared lastRes =
      some (.error .requestTimeout, [⟨if n > 0 then some n else none, body⟩]) := by
  simp [retryLoop, hc, hread, hlast, hretry, ht]

lemma retryLoop_of_retry (hc : this.isCapped shared = some false)
    (hread : this.read shared (upstream n).reads = some (held, shared', body))
    (hlast : n ≠ attempts - 1) (hretry : shouldRetry pol (upstream n).outcome = true)
    (ht : (retryBackoff.isSome && requestTimeout.isSome && (upstream n).deadlinePassed) = false) :
    retryLoop (some pol) attempts retryBackoff requestTimeout upstream (fuel + 1) n (some this) shared lastRes =
      (retryLoop (some pol) attempts retryBackoff requestTimeout upstream fuel (n + 1) (some ⟨none, true, true⟩)
        (if (upstream n).released then held.drop shared' else shared') (some (upstream n).outcome)).bind
        fun r => some (r.1, ⟨if n > 0 then some n else none, body⟩ :: r.2) := by
  simp [retryLoop, hc, hread, hlast, hretry, ht, ReplayBody.clone]

end Sent

section Returned

variable {n : Nat} {lastRes : Option (Outcome ρ)} {res : Outcome ρ}

lemma Returned.nil (h : lastRes = some res) : Returned datas tr pol upstream attempts n lastRes res [] :=
  ⟨Nat.zero_le _, fun _ hi => absurd hi (Nat.not_lt_zero _), fun _ hi => absurd hi (by simp),
    fun _ hi => absurd hi (Nat.not_lt_zero _), Or.inl ⟨rfl, h⟩⟩

lemma Returned.stop (hn : n < attempts) :
    Returned datas tr pol upstream attempts n lastRes (upstream n).outcome [expectedSent datas tr upstream n] where
  length_le := by simp; omega
  sent i hi := by
    obtain rfl : i = 0 := by simpa using hi
    rfl
  retried i hi := absurd hi (by simp)
  rejected i hi _ := by
    obtain rfl : i = 0 := by simpa using hi
    rfl
  result := Or.inr ⟨List.cons_ne_nil _ _, Or.inl (by simp)⟩

lemma Returned.timeout (hn : n < attempts) (hretry : shouldRetry pol (upstream n).outcome = true) :
    Returned datas tr pol upstream attempts n lastRes (.error .requestTimeout)
      [expectedSent datas tr upstream n] where
  length_le := by simp; omega
  sent i hi := by
    obtain rfl : i = 0 := by simpa using hi
    rfl
  retried i hi := absurd hi (by simp)
  rejected i hi hrej := by
    obtain rfl : i = 0 := by simpa using hi
    simp [hretry] at hrej
  result := Or.inr ⟨List.cons_ne_nil _ _, Or.inr rfl⟩

lemma Returned.cons {sents : List (Sent β τ)} (hn : n + 1 < attempts)
    (hretry : shouldRetry pol (upstream n).outcome = true)
    (hr : Returned datas tr pol upstream attempts (n + 1) (some (upstream n).outcome) res sents) :
    Returned datas tr pol upstream attempts n lastRes res (expectedSent datas tr upstream n :: sents) where
  length_le := by
    have := hr.length_le
    simp only [List.length_cons]
    omega
  sent i hi := by
    cases i with
    | zero => rfl
    | succ i =>
      rw [List.getElem_cons_succ, hr.sent i (by simpa using hi), Nat.add_right_comm, Nat.add_assoc]
  retried i hi := by
    cases i with
    | zero => exact hretry
    | succ i =>
      rw [← Nat.add_assoc, Nat.add_right_comm]
      exact hr.retried i (by simpa using hi)
  rejected i hi hrej := by
    cases i with
    | zero => simp [hretry] at hrej
    | succ i =>
      rw [← Nat.add_assoc, Nat.add_right_comm] at hrej ⊢
      exact hr.rejected i (by simpa using hi) hrej
  result := by
    refine Or.inr ⟨List.cons_ne_nil _ _, ?_⟩
    rcases hr.result with ⟨rfl, h⟩ | ⟨_, h⟩
    · exact Or.inl (by simpa using h.symm)
    · have hlen : n + (sents.length + 1) - 1 = n + 1 + sents.length - 1 := by omega
      simpa only [List.length_cons, hlen] using h

end Returned

/-- A run of the loop from an attempt whose body the loop can send (or with a previous result to
return) does not panic, given the iterations left, and returns as `Returned` says. -/
theorem retryLoop_returned (hne : ∀ c ∈ datas, c ≠ []) (fuel : Nat) :
    ∀ {n : Nat} {this : ReplayBody β τ} {shared : Option (BodyState β τ)} {lastRes : Option (Outcome ρ)},
      attempts ≤ n + fuel → n < attempts → Ready datas tr max this shared →
      (this.isCapped shared ≠ some false → lastRes.isSome) →
      ∃ res sents, retryLoop (some pol) attempts retryBackoff requestTimeout upstream fuel n (some this)
        shared lastRes = some (res, sents) ∧ Returned datas tr pol upstream attempts n lastRes res sents := by
  induction fuel with
  | zero => intro n _ _ _ hfuel hn; omega
  | succ fuel ih =>
    intro n this shared lastRes hfuel hn hr hlast
    by_cases hc : this.isCapped shared = some false
    · obtain ⟨held, shared', hread, hh⟩ := hr.read hne hc (upstream n).reads
      by_cases hstop : n = attempts - 1 ∨ shouldRetry pol (upstream n).outcome = false
      · exact ⟨_, _, retryLoop_of_stop hc hread hstop, .stop hn⟩
      · -- a retried attempt that is not the last
        have hlast' : n ≠ attempts - 1 := fun h => hstop (Or.inl h)
        have hretry : shouldRetry pol (upstream n).outcome = true := by
          simpa using fun h => hstop (Or.inr h)
        cases ht : (retryBackoff.isSome && requestTimeout.isSome && (upstream n).deadlinePassed) with
        | true => exact ⟨_, _, retryLoop_of_timeout hc hread hlast' hretry ht, .timeout hn hretry⟩
        | false =>
          have hnext : Ready datas tr max ⟨none, true, true⟩
              (if (upstream n).released then held.drop shared' else shared') := by
            split
            · exact Ready.of_drop hh
            · exact Ready.of_holds hh
          obtain ⟨res, sents, hrun, hret⟩ := @ih (n + 1) _ _ (some (upstream n).outcome) (by omega)
            (by omega) hnext (fun _ => rfl)
          refine ⟨res, _, ?_, hret.cons (by omega) hretry⟩
          rw [retryLoop_of_retry hc hread hlast' hretry ht, hrun]
          rfl
    · obtain ⟨res, hres⟩ := Option.isSome_iff_exists.mp (hlast hc)
      exact ⟨res, [], by rw [retryLoop_of_not_ready hc, hres]; rfl, .nil hres⟩

/-- With every attempt but the last retried, its body dropped before its result, no backoff reaching
the deadline, and a body within the budget, the loop sends every attempt. -/
theorem retryLoop_length_eq (hne : ∀ c ∈ datas, c ≠ []) (hfit : (datas.map List.length).sum ≤ max)
    (fuel : Nat) :
    ∀ {n : Nat} {this : ReplayBody β τ} {shared : Option (BodyState β τ)} {lastRes : Option (Outcome ρ)}
      {res : Outcome ρ} {sents : List (Sent β τ)},
      attempts ≤ n + fuel → n < attempts → Ready datas tr max this shared → this.isCapped shared = some false →
      (∀ i, n ≤ i → i + 1 < attempts → shouldRetry pol (upstream i).outcome = true ∧
        (upstream i).released = true ∧
        (retryBackoff.isSome && requestTimeout.isSome && (upstream i).deadlinePassed) = false) →
      retryLoop (some pol) attempts retryBackoff requestTimeout upstream fuel n (some this) shared lastRes =
        some (res, sents) →
      sents.length = attempts - n := by
  induction fuel with
  | zero => intro n _ _ _ _ _ hfuel hn; omega
  | succ fuel ih =>
    intro n this shared lastRes res sents hfuel hn hr hc hall hrun
    obtain ⟨held, shared', hread, hh⟩ := hr.read hne hc (upstream n).reads
    by_cases hlast : n = attempts - 1
    · rw [retryLoop_of_stop hc hread (Or.inl hlast)] at hrun
      cases hrun
      simp only [List.length_singleton]
      omega
    · obtain ⟨hretry, hrel, ht⟩ := hall n le_rfl (by omega)
      rw [retryLoop_of_retry hc hread hlast hretry ht, if_pos hrel] at hrun
      obtain ⟨⟨res', sents'⟩, hrec, heq⟩ := Option.bind_eq_some_iff.mp hrun
      -- the body was dropped within the budget, so the next clone can be sent
      have hc' : ReplayBody.isCapped ⟨none, true, true⟩ (held.drop shared') = some false := by
        obtain ⟨m, done, _, hdrop⟩ := hh.drop
        have : bytesRead datas m ≤ (datas.map List.length).sum := bytesRead_le_sum m
        rw [hdrop, isCapped_clone_stateOf]
        simp only [Option.some.injEq, decide_eq_false_iff_not, not_lt]
        omega
      have hlen := ih (by omega) (by omega) (Ready.of_drop hh) hc' (fun i hi hi' => hall i (by omega) hi') hrec
      cases heq
      simp only [List.length_cons]
      omega

end Loop

section Request

variable (datas : List (List β)) (tr : Option τ) (pol : Policy ρ) (requestTimeout : Option Nat)
  (upstream : Nat → Upstream ρ)

lemma retryRequest_eq_retryLoop (hpol : pol.attempts < 255) {lower : Nat} (hlower : lower ≤ maxBufferedBytes) :
    retryRequest (some pol) requestTimeout (innerFrames datas tr) lower upstream =
      retryLoop (some pol) (pol.attempts + 1) pol.backoff requestTimeout upstream (pol.attempts + 1) 0
        (some ⟨some (stateOf datas tr maxBufferedBytes 0 false 0), false, false⟩) none none := by
  have hadd : checkedAdd 8 pol.attempts 1 = some (pol.attempts + 1) := checkedAdd_of_lt (by simp; omega)
  have hgt : 1 < pol.attempts + 1 := by have := pol.attempts_pos; omega
  have hbudget : maxBufferedBytes + 1 < 2 ^ 64 := by simp [maxBufferedBytes]
  simp [retryRequest, hadd, hgt, tryNew_ok hlower hbudget]

/-- Below the largest `attempts`, a request whose body `try_new` accepts does not panic, and the
loop sends at most `attempts + 1` requests, as `Returned` says. -/
theorem retryRequest_returned (hne : ∀ c ∈ datas, c ≠ []) (hpol : pol.attempts < 255) {lower : Nat}
    (hlower : lower ≤ maxBufferedBytes) :
    ∃ res sents, retryRequest (some pol) requestTimeout (innerFrames datas tr) lower upstream = some (res, sents) ∧
      Returned datas tr pol upstream (pol.attempts + 1) 0 none res sents := by
  rw [retryRequest_eq_retryLoop datas tr pol requestTimeout upstream hpol hlower]
  exact retryLoop_returned hne _ (by omega) (by omega) .original
    (fun h => absurd (isCapped_original _ _) h)

theorem retryRequest_returned_once :
    let pol : Policy Unit := ⟨1, by decide, by decide, none, [503], none⟩
    let upstream : Nat → Upstream Unit := fun _ => ⟨1, true, .error .upstreamCallFailed, false⟩
    (∀ c ∈ [[()]], c ≠ []) ∧ pol.attempts < 255 ∧
      ∃ res sents, retryRequest (some pol) none (innerFrames [[()]] (none : Option Unit)) 0 upstream = some (res, sents) ∧
        Returned [[()]] none pol upstream (pol.attempts + 1) 0 none res sents :=
  ⟨by decide, by decide, retryRequest_returned _ _ _ _ _ (by decide) (by decide) (by decide)⟩

/-- Every one of the `attempts + 1` requests is sent when each result but the last is retried, each
body is dropped before its result, no backoff reaches the deadline, and the body fits the budget. -/
theorem retryRequest_length_eq (hne : ∀ c ∈ datas, c ≠ []) (hfit : (datas.map List.length).sum ≤ maxBufferedBytes)
    (hpol : pol.attempts < 255) {lower : Nat} (hlower : lower ≤ maxBufferedBytes)
    (hall : ∀ i < pol.attempts, shouldRetry pol (upstream i).outcome = true ∧ (upstream i).released = true ∧
      (pol.backoff.isSome && requestTimeout.isSome && (upstream i).deadlinePassed) = false) :
    ∃ res sents, retryRequest (some pol) requestTimeout (innerFrames datas tr) lower upstream = some (res, sents) ∧
      sents.length = pol.attempts + 1 := by
  rw [retryRequest_eq_retryLoop datas tr pol requestTimeout upstream hpol hlower]
  obtain ⟨res, sents, hrun, -⟩ := @retryLoop_returned ρ β τ datas tr maxBufferedBytes pol (pol.attempts + 1)
    pol.backoff requestTimeout upstream hne (pol.attempts + 1) 0 _ _ none (by omega) (by omega) .original
    (fun h => absurd (isCapped_original _ _) h)
  exact ⟨res, sents, hrun, retryLoop_length_eq hne hfit _ (by omega) (by omega) .original (isCapped_original _ _)
    (fun i _ hi => hall i (by omega)) hrun⟩

theorem retryRequest_length_eq_retried :
    let pol : Policy Unit := ⟨1, by decide, by decide, none, [503], none⟩
    let upstream : Nat → Upstream Unit := fun _ => ⟨1, true, .error .upstreamCallFailed, false⟩
    (∀ i < pol.attempts, shouldRetry pol (upstream i).outcome = true ∧ (upstream i).released = true ∧
      (pol.backoff.isSome && (none : Option Nat).isSome && (upstream i).deadlinePassed) = false) ∧
      ∃ res sents, retryRequest (some pol) none (innerFrames [[()]] (none : Option Unit)) 0 upstream = some (res, sents) ∧
        sents.length = 2 :=
  ⟨by decide, retryRequest_length_eq _ _ _ _ _ (by decide) (by decide) (by decide) (by decide) (by decide)⟩

end Request

end AgentGateway.Proxy
