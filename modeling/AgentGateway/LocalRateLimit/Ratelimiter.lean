import AgentGateway.Library.Checked

/-! The token bucket of `http/localratelimit.rs` and its `RateLimit` policy; an overflowing
`u64` operation panics (`none`), `fetch_add` wraps. -/

namespace AgentGateway.LocalRateLimit

open Library.Checked

inductive Error where
  | availableTokensTooHigh
  | maxTokensTooLow
  | refillAmountTooHigh
  | refillIntervalTooLong
  deriving DecidableEq, Repr

structure Parameters where
  capacity : Nat
  refillAmount : Nat
  refillInterval : Nat
  capacity_lt : capacity < 2 ^ 64
  refillAmount_le : refillAmount ≤ capacity
  refillInterval_lt : refillInterval < 2 ^ 64

structure Ratelimiter where
  available : Nat
  dropped : Nat
  parameters : Parameters
  refillAt : Nat

structure Builder where
  initialAvailable : UInt64
  maxTokens : UInt64
  refillAmount : UInt64
  refillInterval : Nat

def Ratelimiter.builder (amount : UInt64) (interval : Nat) : Builder :=
  { initialAvailable := 0, maxTokens := 1, refillAmount := amount, refillInterval := interval }

def Builder.build (b : Builder) (now : Nat) : Option (Except Error Ratelimiter) :=
  if hm : b.maxTokens.toNat < b.refillAmount.toNat then some (.error .maxTokensTooLow)
  else if hi : 2 ^ 64 - 1 < b.refillInterval then some (.error .refillIntervalTooLong)
  else
    (checkedAdd 64 now b.refillInterval).map fun refillAt =>
      .ok { available := b.initialAvailable.toNat, dropped := 0, refillAt
            parameters := { capacity := b.maxTokens.toNat, refillAmount := b.refillAmount.toNat
                            refillInterval := b.refillInterval, capacity_lt := b.maxTokens.toNat_lt
                            refillAmount_le := by omega, refillInterval_lt := by omega } }

def Ratelimiter.maxTokens (rl : Ratelimiter) : Nat := rl.parameters.capacity

def Ratelimiter.nextRefill (rl : Ratelimiter) : Nat := rl.refillAt

def Ratelimiter.amendTokens (rl : Ratelimiter) (tokensToRemove : Int) : Ratelimiter :=
  if tokensToRemove = 0 then rl
  else if tokensToRemove < 0 then
    -- a refund: saturating at u64::MAX, with no cap at the bucket's capacity
    { rl with available := saturatingAdd 64 rl.available tokensToRemove.natAbs }
  else { rl with available := rl.available - tokensToRemove.natAbs }

def Ratelimiter.refill (rl : Ratelimiter) (time : Nat) : Option (Ratelimiter × Except Nat Unit) :=
  if time < rl.refillAt then some (rl, .error (rl.refillAt - time))
  else do
    let p := rl.parameters
    let elapsed ← checkedDiv (time - rl.refillAt) p.refillInterval
    let intervals ← checkedAdd 64 elapsed 1
    let span ← checkedMul 64 intervals p.refillInterval
    let nextRefill ← checkedAdd 64 rl.refillAt span
    let amount ← checkedMul 64 intervals p.refillAmount
    let total ← checkedAdd 64 rl.available amount
    if p.capacity ≤ total then
      let toAdd ← checkedSub p.capacity rl.available
      let dropped ← checkedSub amount toAdd
      pure ({ rl with refillAt := nextRefill, available := wrappingAdd 64 rl.available toAdd
                      dropped := wrappingAdd 64 rl.dropped dropped }, .ok ())
    else
      pure ({ rl with refillAt := nextRefill, available := wrappingAdd 64 rl.available amount }, .ok ())

def Ratelimiter.availableRefill (rl : Ratelimiter) (now : Nat) : Option (Ratelimiter × Nat) :=
  (rl.refill now).map fun (rl', _) => (rl', rl'.available)

/-- What a successful refill did: it was due, the interval is positive, and the bucket took the
elapsed intervals' tokens up to its capacity, from a level at most the capacity. -/
structure Refilled (rl rl' : Ratelimiter) (time : Nat) : Prop where
  due : rl.refillAt ≤ time
  interval_pos : 0 < rl.parameters.refillInterval
  parameters : rl'.parameters = rl.parameters
  refillAt : rl'.refillAt = rl.refillAt +
    ((time - rl.refillAt) / rl.parameters.refillInterval + 1) * rl.parameters.refillInterval
  available_le : rl.available ≤ rl.parameters.capacity
  available : rl'.available = min rl.parameters.capacity (rl.available +
    ((time - rl.refillAt) / rl.parameters.refillInterval + 1) * rl.parameters.refillAmount)

variable {rl rl' : Ratelimiter} {time : Nat}

lemma refill_of_lt (h : time < rl.refillAt) : rl.refill time = some (rl, .error (rl.refillAt - time)) :=
  if_pos h

lemma refill_of_le (h : rl.refillAt ≤ time) {r : Except Nat Unit} (hr : rl.refill time = some (rl', r)) :
    r = .ok () ∧ Refilled rl rl' time := by
  unfold Ratelimiter.refill at hr
  rw [if_neg (Nat.not_lt.2 h)] at hr
  simp only [bind, Option.bind_eq_some_iff, checkedDiv_eq_some, checkedAdd_eq_some, checkedMul_eq_some] at hr
  obtain ⟨_, ⟨hI, rfl⟩, _, ⟨-, rfl⟩, _, ⟨-, rfl⟩, _, ⟨-, rfl⟩, _, ⟨-, rfl⟩, _, ⟨-, rfl⟩, hr⟩ := hr
  have hcap := rl.parameters.capacity_lt
  split at hr
  · -- the bucket fills up: the subtraction capacity - available is what needs available ≤ capacity
    simp only [Option.bind_eq_some_iff, checkedSub_eq_some, Option.pure_def, Option.some.injEq,
      Prod.mk.injEq] at hr
    obtain ⟨_, ⟨hle, rfl⟩, _, -, rfl, rfl⟩ := hr
    refine ⟨rfl, ⟨h, hI, rfl, rfl, hle, ?_⟩⟩
    rw [wrappingAdd_of_lt (show rl.available + (rl.parameters.capacity - rl.available) < 2 ^ 64 by omega)]
    dsimp only
    omega
  · rename_i hlt
    simp only [Option.pure_def, Option.some.injEq, Prod.mk.injEq] at hr
    obtain ⟨rfl, rfl⟩ := hr
    refine ⟨rfl, ⟨h, hI, rfl, rfl, by omega, ?_⟩⟩
    rw [wrappingAdd_of_lt (Nat.lt_trans (Nat.not_le.1 hlt) hcap)]
    dsimp only
    omega

namespace Refilled

variable (h : Refilled rl rl' time)
include h

lemma lt_refillAt : time < rl'.refillAt := by
  rw [h.refillAt]
  have := Nat.lt_div_mul_add (a := time - rl.refillAt) h.interval_pos
  have := h.due
  rw [Nat.add_mul, Nat.one_mul]
  omega

lemma refillAt_le : rl'.refillAt ≤ time + rl.parameters.refillInterval := by
  rw [h.refillAt, Nat.add_mul, Nat.one_mul]
  have := Nat.div_mul_le_self (time - rl.refillAt) rl.parameters.refillInterval
  have := h.due
  omega

lemma available_le_capacity : rl'.available ≤ rl'.parameters.capacity := by
  rw [h.available, h.parameters]
  exact min_le_left _ _

end Refilled

-- the linter does not see the use of the match hypothesis in the termination proof
set_option linter.unusedVariables false in
/-- The loop of `try_wait_n`: refill, then take `n` tokens or report the wait. When the refill
succeeded but left too few tokens the source loops again; the clock has not moved, so the next
refill is not due and the loop ends there. -/
def Ratelimiter.tryWaitLoop (rl : Ratelimiter) (n now : Nat) :
    Option (Ratelimiter × Except (Nat × Nat × Nat) Unit) :=
  match h : rl.refill now with
  | none => none
  | some (rl', .ok ()) =>
    if rl'.available < n then rl'.tryWaitLoop n now
    else some ({ rl' with available := rl'.available - n }, .ok ())
  | some (rl', .error e) =>
    if rl'.available < n then some (rl', .error (rl'.parameters.capacity, rl'.available, e))
    else some ({ rl' with available := rl'.available - n }, .ok ())
termination_by now + 1 - rl.refillAt
decreasing_by
  have hle : rl.refillAt ≤ now := Nat.not_lt.1 fun hlt => by simp [refill_of_lt hlt] at h
  have := (refill_of_le hle h).2.lt_refillAt
  omega

def Ratelimiter.tryWaitN (rl : Ratelimiter) (n now : Nat) :
    Option (Ratelimiter × Except (Nat × Nat × Nat) Unit) :=
  if n = 0 ∨ rl.parameters.capacity < n then
    some (rl, .error (rl.parameters.capacity, rl.available, 0))
  else rl.tryWaitLoop n now

def Ratelimiter.tryWait (rl : Ratelimiter) (now : Nat) :
    Option (Ratelimiter × Except (Nat × Nat × Nat) Unit) :=
  rl.tryWaitN 1 now

def RefillStep (rl rl' : Ratelimiter) (time : Nat) : Prop :=
  (time < rl.refillAt ∧ rl' = rl) ∨ Refilled rl rl' time

lemma refill_step {r : Except Nat Unit} (hr : rl.refill time = some (rl', r)) : RefillStep rl rl' time := by
  by_cases h : time < rl.refillAt
  · rw [refill_of_lt h, Option.some.injEq, Prod.mk.injEq] at hr
    exact .inl ⟨h, hr.1.symm⟩
  · exact .inr (refill_of_le (Nat.not_lt.1 h) hr).2

lemma tryWaitLoop_of_lt {n now : Nat} (h : now < rl.refillAt) : rl.tryWaitLoop n now =
    some (if rl.available < n then (rl, .error (rl.parameters.capacity, rl.available, rl.refillAt - now))
      else ({ rl with available := rl.available - n }, .ok ())) := by
  rw [Ratelimiter.tryWaitLoop]
  split
  · next hr => simp [refill_of_lt h] at hr
  · next hr => simp [refill_of_lt h] at hr
  · next rl₁ e hr =>
    rw [refill_of_lt h, Option.some.injEq, Prod.mk.injEq] at hr
    obtain ⟨rfl, hr⟩ := hr
    cases hr
    split <;> rfl

lemma tryWaitLoop_eq (rl : Ratelimiter) (n now : Nat) : rl.tryWaitLoop n now =
    (rl.refill now).map fun (rl₁, r) =>
      if rl₁.available < n then
        (rl₁, .error (rl₁.parameters.capacity, rl₁.available,
          match r with
          | .ok () => rl₁.refillAt - now
          | .error e => e))
      else ({ rl₁ with available := rl₁.available - n }, .ok ()) := by
  by_cases h : now < rl.refillAt
  · rw [tryWaitLoop_of_lt h, refill_of_lt h]
    rfl
  · rw [Ratelimiter.tryWaitLoop]
    split
    · next hr => rw [hr]; rfl
    · next rl₁ hr =>
      have hs := (refill_of_le (Nat.not_lt.1 h) hr).2
      rw [hr, Option.map_some]
      dsimp only
      split
      · next hlt => rw [tryWaitLoop_of_lt hs.lt_refillAt, if_pos hlt]
      · rfl
    · -- a refill that is due never reports a wait
      next rl₁ e hr => cases (refill_of_le (Nat.not_lt.1 h) hr).1

lemma tryWaitLoop_some {n now : Nat} {r : Except (Nat × Nat × Nat) Unit} (h : rl.tryWaitLoop n now = some (rl', r)) :
    ∃ rl₁, RefillStep rl rl₁ now ∧
      ((r = .ok () ∧ n ≤ rl₁.available ∧ rl' = { rl₁ with available := rl₁.available - n }) ∨
        (r ≠ .ok () ∧ rl₁.available < n ∧ rl' = rl₁)) := by
  rw [tryWaitLoop_eq, Option.map_eq_some_iff] at h
  obtain ⟨⟨rl₁, r₁⟩, hr, h⟩ := h
  refine ⟨rl₁, refill_step hr, ?_⟩
  dsimp only at h
  split at h
  · rw [Prod.mk.injEq] at h
    exact .inr ⟨by rw [← h.2]; simp, ‹_›, h.1.symm⟩
  · rw [Prod.mk.injEq] at h
    exact .inl ⟨h.2.symm, by omega, h.1.symm⟩

inductive RateLimitType where
  | requests
  | tokens
  deriving DecidableEq, Repr

structure RateLimitSpec where
  maxTokens : UInt64
  tokensPerFill : UInt64
  fillInterval : Nat
  limitType : RateLimitType

structure RateLimit where
  ratelimit : Ratelimiter
  spec : RateLimitSpec

structure RateLimitExceeded where
  limit : Nat
  remaining : Nat
  resetSeconds : Nat
  deriving DecidableEq, Repr

def RateLimit.tryFrom (value : RateLimitSpec) (now : Nat) : Option (Except Error RateLimit) :=
  let b := Ratelimiter.builder value.tokensPerFill value.fillInterval
  (({ b with initialAvailable := value.maxTokens, maxTokens := value.maxTokens } : Builder).build now).map
    fun r => r.map fun rl => { ratelimit := rl, spec := value }

def RateLimit.rejected (e : Nat × Nat × Nat) : RateLimitExceeded :=
  { limit := e.1, remaining := e.2.1, resetSeconds := e.2.2 / 10 ^ 9 }

def RateLimit.withLimiter (r : RateLimit) (res : Ratelimiter × Except (Nat × Nat × Nat) Unit) :
    RateLimit × Except RateLimitExceeded Unit :=
  ({ r with ratelimit := res.1 }, res.2.mapError RateLimit.rejected)

def RateLimit.checkRequest (r : RateLimit) (now : Nat) : Option (RateLimit × Except RateLimitExceeded Unit) :=
  if r.spec.limitType ≠ .requests then some (r, .ok ())
  else (r.ratelimit.tryWait now).map r.withLimiter

def RateLimit.checkLlmRequest (r : RateLimit) (inputTokens : Option Nat) (now : Nat) :
    Option (RateLimit × Except RateLimitExceeded Unit) :=
  if r.spec.limitType ≠ .tokens then some (r, .ok ())
  else match inputTokens with
    | some it => (r.ratelimit.tryWaitN it now).map r.withLimiter
    | none => do
      -- at least one token must be there; nothing is taken
      let (rl, avail) ← r.ratelimit.availableRefill now
      if 0 < avail then pure ({ r with ratelimit := rl }, .ok ())
      else
        let reset ← checkedSub rl.nextRefill now
        pure ({ r with ratelimit := rl },
          .error { limit := rl.maxTokens, remaining := avail, resetSeconds := reset / 10 ^ 9 })

def RateLimit.amendTokens (r : RateLimit) (tokensToRemove : Int) : RateLimit :=
  { r with ratelimit := r.ratelimit.amendTokens tokensToRemove }

/-- The true-up of `llm::amend_tokens` for the local limits: the actual input tokens less the
counted ones, plus the output tokens, as `i64`; negative when the estimate was too high. -/
def Llm.amendTokens (localRateLimit : List RateLimit) (requestInput responseInput responseOutput : Option Nat) :
    Option (List RateLimit) := do
  let inputMismatch ← match requestInput, responseInput with
    | some req, some resp => checkedSigned 64 (wrapSigned 64 resp - wrapSigned 64 req)
    | _, none => pure 0
    | _, some resp => pure (wrapSigned 64 resp)
  let tokensToRemove ← checkedSigned 64 (inputMismatch + wrapSigned 64 (responseOutput.getD 0))
  pure (localRateLimit.map (·.amendTokens tokensToRemove))

end AgentGateway.LocalRateLimit
