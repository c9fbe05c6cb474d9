import AgentGateway.LocalRateLimit.Ratelimiter

/-! Runs of the local rate limiter: what one call does to the bucket (`Step`), and the token,
level and panic bounds over a run. -/

namespace AgentGateway.LocalRateLimit

open Library.Checked

inductive Call where
  | tryWaitN (n : Nat)
  | availableRefill
  | amendTokens (t : Int)

def Ratelimiter.call (rl : Ratelimiter) (now : Nat) : Call → Option (Ratelimiter × Nat)
  | .tryWaitN n => (rl.tryWaitN n now).map fun (rl', r) => (rl', if r.toBool then n else 0)
  | .availableRefill => (rl.availableRefill now).map fun (rl', _) => (rl', 0)
  | .amendTokens t => some (rl.amendTokens t, 0)

def Call.refund : Call → Nat
  | .amendTokens t => if t < 0 then t.natAbs else 0
  | _ => 0

def refunds (calls : List (Nat × Call)) : Nat := (calls.map fun c => c.2.refund).sum

def Ratelimiter.run (rl : Ratelimiter) : List (Nat × Call) → Option (Ratelimiter × Nat)
  | [] => some (rl, 0)
  | (now, c) :: calls => do
    let (rl₁, g) ← rl.call now c
    let (rl₂, g') ← rl₁.run calls
    pure (rl₂, g + g')

variable {rl rl' rl₁ : Ratelimiter} {now g : Nat} {c : Call}

@[simp] lemma refunds_cons (now : Nat) (c : Call) (calls : List (Nat × Call)) :
    refunds ((now, c) :: calls) = c.refund + refunds calls := by
  simp [refunds]

lemma run_cons {calls : List (Nat × Call)} (h : rl.run ((now, c) :: calls) = some (rl', g)) :
    ∃ rl₁ g₁ g₂, rl.call now c = some (rl₁, g₁) ∧ rl₁.run calls = some (rl', g₂) ∧ g = g₁ + g₂ := by
  simp only [Ratelimiter.run, bind, Option.bind_eq_some_iff, Option.pure_def, Option.some.injEq] at h
  obtain ⟨⟨rl₁, g₁⟩, h₁, ⟨rl₂, g₂⟩, h₂, h⟩ := h
  rw [Prod.mk.injEq] at h
  obtain ⟨rfl, rfl⟩ := h
  exact ⟨rl₁, g₁, g₂, h₁, h₂, rfl⟩

/-- What a call does to the bucket: it credits `d` refill intervals, which moves the next refill
`d` intervals on (to at most one interval past the reading when `d > 0`), and the level plus the
tokens granted grows by at most those intervals' tokens and the refund. -/
structure Step (rl rl' : Ratelimiter) (now : Nat) (c : Call) (g : Nat) : Prop where
  parameters : rl'.parameters = rl.parameters
  credit : ∃ d, rl'.refillAt = rl.refillAt + d * rl.parameters.refillInterval ∧
    (d = 0 ∨ 0 < rl.parameters.refillInterval ∧ rl'.refillAt ≤ now + rl.parameters.refillInterval) ∧
    rl'.available + g ≤ rl.available + d * rl.parameters.refillAmount + c.refund

lemma RefillStep.credit (h : RefillStep rl rl₁ now) :
    rl₁.parameters = rl.parameters ∧ ∃ d, rl₁.refillAt = rl.refillAt + d * rl.parameters.refillInterval ∧
      (d = 0 ∨ 0 < rl.parameters.refillInterval ∧ rl₁.refillAt ≤ now + rl.parameters.refillInterval) ∧
      rl₁.available ≤ rl.available + d * rl.parameters.refillAmount := by
  rcases h with ⟨-, rfl⟩ | h
  · exact ⟨rfl, 0, by simp⟩
  · refine ⟨h.parameters, _, h.refillAt, .inr ⟨h.interval_pos, h.refillAt_le⟩, ?_⟩
    rw [h.available]
    exact min_le_right _ _

lemma RefillStep.available_le (h : RefillStep rl rl₁ now) (ha : rl.available ≤ rl.parameters.capacity) :
    rl₁.available ≤ rl₁.parameters.capacity := by
  rcases h with ⟨-, rfl⟩ | h
  · exact ha
  · exact h.available_le_capacity

lemma step_of_refillStep (h : RefillStep rl rl₁ now) (c : Call) {n : Nat} (hn : n ≤ rl₁.available) :
    Step rl { rl₁ with available := rl₁.available - n } now c n := by
  obtain ⟨hp, d, hd, hb, ha⟩ := h.credit
  exact ⟨hp, d, hd, hb, by dsimp only; omega⟩

lemma tryWaitN_step {n : Nat} {r : Except (Nat × Nat × Nat) Unit} (h : rl.tryWaitN n now = some (rl', r)) :
    Step rl rl' now (.tryWaitN n) (if r.toBool then n else 0) := by
  unfold Ratelimiter.tryWaitN at h
  split at h
  · -- refused before any refill: nothing changes
    rw [Option.some.injEq, Prod.mk.injEq] at h
    obtain ⟨rfl, rfl⟩ := h
    exact ⟨rfl, 0, by simp [Except.toBool]⟩
  · obtain ⟨rl₁, hs, ⟨rfl, hn, rfl⟩ | ⟨hr, -, rfl⟩⟩ := tryWaitLoop_some h
    · exact step_of_refillStep hs _ hn
    · have hb : r.toBool = false := by
        cases r with
        | ok u => exact absurd rfl hr
        | error e => rfl
      simpa [hb] using step_of_refillStep hs (.tryWaitN n) (Nat.zero_le _)

lemma amendTokens_step (t : Int) : Step rl (rl.amendTokens t) now (.amendTokens t) 0 := by
  refine ⟨?_, 0, ?_, .inl rfl, ?_⟩
  · unfold Ratelimiter.amendTokens
    split_ifs <;> rfl
  · unfold Ratelimiter.amendTokens
    split_ifs <;> simp
  · unfold Ratelimiter.amendTokens
    by_cases h₀ : t = 0
    · simp [h₀]
    by_cases hneg : t < 0
    · have := saturatingAdd_le (w := 64) (a := rl.available) (b := t.natAbs)
      simp only [if_neg h₀, if_pos hneg, Call.refund, Nat.zero_mul, Nat.add_zero]
      omega
    · simp only [if_neg h₀, if_neg hneg, Call.refund, Nat.zero_mul, Nat.add_zero]
      omega

theorem call_step (h : rl.call now c = some (rl', g)) : Step rl rl' now c g := by
  cases c with
  | tryWaitN n =>
    rw [Ratelimiter.call, Option.map_eq_some_iff] at h
    obtain ⟨⟨rl₁, r⟩, h, he⟩ := h
    rw [Prod.mk.injEq] at he
    obtain ⟨rfl, rfl⟩ := he
    exact tryWaitN_step h
  | availableRefill =>
    rw [Ratelimiter.call, Ratelimiter.availableRefill, Option.map_map, Option.map_eq_some_iff] at h
    obtain ⟨⟨rl₁, r⟩, h, he⟩ := h
    rw [Function.comp_apply, Prod.mk.injEq] at he
    obtain ⟨rfl, rfl⟩ := he
    exact step_of_refillStep (refill_step h) _ (Nat.zero_le _)
  | amendTokens t =>
    rw [Ratelimiter.call, Option.some.injEq, Prod.mk.injEq] at h
    obtain ⟨rfl, rfl⟩ := h
    exact amendTokens_step t

/-- The ledger of a run: `K` refill intervals credited in all, the next refill `K` intervals later
and at most one interval past the last reading, and the tokens granted covered by the level at the
start, the `K` intervals' tokens and the refunds. The induction is on the calls, with `Step` for the
first one. -/
theorem run_ledger {T : Nat} : ∀ {rl : Ratelimiter} {calls : List (Nat × Call)} {g : Nat},
    rl.run calls = some (rl', g) → (∀ c ∈ calls, c.1 ≤ T) →
    rl'.parameters = rl.parameters ∧ ∃ K, rl'.refillAt = rl.refillAt + K * rl.parameters.refillInterval ∧
      (K = 0 ∨ 0 < rl.parameters.refillInterval ∧ rl'.refillAt ≤ T + rl.parameters.refillInterval) ∧
      rl'.available + g ≤ rl.available + K * rl.parameters.refillAmount + refunds calls
  | rl, [], g, h, _ => by
    rw [Ratelimiter.run, Option.some.injEq, Prod.mk.injEq] at h
    obtain ⟨rfl, rfl⟩ := h
    exact ⟨rfl, 0, by simp⟩
  | rl, (now, c) :: calls, g, h, hT => by
    obtain ⟨rl₁, g₁, g₂, h₁, h₂, rfl⟩ := run_cons h
    obtain ⟨hp₁, d, hd, hbd, hg₁⟩ := call_step h₁
    obtain ⟨hp₂, K, hK, hbK, hg₂⟩ := run_ledger h₂ fun c hc => hT c (List.mem_cons_of_mem _ hc)
    have hnow : now ≤ T := hT (now, c) List.mem_cons_self
    rw [hp₁] at hK hbK hg₂
    refine ⟨hp₂.trans hp₁, d + K, by rw [hK, hd, Nat.add_mul]; omega, ?_, ?_⟩
    · -- the last refill of the run decides where the next one stands
      rcases hbK with rfl | ⟨hI, hle⟩
      · rcases hbd with rfl | ⟨hI, hle⟩
        · exact .inl rfl
        · exact .inr ⟨hI, by omega⟩
      · exact .inr ⟨hI, hle⟩
    · rw [refunds_cons, Nat.add_mul]
      omega

/-- Over any run, from any state, the tokens granted are at most the level at the start, plus the
refill amount for each refill that fell due by the last reading `T`, plus the refunds. -/
theorem run_granted_le {T : Nat} {calls : List (Nat × Call)} (h : rl.run calls = some (rl', g))
    (hT : ∀ c ∈ calls, c.1 ≤ T) :
    g ≤ rl.available + rl.parameters.refillAmount *
      ((T + rl.parameters.refillInterval - rl.refillAt) / rl.parameters.refillInterval) + refunds calls := by
  obtain ⟨-, K, hK, hb, hg⟩ := run_ledger h hT
  have hKle : K ≤ (T + rl.parameters.refillInterval - rl.refillAt) / rl.parameters.refillInterval := by
    rcases hb with rfl | ⟨hI, hle⟩
    · exact Nat.zero_le _
    · rw [Nat.le_div_iff_mul_le hI]
      omega
  have := Nat.mul_le_mul_left rl.parameters.refillAmount hKle
  rw [Nat.mul_comm] at hg
  omega

lemma call_available_le (h : rl.call now c = some (rl', g)) (hc : c.refund = 0)
    (ha : rl.available ≤ rl.parameters.capacity) : rl'.available ≤ rl'.parameters.capacity := by
  cases c with
  | tryWaitN n =>
    rw [Ratelimiter.call, Option.map_eq_some_iff] at h
    obtain ⟨⟨rl₁, r⟩, h, he⟩ := h
    rw [Prod.mk.injEq] at he
    obtain ⟨rfl, -⟩ := he
    unfold Ratelimiter.tryWaitN at h
    split at h
    · rw [Option.some.injEq, Prod.mk.injEq] at h
      rw [← h.1]
      exact ha
    · obtain ⟨rl₂, hs, ⟨-, -, rfl⟩ | ⟨-, -, rfl⟩⟩ := tryWaitLoop_some h
      · exact Nat.le_trans (Nat.sub_le _ _) (hs.available_le ha)
      · exact hs.available_le ha
  | availableRefill =>
    rw [Ratelimiter.call, Ratelimiter.availableRefill, Option.map_map, Option.map_eq_some_iff] at h
    obtain ⟨⟨rl₁, r⟩, h, he⟩ := h
    rw [Function.comp_apply, Prod.mk.injEq] at he
    obtain ⟨rfl, -⟩ := he
    exact (refill_step h).available_le ha
  | amendTokens t =>
    rw [Ratelimiter.call, Option.some.injEq, Prod.mk.injEq] at h
    obtain ⟨rfl, -⟩ := h
    -- without a refund the amendment only takes tokens away
    have ht : ¬ t < 0 := fun ht => by simp [Call.refund, ht] at hc; omega
    unfold Ratelimiter.amendTokens
    split_ifs
    · exact ha
    · exact Nat.le_trans (Nat.sub_le _ _) ha

theorem run_available_le : ∀ {rl : Ratelimiter} {calls : List (Nat × Call)} {g : Nat},
    rl.run calls = some (rl', g) → (∀ c ∈ calls, c.2.refund = 0) →
    rl.available ≤ rl.parameters.capacity → rl'.available ≤ rl'.parameters.capacity
  | rl, [], g, h, _, ha => by
    rw [Ratelimiter.run, Option.some.injEq, Prod.mk.injEq] at h
    rw [← h.1]
    exact ha
  | rl, (now, c) :: calls, g, h, hc, ha => by
    obtain ⟨rl₁, g₁, g₂, h₁, h₂, rfl⟩ := run_cons h
    exact run_available_le h₂ (fun c hm => hc c (List.mem_cons_of_mem _ hm))
      (call_available_le h₁ (hc _ List.mem_cons_self) ha)

lemma refill_isSome {time : Nat} (hI : 0 < rl.parameters.refillInterval)
    (ha : rl.available ≤ rl.parameters.capacity) (hfit : time + rl.parameters.refillInterval < 2 ^ 64)
    (hamt : rl.refillAt ≤ time → ((time - rl.refillAt) / rl.parameters.refillInterval + 1) *
      rl.parameters.refillAmount + rl.parameters.capacity < 2 ^ 64) :
    (rl.refill time).isSome := by
  by_cases h : time < rl.refillAt
  · simp [refill_of_lt h]
  have hamt := hamt (Nat.not_lt.1 h)
  have hq := Nat.div_mul_le_self (time - rl.refillAt) rl.parameters.refillInterval
  have hq' := Nat.div_le_self (time - rl.refillAt) rl.parameters.refillInterval
  -- every intermediate value stays below 2 ^ 64
  have hspan : ((time - rl.refillAt) / rl.parameters.refillInterval + 1) * rl.parameters.refillInterval ≤
      time - rl.refillAt + rl.parameters.refillInterval := by
    rw [Nat.add_mul, Nat.one_mul]
    omega
  have h₁ : (time - rl.refillAt) / rl.parameters.refillInterval + 1 < 2 ^ 64 := by omega
  have h₂ : ((time - rl.refillAt) / rl.parameters.refillInterval + 1) * rl.parameters.refillInterval < 2 ^ 64 := by
    omega
  have h₃ : rl.refillAt + ((time - rl.refillAt) / rl.parameters.refillInterval + 1) *
      rl.parameters.refillInterval < 2 ^ 64 := by omega
  have h₄ : ((time - rl.refillAt) / rl.parameters.refillInterval + 1) * rl.parameters.refillAmount < 2 ^ 64 := by
    omega
  have h₅ : rl.available + ((time - rl.refillAt) / rl.parameters.refillInterval + 1) *
      rl.parameters.refillAmount < 2 ^ 64 := by omega
  unfold Ratelimiter.refill
  rw [if_neg h]
  simp only [checkedDiv_of_pos hI, checkedAdd_of_lt h₁, checkedMul_of_lt h₂, checkedAdd_of_lt h₃,
    checkedMul_of_lt h₄, checkedAdd_of_lt h₅, bind, Option.bind_some]
  split
  · rw [checkedSub_of_le ha, Option.bind_some, checkedSub_of_le (by omega)]
    rfl
  · rfl

lemma call_isSome (c : Call) (hI : 0 < rl.parameters.refillInterval)
    (ha : rl.available ≤ rl.parameters.capacity) (hfit : now + rl.parameters.refillInterval < 2 ^ 64)
    (hamt : rl.refillAt ≤ now → ((now - rl.refillAt) / rl.parameters.refillInterval + 1) *
      rl.parameters.refillAmount + rl.parameters.capacity < 2 ^ 64) :
    (rl.call now c).isSome := by
  have hr := refill_isSome hI ha hfit hamt
  cases c with
  | tryWaitN n =>
    rw [Ratelimiter.call, Option.isSome_map, Ratelimiter.tryWaitN]
    split
    · rfl
    · rwa [tryWaitLoop_eq, Option.isSome_map]
  | availableRefill => rwa [Ratelimiter.call, Option.isSome_map, Ratelimiter.availableRefill, Option.isSome_map]
  | amendTokens t => rfl

/-- A run without refunds, with a positive interval, panics nowhere when the readings up to `T`
leave room in `u64` for the next refill instant and for the tokens of every interval due from the
refill at `R₀` on. The invariant is the level within capacity and the next refill not before `R₀`. -/
theorem run_isSome {p : Parameters} {T R₀ : Nat} (hI : 0 < p.refillInterval)
    (hfit : T + p.refillInterval < 2 ^ 64)
    (hamt : (T + p.refillInterval - R₀) / p.refillInterval * p.refillAmount + p.capacity < 2 ^ 64) :
    ∀ {rl : Ratelimiter} {calls : List (Nat × Call)}, rl.parameters = p →
      R₀ ≤ rl.refillAt → rl.available ≤ p.capacity → (∀ c ∈ calls, c.1 ≤ T) →
      (∀ c ∈ calls, c.2.refund = 0) → (rl.run calls).isSome
  | rl, [], _, _, _, _, _ => rfl
  | rl, (now, c) :: calls, hp, hR, ha, hT, hc => by
    have hnow : now ≤ T := hT (now, c) List.mem_cons_self
    subst hp
    have hstep : (rl.call now c).isSome := by
      refine call_isSome c hI ha (by omega) fun hdue => ?_
      -- the intervals due now are at most those due by `T` counted from `R₀`
      have hle : (now - rl.refillAt) / rl.parameters.refillInterval + 1 ≤
          (T + rl.parameters.refillInterval - R₀) / rl.parameters.refillInterval := by
        rw [← Nat.add_div_right _ hI]
        exact Nat.div_le_div_right (by omega)
      have := Nat.mul_le_mul_right rl.parameters.refillAmount hle
      omega
    obtain ⟨⟨rl₁, g₁⟩, h₁⟩ := Option.isSome_iff_exists.1 hstep
    obtain ⟨hp₁, d, hd, -⟩ := call_step h₁
    have ha₁ := call_available_le h₁ (hc _ List.mem_cons_self) ha
    rw [hp₁] at ha₁
    have hrest := run_isSome hI hfit hamt hp₁ (by omega) ha₁
      (fun c hm => hT c (List.mem_cons_of_mem _ hm)) (fun c hm => hc c (List.mem_cons_of_mem _ hm))
    obtain ⟨⟨rl₂, g₂⟩, h₂⟩ := Option.isSome_iff_exists.1 hrest
    simp [Ratelimiter.run, h₁, h₂]

lemma tryFrom_ok {spec : RateLimitSpec} {start : Nat} {r : RateLimit}
    (h : RateLimit.tryFrom spec start = some (.ok r)) :
    r.spec = spec ∧ r.ratelimit.available = spec.maxTokens.toNat ∧
      r.ratelimit.refillAt = start + spec.fillInterval ∧
      r.ratelimit.parameters.capacity = spec.maxTokens.toNat ∧
      r.ratelimit.parameters.refillAmount = spec.tokensPerFill.toNat ∧
      r.ratelimit.parameters.refillInterval = spec.fillInterval := by
  unfold RateLimit.tryFrom Builder.build at h
  dsimp only [Ratelimiter.builder] at h
  -- the builder's two refusals are errors, not limiters
  split at h
  · cases h
  split at h
  · cases h
  rw [Option.map_map, Option.map_eq_some_iff] at h
  obtain ⟨refillAt, hra, h⟩ := h
  obtain ⟨-, rfl⟩ := checkedAdd_eq_some.1 hra
  cases h
  exact ⟨rfl, rfl, rfl, rfl, rfl, rfl⟩

/-- The token bound for a limiter built by `RateLimit::try_from`: over any run with readings up to
`T`, the tokens granted are at most `max_tokens`, plus `tokens_per_fill` for each `fill_interval`
elapsed since the build, plus the refunds. -/
theorem tryFrom_run_granted_le {spec : RateLimitSpec} {start T : Nat} {r : RateLimit}
    {calls : List (Nat × Call)} (h : RateLimit.tryFrom spec start = some (.ok r))
    (hrun : r.ratelimit.run calls = some (rl', g)) (hT : ∀ c ∈ calls, c.1 ≤ T) :
    g ≤ spec.maxTokens.toNat + spec.tokensPerFill.toNat * ((T - start) / spec.fillInterval) + refunds calls := by
  obtain ⟨-, ha, hR, -, hA, hI⟩ := tryFrom_ok h
  have hg := run_granted_le hrun hT
  rw [ha, hR, hA, hI, show T + spec.fillInterval - (start + spec.fillInterval) = T - start by omega] at hg
  exact hg

/-- Where the bucket is safe: without refunds, with a positive `fill_interval` and readings that
leave room in `u64`, no call of a run panics and the level stays within `max_tokens`. -/
theorem tryFrom_run_safe {spec : RateLimitSpec} {start T : Nat} {r : RateLimit}
    {calls : List (Nat × Call)} (h : RateLimit.tryFrom spec start = some (.ok r))
    (hT : ∀ c ∈ calls, c.1 ≤ T) (hc : ∀ c ∈ calls, c.2.refund = 0) (hI : 0 < spec.fillInterval)
    (hfit : T + spec.fillInterval < 2 ^ 64)
    (hamt : spec.tokensPerFill.toNat * ((T - start) / spec.fillInterval) + spec.maxTokens.toNat < 2 ^ 64) :
    ∃ rl' g, r.ratelimit.run calls = some (rl', g) ∧ rl'.available ≤ spec.maxTokens.toNat := by
  obtain ⟨-, ha, hR, hC, hA, hI'⟩ := tryFrom_ok h
  have hamt' : (T + r.ratelimit.parameters.refillInterval - r.ratelimit.refillAt) /
      r.ratelimit.parameters.refillInterval * r.ratelimit.parameters.refillAmount +
      r.ratelimit.parameters.capacity < 2 ^ 64 := by
    rw [hR, hA, hC, hI', show T + spec.fillInterval - (start + spec.fillInterval) = T - start by omega,
      Nat.mul_comm]
    exact hamt
  obtain ⟨⟨rl', g⟩, hrun⟩ := Option.isSome_iff_exists.1
    (run_isSome (hI' ▸ hI) (hI' ▸ hfit) hamt' rfl (Nat.le_refl _) (by rw [ha, hC]) hT hc)
  refine ⟨rl', g, hrun, ?_⟩
  have hle := run_available_le hrun hc (by rw [ha, hC])
  rw [(run_ledger hrun hT).1, hC] at hle
  exact hle

theorem tryFrom_run_granted_le_two_calls :
    ∃ r rl' g, RateLimit.tryFrom ⟨10, 10, 10 ^ 9, .tokens⟩ 0 = some (.ok r) ∧
      r.ratelimit.run [(0, .tryWaitN 3), (10 ^ 9, .tryWaitN 10)] = some (rl', g) ∧ g = 13 ∧
      g ≤ (10 : UInt64).toNat + (10 : UInt64).toNat * ((10 ^ 9 - 0) / 10 ^ 9) +
        refunds [(0, .tryWaitN 3), (10 ^ 9, .tryWaitN 10)] := by
  refine ⟨_, ?rl, 13, rfl, ?run, rfl,
    @tryFrom_run_granted_le _ _ ⟨10, 10, 10 ^ 9, .tokens⟩ 0 (10 ^ 9) _ _ rfl ?run (by decide)⟩
  -- the loop of try_wait_n is evaluated through its closed form
  case run =>
    simp only [Ratelimiter.run, Ratelimiter.call, Ratelimiter.tryWaitN, tryWaitLoop_eq]
    rfl

theorem tryFrom_run_safe_two_calls :
    ∃ r, RateLimit.tryFrom ⟨10, 10, 10 ^ 9, .tokens⟩ 0 = some (.ok r) ∧
      ∃ rl' g, r.ratelimit.run [(0, .tryWaitN 3), (10 ^ 9, .tryWaitN 10)] = some (rl', g) ∧
        rl'.available ≤ (10 : UInt64).toNat := by
  refine ⟨_, rfl, @tryFrom_run_safe ⟨10, 10, 10 ^ 9, .tokens⟩ 0 (10 ^ 9) _ _ rfl ?_ ?_ ?_ ?_ ?_⟩ <;> decide

/-- Outside those conditions the bucket breaks. An LLM request counted at 10 input tokens that
used 1 refunds 9 tokens on top of a full bucket, so the level exceeds `max_tokens`, and the next due
refill subtracts the level from the capacity and underflows. A zero `fill_interval` passes the
builder and the first refill divides by zero. A refill amount of `2 ^ 63` per nanosecond overflows
`intervals * refill_amount` two nanoseconds after the build. -/
theorem localRateLimit_overfills_and_panics :
    (∃ r₀ r₁ r₂ r₃,
      RateLimit.tryFrom { maxTokens := 10, tokensPerFill := 10, fillInterval := 10 ^ 9, limitType := .tokens } 0 =
        some (.ok r₀) ∧
      r₀.checkLlmRequest (some 10) 0 = some (r₁, .ok ()) ∧
      r₁.checkLlmRequest (some 1) (10 ^ 9) = some (r₂, .ok ()) ∧
      Llm.amendTokens [r₂] (some 10) (some 1) (some 0) = some [r₃] ∧
      r₃.ratelimit.maxTokens < r₃.ratelimit.available ∧
      r₃.checkLlmRequest (some 1) (2 * 10 ^ 9) = none) ∧
    (∃ r, RateLimit.tryFrom { maxTokens := 1, tokensPerFill := 1, fillInterval := 0, limitType := .requests } 0 =
        some (.ok r) ∧ r.checkRequest 0 = none) ∧
    (∃ r, RateLimit.tryFrom
        { maxTokens := 9223372036854775808, tokensPerFill := 9223372036854775808, fillInterval := 1
          limitType := .requests } 0 = some (.ok r) ∧ r.checkRequest 2 = none) := by
  refine ⟨⟨_, ?r₁, ?r₂, ?r₃, rfl, ?take, ?refill, ?refund, ?overfull, ?underflow⟩, ⟨_, rfl, ?zero⟩, ⟨_, rfl, ?overflow⟩⟩
  -- the loop of try_wait_n is evaluated through its closed form
  case take =>
    simp only [RateLimit.checkLlmRequest, Ratelimiter.tryWaitN, tryWaitLoop_eq]
    rfl
  case refill =>
    simp only [RateLimit.checkLlmRequest, Ratelimiter.tryWaitN, tryWaitLoop_eq]
    rfl
  case refund => rfl
  case overfull => decide
  case underflow =>
    simp only [RateLimit.checkLlmRequest, Ratelimiter.tryWaitN, tryWaitLoop_eq]
    rfl
  case zero =>
    simp only [RateLimit.checkRequest, Ratelimiter.tryWait, Ratelimiter.tryWaitN, tryWaitLoop_eq]
    rfl
  case overflow =>
    simp only [RateLimit.checkRequest, Ratelimiter.tryWait, Ratelimiter.tryWaitN, tryWaitLoop_eq]
    rfl

end AgentGateway.LocalRateLimit
