import AgentGateway.Library.Checked
import AgentGateway.Library.StdTime

/-! Outlier detection: announced back-off (`http/outlierdetection.rs`), the eviction decision
(`http/health.rs`) and `finish_request`; times are nanoseconds. -/

namespace AgentGateway.Health

open Library.StdTime
open Library.Checked (checkedAdd saturatingAdd wrappingAdd checkedAdd_of_lt)

abbrev HeaderMap := List (String × String)

def HeaderMap.get (h : HeaderMap) (name : String) : Option String := (h.find? fun e => e.1 == name).map (·.2)

def parseU64 (s : String) : Option Nat :=
  let digits := match s.toList with
    | '+' :: rest => rest
    | cs => cs
  if digits ≠ [] ∧ digits.all Char.isDigit = true then
    let n := digits.foldl (fun n c => 10 * n + (c.toNat - '0'.toNat)) 0
    if n < 2 ^ 64 then some n else none
  else none

structure HeaderParsers where
  httpDate : String → Option Nat
  duration : String → Option Nat

def getHeaderAs (h : HeaderMap) (name : String) : Option Nat := (h.get name).bind parseU64

def retryAfterHeader (p : HeaderParsers) (h : HeaderMap) (now : Nat) : Option Nat :=
  (h.get "retry-after").bind fun retryAfter =>
    match parseU64 retryAfter with
    | some seconds => some (fromSecs seconds)
    | none => (p.httpDate retryAfter).bind fun httpDate => durationSince httpDate now

def retryAfterMs (h : HeaderMap) : Option Nat := (getHeaderAs h "retry-after-ms").map fromMillis

/-- `x-ratelimit-reset`: seconds when below 30 days, else a unix timestamp added to the epoch,
which is where a huge value panics. The inner `none` falls through to the next header. -/
def xRatelimitReset (h : HeaderMap) (now : Nat) : Option (Option Nat) :=
  match getHeaderAs h "x-ratelimit-reset" with
  | none => some none
  | some retryAfter =>
    if retryAfter < 30 * (60 * 60 * 24) then some (some (fromSecs retryAfter))
    else (addDuration 0 (fromSecs retryAfter)).map fun rt => durationSince rt now

def smallestReset (p : HeaderParsers) (h : HeaderMap) : Option Nat :=
  (["x-ratelimit-reset-requests", "x-ratelimit-reset-tokens", "x-ratelimit-reset-requests-day",
    "x-ratelimit-reset-tokens-minute"].filterMap fun hn =>
    (h.get hn).bind fun v =>
      match p.duration v with
      | some d => some d
      | none =>
        -- a bare number is read as seconds
        if v.toList.getLast?.any Char.isDigit then p.duration (v ++ "s") else none).min?

def processRateLimitHeaders (p : HeaderParsers) (h : HeaderMap) (now : Nat) : Option (Option Nat) :=
  match retryAfterHeader p h now with
  | some d => some (some d)
  | none =>
    match retryAfterMs h with
    | some d => some (some d)
    | none => (xRatelimitReset h now).map fun reset => reset.or (smallestReset p h)

def retryAfter (p : HeaderParsers) (status : Nat) (h : HeaderMap) (now : Nat) : Option (Option Nat) :=
  if status = 429 then processRateLimitHeaders p h now else some none

structure Eviction (F : Type) where
  duration : Option Nat
  restoreHealth : Option F
  consecutiveFailures : Option Int
  healthThreshold : Option F

structure Policy (F : Type) where
  eviction : Option (Eviction F)

def Eviction.default {F : Type} : Eviction F :=
  { duration := none, restoreHealth := none, consecutiveFailures := none, healthThreshold := none }

def defaultEvictionSecs : Nat := 3

variable {F : Type} [LT F] [DecidableLT F]

def Policy.evictionDuration (self : Policy F) : Option Nat := self.eviction.bind (·.duration)

def Policy.baseDuration (self : Policy F) (fallbackDuration : Option Nat) : Option Nat :=
  (self.evictionDuration.or fallbackDuration).or
    (if self.eviction.isSome then some (fromSecs defaultEvictionSecs) else none)

/-- Whether an unhealthy response counts toward eviction: the health is below the threshold or the
failures reach the configured count, and always when neither is configured. -/
def belowThreshold (ev : Option (Eviction F)) (currentHealth : F) (failuresIncludingCurrent : Nat) : Bool :=
  let healthThreshold := ev.bind (·.healthThreshold)
  let consecutiveFailures := ev.bind (·.consecutiveFailures)
  let healthBelow := healthThreshold.any fun t => decide (currentHealth < t)
  let consecutiveExceeded := consecutiveFailures.any fun count =>
    decide (0 < count) && decide (count.toNat ≤ failuresIncludingCurrent)
  if healthThreshold.isSome || consecutiveFailures.isSome then healthBelow || consecutiveExceeded else true

/-- `Policy::eviction_decision`: whether the request was healthy, how long to evict, and the health
to restore. The failure count is a `u64` incremented with a plain `+`. -/
def Policy.evictionDecision (self : Policy F) (currentHealth : F) (consecutiveFailureCount timesEjected : Nat)
    (unhealthy : Bool) (fallbackDuration : Option Nat) : Option (Bool × Option Nat × Option F) := do
  let health := !unhealthy
  let ev := self.eviction
  let evictionDuration ← if unhealthy then do
      let failuresIncludingCurrent ← checkedAdd 64 consecutiveFailureCount 1
      if belowThreshold ev currentHealth failuresIncludingCurrent then
        -- the u64 multiplier is cast to u32 before the saturating multiplication
        let multiplier := saturatingAdd 64 timesEjected 1
        pure ((self.baseDuration fallbackDuration).map fun d => saturatingMul d (multiplier % 2 ^ 32))
      else pure none
    else pure none
  pure (health, evictionDuration, ev.bind (·.restoreHealth))

def DropOnLog.evictionDecision (healthPolicy : Option (Policy F)) (retryBackoff retryAfter : Option Nat)
    (currentHealth : F) (consecutiveFailureCount timesEjected : Nat) (unhealthy : Bool) :
    Option (Bool × Option Nat × Option F) :=
  match healthPolicy with
  | none => some (!unhealthy, none, none)
  | some policy =>
    let fallbackDuration := retryAfter.or retryBackoff
    policy.evictionDecision currentHealth consecutiveFailureCount timesEjected unhealthy fallbackDuration

structure EndpointInfo where
  consecutiveFailures : Nat
  timesEjected : Nat
  evictedUntil : Option Nat
  deriving DecidableEq, Repr

structure EvictionEvent (K F : Type) where
  key : K
  «until» : Nat
  restoreHealth : Option F

/-- `ActiveHandle::finish_request`: the updated endpoint state and the `Evict` event it sends, if
this request starts a new eviction window. -/
def ActiveHandle.finishRequest {K : Type} (key : K) (info : EndpointInfo) (success : Bool)
    (evictionTime : Option Nat) (restoreHealth : Option F) (now : Nat) :
    Option (EndpointInfo × Option (EvictionEvent K F)) :=
  let info := if success then { info with consecutiveFailures := 0, timesEjected := 0 }
    else { info with consecutiveFailures := wrappingAdd 64 info.consecutiveFailures 1 }
  match evictionTime with
  | none => some (info, none)
  | some evictionTime => do
    let time ← addDuration now evictionTime
    if info.evictedUntil = none then
      pure ({ info with evictedUntil := some time, timesEjected := wrappingAdd 64 info.timesEjected 1 },
        some { key, «until» := time, restoreHealth })
    else pure (info, none)

def finishRequestHandle {K : Type} (healthPolicy : Option (Policy F)) (retryBackoff retryAfter : Option Nat)
    (unhealthy : Bool) (healthScore : F) (key : K) (info : EndpointInfo) (now : Nat) :
    Option (EndpointInfo × Option (EvictionEvent K F)) := do
  let (health, evictionDuration, restoreHealth) ← DropOnLog.evictionDecision healthPolicy retryBackoff retryAfter
    healthScore info.consecutiveFailures info.timesEjected unhealthy
  ActiveHandle.finishRequest key info health evictionDuration restoreHealth now

variable {K : Type} {key : K} {info : EndpointInfo} {now d : Nat}

omit [LT F] [DecidableLT F] in
lemma finishRequest_of_le {success : Bool} {restoreHealth : Option F} (h : timeBound ≤ now + d) :
    ActiveHandle.finishRequest key info success (some d) restoreHealth now = none := by
  simp [ActiveHandle.finishRequest, addDuration_of_le h]

lemma processRateLimitHeaders_of_retryAfter {p : HeaderParsers} {h : HeaderMap} {v : String} {secs : Nat}
    (hv : h.get "retry-after" = some v) (hs : parseU64 v = some secs) :
    processRateLimitHeaders p h now = some (some (fromSecs secs)) := by
  simp [processRateLimitHeaders, retryAfterHeader, hv, hs]

lemma processRateLimitHeaders_reset_overflow {p : HeaderParsers} {h : HeaderMap} {r : Nat}
    (hra : h.get "retry-after" = none) (hms : h.get "retry-after-ms" = none)
    (hr : getHeaderAs h "x-ratelimit-reset" = some r) (hbig : 2 ^ 63 ≤ r) :
    processRateLimitHeaders p h now = none := by
  have hover : timeBound ≤ 0 + fromSecs r := by
    simp only [timeBound, fromSecs, Nat.zero_add]
    exact Nat.mul_le_mul_right _ hbig
  have hms' : getHeaderAs h "retry-after-ms" = none := by simp [getHeaderAs, hms]
  have hlong : ¬ r < 30 * (60 * 60 * 24) := by omega
  simp only [processRateLimitHeaders, retryAfterHeader, hra, Option.bind_none, retryAfterMs, hms',
    Option.map_none, xRatelimitReset, hr, if_neg hlong, addDuration_of_le hover]

lemma evictionDecision_default (currentHealth : F) (cf te : Nat) (fallback : Option Nat) :
    (Policy.mk (some Eviction.default)).evictionDecision currentHealth cf te true fallback =
      (checkedAdd 64 cf 1).map fun _ =>
        (false, some (saturatingMul (fallback.getD (fromSecs 3)) (saturatingAdd 64 te 1 % 2 ^ 32)), none) := by
  cases hc : checkedAdd 64 cf 1 <;> cases fallback <;>
    simp [Policy.evictionDecision, hc, belowThreshold, Policy.baseDuration, Policy.evictionDuration,
      Eviction.default, defaultEvictionSecs]

/-- Upstream back-off values and endpoint counters break the eviction path. On a 429 with
`x-ratelimit-reset: 2^63`, adding that many seconds to the unix epoch overflows the `SystemTime`.
On a 429 with `Retry-After: u64::MAX` and the default eviction settings, the eviction window
`Instant::now() + duration` overflows at every clock reading. At `2^32 - 1` ejections the multiplier
`2^32` is cast to the `u32` zero, so the eviction lasts no time at all, after `(2^32 - 1) * 3s` at
one ejection fewer. At `u64::MAX` consecutive failures the count plus one overflows. -/
theorem backoff_overflows_and_truncates (p : HeaderParsers) (now : Nat) (score : F) (key : K) :
    retryAfter p 429 [("x-ratelimit-reset", "9223372036854775808")] now = none ∧
    (∃ d, retryAfter p 429 [("retry-after", "18446744073709551615")] now = some (some d) ∧
      finishRequestHandle (some ⟨some Eviction.default⟩) none (some d) true score key ⟨0, 0, none⟩ now = none) ∧
    (Policy.mk (some Eviction.default)).evictionDecision score 0 (2 ^ 32 - 2) true none =
      some (false, some (fromSecs 3 * (2 ^ 32 - 1)), none) ∧
    (Policy.mk (some Eviction.default)).evictionDecision score 0 (2 ^ 32 - 1) true none =
      some (false, some 0, none) ∧
    (Policy.mk (some Eviction.default)).evictionDecision score (2 ^ 64 - 1) 0 true none = none := by
  refine ⟨?reset, ⟨fromSecs (2 ^ 64 - 1), ?retry, ?window⟩, ?wrapBefore, ?wrap, ?failures⟩
  case reset =>
    rw [retryAfter, if_pos rfl]
    exact processRateLimitHeaders_reset_overflow (r := 2 ^ 63) (by decide) (by decide) (by decide) (Nat.le_refl _)
  case retry =>
    rw [retryAfter, if_pos rfl]
    exact processRateLimitHeaders_of_retryAfter (v := "18446744073709551615") (by decide) (by decide)
  case window =>
    have hdec : DropOnLog.evictionDecision (some ⟨some Eviction.default⟩) none (some (fromSecs (2 ^ 64 - 1)))
        score 0 0 true = some (false, some (fromSecs (2 ^ 64 - 1)), none) := by
      rw [DropOnLog.evictionDecision, evictionDecision_default, checkedAdd_of_lt (by decide)]
      simp only [Option.map_some, Option.some.injEq, Prod.mk.injEq, true_and, and_true]
      decide
    -- the panic is in finish_request, whatever the reading
    unfold finishRequestHandle
    dsimp only
    rw [hdec, Option.bind_eq_bind, Option.bind_some]
    exact finishRequest_of_le (by simp only [fromSecs, timeBound]; omega)
  case wrapBefore =>
    rw [evictionDecision_default, checkedAdd_of_lt (by decide)]
    simp only [Option.getD_none, Option.map_some, Option.some.injEq, Prod.mk.injEq, true_and, and_true]
    decide
  case wrap =>
    rw [evictionDecision_default, checkedAdd_of_lt (by decide)]
    simp only [Option.getD_none, Option.map_some, Option.some.injEq, Prod.mk.injEq, true_and, and_true]
    decide
  case failures =>
    rw [evictionDecision_default]
    rfl

end AgentGateway.Health
